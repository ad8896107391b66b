import Console.Shell.Number

/-!
# Permissions and times of files

Who may read, write and run a file: three digits in base eight for its owner, its group and all
others, and one in front for special permissions.  Changes are written as such a number, or with
letters for those whose permissions are meant, a sign, and letters for permissions.

Times of files are milliseconds since the beginning of the year 1970.  They are read from digits,
and from a few ways to write a date.
-/

namespace Console.Shell

/-! ## Permissions -/

namespace Permissions

/-- All permissions. -/
def all : Nat := 0o7777

/-- The permissions without others. -/
def without (mode others : Nat) : Nat := mode &&& (all ^^^ (others &&& all))

/-- The permissions that letters for people belong to. -/
def ofPeople (people : Octets) : Nat :=
  let parts : List (Char × Nat) :=
    [('u', 0o4700), ('g', 0o2070), ('o', 0o1007), ('a', all)]
  people.foldl (fun mode c => mode ||| (parts.lookup c).getD 0) 0

/-- Permissions of one kind of people, for all of them. -/
def spread (mode : Nat) : Nat :=
  let digit := mode / 64 ||| mode / 8 ||| mode
  (digit &&& 7) * 0o111

/-- The permissions that the letters after a sign mean, given those there are: letters for
permissions, or one for the people whose permissions are taken; with what follows. -/
def ofLetters (now : Nat) (isDirectory : Bool) (letters : Octets) : Nat × Octets :=
  match letters with
  | 'u' :: rest => (spread (now &&& 0o700), rest)
  | 'g' :: rest => (spread (now &&& 0o070), rest)
  | 'o' :: rest => (spread (now &&& 0o007), rest)
  | letters =>
      let bits : List (Char × Nat) :=
        [('r', 0o444), ('w', 0o222), ('x', 0o111), ('s', 0o6000), ('t', 0o1000),
         ('X', if isDirectory || now &&& 0o111 != 0 then 0o111 else 0)]
      let known := letters.takeWhile fun c => (bits.lookup c).isSome
      (known.foldl (fun mode c => mode ||| (bits.lookup c).getD 0) 0, letters.drop known.length)

/-- Whether a character is a sign in front of permissions. -/
def isSign (c : Char) : Bool := c = '+' || c = '-' || c = '='

/-- The permissions after changes that are written with letters; none if they mean nothing.  The
number bounds the signs, and `people` stands for those that were named last. -/
def written (mask : Nat) (isDirectory : Bool) :
    Nat → (people : Option Octets) → Octets → (now : Nat) → Option Nat
  | 0, _, _, _ => none
  | bound + 1, people, text, now =>
      let named := text.takeWhile fun c => "ugoa".toList.contains c
      let rest := if people.isSome then text else text.drop named.length
      let people := people.getD named
      match rest with
      | [] => none
      | sign :: letters =>
          if !isSign sign then none
          else
            let meant := if people.isEmpty then without all mask else ofPeople people
            let (value, rest) := ofLetters now isDirectory letters
            let value := value &&& meant
            let kept := if people.isEmpty then 0 else without now meant
            let now :=
              if sign = '+' then now ||| value
              else if sign = '-' then without now value
              else kept ||| value
            match rest with
            | [] => some now
            | ',' :: rest => written mask isDirectory bound none rest now
            | rest => written mask isDirectory bound (some people) rest now

/-- The permissions after changes; none if they mean nothing.  Where nobody is named, the mask says
what stays as it is. -/
def changed? (mask : Nat) (isDirectory : Bool) (text : Octets) (now : Nat) : Option Nat :=
  let (value, count, rest) := digitsOf 8 text
  if 0 < count then if rest.isEmpty && value ≤ all then some value else none
  else written mask isDirectory (text.length + 1) none text now

/-- The digits of permissions. -/
def digits (mode : Nat) : Octets := Nat.toDigits 8 mode

/-- The permissions as letters. -/
def letters (mode : Nat) : Octets :=
  let has (bit : Nat) : Bool := mode &&& bit != 0
  let last (bit special : Nat) (both alone : Char) : Char :=
    if has special then if has bit then both else alone else if has bit then 'x' else '-'
  let two (read write : Nat) : Octets :=
    [if has read then 'r' else '-', if has write then 'w' else '-']
  two 0o400 0o200 ++ [last 0o100 0o4000 's' 'S'] ++ two 0o040 0o020 ++
    [last 0o010 0o2000 's' 'S'] ++ two 0o004 0o002 ++ [last 0o001 0o1000 't' 'T']

end Permissions

/-! ## Times -/

namespace Times

/-- A day and a time of it. -/
structure Moment where
  year : Int
  month : Nat
  day : Nat
  hour : Nat := 0
  minute : Nat := 0
  second : Nat := 0
  deriving DecidableEq, Repr

/-- The number of days from the beginning of 1970 to a day.  Years are counted from March on, so
that a leap day is the last day of its year. -/
def daysTo (year : Int) (month day : Nat) : Int :=
  let year := if month ≤ 2 then year - 1 else year
  let era := year.fdiv 400
  let yearOfEra := year - era * 400
  let monthFromMarch : Int := (month + 9) % 12
  let dayOfYear := (153 * monthFromMarch + 2) / 5 + day - 1
  era * 146097 + yearOfEra * 365 + yearOfEra / 4 - yearOfEra / 100 + dayOfYear - 719468

/-- The year, the month and the day that is so many days after the beginning of 1970. -/
def dayAfter (days : Int) : Int × Nat × Nat :=
  let days := days + 719468
  let era := days.fdiv 146097
  let dayOfEra := days - era * 146097
  let yearOfEra :=
    (dayOfEra - dayOfEra / 1460 + dayOfEra / 36524 - dayOfEra / 146096) / 365
  let dayOfYear := dayOfEra - (365 * yearOfEra + yearOfEra / 4 - yearOfEra / 100)
  let monthFromMarch := (5 * dayOfYear + 2) / 153
  let day := (dayOfYear - (153 * monthFromMarch + 2) / 5 + 1).toNat
  let month := ((monthFromMarch + 2) % 12 + 1).toNat
  (yearOfEra + era * 400 + (if month ≤ 2 then 1 else 0), month, day)

/-- The moment of a time. -/
def momentOf (time : Int) : Moment :=
  let seconds := time.fdiv 1000
  let (year, month, day) := dayAfter (seconds.fdiv 86400)
  let rest := (seconds.fmod 86400).toNat
  { year, month, day, hour := rest / 3600, minute := rest / 60 % 60, second := rest % 60 }

/-- The time of a moment; none if there is no such moment. -/
def ofMoment? (moment : Moment) : Option Int :=
  let days := daysTo moment.year moment.month moment.day
  let isDay : Bool :=
    1 ≤ moment.month && moment.month ≤ 12 &&
      dayAfter days == (moment.year, moment.month, moment.day)
  if !isDay || 23 < moment.hour || 59 < moment.minute || 60 < moment.second then none
  else
    let seconds := moment.hour * 3600 + moment.minute * 60 + moment.second
    some ((days * 86400 + seconds) * 1000)

/-- The number that two digits are. -/
def pair (digits : Octets) : Nat := (digitsOf 10 (digits.take 2)).1

/-- The time that digits mean: the month, the day, the hour and the minute, with the year in front
and the second after a point if they are given.  `now` tells the year otherwise. -/
def ofStamp? (now : Int) (text : Octets) : Option Int :=
  let digits := text.takeWhile (· != '.')
  let rest := text.drop digits.length
  let second? : Option Nat :=
    match rest with
    | [] => some 0
    | _ :: more => if more.length = 2 && more.all Char.isDigit then some (pair more) else none
  let front := digits.take (digits.length - 8)
  let year? : Option Int :=
    if digits.length = 8 then some (momentOf now).year
    else if digits.length = 10 then
      some (if pair front < 69 then 2000 + pair front else 1900 + pair front)
    else if digits.length = 12 then some (digitsOf 10 front).1
    else none
  if !digits.all Char.isDigit then none
  else
    match year?, second? with
    | some year, some second =>
        let rest := digits.drop front.length
        ofMoment?
          { year, month := pair rest, day := pair (rest.drop 2), hour := pair (rest.drop 4),
            minute := pair (rest.drop 6), second }
    | _, _ => none

/-- The names of months in short. -/
def months : List String :=
  ["Jan", "Feb", "Mar", "Apr", "May", "Jun", "Jul", "Aug", "Sep", "Oct", "Nov", "Dec"]

/-- The names of the days of a week in short, from the one on which 1970 began. -/
def weekdays : List String := ["Thu", "Fri", "Sat", "Sun", "Mon", "Tue", "Wed"]

/-- The numbers that a text has between separators; none if there is anything else. -/
def numbersIn? (isSeparator : Char → Bool) (text : Octets) : Option (List Nat) :=
  (Octets.splitAt isSeparator text).mapM fun part =>
    if part.isEmpty || !part.all Char.isDigit then none else some (digitsOf 10 part).1

/-- The length of a unit of time in seconds. -/
def unitOf? (word : Octets) : Option Int :=
  let names : List (String × Int) :=
    [("sec", 1), ("second", 1), ("min", 60), ("minute", 60), ("hour", 3600), ("day", 86400),
     ("week", 604800), ("fortnight", 1209600)]
  let text := String.ofList (word.map Char.toLower)
  match names.lookup text with
  | some unit => some unit
  | none => if text.endsWith "s" then names.lookup (text.dropEnd 1).toString else none

/-- The time that a date means, as people write it. -/
def ofDate? (now : Int) (text : Octets) : Option Int :=
  let words := (Octets.splitAt isNumberBlank text).filter (!·.isEmpty)
  let words := words.flatMap fun word =>
    -- a date and a time may be joined by a letter
    match Octets.splitAt (· == 'T') word with
    | [date, time] =>
        if date.length = 10 then [date, if time.getLast? = some 'Z' then time.dropLast else time]
        else [word]
    | _ => [word]
  let midnight := now - now.fmod 86400000
  let on (date clock : Octets) : Option Int :=
    match numbersIn? (fun c => c = '-' || c = '/') date, numbersIn? (· == ':') clock with
    | some [year, month, day], some (hour :: minute :: more) =>
        if 1 < more.length then none
        else
          ofMoment? { year := year, month, day, hour, minute, second := more.head?.getD 0 }
    | _, _ => none
  match words with
  | [] => some midnight
  | [word] =>
      match String.ofList word, word with
      | "now", _ | "today", _ => some now
      | "yesterday", _ => some (now - 86400000)
      | "tomorrow", _ => some (now + 86400000)
      | _, '@' :: number =>
          match integerFront? false number with
          | some front => if front.rest.isEmpty then some (front.exact * 1000) else none
          | none => none
      | _, date => on date "00:00".toList
  | [first, second] =>
      match on first second, unitOf? second, integerFront? false first with
      | some time, _, _ => some time
      | none, some unit, some front =>
          if front.rest.isEmpty then some (now + front.exact * unit * 1000) else none
      | none, _, _ => none
  | [first, second, third] =>
      match String.ofList third, unitOf? second, integerFront? false first with
      | "ago", some unit, some front =>
          if front.rest.isEmpty then some (now - front.exact * unit * 1000) else none
      | _, _, _ =>
          let isMonth (name : String) (word : Octets) : Bool :=
            name.toList.map Char.toLower == (word.take 3).map Char.toLower
          let monthOf (word : Octets) : Nat := months.findIdx (isMonth · word) + 1
          let day? (word : Octets) : Option Nat :=
            match numbersIn? (fun _ => false) (word.filter (· != ',')) with
            | some [day] => some day
            | _ => none
          match day? first, day? second, day? third with
          | none, some day, some year =>
              if monthOf first ≤ 12 then ofMoment? { year := year, month := monthOf first, day }
              else none
          | some day, none, some year =>
              if monthOf second ≤ 12 then ofMoment? { year := year, month := monthOf second, day }
              else none
          | _, _, _ => none
  | _ => none

/-- A number with zeros or blanks in front. -/
def column (fill : Char) (width n : Nat) : Octets :=
  let digits := countOctets n
  List.replicate (width - digits.length) fill ++ digits

/-- What a letter after a percent sign in a format stands for. -/
def fieldOf (time : Int) (letter : Char) : Octets :=
  let moment := momentOf time
  let two := column '0' 2
  let year := integerOctets (.ofInt moment.year)
  let days := (time.fdiv 1000).fdiv 86400
  let weekday := (weekdays[(days.fmod 7).toNat]?).getD ""
  let month := (months[moment.month - 1]?).getD ""
  let date := year ++ '-' :: two moment.month ++ '-' :: two moment.day
  let clock := two moment.hour ++ ':' :: two moment.minute ++ ':' :: two moment.second
  match letter with
  | 'Y' => year
  | 'y' => two (moment.year.fmod 100).toNat
  | 'C' => two (moment.year.fdiv 100).toNat
  | 'm' => two moment.month
  | 'd' => two moment.day
  | 'e' => column ' ' 2 moment.day
  | 'H' => two moment.hour
  | 'I' => two ((moment.hour + 11) % 12 + 1)
  | 'M' => two moment.minute
  | 'S' => two moment.second
  | 'N' => column '0' 9 ((time.fmod 1000).toNat * 1000000)
  | 's' => integerOctets (.ofInt (time.fdiv 1000))
  | 'F' => date
  | 'T' => clock
  | 'R' => clock.take 5
  | 'D' => two moment.month ++ '/' :: two moment.day ++ '/' :: two (moment.year.fmod 100).toNat
  | 'a' => weekday.toList
  | 'b' | 'h' => month.toList
  | 'j' => column '0' 3 ((days - daysTo moment.year 1 1 + 1).toNat)
  | 'u' => countOctets (((days + 3).fmod 7).toNat + 1)
  | 'w' => countOctets ((days + 4).fmod 7).toNat
  | 'p' => (if moment.hour < 12 then "AM" else "PM").toList
  | 'Z' => "UTC".toList
  | 'z' => "+0000".toList
  | 'n' => ['\n']
  | 't' => ['\t']
  | '%' => ['%']
  | letter => ['%', letter]

/-- A time in a format. -/
def formatted (time : Int) : Octets → Octets
  | [] => []
  | '%' :: letter :: rest => fieldOf time letter ++ formatted time rest
  | c :: rest => c :: formatted time rest

end Times

end Console.Shell
