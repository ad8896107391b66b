import Console.Toml.Value

/-!
# TOML numbers, dates and times

These values are written without quotes, so that they end where a separator begins.  What stands up
to there has to be a number, a date or a time as a whole.
-/

namespace Console.Toml

/-- Digits of a base. -/
def isDigitOf (base : Nat) (c : Char) : Bool :=
  let value :=
    if Text.isDigit c then some (Text.digitValue c)
    else if 'a' ≤ c && c ≤ 'f' then some (c.toNat - 'a'.toNat + 10)
    else if 'A' ≤ c && c ≤ 'F' then some (c.toNat - 'A'.toNat + 10)
    else none
  value.any (· < base)

/-- The value of a digit of a base up to 16. -/
def valueOfDigit (c : Char) : Nat :=
  if Text.isDigit c then Text.digitValue c
  else if 'a' ≤ c && c ≤ 'f' then c.toNat - 'a'.toNat + 10
  else c.toNat - 'A'.toNat + 10

/-- The number that digits of a base write. -/
def numberOf (base : Nat) (digits : List Char) : Nat :=
  digits.foldl (fun number c => number * base + valueOfDigit c) 0

/-- The digits without the underscores between them; an underscore has a digit on either side. -/
def digits? (base : Nat) : List Char → Option (List Char)
  | [] => none
  | [c] => if isDigitOf base c then some [c] else none
  | c :: d :: rest =>
      if !isDigitOf base c then none
      else if d = '_' then (digits? base rest).map (c :: ·)
      else (digits? base (d :: rest)).map (c :: ·)

/-- The digits of a decimal number, which starts with zero only if that is all of it. -/
def decimal? (text : List Char) : Option (List Char) :=
  match digits? 10 text with
  | some ('0' :: _ :: _) => none
  | found => found

/-- A sign and what follows it: whether the sign is a minus. -/
def splitSign : List Char → Bool × List Char
  | '+' :: rest => (false, rest)
  | '-' :: rest => (true, rest)
  | text => (false, text)

/-- An integer within 64 bits. -/
def integer? (isNegative : Bool) (magnitude : Nat) : Option Value :=
  if isNegative then
    if magnitude ≤ Text.largestInteger + 1 then some (.integer (.ofInt (-magnitude))) else none
  else if magnitude ≤ Text.largestInteger then some (.integer (.ofInt magnitude))
  else none

/-- Whether `mantissa · 10 ^ exponent` is rounded to infinity as a double. -/
def isInfinite (mantissa : Nat) (exponent : Int) : Bool :=
  let digits := (Nat.toDigits 10 mantissa).length
  if mantissa = 0 then false
  else if exponent + digits > 310 then true
  else if exponent + digits < 300 then false
  else
    let bound := Nat.pow 2 1024 - Nat.pow 2 970
    if exponent < 0 then bound * Nat.pow 10 exponent.natAbs ≤ mantissa
    else bound ≤ mantissa * Nat.pow 10 exponent.natAbs

/-- An exponent after its letter. -/
def exponent? (text : List Char) : Option Int :=
  let (isNegative, digits) := splitSign text
  (digits? 10 digits).map fun digits =>
    if isNegative then -(numberOf 10 digits : Int) else numberOf 10 digits

/-- The digits of a fraction, and the exponent, after the integral part of a number. -/
def fractionAndExponent? : List Char → Option (List Char × Int)
  | '.' :: rest =>
      let isExponent := fun c => c = 'e' || c = 'E'
      match digits? 10 (rest.takeWhile (!isExponent ·)), rest.dropWhile (!isExponent ·) with
      | some fraction, [] => some (fraction, 0)
      | some fraction, _ :: exponent =>
          (exponent? exponent).map fun exponent => (fraction, exponent)
      | none, _ => none
  | c :: rest =>
      if c = 'e' || c = 'E' then (exponent? rest).map fun exponent => ([], exponent) else none
  | [] => none

/-- A number with a fraction or an exponent; only a negative one may be infinite. -/
def float? (text : List Char) : Option Value :=
  let (isNegative, rest) := splitSign text
  if rest = "inf".toList || rest = "nan".toList then some (.float (.ofList text))
  else
    let isIntegral := fun c => Text.isDigit c || c = '_'
    match decimal? (rest.takeWhile isIntegral),
        fractionAndExponent? (rest.dropWhile isIntegral) with
    | some digits, some (fraction, exponent) =>
        let mantissa := numberOf 10 (digits ++ fraction)
        if !isNegative && isInfinite mantissa (exponent - fraction.length) then none
        else some (.float (.ofList text))
    | _, _ => none

/-- The number that a text is. -/
def number? (text : List Char) : Option Value :=
  let prefixed (base : Nat) (digits : List Char) : Option Value :=
    (digits? base digits).bind fun digits => integer? false (numberOf base digits)
  match text with
  | '0' :: 'x' :: digits => prefixed 16 digits
  | '0' :: 'o' :: digits => prefixed 8 digits
  | '0' :: 'b' :: digits => prefixed 2 digits
  | text =>
      let (isNegative, rest) := splitSign text
      match decimal? rest with
      | some digits => integer? isNegative (numberOf 10 digits)
      | none => float? text

/-! ## Dates and times -/

/-- Whether a year is a leap year. -/
def isLeap (year : Nat) : Bool := year % 4 = 0 && (year % 100 ≠ 0 || year % 400 = 0)

/-- The number of days of a month. -/
def daysIn (year month : Nat) : Nat :=
  if month = 2 then if isLeap year then 29 else 28
  else if month = 4 || month = 6 || month = 9 || month = 11 then 30
  else 31

/-- The number that just so many digits write. -/
def exactly? (count : Nat) (digits : List Char) : Option Nat :=
  if digits.length = count && digits.all Text.isDigit then some (numberOf 10 digits) else none

/-- Whether a text is a date. -/
def isDate (text : List Char) : Bool :=
  match exactly? 4 (text.take 4), exactly? 2 ((text.drop 5).take 2), exactly? 2 (text.drop 8) with
  | some year, some month, some day =>
      text[4]? = some '-' && text[7]? = some '-' && 1 ≤ month && month ≤ 12 && 1 ≤ day &&
        day ≤ daysIn year month
  | _, _, _ => false

/-- Whether a text is an hour and a minute. -/
def isHourAndMinute (text : List Char) : Bool :=
  match exactly? 2 (text.take 2), exactly? 2 (text.drop 3) with
  | some hour, some minute => text[2]? = some ':' && hour < 24 && minute < 60
  | _, _ => false

/-- Whether a text is a time of day, which may have a fraction of a second and a leap second. -/
def isTime (text : List Char) : Bool :=
  isHourAndMinute (text.take 5) && text[5]? = some ':' &&
    (exactly? 2 ((text.drop 6).take 2)).any (· ≤ 60) &&
    match text.drop 8 with
    | [] => true
    | '.' :: fraction => !fraction.isEmpty && fraction.all Text.isDigit
    | _ => false

/-- Whether a text is the distance from universal time. -/
def isOffset : List Char → Bool
  | ['Z'] | ['z'] => true
  | '+' :: rest | '-' :: rest => isHourAndMinute rest
  | _ => false

/-- Whether a text is a time of day, perhaps with its distance from universal time. -/
def isTimeWithOffset (text : List Char) : Bool :=
  let isTimeChar := fun c => Text.isDigit c || c = ':' || c = '.'
  let offset := text.dropWhile isTimeChar
  isTime (text.takeWhile isTimeChar) && (offset.isEmpty || isOffset offset)

/-- Whether a text is a date, perhaps with a time after it. -/
def isDateWithTime (text : List Char) : Bool :=
  isDate (text.take 10) &&
    match text.drop 10 with
    | [] => true
    | c :: time => (c = 'T' || c = 't') && isTimeWithOffset time

/-- The value that is written without quotes. -/
def Value.ofPlain? (text : List Char) : Option Value :=
  if text = "true".toList then some (.boolean true)
  else if text = "false".toList then some (.boolean false)
  else if isDateWithTime text || isTime text then some (.moment (.ofList text))
  else number? text

end Console.Toml
