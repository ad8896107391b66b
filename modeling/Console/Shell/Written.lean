import Console.Shell.Number

/-!
# Texts that commands write

Escapes after a backslash, and formats with directives that take arguments.
-/

namespace Console.Shell

/-- Whether a character is an octal digit. -/
def isOctal (c : Char) : Bool := '0' ≤ c && c ≤ '7'

/-- The character with a number, of which one byte counts. -/
def octet (n : Nat) : Char := Char.ofNat (n % 256)

/-- What a backslash stands for with the characters after it, and those left over. -/
def escapeOf : Octets → Char × Octets
  | [] => ('\\', [])
  | c :: rest =>
      if isOctal c then
        let digits := ((c :: rest).take 3).takeWhile isOctal
        (octet (digitsOf 8 digits).1, (c :: rest).drop digits.length)
      else
        match c with
        | 'a' => ('\x07', rest)
        | 'b' => ('\x08', rest)
        | 'e' => ('\x1b', rest)
        | 'f' => ('\x0c', rest)
        | 'n' => ('\n', rest)
        | 'r' => ('\r', rest)
        | 't' => ('\t', rest)
        | 'v' => ('\x0b', rest)
        | '\\' => ('\\', rest)
        | c => ('\\', c :: rest)

/-- A text with its escapes replaced by what they stand for, and whether it ends before its end;
the number is that of its characters.  Octal digits may have a zero in front. -/
def unescaped : Nat → Octets → Octets × Bool
  | 0, _ | _, [] => ([], false)
  | fuel + 1, c :: rest =>
      if c = '\\' then
        match rest with
        | 'c' :: _ => ([], true)
        | '0' :: d :: more =>
            let (found, after) := escapeOf (if isOctal d then d :: more else rest)
            let (text, isCut) := unescaped fuel after
            (found :: text, isCut)
        | rest =>
            let (found, after) := escapeOf rest
            let (text, isCut) := unescaped fuel after
            (found :: text, isCut)
      else
        let (text, isCut) := unescaped fuel rest
        (c :: text, isCut)

/-- A text with its escapes replaced, and whether nothing is to be written after it. -/
def unescape (text : Octets) : Octets × Bool := unescaped text.length text

/-- What `echo` writes for arguments, each with what comes before it. -/
def echoWords (isLineKept : Bool) : List Octets → Octets
  | [] => if isLineKept then ['\n'] else []
  | argument :: rest =>
      match unescape argument with
      | (text, true) => text
      | (text, false) =>
          if rest.isEmpty then text ++ echoWords isLineKept rest
          else text ++ ' ' :: echoWords isLineKept rest

/-- What `echo` writes. -/
def echoText : List Octets → Octets
  | ['-', 'n'] :: arguments => echoWords false arguments
  | arguments => echoWords true arguments

/-! ## Formats -/

/-- The flags, the width and the precision of a directive. -/
structure Layout where
  flags : Octets := []
  width : Nat := 0
  precision : Option Nat := none
  deriving DecidableEq, Repr

namespace Layout

/-- Whether a flag is given. -/
def has (layout : Layout) (flag : Char) : Bool := layout.flags.contains flag

/-- A text in its column. -/
def padded (layout : Layout) (text : Octets) : Octets :=
  let padding := List.replicate (layout.width - text.length) ' '
  if layout.has '-' then text ++ padding else padding ++ text

/-- A text of which no more is written than the precision allows. -/
def text (layout : Layout) (text : Octets) : Octets :=
  layout.padded (match layout.precision with | some most => text.take most | none => text)

/-- A number with what stands in front of its digits, filled up with zeros as wanted. -/
def number (layout : Layout) (sign digits : Octets) : Octets :=
  let digits :=
    match layout.precision with
    | some 0 => if digits = ['0'] then [] else digits
    | some least => List.replicate (least - digits.length) '0' ++ digits
    | none => digits
  if layout.has '0' && !layout.has '-' && layout.precision.isNone then
    sign ++ List.replicate (layout.width - sign.length - digits.length) '0' ++ digits
  else layout.padded (sign ++ digits)

/-- A number with its sign. -/
def signed (layout : Layout) (value : Int64) : Octets :=
  let sign : Octets :=
    if value < 0 then ['-']
    else if layout.has '+' then ['+']
    else if layout.has ' ' then [' ']
    else []
  layout.number sign (countOctets value.toInt.natAbs)

/-- A number with a fraction, in a form that a letter stands for. -/
def fraction (layout : Layout) (letter : Char) (isNegative : Bool) (magnitude : Magnitude) :
    Octets :=
  let sign : Octets :=
    if isNegative then ['-']
    else if layout.has '+' then ['+']
    else if layout.has ' ' then [' ']
    else []
  let places := layout.precision.getD 6
  let cased (text : Octets) : Octets := if letter.isUpper then text.map Char.toUpper else text
  let free : Layout := { layout with precision := none }
  match magnitude with
  | .infinite => free.padded (sign ++ cased "inf".toList)
  | .noNumber => free.padded (sign ++ cased "nan".toList)
  | .finite x =>
      match letter.toLower with
      | 'f' => free.number sign (Text.Rounded.fixed (layout.has '#') places x)
      | 'e' => free.number sign (cased (Text.Rounded.exponential (layout.has '#') places x))
      | 'a' =>
          free.number (sign ++ cased "0x".toList)
            (cased (Text.Rounded.hexadecimal (layout.has '#') layout.precision x))
      | _ => free.number sign (cased (Text.Rounded.general (layout.has '#') places x))

/-- A number without a sign, in a base that a letter stands for. -/
def unsigned (layout : Layout) (letter : Char) (value : Nat) : Octets :=
  match letter with
  | 'o' =>
      let digits := Nat.toDigits 8 value
      layout.number []
        (if layout.has '#' && digits.head? != some '0' then '0' :: digits else digits)
  | 'x' =>
      layout.number (if layout.has '#' && value != 0 then ['0', 'x'] else [])
        (Nat.toDigits 16 value)
  | 'X' =>
      layout.number (if layout.has '#' && value != 0 then ['0', 'X'] else [])
        ((Nat.toDigits 16 value).map Char.toUpper)
  | _ => layout.number [] (countOctets value)

/-- The width from which on nothing can be written. -/
def limit : Nat := 0x1000000

/-- Whether what is asked for is too wide to be written.  A text may have any precision that is a
number at all. -/
def isTooWide (layout : Layout) (letter : Char) : Bool :=
  let precision := layout.precision.getD 0
  limit ≤ layout.width ||
    (if letter = 's' || letter = 'b' then 0x7FFFFFFF ≤ precision else limit ≤ precision)

end Layout

/-- What a format has written so far, and what it goes on with. -/
structure Formatting where
  /-- What has been written, newest first. -/
  written : Octets := []
  arguments : List Octets
  status : Nat := 0
  complaints : List Octets := []
  /-- Whether nothing is to be written any more. -/
  isCut : Bool := false
  /-- Why the format cannot be gone on with. -/
  refusal : Option Octets := none

namespace Formatting

/-- Writes a text. -/
def write (formatting : Formatting) (text : Octets) : Formatting :=
  { formatting with written := text.reverse ++ formatting.written }

/-- Takes the next argument; there is an empty one if none is left. -/
def next (formatting : Formatting) : Octets × Formatting :=
  (formatting.arguments.head?.getD [],
    { formatting with arguments := formatting.arguments.tail })

/-- Gives up the format. -/
def refuse (formatting : Formatting) (text : Octets) : Formatting :=
  { formatting with isCut := true, refusal := some text }

/-- Complains about an argument. -/
def complain (formatting : Formatting) (argument : Octets) (text : String) : Formatting :=
  { formatting with
    status := 1
    complaints := (argument ++ text.toList) :: formatting.complaints }

/-- Complains about an argument that is read as a number, of which `rest` is left over. -/
def checked (formatting : Formatting) (argument rest : Octets) (isBeyond : Bool) : Formatting :=
  if !rest.isEmpty then formatting.complain argument ": not completely converted"
  else if isBeyond then formatting.complain argument ": Numerical result out of range"
  else formatting

/-- Takes the next argument as a number: a quote in front stands for the number of the character
after it, and what is no number counts as far as it is one. -/
def nextNumber {α : Type} (formatting : Formatting) (ofCharacter : Nat → α)
    (front? : Octets → Option (α × Octets × Bool)) : α × Formatting :=
  match formatting.arguments with
  | [] => (ofCharacter 0, formatting)
  | argument :: rest =>
      let formatting := { formatting with arguments := rest }
      match argument with
      | '"' :: text | '\'' :: text => (ofCharacter ((text.head?.map Char.toNat).getD 0), formatting)
      | argument =>
          match front? argument with
          | some (value, rest, isBeyond) => (value, formatting.checked argument rest isBeyond)
          | none =>
              (ofCharacter 0,
                if argument.isEmpty then formatting
                else formatting.complain argument ": expected numeric value")

/-- Takes the next argument as an integer. -/
def nextInteger (formatting : Formatting) : Int64 × Formatting :=
  formatting.nextNumber .ofNat fun text =>
    (integerFront? true text).map fun front => (front.value, front.rest, front.isBeyond)

/-- Takes the next argument as an integer without a sign. -/
def nextUnsigned (formatting : Formatting) : Nat × Formatting :=
  formatting.nextNumber id fun text =>
    (integerFront? true text).map fun front =>
      (front.unsigned.1, front.rest, front.unsigned.2)

/-- Takes the next argument as a number with a fraction. -/
def nextFraction (formatting : Formatting) : (Bool × Magnitude) × Formatting :=
  formatting.nextNumber (fun n => (false, .finite (.ofNat n))) fun text =>
    (fractionFront? text).map fun front =>
      ((front.isNegative, front.magnitude), front.rest, front.isBeyond)

/-- Reads a width or a precision: digits, or a star for the next argument, of which 32 bits
count. -/
def measure (formatting : Formatting) : Octets → Int × Octets × Formatting
  | '*' :: rest =>
      let (value, formatting) := formatting.nextInteger
      (value.toInt32.toInt, rest, formatting)
  | text =>
      let (value, _, rest) := digitsOf 10 text
      (value, rest, formatting)

/-- Reads the flags, the width and the precision of a directive. -/
def layout (formatting : Formatting) (text : Octets) : Layout × Octets × Formatting :=
  let isFlag (c : Char) : Bool := c = '#' || c = '-' || c = '+' || c = ' ' || c = '0'
  let flags := text.takeWhile isFlag
  let (width, rest, formatting) := formatting.measure (text.drop flags.length)
  let flags := if width < 0 then '-' :: flags else flags
  match rest with
  | '.' :: rest =>
      let (precision, rest, formatting) := formatting.measure rest
      let precision := if precision < 0 then none else some precision.toNat
      ({ flags, width := width.natAbs, precision }, rest, formatting)
  | rest => ({ flags, width := width.natAbs }, rest, formatting)

/-- Does what a directive asks for; none if there is no such directive. -/
def direct (formatting : Formatting) (layout : Layout) (letter : Char) : Option Formatting :=
  match letter with
  | 's' =>
      let (text, formatting) := formatting.next
      some (formatting.write (layout.text text))
  | 'b' =>
      let (text, formatting) := formatting.next
      let (text, isCut) := unescape text
      some { formatting.write (layout.text text) with isCut }
  | 'c' =>
      let (text, formatting) := formatting.next
      some (formatting.write (layout.padded [text.head?.getD '\x00']))
  | 'd' | 'i' =>
      let (value, formatting) := formatting.nextInteger
      some (formatting.write (layout.signed value))
  | 'o' | 'u' | 'x' | 'X' =>
      let (value, formatting) := formatting.nextUnsigned
      some (formatting.write (layout.unsigned letter value))
  | 'a' | 'A' | 'f' | 'F' | 'e' | 'E' | 'g' | 'G' =>
      let ((isNegative, magnitude), formatting) := formatting.nextFraction
      some (formatting.write (layout.fraction letter isNegative magnitude))
  | _ => none

/-- Goes through a format once.  The number is that of its characters. -/
def once (formatting : Formatting) : Nat → Octets → Formatting
  | 0, _ | _, [] => formatting
  | fuel + 1, c :: rest =>
      if formatting.isCut then formatting
      else if c = '\\' then
        let (found, rest) := escapeOf rest
        (formatting.write [found]).once fuel rest
      else if c ≠ '%' then (formatting.write [c]).once fuel rest
      else
        match rest with
        | '%' :: rest => (formatting.write ['%']).once fuel rest
        | rest =>
            let (layout, after, formatting) := formatting.layout rest
            match after with
            | [] => formatting.refuse "missing format character".toList
            | letter :: after =>
                if layout.isTooWide letter then
                  formatting.refuse "xvsnprintf failed".toList
                else
                  match formatting.direct layout letter with
                  | some formatting => formatting.once fuel after
                  | none =>
                      formatting.refuse ('%' :: rest.take (rest.length - after.length) ++
                        ": invalid directive".toList)

/-- Goes through a format again and again while it takes arguments and some are left; the number
bounds how often. -/
def all (format : Octets) : Nat → Formatting → Formatting
  | 0, formatting => formatting
  | bound + 1, formatting =>
      let after := formatting.once format.length format
      if after.isCut || after.arguments.isEmpty ||
          after.arguments.length = formatting.arguments.length then after
      else all format bound after

end Formatting

/-- What a format makes of arguments. -/
def formatted (format : Octets) (arguments : List Octets) : Formatting :=
  Formatting.all format (arguments.length + 1) { arguments }

end Console.Shell
