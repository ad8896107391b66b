/-!
# Characters as bytes

Bytes are read from left to right, one at a time, by a machine that remembers which
continuation bytes the sequence it is in still needs.  A sequence that breaks off, or a byte that
starts none, is one invalid stretch.  The two readers differ only in what they make of invalid
stretches: one refuses the text, the other writes a replacement character.
-/

namespace Console.Utf8

/-- Bytes of a file or of an input. -/
abbrev Bytes := List UInt8

/-- What the next bytes have to be. -/
inductive Expecting where
  /-- The first byte of a sequence. -/
  | lead
  /-- A byte between `low` and `high`, then `more` continuation bytes; `code` holds the bits so
  far. -/
  | continuation (low high : UInt8) (more : Nat) (code : Nat)
  deriving DecidableEq, Repr

/-- A stretch of the input: a character, or `none` for invalid bytes. -/
abbrev Stretch := Option Char

/-- The effect of a byte where a sequence may start. -/
def lead (byte : UInt8) : List Stretch × Expecting :=
  let code := byte.toNat
  if byte < 0x80 then ([some (Char.ofNat code)], .lead)
  else if byte < 0xC2 then ([none], .lead)
  else if byte < 0xE0 then ([], .continuation 0x80 0xBF 0 (code - 0xC0))
  else if byte = 0xE0 then ([], .continuation 0xA0 0xBF 1 0)
  else if byte = 0xED then ([], .continuation 0x80 0x9F 1 0xD)
  else if byte < 0xF0 then ([], .continuation 0x80 0xBF 1 (code - 0xE0))
  else if byte = 0xF0 then ([], .continuation 0x90 0xBF 2 0)
  else if byte < 0xF4 then ([], .continuation 0x80 0xBF 2 (code - 0xF0))
  else if byte = 0xF4 then ([], .continuation 0x80 0x8F 2 4)
  else ([none], .lead)

/-- The effect of a byte: the stretches that it ends, and what is needed next. -/
def step : Expecting → UInt8 → List Stretch × Expecting
  | .lead, byte => lead byte
  | .continuation low high more code, byte =>
      if low ≤ byte && byte ≤ high then
        let code := code * 64 + (byte.toNat - 0x80)
        match more with
        | 0 => ([some (Char.ofNat code)], .lead)
        | more + 1 => ([], .continuation 0x80 0xBF more code)
      else
        let (stretches, next) := lead byte
        (none :: stretches, next)

/-- The stretches of the input from a given state on. -/
def scanFrom : Expecting → Bytes → List Stretch
  | .lead, [] => []
  | .continuation .., [] => [none]
  | state, byte :: rest =>
      let (stretches, next) := step state byte
      stretches ++ scanFrom next rest

/-- The stretches of an input. -/
def scan (bytes : Bytes) : List Stretch := scanFrom .lead bytes

/-- The characters of valid bytes; `none` if there is an invalid stretch. -/
def decode? (bytes : Bytes) : Option (List Char) := (scan bytes).mapM id

/-- The characters of any bytes, with a replacement character for each invalid stretch. -/
def decodeLossy (bytes : Bytes) : List Char := (scan bytes).map (·.getD '\uFFFD')

/-- The bytes of a text. -/
def encode (text : List Char) : Bytes := text.flatMap String.utf8EncodeChar

/-- The bytes of a text. -/
def ofText (text : String) : Bytes := encode text.toList

/-- The text of valid bytes. -/
def toText? (bytes : Bytes) : Option String := (decode? bytes).map .ofList

/-- The text of any bytes, with a replacement character for each invalid stretch. -/
def toTextLossy (bytes : Bytes) : String := .ofList (decodeLossy bytes)

/-- Bytes cut after every newline byte. -/
def pieces : Bytes → List Bytes
  | [] => []
  | byte :: rest =>
      if byte = 0x0A then [byte] :: pieces rest
      else match pieces rest with
        | [] => [[byte]]
        | piece :: more => (byte :: piece) :: more

end Console.Utf8
