import DaraChat.Auth.JwtAuth

set_option autoImplicit false

/-! # The JSON text of a value (`picojson.h`)

`serialize` writes a value without spaces, `parse` reads the value at the beginning of a text and
ignores what is behind it. Numbers are written and read by the C library: `NumberLib` is `printf`
with `%.17g`, and `strtod` where it takes all of a text for a finite double. What `strtoimax` takes
for an integer stays one, so a double that is written without a fraction is read back as an integer.

A `picojson::object` is a `std::map`: its fields are in the order of their names, and a name that
comes twice has its last value. The depth of arrays is limited to 100; objects are refused inside of
100 arrays as well, but they do not count.
-/

namespace DaraChat

/-- The parts of the C library that numbers need. -/
structure NumberLib where
  format17g : ℚ → Str
  strtod : Str → Option ℚ

namespace Json

/-! ## Writing -/

/-- `"%02x"`, with small letters. -/
def hexByte (n : Nat) : Str := [Nat.digitChar (n / 16 % 16), Nat.digitChar (n % 16)]

/-- `serialize_str_char`. -/
def serializeChar (c : Char) : Str :=
  if c = '"' then ['\\', '"']
  else if c = '\\' then ['\\', '\\']
  else if c = '/' then ['\\', '/']
  else if c = '\x08' then ['\\', 'b']
  else if c = '\x0c' then ['\\', 'f']
  else if c = '\n' then ['\\', 'n']
  else if c = '\r' then ['\\', 'r']
  else if c = '\t' then ['\\', 't']
  else if c.toNat < 32 ∨ c = '\x7f' then ['\\', 'u', '0', '0'] ++ hexByte c.toNat
  else [c]

/-- `serialize_str`. -/
def serializeStr (s : Str) : Str := '"' :: (s.flatMap serializeChar ++ ['"'])

/-- `to_str` of a number. -/
def numberText (lib : NumberLib) (x : ℚ) : Str :=
  if |x| < 2 ^ 53 ∧ x.den = 1 then intToString x.num else lib.format17g x

section Write

variable (str : Str → Str) (num : ℚ → Str)

mutual

/-- `_serialize` without indentation, for any way to write strings and numbers. -/
def write : Json → Str
  | .null => "null".toList
  | .boolean b => if b then "true".toList else "false".toList
  | .integer i => intToString i
  | .number x => num x
  | .string s => str s
  | .array elements => '[' :: (writeElements true elements ++ [']'])
  | .object fields => '\x7b' :: (writeFields true fields ++ ['\x7d'])

/-- The elements, with a comma before all but the first. -/
def writeElements : Bool → List Json → Str
  | _, [] => []
  | first, v :: vs => (if first then [] else [',']) ++ write v ++ writeElements false vs

def writeFields : Bool → List (Str × Json) → Str
  | _, [] => []
  | first, (key, v) :: fields =>
      (if first then [] else [',']) ++ str key ++ ':' :: write v ++ writeFields false fields

end

end Write

/-- `value::serialize`. -/
def serialize (lib : NumberLib) (v : Json) : Str := write serializeStr (numberText lib) v

/-! ## Reading -/

/-- `input::skip_ws`. -/
def skipWs (s : Str) : Str := s.dropWhile fun c => c = ' ' || c = '\t' || c = '\n' || c = '\r'

/-- `input::expect`. -/
def expect (expected : Char) (s : Str) : Option Str :=
  match skipWs s with
  | [] => none
  | c :: s => if c = expected then some s else none

/-- `input::match`. -/
def matchText (pattern s : Str) : Option Str :=
  if pattern.isPrefixOf s then some (s.drop pattern.length) else none

def hexVal (c : Char) : Option Nat :=
  if '0' ≤ c ∧ c ≤ '9' then some (c.toNat - '0'.toNat)
  else if 'A' ≤ c ∧ c ≤ 'F' then some (c.toNat - 'A'.toNat + 10)
  else if 'a' ≤ c ∧ c ≤ 'f' then some (c.toNat - 'a'.toNat + 10)
  else none

/-- `_parse_quadhex`. -/
def parseQuadhex : Str → Option (Nat × Str)
  | a :: b :: c :: d :: s => do
      let a ← hexVal a
      let b ← hexVal b
      let c ← hexVal c
      let d ← hexVal d
      return (((a * 16 + b) * 16 + c) * 16 + d, s)
  | _ => none

/-- The bytes of a code point in UTF-8. -/
def encodeUtf8 (n : Nat) : Str :=
  if n < 0x80 then [Char.ofNat n]
  else if n < 0x800 then [Char.ofNat (0xc0 + n / 64), Char.ofNat (0x80 + n % 64)]
  else if n < 0x10000 then
    [Char.ofNat (0xe0 + n / 4096), Char.ofNat (0x80 + n / 64 % 64), Char.ofNat (0x80 + n % 64)]
  else
    [Char.ofNat (0xf0 + n / 262144), Char.ofNat (0x80 + n / 4096 % 64),
      Char.ofNat (0x80 + n / 64 % 64), Char.ofNat (0x80 + n % 64)]

/-- `_parse_codepoint`, behind `\u`. -/
def parseCodepoint (s : Str) : Option (Str × Str) :=
  match parseQuadhex s with
  | none => none
  | some (high, s) =>
      if 0xd800 ≤ high ∧ high ≤ 0xdfff then
        if 0xdc00 ≤ high then none
        else
          match s with
          | '\\' :: 'u' :: s =>
              match parseQuadhex s with
              | some (low, s) =>
                  if 0xdc00 ≤ low ∧ low ≤ 0xdfff then
                    some (encodeUtf8 ((high - 0xd800) * 1024 + (low - 0xdc00) + 0x10000), s)
                  else none
              | none => none
          | _ => none
      else some (encodeUtf8 high, s)

/-- The character that a letter behind a backslash stands for. -/
def escaped (c : Char) : Option Char :=
  if c = '"' then some '"'
  else if c = '\\' then some '\\'
  else if c = '/' then some '/'
  else if c = 'b' then some '\x08'
  else if c = 'f' then some '\x0c'
  else if c = 'n' then some '\n'
  else if c = 'r' then some '\r'
  else if c = 't' then some '\t'
  else none

/-- The loop of `_parse_string`. A turn takes a character at least. -/
def parseStringLoop : Nat → Str → Option (Str × Str)
  | 0, _ => none
  | _ + 1, [] => none
  | turns + 1, ch :: s =>
      if ch.toNat < 32 then none
      else if ch = '"' then some ([], s)
      else if ch = '\\' then
        match s with
        | [] => none
        | letter :: s =>
            match escaped letter with
            | some c => (parseStringLoop turns s).map fun (out, s) => (c :: out, s)
            | none =>
                if letter = 'u' then do
                  let (bytes, s) ← parseCodepoint s
                  let (out, s) ← parseStringLoop turns s
                  return (bytes ++ out, s)
                else none
      else (parseStringLoop turns s).map fun (out, s) => (ch :: out, s)

/-- `_parse_string`. -/
def parseString (s : Str) : Option (Str × Str) := parseStringLoop (s.length + 1) s

/-- The characters that `_parse_number` takes. -/
def isNumberChar (c : Char) : Bool := c.isDigit || c = '+' || c = '-' || c = 'e' || c = 'E' || c = '.'

/-- `strtoimax` of a text that starts with a digit or a minus, if it takes all of it and the number
fits 64 bits. -/
def strtoimax (s : Str) : Option Int :=
  let negative := s.head? = some '-'
  let digits := if negative then s.drop 1 else s
  let magnitude : Int := Nat.ofDigitChars 10 digits 0
  let value := if negative then -magnitude else magnitude
  if digits ≠ [] ∧ digits.all Char.isDigit ∧ -(2 ^ 63) ≤ value ∧ value < 2 ^ 63 then some value
  else none

/-- The number of a text of such characters. -/
def readNumber (lib : NumberLib) (text : Str) : Option Json :=
  match strtoimax text with
  | some i => some (.integer i)
  | none => (lib.strtod text).map .number

/-- `operator[]` of a `std::map`, and an assignment. -/
def insertField (key : Str) (v : Json) : List (Str × Json) → List (Str × Json)
  | [] => [(key, v)]
  | (k, w) :: fields =>
      if key = k then (key, v) :: fields
      else if key < k then (key, v) :: (k, w) :: fields
      else (k, w) :: insertField key v fields

section Parse

variable (lib : NumberLib)

mutual

/-- `_parse` with `depths` arrays still allowed. Every call has taken a character since the one
before the last. -/
def parseValue : Nat → Nat → Str → Option (Json × Str)
  | 0, _, _ => none
  | fuel + 1, depths, s =>
      match skipWs s with
      | [] => none
      | ch :: s =>
          if ch = 'n' then (matchText "ull".toList s).map fun s => (.null, s)
          else if ch = 'f' then (matchText "alse".toList s).map fun s => (.boolean false, s)
          else if ch = 't' then (matchText "rue".toList s).map fun s => (.boolean true, s)
          else if ch = '"' then (parseString s).map fun (text, s) => (.string text, s)
          else if ch = '[' then
            if depths = 0 then none
            else
              match expect ']' s with
              | some s => some (.array [], s)
              | none => (parseElements fuel (depths - 1) s).map fun (vs, s) => (.array vs, s)
          else if ch = '\x7b' then
            if depths = 0 then none
            else
              match expect '\x7d' s with
              | some s => some (.object [], s)
              | none => (parseFields fuel depths [] s).map fun (fields, s) => (.object fields, s)
          else if ch.isDigit ∨ ch = '-' then
            (readNumber lib ((ch :: s).takeWhile isNumberChar)).map fun v =>
              (v, (ch :: s).dropWhile isNumberChar)
          else none

/-- The loop of `_parse_array`. -/
def parseElements : Nat → Nat → Str → Option (List Json × Str)
  | 0, _, _ => none
  | fuel + 1, depths, s =>
      match parseValue fuel depths s with
      | none => none
      | some (v, s) =>
          match expect ',' s with
          | some s => (parseElements fuel depths s).map fun (vs, s) => (v :: vs, s)
          | none => (expect ']' s).map fun s => ([v], s)

/-- The loop of `_parse_object`. -/
def parseFields : Nat → Nat → List (Str × Json) → Str → Option (List (Str × Json) × Str)
  | 0, _, _, _ => none
  | fuel + 1, depths, fields, s =>
      match (expect '"' s).bind parseString with
      | none => none
      | some (key, s) =>
          match (expect ':' s).bind (parseValue fuel depths) with
          | none => none
          | some (v, s) =>
              match expect ',' s with
              | some s => parseFields fuel depths (insertField key v fields) s
              | none => (expect '\x7d' s).map fun s => (insertField key v fields, s)

end

/-- `picojson::parse`; `none` when there is an error. -/
def parse (s : Str) : Option Json :=
  (parseValue lib (2 * s.length + 2) 100 s).map Prod.fst

end Parse

end Json

end DaraChat
