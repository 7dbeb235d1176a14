import CardText.Json.Fault

/-! Strings of a document: escapes, with surrogates in pairs, and no control characters. -/
namespace CardText.Json

def hexValue? (c : Char) : Option Nat :=
  if c.isDigit then some (c.toNat - '0'.toNat)
  else if 'a' ≤ c && c ≤ 'f' then some (c.toNat - 'a'.toNat + 10)
  else if 'A' ≤ c && c ≤ 'F' then some (c.toNat - 'A'.toNat + 10)
  else none

/-- Four bytes are taken whatever they are; as digits they are four characters. -/
def readHex (text : List Char) : Except Fault Nat :=
  match text with
  | a :: b :: c :: d :: _ =>
      match hexValue? a, hexValue? b, hexValue? c, hexValue? d with
      | some a, some b, some c, some d => .ok (((a * 16 + b) * 16 + c) * 16 + d)
      | _, _, _, _ => .error ⟨.invalidEscape, byteLength text - 4⟩
  | _ =>
      if byteLength text < 4 then faultBefore .endInString []
      else .error ⟨.invalidEscape, byteLength text - 4⟩

def isLowSurrogate (unit : Nat) : Bool := 0xdc00 ≤ unit && unit ≤ 0xdfff

def isHighSurrogate (unit : Nat) : Bool := 0xd800 ≤ unit && unit ≤ 0xdbff

def readLowSurrogate (high : Nat) (text : List Char) : Except Fault Char :=
  match text with
  | [] => faultBefore .endInString []
  | '\\' :: [] => faultBefore .endInString []
  | '\\' :: 'u' :: rest => do
      let low ← readHex rest
      if isLowSurrogate low then
        return Char.ofNat ((high - 0xd800) * 0x400 + (low - 0xdc00) + 0x10000)
      else faultBefore .loneSurrogate (rest.drop 4)
  | '\\' :: rest => faultAt .endOfHexEscape rest
  | rest => faultAt .endOfHexEscape rest

/-- What an escape stands for, and how many characters it takes after the backslash. -/
structure Escape where
  char : Char
  length : Nat

def readUnicodeEscape (text : List Char) : Except Fault Escape := do
  let unit ← readHex text
  if isLowSurrogate unit then faultBefore .loneSurrogate (text.drop 4)
  else if isHighSurrogate unit then return ⟨← readLowSurrogate unit (text.drop 4), 11⟩
  else return ⟨Char.ofNat unit, 5⟩

def readEscape (text : List Char) : Except Fault Escape :=
  match text with
  | [] => faultBefore .endInString []
  | '"' :: _ => .ok ⟨'"', 1⟩
  | '\\' :: _ => .ok ⟨'\\', 1⟩
  | '/' :: _ => .ok ⟨'/', 1⟩
  | 'b' :: _ => .ok ⟨'\x08', 1⟩
  | 'f' :: _ => .ok ⟨'\x0c', 1⟩
  | 'n' :: _ => .ok ⟨'\n', 1⟩
  | 'r' :: _ => .ok ⟨'\r', 1⟩
  | 't' :: _ => .ok ⟨'\t', 1⟩
  | 'u' :: rest => readUnicodeEscape rest
  | _ => faultAt .invalidEscape text

/-- The text after the opening quote. The counter runs over the characters of an escape
that is already read. -/
def readStringFrom (read : List Char) : Nat → List Char → Reading String
  | _, [] => faultBefore .endInString []
  | skip + 1, _ :: rest => readStringFrom read skip rest
  | 0, c :: rest =>
      if c == '"' then .ok (String.ofList read.reverse, rest)
      else if c == '\\' then
        match readEscape rest with
        | .error fault => .error fault
        | .ok escape => readStringFrom (escape.char :: read) escape.length rest
      else if c < ' ' then faultBefore .controlCharacter rest
      else readStringFrom (c :: read) 0 rest

def readString (text : List Char) : Reading String := readStringFrom [] 0 text

end CardText.Json
