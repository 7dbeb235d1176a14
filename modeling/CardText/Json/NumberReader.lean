import CardText.Json
import CardText.Json.Fault

/-! Numbers of a document. A whole number that fits 64 bits stays exact; any other becomes
a binary value, from as many leading digits as fit 64 bits. -/
namespace CardText.Json

def largestUnsigned : Nat := 18446744073709551615

def largestMagnitude : Nat := 9223372036854775808

def largestExponent : Nat := 2147483647

def startsWithDigit (text : List Char) : Bool := text.head?.any Char.isDigit

def skipDigits (text : List Char) : List Char := text.dropWhile Char.isDigit

structure Gathered where
  significand : Nat
  digits : Nat
  rest : List Char

/-- Digits are gathered while the number fits. -/
def gather (limit significand digits : Nat) : List Char → Gathered
  | [] => ⟨significand, digits, []⟩
  | c :: rest =>
      let next := 10 * significand + (c.toNat - '0'.toNat)
      if c.isDigit && next ≤ limit then gather limit next (digits + 1) rest
      else ⟨significand, digits, c :: rest⟩

def scaled (negative : Bool) (significand : Nat) (exponent : Int) (rest : List Char) :
    Reading JsonNumber :=
  match Binary64.ofDecimal? significand exponent with
  | some magnitude => .ok (.float negative magnitude, rest)
  | none => faultBefore .numberOutOfRange rest

def exponentDigits (negative : Bool) (significand : Nat) (exponent sign : Int) (text : List Char) :
    Reading JsonNumber :=
  match text with
  | [] => faultBefore .endInValue []
  | c :: _ =>
      if !c.isDigit then faultAt .invalidNumber text
      else
        let gathered := gather largestExponent 0 0 text
        if !startsWithDigit gathered.rest then
          scaled negative significand (exponent + sign * gathered.significand) gathered.rest
        else if significand != 0 && sign == 1 then
          faultBefore .numberOutOfRange (gathered.rest.drop 1)
        else .ok (.float negative .zero, skipDigits gathered.rest)

def afterExponentMark (negative : Bool) (significand : Nat) (exponent : Int) :
    List Char → Reading JsonNumber
  | '+' :: rest => exponentDigits negative significand exponent 1 rest
  | '-' :: rest => exponentDigits negative significand exponent (-1) rest
  | rest => exponentDigits negative significand exponent 1 rest

def afterDigits (negative : Bool) (significand : Nat) (exponent : Int) (text : List Char) :
    Reading JsonNumber :=
  match text with
  | 'e' :: rest | 'E' :: rest => afterExponentMark negative significand exponent rest
  | _ => scaled negative significand exponent text

/-- Digits that no longer fit are left out. -/
def afterPoint (negative : Bool) (significand : Nat) (exponent : Int) (text : List Char) :
    Reading JsonNumber :=
  let gathered := gather largestUnsigned significand 0 text
  let exponent := exponent - gathered.digits
  if startsWithDigit gathered.rest then
    afterDigits negative gathered.significand exponent (skipDigits gathered.rest)
  else if gathered.digits == 0 then
    faultAt (if gathered.rest.isEmpty then .endInValue else .invalidNumber) gathered.rest
  else afterDigits negative gathered.significand exponent gathered.rest

/-- A negative zero is no whole number. -/
def wholeNumber (negative : Bool) (significand : Nat) (rest : List Char) : Reading JsonNumber :=
  if !negative then .ok (.integer significand, rest)
  else if significand == 0 || significand > largestMagnitude then scaled true significand 0 rest
  else .ok (.integer (-significand), rest)

def afterWhole (negative : Bool) (significand : Nat) (text : List Char) : Reading JsonNumber :=
  match text with
  | '.' :: rest => afterPoint negative significand 0 rest
  | 'e' :: _ | 'E' :: _ => afterDigits negative significand 0 text
  | _ => wholeNumber negative significand text

/-- Each digit that no longer fits is a place of the exponent. -/
def afterLongWhole (negative : Bool) (significand : Nat) (text : List Char) : Reading JsonNumber :=
  let places := (text.takeWhile Char.isDigit).length
  match skipDigits text with
  | '.' :: rest => afterPoint negative significand places rest
  | rest => afterDigits negative significand places rest

/-- The number without its sign. -/
def readNumber (negative : Bool) (text : List Char) : Reading JsonNumber :=
  match text with
  | [] => faultBefore .endInValue []
  | '0' :: rest =>
      if startsWithDigit rest then faultAt .invalidNumber rest else afterWhole negative 0 rest
  | c :: _ =>
      if !c.isDigit then faultAt .invalidNumber text
      else
        let gathered := gather largestUnsigned 0 0 text
        if startsWithDigit gathered.rest then
          afterLongWhole negative gathered.significand gathered.rest
        else afterWhole negative gathered.significand gathered.rest

end CardText.Json
