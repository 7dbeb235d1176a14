/-! What is wrong with the text of a document, and where. -/
namespace CardText.Json

inductive SyntaxError where
  | endInValue | endInList | endInObject | endInString
  | expectedValue | expectedIdent | expectedColon | expectedListEnd | expectedObjectEnd
  | keyNotString | trailingComma | trailingCharacters
  | invalidEscape | invalidNumber | numberOutOfRange
  | loneSurrogate | endOfHexEscape | controlCharacter
  | tooDeep
  deriving DecidableEq, Repr

def SyntaxError.message : SyntaxError → String
  | endInValue => "EOF while parsing a value"
  | endInList => "EOF while parsing a list"
  | endInObject => "EOF while parsing an object"
  | endInString => "EOF while parsing a string"
  | expectedValue => "expected value"
  | expectedIdent => "expected ident"
  | expectedColon => "expected `:`"
  | expectedListEnd => "expected `,` or `]`"
  | expectedObjectEnd => "expected `,` or `\x7d`"
  | keyNotString => "key must be a string"
  | trailingComma => "trailing comma"
  | trailingCharacters => "trailing characters"
  | invalidEscape => "invalid escape"
  | invalidNumber => "invalid number"
  | numberOutOfRange => "number out of range"
  | loneSurrogate => "lone leading surrogate in hex escape"
  | endOfHexEscape => "unexpected end of hex escape"
  | controlCharacter => "control character (\\u0000-\\u001F) found while parsing a string"
  | tooDeep => "recursion limit exceeded"

/-- The place of a fault is the number of bytes after it. -/
structure Fault where
  cause : SyntaxError
  bytesLeft : Nat
  deriving DecidableEq, Repr

def byteLength (text : List Char) : Nat := text.foldl (fun bytes c => bytes + c.utf8Size) 0

/-- A line, counted from one, and the bytes before the place in it. -/
structure Place where
  line : Nat
  column : Nat
  deriving DecidableEq, Repr

def locate (place : Place) : Nat → List Char → Place
  | 0, _ => place
  | _, [] => place
  | n + 1, c :: rest =>
      if c == '\n' then locate ⟨place.line + 1, 0⟩ n rest
      else locate ⟨place.line, place.column + min (n + 1) c.utf8Size⟩ (n + 1 - c.utf8Size) rest

def Fault.place (fault : Fault) (document : List Char) : Place :=
  locate ⟨1, 0⟩ (byteLength document - fault.bytesLeft) document

def Fault.message (fault : Fault) (document : List Char) : String :=
  let place := fault.place document
  fault.cause.message ++ " at line " ++ toString place.line ++ " column " ++ toString place.column

abbrev Reading (α : Type) := Except Fault (α × List Char)

/-- The characters up to here were read. -/
def faultBefore {α : Type} (cause : SyntaxError) (rest : List Char) : Except Fault α :=
  .error ⟨cause, byteLength rest⟩

/-- The next byte is at fault; at the end the end itself is. -/
def faultAt {α : Type} (cause : SyntaxError) (rest : List Char) : Except Fault α :=
  .error ⟨cause, byteLength rest - 1⟩

end CardText.Json
