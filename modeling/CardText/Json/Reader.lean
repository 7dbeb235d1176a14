import CardText.Json.NumberReader
import CardText.Json.StringReader

/-! The reader of documents. The first fault from the left is reported. -/
namespace CardText.Json

def isBlank (c : Char) : Bool := c == ' ' || c == '\n' || c == '\t' || c == '\r'

def skipBlanks (text : List Char) : List Char := text.dropWhile isBlank

def readIdent (value : Json) : List Char → List Char → Reading Json
  | [], rest => .ok (value, rest)
  | _ :: _, [] => faultBefore .endInValue []
  | letter :: letters, c :: rest =>
      if c == letter then readIdent value letters rest else faultAt .expectedIdent (c :: rest)

/-- Brackets that may be open at once, plus one. -/
def depthLimit : Nat := 128

/-- Each call reads a character or opens the contents of brackets, so twice the length of
the text is fuel enough. -/
def fuelFor (text : List Char) : Nat := 2 * text.length + 2

mutual
def readValue : Nat → Nat → List Char → Reading Json
  | 0, _, rest => faultAt .endInValue rest
  | fuel + 1, depth, text =>
      match skipBlanks text with
      | [] => faultAt .endInValue []
      | 'n' :: rest => readIdent .null ['u', 'l', 'l'] rest
      | 't' :: rest => readIdent (.bool true) ['r', 'u', 'e'] rest
      | 'f' :: rest => readIdent (.bool false) ['a', 'l', 's', 'e'] rest
      | '"' :: rest => (readString rest).map fun (value, rest) => (.string value, rest)
      | '[' :: rest =>
          if depth ≤ 1 then faultAt .tooDeep ('[' :: rest)
          else
            match skipBlanks rest with
            | ']' :: rest => .ok (.array [], rest)
            | [] => faultAt .endInList []
            | rest => readItems fuel (depth - 1) [] rest
      | '\x7b' :: rest =>
          if depth ≤ 1 then faultAt .tooDeep ('\x7b' :: rest)
          else
            match skipBlanks rest with
            | '\x7d' :: rest => .ok (.object [], rest)
            | [] => faultAt .endInObject []
            | rest => readMembers fuel (depth - 1) [] rest
      | '-' :: rest => (readNumber true rest).map fun (value, rest) => (.number value, rest)
      | c :: rest =>
          if c.isDigit then
            (readNumber false (c :: rest)).map fun (value, rest) => (.number value, rest)
          else faultAt .expectedValue (c :: rest)

/-- One item and those after it; the items before it are kept in reverse. -/
def readItems : Nat → Nat → List Json → List Char → Reading Json
  | 0, _, _, rest => faultAt .endInList rest
  | fuel + 1, depth, items, text =>
      match readValue fuel depth text with
      | .error fault => .error fault
      | .ok (item, rest) =>
          match skipBlanks rest with
          | [] => faultAt .endInList []
          | ']' :: rest => .ok (.array (item :: items).reverse, rest)
          | ',' :: rest =>
              match skipBlanks rest with
              | [] => faultAt .endInValue []
              | ']' :: rest => faultAt .trailingComma (']' :: rest)
              | rest => readItems fuel depth (item :: items) rest
          | rest => faultAt .expectedListEnd rest

def readMembers : Nat → Nat → List (String × Json) → List Char → Reading Json
  | 0, _, _, rest => faultAt .endInObject rest
  | fuel + 1, depth, members, text =>
      match text with
      | '"' :: rest =>
          match readString rest with
          | .error fault => .error fault
          | .ok (key, rest) =>
              match skipBlanks rest with
              | ':' :: rest =>
                  match readValue fuel depth rest with
                  | .error fault => .error fault
                  | .ok (value, rest) =>
                      let members := insertMember key value members
                      match skipBlanks rest with
                      | [] => faultAt .endInObject []
                      | '\x7d' :: rest => .ok (.object members, rest)
                      | ',' :: rest =>
                          match skipBlanks rest with
                          | [] => faultAt .endInValue []
                          | '\x7d' :: rest => faultAt .trailingComma ('\x7d' :: rest)
                          | rest => readMembers fuel depth members rest
                      | rest => faultAt .expectedObjectEnd rest
              | [] => faultAt .endInObject []
              | rest => faultAt .expectedColon rest
      | rest => faultAt .keyNotString rest
end

def readDocument (text : List Char) : Except Fault Json :=
  match readValue (fuelFor text) depthLimit text with
  | .error fault => .error fault
  | .ok (value, rest) =>
      match skipBlanks rest with
      | [] => .ok value
      | rest => .error ⟨.trailingCharacters, byteLength rest - 1⟩

def parse (document : String) : Except String Json :=
  (readDocument document.toList).mapError fun fault => fault.message document.toList

end CardText.Json
