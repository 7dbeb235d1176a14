import CardText.Status
import CardText.Unicode.Uppercase
import CardText.Unicode.Word

/-! Templates of card wording: fixed text, listed spellings, and slots for a number, a
condition, a word or the name of a creature. A template accepts a whole text. -/
namespace CardText

inductive Piece where
  | text (literal : String)
  | oneOf (spellings : List String)
  | number (slot : String)
  | status (slot : String) (choices : List Status)
  | word (slot : String)
  | creature
  deriving Repr

abbrev Template := List Piece

/-- What is left after each run of such characters that opens the text, shortest first. -/
def restsOfRuns (p : Char → Bool) : List Char → List (List Char)
  | [] => []
  | c :: rest => if p c then rest :: restsOfRuns p rest else []

def restOf (literal : String) (text : List Char) : List (List Char) :=
  (literal.toList.isPrefixOf? text).toList

/-- A name ends with its clause. -/
def isNameChar (c : Char) : Bool := c != '.' && c != ';' && c != ','

def restsOfName : List Char → List (List Char)
  | [] => []
  | c :: rest => if Unicode.isUppercaseLetter c then rest :: restsOfRuns isNameChar rest else []

namespace Piece

def slot? : Piece → Option String
  | number slot | status slot _ | word slot => some slot
  | _ => none

/-- What may be left of the text after the piece, in the order in which it is tried:
numbers and words as long as possible, names as short as possible. -/
def rests : Piece → List Char → List (List Char)
  | text literal, s => restOf literal s
  | oneOf spellings, s => spellings.flatMap (restOf · s)
  | number _, s => (restsOfRuns Char.isDigit s).reverse
  | status _ choices, s => choices.flatMap fun choice => restOf choice.name s
  | word _, s => (restsOfRuns Unicode.isWord s).reverse
  | creature, s => (restOf "Mr. " s).flatMap restsOfName ++ restsOfName s

end Piece

namespace Template

def slots (template : Template) : List String := template.filterMap Piece.slot?

/-- The slots with what fills them, if the template accepts the text. -/
def fill? : Template → List Char → Option (List (String × List Char))
  | [], [] => some []
  | [], _ :: _ => none
  | piece :: template, s =>
      (piece.rests s).findSome? fun rest =>
        (fill? template rest).map fun filled =>
          match piece.slot? with
          | some slot => (slot, s.take (s.length - rest.length)) :: filled
          | none => filled

end Template
end CardText
