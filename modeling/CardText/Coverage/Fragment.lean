import CardText.Energy
import CardText.Status
import CardText.Unicode.Word
import CardText.Wording

/-! The shape of a wording: its clauses with the numbers, types, conditions and the name
of the creature itself replaced by placeholders. Wordings of one shape need one rule. -/
namespace CardText.Fragment

/-- A word begins or ends between the two characters. -/
def atBoundary (before after : Option Char) : Bool :=
  before.any Unicode.isWord != after.any Unicode.isWord

structure Word where
  letters : List Char
  wholeAtStart : Bool
  wholeAtEnd : Bool

/-- The length of the word where it stands whole. -/
def Word.found (word : Word) (before : Option Char) (text : List Char) : Nat :=
  match word.letters.isPrefixOf? text with
  | none => 0
  | some rest =>
      if (!word.wholeAtStart || atBoundary before text.head?) &&
          (!word.wholeAtEnd || atBoundary word.letters.getLast? rest.head?) then
        word.letters.length
      else 0

def foundAny (words : List Word) (before : Option Char) (text : List Char) : Nat :=
  ((words.map fun word => word.found before text).find? (· != 0)).getD 0

def whole (word : String) : Word := ⟨word.toList, true, true⟩

def joinsWords (c : Char) : Bool := Unicode.isAlphanumeric c || c == '_'

/-- A name that ends in a sign need not end at the end of a word. -/
def ownName (name : List Char) : Word :=
  ⟨name, name.head?.any joinsWords, name.getLast?.any joinsWords⟩

def digitRun (_ : Option Char) (text : List Char) : Nat := (text.takeWhile Char.isDigit).length

def placeholders (name : String) (text : List Char) : List Char :=
  let own := Wording.normalizeChars name.toList
  let text := if own.isEmpty then text else Text.replace (ownName own).found "SELF".toList text
  let text := Text.replace digitRun "X".toList text
  let text := Text.replace (foundAny (Energy.all.map (whole ·.name))) "TYPE".toList text
  Text.replace (foundAny (Status.all.map (whole ·.name))) "STATUS".toList text

def endsClause (c : Char) : Bool := c == '.' || c == ';'

/-- Clauses end at a period or semicolon before a blank. -/
def clauses : List Char → List (List Char)
  | [] => [[]]
  | [c] => [[c]]
  | c :: d :: rest =>
      if endsClause c && d == ' ' then [] :: clauses rest
      else
        match clauses (d :: rest) with
        | [] => [[c]]
        | clause :: more => (c :: clause) :: more

def ofText (text name : String) : List String :=
  let shape := placeholders name (Wording.normalizeChars text.toList)
  let tidy := (clauses shape).map fun clause => Text.trim (Text.dropEnd endsClause clause)
  (tidy.filter (!·.isEmpty)).map String.ofList

end CardText.Fragment
