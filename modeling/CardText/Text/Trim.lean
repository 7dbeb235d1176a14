import CardText.Unicode.Space

/-! White space at the two ends of a text, and text split into fields. -/
namespace CardText.Text

def dropEnd (drop : Char → Bool) (text : List Char) : List Char :=
  (text.reverse.dropWhile drop).reverse

def trim (text : List Char) : List Char :=
  dropEnd Unicode.isSpace (text.dropWhile Unicode.isSpace)

def isBlank (text : List Char) : Bool := text.all Unicode.isSpace

/-- The stretches between characters that separate; they may be empty. -/
def splitAt (separates : Char → Bool) : List Char → List (List Char)
  | [] => [[]]
  | c :: rest =>
      match splitAt separates rest with
      | [] => [[c]]
      | field :: fields => if separates c then [] :: field :: fields else (c :: field) :: fields

end CardText.Text
