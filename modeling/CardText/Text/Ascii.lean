import CardText.Text.Trim

/-! Comparisons and numbers that know the letters and digits of ASCII alone. -/
namespace CardText.Text

def lowerAscii (text : List Char) : List Char := text.map Char.toLower

def sameIgnoringCase (a b : String) : Bool := lowerAscii a.toList == lowerAscii b.toList

def decimalValue (digits : List Char) : Nat :=
  digits.foldl (fun value c => 10 * value + (c.toNat - '0'.toNat)) 0

/-- The largest amount that a card states; a larger one is refused, never cut. -/
def largestAmount : Nat := 4294967295

def amount? (n : Nat) : Option Nat := if n ≤ largestAmount then some n else none

/-- The amount of a text of digits alone. -/
def amountOfDigits? (digits : List Char) : Option Nat :=
  if digits.isEmpty || !digits.all Char.isDigit then none else amount? (decimalValue digits)

/-- The amount of the digits that open a text, white space before them skipped. -/
def leadingAmount? (text : List Char) : Option Nat :=
  amountOfDigits? ((trim text).takeWhile Char.isDigit)

end CardText.Text
