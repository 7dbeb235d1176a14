import CardText.Text.Replace
import CardText.Text.Trim

/-! The one spelling of an attack's wording. Reminders in parentheses, uneven spacing
and a few known variants of the same phrase are removed, so that a rule needs to
know one spelling. A correction never writes what another one corrects. -/
namespace CardText.Wording

/-- A reminder ends at the first closing parenthesis; without one the text stays. -/
def dropRemindersFrom : Bool → List Char → List Char
  | _, [] => []
  | true, c :: rest => dropRemindersFrom (c != ')') rest
  | false, c :: rest =>
      if c == '(' && rest.contains ')' then dropRemindersFrom true rest
      else c :: dropRemindersFrom false rest

def dropReminders (text : List Char) : List Char := dropRemindersFrom false text

/-- The last white space of each run becomes the blank that stands for the run. -/
def collapseSpaces : List Char → List Char
  | [] => []
  | c :: rest =>
      if Unicode.isSpace c then
        if rest.head?.any Unicode.isSpace then collapseSpaces rest else ' ' :: collapseSpaces rest
      else c :: collapseSpaces rest

def isPunctuation (c : Char) : Bool :=
  c == '.' || c == ',' || c == ';' || c == ':' || c == '!' || c == '?'

def closePunctuation : List Char → List Char
  | [] => []
  | c :: rest =>
      if c == ' ' && rest.head?.any isPunctuation then closePunctuation rest
      else c :: closePunctuation rest

structure Correction where
  variant : String
  standard : String

/-- Applied in this order, each to the whole text. -/
def corrections : List Correction := [
  ⟨"’", "'"⟩,
  ⟨"Pokemon", "Pokémon"⟩,
  ⟨"Paralysed", "Paralyzed"⟩,
  ⟨"is now asleep", "is now Asleep"⟩,
  ⟨"is now confused", "is now Confused"⟩,
  ⟨"is now paralyzed", "is now Paralyzed"⟩,
  ⟨"is now poisoned", "is now Poisoned"⟩,
  ⟨"This attack does ", "Does "⟩,
  ⟨"Do ", "Does "⟩,
  ⟨"damage to themselves", "damage to itself"⟩,
  ⟨". If tails, it is now", "; if tails, it is now"⟩,
  ⟨"more damage. If tails, this attack does", "more damage; if tails, this attack does"⟩,
  ⟨"; If tails,", "; if tails,"⟩]

def Correction.apply (text : List Char) (c : Correction) : List Char :=
  Text.replaceAll c.variant c.standard text

def correct (text : List Char) : List Char := corrections.foldl Correction.apply text

def arrange (text : List Char) : List Char :=
  closePunctuation (Text.trim (collapseSpaces (dropReminders text)))

def normalizeChars (text : List Char) : List Char := correct (arrange text)

def normalize (text : String) : String := String.ofList (normalizeChars text.toList)

end CardText.Wording
