import CardText.Text.Ascii

/-! Special conditions that an attack can put on a creature. -/
namespace CardText

inductive Status where
  | asleep | confused | paralyzed | poisoned
  deriving DecidableEq, Repr

namespace Status

def all : List Status := [asleep, confused, paralyzed, poisoned]

/-- The capitalised word of the rules text. -/
def name : Status → String
  | asleep => "Asleep"
  | confused => "Confused"
  | paralyzed => "Paralyzed"
  | poisoned => "Poisoned"

def adjective : Status → String
  | asleep => "asleep"
  | confused => "confused"
  | paralyzed => "paralyzed"
  | poisoned => "poisoned"

/-- What a script does to bring the condition about. -/
def verb : Status → String
  | asleep => "asleep"
  | confused => "confuse"
  | paralyzed => "paralyze"
  | poisoned => "poison"

def ofProse? (word : String) : Option Status := all.find? (Text.sameIgnoringCase ·.adjective word)

end Status
end CardText
