import CardText.Text.Ascii

/-! Energy types, the elements that costs, weaknesses and resistances are made of. -/
namespace CardText

inductive Energy where
  | colorless | darkness | dragon | fairy | fighting | fire | grass | lightning | metal | psychic
  | water
  deriving DecidableEq, Repr

namespace Energy

def all : List Energy :=
  [colorless, darkness, dragon, fairy, fighting, fire, grass, lightning, metal, psychic, water]

def name : Energy → String
  | colorless => "Colorless"
  | darkness => "Darkness"
  | dragon => "Dragon"
  | fairy => "Fairy"
  | fighting => "Fighting"
  | fire => "Fire"
  | grass => "Grass"
  | lightning => "Lightning"
  | metal => "Metal"
  | psychic => "Psychic"
  | water => "Water"

def ofName? (name : String) : Option Energy := all.find? (·.name == name)

/-- Prose may write a type in any case. -/
def ofProse? (word : String) : Option Energy := all.find? (Text.sameIgnoringCase ·.name word)

end Energy
end CardText
