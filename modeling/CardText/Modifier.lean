import CardText.Decode

/-! A weakness or resistance: a type, and a value such as "×2" or "-30". -/
namespace CardText

structure Modifier where
  energy : Energy
  value : String
  deriving DecidableEq, Repr

namespace Modifier

def isSign (c : Char) : Bool := c == '-' || c == '+' || c == '×' || c == 'x'

/-- Signs are skipped before white space is, so a sign after white space hides the number. -/
def amount? (modifier : Modifier) : Option Nat :=
  Text.leadingAmount? (modifier.value.toList.dropWhile isSign)

def decode : Decoder Modifier :=
  Decode.record "TypeModifier"
    [Decode.field "type" Decode.energy, Decode.field "value" Decode.string]
    fun members => do
      let energy ← members.required "type" Decode.energy
      let value ← members.optional "value" "" Decode.string
      return ⟨energy, value⟩

end Modifier
end CardText
