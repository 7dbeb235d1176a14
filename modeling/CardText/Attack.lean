import CardText.Decode

/-! An attack as a dataset gives it. -/
namespace CardText

structure Attack where
  name : String
  cost : List Energy
  damage : Option Nat
  text : String
  deriving DecidableEq, Repr

def Attack.decode : Decoder Attack :=
  Decode.record "AttackRecord"
    [Decode.field "name" Decode.string, Decode.field "cost" (Decode.list Decode.energy),
      Decode.field "damage" Decode.amount, Decode.field "text" Decode.string]
    fun members => do
      let name ← members.required "name" Decode.string
      let cost ← members.optional "cost" [] (Decode.list Decode.energy)
      let damage ← members.optional "damage" none Decode.amount
      let text ← members.optional "text" "" Decode.string
      return ⟨name, cost, damage, text⟩

end CardText
