import CardText.Rule

/-! Wordings that protect the attacker through the opponent's next turn. -/
namespace CardText.Grammar

/-- Larger damage is not reduced: it gets through whole. -/
def preventDamageUpTo : Rule where
  name := "prevent damage up to"
  template := [
    .text "During your opponent's next turn, whenever ", .number "amount",
    .text " or less damage is done to ", .creature, .text ", prevent that damage."]
  triggers := [.nextTurn]
  usesDamage := true
  examples := [
    "During your opponent's next turn, whenever 30 or less damage is done to Onix, prevent that damage."]
  build slots damage := do
    let amount ← slots.number? "amount"
    return strike damage ++ [.act (.protect (.upTo amount))]

def preventDamageAndEffects : Rule where
  name := "prevent damage and effects"
  template := [
    .text "During your opponent's next turn, prevent all effects of attacks, including damage, done to ",
    .creature, .text "."]
  triggers := [.nextTurn]
  usesDamage := true
  examples := [
    "During your opponent's next turn, prevent all effects of attacks, including damage, done to Mewtwo."]
  build _ damage := some (strike damage ++ [.act (.protect .fromDamageAndEffects)])

def defendingAttackFlips : Rule where
  name := "defending attack fails on tails"
  template := [
    .text "If the Defending Pokémon tries to attack during your opponent's next turn, your opponent flips a coin. If tails, that attack does nothing."]
  triggers := [.nextTurn]
  usesDamage := true
  examples := [
    "If the Defending Pokémon tries to attack during your opponent's next turn, your opponent flips a coin. If tails, that attack does nothing."]
  build _ damage := some (strike damage ++ [.act (.protect .coinFlip)])

end CardText.Grammar
