import CardText.Rule

/-! Wordings that discard energy. What the attacker discards "in order to use this
attack" is a cost, and the rest of the attack waits for it. -/
namespace CardText.Grammar

/-- A cost of so many cards of one type, and the sentences after it. -/
def typedCost (after : Template) : Template :=
  [.text "Discard ", .number "count", .text " ", .word "energy", .text " Energy card",
    .oneOf ["s", ""], .text " attached to ", .creature, .text " in order to use this attack."]
    ++ after

def payTyped (slots : Bindings) : Option Effect := do
  let count ← slots.number? "count"
  let energy ← slots.energy? "energy"
  return .within .cost [.act (.discardEnergy .attacking (.only energy) count)]

def discardThenHeal : Rule where
  name := "discard energy: heal all"
  template := typedCost [.text " Remove all damage counters from ", .creature, .text "."]
  triggers := [.discard]
  usesDamage := false
  examples := [
    "Discard 1 Psychic Energy card attached to Kadabra in order to use this attack. Remove all damage counters from Kadabra."]
  build slots _ := do
    let cost ← payTyped slots
    return [cost, .act .healAll]

def discardThenRetaliate : Rule where
  name := "discard energy: retaliate knock out"
  template := typedCost [
    .text " If a Pokémon Knocks Out ", .creature,
    .text " during your opponent's next turn, Knock Out that Pokémon."]
  triggers := [.discard]
  usesDamage := true
  examples := [
    "Discard 1 Psychic Energy card attached to Gastly in order to use this attack. If a Pokémon Knocks Out Gastly during your opponent's next turn, Knock Out that Pokémon."]
  build slots damage := do
    let cost ← payTyped slots
    return cost :: strike damage ++ [.act .retaliate]

def discardThenBarrier : Rule where
  name := "discard energy: barrier"
  template := typedCost [
    .text " During your opponent's next turn, prevent all effects of attacks, including damage, done to ",
    .creature, .text "."]
  triggers := [.discard]
  usesDamage := true
  examples := [
    "Discard 1 Psychic Energy card attached to Mewtwo in order to use this attack. During your opponent's next turn, prevent all effects of attacks, including damage, done to Mewtwo."]
  build slots damage := do
    let cost ← payTyped slots
    return cost :: strike damage ++ [.act (.protect .fromDamageAndEffects)]

def discardTyped : Rule where
  name := "discard typed energy"
  template := typedCost []
  triggers := [.discard]
  usesDamage := true
  examples := [
    "Discard 1 Fire Energy card attached to Charmeleon in order to use this attack.",
    "Discard 2 Water Energy cards attached to Blastoise in order to use this attack."]
  build slots damage := do
    let cost ← payTyped slots
    return cost :: strike damage

def discardAny : Rule where
  name := "discard any energy"
  template := [
    .text "Discard ", .number "count", .text " Energy card", .oneOf ["s", ""],
    .text " attached to ", .creature, .text " in order to use this attack."]
  triggers := [.discard]
  usesDamage := true
  examples := ["Discard 2 Energy cards attached to Charizard in order to use this attack."]
  build slots damage := do
    let count ← slots.number? "count"
    return .within .cost [.act (.discardEnergy .attacking .any count)] :: strike damage

def discardAll : Rule where
  name := "discard all energy"
  template := [
    .text "Discard all Energy cards attached to ", .creature, .text " in order to use this attack."]
  triggers := [.discard]
  usesDamage := true
  examples := ["Discard all Energy cards attached to Zapdos in order to use this attack."]
  build _ damage := some (.within .cost [.act .discardAllEnergy] :: strike damage)

def discardDefendingEnergy : Rule where
  name := "discard defending energy"
  template := [
    .text "If the Defending Pokémon has any Energy cards attached to it, choose ", .number "count",
    .text " of them and discard it."]
  triggers := [.defending]
  usesDamage := true
  examples := [
    "If the Defending Pokémon has any Energy cards attached to it, choose 1 of them and discard it."]
  build slots damage := do
    let count ← slots.number? "count"
    return .act (.discardEnergy .defending .any count) :: strike damage

end CardText.Grammar
