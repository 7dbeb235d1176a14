import CardText.Rule

/-! Wordings that reach beyond the defending creature: the benches and the attacker
itself. -/
namespace CardText.Grammar

def benchesAndSelf : Rule where
  name := "each bench and self damage"
  template := [
    .text "Does ", .number "bench", .text " damage to each Pokémon on each player's Bench. ",
    .creature, .text " does ", .number "recoil", .text " damage to itself."]
  triggers := [.bench]
  usesDamage := true
  examples := [
    "Does 20 damage to each Pokémon on each player's Bench. Electrode does 80 damage to itself."]
  build slots damage := do
    let bench ← slots.number? "bench"
    let recoil ← slots.number? "recoil"
    return strike damage ++
      [.within .ownBench [.act (.damage bench)], .within .opponentBench [.act (.damage bench)],
        .act (.selfDamage recoil)]

def ownBench : Rule where
  name := "own bench damage"
  template := [
    .text "Does ", .number "bench", .text " damage to each of your own Benched Pokémon."]
  triggers := [.bench]
  usesDamage := true
  examples := ["Does 10 damage to each of your own Benched Pokémon."]
  build slots damage := do
    let bench ← slots.number? "bench"
    return strike damage ++ [.within .ownBench [.act (.damage bench)]]

def opponentBench : Rule where
  name := "opponent's bench damage"
  template := [
    .text "Does ", .number "bench", .text " damage to each of your opponent's Benched Pokémon."]
  triggers := [.bench]
  usesDamage := true
  examples := ["Does 10 damage to each of your opponent's Benched Pokémon."]
  build slots damage := do
    let bench ← slots.number? "bench"
    return strike damage ++ [.within .opponentBench [.act (.damage bench)]]

def switchDefending : Rule where
  name := "switch defending"
  template := [
    .text "If your opponent has any Benched Pokémon, he or she chooses 1 of them and switches it with the Defending Pokémon."]
  triggers := [.bench]
  usesDamage := true
  examples := [
    "If your opponent has any Benched Pokémon, he or she chooses 1 of them and switches it with the Defending Pokémon."]
  build _ damage := some (strike damage ++ [.act .switchDefending])

/-- Other wordings end in the same sentence, so this rule comes last. -/
def selfDamage : Rule where
  name := "self damage"
  template := [.creature, .text " does ", .number "amount", .text " damage to itself."]
  triggers := [.digits]
  usesDamage := true
  examples := ["Charizard does 30 damage to itself.", "Mr. Mime does 10 damage to itself."]
  build slots damage := do
    let amount ← slots.number? "amount"
    return strike damage ++ [.act (.selfDamage amount)]

end CardText.Grammar
