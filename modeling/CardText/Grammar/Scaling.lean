import CardText.Rule

/-! Wordings whose damage or healing follows a count: damage counters, energy cards or
the hit points that are left. -/
namespace CardText.Grammar

def perOwnCounter : Rule where
  name := "damage per own damage counter"
  template := [
    .text "Does ", .number "amount", .text " damage times the number of damage counters on ",
    .creature, .text "."]
  triggers := [.digits]
  usesDamage := false
  examples := ["Does 10 damage times the number of damage counters on Rhydon."]
  build slots _ := do
    let amount ← slots.number? "amount"
    return [.act (.counterDamage 0 amount .times .attacking)]

def minusPerOwnCounter : Rule where
  name := "damage minus per own damage counter"
  template := [
    .text "Does ", .number "base", .text " damage minus ", .number "minus",
    .text " damage for each damage counter on ", .creature, .text "."]
  triggers := [.digits]
  usesDamage := false
  examples := ["Does 50 damage minus 10 damage for each damage counter on Machoke."]
  build slots _ := do
    let base ← slots.number? "base"
    let minus ← slots.number? "minus"
    return [.act (.counterDamage base minus .minus .attacking)]

def plusPerDefendingCounter : Rule where
  name := "damage plus per defending damage counter"
  template := [
    .text "Does ", .number "base", .text " damage plus ", .number "plus",
    .text " more damage for each damage counter on the Defending Pokémon."]
  triggers := [.digits]
  usesDamage := false
  examples := [
    "Does 20 damage plus 10 more damage for each damage counter on the Defending Pokémon."]
  build slots _ := do
    let base ← slots.number? "base"
    let plus ← slots.number? "plus"
    return [.act (.counterDamage base plus .plus .defending)]

def plusPerOwnCounter : Rule where
  name := "damage plus per own damage counter"
  template := [
    .text "Does ", .number "base", .text " damage plus ", .number "plus",
    .text " more damage for each damage counter on ", .creature, .text "."]
  triggers := [.digits]
  usesDamage := false
  examples := ["Does 10 damage plus 10 more damage for each damage counter on Dodrio."]
  build slots _ := do
    let base ← slots.number? "base"
    let plus ← slots.number? "plus"
    return [.act (.counterDamage base plus .plus .attacking)]

def halfRemainingHp : Rule where
  name := "half of defending remaining hp"
  template := [
    .text "Does damage to the Defending Pokémon equal to half the Defending Pokémon's remaining HP."]
  triggers := [.defending]
  usesDamage := false
  examples := [
    "Does damage to the Defending Pokémon equal to half the Defending Pokémon's remaining HP."]
  build _ _ := some [.act .halveRemainingHp]

def plusPerDefendingEnergyCard : Rule where
  name := "damage plus per defending energy card"
  template := [
    .text "Does ", .number "base", .text " damage plus ", .number "plus",
    .text " more damage for each Energy card attached to the Defending Pokémon."]
  triggers := [.defending]
  usesDamage := false
  examples := [
    "Does 10 damage plus 10 more damage for each Energy card attached to the Defending Pokémon."]
  build slots _ := do
    let base ← slots.number? "base"
    let plus ← slots.number? "plus"
    return [.act (.defendingEnergyDamage base plus)]

/-- The two energy words must name the same type. -/
def plusPerExtraEnergy : Rule where
  name := "damage plus per extra energy"
  template := [
    .text "Does ", .number "base", .text " damage plus ", .number "plus",
    .text " more damage for each ", .word "energy", .text " Energy attached to ", .creature,
    .text " but not used to pay for this attack's Energy cost. Extra ", .word "again",
    .text " Energy after the ", .number "cap", .oneOf ["st", "nd", "rd", "th"], .text " ",
    .oneOf ["doesn't", "don't"], .text " count."]
  triggers := [.digits]
  usesDamage := false
  examples := [
    "Does 40 damage plus 10 more damage for each Water Energy attached to Blastoise but not used to pay for this attack's Energy cost. Extra Water Energy after the 2nd doesn't count."]
  build slots _ := do
    let base ← slots.number? "base"
    let plus ← slots.number? "plus"
    let energy ← slots.energy? "energy"
    let again ← slots.energy? "again"
    let cap ← slots.number? "cap"
    if energy = again then some [.act (.extraEnergyDamage base plus energy cap)] else none

/-- A counter is ten points, and they heal only if the damage got through. -/
def healIfDidDamage : Rule where
  name := "heal if did damage"
  template := [
    .text "Unless all damage from this attack is prevented, you may remove ", .number "counters",
    .text " damage counter", .oneOf ["s", ""], .text " from ", .creature, .text "."]
  triggers := [.digits]
  usesDamage := true
  examples := [
    "Unless all damage from this attack is prevented, you may remove 1 damage counter from Kadabra."]
  build slots damage := do
    let counters ← slots.number? "counters"
    let amount ← Text.amount? (counters * 10)
    return strike damage ++ [.within .didDamage [.act (.heal amount)]]

end CardText.Grammar
