import CardText.Rule

/-! Wordings that begin with the flip of a coin. Base damage stands outside the two
sides unless it hangs on the coin itself. -/
namespace CardText.Grammar

def flipHeadsStatus : Rule where
  name := "flip: heads status"
  template := [
    .text "Flip a coin. If heads, the Defending Pokémon is now ", .status "status" Status.all,
    .text "."]
  triggers := [.coin]
  usesDamage := true
  examples := [
    "Flip a coin. If heads, the Defending Pokémon is now Paralyzed.",
    "Flip a coin. If heads, the Defending Pokémon is now Confused."]
  build slots damage := do
    let status ← slots.status? "status"
    return .act (.flip 1) :: strike damage ++ [.within .heads [.act (.inflict status)]]

/-- Tails never poisons. -/
def flipHeadsOrTailsStatus : Rule where
  name := "flip: heads status, tails status"
  template := [
    .text "Flip a coin. If heads, the Defending Pokémon is now ", .status "heads" Status.all,
    .text "; if tails, it is now ", .status "tails" [.asleep, .confused, .paralyzed], .text "."]
  triggers := [.coin]
  usesDamage := true
  examples := [
    "Flip a coin. If heads, the Defending Pokémon is now Paralyzed; if tails, it is now Confused."]
  build slots damage := do
    let heads ← slots.status? "heads"
    let tails ← slots.status? "tails"
    return .act (.flip 1) :: strike damage ++
      [.within .heads [.act (.inflict heads)], .within .tails [.act (.inflict tails)]]

def flipTailsSelfDamage : Rule where
  name := "flip: tails self damage"
  template := [
    .text "Flip a coin. If tails, ", .creature, .text " does ", .number "amount",
    .text " damage to itself."]
  triggers := [.coin]
  usesDamage := true
  examples := ["Flip a coin. If tails, Rapidash does 30 damage to itself."]
  build slots damage := do
    let amount ← slots.number? "amount"
    return .act (.flip 1) :: strike damage ++ [.within .tails [.act (.selfDamage amount)]]

def flipCoinsPerHeads : Rule where
  name := "flip coins: damage per heads"
  template := [
    .text "Flip ", .number "coins", .text " coins. Does ", .number "amount",
    .text " damage times the number of heads."]
  triggers := [.coin]
  usesDamage := false
  examples := [
    "Flip 2 coins. Does 30 damage times the number of heads.",
    "Flip 4 coins. Does 20 damage times the number of heads."]
  build slots _ := do
    let coins ← slots.number? "coins"
    let amount ← slots.number? "amount"
    return [.act (.flip coins), .act (.damagePerHeads amount)]

/-- Heads adds to the base; tails leaves it and hurts the attacker. -/
def flipBonusOrRecoil : Rule where
  name := "flip: heads bonus, tails recoil"
  template := [
    .text "Flip a coin. If heads, this attack does ", .number "base", .text " damage plus ",
    .number "extra", .text " more damage; if tails, this attack does ", .number "tails_base",
    .text " damage ", .oneOf ["plus", "and"], .text " ", .creature, .text " does ",
    .number "recoil", .text " damage to itself."]
  triggers := [.coin]
  usesDamage := false
  examples := [
    "Flip a coin. If heads, this attack does 30 damage plus 10 more damage; if tails, this attack does 30 damage and Electabuzz does 10 damage to itself."]
  build slots _ := do
    let base ← slots.number? "base"
    let extra ← slots.number? "extra"
    let tailsBase ← slots.number? "tails_base"
    let recoil ← slots.number? "recoil"
    let heads ← Text.amount? (base + extra)
    return [.act (.flip 1), .within .heads [.act (.damage heads)],
      .within .tails [.act (.damage tailsBase), .act (.selfDamage recoil)]]

def flipBonus : Rule where
  name := "flip: heads bonus"
  template := [
    .text "Flip a coin. If heads, this attack does ", .number "base", .text " damage plus ",
    .number "extra", .text " more damage; if tails, this attack does ", .number "tails_base",
    .text " damage."]
  triggers := [.coin]
  usesDamage := false
  examples := [
    "Flip a coin. If heads, this attack does 10 damage plus 20 more damage; if tails, this attack does 10 damage."]
  build slots _ := do
    let base ← slots.number? "base"
    let extra ← slots.number? "extra"
    let tailsBase ← slots.number? "tails_base"
    let heads ← Text.amount? (base + extra)
    return [.act (.flip 1), .within .heads [.act (.damage heads)],
      .within .tails [.act (.damage tailsBase)]]

def flipExtraDamage : Rule where
  name := "flip: heads extra damage"
  template := [
    .text "Flip a coin. If heads, this attack does ", .number "extra", .text " more damage."]
  triggers := [.coin]
  usesDamage := true
  examples := ["Flip a coin. If heads, this attack does 20 more damage."]
  build slots damage := do
    let extra ← slots.number? "extra"
    return .act (.flip 1) :: strike damage ++ [.within .heads [.act (.damage extra)]]

/-- The base damage itself waits for heads. -/
def flipTailsNothing : Rule where
  name := "flip: tails does nothing"
  template := [.text "Flip a coin. If tails, this attack does nothing."]
  triggers := [.coin]
  usesDamage := true
  examples := ["Flip a coin. If tails, this attack does nothing."]
  build _ damage := some [.act (.flip 1), .within .heads (strike damage)]

def flipHeadsDraw : Rule where
  name := "flip: heads draw"
  template := [.text "Flip a coin. If heads, draw a card."]
  triggers := [.coin]
  usesDamage := true
  examples := ["Flip a coin. If heads, draw a card."]
  build _ damage := some (.act (.flip 1) :: strike damage ++ [.within .heads [.act (.draw 1)]])

def flipPreventDamage : Rule where
  name := "flip: prevent damage"
  template := [
    .text "Flip a coin. If heads, prevent all damage done to ", .creature,
    .text " during your opponent's next turn."]
  triggers := [.coin]
  usesDamage := true
  examples := [
    "Flip a coin. If heads, prevent all damage done to Squirtle during your opponent's next turn."]
  build _ damage :=
    some (.act (.flip 1) :: strike damage ++ [.within .heads [.act (.protect .fromDamage)]])

def flipPreventDamageAndEffects : Rule where
  name := "flip: prevent damage and effects"
  template := [
    .text "Flip a coin. If heads, during your opponent's next turn, prevent all effects of attacks, including damage, done to ",
    .creature, .text "."]
  triggers := [.coin]
  usesDamage := true
  examples := [
    "Flip a coin. If heads, during your opponent's next turn, prevent all effects of attacks, including damage, done to Raichu."]
  build _ damage :=
    some (.act (.flip 1) :: strike damage ++
      [.within .heads [.act (.protect .fromDamageAndEffects)]])

end CardText.Grammar
