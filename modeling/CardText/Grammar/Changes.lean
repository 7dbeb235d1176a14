import CardText.Rule

/-! Wordings that change what attacks may be used, the types of a creature or the hand. -/
namespace CardText.Grammar

def onceWhileInPlay : Rule where
  name := "once while in play"
  template := [
    .text "You can't use this attack again as long as ", .creature, .text " stays in play."]
  triggers := []
  usesDamage := true
  examples := ["You can't use this attack again as long as Zapdos stays in play."]
  build _ damage := some (.act .onceWhileInPlay :: strike damage)

def disableDefendingAttack : Rule where
  name := "disable defending attack"
  template := [
    .text "Choose 1 of the Defending Pokémon's attacks. That Pokémon can't use that attack during your opponent's next turn."]
  triggers := [.defending]
  usesDamage := true
  examples := [
    "Choose 1 of the Defending Pokémon's attacks. That Pokémon can't use that attack during your opponent's next turn."]
  build _ damage := some (strike damage ++ [.act .disableDefendingAttack])

def copyDefendingAttack : Rule where
  name := "copy defending attack"
  template := [
    .text "Choose 1 of the Defending Pokémon's attacks. ", .creature,
    .text " copies that attack except for its Energy cost", .oneOf ["s", ""],
    .oneOf [
      " and anything else required in order to use that attack, such as discarding Energy cards",
      ""],
    .text "."]
  triggers := [.defending]
  usesDamage := false
  examples := [
    "Choose 1 of the Defending Pokémon's attacks. Metronome copies that attack except for its Energy costs and anything else required in order to use that attack, such as discarding Energy cards.",
    "Choose 1 of the Defending Pokémon's attacks. Mirror Move copies that attack except for its Energy cost."]
  build _ _ := some [.act .copyDefendingAttack]

def changeDefendingWeakness : Rule where
  name := "change defending weakness"
  template := [
    .text "If the Defending Pokémon has a Weakness, you may change it to a type of your choice other than ",
    .word "excluded", .text "."]
  triggers := [.defending]
  usesDamage := false
  examples := [
    "If the Defending Pokémon has a Weakness, you may change it to a type of your choice other than Colorless."]
  build slots _ := do
    let excluded ← slots.energy? "excluded"
    return [.act (.changeDefendingWeakness [excluded])]

def changeOwnResistance : Rule where
  name := "change own resistance"
  template := [
    .text "Change ", .creature, .text "'s Resistance to a type of your choice other than ",
    .word "excluded", .text "."]
  triggers := []
  usesDamage := false
  examples := ["Change Porygon's Resistance to a type of your choice other than Colorless."]
  build slots _ := do
    let excluded ← slots.energy? "excluded"
    return [.act (.changeOwnResistance [excluded])]

def drawOne : Rule where
  name := "draw a card"
  template := [.text "Draw a card."]
  triggers := []
  usesDamage := true
  examples := ["Draw a card."]
  build _ damage := some (strike damage ++ [.act (.draw 1)])

def drawSeveral : Rule where
  name := "draw cards"
  template := [.text "Draw ", .number "count", .text " cards."]
  triggers := [.digits]
  usesDamage := true
  examples := ["Draw 2 cards."]
  build slots damage := do
    let count ← slots.number? "count"
    return strike damage ++ [.act (.draw count)]

end CardText.Grammar
