import CardText.Rule

/-! Wordings that put a condition on the defending creature or ask for one. -/
namespace CardText.Grammar

def plainDamage : Rule where
  name := "plain damage"
  template := []
  triggers := []
  usesDamage := true
  examples := [""]
  build _ damage := some (strike damage)

def inflictStatus : Rule where
  name := "inflict status"
  template := [.text "The Defending Pokémon is now ", .status "status" Status.all, .text "."]
  triggers := [.defending]
  usesDamage := true
  examples := ["The Defending Pokémon is now Asleep.", "The Defending Pokémon is now Poisoned."]
  build slots damage := do
    let status ← slots.status? "status"
    return strike damage ++ [.act (.inflict status)]

def inflictTwoStatuses : Rule where
  name := "inflict two statuses"
  template := [
    .text "The Defending Pokémon is now ", .status "first" Status.all, .text " and ",
    .status "second" Status.all, .text "."]
  triggers := [.defending]
  usesDamage := true
  examples := ["The Defending Pokémon is now Confused and Poisoned."]
  build slots damage := do
    let first ← slots.status? "first"
    let second ← slots.status? "second"
    return strike damage ++ [.act (.inflict first), .act (.inflict second)]

/-- A counter stands for ten points of the stated poison damage. -/
def severePoison : Rule where
  name := "severe poison"
  template := [
    .text "The Defending Pokémon is now Poisoned. It now takes ", .number "amount",
    .text " Poison damage instead of 10 after each player's turn."]
  triggers := [.defending]
  usesDamage := true
  examples := [
    "The Defending Pokémon is now Poisoned. It now takes 20 Poison damage instead of 10 after each player's turn."]
  build slots damage := do
    let amount ← slots.number? "amount"
    return strike damage ++ [.act (.severePoison (amount / 10))]

def requiresDefendingStatus : Rule where
  name := "requires defending status"
  template := [
    .text "You can't use this attack unless the Defending Pokémon is ",
    .status "status" Status.all, .text "."]
  triggers := [.defending]
  usesDamage := true
  examples := ["You can't use this attack unless the Defending Pokémon is Asleep."]
  build slots damage := do
    let status ← slots.status? "status"
    return .act (.requireStatus status) :: strike damage

end CardText.Grammar
