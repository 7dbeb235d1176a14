import CardText.Effect

/-! The method that performs each effect in a script, and the effects that a call of a
method stands for. A call of `damage` without an amount stands for none. -/
namespace CardText

def Action.method : Action → String
  | .damage _ => "damage"
  | .inflict status => status.verb
  | .severePoison _ => "severe_poison"
  | .flip 1 => "flip_a_coin"
  | .flip _ => "flip_coins"
  | .selfDamage _ => "damage_self"
  | .damagePerHeads _ => "damage_per_heads"
  | .counterDamage _ _ .times .attacking => "damage_per_damage_counter_on_itself"
  | .counterDamage _ _ .times .defending => "damage_per_damage_counter_on_defending"
  | .counterDamage _ _ .plus .attacking => "damage_plus_per_damage_counter_on_itself"
  | .counterDamage _ _ .minus .attacking => "damage_minus_per_damage_counter_on_itself"
  | .counterDamage _ _ .plus .defending => "damage_plus_per_damage_counter_on_defending"
  | .counterDamage _ _ .minus .defending => "damage_minus_per_damage_counter_on_defending"
  | .extraEnergyDamage .. => "damage_plus_per_extra_energy_on_attacking"
  | .defendingEnergyDamage .. => "damage_plus_per_energy_card_on_defending"
  | .halveRemainingHp => "damage_half_defending_remaining_hp"
  | .discardEnergy .attacking _ _ => "discard_attacking_energy_cards"
  | .discardEnergy .defending _ _ => "discard_defending_energy_cards"
  | .discardAllEnergy => "discard_all_attacking_energy_cards"
  | .healAll => "heal_all_attacking"
  | .heal _ => "heal_attacking"
  | .protect .fromDamage => "prevent_damage_during_opponents_next_turn"
  | .protect .fromDamageAndEffects => "prevent_damage_and_effects_during_opponents_next_turn"
  | .protect (.upTo _) => "prevent_damage_up_to_during_opponents_next_turn"
  | .protect .coinFlip => "prevent_attack_on_a_flip_during_opponents_next_turn"
  | .onceWhileInPlay => "once_while_in_play"
  | .switchDefending => "switch_defending"
  | .disableDefendingAttack => "disable_defending_attack"
  | .copyDefendingAttack => "copy_defending_attack_without_costs"
  | .changeOwnResistance _ => "change_attacking_resistance_except"
  | .changeDefendingWeakness _ => "change_defending_weakness_except"
  | .draw _ => "draw"
  | .requireStatus .asleep => "defending_must_be_asleep"
  | .requireStatus .confused => "defending_must_be_confused"
  | .requireStatus .paralyzed => "defending_must_be_paralyzed"
  | .requireStatus .poisoned => "defending_must_be_poisoned"
  | .retaliate => "knock_out_attacker_if_attacking_is_knocked_out_next_turn"

def Frame.method : Frame → String
  | .heads => "if_heads"
  | .tails => "if_tails"
  | .didDamage => "if_did_damage"
  | .ownBench => "each_own_bench"
  | .opponentBench => "each_opponents_bench"
  | .cost => "must"

def Effect.method : Effect → String
  | .act action => action.method
  | .within frame _ => frame.method

def Script.methods (script : Script) : List String := (Effect.walkAll script).map Effect.method

inductive Argument where
  | absent
  | amount (n : Nat)
  | status (status : Status)
  | energy (choice : EnergyChoice)
  | energies (list : List Energy)
  deriving DecidableEq, Repr

structure Call where
  method : String
  arguments : List Argument
  nested : Script

namespace Call

def frame? (method : String) : Option Frame :=
  [Frame.heads, .tails, .didDamage, .ownBench, .opponentBench, .cost].find? (·.method == method)

/-- Methods that take no argument, the coin and the conditions among them. -/
def constantActions : List Action := [
  .inflict .asleep, .inflict .confused, .inflict .paralyzed, .inflict .poisoned, .flip 1,
  .halveRemainingHp, .discardAllEnergy, .healAll, .protect .fromDamage,
  .protect .fromDamageAndEffects, .protect .coinFlip, .onceWhileInPlay, .switchDefending,
  .disableDefendingAttack, .copyDefendingAttack, .requireStatus .asleep, .requireStatus .confused,
  .requireStatus .paralyzed, .requireStatus .poisoned, .retaliate]

def action? : String → List Argument → Option Action
  | "inflict", [.status status] => some (.inflict status)
  | "severe_poison", [.amount n] => some (.severePoison n)
  | "flip_coins", [.amount n] => some (.flip n)
  | "damage_self", [.amount n] => some (.selfDamage n)
  | "damage_per_heads", [.amount n] => some (.damagePerHeads n)
  | "damage_per_damage_counter_on_itself", [.amount n] => some (.counterDamage 0 n .times .attacking)
  | "damage_per_damage_counter_on_defending", [.amount n] =>
      some (.counterDamage 0 n .times .defending)
  | "damage_plus_per_damage_counter_on_itself", [.amount base, .amount n] =>
      some (.counterDamage base n .plus .attacking)
  | "damage_minus_per_damage_counter_on_itself", [.amount base, .amount n] =>
      some (.counterDamage base n .minus .attacking)
  | "damage_plus_per_damage_counter_on_defending", [.amount base, .amount n] =>
      some (.counterDamage base n .plus .defending)
  | "damage_minus_per_damage_counter_on_defending", [.amount base, .amount n] =>
      some (.counterDamage base n .minus .defending)
  | "damage_plus_per_extra_energy_on_attacking",
      [.amount base, .amount n, .energy (.only energy), .amount cap] =>
      some (.extraEnergyDamage base n energy cap)
  | "damage_plus_per_energy_card_on_defending", [.amount base, .amount n] =>
      some (.defendingEnergyDamage base n)
  | "discard_attacking_energy_cards", [.energy choice, .amount n] =>
      some (.discardEnergy .attacking choice n)
  | "discard_defending_energy_cards", [.energy choice, .amount n] =>
      some (.discardEnergy .defending choice n)
  | "heal_attacking", [.amount n] => some (.heal n)
  | "prevent_damage_up_to_during_opponents_next_turn", [.amount n] => some (.protect (.upTo n))
  | "change_attacking_resistance_except", [.energies list] => some (.changeOwnResistance list)
  | "change_defending_weakness_except", [.energies list] => some (.changeDefendingWeakness list)
  | "draw", [.amount n] => some (.draw n)
  | "defending_must_be", [.status status] => some (.requireStatus status)
  | method, [] => constantActions.find? (·.method == method)
  | _, _ => none

/-- What the call adds to a script, if there is such a call. -/
def effects? (call : Call) : Option Script :=
  match frame? call.method, call.method, call.arguments with
  | some frame, _, [] => some [.within frame call.nested]
  | none, "damage", [.absent] => some []
  | none, "damage", [.amount n] => some (strike (some n))
  | none, method, arguments => (action? method arguments).map fun action => [.act action]
  | _, _, _ => none

end Call
end CardText
