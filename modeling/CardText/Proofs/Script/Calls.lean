import CardText.Script.Method

/-! Scripts that calls build. An action has a call of its own, which performs it and nothing
else; a script is built by calls one after the other, and inside a call by calls again. -/
namespace CardText

namespace Action

/-- The arguments with which a call of its method performs the action. -/
def given : Action → List Argument
  | .damage n | .severePoison n | .selfDamage n | .damagePerHeads n | .heal n | .draw n
  | .protect (.upTo n) | .counterDamage _ n .times _ => [.amount n]
  | .flip 1 => []
  | .flip n => [.amount n]
  | .counterDamage base n _ _ | .defendingEnergyDamage base n => [.amount base, .amount n]
  | .extraEnergyDamage base n energy cap =>
      [.amount base, .amount n, .energy (.only energy), .amount cap]
  | .discardEnergy _ choice count => [.energy choice, .amount count]
  | .changeOwnResistance list | .changeDefendingWeakness list => [.energies list]
  | _ => []

/-- Counters that multiply leave no room for a base. -/
def IsStandard : Action → Prop
  | .counterDamage base _ .times _ => base = 0
  | _ => True

theorem effects?_given {action : Action} (h : action.IsStandard) (nested : Script) :
    (Call.mk action.method action.given nested).effects? = some [.act action] := by
  cases action with
  | inflict status => cases status <;> rfl
  | flip coins =>
      match coins with
      | 0 => rfl
      | 1 => rfl
      | _ + 2 => rfl
  | counterDamage base n scaling on =>
      cases scaling with
      | times =>
          rw [IsStandard] at h
          subst h
          cases on <;> rfl
      | plus => cases on <;> rfl
      | minus => cases on <;> rfl
  | discardEnergy side choice count => cases side <;> rfl
  | protect protection => cases protection <;> rfl
  | requireStatus status => cases status <;> rfl
  | _ => rfl

end Action

theorem Frame.effects?_nested (frame : Frame) (nested : Script) :
    (Call.mk frame.method [] nested).effects? = some [.within frame nested] := by
  cases frame <;> rfl

namespace Call

theorem isStandard_of_action? {method : String} {arguments : List Argument} {action : Action}
    (h : action? method arguments = some action) : action.IsStandard := by
  have constants : ∀ action ∈ constantActions, action.IsStandard := by
    simp [constantActions, Action.IsStandard]
  rw [action?.eq_def] at h
  split at h
  case h_22 => exact constants action (List.mem_of_find?_eq_some h)
  all_goals cases h
  all_goals trivial

theorem effects?_cases {call : Call} {added : Script} (h : call.effects? = some added) :
    (∃ frame, added = [.within frame call.nested]) ∨
      (∃ action : Action, action.IsStandard ∧ added = [.act action]) ∨ added = [] := by
  rw [effects?.eq_def] at h
  split at h
  case h_1 => exact .inl ⟨_, (Option.some.inj h).symm⟩
  case h_2 => exact .inr (.inr (Option.some.inj h).symm)
  case h_3 => exact .inr (.inl ⟨.damage _, trivial, (Option.some.inj h).symm⟩)
  case h_4 =>
      obtain ⟨action, read, rfl⟩ := Option.map_eq_some_iff.mp h
      exact .inr (.inl ⟨action, isStandard_of_action? read, rfl⟩)
  case h_5 => cases h

end Call

@[simp] theorem Effect.walkAll_append (front back : Script) :
    walkAll (front ++ back) = walkAll front ++ walkAll back := by
  induction front with
  | nil => rfl
  | cons effect front ih => simp [walkAll, ih]

/-- A script that some calls leave behind, each closure filled by calls in the same way. -/
inductive Script.Built : Script → Prop
  | start : Built []
  | call {script added : Script} {call : Call} (before : Built script) (nested : Built call.nested)
      (adds : call.effects? = some added) : Built (script ++ added)

theorem Script.Built.act {script : Script} (h : script.Built) (action : Action)
    (standard : action.IsStandard) : Built (script ++ [.act action]) :=
  h.call .start (Action.effects?_given standard [])

theorem Script.Built.within {script nested : Script} (h : script.Built) (frame : Frame)
    (inner : nested.Built) : Built (script ++ [.within frame nested]) :=
  h.call inner (Frame.effects?_nested frame nested)

def Script.DiscardsCards (script : Script) : Prop :=
  ∀ side choice count, .act (.discardEnergy side choice count) ∈ Effect.walkAll script → 1 ≤ count

theorem Script.Built.isStandard {script : Script} (h : script.Built) {action : Action}
    (inside : Effect.act action ∈ Effect.walkAll script) : action.IsStandard := by
  induction h with
  | start => simp [Effect.walkAll] at inside
  | call before nested adds before_standard nested_standard =>
      rw [Effect.walkAll_append, List.mem_append] at inside
      rcases inside with earlier | inside
      · exact before_standard earlier
      · rcases Call.effects?_cases adds with ⟨frame, rfl⟩ | ⟨other, standard, rfl⟩ | rfl
        · exact nested_standard (by simpa [Effect.walkAll, Effect.walk] using inside)
        · have same : action = other := by simpa [Effect.walkAll, Effect.walk] using inside
          exact same ▸ standard
        · simp [Effect.walkAll] at inside

end CardText
