import CardText.Proofs.Dispatch.Scan
import CardText.Proofs.Grammar.Building

/-! What base damage cannot change. The search for a winner does not see it: it finds the same
rule with the same bindings and counts the same steps, and only what that rule builds from
them may differ. -/
namespace CardText

/-- The outcome apart from its script: the rule, if any, and whether it built one. -/
def Outcome.verdict : Outcome → Option (Nat × String × Bool)
  | matched id rule _ => some (id, rule, true)
  | rejected id rule => some (id, rule, false)
  | unmatched => none

theorem Outcome.exists_of_verdict {outcome : Outcome} {id : Nat} {rule : String}
    (h : outcome.verdict = some (id, rule, true)) :
    ∃ script, outcome = .matched id rule script := by
  cases outcome with
  | matched found name script =>
      obtain ⟨rfl, rfl⟩ : found = id ∧ name = rule := by simpa [verdict] using h
      exact ⟨script, rfl⟩
  | rejected found name => simp [verdict] at h
  | unmatched => simp [verdict] at h

theorem Winner.verdict_outcome (winner : Winner) (damage : Option Nat) :
    (winner.outcome damage).verdict =
      some (winner.id, winner.rule.name, (winner.rule.build winner.bindings
        (if winner.rule.usesDamage then damage else none)).isSome) := by
  rw [outcome_eq_elim]
  cases winner.rule.build winner.bindings (if winner.rule.usesDamage then damage else none) <;> rfl

namespace Dispatcher

variable {dispatcher : Dispatcher} {text : String}

theorem metrics_dispatch (dispatcher : Dispatcher) (text : String) (damage other : Option Nat) :
    (dispatcher.dispatch text damage).metrics = (dispatcher.dispatch text other).metrics := by
  simp only [dispatch]
  split <;> rfl

theorem outcome_dispatch_cases (dispatcher : Dispatcher) (text : String) :
    (∀ damage, (dispatcher.dispatch text damage).outcome = .unmatched) ∨
      ∃ winner : Winner, dispatcher.rules[winner.id]? = some winner.rule ∧
        winner.rule.template.bind? text = some winner.bindings ∧
        ∀ damage, (dispatcher.dispatch text damage).outcome = winner.outcome damage := by
  cases found : dispatcher.winner? text (dispatcher.active (Trigger.scan text)) with
  | none =>
      refine .inl fun damage => ?_
      rw [outcome_dispatch, found]
      rfl
  | some winner =>
      obtain ⟨listed, accepted⟩ := of_winner? found
      refine .inr ⟨winner, listed, accepted, fun damage => ?_⟩
      rw [outcome_dispatch, found]
      rfl

theorem exists_winner_of_matched {damage : Option Nat} {id : Nat} {name : String}
    {script : Script} (h : (dispatcher.dispatch text damage).outcome = .matched id name script) :
    ∃ rule bindings, dispatcher.rules[id]? = some rule ∧ rule.name = name ∧
      rule.template.bind? text = some bindings ∧
      rule.build bindings (if rule.usesDamage then damage else none) = some script ∧
      ∀ other, (dispatcher.dispatch text other).outcome =
        Winner.outcome ⟨id, rule, bindings⟩ other := by
  rcases outcome_dispatch_cases dispatcher text with unread | ⟨winner, listed, accepted, outcome⟩
  · rw [unread damage] at h
    exact Outcome.noConfusion h
  · rw [outcome damage, Winner.outcome] at h
    split at h
    · rename_i built
      obtain ⟨rfl, rfl, rfl⟩ := Outcome.matched.inj h
      exact ⟨winner.rule, winner.bindings, listed, rfl, accepted, built, outcome⟩
    · exact Outcome.noConfusion h

end Dispatcher

theorem Rule.built_of_matched {rule : Rule} (hrule : rule ∈ grammar) {gated : Bool}
    {text : String} {damage : Option Nat} {id : Nat} {script : Script}
    (h : ((Dispatcher.ofRules grammar gated).dispatch text damage).outcome =
      .matched id rule.name script) :
    ∃ slots, rule.template.bind? text = some slots ∧
      rule.build slots (if rule.usesDamage then damage else none) = some script ∧
      ∀ other, ((Dispatcher.ofRules grammar gated).dispatch text other).outcome =
        (rule.build slots (if rule.usesDamage then other else none)).elim
          (.rejected id rule.name) (.matched id rule.name) := by
  obtain ⟨found, slots, listed, named, accepted, built, outcome⟩ :=
    Dispatcher.exists_winner_of_matched h
  obtain rfl := Rule.eq_of_name (List.mem_of_getElem? listed) hrule named
  exact ⟨slots, accepted, built, fun other => by rw [outcome, Winner.outcome_eq_elim]⟩

end CardText
