import CardText.Dispatch
import Mathlib.Data.List.Basic

/-! The winner of a dispatch, apart from the index and the numbering of the rules. A plain
search finds the first rule that accepts the text, the scan that counts finds the same one, and
an ungated dispatcher answers with the name and the script of that rule. -/
namespace CardText

def firstReader? (rules : List Rule) (text : String) : Option (Rule × Bindings) :=
  rules.findSome? fun rule => (rule.template.bind? text).map (rule, ·)

theorem findSome?_filter_of_forall {α β : Type} {f : α → Option β} {p : α → Bool} {l : List α}
    (h : ∀ x ∈ l, p x = false → f x = none) : (l.filter p).findSome? f = l.findSome? f := by
  induction l with
  | nil => rfl
  | cons x l ih =>
      have ih := ih fun y hy => h y (by simp [hy])
      cases hp : p x with
      | true => rw [List.filter_cons_of_pos hp, List.findSome?_cons, List.findSome?_cons, ih]
      | false =>
          rw [List.filter_cons_of_neg (by simp [hp]), List.findSome?_cons,
            h x (by simp) hp, ih]

theorem findSome?_range_getElem? {α β : Type} (f : α → Option β) (l : List α) :
    ((List.range l.length).findSome? fun i => l[i]?.bind f) = l.findSome? f := by
  induction l with
  | nil => rfl
  | cons x l ih =>
      rw [List.length_cons, List.range_succ_eq_map, List.findSome?_cons, List.findSome?_map,
        List.findSome?_cons]
      simp only [List.getElem?_cons_zero, Option.bind_some, Function.comp_def,
        Nat.succ_eq_add_one, List.getElem?_cons_succ, ih]

namespace Dispatcher

/-- The winner of a plain search, which counts nothing. -/
def winner? (dispatcher : Dispatcher) (text : String) (active : List Nat) : Option Winner :=
  active.findSome? (dispatcher.attempt? text)

theorem fst_scan (dispatcher : Dispatcher) (text : String) (tried : Nat) (active : List Nat) :
    (dispatcher.scan text tried active).1 = dispatcher.winner? text active := by
  induction active generalizing tried with
  | nil => rfl
  | cons id active ih =>
      rw [scan, winner?, List.findSome?_cons]
      cases dispatcher.attempt? text id with
      | none => exact ih (tried + 1)
      | some winner => rfl

theorem scan_append {dispatcher : Dispatcher} {text : String} {tried : Nat} {before : List Nat}
    (fails : ∀ id ∈ before, dispatcher.attempt? text id = none) (after : List Nat) :
    dispatcher.scan text tried (before ++ after) =
      dispatcher.scan text (tried + before.length) after := by
  induction before generalizing tried with
  | nil => rfl
  | cons id before ih =>
      obtain ⟨first, others⟩ := List.forall_mem_cons.mp fails
      rw [List.cons_append, scan, first, List.length_cons, Nat.add_comm before.length,
        ← Nat.add_assoc]
      exact ih others

theorem outcome_dispatch (dispatcher : Dispatcher) (text : String) (damage : Option Nat) :
    (dispatcher.dispatch text damage).outcome =
      ((dispatcher.winner? text (dispatcher.active (Trigger.scan text))).map
        fun winner => winner.outcome damage).getD .unmatched := by
  rw [← fst_scan dispatcher text 0, dispatch]
  rcases dispatcher.scan text 0 (dispatcher.active (Trigger.scan text)) with ⟨_ | winner, tried⟩ <;>
    rfl

theorem of_winner? {dispatcher : Dispatcher} {text : String} {active : List Nat} {winner : Winner}
    (h : dispatcher.winner? text active = some winner) :
    dispatcher.rules[winner.id]? = some winner.rule ∧
      winner.rule.template.bind? text = some winner.bindings := by
  obtain ⟨id, -, found⟩ := List.exists_of_findSome?_eq_some h
  simp only [attempt?, bind, Option.bind_eq_some_iff, pure, Option.some.injEq] at found
  obtain ⟨rule, listed, bindings, accepted, rfl⟩ := found
  exact ⟨listed, accepted⟩

theorem winner?_ungated (rules : List Rule) (text : String) (present : List Trigger) :
    (((ofRules rules false).winner? text ((ofRules rules false).active present)).map
      fun winner => (winner.rule, winner.bindings)) = firstReader? rules text := by
  rw [firstReader?, ← findSome?_range_getElem?, winner?, List.map_findSome?]
  refine congrArg (fun f => List.findSome? f _) (funext fun id => ?_)
  simp only [ofRules, attempt?, Function.comp_apply]
  cases rules[id]? with
  | none => rfl
  | some rule => cases hbind : rule.template.bind? text <;> simp [hbind]

theorem rule?_dispatch_ungated (rules : List Rule) (text : String) (damage : Option Nat) :
    ((ofRules rules false).dispatch text damage).outcome.rule? =
      (firstReader? rules text).map fun (rule, _) => rule.name := by
  rw [outcome_dispatch, ← winner?_ungated rules text (Trigger.scan text)]
  cases (ofRules rules false).winner? text _ with
  | none => rfl
  | some winner =>
      simp only [Option.map_some, Option.getD_some, Winner.outcome]
      split <;> rfl

theorem script?_dispatch_ungated (rules : List Rule) (text : String) (damage : Option Nat) :
    ((ofRules rules false).dispatch text damage).outcome.script? =
      (firstReader? rules text).bind fun (rule, bindings) =>
        rule.build bindings (if rule.usesDamage then damage else none) := by
  rw [outcome_dispatch, ← winner?_ungated rules text (Trigger.scan text)]
  cases (ofRules rules false).winner? text _ with
  | none => rfl
  | some winner =>
      simp only [Option.map_some, Option.getD_some, Option.bind_some, Winner.outcome]
      split <;> simp_all [Outcome.script?]

end Dispatcher
end CardText
