import CardText.Proofs.Dispatch.FirstMatch
import CardText.Proofs.Grammar.Survey
import Mathlib.Data.List.Nodup

/-! How far the order of the grammar matters. A text has two readers only where a rule of own
damage counters gives a creature a name that goes on to the end of the sentence; then the
last rule reads the text too. Every order that keeps these three rules before the last one
leads to the same winner. -/
namespace CardText

open Grammar

def Grammar.ownCounters : List Rule := [perOwnCounter, minusPerOwnCounter, plusPerOwnCounter]

theorem not_pair_sublist_of_nodup {α : Type} {l : List α} (hnodup : l.Nodup) {a b : α}
    (h : [a, b].Sublist l) : ¬ [b, a].Sublist l := by
  induction l with
  | nil => simp at h
  | cons x l ih =>
      obtain ⟨hx, hnodup⟩ := List.nodup_cons.mp hnodup
      intro h'
      rw [List.cons_sublist_cons'] at h h'
      rcases h with h | ⟨rfl, h⟩ <;> rcases h' with h' | ⟨rfl, h'⟩
      · exact ih hnodup h h'
      · exact hx (h.subset (by simp))
      · exact hx (h'.subset (by simp))
      · exact hx (h.subset (by simp))

theorem pair_sublist_of_findSome? {α β : Type} {f : α → Option β} {l : List α} {answer : β}
    (h : l.findSome? f = some answer) :
    ∃ first ∈ l, f first = some answer ∧
      ∀ other ∈ l, (f other).isSome = true → other ≠ first → [first, other].Sublist l := by
  obtain ⟨l₁, first, l₂, rfl, hfirst, hnone⟩ := List.findSome?_eq_some_iff.mp h
  refine ⟨first, by simp, hfirst, fun other hother hsome hne => ?_⟩
  have hmem : other ∈ l₂ := by
    rcases List.mem_append.mp hother with hmem | hmem
    · simp [hnone other hmem] at hsome
    · exact (List.mem_cons.mp hmem).resolve_left hne
  exact ((List.singleton_sublist.mpr hmem).cons_cons first).trans
    (List.sublist_append_right l₁ (first :: l₂))

theorem findSome?_eq_of_perm {α β : Type} {f : α → Option β} {l l' : List α} (hperm : l.Perm l')
    (h : ∀ a b, [a, b].Sublist l → [b, a].Sublist l' →
      (f a).isSome = true → (f b).isSome = true → a = b) : l.findSome? f = l'.findSome? f := by
  cases hl : l.findSome? f with
  | none =>
      symm
      rw [List.findSome?_eq_none_iff] at hl ⊢
      exact fun a ha => hl a (hperm.mem_iff.mpr ha)
  | some answer =>
      obtain ⟨a, ha, hanswer, hbefore⟩ := pair_sublist_of_findSome? hl
      have hsome : (l'.findSome? f).isSome = true :=
        List.findSome?_isSome_iff.mpr ⟨a, hperm.mem_iff.mp ha, by simp [hanswer]⟩
      obtain ⟨answer', hl'⟩ := Option.isSome_iff_exists.mp hsome
      obtain ⟨b, hb, hanswer', hbefore'⟩ := pair_sublist_of_findSome? hl'
      have hfa : (f a).isSome = true := by simp [hanswer]
      have hfb : (f b).isSome = true := by simp [hanswer']
      have hab : a = b := by
        by_contra hne
        exact hne (h a b (hbefore b (hperm.mem_iff.mpr hb) hfb (Ne.symm hne))
          (hbefore' a (hperm.mem_iff.mp ha) hfa hne) hfa hfb)
      rw [hl', ← hanswer, hab, hanswer']

theorem grammar_pairwise_overlap : grammar.Pairwise fun first second => ∀ text,
    first.accepts text = true → second.accepts text = true →
      first ∈ ownCounters ∧ second = selfDamage := by
  refine List.pairwise_iff_getElem.mpr fun i j hi hj hij text hfirst hsecond => ?_
  have hpair := grammar_overlap hij (List.getElem?_eq_getElem hi) (List.getElem?_eq_getElem hj)
    hfirst hsecond
  simp only [List.mem_cons, Prod.mk.injEq, List.not_mem_nil, or_false] at hpair
  rcases hpair with ⟨rfl, rfl⟩ | ⟨rfl, rfl⟩ | ⟨rfl, rfl⟩
  · exact ⟨by simp [ownCounters, grammar], rfl⟩
  · exact ⟨by simp [ownCounters, grammar], rfl⟩
  · exact ⟨by simp [ownCounters, grammar], rfl⟩

theorem firstReader?_of_perm {rules : List Rule} (hperm : rules.Perm grammar)
    (horder : ∀ counter ∈ ownCounters, [counter, selfDamage].Sublist rules) (text : String) :
    firstReader? rules text = firstReader? grammar text := by
  have hgrammar : grammar.Nodup := List.Nodup.of_map Rule.name grammar_names_nodup
  have hnodup : rules.Nodup := hperm.nodup_iff.mpr hgrammar
  refine findSome?_eq_of_perm hperm fun second first hrules hpair hsecond hfirst => ?_
  rw [Option.isSome_map] at hsecond hfirst
  obtain ⟨hcounter, rfl⟩ :=
    List.pairwise_iff_forall_sublist.mp grammar_pairwise_overlap hpair text hfirst hsecond
  exact absurd hrules (not_pair_sublist_of_nodup hnodup (horder first hcounter))

/-- The grammar is unambiguous but for own damage counters, and no order that keeps their
rules before the last one reads any text otherwise. -/
theorem order_keeps_winner :
    (grammar.Pairwise fun first second => ∀ text,
      first.accepts text = true → second.accepts text = true →
        first ∈ ownCounters ∧ second = selfDamage) ∧
      grammar.getLast? = some selfDamage ∧
      ∀ rules, rules.Perm grammar →
        (∀ counter ∈ ownCounters, [counter, selfDamage].Sublist rules) →
          ∀ (text : String) (damage : Option Nat),
            let outcome rules := ((Dispatcher.ofRules rules false).dispatch text damage).outcome
            (outcome rules).rule? = (outcome grammar).rule? ∧
              (outcome rules).script? = (outcome grammar).script? := by
  refine ⟨grammar_pairwise_overlap, rfl, fun rules hperm horder text damage => ⟨?_, ?_⟩⟩
  · rw [Dispatcher.rule?_dispatch_ungated, Dispatcher.rule?_dispatch_ungated,
      firstReader?_of_perm hperm horder]
  · rw [Dispatcher.script?_dispatch_ungated, Dispatcher.script?_dispatch_ungated,
      firstReader?_of_perm hperm horder]

theorem order_keeps_winner_reverse :
    let rules := (grammar.take 45).reverse ++ [selfDamage]
    let text := "Does 1 damage times the number of damage counters on X does 3 damage to itself."
    let outcome rules := ((Dispatcher.ofRules rules false).dispatch text none).outcome
    rules.Perm grammar ∧
      (∀ counter ∈ ownCounters, [counter, selfDamage].Sublist rules) ∧
      perOwnCounter.accepts text = true ∧
      selfDamage.accepts text = true ∧
      (outcome rules).rule? = (outcome grammar).rule? := by
  intro rules text outcome
  have hperm : rules.Perm grammar := (List.reverse_perm _).append_right [selfDamage]
  have horder : ∀ counter ∈ ownCounters, [counter, selfDamage].Sublist rules := by
    intro counter hcounter
    have hmem : counter ∈ (grammar.take 45).reverse := by
      rw [List.mem_reverse]
      revert counter
      simp [ownCounters, grammar]
    exact (List.singleton_sublist.mpr hmem).append (List.Sublist.refl [selfDamage])
  have hcounter : perOwnCounter.accepts text = true := by decide +kernel
  have hself : selfDamage.accepts text = true := by decide +kernel
  exact ⟨hperm, horder, hcounter, hself,
    (order_keeps_winner.2.2 rules hperm horder text none).1⟩

end CardText
