import CardText.Proofs.Dispatch.BaseDamage

/-! What base damage does to a script. A rule that deals it has one place for it, whatever fills
the template: in front of the script, or behind the one effect that everything else waits for.
Under damage the script gains a single effect at this place; only where tails undoes the attack
does the place lie in the branch of heads. -/
namespace CardText

open Grammar

/-- A place in a script: among its effects, or first in the branch of heads that stands among
them. -/
inductive Place where
  | top (index : Nat)
  | heads (index : Nat)
  deriving DecidableEq, Repr

def Place.isHeads : Place → Bool
  | top _ => false
  | heads _ => true

/-- The second script is the first with the effect put in at the place. -/
inductive Script.Gains (added : Effect) : Place → Script → Script → Prop
  | top (front back : Script) :
      Gains added (.top front.length) (front ++ back) (front ++ added :: back)
  | heads (front inner back : Script) :
      Gains added (.heads front.length) (front ++ .within .heads inner :: back)
        (front ++ .within .heads (added :: inner) :: back)

/-- Under damage the rule builds what it builds without, with the damage at the place. -/
def Rule.StrikesAt (rule : Rule) (place : Place) : Prop :=
  ∀ slots amount, Option.Rel (Script.Gains (.act (.damage amount)) place)
    (rule.build slots none) (rule.build slots (some amount))

theorem rel_bind {α β γ : Type} {r : β → γ → Prop} (answer : Option α) {f : α → Option β}
    {g : α → Option γ} (h : ∀ a, Option.Rel r (f a) (g a)) :
    Option.Rel r (answer.bind f) (answer.bind g) := by
  cases answer with
  | none => exact .none
  | some a => exact h a

theorem isSome_eq_of_rel {β γ : Type} {r : β → γ → Prop} {answer : Option β} {other : Option γ}
    (h : Option.Rel r answer other) : answer.isSome = other.isSome := by
  cases h <;> rfl

theorem exists_of_rel_some {β γ : Type} {r : β → γ → Prop} {b : β} {other : Option γ}
    (h : Option.Rel r (some b) other) : ∃ c, other = some c ∧ r b c := by
  cases h with
  | some related => exact ⟨_, rfl, related⟩

namespace Grammar

def strikesFirst : List Rule := [
  plainDamage, inflictStatus, inflictTwoStatuses, severePoison, benchesAndSelf, ownBench,
  opponentBench, switchDefending, healIfDidDamage, preventDamageUpTo, preventDamageAndEffects,
  defendingAttackFlips, disableDefendingAttack, drawOne, drawSeveral, selfDamage]

/-- The rules that flip, pay, ask for a condition, lock the attack or discard before they strike. -/
def strikesSecond : List Rule := [
  requiresDefendingStatus, flipHeadsStatus, flipHeadsOrTailsStatus, flipTailsSelfDamage,
  flipExtraDamage, flipHeadsDraw, flipPreventDamage, flipPreventDamageAndEffects,
  discardThenRetaliate, discardThenBarrier, discardTyped, discardAny, discardAll,
  discardDefendingEnergy, onceWhileInPlay]

theorem strikesAt_of_mem_strikesFirst : ∀ rule ∈ strikesFirst, rule.StrikesAt (.top 0) := by
  simp only [strikesFirst, List.forall_mem_cons, List.not_mem_nil, IsEmpty.forall_iff,
    implies_true, and_true]
  and_intros
  -- the slots are read as without damage, and the script is all behind the strike
  all_goals intro slots amount
  all_goals repeat refine rel_bind _ fun _ => ?_
  all_goals exact .some (.top [] _)

theorem strikesAt_of_mem_strikesSecond : ∀ rule ∈ strikesSecond, rule.StrikesAt (.top 1) := by
  simp only [strikesSecond, List.forall_mem_cons, List.not_mem_nil, IsEmpty.forall_iff,
    implies_true, and_true]
  and_intros
  all_goals intro slots amount
  all_goals repeat refine rel_bind _ fun _ => ?_
  all_goals exact .some (.top [_] _)

theorem strikesAt_flipTailsNothing : flipTailsNothing.StrikesAt (.heads 1) :=
  fun _ _ => .some (.heads [.act (.flip 1)] [] [])

theorem exists_strikesAt {rule : Rule} (hrule : rule ∈ grammar) (uses : rule.usesDamage = true) :
    ∃ place, (place.isHeads = true ↔ rule = flipTailsNothing) ∧ rule.StrikesAt place := by
  have names : ∀ rule ∈ grammar, rule.usesDamage = true → rule.name = flipTailsNothing.name ∨
      rule.name ∈ (strikesFirst ++ strikesSecond).map Rule.name := by
    decide +kernel
  have others : ∀ other ∈ strikesFirst ++ strikesSecond, other.name ≠ flipTailsNothing.name := by
    decide +kernel
  have known : strikesFirst ++ strikesSecond ⊆ grammar := by
    simp only [strikesFirst, strikesSecond, grammar, List.cons_append, List.nil_append,
      List.cons_subset, List.mem_cons, true_or, or_true, List.nil_subset, and_self]
  rcases names rule hrule uses with same | inside
  · obtain rfl := Rule.eq_of_name hrule (by simp [grammar]) same
    exact ⟨.heads 1, iff_of_true rfl rfl, strikesAt_flipTailsNothing⟩
  · obtain ⟨other, inside, same⟩ := List.mem_map.mp inside
    obtain rfl := Rule.eq_of_name hrule (known inside) same.symm
    have differs : rule ≠ flipTailsNothing := fun same =>
      others rule inside (congrArg Rule.name same)
    rcases List.mem_append.mp inside with first | second
    · exact ⟨.top 0, iff_of_false Bool.noConfusion differs, strikesAt_of_mem_strikesFirst _ first⟩
    · exact ⟨.top 1, iff_of_false Bool.noConfusion differs, strikesAt_of_mem_strikesSecond _ second⟩

end Grammar

theorem verdict_outcome_eq {winner : Winner} (hrule : winner.rule ∈ grammar)
    (damage : Option Nat) : (winner.outcome damage).verdict = (winner.outcome none).verdict := by
  rw [Winner.verdict_outcome, Winner.verdict_outcome]
  by_cases uses : winner.rule.usesDamage = true
  · obtain ⟨place, _, strikes⟩ := exists_strikesAt hrule uses
    cases damage with
    | none => rfl
    | some amount =>
        simp only [uses, if_true, isSome_eq_of_rel (strikes winner.bindings amount)]
  · simp only [uses, Bool.false_eq_true, if_false]

/-- Base damage decides neither which rule reads a text, nor how long the search takes, nor
whether the rule builds a script. A rule that leaves it alone builds one script under all of
it. One that deals it builds the script without damage and puts a single strike into it, at a
place of its own: in the branch of heads where tails undoes the attack, else outside of all
frames. -/
theorem damage_strikes_once :
    let dispatch gated := (Dispatcher.ofRules grammar gated).dispatch
    (∀ gated text damage other,
      (dispatch gated text damage).metrics = (dispatch gated text other).metrics ∧
        (dispatch gated text damage).outcome.verdict =
          (dispatch gated text other).outcome.verdict) ∧
    (∀ rule ∈ grammar, rule.usesDamage = false → ∀ gated text id script damage other,
      (dispatch gated text damage).outcome = .matched id rule.name script →
        (dispatch gated text other).outcome = .matched id rule.name script) ∧
    ∀ rule ∈ grammar, rule.usesDamage = true →
      ∃ place, (place.isHeads = true ↔ rule = flipTailsNothing) ∧ ∀ gated text id script,
        (dispatch gated text none).outcome = .matched id rule.name script → ∀ amount, ∃ struck,
          (dispatch gated text (some amount)).outcome = .matched id rule.name struck ∧
            script.Gains (.act (.damage amount)) place struck := by
  intro dispatch
  refine ⟨fun gated text damage other => ⟨Dispatcher.metrics_dispatch .., ?_⟩, ?_, ?_⟩
  · rcases Dispatcher.outcome_dispatch_cases (Dispatcher.ofRules grammar gated) text with
      unread | ⟨winner, listed, -, outcome⟩
    · simp only [dispatch, unread]
    · have hrule : winner.rule ∈ grammar := List.mem_of_getElem? listed
      simp only [dispatch, outcome]
      rw [verdict_outcome_eq hrule, verdict_outcome_eq hrule other]
  · intro rule hrule spares gated text id script damage other matched
    obtain ⟨bindings, -, built, outcome⟩ := Rule.built_of_matched hrule matched
    simp only [spares, Bool.false_eq_true, if_false] at built outcome
    rw [outcome, built, Option.elim_some]
  · intro rule hrule uses
    obtain ⟨place, heads, strikes⟩ := exists_strikesAt hrule uses
    refine ⟨place, heads, fun gated text id script matched amount => ?_⟩
    obtain ⟨bindings, -, built, outcome⟩ := Rule.built_of_matched hrule matched
    simp only [uses, if_true] at built outcome
    have both := strikes bindings amount
    rw [built] at both
    obtain ⟨struck, built', gains⟩ := exists_of_rel_some both
    exact ⟨struck, by rw [outcome, built', Option.elim_some], gains⟩

theorem damage_strikes_once_tails :
    let outcome text damage := ((Dispatcher.ofRules grammar true).dispatch text damage).outcome
    let nothing := "Flip a coin. If tails, this attack does nothing."
    let heads := "Flip 2 coins. Does 30 damage times the number of heads."
    (∃ place, place.isHeads = true ∧ ∃ script struck,
      outcome nothing none = .matched 12 flipTailsNothing.name script ∧
        outcome nothing (some 50) = .matched 12 flipTailsNothing.name struck ∧
          script.Gains (.act (.damage 50)) place struck) ∧
      ∃ script, outcome heads none = .matched 8 flipCoinsPerHeads.name script ∧
        outcome heads (some 50) = .matched 8 flipCoinsPerHeads.name script := by
  intro outcome nothing heads
  obtain ⟨_, spares, strikes⟩ := damage_strikes_once
  obtain ⟨place, isHeads, strikes⟩ := strikes flipTailsNothing (by simp [grammar]) rfl
  have decided : (outcome nothing none).verdict = some (12, flipTailsNothing.name, true) ∧
      (outcome heads none).verdict = some (8, flipCoinsPerHeads.name, true) := by
    decide +kernel
  obtain ⟨script, matched⟩ := Outcome.exists_of_verdict decided.1
  obtain ⟨struck, gained, gains⟩ := strikes true nothing 12 script matched 50
  refine ⟨⟨place, isHeads.mpr rfl, script, struck, matched, gained, gains⟩, ?_⟩
  obtain ⟨script, matched⟩ := Outcome.exists_of_verdict decided.2
  have same := spares flipCoinsPerHeads (by simp [grammar]) rfl true heads 8 script none (some 50)
    matched
  exact ⟨script, matched, same⟩

end CardText
