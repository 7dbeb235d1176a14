import CardText.Proofs.Dispatch.BaseDamage
import Mathlib.Tactic.MkIffOfInductiveProp

/-! The order that the generated code relies on. Effects run from the front: a coin is flipped
before its sides are looked at, and a cost is paid before anything that waits for it. No rule of
the grammar builds a script in another order, whatever its slots hold. -/
namespace CardText

open Grammar

namespace Effect

def isFlip : Effect → Bool
  | act (.flip _) => true
  | _ => false

def isSingleFlip : Effect → Bool
  | act (.flip coins) => coins == 1
  | _ => false

def isPerHeads : Effect → Bool
  | act (.damagePerHeads _) => true
  | _ => false

def isWithin (frame : Frame) : Effect → Bool
  | act _ => false
  | within other _ => other == frame

def isGate : Effect → Bool
  | act (.requireStatus _) => true
  | within .cost _ => true
  | _ => false

def paysEnergy : Effect → Bool
  | act (.discardEnergy .attacking _ _) => true
  | act .discardAllEnergy => true
  | _ => false

def sequence? : Effect → Option (Option Frame × Script)
  | act _ => none
  | within frame effects => some (some frame, effects)

end Effect

/-- The sequences of a script, each with the frame that holds it: the script itself, which none
holds, and what its frames hold. -/
def Script.sequences (script : Script) : List (Option Frame × Script) :=
  (none, script) :: (Effect.walkAll script).filterMap Effect.sequence?

@[mk_iff]
structure Script.WellFormed (script : Script) : Prop where
  /-- What a frame holds is not branched any further. -/
  flat : ∀ sequence ∈ script.sequences, sequence.1.isSome = true →
    sequence.2.all Effect.isAction = true
  /-- The sides of a coin belong to the one coin that is flipped first. -/
  flipped : ∀ side ∈ [Frame.heads, Frame.tails],
    (Effect.walkAll script).any (Effect.isWithin side) = true →
      script.head?.any Effect.isSingleFlip = true ∧
        (Effect.walkAll script).countP Effect.isFlip = 1
  /-- A side is looked at once. -/
  once : ∀ side ∈ [Frame.heads, Frame.tails],
    (Effect.walkAll script).countP (Effect.isWithin side) ≤ 1
  /-- Damage that counts heads stands where coins are flipped first. -/
  perHeads : ∀ sequence ∈ script.sequences, sequence.2.any Effect.isPerHeads = true →
    sequence.2.head?.any Effect.isFlip = true
  /-- Only the first effect is a gate; the walk begins with it. -/
  gated : ∀ effect ∈ (Effect.walkAll script).tail, effect.isGate = false
  /-- The attacker gives up energy as a cost only. -/
  paid : ∀ sequence ∈ script.sequences, sequence.2.any Effect.paysEnergy = true →
    sequence.1 = some .cost

instance Script.decidableWellFormed (script : Script) : Decidable script.WellFormed :=
  decidable_of_iff _ (wellFormed_iff script).symm

def Rule.BuildsWellFormed (rule : Rule) : Prop :=
  ∀ slots damage, ∀ script ∈ rule.build slots damage, script.WellFormed

theorem forall_mem_bind {α β : Type} {P : β → Prop} {answer : Option α} {f : α → Option β}
    (h : ∀ a ∈ answer, ∀ b ∈ f a, P b) : ∀ b ∈ answer.bind f, P b := by
  intro b found
  obtain ⟨a, known, found⟩ := Option.mem_bind_iff.mp found
  exact h a known b found

theorem forall_mem_some {β : Type} {P : β → Prop} {b : β} (h : P b) : ∀ c ∈ some b, P c := by
  rintro c ⟨⟩
  exact h

namespace Grammar

theorem exists_of_mem_payTyped {slots : Bindings} {cost : Effect} (h : cost ∈ payTyped slots) :
    ∃ energy count,
      cost = .within .cost [.act (.discardEnergy .attacking (.only energy) count)] := by
  obtain ⟨count, -, h⟩ := Option.mem_bind_iff.mp h
  obtain ⟨energy, -, h⟩ := Option.mem_bind_iff.mp h
  exact ⟨energy, count, (Option.some.inj h).symm⟩

theorem forall_mem_payTyped {P : Script → Prop} {slots : Bindings} {rest : Effect → Option Script}
    (h : ∀ energy count, ∀ script ∈
      rest (.within .cost [.act (.discardEnergy .attacking (.only energy) count)]), P script) :
    ∀ script ∈ (payTyped slots).bind rest, P script := by
  refine forall_mem_bind fun cost paid => ?_
  obtain ⟨energy, count, rfl⟩ := exists_of_mem_payTyped paid
  exact h energy count

theorem buildsWellFormed_typedCosts : discardThenHeal.BuildsWellFormed ∧
    discardThenRetaliate.BuildsWellFormed ∧ discardThenBarrier.BuildsWellFormed ∧
      discardTyped.BuildsWellFormed := by
  and_intros
  all_goals intro slots damage
  all_goals refine forall_mem_payTyped fun energy count => forall_mem_some ?_
  all_goals cases damage <;> exact of_decide_eq_true rfl

theorem buildsWellFormed_plusPerExtraEnergy : plusPerExtraEnergy.BuildsWellFormed := by
  intro slots damage
  iterate 5 refine forall_mem_bind fun _ _ => ?_
  split
  · exact forall_mem_some (of_decide_eq_true rfl)
  · exact fun _ found => absurd found (Option.not_mem_none _)

theorem grammar_buildsWellFormed : ∀ rule ∈ grammar, rule.BuildsWellFormed := by
  obtain ⟨heal, retaliate, barrier, typed⟩ := buildsWellFormed_typedCosts
  simp only [grammar, List.forall_mem_cons, List.not_mem_nil, IsEmpty.forall_iff, implies_true,
    and_true, heal, retaliate, barrier, typed, buildsWellFormed_plusPerExtraEnergy, true_and]
  and_intros
  -- the other rules read their slots one by one, and no field looks at what the slots hold
  all_goals intro slots damage
  all_goals repeat refine forall_mem_bind fun _ _ => ?_
  all_goals refine forall_mem_some ?_
  all_goals cases damage <;> exact of_decide_eq_true rfl

end Grammar

/-- Every script that a text is matched with is well formed. -/
theorem wellFormed_of_matched {gated : Bool} {text : String} {damage : Option Nat} {id : Nat}
    {name : String} {script : Script}
    (h : ((Dispatcher.ofRules grammar gated).dispatch text damage).outcome =
      .matched id name script) : script.WellFormed := by
  obtain ⟨rule, slots, listed, -, -, built, -⟩ := Dispatcher.exists_winner_of_matched h
  exact grammar_buildsWellFormed rule (List.mem_of_getElem? listed) slots _ script built

theorem wellFormed_of_matched_sides :
    ∃ script, ((Dispatcher.ofRules grammar true).dispatch
      "Flip a coin. If heads, the Defending Pokémon is now Paralyzed; if tails, it is now Confused."
      (some 30)).outcome = .matched 6 flipHeadsOrTailsStatus.name script ∧ script.WellFormed := by
  have decided : ((Dispatcher.ofRules grammar true).dispatch
      "Flip a coin. If heads, the Defending Pokémon is now Paralyzed; if tails, it is now Confused."
      (some 30)).outcome.verdict = some (6, flipHeadsOrTailsStatus.name, true) := by
    decide +kernel
  obtain ⟨script, matched⟩ := Outcome.exists_of_verdict decided
  exact ⟨script, matched, wellFormed_of_matched matched⟩

end CardText
