import CardText.Proofs.Dispatch.Scan
import CardText.Proofs.Generation.Combined

/-! The two ledgers of a run. The usage books each attack under the rule that accepted its text,
or as a miss; the reports count the attacks that were left without a script. An attack whose rule
refused it is a hit in the first ledger and unread in the second, so they differ by exactly these
attacks, in each set and over all of them. -/
namespace CardText

namespace Usage

/-- What the usage holds after dispatches that were decided by these rules, if by any. -/
structure Records (usage : Usage) (decided : List (Option String)) : Prop where
  canonical : usage.Canonical
  positive : usage.hits.Positive
  total_eq : usage.hits.total + usage.misses = decided.length
  count_eq : ∀ name, usage.hits.count name = decided.count (some name)
  misses_eq : usage.misses = decided.count none

namespace Records

variable {usage : Usage} {decided : List (Option String)}

theorem empty : Records .empty [] :=
  ⟨.empty, by simp [Usage.empty, Tally.Positive], rfl, fun _ => rfl, rfl⟩

theorem record (h : usage.Records decided) (rule : Option String) :
    (usage.record rule).Records (decided ++ [rule]) := by
  have total := h.total_eq
  have misses := h.misses_eq
  cases rule with
  | none =>
      refine ⟨h.canonical, h.positive, ?_, fun name => ?_, ?_⟩
      · simp only [Usage.record, List.length_append, List.length_singleton]
        omega
      · simp [Usage.record, h.count_eq]
      · simp [Usage.record, misses]
  | some rule =>
      refine ⟨h.canonical.record _, h.positive.add (Nat.le_refl 1), ?_, fun name => ?_, ?_⟩
      · simp only [Usage.record, Tally.total_add, List.length_append, List.length_singleton]
        omega
      · have counted := h.count_eq name
        rw [Tally.count] at counted
        simp [Usage.record, Tally.count, counted, List.count_append, List.count_singleton]
      · simp [Usage.record, misses]

theorem foldl (h : usage.Records decided) (later : List (Option String)) :
    (later.foldl Usage.record usage).Records (decided ++ later) := by
  induction later generalizing usage decided with
  | nil => simpa using h
  | cons rule later ih => simpa using ih (h.record rule)

theorem mem_hits_iff (h : usage.Records decided) {name : String} {n : Nat} :
    (name, n) ∈ usage.hits ↔ 0 < n ∧ decided.count (some name) = n := by
  rw [Tally.Ascending.mem_iff h.canonical, ← h.count_eq]
  constructor
  · rintro ⟨key, counted⟩
    have entry : (name, n) ∈ usage.hits := (Tally.Ascending.mem_iff h.canonical).mpr ⟨key, counted⟩
    exact ⟨h.positive _ entry, counted⟩
  · rintro ⟨positive, counted⟩
    refine ⟨?_, counted⟩
    -- A key that is absent counts for nothing.
    by_contra absent
    have none : usage.hits.count name = 0 :=
      Tally.countOf_eq_zero fun key inside => beq_false_of_ne fun equal => absent (equal ▸ inside)
    omega

theorem rulesFired_le (h : usage.Records decided) {names : List String}
    (known : ∀ name, some name ∈ decided → name ∈ names) : usage.rulesFired ≤ names.length := by
  have fired : usage.hits.keys ⊆ names := by
    intro name key
    obtain ⟨⟨name, n⟩, entry, rfl⟩ := List.mem_map.mp key
    obtain ⟨positive, counted⟩ := h.mem_hits_iff.mp entry
    exact known name (List.count_pos_iff.mp (counted ▸ positive))
  have bound := (List.subperm_of_subset (nodup_of_pairwise_lt h.canonical) fired).length_le
  rwa [Tally.keys, List.length_map] at bound

end Records
end Usage

namespace Dispatcher

variable (dispatcher : Dispatcher)

def dispatchOf (attack : Attack) : Dispatch :=
  dispatcher.dispatch (Wording.normalize attack.text) attack.damage

def winnerOf (attack : Attack) : Option Winner :=
  let text := Wording.normalize attack.text
  dispatcher.winner? text (dispatcher.active (Trigger.scan text))

/-- Whether a rule accepts the wording of the attack, but makes nothing of what it filled. -/
def rejects (attack : Attack) : Bool :=
  (dispatcher.winnerOf attack).any fun winner =>
    (winner.rule.build winner.bindings
      (if winner.rule.usesDamage then attack.damage else none)).isNone

theorem metrics_matched (text : String) (damage : Option Nat) :
    (dispatcher.dispatch text damage).metrics.matched =
      (dispatcher.dispatch text damage).outcome.rule? := by
  simp only [dispatch]
  split
  · exact (Winner.rule?_outcome _ _).symm
  · rfl

theorem rule_readAttack (attack : Attack) :
    (dispatcher.readAttack attack).rule =
      (dispatcher.winnerOf attack).map fun winner => winner.rule.name := by
  rw [readAttack, outcome_dispatch, winnerOf]
  cases dispatcher.winner? _ _ with
  | none => rfl
  | some winner => exact Winner.rule?_outcome winner attack.damage

theorem script_readAttack (attack : Attack) :
    (dispatcher.readAttack attack).script =
      (dispatcher.winnerOf attack).bind fun winner =>
        winner.rule.build winner.bindings
          (if winner.rule.usesDamage then attack.damage else none) := by
  rw [readAttack, outcome_dispatch, winnerOf]
  cases dispatcher.winner? _ _ with
  | none => rfl
  | some winner => exact Winner.script?_outcome winner attack.damage

theorem rule_readAttack_mem {attack : Attack} {name : String}
    (h : (dispatcher.readAttack attack).rule = some name) :
    name ∈ dispatcher.rules.map Rule.name := by
  rw [rule_readAttack] at h
  obtain ⟨winner, won, rfl⟩ := Option.map_eq_some_iff.mp h
  exact List.mem_map_of_mem (List.mem_of_getElem? (of_winner? won).1)

theorem unread_readAttack (attack : Attack) :
    (if (dispatcher.readAttack attack).script.isNone then 1 else 0) =
      (if (dispatcher.readAttack attack).rule = none then 1 else 0) +
        if dispatcher.rejects attack then 1 else 0 := by
  rw [rule_readAttack, script_readAttack, rejects]
  cases dispatcher.winnerOf attack <;> simp

theorem countP_unread (attacks : List Attack) :
    (attacks.map dispatcher.readAttack).countP (fun attack => attack.script.isNone) =
      ((attacks.map dispatcher.readAttack).map ReadAttack.rule).count none +
        attacks.countP dispatcher.rejects := by
  induction attacks with
  | nil => rfl
  | cons attack attacks ih =>
      have first := dispatcher.unread_readAttack attack
      simp only [List.map_cons, List.countP_cons, List.count_cons, beq_iff_eq, ih, first]
      omega

theorem records_usageOf (cards : List ReadCard) :
    (usageOf cards).Records ((cards.flatMap ReadCard.attacks).map ReadAttack.rule) := by
  rw [usageOf, ← List.foldl_map]
  exact Usage.Records.empty.foldl _

end Dispatcher

/-- Both ledgers of some attacks, as a report holds them. -/
structure Coverage.Reconciles (dispatcher : Dispatcher) (attacks : List ReadAttack)
    (coverage : Coverage) : Prop where
  total : coverage.total = attacks.length
  dispatched : coverage.usage.hits.total + coverage.usage.misses = attacks.length
  ascending : coverage.usage.hits.Ascending
  hits : ∀ name n, (name, n) ∈ coverage.usage.hits ↔
    0 < n ∧ (attacks.map ReadAttack.rule).count (some name) = n
  misses : coverage.usage.misses = (attacks.map ReadAttack.rule).count none
  unread : coverage.unread =
    coverage.usage.misses + attacks.countP fun attack => dispatcher.rejects attack.attack
  fired : coverage.usage.rulesFired ≤ dispatcher.rules.length

namespace Coverage

theorem usage_ofSet (rules : Nat) {read : ReadSet} (h : read.usage.Canonical) :
    (ofSet rules read).usage = read.usage := by
  have same := Tally.merge_comm Usage.Canonical.empty h
  rw [ofSet_eq]
  simp only [usage_addAll]
  rw [empty, Usage.merge, same]
  simp [Usage.empty]

theorem reconciles_ofSet (dispatcher : Dispatcher) (rules : Nat) {read : ReadSet}
    {attacks : List Attack} (usage : read.usage = Dispatcher.usageOf read.cards)
    (own : read.cards.flatMap ReadCard.attacks = attacks.map dispatcher.readAttack) :
    Reconciles dispatcher (read.cards.flatMap ReadCard.attacks) (ofSet rules read) := by
  have records : read.usage.Records ((read.cards.flatMap ReadCard.attacks).map ReadAttack.rule) :=
    usage ▸ Dispatcher.records_usageOf read.cards
  have held := usage_ofSet rules records.canonical
  refine ⟨total_ofSet rules read, ?_, ?_, fun name n => ?_, ?_, ?_, ?_⟩
  · rw [held, records.total_eq, List.length_map]
  · exact held ▸ records.canonical
  · rw [held, records.mem_hits_iff]
  · rw [held, records.misses_eq]
  · rw [unread_ofSet, held, records.misses_eq, own, dispatcher.countP_unread, List.countP_map]
    rfl
  · rw [held, ← List.length_map Rule.name]
    refine records.rulesFired_le fun name decided => ?_
    rw [own, List.map_map] at decided
    obtain ⟨attack, -, rule⟩ := List.mem_map.mp decided
    exact dispatcher.rule_readAttack_mem rule

end Coverage

namespace Dispatcher

variable (dispatcher : Dispatcher)

theorem attacks_readCards {cards : List Card} {reads : List ReadCard}
    (h : List.Forall₂ (fun card read => dispatcher.readCard card = .ok read) cards reads) :
    reads.flatMap ReadCard.attacks = (cards.flatMap Card.attacks).map dispatcher.readAttack := by
  induction h with
  | nil => rfl
  | cons first _ ih =>
      obtain ⟨-, own⟩ := dispatcher.readCard_eq_ok first
      rw [List.flatMap_cons, List.flatMap_cons, List.map_append, ih, own]

theorem attacks_readSets {groups : List SetCards} {sets : List ReadSet}
    (h : List.Forall₂ (fun group read => dispatcher.readSet group = .ok read) groups sets) :
    (sets.flatMap ReadSet.cards).flatMap ReadCard.attacks =
      ((groups.flatMap SetCards.cards).flatMap Card.attacks).map dispatcher.readAttack := by
  induction h with
  | nil => rfl
  | cons first _ ih =>
      simp only [List.flatMap_cons, List.flatMap_append, List.map_append, ih,
        dispatcher.attacks_readCards (dispatcher.readSet_eq_ok first).1]

theorem usageOf_eq_foldl {cards : List ReadCard} {attacks : List Attack}
    (own : cards.flatMap ReadCard.attacks = attacks.map dispatcher.readAttack) :
    usageOf cards =
      (attacks.map fun attack => (dispatcher.dispatchOf attack).metrics.matched).foldl
        Usage.record .empty := by
  rw [usageOf, own, List.foldl_map, List.foldl_map]
  simp only [dispatchOf, metrics_matched]
  rfl

end Dispatcher

namespace Generation

theorem ReadSets.reconciles (options : Options) {documents : List String} {sets : List ReadSet}
    (h : ReadSets documents sets) :
    Coverage.Reconciles defaultDispatcher ((sets.flatMap ReadSet.cards).flatMap ReadCard.attacks)
      (ofSets options sets).combined := by
  obtain ⟨groups, -, each⟩ := h
  -- A report does not show the set, so the combined one is that of all cards in one set.
  let whole : ReadSet :=
    ⟨⟨"", none, none⟩, sets.flatMap ReadSet.cards, Dispatcher.usageOf (sets.flatMap ReadSet.cards)⟩
  have same : (ofSets options sets).combined =
      Coverage.ofSet defaultDispatcher.rules.length whole := by
    rw [combined_ofSets options (usage_of_readSet each), Report.ofSet_eq_sum _ rfl]
  have own : whole.cards.flatMap ReadCard.attacks = _ := defaultDispatcher.attacks_readSets each
  rw [same]
  exact Coverage.reconciles_ofSet defaultDispatcher _ rfl own

/-- The ledgers of every set reconcile whatever rules read it, and those of a run reconcile over
the attacks of all its sets. -/
theorem ledgers_reconcile :
    (∀ (rules : List Rule) (gated : Bool) (group : SetCards) (read : ReadSet),
      let dispatcher := Dispatcher.ofRules rules gated
      let attacks := group.cards.flatMap Card.attacks
      dispatcher.readSet group = .ok read →
        read.cards.flatMap ReadCard.attacks = attacks.map dispatcher.readAttack ∧
          read.usage = (attacks.map fun attack =>
            (dispatcher.dispatchOf attack).metrics.matched).foldl Usage.record .empty ∧
          ∀ size, (Coverage.ofSet size read).usage = read.usage ∧
            Coverage.Reconciles dispatcher (read.cards.flatMap ReadCard.attacks)
              (Coverage.ofSet size read)) ∧
      ∀ (options : Options) (documents : List String) (generation : Generation),
        generateAll options documents = .ok generation →
          ∃ sets, ReadSets documents sets ∧ ofSets options sets = generation ∧
            Coverage.Reconciles defaultDispatcher
              ((sets.flatMap ReadSet.cards).flatMap ReadCard.attacks) generation.combined := by
  constructor
  · intro rules gated group read dispatcher attacks h
    obtain ⟨each, usage⟩ := dispatcher.readSet_eq_ok h
    have own := dispatcher.attacks_readCards each
    have canonical : read.usage.Canonical := usage ▸ Dispatcher.canonical_usageOf read.cards
    exact ⟨own, usage.trans (dispatcher.usageOf_eq_foldl own), fun size =>
      ⟨Coverage.usage_ofSet size canonical, Coverage.reconciles_ofSet dispatcher size usage own⟩⟩
  · intro options documents generation h
    obtain ⟨sets, read, rfl⟩ := (generateAll_eq_ok_iff options).mp h
    exact ⟨sets, read, rfl, read.reconciles options⟩

def recoilingSet : SetCards :=
  ⟨⟨"Fossil", none, none⟩, [{ peckingCard "Onix" with
    attacks := [⟨"Graze", [], none, "Onix does 8 damage to itself."⟩,
      ⟨"Crash", [], none, "Onix does 4294967296 damage to itself."⟩, ⟨"Zap", [], none, "Zap."⟩] }]⟩

theorem ledgers_reconcile_refused :
    let dispatcher := Dispatcher.ofRules [Grammar.selfDamage, Grammar.selfDamage] true
    (∃ read, dispatcher.readSet recoilingSet = .ok read ∧
        (Grammar.selfDamage.name, 2) ∈ read.usage.hits ∧ read.usage.misses = 1 ∧
        (Coverage.ofSet 2 read).unread = 2) ∧
      ∃ generation, generateAll {} [peckingText "Abra"] = .ok generation ∧
        generation.combined.usage.hits.total + generation.combined.usage.misses = 1 := by
  intro dispatcher
  obtain ⟨sets, runs⟩ := ledgers_reconcile
  constructor
  · have complete : ∀ card ∈ recoilingSet.cards, card.Complete := by
      intro card inside
      rw [List.mem_singleton.mp inside]
      exact ⟨.inl rfl, rfl⟩
    obtain ⟨read, h⟩ := dispatcher.exists_readSet_iff.mpr complete
    obtain ⟨own, -, report⟩ := sets _ _ _ read h
    obtain ⟨usage, books⟩ := report 2
    have decided : ((recoilingSet.cards.flatMap Card.attacks).map dispatcher.readAttack).map
        ReadAttack.rule = [some "self damage", some "self damage", none] := by decide +kernel
    have refused : ((recoilingSet.cards.flatMap Card.attacks).map dispatcher.readAttack).countP
        (fun attack => dispatcher.rejects attack.attack) = 1 := by decide +kernel
    have missed := books.misses
    have unread := books.unread
    rw [own, decided] at missed
    rw [own, refused, missed] at unread
    refine ⟨read, h, ?_, usage ▸ missed, unread⟩
    rw [← usage, books.hits, own, decided]
    decide
  · have complete : (peckingCard "Abra").Complete := ⟨.inl rfl, rfl⟩
    obtain ⟨generation, h, combined⟩ := (exists_generateAll_iff {}).mpr
      ⟨_, .cons yields_abra .nil, by simp [complete], rfl⟩
    obtain ⟨read, -, -, books⟩ := runs {} _ generation h
    refine ⟨generation, h, ?_⟩
    rw [books.dispatched, ← books.total, combined]
    decide +kernel

end Generation
end CardText
