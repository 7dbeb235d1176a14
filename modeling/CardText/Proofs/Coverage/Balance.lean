import CardText.Coverage.Report
import CardText.Proofs.Tally

/-! The balance of a coverage report. However a report comes about, its groups account for the
attacks that were not read: their counts add up to them, none is empty, and a listing shows each
group once, the most frequent first. -/
namespace CardText

namespace Usage

def Canonical (usage : Usage) : Prop := usage.hits.Ascending

end Usage

namespace Coverage

/-- What counting attacks, cards and sets and merging what was counted can lead to. -/
inductive Reachable : Coverage → Prop
  | empty (rules : Nat) : Reachable (.empty rules)
  | ofSet (rules : Nat) (read : ReadSet) (counted : read.usage.Canonical) :
      Reachable (.ofSet rules read)
  | addAttack {coverage : Coverage} (before : Reachable coverage) (owner : String)
      (attack : ReadAttack) : Reachable (coverage.addAttack owner attack)
  | addCard {coverage : Coverage} (before : Reachable coverage) (read : ReadCard) :
      Reachable (coverage.addCard read)
  | merge {coverage other : Coverage} (into : Reachable coverage) (added : Reachable other) :
      Reachable (coverage.merge other)

structure Balanced (coverage : Coverage) : Prop where
  unread_eq : coverage.unread = coverage.groups.total
  positive : coverage.groups.Positive
  ascending : coverage.groups.Ascending
  unread_le : coverage.unread ≤ coverage.total

namespace Balanced

variable {coverage other : Coverage}

theorem empty (rules : Nat) : Balanced (.empty rules) :=
  ⟨rfl, by simp [Coverage.empty, Tally.Positive], List.Pairwise.nil, Nat.le_refl 0⟩

theorem addAttack (h : Balanced coverage) (owner : String) (attack : ReadAttack) :
    Balanced (coverage.addAttack owner attack) := by
  rw [Coverage.addAttack.eq_def]
  cases attack.script with
  | some script => exact ⟨h.unread_eq, h.positive, h.ascending, Nat.le_succ_of_le h.unread_le⟩
  | none =>
      refine ⟨?_, h.positive.add (Nat.le_refl 1), h.ascending.add, Nat.succ_le_succ h.unread_le⟩
      rw [Tally.total_add, h.unread_eq]

theorem addCard (h : Balanced coverage) (read : ReadCard) : Balanced (coverage.addCard read) :=
  List.foldlRecOn read.attacks _ h fun _ before attack _ => before.addAttack read.card.name attack

theorem ofSet (rules : Nat) (read : ReadSet) : Balanced (.ofSet rules read) := by
  have cards : Balanced (read.cards.foldl Coverage.addCard (.empty rules)) :=
    List.foldlRecOn read.cards _ (empty rules) fun _ before card _ => before.addCard card
  exact ⟨cards.unread_eq, cards.positive, cards.ascending, cards.unread_le⟩

theorem merge (h : Balanced coverage) (h' : Balanced other) : Balanced (coverage.merge other) := by
  refine ⟨?_, h.positive.merge h'.positive, h.ascending.merge,
    Nat.add_le_add h.unread_le h'.unread_le⟩
  simp only [Coverage.merge, Tally.total_merge, h.unread_eq, h'.unread_eq]

end Balanced

theorem Reachable.balanced {coverage : Coverage} (h : Reachable coverage) : Balanced coverage := by
  induction h with
  | empty rules => exact .empty rules
  | ofSet rules read => exact .ofSet rules read
  | addAttack _ owner attack before => exact before.addAttack owner attack
  | addCard _ read before => exact before.addCard read
  | merge _ _ into added => exact into.merge added

namespace Entry

def Before (a b : Entry) : Prop :=
  b.count < a.count ∨ a.count = b.count ∧ a.fragments < b.fragments

theorem precedes_iff {a b : Entry} : a.precedes b = true ↔ Before a b ∨ a = b := by
  obtain ⟨f, m⟩ := a
  obtain ⟨g, n⟩ := b
  simp only [precedes, Before, Bool.or_eq_true, decide_eq_true_eq, Bool.and_eq_true, beq_iff_eq,
    Bool.not_eq_true', decide_eq_false_iff_not, Entry.mk.injEq]
  constructor
  · rintro (more | ⟨rfl, notLess⟩)
    · exact .inl (.inl more)
    · rcases trichotomous_of (· < ·) f g with less | equal | greater
      · exact .inl (.inr ⟨rfl, less⟩)
      · exact .inr ⟨equal, rfl⟩
      · exact absurd greater notLess
  · rintro ((more | ⟨rfl, less⟩) | ⟨rfl, rfl⟩)
    · exact .inl more
    · exact .inr ⟨rfl, asymm_of (· < ·) less⟩
    · exact .inr ⟨rfl, irrefl_of (· < ·) f⟩

theorem Before.trans {a b c : Entry} (h : Before a b) (h' : Before b c) : Before a c := by
  rcases h with more | ⟨equal, less⟩
  · rcases h' with more' | ⟨equal', -⟩
    · exact .inl (more'.trans more)
    · exact .inl (equal' ▸ more)
  · rcases h' with more' | ⟨equal', less'⟩
    · exact .inl (equal ▸ more')
    · exact .inr ⟨equal.trans equal', trans_of (· < ·) less less'⟩

theorem before_or_eq_or_before (a b : Entry) : Before a b ∨ a = b ∨ Before b a := by
  rcases Nat.lt_trichotomy a.count b.count with less | equal | more
  · exact .inr (.inr (.inl less))
  · rcases trichotomous_of (· < ·) a.fragments b.fragments with less | same | greater
    · exact .inl (.inr ⟨equal, less⟩)
    · obtain ⟨f, m⟩ := a
      obtain ⟨g, n⟩ := b
      exact .inr (.inl (by simp_all))
    · exact .inr (.inr (.inr ⟨equal.symm, greater⟩))
  · exact .inl (.inl more)

end Entry

def entryOf (group : List String × Nat) : Entry := ⟨group.1, group.2⟩

theorem entries_perm (coverage : Coverage) :
    coverage.entries.Perm (coverage.groups.map entryOf) :=
  List.mergeSort_perm _ _

theorem Balanced.pairwise_entries {coverage : Coverage} (h : Balanced coverage) :
    coverage.entries.Pairwise Entry.Before := by
  have sorted : coverage.entries.Pairwise fun a b => a.precedes b = true := by
    refine List.pairwise_mergeSort (fun a b c first second => ?_) (fun a b => ?_) _
    · rw [Entry.precedes_iff] at first second ⊢
      rcases first with first | rfl
      · rcases second with second | rfl
        · exact .inl (first.trans second)
        · exact .inl first
      · exact second
    · rw [Bool.or_eq_true, Entry.precedes_iff, Entry.precedes_iff]
      rcases Entry.before_or_eq_or_before a b with before | equal | after
      · exact .inl (.inl before)
      · exact .inl (.inr equal)
      · exact .inr (.inl after)
  have distinct : coverage.entries.Nodup := by
    refine (entries_perm coverage).nodup_iff.mpr (List.Nodup.of_map Entry.fragments ?_)
    rw [List.map_map]
    exact nodup_of_pairwise_lt h.ascending
  refine (sorted.and distinct).imp fun ⟨ordered, ne⟩ => ?_
  exact (Entry.precedes_iff.mp ordered).resolve_right ne

/-- The books of every reachable report balance, and its listing is in strict order. -/
theorem reachable_books {coverage : Coverage} (h : Reachable coverage) :
    coverage.unread = coverage.groups.total ∧
      (∀ group ∈ coverage.groups, 1 ≤ group.2) ∧
      coverage.unread ≤ coverage.total ∧ coverage.read + coverage.unread = coverage.total ∧
      coverage.groups.length ≤ coverage.unread ∧
      coverage.groups.keys.Nodup ∧ coverage.entries.Perm (coverage.groups.map entryOf) ∧
      coverage.entries.Pairwise Entry.Before := by
  have books := h.balanced
  refine ⟨books.unread_eq, books.positive, books.unread_le, Nat.sub_add_cancel books.unread_le, ?_,
    nodup_of_pairwise_lt books.ascending, entries_perm coverage, books.pairwise_entries⟩
  rw [books.unread_eq]
  exact books.positive.length_le_total

def unreadOnce : Coverage := (empty 46).addAttack "Mew" ⟨⟨"Zap", [], none, "Zap."⟩, "Zap.", none, none⟩

theorem reachable_books_doubled :
    Reachable (unreadOnce.merge unreadOnce) ∧ (unreadOnce.merge unreadOnce).groups.total = 2 ∧
      (unreadOnce.merge unreadOnce).entries.Pairwise Entry.Before := by
  have once : Reachable unreadOnce := .addAttack (.empty 46) _ _
  have doubled : Reachable (unreadOnce.merge unreadOnce) := .merge once once
  obtain ⟨unread, -, -, -, -, -, -, listing⟩ := reachable_books doubled
  exact ⟨doubled, unread.symm.trans rfl, listing⟩

end Coverage
end CardText
