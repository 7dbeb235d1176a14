import CardText.Tally
import Mathlib.Algebra.GroupWithZero.Nat
import Mathlib.Algebra.BigOperators.Group.List.Basic
import Mathlib.Data.List.Lex
import Mathlib.Data.List.Sort
import Mathlib.Data.String.Basic

/-! Sets and tallies in ascending order. A set is known by its members, a tally by its keys and
by the count of each. Additions and merges bring keys together and add counts up, and what
ascends is determined by what it holds; so no order of additions leaves a trace. -/
namespace CardText

variable {α : Type}

section Ascending

variable [LT α] [IsStrictTotalOrder α (· < ·)] {list others : List α}

theorem nodup_of_pairwise_lt (h : list.Pairwise (· < ·)) : list.Nodup := by
  refine h.imp fun {a b} less equal => ?_
  rw [equal] at less
  exact irrefl_of (· < ·) b less

theorem eq_of_pairwise_lt (h : list.Pairwise (· < ·)) (h' : others.Pairwise (· < ·))
    (members : ∀ a, a ∈ list ↔ a ∈ others) : list = others := by
  have perm : list.Perm others :=
    (List.perm_ext_iff_of_nodup (nodup_of_pairwise_lt h) (nodup_of_pairwise_lt h')).mpr members
  exact perm.eq_of_pairwise (fun a b _ _ less more => absurd (trans_of (· < ·) less more)
    (irrefl_of (· < ·) a)) h h'

end Ascending

section Union

variable [DecidableEq α] [LT α] [DecidableLT α] {a b : α} {set into : List α}

@[simp] theorem mem_insertAscending : b ∈ insertAscending a set ↔ b = a ∨ b ∈ set := by
  induction set with
  | nil => simp [insertAscending]
  | cons first set ih =>
      by_cases same : a = first
      · simp [insertAscending, same]
      · by_cases less : a < first
        · simp [insertAscending, same, less]
        · simp [insertAscending, same, less, ih, or_left_comm]

@[simp] theorem unionAscending_nil : unionAscending into [] = into := rfl

@[simp] theorem unionAscending_cons (first : α) :
    unionAscending into (first :: set) = unionAscending (insertAscending first into) set := rfl

@[simp] theorem mem_unionAscending : a ∈ unionAscending into set ↔ a ∈ into ∨ a ∈ set := by
  induction set generalizing into with
  | nil => simp
  | cons first set ih =>
      rw [unionAscending_cons, ih, mem_insertAscending, List.mem_cons]
      tauto

@[simp] theorem mem_foldl_unionAscending {β : Type} {sets : β → List α} {keys : List β} :
    a ∈ keys.foldl (fun set key => unionAscending set (sets key)) into ↔
      a ∈ into ∨ ∃ key ∈ keys, a ∈ sets key := by
  induction keys generalizing into with
  | nil => simp
  | cons key keys ih =>
      rw [List.foldl_cons, ih, mem_unionAscending, or_assoc]
      simp

variable [IsStrictTotalOrder α (· < ·)]

theorem pairwise_insertAscending (h : set.Pairwise (· < ·)) :
    (insertAscending a set).Pairwise (· < ·) := by
  induction set with
  | nil => exact List.pairwise_singleton _ _
  | cons first set ih =>
      obtain ⟨smaller, others⟩ := List.pairwise_cons.mp h
      by_cases same : a = first
      · simpa only [insertAscending, if_pos same] using h
      · by_cases less : a < first
        · simp only [insertAscending, if_neg same, if_pos less]
          refine List.pairwise_cons.mpr ⟨fun later inside => ?_, h⟩
          rcases List.mem_cons.mp inside with rfl | inside
          · exact less
          · exact trans_of (· < ·) less (smaller later inside)
        · have greater : first < a :=
            ((trichotomous_of (· < ·) a first).resolve_left less).resolve_left same
          simp only [insertAscending, if_neg same, if_neg less]
          refine List.pairwise_cons.mpr ⟨fun later inside => ?_, ih others⟩
          rcases mem_insertAscending.mp inside with rfl | inside
          · exact greater
          · exact smaller later inside

theorem pairwise_unionAscending (h : into.Pairwise (· < ·)) :
    (unionAscending into set).Pairwise (· < ·) := by
  induction set generalizing into with
  | nil => exact h
  | cons first set ih => exact ih (pairwise_insertAscending h)

theorem pairwise_foldl_unionAscending {β : Type} (sets : β → List α) (keys : List β)
    (h : into.Pairwise (· < ·)) :
    (keys.foldl (fun set key => unionAscending set (sets key)) into).Pairwise (· < ·) := by
  induction keys generalizing into with
  | nil => exact h
  | cons key keys ih => exact ih (pairwise_unionAscending h)

theorem unionAscending_comm {first second : List α} (h : first.Pairwise (· < ·))
    (h' : second.Pairwise (· < ·)) : unionAscending first second = unionAscending second first := by
  apply eq_of_pairwise_lt (pairwise_unionAscending h) (pairwise_unionAscending h')
  intro a
  rw [mem_unionAscending, mem_unionAscending, or_comm]

theorem unionAscending_assoc {first : List α} (h : first.Pairwise (· < ·)) (second third : List α) :
    unionAscending (unionAscending first second) third =
      unionAscending first (unionAscending second third) := by
  apply eq_of_pairwise_lt (pairwise_unionAscending (pairwise_unionAscending h))
    (pairwise_unionAscending h)
  intro a
  simp [or_assoc]

end Union

namespace Tally

def keys (tally : Tally α) : List α := tally.map Prod.fst

@[simp] theorem keys_nil : keys ([] : Tally α) = [] := rfl

@[simp] theorem keys_cons (entry : α × Nat) (tally : Tally α) :
    keys (entry :: tally) = entry.1 :: keys tally := rfl

def Ascending [LT α] (tally : Tally α) : Prop := (keys tally).Pairwise (· < ·)

def Positive (tally : Tally α) : Prop := ∀ entry ∈ tally, 1 ≤ entry.2

def countOf (p : α → Bool) (tally : Tally α) : Nat :=
  (tally.map fun entry => if p entry.1 then entry.2 else 0).sum

@[simp] theorem countOf_nil (p : α → Bool) : countOf p [] = 0 := rfl

@[simp] theorem countOf_cons (p : α → Bool) (entry : α × Nat) (tally : Tally α) :
    countOf p (entry :: tally) = (if p entry.1 then entry.2 else 0) + countOf p tally := rfl

theorem total_eq_countOf (tally : Tally α) : tally.total = countOf (fun _ => true) tally := by
  rw [total, ← List.foldl_map (f := Prod.snd) (g := fun total n => total + n), ← List.sum_eq_foldl]
  simp [countOf]

theorem Positive.length_le_total {tally : Tally α} (h : Positive tally) :
    tally.length ≤ tally.total := by
  rw [total_eq_countOf]
  induction tally with
  | nil => simp
  | cons entry tally ih =>
      obtain ⟨first, others⟩ := List.forall_mem_cons.mp h
      have rest := ih others
      simp only [List.length_cons, countOf_cons, if_true]
      omega

theorem countOf_eq_zero {p : α → Bool} {tally : Tally α} (h : ∀ key ∈ keys tally, p key = false) :
    countOf p tally = 0 := by
  induction tally with
  | nil => rfl
  | cons entry tally ih =>
      obtain ⟨first, others⟩ := List.forall_mem_cons.mp h
      simp [first, ih others]

variable [DecidableEq α]

def count (key : α) (tally : Tally α) : Nat := countOf (· == key) tally

section Order

variable [LT α] [IsStrictTotalOrder α (· < ·)]

theorem Ascending.mem_iff {tally : Tally α} (h : Ascending tally) {key : α} {n : Nat} :
    (key, n) ∈ tally ↔ key ∈ keys tally ∧ count key tally = n := by
  induction tally with
  | nil => simp
  | cons entry tally ih =>
      have others := ih (List.pairwise_cons.mp h).2
      have fresh : entry.1 ∉ keys tally := (List.nodup_cons.mp (nodup_of_pairwise_lt h)).1
      rw [List.mem_cons, others]
      simp only [count, countOf_cons, keys_cons, List.mem_cons]
      by_cases asked : entry.1 = key
      · subst asked
        have first : (entry.1, n) = entry ↔ entry.2 = n := by
          rw [Prod.ext_iff]
          simp [eq_comm]
        have rest : countOf (· == entry.1) tally = 0 := by
          apply countOf_eq_zero
          intro key inside
          exact beq_false_of_ne fun equal => fresh (equal ▸ inside)
        simp [first, fresh, rest]
      · have other : (key, n) ≠ entry := fun equal => asked (by rw [← equal])
        simp [other, asked, Ne.symm asked]

theorem Ascending.eq_of_count {tally others : Tally α} (h : Ascending tally)
    (h' : Ascending others) (present : ∀ key, key ∈ keys tally ↔ key ∈ keys others)
    (counts : ∀ key, count key tally = count key others) : tally = others := by
  have nodup := (nodup_of_pairwise_lt h).of_map
  have nodup' := (nodup_of_pairwise_lt h').of_map
  have perm : tally.Perm others := by
    refine (List.perm_ext_iff_of_nodup nodup nodup').mpr ?_
    rintro ⟨key, n⟩
    rw [h.mem_iff, h'.mem_iff, present, counts]
  exact perm.eq_of_pairwise (fun a b _ _ less more => absurd (trans_of (· < ·) less more)
    (irrefl_of (· < ·) a.1)) (List.pairwise_map.mp h) (List.pairwise_map.mp h')

end Order

variable [LT α] [DecidableLT α] {key : α} {n : Nat} {tally into : Tally α}

@[simp] theorem keys_add : (tally.add key n).keys = insertAscending key tally.keys := by
  induction tally with
  | nil => rfl
  | cons entry tally ih =>
      by_cases same : key = entry.1
      · simp [add, insertAscending, same]
      · by_cases less : key < entry.1
        · simp [add, insertAscending, same, less]
        · simp [add, insertAscending, same, less, ih]

@[simp] theorem countOf_add (p : α → Bool) :
    countOf p (tally.add key n) = countOf p tally + if p key then n else 0 := by
  induction tally with
  | nil => simp [add]
  | cons entry tally ih =>
      by_cases same : key = entry.1
      · subst same
        simp only [add, if_true, countOf_cons]
        split <;> omega
      · by_cases less : key < entry.1
        · simp only [add, if_neg same, if_pos less, countOf_cons]
          omega
        · simp only [add, if_neg same, if_neg less, countOf_cons, ih]
          omega

theorem Positive.add (h : Positive tally) (counted : 1 ≤ n) : Positive (tally.add key n) := by
  induction tally with
  | nil => simpa [Tally.add, Positive] using counted
  | cons entry tally ih =>
      obtain ⟨first, others⟩ := List.forall_mem_cons.mp h
      by_cases same : key = entry.1
      · simp only [Tally.add, if_pos same]
        exact List.forall_mem_cons.mpr ⟨Nat.le_add_right_of_le first, others⟩
      · by_cases less : key < entry.1
        · simp only [Tally.add, if_neg same, if_pos less]
          exact List.forall_mem_cons.mpr ⟨counted, h⟩
        · simp only [Tally.add, if_neg same, if_neg less]
          exact List.forall_mem_cons.mpr ⟨first, ih others⟩

@[simp] theorem merge_nil : into.merge [] = into := rfl

@[simp] theorem merge_cons (entry : α × Nat) :
    into.merge (entry :: tally) = (into.add entry.1 entry.2).merge tally := rfl

@[simp] theorem keys_merge : (into.merge tally).keys = unionAscending into.keys tally.keys := by
  induction tally generalizing into with
  | nil => rfl
  | cons entry tally ih => rw [merge_cons, ih, keys_add, keys_cons, unionAscending_cons]

@[simp] theorem countOf_merge (p : α → Bool) :
    countOf p (into.merge tally) = countOf p into + countOf p tally := by
  induction tally generalizing into with
  | nil => rfl
  | cons entry tally ih =>
      rw [merge_cons, ih, countOf_add, countOf_cons]
      omega

@[simp] theorem total_add : (tally.add key n).total = tally.total + n := by
  simp [total_eq_countOf]

@[simp] theorem total_merge : (into.merge tally).total = into.total + tally.total := by
  simp [total_eq_countOf]

theorem Positive.merge (h : Positive into) (h' : Positive tally) : Positive (into.merge tally) := by
  induction tally generalizing into with
  | nil => exact h
  | cons entry tally ih =>
      obtain ⟨first, others⟩ := List.forall_mem_cons.mp h'
      exact ih (h.add first) others

variable [IsStrictTotalOrder α (· < ·)]

theorem Ascending.add (h : Ascending tally) : Ascending (tally.add key n) := by
  rw [Ascending, keys_add]
  exact pairwise_insertAscending h

theorem Ascending.merge (h : Ascending into) : Ascending (into.merge tally) := by
  rw [Ascending, keys_merge]
  exact pairwise_unionAscending h

theorem merge_comm {first second : Tally α} (h : Ascending first) (h' : Ascending second) :
    first.merge second = second.merge first := by
  apply h.merge.eq_of_count h'.merge
  · intro key
    rw [keys_merge, keys_merge, mem_unionAscending, mem_unionAscending, or_comm]
  · intro key
    rw [count, count, countOf_merge, countOf_merge, Nat.add_comm]

theorem merge_assoc {first : Tally α} (h : Ascending first) (second third : Tally α) :
    (first.merge second).merge third = first.merge (second.merge third) := by
  apply h.merge.merge.eq_of_count h.merge
  · intro key
    simp [or_assoc]
  · intro key
    simp [count, Nat.add_assoc]

end Tally
end CardText
