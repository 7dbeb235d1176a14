import CardText.Proofs.Unit.Names

/-! The search for a free name. No limit is set to its attempts: the name is tried as it is and then
with a number behind it, from two on, until one goes in. Every attempt that is refused meets another
of the names that are taken, so the search ends, and it ends with the first name that is free. -/
namespace CardText.Identifier

/-- A search under way: the name it tries now, and the number behind the one it tries after it. -/
structure Search where
  taken : Finset String
  candidate : String
  number : Nat

namespace Search

def start (taken : Finset String) (ident : String) : Search := ⟨taken, ident, 2⟩

def next (ident : String) (search : Search) : Search :=
  ⟨search.taken, ident ++ "_" ++ toString search.number, search.number + 1⟩

/-- After so many attempts a name goes in, which leaves these names taken. -/
inductive Ends (ident : String) : Search → Nat → String → Finset String → Prop
  | free {search : Search} (new : search.candidate ∉ search.taken) :
      Ends ident search 1 search.candidate (insert search.candidate search.taken)
  | refused {search : Search} {attempts : Nat} {name : String} {left : Finset String}
      (old : search.candidate ∈ search.taken)
      (later : Ends ident (search.next ident) attempts name left) :
      Ends ident search (attempts + 1) name left

variable {taken left left' : Finset String} {ident name name' : String} {search : Search}
  {attempts attempts' m n : Nat}

theorem Ends.deterministic (h : Ends ident search attempts name left)
    (h' : Ends ident search attempts' name' left') :
    attempts' = attempts ∧ name' = name ∧ left' = left := by
  induction h generalizing attempts' with
  | free new =>
      cases h' with
      | free _ => exact ⟨rfl, rfl, rfl⟩
      | refused old _ => exact absurd old new
  | refused old _ ih =>
      cases h' with
      | free new => exact absurd old new
      | refused _ later =>
          obtain ⟨rfl, same⟩ := ih later
          exact ⟨rfl, same⟩

def reached (taken : Finset String) (ident : String) (n : Nat) : Search :=
  ⟨taken, numbered ident n, n + 2⟩

theorem start_eq_reached : start taken ident = reached taken ident 0 := rfl

theorem next_reached : (reached taken ident n).next ident = reached taken ident (n + 1) := rfl

theorem ends_reached (le : m ≤ n) (earlier : ∀ k < n, numbered ident k ∈ taken)
    (free : numbered ident n ∉ taken) :
    Ends ident (reached taken ident m) (n - m + 1) (numbered ident n)
      (insert (numbered ident n) taken) := by
  -- from the number that is free down to where the search stands
  induction le using Nat.decreasingInduction with
  | self =>
      rw [Nat.sub_self]
      exact .free free
  | of_succ m less ih =>
      have count : n - m = n - (m + 1) + 1 := by omega
      rw [← next_reached] at ih
      rw [count]
      exact .refused (earlier m less) ih

theorem ends_start_iff (earlier : ∀ k < n, numbered ident k ∈ taken)
    (free : numbered ident n ∉ taken) :
    Ends ident (start taken ident) attempts name left ↔
      attempts = n + 1 ∧ name = numbered ident n ∧ left = insert (numbered ident n) taken := by
  have ends := ends_reached (Nat.zero_le n) earlier free
  rw [Nat.sub_zero, ← start_eq_reached] at ends
  constructor
  · exact ends.deterministic
  · rintro ⟨rfl, rfl, rfl⟩
    exact ends

inductive EndAll : Finset String → List String → List String → Finset String → Prop
  | nil {taken : Finset String} : EndAll taken [] [] taken
  | cons {taken left last : Finset String} {ident name : String} {idents names : List String}
      {attempts : Nat} (first : Ends ident (start taken ident) attempts name left)
      (others : EndAll left idents names last) : EndAll taken (ident :: idents) (name :: names) last

end Search

theorem endAll_iff {taken idents names : List String} {last : Finset String} :
    Search.EndAll taken.toFinset idents names last ↔
      names = uniqueAll taken idents ∧
        last = taken.toFinset ∪ (uniqueAll taken idents).toFinset := by
  induction idents generalizing taken names with
  | nil =>
      simp only [uniqueAll, List.toFinset_nil, Finset.union_empty]
      constructor
      · rintro ⟨⟩
        exact ⟨rfl, rfl⟩
      · rintro ⟨rfl, rfl⟩
        exact .nil
  | cons ident idents ih =>
      obtain ⟨n, -, eq, free, earlier⟩ := unique_eq_numbered taken ident
      simp only [← List.mem_toFinset] at free earlier
      have others := @ih (unique taken ident :: taken)
      rw [List.toFinset_cons] at others
      have all : taken.toFinset ∪ (uniqueAll taken (ident :: idents)).toFinset =
          insert (unique taken ident) taken.toFinset ∪
            (uniqueAll (unique taken ident :: taken) idents).toFinset := by
        rw [uniqueAll, List.toFinset_cons, Finset.union_insert, Finset.insert_union]
      rw [all, uniqueAll]
      constructor
      · rintro (_ | ⟨first, later⟩)
        obtain ⟨-, rfl, rfl⟩ := (Search.ends_start_iff earlier free).mp first
        rw [← eq] at later ⊢
        obtain ⟨rfl, rfl⟩ := others.mp later
        exact ⟨rfl, rfl⟩
      · rintro ⟨rfl, rfl⟩
        have first := (Search.ends_start_iff earlier free).mpr ⟨rfl, rfl, rfl⟩
        rw [← eq] at first
        exact .cons first (others.mpr ⟨rfl, rfl⟩)

/-- The search for a name ends, and it takes at most one attempt more than names are taken. It finds
the name itself where that is free, and otherwise the name with the least number, from two on, with
which it is free; that number is the number of the attempts. It leaves what was taken before and the
name found, which was not. -/
theorem search_ends_first_free (taken : List String) (ident : String) :
    ∃ attempts ≤ taken.toFinset.card + 1,
      (∀ tried name left, Search.Ends ident (.start taken.toFinset ident) tried name left ↔
        tried = attempts ∧ name = unique taken ident ∧
          left = insert (unique taken ident) taken.toFinset) ∧
      unique taken ident ∉ taken.toFinset ∧
      unique taken ident =
        (if ident ∈ taken.toFinset then ident ++ "_" ++ toString attempts else ident) ∧
      (ident ∈ taken.toFinset → 2 ≤ attempts ∧
        ∀ n, 2 ≤ n → n < attempts → ident ++ "_" ++ toString n ∈ taken.toFinset) := by
  obtain ⟨n, bound, eq, free, earlier⟩ := unique_eq_numbered taken ident
  simp only [← List.mem_toFinset] at free earlier
  rw [eq]
  refine ⟨n + 1, Nat.succ_le_succ bound, fun tried name left => ?_, free, ?_⟩
  · exact Search.ends_start_iff earlier free
  cases n with
  | zero =>
      have new : ident ∉ taken.toFinset := free
      exact ⟨(if_neg new).symm, fun old => absurd old new⟩
  | succ n =>
      have old : ident ∈ taken.toFinset := earlier 0 (Nat.succ_pos n)
      refine ⟨(if_pos old).symm, fun _ => ⟨Nat.le_add_left 2 n, fun m least less => ?_⟩⟩
      -- the first attempt has no number, so attempt and number are the same from two on
      obtain ⟨m, rfl⟩ := Nat.exists_eq_add_of_le' least
      exact earlier (m + 1) (by omega)

theorem search_ends_first_free_tackle :
    let taken := ["tackle_3", "tackle_5", "tackle", "tackle_2"]
    unique taken "tackle" = "tackle_4" ∧ "tackle_4" ∉ taken.toFinset ∧
      ∀ tried name left, Search.Ends "tackle" (.start taken.toFinset "tackle") tried name left ↔
        tried = 4 ∧ name = "tackle_4" ∧ left = insert "tackle_4" taken.toFinset := by
  intro taken
  have old : "tackle" ∈ taken.toFinset := by decide
  have found : unique taken "tackle" = numbered "tackle" 3 := by decide
  obtain ⟨attempts, -, ends, free, named, numbers⟩ := search_ends_first_free taken "tackle"
  obtain ⟨n, rfl⟩ := Nat.exists_eq_add_of_le' (numbers old).1
  rw [found, if_pos old] at named
  have count : 3 = n + 1 := numbered_injective "tackle" named
  obtain rfl : n = 2 := by omega
  rw [found] at ends free
  exact ⟨found, free, ends⟩

end CardText.Identifier
