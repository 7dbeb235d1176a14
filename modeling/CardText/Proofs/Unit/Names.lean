import CardText.Proofs.Text.Alphabet
import CardText.Proofs.Text.Ascii
import CardText.Unit.Identifier
import Mathlib.Data.Finset.Card
import Mathlib.Data.List.Range
import Mathlib.Data.List.Nodup

/-! Names of a unit. A number behind a name makes another name for every number, so one more
attempt than names are taken finds a name that is free, and names chosen one after the other
are distinct. -/
namespace CardText.Identifier

theorem numbered_injective (ident : String) : Function.Injective (numbered ident) := by
  -- The bare name is the shortest; two numbers with one print are one number.
  intro m n same
  have lists := congrArg String.toList same
  cases m with
  | zero =>
      cases n with
      | zero => rfl
      | succ n => simp [numbered] at lists
  | succ m =>
      cases n with
      | zero => simp [numbered] at lists
      | succ n =>
          have digits : Nat.toDigits 10 (m + 2) = Nat.toDigits 10 (n + 2) := by
            simpa [numbered] using lists
          have value := congrArg (fun text => Nat.ofDigitChars 10 text 0) digits
          simpa using value

theorem le_card_of_numbered_mem {taken : List String} {ident : String} {n : Nat}
    (h : ∀ m < n, numbered ident m ∈ taken) : n ≤ taken.toFinset.card := by
  have inside : Set.MapsTo (numbered ident) (Finset.range n) taken.toFinset := fun m listed =>
    List.mem_toFinset.mpr (h m (Finset.mem_range.mp listed))
  calc
    n = (Finset.range n).card := (Finset.card_range n).symm
    _ ≤ taken.toFinset.card :=
      Finset.card_le_card_of_injOn _ inside (numbered_injective ident).injOn

theorem exists_numbered_notMem (taken : List String) (ident : String) :
    ∃ n ≤ taken.length, numbered ident n ∉ taken := by
  by_contra none
  have all : ∀ n < taken.length + 1, numbered ident n ∈ taken := by
    intro n less
    by_contra free
    exact none ⟨n, Nat.lt_succ_iff.mp less, free⟩
  exact absurd (le_card_of_numbered_mem all) (Nat.not_le.mpr
    (Nat.lt_succ_iff.mpr (List.toFinset_card_le taken)))

theorem unique_eq_numbered (taken : List String) (ident : String) :
    ∃ n ≤ taken.toFinset.card, unique taken ident = numbered ident n ∧ numbered ident n ∉ taken ∧
      ∀ m < n, numbered ident m ∈ taken := by
  obtain ⟨free, small, notMem⟩ := exists_numbered_notMem taken ident
  cases found : ((List.range (taken.length + 1)).map (numbered ident)).find?
      fun name => !taken.contains name with
  | none =>
      rw [List.find?_eq_none] at found
      have listed : free ∈ List.range (taken.length + 1) := List.mem_range.mpr (by omega)
      have refused := found (numbered ident free) (List.mem_map_of_mem listed)
      simp [notMem] at refused
  | some name =>
      obtain ⟨fresh, n, bound, rfl, refused⟩ := List.find?_eq_some_iff_getElem.mp found
      have earlier : ∀ m < n, numbered ident m ∈ taken := fun m less => by
        simpa using refused m less
      refine ⟨n, le_card_of_numbered_mem earlier, ?_, by simpa using fresh, earlier⟩
      rw [unique, found]
      simp

theorem unique_notMem (taken : List String) (ident : String) : unique taken ident ∉ taken := by
  obtain ⟨n, -, eq, free, -⟩ := unique_eq_numbered taken ident
  rw [eq]
  exact free

theorem uniqueAll_numbered (taken idents : List String) :
    List.Forall₂ (fun ident name => ∃ n, name = numbered ident n) idents
      (uniqueAll taken idents) := by
  induction idents generalizing taken with
  | nil => exact .nil
  | cons ident idents ih =>
      obtain ⟨n, -, eq, -⟩ := unique_eq_numbered taken ident
      exact .cons ⟨n, eq⟩ (ih _)

@[simp] theorem length_uniqueAll (taken idents : List String) :
    (uniqueAll taken idents).length = idents.length :=
  (uniqueAll_numbered taken idents).length_eq.symm

theorem notMem_of_mem_uniqueAll {taken idents : List String} {name : String}
    (h : name ∈ uniqueAll taken idents) : name ∉ taken := by
  induction idents generalizing taken with
  | nil => cases h
  | cons ident idents ih =>
      rcases List.mem_cons.mp h with rfl | later
      · exact unique_notMem taken ident
      · exact fun inside => ih later (List.mem_cons_of_mem _ inside)

theorem nodup_uniqueAll (taken idents : List String) : (uniqueAll taken idents).Nodup := by
  induction idents generalizing taken with
  | nil => exact .nil
  | cons ident idents ih =>
      have fresh : unique taken ident ∉ uniqueAll (unique taken ident :: taken) idents :=
        fun inside => notMem_of_mem_uniqueAll inside (by simp)
      exact List.nodup_cons.mpr ⟨fresh, ih _⟩

/-- A number that keeps two names apart can be a third name of its own. -/
example :
    uniqueAll [] ["tackle", "tackle", "tackle_2"] = ["tackle", "tackle_2", "tackle_2_2"] := by
  decide

def isIdentChar (c : Char) : Bool := c.isAlphanum || c == '_'

abbrev IsIdent (name : String) : Prop := Text.MadeOf isIdentChar name

namespace IsIdent

theorem numbered {name : String} (h : IsIdent name) (n : Nat) : IsIdent (numbered name n) := by
  cases n with
  | zero => exact h
  | succ n =>
      have line : IsIdent "_" := .of_all (by decide)
      have number : IsIdent (toString (n + 2)) :=
        Text.MadeOf.amount (fun c digit => by simp [isIdentChar, Char.isAlphanum, digit]) (n + 2)
      exact (h.append line).append number

theorem uniqueAll {taken idents : List String} (h : ∀ ident ∈ idents, IsIdent ident) :
    ∀ name ∈ uniqueAll taken idents, IsIdent name := by
  induction idents generalizing taken with
  | nil => simp [Identifier.uniqueAll]
  | cons ident idents ih =>
      obtain ⟨n, -, eq, -⟩ := unique_eq_numbered taken ident
      have first : IsIdent (unique taken ident) := eq ▸ (h ident (by simp)).numbered n
      intro name inside
      rcases List.mem_cons.mp inside with rfl | later
      · exact first
      · exact ih (fun other listed => h other (by simp [listed])) name later

end IsIdent

theorem isIdent_structName (name number : String) : IsIdent (structName name number) := by
  have kept : ∀ (text : List Char), ∀ c ∈ text.filter Char.isAlphanum, isIdentChar c = true := by
    intro text c inside
    simp [isIdentChar, (List.mem_filter.mp inside).2]
  have ident : ∀ c ∈ structChars name.toList number.toList, isIdentChar c = true := by
    intro c inside
    have parts : ∀ c ∈
        ((spellSigns "M" "F" "D" name.toList).map dropAccent).filter Char.isAlphanum ++
          number.toList.filter Char.isAlphanum, isIdentChar c = true := by
      intro c inside
      exact (List.mem_append.mp inside).elim (kept _ c) (kept _ c)
    rw [structChars] at inside
    split at inside
    · exact parts c inside
    · rcases List.mem_append.mp inside with front | inside
      · exact List.all_eq_true.mp (by decide : "Card".toList.all isIdentChar = true) c front
      · exact parts c inside
  simpa [Text.MadeOf, structName] using ident

theorem isAlphanum_toLower {c : Char} (h : c.isAlphanum = true) : c.toLower.isAlphanum = true := by
  unfold Char.toLower
  split
  next upper =>
    have bounds : 65 ≤ c.toNat ∧ c.toNat ≤ 90 := by
      simpa [UInt32.le_iff_toNat_le] using upper
    have value : ∀ valid, Char.toNat ⟨c.val + ('a'.val - 'A'.val), valid⟩ = c.toNat + 32 := by
      intro valid
      have step : ('a'.val - 'A'.val).toNat = 32 := by decide
      change (c.val + _).toNat = c.val.toNat + 32
      have inner : c.val.toNat = c.toNat := rfl
      rw [UInt32.toNat_add]
      omega
    rw [Char.isAlphanum, Bool.or_eq_true, Unicode.isAlpha_iff_toNat, value]
    omega
  next => exact h

theorem forall_mem_snakeFrom {p : Char → Bool}
    (letters : ∀ c : Char, c.isAlphanum = true → p c.toLower = true) (line : p '_' = true)
    {ident text : List Char} (h : ∀ c ∈ ident, p c = true) :
    ∀ c ∈ snakeFrom ident text, p c = true := by
  induction text generalizing ident with
  | nil =>
      intro c inside
      rw [snakeFrom, List.mem_reverse] at inside
      exact h c ((List.dropWhile_sublist _).subset inside)
  | cons d text ih =>
      rw [snakeFrom]
      split
      next letter => exact ih (List.forall_mem_cons.mpr ⟨letters d letter, h⟩)
      next =>
        split
        · exact ih (List.forall_mem_cons.mpr ⟨line, h⟩)
        · exact ih h

theorem isIdent_procedureName (title : String) : IsIdent (procedureName title) := by
  have words : IsIdent (String.ofList (snake title.toList)) := by
    intro c inside
    rw [String.toList_ofList] at inside
    have letters : ∀ c : Char, c.isAlphanum = true → isIdentChar c.toLower = true :=
      fun c letter => by simp [isIdentChar, isAlphanum_toLower letter]
    exact forall_mem_snakeFrom letters rfl (by simp) c inside
  rw [procedureName]
  split
  · exact .of_all (by decide)
  · split
    · have front : IsIdent "attack_" := .of_all (by decide)
      exact front.append words
    · split
      · have line : IsIdent "_" := .of_all (by decide)
        exact words.append line
      · exact words

end CardText.Identifier
