import Mathlib.Data.List.Basic

/-! Texts made of the characters of one class. What is put together from such texts is made of
them as well, and holds no character of any other class. -/
namespace CardText.Text

def MadeOf (p : Char → Bool) (text : String) : Prop := ∀ c ∈ text.toList, p c = true

namespace MadeOf

variable {p q : Char → Bool} {text : String}

theorem of_all (h : text.toList.all p = true) : MadeOf p text := List.all_eq_true.mp h

/-- The characters of a literal are looked at as a list; the kernel would decode its bytes. -/
theorem literal {chars : List Char} (h : chars.all p = true) : MadeOf p (String.ofList chars) := by
  intro c inside
  rw [String.toList_ofList] at inside
  exact List.all_eq_true.mp h c inside

theorem mono (h : MadeOf p text) (weaker : ∀ c, p c = true → q c = true) : MadeOf q text :=
  fun c inside => weaker c (h c inside)

theorem append {front back : String} (hf : MadeOf p front) (hb : MadeOf p back) :
    MadeOf p (front ++ back) := by
  intro c inside
  rw [String.toList_append, List.mem_append] at inside
  exact inside.elim (hf c) (hb c)

theorem intercalate {separator : String} {items : List String} (hs : MadeOf p separator)
    (h : ∀ item ∈ items, MadeOf p item) : MadeOf p (separator.intercalate items) := by
  induction items with
  | nil => simp [MadeOf]
  | cons item items ih =>
      cases items with
      | nil => simpa using h
      | cons next items =>
          have others := ih fun other inside => h other (List.mem_cons_of_mem item inside)
          rw [String.intercalate_cons_cons]
          exact ((h item (by simp)).append hs).append others

theorem amount (digits : ∀ c : Char, c.isDigit = true → p c = true) (n : Nat) :
    MadeOf p (toString n) := by
  intro c inside
  rw [Nat.toString_eq_repr, Nat.toList_repr] at inside
  exact digits c (Nat.isDigit_of_mem_toDigits (by decide) (by decide) inside)

theorem ne_of_mem (h : MadeOf p text) {c d : Char} (inside : c ∈ text.toList)
    (other : p d = false) : c ≠ d := by
  intro same
  subst same
  simp [h c inside] at other

theorem excludes (h : MadeOf p text) {others : List Char}
    (other : (others.all fun d => !p d) = true) : MadeOf (fun c => !others.contains c) text := by
  intro c inside
  rw [Bool.not_eq_true', ← Bool.not_eq_true, List.contains_iff_mem]
  intro listed
  simpa [h c inside] using List.all_eq_true.mp other c listed

end MadeOf
end CardText.Text
