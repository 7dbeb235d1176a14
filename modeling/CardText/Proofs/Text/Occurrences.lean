import CardText.Text.Replace
import Mathlib.Data.List.Infix

/-! Occurrences at a cut. Where no occurrence in front of a cut looks at what is behind it, the two
sides of the cut are replaced one by one. -/
namespace CardText.Text

def Bounded (matched : Option Char → List Char → Nat) : Prop :=
  ∀ before text, matched before text ≤ text.length

def Severs (matched : Option Char → List Char → Nat) (front back : List Char) : Prop :=
  ∀ before rest, rest ≠ [] → rest <:+ front → matched before (rest ++ back) = matched before rest

section

variable {matched : Option Char → List Char → Nat} {new front back : List Char}

theorem getLast?_cons_or (c : Char) (rest : List Char) (before : Option Char) :
    (c :: rest).getLast?.or before = rest.getLast?.or (some c) := by
  rw [List.getLast?_cons]
  cases rest.getLast? <;> rfl

theorem replaceFrom_skip (before : Option Char) (front back : List Char) :
    replaceFrom matched new before front.length (front ++ back) =
      replaceFrom matched new (front.getLast?.or before) 0 back := by
  induction front generalizing before with
  | nil => rfl
  | cons c front ih =>
      rw [List.length_cons, List.cons_append, replaceFrom, ih, getLast?_cons_or]

theorem replaceFrom_append (bounded : Bounded matched) (severs : Severs matched front back)
    (before : Option Char) {skip : Nat} (le : skip ≤ front.length) :
    replaceFrom matched new before skip (front ++ back) =
      replaceFrom matched new before skip front ++
        replaceFrom matched new (front.getLast?.or before) 0 back := by
  induction front generalizing before skip with
  | nil =>
      obtain rfl : skip = 0 := Nat.le_zero.mp le
      rfl
  | cons c front ih =>
      have later : Severs matched front back := fun before rest some suffix =>
        severs before rest some (suffix.trans (List.suffix_cons c front))
      rw [getLast?_cons_or]
      cases skip with
      | succ skip => exact ih later (some c) (Nat.le_of_succ_le_succ le)
      | zero =>
          have here := severs before (c :: front) (List.cons_ne_nil c front) List.suffix_rfl
          have length := bounded before (c :: front)
          rw [List.cons_append] at here ⊢
          rw [replaceFrom, replaceFrom, here]
          cases found : matched before (c :: front) with
          | zero => exact congrArg (c :: ·) (ih later (some c) (Nat.zero_le _))
          | succ skip =>
              rw [found] at length
              have rest := ih later (some c) (Nat.le_of_succ_le_succ length)
              exact (congrArg (new ++ ·) rest).trans (List.append_assoc ..).symm

theorem replaceFrom_keep {kept : List Char} (before : Option Char)
    (h : ∀ lead rest, rest ≠ [] → kept = lead ++ rest →
      matched (lead.getLast?.or before) (rest ++ back) = 0) :
    replaceFrom matched new before 0 (kept ++ back) =
      kept ++ replaceFrom matched new (kept.getLast?.or before) 0 back := by
  induction kept generalizing before with
  | nil => rfl
  | cons c kept ih =>
      have here : matched before (c :: (kept ++ back)) = 0 :=
        h [] (c :: kept) (List.cons_ne_nil c kept) rfl
      rw [List.cons_append, replaceFrom, here, getLast?_cons_or]
      refine congrArg (c :: ·) (ih (some c) fun lead rest some split => ?_)
      have later := h (c :: lead) rest some (by rw [split, List.cons_append])
      rwa [getLast?_cons_or] at later

theorem replaceFrom_match {old : List Char} (some : old ≠ []) (before : Option Char)
    (h : matched before (old ++ back) = old.length) :
    replaceFrom matched new before 0 (old ++ back) =
      new ++ replaceFrom matched new (old.getLast?.or before) 0 back := by
  obtain ⟨c, rest, rfl⟩ := List.exists_cons_of_ne_nil some
  rw [List.length_cons, List.cons_append] at h
  rw [List.cons_append, replaceFrom, h, getLast?_cons_or]
  exact congrArg (new ++ ·) (replaceFrom_skip _ rest back)

theorem replaceFrom_before {before other : Option Char} {text : List Char}
    (h : matched before text = matched other text) :
    replaceFrom matched new before 0 text = replaceFrom matched new other 0 text := by
  cases text with
  | nil => rfl
  | cons c rest => rw [replaceFrom, replaceFrom, h]

theorem replace_eq_self {text : List Char}
    (h : ∀ lead rest, rest ≠ [] → text = lead ++ rest → matched lead.getLast? rest = 0) :
    replace matched new text = text := by
  have kept : replaceFrom matched new none 0 (text ++ []) =
      text ++ replaceFrom matched new (text.getLast?.or none) 0 [] :=
    replaceFrom_keep none fun lead rest some split => by
      rw [Option.or_none, List.append_nil]
      exact h lead rest some split
  simpa [replace, replaceFrom] using kept

theorem replace_eq_new {old : List Char} (some : old ≠ []) (h : matched none old = old.length) :
    replace matched new old = new := by
  have whole : replaceFrom matched new none 0 (old ++ []) =
      new ++ replaceFrom matched new (old.getLast?.or none) 0 [] :=
    replaceFrom_match some none (by rwa [List.append_nil])
  simpa [replace, replaceFrom] using whole

theorem replace_ne_nil {text : List Char} (hnew : new ≠ []) (htext : text ≠ []) :
    replace matched new text ≠ [] := by
  obtain ⟨c, rest, rfl⟩ := List.exists_cons_of_ne_nil htext
  rw [replace, replaceFrom]
  split
  · exact List.cons_ne_nil _ _
  · exact List.append_ne_nil_of_left_ne_nil hnew _

theorem mem_replaceFrom {before : Option Char} {skip : Nat} {text : List Char} {c : Char}
    (h : c ∈ replaceFrom matched new before skip text) :
    c ∈ new ∨ ∃ before rest, c :: rest <:+ text ∧ matched before (c :: rest) = 0 := by
  induction text generalizing before skip with
  | nil => exact absurd h List.not_mem_nil
  | cons d rest ih =>
      have later {before : Option Char} {skip : Nat}
          (h : c ∈ replaceFrom matched new before skip rest) :
          c ∈ new ∨
            ∃ before others, c :: others <:+ d :: rest ∧ matched before (c :: others) = 0 := by
        obtain written | ⟨before, others, suffix, none⟩ := ih h
        · exact .inl written
        · exact .inr ⟨before, others, suffix.trans (List.suffix_cons d rest), none⟩
      cases skip with
      | succ skip => exact later h
      | zero =>
          rw [replaceFrom] at h
          split at h
          case h_1 none =>
              rcases List.mem_cons.mp h with rfl | h
              · exact .inr ⟨before, rest, List.suffix_rfl, none⟩
              · exact later h
          case h_2 skip found =>
              rcases List.mem_append.mp h with written | h
              · exact .inl written
              · exact later h

theorem mem_or_mem_of_mem_replace {text : List Char} {c : Char}
    (h : c ∈ replace matched new text) : c ∈ new ∨ c ∈ text := by
  obtain written | ⟨_, rest, suffix, -⟩ := mem_replaceFrom h
  · exact .inl written
  · exact .inr (suffix.subset (List.mem_cons_self))

end

end CardText.Text
