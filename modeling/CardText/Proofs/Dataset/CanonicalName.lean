import CardText.CardSet
import CardText.Proofs.Text.Alphabet
import Mathlib

/-! What canonical names look like. Whatever the name of a set is written with, its canonical
name is nothing, or words joined by single underscores, and no word holds an underscore or a sign
that has a meaning in paths. Small letters may stray from the alphanumeric ones, as the dot of a
dotted capital I does, but never down to these signs. -/
namespace CardText

def isNamePart (c : Char) : Bool := c != '_' && c != '.' && c != '/' && c != '\\'

theorem isNamePart_iff_toNat {c : Char} :
    isNamePart c = true ↔ c.toNat ≠ 95 ∧ c.toNat ≠ 46 ∧ c.toNat ≠ 47 ∧ c.toNat ≠ 92 := by
  simp only [isNamePart, Bool.and_eq_true, bne_iff_ne, ne_eq, and_assoc, ← Char.toNat_inj]
  rfl

namespace Unicode

theorem isNamePart_of_isAlphanumeric {c : Char} (h : isAlphanumeric c = true) :
    isNamePart c = true := by
  by_contra other
  simp only [isNamePart, Bool.and_eq_true, bne_iff_ne, not_and_or, not_not] at other
  rcases other with ((rfl | rfl) | rfl) | rfl
  all_goals exact absurd h (by decide)

theorem lowercaseCode_eq_self_or_le {runs : List (Nat × Nat × Nat × Nat)}
    (h : ∀ run ∈ runs, 97 ≤ run.2.2.2) (n : Nat) :
    lowercaseCode runs n = n ∨ 97 ≤ lowercaseCode runs n := by
  induction runs with
  | nil => exact .inl rfl
  | cons run runs ih =>
      obtain ⟨image, others⟩ := List.forall_mem_cons.mp h
      rw [lowercaseCode]
      split_ifs
      · exact .inl rfl
      · exact .inr (Nat.le_add_right_of_le image)
      · exact .inl rfl
      · exact ih others

theorem isNamePart_ofNat {n : Nat} (h : 97 ≤ n) : isNamePart (Char.ofNat n) = true := by
  rw [isNamePart_iff_toNat, Char.toNat_ofNat]
  split <;> omega

theorem isNamePart_of_mem_lowercaseChar {c d : Char} (h : isNamePart c = true)
    (inside : d ∈ lowercaseChar c) : isNamePart d = true := by
  have images : ∀ run ∈ lowercaseRuns, 97 ≤ run.2.2.2 := by decide +kernel
  rw [lowercaseChar] at inside
  split at inside
  · simp only [List.mem_cons, List.not_mem_nil, or_false] at inside
    rcases inside with rfl | rfl <;> decide
  · obtain rfl := List.mem_singleton.mp inside
    rcases lowercaseCode_eq_self_or_le images c.toNat with same | moved
    · rwa [same, Char.ofNat_toNat]
    · exact isNamePart_ofNat moved

theorem isNamePart_of_mem_lowercaseFrom {before cs : List Char} {d : Char}
    (h : ∀ c ∈ cs, isNamePart c = true) (inside : d ∈ lowercaseFrom before cs) :
    isNamePart d = true := by
  induction cs generalizing before with
  | nil => cases inside
  | cons c rest ih =>
      obtain ⟨first, others⟩ := List.forall_mem_cons.mp h
      rw [lowercaseFrom, List.mem_append] at inside
      rcases inside with own | later
      · split_ifs at own
        · obtain rfl := List.mem_singleton.mp own
          decide
        · obtain rfl := List.mem_singleton.mp own
          decide
        · exact isNamePart_of_mem_lowercaseChar first own
      · exact ih others later

theorem lowercase_ne_nil {cs : List Char} (h : cs ≠ []) : lowercase cs ≠ [] := by
  obtain ⟨c, rest, rfl⟩ := List.exists_cons_of_ne_nil h
  simp only [lowercase, lowercaseFrom, lowercaseChar]
  split_ifs <;> simp

end Unicode

namespace Text

theorem splitAt_eq_splitOnP (separates : Char → Bool) (text : List Char) :
    splitAt separates text = text.splitOnP separates := by
  induction text with
  | nil => rfl
  | cons c rest ih =>
      obtain ⟨field, fields, split⟩ :=
        List.exists_cons_of_ne_nil (List.splitOnP_ne_nil separates rest)
      rw [splitAt, ih, List.splitOnP_cons_eq_if_modifyHead, split]
      rfl

theorem not_separates_of_mem_splitOnP {separates : Char → Bool} {text field : List Char} {c : Char}
    (h : field ∈ text.splitOnP separates) (inside : c ∈ field) : separates c = false := by
  induction text generalizing field with
  | nil =>
      obtain rfl : field = [] := by simpa using h
      cases inside
  | cons d rest ih =>
      rw [List.splitOnP_cons_eq_if_modifyHead] at h
      by_cases own : separates d = true
      · rw [if_pos own] at h
        rcases List.mem_cons.mp h with rfl | h
        · cases inside
        · exact ih h inside
      · obtain ⟨first, fields, split⟩ :=
          List.exists_cons_of_ne_nil (List.splitOnP_ne_nil separates rest)
        rw [split] at ih
        rw [if_neg own, split, List.modifyHead_cons] at h
        rcases List.mem_cons.mp h with rfl | h
        · rcases List.mem_cons.mp inside with rfl | inside
          · simpa using own
          · exact ih List.mem_cons_self inside
        · exact ih (List.mem_cons_of_mem first h) inside

end Text

inductive Snake : List Char → Prop
  | single {c : Char} (part : isNamePart c = true) : Snake [c]
  | within {c : Char} {rest : List Char} (part : isNamePart c = true) (tail : Snake rest) :
      Snake (c :: rest)
  | joint {c : Char} {rest : List Char} (part : isNamePart c = true) (tail : Snake rest) :
      Snake (c :: '_' :: rest)

namespace Snake

variable {text : List Char}

theorem of_word {word : List Char} (ne : word ≠ []) (parts : ∀ c ∈ word, isNamePart c = true) :
    Snake word := by
  induction word with
  | nil => exact absurd rfl ne
  | cons c rest ih =>
      obtain ⟨first, others⟩ := List.forall_mem_cons.mp parts
      cases rest with
      | nil => exact .single first
      | cons d rest => exact .within first (ih (by simp) others)

theorem join {word : List Char} (ne : word ≠ []) (parts : ∀ c ∈ word, isNamePart c = true)
    (h : Snake text) : Snake (word ++ '_' :: text) := by
  induction word with
  | nil => exact absurd rfl ne
  | cons c rest ih =>
      obtain ⟨first, others⟩ := List.forall_mem_cons.mp parts
      cases rest with
      | nil => exact .joint first h
      | cons d rest => exact .within first (ih (by simp) others)

theorem intercalate {words : List String} (ne : words ≠ [])
    (h : ∀ word ∈ words, word.toList ≠ [] ∧ Text.MadeOf isNamePart word) :
    Snake ("_".intercalate words).toList := by
  induction words with
  | nil => exact absurd rfl ne
  | cons word words ih =>
      obtain ⟨⟨filled, parts⟩, others⟩ := List.forall_mem_cons.mp h
      cases words with
      | nil => simpa using of_word filled parts
      | cons next words =>
          have underscore : "_".toList = ['_'] := by decide
          rw [String.intercalate_cons_cons, String.toList_append, String.toList_append, underscore,
            List.append_assoc, List.singleton_append]
          exact join filled parts (ih (by simp) others)

theorem ne_underscore {c : Char} (part : isNamePart c = true) : c ≠ '_' := by
  rintro rfl
  exact Bool.noConfusion part

theorem mem (h : Snake text) {c : Char} (inside : c ∈ text) : isNamePart c = true ∨ c = '_' := by
  induction h with
  | single part =>
      obtain rfl := List.mem_singleton.mp inside
      exact .inl part
  | within part _ ih =>
      rcases List.mem_cons.mp inside with rfl | inside
      · exact .inl part
      · exact ih inside
  | joint part _ ih =>
      rcases List.mem_cons.mp inside with rfl | inside
      · exact .inl part
      · rcases List.mem_cons.mp inside with rfl | inside
        · exact .inr rfl
        · exact ih inside

theorem not_leading (h : Snake text) : ¬ ['_'] <+: text := by
  cases h with
  | _ part =>
      intro leads
      exact ne_underscore part (List.cons_prefix_cons.mp leads).1.symm

theorem ne_nil (h : Snake text) : text ≠ [] := by
  cases h <;> simp

theorem not_trailing (h : Snake text) : ¬ ['_'] <:+ text := by
  induction h with
  | single part =>
      intro ends
      simp [List.suffix_cons_iff, (ne_underscore part).symm] at ends
  | within part tail ih =>
      intro ends
      rcases List.suffix_cons_iff.mp ends with whole | ends
      · exact tail.ne_nil (List.cons.inj whole).2.symm
      · exact ih ends
  | joint part tail ih =>
      intro ends
      rcases List.suffix_cons_iff.mp ends with whole | ends
      · cases (List.cons.inj whole).2
      · rcases List.suffix_cons_iff.mp ends with whole | ends
        · exact tail.ne_nil (List.cons.inj whole).2.symm
        · exact ih ends

theorem not_doubled (h : Snake text) : ¬ ['_', '_'] <:+: text := by
  induction h with
  | single part =>
      intro inside
      simpa using inside.length_le
  | within part _ ih =>
      intro inside
      rcases List.infix_cons_iff.mp inside with leads | inside
      · exact ne_underscore part (List.cons_prefix_cons.mp leads).1.symm
      · exact ih inside
  | joint part tail ih =>
      intro inside
      rcases List.infix_cons_iff.mp inside with leads | inside
      · exact ne_underscore part (List.cons_prefix_cons.mp leads).1.symm
      · rcases List.infix_cons_iff.mp inside with leads | inside
        · exact tail.not_leading (List.cons_prefix_cons.mp leads).2
        · exact ih inside

end Snake

/-- A name that is one step down from where it is used: no separator of either kind, no dot, and
underscores only between words, one at a time. -/
structure IsFolderName (name : String) : Prop where
  no_slash : '/' ∉ name.toList
  no_backslash : '\\' ∉ name.toList
  no_dot : '.' ∉ name.toList
  not_leading : ¬ ['_'] <+: name.toList
  not_trailing : ¬ ['_'] <:+ name.toList
  not_doubled : ¬ ['_', '_'] <:+: name.toList

theorem isFolderName_of_snake {name : String} (h : name = "" ∨ Snake name.toList) :
    IsFolderName name := by
  rcases h with rfl | h
  · constructor <;> decide
  · have other : ∀ c, isNamePart c = false → c ≠ '_' → c ∉ name.toList := by
      intro c notPart notJoint inside
      rcases h.mem inside with part | joint
      · exact Bool.false_ne_true (notPart.symm.trans part)
      · exact notJoint joint
    exact ⟨other _ rfl (by decide), other _ rfl (by decide), other _ rfl (by decide),
      h.not_leading, h.not_trailing, h.not_doubled⟩

namespace CardSet

theorem snake_canonicalName (set : CardSet) :
    set.canonicalName = "" ∨ Snake set.canonicalName.toList := by
  let fields := (Text.splitAt (fun c => !Unicode.isAlphanumeric c) set.name.toList).filter
    (!·.isEmpty)
  let words := fields.map fun word => String.ofList (Unicode.lowercase word)
  have named : set.canonicalName = "_".intercalate words := rfl
  rw [named]
  by_cases none : words = []
  · exact .inl (by rw [none]; rfl)
  refine .inr (Snake.intercalate none fun word inside => ?_)
  obtain ⟨field, kept, rfl⟩ := List.mem_map.mp inside
  obtain ⟨split, filled⟩ := List.mem_filter.mp kept
  have ne : field ≠ [] := by simpa using filled
  have parts : ∀ c ∈ field, isNamePart c = true := by
    intro c own
    rw [Text.splitAt_eq_splitOnP] at split
    have joined := Text.not_separates_of_mem_splitOnP split own
    exact Unicode.isNamePart_of_isAlphanumeric (by simpa using joined)
  rw [String.toList_ofList]
  refine ⟨Unicode.lowercase_ne_nil ne, fun c own => ?_⟩
  rw [String.toList_ofList] at own
  exact Unicode.isNamePart_of_mem_lowercaseFrom parts own

theorem isFolderName_canonicalName (set : CardSet) : IsFolderName set.canonicalName :=
  isFolderName_of_snake set.snake_canonicalName

end CardSet
end CardText
