import CardText.Proofs.Text.Ascii
import CardText.Proofs.Wording.NormalForm

/-! A piece of a normal text exchanged for another one. Letters and digits that no variant can
share with the text around them leave the text in normal form. -/
namespace CardText.Wording

/-- No occurrence of the variant touches the piece where the text goes on in this way. -/
structure Foreign (variant piece back : List Char) : Prop where
  not_inside : ¬ variant <:+: piece
  not_around : ¬ piece <:+: variant
  not_before : ∀ ending, ending <:+ variant → ending ≠ [] → ¬ ending <+: piece
  not_behind : ∀ opening rest, variant = opening ++ rest → opening ≠ [] → opening <:+ piece →
    ¬ rest <+: back

namespace Foreign

variable {variant piece front back : List Char}

theorem of_disjoint (hv : variant ≠ []) (hp : piece ≠ []) (h : ∀ c ∈ variant, c ∉ piece) :
    Foreign variant piece back where
  not_inside inside := by
    obtain ⟨c, rest, rfl⟩ := List.exists_cons_of_ne_nil hv
    exact h c List.mem_cons_self (inside.subset List.mem_cons_self)
  not_around inside := by
    obtain ⟨c, rest, rfl⟩ := List.exists_cons_of_ne_nil hp
    exact h c (inside.subset List.mem_cons_self) List.mem_cons_self
  not_before ending suffix some starts := by
    obtain ⟨c, rest, rfl⟩ := List.exists_cons_of_ne_nil some
    exact h c (suffix.subset List.mem_cons_self) (starts.subset List.mem_cons_self)
  not_behind opening rest split some ends _ := by
    obtain ⟨c, others, rfl⟩ := List.exists_cons_of_ne_nil some
    exact h c (by simp [split]) (ends.subset List.mem_cons_self)

theorem isInfix (h : Foreign variant piece back) (inside : variant <:+: front ++ (piece ++ back)) :
    variant <:+: front ∨ variant <:+: back := by
  rcases List.infix_append_iff.mp inside with before | inside | ⟨opening, ending, rfl, ends, starts⟩
  · exact .inl before
  · rcases List.infix_append_iff.mp inside with
      within | behind | ⟨opening, rest, split, ends, starts⟩
    · exact absurd within h.not_inside
    · exact .inr behind
    · by_cases empty : opening = []
      · subst empty
        exact .inr (split ▸ starts.isInfix)
      · exact absurd starts (h.not_behind opening rest split empty ends)
  -- the variant begins in front of the piece, and would end in it or behind it
  · by_cases empty : ending = []
    · subst empty
      exact .inl (by simpa using ends.isInfix)
    · have meets := List.prefix_or_prefix_of_prefix starts (List.prefix_append piece back)
      rcases meets with short | long
      · exact absurd short (h.not_before ending (List.suffix_append _ _) empty)
      · exact absurd (long.isInfix.trans (List.suffix_append opening ending).isInfix) h.not_around

end Foreign

theorem isPunctuation_of_isAlphanum {c : Char} (h : c.isAlphanum = true) :
    isPunctuation c = false := by
  rw [← Bool.not_eq_true]
  intro punctuation
  simp only [isPunctuation, Bool.or_eq_true, beq_iff_eq] at punctuation
  rcases punctuation with ((((rfl | rfl) | rfl) | rfl) | rfl) | rfl <;> exact absurd h (by decide)

theorem apart_of_isAlphanum {a b : Char} (h : b.isAlphanum = true) : Apart a b := fun _ =>
  ⟨ne_blank_of_isSpace_eq_false (Unicode.isSpace_of_isAlphanum h), isPunctuation_of_isAlphanum h⟩

theorem apart_isAlphanum {a b : Char} (h : a.isAlphanum = true) : Apart a b := fun blank =>
  absurd blank (ne_blank_of_isSpace_eq_false (Unicode.isSpace_of_isAlphanum h))

section

variable {front old new back : List Char}

theorem isChain_exchange (h : (front ++ (old ++ back)).IsChain Apart)
    (hnew : ∀ c ∈ new, c.isAlphanum = true) (some : new ≠ []) :
    (front ++ (new ++ back)).IsChain Apart := by
  obtain ⟨before, rest, -⟩ := List.isChain_append.mp h
  obtain ⟨-, behind, -⟩ := List.isChain_append.mp rest
  have within : new.IsChain Apart :=
    List.isChain_iff_forall_rel_of_append_cons_cons.mpr fun a b lead tail split =>
      apart_of_isAlphanum (hnew b (by simp [split]))
  refine List.isChain_append.mpr ⟨before, List.isChain_append.mpr ⟨within, behind, ?_⟩, ?_⟩
  · exact fun a last b _ => apart_isAlphanum (hnew a (List.mem_of_getLast? last))
  · intro a _ b first
    rw [List.head?_append_of_ne_nil new some] at first
    exact apart_of_isAlphanum (hnew b (List.mem_of_mem_head? first))

theorem isNormal_exchange (h : IsNormal (front ++ (old ++ back)))
    (hold : ∀ c ∈ old, c.isAlphanum = true) (hnew : ∀ c ∈ new, c.isAlphanum = true)
    (some : new ≠ []) (foreign : ∀ c ∈ corrections, Foreign c.variant.toList new back) :
    IsNormal (front ++ (new ++ back)) where
  no_reminder := by
    have bare {piece : List Char} (letters : ∀ c ∈ piece, c.isAlphanum = true) :
        piece.filter isParenthesis = [] := List.filter_eq_nil_iff.mpr fun c inside => by
      simp [isParenthesis_of_isAlphanum (letters c inside)]
    refine no_reminder_of_filter_eq ?_ h.no_reminder
    simp only [List.filter_append, bare hold, bare hnew]
  plain c inside space := by
    simp only [List.mem_append] at inside
    rcases inside with before | within | behind
    · exact h.plain c (by simp [before]) space
    · exact absurd space (by simp [Unicode.isSpace_of_isAlphanum (hnew c within)])
    · exact h.plain c (by simp [behind]) space
  apart := isChain_exchange h.apart hnew some
  head c first := by
    by_cases empty : front = []
    · subst empty
      rw [List.nil_append, List.head?_append_of_ne_nil new some] at first
      exact Unicode.isSpace_of_isAlphanum (hnew c (List.mem_of_mem_head? first))
    · have head := h.head c
      rw [List.head?_append_of_ne_nil front empty] at first head
      exact head first
  last c last := by
    by_cases empty : back = []
    · subst empty
      rw [List.append_nil, List.getLast?_append_of_ne_nil front some] at last
      exact Unicode.isSpace_of_isAlphanum (hnew c (List.mem_of_getLast? last))
    · have ends := h.last c
      rw [← List.append_assoc, List.getLast?_append_of_ne_nil _ empty] at last ends
      exact ends last
  corrected c listed inside := by
    refine h.corrected c listed ?_
    rcases (foreign c listed).isInfix inside with before | behind
    · exact before.trans (List.prefix_append front _).isInfix
    · have within := (List.suffix_append old back).trans (List.suffix_append front _)
      exact behind.trans within.isInfix

end

end CardText.Wording
