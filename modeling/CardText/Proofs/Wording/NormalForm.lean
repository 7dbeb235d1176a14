import CardText.Proofs.Text.Replacement
import CardText.Proofs.Wording.Arrangement
import Mathlib.Data.Set.Operations
import Mathlib.Tactic.MkIffOfInductiveProp

/-! The normal form of a wording. No correction disturbs the arrangement of the text, brings
back what an earlier one removed, or leaves anything for a second run of its own. So the
normalized wordings are the arranged ones without a variant, which normalization keeps. -/
namespace CardText.Wording

structure IsNormal (text : List Char) : Prop extends Arranged text where
  corrected : ∀ c ∈ corrections, ¬ c.variant.toList <:+: text

instance : DecidableRel Apart := fun a b =>
  inferInstanceAs (Decidable (a = ' ' → b ≠ ' ' ∧ isPunctuation b = false))

@[mk_iff]
structure Neat (old new : List Char) : Prop where
  old_ne_nil : old ≠ []
  new_ne_nil : new ≠ []
  old_no_parenthesis : old.any isParenthesis = false
  new_no_parenthesis : new.any isParenthesis = false
  plain : (new.all fun c => !Unicode.isSpace c || c == ' ') = true
  apart : new.IsChain Apart
  head : new.head?.any Unicode.isSpace = false
  head_punctuation : new.head?.any isPunctuation = true → old.head?.any isPunctuation = true
  last : new.getLast?.any Unicode.isSpace = true → new.getLast? = old.getLast?

instance (old new : List Char) : Decidable (Neat old new) :=
  decidable_of_iff _ (neat_iff old new).symm

namespace Neat

variable {old new text out : List Char}

theorem isSpace_head (h : Neat old new) : ∀ c ∈ new.head?, Unicode.isSpace c = false :=
  (Option.any_eq_false _ _).mp h.head

theorem apart_head (h : Neat old new) {a : Char} (hold : ∀ b ∈ old.head?, Apart a b) :
    ∀ b ∈ new.head?, Apart a b := by
  intro b hb hblank
  refine ⟨ne_blank_of_isSpace_eq_false (h.isSpace_head b hb), ?_⟩
  by_contra hpunctuation
  rw [Bool.not_eq_false] at hpunctuation
  obtain ⟨d, hd, hdpunctuation⟩ := (Option.any_eq_true _ _).mp
    (h.head_punctuation ((Option.any_eq_true _ _).mpr ⟨b, hb, hpunctuation⟩))
  rw [(hold d hd hblank).2] at hdpunctuation
  exact Bool.noConfusion hdpunctuation

theorem mem_getLast (h : Neat old new) {c : Char} (hc : c ∈ new.getLast?)
    (hspace : Unicode.isSpace c = true) : c ∈ old.getLast? := by
  rwa [← h.last ((Option.any_eq_true _ _).mpr ⟨c, hc, hspace⟩)]

theorem apart_last (h : Neat old new) {b : Char} (hold : ∀ a ∈ old.getLast?, Apart a b) :
    ∀ a ∈ new.getLast?, Apart a b := by
  intro a ha hblank
  exact hold a (h.mem_getLast ha (hblank ▸ isSpace_blank)) hblank

theorem isSpace_last (h : Neat old new)
    (hold : ∀ c ∈ old.getLast?, Unicode.isSpace c = false) :
    ∀ c ∈ new.getLast?, Unicode.isSpace c = false := by
  intro c hc
  by_contra hspace
  rw [Bool.not_eq_false] at hspace
  exact absurd hspace (Bool.eq_false_iff.mp (hold c (h.mem_getLast hc hspace)))

theorem eq_blank (h : Neat old new) {c : Char} (hc : c ∈ new)
    (hspace : Unicode.isSpace c = true) : c = ' ' := by
  simpa [hspace] using List.all_eq_true.mp h.plain c hc

theorem arranged (h : Neat old new) (hreplaced : Text.Replaced old new text out)
    (htext : Arranged text) : Arranged out where
  no_reminder := by
    refine no_reminder_of_filter_eq (hreplaced.filter_eq ?_ ?_) htext.no_reminder
    · simpa using h.old_no_parenthesis
    · simpa using h.new_no_parenthesis
  plain c hc hspace := (hreplaced.mem_or_mem hc).elim (fun hc => htext.plain c hc hspace)
    fun hc => h.eq_blank hc hspace
  apart := hreplaced.isChain h.old_ne_nil h.new_ne_nil h.apart (fun _ => h.apart_head)
    (fun _ => h.apart_last) htext.apart
  head := hreplaced.forall_head h.old_ne_nil h.new_ne_nil (fun _ => h.isSpace_head) htext.head
  last := hreplaced.forall_getLast h.old_ne_nil h.new_ne_nil h.isSpace_last htext.last

end Neat

def Correction.spellings (c : Correction) : List Char × List Char :=
  (c.variant.toList, c.standard.toList)

theorem corrections_survey :
    (∀ pair ∈ corrections.map Correction.spellings,
        Neat pair.1 pair.2 ∧ Text.Settles pair.1 pair.2) ∧
      (corrections.map Correction.spellings).Pairwise fun earlier later =>
        Text.Spares later.1 later.2 earlier.1 := by
  simp only [corrections, List.map_cons, List.map_nil, Correction.spellings]
  repeat rw [String.toList_ofList]
  decide +kernel

theorem neat_of_mem_corrections {c : Correction} (h : c ∈ corrections) :
    Neat c.variant.toList c.standard.toList :=
  (corrections_survey.1 _ (List.mem_map_of_mem h)).1

theorem replaced_apply {c : Correction} (h : c ∈ corrections) (text : List Char) :
    Text.Replaced c.variant.toList c.standard.toList text (c.apply text) :=
  Text.replaced_replaceAll (neat_of_mem_corrections h).old_ne_nil c.standard text

theorem arranged_apply {c : Correction} (h : c ∈ corrections) {text : List Char}
    (htext : Arranged text) : Arranged (c.apply text) :=
  (neat_of_mem_corrections h).arranged (replaced_apply h text) htext

theorem arranged_foldl_apply {cs : List Correction} (hcs : cs ⊆ corrections) {text : List Char}
    (htext : Arranged text) : Arranged (cs.foldl Correction.apply text) := by
  induction cs generalizing text with
  | nil => exact htext
  | cons c cs ih =>
      obtain ⟨hc, hcs⟩ := List.cons_subset.mp hcs
      rw [List.foldl_cons]
      exact ih hcs (arranged_apply hc htext)

theorem corrected_foldl_apply {cs : List Correction} (hcs : cs <+: corrections)
    (text : List Char) :
    ∀ c ∈ cs, ¬ c.variant.toList <:+: cs.foldl Correction.apply text := by
  induction cs using List.reverseRecOn with
  | nil => simp
  | append_singleton cs last ih =>
      have hmem : last ∈ corrections := hcs.subset (by simp)
      have hreplaced := replaced_apply hmem (cs.foldl Correction.apply text)
      rw [List.foldl_append, List.foldl_cons, List.foldl_nil]
      intro c hc
      rcases List.mem_append.mp hc with hc | hc
      · have hpair := (List.pairwise_map.mp corrections_survey.2).sublist hcs.sublist
        have hspares := (List.pairwise_append.mp hpair).2.2 c hc last (by simp)
        have hearlier := ih ((List.prefix_append cs [last]).trans hcs) c hc
        exact mt (hreplaced.isInfix_of_isInfix hspares) hearlier
      · obtain rfl := List.mem_singleton.mp hc
        have hneat := neat_of_mem_corrections hmem
        have hsettles := (corrections_survey.1 _ (List.mem_map_of_mem hmem)).2
        exact hreplaced.not_isInfix hneat.old_ne_nil hsettles

theorem foldl_apply_eq_self {cs : List Correction} (hcs : cs ⊆ corrections) {text : List Char}
    (htext : ∀ c ∈ cs, ¬ c.variant.toList <:+: text) :
    cs.foldl Correction.apply text = text := by
  induction cs with
  | nil => rfl
  | cons c cs ih =>
      obtain ⟨hc, hcs⟩ := List.cons_subset.mp hcs
      obtain ⟨hvariant, htext⟩ := List.forall_mem_cons.mp htext
      rw [List.foldl_cons, (replaced_apply hc text).eq_self hvariant, ih hcs htext]

theorem isNormal_normalizeChars (text : List Char) : IsNormal (normalizeChars text) := by
  rw [normalizeChars, correct]
  refine ⟨arranged_foldl_apply (List.Subset.refl corrections) (arranged_arrange text), ?_⟩
  exact corrected_foldl_apply (List.prefix_refl corrections) (arrange text)

theorem normalizeChars_eq_self {text : List Char} (h : IsNormal text) :
    normalizeChars text = text := by
  rw [normalizeChars, arrange_eq_self h.toArranged, correct]
  exact foldl_apply_eq_self (List.Subset.refl _) h.corrected

theorem normalize_eq_self_iff (text : String) : normalize text = text ↔ IsNormal text.toList := by
  constructor
  · intro h
    rw [← h, normalize, String.toList_ofList]
    exact isNormal_normalizeChars text.toList
  · intro h
    rw [normalize, normalizeChars_eq_self h, String.ofList_toList]

/-- The normal wordings are the results of normalization, and they are what it leaves alone. -/
theorem normalize_normal_form :
    (∀ text, IsNormal (normalize text).toList) ∧
      (∀ text, normalize text = text ↔ IsNormal text.toList) ∧
      Set.range normalize = {text | normalize text = text} ∧
      ∀ text, normalize (normalize text) = normalize text := by
  have hnormal : ∀ text, IsNormal (normalize text).toList := by
    intro text
    rw [normalize, String.toList_ofList]
    exact isNormal_normalizeChars text.toList
  have hagain : ∀ text, normalize (normalize text) = normalize text :=
    fun text => (normalize_eq_self_iff _).mpr (hnormal text)
  refine ⟨hnormal, normalize_eq_self_iff, ?_, hagain⟩
  ext text
  constructor
  · rintro ⟨source, rfl⟩
    exact hagain source
  · exact fun h => ⟨text, h⟩

end CardText.Wording
