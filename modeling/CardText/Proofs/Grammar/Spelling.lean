import CardText.Proofs.Grammar.Building
import CardText.Proofs.Wording.Seams

/-! The wordings that each rule is meant to read: its template filled with amounts within
the limit, energy types in any case, conditions and clean names. Their segments meet without
a seam, over all of the grammar, so all of them are in normal form. -/
namespace CardText

open Grammar Wording

/-- With the blank after it, each of these would be corrected at the end of a name. -/
def seamEndings : List String := ["Do", "This attack", "This attack does"]

def Piece.Takes : Piece → List Char → Prop
  | number slot, digits => (number slot).Fits digits ∧ Text.numeral digits ≤ 2 ^ 32 - 1
  | word _, spelled => ∃ energy : Energy, energy.Named spelled
  | creature, part =>
      ∃ name, IsCleanName name ∧ (∀ ending ∈ seamEndings, ¬ ending.toList <:+ name) ∧
        (part = name ∨ part = "Mr. ".toList ++ name)
  | text literal, part => (text literal).Fits part
  | oneOf spellings, part => (oneOf spellings).Fits part
  | status slot choices, part => (status slot choices).Fits part

structure Rule.Takes (rule : Rule) (parts : List (List Char)) : Prop where
  takes : List.Forall₂ Piece.Takes rule.template parts
  together : ¬ rule.FailsTogether parts

namespace Piece

variable {piece : Piece} {part : List Char}

theorem fits_of_takes (h : piece.Takes part) : piece.Fits part := by
  cases piece with
  | number slot => exact h.1
  | word slot =>
      obtain ⟨energy, named⟩ := h
      refine ⟨Energy.ne_nil_of_named named, fun c inside => ?_⟩
      exact Unicode.isWord_of_isAlpha (Energy.isAlpha_of_named named c inside)
  | creature =>
      obtain ⟨name, clean, _, rfl | rfl⟩ := h
      · exact .inl clean.named
      · exact .inr ⟨name, clean.named, rfl⟩
  | text literal => exact h
  | oneOf spellings => exact h
  | status slot choices => exact h

theorem usable_of_takes (h : piece.Takes part) : piece.Usable part := by
  cases piece with
  | number slot => exact h.2
  | word slot => exact h
  | creature => exact trivial
  | text literal => exact trivial
  | oneOf spellings => exact trivial
  | status slot choices => exact trivial

def segments : Piece → List Segment
  | text literal => [.spelled false [literal.toList]]
  | oneOf spellings => [.spelled false (spellings.map String.toList)]
  | number _ => [.digits]
  | status _ choices => [.spelled false ((choices.map Status.name).map String.toList)]
  | word _ => [.spelled true (Energy.all.map fun energy => Text.lowerAscii energy.name.toList)]
  | creature => [.spelled false ["Mr. ".toList, []], .name (seamEndings.map String.toList)]

theorem spells_of_mem {choices : List (List Char)} (h : part ∈ choices) :
    Segment.Spells [.spelled false choices] part :=
  ⟨part, [], by simpa [Segment.Takes, Segment.fold] using h, rfl, by simp⟩

theorem spells_segments (h : piece.Takes part) : Segment.Spells piece.segments part := by
  cases piece with
  | number slot => exact ⟨part, [], h.1, rfl, by simp⟩
  | word slot =>
      obtain ⟨energy, named⟩ := h
      refine ⟨part, [], List.mem_map.mpr ⟨energy, Energy.mem_all energy, named.symm⟩, rfl, ?_⟩
      simp
  | creature =>
      obtain ⟨name, clean, unbarred, spelling⟩ := h
      have named : Segment.Spells [.name (seamEndings.map String.toList)] name :=
        ⟨name, [], ⟨clean, by simpa using unbarred⟩, rfl, by simp⟩
      rcases spelling with rfl | rfl
      · have untitled : [] ∈ ["Mr. ".toList, []] := by simp
        exact Segment.spells_append (spells_of_mem untitled) named
      · exact Segment.spells_append (spells_of_mem (by simp)) named
  | text literal =>
      obtain rfl : part = literal.toList := h
      exact spells_of_mem (List.mem_singleton_self _)
  | oneOf spellings =>
      obtain ⟨spelling, listed, rfl⟩ := h
      exact spells_of_mem (List.mem_map_of_mem listed)
  | status slot choices =>
      obtain ⟨choice, listed, rfl⟩ := h
      exact spells_of_mem (List.mem_map_of_mem (List.mem_map_of_mem listed))

end Piece

theorem Template.spells_segments {template : Template} {parts : List (List Char)}
    (h : List.Forall₂ Piece.Takes template parts) :
    Segment.Spells (template.flatMap Piece.segments) parts.flatten := by
  induction h with
  | nil => rfl
  | cons takes _ ih => exact Segment.spells_append (Piece.spells_segments takes) ih

theorem grammar_seamless :
    (grammar.map fun rule => rule.template.flatMap Piece.segments).all
      (Segment.seamless variants) = true := by
  unfold grammar
  repeat erw [Rule.map_mk fun _ template => template.flatMap Piece.segments]
  simp only [typedCost, List.map_nil, List.cons_append, List.nil_append]
  simp only [List.flatMap_cons, List.flatMap_nil, Piece.segments, Status.all, Energy.all,
    List.map_cons, List.map_nil, Status.name, Energy.name, seamEndings, variants, corrections,
    List.cons_append, List.nil_append, closing]
  repeat rw [String.toList_ofList]
  decide +kernel

theorem isNormal_of_takes {rule : Rule} (hrule : rule ∈ grammar) {parts : List (List Char)}
    (h : List.Forall₂ Piece.Takes rule.template parts) : IsNormal parts.flatten := by
  have seamless := List.all_eq_true.mp grammar_seamless _ (List.mem_map_of_mem hrule)
  exact Segment.isNormal_of_spells seamless (Template.spells_segments h)

end CardText
