import CardText.Proofs.Template.Filling
import CardText.Proofs.Wording.NormalForm
import CardText.Text.Ascii

/-! Texts put together from segments. A pattern that no segment holds can still arise where
segments meet: some segment ends with a front part of it and the next ones open with the
rest. What segments can hold, end with and open with is computed from their spellings. -/
namespace CardText

open Wording

theorem isName_of_prefix {front name : List Char} (h : IsName name) (nonempty : front ≠ [])
    (opens : front <+: name) : IsName front := by
  obtain ⟨first, front, rfl⟩ := List.exists_cons_of_ne_nil nonempty
  obtain ⟨rest, rfl⟩ := opens
  exact ⟨h.1, fun c inside => h.2 c (List.mem_append_left rest inside)⟩

theorem all_isNameChar_of_isName {name : List Char} (h : IsName name) :
    ∀ c ∈ name, isNameChar c = true := by
  cases name with
  | nil => simp
  | cons first rest =>
      refine List.forall_mem_cons.mpr ⟨?_, fun c inside => (isNameChar_iff c).mpr (h.2 c inside)⟩
      refine (isNameChar_iff first).mpr ⟨?_, ?_, ?_⟩ <;> rintro rfl <;> exact absurd h.1 (by decide)

/-- A name that normalization leaves alone as long as nothing stands after it. -/
structure IsCleanName (name : List Char) : Prop where
  named : IsName name
  no_parenthesis : ∀ c ∈ name, isParenthesis c = false
  normal : IsNormal name

/-- Spellings, in any case of ASCII if so marked and then listed in lower case; a run of
digits; or a name that does not end in any of some ways. -/
inductive Segment where
  | spelled (anyCase : Bool) (choices : List (List Char))
  | digits
  | name (barred : List (List Char))

namespace Segment

def fold : Bool → Char → Char
  | true => Char.toLower
  | false => id

def Takes : Segment → List Char → Prop
  | spelled anyCase choices, part => part.map (fold anyCase) ∈ choices
  | digits, part => part ≠ [] ∧ ∀ c ∈ part, c.isDigit = true
  | name barred, part => IsCleanName part ∧ ∀ ending ∈ barred, ¬ ending <:+ part

def Spells : List Segment → List Char → Prop
  | [], text => text = []
  | segment :: segments, text =>
      ∃ part rest, segment.Takes part ∧ Spells segments rest ∧ text = part ++ rest

/-- What is left of an opening after the segment, nothing if the segment goes on beyond it. -/
def remains : Segment → List Char → List (List Char)
  | spelled anyCase choices, opening =>
      let folded := opening.map (fold anyCase)
      choices.flatMap fun choice =>
        (if folded.isPrefixOf choice then [[]] else []) ++
          if choice.isPrefixOf folded then [opening.drop choice.length] else []
  | digits, opening => restsOfRuns Char.isDigit opening
  | name _, opening => restsOfName opening

def mayOpen : List Segment → List Char → Bool
  | [], opening => opening.isEmpty
  | segment :: segments, opening =>
      opening.isEmpty || (segment.remains opening).any (mayOpen segments)

def mayEnd (ending : List Char) : Segment → Bool
  | spelled anyCase choices => choices.any (ending.map (fold anyCase)).isSuffixOf
  | digits => ending.all Char.isDigit
  | name barred => ending.all isNameChar && !([' '] :: barred).any (·.isSuffixOf ending)

/-- Names are taken to be free of the pattern. -/
def mayHold (pattern : List Char) : Segment → Bool
  | spelled anyCase choices =>
      choices.any fun choice => choice.tails.any (pattern.map (fold anyCase)).isPrefixOf
  | digits => pattern.all Char.isDigit
  | name _ => false

def cuts (pattern : List Char) : List (List Char × List Char) :=
  (List.range' 1 (pattern.length - 1)).map fun n => (pattern.take n, pattern.drop n)

def mayBring (pattern : List Char) : List Segment → Bool
  | [] => pattern.isEmpty
  | segment :: segments =>
      segment.mayHold pattern || mayBring pattern segments ||
        (cuts pattern).any fun (ending, opening) =>
          segment.mayEnd ending && mayOpen segments opening

theorem mem_cuts {ending opening : List Char} (front : ending ≠ []) (back : opening ≠ []) :
    (ending, opening) ∈ cuts (ending ++ opening) := by
  have front : 0 < ending.length := List.length_pos_of_ne_nil front
  have back : 0 < opening.length := List.length_pos_of_ne_nil back
  refine List.mem_map.mpr ⟨ending.length, ?_, by simp⟩
  rw [List.mem_range'_1, List.length_append]
  omega

theorem prefix_append_cases {α : Type} {opening part rest : List α} (h : opening <+: part ++ rest) :
    opening <+: part ∨ ∃ left, opening = part ++ left ∧ left <+: rest := by
  rcases List.prefix_or_prefix_of_prefix h (List.prefix_append part rest) with inside | beyond
  · exact .inl inside
  · obtain ⟨left, rfl⟩ := beyond
    exact .inr ⟨left, rfl, (List.prefix_append_right_inj part).mp h⟩

variable {segment : Segment} {segments : List Segment} {part rest text pattern : List Char}

theorem exists_remains (takes : segment.Takes part) {opening : List Char}
    (nonempty : opening ≠ []) (h : opening <+: part ++ rest) :
    ∃ left ∈ segment.remains opening, left <+: rest := by
  rcases prefix_append_cases h with inside | ⟨left, rfl, beyond⟩
  · refine ⟨[], ?_, List.nil_prefix⟩
    cases segment with
    | spelled anyCase choices =>
        refine List.mem_flatMap.mpr ⟨part.map (fold anyCase), takes, List.mem_append_left _ ?_⟩
        rw [if_pos (List.isPrefixOf_iff_prefix.mpr (inside.map _))]
        exact List.mem_singleton_self []
    | digits =>
        have run : ∀ c ∈ opening, c.isDigit = true := fun c hc => takes.2 c (inside.subset hc)
        exact mem_restsOfRuns.mpr ⟨opening, nonempty, run, by simp⟩
    | name barred =>
        have front := isName_of_prefix takes.1.named nonempty inside
        exact mem_restsOfName.mpr ⟨opening, front, by simp⟩
  · cases segment with
    | spelled anyCase choices =>
        refine ⟨left, List.mem_flatMap.mpr ⟨_, takes, List.mem_append_right _ ?_⟩, beyond⟩
        rw [if_pos (List.isPrefixOf_iff_prefix.mpr ((List.prefix_append part left).map _))]
        simp
    | digits => exact ⟨left, mem_restsOfRuns.mpr ⟨part, takes.1, takes.2, rfl⟩, beyond⟩
    | name barred => exact ⟨left, mem_restsOfName.mpr ⟨part, takes.1.named, rfl⟩, beyond⟩

theorem mayOpen_of_spells (h : Spells segments text) {opening : List Char}
    (opens : opening <+: text) : mayOpen segments opening = true := by
  induction segments generalizing text opening with
  | nil =>
      obtain rfl : text = [] := h
      simp [mayOpen, List.prefix_nil.mp opens]
  | cons segment segments ih =>
      obtain ⟨part, rest, takes, spells, rfl⟩ := h
      by_cases empty : opening = []
      · simp [mayOpen, empty]
      · obtain ⟨left, remains, opens⟩ := exists_remains takes empty opens
        have later : (segment.remains opening).any (mayOpen segments) = true :=
          List.any_eq_true.mpr ⟨left, remains, ih spells opens⟩
        rw [mayOpen, later, Bool.or_true]

theorem mayEnd_of_takes (takes : segment.Takes part) {ending : List Char}
    (ends : ending <:+ part) : segment.mayEnd ending = true := by
  cases segment with
  | spelled anyCase choices =>
      exact List.any_eq_true.mpr ⟨_, takes, List.isSuffixOf_iff_suffix.mpr (ends.map _)⟩
  | digits => exact List.all_eq_true.mpr fun c inside => takes.2 c (ends.subset inside)
  | name barred =>
      obtain ⟨clean, unbarred⟩ := takes
      have chars : ending.all isNameChar = true := List.all_eq_true.mpr fun c inside =>
        all_isNameChar_of_isName clean.named c (ends.subset inside)
      -- a blank that ends the segment would end the name, which is in normal form
      have free : ([' '] :: barred).any (·.isSuffixOf ending) = false := by
        refine List.any_eq_false.mpr fun other listed suffix => ?_
        have suffix := (List.isSuffixOf_iff_suffix.mp suffix).trans ends
        rcases List.mem_cons.mp listed with rfl | listed
        · obtain ⟨front, rfl⟩ := suffix
          have last := clean.normal.last ' ' (by simp)
          exact Bool.noConfusion (isSpace_blank.symm.trans last)
        · exact unbarred other listed suffix
      rw [mayEnd, chars, free]
      rfl

theorem mayHold_of_takes (clean : ∀ name, IsCleanName name → ¬ pattern <:+: name)
    (takes : segment.Takes part) (holds : pattern <:+: part) : segment.mayHold pattern = true := by
  cases segment with
  | spelled anyCase choices =>
      obtain ⟨tail, front, suffix⟩ := List.infix_iff_prefix_suffix.mp (holds.map (fold anyCase))
      refine List.any_eq_true.mpr ⟨_, takes, List.any_eq_true.mpr ⟨tail, ?_, ?_⟩⟩
      · exact (List.mem_tails _ _).mpr suffix
      · exact List.isPrefixOf_iff_prefix.mpr front
  | digits => exact List.all_eq_true.mpr fun c inside => takes.2 c (holds.subset inside)
  | name barred => exact absurd holds (clean part takes.1)

theorem mayBring_of_infix (clean : ∀ name, IsCleanName name → ¬ pattern <:+: name)
    (h : Spells segments text) (inside : pattern <:+: text) :
    mayBring pattern segments = true := by
  induction segments generalizing text with
  | nil =>
      obtain rfl : text = [] := h
      simp [mayBring, List.infix_nil.mp inside]
  | cons segment segments ih =>
      obtain ⟨part, rest, takes, spells, rfl⟩ := h
      rw [mayBring, Bool.or_eq_true, Bool.or_eq_true]
      rcases List.infix_append_iff.mp inside with
        held | later | ⟨ending, opening, rfl, ends, opens⟩
      · exact .inl (.inl (mayHold_of_takes clean takes held))
      · exact .inl (.inr (ih spells later))
      -- the pattern ends beyond the segment, and is cut where the segment ends
      · by_cases front : ending = []
        · subst front
          exact .inl (.inr (ih spells opens.isInfix))
        by_cases back : opening = []
        · subst back
          have held : ending ++ [] <:+: part := by simpa using ends.isInfix
          exact .inl (.inl (mayHold_of_takes clean takes held))
        refine .inr (List.any_eq_true.mpr ⟨_, mem_cuts front back, ?_⟩)
        exact Bool.and_eq_true_iff.mpr
          ⟨mayEnd_of_takes takes ends, mayOpen_of_spells spells opens⟩

theorem spells_append {others : List Segment} (h : Spells segments text)
    (h' : Spells others rest) : Spells (segments ++ others) (text ++ rest) := by
  induction segments generalizing text with
  | nil =>
      obtain rfl : text = [] := h
      exact h'
  | cons segment segments ih =>
      obtain ⟨part, text, takes, spells, rfl⟩ := h
      exact ⟨part, text ++ rest, takes, ih spells, List.append_assoc ..⟩

end Segment
end CardText
