import CardText.Proofs.Text.Ascii
import CardText.Proofs.Wording.Segments
import Mathlib

/-! Segments that meet without a seam. Where the segments cannot bring about any of the
patterns that the normal form excludes, each text put together from them is in normal form,
so that normalization leaves it alone. -/
namespace CardText

namespace Wording

def isPlain (c : Char) : Bool := !isParenthesis c && (!Unicode.isSpace c || c == ' ')

theorem isBlank_of_isPlain {c : Char} (h : isPlain c = true) (space : Unicode.isSpace c = true) :
    c = ' ' := by
  rw [isPlain, space, Bool.and_eq_true] at h
  simpa using h.2

theorem isPlain_of_isAlphanum {c : Char} (h : c.isAlphanum = true) : isPlain c = true := by
  rw [isPlain, Unicode.isSpace_of_isAlphanum h, isParenthesis_of_isAlphanum h]
  rfl

theorem isPlain_of_toLower {c : Char} (h : isPlain c.toLower = true) : isPlain c = true := by
  by_cases upper : c.isUpper = true
  · exact isPlain_of_isAlphanum (by simp [Char.isAlphanum, Char.isAlpha, upper])
  · rwa [Char.toLower_eq_of_not_isUpper upper] at h

/-- What no blank stands before. -/
def closing : List Char := [' ', '.', ',', ';', ':', '!', '?']

@[simp] theorem mem_closing {c : Char} : c ∈ closing ↔ c = ' ' ∨ isPunctuation c = true := by
  simp [closing, isPunctuation, or_assoc]

def variants : List (List Char) :=
  corrections.map (fun c => c.variant.toList) ++ closing.map fun c => [' ', c]

theorem no_variants_of_isNormal {text : List Char} (h : IsNormal text) :
    ∀ variant ∈ variants, ¬ variant <:+: text := by
  intro variant listed inside
  rcases List.mem_append.mp listed with listed | listed
  · obtain ⟨correction, known, rfl⟩ := List.mem_map.mp listed
    exact h.corrected correction known inside
  · obtain ⟨c, known, rfl⟩ := List.mem_map.mp listed
    obtain ⟨front, back, rfl⟩ := inside
    have split : front ++ [' ', c] ++ back = front ++ ' ' :: c :: back := by simp
    have apart := List.isChain_iff_forall_rel_of_append_cons_cons.mp h.apart split rfl
    rcases mem_closing.mp known with blank | punctuation
    · exact apart.1 blank
    · exact Bool.noConfusion (apart.2.symm.trans punctuation)

/-- The full stop after the text stands for its end. -/
theorem isNormal_of_no_variants {text : List Char} (plain : ∀ c ∈ text, isPlain c = true)
    (head : text.head? ≠ some ' ')
    (free : ∀ variant ∈ variants, ¬ variant <:+: text ++ ['.']) : IsNormal text where
  no_reminder := by
    intro reminder
    have inside : '(' ∈ text := reminder.subset (by simp)
    exact absurd (plain '(' inside) (by decide)
  plain c inside := isBlank_of_isPlain (plain c inside)
  apart := by
    refine List.isChain_iff_forall_rel_of_append_cons_cons.mpr fun a b front back split blank => ?_
    subst blank
    have loose : b ∉ closing := by
      intro known
      refine free [' ', b] (List.mem_append_right _ (List.mem_map_of_mem known)) ?_
      exact ⟨front, back ++ ['.'], by simp [split]⟩
    rw [mem_closing, not_or, Bool.not_eq_true] at loose
    exact loose
  head c first := by
    by_contra space
    rw [Bool.not_eq_false] at space
    obtain rfl := isBlank_of_isPlain (plain c (List.mem_of_mem_head? first)) space
    exact head first
  last c last := by
    by_contra space
    rw [Bool.not_eq_false] at space
    obtain rfl := isBlank_of_isPlain (plain c (List.mem_of_mem_getLast? last)) space
    obtain ⟨front, rfl⟩ := List.getLast?_eq_some_iff.mp last
    have known : '.' ∈ closing := by decide
    refine free [' ', '.'] (List.mem_append_right _ (List.mem_map_of_mem known)) ?_
    exact ⟨front, [], by simp⟩
  corrected correction listed inside := by
    refine free _ (List.mem_append_left _ (List.mem_map_of_mem listed)) ?_
    exact inside.trans (List.infix_append' [] text ['.'])

end Wording

namespace Segment

open Wording

variable {segments : List Segment} {text : List Char}

def isPlain : Segment → Bool
  | spelled _ choices => choices.all fun choice => choice.all Wording.isPlain
  | digits | name _ => true

def seamless (patterns : List (List Char)) (segments : List Segment) : Bool :=
  segments.all isPlain && !mayOpen segments [' '] &&
    patterns.all fun pattern => !mayBring pattern (segments ++ [.spelled false [['.']]])

theorem isPlain_of_takes {segment : Segment} (h : segment.isPlain = true) {part : List Char}
    (takes : segment.Takes part) : ∀ c ∈ part, Wording.isPlain c = true := by
  intro c inside
  cases segment with
  | spelled anyCase choices =>
      have folded := List.all_eq_true.mp (List.all_eq_true.mp h _ takes) _
        (List.mem_map_of_mem inside)
      cases anyCase with
      | true => exact isPlain_of_toLower folded
      | false => exact folded
  | digits => exact isPlain_of_isAlphanum (by simp [Char.isAlphanum, takes.2 c inside])
  | name barred =>
      have parenthesis := takes.1.no_parenthesis c inside
      have blank := takes.1.normal.plain c inside
      rw [Wording.isPlain, parenthesis]
      cases space : Unicode.isSpace c with
      | true => simp [blank space]
      | false => rfl

theorem isPlain_of_spells (h : segments.all isPlain = true) (spells : Spells segments text) :
    ∀ c ∈ text, Wording.isPlain c = true := by
  induction segments generalizing text with
  | nil =>
      obtain rfl : text = [] := spells
      simp
  | cons segment segments ih =>
      obtain ⟨part, rest, takes, spells, rfl⟩ := spells
      rw [List.all_cons, Bool.and_eq_true] at h
      intro c inside
      rcases List.mem_append.mp inside with inside | inside
      · exact isPlain_of_takes h.1 takes c inside
      · exact ih h.2 spells c inside

theorem isNormal_of_spells (h : seamless variants segments = true)
    (spells : Spells segments text) : IsNormal text := by
  rw [seamless, Bool.and_eq_true, Bool.and_eq_true, Bool.not_eq_true'] at h
  obtain ⟨⟨plain, head⟩, seams⟩ := h
  refine isNormal_of_no_variants (isPlain_of_spells plain spells) ?_ ?_
  · intro blank
    obtain ⟨rest, rfl⟩ := List.head?_eq_some_iff.mp blank
    have opens := mayOpen_of_spells spells (List.prefix_append [' '] rest)
    exact Bool.noConfusion (head.symm.trans opens)
  · intro variant listed inside
    have clean : ∀ name, IsCleanName name → ¬ variant <:+: name :=
      fun name clean => no_variants_of_isNormal clean.normal variant listed
    have stop : Spells [.spelled false [['.']]] ['.'] := ⟨['.'], [], by simp [Takes, fold], rfl, rfl⟩
    have brings := mayBring_of_infix clean (spells_append spells stop) inside
    have seamless := List.all_eq_true.mp seams variant listed
    rw [brings] at seamless
    exact Bool.noConfusion seamless

end Segment
end CardText
