import CardText.Proofs.Wording.Arrangement
import CardText.Reading
import Mathlib.Data.List.Infix

/-! Texts of one wording. A reminder may come in behind what is closed before it, white space may
grow, shrink or change its kind, and before punctuation and at the two ends it may be there or not:
the arrangement of the text stays the same, so it is read in the same way. -/
namespace CardText.Wording

def Closed (text : List Char) : Prop := ∀ behind, '(' :: behind <:+ text → ')' ∈ behind

theorem Closed.tail {c : Char} {rest : List Char} (h : Closed (c :: rest)) : Closed rest :=
  fun behind suffix => h behind (suffix.trans (List.suffix_cons c rest))

theorem dropRemindersFrom_append {front : List Char} (closed : Closed front) {inside : Bool}
    (ends : inside = true → ')' ∈ front) (back : List Char) :
    dropRemindersFrom inside (front ++ back) =
      dropRemindersFrom inside front ++ dropReminders back := by
  induction front generalizing inside with
  | nil =>
      cases inside with
      | true => exact absurd (ends rfl) List.not_mem_nil
      | false => rfl
  | cons c front ih =>
      cases inside with
      | true =>
          refine ih closed.tail fun still => ?_
          exact (List.mem_cons.mp (ends rfl)).resolve_left (Ne.symm (by simpa using still))
      | false =>
          rw [List.cons_append, dropRemindersFrom, dropRemindersFrom]
          by_cases hc : c = '('
          · have behind : ')' ∈ front := closed front (hc ▸ List.suffix_rfl)
            simp only [hc, beq_self_eq_true, List.contains_iff_mem.mpr behind,
              List.contains_iff_mem.mpr (List.mem_append_left back behind), Bool.and_self, if_true]
            exact ih closed.tail fun _ => behind
          · simp only [beq_eq_false_iff_ne.mpr hc, Bool.false_and, Bool.false_eq_true, if_false]
            rw [ih closed.tail fun still => Bool.noConfusion still, List.cons_append]

theorem dropRemindersFrom_ending {inner : List Char} (h : ')' ∉ inner) (back : List Char) :
    dropRemindersFrom true (inner ++ ')' :: back) = dropReminders back := by
  induction inner with
  | nil => rfl
  | cons c inner ih =>
      obtain ⟨hc, h⟩ : ')' ≠ c ∧ ')' ∉ inner := by simpa using h
      have still : (c != ')') = true := bne_iff_ne.mpr (Ne.symm hc)
      rw [List.cons_append, dropRemindersFrom, still, ih h]

theorem dropReminders_reminder {inner : List Char} (h : ')' ∉ inner) (back : List Char) :
    dropReminders ('(' :: (inner ++ ')' :: back)) = dropReminders back := by
  have behind : (inner ++ ')' :: back).contains ')' = true := by simp
  rw [dropReminders, dropRemindersFrom, behind]
  exact dropRemindersFrom_ending h back

section

variable {blank : List Char} (hblank : Text.isBlank blank = true)

include hblank

theorem not_mem_blank {c : Char} (hc : Unicode.isSpace c = false) : c ∉ blank := by
  intro inside
  rw [List.all_eq_true.mp hblank c inside] at hc
  exact Bool.noConfusion hc

theorem dropRemindersFrom_blank (inside : Bool) (back : List Char) :
    dropRemindersFrom inside (blank ++ back) =
      (if inside then [] else blank) ++ dropRemindersFrom inside back := by
  have opening : '(' ∉ blank := not_mem_blank hblank (by decide)
  have closing : ')' ∉ blank := not_mem_blank hblank (by decide)
  clear hblank
  induction blank with
  | nil => cases inside <;> rfl
  | cons c blank ih =>
      obtain ⟨hopening, opening⟩ : '(' ≠ c ∧ '(' ∉ blank := by simpa using opening
      obtain ⟨hclosing, closing⟩ : ')' ≠ c ∧ ')' ∉ blank := by simpa using closing
      have ih := ih opening closing
      cases inside with
      | true =>
          have still : (c != ')') = true := bne_iff_ne.mpr (Ne.symm hclosing)
          rw [List.cons_append, dropRemindersFrom, still, ih]
          rfl
      | false =>
          have outside : (c == '(') = false := beq_eq_false_iff_ne.mpr (Ne.symm hopening)
          simp only [List.cons_append, dropRemindersFrom, outside, Bool.false_and,
            Bool.false_eq_true, if_false, ih]

theorem contains_around_blank (front back : List Char) :
    (front ++ (blank ++ back)).contains ')' = (front ++ back).contains ')' := by
  have closing : ')' ∉ blank := not_mem_blank hblank (by decide)
  rw [Bool.eq_iff_iff, List.contains_iff_mem, List.contains_iff_mem]
  simp [closing]

end

theorem exists_dropRemindersFrom_blank (inside : Bool) (front back : List Char) :
    ∃ kept still, ∀ blank, Text.isBlank blank = true →
      dropRemindersFrom inside (front ++ (blank ++ back)) =
        kept ++ dropRemindersFrom still (blank ++ back) := by
  induction front generalizing inside with
  | nil => exact ⟨[], inside, fun _ _ => rfl⟩
  | cons c front ih =>
      cases inside with
      | true =>
          obtain ⟨kept, still, ih⟩ := ih (c != ')')
          exact ⟨kept, still, ih⟩
      | false =>
          by_cases opens : (c == '(' && (front ++ back).contains ')') = true
          · obtain ⟨kept, still, ih⟩ := ih true
            refine ⟨kept, still, fun blank hblank => ?_⟩
            rw [List.cons_append, dropRemindersFrom, contains_around_blank hblank, if_pos opens,
              ih blank hblank]
          · obtain ⟨kept, still, ih⟩ := ih false
            refine ⟨c :: kept, still, fun blank hblank => ?_⟩
            rw [List.cons_append, dropRemindersFrom, contains_around_blank hblank, if_neg opens,
              ih blank hblank, List.cons_append]

/-- The passes of `arrange` behind the first. -/
def tidy (text : List Char) : List Char := closePunctuation (Text.trim (collapseSpaces text))

theorem arrange_eq_tidy (text : List Char) : arrange text = tidy (dropReminders text) := rfl

theorem collapseSpaces_head? (text : List Char) :
    (collapseSpaces text).head?.any Unicode.isSpace = text.head?.any Unicode.isSpace := by
  induction text with
  | nil => rfl
  | cons c rest ih =>
      rw [collapseSpaces]
      split
      · rename_i hc
        split
        · rename_i hrest
          rw [ih, hrest]
          exact hc.symm
        · exact isSpace_blank.trans hc.symm
      · rfl

theorem collapseSpaces_append_congr {back other : List Char}
    (h : collapseSpaces back = collapseSpaces other) (front : List Char) :
    collapseSpaces (front ++ back) = collapseSpaces (front ++ other) := by
  induction front with
  | nil => exact h
  | cons c front ih =>
      have head := collapseSpaces_head? (front ++ back)
      rw [ih, collapseSpaces_head?] at head
      rw [List.cons_append, List.cons_append, collapseSpaces, collapseSpaces, head, ih]

theorem collapseSpaces_blank {blank : List Char} (hblank : Text.isBlank blank = true)
    (some : blank ≠ []) (back : List Char) :
    collapseSpaces (blank ++ back) = collapseSpaces (' ' :: back) := by
  induction blank with
  | nil => exact absurd rfl some
  | cons c blank ih =>
      obtain ⟨hc, hblank⟩ := List.forall_mem_cons.mp (List.all_eq_true.mp hblank)
      rw [List.cons_append, collapseSpaces, if_pos hc]
      cases blank with
      | nil => simp only [List.nil_append, collapseSpaces, isSpace_blank, if_true]
      | cons d blank =>
          have next : ((d :: blank) ++ back).head?.any Unicode.isSpace = true := hblank d (by simp)
          rw [if_pos next]
          exact ih (List.all_eq_true.mpr hblank) (by simp)

theorem tidy_blank {blank : List Char} (hblank : Text.isBlank blank = true) (some : blank ≠ [])
    (front back : List Char) : tidy (front ++ (blank ++ back)) = tidy (front ++ ' ' :: back) := by
  rw [tidy, tidy, collapseSpaces_append_congr (collapseSpaces_blank hblank some back)]

@[simp] theorem tidy_blank_cons (back : List Char) : tidy (' ' :: back) = tidy back := by
  have trimmed : Text.trim (collapseSpaces (' ' :: back)) = Text.trim (collapseSpaces back) := by
    rw [collapseSpaces, if_pos isSpace_blank]
    split
    · rfl
    · rw [Text.trim_eq_rdropWhile, List.dropWhile_cons_of_pos isSpace_blank]
      rfl
  rw [tidy, trimmed]
  rfl

/-- A character that is no white space parts what the pass makes of the text before it from
what it makes of the text behind it. -/
def Parts (pass ending : List Char → List Char) : Prop :=
  ∀ c, Unicode.isSpace c = false → ∀ front, ∃ lead, ∀ back,
    pass (front ++ c :: back) = lead ++ c :: ending back

theorem Parts.comp {pass ending pass' ending' : List Char → List Char} (h : Parts pass ending)
    (h' : Parts pass' ending') : Parts (pass' ∘ pass) (ending' ∘ ending) := by
  intro c hc front
  obtain ⟨lead, first⟩ := h c hc front
  obtain ⟨lead', second⟩ := h' c hc lead
  refine ⟨lead', fun back => ?_⟩
  rw [Function.comp_apply, first, second]
  rfl

theorem head?_append_cons (front : List Char) (c : Char) (back : List Char) :
    (front ++ c :: back).head? = (front ++ [c]).head? := by
  rw [List.head?_append, List.head?_append, List.head?_cons, List.head?_cons]

theorem parts_collapseSpaces : Parts collapseSpaces collapseSpaces := by
  intro c hc front
  induction front with
  | nil =>
      refine ⟨[], fun back => ?_⟩
      rw [List.nil_append, collapseSpaces, if_neg (Bool.eq_false_iff.mp hc)]
      rfl
  | cons d front ih =>
      obtain ⟨lead, ih⟩ := ih
      by_cases hd : Unicode.isSpace d = true
      · by_cases next : (front ++ [c]).head?.any Unicode.isSpace = true
        · refine ⟨lead, fun back => ?_⟩
          rw [List.cons_append, collapseSpaces, if_pos hd, head?_append_cons, if_pos next, ih]
        · refine ⟨' ' :: lead, fun back => ?_⟩
          rw [List.cons_append, collapseSpaces, if_pos hd, head?_append_cons, if_neg next, ih,
            List.cons_append]
      · refine ⟨d :: lead, fun back => ?_⟩
        rw [List.cons_append, collapseSpaces, if_neg hd, ih, List.cons_append]

theorem parts_dropWhile : Parts (List.dropWhile Unicode.isSpace) id := by
  intro c hc front
  refine ⟨front.dropWhile Unicode.isSpace, fun back => ?_⟩
  rw [List.dropWhile_append, List.dropWhile_cons_of_neg (Bool.eq_false_iff.mp hc)]
  split
  · rename_i hempty
    rw [List.isEmpty_iff.mp hempty]
    rfl
  · rfl

theorem rdropWhile_append_cons {c : Char} (hc : Unicode.isSpace c = false)
    (front back : List Char) :
    (front ++ c :: back).rdropWhile Unicode.isSpace =
      front ++ c :: back.rdropWhile Unicode.isSpace := by
  rw [List.rdropWhile, List.rdropWhile, List.reverse_append, List.reverse_cons, List.append_assoc,
    List.singleton_append, List.dropWhile_append,
    List.dropWhile_cons_of_neg (Bool.eq_false_iff.mp hc)]
  split
  · rename_i hempty
    simp [List.isEmpty_iff.mp hempty]
  · simp

theorem parts_rdropWhile :
    Parts (List.rdropWhile Unicode.isSpace) (List.rdropWhile Unicode.isSpace) :=
  fun _ hc front => ⟨front, rdropWhile_append_cons hc front⟩

theorem parts_closePunctuation : Parts closePunctuation closePunctuation := by
  intro c hc front
  have hc : (c == ' ') = false := beq_eq_false_iff_ne.mpr (ne_blank_of_isSpace_eq_false hc)
  induction front with
  | nil =>
      refine ⟨[], fun back => ?_⟩
      rw [List.nil_append, closePunctuation, hc]
      rfl
  | cons d front ih =>
      obtain ⟨lead, ih⟩ := ih
      by_cases closes : (d == ' ' && (front ++ [c]).head?.any isPunctuation) = true
      · refine ⟨lead, fun back => ?_⟩
        rw [List.cons_append, closePunctuation, head?_append_cons, if_pos closes, ih]
      · refine ⟨d :: lead, fun back => ?_⟩
        rw [List.cons_append, closePunctuation, head?_append_cons, if_neg closes, ih,
          List.cons_append]

def tidyEnding (text : List Char) : List Char :=
  closePunctuation ((collapseSpaces text).rdropWhile Unicode.isSpace)

theorem parts_tidy : Parts tidy tidyEnding :=
  parts_collapseSpaces.comp
    ((parts_dropWhile.comp parts_rdropWhile).comp parts_closePunctuation)

theorem isSpace_of_isPunctuation {c : Char} (h : isPunctuation c = true) :
    Unicode.isSpace c = false := by
  simp only [isPunctuation, Bool.or_eq_true, beq_iff_eq] at h
  rcases h with ((((rfl | rfl) | rfl) | rfl) | rfl) | rfl <;> decide

theorem tidyEnding_blank_cons {back : List Char} (h : ∀ c ∈ back.head?, isPunctuation c = true) :
    tidyEnding (' ' :: back) = tidyEnding back := by
  cases back with
  | nil => decide
  | cons c back =>
      have hc : isPunctuation c = true := h c rfl
      have hspace := isSpace_of_isPunctuation hc
      have spaced : collapseSpaces (c :: back) = c :: collapseSpaces back := by
        rw [collapseSpaces, if_neg (Bool.eq_false_iff.mp hspace)]
      have blanked : collapseSpaces (' ' :: c :: back) = [' '] ++ c :: collapseSpaces back := by
        rw [collapseSpaces, if_pos isSpace_blank, spaced, List.head?_cons, Option.any_some, hspace]
        rfl
      have closed : ∀ rest,
          closePunctuation ([' '] ++ c :: rest) = closePunctuation (c :: rest) := by
        intro rest
        rw [List.singleton_append, closePunctuation, List.head?_cons, Option.any_some, hc]
        rfl
      rw [tidyEnding, tidyEnding, blanked, rdropWhile_append_cons hspace, closed, spaced,
        ← List.nil_append (c :: collapseSpaces back), rdropWhile_append_cons hspace,
        List.nil_append]

theorem tidy_blank_before (front : List Char) {back : List Char}
    (h : ∀ c ∈ back.head?, isPunctuation c = true) :
    tidy (front ++ ' ' :: back) = tidy (front ++ back) := by
  rcases front.eq_nil_or_concat with rfl | ⟨front, c, rfl⟩
  · exact tidy_blank_cons back
  · rw [List.concat_eq_append, List.append_assoc, List.append_assoc, List.singleton_append,
      List.singleton_append]
    by_cases hc : Unicode.isSpace c = true
    · have two : Text.isBlank [c, ' '] = true := by simp [Text.isBlank, hc]
      have one : Text.isBlank [c] = true := by simp [Text.isBlank, hc]
      exact (tidy_blank two (by simp) front back).trans
        (tidy_blank one (by simp) front back).symm
    · obtain ⟨lead, parted⟩ := parts_tidy c (Bool.eq_false_iff.mpr hc) front
      rw [parted, parted, tidyEnding_blank_cons h]

section

variable {blank other : List Char} (hblank : Text.isBlank blank = true)

include hblank

theorem arrange_blank (hother : Text.isBlank other = true) (front back : List Char)
    (h : ∀ kept, tidy (kept ++ (blank ++ dropReminders back)) =
      tidy (kept ++ (other ++ dropReminders back))) :
    arrange (front ++ (blank ++ back)) = arrange (front ++ (other ++ back)) := by
  obtain ⟨kept, still, dropped⟩ := exists_dropRemindersFrom_blank false front back
  rw [arrange_eq_tidy, arrange_eq_tidy, dropReminders, dropReminders, dropped blank hblank,
    dropped other hother, dropRemindersFrom_blank hblank, dropRemindersFrom_blank hother]
  cases still with
  | true => rfl
  | false => exact h kept

theorem arrange_spacing (some : blank ≠ []) (hother : Text.isBlank other = true)
    (some' : other ≠ []) (front back : List Char) :
    arrange (front ++ (blank ++ back)) = arrange (front ++ (other ++ back)) :=
  arrange_blank hblank hother front back fun kept =>
    (tidy_blank hblank some kept _).trans (tidy_blank hother some' kept _).symm

theorem arrange_blank_before (front : List Char) {back : List Char}
    (h : ∀ c ∈ (dropReminders back).head?, isPunctuation c = true) :
    arrange (front ++ (blank ++ back)) = arrange (front ++ back) := by
  refine @arrange_blank blank [] hblank rfl front back fun kept => ?_
  by_cases some : blank = []
  · rw [some]
  · exact (tidy_blank hblank some kept _).trans (tidy_blank_before kept h)

theorem arrange_opening (back : List Char) : arrange (blank ++ back) = arrange back := by
  rw [arrange_eq_tidy, arrange_eq_tidy, dropReminders, dropRemindersFrom_blank hblank]
  by_cases some : blank = []
  · rw [some]
    rfl
  · exact (tidy_blank hblank some [] _).trans (tidy_blank_cons _)

end

theorem arrange_reminder {front inner : List Char} (closed : Closed front) (h : ')' ∉ inner)
    (back : List Char) :
    arrange (front ++ '(' :: (inner ++ ')' :: back)) = arrange (front ++ back) := by
  have outside : ∀ back,
      dropReminders (front ++ back) = dropReminders front ++ dropReminders back := fun back =>
    dropRemindersFrom_append closed (fun still => Bool.noConfusion still) back
  rw [arrange_eq_tidy, arrange_eq_tidy, outside, outside, dropReminders_reminder h]

/-- A reminder more or less, other white space in the place of white space, or white space at a
place where none counts. -/
inductive Variant : List Char → List Char → Prop
  | reminder {front inner back : List Char} (closed : Closed front) (within : ')' ∉ inner) :
      Variant (front ++ '(' :: (inner ++ ')' :: back)) (front ++ back)
  | spacing {front blank other back : List Char} (isBlank : Text.isBlank blank = true)
      (some : blank ≠ []) (isBlank' : Text.isBlank other = true) (some' : other ≠ []) :
      Variant (front ++ (blank ++ back)) (front ++ (other ++ back))
  | punctuation {front blank back : List Char} {c : Char} (isBlank : Text.isBlank blank = true)
      (before : isPunctuation c = true) :
      Variant (front ++ (blank ++ c :: back)) (front ++ c :: back)
  | opening {blank back : List Char} (isBlank : Text.isBlank blank = true) :
      Variant (blank ++ back) back
  | ending {blank front : List Char} (isBlank : Text.isBlank blank = true) :
      Variant (front ++ blank) front

theorem Variant.arrange_eq {text other : List Char} (h : Variant text other) :
    arrange text = arrange other := by
  cases h with
  | reminder closed within => exact arrange_reminder closed within _
  | spacing isBlank some isBlank' some' => exact arrange_spacing isBlank some isBlank' some' _ _
  | @punctuation front _ back c isBlank before =>
      refine arrange_blank_before isBlank front fun d hd => ?_
      have plain : (c == '(') = false := by
        rw [beq_eq_false_iff_ne]
        rintro rfl
        exact Bool.noConfusion before
      rw [dropReminders, dropRemindersFrom, plain] at hd
      obtain rfl : c = d := Option.some.inj hd
      exact before
  | opening isBlank => exact arrange_opening isBlank _
  | ending isBlank =>
      have nothing : ∀ c ∈ (dropReminders []).head?, isPunctuation c = true := by
        simp [dropReminders, dropRemindersFrom]
      simpa using arrange_blank_before isBlank other nothing

end CardText.Wording

namespace CardText

open Wording

/-- Variants of a text have one normal form, so each rule that reads one of them reads the other,
and to the same script. -/
theorem variants_read_alike {attack : Attack} {other : String}
    (variant : Variant attack.text.toList other.toList) (dispatcher : Dispatcher) :
    Wording.normalize attack.text = Wording.normalize other ∧
      let read := dispatcher.readAttack attack
      let reread := dispatcher.readAttack { attack with text := other }
      read.wording = reread.wording ∧ read.rule = reread.rule ∧ read.script = reread.script := by
  have same : Wording.normalize attack.text = Wording.normalize other := by
    rw [Wording.normalize, Wording.normalize, normalizeChars, normalizeChars, variant.arrange_eq]
  refine ⟨same, ?_⟩
  simp only [Dispatcher.readAttack, same, and_self]

theorem variants_read_alike_paralyzed :
    let text := "(Now.) The Defending Pokemon is now Paralys(not (quite)ed."
    let other := "(Now.) The Defending Pokemon is now Paralysed."
    let read text := defaultDispatcher.readAttack ⟨"Stun", [.grass], some 10, text⟩
    Variant text.toList other.toList ∧ Wording.normalize text = Wording.normalize other ∧
      (read text).rule = (read other).rule := by
  intro text other read
  let front := "(Now.) The Defending Pokemon is now Paralys".toList
  have closed : Closed front := by
    have tails : ∀ tail ∈ front.tails, tail.head? = some '(' → ')' ∈ tail.tail := by
      decide +kernel
    exact fun behind suffix => tails ('(' :: behind) ((List.mem_tails _ _).mpr suffix) rfl
  have inner : text.toList = front ++ '(' :: ("not (quite".toList ++ ')' :: "ed.".toList) := by
    decide +kernel
  have joined : other.toList = front ++ "ed.".toList := by decide +kernel
  have variant : Variant text.toList other.toList := by
    rw [inner, joined]
    exact .reminder closed (by decide +kernel)
  have alike := @variants_read_alike ⟨"Stun", [.grass], some 10, text⟩ other variant
    defaultDispatcher
  exact ⟨variant, alike.1, alike.2.2.1⟩

end CardText
