import CardText.Wording
import Mathlib.Data.List.Chain
import Mathlib.Data.List.DropRight

/-! The arrangement of a text: no closed parentheses, blanks for all white space, one at a
time, none at either end and none before punctuation. The passes of `arrange` bring it about
one after the other, each keeps what the earlier ones did, and a text that is arranged
already passes through all of them unchanged. -/
namespace CardText.Text

theorem trim_eq_rdropWhile (text : List Char) :
    trim text = (text.dropWhile Unicode.isSpace).rdropWhile Unicode.isSpace := rfl

theorem trim_isPrefix (text : List Char) : trim text <+: text.dropWhile Unicode.isSpace := by
  rw [trim_eq_rdropWhile]
  exact List.rdropWhile_prefix _ _

theorem trim_isInfix (text : List Char) : trim text <:+: text :=
  (trim_isPrefix text).isInfix.trans (List.dropWhile_suffix Unicode.isSpace).isInfix

theorem trim_head (text : List Char) : ∀ c ∈ (trim text).head?, Unicode.isSpace c = false := by
  intro c hc
  obtain ⟨others, hothers⟩ := List.head?_eq_some_iff.mp hc
  obtain ⟨rest, hrest⟩ := hothers ▸ trim_isPrefix text
  have hhead := List.head?_dropWhile_not Unicode.isSpace text
  rw [← hrest] at hhead
  exact hhead

theorem trim_last (text : List Char) :
    ∀ c ∈ (trim text).getLast?, Unicode.isSpace c = false := by
  intro c hc
  rw [trim_eq_rdropWhile] at hc
  obtain ⟨hne, rfl⟩ := List.mem_getLast?_eq_getLast hc
  exact Bool.eq_false_iff.mpr (List.rdropWhile_last_not _ _ hne)

theorem trim_eq_self {text : List Char} (hhead : ∀ c ∈ text.head?, Unicode.isSpace c = false)
    (hlast : ∀ c ∈ text.getLast?, Unicode.isSpace c = false) : trim text = text := by
  have hfront : text.dropWhile Unicode.isSpace = text := by
    cases text with
    | nil => rfl
    | cons c rest => exact List.dropWhile_cons_of_neg (by simp [hhead c rfl])
  rw [trim_eq_rdropWhile, hfront, List.rdropWhile_eq_self_iff]
  exact fun hne => Bool.eq_false_iff.mp (hlast _ (List.getLast_mem_getLast? hne))

end CardText.Text

namespace CardText.Wording

def Apart (a b : Char) : Prop := a = ' ' → b ≠ ' ' ∧ isPunctuation b = false

structure Arranged (text : List Char) : Prop where
  no_reminder : ¬ ['(', ')'].Sublist text
  plain : ∀ c ∈ text, Unicode.isSpace c = true → c = ' '
  apart : text.IsChain Apart
  head : ∀ c ∈ text.head?, Unicode.isSpace c = false
  last : ∀ c ∈ text.getLast?, Unicode.isSpace c = false

def isParenthesis (c : Char) : Bool := c == '(' || c == ')'

theorem isParenthesis_of_isAlphanum {c : Char} (h : c.isAlphanum = true) :
    isParenthesis c = false := by
  rw [isParenthesis, Bool.or_eq_false_iff, beq_eq_false_iff_ne, beq_eq_false_iff_ne]
  exact ⟨fun same => absurd (same ▸ h) (by decide), fun same => absurd (same ▸ h) (by decide)⟩

@[simp] theorem isSpace_blank : Unicode.isSpace ' ' = true := by decide

theorem ne_blank_of_isSpace_eq_false {c : Char} (h : Unicode.isSpace c = false) : c ≠ ' ' := by
  rintro rfl
  rw [isSpace_blank] at h
  exact Bool.noConfusion h

theorem dropRemindersFrom_sublist (inside : Bool) (text : List Char) :
    (dropRemindersFrom inside text).Sublist text := by
  induction text generalizing inside with
  | nil => rw [dropRemindersFrom]
  | cons c rest ih =>
      cases inside with
      | true => exact (ih _).cons c
      | false =>
          rw [dropRemindersFrom]
          split
          · exact (ih true).cons c
          · exact (ih false).cons_cons c

theorem dropRemindersFrom_no_reminder (inside : Bool) (text : List Char) :
    ¬ ['(', ')'].Sublist (dropRemindersFrom inside text) := by
  induction text generalizing inside with
  | nil => simp [dropRemindersFrom]
  | cons c rest ih =>
      cases inside with
      | true => exact ih _
      | false =>
          rw [dropRemindersFrom]
          split
          · exact ih true
          · rename_i hopen
            rw [List.cons_sublist_cons', not_or]
            refine ⟨ih false, fun ⟨hc, hclosing⟩ => hopen ?_⟩
            have hmem := (dropRemindersFrom_sublist false rest).subset
              (List.singleton_sublist.mp hclosing)
            simp [← hc, hmem]

theorem dropReminders_eq_self {text : List Char} (h : ¬ ['(', ')'].Sublist text) :
    dropReminders text = text := by
  unfold dropReminders
  induction text with
  | nil => rfl
  | cons c rest ih =>
      rw [List.cons_sublist_cons', not_or] at h
      have hopen : ¬ (c == '(' && rest.contains ')') = true := by
        intro hopen
        simp only [Bool.and_eq_true, beq_iff_eq, List.contains_iff_mem] at hopen
        exact h.2 ⟨hopen.1.symm, List.singleton_sublist.mpr hopen.2⟩
      rw [dropRemindersFrom, if_neg hopen, ih h.1]

theorem collapseSpaces_filter {p : Char → Bool} (hp : ∀ c, Unicode.isSpace c = true → p c = false)
    (text : List Char) : (collapseSpaces text).filter p = text.filter p := by
  induction text with
  | nil => rfl
  | cons c rest ih =>
      rw [collapseSpaces]
      split
      · rename_i hc
        rw [List.filter_cons_of_neg (by simp [hp c hc])]
        split
        · exact ih
        · rw [List.filter_cons_of_neg (by simp [hp ' ' isSpace_blank]), ih]
      · rw [List.filter_cons, List.filter_cons, ih]

theorem collapseSpaces_plain (text : List Char) :
    ∀ c ∈ collapseSpaces text, Unicode.isSpace c = true → c = ' ' := by
  induction text with
  | nil => simp [collapseSpaces]
  | cons c rest ih =>
      rw [collapseSpaces]
      split
      · split
        · exact ih
        · exact List.forall_mem_cons.mpr ⟨fun _ => rfl, ih⟩
      · rename_i hc
        exact List.forall_mem_cons.mpr ⟨fun hspace => absurd hspace hc, ih⟩

theorem collapseSpaces_isChain (text : List Char) :
    (collapseSpaces text).IsChain fun a b => a = ' ' → b ≠ ' ' := by
  induction text with
  | nil => exact .nil
  | cons c rest ih =>
      rw [collapseSpaces]
      split
      · split
        · exact ih
        · rename_i hrest
          refine List.isChain_cons.mpr ⟨fun b hb _ => ?_, ih⟩
          cases rest with
          | nil => simp [collapseSpaces] at hb
          | cons d rest =>
              have hd : Unicode.isSpace d = false := by simpa using hrest
              obtain rfl : d = b := by simpa [collapseSpaces, hd] using hb
              exact ne_blank_of_isSpace_eq_false hd
      · rename_i hc
        refine List.isChain_cons.mpr ⟨fun b _ hblank => ?_, ih⟩
        exact absurd hblank (ne_blank_of_isSpace_eq_false (Bool.eq_false_iff.mpr hc))

theorem collapseSpaces_eq_self {text : List Char}
    (hplain : ∀ c ∈ text, Unicode.isSpace c = true → c = ' ')
    (hchain : text.IsChain fun a b => a = ' ' → b ≠ ' ') : collapseSpaces text = text := by
  induction text with
  | nil => rfl
  | cons c rest ih =>
      obtain ⟨hc, hplain⟩ := List.forall_mem_cons.mp hplain
      obtain ⟨hnext, hchain⟩ := List.isChain_cons.mp hchain
      rw [collapseSpaces, ih hplain hchain]
      split
      · rename_i hspace
        have hsingle : ¬ rest.head?.any Unicode.isSpace = true := by
          rw [Option.any_eq_true]
          rintro ⟨d, hd, hdspace⟩
          exact hnext d hd (hc hspace) (hplain d (List.mem_of_mem_head? hd) hdspace)
        rw [if_neg hsingle, hc hspace]
      · rfl

theorem closePunctuation_sublist (text : List Char) :
    (closePunctuation text).Sublist text := by
  induction text with
  | nil => rw [closePunctuation]
  | cons c rest ih =>
      rw [closePunctuation]
      split
      · exact ih.cons c
      · exact ih.cons_cons c

theorem closePunctuation_head? {text : List Char} (h : ∀ c ∈ text.head?, c ≠ ' ') :
    (closePunctuation text).head? = text.head? := by
  cases text with
  | nil => rfl
  | cons c rest =>
      have hc : (c == ' ' && rest.head?.any isPunctuation) = false := by simp [h c rfl]
      rw [closePunctuation, hc]
      rfl

theorem closePunctuation_getLast? (text : List Char) :
    (closePunctuation text).getLast? = text.getLast? := by
  induction text with
  | nil => rfl
  | cons c rest ih =>
      rw [closePunctuation]
      split
      · rename_i hc
        have hrest : rest ≠ [] := by
          rintro rfl
          simp at hc
        rw [ih, ← List.singleton_append, List.getLast?_append_of_ne_nil _ hrest]
      · rw [List.getLast?_cons, List.getLast?_cons, ih]

theorem closePunctuation_isChain {text : List Char}
    (h : text.IsChain fun a b => a = ' ' → b ≠ ' ') : (closePunctuation text).IsChain Apart := by
  induction text with
  | nil => exact .nil
  | cons c rest ih =>
      obtain ⟨hnext, hchain⟩ := List.isChain_cons.mp h
      rw [closePunctuation]
      split
      · exact ih hchain
      · rename_i hc
        refine List.isChain_cons.mpr ⟨fun b hb hblank => ?_, ih hchain⟩
        have hsingle : ∀ d ∈ rest.head?, d ≠ ' ' := fun d hd => hnext d hd hblank
        rw [closePunctuation_head? hsingle] at hb
        refine ⟨hsingle b hb, ?_⟩
        have hb : rest.head? = some b := hb
        simpa [hblank, hb] using hc

theorem closePunctuation_eq_self {text : List Char} (h : text.IsChain Apart) :
    closePunctuation text = text := by
  induction text with
  | nil => rfl
  | cons c rest ih =>
      obtain ⟨hnext, hchain⟩ := List.isChain_cons.mp h
      have hc : ¬ (c == ' ' && rest.head?.any isPunctuation) = true := by
        simp only [Bool.and_eq_true, beq_iff_eq, Option.any_eq_true]
        rintro ⟨hblank, d, hd, hpunctuation⟩
        rw [(hnext d hd hblank).2] at hpunctuation
        exact Bool.noConfusion hpunctuation
      rw [closePunctuation, if_neg hc, ih hchain]

theorem no_reminder_of_filter_eq {text out : List Char}
    (h : out.filter isParenthesis = text.filter isParenthesis)
    (htext : ¬ ['(', ')'].Sublist text) : ¬ ['(', ')'].Sublist out := by
  intro hout
  have hfilter := hout.filter isParenthesis
  rw [h] at hfilter
  exact htext (hfilter.trans List.filter_sublist)

theorem arranged_arrange (text : List Char) : Arranged (arrange text) := by
  have hparenthesis : ∀ c, Unicode.isSpace c = true → isParenthesis c = false := by
    intro c hc
    by_contra hparenthesis
    simp only [isParenthesis, Bool.not_eq_false, Bool.or_eq_true, beq_iff_eq] at hparenthesis
    rcases hparenthesis with rfl | rfl
    · exact absurd hc (by decide)
    · exact absurd hc (by decide)
  have hreminder : ¬ ['(', ')'].Sublist (collapseSpaces (dropReminders text)) :=
    no_reminder_of_filter_eq (collapseSpaces_filter hparenthesis _)
      (dropRemindersFrom_no_reminder false text)
  have hinside := Text.trim_isInfix (collapseSpaces (dropReminders text))
  have hclosed := closePunctuation_sublist (Text.trim (collapseSpaces (dropReminders text)))
  have hkept := hclosed.trans hinside.sublist
  have hhead := Text.trim_head (collapseSpaces (dropReminders text))
  have hchain := List.IsChain.infix (collapseSpaces_isChain (dropReminders text)) hinside
  refine ⟨?_, ?_, closePunctuation_isChain hchain, ?_, ?_⟩
  · exact fun h => hreminder (h.trans hkept)
  · exact fun c hc => collapseSpaces_plain _ c (hkept.subset hc)
  · rw [arrange, closePunctuation_head? fun c hc => ne_blank_of_isSpace_eq_false (hhead c hc)]
    exact hhead
  · rw [arrange, closePunctuation_getLast?]
    exact Text.trim_last _

theorem arrange_eq_self {text : List Char} (h : Arranged text) : arrange text = text := by
  have hsingle : text.IsChain fun a b => a = ' ' → b ≠ ' ' :=
    h.apart.imp fun a b hab hblank => (hab hblank).1
  rw [arrange, dropReminders_eq_self h.no_reminder, collapseSpaces_eq_self h.plain hsingle,
    Text.trim_eq_self h.head h.last, closePunctuation_eq_self h.apart]

end CardText.Wording
