import CardText.Coverage.Fragment
import CardText.Proofs.Text.Ascii
import CardText.Proofs.Text.Occurrences
import Mathlib.Data.List.SplitBy
import Mathlib.Data.List.TakeWhile

/-! The tokens of a text are its words and, one by one, the characters between them. A word stands
whole in a text if it is one of the tokens, and a cut between two tokens leaves all of them. -/
namespace CardText.Fragment

def joined (a b : Char) : Bool := Unicode.isWord a && Unicode.isWord b

def tokens (text : List Char) : List (List Char) := text.splitBy joined

def Cut (front back : List Char) : Prop :=
  ∀ a ∈ front.getLast?, ∀ b ∈ back.head?, joined a b = false

structure IsWord (word : List Char) : Prop where
  ne_nil : word ≠ []
  letters : ∀ c ∈ word, Unicode.isWord c = true

inductive IsToken : List Char → Prop
  | word {word : List Char} (letters : IsWord word) : IsToken word
  | sign {c : Char} (other : Unicode.isWord c = false) : IsToken [c]

def HasWord (text word : List Char) : Prop :=
  ∃ front back, text = front ++ (word ++ back) ∧
    atBoundary front.getLast? word.head? = true ∧ atBoundary word.getLast? back.head? = true

section

variable {front mid back word text token rest : List Char} {c : Char}

theorem IsToken.ne_nil (h : IsToken token) : token ≠ [] := by
  cases h with
  | word letters => exact letters.ne_nil
  | sign => exact List.cons_ne_nil _ _

theorem IsWord.head (h : IsWord word) : word.head?.any Unicode.isWord = true := by
  rw [List.head?_eq_some_head h.ne_nil]
  exact h.letters _ (List.head_mem h.ne_nil)

theorem IsWord.last (h : IsWord word) : word.getLast?.any Unicode.isWord = true := by
  rw [List.getLast?_eq_some_getLast h.ne_nil]
  exact h.letters _ (List.getLast_mem h.ne_nil)

theorem IsWord.of_isAlphanum (some : word ≠ [])
    (h : ∀ c ∈ word, c.isAlphanum = true) : IsWord word :=
  ⟨some, fun c inside => Unicode.isWord_of_isAlphanum (h c inside)⟩

theorem cut_iff :
    Cut front back ↔
      (front.getLast?.any Unicode.isWord && back.head?.any Unicode.isWord) = false := by
  cases hf : front.getLast? <;> cases hb : back.head? <;> simp [Cut, joined, hf, hb]

theorem cut_nil_left (back : List Char) : Cut [] back := fun _ none => nomatch none

theorem cut_nil_right (front : List Char) : Cut front [] := fun _ _ _ none => nomatch none

theorem cut_append_left_iff (some : mid ≠ []) : Cut (front ++ mid) back ↔ Cut mid back := by
  rw [Cut, Cut, List.getLast?_append_of_ne_nil front some]

theorem cut_append_right_iff (some : mid ≠ []) : Cut front (mid ++ back) ↔ Cut front mid := by
  rw [Cut, Cut, List.head?_append_of_ne_nil mid some]

theorem cut_sign_left (h : Unicode.isWord c = false) (back : List Char) : Cut [c] back := by
  simp [cut_iff, h]

theorem cut_sign_right (h : Unicode.isWord c = false) (front rest : List Char) :
    Cut front (c :: rest) := by
  simp [cut_iff, h]

theorem cut_iff_of_last (h : word.getLast?.any Unicode.isWord = true) :
    Cut word back ↔ back.head?.any Unicode.isWord = false := by
  rw [cut_iff, h, Bool.true_and]

theorem cut_iff_of_head (h : word.head?.any Unicode.isWord = true) :
    Cut front word ↔ front.getLast?.any Unicode.isWord = false := by
  rw [cut_iff, h, Bool.and_true]

theorem atBoundary_end_iff (h : word.getLast?.any Unicode.isWord = true) :
    atBoundary word.getLast? back.head? = true ↔ Cut word back := by
  rw [cut_iff_of_last h, atBoundary, h]
  cases back.head?.any Unicode.isWord <;> decide

theorem atBoundary_start_iff (h : word.head?.any Unicode.isWord = true) :
    atBoundary front.getLast? word.head? = true ↔ Cut front word := by
  rw [cut_iff_of_head h, atBoundary, h]
  cases front.getLast?.any Unicode.isWord <;> decide

theorem IsWord.not_cut (h : IsWord (front ++ back)) (hf : front ≠ []) (hb : back ≠ []) :
    ¬ Cut front back := by
  have ends : IsWord front := ⟨hf, fun c inside => h.letters c (List.mem_append_left _ inside)⟩
  have starts : IsWord back := ⟨hb, fun c inside => h.letters c (List.mem_append_right _ inside)⟩
  rw [cut_iff_of_last ends.last, starts.head]
  decide

theorem flatten_tokens (text : List Char) : (tokens text).flatten = text :=
  List.flatten_splitBy joined text

theorem tokens_append (cut : Cut front back) :
    tokens (front ++ back) = tokens front ++ tokens back :=
  List.splitBy_append cut

theorem IsToken.tokens_eq (h : IsToken token) : tokens token = [token] := by
  refine List.splitBy_of_isChain h.ne_nil ?_
  cases h with
  | word letters =>
      refine List.isChain_iff_forall_rel_of_append_cons_cons.mpr fun a b before behind split => ?_
      have first := letters.letters a (by simp [split])
      have second := letters.letters b (by simp [split])
      rw [joined, first, second]
      rfl
  | sign => exact .singleton _

theorem tokens_cons (h : IsToken token) (cut : Cut token rest) :
    tokens (token ++ rest) = token :: tokens rest := by
  rw [tokens_append cut, h.tokens_eq, List.singleton_append]

theorem tokens_around (h : IsToken token) (hf : Cut front token) (hb : Cut token back) :
    tokens (front ++ (token ++ back)) = tokens front ++ token :: tokens back := by
  rw [tokens_append ((cut_append_right_iff h.ne_nil).mpr hf), tokens_cons h hb]

@[elab_as_elim]
theorem token_induction {motive : List Char → Prop} (nil : motive [])
    (cons : ∀ token rest, IsToken token → Cut token rest → motive rest → motive (token ++ rest))
    (text : List Char) : motive text := by
  induction length : text.length using Nat.strong_induction_on generalizing text with
  | _ n ih =>
  subst length
  cases text with
  | nil => exact nil
  | cons c rest =>
      cases hc : Unicode.isWord c with
      | false => exact cons [c] rest (.sign hc) (cut_sign_left hc rest) (ih _ (by simp) rest rfl)
      | true =>
          -- the word is taken as far as it goes, so the rest begins with another character
          have split := List.takeWhile_append_dropWhile (p := Unicode.isWord) (l := rest)
          have word : IsWord (c :: rest.takeWhile Unicode.isWord) :=
            ⟨List.cons_ne_nil _ _, List.forall_mem_cons.mpr ⟨hc, fun _ => List.mem_takeWhile_imp⟩⟩
          have cut : Cut (c :: rest.takeWhile Unicode.isWord) (rest.dropWhile Unicode.isWord) := by
            rw [cut_iff_of_last word.last, Option.any_eq_false]
            intro d first
            have stop := List.head?_dropWhile_not Unicode.isWord rest
            rwa [Option.mem_def.mp first] at stop
          have fewer : (rest.dropWhile Unicode.isWord).length < (c :: rest).length :=
            Nat.lt_succ_of_le (List.dropWhile_suffix Unicode.isWord).length_le
          have whole := cons _ _ (.word word) cut (ih _ fewer _ rfl)
          rwa [List.cons_append, split] at whole

theorem isToken_of_mem (h : token ∈ tokens text) : IsToken token := by
  induction text using token_induction with
  | nil => exact absurd h List.not_mem_nil
  | cons first rest isToken cut ih =>
      rw [tokens_cons isToken cut] at h
      rcases List.mem_cons.mp h with rfl | h
      · exact isToken
      · exact ih h

theorem exists_cut_of_mem (h : token ∈ tokens text) :
    ∃ front back, text = front ++ (token ++ back) ∧ Cut front token ∧ Cut token back := by
  induction text using token_induction with
  | nil => exact absurd h List.not_mem_nil
  | cons first rest isToken cut ih =>
      rw [tokens_cons isToken cut] at h
      rcases List.mem_cons.mp h with rfl | h
      · exact ⟨[], rest, rfl, cut_nil_left _, cut⟩
      · obtain ⟨front, back, rfl, before, behind⟩ := ih h
        refine ⟨first ++ front, back, (List.append_assoc ..).symm, ?_, behind⟩
        by_cases empty : front = []
        · subst empty
          rw [List.append_nil]
          exact (cut_append_right_iff (isToken_of_mem h).ne_nil).mp cut
        · exact (cut_append_left_iff empty).mpr before

theorem hasWord_iff_mem_tokens (h : IsWord word) : HasWord text word ↔ word ∈ tokens text := by
  constructor
  · rintro ⟨front, back, rfl, starts, ends⟩
    rw [tokens_around (.word h) ((atBoundary_start_iff h.head).mp starts)
      ((atBoundary_end_iff h.last).mp ends)]
    exact List.mem_append_right _ List.mem_cons_self
  · intro inside
    obtain ⟨front, back, split, starts, ends⟩ := exists_cut_of_mem inside
    exact ⟨front, back, split, (atBoundary_start_iff h.head).mpr starts,
      (atBoundary_end_iff h.last).mpr ends⟩

end

end CardText.Fragment
