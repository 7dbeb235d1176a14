import CardText.Proofs.Coverage.Tokens

/-! Placeholders come in token by token. What a number or a name becomes depends on the word that
holds it and not on the text around that word, so that the tokens of the result are the tokens of
the text, each replaced on its own. -/
namespace CardText.Fragment

open Text (replace replaceFrom)

/-- What is matched lies within one word, and depends on that word alone. -/
structure WordWise (matched : Option Char → List Char → Nat) : Prop where
  bounded : Text.Bounded matched
  sign : ∀ {c : Char}, Unicode.isWord c = false → ∀ before rest, matched before (c :: rest) = 0
  start : ∀ {front text : List Char}, Cut front text →
    matched front.getLast? text = matched none text
  stop : ∀ {text back : List Char}, Cut text back →
    ∀ before, text ≠ [] → matched before (text ++ back) = matched before text

namespace WordWise

variable {matched : Option Char → List Char → Nat} {new front back word token rest : List Char}
  {c : Char}

theorem replace_append (h : WordWise matched) (cut : Cut front back) :
    replace matched new (front ++ back) =
      replace matched new front ++ replace matched new back := by
  have severs : Text.Severs matched front back := by
    rintro before rest some ⟨lead, rfl⟩
    exact h.stop ((cut_append_left_iff some).mp cut) before some
  rw [replace, Text.replaceFrom_append h.bounded severs none (Nat.zero_le _), Option.or_none,
    Text.replaceFrom_before (h.start cut)]
  rfl

theorem replace_sign (h : WordWise matched) (other : Unicode.isWord c = false) :
    replace matched new (c :: rest) = c :: replace matched new rest := by
  have alone : replace matched new [c] = [c] := by
    rw [replace, replaceFrom, h.sign other]
    rfl
  rw [← List.singleton_append, h.replace_append (cut_sign_left other rest), alone,
    List.singleton_append]

theorem isToken_replace (h : WordWise matched) (hnew : IsWord new) (isToken : IsToken token) :
    IsToken (replace matched new token) := by
  cases isToken with
  | sign other =>
      rw [h.replace_sign other]
      exact .sign other
  | word letters =>
      refine .word ⟨Text.replace_ne_nil hnew.ne_nil letters.ne_nil, fun c inside => ?_⟩
      exact (Text.mem_or_mem_of_mem_replace inside).elim (hnew.letters c) (letters.letters c)

theorem tokens_replace (h : WordWise matched) (hnew : IsWord new) (text : List Char) :
    tokens (replace matched new text) = (tokens text).map (replace matched new) := by
  induction text using token_induction with
  | nil => rfl
  | cons token rest isToken cut ih =>
      rw [h.replace_append cut, tokens_cons isToken cut, List.map_cons, ← ih]
      refine tokens_cons (h.isToken_replace hnew isToken) ?_
      -- what follows a word is no word character and stays, so that the results do not run together
      cases isToken with
      | sign other =>
          rw [h.replace_sign other]
          exact cut_sign_left other _
      | word letters =>
          cases rest with
          | nil => exact cut_nil_right _
          | cons c rest =>
              have other : Unicode.isWord c = false := (cut_iff_of_last letters.last).mp cut
              rw [h.replace_sign other]
              exact cut_sign_right other _ _

end WordWise

theorem digitRun_append {front : List Char} (digits : ∀ c ∈ front, c.isDigit = true)
    {back : List Char} (stop : back.head?.any Char.isDigit = false) (before : Option Char) :
    digitRun before (front ++ back) = front.length := by
  have none : back.takeWhile Char.isDigit = [] := by
    cases back with
    | nil => rfl
    | cons c rest => exact List.takeWhile_cons_of_neg (Bool.eq_false_iff.mp stop)
  rw [digitRun, List.takeWhile_append_of_pos digits, none, List.append_nil]

theorem digitRun_eq_zero_iff {c : Char} {before : Option Char} {rest : List Char} :
    digitRun before (c :: rest) = 0 ↔ c.isDigit = false := by
  cases hc : c.isDigit <;> simp [digitRun, hc]

theorem digitRun_stop {text back : List Char}
    (stop : ∀ a ∈ text.getLast?, a.isDigit = true → back.head?.any Char.isDigit = false)
    (before : Option Char) (some : text ≠ []) :
    digitRun before (text ++ back) = digitRun before text := by
  by_cases digits : ∀ c ∈ text, c.isDigit = true
  · have last := List.getLast_mem some
    rw [digitRun_append digits (stop _ (List.getLast?_eq_some_getLast some) (digits _ last))]
    have alone : digitRun before (text ++ []) = text.length := digitRun_append digits rfl before
    rw [← alone, List.append_nil]
  · have other : (text.takeWhile Char.isDigit).length ≠ text.length := by
      intro same
      have whole := (List.takeWhile_prefix Char.isDigit).eq_of_length same
      exact digits (List.takeWhile_eq_self_iff.mp whole)
    rw [digitRun, digitRun, List.takeWhile_append, if_neg other]

theorem wordWise_digitRun : WordWise digitRun where
  bounded _ _ := (List.takeWhile_prefix Char.isDigit).length_le
  sign other before rest := by
    rw [digitRun_eq_zero_iff, ← Bool.not_eq_true]
    intro digit
    exact Bool.noConfusion (other.symm.trans (Unicode.isWord_of_isDigit digit))
  start _ := rfl
  stop cut before some := by
    refine digitRun_stop (fun a last digit => ?_) before some
    refine (Option.any_eq_false _ _).mpr fun b first => ?_
    have parted := cut a last b first
    rw [joined, Unicode.isWord_of_isDigit digit, Bool.true_and] at parted
    rw [← Bool.not_eq_true]
    intro digit
    exact Bool.noConfusion (parted.symm.trans (Unicode.isWord_of_isDigit digit))

structure Anchored (letters : List Char) : Prop where
  head : letters.head?.any Unicode.isWord = true
  last : letters.getLast?.any Unicode.isWord = true

abbrev anchored (letters : List Char) : Word := ⟨letters, true, true⟩

def Stands (letters : List Char) (before : Option Char) (text : List Char) : Prop :=
  ∃ rest, text = letters ++ rest ∧ before.any Unicode.isWord = false ∧ Cut letters rest

namespace Anchored

variable {letters text front back : List Char} {before : Option Char}

theorem ne_nil (h : Anchored letters) : letters ≠ [] := by
  rintro rfl
  exact Bool.noConfusion h.head

theorem atBoundary_iff (h : Anchored letters) :
    atBoundary before letters.head? = true ↔ before.any Unicode.isWord = false := by
  rw [atBoundary, h.head]
  cases before.any Unicode.isWord <;> decide

theorem found_of_stands (h : Anchored letters) (stands : Stands letters before text) :
    (anchored letters).found before text = letters.length := by
  obtain ⟨rest, rfl, start, cut⟩ := stands
  have spelled : letters.isPrefixOf? (letters ++ rest) = some rest :=
    List.isPrefixOf?_eq_some_iff_append_eq.mpr rfl
  have starts : atBoundary before (letters ++ rest).head? = true := by
    rw [List.head?_append_of_ne_nil letters h.ne_nil]
    exact h.atBoundary_iff.mpr start
  have ends := (atBoundary_end_iff h.last).mpr cut
  have whole : (anchored letters).found before (letters ++ rest) =
      if (atBoundary before (letters ++ rest).head? &&
        atBoundary letters.getLast? rest.head?) = true then letters.length else 0 := by
    rw [Word.found, spelled]
    rfl
  rw [whole, starts, ends]
  rfl

theorem found_of_not_stands (h : Anchored letters) (stands : ¬ Stands letters before text) :
    (anchored letters).found before text = 0 := by
  rw [Word.found]
  split
  · rfl
  case h_2 rest spelled =>
      obtain rfl := List.isPrefixOf?_eq_some_iff_append_eq.mp spelled
      rw [List.head?_append_of_ne_nil letters h.ne_nil]
      refine if_neg fun bounds => stands ?_
      obtain ⟨starts, ends⟩ := Bool.and_eq_true_iff.mp bounds
      exact ⟨rest, rfl, h.atBoundary_iff.mp starts, (atBoundary_end_iff h.last).mp ends⟩

theorem found_congr (h : Anchored letters) {before' : Option Char} {text' : List Char}
    (iff : Stands letters before text ↔ Stands letters before' text') :
    (anchored letters).found before text = (anchored letters).found before' text' := by
  by_cases stands : Stands letters before text
  · rw [h.found_of_stands stands, h.found_of_stands (iff.mp stands)]
  · rw [h.found_of_not_stands stands, h.found_of_not_stands (mt iff.mpr stands)]

theorem bounded_found (h : Anchored letters) : Text.Bounded (anchored letters).found := by
  intro before text
  by_cases stands : Stands letters before text
  · rw [h.found_of_stands stands]
    obtain ⟨rest, rfl, -, -⟩ := stands
    simp
  · rw [h.found_of_not_stands stands]
    exact Nat.zero_le _

theorem found_sign (h : Anchored letters) {c : Char} (other : Unicode.isWord c = false)
    (before : Option Char) (rest : List Char) :
    (anchored letters).found before (c :: rest) = 0 := by
  refine h.found_of_not_stands fun ⟨behind, split, _, _⟩ => ?_
  have first : letters.head? = some c := by
    rw [← List.head?_append_of_ne_nil letters h.ne_nil, ← split, List.head?_cons]
  have head := h.head
  rw [first] at head
  exact Bool.noConfusion (other.symm.trans head)

theorem found_start (h : Anchored letters) (cut : Cut front text) :
    (anchored letters).found front.getLast? text = (anchored letters).found none text := by
  refine h.found_congr ⟨fun ⟨rest, split, _, ends⟩ => ⟨rest, split, rfl, ends⟩, ?_⟩
  rintro ⟨rest, rfl, -, ends⟩
  exact ⟨rest, rfl, (cut_iff_of_head h.head).mp ((cut_append_right_iff h.ne_nil).mp cut), ends⟩

theorem found_stop (h : Anchored letters) (cut : Cut text back)
    (apart : ∀ more rest, more ≠ [] → letters = text ++ more → back = more ++ rest →
      ¬ Cut letters rest) (before : Option Char) :
    (anchored letters).found before (text ++ back) = (anchored letters).found before text := by
  refine h.found_congr ⟨?_, ?_⟩
  · rintro ⟨rest, split, start, ends⟩
    have held {more : List Char} (split : text = letters ++ more) (rest_eq : rest = more ++ back) :
        Stands letters before text := by
      refine ⟨more, split, start, ?_⟩
      by_cases empty : more = []
      · exact empty ▸ cut_nil_right letters
      · exact (cut_append_right_iff empty).mp (rest_eq ▸ ends)
    rcases List.append_eq_append_iff.mp split with ⟨more, across, behind⟩ | ⟨more, within, behind⟩
    · by_cases empty : more = []
      · subst empty
        have whole : text = letters ++ [] := by simpa using across.symm
        exact held whole behind.symm
      · exact absurd ends (apart more rest empty across behind)
    · exact held within behind
  · rintro ⟨rest, rfl, start, ends⟩
    refine ⟨rest ++ back, List.append_assoc .., start, ?_⟩
    by_cases empty : rest = []
    · subst empty
      rwa [List.append_nil] at cut
    · exact (cut_append_right_iff empty).mpr ends

end Anchored

namespace IsWord

variable {word : List Char}

theorem anchored (h : IsWord word) : Anchored word := ⟨h.head, h.last⟩

theorem wordWise_found (h : IsWord word) : WordWise (Fragment.anchored word).found where
  bounded := h.anchored.bounded_found
  sign other := h.anchored.found_sign other
  start cut := h.anchored.found_start cut
  stop cut before some := by
    refine h.anchored.found_stop cut (fun more rest ne across behind _ => ?_) before
    subst across behind
    exact h.not_cut some ne ((cut_append_right_iff ne).mp cut)

theorem stands_iff (h : IsWord word) {letters : List Char} (hl : Anchored letters)
    {lead rest : List Char} (some : rest ≠ []) (split : word = lead ++ rest) :
    Stands letters lead.getLast? rest ↔ lead = [] ∧ letters = word := by
  subst split
  constructor
  · rintro ⟨behind, rfl, start, ends⟩
    have first : lead = [] := by
      by_contra ne
      have cut : Cut lead letters := (cut_iff_of_head hl.head).mpr start
      exact h.not_cut ne some ((cut_append_right_iff hl.ne_nil).mpr cut)
    subst first
    refine ⟨rfl, ?_⟩
    by_cases empty : behind = []
    · simp [empty]
    · exact absurd ends (IsWord.not_cut h hl.ne_nil empty)
  · rintro ⟨rfl, rfl⟩
    exact ⟨[], by simp, rfl, cut_nil_right _⟩

end IsWord

theorem foundAny_congr {words : List Word} {before before' : Option Char} {text text' : List Char}
    (h : ∀ word ∈ words, word.found before text = word.found before' text') :
    foundAny words before text = foundAny words before' text' := by
  rw [foundAny, foundAny, List.map_congr_left h]

theorem foundAny_eq_zero {words : List Word} {before : Option Char} {text : List Char}
    (h : ∀ word ∈ words, word.found before text = 0) : foundAny words before text = 0 := by
  have none : (words.map fun word => word.found before text).find? (· != 0) = none := by
    refine List.find?_eq_none.mpr fun n listed => ?_
    obtain ⟨word, known, rfl⟩ := List.mem_map.mp listed
    simp [h word known]
  rw [foundAny, none]
  rfl

theorem foundAny_eq {words : List Word} {before : Option Char} {text : List Char} {n : Nat}
    (positive : n ≠ 0) (only : ∀ word ∈ words, word.found before text = 0 ∨
      word.found before text = n) {word : Word} (known : word ∈ words)
    (found : word.found before text = n) : foundAny words before text = n := by
  rw [foundAny]
  cases first : (words.map fun word => word.found before text).find? (· != 0) with
  | none =>
      have zero := List.find?_eq_none.mp first n (List.mem_map.mpr ⟨word, known, found⟩)
      simp [positive] at zero
  | some m =>
      obtain ⟨other, known, rfl⟩ := List.mem_map.mp (List.mem_of_find?_eq_some first)
      have positive := List.find?_some first
      exact (only other known).resolve_left (by simpa using positive)

theorem wordWise_foundAny {words : List Word} (h : ∀ word ∈ words, WordWise word.found) :
    WordWise (foundAny words) where
  bounded before text := by
    rw [foundAny]
    cases first : (words.map fun word => word.found before text).find? (· != 0) with
    | none => exact Nat.zero_le _
    | some n =>
        obtain ⟨word, known, rfl⟩ := List.mem_map.mp (List.mem_of_find?_eq_some first)
        exact (h word known).bounded before text
  sign other before rest := foundAny_eq_zero fun word known => (h word known).sign other before rest
  start cut := foundAny_congr fun word known => (h word known).start cut
  stop cut before some := foundAny_congr fun word known => (h word known).stop cut before some

def rename (names : List (List Char)) (placeholder text : List Char) : List Char :=
  replace (foundAny (names.map anchored)) placeholder text

section

variable {names : List (List Char)} {placeholder word text token : List Char}
  (hnames : ∀ name ∈ names, IsWord name)

include hnames

theorem wordWise_names : WordWise (foundAny (names.map anchored)) := by
  refine wordWise_foundAny fun word listed => ?_
  obtain ⟨name, known, rfl⟩ := List.mem_map.mp listed
  exact (hnames name known).wordWise_found

theorem rename_of_mem (known : word ∈ names) : rename names placeholder word = placeholder := by
  have isWord := hnames word known
  have iff {name : List Char} (named : name ∈ names) : Stands name none word ↔ name = word := by
    have spelled : Stands name ([] : List Char).getLast? word ↔ _ :=
      isWord.stands_iff (hnames name named).anchored isWord.ne_nil rfl
    simpa using spelled
  have found : (anchored word).found none word = word.length :=
    isWord.anchored.found_of_stands ((iff known).mpr rfl)
  refine Text.replace_eq_new isWord.ne_nil
    (foundAny_eq (mt List.length_eq_zero_iff.mp isWord.ne_nil) ?_ (List.mem_map_of_mem known) found)
  intro other listed
  obtain ⟨name, named, rfl⟩ := List.mem_map.mp listed
  by_cases same : name = word
  · exact .inr (same ▸ found)
  · exact .inl ((hnames name named).anchored.found_of_not_stands (mt (iff named).mp same))

theorem rename_of_notMem (isWord : IsWord word) (unknown : word ∉ names) :
    rename names placeholder word = word := by
  refine Text.replace_eq_self fun lead rest some split => foundAny_eq_zero fun other listed => ?_
  obtain ⟨name, named, rfl⟩ := List.mem_map.mp listed
  have ends := (hnames name named).anchored
  refine ends.found_of_not_stands fun stands => unknown ?_
  exact ((isWord.stands_iff ends some split).mp stands).2 ▸ named

theorem rename_token (isToken : IsToken token) :
    rename names placeholder token = if token ∈ names then placeholder else token := by
  split
  case isTrue known => exact rename_of_mem hnames known
  case isFalse unknown =>
      cases isToken with
      | word letters => exact rename_of_notMem hnames letters unknown
      | sign other => exact (wordWise_names hnames).replace_sign other

theorem tokens_rename (hp : IsWord placeholder) (text : List Char) :
    tokens (rename names placeholder text) =
      (tokens text).map fun token => if token ∈ names then placeholder else token := by
  refine ((wordWise_names hnames).tokens_replace hp text).trans (List.map_congr_left ?_)
  exact fun token inside => rename_token hnames (isToken_of_mem inside)

theorem mem_tokens_rename (hp : IsWord placeholder)
    (inside : token ∈ tokens (rename names placeholder text)) :
    token = placeholder ∨ token ∈ tokens text ∧ token ∉ names := by
  rw [tokens_rename hnames hp] at inside
  obtain ⟨source, known, rfl⟩ := List.mem_map.mp inside
  split
  case isTrue => exact .inl rfl
  case isFalse other => exact .inr ⟨known, other⟩

end

def typeNames : List (List Char) := Energy.all.map (·.name.toList)

def statusNames : List (List Char) := Status.all.map (·.name.toList)

@[simp] theorem mem_typeNames (energy : Energy) : energy.name.toList ∈ typeNames := by
  cases energy <;> decide

@[simp] theorem mem_statusNames (status : Status) : status.name.toList ∈ statusNames := by
  cases status <;> decide

theorem IsWord.of_all {word : List Char}
    (h : (!word.isEmpty && word.all Char.isAlphanum) = true) : IsWord word := by
  obtain ⟨some, letters⟩ := Bool.and_eq_true_iff.mp h
  exact .of_isAlphanum (by simpa using some) (List.all_eq_true.mp letters)

theorem isWord_of_mem_typeNames : ∀ name ∈ typeNames, IsWord name := by
  have all : (typeNames.all fun name => !name.isEmpty && name.all Char.isAlphanum) = true := by
    decide
  exact fun name listed => .of_all (List.all_eq_true.mp all name listed)

theorem isWord_of_mem_statusNames : ∀ name ∈ statusNames, IsWord name := by
  have all : (statusNames.all fun name => !name.isEmpty && name.all Char.isAlphanum) = true := by
    decide
  exact fun name listed => .of_all (List.all_eq_true.mp all name listed)

def hideName (own text : List Char) : List Char :=
  if own.isEmpty then text else replace (ownName own).found "SELF".toList text

/-- Numbers, types and conditions are hidden in this order. -/
def shape (text : List Char) : List Char :=
  rename statusNames "STATUS".toList
    (rename typeNames "TYPE".toList (replace digitRun "X".toList text))

theorem placeholders_eq (name : String) (text : List Char) :
    placeholders name text = shape (hideName (Wording.normalizeChars name.toList) text) := by
  simp only [placeholders, shape, rename, typeNames, statusNames, List.map_map]
  rfl

theorem isWord_number : IsWord "X".toList := .of_all (by decide)

theorem isWord_type : IsWord "TYPE".toList := .of_all (by decide)

theorem isWord_status : IsWord "STATUS".toList := .of_all (by decide)

theorem tokens_shape (text : List Char) : tokens (shape text) = (tokens text).map shape := by
  have numbers := wordWise_digitRun.tokens_replace isWord_number text
  have types := (wordWise_names isWord_of_mem_typeNames).tokens_replace isWord_type
  have statuses := (wordWise_names isWord_of_mem_statusNames).tokens_replace isWord_status
  rw [shape, rename, statuses, rename, types, numbers, List.map_map, List.map_map]
  rfl

theorem mem_shape {text : List Char} {c : Char} (h : c ∈ shape text) :
    c ∈ "STATUS".toList ∨ c ∈ "TYPE".toList ∨ c ∈ replace digitRun "X".toList text :=
  (Text.mem_or_mem_of_mem_replace h).imp_right Text.mem_or_mem_of_mem_replace

theorem isDigit_of_mem_shape {text : List Char} {c : Char} (h : c ∈ shape text) :
    c.isDigit = false := by
  have free {placeholder : String} (letters : (placeholder.toList.all fun c => !c.isDigit) = true)
      (inside : c ∈ placeholder.toList) : c.isDigit = false := by
    simpa using List.all_eq_true.mp letters c inside
  obtain status | type | inside := mem_shape h
  · exact free (by decide) status
  · exact free (by decide) type
  · obtain number | ⟨before, rest, -, none⟩ := Text.mem_replaceFrom inside
    · exact free (by decide) number
    · exact digitRun_eq_zero_iff.mp none

theorem notMem_of_mem_tokens_shape {text token : List Char} (h : token ∈ tokens (shape text)) :
    token ∉ typeNames ∧ token ∉ statusNames := by
  obtain rfl | ⟨inside, noStatus⟩ := mem_tokens_rename isWord_of_mem_statusNames isWord_status h
  · decide
  obtain rfl | ⟨-, noType⟩ := mem_tokens_rename isWord_of_mem_typeNames isWord_type inside
  · decide
  · exact ⟨noType, noStatus⟩

end CardText.Fragment
