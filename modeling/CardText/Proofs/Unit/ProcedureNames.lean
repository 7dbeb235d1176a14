import CardText.Proofs.Dataset.CanonicalName
import CardText.Proofs.Text.Replacement
import CardText.Proofs.Unit.Names
import Mathlib

/-! What procedures are called. Whatever the title of an attack is written with, its procedure has
a name that the generated language takes, and the names of procedures are the titles that stand
for themselves: such a title goes through all steps and comes out as it is. -/
namespace CardText

namespace Snake

variable {text tail : List Char}

theorem append (h : Snake text) (back : Snake tail) : Snake (text ++ tail) := by
  induction h with
  | single part => exact .within part back
  | within part _ ih => exact .within part ih
  | joint part _ ih => exact .joint part ih

theorem append_joint (h : Snake text) (back : Snake tail) : Snake (text ++ '_' :: tail) := by
  induction h with
  | single part => exact .joint part back
  | within part _ ih => exact .within part ih
  | joint part _ ih => exact .joint part ih

theorem exists_last (h : Snake text) : ∃ front c, text = front ++ [c] ∧ c ≠ '_' := by
  rcases List.eq_nil_or_concat text with rfl | ⟨front, c, rfl⟩
  · exact absurd rfl h.ne_nil
  · rw [List.concat_eq_append] at h ⊢
    refine ⟨front, c, rfl, ?_⟩
    rintro rfl
    exact h.not_trailing (List.suffix_append front ['_'])

theorem of_not_doubled (parts : ∀ c ∈ text, isNamePart c = true ∨ c = '_') (ne : text ≠ [])
    (leading : ¬ ['_'] <+: text) (trailing : ¬ ['_'] <:+ text)
    (doubled : ¬ ['_', '_'] <:+: text) : Snake text := by
  induction text using List.twoStepInduction with
  | nil => exact absurd rfl ne
  | singleton c =>
      have part := (parts c (by simp)).resolve_right (by rintro rfl; exact leading List.prefix_rfl)
      exact .single part
  | cons_cons c d rest within after =>
      obtain ⟨first, parts⟩ := List.forall_mem_cons.mp parts
      have part := first.resolve_right (by rintro rfl; exact leading (by simp))
      have trailing : ¬ ['_'] <:+ d :: rest := fun ends => trailing (ends.trans (by simp))
      have doubled : ¬ ['_', '_'] <:+: d :: rest :=
        fun inside => doubled (inside.trans (List.suffix_cons c _).isInfix)
      by_cases joint : d = '_'
      · subst joint
        refine .joint part (within ?_ ?_ ?_ ?_ ?_)
        · exact (List.forall_mem_cons.mp parts).2
        · rintro rfl
          exact trailing List.suffix_rfl
        · intro leads
          exact doubled ((List.prefix_cons_inj '_').mpr leads).isInfix
        · exact fun ends => trailing (ends.trans (List.suffix_cons '_' rest))
        · exact fun inside => doubled (inside.trans (List.suffix_cons '_' rest).isInfix)
      · refine .within part (after d parts (by simp) ?_ trailing doubled)
        intro leads
        exact joint (List.cons_prefix_cons.mp leads).1.symm

end Snake

namespace Identifier

def isSmall (c : Char) : Bool := c.isLower || c.isDigit

def isSnakeChar (c : Char) : Bool := isSmall c || c == '_'

/-- A small letter, then small letters, digits and underscores between them, one at a time. A word
that the language keeps for itself is set apart by an underscore behind it. -/
structure IsProcedureName (name : String) : Prop where
  begins : ∃ first rest, name.toList = first :: rest ∧ first.isLower = true
  small : ∀ c ∈ name.toList, isSnakeChar c = true
  not_reserved : name ∉ reservedWords
  not_doubled : ¬ ['_', '_'] <:+: name.toList
  trailing : ['_'] <:+ name.toList → ∃ word ∈ reservedWords, name = word ++ "_"

theorem isSmall_iff_toNat {c : Char} :
    isSmall c = true ↔ 97 ≤ c.toNat ∧ c.toNat ≤ 122 ∨ 48 ≤ c.toNat ∧ c.toNat ≤ 57 := by
  rw [isSmall, Bool.or_eq_true, Unicode.isDigit_iff_toNat]
  delta Char.isLower
  simp [UInt32.le_iff_toNat_le, ← Char.toNat_val]

theorem isSmall_of_isSnakeChar {c : Char} (h : isSnakeChar c = true) (ne : c ≠ '_') :
    isSmall c = true := by
  simpa [isSnakeChar, ne] using h

theorem isNamePart_of_isSmall {c : Char} (h : isSmall c = true) : isNamePart c = true := by
  rw [isSmall_iff_toNat] at h
  rw [isNamePart_iff_toNat]
  omega

theorem isAlphanum_of_isSmall {c : Char} (h : isSmall c = true) : c.isAlphanum = true := by
  rw [isSmall_iff_toNat] at h
  rw [Char.isAlphanum, Bool.or_eq_true, Unicode.isAlpha_iff_toNat, Unicode.isDigit_iff_toNat]
  omega

theorem toLower_of_isSmall {c : Char} (h : isSmall c = true) : c.toLower = c := by
  apply Char.toLower_eq_of_not_isUpper
  rw [isSmall_iff_toNat] at h
  simp only [Char.isUpper, UInt32.le_iff_toNat_le, ge_iff_le, decide_eq_true_eq]
  change ¬ (65 ≤ c.toNat ∧ c.toNat ≤ 90)
  omega

theorem isSmall_toLower {c : Char} (h : c.isAlphanum = true) : isSmall c.toLower = true := by
  rw [Char.isAlphanum, Bool.or_eq_true] at h
  rcases h with letter | digit
  · simp [isSmall, letter]
  · have small : isSmall c = true := by simp [isSmall, digit]
    rwa [toLower_of_isSmall small]

theorem isDigit_of_isLower {c : Char} (h : c.isLower = true) : c.isDigit = false := by
  rw [Bool.eq_false_iff]
  intro digit
  have letter := Unicode.isAlpha_eq_false_of_isDigit digit
  simp [Char.isAlpha, h] at letter

/-- The name so far, in reverse: its words, and an underscore if the last word has been left. -/
def Begun (ident : List Char) : Prop :=
  ident = [] ∨ ∃ words, Snake words.reverse ∧ (ident = words ∨ ident = '_' :: words)

theorem exists_head_of_snake {words : List Char} (h : Snake words.reverse) :
    ∃ c rest, words = c :: rest ∧ c ≠ '_' := by
  obtain ⟨front, c, eq, ne⟩ := h.exists_last
  exact ⟨c, front.reverse, by rw [← List.reverse_reverse words, eq]; simp, ne⟩

theorem dropWhile_of_snake {words : List Char} (h : Snake words.reverse) :
    words.dropWhile (· == '_') = words := by
  obtain ⟨c, rest, rfl, ne⟩ := exists_head_of_snake h
  simp [ne]

theorem Begun.cons {ident : List Char} (begun : Begun ident) {c : Char}
    (part : isNamePart c = true) : Begun (c :: ident) := by
  refine .inr ⟨c :: ident, ?_, .inl rfl⟩
  rcases begun with rfl | ⟨words, snake, rfl | rfl⟩
  · exact .single part
  · rw [List.reverse_cons]
    exact snake.append (.single part)
  · rw [List.reverse_cons, List.reverse_cons, List.append_assoc]
    exact snake.append_joint (.single part)

theorem snake_snakeFrom {ident : List Char} (begun : Begun ident) (text : List Char) :
    snakeFrom ident text = [] ∨ Snake (snakeFrom ident text) := by
  induction text generalizing ident with
  | nil =>
      rcases begun with rfl | ⟨words, snake, rfl | rfl⟩
      · exact .inl rfl
      · rw [snakeFrom, dropWhile_of_snake snake]
        exact .inr snake
      · rw [snakeFrom, List.dropWhile_cons_of_pos rfl, dropWhile_of_snake snake]
        exact .inr snake
  | cons c text ih =>
      rw [snakeFrom]
      split_ifs with letter joint
      · exact ih (begun.cons (isNamePart_of_isSmall (isSmall_toLower letter)))
      · -- a separator counts where the name ends with a word
        rcases begun with rfl | ⟨words, snake, rfl | rfl⟩
        · simp at joint
        · exact ih (.inr ⟨_, snake, .inr rfl⟩)
        · simp at joint
      · exact ih begun

theorem snakeFrom_append {text : List Char} (h : Snake text)
    (small : ∀ c ∈ text, isSnakeChar c = true) (ident back : List Char) :
    snakeFrom ident (text ++ back) = snakeFrom (text.reverse ++ ident) back := by
  induction h generalizing ident with
  | @single c part =>
      have own := isSmall_of_isSnakeChar (small c (by simp)) (Snake.ne_underscore part)
      simp [snakeFrom, isAlphanum_of_isSmall own, toLower_of_isSmall own]
  | @within c rest part tail ih =>
      obtain ⟨first, small⟩ := List.forall_mem_cons.mp small
      have own := isSmall_of_isSnakeChar first (Snake.ne_underscore part)
      rw [List.cons_append, snakeFrom, if_pos (isAlphanum_of_isSmall own),
        toLower_of_isSmall own, ih small]
      simp
  | @joint c rest part tail ih =>
      obtain ⟨first, small⟩ := List.forall_mem_cons.mp small
      have own := isSmall_of_isSnakeChar first (Snake.ne_underscore part)
      have underscore : '_'.isAlphanum = false := by decide
      have separates : separatesWords '_' = true := by decide
      rw [List.cons_append, List.cons_append, snakeFrom, if_pos (isAlphanum_of_isSmall own),
        toLower_of_isSmall own, snakeFrom, underscore, separates, if_neg (by simp),
        if_pos (by simp [Snake.ne_underscore part]), ih (List.forall_mem_cons.mp small).2]
      simp

theorem replaceAll_of_small {old : String} (sign : old.toList.all isSnakeChar = false)
    (new : String) {text : List Char} (small : ∀ c ∈ text, isSnakeChar c = true) :
    Text.replaceAll old new text = text := by
  have filled : old.toList ≠ [] := by
    intro empty
    rw [empty] at sign
    cases sign
  refine (Text.replaced_replaceAll filled new text).eq_self fun inside => ?_
  have own : old.toList.all isSnakeChar = true :=
    List.all_eq_true.mpr fun c listed => small c (inside.subset listed)
  exact Bool.noConfusion (sign.symm.trans own)

theorem dropAccent_of_isSnakeChar {c : Char} (small : isSnakeChar c = true) :
    dropAccent c = c := by
  have accents : ['é', 'è', 'ê', 'É'].all (fun d => !isSnakeChar d) = true := by decide
  have plain : ∀ d ∈ ['é', 'è', 'ê', 'É'], c ≠ d := by
    rintro d listed rfl
    simpa [small] using List.all_eq_true.mp accents c listed
  have plain : c ≠ 'é' ∧ c ≠ 'è' ∧ c ≠ 'ê' ∧ c ≠ 'É' := by simpa using plain
  simp [dropAccent, plain]

theorem snake_of_small {text : List Char} (small : ∀ c ∈ text, isSnakeChar c = true) :
    snake text = snakeFrom [] text := by
  have male : "♂".toList.all isSnakeChar = false := by
    rw [String.toList_ofList]
    decide
  have female : "♀".toList.all isSnakeChar = false := by
    rw [String.toList_ofList]
    decide
  have straight : "'d".toList.all isSnakeChar = false := by
    rw [String.toList_ofList]
    decide
  have curly : "’d".toList.all isSnakeChar = false := by
    rw [String.toList_ofList]
    decide
  have same : text.map dropAccent = text :=
    (List.map_congr_left fun c inside => dropAccent_of_isSnakeChar (small c inside)).trans
      text.map_id
  rw [snake, spellSigns, replaceAll_of_small male "m" small, replaceAll_of_small female "f" small,
    replaceAll_of_small straight "_d" small, replaceAll_of_small curly "_d" small, same]

theorem snake_of_snake {text : List Char} (h : Snake text)
    (small : ∀ c ∈ text, isSnakeChar c = true) : snake text = text := by
  have reversed : Snake text.reverse.reverse := by rwa [List.reverse_reverse]
  have through := snakeFrom_append h small [] []
  rw [List.append_nil, List.append_nil] at through
  rw [snake_of_small small, through, snakeFrom, dropWhile_of_snake reversed, List.reverse_reverse]

theorem snake_underscore {text : List Char} (h : Snake text)
    (small : ∀ c ∈ text, isSnakeChar c = true) : snake (text ++ ['_']) = text := by
  have reversed : Snake text.reverse.reverse := by rwa [List.reverse_reverse]
  obtain ⟨c, rest, spelled, ne⟩ := exists_head_of_snake reversed
  have behind : ∀ d ∈ text ++ ['_'], isSnakeChar d = true := by
    intro d inside
    rcases List.mem_append.mp inside with inside | last
    · exact small d inside
    · rw [List.mem_singleton.mp last]
      decide
  have cut : snakeFrom text.reverse ['_'] = text := by
    have underscore : '_'.isAlphanum = false := by decide
    have separates : separatesWords '_' = true := by decide
    have ending : (text.reverse.head?.any (· != '_')) = true := by simp [spelled, ne]
    rw [snakeFrom, underscore, separates, ending, if_neg (by simp), if_pos (by simp), snakeFrom,
      List.dropWhile_cons_of_pos rfl, dropWhile_of_snake reversed, List.reverse_reverse]
  rw [snake_of_small behind, snakeFrom_append h small, List.append_nil, cut]

theorem isSnakeChar_of_mem_snake (title : List Char) :
    ∀ c ∈ snake title, isSnakeChar c = true := by
  have letters : ∀ c : Char, c.isAlphanum = true → isSnakeChar c.toLower = true :=
    fun c letter => by simp [isSnakeChar, isSmall_toLower letter]
  exact forall_mem_snakeFrom letters (by decide) (by simp)

theorem snake_nil_or_snake (title : List Char) : snake title = [] ∨ Snake (snake title) :=
  snake_snakeFrom (.inl rfl) _

theorem procedureName_of_nil {title : String} (h : snake title.toList = []) :
    procedureName title = "attack" := by
  simp [procedureName, h]

theorem procedureName_of_cons {title : String} {c : Char} {rest : List Char}
    (h : snake title.toList = c :: rest) :
    procedureName title =
      if c.isDigit then "attack_" ++ String.ofList (c :: rest)
      else if reservedWords.contains (String.ofList (c :: rest)) then
        String.ofList (c :: rest) ++ "_"
      else String.ofList (c :: rest) := by
  simp only [procedureName, h, String.toList_ofList]

theorem isProcedureName_of_snake {name : String} (h : Snake name.toList)
    (begins : ∃ first rest, name.toList = first :: rest ∧ first.isLower = true)
    (small : ∀ c ∈ name.toList, isSnakeChar c = true) (free : name ∉ reservedWords) :
    IsProcedureName name where
  begins := begins
  small := small
  not_reserved := free
  not_doubled := h.not_doubled
  trailing := fun ends => absurd ends h.not_trailing

theorem letters_of_reserved {word : String} (h : word ∈ reservedWords) :
    word.toList ≠ [] ∧ ∀ c ∈ word.toList, c.isLower = true := by
  have letters : ∀ word ∈ reservedWords,
      word.toList ≠ [] ∧ word.toList.all Char.isLower = true := by
    decide
  exact ⟨(letters word h).1, List.all_eq_true.mp (letters word h).2⟩

theorem snake_of_reserved {word : String} (h : word ∈ reservedWords) :
    Snake word.toList ∧ ∀ c ∈ word.toList, isSnakeChar c = true := by
  obtain ⟨filled, letters⟩ := letters_of_reserved h
  have small : ∀ c ∈ word.toList, isSmall c = true := fun c inside => by
    simp [isSmall, letters c inside]
  exact ⟨.of_word filled fun c inside => isNamePart_of_isSmall (small c inside),
    fun c inside => by simp [isSnakeChar, small c inside]⟩

theorem notMem_reserved {name : String} {c : Char} (inside : c ∈ name.toList)
    (other : c.isLower = false) : name ∉ reservedWords := by
  intro listed
  have letter := (letters_of_reserved listed).2 c inside
  exact Bool.noConfusion (other.symm.trans letter)

theorem isProcedureName_reserved {word : String} (h : word ∈ reservedWords) :
    IsProcedureName (word ++ "_") := by
  obtain ⟨filled, letters⟩ := letters_of_reserved h
  obtain ⟨first, rest, spelled⟩ := List.exists_cons_of_ne_nil filled
  have line : (word ++ "_").toList = word.toList ++ ['_'] := by simp
  refine ⟨?_, ?_, ?_, ?_, fun _ => ⟨word, h, rfl⟩⟩
  · exact ⟨first, rest ++ ['_'], by rw [line, spelled]; rfl, letters first (by simp [spelled])⟩
  · intro c inside
    rw [line, List.mem_append, List.mem_singleton] at inside
    rcases inside with inside | rfl
    · exact (snake_of_reserved h).2 c inside
    · decide
  · exact notMem_reserved (by rw [line]; simp) (by decide : '_'.isLower = false)
  · intro doubled
    have none : word.toList.count '_' = 0 := by
      refine List.count_eq_zero.mpr fun inside => ?_
      exact absurd (letters '_' inside) (by decide)
    have two := doubled.sublist.count_le '_'
    rw [line, List.count_append, none] at two
    exact absurd two (by decide)

theorem attack_word : "attack".toList.all isSmall = true := by decide

theorem isProcedureName_attack : IsProcedureName "attack" := by
  have small := List.all_eq_true.mp attack_word
  refine isProcedureName_of_snake ?_ ⟨'a', "ttack".toList, by decide, rfl⟩ ?_ (by decide)
  · exact .of_word (by decide) fun c inside => isNamePart_of_isSmall (small c inside)
  · exact fun c inside => by simp [isSnakeChar, small c inside]

theorem isProcedureName_numbered {c : Char} {rest : List Char} (words : Snake (c :: rest))
    (small : ∀ d ∈ c :: rest, isSnakeChar d = true) :
    IsProcedureName ("attack_" ++ String.ofList (c :: rest)) := by
  have chars : ("attack_" ++ String.ofList (c :: rest)).toList =
      "attack".toList ++ '_' :: c :: rest := by
    have front : "attack_".toList = "attack".toList ++ ['_'] := by decide
    simp only [String.toList_append, front, String.toList_ofList, List.append_assoc,
      List.singleton_append]
  have front := List.all_eq_true.mp attack_word
  refine isProcedureName_of_snake ?_ ⟨'a', "ttack".toList ++ '_' :: c :: rest, ?_, rfl⟩ ?_ ?_
  · rw [chars]
    exact .join (by decide) (fun d inside => isNamePart_of_isSmall (front d inside)) words
  · rw [chars]
    rfl
  · rw [chars]
    intro d inside
    rcases List.mem_append.mp inside with inside | inside
    · simp [isSnakeChar, front d inside]
    · rcases List.mem_cons.mp inside with rfl | inside
      · decide
      · exact small d inside
  · exact notMem_reserved (by rw [chars]; simp) (by decide : '_'.isLower = false)

theorem isProcedureName_procedureName (title : String) :
    IsProcedureName (procedureName title) := by
  rcases snake_nil_or_snake title.toList with none | words
  · rw [procedureName_of_nil none]
    exact isProcedureName_attack
  obtain ⟨c, rest, spelled⟩ := List.exists_cons_of_ne_nil words.ne_nil
  have small := isSnakeChar_of_mem_snake title.toList
  rw [spelled] at words small
  rw [procedureName_of_cons spelled]
  split_ifs with digit reserved
  · exact isProcedureName_numbered words small
  · exact isProcedureName_reserved (by simpa using reserved)
  · have ne : c ≠ '_' := by
      rintro rfl
      exact words.not_leading (by simp)
    have own := isSmall_of_isSnakeChar (small c (by simp)) ne
    have letter : c.isLower = true := by simpa [isSmall, digit] using own
    have chars : (String.ofList (c :: rest)).toList = c :: rest := String.toList_ofList
    rw [← chars] at words small
    exact isProcedureName_of_snake words ⟨c, rest, chars, letter⟩ small (by simpa using reserved)

theorem snake_of_isProcedureName {name : String} (h : IsProcedureName name)
    (trailing : ¬ ['_'] <:+ name.toList) : Snake name.toList := by
  obtain ⟨first, rest, spelled, letter⟩ := h.begins
  refine .of_not_doubled ?_ ?_ ?_ trailing h.not_doubled
  · intro c inside
    by_cases line : c = '_'
    · exact .inr line
    · exact .inl (isNamePart_of_isSmall (isSmall_of_isSnakeChar (h.small c inside) line))
  · simp [spelled]
  · intro leads
    rw [spelled] at leads
    rw [← (List.cons_prefix_cons.mp leads).1] at letter
    exact absurd letter (by decide)

theorem procedureName_of_isProcedureName {name : String} (h : IsProcedureName name) :
    procedureName name = name := by
  by_cases trailing : ['_'] <:+ name.toList
  · obtain ⟨word, listed, rfl⟩ := h.trailing trailing
    obtain ⟨snake, small⟩ := snake_of_reserved listed
    obtain ⟨filled, letters⟩ := letters_of_reserved listed
    obtain ⟨first, rest, spelled⟩ := List.exists_cons_of_ne_nil filled
    have digit := isDigit_of_isLower (letters first (by simp [spelled]))
    have cut : Identifier.snake (word ++ "_").toList = first :: rest := by
      have line : (word ++ "_").toList = word.toList ++ ['_'] := by simp
      rw [line, snake_underscore snake small, spelled]
    rw [procedureName_of_cons cut, digit, ← spelled, String.ofList_toList]
    simp [listed]
  · obtain ⟨first, rest, spelled, letter⟩ := h.begins
    have digit := isDigit_of_isLower letter
    have same := snake_of_snake (snake_of_isProcedureName h trailing) h.small
    rw [procedureName_of_cons (same.trans spelled), digit, ← spelled, String.ofList_toList]
    simp [h.not_reserved]

/-- The names of procedures are what titles are turned into, and they are the titles that stay. -/
theorem procedureName_usable :
    (∀ title, IsProcedureName (procedureName title)) ∧
      (∀ name, procedureName name = name ↔ IsProcedureName name) ∧
      ∀ title, procedureName (procedureName title) = procedureName title := by
  refine ⟨isProcedureName_procedureName, fun name => ⟨fun same => ?_, ?_⟩, fun title => ?_⟩
  · rw [← same]
    exact isProcedureName_procedureName name
  · exact procedureName_of_isProcedureName
  · exact procedureName_of_isProcedureName (isProcedureName_procedureName title)

end Identifier
end CardText
