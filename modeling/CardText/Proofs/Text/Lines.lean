import CardText.Proofs.Text.Alphabet
import CardText.Text.Quoted

/-! Texts read line by line, the blanks in front of a line left out. Where every line break of a
text is followed by blanks and a certain sign, every line after the first begins with it. -/
namespace CardText.Text

def unindent (line : List Char) : List Char := line.dropWhile (· == ' ')

def pieces (text : String) : List (List Char) := (text.toList.splitOn '\n').map unindent

abbrev OneLine (text : String) : Prop := MadeOf (· != '\n') text

theorem oneLine_of_madeOf {p : Char → Bool} {text : String} (h : MadeOf p text)
    (newline : p '\n' = false) : OneLine text := by
  intro c inside
  have other : c ≠ '\n' := h.ne_of_mem inside newline
  simpa using other

theorem splitOn_of_oneLine {text : String} (h : OneLine text) :
    text.toList.splitOn '\n' = [text.toList] := by
  apply List.splitOnP_eq_singleton
  intro c inside
  simpa using h c inside

theorem pieces_of_oneLine {text : String} (h : OneLine text) :
    pieces text = [unindent text.toList] := by
  rw [pieces, splitOn_of_oneLine h]
  rfl

@[simp] theorem splitOn_append (front back : String) :
    (front ++ "\n" ++ back).toList.splitOn '\n' =
      front.toList.splitOn '\n' ++ back.toList.splitOn '\n' := by
  have newline : "\n".toList = ['\n'] := by decide
  rw [String.toList_append, String.toList_append, newline, List.append_assoc,
    List.singleton_append, List.splitOn, List.splitOnP_append_cons _ _ (by rfl)]
  rfl

@[simp] theorem pieces_append (front back : String) :
    pieces (front ++ "\n" ++ back) = pieces front ++ pieces back := by
  rw [pieces, splitOn_append, List.map_append]
  rfl

/-- Behind blanks the text begins with a character of the class. -/
def Begins (p : Char → Bool) (text : List Char) : Prop :=
  ∃ c rest, unindent text = c :: rest ∧ p c = true

def Tidy (p : Char → Bool) (text : String) : Prop :=
  ∀ rest, '\n' :: rest <:+ text.toList → Begins p rest

variable {p : Char → Bool}

theorem Begins.append {front : List Char} (h : Begins p front) (back : List Char) :
    Begins p (front ++ back) := by
  obtain ⟨c, rest, eq, allowed⟩ := h
  refine ⟨c, rest ++ back, ?_, allowed⟩
  rw [unindent] at eq
  rw [unindent, List.dropWhile_append, eq]
  rfl

theorem Begins.literal {chars : List Char} (h : Begins p chars) :
    Begins p (String.ofList chars).toList := by
  rwa [String.toList_ofList]

theorem Begins.text_append {front : String} (h : Begins p front.toList) (back : String) :
    Begins p (front ++ back).toList := by
  rw [String.toList_append]
  exact h.append back.toList

theorem Begins.of_append {line back : List Char} (h : Begins p (line ++ back))
    (newline : p '\n' = false) (cut : back = [] ∨ ∃ next, back = '\n' :: next) :
    Begins p line := by
  obtain ⟨c, rest, eq, allowed⟩ := h
  rw [unindent, List.dropWhile_append] at eq
  cases own : line.dropWhile (· == ' ') with
  | nil =>
      rw [own] at eq
      rcases cut with rfl | ⟨next, rfl⟩
      · simp at eq
      · have same : c = '\n' := (by simpa using eq.symm : c = '\n' ∧ _).1
        rw [same, newline] at allowed
        cases allowed
  | cons d others =>
      rw [own] at eq
      have same : d = c := by simpa using (List.cons.inj eq).1
      exact ⟨d, others, own, same ▸ allowed⟩

def Breaks (P : List Char → Prop) (text : String) : Prop :=
  ∀ rest, '\n' :: rest <:+ text.toList → P rest

namespace Breaks

variable {P : List Char → Prop}

theorem of_oneLine {text : String} (h : OneLine text) : Breaks P text := by
  intro rest ending
  have inside : '\n' ∈ text.toList := ending.subset (by simp)
  simpa using h '\n' inside

theorem append (appended : ∀ front back, P front → P (front ++ back)) {front back : String}
    (hf : Breaks P front) (hb : Breaks P back) : Breaks P (front ++ back) := by
  intro rest ending
  obtain ⟨before, split⟩ := ending
  rw [String.toList_append] at split
  rcases List.append_eq_append_iff.mp split with ⟨inner, eq, eqBack⟩ | ⟨inner, eq, eqBack⟩
  · cases inner with
    | nil => exact hb rest ⟨[], by simpa using eqBack⟩
    | cons c inner =>
        obtain ⟨rfl, rfl⟩ := List.cons.inj eqBack
        exact appended _ _ (hf inner ⟨before, eq.symm⟩)
  · exact hb rest ⟨inner, eqBack.symm⟩

end Breaks

namespace Tidy

theorem of_oneLine {text : String} (h : OneLine text) : Tidy p text := Breaks.of_oneLine h

theorem mono {q : Char → Bool} {text : String} (h : Tidy p text)
    (weaker : ∀ c, p c = true → q c = true) : Tidy q text := by
  intro rest ending
  obtain ⟨c, others, eq, allowed⟩ := h rest ending
  exact ⟨c, others, eq, weaker c allowed⟩

end Tidy

theorem exists_of_mem_lines {list : List (List Char)} {line : List Char} (inside : line ∈ list) :
    ∃ back, (back = [] ∨ ∃ next, back = '\n' :: next) ∧
      (['\n'].intercalate list = line ++ back ∨
        '\n' :: (line ++ back) <:+ ['\n'].intercalate list) := by
  induction list with
  | nil => cases inside
  | cons first others ih =>
      cases others with
      | nil => exact ⟨[], .inl rfl, .inl (by simpa using (List.mem_singleton.mp inside).symm)⟩
      | cons next others =>
          rw [List.intercalate_cons_cons, List.append_assoc, List.singleton_append]
          rcases List.mem_cons.mp inside with rfl | later
          · exact ⟨_, .inr ⟨_, rfl⟩, .inl rfl⟩
          · obtain ⟨back, cut, opens | follows⟩ := ih later
            · exact ⟨back, cut, .inr (opens ▸ List.suffix_append first _)⟩
            · exact ⟨back, cut, .inr ((follows.trans (List.suffix_cons _ _)).trans
                (List.suffix_append first _))⟩

theorem Breaks.of_mem_splitOn {P : List Char → Prop} {text : String} (first : P text.toList)
    (h : Breaks P text)
    (cut : ∀ line back, (back = [] ∨ ∃ next, back = '\n' :: next) → P (line ++ back) → P line)
    {line : List Char} (inside : line ∈ text.toList.splitOn '\n') : P line := by
  obtain ⟨back, ends, place⟩ := exists_of_mem_lines inside
  rw [List.intercalate_splitOn] at place
  rcases place with opens | follows
  · exact cut line back ends (opens ▸ first)
  · exact cut line back ends (h _ follows)

theorem begins_of_mem_splitOn {text : String} (first : Begins p text.toList) (h : Tidy p text)
    (newline : p '\n' = false) {line : List Char} (inside : line ∈ text.toList.splitOn '\n') :
    Begins p line :=
  Breaks.of_mem_splitOn first h (fun _ _ ends whole => whole.of_append newline ends) inside

theorem begins_of_mem_pieces {text : String} (first : Begins p text.toList) (h : Tidy p text)
    (newline : p '\n' = false) {piece : List Char} (inside : piece ∈ pieces text) :
    ∃ c rest, piece = c :: rest ∧ p c = true := by
  obtain ⟨line, listed, rfl⟩ := List.mem_map.mp inside
  exact begins_of_mem_splitOn first h newline listed

theorem exists_digit_of_mem_toDigits {b n : Nat} {c : Char} (hb : 1 < b)
    (inside : c ∈ Nat.toDigits b n) : ∃ d < b, c = d.digitChar := by
  induction n using Nat.strongRecOn with
  | ind n ih =>
      rw [Nat.toDigits_eq_if hb] at inside
      by_cases small : n < b
      · rw [if_pos small, List.mem_singleton] at inside
        exact ⟨n, small, inside⟩
      · rw [if_neg small, List.mem_append, List.mem_singleton] at inside
        rcases inside with front | last
        · exact ih (n / b) (Nat.div_lt_self (by omega) hb) front
        · exact ⟨n % b, Nat.mod_lt n (by omega), last⟩

theorem newline_notMem_quotedChar (c : Char) : '\n' ∉ quotedChar c := by
  have digits : '\n' ∉ hexDigits c.toNat := by
    intro inside
    obtain ⟨d, small, eq⟩ := exists_digit_of_mem_toDigits (by decide) inside
    have others : ∀ d < 16, '\n' ≠ Nat.digitChar d := by decide
    exact others d small eq
  rw [quotedChar.eq_def]
  split
  case h_7 newline _ _ _ =>
    split
    · simp [digits]
    · intro inside
      exact newline (List.mem_singleton.mp inside).symm
  all_goals decide

theorem oneLine_quoted (text : String) : OneLine (quoted text) := by
  intro c inside
  rw [quoted, String.toList_ofList, quotedChars, List.mem_append, List.mem_cons,
    List.mem_flatMap] at inside
  rw [bne_iff_ne]
  intro same
  subst same
  rcases inside with (opening | ⟨d, -, inner⟩) | closing
  · exact absurd opening (by decide)
  · exact newline_notMem_quotedChar d inner
  · exact absurd closing (by decide)

end CardText.Text
