import CardText.Proofs.Script.Brackets
import CardText.Unicode.Space
import Mathlib.Data.List.DropRight

/-! The layout of a printed script. How many effects fit on a line and how deep the first line
stands decide about white space and braces and nothing else. In every layout brackets nest, and the
brace that closes a block stands on a line of the same indentation as the line that opened it. -/
namespace CardText.Print

open Text

/-- A text without its white space and without braces. -/
def dense (text : String) : List Char :=
  text.toList.filter fun c => !(Unicode.isSpace c || c == '\x7b' || c == '\x7d')

theorem dense_eq_filter_bare (text : String) :
    dense text = (bare text).filter fun c => !Unicode.isSpace c := by
  rw [dense, bare, List.filter_filter]
  congr 1
  funext c
  have blank : Unicode.isSpace ' ' = true := by decide
  have newline : Unicode.isSpace '\n' = true := by decide
  by_cases hb : c = ' '
  · simp [hb, blank]
  by_cases hn : c = '\n'
  · simp [hn, newline]
  have hb : (c == ' ') = false := beq_eq_false_iff_ne.mpr hb
  have hn : (c == '\n') = false := beq_eq_false_iff_ne.mpr hn
  cases Unicode.isSpace c <;> simp [isLayout, hb, hn]

def lastLine (text : List Char) : List Char := text.rtakeWhile (· != '\n')

def indentation (text : List Char) : Nat := ((lastLine text).takeWhile (· == ' ')).length

def Aligned (text : List Char) : Prop :=
  ∀ front inner back, text = front ++ '\x7b' :: (inner ++ '\x7d' :: back) → Balanced inner →
    indentation (front ++ '\x7b' :: inner) = indentation front

/-- The indentations of the lines that opened the blocks which are still open behind the text,
innermost first; none where a block is closed on a line of another indentation. -/
def openBlocks (opened : List Nat) (before : List Char) : List Char → Option (List Nat)
  | [] => some opened
  | c :: rest =>
      if c = '\x7b' then openBlocks (indentation before :: opened) (before ++ [c]) rest
      else if c = '\x7d' then
        match opened with
        | [] => none
        | level :: opened =>
            if indentation before = level then openBlocks opened (before ++ [c]) rest else none
      else openBlocks opened (before ++ [c]) rest

theorem openBlocks_append (opened : List Nat) (before text rest : List Char) :
    openBlocks opened before (text ++ rest) =
      (openBlocks opened before text).bind fun opened =>
        openBlocks opened (before ++ text) rest := by
  induction text generalizing opened before with
  | nil => simp [openBlocks]
  | cons c text ih =>
      simp only [List.cons_append, openBlocks, ih, List.append_assoc, List.nil_append]
      split_ifs
      · rfl
      · cases opened with
        | nil => rfl
        | cons level opened => by_cases same : indentation before = level <;> simp [same]
      · rfl

section

variable {opened left : List Nat} {before : List Char}

theorem openBlocks_plain {c : Char} (ho : c ≠ '\x7b') (hc : c ≠ '\x7d') (rest : List Char) :
    openBlocks opened before (c :: rest) = openBlocks opened (before ++ [c]) rest := by
  simp [openBlocks, ho, hc]

theorem openBlocks_of_plain {text : List Char} (opened : List Nat) (before : List Char)
    (h : ∀ c ∈ text, c ≠ '\x7b' ∧ c ≠ '\x7d') : openBlocks opened before text = some opened := by
  induction text generalizing before with
  | nil => rfl
  | cons c rest ih =>
      obtain ⟨first, others⟩ := List.forall_mem_cons.mp h
      rw [openBlocks_plain first.1 first.2, ih _ others]

@[simp] theorem openBlocks_opening (rest : List Char) :
    openBlocks opened before ('\x7b' :: rest) =
      openBlocks (indentation before :: opened) (before ++ ['\x7b']) rest := by
  simp [openBlocks]

@[simp] theorem openBlocks_closing_iff {level : Nat} {rest : List Char} :
    openBlocks (level :: opened) before ('\x7d' :: rest) = some left ↔
      indentation before = level ∧ openBlocks opened (before ++ ['\x7d']) rest = some left := by
  by_cases same : indentation before = level <;> simp [openBlocks, same]

theorem openBlocks_of_balanced {inner : List Char} (balanced : Balanced inner)
    (h : openBlocks opened before inner = some left) : left = opened := by
  induction balanced generalizing opened before left with
  | nil => exact (Option.some.inj h).symm
  | plain other _ ih =>
      rw [openBlocks_plain (by rintro rfl; exact other (by decide))
        (by rintro rfl; exact other (by decide))] at h
      exact ih h
  | enclosed bracket _ _ ihWithin ihBehind =>
      cases bracket with
      | curly =>
          rw [Bracket.opening, openBlocks_opening, openBlocks_append] at h
          obtain ⟨mid, first, h⟩ := Option.bind_eq_some_iff.mp h
          rw [ihWithin first] at h
          exact ihBehind (openBlocks_closing_iff.mp h).2
      | round | square =>
          rw [Bracket.opening, openBlocks_plain (by decide) (by decide), openBlocks_append] at h
          obtain ⟨mid, first, h⟩ := Option.bind_eq_some_iff.mp h
          rw [ihWithin first, Bracket.closing, openBlocks_plain (by decide) (by decide)] at h
          exact ihBehind h

theorem aligned_of_openBlocks {text : List Char} (h : openBlocks [] [] text = some left) :
    Aligned text := by
  intro front inner back split balanced
  rw [split, openBlocks_append] at h
  obtain ⟨around, -, h⟩ := Option.bind_eq_some_iff.mp h
  rw [List.nil_append, openBlocks_opening, openBlocks_append] at h
  obtain ⟨mid, first, h⟩ := Option.bind_eq_some_iff.mp h
  rw [openBlocks_of_balanced balanced first] at h
  have closed := (openBlocks_closing_iff.mp h).1
  simpa using closed

end

def breaks : List Char := ['\n', '\x7b', '\x7d']

abbrev IsInline (text : String) : Prop := MadeOf (fun c => !breaks.contains c) text

theorem isInline_pad (level : Nat) : IsInline (pad level) := (madeOf_pad level).excludes (by decide)

theorem ne_of_isInline {text : String} (h : IsInline text) {c d : Char} (inside : c ∈ text.toList)
    (listed : breaks.contains d = true) : c ≠ d :=
  h.ne_of_mem inside (by rw [listed]; rfl)

theorem openBlocks_of_isInline {text : String} (h : IsInline text) (opened : List Nat)
    (before : List Char) : openBlocks opened before text.toList = some opened :=
  openBlocks_of_plain opened before fun _ inside =>
    ⟨ne_of_isInline h inside (by decide), ne_of_isInline h inside (by decide)⟩

theorem lastLine_append {text : String} (h : OneLine text) (before : List Char) :
    lastLine (before ++ text.toList) = lastLine before ++ text.toList := by
  have turned : ∀ c ∈ text.toList.reverse, (c != '\n') = true := fun c inside =>
    h c (List.mem_reverse.mp inside)
  simp only [lastLine, List.rtakeWhile, List.reverse_append, List.takeWhile_append_of_pos turned,
    List.reverse_reverse]

theorem lastLine_newline {text : String} (h : OneLine text) (before : List Char) :
    lastLine (before ++ '\n' :: text.toList) = text.toList := by
  have turned : ∀ c ∈ text.toList.reverse, (c != '\n') = true := fun c inside =>
    h c (List.mem_reverse.mp inside)
  simp [lastLine, List.rtakeWhile, List.takeWhile_append_of_pos turned]

theorem oneLine_of_isInline {text : String} (h : IsInline text) : OneLine text :=
  oneLine_of_madeOf h (by decide)

def Indented (level : Nat) (before : List Char) : Prop :=
  ∃ c rest, lastLine before = (pad level).toList ++ c :: rest ∧ c ≠ ' '

theorem indentation_of_lastLine {level : Nat} {before rest : List Char}
    (line : lastLine before = (pad level).toList ++ rest) (stop : ∀ c ∈ rest.head?, c ≠ ' ') :
    indentation before = 4 * level := by
  rw [indentation, line, List.takeWhile_append_of_pos (madeOf_pad level)]
  cases rest with
  | nil => simp
  | cons c rest => simp [stop c rfl]

def Anything (_ : List Char) : Prop := True

/-- Read behind a text of which one thing holds, the text closes every block that it opens, on a
line of the same indentation, and another thing holds then. -/
def Carries (P Q : List Char → Prop) (text : String) : Prop :=
  ∀ opened before, P before →
    openBlocks opened before text.toList = some opened ∧ Q (before ++ text.toList)

namespace Carries

variable {P Q R : List Char → Prop} {front back text : String} {level : Nat}

theorem append (hf : Carries P Q front) (hb : Carries Q R back) : Carries P R (front ++ back) := by
  intro opened before holds
  obtain ⟨first, between⟩ := hf opened before holds
  obtain ⟨second, after⟩ := hb opened (before ++ front.toList) between
  rw [String.toList_append, openBlocks_append, first, ← List.append_assoc]
  exact ⟨second, after⟩

theorem weaken (h : Carries P Q text) (weaker : ∀ before, Q before → R before) :
    Carries P R text :=
  fun opened before holds => (h opened before holds).imp_right (weaker _)

theorem nothing : Carries P P "" := by
  intro opened before holds
  exact ⟨rfl, by simpa using holds⟩

theorem inline (h : IsInline text) : Carries (Indented level) (Indented level) text := by
  rintro opened before ⟨c, rest, line, ne⟩
  refine ⟨openBlocks_of_isInline h opened before, c, rest ++ text.toList, ?_, ne⟩
  rw [lastLine_append (oneLine_of_isInline h), line, List.append_assoc, List.cons_append]

theorem newline (h : IsInline text) (first : ∃ c rest, text.toList = c :: rest ∧ c ≠ ' ') :
    Carries Anything (Indented level) (newline level ++ text) := by
  intro opened before _
  have line : IsInline (pad level ++ text) := (isInline_pad level).append h
  have broken : (Print.newline level ++ text).toList = '\n' :: (pad level ++ text).toList := by
    simp [Print.newline]
  obtain ⟨c, rest, spelled, ne⟩ := first
  rw [broken]
  refine ⟨?_, c, rest, ?_, ne⟩
  · rw [openBlocks_plain (by decide) (by decide), openBlocks_of_isInline line]
  · rw [lastLine_newline (oneLine_of_isInline line), String.toList_append, spelled]

theorem braces {inner : String} (h : Carries Anything Anything inner) :
    Carries (Indented level) (Indented level)
      ("\x7b" ++ (inner ++ Print.newline level) ++ "\x7d") := by
  rintro opened before ⟨c, rest, line, ne⟩
  have split : ("\x7b" ++ (inner ++ Print.newline level) ++ "\x7d").toList =
      '\x7b' :: (inner.toList ++ '\n' :: ((pad level).toList ++ ['\x7d'])) := by
    simp [Print.newline]
  have last := lastLine_newline (oneLine_pad level) (before ++ '\x7b' :: inner.toList)
  have opens : indentation before = 4 * level := indentation_of_lastLine line (by simpa using ne)
  have closes : indentation (before ++ '\x7b' :: inner.toList ++ '\n' :: (pad level).toList) =
      4 * level := indentation_of_lastLine (last.trans (List.append_nil _).symm) (by simp)
  rw [split]
  constructor
  · rw [openBlocks_opening, opens, openBlocks_append, (h _ _ trivial).1, Option.bind_some,
      openBlocks_plain (by decide) (by decide), openBlocks_append,
      openBlocks_of_isInline (isInline_pad level), Option.bind_some, openBlocks_closing_iff]
    exact ⟨by simpa using closes, rfl⟩
  · have brace : OneLine (pad level ++ "\x7d") := (oneLine_pad level).append (.of_all (by decide))
    have whole := lastLine_newline brace (before ++ '\x7b' :: inner.toList)
    exact ⟨'\x7d', [], by simpa using whole, by decide⟩

end Carries

mutual
theorem carries_call (limit level : Nat) (effect : Effect) :
    ∃ behind, call limit level effect = "." ++ behind ∧
      Carries (Indented level) (Indented level) behind := by
  refine ⟨_, call_eq limit level effect, ?_⟩
  have given : Carries (Indented level) (Indented level) (inside limit level effect) := by
    cases effect with
    | act action => exact .inline (MadeOf.excludes (IsArgument.arguments action) (by decide))
    | within frame effects =>
        have head : IsInline "|e| " := .of_all (by decide)
        have letter : IsInline "|e| e" := .of_all (by decide)
        have dot : Carries (Indented level) (Indented level) ("" ++ ".") :=
          .inline (.of_all (by decide))
        rw [inside, nested_eq]
        split
        · have line := carries_calls limit level "" effects (fun _ indented => indented) dot
          exact (Carries.inline letter).append line
        · exact (Carries.inline head).append (.braces (carries_block limit level effects))
  have name : IsInline effect.method := (madeOf_method effect).excludes (by decide)
  have opened : IsInline "(" := .of_all (by decide)
  have closed : IsInline ")" := .of_all (by decide)
  exact (Carries.inline name).append
    (((Carries.inline opened).append given).append (.inline closed))

theorem carries_block (limit level : Nat) (effects : Script) :
    Carries Anything Anything (block limit level effects) := by
  have letter : Carries Anything (Indented (level + 1)) (newline (level + 1) ++ "e") :=
    .newline (.of_all (by decide)) ⟨'e', [], rfl, by decide⟩
  have dot : Carries Anything (Indented (level + 2)) (newline (level + 2) ++ ".") :=
    .newline (.of_all (by decide)) ⟨'.', [], rfl, by decide⟩
  have lines := carries_calls limit (level + 2) _ effects (fun _ _ => trivial) dot
  rw [block]
  exact (letter.weaken fun _ _ => trivial).append lines

theorem carries_calls (limit level : Nat) (front : String) (script : Script)
    {P : List Char → Prop} (weaker : ∀ before, Indented level before → P before)
    (dot : Carries P (Indented level) (front ++ ".")) :
    Carries P P (calls limit level front script) := by
  cases script with
  | nil => exact .nothing
  | cons effect effects =>
      obtain ⟨behind, eq, carries⟩ := carries_call limit level effect
      have others := carries_calls limit level front effects weaker dot
      rw [calls, eq, ← String.append_assoc]
      exact ((dot.append carries).weaken weaker).append others
end

theorem aligned_body (limit level : Nat) (cost : List Energy) (script : Script) :
    Aligned (body limit level cost script).toList := by
  have front : Carries Anything Anything (pad level ++ "builder") := fun opened before _ =>
    ⟨openBlocks_of_isInline ((isInline_pad level).append (.of_all (by decide))) opened before,
      trivial⟩
  have method : Carries Anything (Indented (level + 1)) (newline (level + 1) ++ ".attack_cost") :=
    .newline (.of_all (by decide)) ⟨'.', "attack_cost".toList, by decide, by decide⟩
  have list : IsInline (typeList cost) := MadeOf.excludes (IsArgument.typeList cost) (by decide)
  have costs :
      Carries (Indented (level + 1)) (Indented (level + 1)) ("(" ++ typeList cost ++ ")") :=
    .inline (((MadeOf.of_all (by decide)).append list).append (.of_all (by decide)))
  have dot : Carries Anything (Indented (level + 1)) (newline (level + 1) ++ ".") :=
    .newline (.of_all (by decide)) ⟨'.', [], rfl, by decide⟩
  have lines := carries_calls limit (level + 1) _ script (fun _ _ => trivial) dot
  have whole := ((front.append (method.append costs)).weaken fun _ _ => trivial).append lines
  rw [← body_eq] at whole
  exact aligned_of_openBlocks (whole [] [] trivial).1

/-- The limit on inline calls and the level are a matter of layout alone, and every layout nests. -/
theorem body_layout (cost : List Energy) (script : Script) :
    (∀ limit limit' level level', dense (body limit level cost script) =
        dense (body limit' level' cost script)) ∧
      ∀ limit level, Balanced (body limit level cost script).toList ∧
        Aligned (body limit level cost script).toList := by
  constructor
  · intro limit limit' level level'
    rw [dense_eq_filter_bare, dense_eq_filter_bare, bare_body, bare_body]
  · intro limit level
    exact ⟨balanced_body limit level cost script, aligned_body limit level cost script⟩

/-- A single effect stands on the line of its frame, or in a block of its own. -/
example :
    body 1 0 [] [.within .heads [.act .healAll]] =
      "builder\n    .attack_cost(&[])\n    .if_heads(|e| e.heal_all_attacking())" ∧
    body 0 0 [] [.within .heads [.act .healAll]] =
      "builder\n    .attack_cost(&[])\n    .if_heads(|e| \x7b\n        e\n" ++
        "            .heal_all_attacking()\n    \x7d)" := by
  decide

end CardText.Print
