import CardText.Proofs.Text.Alphabet
import CardText.Script.Print

/-! A printed script without its layout. White space and the braces of blocks depend on the
length of a line; what is left does not, and falls apart into marks: each call opens with a dot
in front of its name and closes with a parenthesis. -/
namespace CardText.Print

def isLayout (c : Char) : Bool := c == ' ' || c == '\n' || c == '\x7b' || c == '\x7d'

def bare (text : String) : List Char := text.toList.filter fun c => !isLayout c

/-- A dot or a closing parenthesis, with the text up to the next of them. -/
structure Mark where
  sign : Char
  text : List Char
  deriving DecidableEq, Repr

def isSign (c : Char) : Bool := c == '.' || c == ')'

def marks : List Char → List Char × List Mark
  | [] => ([], [])
  | c :: rest =>
      let (text, others) := marks rest
      if isSign c then ([], ⟨c, text⟩ :: others) else (c :: text, others)

namespace Mark

def spelled (mark : Mark) : List Char := mark.sign :: mark.text

def opening (method : String) (written : List Char) : Mark := ⟨'.', method.toList ++ '(' :: written⟩

def closing : Mark := ⟨')', []⟩

def Proper (mark : Mark) : Prop := isSign mark.sign = true ∧ ∀ c ∈ mark.text, isSign c = false

end Mark

def closure : List Char := ['|', 'e', '|', 'e']

mutual
def effectMarks : Effect → List Mark
  | .act action => [.opening action.method (bare (arguments action)), .closing]
  | .within frame effects => .opening frame.method closure :: scriptMarks effects ++ [.closing]

def scriptMarks : Script → List Mark
  | [] => []
  | effect :: effects => effectMarks effect ++ scriptMarks effects
end

@[simp] theorem bare_append (front back : String) :
    bare (front ++ back) = bare front ++ bare back := by
  simp [bare]

theorem bare_eq_self {text : String} (h : ∀ c ∈ text.toList, isLayout c = false) :
    bare text = text.toList := by
  simpa [bare, List.filter_eq_self] using h

@[simp] theorem toList_pad (level : Nat) : (pad level).toList = List.replicate (4 * level) ' ' := by
  have blanks : ∀ n, ("".pushn ' ' n).toList = List.replicate n ' ' := by
    intro n
    induction n with
    | zero => rfl
    | succ n ih =>
        rw [String.pushn, Nat.repeat, ← String.pushn, String.toList_push, ih, List.replicate_succ']
  rw [pad, blanks]

@[simp] theorem bare_pad (level : Nat) : bare (pad level) = [] := by
  simp [bare, isLayout]

@[simp] theorem bare_newline (level : Nat) : bare (newline level) = [] := by
  rw [newline, bare_append, bare_pad]
  rfl

def isMethodChar (c : Char) : Bool := c.isLower || c == '_'

theorem all_isMethodChar_method (effect : Effect) :
    effect.method.toList.all isMethodChar = true := by
  -- The literals are opened by rewriting; the kernel would decode them byte by byte.
  cases effect with
  | act action =>
      rw [Effect.method, Action.method.eq_def]
      split
      case h_2 status =>
          rw [Status.verb.eq_def]
          split
          all_goals
            rw [String.toList_ofList]
            decide
      all_goals
        rw [String.toList_ofList]
        decide
  | within frame effects =>
      rw [Effect.method, Frame.method.eq_def]
      split
      all_goals
        rw [String.toList_ofList]
        decide

theorem ne_of_mem_method {effect : Effect} {c d : Char} (h : c ∈ effect.method.toList)
    (other : isMethodChar d = false) : c ≠ d := by
  rintro rfl
  have own := List.all_eq_true.mp (all_isMethodChar_method effect) c h
  exact Bool.noConfusion (other.symm.trans own)

def isNameChar (c : Char) : Bool := !(isLayout c || isSign c || c == '(')

theorem all_isNameChar_method (effect : Effect) : effect.method.toList.all isNameChar = true := by
  refine List.all_eq_true.mpr fun c inside => ?_
  have ne : ∀ d, isMethodChar d = false → c ≠ d := fun d other => ne_of_mem_method inside other
  simp [isNameChar, isLayout, isSign, ne ' ' rfl, ne '\n' rfl, ne '\x7b' rfl, ne '\x7d' rfl,
    ne '.' rfl, ne ')' rfl, ne '(' rfl]

theorem plain_of_mem_method (effect : Effect) {c : Char} (h : c ∈ effect.method.toList) :
    isLayout c = false ∧ isSign c = false ∧ c ≠ '(' := by
  have name := List.all_eq_true.mp (all_isNameChar_method effect) c h
  simpa [isNameChar, and_assoc] using name

@[simp] theorem bare_method (effect : Effect) : bare effect.method = effect.method.toList :=
  bare_eq_self fun _ inside => (plain_of_mem_method effect inside).1

def isArgumentChar (c : Char) : Bool := c.isAlphanum || [' ', ',', ':', '&', '[', ']'].contains c

abbrev IsArgument (text : String) : Prop := Text.MadeOf isArgumentChar text

namespace IsArgument

theorem literal {text : String} (h : text.toList.all isArgumentChar = true) : IsArgument text :=
  .of_all h

theorem amount (n : Nat) : IsArgument (toString n) :=
  Text.MadeOf.amount (fun c digit => by simp [isArgumentChar, Char.isAlphanum, digit]) n

theorem pair (m n : Nat) : IsArgument (toString m ++ ", " ++ toString n) :=
  ((amount m).append (literal (by decide))).append (amount n)

theorem typeName (choice : EnergyChoice) : IsArgument (typeName choice.name) := by
  cases choice with
  | any => exact literal (by decide)
  | only energy => cases energy <;> exact literal (by decide)

theorem bracketed {items : List String} (h : ∀ item ∈ items, IsArgument item) :
    IsArgument (bracketed items) := by
  have list : IsArgument (", ".intercalate items) := .intercalate (literal (by decide)) h
  exact ((literal (by decide)).append list).append (literal (by decide))

theorem typeList (energies : List Energy) : IsArgument (typeList energies) := by
  apply bracketed
  intro item inside
  obtain ⟨energy, -, rfl⟩ := List.mem_map.mp inside
  exact typeName (.only energy)

theorem arguments (action : Action) : IsArgument (arguments action) := by
  have comma : IsArgument ", " := literal (by decide)
  rw [arguments.eq_def]
  split
  case h_7 | h_17 => exact literal (by decide)
  case h_10 | h_12 => exact pair _ _
  case h_11 base n energy cap =>
      have type : IsArgument (Print.typeName energy.name) := typeName (.only energy)
      exact ((((pair base n).append comma).append type).append comma).append (amount cap)
  case h_13 side choice count =>
      apply bracketed
      intro item inside
      rw [List.eq_of_mem_replicate inside]
      exact typeName choice
  case h_15 | h_16 => exact typeList _
  all_goals exact amount _

end IsArgument

theorem isSign_of_mem_bare {text : String} (h : IsArgument text) :
    ∀ c ∈ bare text, isSign c = false := by
  intro c inside
  have kept : c ∈ text.toList := (List.mem_filter.mp inside).1
  have dot : c ≠ '.' := h.ne_of_mem kept (by decide)
  have closed : c ≠ ')' := h.ne_of_mem kept (by decide)
  simp [isSign, dot, closed]

namespace Mark

theorem proper_opening {method : String} {written : List Char}
    (hm : ∀ c ∈ method.toList, isSign c = false) (hw : ∀ c ∈ written, isSign c = false) :
    (opening method written).Proper := by
  constructor
  · rfl
  · intro c inside
    rw [opening, List.mem_append, List.mem_cons] at inside
    rcases inside with inside | rfl | inside
    · exact hm c inside
    · decide
    · exact hw c inside

theorem proper_effect (effect : Effect) {written : List Char}
    (h : ∀ c ∈ written, isSign c = false) : (opening effect.method written).Proper :=
  proper_opening (fun _ inside => (plain_of_mem_method effect inside).2.1) h

theorem proper_closing : closing.Proper := ⟨rfl, by simp [closing]⟩

end Mark

mutual
theorem proper_effectMarks (effect : Effect) : ∀ mark ∈ effectMarks effect, mark.Proper := by
  cases effect with
  | act action =>
      have opened :=
        Mark.proper_effect (.act action) (isSign_of_mem_bare (IsArgument.arguments action))
      rw [Effect.method] at opened
      simpa [effectMarks, Mark.proper_closing] using opened
  | within frame effects =>
      have opened : (Mark.opening frame.method closure).Proper :=
        Mark.proper_effect (.within frame effects) (by simp [closure, isSign])
      have inner := proper_scriptMarks effects
      intro mark inside
      simp only [effectMarks, List.cons_append, List.mem_cons, List.mem_append,
        List.not_mem_nil, or_false] at inside
      rcases inside with rfl | inside | rfl
      · exact opened
      · exact inner mark inside
      · exact Mark.proper_closing

theorem proper_scriptMarks (script : Script) : ∀ mark ∈ scriptMarks script, mark.Proper := by
  cases script with
  | nil => simp [scriptMarks]
  | cons effect effects =>
      have first := proper_effectMarks effect
      have others := proper_scriptMarks effects
      intro mark inside
      rw [scriptMarks, List.mem_append] at inside
      exact inside.elim (first mark) (others mark)
end

mutual
/-- The limit on inline calls and the level of indentation are gone from the bare text. -/
@[simp] theorem bare_call (limit level : Nat) (effect : Effect) :
    bare (call limit level effect) = (effectMarks effect).flatMap Mark.spelled := by
  have dot : bare "." = ['.'] := by decide
  have opened : bare "(" = ['('] := by decide
  have closed : bare ")" = [')'] := by decide
  have name := bare_method effect
  cases effect with
  | act action =>
      rw [Effect.method] at name
      simp [call, effectMarks, Mark.spelled, Mark.opening, Mark.closing, dot, opened, closed, name]
  | within frame effects =>
      rw [Effect.method] at name
      have brace : bare "\x7d" = [] := by decide
      by_cases fits : fitsLine limit effects = true
      · have head : bare "|e| e" = closure := by decide
        have inner := bare_calls limit level "" effects rfl
        simp [call, effectMarks, Mark.spelled, Mark.opening, Mark.closing, dot, opened, closed,
          name, fits, head, inner]
      · have head : bare "|e| \x7b" = ['|', 'e', '|'] := by decide
        have letter : bare "e" = ['e'] := by decide
        have inner := bare_calls limit (level + 2) (newline (level + 2)) effects (bare_newline _)
        simp [call, effectMarks, Mark.spelled, Mark.opening, Mark.closing, dot, opened, closed,
          name, fits, closure, head, letter, inner, brace]

theorem bare_calls (limit level : Nat) (front : String) (script : Script) (h : bare front = []) :
    bare (calls limit level front script) = (scriptMarks script).flatMap Mark.spelled := by
  cases script with
  | nil => rfl
  | cons effect effects =>
      have first := bare_call limit level effect
      have others := bare_calls limit level front effects h
      simp [calls, scriptMarks, h, first, others]
end

theorem marks_append {text : List Char} (h : ∀ c ∈ text, isSign c = false) (rest : List Char) :
    marks (text ++ rest) = (text ++ (marks rest).1, (marks rest).2) := by
  induction text with
  | nil => rfl
  | cons c text ih =>
      have plain := h c (by simp)
      have others := ih fun d inside => h d (by simp [inside])
      simp [marks, others, plain]

theorem marks_flatMap_spelled {list : List Mark} (h : ∀ mark ∈ list, mark.Proper) :
    marks (list.flatMap Mark.spelled) = ([], list) := by
  induction list with
  | nil => rfl
  | cons mark list ih =>
      have others := ih fun other inside => h other (by simp [inside])
      have proper := h mark (by simp)
      simp [Mark.spelled, marks, marks_append proper.2, others, proper.1]

def bodyMarks (cost : List Energy) (script : Script) : List Mark :=
  .opening "attack_cost" (bare (typeList cost)) :: .closing :: scriptMarks script

@[simp] theorem bare_body (limit level : Nat) (cost : List Energy) (script : Script) :
    bare (body limit level cost script) =
      "builder".toList ++ (bodyMarks cost script).flatMap Mark.spelled := by
  have front : bare "builder" = "builder".toList := by decide
  have opened : bare ".attack_cost(" = ".attack_cost(".toList := by decide
  have closed : bare ")" = [')'] := by decide
  have calls := bare_calls limit (level + 1) (newline (level + 1)) script (bare_newline _)
  simp [body, bodyMarks, Mark.spelled, Mark.opening, Mark.closing, front, opened, closed, calls]

theorem marks_body (limit level : Nat) (cost : List Energy) (script : Script) :
    marks (bare (body limit level cost script)) = ("builder".toList, bodyMarks cost script) := by
  have proper : ∀ mark ∈ bodyMarks cost script, mark.Proper := by
    intro mark inside
    rw [bodyMarks, List.mem_cons, List.mem_cons] at inside
    rcases inside with rfl | rfl | inside
    · exact Mark.proper_opening (by simp [isSign]) (isSign_of_mem_bare (IsArgument.typeList cost))
    · exact Mark.proper_closing
    · exact proper_scriptMarks script mark inside
  rw [bare_body, marks_append (by simp [isSign]), marks_flatMap_spelled proper, List.append_nil]

end CardText.Print
