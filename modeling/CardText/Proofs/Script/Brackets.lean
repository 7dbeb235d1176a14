import CardText.Proofs.Script.Arguments
import CardText.Proofs.Script.Indentation

/-! The brackets of a printed script. Parentheses stand around arguments, square brackets around
lists and braces around blocks, in each layout: brackets close in the reverse order of their
opening. -/
namespace CardText.Print

open Text

inductive Bracket where
  | round | square | curly

namespace Bracket

def opening : Bracket → Char
  | round => '('
  | square => '['
  | curly => '\x7b'

def closing : Bracket → Char
  | round => ')'
  | square => ']'
  | curly => '\x7d'

end Bracket

def brackets : List Char := ['(', ')', '[', ']', '\x7b', '\x7d']

inductive Balanced : List Char → Prop
  | nil : Balanced []
  | plain {c : Char} {rest : List Char} (other : c ∉ brackets) (behind : Balanced rest) :
      Balanced (c :: rest)
  | enclosed (bracket : Bracket) {inner rest : List Char} (within : Balanced inner)
      (behind : Balanced rest) : Balanced (bracket.opening :: (inner ++ bracket.closing :: rest))

theorem Balanced.append {front back : List Char} (hf : Balanced front) (hb : Balanced back) :
    Balanced (front ++ back) := by
  induction hf with
  | nil => exact hb
  | plain other _ ih => exact .plain other ih
  | enclosed bracket within _ _ ih =>
      simpa only [List.cons_append, List.append_assoc] using Balanced.enclosed bracket within ih

theorem Balanced.of_plain {text : List Char} (h : ∀ c ∈ text, c ∉ brackets) : Balanced text := by
  induction text with
  | nil => exact .nil
  | cons c rest ih =>
      obtain ⟨first, others⟩ := List.forall_mem_cons.mp h
      exact .plain first (ih others)

section

variable {front back inner text : String}

theorem balanced_append (hf : Balanced front.toList) (hb : Balanced back.toList) :
    Balanced (front ++ back).toList := by
  rw [String.toList_append]
  exact hf.append hb

theorem balanced_between (bracket : Bracket) (h : Balanced inner.toList) :
    Balanced (String.ofList [bracket.opening] ++ inner ++
      String.ofList [bracket.closing]).toList := by
  rw [String.toList_append, String.toList_append, String.toList_ofList, String.toList_ofList]
  exact .enclosed bracket h .nil

abbrev IsFlat (text : String) : Prop := MadeOf (fun c => !brackets.contains c) text

theorem balanced_of_isFlat (h : IsFlat text) : Balanced text.toList :=
  .of_plain fun c inside => by simpa using h c inside

theorem balanced_literal (h : (text.toList.all fun c => !brackets.contains c) = true) :
    Balanced text.toList :=
  balanced_of_isFlat (.of_all h)

end

theorem madeOf_pad (level : Nat) : MadeOf (· == ' ') (pad level) := by
  intro c inside
  rw [toList_pad] at inside
  simp [List.eq_of_mem_replicate inside]

theorem madeOf_method (effect : Effect) : MadeOf isMethodChar effect.method :=
  .of_all (all_isMethodChar_method effect)

theorem balanced_pad (level : Nat) : Balanced (pad level).toList :=
  balanced_of_isFlat ((madeOf_pad level).excludes (by decide))

theorem balanced_newline (level : Nat) : Balanced (newline level).toList := by
  rw [newline]
  exact balanced_append (balanced_literal (by decide)) (balanced_pad level)

theorem balanced_method (effect : Effect) : Balanced effect.method.toList :=
  balanced_of_isFlat ((madeOf_method effect).excludes (by decide))

namespace IsFlat

theorem amount (n : Nat) : IsFlat (toString n) :=
  MadeOf.excludes (MadeOf.amount (fun _ digit => digit) n) (by decide)

theorem type (choice : EnergyChoice) : IsFlat (typeName choice.name) :=
  MadeOf.excludes (IsField.type choice).2 (by decide)

theorem comma : IsFlat ", " := .of_all (by decide)

end IsFlat

theorem balanced_bracketed {items : List String} (h : ∀ item ∈ items, IsFlat item) :
    Balanced (bracketed items).toList := by
  have front : Balanced "&".toList := balanced_literal (by decide)
  have list := balanced_of_isFlat (MadeOf.intercalate IsFlat.comma h)
  have split : bracketed items = "&" ++ ("[" ++ ", ".intercalate items ++ "]") := by
    have opened : "&[" = "&" ++ "[" := by decide
    simp only [bracketed, opened, String.append_assoc]
  rw [split]
  exact balanced_append front (balanced_between .square list)

theorem balanced_typeList (energies : List Energy) : Balanced (typeList energies).toList := by
  refine balanced_bracketed fun item inside => ?_
  obtain ⟨energy, -, rfl⟩ := List.mem_map.mp inside
  exact IsFlat.type (.only energy)

theorem balanced_arguments (action : Action) : Balanced (arguments action).toList := by
  have pair (m n : Nat) : IsFlat (toString m ++ ", " ++ toString n) :=
    ((IsFlat.amount m).append IsFlat.comma).append (IsFlat.amount n)
  rw [arguments.eq_def]
  split
  case h_7 | h_17 => exact .nil
  case h_10 | h_12 => exact balanced_of_isFlat (pair _ _)
  case h_11 base n energy cap =>
      have type := ((pair base n).append IsFlat.comma).append (IsFlat.type (.only energy))
      exact balanced_of_isFlat ((type.append IsFlat.comma).append (IsFlat.amount cap))
  case h_13 side choice count =>
      refine balanced_bracketed fun item inside => ?_
      rw [List.eq_of_mem_replicate inside]
      exact IsFlat.type choice
  case h_15 | h_16 => exact balanced_typeList _
  all_goals exact balanced_of_isFlat (IsFlat.amount _)

def block (limit level : Nat) (effects : Script) : String :=
  newline (level + 1) ++ "e" ++ calls limit (level + 2) (newline (level + 2)) effects

theorem nested_eq (limit level : Nat) (effects : Script) :
    nested limit level effects =
      if fitsLine limit effects then "|e| e" ++ calls limit level "" effects
      else "|e| " ++ ("\x7b" ++ (block limit level effects ++ newline level) ++ "\x7d") := by
  have head : "|e| \x7b" = "|e| " ++ "\x7b" := by decide
  simp only [nested, block, head, String.append_assoc]

def inside (limit level : Nat) : Effect → String
  | .act action => arguments action
  | .within _ effects => nested limit level effects

theorem call_eq (limit level : Nat) (effect : Effect) :
    call limit level effect =
      "." ++ (effect.method ++ ("(" ++ inside limit level effect ++ ")")) := by
  cases effect <;> simp only [call, inside, nested, Effect.method, String.append_assoc]

theorem body_eq (limit level : Nat) (cost : List Energy) (script : Script) :
    body limit level cost script =
      pad level ++ "builder" ++
        (newline (level + 1) ++ ".attack_cost" ++ ("(" ++ typeList cost ++ ")")) ++
        calls limit (level + 1) (newline (level + 1)) script := by
  have opened : ".attack_cost(" = ".attack_cost" ++ "(" := by decide
  simp only [body, opened, String.append_assoc]

mutual
theorem balanced_call (limit level : Nat) (effect : Effect) :
    Balanced (call limit level effect).toList := by
  have given : Balanced (inside limit level effect).toList := by
    cases effect with
    | act action => exact balanced_arguments action
    | within frame effects =>
        have head : Balanced "|e| ".toList := balanced_literal (by decide)
        have letter : Balanced "|e| e".toList := balanced_literal (by decide)
        rw [inside, nested_eq]
        split
        · exact balanced_append letter (balanced_calls limit level "" effects .nil)
        · have lines :=
            balanced_append (balanced_block limit level effects) (balanced_newline level)
          exact balanced_append head (balanced_between .curly lines)
  have dot : Balanced ".".toList := balanced_literal (by decide)
  have name := balanced_method effect
  rw [call_eq]
  exact balanced_append dot (balanced_append name (balanced_between .round given))

theorem balanced_block (limit level : Nat) (effects : Script) :
    Balanced (block limit level effects).toList := by
  have letter : Balanced "e".toList := balanced_literal (by decide)
  have lines := balanced_calls limit (level + 2) _ effects (balanced_newline (level + 2))
  rw [block]
  exact balanced_append (balanced_append (balanced_newline (level + 1)) letter) lines

theorem balanced_calls (limit level : Nat) (front : String) (script : Script)
    (h : Balanced front.toList) : Balanced (calls limit level front script).toList := by
  cases script with
  | nil => exact .nil
  | cons effect effects =>
      have first := balanced_call limit level effect
      have others := balanced_calls limit level front effects h
      rw [calls]
      exact balanced_append (balanced_append h first) others
end

theorem balanced_body (limit level : Nat) (cost : List Energy) (script : Script) :
    Balanced (body limit level cost script).toList := by
  have builder : Balanced "builder".toList := balanced_literal (by decide)
  have name : Balanced ".attack_cost".toList := balanced_literal (by decide)
  have front := balanced_append (balanced_pad level) builder
  have method := balanced_append (balanced_newline (level + 1)) name
  have costs := balanced_append method (balanced_between .round (balanced_typeList cost))
  have lines := balanced_calls limit (level + 1) _ script (balanced_newline (level + 1))
  rw [body_eq]
  exact balanced_append (balanced_append front costs) lines

end CardText.Print
