import CardText.Proofs.Script.Layout
import CardText.Proofs.Script.Calls

/-! The arguments of a call, from the action to the printed text and back. -/
namespace CardText

namespace Print

def amount? (text : List Char) : Option Nat :=
  if text.isEmpty || !text.all Char.isDigit then none else some (Text.decimalValue text)

def choice? (text : List Char) : Option EnergyChoice :=
  (.any :: Energy.all.map .only).find? fun choice => (typeName choice.name).toList == text

def argument? (text : List Char) : Option Argument :=
  match choice? text with
  | some choice => some (.energy choice)
  | none => (amount? text).map .amount

/-- The stretches between commas; a text without letters has none. -/
def fields (text : List Char) : List (List Char) :=
  if text.isEmpty then [] else text.splitOn ','

def choices? : List Char → Option (List EnergyChoice)
  | '&' :: '[' :: rest =>
      if rest.getLast? = some ']' then (fields rest.dropLast).mapM choice? else none
  | _ => none

def discards (method : String) : Bool :=
  method == "discard_attacking_energy_cards" || method == "discard_defending_energy_cards"

/-- A discard names its type once for each card. -/
def copies? : List EnergyChoice → Option (List Argument)
  | [] => none
  | choice :: others =>
      if others.all (· == choice) then some [.energy choice, .amount (others.length + 1)] else none

def energy? : EnergyChoice → Option Energy
  | .any => none
  | .only energy => some energy

def arguments? (method : String) (text : List Char) : Option (List Argument) :=
  if text = closure then some []
  else match choices? text with
    | none => (fields text).mapM argument?
    | some choices =>
        if discards method then copies? choices
        else (choices.mapM energy?).map fun list => [.energies list]

theorem mapM_map_eq_some {α β : Type} {f : α → β} {g : β → Option α} (list : List α)
    (h : ∀ x ∈ list, g (f x) = some x) : (list.map f).mapM g = some list := by
  induction list with
  | nil => rfl
  | cons x list ih =>
      have others := ih fun y inside => h y (by simp [inside])
      simp [h x (by simp), others]

def isFieldChar (c : Char) : Bool := c.isAlphanum || c == ':'

def IsField (text : String) : Prop := text.toList ≠ [] ∧ Text.MadeOf isFieldChar text

namespace IsField

theorem amount (n : Nat) : IsField (toString n) := by
  constructor
  · rw [Nat.toString_eq_repr, Nat.toList_repr]
    exact Nat.toDigits_ne_nil
  · exact .amount (fun c digit => by simp [isFieldChar, Char.isAlphanum, digit]) n

theorem type (choice : EnergyChoice) : IsField (typeName choice.name) := by
  cases choice with
  | any => exact ⟨by decide, .of_all (by decide)⟩
  | only energy => cases energy <;> exact ⟨by decide, .of_all (by decide)⟩

theorem bare {text : String} (h : IsField text) : bare text = text.toList := by
  apply bare_eq_self
  intro c inside
  have blank : c ≠ ' ' := h.2.ne_of_mem inside (by decide)
  have newline : c ≠ '\n' := h.2.ne_of_mem inside (by decide)
  have left : c ≠ '\x7b' := h.2.ne_of_mem inside (by decide)
  have right : c ≠ '\x7d' := h.2.ne_of_mem inside (by decide)
  simp [isLayout, blank, newline, left, right]

end IsField

@[simp] theorem bare_intercalate (separator : String) (items : List String) :
    bare (separator.intercalate items) = (bare separator).intercalate (items.map bare) := by
  induction items with
  | nil => rfl
  | cons item items ih =>
      cases items with
      | nil => simp
      | cons next items =>
          simp [String.intercalate_cons_cons, List.intercalate_cons_cons, ih]

theorem fields_bare {items : List String} (h : ∀ item ∈ items, IsField item) :
    fields (bare (", ".intercalate items)) = items.map String.toList := by
  have comma : bare ", " = [','] := by decide
  have plain : items.map bare = items.map String.toList :=
    List.map_congr_left fun item inside => (h item inside).bare
  rw [bare_intercalate, comma, plain]
  cases items with
  | nil => rfl
  | cons item items =>
      have joined : [','].intercalate ((item :: items).map String.toList) ≠ [] := by
        intro empty
        apply (h item (by simp)).1
        cases items with
        | nil => simpa using empty
        | cons next items => simp [List.intercalate_cons_cons] at empty
      have apart : ∀ text ∈ (item :: items).map String.toList, ',' ∉ text := by
        intro text found inside
        obtain ⟨field, listed, rfl⟩ := List.mem_map.mp found
        exact (h field listed).2.ne_of_mem inside (by decide) rfl
      rw [fields, if_neg (by simpa using joined)]
      exact List.splitOn_intercalate ',' apart (by simp)

theorem head_bare {item : String} (h : IsField item) (items : List String) :
    ∃ c rest, bare (", ".intercalate (item :: items)) = c :: rest ∧ c ≠ '&' ∧ c ≠ '|' := by
  obtain ⟨c, rest, spelled⟩ := List.exists_cons_of_ne_nil h.1
  have inside : c ∈ item.toList := by simp [spelled]
  have split : ∃ others, bare (", ".intercalate (item :: items)) = item.toList ++ others := by
    cases items with
    | nil => exact ⟨[], by simp [h.bare]⟩
    | cons next items =>
        rw [String.intercalate_cons_cons, bare_append, bare_append, h.bare, List.append_assoc]
        exact ⟨_, rfl⟩
  obtain ⟨others, eq⟩ := split
  refine ⟨c, rest ++ others, ?_, h.2.ne_of_mem inside (by decide), h.2.ne_of_mem inside (by decide)⟩
  rw [eq, spelled, List.cons_append]

theorem isDigit_of_mem_toDigits {n : Nat} {c : Char} (h : c ∈ Nat.toDigits 10 n) :
    c.isDigit = true :=
  Nat.isDigit_of_mem_toDigits (by decide) (by decide) h

theorem amount?_toDigits (n : Nat) : amount? (Nat.toDigits 10 n) = some n := by
  have digits : (Nat.toDigits 10 n).all Char.isDigit = true :=
    List.all_eq_true.mpr fun _ inside => isDigit_of_mem_toDigits inside
  have value : Text.decimalValue (Nat.toDigits 10 n) = n := Nat.ofDigitChars_ten_toDigits
  simp [amount?, digits, value]

theorem choice?_typeName (choice : EnergyChoice) :
    choice? (typeName choice.name).toList = some choice := by
  cases choice with
  | any => decide
  | only energy => cases energy <;> decide

theorem choice?_toDigits (n : Nat) : choice? (Nat.toDigits 10 n) = none := by
  rw [choice?, List.find?_eq_none]
  intro choice listed equal
  have named : 'T' ∈ (typeName choice.name).toList := by simp [typeName]
  rw [beq_iff_eq.mp equal] at named
  exact absurd (isDigit_of_mem_toDigits named) (by decide)

def IsSingle : Argument → Prop
  | .amount _ | .energy _ => True
  | _ => False

def argument : Argument → String
  | .amount n => toString n
  | .energy choice => typeName choice.name
  | _ => ""

theorem isField_argument {given : Argument} (h : IsSingle given) : IsField (argument given) := by
  cases given with
  | amount n => exact .amount n
  | energy choice => exact .type choice
  | absent => exact h.elim
  | status _ => exact h.elim
  | energies _ => exact h.elim

theorem argument?_argument {given : Argument} (h : IsSingle given) :
    argument? (argument given).toList = some given := by
  cases given with
  | amount n => simp [argument, argument?, choice?_toDigits, amount?_toDigits]
  | energy choice => simp only [argument, argument?, choice?_typeName]
  | absent => exact h.elim
  | status _ => exact h.elim
  | energies _ => exact h.elim

theorem arguments?_singles (method : String) (given : List Argument)
    (h : ∀ argument ∈ given, IsSingle argument) :
    arguments? method (bare (", ".intercalate (given.map argument))) = some given := by
  have read : (fields (bare (", ".intercalate (given.map argument)))).mapM argument? =
      some given := by
    rw [fields_bare, List.map_map]
    · exact mapM_map_eq_some given fun single listed => argument?_argument (h single listed)
    · intro item listed
      obtain ⟨single, inside, rfl⟩ := List.mem_map.mp listed
      exact isField_argument (h single inside)
  cases given with
  | nil => rfl
  | cons first others =>
      obtain ⟨c, rest, spelled, bracket, bar⟩ :=
        head_bare (isField_argument (h first (by simp))) (others.map argument)
      rw [List.map_cons, spelled] at read ⊢
      have opened : (c :: rest : List Char) ≠ closure := by simp [closure, bar]
      have unlisted : choices? (c :: rest) = none := by simp [choices?, bracket]
      rw [arguments?, if_neg opened, unlisted]
      exact read

theorem arguments?_closure (method : String) : arguments? method closure = some [] := by
  simp [arguments?]

@[simp] theorem bare_bracketed (items : List String) :
    bare (bracketed items) = '&' :: '[' :: (bare (", ".intercalate items) ++ [']']) := by
  have opened : bare "&[" = ['&', '['] := by decide
  have closed : bare "]" = [']'] := by decide
  simp [bracketed, opened, closed]

theorem choices?_bracketed (choices : List EnergyChoice) :
    choices? (bare (bracketed (choices.map fun choice => typeName choice.name))) =
      some choices := by
  have separate : ∀ item ∈ choices.map fun choice => typeName choice.name, IsField item := by
    intro item listed
    obtain ⟨choice, -, rfl⟩ := List.mem_map.mp listed
    exact .type choice
  have read := mapM_map_eq_some choices fun choice _ => choice?_typeName choice
  rw [bare_bracketed]
  simp only [choices?, List.getLast?_concat, List.dropLast_concat, fields_bare separate,
    List.map_map, if_true]
  exact read

theorem arguments?_bracketed (method : String) (choices : List EnergyChoice) :
    arguments? method (bare (bracketed (choices.map fun choice => typeName choice.name))) =
      if discards method then copies? choices
      else (choices.mapM energy?).map fun list => [.energies list] := by
  have list := choices?_bracketed choices
  have other : bare (bracketed (choices.map fun choice => typeName choice.name)) ≠ closure := by
    rw [bare_bracketed]
    simp [closure]
  rw [arguments?, if_neg other, list]

theorem arguments?_typeList {method : String} (h : discards method = false) (list : List Energy) :
    arguments? method (bare (typeList list)) = some [.energies list] := by
  have types : (list.map EnergyChoice.only).mapM energy? = some list :=
    mapM_map_eq_some list fun _ _ => rfl
  have read := arguments?_bracketed method (list.map .only)
  rw [List.map_map, if_neg (by simp [h]), types] at read
  exact read

theorem arguments?_replicate {method : String} (h : discards method = true)
    (choice : EnergyChoice) (count : Nat) :
    arguments? method (bare (bracketed (List.replicate (count + 1) (typeName choice.name)))) =
      some [.energy choice, .amount (count + 1)] := by
  have read := arguments?_bracketed method (List.replicate (count + 1) choice)
  rw [List.map_replicate] at read
  simpa [h, copies?, List.replicate_succ] using read

theorem arguments?_arguments (action : Action)
    (h : ∀ side choice, action ≠ .discardEnergy side choice 0) :
    arguments? action.method (bare (arguments action)) = some action.given := by
  have nothing := arguments?_singles action.method [] (by simp)
  have one : ∀ n, arguments? action.method (bare (toString n)) = some [.amount n] := fun n =>
    arguments?_singles action.method [.amount n] (by simp [IsSingle])
  have two : ∀ m n, arguments? action.method (bare (toString m ++ ", " ++ toString n)) =
      some [.amount m, .amount n] := fun m n =>
    arguments?_singles action.method [.amount m, .amount n] (by simp [IsSingle])
  cases action with
  | damage n | severePoison n | selfDamage n | damagePerHeads n | heal n | draw n => exact one n
  | flip coins =>
      by_cases single : coins = 1
      · subst single
        exact nothing
      · simpa [arguments, Action.given, single] using one coins
  | counterDamage base n scaling on =>
      cases scaling with
      | times => exact one n
      | plus | minus => exact two base n
  | defendingEnergyDamage base n => exact two base n
  | extraEnergyDamage base n energy cap =>
      exact arguments?_singles _ [.amount base, .amount n, .energy (.only energy), .amount cap]
        (by simp [IsSingle])
  | discardEnergy side choice count =>
      cases count with
      | zero => exact absurd rfl (h side choice)
      | succ count => cases side <;> exact arguments?_replicate rfl choice count
  | protect protection =>
      cases protection with
      | upTo n => exact one n
      | fromDamage | fromDamageAndEffects | coinFlip => exact nothing
  | changeOwnResistance list => exact arguments?_typeList rfl list
  | changeDefendingWeakness list => exact arguments?_typeList rfl list
  | _ => exact nothing

end Print
end CardText
