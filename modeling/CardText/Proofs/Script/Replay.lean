import CardText.Proofs.Script.Arguments

/-! A printed script replayed. The reader keeps the calls that are still open: a dot opens a
call, a parenthesis closes the innermost one, and what that call adds to a script goes to the
call around it. -/
namespace CardText.Print

def call? (text : List Char) : Option Call :=
  let method := String.ofList (text.takeWhile (· != '('))
  match text.dropWhile (· != '(') with
  | [] => none
  | _ :: written => (arguments? method written).map fun arguments => ⟨method, arguments, []⟩

/-- One mark read, with the open calls from the innermost outwards. -/
def replayMark : List Call → Mark → Option (List Call)
  | stack, ⟨'.', text⟩ => (call? text).map (· :: stack)
  | inner :: outer :: stack, ⟨')', []⟩ =>
      inner.effects?.map fun added => { outer with nested := outer.nested ++ added } :: stack
  | _, _ => none

def builder : Call := ⟨"builder", [], []⟩

def script? (marks : List Mark) : Option Script :=
  match marks.foldlM replayMark [builder] with
  | some [whole] => some whole.nested
  | _ => none

def cost? (text : List Char) : Option (List Energy) :=
  match call? text with
  | some ⟨"attack_cost", [.energies cost], _⟩ => some cost
  | _ => none

def body? (text : String) : Option (List Energy × Script) :=
  match marks (bare text) with
  | (front, ⟨'.', opening⟩ :: ⟨')', []⟩ :: rest) =>
      if front = "builder".toList then
        (cost? opening).bind fun cost => (script? rest).map fun script => (cost, script)
      else none
  | _ => none

theorem call?_opening {method : String} {written : List Char} {given : List Argument}
    (name : ∀ c ∈ method.toList, c ≠ '(') (read : arguments? method written = some given) :
    call? (method.toList ++ '(' :: written) = some ⟨method, given, []⟩ := by
  have before : (method.toList ++ '(' :: written).takeWhile (· != '(') = method.toList := by
    rw [List.takeWhile_append_of_pos (by simpa using name)]
    simp
  have after : (method.toList ++ '(' :: written).dropWhile (· != '(') = '(' :: written := by
    rw [List.dropWhile_append_of_pos (by simpa using name)]
    simp
  simp [call?, before, after, read]

def Replayable (action : Action) : Prop :=
  action.IsStandard ∧ ∀ side choice, action ≠ .discardEnergy side choice 0

mutual
theorem foldlM_effectMarks (effect : Effect) (outer : Call) (stack : List Call)
    (h : ∀ action, .act action ∈ Effect.walk effect → Replayable action) :
    (effectMarks effect).foldlM replayMark (outer :: stack) =
      some ({ outer with nested := outer.nested ++ [effect] } :: stack) := by
  have name := fun c (inside : c ∈ effect.method.toList) => (plain_of_mem_method effect inside).2.2
  cases effect with
  | act action =>
      have replayable := h action (by simp [Effect.walk])
      have read := call?_opening name (arguments?_arguments action replayable.2)
      have performed := Action.effects?_given replayable.1 []
      rw [Effect.method] at read
      simp [effectMarks, Mark.opening, Mark.closing, replayMark, read, performed]
  | within frame effects =>
      have read := call?_opening name (arguments?_closure frame.method)
      have performed := Frame.effects?_nested frame effects
      have inner := foldlM_scriptMarks effects ⟨frame.method, [], []⟩ (outer :: stack)
        fun action inside => h action (by simp [Effect.walk, inside])
      rw [Effect.method] at read
      simp [effectMarks, Mark.opening, Mark.closing, replayMark, read, performed, inner]

theorem foldlM_scriptMarks (script : Script) (outer : Call) (stack : List Call)
    (h : ∀ action, .act action ∈ Effect.walkAll script → Replayable action) :
    (scriptMarks script).foldlM replayMark (outer :: stack) =
      some ({ outer with nested := outer.nested ++ script } :: stack) := by
  cases script with
  | nil => simp [scriptMarks]
  | cons effect effects =>
      have first := foldlM_effectMarks effect outer stack fun action inside =>
        h action (by simp [Effect.walkAll, inside])
      have others := foldlM_scriptMarks effects { outer with nested := outer.nested ++ [effect] }
        stack fun action inside => h action (by simp [Effect.walkAll, inside])
      simp [scriptMarks, List.foldlM_append, first, others]
end

theorem cost?_opening (cost : List Energy) :
    cost? ("attack_cost".toList ++ '(' :: bare (typeList cost)) = some cost := by
  have kept : discards "attack_cost" = false := rfl
  have read := call?_opening (by simp) (arguments?_typeList kept cost)
  rw [cost?, read]
  rfl

theorem body?_body (limit level : Nat) (cost : List Energy) {script : Script}
    (h : ∀ action, .act action ∈ Effect.walkAll script → Replayable action) :
    body? (body limit level cost script) = some (cost, script) := by
  have run := foldlM_scriptMarks script builder [] h
  have replayed : script? (scriptMarks script) = some script := by
    rw [script?, run]
    rfl
  simp only [body?, marks_body, bodyMarks, Mark.opening, Mark.closing, cost?_opening, replayed,
    if_true, Option.bind_some, Option.map_some]

theorem replayable_of_built {script : Script} (built : script.Built)
    (discards : script.DiscardsCards) {action : Action}
    (inside : .act action ∈ Effect.walkAll script) : Replayable action := by
  constructor
  · exact built.isStandard inside
  · intro side choice none
    subst none
    exact absurd (discards side choice 0 inside) (by decide)

/-- Print loses nothing of what calls built: a body reads back, and no other body has its text. -/
theorem body_lossless (limit level : Nat) (cost : List Energy) {script : Script}
    (built : script.Built) (discards : script.DiscardsCards) :
    body? (body limit level cost script) = some (cost, script) ∧
      ∀ otherCost : List Energy, ∀ other : Script, other.Built → other.DiscardsCards →
        body limit level cost script = body limit level otherCost other →
          cost = otherCost ∧ script = other := by
  have read := body?_body limit level cost fun _ => replayable_of_built built discards
  constructor
  · exact read
  · intro otherCost other otherBuilt otherDiscards same
    have otherRead :=
      body?_body limit level otherCost fun _ => replayable_of_built otherBuilt otherDiscards
    rw [← same, read] at otherRead
    simpa using otherRead

def sample : Script :=
  [.act (.flip 1), .within .heads [.within .cost [.act (.discardEnergy .attacking .any 2)],
    .act (.counterDamage 0 10 .times .defending)]]

theorem built_sample : sample.Built := by
  have discard := Script.Built.start.act (.discardEnergy .attacking .any 2) trivial
  have inner := (Script.Built.start.within .cost discard).act
    (.counterDamage 0 10 .times .defending) rfl
  exact (Script.Built.start.act (.flip 1) trivial).within .heads inner

theorem body_lossless_nested :
    sample.Built ∧ sample.DiscardsCards ∧
      body? (body 2 2 [.fire, .colorless] sample) = some ([.fire, .colorless], sample) := by
  have discards : sample.DiscardsCards := by
    intro side choice count inside
    have two : side = .attacking ∧ choice = .any ∧ count = 2 := by
      simpa [sample, Effect.walkAll, Effect.walk] using inside
    omega
  exact ⟨built_sample, discards, (body_lossless 2 2 [.fire, .colorless] built_sample discards).1⟩

/-- A discard of no card prints no type, so its type cannot be read back. -/
example :
    body 2 2 [] [.act (.discardEnergy .attacking .any 0)] =
      body 2 2 [] [.act (.discardEnergy .attacking (.only .fire) 0)] := rfl

end CardText.Print
