import CardText.Proofs.Script.Indentation

/-! The methods that a printed script calls. They stand behind the dots of its text, whatever
its layout, and come in the order in which the effects are walked: that of the cost first, then
that of each effect in front of those that it holds. -/
namespace CardText.Print

open Text

def called : List Char → List String
  | [] => []
  | c :: rest =>
      if c = '.' then String.ofList (rest.takeWhile isNameChar) :: called rest else called rest

theorem called_append_of_plain {text : List Char} (h : ∀ c ∈ text, c ≠ '.') (rest : List Char) :
    called (text ++ rest) = called rest := by
  induction text with
  | nil => rfl
  | cons c text ih =>
      obtain ⟨first, others⟩ := List.forall_mem_cons.mp h
      simp [called, first, ih others]

@[simp] theorem called_append_newline (line rest : List Char) :
    called (line ++ '\n' :: rest) = called line ++ called rest := by
  have cut : ∀ name : List Char,
      (name ++ '\n' :: rest).takeWhile isNameChar = name.takeWhile isNameChar := by
    intro name
    induction name with
    | nil => simp [isNameChar, isLayout]
    | cons c name ih => by_cases kept : isNameChar c = true <;> simp [kept, ih]
  induction line with
  | nil => simp [called]
  | cons c line ih =>
      by_cases dot : c = '.'
      · simp [called, dot, cut, ih]
      · simp [called, dot, ih]

theorem called_splitOn (text : List Char) : (text.splitOn '\n').flatMap called = called text := by
  have joined : ∀ lines : List (List Char),
      called (['\n'].intercalate lines) = lines.flatMap called := by
    intro lines
    induction lines with
    | nil => rfl
    | cons line lines ih =>
        cases lines with
        | nil => simp
        | cons next lines =>
            rw [List.intercalate_cons_cons, List.append_assoc, List.singleton_append,
              called_append_newline, ih]
            rfl
  rw [← joined, List.intercalate_splitOn]

def Says (text : String) (methods : List String) : Prop :=
  ∀ rest, called (text.toList ++ rest) = methods ++ called rest

namespace Says

variable {front back : String} {first second : List String}

theorem called_eq (h : Says front first) : called front.toList = first := by
  simpa [called] using h []

theorem append (hf : Says front first) (hb : Says back second) :
    Says (front ++ back) (first ++ second) := by
  intro rest
  rw [String.toList_append, List.append_assoc, hf, hb, List.append_assoc]

theorem nothing (h : MadeOf (· != '.') front) : Says front [] :=
  called_append_of_plain fun c inside => by simpa using h c inside

theorem opening {method : String} (name : method.toList.all isNameChar = true) :
    Says ("." ++ method ++ "(") [method] := by
  intro rest
  have dot : ".".toList = ['.'] := by decide
  have paren : "(".toList = ['('] := by decide
  have plain : Says (method ++ "(") [] := by
    apply nothing
    refine MadeOf.append (MadeOf.mono (.of_all name) fun c allowed => ?_) (.of_all (by decide))
    rw [bne_iff_ne]
    intro same
    subst same
    exact absurd allowed (by decide)
  have behind := plain rest
  have whole : (method.toList ++ '(' :: rest).takeWhile isNameChar = method.toList := by
    rw [List.takeWhile_append_of_pos (List.all_eq_true.mp name)]
    simp [isNameChar]
  simp only [String.toList_append, paren, List.append_assoc, List.singleton_append] at behind
  simp [called, dot, paren, whole, behind]

end Says

theorem says_argument {text : String} (h : IsArgument text) : Says text [] := by
  apply Says.nothing
  intro c inside
  rw [bne_iff_ne]
  exact h.ne_of_mem inside (by decide)

theorem says_pad (level : Nat) : Says (pad level) [] := by
  apply Says.nothing
  intro c inside
  rw [toList_pad] at inside
  simp [List.eq_of_mem_replicate inside]

theorem says_newline (level : Nat) : Says (newline level) [] :=
  Says.append (.nothing (.of_all (by decide))) (says_pad level)

mutual
/-- The walk of an effect is read off its call. -/
theorem says_call (limit level : Nat) (effect : Effect) :
    Says (call limit level effect) (effect.walk.map Effect.method) := by
  have name := Says.opening (all_isNameChar_method effect)
  have closed : Says ")" [] := .nothing (.of_all (by decide))
  cases effect with
  | act action =>
      have inner := says_argument (.arguments action)
      simpa [call, Effect.walk, Effect.method] using (name.append inner).append closed
  | within frame effects =>
      have inner : Says (nested limit level effects) (Script.methods effects) := by
        by_cases fits : fitsLine limit effects = true
        · have head : Says "|e| e" [] := .nothing (.of_all (by decide))
          have inner := says_calls limit level "" effects (.nothing (.of_all (by decide)))
          rw [nested, if_pos fits]
          simpa using head.append inner
        · have head : Says "|e| \x7b" [] := .nothing (.of_all (by decide))
          have letter : Says "e" [] := .nothing (.of_all (by decide))
          have brace : Says "\x7d" [] := .nothing (.of_all (by decide))
          have inner := says_calls limit (level + 2) (newline (level + 2)) effects (says_newline _)
          rw [nested, if_neg fits]
          simpa using ((((head.append (says_newline (level + 1))).append letter).append
            inner).append (says_newline level)).append brace
      have whole := (name.append inner).append closed
      simpa [call, nested, Effect.walk, Effect.method, Script.methods] using whole

theorem says_calls (limit level : Nat) (front : String) (script : Script) (h : Says front []) :
    Says (calls limit level front script) (Script.methods script) := by
  cases script with
  | nil =>
      rw [calls]
      exact .nothing (.of_all (by decide))
  | cons effect effects =>
      have first := says_call limit level effect
      have others := says_calls limit level front effects h
      simpa [calls, Script.methods, Effect.walkAll] using (h.append first).append others
end

theorem called_body (limit level : Nat) (cost : List Energy) (script : Script) :
    called (body limit level cost script).toList = "attack_cost" :: Script.methods script := by
  have builder : Says "builder" [] := .nothing (.of_all (by decide))
  have name : Says ("." ++ "attack_cost" ++ "(") ["attack_cost"] := .opening (by decide)
  have closed : Says ")" [] := .nothing (.of_all (by decide))
  have calls := says_calls limit (level + 1) (newline (level + 1)) script (says_newline _)
  have whole := (((((((says_pad level).append builder).append (says_newline (level + 1))).append
    name).append (says_argument (.typeList cost))).append closed).append calls).called_eq
  have opened : "." ++ "attack_cost" ++ "(" = ".attack_cost(" := by decide
  rw [opened] at whole
  simpa [body] using whole

theorem method_ne_attackCost (effect : Effect) : effect.method ≠ "attack_cost" := by
  cases effect with
  | act action =>
      rw [Effect.method, Action.method.eq_def]
      split
      case h_2 status => cases status <;> decide
      all_goals decide
  | within frame effects =>
      rw [Effect.method]
      cases frame <;> decide

end CardText.Print
