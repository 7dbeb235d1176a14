import CardText.Proofs.Script.Layout
import CardText.Proofs.Text.Lines

/-! The lines of a printed script. Behind its indentation each line begins with the builder,
with a call, or with the letter or the brace of a block, and none stands further out than the
first one. -/
namespace CardText.Print

open Text

def isLead (c : Char) : Bool := ['b', '.', 'e', '\x7d'].contains c

theorem oneLine_of_isArgument {text : String} (h : IsArgument text) : OneLine text :=
  oneLine_of_madeOf h (by decide)

theorem oneLine_method (effect : Effect) : OneLine effect.method := by
  intro c inside
  have layout := (plain_of_mem_method effect inside).1
  rw [bne_iff_ne]
  intro same
  subst same
  exact absurd layout (by decide)

theorem oneLine_pad (level : Nat) : OneLine (pad level) := by
  intro c inside
  rw [toList_pad] at inside
  simp [List.eq_of_mem_replicate inside]

@[simp] theorem unindent_pad (level : Nat) (rest : List Char) :
    unindent ((pad level).toList ++ rest) = unindent rest := by
  rw [unindent, toList_pad, List.dropWhile_append_of_pos]
  · rfl
  · intro c inside
    simp [List.eq_of_mem_replicate inside]

def nested (limit level : Nat) (effects : Script) : String :=
  if fitsLine limit effects then "|e| e" ++ calls limit level "" effects
  else
    "|e| \x7b" ++ newline (level + 1) ++ "e" ++
      calls limit (level + 2) (newline (level + 2)) effects ++ newline level ++ "\x7d"

/-- Holds of every line of a script at this level or a deeper one, whatever comes behind it. -/
structure Led (base : Nat) (P : List Char → Prop) : Prop where
  append : ∀ front back, P front → P (front ++ back)
  line : ∀ level rest, base ≤ level → Begins isLead rest → P ((pad level).toList ++ rest)

namespace Led

variable {base level : Nat} {P : List Char → Prop}

theorem newline (h : Led base P) (deep : base ≤ level) (text : String) (one : OneLine text)
    (first : Begins isLead text.toList) : Breaks P (newline level ++ text) := by
  have content : (Print.newline level ++ text).toList =
      '\n' :: ((pad level).toList ++ text.toList) := by
    simp [Print.newline]
  intro rest ending
  rw [content, List.suffix_cons_iff] at ending
  rcases ending with same | later
  · rw [(List.cons.inj same).2]
    exact h.line level _ deep first
  · exact Breaks.of_oneLine ((oneLine_pad level).append one) rest (by simpa using later)

theorem nested (h : Led base P) (deep : base ≤ level) {limit : Nat} {effects : Script}
    (inner : ∀ level front, base ≤ level → Breaks P (front ++ ".") →
      Breaks P (calls limit level front effects)) :
    Breaks P (Print.nested limit level effects) := by
  by_cases fits : fitsLine limit effects = true
  · have head : Breaks P "|e| e" := .of_oneLine (.of_all (by decide))
    have inner := inner level "" deep (.of_oneLine (.of_all (by decide)))
    rw [Print.nested, if_pos fits]
    exact head.append h.append inner
  · have deeper : base ≤ level + 2 := by omega
    have head : Breaks P "|e| \x7b" := .of_oneLine (.of_all (by decide))
    have letter := h.newline (Nat.le_succ_of_le deep) "e" (.of_all (by decide)) ⟨'e', [], rfl, rfl⟩
    have dot := h.newline deeper "." (.of_all (by decide)) ⟨'.', [], rfl, rfl⟩
    have brace := h.newline deep "\x7d" (.of_all (by decide)) ⟨'\x7d', [], rfl, rfl⟩
    have block := ((head.append h.append letter).append h.append
      (inner (level + 2) _ deeper dot)).append h.append brace
    rw [Print.nested, if_neg fits]
    simpa only [String.append_assoc] using block

mutual
theorem call (h : Led base P) (limit level : Nat) (deep : base ≤ level) (effect : Effect) :
    ∃ behind, Print.call limit level effect = "." ++ behind ∧ Breaks P behind := by
  have name := Breaks.of_oneLine (P := P) (oneLine_method effect)
  have opened : Breaks P "(" := .of_oneLine (.of_all (by decide))
  have closed : Breaks P ")" := .of_oneLine (.of_all (by decide))
  cases effect with
  | act action =>
      have inner : Breaks P (arguments action) :=
        .of_oneLine (oneLine_of_isArgument (.arguments action))
      refine ⟨action.method ++ "(" ++ arguments action ++ ")", ?_, ?_⟩
      · simp only [Print.call, String.append_assoc]
      · exact ((name.append h.append opened).append h.append inner).append h.append closed
  | within frame effects =>
      have inner : Breaks P (Print.nested limit level effects) :=
        h.nested deep fun level front deep dot => calls h limit level deep front effects dot
      refine ⟨frame.method ++ "(" ++ Print.nested limit level effects ++ ")", ?_, ?_⟩
      · simp only [Print.call, Print.nested, String.append_assoc]
      · exact ((name.append h.append opened).append h.append inner).append h.append closed

theorem calls (h : Led base P) (limit level : Nat) (deep : base ≤ level) (front : String)
    (script : Script) (dot : Breaks P (front ++ ".")) :
    Breaks P (Print.calls limit level front script) := by
  cases script with
  | nil =>
      rw [Print.calls]
      exact .of_oneLine (.of_all (by decide))
  | cons effect effects =>
      obtain ⟨behind, eq, led⟩ := call h limit level deep effect
      have others := calls h limit level deep front effects dot
      rw [Print.calls, eq, ← String.append_assoc]
      exact (dot.append h.append led).append h.append others
end

theorem body (h : Led base P) (limit : Nat) (deep : base ≤ level) (cost : List Energy)
    (script : Script) : Breaks P (Print.body limit level cost script) := by
  have front : Breaks P (pad level ++ "builder") :=
    .of_oneLine ((oneLine_pad level).append (.of_all (by decide)))
  have costs : Breaks P (typeList cost) := .of_oneLine (oneLine_of_isArgument (.typeList cost))
  have closed : Breaks P ")" := .of_oneLine (.of_all (by decide))
  have deeper : base ≤ level + 1 := Nat.le_succ_of_le deep
  have opened := h.newline deeper ".attack_cost(" (.of_all (by decide))
    ⟨'.', "attack_cost(".toList, by decide, rfl⟩
  have dot := h.newline deeper "." (.of_all (by decide)) ⟨'.', [], rfl, rfl⟩
  have calls := h.calls limit (level + 1) deeper (Print.newline (level + 1)) script dot
  have whole := (((front.append h.append opened).append h.append costs).append h.append
    closed).append h.append calls
  rw [Print.body]
  simpa only [String.append_assoc] using whole

end Led

theorem begins_pad (level : Nat) {rest : List Char} (h : Begins isLead rest) :
    Begins isLead ((pad level).toList ++ rest) := by
  rw [Begins, unindent_pad]
  exact h

theorem begins_body (limit level : Nat) (cost : List Energy) (script : Script) :
    Begins isLead (body limit level cost script).toList := by
  have builder : "builder".toList = 'b' :: "uilder".toList := by decide
  simp only [Begins, body, String.toList_append, List.append_assoc, unindent_pad, builder]
  exact ⟨'b', _, rfl, rfl⟩

theorem tidy_body (limit level : Nat) (cost : List Energy) (script : Script) :
    Tidy isLead (body limit level cost script) := by
  have led : Led level (Begins isLead) :=
    ⟨fun _ back h => h.append back, fun level _ _ h => begins_pad level h⟩
  exact led.body limit (Nat.le_refl level) cost script

theorem pad_prefix_of_append {level : Nat} {line back : List Char}
    (ends : back = [] ∨ ∃ next, back = '\n' :: next) (h : (pad level).toList <+: line ++ back) :
    (pad level).toList <+: line := by
  rcases List.prefix_or_prefix_of_prefix h (List.prefix_append line back) with inner | outer
  · exact inner
  · obtain ⟨blanks, eq⟩ := outer
    rw [← eq, List.prefix_append_right_inj] at h
    cases blanks with
    | nil => simp [← eq]
    | cons c blanks =>
        rcases ends with rfl | ⟨next, rfl⟩
        · simp at h
        · have newline : c = '\n' := (List.cons_prefix_cons.mp h).1
          have blank : c ∈ (pad level).toList := by simp [← eq]
          rw [newline, toList_pad] at blank
          exact absurd (List.eq_of_mem_replicate blank) (by decide)

theorem pad_prefix_pad {level deeper : Nat} (h : level ≤ deeper) (rest : List Char) :
    (pad level).toList <+: (pad deeper).toList ++ rest := by
  obtain ⟨more, rfl⟩ := Nat.exists_eq_add_of_le h
  rw [toList_pad, toList_pad, Nat.mul_add, List.replicate_add, List.append_assoc]
  exact List.prefix_append _ _

theorem pad_prefix_of_mem_body {limit level : Nat} {cost : List Energy} {script : Script}
    {line : List Char} (inside : line ∈ (body limit level cost script).toList.splitOn '\n') :
    (pad level).toList <+: line := by
  have led : Led level ((pad level).toList <+: ·) :=
    ⟨fun _ back h => h.trans (List.prefix_append _ back), fun _ rest deep _ => pad_prefix_pad deep rest⟩
  refine Breaks.of_mem_splitOn ?_ (led.body limit (Nat.le_refl level) cost script)
    (fun _ _ ends h => pad_prefix_of_append ends h) inside
  simp [body]

end CardText.Print
