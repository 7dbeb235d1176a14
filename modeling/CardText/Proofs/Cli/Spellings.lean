import CardText.Cli.Arguments
import Mathlib.Data.List.Basic

/-! The two spellings of an option with a value: the value stands behind the option as an argument
of its own, or in one argument with it, behind an equals sign. They agree on every value that does
not begin with the option and the sign again; in one argument such a beginning is lost. -/
namespace CardText.Cli

namespace Valued

def opening (valued : Valued) : String := valued.option ++ "="

theorem ofArgument?_option (valued : Valued) : ofArgument? valued.option = some valued := by
  cases valued <;> decide

theorem ofArgument?_eq_none {argument : String} (h : '=' ∈ argument.toList) :
    ofArgument? argument = none := by
  have other : ∀ valued ∈ all, valued.option ≠ argument := by
    rintro valued listed rfl
    revert valued
    decide
  have short : argument ≠ "-o" := by
    rintro rfl
    exact absurd h (by decide)
  rw [ofArgument?, if_neg (by simpa using short), List.find?_eq_none]
  intro valued listed
  simpa using other valued listed

end Valued

theorem flag?_eq_none (config : Config) {argument : String} (h : '=' ∈ argument.toList) :
    flag? config argument = none := by
  unfold flag?
  split
  all_goals first | exact absurd h (by decide) | rfl

theorem dropRepeated_append {opening : List Char} (n : Nat) (text : List Char) :
    dropRepeated opening (n + 1) (opening ++ text) = dropRepeated opening n text := by
  rw [dropRepeated, List.isPrefixOf?_eq_some_iff_append_eq.mpr rfl]

theorem dropRepeated_of_fresh {opening text : List Char} (h : ¬ opening <+: text) (n : Nat) :
    dropRepeated opening n text = text := by
  cases n with
  | zero => rfl
  | succ n =>
      rw [dropRepeated]
      split
      next rest found =>
        exact absurd ⟨rest, List.isPrefixOf?_eq_some_iff_append_eq.mp found⟩ h
      next => rfl

theorem dropRepeated_eq {opening : List Char} (filled : opening ≠ []) {n m : Nat}
    {text : List Char} (hn : text.length ≤ n) (hm : text.length ≤ m) :
    dropRepeated opening n text = dropRepeated opening m text := by
  induction n generalizing m text with
  | zero =>
      obtain rfl := List.length_eq_zero_iff.mp (Nat.le_zero.mp hn)
      rw [dropRepeated_of_fresh (by simpa using filled) m]
      rfl
  | succ n ih =>
      by_cases begins : opening <+: text
      · obtain ⟨rest, rfl⟩ := begins
        have shorter : 0 < opening.length := List.length_pos_iff.mpr filled
        rw [List.length_append] at hn hm
        obtain ⟨m, rfl⟩ := Nat.exists_eq_succ_of_ne_zero (by omega : m ≠ 0)
        rw [dropRepeated_append, dropRepeated_append]
        exact ih (by omega) (by omega)
      · rw [dropRepeated_of_fresh begins, dropRepeated_of_fresh begins]

/-- What an argument keeps of the value behind an opening. -/
def kept (valued : Valued) (value : String) : String :=
  String.ofList (dropRepeated valued.opening.toList value.toList.length value.toList)

namespace Valued

theorem opening_ne_nil (valued : Valued) : valued.opening.toList ≠ [] := by
  cases valued <;> decide

theorem mem_opening (valued : Valued) : '=' ∈ valued.opening.toList := by
  cases valued <;> decide

end Valued

theorem kept_eq_self {valued : Valued} {value : String}
    (h : ¬ valued.opening.toList <+: value.toList) : kept valued value = value := by
  rw [kept, dropRepeated_of_fresh h, String.ofList_toList]

theorem kept_opening (valued : Valued) (value : String) :
    kept valued (valued.opening ++ value) = kept valued value := by
  have filled := valued.opening_ne_nil
  have shorter : value.toList.length ≤ (valued.opening.toList ++ value.toList).length := by simp
  rw [kept, kept, String.toList_append, dropRepeated_eq filled (Nat.le_refl _) (Nat.le_succ _),
    dropRepeated_append, dropRepeated_eq filled shorter (Nat.le_refl _)]

theorem isPrefixOf_opening (valued other : Valued) (value : List Char) :
    other.opening.toList.isPrefixOf (valued.opening.toList ++ value) = decide (other = valued) := by
  cases valued <;> cases other
  all_goals rfl

theorem assigned?_eq (argument : String) :
    assigned? argument = Valued.all.findSome? fun valued =>
      if valued.opening.toList.isPrefixOf argument.toList then some (valued, kept valued argument)
      else none := rfl

theorem assigned?_opening (valued : Valued) (value : String) :
    assigned? (valued.opening ++ value) = some (valued, kept valued value) := by
  have each : ∀ other : Valued, (if other.opening.toList.isPrefixOf (valued.opening ++ value).toList
      then some (other, kept other (valued.opening ++ value)) else none) =
        if other = valued then some (valued, kept valued value) else none := by
    intro other
    rw [String.toList_append, isPrefixOf_opening]
    by_cases own : other = valued
    · rw [own, kept_opening]
      simp
    · simp [own]
  simp only [assigned?_eq, each]
  cases valued <;> rfl

def resume (config : Config) (valued : Valued) (value : String) (rest : List String) :
    Except ArgumentError Request :=
  match setValue config valued value with
  | .ok config => parseFrom config rest
  | .error error => .error error

theorem parseFrom_option {argument : String} {valued : Valued}
    (h : Valued.ofArgument? argument = some valued) (config : Config) (value : String)
    (rest : List String) :
    parseFrom config (argument :: value :: rest) = resume config valued value rest := by
  rw [Valued.ofArgument?] at h
  split at h
  next short =>
    obtain rfl := Option.some.inj h
    rw [beq_iff_eq.mp short]
    rfl
  next =>
    have named := List.find?_some h
    rw [← beq_iff_eq.mp named]
    cases valued <;> rfl

theorem parseFrom_opening (config : Config) (valued : Valued) (value : String)
    (rest : List String) :
    parseFrom config ((valued.opening ++ value) :: rest) =
      resume config valued (kept valued value) rest := by
  have sign : '=' ∈ (valued.opening ++ value).toList := by
    rw [String.toList_append]
    exact List.mem_append_left _ valued.mem_opening
  have other : ∀ word : String, '=' ∉ word.toList → (valued.opening ++ value == word) = false := by
    intro word absent
    rw [beq_eq_false_iff_ne]
    rintro rfl
    exact absent sign
  rw [parseFrom, other "-h" (by decide), other "--help" (by decide), other "-V" (by decide),
    other "--version" (by decide), other "--" (by decide), flag?_eq_none config sign,
    Valued.ofArgument?_eq_none sign, assigned?_opening]
  rfl

/-- The last argument is an option that waits for its value, which may be any argument at all. -/
def waits : List String → Bool
  | [] => false
  | argument :: rest =>
      if (Valued.ofArgument? argument).isSome then
        match rest with
        | [] => true
        | _ :: rest => waits rest
      else waits rest

theorem parseFrom_congr {before rest rest' : List String} (passed : "--" ∉ before)
    (settled : waits before = false)
    (same : ∀ config, parseFrom config rest = parseFrom config rest') (config : Config) :
    parseFrom config (before ++ rest) = parseFrom config (before ++ rest') := by
  fun_induction waits before generalizing config with
  | case1 => exact same config
  | case2 => cases settled
  | case3 argument option value before ih =>
      obtain ⟨valued, option⟩ := Option.isSome_iff_exists.mp option
      have passed : "--" ∉ before := fun inside => passed (by simp [inside])
      simp only [List.cons_append, parseFrom_option option, resume]
      cases setValue config valued value with
      | ok config => exact ih passed settled config
      | error error => rfl
  | case4 argument before plain ih =>
      obtain ⟨ne, passed⟩ := not_or.mp (List.mem_cons.not.mp passed)
      have plain : Valued.ofArgument? argument = none := by simpa using plain
      have ih := ih passed settled
      rw [List.cons_append, List.cons_append, parseFrom, parseFrom, plain]
      refine ite_congr rfl (fun _ => rfl) fun _ => ite_congr rfl (fun _ => rfl) fun _ => ?_
      refine ite_congr rfl (fun closing => absurd (beq_iff_eq.mp closing).symm ne) fun _ => ?_
      cases flag? config argument with
      | some config => exact ih config
      | none =>
          cases assigned? argument with
          | none => exact ite_congr rfl (fun _ => rfl) fun _ => ih _
          | some pair =>
              simp only
              cases setValue config pair.1 pair.2 with
              | ok config => exact ih config
              | error error => rfl

/-- An option with its value in one argument and in two are parsed alike, behind arguments of which
no option waits for a value, where the value does not begin with the option and an equals sign. -/
theorem spellings_agree (color : Bool) (valued : Valued) (value : String)
    (before after : List String) (passed : "--" ∉ before) (settled : waits before = false) :
    (¬ valued.opening.toList <+: value.toList →
      parse color (before ++ (valued.opening ++ value) :: after) =
        parse color (before ++ valued.option :: value :: after)) ∧
      parse color (before ++ (valued.opening ++ (valued.opening ++ value)) :: after) =
        parse color (before ++ (valued.opening ++ value) :: after) := by
  refine ⟨fun fresh => parseFrom_congr passed settled (fun config => ?_) _,
    parseFrom_congr passed settled (fun config => ?_) _⟩
  · rw [parseFrom_opening, kept_eq_self fresh, parseFrom_option valued.ofArgument?_option]
  · rw [parseFrom_opening, parseFrom_opening, kept_opening]

theorem spellings_agree_dash :
    parse true ["-o", "a", "--check", "--out=-b", "cards.json"] =
      parse true ["-o", "a", "--check", "--out", "-b", "cards.json"] :=
  (spellings_agree true .out "-b" ["-o", "a", "--check"] ["cards.json"] (by decide)
    (by decide)).1 (by decide)

theorem spellings_differ :
    parse false ["--out=--out=y", "cards.json"] ≠
      parse false ["--out", "--out=y", "cards.json"] := by
  decide +kernel

end CardText.Cli
