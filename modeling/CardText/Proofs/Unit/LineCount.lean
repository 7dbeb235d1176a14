import CardText.Proofs.Unit.Procedures
import Mathlib.Algebra.GroupWithZero.Nat

/-! How many lines a unit has. Names and numbers of a dataset stand in it as quotations and as
identifiers, which never break a line, so its lines can be counted without them. The short code
of the set is the exception: the header shows it as it is. -/
namespace CardText

/-! What is left of a set when all of its own strings are struck out. -/

def Attack.redacted (attack : Attack) : Attack := { attack with name := "" }

def Card.redacted (card : Card) : Card :=
  { card with
    name := ""
    number := ""
    evolvesFrom := none
    set := ⟨"", none, none⟩
    attacks := card.attacks.map Attack.redacted }

def Stage.redacted : Stage → Stage
  | .basic => .basic
  | .stage1 _ => .stage1 ""
  | .stage2 _ => .stage2 ""

def ReadAttack.redacted (read : ReadAttack) : ReadAttack :=
  { read with attack := read.attack.redacted }

def ReadCard.redacted (read : ReadCard) : ReadCard :=
  { read with
    card := read.card.redacted
    stage := read.stage.redacted
    attacks := read.attacks.map ReadAttack.redacted }

def ReadSet.redacted (read : ReadSet) : ReadSet :=
  { read with
    set := ⟨"", none, none⟩
    cards := read.cards.map ReadCard.redacted }

namespace Emit

open Text Identifier

def newlines (text : String) : Nat := text.toList.count '\n'

@[simp] theorem newlines_append (front back : String) :
    newlines (front ++ back) = newlines front + newlines back := by
  simp [newlines]

theorem newlines_eq_zero_iff {text : String} : newlines text = 0 ↔ OneLine text := by
  rw [newlines, List.count_eq_zero]
  constructor
  · intro absent c inside
    rw [bne_iff_ne]
    rintro rfl
    exact absent inside
  · intro one inside
    exact absurd (one '\n' inside) (by decide)

theorem newlines_literal {chars : List Char} (h : chars.all (· != '\n') = true) :
    newlines (String.ofList chars) = 0 :=
  newlines_eq_zero_iff.mpr (.literal h)

@[simp] theorem newlines_text_append (front back : List String) :
    newlines (text (front ++ back)) = newlines (text front) + newlines (text back) := by
  rw [text_append, newlines_append]

@[simp] theorem newlines_text_cons (line : String) (list : List String) :
    newlines (text (line :: list)) = newlines line + 1 + newlines (text list) := by
  have single : newlines "\n" = 1 := by decide
  rw [text_cons, newlines_append, newlines_append, single]

@[simp] theorem newlines_text_flatten (lists : List (List String)) :
    newlines (text lists.flatten) = (lists.map fun list => newlines (text list)).sum := by
  induction lists with
  | nil => decide
  | cons list lists ih =>
      rw [List.flatten_cons, newlines_text_append, ih, List.map_cons, List.sum_cons]

theorem newlines_text {list : List String} (h : ∀ line ∈ list, OneLine line) :
    newlines (text list) = list.length := by
  induction list with
  | nil => decide
  | cons line list ih =>
      obtain ⟨first, others⟩ := List.forall_mem_cons.mp h
      rw [newlines_text_cons, newlines_eq_zero_iff.mpr first, ih others, List.length_cons]
      omega

section Metadata

theorem oneLine_around {front back : List Char} {inner : String}
    (hf : front.all (· != '\n') = true) (hi : OneLine inner)
    (hb : back.all (· != '\n') = true) :
    OneLine (String.ofList front ++ inner ++ String.ofList back) :=
  ((MadeOf.literal hf).append hi).append (.literal hb)

theorem oneLine_stage (s : Stage) : OneLine (stage s) := by
  cases s with
  | basic => exact .literal (by decide)
  | stage1 predecessor => exact oneLine_around (by decide) (oneLine_quoted _) (by decide)
  | stage2 predecessor => exact oneLine_around (by decide) (oneLine_quoted _) (by decide)

theorem oneLine_weakness (modifiers : List Modifier) : OneLine (weakness modifiers) := by
  rw [weakness]
  split
  · exact .literal (by decide)
  · exact oneLine_around (by decide) (oneLine_energies _) (by decide)

theorem oneLine_resistance (options : Options) (modifiers : List Modifier) :
    OneLine (resistance options modifiers) := by
  rw [resistance]
  split
  · exact .literal (by decide)
  · have types : OneLine ("resists!(" ++ energies (modifiers.map Modifier.energy) ++ ", ") :=
      oneLine_around (by decide) (oneLine_energies _) (by decide)
    exact (types.append (oneLine_amount _)).append (.literal (by decide))

theorem oneLine_metadata (options : Options) (read : ReadCard) :
    ∀ item ∈ metadata options read, OneLine item := by
  intro item inside
  simp only [metadata, List.mem_cons, List.not_mem_nil, or_false] at inside
  rcases inside with rfl | rfl | rfl | rfl | rfl | rfl | rfl | rfl
  · exact oneLine_around (by decide) (oneLine_quoted _) (by decide)
  · exact oneLine_around (by decide) (oneLine_quoted _) (by decide)
  · exact oneLine_stage _
  · exact oneLine_around (by decide) (oneLine_amount _) (by decide)
  · exact oneLine_around (by decide) (oneLine_energies _) (by decide)
  · exact oneLine_weakness _
  · exact oneLine_resistance options _
  · exact oneLine_around (by decide) (oneLine_amount _) (by decide)

end Metadata

theorem oneLine_attackList {procedures : List Procedure}
    (h : ∀ procedure ∈ procedures, IsIdent procedure.name) :
    ∀ line ∈ attackList procedures, OneLine line := by
  have entry : ∀ procedure ∈ procedures, OneLine (attackEntry procedure) := by
    intro procedure inside
    have front : OneLine ("            Attack::new(" ++ quoted procedure.attack.attack.name ++ ", ") :=
      oneLine_around (by decide) (oneLine_quoted _) (by decide)
    exact (((front.append (oneLine_typeList _)).append (.literal (by decide))).append
      (Outline.oneLine_of_isIdent (h procedure inside))).append (.literal (by decide))
  intro line inside
  cases procedures with
  | nil =>
      obtain rfl := List.mem_singleton.mp inside
      exact .literal (by decide)
  | cons first others =>
      have listed : attackList (first :: others) =
        ["        vec!["] ++ (first :: others).map attackEntry ++ ["        ]"] := rfl
      rw [listed, List.mem_append, List.mem_append, List.mem_map] at inside
      rcases inside with (opened | ⟨procedure, own, rfl⟩) | closed
      · rw [List.mem_singleton.mp opened]
        exact .literal (by decide)
      · exact entry procedure own
      · rw [List.mem_singleton.mp closed]
        exact .literal (by decide)

theorem newlines_definition (options : Options) {procedure : Procedure}
    (h : IsIdent procedure.name) :
    newlines (text (definition options procedure)) =
      newlines (bodyText options procedure.attack) + 3 := by
  have name := newlines_eq_zero_iff.mpr (Outline.oneLine_of_isIdent h)
  have front : newlines "    pub fn " = 0 := newlines_literal (by decide)
  have close : newlines "    \x7d" = 0 := newlines_literal (by decide)
  have empty : newlines (text []) = 0 := by decide
  rw [definition.eq_def, bodyText.eq_def]
  cases procedure.attack.script with
  | none =>
      have back : newlines "(_builder: AttackBuilder) -> AttackBuilder \x7b" = 0 :=
        newlines_literal (by decide)
      simp only [newlines_text_cons, newlines_append, name, front, close, empty, back]
      omega
  | some script =>
      have back : newlines "(builder: AttackBuilder) -> AttackBuilder \x7b" = 0 :=
        newlines_literal (by decide)
      simp only [newlines_text_cons, newlines_append, name, front, close, empty, back]
      omega

def blockLines (options : Options) (attacks : List ReadAttack) : Nat :=
  23 + (if attacks.isEmpty then 1 else attacks.length + 2) +
    (attacks.map fun read => newlines (bodyText options read) + 3).sum

theorem newlines_definitions (options : Options) (attacks : List ReadAttack) :
    newlines (text ((procedures attacks).flatMap (definition options))) =
      (attacks.map fun read => newlines (bodyText options read) + 3).sum := by
  have each : (procedures attacks).map (fun procedure => newlines (text (definition options procedure))) =
      (procedures attacks).map fun procedure =>
        newlines (bodyText options procedure.attack) + 3 :=
    List.map_congr_left fun procedure inside =>
      newlines_definition options (isIdent_of_mem_procedures inside)
  rw [List.flatMap_def, newlines_text_flatten, List.map_map]
  conv_rhs => rw [← map_attack_procedures attacks, List.map_map]
  exact congrArg List.sum each

@[simp] theorem length_attackList (attacks : List ReadAttack) :
    (attackList (procedures attacks)).length =
      if attacks.isEmpty then 1 else attacks.length + 2 := by
  have names := congrArg List.length (map_attack_procedures attacks)
  rw [List.length_map] at names
  cases attacks with
  | nil => rfl
  | cons attack attacks =>
      rw [attackList]
      split
      · simp_all
      · simp [names]

theorem oneLine_actions : ∀ line ∈ actions, OneLine line := by
  intro line inside
  simp only [actions, List.mem_cons, List.not_mem_nil, or_false] at inside
  rcases inside with rfl | rfl | rfl | rfl | rfl | rfl | rfl
  all_goals exact .literal (by decide)

theorem oneLine_prelude : ∀ line ∈ prelude, OneLine line := by
  intro line inside
  simp only [prelude, List.mem_cons, List.not_mem_nil, or_false] at inside
  rcases inside with rfl | rfl | rfl | rfl
  all_goals exact .literal (by decide)

theorem oneLine_cardHead (options : Options) {name : String} (h : IsIdent name) (read : ReadCard) :
    ∀ line ∈ [ "#[derive(Default)]",
        "pub struct " ++ name ++ " \x7b\x7d",
        "impl CardArchetype for " ++ name ++ " \x7b"] ++
      (metadata options read).map (fun item => "    " ++ item ++ ";") ++ actions ++
      ["    fn attacks(&self) -> Vec<Attack> \x7b"] ++ attackList (procedures read.attacks) ++
      ["    \x7d", "\x7d", "impl " ++ name ++ " \x7b"], OneLine line := by
  have ident := Outline.oneLine_of_isIdent h
  simp only [List.forall_mem_append, List.forall_mem_cons, List.not_mem_nil, false_implies,
    implies_true, and_true, List.forall_mem_map]
  refine ⟨⟨⟨⟨⟨⟨.literal (by decide), ?_, ?_⟩, fun item inside => ?_⟩, oneLine_actions⟩,
    .literal (by decide)⟩, oneLine_attackList fun _ => isIdent_of_mem_procedures⟩,
    .literal (by decide), .literal (by decide), ?_⟩
  · exact oneLine_around (by decide) ident (by decide)
  · exact oneLine_around (by decide) ident (by decide)
  · exact oneLine_around (by decide) (oneLine_metadata options read item inside) (by decide)
  · exact oneLine_around (by decide) ident (by decide)

theorem newlines_cardLines (options : Options) {name : String} (h : IsIdent name)
    (read : ReadCard) :
    newlines (text (cardLines options name read)) = blockLines options read.attacks := by
  have head := newlines_text (oneLine_cardHead options h read)
  have last : newlines (text ["\x7d"]) = 1 := by decide
  rw [cardLines, newlines_text_append, newlines_text_append, newlines_definitions, head, last]
  simp only [blockLines, metadata, actions, length_attackList, List.length_append, List.length_map,
    List.length_cons, List.length_nil]
  omega

theorem oneLine_registry {names : List String} (h : ∀ name ∈ names, IsIdent name) :
    ∀ line ∈ registry names, OneLine line := by
  simp only [registry, List.forall_mem_append, List.forall_mem_cons, List.not_mem_nil,
    false_implies, implies_true, and_true, List.forall_mem_map]
  refine ⟨⟨⟨.literal (by decide), .literal (by decide), .literal (by decide)⟩, fun name inside => ?_⟩,
    .literal (by decide), .literal (by decide), .literal (by decide), .literal (by decide),
    .literal (by decide)⟩
  exact oneLine_around (by decide) (Outline.oneLine_of_isIdent (h name inside)) (by decide)

/-- The lines of a unit, as many as without any text of the dataset: the header and the prelude,
a blank line and a block for each card, a blank line and the registry. -/
def lineCount (options : Options) (read : ReadSet) : Nat :=
  6 + (read.cards.map fun card => 1 + blockLines options card.attacks).sum +
    (9 + read.cards.length)

@[simp] theorem newlines_headerLine (set : CardSet) :
    newlines (headerLine set) = newlines set.shortCode := by
  have front : newlines "// Generated by cardgen from the " = 0 := newlines_literal (by decide)
  have middle : newlines " dataset (" = 0 := newlines_literal (by decide)
  have back : newlines "). Do not edit by hand." = 0 := newlines_literal (by decide)
  have name := newlines_eq_zero_iff.mpr (oneLine_quoted set.name)
  unfold headerLine
  simp only [newlines_append, front, middle, back, name]
  omega

theorem newlines_cards (options : Options) {names : List String} {cards : List ReadCard}
    (len : names.length = cards.length) (h : ∀ name ∈ names, IsIdent name) :
    newlines (text (List.zipWith (fun name card => "" :: cardLines options name card) names
        cards).flatten) =
      (cards.map fun card => 1 + blockLines options card.attacks).sum := by
  induction names generalizing cards with
  | nil =>
      cases cards with
      | nil => exact (by decide : newlines (text []) = 0)
      | cons card cards => cases len
  | cons name names ih =>
      cases cards with
      | nil => cases len
      | cons card cards =>
          obtain ⟨first, others⟩ := List.forall_mem_cons.mp h
          have blank : newlines "" = 0 := by decide
          rw [List.zipWith_cons_cons, List.flatten_cons, newlines_text_append, newlines_text_cons,
            newlines_cardLines options first, ih (Nat.succ.inj len) others, blank, List.map_cons,
            List.sum_cons, Nat.zero_add]

theorem newlines_contents (options : Options) (read : ReadSet) :
    newlines (set options read).contents = newlines read.set.shortCode + lineCount options read := by
  have len := length_structNames read
  have ident : ∀ name ∈ structNames read, IsIdent name := fun _ => isIdent_of_mem_structNames
  have blank : newlines "" = 0 := by decide
  have imports : newlines (text prelude) = 4 := newlines_text oneLine_prelude
  have header : newlines (text (header read.set)) = newlines read.set.shortCode + 2 := by
    rw [header_eq, newlines_text_cons, newlines_text_cons, newlines_headerLine, blank]
    rfl
  have registry : newlines (text (registry (structNames read))) = 8 + read.cards.length := by
    rw [newlines_text (oneLine_registry ident)]
    simp only [registry, len, List.length_append, List.length_map, List.length_cons, List.length_nil]
    omega
  rw [contents_eq, code, newlines_append, newlines_text_append, newlines_text_append,
    newlines_text_cons, newlines_cards options len ident, header, imports, registry, blank, lineCount]
  omega

theorem lineCount_redacted (options : Options) (read : ReadSet) :
    lineCount options read.redacted = lineCount options read := by
  have body : ∀ attack : ReadAttack, bodyText options attack.redacted = bodyText options attack :=
    fun _ => rfl
  have block : ∀ card : ReadCard,
      blockLines options card.redacted.attacks = blockLines options card.attacks := by
    intro card
    simp [blockLines, ReadCard.redacted, Function.comp_def, body]
  simp [lineCount, ReadSet.redacted, Function.comp_def, block]

/-- Units of sets that differ in their own strings only have equally many lines exactly if the
short codes do. The header is one comment line, in front of a blank line and the prelude, exactly
if the short code is one line. -/
theorem contents_line_count (options : Options) {read other : ReadSet}
    (same : read.redacted = other.redacted) :
    (newlines (set options read).contents = newlines (set options other).contents ↔
      newlines read.set.shortCode = newlines other.set.shortCode) ∧
    (set options read).contents =
      headerLine read.set ++ "\n\n" ++ text prelude ++ code options read ∧
    "//".toList <+: (headerLine read.set).toList ∧
    (OneLine (headerLine read.set) ↔ OneLine read.set.shortCode) := by
  refine ⟨?_, ?_, ?_, ?_⟩
  · have lines : lineCount options read = lineCount options other := by
      rw [← lineCount_redacted, same, lineCount_redacted]
    rw [newlines_contents, newlines_contents, lines, Nat.add_right_cancel_iff]
  · have empty : text [] = "" := by decide
    have blank : "\n" ++ ("" ++ "\n") = "\n\n" := by decide
    have ends : headerLine read.set ++ "\n" ++ ("" ++ "\n") = headerLine read.set ++ "\n\n" := by
      rw [String.append_assoc, blank]
    rw [contents_eq, text_append, header_eq, text_cons, text_cons, empty, String.append_empty, ends]
  · unfold headerLine
    simp only [String.toList_append, List.append_assoc]
    exact (by decide : "//".toList <+: "// Generated by cardgen from the ".toList).trans
      (List.prefix_append _ _)
  · rw [← newlines_eq_zero_iff, newlines_headerLine, newlines_eq_zero_iff]

theorem contents_line_count_renamed :
    (tradedAs "Base\n" "BS").redacted = (tradedAs "Jungle" "JU").redacted ∧
      newlines (set {} (tradedAs "Base\n" "BS")).contents =
        newlines (set {} (tradedAs "Jungle" "JU")).contents := by
  have same : (tradedAs "Base\n" "BS").redacted = (tradedAs "Jungle" "JU").redacted := rfl
  exact ⟨same, (contents_line_count {} same).1.mpr (by decide)⟩

theorem contents_broken_by_code :
    ∃ read other : ReadSet, read.redacted = other.redacted ∧
      newlines (set {} read).contents ≠ newlines (set {} other).contents ∧
      ¬ OneLine (headerLine read.set) := by
  refine ⟨tradedAs "Base" "B\nS", tradedAs "Base" "BS", rfl, ?_, ?_⟩
  · rw [newlines_contents, newlines_contents]
    decide
  · rw [← newlines_eq_zero_iff, newlines_headerLine]
    decide

end Emit
end CardText
