import CardText.Proofs.Dispatch.FirstMatch
import CardText.Proofs.Grammar.Survey
import CardText.Proofs.Tally

/-! Gating skips no winner. The union of the index holds the positions of the rules that are
always on or share a trigger with the text, each once and in the order of the grammar. A trigger
that a piece announces is in every text that fills the template, wherever the piece stands, so a
rule whose triggers are all absent accepts nothing, and the search among the active rules ends
where the search among all of them does. -/
namespace CardText

namespace Trigger

theorem contains_iff {word text : List Char} : contains word text = true ↔ word <:+: text := by
  induction text with
  | nil => simp [contains]
  | cons c text ih =>
      rw [contains, Bool.or_eq_true, ih, List.isPrefixOf_iff_prefix, ← List.infix_cons_iff]

@[simp] theorem mem_scan {trigger : Trigger} {text : String} :
    trigger ∈ scan text ↔ trigger.isIn text.toList = true := by
  have hall : trigger ∈ all := by cases trigger <;> decide
  simp [scan, hall]

theorem isIn_of_infix {trigger : Trigger} {part text : List Char} (h : part <:+: text)
    (hpart : trigger.isIn part = true) : trigger.isIn text = true := by
  have hwords {word : List Char} (hword : contains word (Text.lowerAscii part) = true) :
      contains word (Text.lowerAscii text) = true :=
    contains_iff.mpr ((contains_iff.mp hword).trans (h.map _))
  cases trigger with
  | digits =>
      obtain ⟨c, hc, hdigit⟩ := List.any_eq_true.mp hpart
      exact List.any_eq_true.mpr ⟨c, h.subset hc, hdigit⟩
  | coin => exact hwords hpart
  | bench => exact hwords hpart
  | discard => exact hwords hpart
  | nextTurn => exact hwords hpart
  | defending => exact hwords hpart

end Trigger

theorem Piece.isIn_of_announces {piece : Piece} {trigger : Trigger} {part : List Char}
    (h : piece.announces trigger = true) (hfits : piece.Fits part) :
    trigger.isIn part = true := by
  cases piece with
  | text literal =>
      obtain rfl : part = literal.toList := hfits
      exact h
  | number slot =>
      obtain rfl : trigger = .digits := by simpa [announces] using h
      obtain ⟨c, run, rfl⟩ := List.exists_cons_of_ne_nil hfits.1
      exact List.any_eq_true.mpr ⟨c, by simp, hfits.2 c (by simp)⟩
  | oneOf spellings => simp [announces] at h
  | status slot choices => simp [announces] at h
  | word slot => simp [announces] at h
  | creature => simp [announces] at h

theorem Template.isIn_of_announces {template : Template} {trigger : Trigger}
    (h : template.any (Piece.announces trigger) = true) {parts : List (List Char)}
    {text : List Char} (hfills : template.Fills parts text) : trigger.isIn text = true := by
  induction template generalizing parts text with
  | nil => simp at h
  | cons piece template ih =>
      obtain ⟨part, rest, others, hpart, hothers, _, rfl⟩ := fills_cons.mp hfills
      rw [List.any_cons, Bool.or_eq_true] at h
      rcases h with h | h
      · exact Trigger.isIn_of_infix (List.prefix_append part rest).isInfix
          (Piece.isIn_of_announces h hpart)
      · exact Trigger.isIn_of_infix (List.suffix_append part rest).isInfix (ih h hothers)

def Rule.NeedsTriggers (rule : Rule) : Prop :=
  rule.triggers ≠ [] → ∀ text, rule.accepts text = true →
    ∃ trigger ∈ rule.triggers, trigger ∈ Trigger.scan text

theorem Rule.needsTriggers_of_announced {rule : Rule} (h : rule.announced = true) :
    rule.NeedsTriggers := by
  intro hne text haccepts
  obtain ⟨parts, hfills⟩ := (rule.template.isSome_bind?_iff text).mp haccepts
  rw [announced, Bool.or_eq_true, List.isEmpty_iff, List.any_eq_true] at h
  obtain ⟨trigger, hmem, htrigger⟩ := h.resolve_left hne
  exact ⟨trigger, hmem, Trigger.mem_scan.mpr (Template.isIn_of_announces htrigger hfills)⟩

theorem grammar_needsTriggers : ∀ rule ∈ grammar, rule.NeedsTriggers := fun rule hrule =>
  Rule.needsTriggers_of_announced (List.all_eq_true.mp grammar_announced rule hrule)

def Rule.isTried (gated : Bool) (present : List Trigger) (rule : Rule) : Bool :=
  !gated || rule.triggers.isEmpty || rule.triggers.any present.contains

theorem RuleIndex.mem_candidates {rules : List Rule} {present : List Trigger} {id : Nat} :
    id ∈ (ofRules rules).candidates present ↔
      ∃ rule, rules[id]? = some rule ∧
        (rule.triggers = [] ∨ ∃ trigger ∈ rule.triggers, trigger ∈ present) := by
  simp only [candidates, ofRules, mem_foldl_unionAscending, mem_unionAscending, List.not_mem_nil,
    false_or, List.mem_map, List.mem_filter, Prod.exists, exists_eq_right,
    List.mk_mem_zipIdx_iff_getElem?, List.isEmpty_iff, List.contains_iff_mem]
  constructor
  · rintro (⟨rule, hrule, hempty⟩ | ⟨trigger, hpresent, rule, hrule, hmem⟩)
    · exact ⟨rule, hrule, .inl hempty⟩
    · exact ⟨rule, hrule, .inr ⟨trigger, hmem, hpresent⟩⟩
  · rintro ⟨rule, hrule, hempty | ⟨trigger, hmem, hpresent⟩⟩
    · exact .inl ⟨rule, hrule, hempty⟩
    · exact .inr ⟨trigger, hpresent, rule, hrule, hmem⟩

theorem RuleIndex.pairwise_candidates (index : RuleIndex) (present : List Trigger) :
    (index.candidates present).Pairwise (· < ·) :=
  pairwise_foldl_unionAscending _ _ (pairwise_unionAscending .nil)

namespace Dispatcher

variable {rules : List Rule} {gated : Bool} {present : List Trigger}

@[simp] theorem mem_active {id : Nat} :
    id ∈ (ofRules rules gated).active present ↔
      ∃ rule, rules[id]? = some rule ∧ rule.isTried gated present = true := by
  cases gated with
  | false => simp [active, ofRules, Rule.isTried, ← Option.isSome_iff_exists]
  | true =>
      refine RuleIndex.mem_candidates.trans (exists_congr fun rule => ?_)
      simp [Rule.isTried]

theorem pairwise_active (rules : List Rule) (gated : Bool) (present : List Trigger) :
    ((ofRules rules gated).active present).Pairwise (· < ·) := by
  cases gated with
  | false => exact List.pairwise_lt_range
  | true => exact RuleIndex.pairwise_candidates _ _

/-- The union of the index leaves what a plain filter of all positions would leave. -/
theorem active_eq_filter (rules : List Rule) (gated : Bool) (present : List Trigger) :
    (ofRules rules gated).active present =
      (List.range rules.length).filter fun id => rules[id]?.any (Rule.isTried gated present) := by
  -- both lists ascend, so that their members decide
  apply eq_of_pairwise_lt (pairwise_active rules gated present) (List.pairwise_lt_range.filter _)
  intro id
  rw [mem_active, List.mem_filter, List.mem_range, Option.any_eq_true]
  refine (and_iff_right_of_imp fun tried => ?_).symm
  obtain ⟨rule, found, _⟩ := tried
  exact (List.getElem?_eq_some_iff.mp found).1

theorem winner?_gated (h : ∀ rule ∈ rules, rule.NeedsTriggers) (text : String) :
    (ofRules rules true).winner? text ((ofRules rules true).active (Trigger.scan text)) =
      (ofRules rules false).winner? text
        ((ofRules rules false).active (Trigger.scan text)) := by
  rw [active_eq_filter]
  refine findSome?_filter_of_forall fun id _ hid => ?_
  cases hrule : rules[id]? with
  | none => simp [attempt?, ofRules, hrule]
  | some rule =>
      cases hbind : rule.template.bind? text with
      | none => simp [attempt?, ofRules, hrule, hbind]
      | some bindings =>
          rw [hrule, Option.any_some] at hid
          by_cases hne : rule.triggers = []
          · simp [Rule.isTried, hne] at hid
          · obtain ⟨trigger, hmem, hpresent⟩ := h rule (List.mem_of_getElem? hrule) hne text
              (by simp [Rule.accepts, hbind])
            have hshared : rule.triggers.any (Trigger.scan text).contains = true :=
              List.any_eq_true.mpr ⟨trigger, hmem, List.contains_iff_mem.mpr hpresent⟩
            simp [Rule.isTried, hshared] at hid

end Dispatcher

/-- Gated or not, the grammar decides every text alike, since each of its rules with
triggers finds one of them in whatever it accepts. -/
theorem gating_keeps_outcome :
    (∀ (text : String) (damage : Option Nat),
        ((Dispatcher.ofRules grammar true).dispatch text damage).outcome =
          ((Dispatcher.ofRules grammar false).dispatch text damage).outcome) ∧
      ∀ rule ∈ grammar, rule.triggers ≠ [] → ∀ text, rule.accepts text = true →
        ∃ trigger ∈ rule.triggers, trigger ∈ Trigger.scan text := by
  refine ⟨fun text damage => ?_, fun rule hrule => grammar_needsTriggers rule hrule⟩
  rw [Dispatcher.outcome_dispatch, Dispatcher.outcome_dispatch,
    Dispatcher.winner?_gated grammar_needsTriggers]

theorem gating_keeps_outcome_selfDamage :
    Grammar.selfDamage ∈ grammar ∧
      ∃ trigger ∈ Grammar.selfDamage.triggers,
        trigger ∈ Trigger.scan "Mr. Mime does 8 damage to itself." := by
  have hmem : Grammar.selfDamage ∈ grammar := by simp [grammar]
  exact ⟨hmem, gating_keeps_outcome.2 _ hmem (by decide) _ (by decide +kernel)⟩

end CardText
