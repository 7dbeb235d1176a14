import CardText.Rule
import CardText.Tally

/-! Which rule reads a text. The rules whose triggers are absent are skipped, the others
are tried in order, and the first template that accepts decides: if its rule refuses
the filled slots, no later rule is tried. -/
namespace CardText

structure RuleIndex where
  alwaysOn : List Nat
  byTrigger : Trigger → List Nat

namespace RuleIndex

def ofRules (rules : List Rule) : RuleIndex where
  alwaysOn := (rules.zipIdx.filter fun (rule, _) => rule.triggers.isEmpty).map Prod.snd
  byTrigger trigger :=
    (rules.zipIdx.filter fun (rule, _) => rule.triggers.contains trigger).map Prod.snd

/-- The rules that are always on, and then those of each trigger, as one ascending list. -/
def candidates (index : RuleIndex) (present : List Trigger) : List Nat :=
  present.foldl (fun ids trigger => unionAscending ids (index.byTrigger trigger))
    (unionAscending [] index.alwaysOn)

end RuleIndex

structure Metrics where
  active : Nat
  gated : Nat
  tried : Nat
  matched : Option String
  deriving DecidableEq, Repr

inductive Outcome where
  | matched (id : Nat) (rule : String) (script : Script)
  | rejected (id : Nat) (rule : String)
  | unmatched
  deriving Repr

namespace Outcome

def rule? : Outcome → Option String
  | matched _ rule _ | rejected _ rule => some rule
  | unmatched => none

def script? : Outcome → Option Script
  | matched _ _ script => some script
  | _ => none

end Outcome

structure Dispatch where
  outcome : Outcome
  metrics : Metrics

structure Winner where
  id : Nat
  rule : Rule
  bindings : Bindings

structure Dispatcher where
  rules : List Rule
  index : RuleIndex
  /-- An ungated dispatcher tries every rule. -/
  gated : Bool

namespace Dispatcher

def ofRules (rules : List Rule) (gated : Bool) : Dispatcher :=
  ⟨rules, RuleIndex.ofRules rules, gated⟩

/-- The rules to try, in the order of the grammar. -/
def active (dispatcher : Dispatcher) (present : List Trigger) : List Nat :=
  if dispatcher.gated then dispatcher.index.candidates present
  else List.range dispatcher.rules.length

def attempt? (dispatcher : Dispatcher) (text : String) (id : Nat) : Option Winner := do
  let rule ← dispatcher.rules[id]?
  let bindings ← rule.template.bind? text
  return ⟨id, rule, bindings⟩

/-- Rules are tried, and counted, until one of them accepts the text. -/
def scan (dispatcher : Dispatcher) (text : String) (tried : Nat) : List Nat → Option Winner × Nat
  | [] => (none, tried)
  | id :: active =>
      match dispatcher.attempt? text id with
      | some winner => (some winner, tried + 1)
      | none => dispatcher.scan text (tried + 1) active

end Dispatcher

/-- A rule that leaves base damage alone never sees it. -/
def Winner.outcome (winner : Winner) (damage : Option Nat) : Outcome :=
  match winner.rule.build winner.bindings (if winner.rule.usesDamage then damage else none) with
  | some script => .matched winner.id winner.rule.name script
  | none => .rejected winner.id winner.rule.name

def Dispatcher.dispatch (dispatcher : Dispatcher) (text : String) (damage : Option Nat) : Dispatch :=
  let active := dispatcher.active (Trigger.scan text)
  let gated := dispatcher.rules.length - active.length
  match dispatcher.scan text 0 active with
  | (some winner, tried) =>
      ⟨winner.outcome damage, ⟨active.length, gated, tried, some winner.rule.name⟩⟩
  | (none, tried) => ⟨.unmatched, ⟨active.length, gated, tried, none⟩⟩

end CardText
