import CardText.Dataset
import CardText.Dispatch.Trace
import CardText.Grammar
import CardText.Usage
import CardText.Wording

/-! Cards as they are read: each attack with its wording in the one spelling, the rule
that decided it, and its script unless no rule could read it. -/
namespace CardText

structure ReadAttack where
  attack : Attack
  wording : String
  rule : Option String
  script : Option Script

structure ReadCard where
  card : Card
  stage : Stage
  hp : Nat
  attacks : List ReadAttack

structure ReadSet where
  set : CardSet
  cards : List ReadCard
  usage : Usage

def defaultDispatcher : Dispatcher := Dispatcher.ofRules grammar true

namespace Dispatcher

def readAttack (dispatcher : Dispatcher) (attack : Attack) : ReadAttack :=
  let wording := Wording.normalize attack.text
  let outcome := (dispatcher.dispatch wording attack.damage).outcome
  ⟨attack, wording, outcome.rule?, outcome.script?⟩

/-- The stage is checked before the hit points. -/
def readCard (dispatcher : Dispatcher) (card : Card) : Except Error ReadCard := do
  let stage ← card.stage
  let hp ← card.hitPoints
  return ⟨card, stage, hp, card.attacks.map dispatcher.readAttack⟩

def usageOf (cards : List ReadCard) : Usage :=
  (cards.flatMap ReadCard.attacks).foldl (fun usage attack => usage.record attack.rule) .empty

def readSet (dispatcher : Dispatcher) (group : SetCards) : Except Error ReadSet := do
  let cards ← group.cards.mapM dispatcher.readCard
  return ⟨group.set, cards, usageOf cards⟩

/-- The traces of a run: those of every attack before the first card that stops it. -/
def traces (dispatcher : Dispatcher) (groups : List SetCards) : List String :=
  let readable := (groups.flatMap SetCards.cards).takeWhile fun card =>
    (dispatcher.readCard card).toBool
  (readable.flatMap Card.attacks).flatMap fun attack =>
    Trace.lines dispatcher (Wording.normalize attack.text) attack.damage

end Dispatcher
end CardText
