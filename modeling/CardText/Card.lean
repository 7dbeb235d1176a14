import CardText.Attack
import CardText.CardSet
import CardText.Error
import CardText.Modifier

/-! A creature card as a dataset gives it, and the stage of evolution that its subtypes
name. -/
namespace CardText

structure Card where
  name : String
  supertype : String
  subtypes : List String
  hp : Option Nat
  types : List Energy
  weaknesses : List Modifier
  resistances : List Modifier
  retreatCost : List Energy
  evolvesFrom : Option String
  attacks : List Attack
  set : CardSet
  number : String
  deriving DecidableEq, Repr

inductive Stage where
  | basic
  | stage1 (predecessor : String)
  | stage2 (predecessor : String)
  deriving DecidableEq, Repr

def isCreatureSupertype (supertype : String) : Bool :=
  supertype == "Pokémon" || Text.sameIgnoringCase supertype "pokemon"

namespace Card

def isCreature (card : Card) : Bool := isCreatureSupertype card.supertype

/-- Name, set code and number: "Clefable (JU 1)". -/
def identifier (card : Card) : String :=
  card.name ++ " (" ++ card.set.shortCode ++ " " ++ card.number ++ ")"

def malformed {α : Type} (card : Card) (fault : CardFault) : Except Error α :=
  .error (.malformed card.identifier fault)

def hasSubtype (card : Card) (tag : String) : Bool := card.subtypes.any (Text.sameIgnoringCase · tag)

def predecessor (card : Card) : Except Error String :=
  match card.evolvesFrom with
  | some name => if Text.isBlank name.toList then card.malformed .missingPredecessor else .ok name
  | none => card.malformed .missingPredecessor

/-- The lowest stage that is named counts. -/
def stage (card : Card) : Except Error Stage :=
  if card.hasSubtype "Basic" then .ok .basic
  else if card.hasSubtype "Stage 1" then card.predecessor.map .stage1
  else if card.hasSubtype "Stage 2" then card.predecessor.map .stage2
  else card.malformed (.missingStage card.subtypes)

def hitPoints (card : Card) : Except Error Nat :=
  match card.hp with
  | some hp => .ok hp
  | none => card.malformed .missingHitPoints

def retreat (card : Card) : Nat := card.retreatCost.length

def fields : List Decode.Field := [
  Decode.field "name" Decode.string,
  Decode.field "supertype" Decode.string,
  Decode.field "subtypes" (Decode.list Decode.string),
  Decode.field "hp" Decode.amount,
  Decode.field "types" (Decode.list Decode.energy),
  Decode.field "weaknesses" (Decode.list Modifier.decode),
  Decode.field "resistances" (Decode.list Modifier.decode),
  Decode.field "retreatCost" (Decode.list Decode.energy),
  Decode.field "evolvesFrom" Decode.optionalString,
  Decode.field "attacks" (Decode.list Attack.decode),
  Decode.field "set" CardSet.decode,
  Decode.field "number" Decode.string]

def build (members : Decode.Members) : Except DecodeError Card := do
  let name ← members.required "name" Decode.string
  let supertype ← members.required "supertype" Decode.string
  let subtypes ← members.optional "subtypes" [] (Decode.list Decode.string)
  let hp ← members.optional "hp" none Decode.amount
  let types ← members.optional "types" [] (Decode.list Decode.energy)
  let weaknesses ← members.optional "weaknesses" [] (Decode.list Modifier.decode)
  let resistances ← members.optional "resistances" [] (Decode.list Modifier.decode)
  let retreatCost ← members.optional "retreatCost" [] (Decode.list Decode.energy)
  let evolvesFrom ← members.optional "evolvesFrom" none Decode.optionalString
  let attacks ← members.optional "attacks" [] (Decode.list Attack.decode)
  let set ← members.required "set" CardSet.decode
  let number ← members.required "number" Decode.string
  return {
    name, supertype, subtypes, hp, types, weaknesses, resistances, retreatCost, evolvesFrom,
    attacks, set, number }

def decode : Decoder Card := Decode.record "CardRecord" fields build

end Card
end CardText
