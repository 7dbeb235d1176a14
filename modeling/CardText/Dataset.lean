import CardText.Card
import CardText.Json.Reader

/-! A dataset: documents of records, of which the creature cards are kept and grouped by
set. The groups stand in ascending order of their canonical names, the cards of a
group in the order of the documents. -/
namespace CardText

structure SetCards where
  set : CardSet
  cards : List Card
  deriving DecidableEq, Repr

namespace Dataset

def records : Json → Except Error (List Json)
  | .array records => .ok records
  | .object members =>
      match members.lookup "data" with
      | some (.array records) => .ok records
      | _ => .error (.document .noData)
  | _ => .error (.document .notCards)

def isCreatureRecord (record : Json) : Bool :=
  ((record.member? "supertype").bind Json.string?).any isCreatureSupertype

/-- A record that is no creature card may have any other shape. -/
def creature (record : Json) : Except Error Card :=
  match Card.decode record with
  | .ok card => .ok card
  | .error error =>
      let name := ((record.member? "name").bind Json.string?).getD "<unnamed>"
      .error (.malformed name (.shape error))

/-- Cards join the first group of the same canonical name. -/
def join (group : SetCards) : List SetCards → List SetCards
  | [] => [group]
  | first :: rest =>
      if first.set.canonicalName = group.set.canonicalName then
        { first with cards := first.cards ++ group.cards } :: rest
      else first :: join group rest

def arrange (groups : List SetCards) : List SetCards :=
  groups.mergeSort fun a b => a.set.canonicalName ≤ b.set.canonicalName

def group (cards : List Card) : List SetCards :=
  arrange (cards.foldl (fun groups card => join ⟨card.set, [card]⟩ groups) [])

def creatures (records : List Json) : Except Error (List Card) :=
  (records.filter isCreatureRecord).mapM creature

def parse (document : String) : Except Error Json := (Json.parse document).mapError .json

def load (document : String) : Except Error (List SetCards) := do
  let value ← parse document
  let records ← records value
  let cards ← creatures records
  return group cards

/-- Sets that several documents share become one group. -/
def loadAll (documents : List String) : Except Error (List SetCards) := do
  let loaded ← documents.mapM load
  return arrange (loaded.flatten.foldl (fun groups group => join group groups) [])

end Dataset
end CardText
