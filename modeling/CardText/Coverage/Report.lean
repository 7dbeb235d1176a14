import CardText.Coverage.Fragment
import CardText.Reading
import CardText.Script.Method

/-! How much of a dataset the grammar reads: counts of attacks, the effects in use, and the
shapes of the wordings that no rule could read. -/
namespace CardText

structure Coverage where
  total : Nat
  unread : Nat
  rules : Nat
  usage : Usage
  methods : List String
  groups : Tally (List String)
  deriving DecidableEq, Repr

structure Coverage.Entry where
  fragments : List String
  count : Nat
  deriving DecidableEq, Repr

namespace Coverage

def empty (rules : Nat) : Coverage := ⟨0, 0, rules, .empty, [], []⟩

def read (coverage : Coverage) : Nat := coverage.total - coverage.unread

def addAttack (coverage : Coverage) (owner : String) (attack : ReadAttack) : Coverage :=
  match attack.script with
  | some script =>
      { coverage with
        total := coverage.total + 1
        methods := unionAscending coverage.methods (Script.methods script) }
  | none =>
      { coverage with
        total := coverage.total + 1
        unread := coverage.unread + 1
        groups := coverage.groups.add (Fragment.ofText attack.attack.text owner) 1 }

def addCard (coverage : Coverage) (read : ReadCard) : Coverage :=
  read.attacks.foldl (fun coverage attack => coverage.addAttack read.card.name attack) coverage

def ofSet (rules : Nat) (read : ReadSet) : Coverage :=
  let coverage := read.cards.foldl addCard (empty rules)
  { coverage with usage := coverage.usage.merge read.usage }

/-- The size of the grammar is not a count and is not added. -/
def merge (coverage other : Coverage) : Coverage where
  total := coverage.total + other.total
  unread := coverage.unread + other.unread
  rules := max coverage.rules other.rules
  usage := coverage.usage.merge other.usage
  methods := unionAscending coverage.methods other.methods
  groups := coverage.groups.merge other.groups

/-- The most frequent group first, equally frequent ones in the order of their fragments. -/
def Entry.precedes (a b : Entry) : Bool :=
  b.count < a.count || (a.count == b.count && !(b.fragments < a.fragments))

def entries (coverage : Coverage) : List Entry :=
  (coverage.groups.map fun (fragments, count) => ⟨fragments, count⟩).mergeSort Entry.precedes

end Coverage
end CardText
