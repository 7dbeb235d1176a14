import CardText.Tally

/-! How often each rule read an attack over a run, and how many attacks no rule read. -/
namespace CardText

structure Usage where
  hits : Tally String
  misses : Nat
  deriving DecidableEq, Repr

namespace Usage

def empty : Usage := ⟨[], 0⟩

/-- Records a dispatch by the rule that decided it, if one did. -/
def record (usage : Usage) (matched : Option String) : Usage :=
  match matched with
  | some rule => { usage with hits := usage.hits.add rule 1 }
  | none => { usage with misses := usage.misses + 1 }

def merge (usage other : Usage) : Usage := ⟨usage.hits.merge other.hits, usage.misses + other.misses⟩

def rulesFired (usage : Usage) : Nat := usage.hits.length

end Usage
end CardText
