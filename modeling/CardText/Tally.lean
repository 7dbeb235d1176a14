/-! Counts by key, in ascending order of the keys and each key once, so that two tallies
of the same counts are equal. -/
namespace CardText

abbrev Tally (α : Type) := List (α × Nat)

variable {α : Type} [LT α] [DecidableLT α] [DecidableEq α]

namespace Tally

def add (key : α) (count : Nat) : Tally α → Tally α
  | [] => [(key, count)]
  | (a, n) :: rest =>
      if key = a then (a, n + count) :: rest
      else if key < a then (key, count) :: (a, n) :: rest
      else (a, n) :: add key count rest

def merge (into other : Tally α) : Tally α :=
  other.foldl (fun tally (key, count) => tally.add key count) into

def total (tally : Tally α) : Nat := tally.foldl (fun total entry => total + entry.2) 0

end Tally

/-- A set as an ascending list. -/
def insertAscending (a : α) : List α → List α
  | [] => [a]
  | b :: rest =>
      if a = b then b :: rest
      else if a < b then a :: b :: rest
      else b :: insertAscending a rest

def unionAscending (into other : List α) : List α := other.foldl (fun set a => insertAscending a set) into

end CardText
