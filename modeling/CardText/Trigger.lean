import CardText.Text.Ascii

/-! Triggers: cheap signs in a text, each of which a rule may name as necessary for its
wording. A rule without any of its triggers need not be tried. -/
namespace CardText

inductive Trigger where
  | digits | coin | bench | discard | nextTurn | defending
  deriving DecidableEq, Repr

namespace Trigger

def all : List Trigger := [digits, coin, bench, discard, nextTurn, defending]

def name : Trigger → String
  | digits => "HAS_DIGITS"
  | coin => "COIN"
  | bench => "BENCH"
  | discard => "DISCARD"
  | nextTurn => "NEXT_TURN"
  | defending => "DEFENDING"

/-- The weight of the trigger in a mask. -/
def bit : Trigger → Nat
  | digits => 0
  | coin => 1
  | bench => 2
  | discard => 3
  | nextTurn => 4
  | defending => 5

def contains (word : List Char) : List Char → Bool
  | [] => word.isEmpty
  | c :: rest => word.isPrefixOf (c :: rest) || contains word rest

/-- Words are found in any case, inside other words too. -/
def isIn (text : List Char) : Trigger → Bool
  | digits => text.any Char.isDigit
  | coin => contains "coin".toList (Text.lowerAscii text)
  | bench => contains "bench".toList (Text.lowerAscii text)
  | discard => contains "discard".toList (Text.lowerAscii text)
  | nextTurn => contains "next turn".toList (Text.lowerAscii text)
  | defending => contains "defending".toList (Text.lowerAscii text)

/-- The triggers of a text, in the order of `all`. -/
def scan (text : String) : List Trigger := all.filter (isIn text.toList)

/-- Bits above the known ones are ignored. -/
def ofMask (mask : Nat) : List Trigger := all.filter fun trigger => mask.testBit trigger.bit

def mask (triggers : List Trigger) : Nat :=
  triggers.foldl (fun mask trigger => mask + Nat.pow 2 trigger.bit) 0

end Trigger
end CardText
