import CardText.Energy
import CardText.Status

/-! What an attack does, as a tree: single actions in order, and frames that hold the
effects of a coin's side, of a damage check, of a bench sweep or of a cost. -/
namespace CardText

inductive Side where
  | attacking | defending
  deriving DecidableEq, Repr

/-- How damage counters enter the damage: added to a base, taken from it, or
multiplied without one. -/
inductive Scaling where
  | plus | minus | times
  deriving DecidableEq, Repr

/-- Protection that lasts through the opponent's next turn. -/
inductive Protection where
  | fromDamage
  | fromDamageAndEffects
  | upTo (amount : Nat)
  | coinFlip
  deriving DecidableEq, Repr

/-- The energy cards that a discard takes. -/
inductive EnergyChoice where
  | any
  | only (energy : Energy)
  deriving DecidableEq, Repr

def EnergyChoice.name : EnergyChoice → String
  | any => "Any"
  | only energy => energy.name

inductive Action where
  | damage (amount : Nat)
  | inflict (status : Status)
  | severePoison (counters : Nat)
  | flip (coins : Nat)
  | selfDamage (amount : Nat)
  | damagePerHeads (amount : Nat)
  | counterDamage (base perCounter : Nat) (scaling : Scaling) (countersOn : Side)
  | extraEnergyDamage (base perEnergy : Nat) (energy : Energy) (cap : Nat)
  | defendingEnergyDamage (base perCard : Nat)
  | halveRemainingHp
  | discardEnergy (side : Side) (choice : EnergyChoice) (count : Nat)
  | discardAllEnergy
  | healAll
  | heal (amount : Nat)
  | protect (protection : Protection)
  | onceWhileInPlay
  | switchDefending
  | disableDefendingAttack
  | copyDefendingAttack
  | changeOwnResistance (excluded : List Energy)
  | changeDefendingWeakness (excluded : List Energy)
  | draw (cards : Nat)
  | requireStatus (status : Status)
  | retaliate
  deriving DecidableEq, Repr

inductive Frame where
  | heads | tails | didDamage | ownBench | opponentBench | cost
  deriving DecidableEq, Repr

inductive Effect where
  | act (action : Action)
  | within (frame : Frame) (effects : List Effect)
  deriving Repr

abbrev Script := List Effect

namespace Effect

def isAction : Effect → Bool
  | act _ => true
  | within _ _ => false

mutual
/-- The effect, then what its frame holds, outermost first. -/
def walk : Effect → List Effect
  | act action => [act action]
  | within frame effects => within frame effects :: walkAll effects

def walkAll : List Effect → List Effect
  | [] => []
  | effect :: effects => walk effect ++ walkAll effects
end

end Effect

/-- Base damage; an attack without any deals none, which is not a damage of zero. -/
def strike : Option Nat → Script
  | none => []
  | some amount => [.act (.damage amount)]

end CardText
