import CardText.Script.Method

/-! The printed script: a chain of calls, one line for each effect of the attack. A
frame prints its effects on the same line when they are few and none is a frame
itself, and as an indented block otherwise. -/
namespace CardText.Print

def pad (level : Nat) : String := "".pushn ' ' (4 * level)

def newline (level : Nat) : String := "\n" ++ pad level

def bracketed (items : List String) : String := "&[" ++ ", ".intercalate items ++ "]"

def typeName (name : String) : String := "Type::" ++ name

def typeList (energies : List Energy) : String :=
  bracketed (energies.map fun energy => typeName energy.name)

def arguments : Action → String
  | .damage n | .severePoison n | .selfDamage n | .damagePerHeads n | .heal n | .draw n => toString n
  | .flip 1 => ""
  | .flip n => toString n
  | .counterDamage _ n .times _ => toString n
  | .counterDamage base n _ _ => toString base ++ ", " ++ toString n
  | .extraEnergyDamage base n energy cap =>
      toString base ++ ", " ++ toString n ++ ", " ++ typeName energy.name ++ ", " ++ toString cap
  | .defendingEnergyDamage base n => toString base ++ ", " ++ toString n
  | .discardEnergy _ choice count => bracketed (List.replicate count (typeName choice.name))
  | .protect (.upTo n) => toString n
  | .changeOwnResistance list | .changeDefendingWeakness list => typeList list
  | _ => ""

def fitsLine (inlineLimit : Nat) (effects : Script) : Bool :=
  effects.all Effect.isAction && effects.length ≤ inlineLimit

mutual
def call (inlineLimit level : Nat) : Effect → String
  | .act action => "." ++ action.method ++ "(" ++ arguments action ++ ")"
  | .within frame effects =>
      "." ++ frame.method ++ "(" ++
        (if fitsLine inlineLimit effects then "|e| e" ++ calls inlineLimit level "" effects
        else
          "|e| \x7b" ++ newline (level + 1) ++ "e" ++
            calls inlineLimit (level + 2) (newline (level + 2)) effects ++ newline level ++ "\x7d") ++
        ")"

/-- Every call with the same text in front of it. -/
def calls (inlineLimit level : Nat) (front : String) : Script → String
  | [] => ""
  | effect :: effects =>
      front ++ call inlineLimit level effect ++ calls inlineLimit level front effects
end

def body (inlineLimit level : Nat) (cost : List Energy) (script : Script) : String :=
  pad level ++ "builder" ++ newline (level + 1) ++ ".attack_cost(" ++ typeList cost ++ ")" ++
    calls inlineLimit (level + 1) (newline (level + 1)) script

end CardText.Print
