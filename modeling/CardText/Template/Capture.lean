import CardText.Template
import CardText.Energy

/-! What a slot holds: an amount if it is made of ASCII digits and not too large, its
text otherwise. -/
namespace CardText

inductive Capture where
  | number (n : Nat)
  | text (word : String)
  deriving DecidableEq, Repr

namespace Capture

def ofChars (filled : List Char) : Capture :=
  match Text.amountOfDigits? filled with
  | some n => number n
  | none => text (String.ofList filled)

def number? : Capture → Option Nat
  | number n => some n
  | text _ => none

def text? : Capture → Option String
  | number n => some (toString n)
  | text word => some word

def status? : Capture → Option Status
  | number _ => none
  | text word => Status.ofProse? word

def energy? : Capture → Option Energy
  | number _ => none
  | text word => Energy.ofProse? word

end Capture

abbrev Bindings := List (String × Capture)

namespace Bindings

def get? (bindings : Bindings) (slot : String) : Option Capture := bindings.lookup slot

def number? (bindings : Bindings) (slot : String) : Option Nat :=
  (bindings.get? slot).bind Capture.number?

def status? (bindings : Bindings) (slot : String) : Option Status :=
  (bindings.get? slot).bind Capture.status?

def energy? (bindings : Bindings) (slot : String) : Option Energy :=
  (bindings.get? slot).bind Capture.energy?

end Bindings

def Template.bind? (template : Template) (text : String) : Option Bindings :=
  (template.fill? text.toList).map fun filled =>
    filled.map fun (slot, chars) => (slot, Capture.ofChars chars)

end CardText
