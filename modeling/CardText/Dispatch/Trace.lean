import CardText.Dispatch
import CardText.Text.Quoted

/-! What a dispatch did, line by line, for a reader who asks why a rule was chosen. -/
namespace CardText.Trace

def triggers : List Trigger → String
  | [] => "BucketMask(0x0)"
  | present => "BucketMask(" ++ " | ".intercalate (present.map Trigger.name) ++ ")"

def capture : Capture → String
  | .number n => "Number(" ++ toString n ++ ")"
  | .text word => "Text(" ++ Text.quoted word ++ ")"

/-- Slots in the order of their names. -/
def bindings (bindings : Bindings) : String :=
  let sorted := bindings.mergeSort fun a b => a.1 ≤ b.1
  let shown := sorted.map fun (slot, held) => Text.quoted slot ++ ": " ++ capture held
  "Bindings \x7b values: \x7b" ++ ", ".intercalate shown ++ "\x7d \x7d"

def winner (winner : Winner) (damage : Option Nat) : String :=
  let named := " name=\"" ++ winner.rule.name ++ "\" bindings=" ++ bindings winner.bindings
  match winner.outcome damage with
  | .matched _ _ script => "[rule:match]" ++ named ++ " nodes=" ++ toString script.length
  | _ => "[rule:rejected]" ++ named

def lines (dispatcher : Dispatcher) (text : String) (damage : Option Nat) : List String :=
  let present := Trigger.scan text
  let active := dispatcher.active present
  [ "[trigger_scan] text=" ++ Text.quoted text ++ " buckets=" ++ triggers present,
    "[active_rules] " ++ toString active.length ++ "/" ++ toString dispatcher.rules.length ++
      " rules active",
    match dispatcher.scan text 0 active with
    | (some found, _) => winner found damage
    | (none, tried) => "[rule:miss] tried=" ++ toString tried]

end CardText.Trace
