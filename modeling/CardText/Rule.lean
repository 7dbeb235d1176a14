import CardText.Template.Capture
import CardText.Trigger
import CardText.Effect

/-! A rule reads one wording: a template, and the script that the filled template
stands for. -/
namespace CardText

structure Rule where
  name : String
  template : Template
  /-- Any of these must be in a text that the rule reads; none means that it is always tried. -/
  triggers : List Trigger
  /-- Whether the script deals the base damage of the attack. -/
  usesDamage : Bool
  /-- Texts that the rule is meant to read. -/
  examples : List String
  /-- A wording that fits the template but makes no sense is refused. -/
  build : Bindings → Option Nat → Option Script

end CardText
