import CardText.Reading
import CardText.Script.Print
import CardText.Unit.Identifier

/-! Generated units. The unit of a set is a header, one implementation for each card in
the order of the set, and a registry of all of them. -/
namespace CardText

structure Options where
  /-- Printed for a resistance whose value states no number. -/
  defaultResistance : Nat := 30
  /-- As many effects of a frame print on one line. -/
  inlineLimit : Nat := 2
  deriving DecidableEq, Repr

structure SetUnit where
  canonicalName : String
  path : String
  contents : String
  deriving DecidableEq, Repr

namespace Emit

def text (lines : List String) : String := String.join (lines.map (· ++ "\n"))

def prelude : List String := [
  "use crate::*;",
  "use crate::state::Type;",
  "use crate::attack_builder::AttackBuilder;",
  "use crate::carddb::Pokemon;"]

def header (set : CardSet) : List String := [
  "// Generated by cardgen from the " ++ Text.quoted set.name ++ " dataset (" ++ set.shortCode ++
    "). Do not edit by hand.",
  ""]

def stage : Stage → String
  | .basic => "basic!()"
  | .stage1 predecessor => "stage1!(" ++ Text.quoted predecessor ++ ")"
  | .stage2 predecessor => "stage2!(" ++ Text.quoted predecessor ++ ")"

def energies (list : List Energy) : String := ", ".intercalate (list.map Energy.name)

def weakness (modifiers : List Modifier) : String :=
  if modifiers.isEmpty then "no_weakness!()"
  else "weak_to!(" ++ energies (modifiers.map Modifier.energy) ++ ")"

/-- All types share the first number that one of them states. -/
def resistance (options : Options) (modifiers : List Modifier) : String :=
  if modifiers.isEmpty then "no_resistance!()"
  else
    let amount := (modifiers.findSome? Modifier.amount?).getD options.defaultResistance
    "resists!(" ++ energies (modifiers.map Modifier.energy) ++ ", " ++ toString amount ++ ")"

def color (types : List Energy) : String := energies (if types.isEmpty then [.colorless] else types)

def metadata (options : Options) (read : ReadCard) : List String :=
  let card := read.card
  [ "identifier!(" ++ Text.quoted card.identifier ++ ")",
    "card_name!(" ++ Text.quoted card.name ++ ")",
    stage read.stage,
    "hp!(" ++ toString read.hp ++ ")",
    "color!(" ++ color card.types ++ ")",
    weakness card.weaknesses,
    resistance options card.resistances,
    "retreat!(" ++ toString card.retreat ++ ")"]

def actions : List String := [
  "",
  "    fn card_actions(&self, _player: Player, _card: &Card, _engine: &GameEngine) -> Vec<Action> \x7b",
  "        vec![]",
  "    \x7d",
  "    fn execute(&self, _player: Player, _card: &Card, engine: &GameEngine, _dm: &mut dyn DecisionMaker) -> GameEngine \x7b",
  "        engine.clone()",
  "    \x7d"]

structure Procedure where
  name : String
  attack : ReadAttack

def procedures (attacks : List ReadAttack) : List Procedure :=
  let names := Identifier.uniqueAll [] (attacks.map fun read => Identifier.procedureName read.attack.name)
  List.zipWith Procedure.mk names attacks

def attackEntry (procedure : Procedure) : String :=
  "            Attack::new(" ++ Text.quoted procedure.attack.attack.name ++ ", " ++
    Print.typeList procedure.attack.attack.cost ++ ", Self::" ++ procedure.name ++ "),"

def attackList (procedures : List Procedure) : List String :=
  if procedures.isEmpty then ["        vec![]"]
  else ["        vec!["] ++ procedures.map attackEntry ++ ["        ]"]

/-- An attack that no rule could read is left as a stub. -/
def definition (options : Options) (procedure : Procedure) : List String :=
  match procedure.attack.script with
  | some script => [
      "    pub fn " ++ procedure.name ++ "(builder: AttackBuilder) -> AttackBuilder \x7b",
      Print.body options.inlineLimit 2 procedure.attack.attack.cost script,
      "    \x7d"]
  | none => [
      "    pub fn " ++ procedure.name ++ "(_builder: AttackBuilder) -> AttackBuilder \x7b",
      "        unimplemented!();",
      "    \x7d"]

def cardLines (options : Options) (name : String) (read : ReadCard) : List String :=
  let procedures := procedures read.attacks
  [ "#[derive(Default)]",
    "pub struct " ++ name ++ " \x7b\x7d",
    "impl CardArchetype for " ++ name ++ " \x7b"] ++
  (metadata options read).map (fun item => "    " ++ item ++ ";") ++
  actions ++
  ["    fn attacks(&self) -> Vec<Attack> \x7b"] ++
  attackList procedures ++
  [ "    \x7d",
    "\x7d",
    "impl " ++ name ++ " \x7b"] ++
  procedures.flatMap (definition options) ++
  ["\x7d"]

def structName (read : ReadCard) : String := Identifier.structName read.card.name read.card.number

def card (options : Options) (read : ReadCard) : String :=
  text (cardLines options (structName read) read)

def registry (names : List String) : List String :=
  [ "pub fn build() -> Vec<(String, Box<dyn CardArchetype>)> \x7b",
    "    let mut entries: Vec<(String, Box<dyn CardArchetype>)> = vec![];",
    "    for boxed in ["] ++
  names.map (fun name => "        Pokemon::create::<" ++ name ++ ">(),") ++
  [ "    ] \x7b",
    "        entries.push((boxed.identifier(), boxed));",
    "    \x7d",
    "    entries",
    "\x7d"]

def structNames (read : ReadSet) : List String :=
  Identifier.uniqueAll [] (read.cards.map structName)

def contents (options : Options) (read : ReadSet) : String :=
  let names := structNames read
  let cards := List.zipWith (fun name card => "" :: cardLines options name card) names read.cards
  text (header read.set ++ prelude ++ cards.flatten ++ "" :: registry names)

def path (canonicalName : String) : String :=
  if canonicalName.isEmpty then "pokemon.rs" else canonicalName ++ "/pokemon.rs"

def set (options : Options) (read : ReadSet) : SetUnit :=
  let name := read.set.canonicalName
  ⟨name, path name, contents options read⟩

end Emit
end CardText
