import CardText.Energy
import CardText.Json

/-! Records read from document values. The members of an object are checked in the order
of their keys, so the first bad one is reported; a missing member is reported only when
all that are present are good. A record may also be a list of its members. -/
namespace CardText

inductive DecodeError where
  | wrongType (found expected : String)
  | wrongLength (length : Nat) (expected : String)
  | unknownEnergy (name : String)
  | notSingleKey
  | missingField (key : String)
  | badNumber (shown : String)
  | notNumberOrString (shown : String)
  deriving DecidableEq, Repr

def DecodeError.message : DecodeError → String
  | wrongType found expected => "invalid type: " ++ found ++ ", expected " ++ expected
  | wrongLength length expected => "invalid length " ++ toString length ++ ", expected " ++ expected
  | unknownEnergy name =>
      "unknown variant `" ++ name ++ "`, expected one of " ++
        ", ".intercalate (Energy.all.map fun energy => "`" ++ energy.name ++ "`")
  | notSingleKey => "invalid value: map, expected map with a single key"
  | missingField key => "missing field `" ++ key ++ "`"
  | badNumber shown => "invalid number " ++ shown
  | notNumberOrString shown => "expected a number or string, got " ++ shown

abbrev Decoder (α : Type) := Json → Except DecodeError α

namespace Decode

def describe : Json → String
  | .null => "null"
  | .bool value => "boolean `" ++ (if value then "true" else "false") ++ "`"
  | .number (.integer n) => "integer `" ++ toString n ++ "`"
  | .number (.float negative magnitude) =>
      "floating point `" ++ (JsonNumber.float negative magnitude).text ++ "`"
  | .string value => "string " ++ Text.quoted value
  | .array _ => "sequence"
  | .object _ => "map"

def unexpected {α : Type} (found : Json) (expected : String) : Except DecodeError α :=
  .error (.wrongType (describe found) expected)

def string : Decoder String
  | .string value => .ok value
  | found => unexpected found "a string"

def optionalString : Decoder (Option String)
  | .null => .ok none
  | found => (string found).map some

def list {α : Type} (item : Decoder α) : Decoder (List α)
  | .array items => items.mapM item
  | found => unexpected found "a sequence"

def energyNamed (name : String) : Except DecodeError Energy :=
  match Energy.ofName? name with
  | some energy => .ok energy
  | none => .error (.unknownEnergy name)

/-- A type is its name, or an object of one member of that name without a value. -/
def energy : Decoder Energy
  | .string name => energyNamed name
  | .object [(name, value)] => do
      let energy ← energyNamed name
      match value with
      | .null => return energy
      | found => unexpected found "unit"
  | .object _ => .error .notSingleKey
  | found => unexpected found "string or map"

/-- Hit points or damage: a whole number, or a text that opens with one. Blank text is no
number at all. -/
def amount : Decoder (Option Nat)
  | .null => .ok none
  | .number value =>
      match value with
      | .integer (.ofNat n) =>
          match Text.amount? n with
          | some n => .ok (some n)
          | none => .error (.badNumber value.text)
      | _ => .error (.badNumber value.text)
  | .string text =>
      if Text.isBlank text.toList then .ok none
      else
        match Text.leadingAmount? text.toList with
        | some n => .ok (some n)
        | none => .error (.badNumber (Text.quoted text))
  | found => .error (.notNumberOrString found.compact)

structure Field where
  key : String
  check : Json → Except DecodeError Unit

def field {α : Type} (key : String) (decoder : Decoder α) : Field :=
  ⟨key, fun value => (decoder value).map fun _ => ()⟩

structure Members where
  entries : List (String × Json)
  missing : String → DecodeError

def Members.required {α : Type} (members : Members) (key : String) (decoder : Decoder α) :
    Except DecodeError α :=
  match members.entries.lookup key with
  | some value => decoder value
  | none => .error (members.missing key)

def Members.optional {α : Type} (members : Members) (key : String) (default : α)
    (decoder : Decoder α) : Except DecodeError α :=
  match members.entries.lookup key with
  | some value => decoder value
  | none => .ok default

def checkEntries (fields : List Field) (entries : List (String × Json)) : Except DecodeError Unit :=
  entries.forM fun (key, value) =>
    match fields.find? (·.key == key) with
    | some field => field.check value
    | none => .ok ()

def record {α : Type} (name : String) (fields : List Field)
    (build : Members → Except DecodeError α) : Decoder α
  | .object entries => do
      checkEntries fields entries
      build ⟨entries, .missingField⟩
  | .array items => do
      let keys := fields.map Field.key
      let entries := keys.zip items
      checkEntries fields entries
      let short := "struct " ++ name ++ " with " ++ toString keys.length ++ " elements"
      let built ← build ⟨entries, fun key => .wrongLength (keys.idxOf key) short⟩
      if keys.length < items.length then
        .error (.wrongLength items.length "fewer elements in array")
      else return built
  | found => unexpected found ("struct " ++ name)

end Decode
end CardText
