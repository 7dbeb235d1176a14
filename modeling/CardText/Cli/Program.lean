import CardText.Cli.Arguments
import CardText.Cli.Summary
import CardText.Disk.Write

/-! The command: all datasets are read before any is compiled, and all are compiled before
any unit is written. -/
namespace CardText.Cli

structure Exit where
  code : Nat
  stdout : String
  stderr : String
  deriving DecidableEq, Repr

variable {m : Type → Type} [Monad m]

def readAll (disk : Disk m) : List String → m (Except Error (List String))
  | [] => return .ok []
  | path :: paths => do
      match ← disk.readText path with
      | .error cause => return .error (.io path cause)
      | .ok document =>
          match ← readAll disk paths with
          | .error error => return .error error
          | .ok documents => return .ok (document :: documents)

def failed (before : List String) (error : Error) : Exit :=
  ⟨1, "", Emit.text (before ++ ["error: " ++ error.message])⟩

def writeAll (disk : Disk m) (config : Config) (before : List String) (generation : Generation) :
    m Exit := do
  let before := before ++ if config.report then summary config.color generation else []
  if config.check then return ⟨0, "", Emit.text before⟩
  else
    match ← Write.units disk config.out generation.units with
    | .error error => return failed before error
    | .ok paths => return ⟨0, "", Emit.text (before ++ paths.map ("wrote " ++ ·))⟩

def run (disk : Disk m) (trace : Bool) (config : Config) : m Exit := do
  match ← readAll disk config.inputs with
  | .error error => return failed [] error
  | .ok documents =>
      match Dataset.loadAll documents with
      | .error error => return failed [] error
      | .ok groups =>
          let traces := if trace then defaultDispatcher.traces groups else []
          match Generation.ofGroups config.options groups with
          | .error error => return failed traces error
          | .ok generation => writeAll disk config traces generation

/-- `color` is the default that an argument may change. -/
def program (disk : Disk m) (trace color : Bool) (arguments : List String) : m Exit :=
  match parse color arguments with
  | .error error => return ⟨2, "", error.message ++ "\n"⟩
  | .ok .help => return ⟨0, help ++ "\n", ""⟩
  | .ok .version => return ⟨0, "cardgen " ++ version ++ "\n", ""⟩
  | .ok (.run config) => run disk trace config

end CardText.Cli
