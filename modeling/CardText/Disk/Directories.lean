import CardText.Disk.OsError
import CardText.Disk.Path

/-! A directory made with those above it that are missing. The climb starts at the path
itself and ends at the first directory that is there or can be made; what it passed is
made on the way down. -/
namespace CardText.Directories

variable {m : Type → Type} [Monad m]
variable (make : String → m (Except OsError Unit)) (isDirectory : String → m Bool)

/-- Makes one directory, unless it is there already. -/
def ensure (path : String) : m (Except OsError Unit) := do
  match ← make path with
  | .error .alreadyExists =>
      if ← isDirectory path then return .ok () else return .error .alreadyExists
  | result => return result

/-- The directories that wait for one above them, the highest first. -/
def climb (waiting : List String) : List String → m (Except OsError (List String))
  | [] => return .ok waiting
  | path :: above => do
      match ← ensure make isDirectory path with
      | .ok () => return .ok waiting
      | .error .noSuchFile => climb (path :: waiting) above
      | .error cause => return .error cause

def descend : List String → m (Except OsError Unit)
  | [] => return .ok ()
  | path :: below => do
      match ← ensure make isDirectory path with
      | .ok () => descend below
      | .error cause => return .error cause

def create (path : String) : m (Except OsError Unit) := do
  match ← climb make isDirectory [] (Path.ancestors path) with
  | .ok waiting => descend make isDirectory waiting
  | .error cause => return .error cause

end CardText.Directories
