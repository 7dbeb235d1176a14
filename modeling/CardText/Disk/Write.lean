import CardText.Disk
import CardText.Disk.Path
import CardText.Error
import CardText.Unit

/-! Units written to a disk. Each goes to a staging file beside its own first and is then
renamed, so that no unit is ever half written; the first failure ends the writing. -/
namespace CardText.Write

variable {m : Type → Type} [Monad m]

def stagingPath (path : String) : String := Path.withExtension path "rs.tmp"

def attempt (path : String) (operation : m (Except OsError Unit)) (next : m (Except Error Unit)) :
    m (Except Error Unit) := do
  match ← operation with
  | .error cause => return .error (.io path cause)
  | .ok () => next

def unit (disk : Disk m) (path contents : String) : m (Except Error Unit) :=
  let staged :=
    attempt (stagingPath path) (disk.writeText (stagingPath path) contents) <|
      attempt path (disk.rename (stagingPath path) path) (return .ok ())
  match Path.parent? path with
  | some parent => attempt parent (disk.createDirectories parent) staged
  | none => staged

/-- The paths written, in order. -/
def units (disk : Disk m) (out : String) : List SetUnit → m (Except Error (List String))
  | [] => return .ok []
  | first :: rest => do
      let path := Path.join out first.path
      match ← unit disk path first.contents with
      | .error error => return .error error
      | .ok () =>
          match ← units disk out rest with
          | .error error => return .error error
          | .ok paths => return .ok (path :: paths)

end CardText.Write
