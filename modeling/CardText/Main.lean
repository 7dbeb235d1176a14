import CardText.Cli.Program
import CardText.Disk.Directories

/-! The command on the disk of the machine. -/
namespace CardText.Machine

/-- The number of a failure; some libraries count it downwards from zero. -/
def failureNumber (code : UInt32) : Nat :=
  if code.toNat < 2147483648 then code.toNat else 4294967296 - code.toNat

def numbered (code : UInt32) (details : String) : OsError :=
  match failureNumber code with
  | 2 => .noSuchFile
  | 16 => .busy
  | 17 => .alreadyExists
  | 20 => .notADirectory
  | 21 => .isADirectory
  | 36 => .nameTooLong
  | n => .other (details ++ " (os error " ++ toString n ++ ")")

def cause : IO.Error → OsError
  | .noFileOrDirectory _ code details | .alreadyExists _ code details
  | .inappropriateType _ code details | .resourceBusy code details
  | .permissionDenied _ code details | .invalidArgument _ code details
  | .resourceExhausted _ code details | .otherError code details => numbered code details
  | error => .other (toString error)

def attempt {α : Type} (operation : IO α) : IO (Except OsError α) := do
  try
    return .ok (← operation)
  catch error => return .error (cause error)

def readText (path : String) : IO (Except OsError String) := do
  match ← attempt (IO.FS.readBinFile path) with
  | .error cause => return .error cause
  | .ok content =>
      match String.fromUTF8? content with
      | some text => return .ok text
      | none => return .error .invalidText

def isDirectory (path : String) : IO Bool := do
  try
    (← IO.FS.realPath path).isDir
  catch _ => return false

def disk : Disk IO where
  readText := readText
  createDirectories :=
    Directories.create (fun path => attempt (IO.FS.createDir path)) isDirectory
  writeText path text := attempt (IO.FS.writeFile path text)
  rename path new := attempt (IO.FS.rename path new)

end CardText.Machine

def main (arguments : List String) : IO UInt32 := do
  let trace := (← IO.getEnv "CARDGEN_DEBUG_RULES").isSome
  let color ← (← IO.getStderr).isTty
  let exit ← CardText.Cli.program CardText.Machine.disk trace color arguments
  (← IO.getStdout).putStr exit.stdout
  (← IO.getStderr).putStr exit.stderr
  return exit.code.toUInt32
