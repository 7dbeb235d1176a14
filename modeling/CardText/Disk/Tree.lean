import CardText.Disk
import CardText.Disk.Directories

/-! A disk in memory: a tree of directories and files. -/
namespace CardText

inductive Node where
  | file (content : ByteArray)
  | directory (entries : List (String × Node))

namespace Node

def isDirectory : Node → Bool
  | file _ => false
  | directory _ => true

def entries : Node → List (String × Node)
  | file _ => []
  | directory entries => entries

def find? (node : Node) : List String → Option Node
  | [] => some node
  | name :: names =>
      match node.entries.lookup name with
      | some child => child.find? names
      | none => none

def setEntry (name : String) (child : Node) (entries : List (String × Node)) :
    List (String × Node) :=
  entries.filter (·.1 != name) ++ [(name, child)]

/-- What stands at the place is replaced. -/
def put (node new : Node) : List String → Node
  | [] => new
  | name :: names =>
      let child := (node.entries.lookup name).getD (directory [])
      directory (setEntry name (child.put new names) node.entries)

def remove (node : Node) : List String → Node
  | [] => node
  | [name] => directory (node.entries.filter (·.1 != name))
  | name :: names =>
      match node.entries.lookup name with
      | some child => directory (setEntry name (child.remove names) node.entries)
      | none => node

/-- The longest name in bytes, and the longest path. -/
def longestName : Nat := 255

def longestPath : Nat := 4095

structure Found where
  place : List String
  node? : Option Node

/-- Follows names from a place. All but the last must be directories that are there. -/
def follow (root : Node) (place : List String) : List String → Except OsError Found
  | [] => .ok ⟨place, root.find? place⟩
  | name :: names =>
      match root.find? place with
      | none => .error .noSuchFile
      | some (file _) => .error .notADirectory
      | some (directory entries) =>
          if name == "." then follow root place names
          else if name == ".." then follow root place.dropLast names
          else if name.utf8ByteSize > longestName then .error .nameTooLong
          else if (entries.lookup name).isNone && !names.isEmpty then .error .noSuchFile
          else follow root (place ++ [name]) names

/-- Where a path begins, for one who stands at `here`. -/
def start (here : List String) (path : String) : List String :=
  if Path.isAbsolute path then [] else here

def checkPath (path : String) : Except OsError Unit :=
  if path.isEmpty then .error .noSuchFile
  else if path.contains '\x00' then .error .nulInName
  else if path.utf8ByteSize > longestPath then .error .nameTooLong
  else .ok ()

def locate (root : Node) (here : List String) (path : String) : Except OsError Found := do
  checkPath path
  root.follow (start here path) (Path.steps path)

/-- The place of an entry to be made. Its directory must be there, and no entry can be made at
`.`, at `..` or at the root, for which the cause is given. -/
def locateEntry (root : Node) (here : List String) (taken : OsError) (path : String) :
    Except OsError Found := do
  checkPath path
  match (Path.names path).getLast? with
  | none => .error taken
  | some name =>
      let parent ← root.follow (start here path) ((Path.names path).dropLast ++ ["."])
      if name == "." || name == ".." then .error taken
      else root.follow parent.place [name]

end Node

namespace Tree

abbrev TreeM := StateM Node

variable (here : List String)

def readText (path : String) : TreeM (Except OsError String) := do
  let root ← get
  match root.locate here path with
  | .error cause => return .error cause
  | .ok found =>
      match found.node? with
      | none => return .error .noSuchFile
      | some (.directory _) => return .error .isADirectory
      | some (.file content) =>
          match String.fromUTF8? content with
          | some text => return .ok text
          | none => return .error .invalidText

def makeDirectory (path : String) : TreeM (Except OsError Unit) := do
  let root ← get
  match root.locateEntry here .alreadyExists path with
  | .error cause => return .error cause
  | .ok found =>
      if found.node?.isSome then return .error .alreadyExists
      else do
        set (root.put (.directory []) found.place)
        return .ok ()

def isDirectory (path : String) : TreeM Bool := do
  let root ← get
  match root.locate here path with
  | .error _ => return false
  | .ok found => return found.node?.any Node.isDirectory

def createDirectories (path : String) : TreeM (Except OsError Unit) :=
  Directories.create (makeDirectory here) (isDirectory here) path

def writeText (path text : String) : TreeM (Except OsError Unit) := do
  let root ← get
  match root.locate here path with
  | .error cause => return .error cause
  | .ok found =>
      if found.node?.any Node.isDirectory then return .error .isADirectory
      else do
        set (root.put (.file text.toUTF8) found.place)
        return .ok ()

/-- A file takes the place of a file, never of a directory. -/
def rename (path new : String) : TreeM (Except OsError Unit) := do
  let root ← get
  match root.locate here path, root.locateEntry here .busy new with
  | .error cause, _ => return .error cause
  | _, .error cause => return .error cause
  | .ok old, .ok target =>
      match old.node? with
      | none => return .error .noSuchFile
      | some node =>
          if new.endsWith "/" then return .error .notADirectory
          else if target.node?.any Node.isDirectory then return .error .isADirectory
          else do
            set ((root.remove old.place).put node target.place)
            return .ok ()

/-- The disk as one sees it who stands at `here`. -/
def disk : Disk TreeM := ⟨readText here, createDirectories here, writeText here, rename here⟩

end Tree
end CardText
