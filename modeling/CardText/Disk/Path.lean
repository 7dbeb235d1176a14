import CardText.Text.Trim

/-! Paths as they are written: names between slashes. -/
namespace CardText.Path

def join (base path : String) : String :=
  if path.startsWith "/" then path
  else if base.isEmpty || base.endsWith "/" then base ++ path
  else base ++ "/" ++ path

/-- Slashes at the end, and names `.` that a slash precedes, in a reversed path. -/
def dropTrailing : List Char → List Char
  | '/' :: rest => dropTrailing rest
  | '.' :: '/' :: rest => dropTrailing rest
  | rest => rest

structure Split where
  /-- Up to the last name, with its slash. -/
  before : List Char
  name : List Char

/-- The last name of a path and what stands before it. -/
def split (path : String) : Split :=
  let reversed := dropTrailing path.toList.reverse
  ⟨(reversed.dropWhile (· != '/')).reverse, (reversed.takeWhile (· != '/')).reverse⟩

/-- The directory of the last name; a path without a name has none. -/
def parent? (path : String) : Option String :=
  let parts := split path
  let kept := (dropTrailing parts.before.reverse).reverse
  if parts.name.isEmpty then none
  else if kept.isEmpty && path.startsWith "/" then some "/"
  else some (String.ofList kept)

/-- The path and the directories above it, as far as they have names, the deepest first. A
directory is written shorter than what is in it, so the length bounds their number. -/
def ancestorsWithin : Nat → String → List String
  | 0, _ => []
  | n + 1, path =>
      match parent? path with
      | none => []
      | some parent => path :: ancestorsWithin n parent

def ancestors (path : String) : List String := ancestorsWithin path.length path

/-- What follows the last period of a name, unless that is its first character. -/
def extension? (name : List Char) : Option (List Char) :=
  match name.reverse.span (· != '.') with
  | (_, []) => none
  | (_, [_]) => none
  | (reversed, _) => some reversed.reverse

/-- The name up to its last period, unless that is the first character. -/
def stem (name : List Char) : List Char :=
  match extension? name with
  | none => name
  | some old => name.take (name.length - old.length - 1)

def isPlainName (name : List Char) : Bool := !name.isEmpty && name != ['.'] && name != ['.', '.']

/-- The path less as many characters as its extension has. -/
def cutExtension (path : String) : String :=
  let name := (split path).name
  let old := if isPlainName name then (extension? name).getD [] else []
  String.ofList (path.toList.take (path.length - old.length))

/-- The path with another extension to its last name. The old one is cut first: what is left
of `..x` is `..`, which takes none. -/
def withExtension (path ext : String) : String :=
  let cut := cutExtension path
  let parts := split cut
  if isPlainName parts.name then
    String.ofList (parts.before ++ stem parts.name ++ '.' :: ext.toList)
  else cut

/-- The names on the way. -/
def names (path : String) : List String :=
  ((Text.splitAt (· == '/') path.toList).map String.ofList).filter (!·.isEmpty)

/-- A slash at the end asks for a directory, as the name `.` does. -/
def steps (path : String) : List String :=
  if path.endsWith "/" then names path ++ ["."] else names path

def isAbsolute (path : String) : Bool := path.startsWith "/"

end CardText.Path
