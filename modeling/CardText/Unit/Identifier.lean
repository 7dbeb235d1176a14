import CardText.Text.Ascii
import CardText.Text.Replace

/-! Names in a generated unit. A name keeps the ASCII letters and digits of a title, and a
name that is taken already gets a number. -/
namespace CardText.Identifier

/-- Words that the generated language keeps for itself. -/
def reservedWords : List String := [
  "abstract", "as", "async", "await", "become", "box", "break", "const", "continue", "crate",
  "do", "dyn", "else", "enum", "extern", "false", "final", "fn", "for", "gen", "if", "impl", "in",
  "let", "loop", "macro", "match", "mod", "move", "mut", "override", "priv", "pub", "ref",
  "return", "self", "static", "struct", "super", "trait", "true", "try", "type", "typeof",
  "unsafe", "unsized", "use", "virtual", "where", "while", "yield"]

def dropAccent (c : Char) : Char :=
  if c == 'é' || c == 'è' || c == 'ê' then 'e' else if c == 'É' then 'E' else c

/-- Signs that stand for letters. -/
def spellSigns (male female contracted : String) (title : List Char) : List Char :=
  Text.replaceAll "’d" contracted
    (Text.replaceAll "'d" contracted
      (Text.replaceAll "♀" female (Text.replaceAll "♂" male title)))

/-- "Farfetch'd", "27" gives `FarfetchD27`. -/
def structChars (name number : List Char) : List Char :=
  let letters := (spellSigns "M" "F" "D" name).map dropAccent
  let ident := letters.filter Char.isAlphanum ++ number.filter Char.isAlphanum
  if ident.head?.any Char.isAlpha then ident else "Card".toList ++ ident

def structName (name number : String) : String :=
  String.ofList (structChars name.toList number.toList)

def separatesWords (c : Char) : Bool := c == ' ' || c == '-' || c == '_'

/-- The words in small letters; the name so far is kept in reverse, and a separator counts
once and only after a word. -/
def snakeFrom (ident : List Char) : List Char → List Char
  | [] => (ident.dropWhile (· == '_')).reverse
  | c :: rest =>
      if c.isAlphanum then snakeFrom (c.toLower :: ident) rest
      else if separatesWords c && ident.head?.any (· != '_') then snakeFrom ('_' :: ident) rest
      else snakeFrom ident rest

def snake (title : List Char) : List Char :=
  snakeFrom [] ((spellSigns "m" "f" "_d" title).map dropAccent)

/-- "Leek Slap" gives `leek_slap`. -/
def procedureName (title : String) : String :=
  let ident := String.ofList (snake title.toList)
  match ident.toList with
  | [] => "attack"
  | c :: _ =>
      if c.isDigit then "attack_" ++ ident
      else if reservedWords.contains ident then ident ++ "_"
      else ident

def numbered (ident : String) : Nat → String
  | 0 => ident
  | n + 1 => ident ++ "_" ++ toString (n + 2)

/-- Of one name more than are taken, one is free. -/
def unique (taken : List String) (ident : String) : String :=
  let attempts := (List.range (taken.length + 1)).map (numbered ident)
  (attempts.find? fun name => !taken.contains name).getD ident

def uniqueAll (taken : List String) : List String → List String
  | [] => []
  | ident :: idents =>
      let name := unique taken ident
      name :: uniqueAll (name :: taken) idents

end CardText.Identifier
