/-! Replacement of the leftmost occurrences in a text that do not overlap. What counts
as an occurrence is a parameter, so one recursion serves fixed spellings, runs of
digits and whole words. -/
namespace CardText.Text

/-- `matched before rest` is the length of the occurrence that starts with `rest`, zero
where none does; `before` is the character in front of it. The counter runs over the
characters of an occurrence that is already replaced. -/
def replaceFrom (matched : Option Char → List Char → Nat) (new : List Char) :
    Option Char → Nat → List Char → List Char
  | _, _, [] => []
  | _, skip + 1, c :: rest => replaceFrom matched new (some c) skip rest
  | before, 0, c :: rest =>
      match matched before (c :: rest) with
      | 0 => c :: replaceFrom matched new (some c) 0 rest
      | skip + 1 => new ++ replaceFrom matched new (some c) skip rest

def replace (matched : Option Char → List Char → Nat) (new text : List Char) : List Char :=
  replaceFrom matched new none 0 text

def spelled (old : List Char) (text : List Char) : Nat :=
  if old.isPrefixOf text then old.length else 0

def replaceAll (old new : String) (text : List Char) : List Char :=
  replace (fun _ => spelled old.toList) new.toList text

end CardText.Text
