import CardText.Generation

/-! The coverage of a run as people read it, in color or plain. -/
namespace CardText.Cli

structure Palette where
  enabled : Bool

namespace Palette

def styled (palette : Palette) (code text : String) : String :=
  if palette.enabled then "\x1b[" ++ code ++ "m" ++ text ++ "\x1b[0m" else text

def bold (palette : Palette) : String → String := palette.styled "1"

def dim (palette : Palette) : String → String := palette.styled "2"

def green (palette : Palette) : String → String := palette.styled "32"

def yellow (palette : Palette) : String → String := palette.styled "33"

def cyan (palette : Palette) : String → String := palette.styled "36"

def gray (palette : Palette) : String → String := palette.styled "90"

end Palette

def padLeft (width : Nat) (n : Nat) : String :=
  let digits := toString n
  "".pushn ' ' (width - digits.length) ++ digits

def title (palette : Palette) (name : String) : List String :=
  ["", palette.bold (palette.cyan ("⚙  Coverage: " ++ name))]

def section_ (palette : Palette) (name : String) : List String :=
  ["", palette.gray ("━━━ " ++ name ++ " ━━━")]

def totals (palette : Palette) (coverage : Coverage) : List String := [
  "  Attacks: " ++ toString coverage.total ++ "  │  Implemented: " ++
    palette.green (toString coverage.read) ++ "  │  Unimplemented: " ++
    palette.yellow (toString coverage.unread),
  "  Groups: " ++ toString coverage.groups.length ++ "  │  Rules fired: " ++
    toString coverage.usage.rulesFired ++ "/" ++ toString coverage.rules ++
    "  │  Operation kinds: " ++ toString coverage.methods.length]

def rulesUsed (palette : Palette) (usage : Usage) : List String :=
  if usage.hits.isEmpty then []
  else
    section_ palette "Rules" ++ usage.hits.map fun (rule, count) =>
      "  " ++ palette.green (padLeft 4 count) ++ " " ++ rule

def unread (palette : Palette) (entries : List Coverage.Entry) : List String :=
  section_ palette "Unimplemented" ++
    if entries.isEmpty then [palette.dim "  Every attack compiled"]
    else entries.map fun entry =>
      "  " ++ palette.yellow (padLeft 4 entry.count) ++ " " ++
        (palette.dim " ∙ ").intercalate entry.fragments

def coverageLines (palette : Palette) (coverage : Coverage) : List String :=
  section_ palette "Summary" ++ totals palette coverage ++ rulesUsed palette coverage.usage ++
    unread palette coverage.entries

/-- Totals over all sets follow where there are several. -/
def summary (color : Bool) (generation : Generation) : List String :=
  let palette : Palette := ⟨color⟩
  let sets := generation.reports.flatMap fun (name, coverage) =>
    title palette name ++ coverageLines palette coverage
  let combined :=
    if generation.reports.length > 1 then
      title palette "all sets" ++ coverageLines palette generation.combined
    else []
  sets ++ combined ++ [""]

end CardText.Cli
