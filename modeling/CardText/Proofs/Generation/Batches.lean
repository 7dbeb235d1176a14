import CardText.Generation
import CardText.Proofs.Dataset.Loading
import Mathlib

/-! A run over several documents. Their records might as well stand in one document, one list
behind the other: the sets, the cards of each set, the names in its unit and the first fault
come out the same. -/
namespace CardText

namespace Dataset

theorem creatures_append (front back : List Json) :
    creatures (front ++ back) = do
      let first ← creatures front
      let second ← creatures back
      return first ++ second := by
  simp [creatures, List.mapM_append]

theorem creatures_flatten (lists : List (List Json)) :
    creatures lists.flatten = List.flatten <$> lists.mapM creatures := by
  induction lists with
  | nil => rfl
  | cons records lists ih => simp [creatures_append, ih]

theorem mapM_cards_eq {documents : List String} {lists : List (List Json)}
    (h : List.Forall₂ Lists documents lists) : documents.mapM cards = lists.mapM creatures := by
  induction h with
  | nil => rfl
  | cons first rest ih => simp [first.cards_eq, ih]

theorem loadAll_eq_of_lists {documents : List String} {lists : List (List Json)}
    (h : List.Forall₂ Lists documents lists) :
    loadAll documents = group <$> creatures lists.flatten := by
  simp [loadAll_eq_map, mapM_cards_eq h, creatures_flatten]

end Dataset

namespace Generation

/-- Documents that hold lists of records yield what one document with all the records yields,
and fail where it fails. -/
theorem generateAll_flatten (options : Options) {documents : List String} {whole : String}
    {lists : List (List Json)} (each : List.Forall₂ Dataset.Lists documents lists)
    (joined : Dataset.Lists whole lists.flatten) :
    generateAll options documents = generateAll options [whole] := by
  have one : List.Forall₂ Dataset.Lists [whole] [lists.flatten] := .cons joined .nil
  have same : Dataset.loadAll documents = Dataset.loadAll [whole] := by
    rw [Dataset.loadAll_eq_of_lists each, Dataset.loadAll_eq_of_lists one]
    simp
  rw [generateAll, generateAll, same]

def plainRecord (name set : String) : Json := .object [
  ("hp", .string "10"), ("name", .string name), ("number", .string "1"),
  ("set", .object [("name", .string set)]), ("subtypes", .array [.string "Basic"]),
  ("supertype", .string "pokemon")]

def plainText (name set : String) : String :=
  "\x7b\"name\":\"" ++ name ++ "\",\"supertype\":\"pokemon\",\"subtypes\":[\"Basic\"]," ++
    "\"hp\":\"10\",\"set\":\x7b\"name\":\"" ++ set ++ "\"\x7d,\"number\":\"1\"\x7d"

set_option maxRecDepth 4000 in
theorem generateAll_flatten_interleaved :
    generateAll {} ["[" ++ plainText "Abra" "Fossil" ++ "]",
        "\x7b\"data\":[1," ++ plainText "Onix" "Base" ++ "," ++ plainText "Abra" "fossil!" ++ "]\x7d"] =
      generateAll {} ["[" ++ plainText "Abra" "Fossil" ++ ",1," ++ plainText "Onix" "Base" ++ "," ++
        plainText "Abra" "fossil!" ++ "]"] := by
  have front : Json.parse ("[" ++ plainText "Abra" "Fossil" ++ "]") =
      .ok (.array [plainRecord "Abra" "Fossil"]) := by
    -- The literals are opened before the text is read, or reading would open them anew.
    simp only [Json.parse, plainText, String.toList_append]
    repeat rw [String.toList_ofList]
    cbv
  have back : Json.parse ("\x7b\"data\":[1," ++ plainText "Onix" "Base" ++ "," ++
      plainText "Abra" "fossil!" ++ "]\x7d") = .ok (.object [("data", .array
        [.number (.integer 1), plainRecord "Onix" "Base", plainRecord "Abra" "fossil!"])]) := by
    simp only [Json.parse, plainText, String.toList_append]
    repeat rw [String.toList_ofList]
    cbv
  have joined : Json.parse ("[" ++ plainText "Abra" "Fossil" ++ ",1," ++ plainText "Onix" "Base" ++
      "," ++ plainText "Abra" "fossil!" ++ "]") = .ok (.array [plainRecord "Abra" "Fossil",
        .number (.integer 1), plainRecord "Onix" "Base", plainRecord "Abra" "fossil!"]) := by
    simp only [Json.parse, plainText, String.toList_append]
    repeat rw [String.toList_ofList]
    cbv
  have data : Dataset.Listed (.object [("data", .array [.number (.integer 1),
      plainRecord "Onix" "Base", plainRecord "Abra" "fossil!"])]) _ := .data rfl
  exact generateAll_flatten {} (.cons ⟨_, front, .bare _⟩ (.cons ⟨_, back, data⟩ .nil))
    ⟨_, joined, .bare _⟩

end Generation
end CardText
