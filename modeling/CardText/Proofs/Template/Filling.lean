import CardText.Template.Capture
import Mathlib.Data.List.Basic

/-! Fillings of a template. A text fills a template if it falls into parts, one for each
piece, that fit their pieces. The search of `fill?` tries names from the shortest and words
from the longest, and goes back when the rest does not fit; it succeeds exactly on the texts
that have a filling, and what it returns is held by one of them. -/
namespace CardText

/-- A capital letter and any text that stays within the clause. -/
def IsName : List Char → Prop
  | [] => False
  | first :: rest =>
      Unicode.isUppercaseLetter first = true ∧ ∀ c ∈ rest, c ≠ '.' ∧ c ≠ ';' ∧ c ≠ ','

def Piece.Fits : Piece → List Char → Prop
  | text literal, part => part = literal.toList
  | oneOf spellings, part => ∃ spelling ∈ spellings, part = spelling.toList
  | number _, part => part ≠ [] ∧ ∀ c ∈ part, c.isDigit = true
  | status _ choices, part => ∃ choice ∈ choices, part = choice.name.toList
  | word _, part => part ≠ [] ∧ ∀ c ∈ part, Unicode.isWord c = true
  | creature, part => IsName part ∨ ∃ name, IsName name ∧ part = "Mr. ".toList ++ name

def Template.Fills (template : Template) (parts : List (List Char)) (text : List Char) : Prop :=
  List.Forall₂ Piece.Fits template parts ∧ parts.flatten = text

def Template.held (template : Template) (parts : List (List Char)) :
    List (String × List Char) :=
  (template.zip parts).filterMap fun (piece, part) => piece.slot?.map (·, part)

theorem isNameChar_iff (c : Char) : isNameChar c = true ↔ c ≠ '.' ∧ c ≠ ';' ∧ c ≠ ',' := by
  simp [isNameChar, and_assoc]

@[simp] theorem mem_restOf {literal : String} {s rest : List Char} :
    rest ∈ restOf literal s ↔ s = literal.toList ++ rest := by
  rw [restOf, Option.mem_toList, List.isPrefixOf?_eq_some_iff_append_eq, eq_comm]

theorem mem_flatMap_restOf {α : Type} {choices : List α} {spelling : α → String}
    {s rest : List Char} :
    rest ∈ choices.flatMap (fun choice => restOf (spelling choice) s) ↔
      ∃ part, (∃ choice ∈ choices, part = (spelling choice).toList) ∧ s = part ++ rest := by
  simp only [List.mem_flatMap, mem_restOf]
  constructor
  · rintro ⟨choice, hmem, rfl⟩
    exact ⟨_, ⟨choice, hmem, rfl⟩, rfl⟩
  · rintro ⟨_, ⟨choice, hmem, rfl⟩, rfl⟩
    exact ⟨choice, hmem, rfl⟩

@[simp] theorem mem_restsOfRuns {p : Char → Bool} {s rest : List Char} :
    rest ∈ restsOfRuns p s ↔ ∃ run, run ≠ [] ∧ (∀ c ∈ run, p c = true) ∧ s = run ++ rest := by
  induction s with
  | nil => simp [restsOfRuns]
  | cons c s ih =>
      constructor
      · intro h
        by_cases hc : p c = true
        · simp only [restsOfRuns, hc, if_true, List.mem_cons] at h
          rcases h with rfl | h
          · exact ⟨[c], by simp, by simpa using hc, rfl⟩
          · obtain ⟨run, _, hall, rfl⟩ := ih.mp h
            exact ⟨c :: run, by simp, by simpa [hc] using hall, rfl⟩
        · simp [restsOfRuns, hc] at h
      · rintro ⟨run, hne, hall, heq⟩
        obtain ⟨d, run, rfl⟩ := List.exists_cons_of_ne_nil hne
        obtain ⟨rfl, rfl⟩ := List.cons.inj heq
        have hc : p c = true := hall c (by simp)
        simp only [restsOfRuns, hc, if_true, List.mem_cons]
        by_cases hrun : run = []
        · exact .inl (by simp [hrun])
        · exact .inr (ih.mpr ⟨run, hrun, fun x hx => hall x (by simp [hx]), rfl⟩)

@[simp] theorem mem_restsOfName {s rest : List Char} :
    rest ∈ restsOfName s ↔ ∃ name, IsName name ∧ s = name ++ rest := by
  cases s with
  | nil => simp [restsOfName, IsName]
  | cons first s =>
      constructor
      · intro h
        by_cases hf : Unicode.isUppercaseLetter first = true
        · simp only [restsOfName, hf, if_true, List.mem_cons, mem_restsOfRuns] at h
          rcases h with rfl | ⟨run, _, hall, rfl⟩
          · exact ⟨[first], by simp [IsName, hf], rfl⟩
          · exact ⟨first :: run, ⟨hf, fun c hc => (isNameChar_iff c).mp (hall c hc)⟩, rfl⟩
        · simp [restsOfName, hf] at h
      · rintro ⟨name, hname, heq⟩
        cases name with
        | nil => exact hname.elim
        | cons d run =>
            obtain ⟨rfl, rfl⟩ := List.cons.inj heq
            simp only [restsOfName, hname.1, if_true, List.mem_cons, mem_restsOfRuns]
            by_cases hrun : run = []
            · exact .inl (by simp [hrun])
            · exact .inr ⟨run, hrun, fun c hc => (isNameChar_iff c).mpr (hname.2 c hc), rfl⟩

@[simp] theorem Piece.mem_rests (piece : Piece) {s rest : List Char} :
    rest ∈ piece.rests s ↔ ∃ part, piece.Fits part ∧ s = part ++ rest := by
  cases piece with
  | text literal => simp [rests, Fits]
  | oneOf spellings => exact mem_flatMap_restOf
  | number slot => simp [rests, Fits, and_assoc]
  | status slot choices => exact mem_flatMap_restOf
  | word slot => simp [rests, Fits, and_assoc]
  | creature =>
      simp only [rests, Fits, List.mem_append, List.mem_flatMap, mem_restOf, mem_restsOfName]
      constructor
      · rintro (⟨_, rfl, name, hname, rfl⟩ | ⟨name, hname, rfl⟩)
        · exact ⟨_, .inr ⟨name, hname, rfl⟩, by simp⟩
        · exact ⟨name, .inl hname, rfl⟩
      · rintro ⟨part, hname | ⟨name, hname, rfl⟩, rfl⟩
        · exact .inr ⟨part, hname, rfl⟩
        · exact .inl ⟨name ++ rest, by simp, name, hname, rfl⟩

namespace Template

@[simp] theorem fills_nil {parts : List (List Char)} {text : List Char} :
    Fills [] parts text ↔ parts = [] ∧ text = [] := by
  constructor
  · rintro ⟨hfits, rfl⟩
    cases hfits
    exact ⟨rfl, rfl⟩
  · rintro ⟨rfl, rfl⟩
    exact ⟨.nil, rfl⟩

@[simp] theorem fills_cons {piece : Piece} {template : Template} {parts : List (List Char)}
    {text : List Char} :
    Fills (piece :: template) parts text ↔
      ∃ part rest others, piece.Fits part ∧ template.Fills others rest ∧
        parts = part :: others ∧ text = part ++ rest := by
  constructor
  · rintro ⟨hfits, rfl⟩
    cases hfits with
    | cons hpart hothers => exact ⟨_, _, _, hpart, ⟨hothers, rfl⟩, rfl, rfl⟩
  · rintro ⟨part, rest, others, hpart, ⟨hothers, rfl⟩, rfl, rfl⟩
    exact ⟨.cons hpart hothers, rfl⟩

@[simp] theorem held_cons (piece : Piece) (template : Template) (part : List Char)
    (others : List (List Char)) :
    held (piece :: template) (part :: others) =
      (piece.slot?.map (·, part)).toList ++ held template others := by
  cases h : piece.slot? <;> simp [held, h]

theorem fill?_cons (piece : Piece) (template : Template) (s : List Char) :
    fill? (piece :: template) s =
      (piece.rests s).findSome? fun rest => (fill? template rest).map fun filled =>
        (piece.slot?.map (·, s.take (s.length - rest.length))).toList ++ filled := by
  rw [fill?]
  cases piece.slot? <;> rfl

theorem exists_fills_of_fill? {template : Template} {s : List Char}
    {filled : List (String × List Char)} (h : template.fill? s = some filled) :
    ∃ parts, template.Fills parts s ∧ filled = template.held parts := by
  induction template generalizing s filled with
  | nil =>
      cases s with
      | nil => exact ⟨[], fills_nil.mpr ⟨rfl, rfl⟩, by simpa [fill?, held] using h.symm⟩
      | cons c s => simp [fill?] at h
  | cons piece template ih =>
      rw [fill?_cons] at h
      obtain ⟨rest, hrest, hmap⟩ := List.exists_of_findSome?_eq_some h
      obtain ⟨others, hothers, rfl⟩ := Option.map_eq_some_iff.mp hmap
      obtain ⟨part, hpart, rfl⟩ := piece.mem_rests.mp hrest
      obtain ⟨parts, hfills, rfl⟩ := ih hothers
      refine ⟨part :: parts, fills_cons.mpr ⟨part, rest, parts, hpart, hfills, rfl, rfl⟩, ?_⟩
      rw [held_cons]
      simp

theorem isSome_fill?_of_fills {template : Template} {parts : List (List Char)}
    {s : List Char} (h : template.Fills parts s) : (template.fill? s).isSome = true := by
  induction template generalizing parts s with
  | nil =>
      obtain ⟨_, rfl⟩ := fills_nil.mp h
      rfl
  | cons piece template ih =>
      obtain ⟨part, rest, others, hpart, hothers, _, rfl⟩ := fills_cons.mp h
      rw [fill?_cons, List.findSome?_isSome_iff]
      refine ⟨rest, piece.mem_rests.mpr ⟨part, hpart, rfl⟩, ?_⟩
      simpa using ih hothers

theorem isSome_bind?_iff (template : Template) (text : String) :
    (template.bind? text).isSome = true ↔ ∃ parts, template.Fills parts text.toList := by
  rw [bind?, Option.isSome_map]
  constructor
  · intro h
    obtain ⟨filled, hfilled⟩ := Option.isSome_iff_exists.mp h
    obtain ⟨parts, hparts, _⟩ := exists_fills_of_fill? hfilled
    exact ⟨parts, hparts⟩
  · rintro ⟨parts, hparts⟩
    exact isSome_fill?_of_fills hparts

end Template
end CardText
