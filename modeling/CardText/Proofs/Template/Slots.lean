import CardText.Proofs.Template.Filling
import CardText.Proofs.Template.Shape

/-! What fills the slots. Every template has a shape, and a filling of the template is a
reading of the shape in which each character knows its slot. So two templates whose shapes do
not clash accept no common text, and a template whose shape does not clash with itself holds
the same in its slots however a text is cut into parts. -/
namespace CardText

namespace Shape

def spell (slot : Option String) (chars : List Char) (next : Shape) : Shape :=
  chars.foldr (fun c => one (.just c) slot) next

def spellOneOf (slot : Option String) (spellings : List String) (next : Shape) : Shape :=
  spellings.foldr (fun spelling => either (spell slot spelling.toList next)) never

def name (next : Shape) : Shape := one .capital none (many .inName none next)

theorem reads_spell {slot : Option String} {next : Shape} {m : Marked} (chars : List Char)
    (h : next.Reads m) : (spell slot chars next).Reads (chars.map (·, slot) ++ m) := by
  induction chars with
  | nil => exact h
  | cons c chars ih => exact ⟨c, _, by simp [Letters.holds], ih, rfl⟩

theorem reads_spellOneOf {slot : Option String} {next : Shape} {m : Marked}
    {spellings : List String} {spelling : String} (hmem : spelling ∈ spellings)
    (h : next.Reads m) :
    (spellOneOf slot spellings next).Reads (spelling.toList.map (·, slot) ++ m) := by
  induction spellings with
  | nil => simp at hmem
  | cons first spellings ih =>
      rcases List.mem_cons.mp hmem with rfl | hmem
      · exact .inl (reads_spell _ h)
      · exact .inr (ih hmem)

theorem reads_run {a : Letters} {slot : Option String} {next : Shape} {m : Marked}
    {part : List Char} (hne : part ≠ []) (hall : ∀ c ∈ part, a.holds c = true)
    (h : next.Reads m) :
    (one a slot (many a slot next)).Reads (part.map (·, slot) ++ m) := by
  obtain ⟨c, run, rfl⟩ := List.exists_cons_of_ne_nil hne
  exact ⟨c, _, hall c (by simp), ⟨run, m, fun x hx => hall x (by simp [hx]), h, rfl⟩, rfl⟩

theorem reads_name {next : Shape} {m : Marked} {part : List Char} (hname : IsName part)
    (h : next.Reads m) : (name next).Reads (part.map (·, none) ++ m) := by
  cases part with
  | nil => exact hname.elim
  | cons first run =>
      refine ⟨first, _, hname.1, ⟨run, m, fun c hc => ?_, h, rfl⟩, rfl⟩
      exact (isNameChar_iff c).mpr (hname.2 c hc)

end Shape

open Shape in
def Piece.shape : Piece → Shape → Shape
  | text literal, next => spell none literal.toList next
  | oneOf spellings, next => spellOneOf none spellings next
  | number slot, next => one .digit (some slot) (many .digit (some slot) next)
  | status slot choices, next => spellOneOf (some slot) (choices.map Status.name) next
  | word slot, next => one .word (some slot) (many .word (some slot) next)
  | creature, next => either (spell none "Mr. ".toList (name next)) (name next)

theorem Piece.reads_shape {piece : Piece} {part : List Char} {next : Shape} {m : Marked}
    (hfits : piece.Fits part) (h : next.Reads m) :
    (piece.shape next).Reads (part.map (·, piece.slot?) ++ m) := by
  cases piece with
  | text literal =>
      obtain rfl : part = literal.toList := hfits
      exact Shape.reads_spell _ h
  | oneOf spellings =>
      obtain ⟨spelling, hmem, rfl⟩ := hfits
      exact Shape.reads_spellOneOf hmem h
  | number slot => exact Shape.reads_run hfits.1 hfits.2 h
  | status slot choices =>
      obtain ⟨choice, hmem, rfl⟩ := hfits
      exact Shape.reads_spellOneOf (List.mem_map_of_mem hmem) h
  | word slot => exact Shape.reads_run hfits.1 hfits.2 h
  | creature =>
      rcases hfits with hname | ⟨name, hname, rfl⟩
      · exact .inr (Shape.reads_name hname h)
      · rw [List.map_append, List.append_assoc]
        exact .inl (Shape.reads_spell _ (Shape.reads_name hname h))

namespace Template

def shape (template : Template) : Shape := template.foldr Piece.shape .stop

def marked (template : Template) (parts : List (List Char)) : Marked :=
  (template.zip parts).flatMap fun (piece, part) => part.map (·, piece.slot?)

def picked (slot : String) (m : Marked) : List Char :=
  (m.filter fun (_, mark) => mark = some slot).map Prod.fst

@[simp] theorem marked_cons (piece : Piece) (template : Template) (part : List Char)
    (others : List (List Char)) :
    marked (piece :: template) (part :: others) =
      part.map (·, piece.slot?) ++ marked template others := by
  simp [marked]

theorem reads_marked {template : Template} {parts : List (List Char)} {text : List Char}
    (h : template.Fills parts text) :
    template.shape.Reads (template.marked parts) ∧
      (template.marked parts).map Prod.fst = text := by
  induction template generalizing parts text with
  | nil =>
      obtain ⟨rfl, rfl⟩ := fills_nil.mp h
      exact ⟨rfl, rfl⟩
  | cons piece template ih =>
      obtain ⟨part, rest, others, hpart, hothers, rfl, rfl⟩ := fills_cons.mp h
      obtain ⟨hreads, htext⟩ := ih hothers
      rw [marked_cons]
      exact ⟨Piece.reads_shape hpart hreads, by simp [htext, Function.comp_def]⟩

@[simp] theorem picked_append (slot : String) (m n : Marked) :
    picked slot (m ++ n) = picked slot m ++ picked slot n := by
  simp [picked]

@[simp] theorem picked_map_self (slot : String) (part : List Char) :
    picked slot (part.map (·, some slot)) = part := by
  simp [picked, List.filter_map, Function.comp_def]

theorem picked_map_of_ne {slot : String} {mark : Option String} (h : mark ≠ some slot)
    (part : List Char) : picked slot (part.map (·, mark)) = [] := by
  simp [picked, List.filter_map, Function.comp_def, h]

theorem picked_marked_of_notMem {template : Template} {slot : String}
    (h : slot ∉ template.slots) (parts : List (List Char)) :
    picked slot (template.marked parts) = [] := by
  induction template generalizing parts with
  | nil => rfl
  | cons piece template ih =>
      cases parts with
      | nil => rfl
      | cons part others =>
          have hpiece : piece.slot? ≠ some slot := fun heq => h (by simp [slots, heq])
          have htemplate : slot ∉ slots template := fun hmem =>
            h (List.mem_filterMap.mpr ((List.mem_filterMap.mp hmem).imp fun _ hp =>
              ⟨.tail _ hp.1, hp.2⟩))
          rw [marked_cons, picked_append, picked_map_of_ne hpiece, ih htemplate]
          rfl

theorem held_eq_picked {template : Template} (hnodup : template.slots.Nodup)
    {parts : List (List Char)} {text : List Char} (h : template.Fills parts text) :
    template.held parts =
      template.slots.map fun slot => (slot, picked slot (template.marked parts)) := by
  induction template generalizing parts text with
  | nil =>
      obtain ⟨rfl, _⟩ := fills_nil.mp h
      rfl
  | cons piece template ih =>
      obtain ⟨part, rest, others, _, hothers, rfl, rfl⟩ := fills_cons.mp h
      rw [held_cons, marked_cons]
      cases hslot : piece.slot? with
      | none =>
          have hslots : slots (piece :: template) = slots template := by simp [slots, hslot]
          rw [hslots] at hnodup ⊢
          simp [ih hnodup hothers, picked_map_of_ne]
      | some slot =>
          have hslots : slots (piece :: template) = slot :: slots template := by
            simp [slots, hslot]
          rw [hslots, List.nodup_cons] at hnodup
          obtain ⟨hnotMem, hnodup⟩ := hnodup
          have hother : ∀ other ∈ slots template,
              picked other (part.map (·, some slot)) = [] := fun other hmem =>
            picked_map_of_ne (by rintro ⟨⟩; exact hnotMem hmem) part
          rw [hslots, List.map_cons, picked_append, picked_map_self,
            picked_marked_of_notMem hnotMem, List.append_nil, ih hnodup hothers]
          simp only [Option.map_some, Option.toList_some, List.singleton_append,
            List.cons.injEq, true_and]
          refine List.map_congr_left fun other hmem => ?_
          rw [picked_append, hother other hmem, List.nil_append]

theorem not_fills_of_clash {a b : Template} (h : a.shape.clash true b.shape = false)
    {parts others : List (List Char)} {text : List Char} (ha : a.Fills parts text)
    (hb : b.Fills others text) : False := by
  obtain ⟨hreadsA, htextA⟩ := reads_marked ha
  obtain ⟨hreadsB, htextB⟩ := reads_marked hb
  have hclash : a.shape.clash true b.shape = true :=
    Shape.notices_clash a.shape hreadsA hreadsB (htextA.trans htextB.symm) (.inl rfl)
  simp [h] at hclash

/-- A template that does not clash with itself holds the same in every filling of a text. -/
theorem held_unique {template : Template} (hnodup : template.slots.Nodup)
    (h : template.shape.clash false template.shape = false) {parts others : List (List Char)}
    {text : List Char} (hparts : template.Fills parts text)
    (hothers : template.Fills others text) : template.held others = template.held parts := by
  obtain ⟨hreads, htext⟩ := reads_marked hparts
  obtain ⟨hreads', htext'⟩ := reads_marked hothers
  have heq : template.marked others = template.marked parts := by
    by_contra hne
    have hclash : template.shape.clash false template.shape = true :=
      Shape.notices_clash template.shape hreads' hreads (htext'.trans htext.symm) (.inr hne)
    simp [h] at hclash
  rw [held_eq_picked hnodup hothers, held_eq_picked hnodup hparts, heq]

end Template
end CardText
