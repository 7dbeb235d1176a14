import CardText.Proofs.Grammar.Captures
import CardText.Proofs.Text.Ascii
import Mathlib

/-! What a filled slot states: an amount while its digits stay within the limit, the energy
type that its word spells in any case, the condition that it names. The bindings of a
filling answer for a slot with the part of the text that fills it. -/
namespace CardText

def Text.numeral (digits : List Char) : Nat :=
  Nat.ofDigits 10 (digits.reverse.map fun c => c.toNat - '0'.toNat)

def Energy.Named (energy : Energy) (word : List Char) : Prop :=
  Text.lowerAscii word = Text.lowerAscii energy.name.toList

namespace Energy

@[simp] theorem mem_all (energy : Energy) : energy ∈ all := by
  cases energy <;> decide

theorem lowerAscii_name_injective {first second : Energy}
    (h : Text.lowerAscii first.name.toList = Text.lowerAscii second.name.toList) :
    first = second := by
  have names : (all.map fun energy => Text.lowerAscii energy.name.toList).Nodup := by
    decide +kernel
  exact List.inj_on_of_nodup_map names (mem_all first) (mem_all second) h

theorem ofProse?_eq_some_iff {word : List Char} {energy : Energy} :
    ofProse? (String.ofList word) = some energy ↔ energy.Named word := by
  have same : ∀ other : Energy, Text.sameIgnoringCase other.name (String.ofList word) = true ↔
      other.Named word := by
    intro other
    rw [Text.sameIgnoringCase, beq_iff_eq, String.toList_ofList, Named, eq_comm]
  have named_of_found : ∀ other : Energy, ofProse? (String.ofList word) = some other →
      other.Named word := by
    intro other found
    have spelled := List.find?_some found
    exact (same other).mp spelled
  refine ⟨named_of_found energy, fun named => ?_⟩
  have found : (ofProse? (String.ofList word)).isSome = true :=
    List.find?_isSome.mpr ⟨energy, mem_all energy, (same energy).mpr named⟩
  obtain ⟨other, found⟩ := Option.isSome_iff_exists.mp found
  rw [found, lowerAscii_name_injective ((named_of_found other found).symm.trans named)]

theorem isAlpha_of_named {energy : Energy} {word : List Char} (h : energy.Named word) :
    ∀ c ∈ word, c.isAlpha = true := by
  have letters : ∀ energy ∈ all, (Text.lowerAscii energy.name.toList).all Char.isAlpha = true := by
    decide +kernel
  intro c inside
  have lowered : c.toLower ∈ Text.lowerAscii energy.name.toList := by
    rw [← h]
    exact List.mem_map_of_mem inside
  simpa using List.all_eq_true.mp (letters energy (mem_all energy)) _ lowered

theorem ne_nil_of_named {energy : Energy} {word : List Char} (h : energy.Named word) :
    word ≠ [] := by
  have spelled : ∀ energy ∈ all, Text.lowerAscii energy.name.toList ≠ [] := by
    decide +kernel
  rintro rfl
  exact spelled energy (mem_all energy) h.symm

theorem not_named_of_digits {word : List Char} (nonempty : word ≠ [])
    (digits : word.all Char.isDigit = true) (energy : Energy) : ¬ energy.Named word := by
  intro named
  obtain ⟨c, rest, rfl⟩ := List.exists_cons_of_ne_nil nonempty
  have digit : c.isDigit = true := List.all_eq_true.mp digits c (by simp)
  have letter : c.isAlpha = true := isAlpha_of_named named c (by simp)
  exact Bool.noConfusion (letter.symm.trans (Unicode.isAlpha_eq_false_of_isDigit digit))

end Energy

namespace Capture

theorem number?_stated {digits : List Char} (nonempty : digits ≠ [])
    (all : ∀ c ∈ digits, c.isDigit = true) :
    (stated digits).number? = Text.amount? (Text.numeral digits) := by
  have all : digits.all Char.isDigit = true := List.all_eq_true.mpr all
  rw [Text.amount?, stated]
  by_cases within : Text.numeral digits ≤ Text.largestAmount
  · rw [if_pos within, if_pos ⟨nonempty, all, within⟩]
    rfl
  · rw [if_neg within, if_neg fun h => within h.2.2]
    rfl

theorem energy?_stated {word : List Char} {energy : Energy} :
    (stated word).energy? = some energy ↔ energy.Named word := by
  simp only [stated]
  split
  · rename_i digits
    refine iff_of_false (by simp [energy?]) ?_
    exact Energy.not_named_of_digits digits.1 digits.2.1 energy
  · exact Energy.ofProse?_eq_some_iff

theorem status?_stated (status : Status) : (stated status.name.toList).status? = some status := by
  cases status <;> decide +kernel

end Capture

namespace Bindings

theorem get?_of_mem {bindings : Bindings} (distinct : (bindings.map Prod.fst).Nodup)
    {slot : String} {capture : Capture} (inside : (slot, capture) ∈ bindings) :
    bindings.get? slot = some capture := by
  rw [get?]
  induction bindings with
  | nil => simp at inside
  | cons first bindings ih =>
      obtain ⟨fresh, distinct⟩ := List.nodup_cons.mp distinct
      rcases List.mem_cons.mp inside with rfl | inside
      · exact List.lookup_cons_self
      · have other : slot ≠ first.1 := fun same =>
          fresh (List.mem_map.mpr ⟨(slot, capture), inside, same⟩)
        rw [List.lookup_cons, beq_eq_false_iff_ne.mpr other]
        exact ih distinct inside

end Bindings

namespace Template

def stated (template : Template) (parts : List (List Char)) : Bindings :=
  (template.held parts).map fun (slot, chars) => (slot, Capture.stated chars)

theorem fits_of_mem_zip {template : Template} {parts : List (List Char)} {text : List Char}
    (h : template.Fills parts text) {piece : Piece} {part : List Char}
    (inside : (piece, part) ∈ template.zip parts) : piece.Fits part :=
  (List.forall₂_iff_zip.mp h.1).2 inside

theorem mem_held_of_mem_zip {template : Template} {parts : List (List Char)} {piece : Piece}
    {part : List Char} {slot : String} (named : piece.slot? = some slot)
    (inside : (piece, part) ∈ template.zip parts) : (slot, part) ∈ template.held parts :=
  List.mem_filterMap.mpr ⟨(piece, part), inside, by simp [named]⟩

theorem exists_mem_zip {template : Template} {parts : List (List Char)} {text : List Char}
    (h : template.Fills parts text) {piece : Piece} (inside : piece ∈ template) :
    ∃ part, (piece, part) ∈ template.zip parts := by
  obtain ⟨i, bound, rfl⟩ := List.getElem_of_mem inside
  have size : template.length = parts.length := h.1.length_eq
  refine ⟨parts[i], ?_⟩
  have short : i < (template.zip parts).length := by
    rw [List.length_zip]
    omega
  have filled : (template.zip parts)[i] = (template[i], parts[i]) := List.getElem_zip
  exact filled ▸ List.getElem_mem short

variable {template : Template} {parts : List (List Char)} {text : List Char}

theorem get?_stated (distinct : template.slots.Nodup) (h : template.Fills parts text)
    {piece : Piece} {part : List Char} {slot : String} (named : piece.slot? = some slot)
    (inside : (piece, part) ∈ template.zip parts) :
    (template.stated parts).get? slot = some (Capture.stated part) := by
  have keys : ((template.stated parts).map Prod.fst).Nodup := by
    rw [stated, List.map_map]
    have held := map_fst_held distinct h
    exact (held ▸ distinct : ((template.held parts).map Prod.fst).Nodup)
  refine Bindings.get?_of_mem keys (List.mem_map.mpr ⟨(slot, part), ?_, rfl⟩)
  exact mem_held_of_mem_zip named inside

theorem number?_stated (distinct : template.slots.Nodup) (h : template.Fills parts text)
    {slot : String} {digits : List Char} (inside : (.number slot, digits) ∈ template.zip parts) :
    (template.stated parts).number? slot = Text.amount? (Text.numeral digits) := by
  have fits : (Piece.number slot).Fits digits := fits_of_mem_zip h inside
  rw [Bindings.number?, get?_stated distinct h rfl inside, Option.bind_some]
  exact Capture.number?_stated fits.1 fits.2

theorem energy?_stated (distinct : template.slots.Nodup) (h : template.Fills parts text)
    {slot : String} {word : List Char} (inside : (.word slot, word) ∈ template.zip parts)
    {energy : Energy} :
    (template.stated parts).energy? slot = some energy ↔ energy.Named word := by
  rw [Bindings.energy?, get?_stated distinct h rfl inside, Option.bind_some]
  exact Capture.energy?_stated

theorem isSome_status?_stated (distinct : template.slots.Nodup) (h : template.Fills parts text)
    {slot : String} {choices : List Status} {word : List Char}
    (inside : (.status slot choices, word) ∈ template.zip parts) :
    ((template.stated parts).status? slot).isSome = true := by
  obtain ⟨choice, _, rfl⟩ : (Piece.status slot choices).Fits word := fits_of_mem_zip h inside
  rw [Bindings.status?, get?_stated distinct h rfl inside, Option.bind_some,
    Capture.status?_stated]
  rfl

end Template

theorem grammar_bind?_of_fills {rule : Rule} (hrule : rule ∈ grammar)
    {parts : List (List Char)} {text : String} (h : rule.template.Fills parts text.toList) :
    rule.template.bind? text = some (rule.template.stated parts) :=
  Template.bind?_of_fills (grammar_slots_nodup rule hrule) (grammar_not_clash_self hrule) h

end CardText
