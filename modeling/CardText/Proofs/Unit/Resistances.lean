import CardText.Unit
import CardText.Proofs.Dataset.Amounts

/-! White space around the value of a weakness or a resistance. It does not matter to the amount,
but for white space in front of a sign: signs are skipped before white space is and not behind it,
so no amount is read there, and a resistance that states one prints the default. -/
namespace CardText

namespace Text

variable {before after text : List Char}

theorem leadingAmount?_around (hb : isBlank before = true) (ha : isBlank after = true) :
    leadingAmount? (before ++ text ++ after) = leadingAmount? text := by
  rw [leadingAmount?, leadingAmount?, trim_around hb ha]

theorem leadingAmount?_cons_eq_none {c : Char} (space : Unicode.isSpace c = false)
    (digit : c.isDigit = false) (rest : List Char) : leadingAmount? (c :: rest) = none := by
  have begins : trim (c :: rest) <+: c :: rest := by
    have front := trim_isPrefix (c :: rest)
    rwa [List.dropWhile_cons_of_neg (by simp [space])] at front
  rw [leadingAmount?]
  cases shown : trim (c :: rest) with
  | nil => rfl
  | cons d others =>
      rw [shown] at begins
      obtain ⟨rfl, -⟩ := List.cons_prefix_cons.mp begins
      rw [List.takeWhile_cons_of_neg (by simp [digit])]
      rfl

end Text

namespace Modifier

theorem isSpace_of_isSign {c : Char} (h : isSign c = true) : Unicode.isSpace c = false := by
  simp only [isSign, Bool.or_eq_true, beq_iff_eq] at h
  rcases h with ((rfl | rfl) | rfl) | rfl <;> decide

theorem isDigit_of_isSign {c : Char} (h : isSign c = true) : c.isDigit = false := by
  simp only [isSign, Bool.or_eq_true, beq_iff_eq] at h
  rcases h with ((rfl | rfl) | rfl) | rfl <;> decide

theorem dropWhile_isSign_of_blank {c : Char} {before : List Char}
    (h : Text.isBlank (c :: before) = true) (rest : List Char) :
    (c :: before ++ rest).dropWhile isSign = c :: before ++ rest := by
  have space := List.all_eq_true.mp h c (by simp)
  refine List.dropWhile_cons_of_neg fun sign => ?_
  rw [isSpace_of_isSign sign] at space
  exact Bool.noConfusion space

theorem dropWhile_isSign_append {after : List Char} (h : Text.isBlank after = true)
    (text : List Char) :
    (text ++ after).dropWhile isSign = text.dropWhile isSign ++ after := by
  have stays : after.dropWhile isSign = after := by
    cases after with
    | nil => rfl
    | cons c after => simpa using dropWhile_isSign_of_blank h []
  rw [List.dropWhile_append, stays]
  split
  next none => rw [List.isEmpty_iff.mp none, List.nil_append]
  next => rfl

theorem leadingAmount?_dropWhile_isSign {before after : List Char}
    (hb : Text.isBlank before = true) (ha : Text.isBlank after = true) (text : List Char) :
    Text.leadingAmount? ((before ++ text ++ after).dropWhile isSign) =
      if !before.isEmpty && text.head?.any isSign then none
      else Text.leadingAmount? (text.dropWhile isSign) := by
  cases before with
  | nil =>
      rw [List.nil_append, dropWhile_isSign_append ha]
      simpa using Text.leadingAmount?_around hb ha
  | cons c before =>
      rw [List.append_assoc, dropWhile_isSign_of_blank hb, ← List.append_assoc,
        Text.leadingAmount?_around hb ha]
      cases text with
      | nil => rfl
      | cons d rest =>
          by_cases sign : isSign d = true
          · simpa [sign] using Text.leadingAmount?_cons_eq_none (isSpace_of_isSign sign)
              (isDigit_of_isSign sign) rest
          · simp [sign]

structure Spaced where
  modifier : Modifier
  before : String
  after : String
  before_blank : Text.isBlank before.toList = true
  after_blank : Text.isBlank after.toList = true

namespace Spaced

def padded (spaced : Spaced) : Modifier :=
  { spaced.modifier with value := spaced.before ++ spaced.modifier.value ++ spaced.after }

def hidesSign (spaced : Spaced) : Bool :=
  !spaced.before.toList.isEmpty && spaced.modifier.value.toList.head?.any isSign

def legible (spaced : Spaced) : Modifier :=
  if spaced.hidesSign then { spaced.modifier with value := "" } else spaced.modifier

theorem amount?_padded (spaced : Spaced) :
    spaced.padded.amount? = if spaced.hidesSign then none else spaced.modifier.amount? := by
  simp only [amount?, padded, String.toList_append]
  exact leadingAmount?_dropWhile_isSign spaced.before_blank spaced.after_blank _

theorem amount?_legible (spaced : Spaced) : spaced.legible.amount? = spaced.padded.amount? := by
  rw [amount?_padded, legible]
  split
  · rfl
  · rfl

theorem energy_legible (spaced : Spaced) : spaced.legible.energy = spaced.padded.energy := by
  rw [legible]
  split
  · rfl
  · rfl

end Spaced
end Modifier

open Modifier

theorem Emit.resistance_congr (options : Options) {modifiers others : List Modifier}
    (types : modifiers.map Modifier.energy = others.map Modifier.energy)
    (amounts : modifiers.map Modifier.amount? = others.map Modifier.amount?) :
    Emit.resistance options modifiers = Emit.resistance options others := by
  have none : modifiers.isEmpty = others.isEmpty := by
    simpa using congrArg List.isEmpty types
  have first : modifiers.findSome? Modifier.amount? = others.findSome? Modifier.amount? := by
    simpa only [List.findSome?_map, Function.id_comp] using congrArg (List.findSome? id) amounts
  rw [resistance, resistance, none, types, first]

theorem Emit.resistance_padded (options : Options) (list : List Spaced) :
    Emit.resistance options (list.map Spaced.padded) =
      Emit.resistance options (list.map Spaced.legible) := by
  apply resistance_congr
  · simp only [List.map_map, Function.comp_def, Spaced.energy_legible]
  · simp only [List.map_map, Function.comp_def, Spaced.amount?_legible]

/-- White space around a value keeps its amount, unless it goes in front of a sign: the amount is
lost there. So a resistance prints what it would without the white space and, where that goes in
front of signs, without the values that open with them. -/
theorem amounts_under_space (options : Options) (spaced : Spaced) (list : List Spaced) :
    ((spaced.padded.amount? = spaced.modifier.amount? ↔
        spaced.hidesSign = false ∨ spaced.modifier.amount? = none) ∧
      (spaced.hidesSign = true → spaced.padded.amount? = none)) ∧
    Emit.resistance options (list.map Spaced.padded) =
        Emit.resistance options (list.map Spaced.legible) ∧
      ((∀ spaced ∈ list, spaced.hidesSign = false) →
        Emit.resistance options (list.map Spaced.padded) =
          Emit.resistance options (list.map Spaced.modifier)) := by
  refine ⟨⟨?_, fun hidden => ?_⟩, Emit.resistance_padded options list, fun clear => ?_⟩
  · rw [Spaced.amount?_padded]
    cases hidden : spaced.hidesSign with
    | false => simp
    | true => simpa using eq_comm
  · rw [Spaced.amount?_padded, if_pos hidden]
  · have same : list.map Spaced.legible = list.map Spaced.modifier :=
      List.map_congr_left fun spaced inside => by simp [Spaced.legible, clear spaced inside]
    rw [Emit.resistance_padded, same]

theorem amounts_under_space_two :
    let hidden : Spaced := ⟨⟨.psychic, "-20"⟩, " ", "", by decide, by decide⟩
    let plain : Spaced := ⟨⟨.fire, "-40"⟩, "", "\t", by decide, by decide⟩
    hidden.padded.amount? = none ∧ plain.padded.amount? = some 40 ∧
      Emit.resistance {} [hidden.padded, plain.padded] = "resists!(Psychic, Fire, 40)" ∧
      Emit.resistance {} [plain.padded] = "resists!(Fire, 40)" := by
  intro hidden plain
  obtain ⟨⟨-, lost⟩, both, -⟩ := amounts_under_space {} hidden [hidden, plain]
  obtain ⟨⟨kept, -⟩, -, alone⟩ := amounts_under_space {} plain [plain]
  have clear : plain.hidesSign = false := by decide
  have two : Emit.resistance {} [hidden.legible, plain.legible] =
      "resists!(Psychic, Fire, 40)" := by decide
  have one : Emit.resistance {} [plain.modifier] = "resists!(Fire, 40)" := by decide
  refine ⟨lost (by decide), (kept.mpr (.inl clear)).trans (by decide), both.trans two, ?_⟩
  exact (alone fun spaced own => List.mem_singleton.mp own ▸ clear).trans one

theorem amount_lost_behind_space :
    Text.isBlank " ".toList = true ∧
      Modifier.amount? ⟨.psychic, "-20"⟩ = some 20 ∧
      Modifier.amount? ⟨.psychic, " " ++ "-20"⟩ = none ∧
      Emit.resistance {} [⟨.psychic, "-20"⟩] = "resists!(Psychic, 20)" ∧
      Emit.resistance {} [⟨.psychic, " " ++ "-20"⟩] = "resists!(Psychic, 30)" := by
  decide

end CardText
