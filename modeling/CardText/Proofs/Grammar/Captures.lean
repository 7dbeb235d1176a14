import CardText.Proofs.Grammar.Survey
import Mathlib.Data.Nat.Digits.Defs

/-! What the rules of the grammar bind. A rule accepts exactly the texts that fill its
template. The slots of such a text do not depend on where its names end, and each slot is
bound to the value of its digits, or to its text where these are no digits or too many. -/
namespace CardText

/-- The capture of a filled slot, with the value of a numeral in positional notation. -/
def Capture.stated (chars : List Char) : Capture :=
  let value := Nat.ofDigits 10 (chars.reverse.map fun c => c.toNat - '0'.toNat)
  if chars ≠ [] ∧ chars.all Char.isDigit = true ∧ value ≤ 2 ^ 32 - 1 then .number value
  else .text (String.ofList chars)

theorem Text.decimalValue_eq_ofDigits (digits : List Char) :
    decimalValue digits = Nat.ofDigits 10 (digits.reverse.map fun c => c.toNat - '0'.toNat) := by
  rw [decimalValue, List.foldl_eq_foldr_reverse, Nat.ofDigits_eq_foldr, List.foldr_map]
  congr 1
  funext c value
  exact Nat.add_comm _ _

theorem Text.amountOfDigits?_eq (digits : List Char) :
    amountOfDigits? digits =
      if digits ≠ [] ∧ digits.all Char.isDigit = true ∧ decimalValue digits ≤ largestAmount
      then some (decimalValue digits) else none := by
  by_cases hempty : digits = []
  · simp [amountOfDigits?, hempty]
  · cases hdigits : digits.all Char.isDigit with
    | true =>
        simp only [amountOfDigits?, amount?, hdigits, List.isEmpty_eq_false_iff.mpr hempty,
          Bool.not_true, Bool.or_self, Bool.false_eq_true, if_false]
        refine if_congr ?_ rfl rfl
        simp only [ne_eq, hempty, not_false_eq_true, true_and]
    | false =>
        rw [if_neg fun h => Bool.noConfusion h.2.1]
        simp [amountOfDigits?, hdigits]

theorem Capture.ofChars_eq_stated (chars : List Char) : ofChars chars = stated chars := by
  have hlargest : Text.largestAmount = 2 ^ 32 - 1 := rfl
  simp only [ofChars, stated, Text.amountOfDigits?_eq, Text.decimalValue_eq_ofDigits, hlargest]
  split_ifs <;> rfl

theorem Template.map_fst_held {template : Template} (hnodup : template.slots.Nodup)
    {parts : List (List Char)} {text : List Char} (h : template.Fills parts text) :
    (template.held parts).map Prod.fst = template.slots := by
  rw [held_eq_picked hnodup h, List.map_map]
  exact List.map_id _

theorem Template.bind?_of_fills {template : Template} (hnodup : template.slots.Nodup)
    (hclash : template.shape.clash false template.shape = false) {parts : List (List Char)}
    {text : String} (h : template.Fills parts text.toList) :
    template.bind? text =
      some ((template.held parts).map fun (slot, chars) => (slot, Capture.stated chars)) := by
  obtain ⟨filled, hfilled⟩ := Option.isSome_iff_exists.mp (isSome_fill?_of_fills h)
  obtain ⟨found, hfound, rfl⟩ := exists_fills_of_fill? hfilled
  rw [bind?, hfilled, held_unique hnodup hclash h hfound, Option.map_some]
  simp only [Capture.ofChars_eq_stated]

/-- The slots of a rule are filled in one way, and its bindings are these and no others. -/
theorem grammar_binds_filled_slots (rule : Rule) (hrule : rule ∈ grammar) (text : String) :
    ((rule.template.bind? text).isSome = true ↔
        ∃ parts, rule.template.Fills parts text.toList) ∧
      rule.template.slots.Nodup ∧
      ∀ parts, rule.template.Fills parts text.toList →
        (∀ others, rule.template.Fills others text.toList →
          rule.template.held others = rule.template.held parts) ∧
        (rule.template.held parts).map Prod.fst = rule.template.slots ∧
        rule.template.bind? text =
          some ((rule.template.held parts).map fun (slot, chars) =>
            (slot, Capture.stated chars)) := by
  have hnodup := grammar_slots_nodup rule hrule
  have hclash := grammar_not_clash_self hrule
  refine ⟨rule.template.isSome_bind?_iff text, hnodup, fun parts hparts => ⟨?_, ?_, ?_⟩⟩
  · exact fun others hothers => Template.held_unique hnodup hclash hparts hothers
  · exact Template.map_fst_held hnodup hparts
  · exact Template.bind?_of_fills hnodup hclash hparts

theorem grammar_binds_filled_slots_flip :
    Grammar.flipTailsSelfDamage ∈ grammar ∧
      Grammar.flipTailsSelfDamage.template.bind?
          "Flip a coin. If tails, Mr. X does 7 does 010 damage to itself." =
        some [("amount", .number 10)] := by
  have hmem : Grammar.flipTailsSelfDamage ∈ grammar := by simp [grammar]
  refine ⟨hmem, ?_⟩
  have h := grammar_binds_filled_slots _ hmem
    "Flip a coin. If tails, Mr. X does 7 does 010 damage to itself."
  have hname : IsName ('X' :: " does 7".toList) := by
    refine ⟨by decide, fun c hc => (isNameChar_iff c).mp ?_⟩
    exact List.all_eq_true.mp (by decide : " does 7".toList.all isNameChar = true) c hc
  have hdigits : ∀ c ∈ "010".toList, c.isDigit = true := List.all_eq_true.mp (by decide)
  have hfills : Grammar.flipTailsSelfDamage.template.Fills
      ["Flip a coin. If tails, ".toList, "Mr. X does 7".toList, " does ".toList, "010".toList,
        " damage to itself.".toList]
      "Flip a coin. If tails, Mr. X does 7 does 010 damage to itself.".toList := by
    refine ⟨.cons rfl (.cons (.inr ⟨_, hname, by decide⟩) ?_), by decide⟩
    exact .cons rfl (.cons ⟨by decide, hdigits⟩ (.cons rfl .nil))
  exact (h.2.2 _ hfills).2.2.trans (by decide +kernel)

end CardText
