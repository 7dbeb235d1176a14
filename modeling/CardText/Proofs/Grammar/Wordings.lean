import CardText.Proofs.Dispatch.Order
import CardText.Proofs.Dispatch.Scan
import CardText.Proofs.Grammar.Spelling
import CardText.Reading

/-! Which rule reads the wordings that the rules are meant to read. Normalization leaves
them alone, the rule that a wording is made for reads it, and its script is built from the
parts. The one exception are the texts that a rule of own damage counters reads before the
last rule. -/
namespace CardText

open Grammar Wording

namespace Rule

variable {rule : Rule} {parts : List (List Char)}

theorem Takes.fills (h : rule.Takes parts) : rule.template.Fills parts parts.flatten :=
  ⟨h.takes.imp fun _ _ => Piece.fits_of_takes, rfl⟩

theorem not_refuses_of_usable (usable : List.Forall₂ Piece.Usable rule.template parts)
    (together : ¬ rule.FailsTogether parts) : ¬ rule.Refuses parts := by
  rintro (⟨filled, inside, unusable⟩ | fails)
  · exact unusable ((List.forall₂_iff_zip.mp usable).2 inside)
  · exact together fails

theorem Takes.not_refuses (h : rule.Takes parts) : ¬ rule.Refuses parts :=
  not_refuses_of_usable (h.takes.imp fun _ _ => Piece.usable_of_takes) h.together

end Rule

theorem Rule.FailsTogether.name_mem {rule : Rule} {parts : List (List Char)}
    (h : rule.FailsTogether parts) :
    rule.name ∈ [plusPerExtraEnergy, flipBonus, flipBonusOrRecoil, healIfDidDamage].map
      Rule.name := by
  have known : rule = plusPerExtraEnergy ∨ (rule = flipBonus ∨ rule = flipBonusOrRecoil) ∨
      rule = healIfDidDamage := by
    cases h with
    | mismatch hrule => exact .inl hrule
    | sum hrule => exact .inr (.inl hrule)
    | product hrule => exact .inr (.inr hrule)
  rcases known with rfl | (rfl | rfl) | rfl <;> simp

def ReadAttack.IsBy (read : ReadAttack) (rule : Rule) (parts : List (List Char)) : Prop :=
  read.rule = some rule.name ∧
    read.script = rule.build (rule.template.stated parts)
      (if rule.usesDamage then read.attack.damage else none)

theorem mem_grammar_of_mem_ownCounters {counter : Rule} (h : counter ∈ ownCounters) :
    counter ∈ grammar := by
  revert counter
  simp [ownCounters, grammar]

theorem ne_selfDamage_of_mem_ownCounters {counter : Rule} (h : counter ∈ ownCounters) :
    counter ≠ selfDamage := by
  have other : ∀ counter ∈ ownCounters, counter.name ≠ selfDamage.name := by
    decide +kernel
  exact fun same => other counter h (congrArg Rule.name same)

theorem isBy_of_fills {rule : Rule} (hrule : rule ∈ grammar) {parts : List (List Char)}
    {attack : Attack} (normal : normalize attack.text = attack.text)
    (fills : rule.template.Fills parts attack.text.toList)
    (last : rule = selfDamage → ∀ counter ∈ ownCounters, counter.accepts attack.text = false) :
    (defaultDispatcher.readAttack attack).IsBy rule parts := by
  have accepted := grammar_bind?_of_fills hrule fills
  have reads : rule.accepts attack.text = true := by simp [Rule.accepts, accepted]
  obtain ⟨id, found⟩ := List.mem_iff_getElem?.mp hrule
  -- an earlier reader would overlap with the rule, and only own damage counters do
  have unread : ∀ earlier ∈ grammar.take id, earlier.accepts attack.text = false := by
    intro earlier before
    by_contra both
    rw [Bool.not_eq_false] at both
    have pair : [earlier, rule].Sublist grammar := by
      have after : rule ∈ grammar.drop id :=
        List.mem_of_getElem? (i := 0) (by rw [List.getElem?_drop]; exact found)
      have both := (List.singleton_sublist.mpr before).append (List.singleton_sublist.mpr after)
      rwa [List.take_append_drop] at both
    obtain ⟨counter, rfl⟩ := List.pairwise_iff_forall_sublist.mp grammar_pairwise_overlap pair
      attack.text both reads
    exact Bool.noConfusion (both.symm.trans (last rfl earlier counter))
  obtain ⟨before, after, split, fails⟩ := Dispatcher.active_split_of_first
    grammar_needsTriggers true found reads unread
  have whole := @Dispatcher.dispatch_of_accepts _ _ _ attack.damage _ _ _ _ _ split fails found
    accepted
  have damage : (defaultDispatcher.readAttack attack).attack.damage = attack.damage := rfl
  rw [ReadAttack.IsBy, damage]
  simp only [Dispatcher.readAttack, normal, defaultDispatcher, whole]
  exact ⟨Winner.rule?_outcome _ _, Winner.script?_outcome _ _⟩

/-- Each rule reads the wordings that it is meant to read, and normalization leaves them
alone. Only a text of the last rule can go to another one: what fills the template of a rule
of own damage counters is read by that rule. -/
theorem grammar_reads_wordings (attack : Attack) (rule : Rule) (hrule : rule ∈ grammar)
    (parts : List (List Char)) (taken : rule.Takes parts)
    (worded : attack.text.toList = parts.flatten) :
    let read := defaultDispatcher.readAttack attack
    read.wording = attack.text ∧
      (∀ counter ∈ ownCounters, ∀ others, counter.template.Fills others attack.text.toList →
        read.IsBy counter others) ∧
      ((rule = selfDamage → ∀ counter ∈ ownCounters, ∀ others,
          ¬ counter.template.Fills others attack.text.toList) →
        read.IsBy rule parts ∧ read.script.isSome = true) := by
  intro read
  have normal : normalize attack.text = attack.text := by
    rw [normalize_eq_self_iff, worded]
    exact isNormal_of_takes hrule taken.takes
  have fills : rule.template.Fills parts attack.text.toList := worded ▸ taken.fills
  refine ⟨normal, ?_, fun last => ?_⟩
  · intro counter known others fills
    have hcounter := mem_grammar_of_mem_ownCounters known
    exact isBy_of_fills hcounter normal fills fun same =>
      absurd same (ne_selfDamage_of_mem_ownCounters known)
  · have unread : rule = selfDamage → ∀ counter ∈ ownCounters,
        counter.accepts attack.text = false := by
      intro same counter known
      by_contra reads
      rw [Bool.not_eq_false, Rule.accepts, Template.isSome_bind?_iff] at reads
      obtain ⟨others, fills⟩ := reads
      exact last same counter known others fills
    have isBy := isBy_of_fills hrule normal fills unread
    refine ⟨isBy, ?_⟩
    rw [isBy.2, ← Option.ne_none_iff_isSome]
    exact mt (Rule.build_eq_none_iff hrule fills _).mp taken.not_refuses

theorem isCleanName_of_normalize {name : String} (named : [] ∈ restsOfName name.toList)
    (plain : name.toList.any isParenthesis = false) (normal : normalize name = name) :
    IsCleanName name.toList where
  named := by
    obtain ⟨whole, named, split⟩ := mem_restsOfName.mp named
    rwa [split, List.append_nil]
  no_parenthesis c inside := by simpa using List.any_eq_false.mp plain c inside
  normal := (normalize_eq_self_iff name).mp normal

theorem grammar_reads_wordings_discardTyped :
    let text := "Discard 2 wAtEr Energy cards attached to Mr. Mime in order to use this attack."
    let read := defaultDispatcher.readAttack ⟨"Whirlpool", [.water], some 20, text⟩
    read.wording = text ∧ read.rule = some "discard typed energy" ∧
      read.script.isSome = true := by
  intro text read
  let parts := ["Discard ".toList, "2".toList, " ".toList, "wAtEr".toList, " Energy card".toList,
    "s".toList, " attached to ".toList, "Mr. Mime".toList,
    " in order to use this attack.".toList]
  have clean : IsCleanName "Mime".toList :=
    isCleanName_of_normalize (by decide +kernel) (by decide +kernel) (by decide +kernel)
  have amount : (Piece.number "count").Takes "2".toList :=
    ⟨by simp [Piece.Fits], by simp [Text.numeral]⟩
  have energy : (Piece.word "energy").Takes "wAtEr".toList :=
    ⟨.water, by unfold Energy.Named; decide +kernel⟩
  have plural : (Piece.oneOf ["s", ""]).Takes "s".toList :=
    ⟨"s", List.mem_cons_self, rfl⟩
  have name : Piece.creature.Takes "Mr. Mime".toList :=
    ⟨"Mime".toList, clean, by decide +kernel, .inr rfl⟩
  have taken : discardTyped.Takes parts := by
    constructor
    · refine .cons rfl (.cons amount (.cons rfl (.cons energy (.cons rfl (.cons plural ?_)))))
      exact .cons rfl (.cons name (.cons rfl .nil))
    · exact fun fails => absurd fails.name_mem (by decide +kernel)
  have hmem : discardTyped ∈ grammar := by simp [grammar]
  have worded : text.toList = parts.flatten := by decide +kernel
  have reads := grammar_reads_wordings ⟨"Whirlpool", [.water], some 20, text⟩ discardTyped hmem parts
    taken worded
  obtain ⟨wording, _, reads⟩ := reads
  obtain ⟨isBy, script⟩ := reads fun same => absurd (congrArg Rule.name same) (by decide +kernel)
  exact ⟨wording, isBy.1, script⟩

/-- A clean name that the blank after it makes a variant, and a text of the last rule that a
rule of own damage counters takes and refuses. -/
theorem selfDamage_not_read :
    (let name := "This attack does".toList
      let parts := [name, " does ".toList, "3".toList, " damage to itself.".toList]
      let text := "This attack does does 3 damage to itself."
      IsCleanName name ∧ (∀ ending ∈ ["Do", "This attack"], ¬ ending.toList <:+ name) ∧
        selfDamage.template.Fills parts text.toList ∧ ¬ selfDamage.Refuses parts ∧
        (defaultDispatcher.readAttack ⟨"", [], none, text⟩).wording ≠ text) ∧
      let name := "Does 4294967296 damage times the number of damage counters on X".toList
      let parts := [name, " does ".toList, "3".toList, " damage to itself.".toList]
      let text := "Does 4294967296 damage times the number of damage counters on X does 3 damage to itself."
      selfDamage.Takes parts ∧ parts.flatten = text.toList ∧
        (∀ counter ∈ ownCounters, ∀ others, counter.template.Fills others text.toList →
          counter.Refuses others) ∧
        (defaultDispatcher.readAttack ⟨"", [], none, text⟩).rule ≠ some selfDamage.name := by
  have amount : (Piece.number "amount").Takes "3".toList :=
    ⟨by simp [Piece.Fits], by simp [Text.numeral]⟩
  have together : ∀ {parts}, ¬ selfDamage.FailsTogether parts := fun fails =>
    absurd fails.name_mem (by decide +kernel)
  constructor
  · intro name parts text
    have clean : IsCleanName name :=
      isCleanName_of_normalize (by decide +kernel) (by decide +kernel) (by decide +kernel)
    have fills : selfDamage.template.Fills parts text.toList := by
      refine ⟨.cons (.inl clean.named) ?_, by decide +kernel⟩
      exact .cons rfl (.cons (Piece.fits_of_takes amount) (.cons rfl .nil))
    have usable : List.Forall₂ Piece.Usable selfDamage.template parts :=
      .cons trivial (.cons trivial (.cons (Piece.usable_of_takes amount) (.cons trivial .nil)))
    refine ⟨clean, by decide +kernel, fills, ?_, by decide +kernel⟩
    exact Rule.not_refuses_of_usable usable together
  · intro name parts text
    have clean : IsCleanName name :=
      isCleanName_of_normalize (by decide +kernel) (by decide +kernel) (by decide +kernel)
    have named : Piece.creature.Takes name := ⟨name, clean, by decide +kernel, .inl rfl⟩
    have taken : selfDamage.Takes parts :=
      ⟨.cons named (.cons rfl (.cons amount (.cons rfl .nil))), together⟩
    refine ⟨taken, by decide +kernel, ?_, by decide +kernel⟩
    intro counter known others fills
    have hcounter := mem_grammar_of_mem_ownCounters known
    have refused : ∀ counter ∈ ownCounters,
        ((counter.template.bind? text).bind (counter.build · none)).isNone = true := by
      decide +kernel
    have unbuilt := refused counter known
    rw [grammar_bind?_of_fills hcounter fills, Option.bind_some,
      Option.isNone_iff_eq_none] at unbuilt
    exact (Rule.build_eq_none_iff hcounter fills none).mp unbuilt

end CardText
