import CardText.Proofs.Dispatch.Scan
import CardText.Proofs.Grammar.Building

/-! When the rule that reads a text refuses it: exactly when it cannot build its script
from the slots that the text fills. What is calculated otherwise is exact. -/
namespace CardText

open Grammar

structure Rule.Computes (rule : Rule) (parts : List (List Char)) (script : Script) : Prop where
  sum : rule = flipBonus ∨ rule = flipBonusOrRecoil → ∀ base extra,
    (.number "base", base) ∈ rule.template.zip parts →
      (.number "extra", extra) ∈ rule.template.zip parts → ∀ effects,
        .within .heads effects ∈ script ↔
          effects = [.act (.damage (Text.numeral base + Text.numeral extra))]
  product : rule = healIfDidDamage → ∀ counters,
    (.number "counters", counters) ∈ rule.template.zip parts → ∀ effects,
      .within .didDamage effects ∈ script ↔
        effects = [.act (.heal (10 * Text.numeral counters))]

theorem Rule.computes_of_build {rule : Rule} {parts : List (List Char)} {text : List Char}
    (hrule : rule ∈ grammar) (h : rule.template.Fills parts text)
    (accepted : ¬ rule.Refuses parts) {damage : Option Nat} {script : Script}
    (built : rule.build (rule.template.stated parts) damage = some script) :
    rule.Computes parts script := by
  have distinct := grammar_slots_nodup rule hrule
  have usable := Rule.usable_of_not_refuses accepted
  constructor
  · intro heq base extra hbase hextra effects
    have within : Text.numeral base + Text.numeral extra ≤ 2 ^ 32 - 1 :=
      Nat.not_lt.mp fun beyond => accepted (.inr (.sum heq hbase hextra beyond))
    have base := Template.number?_of_usable distinct h usable hbase
    have extra := Template.number?_of_usable distinct h usable hextra
    have heads := Text.amount?_eq_some within
    generalize rule.template.stated parts = slots at built base extra
    rcases heq with rfl | rfl
    · simp only [flipBonus, base, extra, heads, Option.bind_eq_bind, Option.bind_some,
        Option.bind_eq_some_iff, Option.pure_def, Option.some_inj] at built
      obtain ⟨tails, _, rfl⟩ := built
      simp
    · simp only [flipBonusOrRecoil, base, extra, heads, Option.bind_eq_bind, Option.bind_some,
        Option.bind_eq_some_iff, Option.pure_def, Option.some_inj] at built
      obtain ⟨tails, _, recoil, _, rfl⟩ := built
      simp
  · intro heq counters hcounters effects
    have within : Text.numeral counters * 10 ≤ 2 ^ 32 - 1 := by
      rw [Nat.mul_comm]
      exact Nat.not_lt.mp fun beyond => accepted (.inr (.product heq hcounters beyond))
    have counters := Template.number?_of_usable distinct h usable hcounters
    have amount := Text.amount?_eq_some within
    generalize rule.template.stated parts = slots at built counters
    subst heq
    simp only [healIfDidDamage, counters, amount, Option.bind_eq_bind, Option.bind_some,
      Option.pure_def, Option.some_inj] at built
    subst built
    cases damage <;> simp [strike, Nat.mul_comm]

/-- The first rule whose template a text fills decides it, and no later one is tried. It
refuses the text exactly for a slot that it cannot use or for slots that fail together, and
what it computes otherwise is exact; a text that fills no template stays unread. -/
theorem grammar_refuses_exactly (text : String) (damage : Option Nat) (gated : Bool) :
    let dispatcher := Dispatcher.ofRules grammar gated
    let dispatch := dispatcher.dispatch text damage
    ((∀ rule ∈ grammar, rule.accepts text = false) → dispatch.outcome = .unmatched) ∧
      ∀ id rule parts, grammar[id]? = some rule → rule.template.Fills parts text.toList →
        (∀ earlier ∈ grammar.take id, earlier.accepts text = false) →
          (dispatch.outcome = .rejected id rule.name ↔ rule.Refuses parts) ∧
            (¬ rule.Refuses parts → ∃ script,
              dispatch.outcome = .matched id rule.name script ∧ rule.Computes parts script) ∧
            dispatch.metrics.matched = some rule.name ∧
              ((dispatcher.active (Trigger.scan text)).take dispatch.metrics.tried).getLast? =
                some id := by
  intro dispatcher dispatch
  constructor
  · intro unread
    have fails : ∀ id ∈ dispatcher.active (Trigger.scan text), Fails grammar text id := by
      intro id _ rule found
      simpa [Rule.accepts] using unread rule (List.mem_of_getElem? found)
    simp only [dispatch, dispatcher, Dispatcher.dispatch_of_fails fails]
  · intro id rule parts found fills unread
    have hrule := List.mem_of_getElem? found
    have accepted := grammar_bind?_of_fills hrule fills
    obtain ⟨before, after, split, fails⟩ := Dispatcher.active_split_of_first
      grammar_needsTriggers gated found (by simp [Rule.accepts, accepted]) unread
    have whole : dispatch = _ := Dispatcher.dispatch_of_accepts split fails found accepted
    have tried : (before ++ id :: after).take (before.length + 1) = before ++ [id] := by
      rw [List.append_cons]
      exact List.take_left' (by simp)
    have refused := Rule.build_eq_none_iff hrule fills (if rule.usesDamage then damage else none)
    rw [whole]
    simp only [Winner.outcome_eq_elim, true_and]
    rw [← refused]
    refine ⟨?_, fun usable => ?_, ?_⟩
    · cases rule.build (rule.template.stated parts) (if rule.usesDamage then damage else none) <;>
        simp
    · obtain ⟨script, built⟩ := Option.ne_none_iff_exists'.mp usable
      have computes := Rule.computes_of_build hrule fills (refused.not.mp usable) built
      exact ⟨script, by rw [built, Option.elim_some], computes⟩
    · rw [split, tried, List.getLast?_concat]

theorem grammar_refuses_exactly_sum :
    let text := "Flip a coin. If heads, this attack does 4294967295 damage plus 001 more damage; if tails, this attack does 10 damage."
    ((Dispatcher.ofRules grammar true).dispatch text none).outcome =
      .rejected 10 "flip: heads bonus" := by
  intro text
  let parts := ["Flip a coin. If heads, this attack does ".toList, "4294967295".toList,
    " damage plus ".toList, "001".toList, " more damage; if tails, this attack does ".toList,
    "10".toList, " damage.".toList]
  have digits : ∀ part ∈ ["4294967295".toList, "001".toList, "10".toList],
      part ≠ [] ∧ ∀ c ∈ part, c.isDigit = true := by
    simp
  have fills : flipBonus.template.Fills parts text.toList := by
    refine ⟨.cons rfl (.cons (digits _ (by simp)) (.cons rfl (.cons (digits _ (by simp)) ?_))), ?_⟩
    · exact .cons rfl (.cons (digits _ (by simp)) (.cons rfl .nil))
    · decide +kernel
  have unread : ∀ earlier ∈ grammar.take 10, earlier.accepts text = false := by
    decide +kernel
  have refuses : flipBonus.Refuses parts := by
    refine .inr (@Rule.FailsTogether.sum _ _ "4294967295".toList "001".toList (.inl rfl) ?_ ?_ ?_)
    · simp [flipBonus, parts]
    · simp [flipBonus, parts]
    · simp [Text.numeral, Nat.ofDigits_cons]
  exact ((grammar_refuses_exactly text none true).2 10 flipBonus parts rfl fills unread).1.mpr
    refuses

end CardText
