import CardText.Proofs.Dispatch.BaseDamage

/-! Damage in points and in counters of ten points. Healing is worded in counters and done in
points: the product is exact, or the wording is refused. Severe poison is worded in points and
placed in counters: what is left below a whole counter is lost. -/
namespace CardText

open Grammar

def Rule.States (rule : Rule) (slot : String) (amount : Nat) (text : String) : Prop :=
  ∃ parts, rule.template.Fills parts text.toList ∧
    ∃ digits, (.number slot, digits) ∈ rule.template.zip parts ∧ Text.numeral digits = amount

section

variable {rule : Rule} {text slot : String} {amount other : Nat} {slots : Bindings}

theorem Rule.states_unique (hrule : rule ∈ grammar) (h : rule.States slot amount text)
    (h' : rule.States slot other text) : other = amount := by
  obtain ⟨parts, fills, digits, inside, rfl⟩ := h
  obtain ⟨parts', fills', digits', inside', rfl⟩ := h'
  have distinct := grammar_slots_nodup rule hrule
  have same := Template.held_unique distinct (grammar_not_clash_self hrule) fills fills'
  have held := Template.mem_held_of_mem_zip rfl inside
  have held' := Template.mem_held_of_mem_zip rfl inside'
  rw [same] at held'
  have keys : ((rule.template.held parts).map Prod.fst).Nodup := by
    rw [Template.map_fst_held distinct fills]
    exact distinct
  have agree : (slot, digits') = (slot, digits) := List.inj_on_of_nodup_map keys held' held rfl
  exact congrArg (fun held => Text.numeral held.2) agree

theorem Rule.states_iff_of_number? (hrule : rule ∈ grammar)
    (accepted : rule.template.bind? text = some slots) (named : .number slot ∈ rule.template)
    (read : slots.number? slot = some amount) (other : Nat) :
    rule.States slot other text ↔ other = amount := by
  obtain ⟨parts, fills⟩ :=
    (rule.template.isSome_bind?_iff text).mp (Option.isSome_of_eq_some accepted)
  obtain ⟨digits, inside⟩ := Template.exists_mem_zip fills named
  obtain rfl : slots = rule.template.stated parts :=
    Option.some.inj (accepted.symm.trans (grammar_bind?_of_fills hrule fills))
  rw [Template.number?_stated (grammar_slots_nodup rule hrule) fills inside] at read
  have states : rule.States slot amount text :=
    ⟨parts, fills, digits, inside, (Text.of_amount?_eq_some read).1⟩
  exact ⟨Rule.states_unique hrule states, fun same => same ▸ states⟩

end

section

variable {gated : Bool} {text : String} {damage : Option Nat} {id : Nat} {script : Script}

theorem script_of_severePoison
    (h : ((Dispatcher.ofRules grammar gated).dispatch text damage).outcome =
      .matched id severePoison.name script) :
    ∃ amount, (∀ other, severePoison.States "amount" other text ↔ other = amount) ∧
      script = strike damage ++ [.act (.severePoison (amount / 10))] := by
  have hrule : severePoison ∈ grammar := by simp [grammar]
  obtain ⟨slots, accepted, built, -⟩ := Rule.built_of_matched hrule h
  obtain ⟨amount, read, built⟩ := Option.mem_bind_iff.mp built
  have named : .number "amount" ∈ severePoison.template := by simp [severePoison]
  exact ⟨amount, Rule.states_iff_of_number? hrule accepted named read,
    (Option.some.inj built).symm⟩

theorem script_of_healIfDidDamage
    (h : ((Dispatcher.ofRules grammar gated).dispatch text damage).outcome =
      .matched id healIfDidDamage.name script) :
    ∃ counters, (∀ other, healIfDidDamage.States "counters" other text ↔ other = counters) ∧
      10 * counters ≤ 2 ^ 32 - 1 ∧
      script = strike damage ++ [.within .didDamage [.act (.heal (10 * counters))]] := by
  have hrule : healIfDidDamage ∈ grammar := by simp [grammar]
  obtain ⟨slots, accepted, built, -⟩ := Rule.built_of_matched hrule h
  obtain ⟨counters, read, built⟩ := Option.mem_bind_iff.mp built
  obtain ⟨points, product, built⟩ := Option.mem_bind_iff.mp built
  obtain ⟨rfl, within⟩ := Text.of_amount?_eq_some product
  have named : .number "counters" ∈ healIfDidDamage.template := by simp [healIfDidDamage]
  rw [Nat.mul_comm] at within built
  exact ⟨counters, Rule.states_iff_of_number? hrule accepted named read, within,
    (Option.some.inj built).symm⟩

end

/-- Severe poison places the whole counters of the amount that its text states, and what is left
of the amount is lost. Healing is ten points for each counter that its text states, and within
the limit. -/
theorem points_of_counters (gated : Bool) (text : String) (damage : Option Nat) (id : Nat)
    (script : Script) :
    let outcome := ((Dispatcher.ofRules grammar gated).dispatch text damage).outcome
    (outcome = .matched id severePoison.name script → ∃ counters lost, lost < 10 ∧
        (∀ amount, severePoison.States "amount" amount text ↔ amount = 10 * counters + lost) ∧
          ∀ placed, .act (.severePoison placed) ∈ Effect.walkAll script ↔ placed = counters) ∧
      (outcome = .matched id healIfDidDamage.name script → ∃ counters,
        (∀ other, healIfDidDamage.States "counters" other text ↔ other = counters) ∧
          10 * counters ≤ 2 ^ 32 - 1 ∧
            ∀ healed, .act (.heal healed) ∈ Effect.walkAll script ↔ healed = 10 * counters) := by
  constructor
  · intro matched
    obtain ⟨amount, states, rfl⟩ := script_of_severePoison matched
    refine ⟨amount / 10, amount % 10, Nat.mod_lt _ (by decide), ?_, fun placed => ?_⟩
    · rw [Nat.div_add_mod]
      exact states
    · cases damage <;> simp [strike, Effect.walkAll, Effect.walk]
  · intro matched
    obtain ⟨counters, states, within, rfl⟩ := script_of_healIfDidDamage matched
    refine ⟨counters, states, within, fun healed => ?_⟩
    cases damage <;> simp [strike, Effect.walkAll, Effect.walk]

theorem points_of_counters_twenty :
    let outcome text := ((Dispatcher.ofRules grammar true).dispatch text (some 20)).outcome
    let poison := "The Defending Pokémon is now Poisoned. It now takes 20 Poison damage instead of 10 after each player's turn."
    let healing := "Unless all damage from this attack is prevented, you may remove 3 damage counters from Kadabra."
    (∃ script, outcome poison = .matched 3 severePoison.name script ∧
        .act (.severePoison 2) ∈ Effect.walkAll script) ∧
      ∃ script, outcome healing = .matched 34 healIfDidDamage.name script ∧
        .act (.heal 30) ∈ Effect.walkAll script := by
  intro outcome poison healing
  have decided : (outcome poison).verdict = some (3, severePoison.name, true) ∧
      severePoison.template.bind? poison = some [("amount", .number 20)] ∧
        (outcome healing).verdict = some (34, healIfDidDamage.name, true) ∧
          healIfDidDamage.template.bind? healing = some [("counters", .number 3)] := by
    decide +kernel
  obtain ⟨poisons, twenty, heals, three⟩ := decided
  constructor
  · obtain ⟨script, matched⟩ := Outcome.exists_of_verdict poisons
    obtain ⟨counters, lost, less, states, placed⟩ :=
      (points_of_counters true poison (some 20) 3 script).1 matched
    have stated : severePoison.States "amount" 20 poison :=
      (Rule.states_iff_of_number? (by simp [grammar]) twenty (by simp [severePoison]) rfl 20).mpr
        rfl
    have amount := (states 20).mp stated
    exact ⟨script, matched, (placed 2).mpr (by omega)⟩
  · obtain ⟨script, matched⟩ := Outcome.exists_of_verdict heals
    obtain ⟨counters, states, -, healed⟩ :=
      (points_of_counters true healing (some 20) 34 script).2 matched
    have stated : healIfDidDamage.States "counters" 3 healing :=
      (Rule.states_iff_of_number? (by simp [grammar]) three (by simp [healIfDidDamage]) rfl 3).mpr
        rfl
    have same := (states 3).mp stated
    exact ⟨script, matched, (healed 30).mpr (by omega)⟩

theorem severePoison_loses_points :
    let text := "The Defending Pokémon is now Poisoned. It now takes 25 Poison damage instead of 10 after each player's turn."
    ((Dispatcher.ofRules grammar true).dispatch text none).outcome =
        .matched 3 severePoison.name [.act (.severePoison 2)] ∧
      severePoison.States "amount" 25 text ∧ ¬ severePoison.States "amount" (10 * 2) text := by
  intro text
  have decided : ((Dispatcher.ofRules grammar true).dispatch text none).outcome.verdict =
      some (3, severePoison.name, true) ∧
        severePoison.template.bind? text = some [("amount", .number 25)] := by
    decide +kernel
  have states := Rule.states_iff_of_number? (by simp [grammar]) decided.2
    (by simp [severePoison] : .number "amount" ∈ severePoison.template) rfl
  obtain ⟨script, matched⟩ := Outcome.exists_of_verdict decided.1
  obtain ⟨amount, unique, rfl⟩ := script_of_severePoison matched
  obtain rfl := (unique 25).mp ((states 25).mpr rfl)
  exact ⟨matched, (states 25).mpr rfl, fun whole => absurd ((states 20).mp whole) (by decide)⟩

end CardText
