import CardText.Proofs.Grammar.Stated

/-! Which slots a rule can build its script from. Every rule of the grammar reads its slots
one by one; four of them ask in addition that two slots agree or that a calculation stays
within the limit. Nothing else is refused. -/
namespace CardText

open Grammar

def Piece.isRead (slots : Bindings) : Piece → Bool
  | number slot => (slots.number? slot).isSome
  | status slot _ => (slots.status? slot).isSome
  | word slot => (slots.energy? slot).isSome
  | _ => true

namespace Bindings

def sameEnergy (slots : Bindings) : Bool := slots.energy? "energy" == slots.energy? "again"

def sumFits (slots : Bindings) : Bool :=
  (slots.number? "base").any fun base =>
    (slots.number? "extra").any fun extra => (Text.amount? (base + extra)).isSome

def productFits (slots : Bindings) : Bool :=
  (slots.number? "counters").any fun counters => (Text.amount? (counters * 10)).isSome

end Bindings

/-- What a rule asks of its slots beyond each of them. -/
def Rule.holdsTogether (rule : Rule) (slots : Bindings) : Bool :=
  if rule.name = plusPerExtraEnergy.name then slots.sameEnergy
  else if rule.name = flipBonus.name ∨ rule.name = flipBonusOrRecoil.name then slots.sumFits
  else if rule.name = healIfDidDamage.name then slots.productFits
  else true

theorem Rule.holdsTogether_plusPerExtraEnergy (slots : Bindings) :
    plusPerExtraEnergy.holdsTogether slots = slots.sameEnergy :=
  if_pos rfl

theorem Rule.holdsTogether_of_flips {rule : Rule} (h : rule = flipBonus ∨ rule = flipBonusOrRecoil)
    (slots : Bindings) : rule.holdsTogether slots = slots.sumFits := by
  rcases h with rfl | rfl
  · simp [Rule.holdsTogether, flipBonus, plusPerExtraEnergy]
  · simp [Rule.holdsTogether, flipBonusOrRecoil, plusPerExtraEnergy]

theorem Rule.holdsTogether_healIfDidDamage (slots : Bindings) :
    healIfDidDamage.holdsTogether slots = slots.productFits := by
  simp [Rule.holdsTogether, healIfDidDamage, flipBonus, flipBonusOrRecoil, plusPerExtraEnergy]

def Rule.BuildsFromSlots (rule : Rule) : Prop :=
  ∀ slots damage, (rule.build slots damage).isSome =
    (rule.template.all (Piece.isRead slots) && rule.holdsTogether slots)

theorem any_const {α : Type} (answer : Option α) (b : Bool) :
    answer.any (fun _ => b) = (answer.isSome && b) := by
  cases answer <;> simp

theorem buildsFromSlots_plusPerExtraEnergy : plusPerExtraEnergy.BuildsFromSlots := by
  intro slots damage
  rw [Rule.holdsTogether_plusPerExtraEnergy, Bindings.sameEnergy]
  simp only [plusPerExtraEnergy, Piece.isRead, List.all_cons, List.all_nil, Option.bind_eq_bind]
  cases slots.number? "base" <;> cases slots.number? "plus" <;> cases slots.number? "cap" <;>
    cases slots.energy? "energy" <;> cases slots.energy? "again" <;>
      simp [apply_ite, Bool.beq_eq_decide_eq]

theorem buildsFromSlots_flipBonus : flipBonus.BuildsFromSlots := by
  intro slots damage
  rw [Rule.holdsTogether_of_flips (.inl rfl), Bindings.sumFits]
  simp only [flipBonus, Piece.isRead, List.all_cons, List.all_nil, Option.bind_eq_bind]
  cases slots.number? "base" <;> cases slots.number? "extra" <;>
    cases slots.number? "tails_base" <;> simp [Option.isSome_bind]

theorem buildsFromSlots_flipBonusOrRecoil : flipBonusOrRecoil.BuildsFromSlots := by
  intro slots damage
  rw [Rule.holdsTogether_of_flips (.inr rfl), Bindings.sumFits]
  simp only [flipBonusOrRecoil, Piece.isRead, List.all_cons, List.all_nil, Option.bind_eq_bind]
  cases slots.number? "base" <;> cases slots.number? "extra" <;>
    cases slots.number? "tails_base" <;> cases slots.number? "recoil" <;>
      simp [Option.isSome_bind]

theorem buildsFromSlots_healIfDidDamage : healIfDidDamage.BuildsFromSlots := by
  intro slots damage
  rw [Rule.holdsTogether_healIfDidDamage, Bindings.productFits]
  simp only [healIfDidDamage, Piece.isRead, List.all_cons, List.all_nil, Option.bind_eq_bind]
  cases slots.number? "counters" <;> simp [Option.isSome_bind]

theorem Rule.holdsTogether_of_notMem {rule : Rule}
    (h : rule.name ∉
      [plusPerExtraEnergy, flipBonus, flipBonusOrRecoil, healIfDidDamage].map Rule.name)
    (slots : Bindings) : rule.holdsTogether slots = true := by
  simp only [List.map_cons, List.map_nil, List.mem_cons, List.not_mem_nil, or_false, not_or] at h
  simp only [Rule.holdsTogether, h, or_self, if_false]

theorem Rule.buildsFromSlots_mk {name : String} {template : Template} {triggers : List Trigger}
    {usesDamage : Bool} {examples : List String} {build : Bindings → Option Nat → Option Script}
    (alone : name ∉
      [plusPerExtraEnergy, flipBonus, flipBonusOrRecoil, healIfDidDamage].map Rule.name)
    (h : ∀ slots damage, (build slots damage).isSome = template.all (Piece.isRead slots)) :
    BuildsFromSlots ⟨name, template, triggers, usesDamage, examples, build⟩ := by
  intro slots damage
  rw [holdsTogether_of_notMem alone, Bool.and_true]
  exact h slots damage

theorem grammar_buildsFromSlots : ∀ rule ∈ grammar, rule.BuildsFromSlots := by
  simp only [grammar, List.forall_mem_cons, List.not_mem_nil, IsEmpty.forall_iff, implies_true,
    and_true, true_and, buildsFromSlots_plusPerExtraEnergy, buildsFromSlots_flipBonus,
    buildsFromSlots_flipBonusOrRecoil, buildsFromSlots_healIfDidDamage]
  and_intros
  -- the other rules read their slots one by one
  all_goals refine Rule.buildsFromSlots_mk (by decide) fun slots damage => ?_
  all_goals simp [typedCost, payTyped, Piece.isRead, Option.isSome_bind, any_const]

def Piece.Usable : Piece → List Char → Prop
  | number _, digits => Text.numeral digits ≤ 2 ^ 32 - 1
  | word _, spelled => ∃ energy : Energy, energy.Named spelled
  | _, _ => True

/-- Two slots that do not go together, or a calculation beyond the limit. -/
inductive Rule.FailsTogether (rule : Rule) (parts : List (List Char)) : Prop
  | mismatch {first second : List Char} {one other : Energy} (hrule : rule = plusPerExtraEnergy)
      (hfirst : (.word "energy", first) ∈ rule.template.zip parts)
      (hsecond : (.word "again", second) ∈ rule.template.zip parts)
      (hone : one.Named first) (hother : other.Named second) (differ : one ≠ other)
  | sum {base extra : List Char} (hrule : rule = flipBonus ∨ rule = flipBonusOrRecoil)
      (hbase : (.number "base", base) ∈ rule.template.zip parts)
      (hextra : (.number "extra", extra) ∈ rule.template.zip parts)
      (beyond : 2 ^ 32 - 1 < Text.numeral base + Text.numeral extra)
  | product {counters : List Char} (hrule : rule = healIfDidDamage)
      (hcounters : (.number "counters", counters) ∈ rule.template.zip parts)
      (beyond : 2 ^ 32 - 1 < 10 * Text.numeral counters)

def Rule.Refuses (rule : Rule) (parts : List (List Char)) : Prop :=
  (∃ filled ∈ rule.template.zip parts, ¬ filled.1.Usable filled.2) ∨ rule.FailsTogether parts

theorem Text.isSome_amount?_iff {n : Nat} : (amount? n).isSome = true ↔ n ≤ 2 ^ 32 - 1 := by
  have limit : largestAmount = 2 ^ 32 - 1 := rfl
  rw [amount?, limit]
  split <;> simp_all

theorem Text.amount?_eq_some {n : Nat} (h : n ≤ 2 ^ 32 - 1) : amount? n = some n :=
  if_pos h

theorem Text.of_amount?_eq_some {n amount : Nat} (h : amount? n = some amount) :
    n = amount ∧ n ≤ 2 ^ 32 - 1 := by
  obtain ⟨within, same⟩ := Option.ite_none_right_eq_some.mp h
  exact ⟨Option.some.inj same, within⟩

section

variable {rule : Rule} {parts : List (List Char)} {text : List Char}

theorem Piece.isRead_stated (distinct : rule.template.slots.Nodup)
    (h : rule.template.Fills parts text) {piece : Piece} {part : List Char}
    (inside : (piece, part) ∈ rule.template.zip parts) :
    piece.isRead (rule.template.stated parts) = true ↔ piece.Usable part := by
  cases piece with
  | number slot =>
      rw [isRead, Template.number?_stated distinct h inside]
      exact Text.isSome_amount?_iff
  | word slot =>
      rw [isRead, Option.isSome_iff_exists]
      exact exists_congr fun energy => Template.energy?_stated distinct h inside
  | status slot choices =>
      exact iff_of_true (Template.isSome_status?_stated distinct h inside) trivial
  | text literal => exact iff_of_true rfl trivial
  | oneOf spellings => exact iff_of_true rfl trivial
  | creature => exact iff_of_true rfl trivial

theorem Template.all_isRead_stated (distinct : rule.template.slots.Nodup)
    (h : rule.template.Fills parts text) :
    rule.template.all (Piece.isRead (rule.template.stated parts)) = true ↔
      ∀ filled ∈ rule.template.zip parts, filled.1.Usable filled.2 := by
  rw [List.all_eq_true]
  constructor
  · intro read filled inside
    exact (Piece.isRead_stated distinct h inside).mp (read _ (List.of_mem_zip inside).1)
  · intro usable piece inside
    obtain ⟨part, inside⟩ := Template.exists_mem_zip h inside
    exact (Piece.isRead_stated distinct h inside).mpr (usable _ inside)

theorem Template.number?_of_usable (distinct : rule.template.slots.Nodup)
    (h : rule.template.Fills parts text)
    (usable : ∀ filled ∈ rule.template.zip parts, filled.1.Usable filled.2) {slot : String}
    {digits : List Char} (inside : (.number slot, digits) ∈ rule.template.zip parts) :
    (rule.template.stated parts).number? slot = some (Text.numeral digits) := by
  have within : Text.numeral digits ≤ 2 ^ 32 - 1 := usable _ inside
  rw [Template.number?_stated distinct h inside, Text.amount?_eq_some within]

theorem Rule.eq_of_name (hrule : rule ∈ grammar) {other : Rule} (hother : other ∈ grammar)
    (h : rule.name = other.name) : rule = other :=
  List.inj_on_of_nodup_map grammar_names_nodup hrule hother h

theorem Template.sameEnergy_stated (distinct : rule.template.slots.Nodup)
    (h : rule.template.Fills parts text) {first second : List Char} {one other : Energy}
    (hfirst : (.word "energy", first) ∈ rule.template.zip parts)
    (hsecond : (.word "again", second) ∈ rule.template.zip parts)
    (hone : one.Named first) (hother : other.Named second) :
    (rule.template.stated parts).sameEnergy = true ↔ one = other := by
  have energy := (Template.energy?_stated distinct h hfirst).mpr hone
  have again := (Template.energy?_stated distinct h hsecond).mpr hother
  rw [Bindings.sameEnergy, energy, again, beq_iff_eq, Option.some_inj]

theorem Template.sumFits_stated (distinct : rule.template.slots.Nodup)
    (h : rule.template.Fills parts text)
    (usable : ∀ filled ∈ rule.template.zip parts, filled.1.Usable filled.2)
    {base extra : List Char} (hbase : (.number "base", base) ∈ rule.template.zip parts)
    (hextra : (.number "extra", extra) ∈ rule.template.zip parts) :
    (rule.template.stated parts).sumFits = true ↔
      Text.numeral base + Text.numeral extra ≤ 2 ^ 32 - 1 := by
  have base := Template.number?_of_usable distinct h usable hbase
  have extra := Template.number?_of_usable distinct h usable hextra
  rw [Bindings.sumFits, base, Option.any_some, extra, Option.any_some]
  exact Text.isSome_amount?_iff

theorem Template.productFits_stated (distinct : rule.template.slots.Nodup)
    (h : rule.template.Fills parts text)
    (usable : ∀ filled ∈ rule.template.zip parts, filled.1.Usable filled.2)
    {counters : List Char}
    (hcounters : (.number "counters", counters) ∈ rule.template.zip parts) :
    (rule.template.stated parts).productFits = true ↔
      10 * Text.numeral counters ≤ 2 ^ 32 - 1 := by
  have counters := Template.number?_of_usable distinct h usable hcounters
  rw [Bindings.productFits, counters, Option.any_some, Nat.mul_comm]
  exact Text.isSome_amount?_iff

theorem Rule.holdsTogether_stated (hrule : rule ∈ grammar) (h : rule.template.Fills parts text)
    (usable : ∀ filled ∈ rule.template.zip parts, filled.1.Usable filled.2) :
    rule.holdsTogether (rule.template.stated parts) = true ↔ ¬ rule.FailsTogether parts := by
  have distinct := grammar_slots_nodup rule hrule
  constructor
  · intro holds fails
    cases fails with
    | mismatch heq hfirst hsecond hone hother differ =>
        rw [heq, Rule.holdsTogether_plusPerExtraEnergy, ← heq,
          Template.sameEnergy_stated distinct h hfirst hsecond hone hother] at holds
        exact differ holds
    | sum heq hbase hextra beyond =>
        rw [Rule.holdsTogether_of_flips heq,
          Template.sumFits_stated distinct h usable hbase hextra] at holds
        exact Nat.not_lt.mpr holds beyond
    | product heq hcounters beyond =>
        rw [heq, Rule.holdsTogether_healIfDidDamage, ← heq,
          Template.productFits_stated distinct h usable hcounters] at holds
        exact Nat.not_lt.mpr holds beyond
  · intro together
    by_contra apart
    rw [Rule.holdsTogether] at apart
    split_ifs at apart with mismatch sum product
    · obtain rfl := Rule.eq_of_name hrule (by simp [grammar]) mismatch
      obtain ⟨first, hfirst⟩ := Template.exists_mem_zip h
        (by simp [plusPerExtraEnergy] : Piece.word "energy" ∈ plusPerExtraEnergy.template)
      obtain ⟨second, hsecond⟩ := Template.exists_mem_zip h
        (by simp [plusPerExtraEnergy] : Piece.word "again" ∈ plusPerExtraEnergy.template)
      obtain ⟨one, hone⟩ : ∃ energy : Energy, energy.Named first := usable _ hfirst
      obtain ⟨other, hother⟩ : ∃ energy : Energy, energy.Named second := usable _ hsecond
      rw [Template.sameEnergy_stated distinct h hfirst hsecond hone hother] at apart
      exact together (.mismatch rfl hfirst hsecond hone hother apart)
    · have heq : rule = flipBonus ∨ rule = flipBonusOrRecoil :=
        sum.imp (Rule.eq_of_name hrule (by simp [grammar]))
          (Rule.eq_of_name hrule (by simp [grammar]))
      have pieces : .number "base" ∈ rule.template ∧ .number "extra" ∈ rule.template := by
        rcases heq with rfl | rfl
        · simp [flipBonus]
        · simp [flipBonusOrRecoil]
      obtain ⟨base, hbase⟩ := Template.exists_mem_zip h pieces.1
      obtain ⟨extra, hextra⟩ := Template.exists_mem_zip h pieces.2
      rw [Template.sumFits_stated distinct h usable hbase hextra, Nat.not_le] at apart
      exact together (.sum heq hbase hextra apart)
    · obtain rfl := Rule.eq_of_name hrule (by simp [grammar]) product
      obtain ⟨counters, hcounters⟩ := Template.exists_mem_zip h
        (by simp [healIfDidDamage] : Piece.number "counters" ∈ healIfDidDamage.template)
      rw [Template.productFits_stated distinct h usable hcounters, Nat.not_le] at apart
      exact together (.product rfl hcounters apart)
    · exact apart rfl

theorem Rule.build_eq_none_iff (hrule : rule ∈ grammar) (h : rule.template.Fills parts text)
    (damage : Option Nat) :
    rule.build (rule.template.stated parts) damage = none ↔ rule.Refuses parts := by
  have distinct := grammar_slots_nodup rule hrule
  rw [← Option.not_isSome_iff_eq_none, grammar_buildsFromSlots rule hrule, Bool.and_eq_true,
    Template.all_isRead_stated distinct h, Rule.Refuses]
  by_cases usable : ∀ filled ∈ rule.template.zip parts, filled.1.Usable filled.2
  · have readable : ¬ ∃ filled ∈ rule.template.zip parts, ¬ filled.1.Usable filled.2 := by
      simpa using usable
    rw [Rule.holdsTogether_stated hrule h usable, and_iff_right usable, not_not,
      or_iff_right readable]
  · refine iff_of_true (fun built => usable built.1) (.inl ?_)
    simpa using usable

theorem Rule.usable_of_not_refuses (h : ¬ rule.Refuses parts) :
    ∀ filled ∈ rule.template.zip parts, filled.1.Usable filled.2 := by
  have readable := (not_or.mp h).1
  simpa using readable

end

end CardText
