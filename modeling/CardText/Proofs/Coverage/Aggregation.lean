import CardText.Proofs.Coverage.Balance
import Mathlib.Algebra.BigOperators.Group.List.Lemmas

/-! Reports as sums. Reports whose maps ascend form a commutative monoid under merging, in which
the report of some attacks is the sum of the reports of each of them. So it does not matter in
which order attacks are counted, in how many reports, or how those are merged. -/
namespace CardText

namespace Usage

theorem Canonical.empty : Canonical .empty := List.Pairwise.nil

theorem Canonical.record {usage : Usage} (h : usage.Canonical) (rule : Option String) :
    (usage.record rule).Canonical := by
  cases rule with
  | none => exact h
  | some rule => exact Tally.Ascending.add h

theorem Canonical.merge {usage : Usage} (h : usage.Canonical) (other : Usage) :
    (usage.merge other).Canonical :=
  Tally.Ascending.merge h

theorem record_eq_merge (usage : Usage) (rule : Option String) :
    usage.record rule = usage.merge (empty.record rule) := by
  cases rule <;> rfl

end Usage

namespace Coverage

/-- The maps of a report are in ascending order, so equal reports hold the same counts. -/
structure Canonical (coverage : Coverage) : Prop where
  usage : coverage.usage.Canonical
  methods : coverage.methods.Pairwise (· < ·)
  groups : coverage.groups.Ascending

namespace Canonical

variable {coverage other : Coverage}

theorem empty (rules : Nat) : Canonical (.empty rules) :=
  ⟨.empty, List.Pairwise.nil, List.Pairwise.nil⟩

theorem addAttack (h : Canonical coverage) (owner : String) (attack : ReadAttack) :
    Canonical (coverage.addAttack owner attack) := by
  rw [Coverage.addAttack.eq_def]
  cases attack.script with
  | some script => exact ⟨h.usage, pairwise_unionAscending h.methods, h.groups⟩
  | none => exact ⟨h.usage, h.methods, h.groups.add⟩

theorem addCard (h : Canonical coverage) (read : ReadCard) : Canonical (coverage.addCard read) :=
  List.foldlRecOn read.attacks _ h fun _ before attack _ => before.addAttack read.card.name attack

theorem ofSet (rules : Nat) (read : ReadSet) : Canonical (.ofSet rules read) := by
  have cards : Canonical (read.cards.foldl Coverage.addCard (.empty rules)) :=
    List.foldlRecOn read.cards _ (empty rules) fun _ before card _ => before.addCard card
  exact ⟨cards.usage.merge read.usage, cards.methods, cards.groups⟩

theorem merge (h : Canonical coverage) (other : Coverage) : Canonical (coverage.merge other) :=
  ⟨h.usage.merge other.usage, pairwise_unionAscending h.methods, h.groups.merge⟩

end Canonical

theorem Reachable.canonical {coverage : Coverage} (h : Reachable coverage) :
    Canonical coverage := by
  induction h with
  | empty rules => exact .empty rules
  | ofSet rules read => exact .ofSet rules read
  | addAttack _ owner attack before => exact before.addAttack owner attack
  | addCard _ read before => exact before.addCard read
  | merge _ _ into _ => exact into.merge _

section Laws

variable {a b : Coverage}

theorem merge_comm (h : Canonical a) (h' : Canonical b) : a.merge b = b.merge a := by
  simp only [merge, Usage.merge, Tally.merge_comm h.usage h'.usage,
    unionAscending_comm h.methods h'.methods, Tally.merge_comm h.groups h'.groups, Nat.max_comm,
    Nat.add_comm]

theorem merge_assoc (h : Canonical a) (b c : Coverage) :
    (a.merge b).merge c = a.merge (b.merge c) := by
  simp only [merge, Usage.merge, Tally.merge_assoc h.usage, unionAscending_assoc h.methods,
    Tally.merge_assoc h.groups, Nat.max_assoc, Nat.add_assoc]

@[simp] theorem merge_empty (a : Coverage) : a.merge (empty 0) = a := by
  simp [merge, empty, Usage.merge, Usage.empty]

theorem empty_merge (h : Canonical a) : (empty 0).merge a = a := by
  rw [merge_comm (.empty 0) h, merge_empty]

theorem addAttack_eq_merge (h : Canonical a) (owner : String) (attack : ReadAttack) :
    a.addAttack owner attack = a.merge ((empty 0).addAttack owner attack) := by
  rw [addAttack.eq_def, addAttack.eq_def]
  cases attack.script with
  | some script =>
      have methods := unionAscending_assoc h.methods [] (Script.methods script)
      rw [unionAscending_nil] at methods
      simp [merge, empty, Usage.merge, Usage.empty, ← methods]
  | none => simp [merge, empty, Usage.merge, Usage.empty, Tally.add]

end Laws

theorem sum_map_flatMap {α β M : Type} [AddMonoid M] (f : β → M) (parts : α → List β)
    (items : List α) :
    ((items.flatMap parts).map f).sum = (items.map fun item => ((parts item).map f).sum).sum := by
  rw [List.map_flatMap, List.flatMap_def, List.sum_flatten, List.map_map]
  rfl

def addAll (coverage : Coverage) (attacks : List (String × ReadAttack)) : Coverage :=
  attacks.foldl (fun coverage attack => coverage.addAttack attack.1 attack.2) coverage

def owned (owner : String) (attacks : List ReadAttack) : List (String × ReadAttack) :=
  attacks.map fun attack => (owner, attack)

theorem foldl_addCard_eq (coverage : Coverage) (cards : List ReadCard) :
    cards.foldl addCard coverage =
      coverage.addAll (cards.flatMap fun read => owned read.card.name read.attacks) := by
  rw [addAll, List.foldl_flatMap]
  simp only [owned, List.foldl_map]
  rfl

section Counts

variable (coverage : Coverage) (attacks : List (String × ReadAttack))

@[simp] theorem total_addAll : (coverage.addAll attacks).total = coverage.total + attacks.length := by
  induction attacks generalizing coverage with
  | nil => rfl
  | cons attack attacks ih =>
      have first : (coverage.addAttack attack.1 attack.2).total = coverage.total + 1 := by
        rw [addAttack.eq_def]
        split <;> rfl
      rw [addAll, List.foldl_cons, ← addAll, ih, first, List.length_cons]
      omega

theorem unread_addAll :
    (coverage.addAll attacks).unread =
      coverage.unread + attacks.countP fun attack => attack.2.script.isNone := by
  induction attacks generalizing coverage with
  | nil => rfl
  | cons attack attacks ih =>
      have first : (coverage.addAttack attack.1 attack.2).unread =
          coverage.unread + if attack.2.script.isNone then 1 else 0 := by
        rw [addAttack.eq_def]
        cases attack.2.script <;> rfl
      rw [addAll, List.foldl_cons, ← addAll, ih, first, List.countP_cons]
      omega

theorem usage_addAll : (coverage.addAll attacks).usage = coverage.usage := by
  induction attacks generalizing coverage with
  | nil => rfl
  | cons attack attacks ih =>
      have first : (coverage.addAttack attack.1 attack.2).usage = coverage.usage := by
        rw [addAttack.eq_def]
        split <;> rfl
      rw [addAll, List.foldl_cons, ← addAll, ih, first]

@[simp] theorem mem_methods_addAll (method : String) :
    method ∈ (coverage.addAll attacks).methods ↔
      method ∈ coverage.methods ∨
        ∃ attack ∈ attacks, ∃ script, attack.2.script = some script ∧
          method ∈ Script.methods script := by
  induction attacks generalizing coverage with
  | nil => simp [addAll]
  | cons attack attacks ih =>
      have first : method ∈ (coverage.addAttack attack.1 attack.2).methods ↔
          method ∈ coverage.methods ∨
            ∃ script, attack.2.script = some script ∧ method ∈ Script.methods script := by
        rw [addAttack.eq_def]
        cases attack.2.script <;> simp
      rw [addAll, List.foldl_cons, ← addAll, ih, first, or_assoc, List.exists_mem_cons_iff]

end Counts

section Sets

variable (rules : Nat) (read : ReadSet)

theorem ofSet_eq :
    ofSet rules read =
      let coverage := (empty rules).addAll
        (read.cards.flatMap fun read => owned read.card.name read.attacks)
      { coverage with usage := coverage.usage.merge read.usage } := by
  rw [ofSet, foldl_addCard_eq]

@[simp] theorem total_ofSet : (ofSet rules read).total = (read.cards.flatMap ReadCard.attacks).length := by
  rw [ofSet_eq]
  simp [empty, owned, List.length_flatMap]

theorem unread_ofSet :
    (ofSet rules read).unread =
      (read.cards.flatMap ReadCard.attacks).countP fun attack => attack.script.isNone := by
  rw [ofSet_eq]
  simp [unread_addAll, empty, owned, List.countP_flatMap, Function.comp_def]

@[simp] theorem mem_methods_ofSet (method : String) :
    method ∈ (ofSet rules read).methods ↔
      ∃ attack ∈ read.cards.flatMap ReadCard.attacks, ∃ script, attack.script = some script ∧
        method ∈ Script.methods script := by
  rw [ofSet_eq]
  simp [empty, owned, List.mem_flatMap]

end Sets

end Coverage

@[ext] structure Report where
  coverage : Coverage
  canonical : coverage.Canonical

namespace Report

open Coverage

instance : Add Report := ⟨fun a b => ⟨a.coverage.merge b.coverage, a.canonical.merge b.coverage⟩⟩

instance : Zero Report := ⟨⟨.empty 0, .empty 0⟩⟩

instance : AddCommMonoid Report where
  add_assoc a b c := Report.ext (merge_assoc a.canonical b.coverage c.coverage)
  zero_add a := Report.ext (empty_merge a.canonical)
  add_zero a := Report.ext (merge_empty a.coverage)
  add_comm a b := Report.ext (merge_comm a.canonical b.canonical)
  nsmul := nsmulRec

def blank (rules : Nat) : Report := ⟨.empty rules, .empty rules⟩

def ofAttack (owner : String) (attack : ReadAttack) : Report :=
  ⟨(Coverage.empty 0).addAttack owner attack, (Canonical.empty 0).addAttack owner attack⟩

def ofUsage (usage : Usage) (h : usage.Canonical) : Report :=
  ⟨{ Coverage.empty 0 with usage }, ⟨h, List.Pairwise.nil, List.Pairwise.nil⟩⟩

def ofRule (rule : Option String) : Report :=
  ofUsage (Usage.empty.record rule) (Usage.Canonical.empty.record rule)

theorem coverage_add (a b : Report) : (a + b).coverage = a.coverage.merge b.coverage := rfl

theorem blank_add_blank (m n : Nat) : blank m + blank n = blank (max m n) := rfl

theorem addAttack_eq (report : Report) (owner : String) (attack : ReadAttack) :
    report.coverage.addAttack owner attack = (report + ofAttack owner attack).coverage :=
  addAttack_eq_merge report.canonical owner attack

def ofAttacks (attacks : List (String × ReadAttack)) : Report :=
  (attacks.map fun attack => ofAttack attack.1 attack.2).sum

theorem addAll_eq (report : Report) (attacks : List (String × ReadAttack)) :
    report.coverage.addAll attacks = (report + ofAttacks attacks).coverage := by
  induction attacks generalizing report with
  | nil => simp [addAll, ofAttacks]
  | cons attack attacks ih =>
      have rest := ih (report + ofAttack attack.1 attack.2)
      rw [addAll, List.foldl_cons, addAttack_eq]
      rw [addAll] at rest
      rw [rest, ofAttacks, ofAttacks, List.map_cons, List.sum_cons, add_assoc]

theorem sum_blank (rules : List Nat) : (rules.map blank).sum = blank (rules.foldr max 0) := by
  induction rules with
  | nil => rfl
  | cons first rules ih => rw [List.map_cons, List.sum_cons, ih, blank_add_blank, List.foldr_cons]

end Report

namespace Coverage

/-- What is left when the reports of a list are merged into one another until one remains. -/
inductive Merged : List Coverage → Coverage → Prop
  | single (coverage : Coverage) : Merged [coverage] coverage
  | merge {front back : List Coverage} {a b : Coverage} (first : Merged front a)
      (second : Merged back b) : Merged (front ++ back) (a.merge b)

theorem Merged.eq_sum {list : List Coverage} {coverage : Coverage} (h : Merged list coverage)
    {reports : List Report} (same : reports.map Report.coverage = list) :
    coverage = reports.sum.coverage := by
  induction h generalizing reports with
  | single coverage =>
      obtain ⟨report, rfl, rfl⟩ := List.map_eq_singleton_iff.mp same
      simp
  | merge _ _ first second =>
      obtain ⟨front, back, rfl, left, right⟩ := List.map_eq_append_iff.mp same
      rw [first left, second right, List.sum_append, Report.coverage_add]

def ofPart (part : Nat × List (String × ReadAttack)) : Coverage := (empty part.1).addAll part.2

/-- However attacks are ordered and divided into parts, and however the reports of the parts are
merged, the outcome is the report of all attacks. -/
theorem eq_addAll_of_merged {parts : List (Nat × List (String × ReadAttack))}
    {attacks : List (String × ReadAttack)} {merged : Coverage}
    (h : Merged (parts.map ofPart) merged) (all : (parts.flatMap Prod.snd).Perm attacks) :
    merged = (empty ((parts.map Prod.fst).foldr max 0)).addAll attacks := by
  have each : (parts.map fun part => Report.blank part.1 + Report.ofAttacks part.2).map
      Report.coverage = parts.map ofPart := by
    rw [List.map_map]
    exact List.map_congr_left fun part _ => (Report.addAll_eq (.blank part.1) part.2).symm
  have blanks : (parts.map fun part => Report.blank part.1).sum =
      .blank ((parts.map Prod.fst).foldr max 0) := by
    rw [← Report.sum_blank, List.map_map]
    rfl
  have counted : (parts.map fun part => Report.ofAttacks part.2).sum = Report.ofAttacks attacks := by
    rw [Report.ofAttacks, ← (all.map _).sum_eq, sum_map_flatMap]
    rfl
  rw [h.eq_sum each, List.sum_map_add, blanks, counted]
  exact (Report.addAll_eq (.blank _) attacks).symm

end Coverage
end CardText
