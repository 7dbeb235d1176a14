import CardText.Proofs.Coverage.Aggregation
import CardText.Proofs.Generation.Outcome
import Mathlib

/-! The combined report of a run. It is the sum of what each card contributes, whatever set the
card stands in and whatever document it comes from; so the order of the documents is lost in it,
although the units depend on it. -/
namespace CardText

theorem Dispatcher.canonical_usageOf (cards : List ReadCard) : (usageOf cards).Canonical :=
  List.foldlRecOn _ _ Usage.Canonical.empty fun _ before attack _ => before.record attack.rule

namespace Report

open Coverage

def ofRules (attacks : List ReadAttack) : Report :=
  (attacks.map fun attack => ofRule attack.rule).sum

def ofOwned (owner : String) (attacks : List ReadAttack) : Report :=
  ofAttacks (owned owner attacks) + ofRules attacks

def ofRead (read : ReadCard) : Report := ofOwned read.card.name read.attacks

def ofCard (card : Card) : Report :=
  ofOwned card.name (card.attacks.map defaultDispatcher.readAttack)

theorem foldl_record (usage : Usage) (h : usage.Canonical) (attacks : List ReadAttack)
    (h' : (attacks.foldl (fun usage attack => usage.record attack.rule) usage).Canonical) :
    ofUsage (attacks.foldl (fun usage attack => usage.record attack.rule) usage) h' =
      ofUsage usage h + ofRules attacks := by
  induction attacks generalizing usage with
  | nil => simp [ofRules]
  | cons attack attacks ih =>
      have step : ofUsage (usage.record attack.rule) (h.record attack.rule) =
          ofUsage usage h + ofRule attack.rule := by
        apply Report.ext
        simp only [ofUsage, Usage.record_eq_merge usage]
        rfl
      simp only [List.foldl_cons]
      rw [ih _ (h.record attack.rule), step, ofRules, ofRules, List.map_cons, List.sum_cons,
        add_assoc]

theorem addUsage_eq (report : Report) {usage : Usage} (h : usage.Canonical) :
    { report.coverage with usage := report.coverage.usage.merge usage } =
      (report + ofUsage usage h).coverage := by
  simp [coverage_add, ofUsage, Coverage.merge, Coverage.empty]

theorem coverage_ofSet (rules : Nat) (read : ReadSet) (h : read.usage.Canonical) :
    Coverage.ofSet rules read =
      (blank rules + ofAttacks (read.cards.flatMap fun read => owned read.card.name read.attacks) +
        ofUsage read.usage h).coverage := by
  rw [Coverage.ofSet_eq, ← addUsage_eq _ h, ← addAll_eq]
  rfl

theorem ofUsage_usageOf (cards : List ReadCard) :
    ofUsage (Dispatcher.usageOf cards) (Dispatcher.canonical_usageOf cards) =
      (cards.map fun read => ofRules read.attacks).sum := by
  have recorded := foldl_record .empty .empty (cards.flatMap ReadCard.attacks)
    (Dispatcher.canonical_usageOf cards)
  have none : ofUsage .empty .empty = 0 := rfl
  rw [none, zero_add] at recorded
  refine recorded.trans ?_
  rw [ofRules, sum_map_flatMap]
  rfl

theorem ofSet_eq_sum (rules : Nat) {read : ReadSet}
    (h : read.usage = Dispatcher.usageOf read.cards) :
    Coverage.ofSet rules read = (blank rules + (read.cards.map ofRead).sum).coverage := by
  obtain ⟨set, cards, usage⟩ := read
  obtain rfl : usage = Dispatcher.usageOf cards := h
  rw [coverage_ofSet rules _ (Dispatcher.canonical_usageOf cards), ofAttacks, sum_map_flatMap,
    ofUsage_usageOf, add_assoc, ← List.sum_map_add]
  rfl

end Report

namespace Dispatcher

variable (dispatcher : Dispatcher)

theorem readCard_eq_ok {card : Card} {read : ReadCard} (h : dispatcher.readCard card = .ok read) :
    read.card = card ∧ read.attacks = card.attacks.map dispatcher.readAttack := by
  simp only [readCard, bind_eq_ok_iff, pure_eq_ok_iff] at h
  obtain ⟨stage, -, hp, -, rfl⟩ := h
  exact ⟨rfl, rfl⟩

theorem readSet_eq_ok {group : SetCards} {read : ReadSet} (h : dispatcher.readSet group = .ok read) :
    List.Forall₂ (fun card read => dispatcher.readCard card = .ok read) group.cards read.cards ∧
      read.usage = usageOf read.cards := by
  simp only [readSet, bind_eq_ok_iff, pure_eq_ok_iff, mapM_eq_ok_iff] at h
  obtain ⟨cards, each, rfl⟩ := h
  exact ⟨each, rfl⟩

end Dispatcher

namespace Report

theorem map_ofRead {cards : List Card} {reads : List ReadCard}
    (h : List.Forall₂ (fun card read => defaultDispatcher.readCard card = .ok read) cards reads) :
    reads.map ofRead = cards.map ofCard := by
  induction h with
  | nil => rfl
  | cons first _ ih =>
      obtain ⟨rfl, attacks⟩ := defaultDispatcher.readCard_eq_ok first
      rw [List.map_cons, List.map_cons, ih, ofRead, attacks, ofCard]

theorem map_ofRead_flatMap {groups : List SetCards} {sets : List ReadSet}
    (h : List.Forall₂ (fun group read => defaultDispatcher.readSet group = .ok read) groups sets) :
    (sets.flatMap ReadSet.cards).map ofRead = (groups.flatMap SetCards.cards).map ofCard := by
  induction h with
  | nil => rfl
  | cons first _ ih =>
      rw [List.flatMap_cons, List.flatMap_cons, List.map_append, List.map_append, ih,
        map_ofRead (defaultDispatcher.readSet_eq_ok first).1]

theorem foldl_merge_eq (rules : Nat) (report : Report) {sets : List ReadSet}
    (h : ∀ read ∈ sets, read.usage = Dispatcher.usageOf read.cards) :
    sets.foldl (fun combined read => combined.merge (Coverage.ofSet rules read))
        (blank rules + report).coverage =
      (blank rules + (report + ((sets.flatMap ReadSet.cards).map ofRead).sum)).coverage := by
  induction sets generalizing report with
  | nil => simp
  | cons read sets ih =>
      obtain ⟨first, others⟩ := List.forall_mem_cons.mp h
      have step : (blank rules + report) + (blank rules + (read.cards.map ofRead).sum) =
          blank rules + (report + (read.cards.map ofRead).sum) := by
        rw [add_add_add_comm, blank_add_blank, max_self]
      rw [List.foldl_cons, ofSet_eq_sum rules first, ← coverage_add, step, ih _ others,
        List.flatMap_cons, List.map_append, List.sum_append, add_assoc]

end Report

namespace Generation

open Report

variable (options : Options)

def combinedOf (cards : List Card) : Coverage :=
  (blank defaultDispatcher.rules.length + (cards.map ofCard).sum).coverage

theorem combinedOf_perm {cards others : List Card} (h : cards.Perm others) :
    combinedOf cards = combinedOf others := by
  rw [combinedOf, combinedOf, (h.map ofCard).sum_eq]

theorem combined_ofSets {sets : List ReadSet}
    (h : ∀ read ∈ sets, read.usage = Dispatcher.usageOf read.cards) :
    (ofSets options sets).combined =
      (blank defaultDispatcher.rules.length +
        ((sets.flatMap ReadSet.cards).map ofRead).sum).coverage := by
  have merged := foldl_merge_eq defaultDispatcher.rules.length 0 h
  rw [add_zero, zero_add] at merged
  rw [← merged, ofSets, List.foldl_map]
  rfl

theorem usage_of_readSet {groups : List SetCards} {sets : List ReadSet}
    (h : List.Forall₂ (fun group read => defaultDispatcher.readSet group = .ok read) groups sets) :
    ∀ read ∈ sets, read.usage = Dispatcher.usageOf read.cards := by
  induction h with
  | nil => exact List.forall_mem_nil _
  | cons first _ ih =>
      exact List.forall_mem_cons.mpr ⟨(defaultDispatcher.readSet_eq_ok first).2, ih⟩

theorem combined_ofGroups {groups : List SetCards} {generation : Generation}
    (h : ofGroups options groups = .ok generation) :
    generation.combined = combinedOf (groups.flatMap SetCards.cards) := by
  simp only [ofGroups, bind_eq_ok_iff, pure_eq_ok_iff, mapM_eq_ok_iff] at h
  obtain ⟨sets, each, rfl⟩ := h
  rw [combined_ofSets options (usage_of_readSet each), map_ofRead_flatMap each, combinedOf]

theorem exists_ofGroups_group_iff {cards : List Card} {combined : Coverage} :
    (∃ generation, ofGroups options (Dataset.group cards) = .ok generation ∧
        generation.combined = combined) ↔
      (∀ card ∈ cards, card.Complete) ∧ combinedOf cards = combined := by
  have grouped := Dataset.partition_group cards
  have complete : (∃ generation, ofGroups options (Dataset.group cards) = .ok generation) ↔
      ∀ card ∈ cards, card.Complete := by
    simp only [exists_ofGroups_iff, grouped.mem_flatMap]
  have added : ∀ {generation}, ofGroups options (Dataset.group cards) = .ok generation →
      generation.combined = combinedOf cards := fun h =>
    (combined_ofGroups options h).trans (combinedOf_perm grouped.perm_flatMap)
  rw [← complete]
  constructor
  · rintro ⟨generation, h, rfl⟩
    exact ⟨⟨generation, h⟩, (added h).symm⟩
  · rintro ⟨⟨generation, h⟩, rfl⟩
    exact ⟨generation, h, added h⟩

theorem exists_generateAll_iff {documents : List String} {combined : Coverage} :
    (∃ generation, generateAll options documents = .ok generation ∧
        generation.combined = combined) ↔
      ∃ lists, List.Forall₂ Dataset.Yields documents lists ∧
        (∀ card ∈ lists.flatten, card.Complete) ∧ combinedOf lists.flatten = combined := by
  simp only [generateAll_eq_bind, bind_eq_ok_iff, mapM_eq_ok_iff, Dataset.cards_eq_ok_iff,
    ← exists_ofGroups_group_iff options]
  constructor
  · rintro ⟨generation, ⟨lists, loaded, h⟩, same⟩
    exact ⟨lists, loaded, generation, h, same⟩
  · rintro ⟨lists, loaded, generation, h, same⟩
    exact ⟨generation, ⟨lists, loaded, h⟩, same⟩

theorem combined_of_perm {documents others : List String} (perm : documents.Perm others)
    {generation : Generation} (h : generateAll options documents = .ok generation) :
    ∃ other, generateAll options others = .ok other ∧ other.combined = generation.combined := by
  obtain ⟨lists, loaded, complete, combined⟩ :=
    (exists_generateAll_iff options).mp ⟨generation, h, rfl⟩
  obtain ⟨lists', loaded', same⟩ := List.perm_comp_forall₂ perm.symm loaded
  have cards : lists'.flatten.Perm lists.flatten := same.flatten
  refine (exists_generateAll_iff options).mpr ⟨lists', loaded', fun card inside => ?_, ?_⟩
  · exact complete card (cards.mem_iff.mp inside)
  · rw [combinedOf_perm cards, combined]

/-- Reports form a commutative monoid under merging. The report of some attacks is that of any
parts of them, merged in any way, and the report of a run does not tell the order of its
documents. -/
theorem reports_aggregate :
    (∀ coverage, Coverage.Reachable coverage → coverage.Canonical) ∧
      (∀ a b : Coverage, a.Canonical → b.Canonical → a.merge b = b.merge a) ∧
      (∀ a b c : Coverage, a.Canonical → (a.merge b).merge c = a.merge (b.merge c)) ∧
      (∀ a : Coverage, a.Canonical → a.merge (.empty 0) = a ∧ Coverage.merge (.empty 0) a = a) ∧
      (∀ (parts : List (Nat × List (String × ReadAttack))) (attacks : List (String × ReadAttack))
        (merged : Coverage), Coverage.Merged (parts.map Coverage.ofPart) merged →
          (parts.flatMap Prod.snd).Perm attacks →
            merged = (Coverage.empty ((parts.map Prod.fst).foldr max 0)).addAll attacks) ∧
      ∀ (options : Options) (documents others : List String) (generation : Generation),
        documents.Perm others → generateAll options documents = .ok generation →
          ∃ other, generateAll options others = .ok other ∧
            other.combined = generation.combined :=
  ⟨fun _ h => h.canonical, fun _ _ => Coverage.merge_comm, fun _ b c h => Coverage.merge_assoc h b c,
    fun a h => ⟨Coverage.merge_empty a, Coverage.empty_merge h⟩,
    fun _ _ _ => Coverage.eq_addAll_of_merged,
    fun options _ _ _ perm h => combined_of_perm options perm h⟩

def peck : Attack := ⟨"Peck", [], some 10, ""⟩

def peckingCard (name : String) : Card :=
  ⟨name, "pokemon", ["Basic"], some 10, [], [], [], [], none, [peck], ⟨"Fossil", none, none⟩, "1"⟩

def peckingRecord (name : String) : Json := .object [
  ("attacks", .array [.object [("damage", .string "10"), ("name", .string "Peck")]]),
  ("hp", .string "10"), ("name", .string name), ("number", .string "1"),
  ("set", .object [("name", .string "Fossil")]), ("subtypes", .array [.string "Basic"]),
  ("supertype", .string "pokemon")]

def peckingText (name : String) : String :=
  "[\x7b\"name\":\"" ++ name ++ "\",\"supertype\":\"pokemon\",\"subtypes\":[\"Basic\"]," ++
    "\"hp\":\"10\",\"set\":\x7b\"name\":\"Fossil\"\x7d,\"number\":\"1\"," ++
    "\"attacks\":[\x7b\"name\":\"Peck\",\"damage\":\"10\"\x7d]\x7d]"

theorem yields_of_parse {name : String}
    (read : Json.parse (peckingText name) = .ok (.array [peckingRecord name])) :
    Dataset.Yields (peckingText name) [peckingCard name] := by
  have decoded : Card.decode (peckingRecord name) = .ok (peckingCard name) := by cbv
  exact ⟨_, ⟨_, read, .bare _⟩, .cons decoded .nil⟩

set_option maxRecDepth 4000 in
theorem yields_abra : Dataset.Yields (peckingText "Abra") [peckingCard "Abra"] := by
  apply yields_of_parse
  simp only [Json.parse, peckingText, String.toList_append]
  repeat rw [String.toList_ofList]
  cbv

set_option maxRecDepth 4000 in
theorem reports_aggregate_swapped :
    (∃ generation other,
      generateAll {} [peckingText "Abra", peckingText "Onix"] = .ok generation ∧
      generateAll {} [peckingText "Onix", peckingText "Abra"] = .ok other ∧
      other.combined = generation.combined) ∧
    (Coverage.ofPart (3, [("Abra", ⟨peck, "", none, some [.act (.damage 10)]⟩)])).merge
        (Coverage.ofPart (5, [("Onix", ⟨peck, "", none, none⟩)])) =
      (Coverage.empty 5).addAll [("Onix", ⟨peck, "", none, none⟩),
        ("Abra", ⟨peck, "", none, some [.act (.damage 10)]⟩)] := by
  obtain ⟨-, -, -, -, parts, documents⟩ := reports_aggregate
  constructor
  · have onix : Json.parse (peckingText "Onix") = .ok (.array [peckingRecord "Onix"]) := by
      simp only [Json.parse, peckingText, String.toList_append]
      repeat rw [String.toList_ofList]
      cbv
    have complete : ∀ name, (peckingCard name).Complete := fun name =>
      ⟨.inl rfl, rfl⟩
    obtain ⟨generation, h, -⟩ := (exists_generateAll_iff {}).mpr
      ⟨_, .cons yields_abra (.cons (yields_of_parse onix) .nil),
        by simp [complete], rfl⟩
    obtain ⟨other, h', same⟩ := documents {} _ [peckingText "Onix", peckingText "Abra"] generation
      (.swap _ _ _) h
    exact ⟨generation, other, h, h', same⟩
  · exact parts [(3, [_]), (5, [_])] _ _ (.merge (.single _) (.single _)) (.swap _ _ _)

end Generation
end CardText
