import CardText.Generation
import CardText.Proofs.Dataset.Loading

/-! How a run ends. It succeeds when every document can be loaded and every card is complete.
Otherwise one fault is reported: that of the first document that is refused, and if none is,
that of the first incomplete card, sets in ascending order of their names and the cards of a
set in the order of the documents. -/
namespace CardText

namespace Card

def Evolves (card : Card) : Prop :=
  card.hasSubtype "Stage 1" = true ∨ card.hasSubtype "Stage 2" = true

def HasPredecessor (card : Card) : Prop :=
  ∃ name, card.evolvesFrom = some name ∧ Text.isBlank name.toList = false

def HasStage (card : Card) : Prop :=
  card.hasSubtype "Basic" = true ∨ card.Evolves ∧ card.HasPredecessor

def Complete (card : Card) : Prop := card.HasStage ∧ card.hp.isSome = true

/-- What keeps a card from being complete; the stage comes before the hit points. -/
inductive Lacks (card : Card) : CardFault → Prop
  | stage (basic : card.hasSubtype "Basic" = false) (evolves : ¬ card.Evolves) :
      Lacks card (.missingStage card.subtypes)
  | predecessor (basic : card.hasSubtype "Basic" = false) (evolves : card.Evolves)
      (missing : ¬ card.HasPredecessor) : Lacks card .missingPredecessor
  | hitPoints (stage : card.HasStage) (missing : card.hp = none) : Lacks card .missingHitPoints

theorem HasPredecessor.predecessor_eq {card : Card} (h : card.HasPredecessor) :
    ∃ name, card.predecessor = .ok name := by
  obtain ⟨name, named, blank⟩ := h
  exact ⟨name, by simp [predecessor, named, blank]⟩

theorem predecessor_eq_malformed {card : Card} (h : ¬ card.HasPredecessor) :
    card.predecessor = card.malformed .missingPredecessor := by
  cases named : card.evolvesFrom with
  | none => simp [predecessor, named]
  | some name =>
      have blank : Text.isBlank name.toList = true := by
        by_contra full
        exact h ⟨name, named, by simpa using full⟩
      simp [predecessor, named, blank]

theorem HasStage.stage_eq {card : Card} (h : card.HasStage) : ∃ stage, card.stage = .ok stage := by
  by_cases basic : card.hasSubtype "Basic" = true
  · exact ⟨.basic, by simp [stage, basic]⟩
  · obtain ⟨evolves, previous⟩ := h.resolve_left basic
    obtain ⟨name, known⟩ := previous.predecessor_eq
    by_cases first : card.hasSubtype "Stage 1" = true
    · exact ⟨.stage1 name, by simp [stage, basic, first, known, Except.map]⟩
    · have second := evolves.resolve_left first
      exact ⟨.stage2 name, by simp [stage, basic, first, second, known, Except.map]⟩

theorem exists_lacks {card : Card} (h : ¬ card.Complete) : ∃ fault, card.Lacks fault := by
  by_cases staged : card.HasStage
  · exact ⟨_, .hitPoints staged (by simpa [Complete, staged] using h)⟩
  · have basic : card.hasSubtype "Basic" = false := by
      simpa using fun tagged => staged (.inl tagged)
    by_cases evolves : card.Evolves
    · exact ⟨_, .predecessor basic evolves fun known => staged (.inr ⟨evolves, known⟩)⟩
    · exact ⟨_, .stage basic evolves⟩

end Card

namespace Dispatcher

variable (dispatcher : Dispatcher) {card : Card}

theorem readCard_of_complete (h : card.Complete) : ∃ read, dispatcher.readCard card = .ok read := by
  obtain ⟨stage, staged⟩ := h.1.stage_eq
  obtain ⟨hp, counted⟩ := Option.isSome_iff_exists.mp h.2
  exact ⟨⟨card, stage, hp, card.attacks.map dispatcher.readAttack⟩, by
    simp [readCard, staged, Card.hitPoints, counted, bind, Except.bind, pure, Except.pure]⟩

theorem readCard_of_lacks {fault : CardFault} (h : card.Lacks fault) :
    dispatcher.readCard card = .error (.malformed card.identifier fault) := by
  cases h with
  | stage basic evolves =>
      obtain ⟨first, second⟩ := not_or.mp evolves
      simp [readCard, Card.stage, basic, first, second, Card.malformed, bind, Except.bind]
  | predecessor basic evolves missing =>
      have unknown := Card.predecessor_eq_malformed missing
      have staged : card.stage = card.malformed .missingPredecessor := by
        by_cases first : card.hasSubtype "Stage 1" = true
        · simp [Card.stage, basic, first, unknown, Card.malformed, Except.map]
        · have second := evolves.resolve_left first
          simp [Card.stage, basic, first, second, unknown, Card.malformed, Except.map]
      simp [readCard, staged, Card.malformed, bind, Except.bind]
  | hitPoints stage missing =>
      obtain ⟨stage, staged⟩ := stage.stage_eq
      simp [readCard, staged, Card.hitPoints, missing, Card.malformed, bind, Except.bind]

theorem exists_readCard_iff : (∃ read, dispatcher.readCard card = .ok read) ↔ card.Complete := by
  refine ⟨fun ⟨read, h⟩ => ?_, dispatcher.readCard_of_complete⟩
  by_contra incomplete
  obtain ⟨fault, lacks⟩ := Card.exists_lacks incomplete
  simp [dispatcher.readCard_of_lacks lacks] at h

theorem readCard_eq_error_iff {error : Error} :
    dispatcher.readCard card = .error error ↔
      ∃ fault, card.Lacks fault ∧ error = .malformed card.identifier fault := by
  constructor
  · intro h
    have incomplete : ¬ card.Complete := by
      rw [← dispatcher.exists_readCard_iff]
      simp [h]
    obtain ⟨fault, lacks⟩ := Card.exists_lacks incomplete
    rw [dispatcher.readCard_of_lacks lacks] at h
    exact ⟨fault, lacks, (Except.error.inj h).symm⟩
  · rintro ⟨fault, lacks, rfl⟩
    exact dispatcher.readCard_of_lacks lacks

theorem exists_readSet_iff {group : SetCards} :
    (∃ read, dispatcher.readSet group = .ok read) ↔ ∀ card ∈ group.cards, card.Complete := by
  simp only [← dispatcher.exists_readCard_iff, ← exists_mapM_eq_ok_iff, readSet, bind_eq_ok_iff,
    pure_eq_ok_iff]
  exact ⟨fun ⟨_, cards, read, _⟩ => ⟨cards, read⟩, fun ⟨cards, read⟩ => ⟨_, cards, read, rfl⟩⟩

theorem readSet_eq_error_iff {group : SetCards} {error : Error} :
    dispatcher.readSet group = .error error ↔
      ∃ card, FirstBad Card.Complete group.cards card ∧
        ∃ fault, card.Lacks fault ∧ error = .malformed card.identifier fault := by
  have fine : (fun card => ∃ read, dispatcher.readCard card = .ok read) = Card.Complete :=
    funext fun card => propext dispatcher.exists_readCard_iff
  simp [readSet, bind_eq_error_iff, mapM_eq_error_iff, fine, readCard_eq_error_iff, pure,
    Except.pure]

end Dispatcher

namespace Dataset

/-- The bad card whose set has the least name, and of these cards the first. -/
def FirstBySet (good : Card → Prop) (cards : List Card) (bad : Card) : Prop :=
  ∃ before after, cards = before ++ bad :: after ∧ ¬ good bad ∧
    (∀ card ∈ before, ¬ good card → bad.set.canonicalName < card.set.canonicalName) ∧
    ∀ card ∈ after, ¬ good card → bad.set.canonicalName ≤ card.set.canonicalName

variable {good : Card → Prop} {cards : List Card} {bad : Card}

theorem firstBySet_iff :
    FirstBySet good cards bad ↔
      (∀ card ∈ cards, ¬ good card → bad.set.canonicalName ≤ card.set.canonicalName) ∧
        FirstBad good (cards.filter fun card => card.set.canonicalName = bad.set.canonicalName)
          bad := by
  rw [firstBad_filter]
  simp only [decide_true, true_and, decide_eq_true_eq]
  constructor
  · rintro ⟨before, after, rfl, fails, front, back⟩
    refine ⟨fun card inside wrong => ?_, before, after, rfl, fun card inside equal => ?_, by simpa⟩
    · rcases List.mem_append.mp inside with inside | inside
      · exact (front card inside wrong).le
      · rcases List.mem_cons.mp inside with rfl | inside
        · exact le_rfl
        · exact back card inside wrong
    · by_contra wrong
      exact (front card inside wrong).ne equal.symm
  · rintro ⟨least, before, after, rfl, fine, fails⟩
    refine ⟨before, after, rfl, by simpa using fails, fun card inside wrong => ?_,
      fun card inside wrong => least card (by simp [inside]) wrong⟩
    refine lt_of_le_of_ne (least card (by simp [inside]) wrong) fun equal => ?_
    exact wrong (fine card inside equal.symm)

theorem firstBySet_iff_firstBad
    (ordered : cards.Pairwise fun a b => a.set.canonicalName ≤ b.set.canonicalName) :
    FirstBySet good cards bad ↔ FirstBad good cards bad := by
  constructor
  · rintro ⟨before, after, rfl, fails, front, _⟩
    refine ⟨before, after, rfl, fun card inside => ?_, fails⟩
    by_contra wrong
    have sorted := (List.pairwise_append.mp ordered).2.2 card inside bad (by simp)
    exact (front card inside wrong).not_ge sorted
  · rintro ⟨before, after, rfl, fine, fails⟩
    have sorted := (List.pairwise_append.mp ordered).2.1
    exact ⟨before, after, rfl, fails, fun card inside wrong => absurd (fine card inside) wrong,
      fun card inside _ => (List.pairwise_cons.mp sorted).1 card inside⟩

theorem Partition.firstBad_flatMap_iff {groups : List SetCards} (h : Partition groups cards) :
    FirstBad good (groups.flatMap SetCards.cards) bad ↔ FirstBySet good cards bad := by
  rw [← firstBySet_iff_firstBad h.pairwise_flatMap, firstBySet_iff, firstBySet_iff,
    h.filter_flatMap]
  simp only [h.mem_flatMap]

def Loads (document : String) : Prop := ∃ cards, Yields document cards

end Dataset

namespace Generation

variable (options : Options) {groups : List SetCards}

theorem exists_ofGroups_iff :
    (∃ generation, ofGroups options groups = .ok generation) ↔
      ∀ card ∈ groups.flatMap SetCards.cards, card.Complete := by
  have each : (∃ sets, groups.mapM defaultDispatcher.readSet = .ok sets) ↔
      ∀ card ∈ groups.flatMap SetCards.cards, card.Complete := by
    simp only [exists_mapM_eq_ok_iff, Dispatcher.exists_readSet_iff, List.mem_flatMap]
    exact ⟨fun h card ⟨group, inside, own⟩ => h group inside card own,
      fun h group inside card own => h card ⟨group, inside, own⟩⟩
  rw [← each]
  simp only [ofGroups, bind_eq_ok_iff, pure_eq_ok_iff]
  exact ⟨fun ⟨_, sets, read, _⟩ => ⟨sets, read⟩, fun ⟨sets, read⟩ => ⟨_, sets, read, rfl⟩⟩

theorem ofGroups_eq_error_iff {error : Error} :
    ofGroups options groups = .error error ↔
      ∃ card, FirstBad Card.Complete (groups.flatMap SetCards.cards) card ∧
        ∃ fault, card.Lacks fault ∧ error = .malformed card.identifier fault := by
  simp only [ofGroups, bind_eq_error_iff, mapM_eq_error_iff, Dispatcher.exists_readSet_iff,
    Dispatcher.readSet_eq_error_iff, firstBad_flatMap]
  simp only [pure, Except.pure, reduceCtorEq, and_false, exists_false, or_false]
  constructor
  · rintro ⟨group, first, card, inside, lacks⟩
    exact ⟨card, ⟨group, first, inside⟩, lacks⟩
  · rintro ⟨card, ⟨group, first, inside⟩, lacks⟩
    exact ⟨group, first, card, inside, lacks⟩

def ReadSets (documents : List String) (sets : List ReadSet) : Prop :=
  ∃ groups, Dataset.loadAll documents = .ok groups ∧
    List.Forall₂ (fun group read => defaultDispatcher.readSet group = .ok read) groups sets

theorem generateAll_eq_ok_iff {documents : List String} {generation : Generation} :
    generateAll options documents = .ok generation ↔
      ∃ sets, ReadSets documents sets ∧ ofSets options sets = generation := by
  simp only [generateAll, ofGroups, bind_eq_ok_iff, pure_eq_ok_iff, mapM_eq_ok_iff, ReadSets]
  constructor
  · exact fun ⟨groups, loaded, sets, read, same⟩ => ⟨sets, ⟨groups, loaded, read⟩, same⟩
  · exact fun ⟨sets, ⟨groups, loaded, read⟩, same⟩ => ⟨groups, loaded, sets, read, same⟩

inductive Stops (documents : List String) : Error → Prop
  | document {document : String} {error : Error}
      (first : FirstBad Dataset.Loads documents document)
      (wrong : Dataset.Refuses document error) : Stops documents error
  | card {lists : List (List Card)} {card : Card} {fault : CardFault}
      (loaded : List.Forall₂ Dataset.Yields documents lists)
      (first : Dataset.FirstBySet Card.Complete lists.flatten card) (wrong : card.Lacks fault) :
      Stops documents (.malformed card.identifier fault)

theorem generateAll_eq_bind (documents : List String) :
    generateAll options documents =
      documents.mapM Dataset.cards >>= fun lists =>
        ofGroups options (Dataset.group lists.flatten) := by
  simp [generateAll, Dataset.loadAll_eq_map]

theorem exists_yields_iff {p : Card → Prop} {documents : List String} :
    (∃ lists, List.Forall₂ Dataset.Yields documents lists ∧ ∀ card ∈ lists.flatten, p card) ↔
      ∀ document ∈ documents, ∃ cards, Dataset.Yields document cards ∧ ∀ card ∈ cards, p card := by
  induction documents with
  | nil => simp
  | cons document documents ih =>
      simp only [List.forall_mem_cons, ← ih, List.forall₂_cons_left_iff]
      constructor
      · rintro ⟨_, ⟨cards, lists, first, rest, rfl⟩, all⟩
        simp only [List.flatten_cons, List.forall_mem_append] at all
        exact ⟨⟨cards, first, all.1⟩, lists, rest, all.2⟩
      · rintro ⟨⟨cards, first, own⟩, lists, rest, others⟩
        refine ⟨cards :: lists, ⟨cards, lists, first, rest, rfl⟩, ?_⟩
        simpa only [List.flatten_cons, List.forall_mem_append] using ⟨own, others⟩

/-- A run succeeds exactly when all documents load and all their cards are complete, and
otherwise it stops for the one reason that comes first. -/
theorem generateAll_outcome (options : Options) (documents : List String) :
    ((∃ generation, generateAll options documents = .ok generation) ↔
        ∀ document ∈ documents, ∃ cards, Dataset.Yields document cards ∧
          ∀ card ∈ cards, card.Complete) ∧
      ∀ error, generateAll options documents = .error error ↔ Stops documents error := by
  have groups := fun cards => Dataset.partition_group cards
  rw [generateAll_eq_bind]
  constructor
  · rw [← exists_yields_iff]
    simp only [bind_eq_ok_iff, mapM_eq_ok_iff, Dataset.cards_eq_ok_iff]
    rw [exists_comm]
    refine exists_congr fun lists => ?_
    rw [exists_and_left, exists_ofGroups_iff]
    simp only [(groups lists.flatten).mem_flatMap]
  · intro error
    simp only [bind_eq_error_iff, mapM_eq_error_iff, mapM_eq_ok_iff, Dataset.cards_eq_ok_iff,
      Dataset.cards_eq_error_iff, ofGroups_eq_error_iff, (groups _).firstBad_flatMap_iff]
    constructor
    · rintro (⟨document, first, wrong⟩ | ⟨lists, loaded, card, first, fault, lacks, rfl⟩)
      · exact .document first wrong
      · exact .card loaded first lacks
    · rintro (⟨first, wrong⟩ | ⟨loaded, first, lacks⟩)
      · exact .inl ⟨_, first, wrong⟩
      · exact .inr ⟨_, loaded, _, first, _, lacks, rfl⟩

end Generation
end CardText
