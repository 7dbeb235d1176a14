import CardText.Proofs.Dataset.Grouping
import CardText.Proofs.Traversal

/-! What a document yields and why it is refused. A document yields the cards of its creature
records; it is refused for its syntax, for what stands in the place of its records, or for the
first creature record that is no card. Several documents yield their cards one after the
other, and the first document that is refused stops them all. -/
namespace CardText

namespace Dataset

/-- A document is the list of its records, or an object that has it as its data. -/
inductive Listed : Json → List Json → Prop
  | bare (records : List Json) : Listed (.array records) records
  | data {members : List (String × Json)} {records : List Json}
      (found : members.lookup "data" = some (.array records)) : Listed (.object members) records

def Lists (document : String) (records : List Json) : Prop :=
  ∃ value, Json.parse document = .ok value ∧ Listed value records

def Decodes (record : Json) : Prop := ∃ card, Card.decode record = .ok card

def Yields (document : String) (cards : List Card) : Prop :=
  ∃ records, Lists document records ∧
    List.Forall₂ (fun record card => Card.decode record = .ok card)
      (records.filter isCreatureRecord) cards

def title (record : Json) : String :=
  ((record.member? "name").bind Json.string?).getD "<unnamed>"

inductive Refuses (document : String) : Error → Prop
  | unreadable {message : String} (wrong : Json.parse document = .error message) :
      Refuses document (.json message)
  | noData {members : List (String × Json)} (read : Json.parse document = .ok (.object members))
      (missing : ∀ records, members.lookup "data" ≠ some (.array records)) :
      Refuses document (.document .noData)
  | notCards {value : Json} (read : Json.parse document = .ok value)
      (list : ∀ records, value ≠ .array records) (object : ∀ members, value ≠ .object members) :
      Refuses document (.document .notCards)
  | shape {records : List Json} {record : Json} {fault : DecodeError}
      (read : Lists document records)
      (first : FirstBad Decodes (records.filter isCreatureRecord) record)
      (wrong : Card.decode record = .error fault) :
      Refuses document (.malformed (title record) (.shape fault))

theorem records_eq_ok_iff {value : Json} {list : List Json} :
    records value = .ok list ↔ Listed value list := by
  constructor
  · intro h
    unfold records at h
    split at h
    · cases h
      exact .bare _
    · split at h
      · cases h
        exact .data ‹_›
      · cases h
    · cases h
  · rintro (_ | found)
    · rfl
    · simp [records, found]

theorem creature_eq_ok_iff {record : Json} {card : Card} :
    creature record = .ok card ↔ Card.decode record = .ok card := by
  cases h : Card.decode record <;> simp [creature, h]

theorem creature_eq_error_iff {record : Json} {error : Error} :
    creature record = .error error ↔
      ∃ fault, Card.decode record = .error fault ∧
        error = .malformed (title record) (.shape fault) := by
  cases h : Card.decode record <;> simp [creature, h, title, eq_comm]

theorem records_eq_error_iff {value : Json} {error : Error} :
    records value = .error error ↔
      (∃ members, value = .object members ∧
          (∀ list, members.lookup "data" ≠ some (.array list)) ∧ error = .document .noData) ∨
        (∀ list, value ≠ .array list) ∧ (∀ members, value ≠ .object members) ∧
          error = .document .notCards := by
  cases value with
  | array list => simp [records]
  | object members =>
      simp only [records]
      split
      · simp_all
      · simp_all [eq_comm]
  | _ => simp [records, eq_comm]

def cards (document : String) : Except Error (List Card) := do
  let value ← parse document
  let records ← records value
  creatures records

theorem parse_eq_ok_iff {document : String} {value : Json} :
    parse document = .ok value ↔ Json.parse document = .ok value := by
  cases h : Json.parse document <;> simp [parse, h, Except.mapError]

theorem parse_eq_error_iff {document : String} {error : Error} :
    parse document = .error error ↔
      ∃ message, Json.parse document = .error message ∧ error = .json message := by
  cases h : Json.parse document <;> simp [parse, h, Except.mapError, eq_comm]

theorem creatures_eq_ok_iff {records : List Json} {cards : List Card} :
    creatures records = .ok cards ↔
      List.Forall₂ (fun record card => Card.decode record = .ok card)
        (records.filter isCreatureRecord) cards := by
  simp only [creatures, mapM_eq_ok_iff, creature_eq_ok_iff]

theorem creatures_eq_error_iff {records : List Json} {error : Error} :
    creatures records = .error error ↔
      ∃ record, FirstBad Decodes (records.filter isCreatureRecord) record ∧
        ∃ fault, Card.decode record = .error fault ∧
          error = .malformed (title record) (.shape fault) := by
  have fine : (fun record => ∃ card, creature record = .ok card) = Decodes := by
    funext record
    simp [Decodes, creature_eq_ok_iff]
  simp only [creatures, mapM_eq_error_iff, creature_eq_error_iff, fine]

theorem Lists.cards_eq {document : String} {records : List Json} (h : Lists document records) :
    cards document = creatures records := by
  obtain ⟨value, read, listed⟩ := h
  rw [cards, parse_eq_ok_iff.mpr read]
  simp [records_eq_ok_iff.mpr listed, bind, Except.bind]

theorem cards_eq_ok_iff {document : String} {list : List Card} :
    cards document = .ok list ↔ Yields document list := by
  simp only [cards, bind_eq_ok_iff, parse_eq_ok_iff, records_eq_ok_iff, creatures_eq_ok_iff,
    Yields, Lists]
  constructor
  · exact fun ⟨value, read, records, listed, decoded⟩ => ⟨records, ⟨value, read, listed⟩, decoded⟩
  · exact fun ⟨records, ⟨value, read, listed⟩, decoded⟩ => ⟨value, read, records, listed, decoded⟩

theorem cards_eq_error_iff {document : String} {error : Error} :
    cards document = .error error ↔ Refuses document error := by
  simp only [cards, bind_eq_error_iff, parse_eq_ok_iff, parse_eq_error_iff, records_eq_ok_iff,
    records_eq_error_iff, creatures_eq_error_iff]
  constructor
  · rintro (⟨message, wrong, rfl⟩ | ⟨value, read, fails⟩)
    · exact .unreadable wrong
    · rcases fails with (⟨members, rfl, missing, rfl⟩ | ⟨list, object, rfl⟩) | fails
      · exact .noData read missing
      · exact .notCards read list object
      · obtain ⟨records, listed, record, first, fault, wrong, rfl⟩ := fails
        exact .shape ⟨value, read, listed⟩ first wrong
  · rintro (wrong | ⟨read, missing⟩ | ⟨read, list, object⟩ | ⟨⟨value, read, listed⟩, first, wrong⟩)
    · exact .inl ⟨_, wrong, rfl⟩
    · exact .inr ⟨_, read, .inl (.inl ⟨_, rfl, missing, rfl⟩)⟩
    · exact .inr ⟨_, read, .inl (.inr ⟨list, object, rfl⟩)⟩
    · exact .inr ⟨value, read, .inr ⟨_, listed, _, first, _, wrong, rfl⟩⟩

theorem load_eq_map (document : String) : load document = group <$> cards document := by
  simp [load, cards]

theorem loadAll_eq_map (documents : List String) :
    loadAll documents = (fun lists => group lists.flatten) <$> documents.mapM cards := by
  have each : documents.mapM load = List.map group <$> documents.mapM cards := by
    rw [← mapM_map]
    exact congrArg (documents.mapM ·) (funext load_eq_map)
  simp [loadAll, each, arrange_foldl_groups]

theorem exists_partition_of_loadAll {documents : List String} {groups : List SetCards}
    (h : loadAll documents = .ok groups) : ∃ cards, Partition groups cards := by
  rw [loadAll_eq_map] at h
  cases read : documents.mapM cards with
  | error error => simp [read] at h
  | ok lists =>
      obtain rfl : group lists.flatten = groups := by simpa [read] using h
      exact ⟨_, partition_group _⟩

end Dataset
end CardText
