import CardText.Proofs.Generation.Batches

/-! The records that count. Of what a document lists only the creature records matter: whatever
stands between them may be added, taken out or changed without a trace, and when all of them are
cards they are divided into their sets, each set with its cards in the order of the document. -/
namespace CardText.Dataset

/-- An object under the supertype of creatures, whose accent may be left out; without it the case
of the letters does not matter. -/
inductive IsCreature : Json → Prop
  | object {members : List (String × Json)} {supertype : String}
      (found : members.lookup "supertype" = some (.string supertype))
      (named : supertype = "Pokémon" ∨ Text.lowerAscii supertype.toList = "pokemon".toList) :
      IsCreature (.object members)

theorem isCreatureSupertype_iff {supertype : String} :
    isCreatureSupertype supertype = true ↔
      supertype = "Pokémon" ∨ Text.lowerAscii supertype.toList = "pokemon".toList := by
  have small : Text.lowerAscii "pokemon".toList = "pokemon".toList := by decide
  rw [isCreatureSupertype, Text.sameIgnoringCase, small, Bool.or_eq_true, beq_iff_eq, beq_iff_eq]

theorem isCreatureRecord_iff {record : Json} :
    isCreatureRecord record = true ↔ IsCreature record := by
  simp only [isCreatureRecord, Option.any_eq_true, Option.bind_eq_some_iff]
  constructor
  · rintro ⟨supertype, ⟨value, found, text⟩, creature⟩
    cases record with
    | object members =>
        cases value with
        | string word =>
            obtain rfl : word = supertype := Option.some.inj text
            exact .object found (isCreatureSupertype_iff.mp creature)
        | _ => cases text
    | _ => cases found
  · rintro ⟨found, named⟩
    exact ⟨_, ⟨_, found, rfl⟩, isCreatureSupertype_iff.mpr named⟩

instance : DecidablePred IsCreature := fun _ => decidable_of_iff _ isCreatureRecord_iff

theorem filter_isCreatureRecord (records : List Json) :
    records.filter isCreatureRecord = records.filter (IsCreature ·) := by
  refine List.filter_congr fun record _ => ?_
  rw [Bool.eq_iff_iff, isCreatureRecord_iff, decide_eq_true_iff]

/-- Records between the creature records come, go and change; the creature records stay. -/
inductive Edited : List Json → List Json → Prop
  | nil : Edited [] []
  | keep {records others : List Json} (record : Json) (rest : Edited records others) :
      Edited (record :: records) (record :: others)
  | insert {records others : List Json} {new : Json} (other : ¬ IsCreature new)
      (rest : Edited records others) : Edited records (new :: others)
  | delete {records others : List Json} {old : Json} (other : ¬ IsCreature old)
      (rest : Edited records others) : Edited (old :: records) others
  | change {records others : List Json} {old new : Json} (before : ¬ IsCreature old)
      (after : ¬ IsCreature new) (rest : Edited records others) :
      Edited (old :: records) (new :: others)

theorem edited_of_filter_eq_nil {others : List Json} (h : others.filter (IsCreature ·) = []) :
    Edited [] others := by
  induction others with
  | nil => exact .nil
  | cons new others ih =>
      obtain ⟨other, rest⟩ := List.forall_mem_cons.mp (List.filter_eq_nil_iff.mp h)
      exact .insert (by simpa using other) (ih (List.filter_eq_nil_iff.mpr rest))

theorem edited_of_filter_eq_cons {record : Json} {records others : List Json}
    (h : record :: records.filter (IsCreature ·) = others.filter (IsCreature ·))
    (ih : ∀ {others : List Json},
      records.filter (IsCreature ·) = others.filter (IsCreature ·) → Edited records others) :
    Edited (record :: records) others := by
  induction others with
  | nil => cases h
  | cons new others ih' =>
      by_cases counts : IsCreature new
      · rw [List.filter_cons_of_pos (by simpa using counts)] at h
        obtain ⟨rfl, tail⟩ := List.cons.inj h
        exact .keep record (ih tail)
      · rw [List.filter_cons_of_neg (by simpa using counts)] at h
        exact .insert counts (ih' h)

theorem edited_iff {records others : List Json} :
    Edited records others ↔
      records.filter (IsCreature ·) = others.filter (IsCreature ·) := by
  constructor
  · intro edited
    induction edited with
    | nil => rfl
    | keep record _ ih => simp only [List.filter_cons, ih]
    | insert other _ ih => simpa [other] using ih
    | delete other _ ih => simpa [other] using ih
    | change before after _ ih => simpa [before, after] using ih
  · intro same
    induction records generalizing others with
    | nil => exact edited_of_filter_eq_nil same.symm
    | cons record records ih =>
        by_cases counts : IsCreature record
        · rw [List.filter_cons_of_pos (by simpa using counts)] at same
          exact edited_of_filter_eq_cons same ih
        · rw [List.filter_cons_of_neg (by simpa using counts)] at same
          exact .delete counts (ih same)

theorem Edited.creatures_eq {records others : List Json} (h : Edited records others) :
    creatures records = creatures others := by
  simp only [creatures, filter_isCreatureRecord, edited_iff.mp h]

theorem Lists.load_eq {document : String} {records : List Json} (h : Lists document records) :
    load document = group <$> creatures records := by
  rw [load_eq_map, h.cards_eq]

/-- What is no creature record leaves no trace in the sets of a document or in a run over it,
alone or among other documents; nor does it change what is wrong with them. -/
theorem edits_keep_result {document other : String} {records others : List Json}
    (listed : Lists document records) (listed' : Lists other others)
    (edited : Edited records others) :
    load document = load other ∧
      ∀ (options : Options) (before after : List String),
        Generation.generateAll options (before ++ document :: after) =
          Generation.generateAll options (before ++ other :: after) := by
  have same : load document = load other := by
    rw [listed.load_eq, listed'.load_eq, edited.creatures_eq]
  refine ⟨same, fun options before after => ?_⟩
  have all : loadAll (before ++ document :: after) = loadAll (before ++ other :: after) := by
    simp only [loadAll, List.mapM_append, List.mapM_cons, same]
  rw [Generation.generateAll, Generation.generateAll, all]

open Generation in
set_option maxRecDepth 4000 in
theorem edits_keep_result_padded :
    let alone := "[" ++ plainText "Abra" "Fossil" ++ "]"
    let padded := "\x7b\"data\":[1," ++ plainText "Abra" "Fossil" ++
      ",null,\x7b\"supertype\":\"Trainer\",\"set\":7\x7d]\x7d"
    load alone = load padded ∧ generateAll {} [alone] = generateAll {} [padded] := by
  intro alone padded
  have first : Json.parse alone = .ok (.array [plainRecord "Abra" "Fossil"]) := by
    simp only [alone, Json.parse, plainText, String.toList_append]
    repeat rw [String.toList_ofList]
    cbv
  let trainer := Json.object [("set", .number (.integer 7)), ("supertype", .string "Trainer")]
  have second : Json.parse padded = .ok (.object [("data", .array
      [.number (.integer 1), plainRecord "Abra" "Fossil", .null, trainer])]) := by
    simp only [padded, Json.parse, plainText, String.toList_append]
    repeat rw [String.toList_ofList]
    cbv
  have edited : Edited [plainRecord "Abra" "Fossil"]
      [.number (.integer 1), plainRecord "Abra" "Fossil", .null, trainer] :=
    .insert (by decide) (.keep _ (.insert (by decide) (.insert (by decide) .nil)))
  obtain ⟨sets, runs⟩ := edits_keep_result ⟨_, first, .bare _⟩ ⟨_, second, .data rfl⟩ edited
  exact ⟨sets, runs {} [] []⟩

/-- Creature records that are cards all come through, each in the one group of its set: the groups
ascend, none is empty, and each holds the cards of its name in the order of the document, under
the set of the first of them. -/
theorem load_stable_partition {document : String} {records : List Json}
    (listed : Lists document records)
    (decode : ∀ record ∈ records, IsCreature record → Decodes record) :
    ∃ cards groups,
      List.Forall₂ (fun record card => Card.decode record = .ok card)
        (records.filter (IsCreature ·)) cards ∧
      load document = .ok groups ∧ Ascending groups ∧
      (groups.flatMap SetCards.cards).Perm cards ∧
      ∀ group ∈ groups,
        group.cards =
            cards.filter (fun card => card.set.canonicalName = group.set.canonicalName) ∧
          ∃ first rest, group.cards = first :: rest ∧ group.set = first.set := by
  have each : ∀ record ∈ records.filter isCreatureRecord,
      ∃ card, creature record = .ok card := by
    intro record inside
    obtain ⟨inside, counts⟩ := List.mem_filter.mp inside
    obtain ⟨card, good⟩ := decode record inside (isCreatureRecord_iff.mp counts)
    exact ⟨card, creature_eq_ok_iff.mpr good⟩
  obtain ⟨cards, read⟩ := exists_mapM_eq_ok_iff.mpr each
  have loaded : load document = .ok (group cards) := by
    rw [listed.load_eq, creatures, read]
    rfl
  have decoded := creatures_eq_ok_iff.mp read
  rw [filter_isCreatureRecord] at decoded
  have divided := partition_group cards
  exact ⟨cards, group cards, decoded, loaded, divided.ascending, divided.perm_flatMap,
    fun _ inside => ⟨divided.cards_eq_filter inside, divided.exists_first inside⟩⟩

def plainCard (name set : String) : Card :=
  ⟨name, "pokemon", ["Basic"], some 10, [], [], [], [], none, [], ⟨set, none, none⟩, "1"⟩

theorem decode_plainRecord (name set : String) :
    Card.decode (Generation.plainRecord name set) = .ok (plainCard name set) := by cbv

open Generation in
set_option maxRecDepth 4000 in
theorem load_stable_partition_interleaved :
    let cards := [plainCard "Abra" "Fossil", plainCard "Onix" "Base", plainCard "Mew" "fossil!"]
    ∃ groups,
      load ("[" ++ plainText "Abra" "Fossil" ++ ",1," ++ plainText "Onix" "Base" ++ "," ++
        plainText "Mew" "fossil!" ++ "]") = .ok groups ∧
      Ascending groups ∧ (groups.flatMap SetCards.cards).Perm cards ∧
      ∀ group ∈ groups,
        group.cards =
          cards.filter fun card => card.set.canonicalName = group.set.canonicalName := by
  intro cards
  let records := [plainRecord "Abra" "Fossil", .number (.integer 1), plainRecord "Onix" "Base",
    plainRecord "Mew" "fossil!"]
  have read : Json.parse ("[" ++ plainText "Abra" "Fossil" ++ ",1," ++ plainText "Onix" "Base" ++
      "," ++ plainText "Mew" "fossil!" ++ "]") = .ok (.array records) := by
    simp only [Json.parse, plainText, String.toList_append]
    repeat rw [String.toList_ofList]
    cbv
  have decode : ∀ record ∈ records, IsCreature record → Decodes record := by
    intro record inside counts
    simp only [records, List.mem_cons, List.not_mem_nil, or_false] at inside
    rcases inside with rfl | rfl | rfl | rfl
    · exact ⟨_, decode_plainRecord ..⟩
    · cases counts
    · exact ⟨_, decode_plainRecord ..⟩
    · exact ⟨_, decode_plainRecord ..⟩
  obtain ⟨found, groups, decoded, loaded, ascending, perm, own⟩ :=
    load_stable_partition ⟨_, read, .bare _⟩ decode
  have kept : records.filter (IsCreature ·) = [plainRecord "Abra" "Fossil",
      plainRecord "Onix" "Base", plainRecord "Mew" "fossil!"] := rfl
  have same : found = cards := by
    simpa [kept, cards, List.forall₂_cons_left_iff, decode_plainRecord, eq_comm] using decoded
  subst same
  exact ⟨groups, loaded, ascending, perm, fun group inside => (own group inside).1⟩

end CardText.Dataset
