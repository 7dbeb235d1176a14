import CardText.Disk.Path
import CardText.Proofs.Dataset.CanonicalName
import CardText.Proofs.Dataset.Creatures
import CardText.Proofs.Generation.Combined

/-! Where the units of a run go. Their sets stand in ascending order of canonical names, each name
once, so no two units go to one place; and a canonical name has nothing in it that a path gives a
meaning to, so every unit stays in a folder of its own below the directory it is written to. -/
namespace CardText

namespace Emit

theorem toList_path_of_ne {name : String} (h : name ≠ "") :
    (path name).toList = name.toList ++ '/' :: "pokemon.rs".toList := by
  have tail : "/pokemon.rs".toList = '/' :: "pokemon.rs".toList := by decide
  rw [path, if_neg (by simpa using h), String.toList_append, tail]

theorem path_injective : Function.Injective path := by
  intro name other same
  have toList := congrArg String.toList same
  by_cases none : name = ""
  · by_cases none' : other = ""
    · rw [none, none']
    · rw [none, toList_path_of_ne none'] at toList
      have lengths := congrArg List.length toList
      simp [path] at lengths
  · by_cases none' : other = ""
    · rw [none', toList_path_of_ne none] at toList
      have lengths := congrArg List.length toList
      simp [path] at lengths
    · rw [toList_path_of_ne none, toList_path_of_ne none'] at toList
      exact String.toList_injective (List.append_cancel_right toList)

theorem names_path {name : String} (h : IsFolderName name) :
    Path.names (path name) = if name = "" then ["pokemon.rs"] else [name, "pokemon.rs"] := by
  by_cases none : name = ""
  · rw [if_pos none, none]
    decide
  · have within : ∀ c ∈ name.toList, (c == '/') = false := fun c inside =>
      beq_false_of_ne fun slash => h.no_slash (slash ▸ inside)
    have last : "pokemon.rs".toList.splitOnP (· == '/') = ["pokemon.rs".toList] := by decide
    rw [if_neg none, Path.names, toList_path_of_ne none, Text.splitAt_eq_splitOnP,
      List.splitOnP_append_cons_of_forall_mem within _ (by rfl), last]
    simp [none]

end Emit

theorem Dispatcher.set_readSet {dispatcher : Dispatcher} {group : SetCards} {read : ReadSet}
    (h : dispatcher.readSet group = .ok read) : read.set = group.set := by
  simp only [readSet, bind_eq_ok_iff, pure_eq_ok_iff] at h
  obtain ⟨cards, -, rfl⟩ := h
  rfl

namespace Generation

theorem ReadSets.ascending {documents : List String} {sets : List ReadSet}
    (h : ReadSets documents sets) :
    (sets.map ReadSet.set).Pairwise fun a b => a.canonicalName < b.canonicalName := by
  obtain ⟨groups, loaded, read⟩ := h
  obtain ⟨cards, divided⟩ := Dataset.exists_partition_of_loadAll loaded
  have same : sets.map ReadSet.set = groups.map SetCards.set := by
    clear loaded divided
    induction read with
    | nil => rfl
    | cons first _ ih => rw [List.map_cons, List.map_cons, ih, Dispatcher.set_readSet first]
  rw [same, List.pairwise_map]
  exact divided.ascending

/-- The units of a run ascend by canonical name, so that their paths differ; each stands beside
the report of its own set; and a canonical name is a mere folder, with no separator, dot or stray
underscore, so that nothing is written outside of it. -/
theorem units_apart_and_inside (options : Options) (documents : List String)
    (generation : Generation) (h : generateAll options documents = .ok generation) :
    (generation.units.Pairwise fun a b => a.canonicalName < b.canonicalName) ∧
      (generation.units.map SetUnit.path).Nodup ∧
      (∃ sets, ReadSets documents sets ∧ generation.units = sets.map (Emit.set options) ∧
        generation.reports = sets.map fun read =>
          (read.set.name, Coverage.ofSet defaultDispatcher.rules.length read)) ∧
      ∀ unit ∈ generation.units, IsFolderName unit.canonicalName ∧
        unit.path =
          (if unit.canonicalName = "" then "pokemon.rs" else unit.canonicalName ++ "/pokemon.rs") ∧
        Path.names unit.path =
          if unit.canonicalName = "" then ["pokemon.rs"] else [unit.canonicalName, "pokemon.rs"] := by
  obtain ⟨sets, read, rfl⟩ := (generateAll_eq_ok_iff options).mp h
  have ascending : (ofSets options sets).units.Pairwise fun a b =>
      a.canonicalName < b.canonicalName := by
    have ordered := List.pairwise_map.mp read.ascending
    rw [ofSets, List.pairwise_map]
    exact ordered
  refine ⟨ascending, ?_, ⟨sets, read, rfl, rfl⟩, fun unit inside => ?_⟩
  · refine List.pairwise_map.mpr (ascending.imp_of_mem fun {a b} ha hb less same => ?_)
    obtain ⟨first, -, rfl⟩ := List.mem_map.mp ha
    obtain ⟨second, -, rfl⟩ := List.mem_map.mp hb
    exact less.ne (Emit.path_injective same)
  · obtain ⟨set, -, rfl⟩ := List.mem_map.mp inside
    have folder := set.set.isFolderName_canonicalName
    refine ⟨folder, ?_, Emit.names_path folder⟩
    simp [Emit.set, Emit.path]

set_option maxRecDepth 4000 in
theorem units_apart_and_inside_spellings :
    ∃ generation,
      generateAll {} ["[" ++ plainText "Abra" "Base Set 2" ++ "]",
        "[" ++ plainText "Onix" "../Été" ++ "," ++ plainText "Mew" "base_set/2!" ++ "]"] =
          .ok generation ∧
      (generation.units.map SetUnit.path).Nodup ∧
      ∀ unit ∈ generation.units, IsFolderName unit.canonicalName := by
  have front : Json.parse ("[" ++ plainText "Abra" "Base Set 2" ++ "]") =
      .ok (.array [plainRecord "Abra" "Base Set 2"]) := by
    simp only [Json.parse, plainText, String.toList_append]
    repeat rw [String.toList_ofList]
    cbv
  have back : Json.parse
      ("[" ++ plainText "Onix" "../Été" ++ "," ++ plainText "Mew" "base_set/2!" ++ "]") =
        .ok (.array [plainRecord "Onix" "../Été", plainRecord "Mew" "base_set/2!"]) := by
    simp only [Json.parse, plainText, String.toList_append]
    repeat rw [String.toList_ofList]
    cbv
  have decoded := Dataset.decode_plainRecord
  have first : Dataset.Yields ("[" ++ plainText "Abra" "Base Set 2" ++ "]")
      [Dataset.plainCard "Abra" "Base Set 2"] :=
    ⟨_, ⟨_, front, .bare _⟩, .cons (decoded ..) .nil⟩
  have second : Dataset.Yields
      ("[" ++ plainText "Onix" "../Été" ++ "," ++ plainText "Mew" "base_set/2!" ++ "]")
      [Dataset.plainCard "Onix" "../Été", Dataset.plainCard "Mew" "base_set/2!"] :=
    ⟨_, ⟨_, back, .bare _⟩, .cons (decoded ..) (.cons (decoded ..) .nil)⟩
  have complete : ∀ name set, (Dataset.plainCard name set).Complete := fun _ _ => ⟨.inl rfl, rfl⟩
  obtain ⟨generation, h, -⟩ := (exists_generateAll_iff {}).mpr
    ⟨_, .cons first (.cons second .nil), by simp [complete], rfl⟩
  obtain ⟨-, apart, -, inside⟩ := units_apart_and_inside {} _ generation h
  exact ⟨generation, h, apart, fun unit own => (inside unit own).1⟩

end Generation
end CardText
