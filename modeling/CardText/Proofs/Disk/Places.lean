import CardText.Disk.Write
import CardText.Proofs.Dataset.CanonicalName

/-! Where the path of a unit leads, and where its staging file stands: beside it, under a name
that goes on where the other ends. No unit has such a name, and two units with one staging file
would be one unit. -/
namespace CardText

namespace Text

theorem exists_splitAt_append (separates : Char → Bool) (text : List Char) :
    ∃ above last, ∀ more : List Char, (∀ c ∈ more, separates c = false) →
      splitAt separates (text ++ more) = above ++ [last ++ more] := by
  induction text with
  | nil =>
      refine ⟨[], [], fun more within => ?_⟩
      induction more with
      | nil => rfl
      | cons c rest ih =>
          obtain ⟨own, others⟩ := List.forall_mem_cons.mp within
          have split : splitAt separates rest = [rest] := ih others
          simp [splitAt, split, own]
  | cons c rest ih =>
      obtain ⟨above, last, split⟩ := ih
      by_cases own : separates c = true
      · refine ⟨[] :: above, last, fun more within => ?_⟩
        cases above <;> simp [splitAt, split more within, own]
      · cases above with
        | nil => exact ⟨[], c :: last, fun more within => by simp [splitAt, split more within, own]⟩
        | cons field above =>
            exact ⟨(c :: field) :: above, last, fun more within => by
              simp [splitAt, split more within, own]⟩

end Text

namespace Path

/-- Where a path leads: the names on the way, below the root if it begins there. A slash more and
the name `.` lead nowhere else. -/
def place (path : String) : List String :=
  (if isAbsolute path then ["/"] else []) ++ (names path).filter (· != ".")

theorem isAbsolute_iff {path : String} : isAbsolute path = true ↔ path.toList.head? = some '/' := by
  have slash : "/".toList = ['/'] := by decide
  rw [isAbsolute, String.startsWith_string_iff, slash]
  cases path.toList with
  | nil => simp
  | cons c rest => simp [List.cons_prefix_cons, eq_comm]

theorem isAbsolute_append {path : String} (more : String) (filled : path ≠ "") :
    isAbsolute (path ++ more) = isAbsolute path := by
  obtain ⟨c, rest, spelled⟩ := List.exists_cons_of_ne_nil (mt String.toList_eq_nil_iff.mp filled)
  rw [Bool.eq_iff_iff, isAbsolute_iff, isAbsolute_iff, String.toList_append, spelled]
  rfl

theorem names_append_slash (front back : String) :
    names (front ++ "/" ++ back) = names front ++ names back := by
  have spelled : (front ++ "/" ++ back).toList = front.toList ++ '/' :: back.toList := by simp
  simp only [names, Text.splitAt_eq_splitOnP]
  rw [spelled, List.splitOnP_append_cons _ _ (by rfl), List.map_append, List.filter_append]

theorem names_join (base path : String) (relative : isAbsolute path = false) :
    names (join base path) = names base ++ names path := by
  rw [join, ← isAbsolute, relative, if_neg Bool.false_ne_true]
  split_ifs with bare
  · rcases Bool.or_eq_true_iff.mp bare with empty | slash
    · obtain rfl : base = "" := by simpa using empty
      rw [String.empty_append]
      rfl
    · rw [← String.endsWith_toSlice, String.Slice.endsWith_string_iff, String.copy_toSlice] at slash
      obtain ⟨front, spelled⟩ := slash
      obtain rfl : base = String.ofList front ++ "/" :=
        String.toList_injective (by simp [← spelled])
      have own : names (String.ofList front ++ "/") = names (String.ofList front) := by
        have closed := names_append_slash (String.ofList front) ""
        rw [String.append_empty] at closed
        exact closed.trans (List.append_nil _)
      rw [names_append_slash, own]
  · rw [names_append_slash]

theorem place_join {path : String} (base : String) (relative : isAbsolute path = false) :
    place (join base path) = place base ++ place path := by
  have root : isAbsolute (join base path) = isAbsolute base := by
    by_cases empty : base = ""
    · rw [empty, join, ← isAbsolute, relative, if_neg Bool.false_ne_true, if_pos (by rfl),
        String.empty_append, relative]
      rw [eq_comm, ← Bool.not_eq_true, isAbsolute_iff]
      decide
    · rw [join, ← isAbsolute, relative, if_neg Bool.false_ne_true]
      split_ifs
      · exact isAbsolute_append _ empty
      · rw [String.append_assoc, isAbsolute_append _ empty]
  rw [place, place, place, root, names_join base path relative, relative, List.filter_append,
    List.append_assoc]
  rfl

theorem exists_join_eq (base path : String) : ∃ front, join base path = front ++ path := by
  rw [join]
  split_ifs
  · exact ⟨"", String.empty_append.symm⟩
  · exact ⟨base, rfl⟩
  · exact ⟨base ++ "/", rfl⟩

theorem isName_of_two_le {name : String} (long : 2 ≤ name.toList.length) :
    (!name.isEmpty) = true ∧ (name != ".") = true := by
  have unlike : ∀ short : String, short.toList.length < 2 → name ≠ short := by
    rintro _ less rfl
    omega
  simp [unlike "" (by decide), unlike "." (by decide)]

theorem exists_place_append (front : String) :
    ∃ (above : List String) (last : String), ∀ more : String, 2 ≤ more.toList.length →
      '/' ∉ more.toList → place (front ++ more) = above ++ [last ++ more] := by
  obtain ⟨fields, last, split⟩ := Text.exists_splitAt_append (· == '/') front.toList
  let root := if front.toList.head? = some '/' then ["/"] else []
  let passed := ((fields.map String.ofList).filter (!·.isEmpty)).filter (· != ".")
  refine ⟨root ++ passed, String.ofList last, fun more long within => ?_⟩
  have first : more.toList.head? ≠ some '/' := fun slash => within (List.mem_of_mem_head? slash)
  have absolute : (if isAbsolute (front ++ more) then ["/"] else []) = root := by
    simp only [root, isAbsolute_iff, String.toList_append]
    cases front.toList with
    | nil => simp [first]
    | cons c rest => rfl
  have spelled : String.ofList (last ++ more.toList) = String.ofList last ++ more :=
    String.toList_injective (by simp)
  obtain ⟨filled, other⟩ : (!(String.ofList last ++ more).isEmpty) = true ∧
      (String.ofList last ++ more != ".") = true := isName_of_two_le (by simp; omega)
  rw [place, absolute, names, String.toList_append, split more.toList fun c inside =>
    beq_false_of_ne (ne_of_mem_of_not_mem inside within)]
  simp [passed, spelled, filled, other]

theorem exists_split_append (front : String) :
    ∃ before last, front.toList = before ++ last ∧ ∀ word : String, '/' ∉ word.toList →
      (∀ above, dropTrailing (word.toList.reverse ++ above) = word.toList.reverse ++ above) →
      split (front ++ word) = ⟨before, last ++ word.toList⟩ := by
  refine ⟨(front.toList.reverse.dropWhile (· != '/')).reverse,
    (front.toList.reverse.takeWhile (· != '/')).reverse, ?_, fun word within stands => ?_⟩
  · rw [← List.reverse_append, List.takeWhile_append_dropWhile, List.reverse_reverse]
  · have kept : ∀ c ∈ word.toList.reverse, (c != '/') = true := fun c inside =>
      bne_iff_ne.mpr (ne_of_mem_of_not_mem (List.mem_reverse.mp inside) within)
    rw [split, String.toList_append, List.reverse_append, stands, List.dropWhile_append_of_pos kept,
      List.takeWhile_append_of_pos kept, List.reverse_append, List.reverse_reverse]

theorem isPlainName_of_three_le {name : List Char} (long : 3 ≤ name.length) :
    isPlainName name = true := by
  have unlike : ∀ short : List Char, short.length < 3 → name ≠ short := by
    rintro _ less rfl
    omega
  simp [isPlainName, unlike [] (by decide), unlike ['.'] (by decide), unlike ['.', '.'] (by decide)]

theorem extension?_append {stem ext : List Char} (named : stem ≠ []) (within : '.' ∉ ext) :
    extension? (stem ++ '.' :: ext) = some ext := by
  obtain ⟨c, rest, last⟩ := List.exists_cons_of_ne_nil (mt List.reverse_eq_nil_iff.mp named)
  have reversed : (stem ++ '.' :: ext).reverse = ext.reverse ++ '.' :: c :: rest := by simp [last]
  have kept : ∀ c ∈ ext.reverse, (c != '.') = true := fun c inside =>
    bne_iff_ne.mpr (ne_of_mem_of_not_mem (List.mem_reverse.mp inside) within)
  simp [extension?, reversed, List.span_eq_takeWhile_dropWhile, List.dropWhile_append_of_pos kept,
    List.takeWhile_append_of_pos kept]

theorem stem_append {stem ext : List Char} (named : stem ≠ []) (within : '.' ∉ ext) :
    Path.stem (stem ++ '.' :: ext) = stem := by
  have kept : (stem ++ '.' :: ext).length - ext.length - 1 = stem.length := by simp; omega
  simp only [Path.stem, extension?_append named within, kept, List.take_left]

end Path

namespace Write

theorem stagingPath_append (front : String) :
    stagingPath (front ++ "pokemon.rs") = front ++ "pokemon.rs.tmp" := by
  obtain ⟨before, last, whole, parts⟩ := Path.exists_split_append front
  obtain ⟨name, spelled⟩ : ∃ name, name = last ++ "pokemon".toList := ⟨_, rfl⟩
  have filled : name ≠ [] := by simp [spelled]
  have named : Path.split (front ++ "pokemon.rs") = ⟨before, name ++ '.' :: ['r', 's']⟩ := by
    rw [parts _ (by decide) fun _ => rfl, spelled, List.append_assoc]
    simp
  have shorter : Path.split (front ++ "pokemon.") = ⟨before, name ++ '.' :: []⟩ := by
    rw [parts _ (by decide) fun _ => rfl, spelled, List.append_assoc]
    simp
  have plain : ∀ ext, Path.isPlainName (name ++ '.' :: ext) = true := fun ext =>
    Path.isPlainName_of_three_le (by simp [spelled]; omega)
  have cut : Path.cutExtension (front ++ "pokemon.rs") = front ++ "pokemon." := by
    have parted : (front ++ "pokemon.rs").toList = (front ++ "pokemon.").toList ++ ['r', 's'] := by
      simp
    have shorter : (front ++ "pokemon.rs").length - ['r', 's'].length =
        (front ++ "pokemon.").toList.length := by
      rw [← String.length_toList, parted]
      simp
    simp only [Path.cutExtension, named, plain, if_true, Path.extension?_append filled
      (by decide : '.' ∉ ['r', 's']), Option.getD_some]
    rw [shorter, parted, List.take_left, String.ofList_toList]
  simp only [stagingPath, Path.withExtension, cut, shorter, plain, if_true,
    Path.stem_append filled List.not_mem_nil]
  exact String.toList_injective (by simp [whole, spelled])

/-- The path that a unit is written to, and that of its sibling while it is being written. -/
def path (out : String) (unit : SetUnit) : String := Path.join out unit.path

def sibling (out : String) (unit : SetUnit) : String := path out unit ++ ".tmp"

def file (out : String) (unit : SetUnit) : List String := Path.place (path out unit)

def staging (out : String) (unit : SetUnit) : List String := Path.place (sibling out unit)

def places (out : String) (unit : SetUnit) : List (List String) :=
  [file out unit, staging out unit]

def IsNamed (unit : SetUnit) : Prop := "pokemon.rs".toList <:+ unit.path.toList

instance : DecidablePred IsNamed := fun unit =>
  inferInstanceAs (Decidable ("pokemon.rs".toList <:+ unit.path.toList))

variable {out : String} {unit other : SetUnit}

theorem IsNamed.exists_path (named : IsNamed unit) (out : String) :
    ∃ front, path out unit = front ++ "pokemon.rs" := by
  obtain ⟨joined, whole⟩ := Path.exists_join_eq out unit.path
  obtain ⟨own, spelled⟩ := named
  refine ⟨joined ++ String.ofList own, ?_⟩
  rw [path, whole, String.append_assoc]
  exact congrArg (joined ++ ·) (String.toList_injective (by simp [← spelled]))

theorem IsNamed.stagingPath_eq (named : IsNamed unit) (out : String) :
    stagingPath (path out unit) = sibling out unit := by
  obtain ⟨front, whole⟩ := named.exists_path out
  have longer : "pokemon.rs" ++ ".tmp" = "pokemon.rs.tmp" := by decide
  rw [sibling, whole, stagingPath_append, String.append_assoc, longer]

theorem IsNamed.exists_places (named : IsNamed unit) (out : String) :
    ∃ (above : List String) (last : String), file out unit = above ++ [last ++ "pokemon.rs"] ∧
      staging out unit = above ++ [last ++ "pokemon.rs.tmp"] := by
  obtain ⟨front, whole⟩ := named.exists_path out
  obtain ⟨above, last, places⟩ := Path.exists_place_append front
  refine ⟨above, last, ?_, ?_⟩
  · rw [file, whole, places _ (by decide) (by decide)]
  · rw [staging, ← named.stagingPath_eq, whole, stagingPath_append,
      places _ (by decide) (by decide)]

theorem staging_ne_file (named : IsNamed unit) (named' : IsNamed other) :
    staging out unit ≠ file out other := by
  obtain ⟨above, last, -, place⟩ := named.exists_places out
  obtain ⟨above', last', place', -⟩ := named'.exists_places out
  intro same
  rw [place, place'] at same
  have names := List.singleton_inj.mp (List.append_inj_right' same rfl)
  have ends := congrArg (fun name => name.toList.getLast?) names
  simp at ends

theorem file_eq_of_staging_eq (named : IsNamed unit) (named' : IsNamed other)
    (same : staging out unit = staging out other) : file out unit = file out other := by
  obtain ⟨above, last, own, place⟩ := named.exists_places out
  obtain ⟨above', last', own', place'⟩ := named'.exists_places out
  rw [place, place'] at same
  obtain ⟨rfl, names⟩ := List.append_inj' same rfl
  have spelled := congrArg String.toList (List.singleton_inj.mp names)
  rw [String.toList_append, String.toList_append] at spelled
  rw [own, own', String.toList_injective (List.append_cancel_right spelled)]

theorem disjoint_of_file_ne (named : IsNamed unit) (named' : IsNamed other)
    (apart : file out unit ≠ file out other) :
    List.Disjoint (places out unit) (places out other) := by
  have stagings := mt (file_eq_of_staging_eq named named') apart
  simp [places, apart.symm, Ne.symm stagings, (staging_ne_file named named').symm,
    staging_ne_file named' named]

theorem file_inj_of_relative (relative : Path.isAbsolute unit.path = false)
    (relative' : Path.isAbsolute other.path = false) :
    file out unit = file out other ↔ Path.place unit.path = Path.place other.path := by
  rw [file, file, path, path, Path.place_join out relative, Path.place_join out relative',
    List.append_cancel_left_eq]

end Write
end CardText
