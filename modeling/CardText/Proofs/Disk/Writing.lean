import CardText.Proofs.Disk.Places
import CardText.Proofs.Generation.Paths

/-! Units written to a disk on which any call may fail. The files are a map from places to what
stands there; a call that is refused changes nothing, but for a write, which may leave anything
where it was to write. That is a staging file, which no unit stands at, so that a unit is seen
as it was or as a whole, whenever the run is cut short. -/
namespace CardText.Write

abbrev Files := List String → Option String

namespace Files

@[irreducible] def put (files : Files) (path : String) (content : Option String) : Files :=
  Function.update files (Path.place path) content

variable (files : Files) (path : String) (content : Option String) {place : List String}

@[simp] theorem put_self : files.put path content (Path.place path) = content := by
  rw [put, Function.update_self]

theorem put_of_ne (other : place ≠ Path.place path) :
    files.put path content place = files place := by
  rw [put, Function.update_of_ne other]

@[simp] theorem put_put (first : Option String) :
    (files.put path first).put path content = files.put path content := by
  rw [put, put, put, Function.update_idem]

@[simp] theorem put_own : files.put path (files (Path.place path)) = files := by
  rw [put, Function.update_eq_self]

end Files

/-- How a call goes. A refused write may leave anything where it was to write. -/
inductive Fate where
  | done
  | refused (cause : OsError) (left : Option String)
  deriving DecidableEq

/-- Files, and how the calls to come will go; past the list all of them are done. -/
structure Volume where
  files : Files
  fates : List Fate

namespace Volume

/-- One call: what it leaves of the files if it is refused, and what it does if not. -/
def call {α : Type} (refused : Option String → Files → Files)
    (act : Files → Except OsError α × Files) : StateM Volume (Except OsError α) := fun volume =>
  match volume.fates with
  | .refused cause left :: later => (.error cause, ⟨refused left volume.files, later⟩)
  | fates => ((act volume.files).1, ⟨(act volume.files).2, fates.tail⟩)

def keep (_left : Option String) (files : Files) : Files := files

def read (path : String) (files : Files) : Except OsError String × Files :=
  match files (Path.place path) with
  | none => (.error .noSuchFile, files)
  | some text => (.ok text, files)

/-- Directories hold no text themselves, so that files stay as they are. -/
def make (files : Files) : Except OsError Unit × Files := (.ok (), files)

def write (path text : String) (files : Files) : Except OsError Unit × Files :=
  (.ok (), files.put path (some text))

def move (path new : String) (files : Files) : Except OsError Unit × Files :=
  match files (Path.place path) with
  | none => (.error .noSuchFile, files)
  | some text => (.ok (), (files.put path none).put new (some text))

def disk : Disk (StateM Volume) where
  readText path := call keep (read path)
  createDirectories _ := call keep make
  writeText path text := call (fun left files => files.put path left) (write path text)
  rename path new := call keep (move path new)

variable {path contents text : String} {cause : OsError} {volume later : Volume}
  {operation : StateM Volume (Except OsError Unit)} {refused : Option String → Files}
  {files : Files}

def Answers (operation : StateM Volume (Except OsError Unit)) (volume : Volume)
    (refused : Option String → Files) (done : Files) : Prop :=
  (∃ cause left, .refused cause left ∈ volume.fates ∧
      operation volume = (.error cause, ⟨refused left, volume.fates.tail⟩)) ∨
    operation volume = (.ok (), ⟨done, volume.fates.tail⟩)

theorem answers_call (refused : Option String → Files → Files)
    {act : Files → Except OsError Unit × Files} (acts : act volume.files = (.ok (), files)) :
    Answers (call refused act) volume (refused · volume.files) files := by
  cases fates : volume.fates with
  | nil => exact .inr (by simp [call, fates, acts])
  | cons fate rest =>
      cases fate with
      | done => exact .inr (by simp [call, fates, acts])
      | refused cause left => exact .inl ⟨cause, left, by simp [fates], by simp [call, fates]⟩

theorem answers_createDirectories (path : String) (volume : Volume) :
    Answers (disk.createDirectories path) volume (fun _ => volume.files) volume.files :=
  answers_call keep rfl

theorem answers_writeText (path text : String) (volume : Volume) :
    Answers (disk.writeText path text) volume (volume.files.put path)
      (volume.files.put path (some text)) := by
  have acts : write path text volume.files = (.ok (), volume.files.put path (some text)) := rfl
  exact answers_call (fun left files => files.put path left) acts

theorem answers_rename (new : String) {volume : Volume}
    (stands : volume.files (Path.place path) = some text) :
    Answers (disk.rename path new) volume (fun _ => volume.files)
      ((volume.files.put path none).put new (some text)) := by
  have acts : move path new volume.files =
      (.ok (), (volume.files.put path none).put new (some text)) := by rw [move, stands]
  exact answers_call keep acts

theorem Answers.attempt {named : String} (answers : Answers operation volume refused files)
    (next : StateM Volume (Except Error Unit)) :
    (∃ cause left, .refused cause left ∈ volume.fates ∧ attempt named operation next volume =
        (.error (.io named cause), ⟨refused left, volume.fates.tail⟩)) ∨
      attempt named operation next volume = next ⟨files, volume.fates.tail⟩ := by
  rcases answers with ⟨cause, left, fate, stopped⟩ | done
  · refine .inl ⟨cause, left, fate, ?_⟩
    simp only [Write.attempt, bind, StateT.bind, stopped]
    rfl
  · exact .inr (by simp only [Write.attempt, bind, StateT.bind, done])

end Volume

def Involves (path staging named : String) : Prop :=
  Path.parent? path = some named ∨ named = staging ∨ named = path

/-- What comes of writing one unit: it stands there, and its staging file is gone; or a call was
refused, and nothing but the staging file is touched. -/
inductive Step (path staging contents : String) (volume : Volume) :
    Except Error Unit × Volume → Prop
  | written {fates : List Fate} (later : fates <:+ volume.fates) :
      Step path staging contents volume
        (.ok (), ⟨(volume.files.put staging none).put path (some contents), fates⟩)
  | refused {named : String} {cause : OsError} {left : Option String}
      (involved : Involves path staging named) (fate : .refused cause left ∈ volume.fates)
      (content : Option String) (fates : List Fate) :
      Step path staging contents volume
        (.error (.io named cause), ⟨volume.files.put staging content, fates⟩)

namespace Step

variable {path staging contents named : String} {cause : OsError} {left : Option String}
  {volume : Volume} {result : Except Error Unit × Volume}

theorem untouched (involved : Involves path staging named)
    (fate : .refused cause left ∈ volume.fates) (fates : List Fate) :
    Step path staging contents volume (.error (.io named cause), ⟨volume.files, fates⟩) := by
  have step : Step path staging contents volume (.error (.io named cause),
      ⟨volume.files.put staging (volume.files (Path.place staging)), fates⟩) :=
    .refused involved fate _ _
  rwa [Files.put_own] at step

theorem of_tail (step : Step path staging contents ⟨volume.files, volume.fates.tail⟩ result) :
    Step path staging contents volume result := by
  cases step with
  | written later => exact .written (later.trans (List.tail_suffix _))
  | refused involved fate content fates =>
      exact .refused involved (List.mem_of_mem_tail fate) content fates

theorem of_renaming {staged : Volume}
    (files : staged.files = volume.files.put staging (some contents))
    (fates : staged.fates <:+ volume.fates) :
    Step path staging contents volume
      (attempt path (Volume.disk.rename staging path) (return .ok ()) staged) := by
  have stands : staged.files (Path.place staging) = some contents := by
    rw [files, Files.put_self]
  have emptied : staged.files.put staging none = volume.files.put staging none := by
    rw [files, Files.put_put]
  rcases (Volume.answers_rename path stands).attempt (return .ok ()) with
    ⟨cause, left, fate, stopped⟩ | renamed
  · rw [stopped, files]
    exact .refused (.inr (.inr rfl)) (fates.subset fate) _ _
  · rw [renamed, emptied]
    exact .written ((List.tail_suffix _).trans fates)

theorem of_staging (path staging contents : String) (volume : Volume) :
    Step path staging contents volume
      (attempt staging (Volume.disk.writeText staging contents)
        (attempt path (Volume.disk.rename staging path) (return .ok ())) volume) := by
  rcases (Volume.answers_writeText staging contents volume).attempt _ with
    ⟨cause, left, fate, stopped⟩ | written
  · rw [stopped]
    exact .refused (.inr (.inl rfl)) fate left _
  · rw [written]
    exact of_renaming rfl (List.tail_suffix _)

theorem of_unit (path contents : String) (volume : Volume) :
    Step path (stagingPath path) contents volume (unit Volume.disk path contents volume) := by
  cases above : Path.parent? path with
  | none =>
      simp only [unit, above]
      exact of_staging path _ contents volume
  | some parent =>
      simp only [unit, above]
      rcases (Volume.answers_createDirectories parent volume).attempt _ with
        ⟨cause, left, fate, stopped⟩ | made
      · rw [stopped]
        exact untouched (.inl above) fate _
      · rw [made]
        exact of_tail (of_staging path _ contents ⟨volume.files, volume.fates.tail⟩)

theorem frame (step : Step path staging contents volume result) {place : List String}
    (other : place ≠ Path.place path) (other' : place ≠ Path.place staging) :
    result.2.files place = volume.files place := by
  cases step with
  | written => exact (Files.put_of_ne _ _ _ other).trans (Files.put_of_ne _ _ _ other')
  | refused => exact Files.put_of_ne _ _ _ other'

end Step

variable {out : String} {unit : SetUnit}

theorem IsNamed.step (named : IsNamed unit) (out : String) (volume : Volume) :
    Step (path out unit) (sibling out unit) unit.contents volume
      (Write.unit Volume.disk (path out unit) unit.contents volume) :=
  named.stagingPath_eq out ▸ Step.of_unit (path out unit) unit.contents volume

structure Complete (out : String) (files : Files) (unit : SetUnit) : Prop where
  file : files (file out unit) = some unit.contents
  staging : files (staging out unit) = none

structure Untouched (out : String) (before after : Files) (unit : SetUnit) : Prop where
  file : after (file out unit) = before (file out unit)
  staging : after (staging out unit) = before (staging out unit)

namespace Untouched

variable {before between after : Files}

theorem of_places (h : ∀ place ∈ places out unit, after place = before place) :
    Untouched out before after unit :=
  ⟨h _ (by simp [places]), h _ (by simp [places])⟩

theorem trans (h : Untouched out before between unit) (h' : Untouched out between after unit) :
    Untouched out before after unit :=
  ⟨h'.file.trans h.file, h'.staging.trans h.staging⟩

theorem complete (h : Untouched out before after unit) (complete : Complete out before unit) :
    Complete out after unit :=
  ⟨h.file.trans complete.file, h.staging.trans complete.staging⟩

end Untouched

/-- How a run may end: with all units complete, or at the first call that is refused, with the
units before it complete, the unit it was made for as it stood, and those after it untouched. -/
inductive Outcome (out : String) (units : List SetUnit) (volume : Volume) :
    Except Error (List String) × Volume → Prop
  | written {later : Volume} (complete : ∀ unit ∈ units, Complete out later.files unit) :
      Outcome out units volume (.ok (units.map (path out)), later)
  | stopped {done rest : List SetUnit} {unit : SetUnit} {named : String} {cause : OsError}
      {left : Option String} {later : Volume} (order : units = done ++ unit :: rest)
      (complete : ∀ unit ∈ done, Complete out later.files unit)
      (kept : later.files (file out unit) = volume.files (file out unit))
      (untouched : ∀ unit ∈ rest, Untouched out volume.files later.files unit)
      (involved : Involves (path out unit) (sibling out unit) named)
      (fate : .refused cause left ∈ volume.fates) :
      Outcome out units volume (.error (.io named cause), later)

theorem Outcome.kept_or_complete {units : List SetUnit} {volume : Volume}
    {run : Except Error (List String) × Volume} (outcome : Outcome out units volume run)
    (inside : unit ∈ units) :
    run.2.files (file out unit) = volume.files (file out unit) ∨
      run.2.files (file out unit) = some unit.contents := by
  cases outcome with
  | written complete => exact .inr (complete unit inside).file
  | stopped order complete kept untouched =>
      subst order
      rcases List.mem_append.mp inside with done | later
      · exact .inr (complete unit done).file
      · rcases List.mem_cons.mp later with rfl | later
        · exact .inl kept
        · exact .inl (untouched unit later).file

theorem Outcome.written_of_steady {units : List SetUnit} {volume : Volume}
    {run : Except Error (List String) × Volume} (outcome : Outcome out units volume run)
    (steady : ∀ fate ∈ volume.fates, fate = .done) :
    run.1 = .ok (units.map (path out)) ∧ ∀ unit ∈ units, Complete out run.2.files unit := by
  cases outcome with
  | written complete => exact ⟨rfl, complete⟩
  | stopped _ _ _ _ _ fate => cases steady _ fate

variable {first : SetUnit} {list rest : List SetUnit} {volume later last : Volume}

theorem units_of_error {error : Error}
    (h : Write.unit Volume.disk (path out first) first.contents volume = (.error error, later)) :
    units Volume.disk out (first :: rest) volume = (.error error, later) := by
  rw [path] at h
  simp only [units, bind, StateT.bind, h]
  rfl

theorem units_of_ok
    (h : Write.unit Volume.disk (path out first) first.contents volume = (.ok (), later)) :
    units Volume.disk out (first :: rest) volume =
      ((units Volume.disk out rest later).1.map (path out first :: ·),
        (units Volume.disk out rest later).2) := by
  rw [path] at h
  simp only [units, bind, StateT.bind, h]
  rcases units Volume.disk out rest later with ⟨_ | _, last⟩ <;> rfl

theorem units_frame (named : ∀ unit ∈ list, IsNamed unit) (volume : Volume) {place : List String}
    (other : ∀ unit ∈ list, place ∉ places out unit) :
    (units Volume.disk out list volume).2.files place = volume.files place := by
  induction list generalizing volume with
  | nil => rfl
  | cons first rest ih =>
      obtain ⟨own, others⟩ := List.forall_mem_cons.mp named
      obtain ⟨away, away'⟩ := List.forall_mem_cons.mp other
      simp only [places, List.mem_cons, List.not_mem_nil, or_false, not_or] at away
      have kept := (own.step out volume).frame away.1 away.2
      rcases h : Write.unit Volume.disk (path out first) first.contents volume with
        ⟨error | _, later⟩
      · rw [units_of_error h, ← kept, h]
      · rw [h] at kept
        rw [units_of_ok h]
        exact (ih others later away').trans kept

theorem Outcome.cons {run : Except Error (List String) × Volume}
    (fates : later.fates <:+ volume.fates)
    (untouched : ∀ unit ∈ rest, Untouched out volume.files later.files unit)
    (complete : Complete out run.2.files first) (outcome : Outcome out rest later run) :
    Outcome out (first :: rest) volume (run.1.map (path out first :: ·), run.2) := by
  cases outcome with
  | written others => exact .written (List.forall_mem_cons.mpr ⟨complete, others⟩)
  | stopped order others kept behind involved fate =>
      subst order
      refine .stopped (List.cons_append ..).symm (List.forall_mem_cons.mpr ⟨complete, others⟩)
        (kept.trans (untouched _ (by simp)).file) (fun unit inside => ?_) involved
        (fates.subset fate)
      exact (untouched unit (by simp [inside])).trans (behind unit inside)

/-- Whatever call is refused, the run ends in one of the two ways: nothing that is done for one
unit reaches the places of another. -/
theorem outcome_units (named : ∀ unit ∈ list, IsNamed unit)
    (apart : list.Pairwise fun a b => List.Disjoint (places out a) (places out b))
    (volume : Volume) : Outcome out list volume (units Volume.disk out list volume) := by
  induction list generalizing volume with
  | nil => exact .written (by simp)
  | cons first rest ih =>
      obtain ⟨own, others⟩ := List.forall_mem_cons.mp named
      obtain ⟨away, among⟩ := List.pairwise_cons.mp apart
      have differ : staging out first ≠ file out first := staging_ne_file own own
      have step := own.step out volume
      have untouched : ∀ unit ∈ rest, Untouched out volume.files
          (Write.unit Volume.disk (path out first) first.contents volume).2.files unit := by
        refine fun unit inside => .of_places fun place there => step.frame ?_ ?_
        · exact fun same => away unit inside (by simp [places, file, same]) there
        · exact fun same => away unit inside (by simp [places, staging, same]) there
      rcases h : Write.unit Volume.disk (path out first) first.contents volume with
        ⟨error | _, later⟩
      · rw [h] at step untouched
        rw [units_of_error h]
        cases step with
        | refused involved fate content fates =>
            exact .stopped (List.nil_append _).symm (by simp)
              (Files.put_of_ne _ _ _ differ.symm) untouched involved fate
      · rw [h] at step untouched
        rw [units_of_ok h]
        have kept := Untouched.of_places fun place there =>
          units_frame others later fun unit inside => List.disjoint_left.mp (away unit inside) there
        cases step with
        | written fates =>
            refine .cons fates untouched (kept.complete ⟨Files.put_self .., ?_⟩)
              (ih others among _)
            exact (Files.put_of_ne _ _ _ differ).trans (Files.put_self ..)

/-- Units are written one after the other, each as a whole or not at all: whatever calls are
refused, a path holds what it held or all of its unit, all units before the first refusal are
there, all behind it are as they were, and nothing changes but units and their siblings. -/
theorem units_whole_or_not_at_all (out : String) (list : List SetUnit) (volume : Volume)
    (named : ∀ unit ∈ list, IsNamed unit) (apart : (list.map (file out)).Nodup) :
    Outcome out list volume (units Volume.disk out list volume) ∧
      (∀ unit ∈ list,
        (units Volume.disk out list volume).2.files (file out unit) =
            volume.files (file out unit) ∨
          (units Volume.disk out list volume).2.files (file out unit) = some unit.contents) ∧
      ∀ place, (∀ unit ∈ list, place ∉ places out unit) →
        (units Volume.disk out list volume).2.files place = volume.files place := by
  have disjoint : list.Pairwise fun a b => List.Disjoint (places out a) (places out b) :=
    (List.pairwise_map.mp apart).imp_of_mem fun inside inside' differ =>
      disjoint_of_file_ne (named _ inside) (named _ inside') differ
  have outcome := outcome_units named disjoint volume
  refine ⟨outcome, fun unit inside => ?_, fun place => units_frame named volume⟩
  exact outcome.kept_or_complete inside

def pair : List SetUnit := [⟨"base", "base/pokemon.rs", "new"⟩, ⟨"", "pokemon.rs", "newer"⟩]

def oldFile : Files := fun place => if place = ["out", "pokemon.rs"] then some "old" else none

def lastRefused : Volume :=
  ⟨oldFile, [.done, .done, .done, .done, .done, .refused .busy none]⟩

theorem units_whole_or_not_at_all_refused :
    (∀ unit ∈ pair, IsNamed unit) ∧ (pair.map (file "out")).Nodup ∧
      Outcome "out" pair lastRefused (units Volume.disk "out" pair lastRefused) ∧
      (units Volume.disk "out" pair lastRefused).1 = .error (.io "out/pokemon.rs" .busy) ∧
      (units Volume.disk "out" pair lastRefused).2.files ["out", "base", "pokemon.rs"] =
        some "new" ∧
      (units Volume.disk "out" pair lastRefused).2.files ["out", "pokemon.rs"] = some "old" ∧
      (units Volume.disk "out" pair lastRefused).2.files ["out", "notes"] =
        oldFile ["out", "notes"] := by
  have named : ∀ unit ∈ pair, IsNamed unit := by decide
  have apart : (pair.map (file "out")).Nodup := by decide +kernel
  obtain ⟨outcome, -, elsewhere⟩ := units_whole_or_not_at_all "out" pair lastRefused named apart
  exact ⟨named, apart, outcome, by decide +kernel, by decide +kernel, by decide +kernel,
    elsewhere _ (by decide +kernel)⟩

end CardText.Write

namespace CardText

namespace Emit

theorem place_path {name : String} (h : IsFolderName name) :
    Path.isAbsolute (path name) = false ∧
      Path.place (path name) = if name = "" then ["pokemon.rs"] else [name, "pokemon.rs"] := by
  have other : name ≠ "." := by
    rintro rfl
    exact h.no_dot (by decide)
  have relative : Path.isAbsolute (path name) = false := by
    rw [← Bool.not_eq_true, Path.isAbsolute_iff]
    by_cases none : name = ""
    · rw [none]
      decide
    · obtain ⟨c, rest, spelled⟩ :=
        List.exists_cons_of_ne_nil (mt String.toList_eq_nil_iff.mp none)
      have first : c ≠ '/' := fun slash => h.no_slash (by simp [spelled, slash])
      simpa [toList_path_of_ne none, spelled] using first
  refine ⟨relative, ?_⟩
  rw [Path.place, relative, names_path h]
  by_cases none : name = "" <;> simp [none, other]

theorem place_path_injective {name name' : String} (h : IsFolderName name)
    (h' : IsFolderName name') (same : Path.place (path name) = Path.place (path name')) :
    name = name' := by
  rw [(place_path h).2, (place_path h').2] at same
  split_ifs at same <;> simp_all

theorem set_path (options : Options) (read : ReadSet) :
    (set options read).path = path read.set.canonicalName :=
  rfl

theorem isNamed_set (options : Options) (read : ReadSet) : Write.IsNamed (set options read) := by
  rw [Write.IsNamed, set_path]
  by_cases none : read.set.canonicalName = ""
  · rw [none]
    exact List.suffix_refl _
  · rw [toList_path_of_ne none]
    exact (List.suffix_cons _ _).trans (List.suffix_append _ _)

theorem file_ne_of_canonicalName_ne (options : Options) {read other : ReadSet} (out : String)
    (differ : read.set.canonicalName ≠ other.set.canonicalName) :
    Write.file out (set options read) ≠ Write.file out (set options other) := by
  have folder := read.set.isFolderName_canonicalName
  have folder' := other.set.isFolderName_canonicalName
  rw [Ne, Write.file_inj_of_relative, set_path, set_path]
  · exact mt (place_path_injective folder folder') differ
  · rw [set_path]
    exact (place_path folder).1
  · rw [set_path]
    exact (place_path folder').1

end Emit

namespace Generation

theorem outcome_written {options : Options} {documents : List String} {generation : Generation}
    (h : generateAll options documents = .ok generation) (out : String) (volume : Write.Volume) :
    Write.Outcome out generation.units volume
      (Write.units Write.Volume.disk out generation.units volume) := by
  obtain ⟨sets, read, rfl⟩ := (generateAll_eq_ok_iff options).mp h
  refine Write.outcome_units (fun unit inside => ?_) ?_ volume
  · obtain ⟨set, -, rfl⟩ := List.mem_map.mp inside
    exact Emit.isNamed_set options set
  · have ascending := List.pairwise_map.mp read.ascending
    rw [ofSets, List.pairwise_map]
    exact ascending.imp fun {a b} less => Write.disjoint_of_file_ne (Emit.isNamed_set options a)
      (Emit.isNamed_set options b) (Emit.file_ne_of_canonicalName_ne options out less.ne)

end Generation
end CardText
