import CardText.Proofs.Coverage.Anonymity
import CardText.Proofs.Coverage.OwnName
import CardText.Proofs.Wording.Exchange
import Mathlib.Logic.Relation

/-! Texts of one shape. Other numbers, types and conditions in their places leave a text in normal
form and change one of its tokens, which no name that tells nothing can touch; the token becomes
the same placeholders, and the fragments of the text stay what they were. -/
namespace CardText.Fragment

open Text (replace replaceFrom)

structure IsNumber (digits : List Char) : Prop where
  ne_nil : digits ≠ []
  digits : ∀ c ∈ digits, c.isDigit = true

theorem IsNumber.of_all {digits : List Char}
    (h : (!digits.isEmpty && digits.all Char.isDigit) = true) : IsNumber digits := by
  obtain ⟨some, all⟩ := Bool.and_eq_true_iff.mp h
  exact ⟨by simpa using some, List.all_eq_true.mp all⟩

def Whole (front word back : List Char) : Prop :=
  atBoundary front.getLast? word.head? = true ∧ atBoundary word.getLast? back.head? = true

instance (front word back : List Char) : Decidable (Whole front word back) :=
  inferInstanceAs (Decidable (_ ∧ _))

/-- One number, type or condition of the text becomes another one, and the rest stays. -/
inductive Edit : List Char → List Char → Prop
  | number {front back old new : List Char} (hold : IsNumber old) (hnew : IsNumber new)
      (starts : front.getLast?.any Char.isDigit = false)
      (ends : back.head?.any Char.isDigit = false) :
      Edit (front ++ (old ++ back)) (front ++ (new ++ back))
  | type {front back : List Char} (old new : Energy) (whole : Whole front old.name.toList back) :
      Edit (front ++ (old.name.toList ++ back)) (front ++ (new.name.toList ++ back))
  | status {front back : List Char} (old new : Status) (whole : Whole front old.name.toList back) :
      Edit (front ++ (old.name.toList ++ back)) (front ++ (new.name.toList ++ back))

theorem Edit.of_toList {text text' : List Char} {source target : String} (edit : Edit text text')
    (hs : source.toList = text) (ht : target.toList = text') :
    Edit source.toList target.toList := by
  rwa [hs, ht]

def Tells (token : List Char) : Prop :=
  (∃ c ∈ token, c.isDigit = true) ∨ token ∈ typeNames ∨ token ∈ statusNames

section

variable {front back token token' digits name own text text' : List Char} {letter : Char → Bool}

theorem whole_iff (h : IsWord token) : Whole front token back ↔ Cut front token ∧ Cut token back :=
  and_congr (atBoundary_start_iff h.head) (atBoundary_end_iff h.last)

theorem TellsNothing.notMem_tokens (h : TellsNothing letter own) (tells : Tells token) :
    token ∉ tokens own := by
  intro inside
  obtain ⟨c, known, digit⟩ | known | known := tells
  · have spelled : c ∈ own := by
      rw [← flatten_tokens own]
      exact List.mem_flatten.mpr ⟨token, inside, known⟩
    exact Bool.noConfusion (digit.symm.trans (h.no_digit c spelled))
  · have isWord := isWord_of_mem_typeNames token known
    obtain ⟨energy, -, rfl⟩ := List.mem_map.mp known
    exact h.no_type energy ((hasWord_iff_mem_tokens isWord).mpr inside)
  · have isWord := isWord_of_mem_statusNames token known
    obtain ⟨status, -, rfl⟩ := List.mem_map.mp known
    exact h.no_status status ((hasWord_iff_mem_tokens isWord).mpr inside)

theorem tokens_shape_around (h : TellsNothing isOldLetter own) (isWord : IsWord token)
    (tells : Tells token) (hf : Cut front token) (hb : Cut token back) :
    tokens (shape (hideName own (front ++ (token ++ back)))) =
      (tokens (hideName own front)).map shape ++
        shape token :: (tokens (hideName own back)).map shape := by
  obtain ⟨split, before, behind⟩ := h.hideName_around isWord (h.notMem_tokens tells) hf hb
  rw [split, tokens_shape, tokens_around (.word isWord) before behind, List.map_append,
    List.map_cons]

theorem shape_exchange (h : TellsNothing isOldLetter own) (isWord : IsWord token)
    (isWord' : IsWord token') (tells : Tells token) (tells' : Tells token')
    (same : shape token = shape token') (hf : Cut front token) (hb : Cut token back) :
    shape (hideName own (front ++ (token ++ back))) =
      shape (hideName own (front ++ (token' ++ back))) := by
  have hf' : Cut front token' :=
    (cut_iff_of_head isWord'.head).mpr ((cut_iff_of_head isWord.head).mp hf)
  have hb' : Cut token' back :=
    (cut_iff_of_last isWord'.last).mpr ((cut_iff_of_last isWord.last).mp hb)
  rw [← flatten_tokens (shape _), tokens_shape_around h isWord tells hf hb, same,
    ← tokens_shape_around h isWord' tells' hf' hb', flatten_tokens]

theorem replace_digitRun_number (number : IsNumber digits)
    (starts : front.getLast?.any Char.isDigit = false)
    (ends : back.head?.any Char.isDigit = false) (new : List Char) :
    replace digitRun new (front ++ (digits ++ back)) =
      replace digitRun new front ++ (new ++ replace digitRun new back) := by
  have severs : Text.Severs digitRun front (digits ++ back) := by
    rintro before rest some ⟨lead, rfl⟩
    refine digitRun_stop (fun a last digit => ?_) before some
    rw [List.getLast?_append_of_ne_nil lead some, Option.mem_def.mp last] at starts
    exact Bool.noConfusion (starts.symm.trans digit)
  have free (before : Option Char) : replaceFrom digitRun new before 0 back =
      replace digitRun new back := Text.replaceFrom_before rfl
  rw [replace, Text.replaceFrom_append wordWise_digitRun.bounded severs none (Nat.zero_le _),
    Text.replaceFrom_match number.ne_nil _ (digitRun_append number.digits ends _), free]
  rfl

theorem shape_number (number : IsNumber digits) (starts : front.getLast?.any Char.isDigit = false)
    (ends : back.head?.any Char.isDigit = false) :
    shape (front ++ (digits ++ back)) = shape (front ++ ("0".toList ++ back)) := by
  have zero : IsNumber "0".toList := .of_all (by decide)
  rw [shape, shape, replace_digitRun_number number starts ends,
    replace_digitRun_number zero starts ends]

theorem replace_digitRun_eq_self (h : ∀ c ∈ text, c.isDigit = false) (new : List Char) :
    replace digitRun new text = text := by
  refine Text.replace_eq_self fun lead rest some split => ?_
  obtain ⟨c, rest, rfl⟩ := List.exists_cons_of_ne_nil some
  exact digitRun_eq_zero_iff.mpr (h c (by simp [split]))

theorem isAlpha_of_mem_names :
    ∀ name ∈ typeNames ++ statusNames, ∀ c ∈ name, c.isAlpha = true := by
  have all : ((typeNames ++ statusNames).all fun name => name.all Char.isAlpha) = true := by decide
  exact fun name known => List.all_eq_true.mp (List.all_eq_true.mp all name known)

theorem isDigit_of_mem_names (known : name ∈ typeNames ++ statusNames) :
    ∀ c ∈ name, c.isDigit = false := by
  intro c inside
  rw [← Bool.not_eq_true]
  intro digit
  have letter := isAlpha_of_mem_names name known c inside
  exact Bool.noConfusion (letter.symm.trans (Unicode.isAlpha_eq_false_of_isDigit digit))

theorem shape_type (known : name ∈ typeNames) : shape name = "TYPE".toList := by
  have letters := isDigit_of_mem_names (List.mem_append_left _ known)
  rw [shape, replace_digitRun_eq_self letters, rename_of_mem isWord_of_mem_typeNames known,
    rename_of_notMem isWord_of_mem_statusNames isWord_type (by decide)]

theorem shape_status (known : name ∈ statusNames) : shape name = "STATUS".toList := by
  have letters := isDigit_of_mem_names (List.mem_append_right _ known)
  have noType : name ∉ typeNames := (by decide : ∀ name ∈ statusNames, name ∉ typeNames) name known
  have isWord := isWord_of_mem_statusNames name known
  rw [shape, replace_digitRun_eq_self letters,
    rename_of_notMem isWord_of_mem_typeNames isWord noType,
    rename_of_mem isWord_of_mem_statusNames known]

theorem any_getLast?_of_back {p : Char → Bool} (suffix : token <:+ text)
    (h : text.getLast?.any p = false) : token.getLast?.any p = false := by
  obtain ⟨lead, rfl⟩ := suffix
  by_cases empty : token = []
  · simp [empty]
  · rwa [List.getLast?_append_of_ne_nil lead empty] at h

theorem any_head?_of_front {p : Char → Bool} (front : token <+: text)
    (h : text.head?.any p = false) : token.head?.any p = false := by
  obtain ⟨rest, rfl⟩ := front
  by_cases empty : token = []
  · simp [empty]
  · rwa [List.head?_append_of_ne_nil token empty] at h

theorem exists_word_around (front back : List Char) :
    ∃ lead opening ending tail, front = lead ++ opening ∧ back = ending ++ tail ∧
      (∀ c ∈ opening ++ ending, Unicode.isWord c = true) ∧
      lead.getLast?.any Unicode.isWord = false ∧ tail.head?.any Unicode.isWord = false := by
  refine ⟨front.rdropWhile Unicode.isWord, front.rtakeWhile Unicode.isWord,
    back.takeWhile Unicode.isWord, back.dropWhile Unicode.isWord,
    List.rdropWhile_append_rtakeWhile.symm, List.takeWhile_append_dropWhile.symm, ?_, ?_, ?_⟩
  · intro c inside
    rcases List.mem_append.mp inside with inside | inside
    · exact List.mem_rtakeWhile_imp inside
    · exact List.mem_takeWhile_imp inside
  · exact (Option.any_eq_false _ _).mpr dropEnd_last
  · refine (Option.any_eq_false _ _).mpr fun c first => ?_
    have stop := List.head?_dropWhile_not Unicode.isWord back
    rwa [Option.mem_def.mp first] at stop

theorem shape_exchange_number (h : TellsNothing isOldLetter own) {old new : List Char}
    (hold : IsNumber old) (hnew : IsNumber new)
    (starts : front.getLast?.any Char.isDigit = false)
    (ends : back.head?.any Char.isDigit = false) :
    shape (hideName own (front ++ (old ++ back))) =
      shape (hideName own (front ++ (new ++ back))) := by
  obtain ⟨lead, opening, ending, tail, rfl, rfl, letters, before, behind⟩ :=
    exists_word_around front back
  have starts := any_getLast?_of_back (List.suffix_append lead opening) starts
  have ends := any_head?_of_front (List.prefix_append ending tail) ends
  have isWord {number : List Char} (hn : IsNumber number) :
      IsWord (opening ++ (number ++ ending)) := by
    refine ⟨by simp [hn.ne_nil], fun c inside => ?_⟩
    simp only [List.mem_append] at inside letters
    rcases inside with inside | inside | inside
    · exact letters c (.inl inside)
    · exact Unicode.isWord_of_isDigit (hn.digits c inside)
    · exact letters c (.inr inside)
  have tells {number : List Char} (hn : IsNumber number) :
      Tells (opening ++ (number ++ ending)) := by
    have first := List.head_mem hn.ne_nil
    exact .inl ⟨_, List.mem_append_right _ (List.mem_append_left _ first), hn.digits _ first⟩
  have same : shape (opening ++ (old ++ ending)) = shape (opening ++ (new ++ ending)) :=
    (shape_number hold starts ends).trans (shape_number hnew starts ends).symm
  have exchanged := shape_exchange h (isWord hold) (isWord hnew) (tells hold) (tells hnew) same
    ((cut_iff_of_head (isWord hold).head).mpr before)
    ((cut_iff_of_last (isWord hold).last).mpr behind)
  simpa only [List.append_assoc] using exchanged

theorem shape_exchange_name (h : TellsNothing isOldLetter own) {names : List (List Char)}
    (hnames : ∀ name ∈ names, IsWord name ∧ Tells name) {placeholder : List Char}
    (shaped : ∀ name ∈ names, shape name = placeholder) {old new : List Char} (hold : old ∈ names)
    (hnew : new ∈ names) (whole : Whole front old back) :
    shape (hideName own (front ++ (old ++ back))) =
      shape (hideName own (front ++ (new ++ back))) := by
  obtain ⟨oldWord, oldTells⟩ := hnames old hold
  obtain ⟨newWord, newTells⟩ := hnames new hnew
  obtain ⟨before, behind⟩ := (whole_iff oldWord).mp whole
  have same := (shaped old hold).trans (shaped new hnew).symm
  exact shape_exchange h oldWord newWord oldTells newTells same before behind

theorem Edit.shape_eq (h : TellsNothing isOldLetter own) (edit : Edit text text') :
    shape (hideName own text) = shape (hideName own text') := by
  cases edit with
  | number hold hnew starts ends => exact shape_exchange_number h hold hnew starts ends
  | type old new whole =>
      have types : ∀ name ∈ typeNames, IsWord name ∧ Tells name := fun name known =>
        ⟨isWord_of_mem_typeNames name known, .inr (.inl known)⟩
      exact shape_exchange_name h types (fun _ => shape_type) (mem_typeNames old)
        (mem_typeNames new) whole
  | status old new whole =>
      have statuses : ∀ name ∈ statusNames, IsWord name ∧ Tells name := fun name known =>
        ⟨isWord_of_mem_statusNames name known, .inr (.inr known)⟩
      exact shape_exchange_name h statuses (fun _ => shape_status) (mem_statusNames old)
        (mem_statusNames new) whole

theorem variants_survey :
    ∀ variant ∈ Wording.corrections.map fun c => c.variant.toList,
      (variant.all fun c => !c.isDigit) = true ∧ ∀ name ∈ typeNames ++ statusNames,
        ¬ variant <:+: name ∧ ¬ name <:+: variant ∧
          (∀ ending ∈ variant.tails, ending ≠ [] → ¬ ending <+: name) ∧
          ∀ opening ∈ variant.inits, opening ≠ [] →
            (variant.drop opening.length).head?.any Unicode.isWord = false →
              ¬ opening <:+ name := by
  simp only [Wording.corrections, typeNames, Energy.all, Energy.name, statusNames, Status.all,
    Status.name, List.map_cons, List.map_nil]
  repeat rw [String.toList_ofList]
  decide +kernel

theorem foreign_number (number : IsNumber digits) {c : Wording.Correction}
    (listed : c ∈ Wording.corrections) : Wording.Foreign c.variant.toList digits back := by
  refine .of_disjoint (Wording.neat_of_mem_corrections listed).old_ne_nil number.ne_nil ?_
  intro d spelled inside
  have other := List.all_eq_true.mp (variants_survey _ (List.mem_map_of_mem listed)).1 d spelled
  rw [number.digits d inside] at other
  exact Bool.noConfusion other

/-- A variant that begins with the end of a name would take the name's last word further. -/
theorem foreign_name (known : name ∈ typeNames ++ statusNames)
    (ends : back.head?.any Unicode.isWord = false) {c : Wording.Correction}
    (listed : c ∈ Wording.corrections) : Wording.Foreign c.variant.toList name back := by
  obtain ⟨inside, around, before, behind⟩ :=
    (variants_survey _ (List.mem_map_of_mem listed)).2 name known
  refine ⟨inside, around, fun ending suffix => before ending ((List.mem_tails _ _).mpr suffix), ?_⟩
  intro opening rest split some suffix starts
  refine behind opening ((List.mem_inits _ _).mpr ⟨rest, split.symm⟩) some ?_ suffix
  rw [split, List.drop_left]
  exact any_head?_of_front starts ends

theorem isNormal_exchange_name {old new : List Char}
    (normal : Wording.IsNormal (front ++ (old ++ back))) (hold : old ∈ typeNames ++ statusNames)
    (hnew : new ∈ typeNames ++ statusNames)
    (oldWord : IsWord old) (newWord : IsWord new) (whole : Whole front old back) :
    Wording.IsNormal (front ++ (new ++ back)) := by
  have ends := (cut_iff_of_last oldWord.last).mp ((whole_iff oldWord).mp whole).2
  have letters {name : List Char} (known : name ∈ typeNames ++ statusNames) :
      ∀ c ∈ name, c.isAlphanum = true := fun c inside => by
    simp [Char.isAlphanum, isAlpha_of_mem_names name known c inside]
  exact Wording.isNormal_exchange normal (letters hold) (letters hnew) newWord.ne_nil
    fun _ => foreign_name hnew ends

theorem Edit.isNormal (edit : Edit text text') (normal : Wording.IsNormal text) :
    Wording.IsNormal text' := by
  cases edit with
  | number hold hnew =>
      have letters {number : List Char} (h : IsNumber number) :
          ∀ c ∈ number, c.isAlphanum = true := fun c inside => by
        simp [Char.isAlphanum, h.digits c inside]
      exact Wording.isNormal_exchange normal (letters hold) (letters hnew) hnew.ne_nil
        fun _ => foreign_number hnew
  | type old new whole =>
      have known (energy : Energy) := List.mem_append_left statusNames (mem_typeNames energy)
      have isWord (energy : Energy) := isWord_of_mem_typeNames _ (mem_typeNames energy)
      exact isNormal_exchange_name normal (known old) (known new) (isWord old) (isWord new) whole
  | status old new whole =>
      have known (status : Status) := List.mem_append_right typeNames (mem_statusNames status)
      have isWord (status : Status) := isWord_of_mem_statusNames _ (mem_statusNames status)
      exact isNormal_exchange_name normal (known old) (known new) (isWord old) (isWord new) whole

theorem edits_shape (h : TellsNothing isOldLetter own)
    (edits : Relation.ReflTransGen Edit text text') (normal : Wording.IsNormal text) :
    Wording.IsNormal text' ∧ shape (hideName own text) = shape (hideName own text') := by
  induction edits with
  | refl => exact ⟨normal, rfl⟩
  | tail _ edit ih =>
      obtain ⟨between, same⟩ := ih
      exact ⟨edit.isNormal between, same.trans (edit.shape_eq h)⟩

end

/-- Normal texts that differ in numbers, types and conditions alone have the same fragments, if the
owner's name tells nothing. -/
theorem ofText_eq_of_edits {text text' name : String} (normal : Wording.normalize text = text)
    (edits : Relation.ReflTransGen Edit text.toList text'.toList)
    (plain : TellsNothing isOldLetter (Wording.normalize name).toList) :
    ofText text name = ofText text' name := by
  have normal := (Wording.normalize_eq_self_iff text).mp normal
  rw [Wording.normalize, String.toList_ofList] at plain
  obtain ⟨normal', same⟩ := edits_shape plain edits normal
  rw [ofText, ofText, Wording.normalizeChars_eq_self normal, Wording.normalizeChars_eq_self normal',
    placeholders_eq, placeholders_eq, same]

theorem ofText_eq_coins :
    ofText "Mew: 2 coins, Asleep; 1 Fire." "Mew" =
      ofText "Mew: 13 coins, Confused; 1 Water." "Mew" := by
  have coins : Edit ("Mew: ".toList ++ ("2".toList ++ " coins, Asleep; 1 Fire.".toList))
      ("Mew: ".toList ++ ("13".toList ++ " coins, Asleep; 1 Fire.".toList)) :=
    .number (.of_all (by decide)) (.of_all (by decide)) (by decide) (by decide)
  have condition : Edit
      ("Mew: 13 coins, ".toList ++ (Status.asleep.name.toList ++ "; 1 Fire.".toList))
      ("Mew: 13 coins, ".toList ++ (Status.confused.name.toList ++ "; 1 Fire.".toList)) :=
    .status .asleep .confused (by decide +kernel)
  have energy : Edit
      ("Mew: 13 coins, Confused; 1 ".toList ++ (Energy.fire.name.toList ++ ".".toList))
      ("Mew: 13 coins, Confused; 1 ".toList ++ (Energy.water.name.toList ++ ".".toList)) :=
    .type .fire .water (by decide +kernel)
  have first :
      Edit "Mew: 2 coins, Asleep; 1 Fire.".toList "Mew: 13 coins, Asleep; 1 Fire.".toList :=
    coins.of_toList (by simp) (by simp)
  have second :
      Edit "Mew: 13 coins, Asleep; 1 Fire.".toList "Mew: 13 coins, Confused; 1 Fire.".toList :=
    condition.of_toList (by simp [Status.name]) (by simp [Status.name])
  have third :
      Edit "Mew: 13 coins, Confused; 1 Fire.".toList "Mew: 13 coins, Confused; 1 Water.".toList :=
    energy.of_toList (by simp [Energy.name]) (by simp [Energy.name])
  have plain : TellsNothing isOldLetter (Wording.normalize "Mew").toList :=
    tellsNothing_of_all (by decide +kernel) (by decide +kernel) (by decide +kernel)
  have edits := ((Relation.ReflTransGen.single first).tail second).tail third
  exact ofText_eq_of_edits (by decide +kernel) edits plain

/-- A letter that the tables of the words do not know yet is found inside of a word, where it joins
names to words of their own. -/
theorem ofText_ne_recent_letter :
    Wording.normalize "Fire\u0c5cWater." = "Fire\u0c5cWater." ∧
      Edit "Fire\u0c5cWater.".toList "Grass\u0c5cWater.".toList ∧
      TellsNothing Unicode.isAlphabetic (Wording.normalize "\u0c5c").toList ∧
      ofText "Fire\u0c5cWater." "\u0c5c" ≠ ofText "Grass\u0c5cWater." "\u0c5c" := by
  have edit : Edit ([] ++ (Energy.fire.name.toList ++ "\u0c5cWater.".toList))
      ([] ++ (Energy.grass.name.toList ++ "\u0c5cWater.".toList)) :=
    .type .fire .grass (by decide +kernel)
  refine ⟨by decide +kernel, edit.of_toList (by decide +kernel) (by decide +kernel), ?_,
    by decide +kernel⟩
  exact tellsNothing_of_all (by decide +kernel) (by decide +kernel) (by decide +kernel)

end CardText.Fragment
