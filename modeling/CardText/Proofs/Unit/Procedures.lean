import CardText.Proofs.Coverage.Aggregation
import CardText.Proofs.Script.Called
import CardText.Proofs.Unit.Blocks

/-! The procedures of a unit, read line by line. A procedure of an attack is recognized by the
line that opens it, and its body reaches to the brace that closes it. So the bodies of a unit are
those of the attacks of its set, one after the other, and what the coverage report of the set
says about methods, attacks and stubs can be checked in the unit. -/
namespace CardText.Outline

open Text Identifier

def raw (text : String) : List (List Char) := text.toList.splitOn '\n'

/-- What the procedure of an attack is given; a stub does not look at it. -/
def parameters : List String := ["(builder: AttackBuilder)", "(_builder: AttackBuilder)"]

def opens (line : List Char) : Bool :=
  parameters.any fun parameter => (name? "pub fn " parameter (unindent line)).isSome

def closing : List Char := "    \x7d".toList

/-- What stands between each such line and the next brace of its depth. -/
def bodies : List (List Char) → List (List (List Char))
  | [] => []
  | line :: rest =>
      if opens line then rest.takeWhile (· != closing) :: bodies rest else bodies rest

def procedureBodies (text : String) : List (List (List Char)) := bodies (raw text)

def isStub (body : List (List Char)) : Bool := body == ["        unimplemented!();".toList]

theorem raw_text_append (list : List String) (back : String) :
    raw (Emit.text list ++ back) = list.flatMap raw ++ raw back := by
  induction list with
  | nil => simp [Emit.text, raw]
  | cons line list ih =>
      have split : Emit.text (line :: list) ++ back = line ++ "\n" ++ (Emit.text list ++ back) := by
        simp [Emit.text, String.append_assoc]
      rw [split, raw, splitOn_append, ← raw, ← raw, ih, List.flatMap_cons, List.append_assoc]

theorem behind?_append_eq (front next line : List Char) :
    behind? (front ++ next) line = (behind? front line).bind (behind? next) := by
  induction front generalizing line with
  | nil => simp [behind?]
  | cons c front ih =>
      cases line with
      | nil => simp [behind?]
      | cons d line => by_cases same : c = d <;> simp [behind?, same, ih]

theorem name?_isSome_of_append {front back more : String} {line : List Char}
    (h : (name? front (back ++ more) line).isSome = true) :
    (name? front back line).isSome = true := by
  simp only [name?, String.toList_append, behind?_append_eq] at h ⊢
  cases front : behind? front.toList line with
  | none => simp [front] at h
  | some rest =>
      cases back : behind? back.toList (rest.dropWhile isIdentChar) with
      | none => simp [front, back] at h
      | some last => simp [back]

theorem eq_append_of_behind? {front line rest : List Char} (h : behind? front line = some rest) :
    line = front ++ rest := by
  induction front generalizing line with
  | nil => simpa [behind?] using h
  | cons c front ih =>
      cases line with
      | nil => simp [behind?] at h
      | cons d line =>
          by_cases same : c = d
          · rw [behind?, if_pos same] at h
            rw [ih h, same, List.cons_append]
          · simp [behind?, same] at h

theorem exists_procedure_of_opens {line : List Char} (h : opens line = true) :
    ∃ name, item? (unindent line) = some (.procedure name) := by
  obtain ⟨parameter, listed, asked⟩ := List.any_eq_true.mp h
  have split : ∃ more, parameter = "(" ++ more := by
    rcases List.mem_pair.mp listed with rfl | rfl
    · exact ⟨"builder: AttackBuilder)", by decide⟩
    · exact ⟨"_builder: AttackBuilder)", by decide⟩
  obtain ⟨more, rfl⟩ := split
  have opened := name?_isSome_of_append asked
  obtain ⟨name, named⟩ := Option.isSome_iff_exists.mp opened
  obtain ⟨rest, begins, -⟩ := Option.bind_eq_some_iff.mp named
  have declares : name? "pub struct " "" (unindent line) = none := by
    rw [eq_append_of_behind? begins]
    rfl
  exact ⟨name, by simp [item?, declares, named]⟩

def Shut (list : List String) : Prop := ∀ line ∈ list.flatMap raw, opens line = false

theorem shut_of_items {list : List String}
    (h : ∀ name, Item.procedure name ∉ list.flatMap items) : Shut list := by
  intro line inside
  obtain ⟨text, listed, own⟩ := List.mem_flatMap.mp inside
  by_contra opened
  obtain ⟨name, read⟩ := exists_procedure_of_opens (by simpa using opened)
  refine h name (List.mem_flatMap.mpr ⟨text, listed, List.mem_filterMap.mpr ⟨_, ?_, read⟩⟩)
  exact List.mem_map_of_mem own

theorem bodies_append (front rest : List (List Char)) :
    ∃ opened, bodies (front ++ rest) = opened ++ bodies rest ∧
      opened.length = front.countP opens := by
  induction front with
  | nil => exact ⟨[], rfl, rfl⟩
  | cons line front ih =>
      obtain ⟨opened, split, size⟩ := ih
      by_cases h : opens line
      · refine ⟨(front ++ rest).takeWhile (· != closing) :: opened, ?_, ?_⟩
        · rw [List.cons_append, bodies, if_pos h, split, List.cons_append]
        · rw [List.length_cons, size, List.countP_cons_of_pos h]
      · refine ⟨opened, ?_, ?_⟩
        · rw [List.cons_append, bodies, if_neg h, split]
        · rw [size, List.countP_cons_of_neg h]

theorem bodies_append_of_shut {list : List String} (h : Shut list) (rest : List (List Char)) :
    bodies (list.flatMap raw ++ rest) = bodies rest := by
  obtain ⟨opened, split, size⟩ := bodies_append (list.flatMap raw) rest
  have none : (list.flatMap raw).countP opens = 0 :=
    List.countP_eq_zero.mpr fun line inside => by simp [h line inside]
  rw [split, List.eq_nil_of_length_eq_zero (size.trans none), List.nil_append]

theorem bodies_procedure {first body : String} (one : OneLine first)
    (opened : opens first.toList = true) (shut : Shut [body])
    (inner : ∀ line ∈ raw body, line ≠ closing) (rest : List (List Char)) :
    bodies ([first, body, "    \x7d"].flatMap raw ++ rest) = raw body :: bodies rest := by
  have opening : raw first = [first.toList] := splitOn_of_oneLine one
  have close : raw "    \x7d" = [closing] := by decide
  have cut : (raw body ++ closing :: rest).takeWhile (· != closing) = raw body := by
    rw [List.takeWhile_append_of_pos fun line inside => by simpa using inner line inside]
    simp
  have closed : opens closing = false := by decide
  have skipped := bodies_append_of_shut shut (closing :: rest)
  simp only [List.flatMap_cons, List.flatMap_nil, List.append_nil] at skipped
  have split : [first, body, "    \x7d"].flatMap raw ++ rest =
      first.toList :: (raw body ++ closing :: rest) := by
    simp [opening, close]
  rw [split, bodies, if_pos opened, cut, skipped]
  simp [bodies, closed]

theorem opens_of_isIdent {name : String} (h : IsIdent name) (parameter : String) {back : String}
    (listed : parameter ∈ parameters) (begins : parameter.toList <+: back.toList) :
    opens ("    pub fn " ++ name ++ back).toList = true := by
  have ends : (back.toList.head?.all fun c => !isIdentChar c) = true := by
    obtain ⟨rest, eq⟩ := begins
    rw [← eq]
    rcases List.mem_pair.mp listed with rfl | rfl <;> rfl
  have named := name?_eq h "pub fn " begins ends
  refine List.any_eq_true.mpr ⟨parameter, listed, ?_⟩
  rw [String.toList_append, String.toList_append, List.append_assoc]
  change (name? "pub fn " parameter ("pub fn ".toList ++ (name.toList ++ back.toList))).isSome = true
  rw [named]
  rfl

end CardText.Outline

namespace CardText.Emit

open Text Identifier Outline

def bodyText (options : Options) (read : ReadAttack) : String :=
  match read.script with
  | some script => Print.body options.inlineLimit 2 read.attack.cost script
  | none => "        unimplemented!();"

theorem called_bodyText (options : Options) (read : ReadAttack) :
    (raw (bodyText options read)).flatMap Print.called =
      match read.script with
      | some script => "attack_cost" :: Script.methods script
      | none => [] := by
  rw [raw, Print.called_splitOn, bodyText]
  cases read.script with
  | some script => exact Print.called_body _ _ _ _
  | none => exact (by decide : Print.called "        unimplemented!();".toList = [])

theorem isStub_bodyText (options : Options) (read : ReadAttack) :
    isStub (raw (bodyText options read)) = read.script.isNone := by
  have called := called_bodyText options read
  cases script : read.script with
  | none =>
      rw [bodyText, script]
      exact (by decide : isStub (raw "        unimplemented!();") = true)
  | some effects =>
      rw [script] at called
      rw [isStub, Option.isNone_some, beq_eq_false_iff_ne]
      intro same
      rw [same] at called
      exact absurd called (by simp [Print.called])

theorem bodies_definition (options : Options) {procedure : Procedure} (h : IsIdent procedure.name)
    (rest : List (List Char)) :
    bodies ((definition options procedure).flatMap raw ++ rest) =
      raw (bodyText options procedure.attack) :: bodies rest := by
  have one : ∀ {back : String}, OneLine back → OneLine ("    pub fn " ++ procedure.name ++ back) :=
    fun h' => MadeOf.append (MadeOf.append (.literal (by decide)) (oneLine_of_isIdent h)) h'
  rw [definition.eq_def, bodyText.eq_def]
  cases procedure.attack.script with
  | none =>
      refine bodies_procedure (one (.literal (by decide)))
        (opens_of_isIdent h "(_builder: AttackBuilder)" (by decide) (by decide)) ?_ ?_ rest
      · exact fun line inside => (by decide :
          ∀ line ∈ ["        unimplemented!();"].flatMap raw, opens line = false) line inside
      · decide
  | some script =>
      refine bodies_procedure (one (.literal (by decide)))
        (opens_of_isIdent h "(builder: AttackBuilder)" (by decide) (by decide)) ?_ ?_ rest
      · apply shut_of_items
        simp
      · intro line inside same
        have deep := Print.pad_prefix_of_mem_body inside
        rw [same] at deep
        exact absurd deep (by decide)

theorem map_attack_procedures (attacks : List ReadAttack) :
    (procedures attacks).map Procedure.attack = attacks := by
  rw [procedures_eq, List.map_zipWith, ← List.map_uncurry_zip_eq_zipWith]
  exact List.map_snd_zip (length_procedureNames attacks).ge

theorem bodies_definitions (options : Options) (attacks : List ReadAttack)
    (rest : List (List Char)) :
    bodies (((procedures attacks).flatMap (definition options)).flatMap raw ++ rest) =
      attacks.map (fun read => raw (bodyText options read)) ++ bodies rest := by
  have ident : ∀ procedure ∈ procedures attacks, IsIdent procedure.name := fun _ =>
    isIdent_of_mem_procedures
  have read : ∀ list : List Procedure, (∀ procedure ∈ list, IsIdent procedure.name) →
      bodies ((list.flatMap (definition options)).flatMap raw ++ rest) =
        list.map (fun procedure => raw (bodyText options procedure.attack)) ++ bodies rest := by
    intro list h
    induction list with
    | nil => rfl
    | cons procedure list ih =>
        obtain ⟨first, others⟩ := List.forall_mem_cons.mp h
        rw [List.flatMap_cons, List.flatMap_append, List.append_assoc,
          bodies_definition options first, ih others]
        rfl
  rw [read _ ident]
  conv_rhs => rw [← map_attack_procedures attacks, List.map_map]
  rfl

theorem bodies_cardLines (options : Options) {name : String} (h : IsIdent name) (read : ReadCard)
    (rest : List (List Char)) :
    bodies ((cardLines options name read).flatMap raw ++ rest) =
      read.attacks.map (fun read => raw (bodyText options read)) ++ bodies rest := by
  have outer : items "\x7d" = [] := by decide
  have last : Shut ["\x7d"] := shut_of_items (by simp [outer])
  have whole := outline_block options h read
  rw [outline_text, cardItems] at whole
  rw [cardLines] at whole ⊢
  rw [List.flatMap_append, List.flatMap_append, items_definitions, List.flatMap_cons, outer,
    List.flatMap_nil, List.append_nil, List.append_nil] at whole
  have head := List.append_cancel_right whole
  rw [List.flatMap_append, List.flatMap_append, List.append_assoc, List.append_assoc]
  -- All that stands in front of the procedures defines none.
  refine (bodies_append_of_shut (shut_of_items fun other => ?_) _).trans ?_
  · rw [head, ← List.map_uncurry_zip_eq_zipWith]
    simp [entryItem]
  · rw [bodies_definitions, bodies_append_of_shut last]

theorem shut_blank : Shut [""] := shut_of_items (by simp)

theorem bodies_cards (options : Options) {names : List String} {cards : List ReadCard}
    (len : names.length = cards.length) (h : ∀ name ∈ names, IsIdent name)
    (rest : List (List Char)) :
    bodies ((List.zipWith (fun name card => "" :: cardLines options name card) names
        cards).flatten.flatMap raw ++ rest) =
      (cards.flatMap ReadCard.attacks).map (fun read => raw (bodyText options read)) ++
        bodies rest := by
  induction names generalizing cards with
  | nil =>
      cases cards with
      | nil => rfl
      | cons card cards => cases len
  | cons name names ih =>
      cases cards with
      | nil => cases len
      | cons card cards =>
          obtain ⟨first, others⟩ := List.forall_mem_cons.mp h
          have later := ih (Nat.succ.inj len) others
          rw [List.zipWith_cons_cons, List.flatten_cons, ← List.singleton_append, List.flatMap_append,
            List.flatMap_append, List.append_assoc, List.append_assoc, bodies_append_of_shut shut_blank,
            bodies_cardLines options first, later, List.flatMap_cons, List.map_append,
            List.append_assoc]

theorem shut_registry {names : List String} (h : ∀ name ∈ names, IsIdent name) :
    Shut (registry names) := by
  have build : items "pub fn build() -> Vec<(String, Box<dyn CardArchetype>)> \x7b" =
      [.procedure "build"] := by decide
  have whole := outline_registry h
  rw [outline_text, registry, List.append_assoc, List.cons_append, List.flatMap_cons, build,
    List.singleton_append, List.cons.injEq] at whole
  intro line inside
  rw [registry, List.append_assoc, List.cons_append, List.flatMap_cons, List.mem_append] at inside
  rcases inside with first | later
  · exact (by decide : ∀ line ∈ raw "pub fn build() -> Vec<(String, Box<dyn CardArchetype>)> \x7b",
      opens line = false) line first
  · refine shut_of_items (fun name => ?_) line later
    rw [whole.2]
    simp

/-- What a unit says behind its prelude. -/
def code (options : Options) (read : ReadSet) : String :=
  let names := structNames read
  text ((List.zipWith (fun name card => "" :: cardLines options name card) names read.cards).flatten
    ++ "" :: registry names)

theorem contents_eq (options : Options) (read : ReadSet) :
    (set options read).contents = text (header read.set ++ prelude) ++ code options read := by
  simp [set, contents, code, String.append_assoc]

theorem procedureBodies_code (options : Options) (read : ReadSet) :
    procedureBodies (code options read) =
      (read.cards.flatMap ReadCard.attacks).map fun read => raw (bodyText options read) := by
  have len := length_structNames read
  have ident : ∀ name ∈ structNames read, IsIdent name := fun _ => isIdent_of_mem_structNames
  have ends : bodies (raw "") = [] := by decide
  have split := raw_text_append ((List.zipWith (fun name card => "" :: cardLines options name card)
    (structNames read) read.cards).flatten ++ "" :: registry (structNames read)) ""
  rw [String.append_empty] at split
  rw [procedureBodies, code, split, List.flatMap_append, List.append_assoc,
    bodies_cards options len ident, ← List.singleton_append, List.flatMap_append, List.append_assoc,
    bodies_append_of_shut shut_blank, bodies_append_of_shut (shut_registry ident), ends, List.append_nil]

/-- A coverage report tells of a text which methods its bodies call beside that of the cost, how
many bodies there are, and how many of them are stubs. -/
structure Describes (report : Coverage) (unit : String) : Prop where
  methods (method : String) : method ∈ report.methods ↔ method ≠ "attack_cost" ∧
    ∃ body ∈ procedureBodies unit, method ∈ body.flatMap Print.called
  total : report.total = (procedureBodies unit).length
  unread : report.unread = (procedureBodies unit).countP isStub

theorem Describes.of_bodies {report : Coverage} {unit other : String}
    (h : Describes report unit) (same : procedureBodies other = procedureBodies unit) :
    Describes report other :=
  ⟨same ▸ h.methods, same ▸ h.total, same ▸ h.unread⟩

theorem describes_code (options : Options) (rules : Nat) (read : ReadSet) :
    Describes (Coverage.ofSet rules read) (code options read) := by
  refine ⟨fun method => ?_, ?_, ?_⟩
  · rw [procedureBodies_code, Coverage.mem_methods_ofSet]
    simp only [List.mem_map, exists_exists_and_eq_and, called_bodyText]
    constructor
    · rintro ⟨attack, inside, script, read, uses⟩
      obtain ⟨effect, -, rfl⟩ := List.mem_map.mp uses
      exact ⟨Print.method_ne_attackCost effect, attack, inside, by simp [read, uses]⟩
    · rintro ⟨other, attack, inside, uses⟩
      cases read : attack.script with
      | none => simp [read] at uses
      | some script => exact ⟨attack, inside, script, read, by simpa [read, other] using uses⟩
  · rw [procedureBodies_code, Coverage.total_ofSet, List.length_map]
  · rw [procedureBodies_code, Coverage.unread_ofSet, List.countP_map]
    simp only [Function.comp_def, isStub_bodyText]

theorem shut_headerLine {set : CardSet} (h : OneLine set.shortCode) : Shut [headerLine set] :=
  shut_of_items (by simp [items_headerLine h])

theorem procedureBodies_contents (options : Options) (read : ReadSet) :
    ∃ opened, procedureBodies (set options read).contents =
        opened ++ procedureBodies (code options read) ∧
      opened.length = (raw (headerLine read.set)).countP opens := by
  -- the blank line and the imports open nothing, whatever the header says
  have behind : Shut ("" :: prelude) := shut_of_items (by simp)
  obtain ⟨opened, split, size⟩ := bodies_append (raw (headerLine read.set))
    (("" :: prelude).flatMap raw ++ raw (code options read))
  refine ⟨opened, ?_, size⟩
  rw [bodies_append_of_shut behind] at split
  rw [contents_eq, header_eq, procedureBodies, raw_text_append, List.cons_append, List.flatMap_cons,
    List.append_assoc]
  exact split

theorem describes_contents_iff (options : Options) (rules : Nat) (read : ReadSet) :
    Describes (Coverage.ofSet rules read) (set options read).contents ↔
      Shut [headerLine read.set] := by
  have known := describes_code options rules read
  obtain ⟨opened, split, size⟩ := procedureBodies_contents options read
  have shut : Shut [headerLine read.set] ↔ opened.length = 0 := by
    simp [Shut, size, List.countP_eq_zero]
  rw [shut]
  constructor
  · -- the total alone tells them apart: it counts the bodies behind the prelude
    intro described
    have total := known.total.symm.trans described.total
    rw [split, List.length_append] at total
    omega
  · intro none
    refine known.of_bodies ?_
    rw [split, List.eq_nil_of_length_eq_zero none, List.nil_append]

/-- The methods behind the dots of a body are those of the walk of its script, behind that of the
cost. So the coverage report of a set knows what its unit says behind the prelude. It knows the
whole unit exactly if the header opens no procedure, as none of one line does; each that it opens
is a body that the report does not count. -/
theorem report_describes_unit (options : Options) (rules : Nat) (read : ReadSet) :
    let report := Coverage.ofSet rules read
    let unit := (set options read).contents
    (∀ (limit level : Nat) (cost : List Energy) (script : Script),
      Print.called (Print.body limit level cost script).toList =
        "attack_cost" :: Script.methods script) ∧
      unit = text (header read.set ++ prelude) ++ code options read ∧
      Describes report (code options read) ∧
      (Describes report unit ↔ ∀ line ∈ raw (headerLine read.set), opens line = false) ∧
      (procedureBodies unit).length =
        (raw (headerLine read.set)).countP opens + report.total ∧
      (OneLine read.set.shortCode → Describes report unit) := by
  intro report unit
  have header : Shut [headerLine read.set] ↔
      ∀ line ∈ raw (headerLine read.set), opens line = false := by simp [Shut]
  have known := describes_code options rules read
  have whole := describes_contents_iff options rules read
  obtain ⟨opened, split, size⟩ := procedureBodies_contents options read
  refine ⟨Print.called_body, contents_eq options read, known, whole.trans header, ?_,
    fun one => whole.mpr (shut_headerLine one)⟩
  rw [split, List.length_append, size, known.total]

def peckAndNap (code : String) : ReadSet :=
  ⟨⟨"Base", some code, none⟩,
    [⟨⟨"Abra", "pokemon", ["Basic"], some 30, [], [], [], [], none, [],
        ⟨"Base", some code, none⟩, "43"⟩,
      .basic, 30,
      [⟨⟨"Peck", [.colorless], some 10, ""⟩, "", some "plain damage", some [.act (.damage 10)]⟩,
        ⟨⟨"Nap", [], none, "Nap."⟩, "Nap.", none, none⟩]⟩], .empty⟩

theorem report_describes_unit_stub :
    OneLine (peckAndNap "BS").set.shortCode ∧
      (procedureBodies (set {} (peckAndNap "BS")).contents).length = 2 ∧
      (procedureBodies (set {} (peckAndNap "BS")).contents).countP isStub = 1 := by
  have one : OneLine (peckAndNap "BS").set.shortCode := .literal (by decide)
  obtain ⟨-, -, -, -, -, described⟩ := report_describes_unit {} 46 (peckAndNap "BS")
  obtain ⟨-, total, unread⟩ := described one
  exact ⟨one, total.symm.trans rfl, unread.symm.trans rfl⟩

def stubCode : String :=
  "X\n    pub fn evil(_builder: AttackBuilder) -> AttackBuilder \x7b\n" ++
    "        unimplemented!();\n    \x7d\n//"

theorem report_misses_stub_of_code :
    ¬ Describes (Coverage.ofSet 46 (peckAndNap stubCode)) (set {} (peckAndNap stubCode)).contents ∧
      (Coverage.ofSet 46 (peckAndNap stubCode)).total = 2 ∧
      (procedureBodies (set {} (peckAndNap stubCode)).contents).length = 3 := by
  have total : (Coverage.ofSet 46 (peckAndNap stubCode)).total = 2 := rfl
  have opened : (raw (headerLine (peckAndNap stubCode).set)).countP opens = 1 := by
    decide +kernel
  obtain ⟨bodies, split, size⟩ := procedureBodies_contents {} (peckAndNap stubCode)
  have length : (procedureBodies (set {} (peckAndNap stubCode)).contents).length = 3 := by
    rw [split, List.length_append, size, opened,
      ← (describes_code {} 46 (peckAndNap stubCode)).total, total]
  exact ⟨fun described => absurd (described.total.symm.trans total) (by rw [length]; decide),
    total, length⟩

end CardText.Emit
