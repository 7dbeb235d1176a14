import CardText.Card
import CardText.Proofs.Grammar.Building
import CardText.Proofs.Traversal
import CardText.Proofs.Wording.Arrangement

/-! Hit points and damage. What a record gives for one of them states an amount, states that there
is none, or states nothing; a record is refused in the last case, and holds the very amount in the
others. The rest of the record plays no part in it. -/
namespace CardText

namespace Text

variable {text core digits : List Char}

structure Trimmed (text core : List Char) : Prop where
  split : ∃ before after, text = before ++ core ++ after ∧
    (∀ c ∈ before, Unicode.isSpace c = true) ∧ ∀ c ∈ after, Unicode.isSpace c = true
  head : ∀ c ∈ core.head?, Unicode.isSpace c = false
  last : ∀ c ∈ core.getLast?, Unicode.isSpace c = false

theorem Trimmed.trim_eq (h : Trimmed text core) : trim text = core := by
  obtain ⟨⟨before, after, rfl, hb, ha⟩, head, last⟩ := h
  by_cases empty : core = []
  · have all : ∀ c ∈ before ++ core ++ after, Unicode.isSpace c = true := fun c inside => by
      simp only [empty, List.append_nil, List.mem_append] at inside
      exact inside.elim (hb c) (ha c)
    rw [trim, List.dropWhile_eq_nil_iff.mpr all, empty]
    rfl
  · have front : (before ++ core ++ after).dropWhile Unicode.isSpace = core ++ after := by
      obtain ⟨c, rest, rfl⟩ := List.exists_cons_of_ne_nil empty
      rw [List.append_assoc, List.dropWhile_append_of_pos hb, List.cons_append,
        List.dropWhile_cons_of_neg (by simp [head c rfl])]
    have back : (core ++ after).rdropWhile Unicode.isSpace = core.rdropWhile Unicode.isSpace := by
      rw [List.rdropWhile, List.reverse_append, List.dropWhile_append_of_pos fun c inside =>
        ha c (List.mem_reverse.mp inside)]
      rfl
    rw [trim_eq_rdropWhile, front, back, List.rdropWhile_eq_self_iff]
    exact fun ne => Bool.eq_false_iff.mp (last _ (List.getLast_mem_getLast? ne))

theorem trimmed_trim (text : List Char) : Trimmed text (trim text) where
  split := by
    refine ⟨text.takeWhile Unicode.isSpace,
      (text.dropWhile Unicode.isSpace).rtakeWhile Unicode.isSpace, ?_,
      fun _ => List.mem_takeWhile_imp, fun _ => List.mem_rtakeWhile_imp⟩
    rw [trim_eq_rdropWhile, List.append_assoc, List.rdropWhile_append_rtakeWhile,
      List.takeWhile_append_dropWhile]
  head := trim_head text
  last := trim_last text

theorem trimmed_iff : Trimmed text core ↔ trim text = core :=
  ⟨Trimmed.trim_eq, fun same => same ▸ trimmed_trim text⟩

theorem trim_around {before after : List Char} (hb : isBlank before = true)
    (ha : isBlank after = true) (text : List Char) :
    trim (before ++ text ++ after) = trim text := by
  rw [isBlank, List.all_eq_true] at hb ha
  obtain ⟨⟨front, back, same, hf, hk⟩, head, last⟩ := trimmed_trim text
  refine Trimmed.trim_eq ⟨⟨before ++ front, back ++ after, ?_, ?_, ?_⟩, head, last⟩
  · conv_lhs => rw [same]
    simp only [List.append_assoc]
  · exact fun c inside => (List.mem_append.mp inside).elim (hb c) (hf c)
  · exact fun c inside => (List.mem_append.mp inside).elim (hk c) (ha c)

/-- Begins with these digits, and with no more of them. -/
structure OpensWith (core digits : List Char) : Prop where
  ne_nil : digits ≠ []
  all_digits : ∀ c ∈ digits, c.isDigit = true
  stops : ∃ rest, core = digits ++ rest ∧ ∀ c ∈ rest.head?, c.isDigit = false

theorem opensWith_iff :
    OpensWith core digits ↔ digits ≠ [] ∧ core.takeWhile Char.isDigit = digits := by
  constructor
  · rintro ⟨ne, all, rest, rfl, stops⟩
    refine ⟨ne, ?_⟩
    rw [List.takeWhile_append_of_pos all]
    cases rest with
    | nil => simp
    | cons c rest => simp [stops c rfl]
  · rintro ⟨ne, rfl⟩
    refine ⟨ne, fun _ => List.mem_takeWhile_imp, core.dropWhile Char.isDigit,
      List.takeWhile_append_dropWhile.symm, fun c first => ?_⟩
    have stop := List.head?_dropWhile_not Char.isDigit core
    rw [Option.mem_def.mp first] at stop
    exact stop

theorem isBlank_iff : isBlank text = true ↔ trim text = [] := by
  rw [← trimmed_iff, isBlank, List.all_eq_true]
  constructor
  · exact fun all => ⟨⟨text, [], by simp, all, by simp⟩, by simp, by simp⟩
  · rintro ⟨⟨before, after, rfl, hb, ha⟩, -, -⟩ c inside
    simp only [List.append_nil, List.mem_append] at inside
    exact inside.elim (hb c) (ha c)

theorem leadingAmount?_eq_some_iff {n : Nat} :
    leadingAmount? text = some n ↔
      ∃ digits, OpensWith (trim text) digits ∧ numeral digits = n ∧ n ≤ 2 ^ 32 - 1 := by
  have limit : largestAmount = 2 ^ 32 - 1 := rfl
  have all : ((trim text).takeWhile Char.isDigit).all Char.isDigit = true :=
    List.all_eq_true.mpr fun _ => List.mem_takeWhile_imp
  rw [leadingAmount?, amountOfDigits?_eq, decimalValue_eq_ofDigits, limit, all,
    Option.ite_none_right_eq_some]
  simp only [true_and, opensWith_iff]
  constructor
  · rintro ⟨⟨ne, within⟩, value⟩
    obtain rfl := Option.some.inj value
    exact ⟨_, ⟨ne, rfl⟩, rfl, within⟩
  · rintro ⟨_, ⟨ne, rfl⟩, rfl, within⟩
    exact ⟨⟨ne, within⟩, rfl⟩

end Text

namespace Decode

/-- What a record gives for an amount, if it gives anything, and the amount that it states. -/
inductive States : Option Json → Option Nat → Prop
  | absent : States none none
  | null : States (some .null) none
  | blank {text : String} (trimmed : Text.Trimmed text.toList []) :
      States (some (.string text)) none
  | whole {n : Nat} (within : n ≤ 2 ^ 32 - 1) : States (some (.number (.integer n))) (some n)
  /-- The digits that the text opens with; what follows them does not matter. -/
  | leading {text : String} {core digits : List Char} (trimmed : Text.Trimmed text.toList core)
      (opens : Text.OpensWith core digits) (within : Text.numeral digits ≤ 2 ^ 32 - 1) :
      States (some (.string text)) (some (Text.numeral digits))

theorem amount_string_eq_ok_iff {text : String} {n? : Option Nat} :
    amount (.string text) = .ok n? ↔ States (some (.string text)) n? := by
  rw [amount]
  by_cases blank : Text.isBlank text.toList = true
  · have trimmed := Text.isBlank_iff.mp blank
    rw [if_pos blank]
    constructor
    · rintro ⟨⟩
      exact .blank (Text.trimmed_iff.mpr trimmed)
    · rintro (_ | _ | _ | _ | ⟨other, opens, _⟩)
      · rfl
      · -- no digits open a text of which nothing is left
        obtain rfl := trimmed.symm.trans other.trim_eq
        obtain ⟨ne, same⟩ := Text.opensWith_iff.mp opens
        exact absurd same.symm ne
  · rw [if_neg blank]
    constructor
    · intro read
      cases leads : Text.leadingAmount? text.toList with
      | none => simp [leads] at read
      | some n =>
          obtain ⟨digits, opens, rfl, within⟩ := Text.leadingAmount?_eq_some_iff.mp leads
          simp only [leads, Except.ok.injEq] at read
          exact read ▸ .leading (Text.trimmed_trim _) opens within
    · rintro (_ | _ | trimmed | _ | ⟨trimmed, opens, within⟩)
      · exact absurd (Text.isBlank_iff.mpr trimmed.trim_eq) blank
      · rw [← trimmed.trim_eq] at opens
        simp [Text.leadingAmount?_eq_some_iff.mpr ⟨_, opens, rfl, within⟩]

theorem amount_eq_ok_iff {value : Json} {n? : Option Nat} :
    amount value = .ok n? ↔ States (some value) n? := by
  cases value with
  | null =>
      constructor
      · rintro ⟨⟩
        exact .null
      · rintro ⟨⟩
        rfl
  | string text => exact amount_string_eq_ok_iff
  | number value =>
      constructor
      · intro read
        match value with
        | .integer (.ofNat n) =>
            cases fits : Text.amount? n with
            | none => simp [amount, fits] at read
            | some m =>
                obtain ⟨rfl, within⟩ := Text.of_amount?_eq_some fits
                simp only [amount, fits, Except.ok.injEq] at read
                exact read ▸ .whole within
        | .integer (.negSucc n) => cases read
        | .float _ _ => cases read
      · rintro (_ | _ | _ | within)
        change amount (.number (.integer (.ofNat _))) = _
        rw [amount, Text.amount?_eq_some within]
  | bool | array | object =>
      constructor
      · intro read
        cases read
      · rintro ⟨⟩

theorem States.unique {value? : Option Json} {n? m? : Option Nat} (h : States value? n?)
    (h' : States value? m?) : n? = m? := by
  cases value? with
  | none =>
      cases h
      cases h'
      rfl
  | some value =>
      rw [← amount_eq_ok_iff] at h h'
      exact Except.ok.inj (h.symm.trans h')

theorem optional_amount_eq_ok_iff {members : Members} {key : String} {n? : Option Nat} :
    members.optional key none amount = .ok n? ↔ States (members.entries.lookup key) n? := by
  rw [Members.optional]
  cases members.entries.lookup key with
  | none =>
      constructor
      · rintro ⟨⟩
        exact .absent
      · rintro ⟨⟩
        rfl
  | some value => exact amount_eq_ok_iff

def entries (keys : List String) : Json → List (String × Json)
  | .object members => members
  | .array items => keys.zip items
  | _ => []

def given (keys : List String) (record : Json) (key : String) : Option Json :=
  (entries keys record).lookup key

/-- The members of a record with one more among them, or with none more. -/
def around (before after : List (String × Json)) (key : String) (value? : Option Json) : Json :=
  .object (before ++ (value?.map (key, ·)).toList ++ after)

section Record

variable {α : Type} {name : String} {fields : List Field} {build : Members → Except DecodeError α}

theorem exists_members_of_record {value : Json} {a : α}
    (h : record name fields build value = .ok a) :
    ∃ members : Members, members.entries = entries (fields.map Field.key) value ∧
      build members = .ok a := by
  cases value with
  | object members =>
      obtain ⟨_, -, built⟩ := bind_eq_ok_iff.mp h
      exact ⟨_, rfl, built⟩
  | array items =>
      obtain ⟨_, -, rest⟩ := bind_eq_ok_iff.mp h
      obtain ⟨b, built, fits⟩ := bind_eq_ok_iff.mp rest
      split at fits
      · cases fits
      · obtain rfl := pure_eq_ok_iff.mp fits
        exact ⟨_, rfl, built⟩
  | _ => cases h

theorem record_object_eq_ok_iff {members : List (String × Json)} {a : α} :
    record name fields build (.object members) = .ok a ↔
      checkEntries fields members = .ok () ∧ build ⟨members, .missingField⟩ = .ok a := by
  rw [record, bind_eq_ok_iff]
  exact ⟨fun ⟨(), h⟩ => h, fun h => ⟨(), h⟩⟩

theorem checkEntries_append {front back : List (String × Json)} :
    checkEntries fields (front ++ back) = .ok () ↔
      checkEntries fields front = .ok () ∧ checkEntries fields back = .ok () := by
  simp only [checkEntries, List.forM_eq_forM, List.forM_append, bind_eq_ok_iff]
  exact ⟨fun ⟨(), h⟩ => h, fun h => ⟨(), h⟩⟩

theorem checkEntries_amount {key : String} {value? : Option Json}
    (known : fields.find? (·.key == key) = some (field key amount)) :
    checkEntries fields (value?.map (key, ·)).toList = .ok () ↔ ∃ n?, States value? n? := by
  cases value? with
  | none => exact iff_of_true rfl ⟨none, .absent⟩
  | some value =>
      have check : (field key amount).check value = .ok () ↔ ∃ n?, amount value = .ok n? := by
        cases read : amount value <;> simp [field, read, Except.map]
      simp only [← amount_eq_ok_iff, ← check]
      simp only [checkEntries, Option.map_some, Option.toList_some, List.forM_eq_forM,
        List.forM_cons, List.forM_nil, known, bind_eq_ok_iff]
      exact ⟨fun ⟨(), h, _⟩ => h, fun h => ⟨(), h, rfl⟩⟩

/-- What a record is built into when its members are good: the amount is that under the key, and
the other members know nothing of it. -/
structure BuildsAmount (build : Members → Except DecodeError α) (key : String)
    (get : α → Option Nat) (put : α → Option Nat → α) : Prop where
  reads : ∀ {members a}, build members = .ok a → members.optional key none amount = .ok (get a)
  replaces : ∀ {members members' : Members} {a n?}, build members = .ok a →
    members'.missing = members.missing →
    (∀ other, other ≠ key → members'.entries.lookup other = members.entries.lookup other) →
    members'.optional key none amount = .ok n? → build members' = .ok (put a n?)
  put_get : ∀ a n?, put (put a n?) (get a) = a

structure ReadsAmount (decode : Decoder α) (keys : List String) (key : String)
    (get : α → Option Nat) (put : α → Option Nat → α) : Prop where
  holds : ∀ {record a}, decode record = .ok a →
    ∀ n?, get a = n? ↔ States (given keys record key) n?
  refuses : ∀ {record}, (∀ n?, ¬ States (given keys record key) n?) →
    ∃ error, decode record = .error error
  /-- Whatever states an amount may stand beside the other members, or nothing at all. -/
  fits : ∀ {before after value? a}, (∀ member ∈ before ++ after, member.1 ≠ key) →
    (decode (around before after key value?) = .ok a ↔
      ∃ rest n?, decode (.object (before ++ after)) = .ok rest ∧ States value? n? ∧
        a = put rest n?)

variable {key : String} {get : α → Option Nat} {put : α → Option Nat → α}

theorem lookup_around {before after : List (String × Json)}
    (apart : ∀ member ∈ before ++ after, member.1 ≠ key) (value? : Option Json) :
    (before ++ (value?.map (key, ·)).toList ++ after).lookup key = value? := by
  have absent : ∀ members ⊆ before ++ after, members.lookup key = none := fun members listed =>
    List.lookup_eq_none_iff.mpr fun member inside =>
      bne_iff_ne.mpr (apart member (listed inside)).symm
  rw [List.append_assoc, List.lookup_append, List.lookup_append, absent before (by simp),
    absent after (by simp)]
  cases value? <;> simp

theorem lookup_around_of_ne (before after : List (String × Json)) (value? : Option Json)
    {other : String} (ne : other ≠ key) :
    (before ++ (value?.map (key, ·)).toList ++ after).lookup other =
      (before ++ after).lookup other := by
  have absent : (value?.map (key, ·)).toList.lookup other = none := by
    cases value? <;> simp [ne]
  rw [List.append_assoc, List.lookup_append, List.lookup_append, absent, Option.none_or,
    List.lookup_append]

theorem BuildsAmount.readsAmount (h : BuildsAmount build key get put)
    (known : fields.find? (·.key == key) = some (field key amount)) :
    ReadsAmount (record name fields build) (fields.map Field.key) key get put := by
  have holds : ∀ {value a}, record name fields build value = .ok a →
      States (given (fields.map Field.key) value key) (get a) := by
    intro value a decoded
    obtain ⟨members, same, built⟩ := exists_members_of_record decoded
    rw [given, ← same]
    exact optional_amount_eq_ok_iff.mp (h.reads built)
  refine ⟨fun decoded n? => ?_, fun {value} unstated => ?_, fun {before after value? a} apart => ?_⟩
  · constructor
    · rintro rfl
      exact holds decoded
    · exact (holds decoded).unique
  · cases decoded : record name fields build value with
    | ok a => exact absurd (holds decoded) (unstated _)
    | error error => exact ⟨error, rfl⟩
  · have found := lookup_around apart value?
    have absent := lookup_around apart none
    have others := fun other (ne : other ≠ key) => lookup_around_of_ne before after value? ne
    simp only [Option.map_none, Option.toList_none, List.append_nil] at absent
    rw [around, record_object_eq_ok_iff, checkEntries_append, checkEntries_append,
      checkEntries_amount known]
    simp only [record_object_eq_ok_iff, checkEntries_append]
    constructor
    · rintro ⟨⟨⟨front, -⟩, back⟩, built⟩
      have stated := optional_amount_eq_ok_iff.mp (h.reads built)
      rw [found] at stated
      have nothing : States ((before ++ after).lookup key) none := absent.symm ▸ .absent
      have without : build ⟨before ++ after, .missingField⟩ = .ok (put a none) :=
        h.replaces built rfl (fun other ne => (others other ne).symm)
          (optional_amount_eq_ok_iff.mpr nothing)
      exact ⟨_, _, ⟨⟨front, back⟩, without⟩, stated, (h.put_get a none).symm⟩
    · rintro ⟨rest, n?, ⟨⟨front, back⟩, built⟩, stated, rfl⟩
      refine ⟨⟨⟨front, n?, stated⟩, back⟩, h.replaces built rfl others ?_⟩
      exact optional_amount_eq_ok_iff.mpr (found.symm ▸ stated)

end Record

theorem required_congr {α : Type} (decoder : Decoder α) {members members' : Members}
    {key : String} (missing : members'.missing = members.missing)
    (same : members'.entries.lookup key = members.entries.lookup key) :
    members'.required key decoder = members.required key decoder := by
  rw [Members.required, Members.required, same, missing]

theorem optional_congr {α : Type} (default : α) (decoder : Decoder α) {members members' : Members}
    {key : String} (same : members'.entries.lookup key = members.entries.lookup key) :
    members'.optional key default decoder = members.optional key default decoder := by
  rw [Members.optional, Members.optional, same]

end Decode

open Decode

theorem Attack.readsAmount :
    ReadsAmount Attack.decode ["name", "cost", "damage", "text"] "damage" Attack.damage
      fun attack damage => { attack with damage } := by
  refine BuildsAmount.readsAmount ⟨?_, ?_, fun _ _ => rfl⟩ rfl
  · intro members attack built
    simp only [bind_eq_ok_iff, pure_eq_ok_iff] at built
    obtain ⟨name, -, cost, -, damage, read, text, -, rfl⟩ := built
    exact read
  · intro members members' attack n? built missing others read
    simp only [bind_eq_ok_iff, pure_eq_ok_iff] at built
    obtain ⟨name, named, cost, paid, damage, -, text, worded, rfl⟩ := built
    simp only [required_congr _ missing (others "name" (by decide)),
      optional_congr _ _ (others "cost" (by decide)),
      optional_congr _ _ (others "text" (by decide)), named, paid, read, worded]
    rfl

theorem Card.readsAmount :
    ReadsAmount Card.decode (Card.fields.map Field.key) "hp" Card.hp
      fun card hp => { card with hp } := by
  refine BuildsAmount.readsAmount ⟨?_, ?_, fun _ _ => rfl⟩ rfl
  · intro members card built
    simp only [Card.build, bind_eq_ok_iff, pure_eq_ok_iff] at built
    obtain ⟨_, -, _, -, _, -, _, read, _, -, _, -, _, -, _, -, _, -, _, -, _, -, _, -, rfl⟩ := built
    exact read
  · intro members members' card n? built missing others read
    have required := fun {α} (decoder : Decoder α) key (ne : key ≠ "hp") =>
      required_congr decoder missing (others key ne)
    have optional := fun {α} (default : α) decoder key (ne : key ≠ "hp") =>
      optional_congr default decoder (others key ne)
    simp only [Card.build, bind_eq_ok_iff, pure_eq_ok_iff] at built
    obtain ⟨name, hname, supertype, hsupertype, subtypes, hsubtypes, hp, -, types, htypes,
      weaknesses, hweaknesses, resistances, hresistances, retreatCost, hretreatCost, evolvesFrom,
      hevolvesFrom, attacks, hattacks, set, hset, number, hnumber, rfl⟩ := built
    simp only [Card.build, required _ "name" (by decide), required _ "supertype" (by decide),
      optional _ _ "subtypes" (by decide), optional _ _ "types" (by decide),
      optional _ _ "weaknesses" (by decide), optional _ _ "resistances" (by decide),
      optional _ _ "retreatCost" (by decide), optional _ _ "evolvesFrom" (by decide),
      optional _ _ "attacks" (by decide), required _ "set" (by decide),
      required _ "number" (by decide), hname, hsupertype, hsubtypes, read, htypes, hweaknesses,
      hresistances, hretreatCost, hevolvesFrom, hattacks, hset, hnumber]
    rfl

inductive Card.ListsAttacks : Option Json → List Attack → Prop
  | absent : ListsAttacks none []
  | items {items : List Json} {attacks : List Attack}
      (each : List.Forall₂ (fun item attack => Attack.decode item = .ok attack) items attacks) :
      ListsAttacks (some (.array items)) attacks

theorem Card.listsAttacks {record : Json} {card : Card} (h : Card.decode record = .ok card) :
    ListsAttacks (given (Card.fields.map Field.key) record "attacks") card.attacks := by
  obtain ⟨members, same, built⟩ := exists_members_of_record h
  simp only [Card.build, bind_eq_ok_iff, pure_eq_ok_iff] at built
  obtain ⟨_, -, _, -, _, -, _, -, _, -, _, -, _, -, _, -, _, -, attacks, read, _, -, _, -, rfl⟩ :=
    built
  rw [given, ← same]
  rw [Members.optional] at read
  cases found : members.entries.lookup "attacks" with
  | none =>
      obtain rfl : [] = attacks := by simpa [found] using read
      exact .absent
  | some value =>
      simp only [found] at read
      cases value with
      | array items => exact .items (mapM_eq_ok_iff.mp read)
      | _ => cases read

/-- Hit points and damage are what their record states: nothing where the key is absent, where it
holds null or a blank text, and a number where it holds that whole number or a text that opens with
its digits, within the limit. A record that states neither is refused, and so is a card that lists
an attack of this kind; the rest of the record decides on all else. -/
theorem amounts_exact_or_refused :
    (ReadsAmount Card.decode (Card.fields.map Field.key) "hp" Card.hp
      fun card hp => { card with hp }) ∧
    (ReadsAmount Attack.decode ["name", "cost", "damage", "text"] "damage" Attack.damage
      fun attack damage => { attack with damage }) ∧
    ∀ (record : Json) (card : Card), Card.decode record = .ok card →
      Card.ListsAttacks (given (Card.fields.map Field.key) record "attacks") card.attacks :=
  ⟨Card.readsAmount, Attack.readsAmount, fun _ _ => Card.listsAttacks⟩

theorem amounts_exact_or_refused_marked :
    let others := [("name", Json.string "Comet Punch")]
    let marked := around [] others "damage" (some (.string " 0020× "))
    let large := around [] others "damage" (some (.string "4294967296"))
    let card := Json.object [("attacks", .array [large]), ("name", .string "Onix"),
      ("number", .string "56"), ("set", .object others), ("supertype", .string "pokemon")]
    Attack.decode marked = .ok ⟨"Comet Punch", [], some 20, ""⟩ ∧
      (∃ error, Attack.decode large = .error error) ∧ ∀ read, Card.decode card ≠ .ok read := by
  intro others marked large card
  obtain ⟨-, attacks, listed⟩ := amounts_exact_or_refused
  have stated : States (some (.string " 0020× ")) (some 20) :=
    .leading (Text.trimmed_iff.mpr (by decide) : Text.Trimmed _ "0020×".toList)
      (Text.opensWith_iff.mpr (by decide) : Text.OpensWith _ "0020".toList) (by decide)
  have unstated : ∀ n?, ¬ States (some (.string "4294967296")) n? := by
    intro n? stated
    have read := amount_eq_ok_iff.mpr stated
    have refused : amount (.string "4294967296") = .error (.badNumber "\"4294967296\"") := by decide
    cases refused.symm.trans read
  have refused : ∃ error, Attack.decode large = .error error := attacks.refuses unstated
  refine ⟨?_, refused, fun read decoded => ?_⟩
  · have plain : Attack.decode (.object others) = .ok ⟨"Comet Punch", [], none, ""⟩ := by decide
    exact (attacks.fits (by decide)).mpr ⟨_, _, plain, stated, rfl⟩
  · have lists : Card.ListsAttacks (some (.array [large])) read.attacks := listed card read decoded
    obtain ⟨error, refused⟩ := refused
    generalize read.attacks = own at lists
    cases lists with
    | items each =>
        cases each with
        | cons first _ => cases first.symm.trans refused

end CardText
