import CardText.Proofs.Unit.ProcedureNames
import CardText.Proofs.Unit.Procedures

/-! What structs are called. A struct is called by the letters and digits of its card, and where
these do not begin with a letter, by `Card` and them; a name that is taken gets a number behind an
underscore. So a name never fails by its characters. It can still be a word of the language, for
unlike a procedure a struct keeps such a name, and it does so exactly where the letters and digits
of its card spell that word. -/
namespace CardText

namespace Identifier

/-- Words that name no struct: the reserved ones, and the one that stands for the struct at hand. -/
def keywords : List String := "Self" :: reservedWords

def beginsWithLetter (name : String) : Bool := name.toList.head?.any Char.isAlpha

def spelledChars (name number : List Char) : List Char :=
  ((spellSigns "M" "F" "D" name).map dropAccent).filter Char.isAlphanum ++
    number.filter Char.isAlphanum

def spelled (name number : String) : String :=
  String.ofList (spelledChars name.toList number.toList)

structure IsStructName (name : String) : Prop where
  begins : beginsWithLetter name = true
  ident : IsIdent name
  not_keyword : name ∉ keywords

theorem structChars_eq (name number : List Char) :
    structChars name number =
      if (spelledChars name number).head?.any Char.isAlpha then spelledChars name number
      else "Card".toList ++ spelledChars name number := rfl

theorem structName_eq (name number : String) :
    structName name number =
      if beginsWithLetter (spelled name number) then spelled name number
      else "Card" ++ spelled name number := by
  rw [structName, structChars_eq, apply_ite String.ofList, String.ofList_append,
    String.ofList_toList, spelled, beginsWithLetter, String.toList_ofList]

theorem isAlphanum_spelled (name number : String) :
    Text.MadeOf Char.isAlphanum (spelled name number) := by
  intro c inside
  rw [spelled, String.toList_ofList, spelledChars, ← List.filter_append] at inside
  exact (List.mem_filter.mp inside).2

theorem isAlphanum_structName (name number : String) :
    Text.MadeOf Char.isAlphanum (structName name number) := by
  rw [structName_eq]
  split
  · exact isAlphanum_spelled name number
  · have front : Text.MadeOf Char.isAlphanum "Card" := .of_all (by decide)
    exact front.append (isAlphanum_spelled name number)

theorem beginsWithLetter_append {front : String} (h : beginsWithLetter front = true)
    (back : String) : beginsWithLetter (front ++ back) = true := by
  unfold beginsWithLetter at h ⊢
  cases spelled : front.toList with
  | nil => simp [spelled] at h
  | cons c rest => simpa [spelled] using h

theorem beginsWithLetter_structName (name number : String) :
    beginsWithLetter (structName name number) = true := by
  rw [structName_eq]
  split
  next letter => exact letter
  next => exact beginsWithLetter_append (by decide) _

theorem letters_of_keyword {word : String} (h : word ∈ keywords) :
    beginsWithLetter word = true ∧ ∀ c ∈ word.toList, c.isAlpha = true := by
  have letters : ∀ word ∈ keywords,
      beginsWithLetter word = true ∧ word.toList.all Char.isAlpha = true := by
    decide
  exact ⟨(letters word h).1, List.all_eq_true.mp (letters word h).2⟩

theorem notMem_keywords {name : String} {c : Char} (inside : c ∈ name.toList)
    (other : c.isAlpha = false) : name ∉ keywords := by
  intro listed
  have letter := (letters_of_keyword listed).2 c inside
  exact Bool.noConfusion (other.symm.trans letter)

theorem card_append_notMem_keywords (back : String) : "Card" ++ back ∉ keywords := by
  have first : ∀ word ∈ keywords, word.toList.head? ≠ some 'C' := by decide
  intro listed
  apply first _ listed
  rw [String.toList_append]
  rfl

theorem structName_mem_keywords_iff {name number : String} :
    structName name number ∈ keywords ↔ spelled name number ∈ keywords := by
  rw [structName_eq]
  split
  next => exact Iff.rfl
  next other =>
    refine ⟨fun listed => absurd listed (card_append_notMem_keywords _), fun listed => ?_⟩
    exact absurd (letters_of_keyword listed).1 other

theorem spelled_notMem_keywords {name number : String}
    (h : ∃ c ∈ number.toList, c.isDigit = true) : spelled name number ∉ keywords := by
  obtain ⟨c, inside, digit⟩ := h
  refine notMem_keywords (c := c) ?_ (Unicode.isAlpha_eq_false_of_isDigit digit)
  have kept : c.isAlphanum = true := by simp [Char.isAlphanum, digit]
  rw [spelled, String.toList_ofList, spelledChars, List.mem_append]
  exact .inr (List.mem_filter.mpr ⟨inside, kept⟩)

theorem beginsWithLetter_numbered {name : String} (h : beginsWithLetter name = true) (n : Nat) :
    beginsWithLetter (numbered name n) = true := by
  cases n with
  | zero => exact h
  | succ n =>
      rw [numbered, String.append_assoc]
      exact beginsWithLetter_append h _

theorem eq_of_numbered_mem_keywords {name : String} {n : Nat} (h : numbered name n ∈ keywords) :
    numbered name n = name := by
  cases n with
  | zero => rfl
  | succ n =>
      have line : '_' ∈ (numbered name (n + 1)).toList := by simp [numbered]
      exact absurd h (notMem_keywords line (by decide))

theorem mem_uniqueAll {taken idents : List String} {ident : String} (h : ident ∈ idents)
    (free : ident ∉ taken) : ident ∈ uniqueAll taken idents := by
  induction idents generalizing taken with
  | nil => cases h
  | cons first idents ih =>
      rw [uniqueAll, List.mem_cons]
      by_cases chosen : ident = unique taken first
      · exact .inl chosen
      · rcases List.mem_cons.mp h with rfl | later
        · obtain ⟨n, -, eq, -, earlier⟩ := unique_eq_numbered taken ident
          cases n with
          | zero => exact absurd eq.symm chosen
          | succ n => exact absurd (earlier 0 n.succ_pos) free
        · exact .inr (ih later (by simp [chosen, free]))

end Identifier

namespace Outline

def Item.declared? : Item → Option String
  | declares name => some name
  | _ => none

def declared (text : String) : List String := (outline text).filterMap Item.declared?

end Outline

namespace Emit

open Text Identifier Outline

theorem declared_cardItems (name : String) (procedures : List String) (attacks : List ReadAttack) :
    (cardItems name procedures attacks).filterMap Item.declared? = [name] := by
  have entries : (List.zipWith entryItem procedures attacks).filterMap Item.declared? = [] := by
    rw [List.filterMap_eq_nil_iff, ← List.map_uncurry_zip_eq_zipWith]
    intro item inside
    obtain ⟨pair, -, rfl⟩ := List.mem_map.mp inside
    rfl
  have definitions :
      (List.zipWith procedureItems procedures attacks).flatten.filterMap Item.declared? = [] := by
    rw [List.filterMap_eq_nil_iff, ← List.map_uncurry_zip_eq_zipWith]
    intro item inside
    obtain ⟨items, listed, inside⟩ := List.mem_flatten.mp inside
    obtain ⟨pair, -, rfl⟩ := List.mem_map.mp listed
    simp only [Function.uncurry_def, procedureItems, List.mem_cons] at inside
    rcases inside with rfl | stub
    · rfl
    · split at stub
      · rw [List.mem_singleton.mp stub]
        rfl
      · cases stub
  simp only [cardItems, List.filterMap_append, entries, definitions]
  rfl

theorem declared_cards (options : Options) {names : List String} {cards : List ReadCard}
    (len : names.length = cards.length) (h : ∀ name ∈ names, IsIdent name) :
    ((List.zipWith (fun name card => "" :: cardLines options name card) names
      cards).flatten.flatMap items).filterMap Item.declared? = names := by
  induction names generalizing cards with
  | nil => rfl
  | cons name names ih =>
      cases cards with
      | nil => cases len
      | cons card cards =>
          obtain ⟨first, others⟩ := List.forall_mem_cons.mp h
          have block := outline_block options first card
          rw [outline_text] at block
          rw [List.zipWith_cons_cons, List.flatten_cons, List.flatMap_append,
            List.filterMap_append, ih (Nat.succ.inj len) others, List.flatMap_cons, items_blank,
            List.nil_append, block, declared_cardItems]
          rfl

theorem declared_code (options : Options) (read : ReadSet) :
    declared (code options read) = structNames read := by
  have ident : ∀ name ∈ structNames read, IsIdent name := fun _ => isIdent_of_mem_structNames
  have registry := outline_registry ident
  rw [outline_text] at registry
  rw [declared, code, outline_text, List.flatMap_append, List.flatMap_cons, items_blank, registry,
    List.filterMap_append, declared_cards options (length_structNames read) ident]
  simp [Item.declared?]

theorem exists_numbered_of_mem_structNames {read : ReadSet} {name : String}
    (h : name ∈ structNames read) :
    ∃ card ∈ read.cards, ∃ n, name = numbered (structName card) n := by
  obtain ⟨n, bound, rfl⟩ := List.getElem_of_mem h
  have pairs := uniqueAll_numbered [] (read.cards.map structName)
  have len : n < read.cards.length := length_structNames read ▸ bound
  obtain ⟨number, eq⟩ := pairs.get (by simpa using len) bound
  refine ⟨read.cards[n], List.getElem_mem len, number, ?_⟩
  rw [List.get_eq_getElem, List.get_eq_getElem, List.getElem_map] at eq
  exact eq

/-- The name of a struct begins with a letter and goes on with letters and digits; in a unit a
number may stand behind an underscore. It is a word of the language where the letters and digits
of its card spell that word, and nowhere else; a number that holds a digit rules this out. -/
theorem structName_usable (name number : String) (options : Options) (read : ReadSet) :
    (beginsWithLetter (Identifier.structName name number) = true ∧
      MadeOf Char.isAlphanum (Identifier.structName name number) ∧
      (Identifier.structName name number ∈ keywords ↔ spelled name number ∈ keywords) ∧
      ((∃ c ∈ number.toList, c.isDigit = true) → spelled name number ∉ keywords)) ∧
    (set options read).contents = text (header read.set ++ prelude) ++ code options read ∧
      (declared (code options read)).length = read.cards.length ∧
      (∀ name ∈ declared (code options read), beginsWithLetter name = true ∧ IsIdent name) ∧
      ((∀ name ∈ declared (code options read), IsStructName name) ↔
        ∀ card ∈ read.cards, spelled card.card.name card.card.number ∉ keywords) := by
  refine ⟨⟨beginsWithLetter_structName name number, isAlphanum_structName name number,
    structName_mem_keywords_iff, spelled_notMem_keywords⟩, ?_⟩
  have shape : ∀ name ∈ structNames read, beginsWithLetter name = true ∧ IsIdent name := by
    intro name inside
    obtain ⟨card, -, n, rfl⟩ := exists_numbered_of_mem_structNames inside
    exact ⟨beginsWithLetter_numbered (beginsWithLetter_structName _ _) n,
      isIdent_of_mem_structNames inside⟩
  rw [declared_code]
  refine ⟨contents_eq options read, length_structNames read, shape, fun usable card own => ?_,
    fun clear name inside => ?_⟩
  · -- a word that is spelled goes to the first card that spells it
    intro listed
    have chosen : structName card ∈ structNames read :=
      mem_uniqueAll (List.mem_map_of_mem own) (by simp)
    exact (usable _ chosen).not_keyword (structName_mem_keywords_iff.mpr listed)
  · obtain ⟨begins, ident⟩ := shape name inside
    refine ⟨begins, ident, fun listed => ?_⟩
    obtain ⟨card, own, n, rfl⟩ := exists_numbered_of_mem_structNames inside
    rw [eq_of_numbered_mem_keywords listed] at listed
    exact clear card own (structName_mem_keywords_iff.mp listed)

def copies (n : Nat) (name number : String) : ReadSet :=
  let info : CardSet := ⟨"Unseen Forces", none, none⟩
  ⟨info, List.replicate n
    ⟨⟨name, "pokemon", ["Basic"], some 50, [], [], [], [], none, [], info, number⟩, .basic, 50, []⟩,
    .empty⟩

theorem structName_usable_copies :
    Identifier.structName "Farfetch'd" "27" ∉ keywords ∧
      declared (code {} (copies 2 "Farfetch'd" "27")) = ["FarfetchD27", "FarfetchD27_2"] ∧
      ∀ name ∈ ["FarfetchD27", "FarfetchD27_2"], IsStructName name := by
  obtain ⟨⟨-, -, keyword, digit⟩, -, -, -, usable⟩ :=
    structName_usable "Farfetch'd" "27" {} (copies 2 "Farfetch'd" "27")
  have clear := digit ⟨'2', by decide, by decide⟩
  have named : declared (code {} (copies 2 "Farfetch'd" "27")) =
      ["FarfetchD27", "FarfetchD27_2"] := by
    rw [declared_code]
    decide
  rw [named] at usable
  refine ⟨fun listed => clear (keyword.mp listed), named, usable.mpr fun card own => ?_⟩
  rw [List.eq_of_mem_replicate own]
  exact clear

theorem structName_keyword :
    Identifier.structName "Self" "?" = "Self" ∧ Identifier.structName "type" "" = "type" ∧
      declared (code {} (copies 2 "Self" "?")) = ["Self", "Self_2"] ∧
      "Self" ∈ keywords ∧ "type" ∈ keywords := by
  have named : declared (code {} (copies 2 "Self" "?")) = ["Self", "Self_2"] := by
    rw [declared_code]
    decide
  exact ⟨by decide, by decide, named, by decide, by decide⟩

end Emit
end CardText
