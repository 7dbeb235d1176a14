import CardText.Proofs.Script.Indentation
import CardText.Proofs.Unit.Names
import CardText.Unit

/-! What a reader finds in a unit, line by line, about its names: where a struct is declared,
where it is implemented, which procedures its attacks refer to and which ones it defines, and
which structs the registry lists. Indentation plays no part. -/
namespace CardText.Outline

open Text Identifier

inductive Item where
  | declares (name : String)
  | implements (name : String)
  /-- A block of the procedures of a struct itself. -/
  | inherent (name : String)
  /-- An attack, by the text of its name and its cost, and the procedure it refers to. -/
  | entry (attack procedure : String)
  | procedure (name : String)
  | stub
  | listed (name : String)
  deriving DecidableEq, Repr

def behind? : List Char → List Char → Option (List Char)
  | [], line => some line
  | _ :: _, [] => none
  | c :: front, d :: line => if c = d then behind? front line else none

/-- A name between two texts, whatever the line says behind the second one. -/
def name? (front back : String) (line : List Char) : Option String :=
  (behind? front.toList line).bind fun rest =>
    (behind? back.toList (rest.dropWhile isIdentChar)).map fun _ =>
      String.ofList (rest.takeWhile isIdentChar)

/-- The procedure is read from the end of the line; the name of an attack may hold any text. -/
def reference? (line : List Char) : Option Item :=
  (behind? "Attack::new(".toList line).bind fun rest =>
    (behind? "),".toList.reverse rest.reverse).bind fun back =>
      (behind? ", Self::".toList.reverse (back.dropWhile isIdentChar)).map fun front =>
        .entry (String.ofList front.reverse) (String.ofList (back.takeWhile isIdentChar).reverse)

def stub? (line : List Char) : Option Item :=
  if line = "unimplemented!();".toList then some .stub else none

def item? (line : List Char) : Option Item :=
  (name? "pub struct " "" line).map .declares <|>
  (name? "pub fn " "(" line).map .procedure <|>
  (name? "impl " " \x7b" line).map .inherent <|>
  (name? "impl CardArchetype for " "" line).map .implements <|>
  reference? line <|>
  stub? line <|>
  (name? "Pokemon::create::<" ">" line).map .listed

def items (text : String) : List Item := (pieces text).filterMap item?

def lines (text : String) : List (List Char) := (pieces text).dropLast

def outline (text : String) : List Item := (lines text).filterMap item?

@[simp] theorem pieces_text (list : List String) :
    pieces (Emit.text list) = list.flatMap pieces ++ [[]] := by
  induction list with
  | nil => rfl
  | cons line list ih =>
      have split : Emit.text (line :: list) = line ++ "\n" ++ Emit.text list := by
        simp [Emit.text]
      rw [split, pieces_append, ih, List.flatMap_cons, List.append_assoc]

@[simp] theorem outline_text (list : List String) : outline (Emit.text list) = list.flatMap items := by
  rw [outline, lines, pieces_text, List.dropLast_concat, List.filterMap_flatMap]
  rfl

@[simp] theorem behind?_append (front rest : List Char) : behind? front (front ++ rest) = some rest := by
  induction front with
  | nil => rfl
  | cons c front ih => simp [behind?, ih]

theorem span_name {name tail : List Char} (ident : ∀ c ∈ name, isIdentChar c = true)
    (ends : (tail.head?.all fun c => !isIdentChar c) = true) :
    (name ++ tail).takeWhile isIdentChar = name ∧ (name ++ tail).dropWhile isIdentChar = tail := by
  rw [List.takeWhile_append_of_pos ident, List.dropWhile_append_of_pos ident]
  cases tail with
  | nil => simp
  | cons c others =>
      have stop : isIdentChar c = false := by simpa using ends
      simp [stop]

theorem name?_eq {name : String} (ident : IsIdent name) (front : String) {back : String}
    {tail : List Char} (begins : back.toList <+: tail)
    (ends : (tail.head?.all fun c => !isIdentChar c) = true) :
    name? front back (front.toList ++ (name.toList ++ tail)) = some name := by
  have span := span_name ident ends
  obtain ⟨rest, rfl⟩ := begins
  simp [name?, span.1, span.2]

theorem reference?_eq {name : String} (ident : IsIdent name) (attack : String) :
    reference? ("Attack::new(".toList ++ (attack.toList ++ (", Self::".toList ++
      (name.toList ++ "),".toList)))) = some (.entry attack name) := by
  have turned : (attack.toList ++ (", Self::".toList ++ (name.toList ++ "),".toList))).reverse =
      "),".toList.reverse ++
        (name.toList.reverse ++ (", Self::".toList.reverse ++ attack.toList.reverse)) := by
    simp only [List.reverse_append, List.append_assoc]
  have ends : ((", Self::".toList.reverse ++ attack.toList.reverse).head?.all fun c =>
      !isIdentChar c) = true := by
    have first : ", Self::".toList.reverse = ':' :: ":fleS ,".toList := by decide
    rw [first]
    rfl
  have span := span_name (fun c inside => ident c (List.mem_reverse.mp inside)) ends
  simp only [reference?, behind?_append, Option.bind_some, turned, span.1, span.2, Option.map_some,
    List.reverse_reverse, String.ofList_toList]

theorem items_of_oneLine {text : String} (h : OneLine text) :
    items text = (item? (unindent text.toList)).toList := by
  rw [items, pieces_of_oneLine h]
  cases read : item? (unindent text.toList) with
  | none => simp [read]
  | some item => simp [read]

def isQuiet (c : Char) : Bool := !List.contains ['p', 'i', 'A', 'u', 'P', '\n'] c

theorem name?_eq_none {c d : Char} (h : d ≠ c) (front back : String) (rest : List Char)
    (first : front.toList.head? = some d) : name? front back (c :: rest) = none := by
  obtain ⟨others, eq⟩ := List.head?_eq_some_iff.mp first
  simp [name?, eq, behind?, h]

theorem item?_eq_none {c : Char} (h : isQuiet c = true) (rest : List Char) :
    item? (c :: rest) = none := by
  have other : ∀ d ∈ ['p', 'i', 'A', 'u', 'P', '\n'], d ≠ c := by
    intro d listed same
    subst same
    simp [isQuiet, listed] at h
  have p := name?_eq_none (other 'p' (by simp))
  have i := name?_eq_none (other 'i' (by simp))
  have declares := p "pub struct " "" rest (by decide)
  have procedure := p "pub fn " "(" rest (by decide)
  have inherent := i "impl " " \x7b" rest (by decide)
  have implements := i "impl CardArchetype for " "" rest (by decide)
  have entry : reference? (c :: rest) = none := by
    have first : "Attack::new(".toList = 'A' :: "ttack::new(".toList := by decide
    simp [reference?, first, behind?, other 'A']
  have stub : stub? (c :: rest) = none := by
    have first : "unimplemented!();".toList = 'u' :: "nimplemented!();".toList := by decide
    simp [stub?, first, (other 'u' (by simp)).symm]
  have listed := name?_eq_none (other 'P' (by simp)) "Pokemon::create::<" ">" rest (by decide)
  simp [item?, declares, procedure, inherent, implements, entry, stub, listed]

theorem items_of_quiet {text : String} (first : Begins isQuiet text.toList)
    (tidy : Tidy isQuiet text) : items text = [] := by
  rw [items, List.filterMap_eq_nil_iff]
  intro piece inside
  obtain ⟨c, rest, rfl, quiet⟩ := begins_of_mem_pieces first tidy rfl inside
  exact item?_eq_none quiet rest

theorem items_of_quiet_line {text : String} (one : OneLine text)
    (first : Begins isQuiet text.toList) : items text = [] :=
  items_of_quiet first (.of_oneLine one)

theorem oneLine_of_isIdent {name : String} (h : IsIdent name) : OneLine name :=
  oneLine_of_madeOf h (by decide)

section Names

variable {name : String} (h : IsIdent name)
include h

theorem items_around {front back : String} (hf : OneLine front) (hb : OneLine back) {item : Item}
    (read : item? (unindent (front.toList ++ (name.toList ++ back.toList))) = some item) :
    items (front ++ name ++ back) = [item] := by
  rw [items_of_oneLine ((hf.append (oneLine_of_isIdent h)).append hb), String.toList_append,
    String.toList_append, List.append_assoc, read]
  rfl

theorem items_declares : items ("pub struct " ++ name ++ " \x7b\x7d") = [.declares name] := by
  have named := name?_eq h "pub struct " (by decide : "".toList <+: " \x7b\x7d".toList) (by decide)
  apply items_around h (.literal (by decide)) (.literal (by decide))
  change item? ("pub struct ".toList ++ _) = _
  rw [item?, named]
  rfl

theorem items_procedure (back : String) (one : OneLine back) (opened : "(".toList <+: back.toList) :
    items ("    pub fn " ++ name ++ back) = [.procedure name] := by
  obtain ⟨rest, begins⟩ := opened
  have named := name?_eq h "pub fn " ⟨rest, begins⟩ (by rw [← begins]; rfl)
  apply items_around h (.literal (by decide)) one
  change item? ("pub fn ".toList ++ _) = _
  have declares : ∀ line, name? "pub struct " "" ("pub fn ".toList ++ line) = none := fun _ => rfl
  rw [item?, declares, named]
  rfl

theorem items_inherent : items ("impl " ++ name ++ " \x7b") = [.inherent name] := by
  have named := name?_eq h "impl " (List.prefix_refl " \x7b".toList) (by decide)
  apply items_around h (.literal (by decide)) (.literal (by decide))
  change item? ("impl ".toList ++ _) = _
  have declares : ∀ line, name? "pub struct " "" ("impl ".toList ++ line) = none := fun _ => rfl
  have procedure : ∀ line, name? "pub fn " "(" ("impl ".toList ++ line) = none := fun _ => rfl
  rw [item?, declares, procedure, named]
  rfl

theorem items_implements :
    items ("impl CardArchetype for " ++ name ++ " \x7b") = [.implements name] := by
  have named := name?_eq h "impl CardArchetype for " (by decide : "".toList <+: " \x7b".toList)
    (by decide)
  apply items_around h (.literal (by decide)) (.literal (by decide))
  change item? ("impl CardArchetype for ".toList ++ _) = _
  have declares : ∀ line,
      name? "pub struct " "" ("impl CardArchetype for ".toList ++ line) = none := fun _ => rfl
  have procedure : ∀ line,
      name? "pub fn " "(" ("impl CardArchetype for ".toList ++ line) = none := fun _ => rfl
  have inherent : ∀ line,
      name? "impl " " \x7b" ("impl CardArchetype for ".toList ++ line) = none := fun _ => rfl
  rw [item?, declares, procedure, inherent, named]
  rfl

theorem items_listed : items ("        Pokemon::create::<" ++ name ++ ">(),") = [.listed name] := by
  have named := name?_eq h "Pokemon::create::<" (by decide : ">".toList <+: ">(),".toList)
    (by decide)
  apply items_around h (.literal (by decide)) (.literal (by decide))
  change item? ("Pokemon::create::<".toList ++ _) = _
  rw [item?, named]
  rfl

theorem items_entry {attack cost : String} (ha : OneLine attack) (hc : OneLine cost) :
    items ("            Attack::new(" ++ attack ++ ", " ++ cost ++ ", Self::" ++ name ++ "),") =
      [.entry (attack ++ ", " ++ cost) name] := by
  have front : OneLine ("            Attack::new(" ++ attack ++ ", " ++ cost ++ ", Self::") :=
    ((((MadeOf.literal (by decide)).append ha).append (.literal (by decide))).append hc).append
      (.literal (by decide))
  apply items_around h front (.literal (by decide))
  have shown :
      unindent (("            Attack::new(" ++ attack ++ ", " ++ cost ++ ", Self::").toList ++
        (name.toList ++ "),".toList)) =
      "Attack::new(".toList ++ ((attack ++ ", " ++ cost).toList ++
        (", Self::".toList ++ (name.toList ++ "),".toList))) := by
    simp only [String.toList_append, List.append_assoc]
    rfl
  rw [shown, item?, reference?_eq h]
  rfl

end Names

end CardText.Outline
