import CardText.Proofs.Unit.Outline

/-! The names of a unit. Each card has a struct of its own, which its block declares and
implements and the registry lists, and each attack a procedure of its own in that block. -/
namespace CardText.Emit

open Text Identifier Outline

/-- A body is left out when no rule could read the attack. -/
def procedureItems (name : String) (read : ReadAttack) : List Item :=
  .procedure name :: if read.script.isNone then [.stub] else []

def entryItem (name : String) (read : ReadAttack) : Item :=
  .entry (quoted read.attack.name ++ ", " ++ Print.typeList read.attack.cost) name

def cardItems (name : String) (procedures : List String) (attacks : List ReadAttack) : List Item :=
  [.declares name, .implements name] ++ List.zipWith entryItem procedures attacks ++
    [.inherent name] ++ (List.zipWith procedureItems procedures attacks).flatten

@[simp] theorem items_body (limit level : Nat) (cost : List Energy) (script : Script) :
    items (Print.body limit level cost script) = [] := by
  have weaker : ∀ c, Print.isLead c = true → isQuiet c = true := by
    intro c lead
    simp [Print.isLead] at lead
    rcases lead with rfl | rfl | rfl | rfl <;> rfl
  obtain ⟨c, rest, shown, lead⟩ := Print.begins_body limit level cost script
  exact items_of_quiet ⟨c, rest, shown, weaker c lead⟩
    ((Print.tidy_body limit level cost script).mono weaker)

theorem items_definition (options : Options) {procedure : Procedure}
    (h : IsIdent procedure.name) :
    (definition options procedure).flatMap items =
      procedureItems procedure.name procedure.attack := by
  have close : items "    \x7d" = [] := by decide
  have stub : items "        unimplemented!();" = [.stub] := by decide
  rw [definition.eq_def]
  cases read : procedure.attack.script with
  | none =>
      have head := items_procedure h "(_builder: AttackBuilder) -> AttackBuilder \x7b"
        (.literal (by decide)) (by decide)
      simp [procedureItems, read, stub, close, head]
  | some script =>
      have head := items_procedure h "(builder: AttackBuilder) -> AttackBuilder \x7b"
        (.literal (by decide)) (by decide)
      simp [procedureItems, read, close, head]

theorem oneLine_typeList (energies : List Energy) : OneLine (Print.typeList energies) :=
  Print.oneLine_of_isArgument (Print.IsArgument.typeList energies)

theorem items_attackEntry {procedure : Procedure} (h : IsIdent procedure.name) :
    items (attackEntry procedure) = [entryItem procedure.name procedure.attack] :=
  items_entry h (oneLine_quoted _) (oneLine_typeList _)

theorem items_attackList {procedures : List Procedure}
    (h : ∀ procedure ∈ procedures, IsIdent procedure.name) :
    (attackList procedures).flatMap items =
      procedures.map fun procedure => entryItem procedure.name procedure.attack := by
  have none : items "        vec![]" = [] := by decide
  have opened : items "        vec![" = [] := by decide
  have closed : items "        ]" = [] := by decide
  have entries : (procedures.flatMap fun procedure => items (attackEntry procedure)) =
      procedures.map fun procedure => entryItem procedure.name procedure.attack := by
    rw [List.flatMap_congr fun procedure inside => items_attackEntry (h procedure inside),
      List.map_eq_flatMap]
  cases procedures with
  | nil => simp [attackList, none]
  | cons first others =>
      have listed : attackList (first :: others) =
        ["        vec!["] ++ (first :: others).map attackEntry ++ ["        ]"] := rfl
      rw [listed, List.flatMap_append, List.flatMap_append, List.flatMap_map, entries]
      simp [opened, closed]

theorem oneLine_amount (n : Nat) : OneLine (toString n) :=
  oneLine_of_madeOf (MadeOf.amount (fun _ digit => digit) n) (by decide)

theorem oneLine_energies (list : List Energy) : OneLine (energies list) := by
  apply MadeOf.intercalate (.literal (by decide))
  intro item inside
  obtain ⟨energy, -, rfl⟩ := List.mem_map.mp inside
  cases energy <;> exact .literal (by decide)

theorem items_macro {front inner back : String} (hf : OneLine front) (hi : OneLine inner)
    (hb : OneLine back) (first : Begins isQuiet front.toList) :
    items ("    " ++ (front ++ inner ++ back) ++ ";") = [] := by
  have one : OneLine ("    " ++ (front ++ inner ++ back) ++ ";") :=
    (MadeOf.append (.literal (by decide)) ((hf.append hi).append hb)).append (.literal (by decide))
  apply items_of_quiet_line one
  have shown : ("    " ++ (front ++ inner ++ back) ++ ";").toList =
      "    ".toList ++ (front ++ (inner ++ (back ++ ";"))).toList := by
    simp [String.toList_append]
  rw [shown]
  exact first.text_append _

@[simp] theorem items_identifier (text : String) :
    items ("    " ++ ("identifier!(" ++ quoted text ++ ")") ++ ";") = [] := by
  have one : OneLine ("    " ++ ("identifier!(" ++ quoted text ++ ")") ++ ";") :=
    (MadeOf.append (.literal (by decide)) ((MadeOf.append (.literal (by decide))
      (oneLine_quoted text)).append (.literal (by decide)))).append (.literal (by decide))
  rw [items_of_oneLine one]
  simp only [String.toList_append, List.append_assoc]
  rfl

@[simp] theorem items_stage (s : Stage) : items ("    " ++ stage s ++ ";") = [] := by
  cases s with
  | basic => decide
  | stage1 predecessor =>
      exact items_macro (.literal (by decide)) (oneLine_quoted _) (.literal (by decide))
        ⟨'s', _, rfl, rfl⟩
  | stage2 predecessor =>
      exact items_macro (.literal (by decide)) (oneLine_quoted _) (.literal (by decide))
        ⟨'s', _, rfl, rfl⟩

@[simp] theorem items_weakness (modifiers : List Modifier) :
    items ("    " ++ weakness modifiers ++ ";") = [] := by
  rw [weakness]
  split
  · decide
  · exact items_macro (.literal (by decide)) (oneLine_energies _) (.literal (by decide))
      ⟨'w', _, rfl, rfl⟩

@[simp] theorem items_resistance (options : Options) (modifiers : List Modifier) :
    items ("    " ++ resistance options modifiers ++ ";") = [] := by
  rw [resistance]
  split
  · decide
  · have types : OneLine ("resists!(" ++ energies (modifiers.map Modifier.energy) ++ ", ") :=
      (MadeOf.append (.literal (by decide)) (oneLine_energies _)).append (.literal (by decide))
    have first : Begins isQuiet "resists!(".toList := ⟨'r', _, rfl, rfl⟩
    exact items_macro types (oneLine_amount _) (.literal (by decide))
      ((first.text_append _).text_append _)

theorem items_metadata (options : Options) (read : ReadCard) :
    ∀ item ∈ metadata options read, items ("    " ++ item ++ ";") = [] := by
  intro item inside
  simp only [metadata, List.mem_cons, List.not_mem_nil, or_false] at inside
  rcases inside with rfl | rfl | rfl | rfl | rfl | rfl | rfl | rfl
  · exact items_identifier _
  · exact items_macro (.literal (by decide)) (oneLine_quoted _) (.literal (by decide))
      ⟨'c', _, rfl, rfl⟩
  · exact items_stage _
  · exact items_macro (.literal (by decide)) (oneLine_amount _) (.literal (by decide))
      ⟨'h', _, rfl, rfl⟩
  · exact items_macro (.literal (by decide)) (oneLine_energies _) (.literal (by decide))
      ⟨'c', _, rfl, rfl⟩
  · exact items_weakness _
  · exact items_resistance options _
  · exact items_macro (.literal (by decide)) (oneLine_amount _) (.literal (by decide))
      ⟨'r', _, rfl, rfl⟩

@[simp] theorem items_actions : actions.flatMap items = [] := by
  rw [List.flatMap_eq_nil_iff]
  intro line inside
  simp only [actions, List.mem_cons, List.not_mem_nil, or_false] at inside
  rcases inside with rfl | rfl | rfl | rfl | rfl | rfl | rfl
  · rfl
  all_goals exact items_of_quiet_line (.literal (by decide)) (.literal ⟨_, _, rfl, rfl⟩)

def procedureNames (attacks : List ReadAttack) : List String :=
  uniqueAll [] (attacks.map fun read => procedureName read.attack.name)

@[simp] theorem length_procedureNames (attacks : List ReadAttack) :
    (procedureNames attacks).length = attacks.length := by
  simp [procedureNames]

theorem nodup_procedureNames (attacks : List ReadAttack) : (procedureNames attacks).Nodup :=
  nodup_uniqueAll [] _

theorem procedures_eq (attacks : List ReadAttack) :
    procedures attacks = List.zipWith Procedure.mk (procedureNames attacks) attacks := rfl

theorem isIdent_of_mem_procedures {attacks : List ReadAttack} {procedure : Procedure}
    (h : procedure ∈ procedures attacks) : IsIdent procedure.name := by
  rw [procedures_eq, ← List.map_uncurry_zip_eq_zipWith] at h
  obtain ⟨pair, inside, rfl⟩ := List.mem_map.mp h
  apply IsIdent.uniqueAll _ _ (List.of_mem_zip inside).1
  intro ident listed
  obtain ⟨read, -, rfl⟩ := List.mem_map.mp listed
  exact isIdent_procedureName read.attack.name

@[simp] theorem items_entries (attacks : List ReadAttack) :
    (attackList (procedures attacks)).flatMap items =
      List.zipWith entryItem (procedureNames attacks) attacks := by
  rw [items_attackList fun procedure => isIdent_of_mem_procedures, procedures_eq,
    List.map_zipWith]

@[simp] theorem items_definitions (options : Options) (attacks : List ReadAttack) :
    ((procedures attacks).flatMap (definition options)).flatMap items =
      (List.zipWith procedureItems (procedureNames attacks) attacks).flatten := by
  have each : ∀ procedure ∈ procedures attacks, (definition options procedure).flatMap items =
      procedureItems procedure.name procedure.attack := fun procedure inside =>
    items_definition options (isIdent_of_mem_procedures inside)
  rw [List.flatMap_assoc, List.flatMap_def, List.map_congr_left each, procedures_eq,
    List.map_zipWith]

theorem outline_block (options : Options) {name : String} (h : IsIdent name) (read : ReadCard) :
    outline (text (cardLines options name read)) =
      cardItems name (procedureNames read.attacks) read.attacks := by
  have derived : items "#[derive(Default)]" = [] := by decide
  have attacks : items "    fn attacks(&self) -> Vec<Attack> \x7b" = [] := by decide
  have inner : items "    \x7d" = [] := by decide
  have outer : items "\x7d" = [] := by decide
  have metadata :
      ((metadata options read).map fun item => "    " ++ item ++ ";").flatMap items = [] := by
    rw [List.flatMap_map, List.flatMap_eq_nil_iff]
    exact items_metadata options read
  simp [cardLines, cardItems, derived, attacks, inner, outer, metadata, items_declares h,
    items_implements h, items_inherent h]

theorem outline_registry {names : List String} (h : ∀ name ∈ names, IsIdent name) :
    outline (text (registry names)) = .procedure "build" :: names.map .listed := by
  have build : items "pub fn build() -> Vec<(String, Box<dyn CardArchetype>)> \x7b" =
      [.procedure "build"] := by decide
  have entries :
      items "    let mut entries: Vec<(String, Box<dyn CardArchetype>)> = vec![];" = [] :=
    items_of_quiet_line (.literal (by decide)) (.literal ⟨'l', _, rfl, rfl⟩)
  have each : items "    for boxed in [" = [] := by decide
  have loop : items "    ] \x7b" = [] := by decide
  have push : items "        entries.push((boxed.identifier(), boxed));" = [] := by decide
  have inner : items "    \x7d" = [] := by decide
  have result : items "    entries" = [] := by decide
  have outer : items "\x7d" = [] := by decide
  have lists :
      (names.map fun name => "        Pokemon::create::<" ++ name ++ ">(),").flatMap items =
        names.map .listed := by
    rw [List.flatMap_map, List.flatMap_congr fun name inside => items_listed (h name inside),
      List.map_eq_flatMap]
  rw [outline_text, registry]
  simp only [List.flatMap_append, List.flatMap_cons, List.flatMap_nil, build, entries, each, loop,
    push, inner, result, outer, lists, List.append_nil, List.nil_append, List.cons_append]

def headerLine (set : CardSet) : String :=
  "// Generated by cardgen from the " ++ quoted set.name ++ " dataset (" ++ set.shortCode ++
    "). Do not edit by hand."

@[simp] theorem header_eq (set : CardSet) : header set = [headerLine set, ""] := by
  unfold header headerLine
  rfl

theorem oneLine_headerLine {set : CardSet} (h : OneLine set.shortCode) :
    OneLine (headerLine set) := by
  unfold headerLine
  exact ((((MadeOf.literal (by decide)).append (oneLine_quoted _)).append (.literal
    (by decide))).append h).append (.literal (by decide))

theorem items_headerLine {set : CardSet} (h : OneLine set.shortCode) :
    items (headerLine set) = [] := by
  apply items_of_quiet_line (oneLine_headerLine h)
  unfold headerLine
  simp only [String.append_assoc]
  exact Begins.text_append ⟨'/', _, rfl, rfl⟩ _

@[simp] theorem items_blank : items "" = [] := by decide

@[simp] theorem items_prelude : prelude.flatMap items = [] := by decide

theorem outline_prelude {set : CardSet} (h : OneLine set.shortCode) :
    outline (text (header set ++ prelude)) = [] := by
  simp [items_headerLine h]

@[simp] theorem text_cons (line : String) (list : List String) :
    text (line :: list) = line ++ "\n" ++ text list := by
  simp [text]

@[simp] theorem text_append (front back : List String) :
    text (front ++ back) = text front ++ text back := by
  simp [text]

def block (options : Options) (name : String) (card : ReadCard) : String × String :=
  (name, text (cardLines options name card))

theorem text_blocks (options : Options) (names : List String) (cards : List ReadCard) :
    text (List.zipWith (fun name card => "" :: cardLines options name card) names cards).flatten =
      String.join ((List.zipWith (block options) names cards).map fun block =>
        "\n" ++ block.2) := by
  induction names generalizing cards with
  | nil => rfl
  | cons name names ih =>
      cases cards with
      | nil => rfl
      | cons card cards =>
          simp [block, ih, String.append_assoc]

theorem items_blocks (options : Options) (names : List String) (cards : List ReadCard) :
    (List.zipWith (fun name card => "" :: cardLines options name card) names cards).flatten.flatMap
        items =
      (List.zipWith (block options) names cards).flatMap fun block => outline block.2 := by
  induction names generalizing cards with
  | nil => rfl
  | cons name names ih =>
      cases cards with
      | nil => rfl
      | cons card cards =>
          simp [block, ih]

theorem forall₂_zipWith {α β γ : Type} {R : α → γ → Prop} {f : β → α → γ} {xs : List α}
    {ys : List β} (len : ys.length = xs.length) (h : ∀ x ∈ xs, ∀ y ∈ ys, R x (f y x)) :
    List.Forall₂ R xs (List.zipWith f ys xs) := by
  induction xs generalizing ys with
  | nil => cases ys <;> exact .nil
  | cons x xs ih =>
      cases ys with
      | nil => cases len
      | cons y ys =>
          refine .cons (h x (by simp) y (by simp)) (ih (Nat.succ.inj len) ?_)
          intro x' inside y' listed
          exact h x' (by simp [inside]) y' (by simp [listed])

theorem map_fst_blocks (options : Options) {names : List String} {cards : List ReadCard}
    (h : names.length = cards.length) :
    (List.zipWith (block options) names cards).map Prod.fst = names := by
  rw [List.map_zipWith, ← List.map_uncurry_zip_eq_zipWith]
  exact List.map_fst_zip h.le

theorem isIdent_of_mem_structNames {read : ReadSet} {name : String}
    (h : name ∈ structNames read) : IsIdent name := by
  apply IsIdent.uniqueAll _ name h
  intro ident listed
  obtain ⟨card, -, rfl⟩ := List.mem_map.mp listed
  exact isIdent_structName card.card.name card.card.number

@[simp] theorem length_structNames (read : ReadSet) :
    (structNames read).length = read.cards.length := by
  simp [structNames]

/-- A unit defines each of its names once. Between the prelude and the registry stands a block
for each card in order; the names of the structs are distinct, and so are, within a block, the
procedures of its attacks. Nothing else is defined if the short code of the set is one line. -/
theorem contents_distinct_names (options : Options) (read : ReadSet) :
    ∃ blocks : List (String × String),
      (set options read).contents =
        text (header read.set ++ prelude) ++
          String.join (blocks.map fun block => "\n" ++ block.2) ++
          ("\n" ++ text (registry (blocks.map Prod.fst))) ∧
      (blocks.map Prod.fst).Nodup ∧
      outline (text (registry (blocks.map Prod.fst))) =
        .procedure "build" :: blocks.map (fun block => .listed block.1) ∧
      List.Forall₂ (fun card block => ∃ procedures : List String,
        procedures.Nodup ∧ procedures.length = card.attacks.length ∧
          outline block.2 = cardItems block.1 procedures card.attacks) read.cards blocks ∧
      outline (set options read).contents =
        outline (text (header read.set ++ prelude)) ++
          blocks.flatMap (fun block => outline block.2) ++
          outline (text (registry (blocks.map Prod.fst))) ∧
      (OneLine read.set.shortCode → outline (text (header read.set ++ prelude)) = []) := by
  have len := length_structNames read
  have names := map_fst_blocks options len
  have ident : ∀ name ∈ structNames read, IsIdent name := fun _ => isIdent_of_mem_structNames
  have listed : (structNames read).map Item.listed =
      (List.zipWith (block options) (structNames read) read.cards).map fun block =>
        .listed block.1 := by
    conv_lhs => rw [← names, List.map_map]
    rfl
  refine ⟨List.zipWith (block options) (structNames read) read.cards, ?_, ?_, ?_, ?_, ?_,
    outline_prelude⟩
  · rw [names, ← text_blocks]
    simp [set, contents, String.append_assoc]
  · rw [names]
    exact nodup_uniqueAll [] _
  · rw [names, ← listed]
    exact outline_registry ident
  · apply forall₂_zipWith len
    intro card _ name listed
    refine ⟨procedureNames card.attacks, nodup_procedureNames card.attacks,
      length_procedureNames card.attacks, ?_⟩
    simp only [block]
    exact outline_block options (ident name listed) card
  · rw [names, ← items_blocks]
    simp only [set, contents, outline_text, List.flatMap_append, List.flatMap_cons, items_blank,
      List.nil_append]

def tradedAs (name code : String) : ReadSet :=
  ⟨⟨name, some code, none⟩,
    [⟨⟨name, "pokemon", ["Basic"], some 30, [], [], [], [], none, [], ⟨name, some code, none⟩, "1"⟩,
      .basic, 30, []⟩], .empty⟩

theorem contents_distinct_names_traded :
    OneLine (tradedAs "Jungle" "JU").set.shortCode ∧
      outline (text (header (tradedAs "Jungle" "JU").set ++ prelude)) = [] := by
  have one : OneLine (tradedAs "Jungle" "JU").set.shortCode := .literal (by decide)
  obtain ⟨_, -, -, -, -, -, quiet⟩ := contents_distinct_names {} (tradedAs "Jungle" "JU")
  exact ⟨one, quiet one⟩

end CardText.Emit
