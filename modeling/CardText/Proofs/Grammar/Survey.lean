import CardText.Grammar
import CardText.Proofs.Template.Slots

/-! What computation shows of the grammar. Two of its shapes clash only where a rule of
own damage counters meets the last rule, no shape clashes with itself, and each rule with
triggers has a piece that brings one of them into the text.

The literals are opened by rewriting before the computation: the kernel would walk through
the bytes of each one. For the same reason the equations below are no steps by `rfl`. -/
namespace CardText

open Grammar

def Rule.accepts (rule : Rule) (text : String) : Bool := (rule.template.bind? text).isSome

def Piece.announces (trigger : Trigger) : Piece → Bool
  | text literal => trigger.isIn literal.toList
  | number _ => trigger == .digits
  | _ => false

def Rule.announced (rule : Rule) : Bool :=
  rule.triggers.isEmpty ||
    rule.triggers.any fun trigger => rule.template.any (Piece.announces trigger)

/-- The pairs of positions whose shapes clash, a shape against itself included: there the
question is whether its slots can differ, elsewhere whether there is a common text at all. -/
def Shape.clashes (shapes : List Shape) : List (Nat × Nat) :=
  shapes.zipIdx.flatMap fun (a, i) =>
    (shapes.zipIdx.filter fun (b, j) => decide (i ≤ j) && a.clash (i != j) b).map
      fun (_, j) => (i, j)

theorem Shape.mem_clashes {shapes : List Shape} {i j : Nat} {a b : Shape}
    (ha : shapes[i]? = some a) (hb : shapes[j]? = some b) (hij : i ≤ j)
    (h : a.clash (i != j) b = true) : (i, j) ∈ clashes shapes := by
  refine List.mem_flatMap.mpr ⟨(a, i), List.mk_mem_zipIdx_iff_getElem?.mpr ha, ?_⟩
  refine List.mem_map.mpr ⟨(b, j), List.mem_filter.mpr ⟨?_, ?_⟩, rfl⟩
  · exact List.mk_mem_zipIdx_iff_getElem?.mpr hb
  · simp [hij, h]

theorem Shape.spellOneOf_nil (slot : Option String) (next : Shape) :
    spellOneOf slot [] next = .never := by
  rw [spellOneOf, List.foldr_nil]

theorem Shape.spellOneOf_cons (slot : Option String) (first : String) (others : List String)
    (next : Shape) :
    spellOneOf slot (first :: others) next =
      .either (spell slot first.toList next) (spellOneOf slot others next) := by
  rw [spellOneOf, List.foldr_cons, ← spellOneOf]

theorem Template.shape_nil : shape [] = .stop := by
  rw [shape, List.foldr_nil]

theorem Template.shape_cons (piece : Piece) (template : Template) :
    shape (piece :: template) = piece.shape template.shape := by
  rw [shape, List.foldr_cons, ← shape]

theorem Piece.shape_text (literal : String) (next : Shape) :
    (text literal).shape next = .spell none literal.toList next := by
  rw [shape]

theorem Piece.shape_oneOf (spellings : List String) (next : Shape) :
    (oneOf spellings).shape next = .spellOneOf none spellings next := by
  rw [shape]

theorem Piece.shape_status (slot : String) (choices : List Status) (next : Shape) :
    (status slot choices).shape next =
      .spellOneOf (some slot) (choices.map Status.name) next := by
  rw [shape]

theorem Piece.shape_number (slot : String) (next : Shape) :
    (number slot).shape next = .one .digit (some slot) (.many .digit (some slot) next) := by
  rw [shape]

theorem Piece.shape_word (slot : String) (next : Shape) :
    (word slot).shape next = .one .word (some slot) (.many .word (some slot) next) := by
  rw [shape]

theorem Piece.shape_creature (next : Shape) :
    creature.shape next =
      .either (.spell none "Mr. ".toList (.name next)) (.name next) := by
  rw [shape]

theorem Piece.announces_text (trigger : Trigger) (literal : String) :
    (text literal).announces trigger = trigger.isIn literal.toList := by
  rw [announces]

/-- A list that begins with a rule by its name is unified with one that begins with a structure:
rewriting along this opens the rules of the grammar one by one. -/
theorem Rule.map_mk {α : Type} (f : List Trigger → Template → α) (name : String)
    (template : Template) (triggers : List Trigger) (usesDamage : Bool) (examples : List String)
    (build : Bindings → Option Nat → Option Script) (rules : List Rule) :
    (⟨name, template, triggers, usesDamage, examples, build⟩ :: rules).map
        (fun rule => f rule.triggers rule.template) =
      f triggers template :: rules.map fun rule => f rule.triggers rule.template := rfl

theorem grammar_clashes :
    Shape.clashes (grammar.map fun rule => rule.template.shape) =
      [(16, 45), (17, 45), (19, 45)] := by
  unfold grammar
  -- each round unfolds the next rule, so that its literals stand open
  repeat erw [Rule.map_mk fun _ template => template.shape]
  simp only [typedCost, List.map_nil, List.cons_append, List.nil_append]
  simp only [Template.shape_nil, Template.shape_cons, Piece.shape_text, Piece.shape_oneOf,
    Piece.shape_status, Piece.shape_number, Piece.shape_word, Piece.shape_creature,
    Status.all, List.map_cons, List.map_nil, Status.name]
  simp only [Shape.spellOneOf_nil, Shape.spellOneOf_cons]
  repeat rw [String.toList_ofList]
  decide +kernel

theorem grammar_announced : grammar.all Rule.announced = true := by
  have wordings : grammar.all Rule.announced =
      (grammar.map fun rule => (rule.triggers, rule.template)).all fun (triggers, template) =>
        triggers.isEmpty ||
          triggers.any fun trigger => template.any (Piece.announces trigger) := by
    rw [List.all_map]
    rfl
  rw [wordings]
  unfold grammar
  repeat erw [Rule.map_mk Prod.mk]
  simp only [typedCost, List.map_nil, List.cons_append, List.nil_append]
  simp only [List.all_cons, List.all_nil, List.any_cons, List.any_nil, Piece.announces_text]
  repeat rw [String.toList_ofList]
  decide +kernel

theorem getElem?_shapes {rule : Rule} {i : Nat} (h : grammar[i]? = some rule) :
    (grammar.map fun rule => rule.template.shape)[i]? = some rule.template.shape := by
  rw [List.getElem?_map, h, Option.map_some]

theorem grammar_not_clash_self {rule : Rule} (h : rule ∈ grammar) :
    rule.template.shape.clash false rule.template.shape = false := by
  obtain ⟨i, hi⟩ := List.mem_iff_getElem?.mp h
  by_contra hclash
  rw [Bool.not_eq_false] at hclash
  have hshape := getElem?_shapes hi
  have hmem := Shape.mem_clashes hshape hshape (Nat.le_refl i) (by simpa using hclash)
  rw [grammar_clashes] at hmem
  simp at hmem
  omega

theorem grammar_slots_nodup : ∀ rule ∈ grammar, rule.template.slots.Nodup := by
  decide +kernel

theorem grammar_names_nodup : (grammar.map Rule.name).Nodup := by
  decide +kernel

theorem grammar_overlap {i j : Nat} {first second : Rule} {text : String} (hij : i < j)
    (hfirst : grammar[i]? = some first) (hsecond : grammar[j]? = some second)
    (h : first.accepts text = true) (h' : second.accepts text = true) :
    (i, j) ∈ [(16, 45), (17, 45), (19, 45)] := by
  obtain ⟨parts, hparts⟩ := (first.template.isSome_bind?_iff text).mp h
  obtain ⟨others, hothers⟩ := (second.template.isSome_bind?_iff text).mp h'
  have hclash : first.template.shape.clash true second.template.shape = true := by
    by_contra hclash
    rw [Bool.not_eq_true] at hclash
    exact Template.not_fills_of_clash hclash hparts hothers
  rw [← grammar_clashes]
  refine Shape.mem_clashes (getElem?_shapes hfirst) (getElem?_shapes hsecond) (Nat.le_of_lt hij) ?_
  rwa [bne_iff_ne.mpr (Nat.ne_of_lt hij)]

end CardText
