import CardText.Proofs.Coverage.Placeholders
import CardText.Proofs.Wording.NormalForm

/-! Fragments are anonymous. A fragment is cut out of the text between characters that belong to no
word, so its words are words of the text, where the placeholders have left no number, type or
condition. Neither the cuts nor the owner's name can bring one back. -/
namespace CardText.Fragment

def Undivided (clause : List Char) : Prop :=
  ∀ mark, endsClause mark = true → ¬ [mark, ' '] <:+: clause

/-- A text and its clauses, each but the last followed by a mark and a blank. -/
inductive Divided : List Char → List (List Char) → Prop
  | last {clause : List Char} (undivided : Undivided clause) : Divided clause [clause]
  | next {clause rest : List Char} {mark : Char} {more : List (List Char)}
      (undivided : Undivided clause) (ends : endsClause mark = true) (behind : Divided rest more) :
      Divided (clause ++ mark :: ' ' :: rest) (clause :: more)

section

variable {text clause part fragment rest token : List Char} {more : List (List Char)} {c d : Char}

theorem undivided_nil : Undivided [] := fun _ _ inside => by simp at inside

theorem undivided_singleton (c : Char) : Undivided [c] := fun _ _ inside => by
  simpa using inside.length_le

theorem Undivided.cons (h : Undivided clause)
    (other : ∀ d ∈ clause.head?, (endsClause c && d == ' ') = false) : Undivided (c :: clause) := by
  intro mark ends inside
  rcases List.infix_cons_iff.mp inside with starts | inside
  · obtain ⟨rest, split⟩ := starts
    obtain ⟨rfl, rfl⟩ := List.cons_eq_cons.mp split
    have parted := other ' ' rfl
    rw [ends] at parted
    exact Bool.noConfusion parted
  · exact h mark ends inside

theorem Divided.ne_nil {list : List (List Char)} (h : Divided text list) : list ≠ [] := by
  cases h with
  | last => exact List.cons_ne_nil _ _
  | next => exact List.cons_ne_nil _ _

theorem Divided.cons (h : Divided (d :: rest) (clause :: more))
    (other : (endsClause c && d == ' ') = false) :
    Divided (c :: d :: rest) ((c :: clause) :: more) := by
  generalize split : d :: rest = text at h
  cases h with
  | last undivided =>
      subst split
      exact .last (undivided.cons fun e first => Option.some.inj first ▸ other)
  | next undivided ends behind =>
      rw [← List.cons_append]
      refine .next (undivided.cons fun e first => ?_) ends behind
      obtain ⟨others, rfl⟩ := List.head?_eq_some_iff.mp first
      exact (List.cons_eq_cons.mp split).1 ▸ other

theorem divided_clauses (text : List Char) : Divided text (clauses text) := by
  fun_induction clauses text with
  | case1 => exact .last undivided_nil
  | case2 c => exact .last (undivided_singleton c)
  | case3 c d rest both ih =>
      obtain ⟨ends, blank⟩ := Bool.and_eq_true_iff.mp both
      obtain rfl := beq_iff_eq.mp blank
      exact .next undivided_nil ends ih
  | case4 c d rest both none ih => exact absurd none ih.ne_nil
  | case5 c d rest both clause more some ih =>
      rw [some] at ih
      exact ih.cons (Bool.eq_false_iff.mpr both)

theorem any_getLast?_append {p : Char → Bool} {front back : List Char}
    (hf : front.getLast?.any p = false) (hb : back.getLast?.any p = false) :
    (front ++ back).getLast?.any p = false := by
  rw [List.getLast?_append]
  cases last : back.getLast? with
  | none => exact hf
  | some c => rwa [last] at hb

theorem any_head?_append {p : Char → Bool} {front back : List Char}
    (hf : front.head?.any p = false) (hb : back.head?.any p = false) :
    (front ++ back).head?.any p = false := by
  rw [List.head?_append]
  cases first : front.head? with
  | none => exact hb
  | some c => rwa [first] at hf

def StandsFree (part text : List Char) : Prop :=
  ∃ front back, text = front ++ (part ++ back) ∧
    front.getLast?.any Unicode.isWord = false ∧ back.head?.any Unicode.isWord = false

namespace StandsFree

theorem isInfix (h : StandsFree part text) : part <:+: text := by
  obtain ⟨front, back, rfl, -, -⟩ := h
  exact ⟨front, back, List.append_assoc ..⟩

theorem mem_tokens (h : StandsFree part text) (inside : token ∈ tokens part) :
    token ∈ tokens text := by
  obtain ⟨front, back, rfl, starts, ends⟩ := h
  have before : Cut front (part ++ back) := cut_iff.mpr (by rw [starts, Bool.false_and])
  have behind : Cut part back := cut_iff.mpr (by rw [ends, Bool.and_false])
  rw [tokens_append before, tokens_append behind]
  exact List.mem_append_right _ (List.mem_append_left _ inside)

theorem behind (h : StandsFree part rest) (front : List Char)
    (other : front.getLast?.any Unicode.isWord = false) : StandsFree part (front ++ rest) := by
  obtain ⟨lead, back, rfl, starts, ends⟩ := h
  exact ⟨front ++ lead, back, (List.append_assoc ..).symm, any_getLast?_append other starts, ends⟩

theorem dropWhile {p : Char → Bool} (other : ∀ c ∈ text, p c = true → Unicode.isWord c = false) :
    StandsFree (text.dropWhile p) text := by
  refine ⟨text.takeWhile p, [], by simp, ?_, rfl⟩
  refine (Option.any_eq_false _ _).mpr fun c last => ?_
  have inside := List.mem_of_getLast? last
  exact other c ((List.takeWhile_prefix p).subset inside) (List.mem_takeWhile_imp inside)

theorem dropEnd {p : Char → Bool} (other : ∀ c ∈ text, p c = true → Unicode.isWord c = false) :
    StandsFree (Text.dropEnd p text) text := by
  refine ⟨[], text.rtakeWhile p, List.rdropWhile_append_rtakeWhile.symm, rfl, ?_⟩
  refine (Option.any_eq_false _ _).mpr fun c first => ?_
  have inside := List.mem_of_mem_head? first
  exact other c ((List.rtakeWhile_suffix p text).subset inside) (List.mem_rtakeWhile_imp inside)

theorem trans {outer : List Char} (h : StandsFree fragment part) (h' : StandsFree part outer) :
    StandsFree fragment outer := by
  obtain ⟨lead, tail, rfl, starts, ends⟩ := h
  obtain ⟨front, back, rfl, before, after⟩ := h'
  exact ⟨front ++ lead, tail ++ back, by simp, any_getLast?_append before starts,
    any_head?_append ends after⟩

end StandsFree

theorem isWord_of_endsClause (h : endsClause c = true) : Unicode.isWord c = false := by
  rw [endsClause, Bool.or_eq_true, beq_iff_eq, beq_iff_eq] at h
  rcases h with rfl | rfl <;> decide

@[simp] theorem isWord_blank : Unicode.isWord ' ' = false := by decide

theorem clause_standsFree {list : List (List Char)} (h : Divided text list)
    (listed : clause ∈ list) : StandsFree clause text ∧ Undivided clause := by
  induction h with
  | last undivided =>
      obtain rfl := List.mem_singleton.mp listed
      exact ⟨⟨[], [], by simp, rfl, rfl⟩, undivided⟩
  | @next first rest mark more undivided ends _ ih =>
      rcases List.mem_cons.mp listed with rfl | listed
      · exact ⟨⟨[], mark :: ' ' :: rest, rfl, rfl, isWord_of_endsClause ends⟩, undivided⟩
      · obtain ⟨free, undivided⟩ := ih listed
        have split : first ++ mark :: ' ' :: rest = (first ++ [mark, ' ']) ++ rest := by simp
        rw [split]
        exact ⟨free.behind _ (by simp), undivided⟩

theorem isSpace_of_mem_placeholders {name : String} (hspace : Unicode.isSpace c = true)
    (normal : Wording.IsNormal text) (h : c ∈ placeholders name text) : c = ' ' := by
  have other {placeholder : String} (letters : placeholder.toList.all Char.isAlphanum = true) :
      c ∉ placeholder.toList := by
    intro inside
    have alone := Unicode.isSpace_of_isAlphanum (List.all_eq_true.mp letters c inside)
    exact Bool.noConfusion (hspace.symm.trans alone)
  rw [placeholders_eq] at h
  have h := ((mem_shape h).resolve_left (other (by decide))).resolve_left (other (by decide))
  have h := (Text.mem_or_mem_of_mem_replace h).resolve_left (other (by decide))
  rw [hideName] at h
  split at h
  · exact normal.plain c h hspace
  · have h := (Text.mem_or_mem_of_mem_replace h).resolve_left (other (by decide))
    exact normal.plain c h hspace

def tidied (clause : List Char) : List Char := Text.trim (Text.dropEnd endsClause clause)

theorem tidied_standsFree (plain : ∀ c ∈ clause, Unicode.isSpace c = true → c = ' ') :
    StandsFree (tidied clause) clause := by
  have marks : StandsFree (Text.dropEnd endsClause clause) clause :=
    .dropEnd fun c _ => isWord_of_endsClause
  have blank {part : List Char} (h : part <:+: clause) :
      ∀ c ∈ part, Unicode.isSpace c = true → Unicode.isWord c = false := fun c inside space =>
    plain c (h.subset inside) space ▸ isWord_blank
  have front := StandsFree.dropWhile (blank marks.isInfix)
  have back := StandsFree.dropEnd (blank (front.trans marks).isInfix)
  exact back.trans (front.trans marks)

theorem exists_dropEnd_append (drop : Char → Bool) (text : List Char) :
    ∃ tail, text = Text.dropEnd drop text ++ tail ∧ ∀ c ∈ tail, drop c = true :=
  ⟨_, List.rdropWhile_append_rtakeWhile.symm, fun _ => List.mem_rtakeWhile_imp⟩

theorem dropEnd_last {drop : Char → Bool} :
    ∀ c ∈ (Text.dropEnd drop text).getLast?, drop c = false := by
  intro c last
  obtain ⟨some, rfl⟩ := List.mem_getLast?_eq_getLast last
  exact Bool.eq_false_iff.mpr (List.rdropWhile_last_not drop text some)

theorem tidied_last (undivided : Undivided clause)
    (plain : ∀ c ∈ clause, Unicode.isSpace c = true → c = ' ') :
    ∀ c ∈ (tidied clause).getLast?, endsClause c = false := by
  intro c last
  obtain ⟨lead, kept⟩ := List.getLast?_eq_some_iff.mp last
  obtain ⟨marks, outer, -⟩ := exists_dropEnd_append endsClause clause
  obtain ⟨front, middle⟩ :=
    List.dropWhile_suffix Unicode.isSpace (l := Text.dropEnd endsClause clause)
  obtain ⟨blanks, inner, spaces⟩ := exists_dropEnd_append Unicode.isSpace
    ((Text.dropEnd endsClause clause).dropWhile Unicode.isSpace)
  rw [← Text.trim, ← tidied, kept] at inner
  rw [inner] at middle
  cases blanks with
  | nil =>
      have stop : c ∈ (Text.dropEnd endsClause clause).getLast? := by simp [← middle]
      exact dropEnd_last c stop
  | cons blank blanks =>
      have split : clause = front ++ lead ++ c :: blank :: (blanks ++ marks) := by
        rw [outer, ← middle]
        simp
      obtain rfl := plain blank (by simp [split]) (spaces blank List.mem_cons_self)
      rw [← Bool.not_eq_true]
      intro ends
      exact undivided c ends ⟨front ++ lead, blanks ++ marks, by simp [split]⟩

/-- A fragment is neat, and tells neither a number nor a type nor a condition. -/
structure IsAnonymous (fragment : List Char) : Prop where
  ne_nil : fragment ≠ []
  head : ∀ c ∈ fragment.head?, Unicode.isSpace c = false
  last : ∀ c ∈ fragment.getLast?, Unicode.isSpace c = false ∧ endsClause c = false
  undivided : Undivided fragment
  no_digit : ∀ c ∈ fragment, c.isDigit = false
  no_type : ∀ energy : Energy, ¬ HasWord fragment energy.name.toList
  no_status : ∀ status : Status, ¬ HasWord fragment status.name.toList

theorem isAnonymous_tidied {name : String} (normal : Wording.IsNormal text)
    (listed : clause ∈ clauses (placeholders name text)) (some : tidied clause ≠ []) :
    IsAnonymous (tidied clause) := by
  obtain ⟨clauseFree, undivided⟩ := clause_standsFree (divided_clauses _) listed
  have plain : ∀ c ∈ clause, Unicode.isSpace c = true → c = ' ' := fun c inside space =>
    isSpace_of_mem_placeholders space normal (clauseFree.isInfix.subset inside)
  have tidiedFree := tidied_standsFree plain
  have free := tidiedFree.trans clauseFree
  rw [placeholders_eq] at free
  have words {token : List Char} (isWord : IsWord token) (has : HasWord (tidied clause) token) :=
    notMem_of_mem_tokens_shape (free.mem_tokens ((hasWord_iff_mem_tokens isWord).mp has))
  exact {
    ne_nil := some
    head := Text.trim_head _
    last := fun c last => ⟨Text.trim_last _ c last, tidied_last undivided plain c last⟩
    undivided := fun mark ends inside => undivided mark ends (inside.trans tidiedFree.isInfix)
    no_digit := fun c inside => isDigit_of_mem_shape (free.isInfix.subset inside)
    no_type := fun energy has =>
      (words (isWord_of_mem_typeNames _ (mem_typeNames energy)) has).1 (mem_typeNames energy)
    no_status := fun status has => (words (isWord_of_mem_statusNames _ (mem_statusNames status))
      has).2 (mem_statusNames status) }

theorem mem_ofText {text name fragment : String} :
    fragment ∈ ofText text name ↔
      ∃ clause ∈ clauses (placeholders name (Wording.normalizeChars text.toList)),
        tidied clause ≠ [] ∧ String.ofList (tidied clause) = fragment := by
  simp [ofText, tidied, and_assoc]

/-- Whatever the wording and whoever its owner, each fragment is anonymous. -/
theorem isAnonymous_of_mem_ofText (text name : String) :
    ∀ fragment ∈ ofText text name, IsAnonymous fragment.toList := by
  intro fragment listed
  obtain ⟨clause, listed, some, spelled⟩ := mem_ofText.mp listed
  have anonymous := isAnonymous_tidied (Wording.isNormal_normalizeChars text.toList) listed some
  rw [← spelled, String.toList_ofList]
  exact anonymous

theorem isAnonymous_discard :
    "discard X TYPE Energy" ∈ ofText "Flip 2 coins; discard 1 Fire Energy." "Mew" ∧
      IsAnonymous "discard X TYPE Energy".toList := by
  have listed : "discard X TYPE Energy" ∈ ofText "Flip 2 coins; discard 1 Fire Energy." "Mew" := by
    decide +kernel
  exact ⟨listed, isAnonymous_of_mem_ofText _ _ _ listed⟩

end

end CardText.Fragment
