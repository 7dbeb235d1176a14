import CardText.Template

/-! The shapes of texts, character by character. A shape admits one letter of a class, or any
number of them, or branches; each letter carries the slot that it belongs to, if any.
`Shape.clash` follows two shapes along one text. If two readings of a text exist at all, or
exist with different slots, it says so; it may also say so for nothing, since two classes
that are no single letters always count as overlapping. -/
namespace CardText

inductive Letters where
  | just (c : Char)
  | digit | word | capital | inName
  deriving Repr

namespace Letters

def holds : Letters → Char → Bool
  | just d, c => c == d
  | digit, c => c.isDigit
  | word, c => Unicode.isWord c
  | capital, c => Unicode.isUppercaseLetter c
  | inName, c => isNameChar c

def meets : Letters → Letters → Bool
  | just c, b => b.holds c
  | a, just c => a.holds c
  | _, _ => true

theorem meets_of_holds {a b : Letters} {c : Char} (ha : a.holds c = true)
    (hb : b.holds c = true) : a.meets b = true := by
  cases a with
  | just d =>
      have hd : c = d := by simpa [holds] using ha
      rw [meets, ← hd, hb]
  | digit => cases b <;> simp_all [meets, holds]
  | word => cases b <;> simp_all [meets, holds]
  | capital => cases b <;> simp_all [meets, holds]
  | inName => cases b <;> simp_all [meets, holds]

end Letters

inductive Shape where
  | never
  | stop
  | one (letters : Letters) (slot : Option String) (next : Shape)
  | many (letters : Letters) (slot : Option String) (next : Shape)
  | either (first second : Shape)
  deriving Repr

abbrev Marked := List (Char × Option String)

namespace Shape

def Reads : Shape → Marked → Prop
  | never, _ => False
  | stop, m => m = []
  | one a p next, m => ∃ c rest, a.holds c = true ∧ next.Reads rest ∧ m = (c, p) :: rest
  | many a p next, m =>
      ∃ (run : List Char) (rest : Marked),
        (∀ c ∈ run, a.holds c = true) ∧ next.Reads rest ∧ m = run.map (·, p) ++ rest
  | either x y, m => x.Reads m ∨ y.Reads m

def mayStop : Shape → Bool
  | never => false
  | stop => true
  | one .. => false
  | many _ _ next => next.mayStop
  | either x y => x.mayStop || y.mayStop

/-- One letter of class `a` in slot `p` against a shape; `next` follows what comes behind the
letter, and `differ` tells whether the slots have differed before. -/
def oneAgainst (a : Letters) (p : Option String) (next : Bool → Shape → Bool) (differ : Bool) :
    Shape → Bool
  | never => false
  | stop => false
  | one b q ys => a.meets b && next (differ || p != q) ys
  | many b q ys =>
      (a.meets b && next (differ || p != q) (many b q ys)) || oneAgainst a p next differ ys
  | either y z => oneAgainst a p next differ y || oneAgainst a p next differ z

/-- Two runs side by side need no recursion of their own: sooner or later one of them ends. -/
def manyAgainst (a : Letters) (p : Option String) (next : Bool → Shape → Bool) :
    Bool → Shape → Bool
  | _, never => false
  | differ, stop => next differ stop
  | differ, one b q ys =>
      (a.meets b && manyAgainst a p next (differ || p != q) ys) || next differ (one b q ys)
  | differ, many b q ys =>
      next (differ || (a.meets b && p != q)) (many b q ys) ||
        manyAgainst a p next (differ || (a.meets b && p != q)) ys
  | differ, either y z => manyAgainst a p next differ y || manyAgainst a p next differ z

/-- Whether a text may have a reading in both shapes, with slots that differ somewhere unless
they have differed before. -/
def clash : Shape → Bool → Shape → Bool
  | never, _, _ => false
  | stop, differ, ys => differ && ys.mayStop
  | one a p xs, differ, ys => oneAgainst a p xs.clash differ ys
  | many a p xs, differ, ys => manyAgainst a p xs.clash differ ys
  | either x y, differ, ys => x.clash differ ys || y.clash differ ys

theorem reads_many {a : Letters} {p : Option String} {next : Shape} {m : Marked} :
    (many a p next).Reads m ↔
      next.Reads m ∨ ∃ c rest, a.holds c = true ∧ (many a p next).Reads rest ∧
        m = (c, p) :: rest := by
  constructor
  · rintro ⟨run, rest, hall, hrest, rfl⟩
    cases run with
    | nil => exact .inl hrest
    | cons c run =>
        have hrun : ∀ x ∈ run, a.holds x = true := fun x hx => hall x (by simp [hx])
        exact .inr ⟨c, _, hall c (by simp), ⟨run, rest, hrun, hrest, rfl⟩, rfl⟩
  · rintro (hnext | ⟨c, _, hc, ⟨run, rest, hall, hrest, rfl⟩, rfl⟩)
    · exact ⟨[], m, by simp, hnext, rfl⟩
    · exact ⟨c :: run, rest, by simpa [hc] using hall, hrest, rfl⟩

theorem mayStop_of_reads {shape : Shape} (h : shape.Reads []) : shape.mayStop = true := by
  induction shape with
  | never => exact h.elim
  | stop => rfl
  | one a p next => simp [Reads] at h
  | many a p next ih =>
      rcases reads_many.mp h with h | ⟨_, _, _, _, heq⟩
      · exact ih h
      · simp at heq
  | either x y ihx ihy =>
      rw [mayStop, Bool.or_eq_true]
      exact h.imp ihx ihy

/-- What the step lemmas ask of `next`: it notices two readings of one text, the first of
them in `xs`, that differ now or have differed before. -/
def Notices (next : Bool → Shape → Bool) (xs : Shape) : Prop :=
  ∀ {differ : Bool} {ys : Shape} {m n : Marked}, xs.Reads m → ys.Reads n →
    m.map Prod.fst = n.map Prod.fst → differ = true ∨ m ≠ n → next differ ys = true

theorem differ_tail {differ : Bool} {c d : Char} {p q : Option String} {m n : Marked}
    (same : ((c, p) :: m).map Prod.fst = ((d, q) :: n).map Prod.fst)
    (h : differ = true ∨ (c, p) :: m ≠ (d, q) :: n) : (differ || p != q) = true ∨ m ≠ n := by
  obtain ⟨rfl, _⟩ := List.cons.inj same
  by_cases hpq : p = q
  · simpa [hpq] using h
  · exact .inl (by simp [hpq])

theorem oneAgainst_of_reads {a : Letters} {p : Option String} {next : Bool → Shape → Bool}
    {xs ys : Shape} (hnext : Notices next xs) {differ : Bool} {c : Char} {m n : Marked}
    (hc : a.holds c = true) (hm : xs.Reads m) (hn : ys.Reads n)
    (same : ((c, p) :: m).map Prod.fst = n.map Prod.fst)
    (h : differ = true ∨ (c, p) :: m ≠ n) : oneAgainst a p next differ ys = true := by
  induction ys with
  | never => exact hn.elim
  | stop =>
      obtain rfl : n = [] := hn
      simp at same
  | one b q ys =>
      obtain ⟨d, n, hd, hn, rfl⟩ := hn
      obtain ⟨rfl, tails⟩ := List.cons.inj same
      rw [oneAgainst, Letters.meets_of_holds hc hd, Bool.true_and]
      exact hnext hm hn tails (differ_tail same h)
  | many b q ys ih =>
      rw [oneAgainst, Bool.or_eq_true, Bool.and_eq_true]
      rcases reads_many.mp hn with hover | ⟨d, n, hd, hgoes, rfl⟩
      · exact .inr (ih hover)
      · obtain ⟨rfl, tails⟩ := List.cons.inj same
        exact .inl ⟨Letters.meets_of_holds hc hd, hnext hm hgoes tails (differ_tail same h)⟩
  | either y z ihy ihz =>
      rw [oneAgainst, Bool.or_eq_true]
      exact hn.imp ihy ihz

/-- The induction is on the first run: while both go on, the slots differ at once or never. -/
theorem manyAgainst_many {a b : Letters} {p q : Option String} {next : Bool → Shape → Bool}
    {xs ys : Shape} (hnext : Notices next xs) {differ : Bool} {m n : Marked}
    (ih : ∀ {m n : Marked}, (many a p xs).Reads m → ys.Reads n →
      m.map Prod.fst = n.map Prod.fst → differ = true ∨ m ≠ n →
      manyAgainst a p next differ ys = true)
    (hdiffer : a.meets b = true → p ≠ q → differ = true)
    (hm : (many a p xs).Reads m) (hn : (many b q ys).Reads n)
    (same : m.map Prod.fst = n.map Prod.fst) (h : differ = true ∨ m ≠ n) :
    next differ (many b q ys) = true ∨ manyAgainst a p next differ ys = true := by
  obtain ⟨run, rest, hrun, hrest, rfl⟩ := hm
  induction run generalizing n with
  | nil => exact .inl (hnext hrest hn same h)
  | cons c run ihrun =>
      rcases reads_many.mp hn with hover | ⟨d, n, hd, hgoes, rfl⟩
      · exact .inr (ih ⟨c :: run, rest, hrun, hrest, rfl⟩ hover same h)
      · obtain ⟨rfl, tails⟩ := List.cons.inj same
        have hmeets := Letters.meets_of_holds (hrun c (by simp)) hd
        refine ihrun hgoes (fun x hx => hrun x (by simp [hx])) tails ?_
        rcases differ_tail same h with hd | hne
        · by_cases hpq : p = q
          · exact .inl (by simpa [hpq] using hd)
          · exact .inl (hdiffer hmeets hpq)
        · exact .inr hne

theorem manyAgainst_of_reads {a : Letters} {p : Option String} {next : Bool → Shape → Bool}
    {xs ys : Shape} (hnext : Notices next xs) {differ : Bool} {m n : Marked}
    (hm : (many a p xs).Reads m) (hn : ys.Reads n)
    (same : m.map Prod.fst = n.map Prod.fst) (h : differ = true ∨ m ≠ n) :
    manyAgainst a p next differ ys = true := by
  induction ys generalizing differ m n with
  | never => exact hn.elim
  | stop =>
      obtain rfl : n = [] := hn
      obtain rfl : m = [] := by simpa using same
      rcases reads_many.mp hm with hover | ⟨_, _, _, _, heq⟩
      · exact hnext hover rfl same h
      · simp at heq
  | one b q ys ih =>
      rw [manyAgainst, Bool.or_eq_true, Bool.and_eq_true]
      rcases reads_many.mp hm with hover | ⟨c, m, hc, hgoes, rfl⟩
      · exact .inr (hnext hover hn same h)
      · obtain ⟨d, n, hd, hy, rfl⟩ := hn
        obtain ⟨rfl, tails⟩ := List.cons.inj same
        exact .inl ⟨Letters.meets_of_holds hc hd, ih hgoes hy tails (differ_tail same h)⟩
  | many b q ys ih =>
      rw [manyAgainst, Bool.or_eq_true]
      refine manyAgainst_many hnext ih (fun hmeets hpq => ?_) hm hn same ?_
      · simp [hmeets, hpq]
      · exact h.imp_left (by simp +contextual)
  | either y z ihy ihz =>
      rw [manyAgainst, Bool.or_eq_true]
      exact hn.imp (ihy hm · same h) (ihz hm · same h)

theorem notices_clash (xs : Shape) : Notices xs.clash xs := by
  induction xs with
  | never => exact fun hm => hm.elim
  | stop =>
      intro differ ys m n hm hn same h
      obtain rfl : m = [] := hm
      obtain rfl : n = [] := by simpa using same.symm
      rw [clash, mayStop_of_reads hn, Bool.and_true]
      simpa using h
  | one a p xs ih =>
      rintro differ ys _ n ⟨c, m, hc, hm, rfl⟩ hn same h
      exact oneAgainst_of_reads ih hc hm hn same h
  | many a p xs ih =>
      intro differ ys m n hm hn same h
      exact manyAgainst_of_reads ih hm hn same h
  | either x y ihx ihy =>
      intro differ ys m n hm hn same h
      rw [clash, Bool.or_eq_true]
      exact hm.imp (ihx · hn same h) (ihy · hn same h)

end Shape
end CardText
