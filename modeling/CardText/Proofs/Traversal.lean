import Mathlib.Data.List.Forall2
import Mathlib.Tactic.Tauto

/-! Lists that are worked through from the front until an item fails. The first bad item of a
list is described without the work: what comes before it is good, and it is not. -/
namespace CardText

variable {ε α β : Type}

def FirstBad (good : α → Prop) (items : List α) (bad : α) : Prop :=
  ∃ before after, items = before ++ bad :: after ∧ (∀ item ∈ before, good item) ∧ ¬ good bad

variable {good : α → Prop}

@[simp] theorem firstBad_cons {first bad : α} {items : List α} :
    FirstBad good (first :: items) bad ↔
      (¬ good first ∧ bad = first) ∨ (good first ∧ FirstBad good items bad) := by
  constructor
  · rintro ⟨before, after, split, fine, fails⟩
    cases before with
    | nil =>
        obtain ⟨rfl, rfl⟩ : first = bad ∧ items = after := by simpa using split
        exact .inl ⟨fails, rfl⟩
    | cons item before =>
        obtain ⟨rfl, rfl⟩ : first = item ∧ items = before ++ bad :: after := by simpa using split
        exact .inr ⟨fine first (by simp), before, after, rfl, fun item h => fine item (by simp [h]),
          fails⟩
  · rintro (⟨fails, rfl⟩ | ⟨good, before, after, rfl, fine, fails⟩)
    · exact ⟨[], items, rfl, by simp, fails⟩
    · exact ⟨first :: before, after, rfl, by simpa using ⟨good, fine⟩, fails⟩

@[simp] theorem not_firstBad_nil {bad : α} : ¬ FirstBad good [] bad := by
  simp [FirstBad]

@[simp] theorem firstBad_append {front back : List α} {bad : α} :
    FirstBad good (front ++ back) bad ↔
      FirstBad good front bad ∨ (∀ item ∈ front, good item) ∧ FirstBad good back bad := by
  induction front with
  | nil => simp
  | cons first front ih =>
      simp only [List.cons_append, firstBad_cons, ih, List.forall_mem_cons]
      tauto

theorem firstBad_flatMap {parts : β → List α} {items : List β} {bad : α} :
    FirstBad good (items.flatMap parts) bad ↔
      ∃ item, FirstBad (fun item => ∀ part ∈ parts item, good part) items item ∧
        FirstBad good (parts item) bad := by
  induction items with
  | nil => simp
  | cons first items ih =>
      rw [List.flatMap_cons, firstBad_append, ih]
      simp only [firstBad_cons]
      constructor
      · rintro (inside | ⟨fine, item, h, inside⟩)
        · obtain ⟨before, after, split, _, fails⟩ := id inside
          have wrong : ¬ ∀ part ∈ parts first, good part :=
            fun fine => fails (fine bad (by simp [split]))
          exact ⟨first, .inl ⟨wrong, rfl⟩, inside⟩
        · exact ⟨item, .inr ⟨fine, h⟩, inside⟩
      · rintro ⟨item, ⟨_, rfl⟩ | ⟨fine, h⟩, inside⟩
        · exact .inl inside
        · exact .inr ⟨fine, item, h, inside⟩

theorem firstBad_filter {p : α → Bool} {items : List α} {bad : α} :
    FirstBad good (items.filter p) bad ↔
      p bad = true ∧ FirstBad (fun item => p item = true → good item) items bad := by
  induction items with
  | nil => simp
  | cons first items ih =>
      by_cases h : p first = true
      · simp only [List.filter_cons_of_pos h, firstBad_cons, ih, h, true_implies]
        constructor
        · rintro (⟨fails, rfl⟩ | ⟨fine, kept, first⟩)
          · exact ⟨h, .inl ⟨fails, rfl⟩⟩
          · exact ⟨kept, .inr ⟨fine, first⟩⟩
        · rintro ⟨kept, ⟨fails, rfl⟩ | ⟨fine, first⟩⟩
          · exact .inl ⟨fails, rfl⟩
          · exact .inr ⟨fine, kept, first⟩
      · simp [List.filter_cons_of_neg h, ih, h]

theorem bind_eq_ok_iff {x : Except ε α} {f : α → Except ε β} {b : β} :
    (x >>= f) = .ok b ↔ ∃ a, x = .ok a ∧ f a = .ok b := by
  cases x <;> simp [bind, Except.bind]

theorem bind_eq_error_iff {x : Except ε α} {f : α → Except ε β} {e : ε} :
    (x >>= f) = .error e ↔ x = .error e ∨ ∃ a, x = .ok a ∧ f a = .error e := by
  cases x <;> simp [bind, Except.bind]

theorem pure_eq_ok_iff {a b : α} : (pure a : Except ε α) = .ok b ↔ a = b := by
  simp [pure, Except.pure]

theorem mapM_eq_ok_iff {f : α → Except ε β} {items : List α} {results : List β} :
    items.mapM f = .ok results ↔
      List.Forall₂ (fun item result => f item = .ok result) items results := by
  induction items generalizing results with
  | nil => cases results <;> simp [pure_eq_ok_iff]
  | cons item items ih =>
      simp only [List.mapM_cons, bind_eq_ok_iff, pure_eq_ok_iff, ih]
      cases results with
      | nil => simp
      | cons result results => simp

theorem exists_mapM_eq_ok_iff {f : α → Except ε β} {items : List α} :
    (∃ results, items.mapM f = .ok results) ↔ ∀ item ∈ items, ∃ result, f item = .ok result := by
  induction items with
  | nil => simp [pure_eq_ok_iff]
  | cons item items ih =>
      simp only [List.forall_mem_cons, ← ih, List.mapM_cons, bind_eq_ok_iff, pure_eq_ok_iff]
      constructor
      · exact fun ⟨_, result, first, results, rest, _⟩ => ⟨⟨result, first⟩, results, rest⟩
      · exact fun ⟨⟨result, first⟩, results, rest⟩ => ⟨_, result, first, results, rest, rfl⟩

theorem mapM_eq_error_iff {f : α → Except ε β} {items : List α} {e : ε} :
    items.mapM f = .error e ↔
      ∃ bad, FirstBad (fun item => ∃ result, f item = .ok result) items bad ∧
        f bad = .error e := by
  induction items with
  | nil => simp [pure, Except.pure]
  | cons item items ih =>
      have never : ∀ (result : β) (results : List β),
          (pure (result :: results) : Except ε (List β)) ≠ .error e := by
        simp [pure, Except.pure]
      simp only [List.mapM_cons, bind_eq_error_iff, ih, firstBad_cons, never, and_false,
        exists_false, or_false]
      constructor
      · rintro (fails | ⟨result, fine, bad, first, fails⟩)
        · exact ⟨item, .inl ⟨by simp [fails], rfl⟩, fails⟩
        · exact ⟨bad, .inr ⟨⟨result, fine⟩, first⟩, fails⟩
      · rintro ⟨bad, ⟨_, rfl⟩ | ⟨⟨result, fine⟩, first⟩, fails⟩
        · exact .inl fails
        · exact .inr ⟨result, fine, bad, first, fails⟩

theorem mapM_map {γ : Type} (f : α → Except ε β) (g : β → γ) (items : List α) :
    items.mapM (fun item => g <$> f item) = List.map g <$> items.mapM f := by
  induction items with
  | nil => rfl
  | cons item items ih => simp [ih]

end CardText
