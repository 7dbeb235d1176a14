import CardText.Dataset
import Mathlib.Data.List.Sort
import Mathlib.Data.String.Basic

/-! The cards of a dataset, set by set. What the group of a name holds depends on the cards of
that name alone: joining groups adds their cards up behind the first set, name by name, and
putting groups in order changes nothing for a name. Groups in ascending order are determined
by what they hold for each name, so the way in which cards were handed over, in one list or
group after group, leaves no trace. -/
namespace CardText.Dataset

def lookup (name : String) (groups : List SetCards) : Option SetCards :=
  groups.find? fun group => group.set.canonicalName = name

def named (name : String) (cards : List Card) : Option SetCards :=
  let own := cards.filter fun card => card.set.canonicalName = name
  own.head?.map fun first => ⟨first.set, own⟩

def both : Option SetCards → Option SetCards → Option SetCards
  | some first, some second => some { first with cards := first.cards ++ second.cards }
  | first, second => first.or second

def single (card : Card) : SetCards := ⟨card.set, [card]⟩

@[simp] theorem none_both (group : Option SetCards) : both none group = group := by
  cases group <;> rfl

@[simp] theorem both_none (group : Option SetCards) : both group none = group := by
  cases group <;> rfl

theorem both_assoc (a b c : Option SetCards) : both (both a b) c = both a (both b c) := by
  cases a <;> cases b <;> cases c <;> simp [both]

@[simp] theorem lookup_cons (name : String) (group : SetCards) (groups : List SetCards) :
    lookup name (group :: groups) =
      if group.set.canonicalName = name then some group else lookup name groups := by
  by_cases h : group.set.canonicalName = name <;> simp [lookup, h]

@[simp] theorem lookup_nil (name : String) : lookup name [] = none := rfl

theorem lookup_eq_none {name : String} {groups : List SetCards}
    (h : ∀ group ∈ groups, group.set.canonicalName ≠ name) : lookup name groups = none := by
  simpa [lookup] using h

theorem lookup_join (name : String) (group : SetCards) (groups : List SetCards) :
    lookup name (join group groups) = both (lookup name groups) (lookup name [group]) := by
  induction groups with
  | nil => simp [join]
  | cons first groups ih =>
      by_cases same : first.set.canonicalName = group.set.canonicalName
      · by_cases asked : group.set.canonicalName = name
        · simp [join, same, asked, both]
        · simp [join, same, asked]
      · by_cases asked : first.set.canonicalName = name
        · have other : group.set.canonicalName ≠ name := fun h => same (asked.trans h.symm)
          simp only [join, if_neg same, lookup_cons, if_pos asked, if_neg other, lookup_nil,
            both_none]
        · simp only [join, if_neg same, lookup_cons, if_neg asked, ih]

@[simp] theorem named_append (name : String) (front back : List Card) :
    named name (front ++ back) = both (named name front) (named name back) := by
  unfold named
  simp only [List.filter_append]
  cases front.filter fun card => card.set.canonicalName = name with
  | nil => simp
  | cons first own =>
      cases back.filter fun card => card.set.canonicalName = name <;> simp [both]

theorem lookup_single (name : String) (card : Card) :
    lookup name [single card] = named name [card] := by
  by_cases h : card.set.canonicalName = name <;> simp [lookup, named, single, h]

def Ascending (groups : List SetCards) : Prop :=
  groups.Pairwise fun a b => a.set.canonicalName < b.set.canonicalName

def Distinct (groups : List SetCards) : Prop :=
  groups.Pairwise fun a b => a.set.canonicalName ≠ b.set.canonicalName

theorem Ascending.distinct {groups : List SetCards} (h : Ascending groups) : Distinct groups :=
  h.imp fun less => less.ne

theorem exists_name_of_mem_join {group other : SetCards} {groups : List SetCards}
    (h : other ∈ join group groups) :
    other.set.canonicalName = group.set.canonicalName ∨
      ∃ first ∈ groups, first.set.canonicalName = other.set.canonicalName := by
  induction groups with
  | nil => simp_all [join]
  | cons first groups ih =>
      by_cases same : first.set.canonicalName = group.set.canonicalName
      · rw [join, if_pos same] at h
        rcases List.mem_cons.mp h with rfl | h
        · exact .inl same
        · exact .inr ⟨other, by simp [h], rfl⟩
      · rw [join, if_neg same] at h
        rcases List.mem_cons.mp h with rfl | h
        · exact .inr ⟨other, by simp, rfl⟩
        · exact (ih h).imp_right fun ⟨found, inside, equal⟩ => ⟨found, by simp [inside], equal⟩

theorem Distinct.join {group : SetCards} {groups : List SetCards} (h : Distinct groups) :
    Distinct (join group groups) := by
  induction groups with
  | nil => simp [Dataset.join, Distinct]
  | cons first groups ih =>
      obtain ⟨apart, h⟩ := List.pairwise_cons.mp h
      by_cases same : first.set.canonicalName = group.set.canonicalName
      · rw [Dataset.join, if_pos same]
        exact List.pairwise_cons.mpr ⟨apart, h⟩
      · rw [Dataset.join, if_neg same]
        refine List.pairwise_cons.mpr ⟨fun other inside => ?_, ih h⟩
        rcases exists_name_of_mem_join inside with equal | ⟨found, inside, equal⟩
        · exact fun meets => same (meets.trans equal)
        · exact equal ▸ apart found inside

theorem Distinct.foldl_join {new groups : List SetCards} (h : Distinct groups) :
    Distinct (new.foldl (fun groups group => Dataset.join group groups) groups) := by
  induction new generalizing groups with
  | nil => exact h
  | cons group new ih => exact ih h.join

theorem lookup_eq_some_iff {groups : List SetCards} (h : Distinct groups) {name : String}
    {group : SetCards} :
    lookup name groups = some group ↔ group ∈ groups ∧ group.set.canonicalName = name := by
  induction groups with
  | nil => simp
  | cons first groups ih =>
      obtain ⟨apart, h⟩ := List.pairwise_cons.mp h
      rw [lookup_cons]
      by_cases asked : first.set.canonicalName = name
      · have others : ∀ other ∈ groups, other.set.canonicalName ≠ name := fun other inside equal =>
          apart other inside (asked.trans equal.symm)
        rw [if_pos asked, Option.some_inj, List.mem_cons]
        constructor
        · rintro rfl
          exact ⟨.inl rfl, asked⟩
        · rintro ⟨rfl | inside, equal⟩
          · rfl
          · exact absurd equal (others group inside)
      · rw [if_neg asked, ih h, List.mem_cons]
        constructor
        · exact fun ⟨inside, equal⟩ => ⟨.inr inside, equal⟩
        · rintro ⟨rfl | inside, equal⟩
          · exact absurd equal asked
          · exact ⟨inside, equal⟩

theorem lookup_arrange {groups : List SetCards} (h : Distinct groups) (name : String) :
    lookup name (arrange groups) = lookup name groups := by
  have perm : (arrange groups).Perm groups := List.mergeSort_perm _ _
  have arranged : Distinct (arrange groups) := (perm.pairwise_iff fun h => h.symm).mpr h
  refine Option.ext fun group => ?_
  rw [lookup_eq_some_iff arranged, lookup_eq_some_iff h, perm.mem_iff]

theorem Distinct.ascending_arrange {groups : List SetCards} (h : Distinct groups) :
    Ascending (arrange groups) := by
  have perm : (arrange groups).Perm groups := List.mergeSort_perm _ _
  have arranged : Distinct (arrange groups) := (perm.pairwise_iff fun h => h.symm).mpr h
  have ordered : (arrange groups).Pairwise fun a b =>
      decide (a.set.canonicalName ≤ b.set.canonicalName) = true := by
    refine List.pairwise_mergeSort (fun a b c => ?_) (fun a b => ?_) groups
    · simpa using le_trans
    · simpa using le_total _ _
  exact (ordered.and arranged).imp fun ⟨le, ne⟩ => lt_of_le_of_ne (of_decide_eq_true le) ne

theorem Ascending.eq_of_lookup {groups others : List SetCards} (h : Ascending groups)
    (h' : Ascending others) (same : ∀ name, lookup name groups = lookup name others) :
    groups = others := by
  have members : ∀ group, group ∈ groups ↔ group ∈ others := by
    intro group
    have held := congrArg (· = some group) (same group.set.canonicalName)
    simpa [lookup_eq_some_iff h.distinct, lookup_eq_some_iff h'.distinct] using held
  have perm : groups.Perm others :=
    (List.perm_ext_iff_of_nodup (h.imp fun less equal => less.ne (by rw [equal]))
      (h'.imp fun less equal => less.ne (by rw [equal]))).mpr members
  exact perm.eq_of_pairwise (fun a b _ _ less more => absurd (less.trans more) (lt_irrefl _)) h h'

/-- The groups into which the cards fall: each name once, in ascending order, with the cards of
that name in their order. -/
structure Partition (groups : List SetCards) (cards : List Card) : Prop where
  ascending : Ascending groups
  lookup_eq : ∀ name, lookup name groups = named name cards

theorem Partition.unique {groups others : List SetCards} {cards : List Card}
    (h : Partition groups cards) (h' : Partition others cards) : groups = others :=
  h.ascending.eq_of_lookup h'.ascending fun name => (h.lookup_eq name).trans (h'.lookup_eq name).symm

theorem Partition.named_eq {groups : List SetCards} {cards : List Card}
    (h : Partition groups cards) {group : SetCards} (inside : group ∈ groups) :
    named group.set.canonicalName cards = some group := by
  rw [← h.lookup_eq, lookup_eq_some_iff h.ascending.distinct]
  exact ⟨inside, rfl⟩

theorem Partition.cards_eq_filter {groups : List SetCards} {cards : List Card}
    (h : Partition groups cards) {group : SetCards} (inside : group ∈ groups) :
    group.cards = cards.filter fun card => card.set.canonicalName = group.set.canonicalName := by
  obtain ⟨first, _, whole⟩ := Option.map_eq_some_iff.mp (h.named_eq inside)
  exact (congrArg SetCards.cards whole).symm

theorem Partition.exists_first {groups : List SetCards} {cards : List Card}
    (h : Partition groups cards) {group : SetCards} (inside : group ∈ groups) :
    ∃ first rest, group.cards = first :: rest ∧ group.set = first.set := by
  obtain ⟨first, leads, whole⟩ := Option.map_eq_some_iff.mp (h.named_eq inside)
  obtain ⟨rest, own⟩ := List.head?_eq_some_iff.mp leads
  exact ⟨first, rest, (congrArg SetCards.cards whole).symm.trans own,
    (congrArg SetCards.set whole).symm⟩

theorem Partition.canonicalName_eq {groups : List SetCards} {cards : List Card}
    (h : Partition groups cards) {group : SetCards} (inside : group ∈ groups) {card : Card}
    (own : card ∈ group.cards) : card.set.canonicalName = group.set.canonicalName := by
  rw [h.cards_eq_filter inside] at own
  simpa using (List.mem_filter.mp own).2

theorem flatMap_of_name {groups : List SetCards} (h : Distinct groups) (name : String) :
    (groups.flatMap fun group => if group.set.canonicalName = name then group.cards else []) =
      ((lookup name groups).map SetCards.cards).getD [] := by
  induction groups with
  | nil => rfl
  | cons group groups ih =>
      obtain ⟨apart, h⟩ := List.pairwise_cons.mp h
      rw [List.flatMap_cons, ih h, lookup_cons]
      by_cases asked : group.set.canonicalName = name
      · have fresh : lookup name groups = none :=
          lookup_eq_none fun other inside equal => apart other inside (asked.trans equal.symm)
        simp [asked, fresh]
      · simp [asked]

theorem Partition.filter_flatMap {groups : List SetCards} {cards : List Card}
    (h : Partition groups cards) (name : String) :
    (groups.flatMap SetCards.cards).filter (fun card => card.set.canonicalName = name) =
      cards.filter fun card => card.set.canonicalName = name := by
  have own : ∀ group ∈ groups,
      (group.cards.filter fun card => card.set.canonicalName = name) =
        if group.set.canonicalName = name then group.cards else [] := by
    intro group inside
    have names : ∀ card ∈ group.cards, card.set.canonicalName = group.set.canonicalName :=
      fun card own => h.canonicalName_eq inside own
    by_cases asked : group.set.canonicalName = name
    · rw [if_pos asked, List.filter_eq_self]
      exact fun card own => by simp [names card own, asked]
    · rw [if_neg asked, List.filter_eq_nil_iff]
      exact fun card own => by simp [names card own, asked]
  rw [List.filter_flatMap, List.flatMap_congr own, flatMap_of_name h.ascending.distinct,
    h.lookup_eq, named]
  cases cards.filter fun card => card.set.canonicalName = name <;> rfl

theorem Partition.mem_flatMap {groups : List SetCards} {cards : List Card}
    (h : Partition groups cards) {card : Card} :
    card ∈ groups.flatMap SetCards.cards ↔ card ∈ cards := by
  have same := congrArg (card ∈ ·) (h.filter_flatMap card.set.canonicalName)
  simpa only [List.mem_filter, decide_true, and_true, eq_iff_iff] using same

theorem Partition.perm_flatMap {groups : List SetCards} {cards : List Card}
    (h : Partition groups cards) : (groups.flatMap SetCards.cards).Perm cards := by
  refine List.perm_iff_count.mpr fun card => ?_
  have same := congrArg (List.count card) (h.filter_flatMap card.set.canonicalName)
  simpa [List.count_filter] using same

theorem Partition.pairwise_flatMap {groups : List SetCards} {cards : List Card}
    (h : Partition groups cards) :
    (groups.flatMap SetCards.cards).Pairwise fun a b =>
      a.set.canonicalName ≤ b.set.canonicalName := by
  refine List.pairwise_flatMap.mpr ⟨fun group inside => ?_, ?_⟩
  · refine List.pairwise_of_forall_mem_list fun a ha b hb => ?_
    rw [h.canonicalName_eq inside ha, h.canonicalName_eq inside hb]
  · refine h.ascending.imp_of_mem fun {a b} ha hb less c hc d hd => ?_
    rw [h.canonicalName_eq ha hc, h.canonicalName_eq hb hd]
    exact less.le

theorem lookup_foldl_single (name : String) (cards : List Card) (groups : List SetCards) :
    lookup name (cards.foldl (fun groups card => join (single card) groups) groups) =
      both (lookup name groups) (named name cards) := by
  induction cards generalizing groups with
  | nil => simp [named]
  | cons card cards ih =>
      rw [List.foldl_cons, ih, lookup_join, both_assoc, lookup_single, ← named_append]
      rfl

theorem lookup_foldl_join (name : String) {new : List SetCards} (h : Distinct new)
    (groups : List SetCards) :
    lookup name (new.foldl (fun groups group => join group groups) groups) =
      both (lookup name groups) (lookup name new) := by
  induction new generalizing groups with
  | nil => simp
  | cons group new ih =>
      obtain ⟨apart, h⟩ := List.pairwise_cons.mp h
      rw [List.foldl_cons, ih h, lookup_join, both_assoc, lookup_cons name group new]
      by_cases asked : group.set.canonicalName = name
      · have fresh : lookup name new = none :=
          lookup_eq_none fun other inside equal => apart other inside (asked.trans equal.symm)
        simp [asked, fresh]
      · simp [asked]

theorem partition_group (cards : List Card) : Partition (group cards) cards := by
  have distinct : Distinct (cards.foldl (fun groups card => join (single card) groups) []) := by
    rw [← List.foldl_map (f := single) (g := fun groups group => join group groups)]
    exact Distinct.foldl_join List.Pairwise.nil
  refine ⟨distinct.ascending_arrange, fun name => ?_⟩
  have found := lookup_foldl_single name cards []
  rw [← lookup_arrange distinct, lookup_nil, none_both] at found
  exact found

theorem lookup_foldl_groups (name : String) (lists : List (List Card)) (groups : List SetCards) :
    lookup name ((lists.map group).flatten.foldl (fun groups group => join group groups) groups) =
      both (lookup name groups) (named name lists.flatten) := by
  induction lists generalizing groups with
  | nil => simp [named]
  | cons cards lists ih =>
      have first := partition_group cards
      rw [List.map_cons, List.flatten_cons, List.foldl_append, ih,
        lookup_foldl_join name first.ascending.distinct, first.lookup_eq, both_assoc,
        List.flatten_cons, named_append]

theorem arrange_foldl_groups (lists : List (List Card)) :
    arrange ((lists.map group).flatten.foldl (fun groups group => join group groups) []) =
      group lists.flatten := by
  have distinct : Distinct
      ((lists.map group).flatten.foldl (fun groups group => join group groups) []) :=
    Distinct.foldl_join List.Pairwise.nil
  refine Partition.unique ⟨distinct.ascending_arrange, fun name => ?_⟩ (partition_group _)
  simp [lookup_arrange distinct, lookup_foldl_groups]

end CardText.Dataset
