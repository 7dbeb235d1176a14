import CardText.Proofs.Dispatch.Gating

/-! What a dispatch comes to, whatever rules it is given. Of the positions that the index
leaves, the winner is the first whose rule accepts the text, and what the scan has counted by
then is its rank among them. -/
namespace CardText

def Fails (rules : List Rule) (text : String) (id : Nat) : Prop :=
  ∀ rule, rules[id]? = some rule → rule.template.bind? text = none

theorem Winner.outcome_eq_elim (winner : Winner) (damage : Option Nat) :
    winner.outcome damage =
      (winner.rule.build winner.bindings (if winner.rule.usesDamage then damage else none)).elim
        (.rejected winner.id winner.rule.name) (.matched winner.id winner.rule.name) := by
  rw [outcome]
  split <;> rename_i built <;> rw [built] <;> rfl

@[simp] theorem Winner.rule?_outcome (winner : Winner) (damage : Option Nat) :
    (winner.outcome damage).rule? = some winner.rule.name := by
  rw [outcome]
  split <;> rfl

@[simp] theorem Winner.script?_outcome (winner : Winner) (damage : Option Nat) :
    (winner.outcome damage).script? =
      winner.rule.build winner.bindings (if winner.rule.usesDamage then damage else none) := by
  rw [outcome]
  split <;> rename_i built <;> rw [built] <;> rfl

namespace Dispatcher

variable {rules : List Rule} {gated : Bool} {text : String} {damage : Option Nat}

theorem length_active_le (rules : List Rule) (gated : Bool) (present : List Trigger) :
    ((ofRules rules gated).active present).length ≤ rules.length := by
  rw [active_eq_filter]
  have kept := List.length_filter_le
    (fun id => rules[id]?.any (Rule.isTried gated present)) (List.range rules.length)
  simpa using kept

theorem metrics_active (rules : List Rule) (gated : Bool) (text : String) (damage : Option Nat) :
    ((ofRules rules gated).dispatch text damage).metrics.active =
      ((ofRules rules gated).active (Trigger.scan text)).length := by
  simp only [dispatch]
  split <;> rfl

theorem metrics_gated (rules : List Rule) (gated : Bool) (text : String) (damage : Option Nat) :
    ((ofRules rules gated).dispatch text damage).metrics.gated +
        ((ofRules rules gated).active (Trigger.scan text)).length = rules.length := by
  have bound := length_active_le rules gated (Trigger.scan text)
  simp only [dispatch]
  split <;> exact Nat.sub_add_cancel bound

theorem attempt?_of_fails {id : Nat} (fails : Fails rules text id) :
    (ofRules rules gated).attempt? text id = none := by
  cases found : rules[id]? with
  | none => simp [attempt?, ofRules, found]
  | some rule => simp [attempt?, ofRules, found, fails rule found]

theorem scan_of_fails {active : List Nat} (fails : ∀ id ∈ active, Fails rules text id) :
    (ofRules rules gated).scan text 0 active = (none, active.length) := by
  have whole : (ofRules rules gated).scan text 0 (active ++ []) = _ :=
    scan_append (fun id inside => attempt?_of_fails (fails id inside)) []
  rw [List.append_nil, Nat.zero_add] at whole
  exact whole

theorem scan_of_accepts {before after : List Nat} {id : Nat} {rule : Rule} {bindings : Bindings}
    (fails : ∀ earlier ∈ before, Fails rules text earlier) (found : rules[id]? = some rule)
    (accepted : rule.template.bind? text = some bindings) :
    (ofRules rules gated).scan text 0 (before ++ id :: after) =
      (some ⟨id, rule, bindings⟩, before.length + 1) := by
  have won : (ofRules rules gated).attempt? text id = some ⟨id, rule, bindings⟩ := by
    simp [attempt?, ofRules, found, accepted]
  rw [scan_append fun earlier inside => attempt?_of_fails (fails earlier inside), scan, won,
    Nat.zero_add]

theorem dispatch_of_fails
    (fails : ∀ id ∈ (ofRules rules gated).active (Trigger.scan text), Fails rules text id) :
    (ofRules rules gated).dispatch text damage =
      let active := (ofRules rules gated).active (Trigger.scan text)
      ⟨.unmatched, active.length, rules.length - active.length, active.length, none⟩ := by
  simp only [dispatch, scan_of_fails fails]
  rfl

theorem dispatch_of_accepts {before after : List Nat} {id : Nat} {rule : Rule}
    {bindings : Bindings}
    (split : (ofRules rules gated).active (Trigger.scan text) = before ++ id :: after)
    (fails : ∀ earlier ∈ before, Fails rules text earlier) (found : rules[id]? = some rule)
    (accepted : rule.template.bind? text = some bindings) :
    (ofRules rules gated).dispatch text damage =
      let active := (ofRules rules gated).active (Trigger.scan text)
      ⟨Winner.outcome ⟨id, rule, bindings⟩ damage, active.length,
        rules.length - active.length, before.length + 1, some rule.name⟩ := by
  simp only [dispatch, split, scan_of_accepts fails found accepted]
  rfl

theorem forall_fails_or_first (rules : List Rule) (text : String) (active : List Nat) :
    (∀ id ∈ active, Fails rules text id) ∨
      ∃ before id after rule bindings, active = before ++ id :: after ∧
        (∀ earlier ∈ before, Fails rules text earlier) ∧ rules[id]? = some rule ∧
          rule.template.bind? text = some bindings := by
  induction active with
  | nil => exact .inl (by simp)
  | cons id active ih =>
      by_cases fails : Fails rules text id
      · rcases ih with ih | ⟨before, first, after, rule, bindings, split, ih, found⟩
        · exact .inl (List.forall_mem_cons.mpr ⟨fails, ih⟩)
        · refine .inr ⟨id :: before, first, after, rule, bindings, ?_, ?_, found⟩
          · rw [split, List.cons_append]
          · exact List.forall_mem_cons.mpr ⟨fails, ih⟩
      · simp only [Fails, not_forall, exists_prop] at fails
        obtain ⟨rule, found, accepted⟩ := fails
        obtain ⟨bindings, accepted⟩ := Option.ne_none_iff_exists'.mp accepted
        exact .inr ⟨[], id, active, rule, bindings, rfl, by simp, found, accepted⟩

/-- Where rules need their triggers, the first of them to accept a text is tried, and those
that are tried before it fail. -/
theorem active_split_of_first (needs : ∀ rule ∈ rules, rule.NeedsTriggers) (gated : Bool)
    {id : Nat} {rule : Rule} (found : rules[id]? = some rule)
    (accepted : rule.accepts text = true)
    (unread : ∀ earlier ∈ rules.take id, earlier.accepts text = false) :
    ∃ before after, (ofRules rules gated).active (Trigger.scan text) = before ++ id :: after ∧
      ∀ earlier ∈ before, Fails rules text earlier := by
  have tried : rule.isTried gated (Trigger.scan text) = true := by
    by_cases bare : rule.triggers = []
    · simp [Rule.isTried, bare]
    · obtain ⟨trigger, own, present⟩ :=
        needs rule (List.mem_of_getElem? found) bare text accepted
      have shared : rule.triggers.any (Trigger.scan text).contains = true :=
        List.any_eq_true.mpr ⟨trigger, own, List.contains_iff_mem.mpr present⟩
      simp only [Rule.isTried, shared, Bool.or_true]
  obtain ⟨before, after, split⟩ := List.append_of_mem (mem_active.mpr ⟨rule, found, tried⟩)
  refine ⟨before, after, split, fun earlier inside other listed => ?_⟩
  have ascending := pairwise_active rules gated (Trigger.scan text)
  rw [split] at ascending
  have ahead : earlier < id := (List.pairwise_append.mp ascending).2.2 earlier inside id (by simp)
  have front : (rules.take id)[earlier]? = some other := by
    rw [List.getElem?_take_of_lt ahead, listed]
  simpa [Rule.accepts] using unread other (List.mem_of_getElem? front)

end Dispatcher

/-- A rule that stands in a grammar under a mask and a flag for base damage. -/
structure Listing where
  rule : Rule
  mask : Nat
  usesDamage : Bool

def Listing.listed (listing : Listing) : Rule :=
  { listing.rule with
    triggers := Trigger.ofMask listing.mask
    usesDamage := listing.usesDamage }

@[simp] theorem Trigger.mem_ofMask {mask : Nat} {trigger : Trigger} :
    trigger ∈ ofMask mask ↔ mask.testBit trigger.bit = true := by
  have known : trigger ∈ all := by cases trigger <;> decide
  simp [ofMask, known]

theorem Listing.isTried_listed {listing : Listing} {gated : Bool} {present : List Trigger} :
    listing.listed.isTried gated present = true ↔
      gated = false ∨ (∀ trigger : Trigger, listing.mask.testBit trigger.bit = false) ∨
        ∃ trigger ∈ present, listing.mask.testBit trigger.bit = true := by
  have bare : listing.listed.triggers.isEmpty = true ↔
      ∀ trigger : Trigger, listing.mask.testBit trigger.bit = false := by
    rw [List.isEmpty_iff, List.eq_nil_iff_forall_not_mem]
    simp [Listing.listed]
  have shared : listing.listed.triggers.any present.contains = true ↔
      ∃ trigger ∈ present, listing.mask.testBit trigger.bit = true := by
    simp [Listing.listed, and_comm]
  rw [Rule.isTried, Bool.or_eq_true, Bool.or_eq_true, bare, shared, Bool.not_eq_true', or_assoc]

/-- Any grammar under any masks is read as a plain scan would read it: what is tried is
exactly what the triggers of the text leave, in order, the first rule that accepts decides,
and the counters are the sizes and the rank of that scan. -/
theorem dispatch_first_match (listings : List Listing) (gated : Bool) (text : String)
    (damage : Option Nat) :
    let rules := listings.map Listing.listed
    let active := (Dispatcher.ofRules rules gated).active (Trigger.scan text)
    let dispatch := (Dispatcher.ofRules rules gated).dispatch text damage
    active.Pairwise (· < ·) ∧
      (∀ id, id ∈ active ↔ ∃ listing, listings[id]? = some listing ∧
        (gated = false ∨ (∀ trigger : Trigger, listing.mask.testBit trigger.bit = false) ∨
          ∃ trigger ∈ Trigger.scan text, listing.mask.testBit trigger.bit = true)) ∧
      dispatch.metrics.active = active.length ∧
      dispatch.metrics.gated + active.length = listings.length ∧
      ((∀ id ∈ active, ∀ listing, listings[id]? = some listing →
            listing.rule.template.bind? text = none) ∧
          dispatch.outcome = .unmatched ∧ dispatch.metrics.tried = active.length ∧
            dispatch.metrics.matched = none ∨
        ∃ before id after listing bindings, active = before ++ id :: after ∧
          (∀ earlier ∈ before, ∀ listing, listings[earlier]? = some listing →
            listing.rule.template.bind? text = none) ∧
          listings[id]? = some listing ∧
          listing.rule.template.bind? text = some bindings ∧
          dispatch.outcome =
            (listing.rule.build bindings (if listing.usesDamage then damage else none)).elim
              (.rejected id listing.rule.name) (.matched id listing.rule.name) ∧
          dispatch.metrics.tried = before.length + 1 ∧
            dispatch.metrics.matched = some listing.rule.name) := by
  intro rules active dispatch
  have listed : ∀ id, rules[id]? = listings[id]?.map Listing.listed := fun id =>
    List.getElem?_map
  have fails_iff : ∀ id, Fails rules text id ↔ ∀ listing, listings[id]? = some listing →
      listing.rule.template.bind? text = none := by
    intro id
    simp only [Fails, listed, Option.map_eq_some_iff, forall_exists_index, and_imp,
      forall_apply_eq_imp_iff₂]
    rfl
  refine ⟨Dispatcher.pairwise_active .., fun id => ?_, Dispatcher.metrics_active .., ?_, ?_⟩
  · rw [Dispatcher.mem_active, listed]
    simp [Listing.isTried_listed]
  · exact (Dispatcher.metrics_gated ..).trans (List.length_map _)
  · rcases Dispatcher.forall_fails_or_first rules text active with
      fails | ⟨before, id, after, rule, bindings, split, fails, found, accepted⟩
    · have whole : dispatch = _ := Dispatcher.dispatch_of_fails fails
      rw [whole]
      refine .inl ⟨fun id inside => ?_, rfl, rfl, rfl⟩
      exact (fails_iff id).mp (fails id inside)
    · have whole : dispatch = _ := Dispatcher.dispatch_of_accepts split fails found accepted
      rw [listed, Option.map_eq_some_iff] at found
      obtain ⟨listing, found, rfl⟩ := found
      rw [whole]
      refine .inr ⟨before, id, after, listing, bindings, split, ?_, found, accepted, ?_, rfl, rfl⟩
      · exact fun earlier inside => (fails_iff earlier).mp (fails earlier inside)
      · exact Winner.outcome_eq_elim ⟨id, listing.listed, bindings⟩ damage

theorem dispatch_first_match_masks :
    let listings : List Listing := [⟨Grammar.drawOne, 64, true⟩, ⟨Grammar.selfDamage, 2, true⟩,
      ⟨Grammar.selfDamage, 33, false⟩, ⟨Grammar.selfDamage, 0, true⟩]
    let text := "Mr. Mime does 8 damage to itself."
    let active := (Dispatcher.ofRules (listings.map Listing.listed) true).active
      (Trigger.scan text)
    active.Pairwise (· < ·) ∧ 0 ∈ active ∧ 1 ∉ active ∧ 2 ∈ active := by
  intro listings text active
  have scanned : Trigger.scan text = [.digits] := by decide +kernel
  obtain ⟨ascending, members, _⟩ := dispatch_first_match listings true text none
  refine ⟨ascending, (members 0).mpr ⟨_, rfl, ?_⟩, fun inside => ?_, (members 2).mpr ⟨_, rfl, ?_⟩⟩
  · exact .inr (.inl fun trigger => by cases trigger <;> decide)
  · obtain ⟨listing, found, reason⟩ := (members 1).mp inside
    obtain rfl : _ = listing := Option.some.inj found
    rcases reason with reason | reason | ⟨trigger, present, reason⟩
    · exact Bool.noConfusion reason
    · exact absurd (reason .coin) (by decide)
    · rw [scanned, List.mem_singleton] at present
      exact absurd (present ▸ reason) (by decide)
  · exact .inr (.inr ⟨.digits, by rw [scanned]; exact List.mem_singleton_self _, by decide⟩)

end CardText
