import CardText.Proofs.Dispatch.Scan

/-! Grammars one behind the other. The positions that are tried in the joined grammar are
those of the first part and, shifted behind it, those of the second, so the first part
decides alone unless it leaves the text unread. -/
namespace CardText

def Outcome.shift (ahead : Nat) : Outcome → Outcome
  | matched id rule script => matched (ahead + id) rule script
  | rejected id rule => rejected (ahead + id) rule
  | unmatched => unmatched

theorem Outcome.eq_unmatched_of_rule? {outcome : Outcome} (h : outcome.rule? = none) :
    outcome = .unmatched := by
  cases outcome with
  | unmatched => rfl
  | matched => simp [rule?] at h
  | rejected => simp [rule?] at h

theorem Winner.outcome_shift (ahead : Nat) (winner : Winner) (damage : Option Nat) :
    ({ winner with id := ahead + winner.id } : Winner).outcome damage =
      (winner.outcome damage).shift ahead := by
  rw [outcome_eq_elim, outcome_eq_elim]
  cases winner.rule.build winner.bindings (if winner.rule.usesDamage then damage else none) <;>
    rfl

theorem Winner.outcome_ne_unmatched (winner : Winner) (damage : Option Nat) :
    winner.outcome damage ≠ .unmatched := by
  rw [outcome]
  split <;> exact Outcome.noConfusion

theorem fails_append_left {first second : List Rule} {text : String} {id : Nat}
    (inside : id < first.length) : Fails (first ++ second) text id ↔ Fails first text id := by
  rw [Fails, List.getElem?_append_left inside, ← Fails]

theorem fails_append_right {first second : List Rule} {text : String} {id : Nat} :
    Fails (first ++ second) text (first.length + id) ↔ Fails second text id := by
  rw [Fails, List.getElem?_append_right (Nat.le_add_right _ _), Nat.add_sub_cancel_left, ← Fails]

namespace Dispatcher

variable {first second : List Rule} {gated : Bool} {text : String} {damage : Option Nat}

theorem active_append (first second : List Rule) (gated : Bool) (present : List Trigger) :
    (ofRules (first ++ second) gated).active present =
      (ofRules first gated).active present ++
        ((ofRules second gated).active present).map (first.length + ·) := by
  have front : ∀ id ∈ List.range first.length,
      (first ++ second)[id]?.any (Rule.isTried gated present) =
        first[id]?.any (Rule.isTried gated present) := by
    intro id inside
    rw [List.getElem?_append_left (List.mem_range.mp inside)]
  simp only [active_eq_filter, List.length_append, List.range_add, List.filter_append,
    List.filter_congr front, List.filter_map]
  simp [Function.comp_def, List.getElem?_append_right]

theorem lt_of_mem_active {present : List Trigger} {id : Nat}
    (h : id ∈ (ofRules first gated).active present) : id < first.length := by
  obtain ⟨rule, found, _⟩ := mem_active.mp h
  exact (List.getElem?_eq_some_iff.mp found).1

theorem dispatch_append_of_accepts {before after : List Nat} {id : Nat} {rule : Rule}
    {bindings : Bindings}
    (split : (ofRules first gated).active (Trigger.scan text) = before ++ id :: after)
    (fails : ∀ earlier ∈ before, Fails first text earlier) (found : first[id]? = some rule)
    (accepted : rule.template.bind? text = some bindings) :
    let whole := (ofRules (first ++ second) gated).dispatch text damage
    let front := (ofRules first gated).dispatch text damage
    whole.outcome = front.outcome ∧ whole.metrics.tried = front.metrics.tried ∧
      whole.metrics.matched = front.metrics.matched := by
  have within : ∀ earlier ∈ before, earlier < first.length := fun earlier inside =>
    lt_of_mem_active (split ▸ List.mem_append_left _ inside)
  have wholeSplit : (ofRules (first ++ second) gated).active (Trigger.scan text) =
      before ++ id :: (after ++
        ((ofRules second gated).active (Trigger.scan text)).map (first.length + ·)) := by
    rw [active_append, split, List.append_assoc, List.cons_append]
  have wholeFails : ∀ earlier ∈ before, Fails (first ++ second) text earlier :=
    fun earlier inside => (fails_append_left (within earlier inside)).mpr (fails earlier inside)
  have wholeFound : (first ++ second)[id]? = some rule := by
    rw [List.getElem?_append_left (List.getElem?_eq_some_iff.mp found).1, found]
  rw [dispatch_of_accepts wholeSplit wholeFails wholeFound accepted,
    dispatch_of_accepts split fails found accepted]
  exact ⟨rfl, rfl, rfl⟩

theorem dispatch_append_of_fails
    (fails : ∀ id ∈ (ofRules first gated).active (Trigger.scan text), Fails first text id) :
    let whole := (ofRules (first ++ second) gated).dispatch text damage
    let front := (ofRules first gated).dispatch text damage
    let back := (ofRules second gated).dispatch text damage
    whole.outcome = back.outcome.shift first.length ∧
      whole.metrics.tried = front.metrics.tried + back.metrics.tried ∧
        whole.metrics.matched = back.metrics.matched := by
  intro whole front back
  have frontTried : front.metrics.tried =
      ((ofRules first gated).active (Trigger.scan text)).length := by
    simp only [front, dispatch_of_fails fails]
  have wholeFails : ∀ id ∈ (ofRules first gated).active (Trigger.scan text),
      Fails (first ++ second) text id := fun id inside =>
    (fails_append_left (lt_of_mem_active inside)).mpr (fails id inside)
  rcases forall_fails_or_first second text
      ((ofRules second gated).active (Trigger.scan text)) with
    others | ⟨before, id, after, rule, bindings, split, others, found, accepted⟩
  · have allFail : ∀ id ∈ (ofRules (first ++ second) gated).active (Trigger.scan text),
        Fails (first ++ second) text id := by
      rw [active_append, List.forall_mem_append, List.forall_mem_map]
      exact ⟨wholeFails, fun id inside => fails_append_right.mpr (others id inside)⟩
    rw [frontTried]
    simp only [whole, back, dispatch_of_fails allFail, dispatch_of_fails others, active_append,
      List.length_append, List.length_map]
    exact ⟨rfl, trivial, trivial⟩
  · have wholeSplit : (ofRules (first ++ second) gated).active (Trigger.scan text) =
        ((ofRules first gated).active (Trigger.scan text) ++
          before.map (first.length + ·)) ++
            (first.length + id) :: after.map (first.length + ·) := by
      rw [active_append, split, List.map_append, List.map_cons, List.append_assoc]
    have beforeFails : ∀ earlier ∈ (ofRules first gated).active (Trigger.scan text) ++
        before.map (first.length + ·), Fails (first ++ second) text earlier := by
      rw [List.forall_mem_append, List.forall_mem_map]
      exact ⟨wholeFails, fun earlier inside => fails_append_right.mpr (others earlier inside)⟩
    have wholeFound : (first ++ second)[first.length + id]? = some rule := by
      rw [List.getElem?_append_right (Nat.le_add_right _ _), Nat.add_sub_cancel_left, found]
    rw [frontTried]
    simp only [whole, back, dispatch_of_accepts wholeSplit beforeFails wholeFound accepted,
      dispatch_of_accepts split others found accepted, List.length_append, List.length_map]
    exact ⟨Winner.outcome_shift first.length ⟨id, rule, bindings⟩ damage, by omega, trivial⟩

theorem metrics_append (first second : List Rule) (gated : Bool) (text : String)
    (damage : Option Nat) :
    let metrics rules := ((ofRules rules gated).dispatch text damage).metrics
    (metrics (first ++ second)).active = (metrics first).active + (metrics second).active ∧
      (metrics (first ++ second)).gated = (metrics first).gated + (metrics second).gated := by
  intro metrics
  have joined := congrArg List.length (active_append first second gated (Trigger.scan text))
  have size : (first ++ second).length = first.length + second.length := List.length_append
  have whole := metrics_gated (first ++ second) gated text damage
  have front := metrics_gated first gated text damage
  have back := metrics_gated second gated text damage
  simp only [metrics, metrics_active]
  rw [List.length_append, List.length_map] at joined
  omega

end Dispatcher

/-- Of two grammars one behind the other, the second reads only what the first leaves
unread; a text that the first one reads, or refuses, is decided as before. -/
theorem dispatch_append (first second : List Rule) (gated : Bool) (text : String)
    (damage : Option Nat) :
    let dispatch rules := (Dispatcher.ofRules rules gated).dispatch text damage
    let whole := dispatch (first ++ second)
    ((dispatch first).outcome ≠ .unmatched →
        whole.outcome = (dispatch first).outcome ∧
          whole.metrics.tried = (dispatch first).metrics.tried ∧
            whole.metrics.matched = (dispatch first).metrics.matched) ∧
      ((dispatch first).outcome = .unmatched →
        whole.outcome = (dispatch second).outcome.shift first.length ∧
          whole.metrics.tried =
              (dispatch first).metrics.tried + (dispatch second).metrics.tried ∧
            whole.metrics.matched = (dispatch second).metrics.matched) ∧
      whole.metrics.active =
          (dispatch first).metrics.active + (dispatch second).metrics.active ∧
        whole.metrics.gated =
          (dispatch first).metrics.gated + (dispatch second).metrics.gated := by
  intro dispatch whole
  have either := Dispatcher.forall_fails_or_first first text
    ((Dispatcher.ofRules first gated).active (Trigger.scan text))
  refine ⟨fun read => ?_, fun unread => ?_, Dispatcher.metrics_append ..⟩
  · rcases either with
      fails | ⟨before, id, after, rule, bindings, split, fails, found, accepted⟩
    · have unread : (dispatch first).outcome = .unmatched := by
        simp only [dispatch, Dispatcher.dispatch_of_fails fails]
      exact absurd unread read
    · exact Dispatcher.dispatch_append_of_accepts split fails found accepted
  · rcases either with
      fails | ⟨before, id, after, rule, bindings, split, fails, found, accepted⟩
    · exact Dispatcher.dispatch_append_of_fails fails
    · simp only [dispatch, Dispatcher.dispatch_of_accepts split fails found accepted] at unread
      exact absurd unread (Winner.outcome_ne_unmatched _ damage)

theorem dispatch_append_counters :
    let text := "Does 1 damage times the number of damage counters on X does 3 damage to itself."
    let outcome rules := ((Dispatcher.ofRules rules true).dispatch text none).outcome
    outcome ([Grammar.perOwnCounter] ++ [Grammar.selfDamage]) = outcome [Grammar.perOwnCounter] ∧
      outcome ([Grammar.drawOne] ++ [Grammar.selfDamage]) =
        (outcome [Grammar.selfDamage]).shift 1 := by
  intro text outcome
  have reads : outcome [Grammar.perOwnCounter] ≠ .unmatched := by
    intro unread
    have named : (outcome [Grammar.perOwnCounter]).rule?.isSome = true := by decide +kernel
    rw [unread] at named
    exact Bool.noConfusion named
  have misses : outcome [Grammar.drawOne] = .unmatched := by
    have nameless : (outcome [Grammar.drawOne]).rule? = none := by decide +kernel
    exact Outcome.eq_unmatched_of_rule? nameless
  exact ⟨((dispatch_append _ _ true text none).1 reads).1,
    ((dispatch_append _ _ true text none).2.1 misses).1⟩

end CardText
