import Mathlib.Algebra.BigOperators.Group.Finset.Piecewise
import Mathlib.Data.Fintype.Defs
import TwoStreamRecovery.Reporting

/-!
# One decision for each released record

* `Decided`: between two states of a run, nothing was decided, or a record was recovered, or one
  reject was counted.
* **`drainIteration_one_decision`**: this is what an iteration of the drain loop may do.
-/

namespace TwoStream

instance : Fintype RejectReason where
  elems := {.lowAlignment, .secondaryLate, .tei, .discontinuity, .wrongPid, .wrongCounter, .ambiguous,
    .burstTooLarge, .missingCandidate}
  complete reason := by cases reason <;> decide

variable {σ : Type} {env : Env σ} {w w' w'' : World σ} {primary : PacketRecord}

/-- The sum of the reject counters. -/
def ReportStats.rejectCount (stats : ReportStats) : ℕ := Finset.univ.sum stats.recoveryRejects

/-- The record is inserted, or takes the place of another. -/
def Route.recovers : Route → Bool
  | .gap _ _ _ => true
  | .transportError _ => true
  | _ => false

/-- A record has been inserted or substituted on the way from `w` to `w'`. -/
def Recovers (w w' : World σ) : Prop :=
  ∃ route r, .sent route r ∈ w'.trace.drop w.trace.length ∧ route.recovers = true

/-- Neither a reject nor a loss nor a recovery. -/
structure Undecided (w w' : World σ) : Prop where
  rejects : w'.stats.recoveryRejects = w.stats.recoveryRejects
  loss : w'.stats.unrecoverableLoss = w.stats.unrecoverableLoss
  sent : ∃ l, w'.trace = w.trace ++ l ∧ ∀ x ∈ sentEvents l, x.1.recovers = false

/-- At most one decision, and it is about `primary`. -/
inductive Decided (primary : PacketRecord) (w w' : World σ) : Prop
  | undecided (h : Undecided w w')
  | recovered (rejects : w'.stats.recoveryRejects = w.stats.recoveryRejects)
      (loss : w'.stats.unrecoverableLoss = w.stats.unrecoverableLoss)
  | rejected (reason : RejectReason)
      (rejects : w'.stats.recoveryRejects =
        Function.update w.stats.recoveryRejects reason (w.stats.recoveryRejects reason + 1))
      (loss : w'.stats.unrecoverableLoss = w.stats.unrecoverableLoss ∨
        primary.isNull = false ∧ primary.transportError = false ∧
          primary.discontinuityIndicator = false)
      (sent : ∃ l, w'.trace = w.trace ++ l ∧ ∀ x ∈ sentEvents l, x.1.recovers = false)

/-! ### Composition -/

theorem Undecided.refl (w : World σ) : Undecided w w := ⟨rfl, rfl, [], by simp, by simp⟩

theorem Undecided.trans (h : Undecided w w') (h' : Undecided w' w'') : Undecided w w'' := by
  obtain ⟨l, ht, hl⟩ := h.sent
  obtain ⟨l', ht', hl'⟩ := h'.sent
  refine ⟨h'.rejects.trans h.rejects, h'.loss.trans h.loss, l ++ l', ?_, ?_⟩
  · rw [ht', ht, List.append_assoc]
  rw [sentEvents_append]
  exact fun x hx => (List.mem_append.mp hx).elim (hl x) (hl' x)

/-- What happens before the decision does not matter. -/
theorem Undecided.decided (h : Undecided w w') (h' : Decided primary w' w'') :
    Decided primary w w'' := by
  cases h' with
  | undecided h' => exact .undecided (h.trans h')
  | recovered rejects loss => exact .recovered (rejects.trans h.rejects) (loss.trans h.loss)
  | rejected reason rejects loss sent =>
    obtain ⟨l, ht, hl⟩ := h.sent
    obtain ⟨l', ht', hl'⟩ := sent
    refine .rejected reason (by rw [rejects, h.rejects]) (by rw [← h.loss]; exact loss)
      ⟨l ++ l', by rw [ht', ht, List.append_assoc], ?_⟩
    rw [sentEvents_append]
    exact fun x hx => (List.mem_append.mp hx).elim (hl x) (hl' x)

/-- Nor does what happens after it. -/
theorem Decided.trans (h : Decided primary w w') (h' : Undecided w' w'') :
    Decided primary w w'' := by
  cases h with
  | undecided h => exact .undecided (h.trans h')
  | recovered rejects loss => exact .recovered (h'.rejects.trans rejects) (h'.loss.trans loss)
  | rejected reason rejects loss sent =>
    obtain ⟨l, ht, hl⟩ := sent
    obtain ⟨l', ht', hl'⟩ := h'.sent
    refine .rejected reason (h'.rejects.trans rejects) (by rw [h'.loss]; exact loss)
      ⟨l ++ l', by rw [ht', ht, List.append_assoc], ?_⟩
    rw [sentEvents_append]
    exact fun x hx => (List.mem_append.mp hx).elim (hl x) (hl' x)

/-! ### Sending -/

theorem acceptStats_loss (state : PidState) (r : PacketRecord) (stats : ReportStats) :
    (acceptStats state r stats).unrecoverableLoss = stats.unrecoverableLoss := by
  simp only [acceptStats, observeOutputStats, reportStatsObserveOutputDatagram]
  split_ifs <;> rfl

theorem acceptAll_loss {route : Route} {nullFlag : PacketRecord → Bool} (L : List PacketRecord) :
    (acceptAll route nullFlag w L).stats.unrecoverableLoss = w.stats.unrecoverableLoss := by
  induction L generalizing w with
  | nil => rfl
  | cons r rest ih =>
    rw [acceptAll_cons, ih]
    simp only [acceptRecovered, reportStatsObserveRecovery, acceptRecord_stats]
    exact acceptStats_loss _ _ _

/-- A record that is not recovered decides nothing. -/
theorem acceptRecord_undecided {route : Route} {r : PacketRecord} {s : σ}
    (hroute : route.recovers = false) :
    Undecided w (acceptRecord route { w with sinkState := s } r) := by
  refine ⟨?_, ?_, [.sent route r], by rw [acceptRecord_trace], by simp [hroute]⟩
  · rw [acceptRecord_stats, acceptStats_rejects]
  · rw [acceptRecord_stats, acceptStats_loss]

theorem setActiveOutputStream_undecided (env : Env σ) (w : World σ) (streamId : StreamId) {s : σ} :
    Undecided w { setActiveOutputStream env w streamId with sinkState := s } := by
  obtain ⟨l, ht, hl⟩ := setActiveOutputStream_trace env w streamId
  refine ⟨?_, ?_, l, ht, ?_⟩
  · unfold setActiveOutputStream
    split <;> rfl
  · unfold setActiveOutputStream
    split <;> rfl
  · rcases hl with ⟨rfl, -⟩ | ⟨rfl, -⟩
    · simp
    · simp [sentEvents]

theorem updatePrimaryAnchor_undecided (w : World σ) (primary : PacketRecord)
    (m : Option PacketRecord) : Undecided w (updatePrimaryAnchor w primary m) := by
  obtain ⟨l, ht, hl⟩ := updatePrimaryAnchor_trace w primary m
  have hnotes : sentEvents l = [] := sentEvents_of_notes fun ev hev => by
    obtain ⟨old, new, rfl⟩ := hl ev hev
    trivial
  refine ⟨?_, ?_, l, ht, by simp [hnotes]⟩
  · rw [updatePrimaryAnchor_stats]
  · rw [updatePrimaryAnchor_stats]

/-- The failover routine decides nothing. -/
theorem failover_undecided (env : Env σ) (force : Bool) (nowNs : ℕ) (w : World σ) :
    Undecided w (drainSecondaryOnPrimaryOutage env force nowNs w).2 := by
  unfold drainSecondaryOnPrimaryOutage
  split
  · exact .refl w
  · refine failoverLoop_rule (J := fun w' => Undecided w w') ?_ ?_ ?_ _ _ ?_
    · exact fun w₁ h => h.trans ⟨rfl, rfl, [], by simp [reportStatsNowNs], by simp⟩
    · intro w₁ r s hfront h
      have hswitch : Undecided w₁ (setActiveOutputStream env w₁ .secondary) :=
        setActiveOutputStream_undecided env w₁ .secondary
          (s := (setActiveOutputStream env w₁ .secondary).sinkState)
      have hsent : Undecided (setActiveOutputStream env w₁ .secondary)
          (acceptRecord .failover { setActiveOutputStream env w₁ .secondary with sinkState := s } r) :=
        acceptRecord_undecided rfl
      exact (h.trans (hswitch.trans hsent)).trans ⟨rfl, rfl, [], by simp [failoverSent], by simp⟩
    · exact fun w₁ s hrefuses h => h.trans (setActiveOutputStream_undecided env w₁ .secondary)
    · refine ⟨rfl, rfl, [.failover nowNs w.engine], rfl, ?_⟩
      simp [sentEvents]

/-! ### Releases -/

/-- What is decided before the record is offered. -/
theorem Prepared.decided (h : Prepared primary w w') : Decided primary w w' := by
  cases h with
  | fits => exact .undecided (.refl w)
  | rejected previousCc missingCount candidate before after rejectReason reason =>
    have hstats (stats : ReportStats) :
        (observeUnrecoverablePrimaryGap stats primary missingCount reason).recoveryRejects =
            stats.recoveryRejects ∧
          ((observeUnrecoverablePrimaryGap stats primary missingCount reason).unrecoverableLoss =
              stats.unrecoverableLoss ∨
            primary.isNull = false ∧ primary.transportError = false ∧
              primary.discontinuityIndicator = false) := by
      unfold observeUnrecoverablePrimaryGap
      cases missingCount with
      | none => exact ⟨rfl, .inl rfl⟩
      | some n =>
        simp only
        split_ifs with hskip hnull
        · exact ⟨rfl, .inl rfl⟩
        · exact ⟨rfl, .inl rfl⟩
        · simp only [Bool.or_eq_true, not_or, Bool.not_eq_true] at hskip
          exact ⟨rfl, .inr ⟨hskip.1.1.2, hskip.1.2, hskip.2⟩⟩
    refine .rejected rejectReason ?_ (hstats _).2 ⟨[_], rfl, by simp [sentEvents]⟩
    simp only [recoveryRejectLog]
    rw [(hstats _).1]
    funext r
    simp only [reportStatsRejectRecovery, Function.update_apply]
    by_cases hr : r = rejectReason
    · subst hr
      rw [if_pos rfl, if_pos rfl]
      rfl
    · rw [if_neg hr, if_neg hr]
      rfl
  | @inserted kind secondaryMatch L previousCc decision s unique evidence adjacent =>
    have hincidents := gapBurst_incidents kind L.length
      { acceptAll (.gap kind primary secondaryMatch) (gapNullFlag kind)
          (gapLogged w primary L.length previousCc decision) L with sinkState := s }
    refine .recovered ?_ ?_
    · exact (congrArg (fun counts => counts.2.2.1) hincidents).trans (acceptAll_rejects L)
    · exact (congrArg (fun counts => counts.2.1) hincidents).trans (acceptAll_loss L)

theorem openRelease_undecided (primary : PacketRecord) (w : World σ) :
    Undecided w (openRelease primary w) :=
  ⟨rfl, rfl, [.release (openRelease primary w).engine], rfl, by simp [sentEvents]⟩

/-- **A release takes one decision at most.** -/
theorem release_decided (hacc : env.Accepting) (primary : PacketRecord) (w : World σ) :
    Decided primary w (releasePrimary env primary w).2 := by
  have hopen := openRelease_undecided primary w
  have hpop (w' : World σ) : Undecided w' (popPrimary w') :=
    ⟨rfl, rfl, [], by simp [popPrimary], by simp⟩
  have houtcome := releasePrimary_outcome env primary w
  generalize releasePrimary env primary w = res at houtcome ⊢
  cases houtcome with
  | @replaced candidate s damaged check =>
    refine .recovered ?_ ?_
    · simp only [popPrimary, acceptRecovered, reportStatsObserveRecovery, acceptRecord_stats]
      exact acceptStats_rejects _ _ _
    · simp only [popPrimary, acceptRecovered, reportStatsObserveRecovery, acceptRecord_stats]
      exact acceptStats_loss _ _ _
  | @sent w' s prepared =>
    have hsent : Undecided w' (acceptRecord .passThrough { w' with sinkState := s } primary) :=
      acceptRecord_undecided rfl
    have hanchored := updatePrimaryAnchor_undecided
      (acceptRecord .passThrough { w' with sinkState := s } primary) primary
      (releaseAnchor (openRelease primary w).engine primary)
    exact (hopen.decided prepared.decided).trans (hsent.trans (hanchored.trans (hpop _)))
  | refused refuses => exact absurd hacc refuses
  | refusedReplacement refuses => exact absurd hacc refuses
  | refusedGap refuses => exact absurd hacc refuses

/-! ### The iteration of the drain loop -/

/-- An iteration decides nothing, or it is a release. -/
theorem drainIteration_decided (hacc : env.Accepting) (force : Bool) (w : World σ) :
    Undecided w (drainIteration env force w).2 ∨
      ∃ primary, delayQueueFront w.engine.primaryQueue = some primary ∧
        Decided primary w (drainIteration env force w).2 := by
  unfold drainIteration
  cases hfront : delayQueueFront w.engine.primaryQueue with
  | none => exact .inl (.refl w)
  | some primary =>
    have hread (w₁ : World σ) (h : w₁.stats = w.stats ∧ w₁.trace = w.trace) : Undecided w w₁ :=
      ⟨by rw [h.1], by rw [h.1], [], by rw [h.2, List.append_nil], by simp⟩
    have hactive (w₁ : World σ) (h : Undecided w w₁) :
        Undecided w (setActiveOutputStream env w₁ .primary) :=
      h.trans (setActiveOutputStream_undecided env w₁ .primary
        (s := (setActiveOutputStream env w₁ .primary).sinkState))
    obtain ⟨start, hstart⟩ := primaryReturnHoldoffElapsed_engine w.engine (env.clock w.reads)
    by_cases hsecondary : w.engine.activeOutputStreamId = .secondary
    · simp only [reportStatsNowNs, hsecondary, reduceIte, hstart]
      split
      · refine .inl (Undecided.trans (hread _ ?_) (failover_undecided env force _ _))
        exact ⟨rfl, rfl⟩
      · split
        · left
          dsimp only
          exact hactive _ (hread _ ⟨rfl, rfl⟩)
        · refine .inr ⟨primary, rfl, (hactive _ (hread _ ?_)).decided (release_decided hacc primary _)⟩
          exact ⟨rfl, rfl⟩
    · simp only [reportStatsNowNs, hsecondary, reduceIte, Bool.not_true, Bool.false_eq_true]
      split
      · left
        dsimp only
        exact hactive _ (hread _ ⟨rfl, rfl⟩)
      · refine .inr ⟨primary, rfl, (hactive _ (hread _ ?_)).decided (release_decided hacc primary _)⟩
        exact ⟨rfl, rfl⟩

/-! ### Counting the decisions -/

theorem rejectCount_update {stats stats' : ReportStats} {reason : RejectReason}
    (h : stats'.recoveryRejects =
      Function.update stats.recoveryRejects reason (stats.recoveryRejects reason + 1)) :
    stats'.rejectCount = stats.rejectCount + 1 := by
  rw [ReportStats.rejectCount, ReportStats.rejectCount, h,
    Finset.sum_update_of_mem (Finset.mem_univ reason),
    ← Finset.add_sum_erase _ stats.recoveryRejects (Finset.mem_univ reason),
    Finset.sdiff_singleton_eq_erase]
  omega

theorem rejectCount_congr {stats stats' : ReportStats}
    (h : stats'.recoveryRejects = stats.recoveryRejects) : stats'.rejectCount = stats.rejectCount := by
  rw [ReportStats.rejectCount, ReportStats.rejectCount, h]

/-- What was sent shows whether a record was recovered. -/
theorem not_recovers {l : List Event} (ht : w'.trace = w.trace ++ l)
    (hl : ∀ x ∈ sentEvents l, x.1.recovers = false) : ¬ Recovers w w' := by
  rintro ⟨route, r, hmem, hroute⟩
  rw [ht, List.drop_left] at hmem
  have hfalse := hl (route, r) (mem_sentEvents_iff.mpr hmem)
  rw [hroute] at hfalse
  cases hfalse

/-- **One decision for each released record.** With an accepting sink, an iteration of the drain loop
counts at most one reject, none if it recovers a record, and it counts an unrecoverable loss only with
a reject and for an intact, continuous record with content. -/
theorem drainIteration_one_decision (hacc : env.Accepting) (force : Bool) (w : World σ) :
    ((drainIteration env force w).2.stats.rejectCount = w.stats.rejectCount ∨
        (drainIteration env force w).2.stats.rejectCount = w.stats.rejectCount + 1) ∧
      (Recovers w (drainIteration env force w).2 →
        (drainIteration env force w).2.stats.rejectCount = w.stats.rejectCount) ∧
      ((drainIteration env force w).2.stats.unrecoverableLoss ≠ w.stats.unrecoverableLoss →
        (drainIteration env force w).2.stats.rejectCount = w.stats.rejectCount + 1 ∧
          ∃ primary, delayQueueFront w.engine.primaryQueue = some primary ∧ primary.isNull = false ∧
            primary.transportError = false ∧ primary.discontinuityIndicator = false) := by
  rcases drainIteration_decided hacc force w with h | ⟨primary, hfront, h⟩
  · have hcount := rejectCount_congr h.rejects
    exact ⟨.inl hcount, fun _ => hcount, fun hloss => absurd h.loss hloss⟩
  cases h with
  | undecided h =>
    have hcount := rejectCount_congr h.rejects
    exact ⟨.inl hcount, fun _ => hcount, fun hloss => absurd h.loss hloss⟩
  | recovered rejects loss =>
    have hcount := rejectCount_congr rejects
    exact ⟨.inl hcount, fun _ => hcount, fun hloss => absurd loss hloss⟩
  | rejected reason rejects loss sent =>
    obtain ⟨l, ht, hl⟩ := sent
    have hcount := rejectCount_update rejects
    refine ⟨.inr hcount, fun hrecovers => absurd hrecovers (not_recovers ht hl), fun hgrows => ?_⟩
    exact ⟨hcount, primary, hfront, loss.resolve_left hgrows⟩

/-- A primary packet waits for four packets that the secondary does not have either. -/
def lossyWorld : World Unit :=
  run (scriptedEnv [] 1) (freshWorld { promptConfig with primaryDelayNs := 5 } ())
    [.push .primary (pcrPacket 0x100 0 1).parse, .flush, .push .primary (payloadPacket 0x100 5 2).parse]

/-- Its release counts one reject and one loss. -/
theorem drainIteration_one_decision_lossyWorld :
    (drainIteration (scriptedEnv [] 1) true lossyWorld).2.stats.rejectCount =
        lossyWorld.stats.rejectCount + 1 ∧
      ∃ primary, delayQueueFront lossyWorld.engine.primaryQueue = some primary ∧
        primary.isNull = false ∧ primary.transportError = false ∧
          primary.discontinuityIndicator = false :=
  (drainIteration_one_decision (scriptedEnv_accepting [] 1) true lossyWorld).2.2 (by decide +kernel)

end TwoStream
