import TwoStreamRecovery.Anchor
import TwoStreamRecovery.LastSent

/-!
# While the primary stays the output

* `PrimaryStage`: the stages of a run that never switches to the secondary.
* `InTurn`: what the primary has received has been sent or waits.
* `recoveryEngineDrain_rule`: what the releases of a forced drain keep.
* `flush_empties`: a flush sends the whole primary queue.
-/

namespace TwoStream

open Relation

variable {σ : Type} {env : Env σ} {w w' : World σ}

/-! ### Stages -/

/-- The output is never switched to the secondary. -/
def StaysPrimary (trace : List Event) : Prop := ∀ nowNs e, .switched .secondary nowNs e ∉ trace

theorem StaysPrimary.of_prefix {t t' : List Event} (h : t <+: t') (ht : StaysPrimary t') :
    StaysPrimary t := fun nowNs e hmem => ht nowNs e (h.subset hmem)

theorem staysPrimary_of_switches {trace : List Event}
    (h : ∀ x ∈ switches trace, x.1 ≠ .secondary) : StaysPrimary trace := by
  intro nowNs e hmem
  have hswitch : (StreamId.secondary, nowNs) ∈ switches trace :=
    List.mem_filterMap.mpr ⟨_, hmem, rfl⟩
  exact h _ hswitch rfl

/-- Nothing that a release looks at changes. -/
structure Idle (w w' : World σ) : Prop where
  engine : ∃ start queue,
    w'.engine = { w.engine with primaryReturnStartNs := start, secondaryQueue := queue }
  stats : w'.stats = w.stats
  trace : ∃ l, w'.trace = w.trace ++ l ∧
    ∀ ev ∈ l, ∃ nowNs e, ev = .drain nowNs e ∨ ev = .failover nowNs e

/-- A stage of a run that stays on the primary. -/
inductive PrimaryStage (env : Env σ) (w : World σ) : World σ → Prop
  | ingest (streamId : StreamId) (p : ParsedPacket) : PrimaryStage env w (pushIngest env streamId p w)
  | idle {w' : World σ} (h : Idle w w') : PrimaryStage env w w'
  | discard : PrimaryStage env w (discardDrain env w)
  | release (primary : PacketRecord) (front : delayQueueFront w.engine.primaryQueue = some primary) :
      PrimaryStage env w (releasePrimary env primary w).2

theorem Idle.notes (h : Idle w w') :
    ∃ l, w'.trace = w.trace ++ l ∧ ∀ ev ∈ l, ev.IsNote := by
  obtain ⟨l, ht, hl⟩ := h.trace
  refine ⟨l, ht, fun ev hev => ?_⟩
  obtain ⟨nowNs, e, rfl | rfl⟩ := hl ev hev <;> trivial

theorem Idle.sentEvents_eq (h : Idle w w') : sentEvents w'.trace = sentEvents w.trace := by
  obtain ⟨l, ht, hl⟩ := h.notes
  rw [ht, sentEvents_append, sentEvents_of_notes hl, List.append_nil]

theorem Idle.pushedRecords_eq (h : Idle w w') (s : StreamId) :
    pushedRecords s w'.trace = pushedRecords s w.trace := by
  obtain ⟨l, ht, hl⟩ := h.notes
  rw [ht, pushedRecords_append, pushedRecords_of_notes hl, List.append_nil]

theorem not_staysPrimary_of_switch (hactive : w.engine.activeOutputStreamId = .primary) :
    ¬ StaysPrimary (setActiveOutputStream env w .secondary).trace := by
  obtain ⟨l, ht, ⟨-, h⟩ | ⟨rfl, -⟩⟩ := setActiveOutputStream_trace env w .secondary
  · rw [hactive] at h
    cases h
  · rw [ht]
    exact fun hstays => hstays (w.lastReading env) w.engine (by simp)

/-- A failover routine that does not switch does nothing. -/
theorem failover_idle {force : Bool} {nowNs n : ℕ}
    (hactive : w.engine.activeOutputStreamId = .primary)
    (hstays : StaysPrimary (failoverLoop env force n (enterFailover nowNs w)).2.trace) :
    Idle w (failoverLoop env force n (enterFailover nowNs w)).2 := by
  refine (failoverLoop_rule (J := fun w₁ => ¬ StaysPrimary w₁.trace ∨ Idle w w₁) ?_ ?_ ?_ n _
    (.inr ?_)).resolve_left (not_not.mpr hstays)
  · rintro w₁ (h | ⟨he, hs, ht⟩)
    · exact .inl h
    · exact .inr ⟨he, hs, ht⟩
  · rintro w₁ r s - (h | h)
    · exact .inl fun hstays => h (hstays.of_prefix (failoverSent_appends w₁ r s))
    · obtain ⟨start, queue, he⟩ := h.engine
      have hactive₁ : w₁.engine.activeOutputStreamId = .primary := by rw [he]; exact hactive
      left
      intro hstays
      rw [failoverSent_trace] at hstays
      exact not_staysPrimary_of_switch hactive₁ (hstays.of_prefix (List.prefix_append _ _))
  · rintro w₁ s - (h | h)
    · exact .inl fun hstays => h (hstays.of_prefix (setActiveOutputStream_appends w₁ .secondary))
    · obtain ⟨start, queue, he⟩ := h.engine
      have hactive₁ : w₁.engine.activeOutputStreamId = .primary := by rw [he]; exact hactive
      exact .inl (not_staysPrimary_of_switch hactive₁)
  · obtain ⟨ring, he, -⟩ := discardSecondary_engine w.engine
    exact ⟨⟨_, _, he⟩, rfl, [.failover nowNs w.engine], rfl, by simp⟩

/-- With the primary as the output, a stage is one of those above or the failover routine. -/
theorem Stage.primary_or_failover (h : Stage env w w')
    (hactive : w.engine.activeOutputStreamId = .primary) :
    PrimaryStage env w w' ∨ ∃ force nowNs,
      w' = (failoverLoop env force (enterFailover nowNs w).engine.secondaryQueue.ring.count
        (enterFailover nowNs w)).2 := by
  cases h with
  | ingest streamId p => exact .inl (.ingest streamId p)
  | sink s => exact .inl (.idle ⟨⟨_, _, rfl⟩, rfl, [], by simp, by simp⟩)
  | read => exact .inl (.idle ⟨⟨_, _, rfl⟩, rfl, [], by simp [reportStatsNowNs], by simp⟩)
  | wait _ idle =>
    obtain ⟨start, he⟩ := openDrain_engine env w
    exact .inl (.idle ⟨⟨start, _, he⟩, rfl, [.drain (env.clock w.reads) w.engine], openDrain_trace w,
      by simp⟩)
  | discard _ nonempty ready => exact .inl .discard
  | takeOver _ ready =>
    have hsame : setActiveOutputStream env w .primary = w := by
      rw [setActiveOutputStream, if_pos hactive]
    rw [hsame]
    exact .inl (.idle ⟨⟨_, _, rfl⟩, rfl, [], by simp, by simp⟩)
  | release primary _ front active => exact .inl (.release primary front)
  | failover force nowNs _ guard => exact .inr ⟨force, nowNs, rfl⟩

/-- **The stages on the primary.** -/
theorem Stage.onPrimary (h : Stage env w w') (hactive : w.engine.activeOutputStreamId = .primary)
    (hstays : StaysPrimary w'.trace) : PrimaryStage env w w' := by
  rcases h.primary_or_failover hactive with hstage | ⟨force, nowNs, rfl⟩
  · exact hstage
  · exact .idle (failover_idle hactive hstays)

/-- The output stays the primary. -/
theorem PrimaryStage.active (h : PrimaryStage env w w') :
    w'.engine.activeOutputStreamId = w.engine.activeOutputStreamId := by
  cases h with
  | ingest streamId p =>
    obtain ⟨a, i, q, q', he⟩ := (pushIngest_ingested env streamId p w).engine
    rw [he]
  | idle h =>
    obtain ⟨start, queue, he⟩ := h.engine
    rw [he]
  | discard =>
    obtain ⟨start, ring, he, -⟩ := discardDrain_engine env w
    rw [he]
  | release primary front =>
    exact (releasePrimary_outcome env primary w).frame.1.activeOutputStreamId

/-! ### In turn -/

/-- The primary is the output, and its records have been sent or wait. -/
structure InTurn (w : World σ) : Prop where
  active : w.engine.activeOutputStreamId = .primary
  order : sentRecords w.trace ++ w.engine.primaryQueue.toList = pushedRecords .primary w.trace

/-- Nothing of the secondary has been sent. -/
theorem InTurn.no_secondary (hconsistent : Consistent w) (hsent : SentKnown w) (hw : InTurn w) :
    w.engine.hasOutputStreamIndex .secondary = false := by
  have hindex := hsent.index .secondary
  have hnone : (sentRecords w.trace).filter (fun r => r.sourceStreamId = .secondary) = [] := by
    rw [List.filter_eq_nil_iff]
    intro r hr
    have hmem : r ∈ pushedRecords .primary w.trace := by
      rw [← hw.order]
      exact List.mem_append_left _ hr
    simp [hconsistent.source_of_mem hmem]
  rw [lastIndex, hnone, RecoveryEngine.outputIndex] at hindex
  by_contra hsome
  rw [if_pos (by simpa using hsome)] at hindex
  cases hindex

theorem Ingested.inTurn {streamId : StreamId} {p : ParsedPacket} (h : Ingested env streamId p w w')
    (hkept : .overflow .primary ∉ w'.trace.drop w.trace.length) (hw : InTurn w) : InTurn w' := by
  have hsent : sentRecords w'.trace = sentRecords w.trace := congrArg (List.map Prod.snd) h.sentEvents_eq
  obtain ⟨a, i, q, q', he⟩ := h.engine
  refine ⟨?_, ?_⟩
  · rw [he]
    exact hw.active
  · rw [hsent, h.pushed .primary, ← hw.order, List.append_assoc]
    congr 1
    cases streamId with
    | primary =>
      obtain ⟨l, ht, -, -, ⟨-, hqueue⟩ | ⟨hover, -⟩⟩ := h.trace
      · exact hqueue
      · refine absurd ?_ hkept
        rw [ht, List.drop_left]
        exact List.mem_cons_of_mem _ hover
    | secondary =>
      have hother : w'.engine.primaryQueue = w.engine.primaryQueue := h.otherQueue
      rw [hother, if_neg (by simp), List.append_nil]

theorem Idle.inTurn (h : Idle w w') (hw : InTurn w) : InTurn w' := by
  have hsent : sentRecords w'.trace = sentRecords w.trace := congrArg (List.map Prod.snd) h.sentEvents_eq
  obtain ⟨start, queue, he⟩ := h.engine
  refine ⟨?_, ?_⟩
  · rw [he]
    exact hw.active
  · rw [hsent, h.pushedRecords_eq, he]
    exact hw.order

/-- A drain drops nothing. -/
theorem discard_inTurn (hconsistent : Consistent w) (hsent : SentKnown w) (hw : InTurn w) :
    InTurn (discardDrain env w) := by
  have hnone := hw.no_secondary hconsistent hsent
  have hkeeps : KeepsOrder w (discardDrain env w) := by
    apply discardDrain_keepsOrder
    intro r hr
    simp [primaryRecordAlreadyOutputBySecondary, hnone]
  obtain ⟨start, ring, he, -⟩ := discardDrain_engine env w
  refine ⟨?_, ?_⟩
  · rw [he]
    exact hw.active
  · rw [hkeeps.queue, hkeeps.pushed, discardDrain_trace, sentRecords_append]
    exact (congrArg (· ++ _) (List.append_nil _)).trans hw.order

/-! ### Releases -/

/-- An undamaged record is sent by its release. -/
theorem ReleaseOutcome.undamaged {primary : PacketRecord} {res : Iteration × World σ}
    (hacc : env.Accepting) (hundamaged : primary.transportError = false)
    (h : ReleaseOutcome env primary w res) :
    ∃ w₁ s, Prepared primary (openRelease primary w) w₁ ∧
      res = (.next, finishRelease primary w { w₁ with sinkState := s }) := by
  cases h with
  | replaced damaged check => simp [hundamaged] at damaged
  | @sent w₁ s prepared => exact ⟨w₁, s, prepared, rfl⟩
  | refused refuses prepared => exact absurd hacc refuses
  | refusedReplacement refuses => exact absurd hacc refuses
  | refusedGap refuses evidence => exact absurd hacc refuses

/-! ### Without failover -/

/-- Not failover, which is entered when the primary is silent. -/
def Event.heard : Event → Bool
  | .failover _ _ => false
  | _ => true

/-- What a stage adds comes after what an earlier state has recorded. -/
theorem mem_drop_of_grow {t₀ t t' l : List Event} {ev : Event} (hgrows : t₀ <+: t)
    (h : t ++ ev :: l <+: t') : ev ∈ t'.drop t₀.length := by
  obtain ⟨rest, rfl⟩ := h
  have hlength := hgrows.length_le
  rw [List.append_assoc, List.drop_append_of_le_length hlength]
  simp

/-- Failover leaves a mark. -/
theorem failover_mark (env : Env σ) (force : Bool) (nowNs n : ℕ) (w : World σ) :
    w.trace ++ [.failover nowNs w.engine] <+: (failoverLoop env force n (enterFailover nowNs w)).2.trace :=
  failoverLoop_appends force n (enterFailover nowNs w)

/-- Where failover is not entered, its routine does nothing. -/
theorem drainSecondary_of_heard {w₀ : World σ} {force : Bool} {nowNs : ℕ} (hgrows : w₀.trace <+: w.trace)
    (hheard : ∀ ev ∈ (drainSecondaryOnPrimaryOutage env force nowNs w).2.trace.drop w₀.trace.length,
      ev.heard = true) : drainSecondaryOnPrimaryOutage env force nowNs w = (true, w) := by
  unfold drainSecondaryOnPrimaryOutage at hheard ⊢
  split
  · rfl
  · next hguard =>
    rw [if_neg hguard] at hheard
    have hmark := hheard _ (mem_drop_of_grow hgrows (failover_mark env force nowNs _ w))
    cases hmark

/-! ### Flushing -/

theorem drainReady_of_primary (hactive : w.engine.activeOutputStreamId = .primary) :
    drainReady env w = true := by
  rw [drainReady, primaryReturnHoldoffElapsed, if_pos (by simp [hactive])]

/-- **Rule of a forced drain loop:** what reading the clock and releasing keep holds when the primary
queue has run empty. -/
theorem drainLoop_rule {J : World σ → Prop} (hacc : env.Accepting)
    (hactive : ∀ w, J w → w.engine.activeOutputStreamId = .primary)
    (hread : ∀ w, J w → J (reportStatsNowNs env w).2)
    (hrelease : ∀ w primary, delayQueueFront w.engine.primaryQueue = some primary → J w →
      J (releasePrimary env primary w).2)
    (n : ℕ) (w : World σ) (hw : J w) (hn : w.engine.primaryQueue.toList.length ≤ n) :
    ∃ w', J w' ∧ w'.engine.primaryQueue.toList = [] ∧ drainLoop env true n w = drainTail env true w' := by
  induction n generalizing w with
  | zero => exact ⟨w, hw, List.length_eq_zero_iff.mp (Nat.le_zero.mp hn), rfl⟩
  | succ n ih =>
    rw [drainLoop, drainIteration_of_primary true (hactive w hw)]
    cases hfront : delayQueueFront w.engine.primaryQueue with
    | none =>
      rw [delayQueueFront_eq, List.head?_eq_none_iff] at hfront
      exact ⟨w, hw, hfront, rfl⟩
    | some primary =>
      have hdue : notYetDue true w.engine.primaryQueue primary (env.clock w.reads) = false := by
        simp [notYetDue]
      have hreleased := hrelease (reportStatsNowNs env w).2 primary hfront (hread w hw)
      have hframe := (releasePrimary_outcome env primary (reportStatsNowNs env w).2).frame
      simp only [hdue, Bool.false_eq_true, if_false]
      generalize releasePrimary env primary (reportStatsNowNs env w).2 = res at hframe hreleased
      obtain ⟨-, -, ⟨hnext, hpop⟩ | ⟨-, hrefuses, -⟩⟩ := hframe
      · obtain ⟨it, w'⟩ := res
        obtain rfl : it = .next := hnext
        refine ih w' hreleased ?_
        have hpop : w'.engine.primaryQueue = delayQueuePop w.engine.primaryQueue := hpop
        rw [hpop, toList_delayQueuePop, List.length_tail]
        omega
      · exact absurd hacc hrefuses

/-- The loop of a forced drain runs until the primary queue is empty. -/
theorem drainLoop_empties (hacc : env.Accepting) (n : ℕ) (w : World σ)
    (hactive : w.engine.activeOutputStreamId = .primary)
    (hn : w.engine.primaryQueue.toList.length ≤ n) :
    (drainLoop env true n w).2.engine.primaryQueue.toList = [] := by
  obtain ⟨w', -, hempty, hloop⟩ := drainLoop_rule
    (J := fun w => w.engine.activeOutputStreamId = .primary) hacc (fun _ h => h) (fun _ h => h)
    (fun w primary _ h =>
      (releasePrimary_outcome env primary w).frame.1.activeOutputStreamId.trans h) n w hactive hn
  have hconsumes := Consumes.of_steps ((consumes_drainSteps env).drainTail true w')
  have hsuffix : (drainTail env true w').2.engine.primaryQueue.toList <:+
      w'.engine.primaryQueue.toList := hconsumes.queue .primary
  rw [hempty] at hsuffix
  rw [hloop]
  exact List.suffix_nil.mp hsuffix

/-- **A forced drain empties the primary queue.** -/
theorem recoveryEngineDrain_empties (hacc : env.Accepting) (w : World σ)
    (hactive : w.engine.activeOutputStreamId = .primary) :
    (recoveryEngineDrain env true w).2.engine.primaryQueue.toList = [] := by
  have hsecondary (force : Bool) (nowNs : ℕ) (w : World σ)
      (hempty : w.engine.primaryQueue.ring.count = 0) :
      (drainSecondaryOnPrimaryOutage env force nowNs w).2.engine.primaryQueue.toList = [] := by
    have hconsumes : Consumes w (drainSecondaryOnPrimaryOutage env force nowNs w).2 := by
      unfold drainSecondaryOnPrimaryOutage
      split
      · exact .refl w
      · exact failover_consumes env force nowNs w _
    have hsuffix : (drainSecondaryOnPrimaryOutage env force nowNs w).2.engine.primaryQueue.toList <:+
        w.engine.primaryQueue.toList := hconsumes.queue .primary
    rw [show w.engine.primaryQueue.toList = [] from (RingBuffer.count_eq_zero_iff _).mp hempty]
      at hsuffix
    exact List.suffix_nil.mp hsuffix
  rw [recoveryEngineDrain_eq, drainReady_of_primary hactive]
  split
  · next hempty =>
    split
    · exact (RingBuffer.count_eq_zero_iff _).mp hempty
    · exact hsecondary true _ _ hempty
  · split
    · next h => simp at h
    · split
      · next hempty =>
        split
        · exact (RingBuffer.count_eq_zero_iff _).mp hempty
        · exact hsecondary true _ _ hempty
      · apply drainLoop_empties hacc _ _ (setActiveOutputStream_active env _ _)
        rw [DelayQueue.toList, RingBuffer.length_toList]

/-- **Rule of a forced drain without failover:** what holds when the primary queue has been looked
through, and reading the clock and releasing keep, holds at the end. -/
theorem recoveryEngineDrain_rule {J : World σ → Prop} (hacc : env.Accepting)
    (hprimary : w.engine.activeOutputStreamId = .primary)
    (hactive : ∀ w, J w → w.engine.activeOutputStreamId = .primary)
    (hread : ∀ w, J w → J (reportStatsNowNs env w).2)
    (hrelease : ∀ w primary, delayQueueFront w.engine.primaryQueue = some primary → J w →
      J (releasePrimary env primary w).2)
    (hopen : w.engine.primaryQueue.ring.count = 0 → J (openDrain env w))
    (hdiscard : w.engine.primaryQueue.ring.count ≠ 0 → J (discardDrain env w))
    (hheard : ∀ ev ∈ (recoveryEngineDrain env true w).2.trace.drop w.trace.length, ev.heard = true) :
    J (recoveryEngineDrain env true w).2 := by
  have hopened : w.trace <+: (openDrain env w).trace := List.prefix_append _ _
  have hdiscarded : w.trace <+: (discardDrain env w).trace := List.prefix_append _ _
  have hqueue : (openDrain env w).engine.primaryQueue = w.engine.primaryQueue := by
    obtain ⟨start, he⟩ := openDrain_engine env w
    rw [he]
  rw [recoveryEngineDrain_eq, drainReady_of_primary hprimary, hqueue] at hheard ⊢
  by_cases hempty : w.engine.primaryQueue.ring.count = 0
  · rw [if_pos hempty] at hheard ⊢
    split
    · exact hopen hempty
    · next hstay =>
      rw [if_neg hstay] at hheard
      rw [drainSecondary_of_heard hopened hheard]
      exact hopen hempty
  · rw [if_neg hempty, if_neg (by simp)] at hheard ⊢
    have hkept := hdiscard hempty
    by_cases hgone : (discardDrain env w).engine.primaryQueue.ring.count = 0
    · rw [if_pos hgone] at hheard ⊢
      split
      · exact hkept
      · next hstay =>
        rw [if_neg hstay] at hheard
        rw [drainSecondary_of_heard hdiscarded hheard]
        exact hkept
    · rw [if_neg hgone] at hheard ⊢
      have hsame : setActiveOutputStream env (discardDrain env w) .primary = discardDrain env w := by
        rw [setActiveOutputStream, if_pos (hactive _ hkept)]
      rw [hsame] at hheard ⊢
      have hlength : (discardDrain env w).engine.primaryQueue.toList.length ≤
          (discardDrain env w).engine.primaryQueue.ring.count := by
        rw [DelayQueue.toList, RingBuffer.length_toList]
      obtain ⟨w', ⟨hw', hgrows⟩, hlast, hloop⟩ := drainLoop_rule
        (J := fun w' => J w' ∧ w.trace <+: w'.trace) hacc (fun w' h => hactive w' h.1)
        (fun w' h => ⟨hread w' h.1, h.2⟩) (fun w' primary hfront h => ⟨hrelease w' primary hfront h.1, by
          obtain ⟨l, ht, -⟩ := (releasePrimary_outcome env primary w').trace
          rw [ht]
          exact h.2.trans (List.prefix_append _ _)⟩) _ _ ⟨hkept, hdiscarded⟩ hlength
      have hzero : w'.engine.primaryQueue.ring.count = 0 := (RingBuffer.count_eq_zero_iff _).mpr hlast
      rw [hloop, drainTail, if_pos hzero] at hheard ⊢
      have hgrows' : w.trace <+: (reportStatsNowNs env w').2.trace := hgrows
      show J (drainSecondaryOnPrimaryOutage env true (env.clock w'.reads) (reportStatsNowNs env w').2).2
      rw [drainSecondary_of_heard hgrows' hheard]
      exact hread w' hw'

/-- Behind its drain, a flush only flushes the sink. -/
theorem recoveryEngineFlush_world (env : Env σ) (w : World σ) :
    ∃ s, (recoveryEngineFlush env w).2 = { (recoveryEngineDrain env true w).2 with sinkState := s } := by
  unfold recoveryEngineFlush
  rcases recoveryEngineDrain env true w with ⟨_ | _, w'⟩
  · exact ⟨w'.sinkState, rfl⟩
  · simp only
    split
    · exact ⟨w'.sinkState, rfl⟩
    · exact ⟨_, rfl⟩

theorem flush_empties (hacc : env.Accepting) (w : World σ)
    (hactive : w.engine.activeOutputStreamId = .primary) :
    (recoveryEngineFlush env w).2.engine.primaryQueue.toList = [] := by
  obtain ⟨s, hflush⟩ := recoveryEngineFlush_world env w
  rw [hflush]
  exact recoveryEngineDrain_empties hacc w hactive

end TwoStream
