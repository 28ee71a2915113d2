import TwoStreamRecovery.Engine.Trace

/-!
# What holds in every reachable state

* `Consumes`: every stage but a push leaves the inputs alone and takes records off the queues in
  order.
* `Consistent`: the histories and queues hold the latest pushes, a record's index is its place among
  the pushes of its stream, and the queues are sent in order.
* `reachable_consistent`.
-/

namespace TwoStream

open Relation

variable {σ : Type} {env : Env σ} {w w' w'' : World σ}

/-! ### Stages that push nothing -/

/-- The counters of the input side. -/
def ReportStats.inputs (stats : ReportStats) : ℕ × ℕ × ℕ × ℤ × ℕ :=
  (stats.primaryDelayOverflows, stats.secondaryLossEvents, stats.secondaryMissingPackets,
    stats.alignmentOffsetPackets, stats.alignmentConfidence)

/-- The counters of the switches, and the active stream as the counters know it. -/
def ReportStats.switching (stats : ReportStats) : (StreamId → ℕ) × StreamId :=
  (stats.sourceSwitches, stats.activeOutputStreamId)

/-- Nothing is pushed, and the queues are only consumed from the front. -/
structure Consumes (w w' : World σ) : Prop where
  config : w'.engine.config = w.engine.config
  history : w'.engine.history = w.engine.history
  nextStreamIndex : w'.engine.nextStreamIndex = w.engine.nextStreamIndex
  lastInputArrivalNs : w'.engine.lastInputArrivalNs = w.engine.lastInputArrivalNs
  alignment : w'.engine.alignment = w.engine.alignment
  inputPidState : w'.engine.inputPidState = w.engine.inputPidState
  inputs : w'.stats.inputs = w.stats.inputs
  overflow : ∀ s, .overflow s ∈ w'.trace → .overflow s ∈ w.trace
  pushed : ∀ s, pushedRecords s w'.trace = pushedRecords s w.trace
  queue : ∀ s, (w'.engine.queue s).toList <:+ (w.engine.queue s).toList
  order : ∀ s, (queueSent s w'.trace ++ (w'.engine.queue s).toList).Sublist
    (queueSent s w.trace ++ (w.engine.queue s).toList)

theorem Consumes.trans (h : Consumes w w') (h' : Consumes w' w'') : Consumes w w'' where
  config := h'.config.trans h.config
  history := h'.history.trans h.history
  nextStreamIndex := h'.nextStreamIndex.trans h.nextStreamIndex
  lastInputArrivalNs := h'.lastInputArrivalNs.trans h.lastInputArrivalNs
  alignment := h'.alignment.trans h.alignment
  inputPidState := h'.inputPidState.trans h.inputPidState
  inputs := h'.inputs.trans h.inputs
  overflow s hs := h.overflow s (h'.overflow s hs)
  pushed s := (h'.pushed s).trans (h.pushed s)
  queue s := (h'.queue s).trans (h.queue s)
  order s := (h'.order s).trans (h.order s)

theorem Consumes.overflows (h : Consumes w w') :
    w'.stats.primaryDelayOverflows = w.stats.primaryDelayOverflows := congrArg Prod.fst h.inputs

/-- Only notes are written and the queues stay. -/
theorem consumes_of_notes {l : List Event} (ht : w'.trace = w.trace ++ l) (hl : ∀ ev ∈ l, ev.IsNote)
    (hover : ∀ s, .overflow s ∉ l) (hconfig : w'.engine.config = w.engine.config)
    (hhistory : w'.engine.history = w.engine.history)
    (hnext : w'.engine.nextStreamIndex = w.engine.nextStreamIndex)
    (harrival : w'.engine.lastInputArrivalNs = w.engine.lastInputArrivalNs)
    (halignment : w'.engine.alignment = w.engine.alignment)
    (hinput : w'.engine.inputPidState = w.engine.inputPidState)
    (hinputs : w'.stats.inputs = w.stats.inputs)
    (hqueue : ∀ s, (w'.engine.queue s).toList <:+ (w.engine.queue s).toList) : Consumes w w' where
  config := hconfig
  history := hhistory
  nextStreamIndex := hnext
  lastInputArrivalNs := harrival
  alignment := halignment
  inputPidState := hinput
  inputs := hinputs
  overflow s hs := by
    rw [ht] at hs
    exact (List.mem_append.mp hs).resolve_right (hover s)
  pushed s := by rw [ht, pushedRecords_append, pushedRecords_of_notes hl, List.append_nil]
  queue := hqueue
  order s := by
    have hnone : queueSent s l = [] := by rw [queueSent, sentEvents_of_notes hl, List.filterMap_nil]
    rw [ht, queueSent_append, hnone, List.append_nil]
    exact (hqueue s).sublist.append_left _

/-- Sending leaves the counters of the input side and of the switches alone. -/
theorem acceptStats_kept (state : PidState) (r : PacketRecord) (stats : ReportStats) :
    (acceptStats state r stats).inputs = stats.inputs ∧
      (acceptStats state r stats).switching = stats.switching := by
  simp only [acceptStats, observeOutputStats, reportStatsObserveOutputDatagram]
  split_ifs <;> exact ⟨rfl, rfl⟩

theorem acceptAll_kept {route : Route} {nullFlag : PacketRecord → Bool} (L : List PacketRecord) :
    (acceptAll route nullFlag w L).stats.inputs = w.stats.inputs ∧
      (acceptAll route nullFlag w L).stats.switching = w.stats.switching := by
  induction L generalizing w with
  | nil => exact ⟨rfl, rfl⟩
  | cons r rest ih =>
    have hr := acceptStats_kept (w.engine.outputPidState r.pid) r w.stats
    have hrest := ih (w := acceptRecovered route nullFlag w r)
    rw [← acceptRecord_stats route] at hr
    exact ⟨hrest.1.trans hr.1, hrest.2.trans hr.2⟩

theorem gapBurst_kept (kind : GapKind) (n : ℕ) :
    (gapBurst kind n w).stats.inputs = w.stats.inputs ∧
      (gapBurst kind n w).stats.switching = w.stats.switching := by
  cases kind with
  | nullPosition => exact ⟨rfl, rfl⟩
  | _ =>
    simp only [gapBurst, countContentBurst]
    split <;> exact ⟨rfl, rfl⟩

theorem recoveryRejectLog_kept (primary : PacketRecord)
    (previousCc missingCount : Option ℕ) (candidate before after : Bool)
    (rejectReason : RejectReason) (reason : ReasonName) :
    let w' := recoveryRejectLog w primary previousCc missingCount candidate before after rejectReason
      reason
    w'.stats.inputs = w.stats.inputs ∧ w'.stats.switching = w.stats.switching := by
  simp only [recoveryRejectLog, observeUnrecoverablePrimaryGap]
  split
  · exact ⟨rfl, rfl⟩
  · split_ifs <;> exact ⟨rfl, rfl⟩

theorem Prepared.kept {primary : PacketRecord} (h : Prepared primary w w') :
    w'.stats.inputs = w.stats.inputs ∧ w'.stats.switching = w.stats.switching := by
  cases h with
  | fits => exact ⟨rfl, rfl⟩
  | rejected => exact recoveryRejectLog_kept _ _ _ _ _ _ _ _
  | @inserted kind secondaryMatch L previousCc decision s unique evidence adjacent =>
    have hburst := gapBurst_kept kind L.length
      (w := { acceptAll (.gap kind primary secondaryMatch) (gapNullFlag kind)
        (gapLogged w primary L.length previousCc decision) L with sinkState := s })
    exact ⟨hburst.1.trans (acceptAll_kept L).1, hburst.2.trans (acceptAll_kept L).2⟩

theorem ReleaseOutcome.kept {primary : PacketRecord} {res : Iteration × World σ}
    (h : ReleaseOutcome env primary w res) :
    res.2.stats.inputs = w.stats.inputs ∧ res.2.stats.switching = w.stats.switching := by
  cases h with
  | replaced =>
    simp only [popPrimary, acceptRecovered, reportStatsObserveRecovery, acceptRecord_stats]
    exact acceptStats_kept _ _ _
  | sent prepared =>
    simp only [popPrimary, updatePrimaryAnchor_stats, acceptRecord_stats]
    have haccept := acceptStats_kept
    exact ⟨(haccept _ _ _).1.trans prepared.kept.1, (haccept _ _ _).2.trans prepared.kept.2⟩
  | refused refuses prepared => exact prepared.kept
  | refusedReplacement => exact ⟨rfl, rfl⟩
  | refusedGap => exact acceptAll_kept _

theorem ReleaseOutcome.overflows {primary : PacketRecord} {res : Iteration × World σ}
    (h : ReleaseOutcome env primary w res) :
    res.2.stats.primaryDelayOverflows = w.stats.primaryDelayOverflows := congrArg Prod.fst h.kept.1

/-- The records of an insertion come from no queue. -/
theorem queueSent_gapSent {l : List Event} {kind : GapKind} {primary M : PacketRecord}
    {L : List PacketRecord} (h : sentEvents l = gapSent kind primary M L) (s : StreamId) :
    queueSent s l = [] := by
  refine queueSent_eq_nil fun x hx => ?_
  rw [h, gapSent, List.mem_map] at hx
  obtain ⟨r, -, rfl⟩ := hx
  cases s <;> simp [queueRoute]

/-- A release that goes on has sent its own record from the queue, or replaced it. -/
theorem queueSent_releaseSent {l : List Event} {primary : PacketRecord}
    (h : ReleaseSent primary (sentEvents l)) (s : StreamId) :
    queueSent s l = [] ∨ s = .primary ∧ queueSent s l = [primary] := by
  rcases h with ⟨kind, M, L, h⟩ | ⟨c, h⟩
  · have hgap : queueSent s l = if Route.passThrough = queueRoute s then [primary] else [] := by
      rw [queueSent, h, List.filterMap_append, List.filterMap_eq_nil_iff.mpr, List.nil_append]
      · cases s <;> simp [queueRoute]
      · intro x hx
        obtain ⟨r, -, rfl⟩ := List.mem_map.mp hx
        cases s <;> simp [queueRoute]
    cases s with
    | primary => exact .inr ⟨rfl, by simpa [queueRoute] using hgap⟩
    | secondary => exact .inl (by simpa [queueRoute] using hgap)
  · left
    rw [queueSent, h]
    cases s <;> simp [queueRoute]

theorem release_consumes {primary : PacketRecord} {res : Iteration × World σ}
    (h : ReleaseOutcome env primary w res)
    (hfront : delayQueueFront w.engine.primaryQueue = some primary) : Consumes w res.2 := by
  obtain ⟨hsame, -, hframe⟩ := h.frame
  obtain ⟨l, ht, hl, hsent⟩ := h.trace
  rw [delayQueueFront_eq, List.head?_eq_some_iff] at hfront
  obtain ⟨rest, hrest⟩ := hfront
  have hsecondary : (res.2.engine.queue .secondary).toList = (w.engine.queue .secondary).toList := by
    simp only [RecoveryEngine.queue, hsame.secondaryQueue]
  have hqueue : ∀ s, (res.2.engine.queue s).toList <:+ (w.engine.queue s).toList := by
    rintro (_ | _)
    · rcases hframe with ⟨-, h⟩ | ⟨-, -, h⟩
      · simp only [RecoveryEngine.queue, h, toList_delayQueuePop]
        exact List.tail_suffix _
      · simp only [RecoveryEngine.queue, h]
        exact List.suffix_rfl
    · rw [hsecondary]
  have hadd : ∀ s, queueSent s res.2.trace = queueSent s w.trace ++ queueSent s l := by
    intro s
    rw [ht, queueSent_append]
    rfl
  refine ⟨hsame.config, hsame.history, hsame.nextStreamIndex, hsame.lastInputArrivalNs,
    hsame.alignment, hsame.inputPidState, h.kept.1, fun s hs => ?_, fun s => ?_, hqueue, fun s => ?_⟩
  · rw [ht] at hs
    refine (List.mem_append.mp hs).resolve_right fun hs => ?_
    rcases List.mem_cons.mp hs with hs | hs
    · cases hs
    · exact hl _ hs
  · rw [ht, pushedRecords_append]
    change _ ++ pushedRecords s l = _
    rw [Event.OfRelease.not_pushed hl, List.append_nil]
  · rw [hadd s]
    have hnil : queueSent s l = [] →
        (queueSent s w.trace ++ queueSent s l ++ (res.2.engine.queue s).toList).Sublist
          (queueSent s w.trace ++ (w.engine.queue s).toList) := by
      intro h
      rw [h, List.append_nil]
      exact (hqueue s).sublist.append_left _
    rcases hsent with ⟨hnext, hsent⟩ | ⟨-, kind, M, L, hsent⟩
    · rcases queueSent_releaseSent hsent s with h | ⟨rfl, h⟩
      · exact hnil h
      · rcases hframe with ⟨-, hpop⟩ | ⟨hdone, -⟩
        · simp only [RecoveryEngine.queue, hpop, toList_delayQueuePop, h, hrest]
          rw [List.tail_cons, List.append_assoc, List.singleton_append]
        · rw [hnext] at hdone
          cases hdone
    · exact hnil (queueSent_gapSent hsent s)

theorem failoverSent_consumes {r : PacketRecord} {s : σ}
    (hfront : delayQueueFront w.engine.secondaryQueue = some r) :
    Consumes w (failoverSent env w r s) := by
  obtain ⟨l, ht, hl⟩ := setActiveOutputStream_trace env w .secondary
  rw [delayQueueFront_eq, List.head?_eq_some_iff] at hfront
  obtain ⟨rest, hrest⟩ := hfront
  have hnote : ∀ ev ∈ l, ev.IsNote := by
    rcases hl with ⟨rfl, -⟩ | ⟨rfl, -⟩ <;> simp [Event.IsNote]
  have htrace : (failoverSent env w r s).trace = w.trace ++ l ++ [.sent .failover r] := by
    rw [failoverSent_trace, ht]
  have hstats : (setActiveOutputStream env w .secondary).stats.inputs = w.stats.inputs := by
    unfold setActiveOutputStream
    split <;> rfl
  refine ⟨?_, ?_, ?_, ?_, ?_, ?_, ?_, fun s hs => ?_, fun s => ?_, fun s => ?_, fun s => ?_⟩
  · rw [failoverSent_engine]
  · rw [failoverSent_engine]
  · rw [failoverSent_engine]
  · rw [failoverSent_engine]
  · rw [failoverSent_engine]
  · rw [failoverSent_engine]
  · simp only [failoverSent, acceptRecord_stats]
    exact (acceptStats_kept _ _ _).1.trans hstats
  · rw [htrace] at hs
    have hl' : .overflow s ∉ l := by rcases hl with ⟨rfl, -⟩ | ⟨rfl, -⟩ <;> simp
    simpa [hl'] using hs
  · rw [htrace, pushedRecords_append, pushedRecords_append, pushedRecords_of_notes hnote]
    simp
  · rw [failoverSent_engine]
    cases s with
    | primary => exact List.suffix_rfl
    | secondary =>
      simp only [RecoveryEngine.queue, toList_delayQueuePop]
      exact List.tail_suffix _
  · have hnone : queueSent s l = [] := by
      rw [queueSent, sentEvents_of_notes hnote, List.filterMap_nil]
    rw [htrace, queueSent_append, queueSent_append, hnone, List.append_nil, failoverSent_engine]
    cases s with
    | primary => simp [RecoveryEngine.queue, queueSent, queueRoute]
    | secondary =>
      simp only [RecoveryEngine.queue, toList_delayQueuePop, hrest, queueSent, sentEvents_sent,
        queueRoute]
      simp

theorem Consumes.refl (w : World σ) : Consumes w w :=
  ⟨rfl, rfl, rfl, rfl, rfl, rfl, rfl, fun _ => id, fun _ => rfl, fun _ => List.suffix_rfl,
    fun _ => List.Sublist.refl _⟩

theorem setActiveOutputStream_consumes (env : Env σ) (w : World σ) (streamId : StreamId) (s : σ) :
    Consumes w { setActiveOutputStream env w streamId with sinkState := s } := by
  obtain ⟨l, ht, hl⟩ := setActiveOutputStream_trace env w streamId
  have hnote : ∀ ev ∈ l, ev.IsNote := by
    rcases hl with ⟨rfl, -⟩ | ⟨rfl, -⟩ <;> simp [Event.IsNote]
  have he := setActiveOutputStream_engine env w streamId
  have hover : ∀ s, .overflow s ∉ l := by
    intro s
    rcases hl with ⟨rfl, -⟩ | ⟨rfl, -⟩ <;> simp
  refine consumes_of_notes ht hnote hover ?_ ?_ ?_ ?_ ?_ ?_ ?_ fun s => ?_
  · simp only [he]
  · simp only [he]
  · simp only [he]
  · simp only [he]
  · simp only [he]
  · simp only [he]
  · simp only [setActiveOutputStream]
    split <;> rfl
  · simp only [he]
    cases s <;> exact List.suffix_rfl

theorem openDrain_consumes (env : Env σ) (w : World σ) : Consumes w (openDrain env w) := by
  obtain ⟨start, he⟩ := openDrain_engine env w
  refine consumes_of_notes (openDrain_trace w) (by simp [Event.IsNote]) (by simp) ?_ ?_ ?_ ?_ ?_ ?_ rfl
    fun s => ?_
  · rw [he]
  · rw [he]
  · rw [he]
  · rw [he]
  · rw [he]
  · rw [he]
  · rw [he]
    cases s <;> exact List.suffix_rfl

theorem discardDrain_consumes (env : Env σ) (w : World σ) : Consumes w (discardDrain env w) := by
  obtain ⟨start, ring, he, hring⟩ := discardDrain_engine env w
  refine consumes_of_notes (discardDrain_trace w) (by simp [Event.IsNote]) (by simp) ?_ ?_ ?_ ?_ ?_ ?_ rfl
    fun s => ?_
  · rw [he]
  · rw [he]
  · rw [he]
  · rw [he]
  · rw [he]
  · rw [he]
  · rw [he]
    cases s with
    | primary =>
      simp only [RecoveryEngine.queue, DelayQueue.toList, hring]
      exact List.dropWhile_suffix _
    | secondary => exact List.suffix_rfl

theorem enterFailover_consumes (nowNs : ℕ) (w : World σ) : Consumes w (enterFailover nowNs w) := by
  obtain ⟨ring, he, hring⟩ := discardSecondary_engine w.engine
  have he : (enterFailover nowNs w).engine =
      { w.engine with secondaryQueue := { w.engine.secondaryQueue with ring := ring } } := he
  refine consumes_of_notes (l := [.failover nowNs w.engine]) rfl (by simp [Event.IsNote]) (by simp) ?_ ?_ ?_ ?_
    ?_ ?_ rfl fun s => ?_
  · rw [he]
  · rw [he]
  · rw [he]
  · rw [he]
  · rw [he]
  · rw [he]
  · rw [he]
    cases s with
    | primary => exact List.suffix_rfl
    | secondary => exact hring

theorem failover_consumes (env : Env σ) (force : Bool) (nowNs : ℕ) (w : World σ) (n : ℕ) :
    Consumes w (failoverLoop env force n (enterFailover nowNs w)).2 :=
  failoverLoop_rule (J := fun w' => Consumes w w')
    (fun w₁ h => h.trans (.trans (.refl w₁) ⟨rfl, rfl, rfl, rfl, rfl, rfl, rfl, fun _ => id, fun _ => rfl,
      fun _ => List.suffix_rfl, fun _ => List.Sublist.refl _⟩))
    (fun _ _ _ hfront h => h.trans (failoverSent_consumes hfront))
    (fun w₁ s _ h => h.trans (setActiveOutputStream_consumes env w₁ .secondary s)) n _
    (enterFailover_consumes nowNs w)

theorem consumes_drainSteps (env : Env σ) : DrainSteps env Consumes where
  read _ := ⟨rfl, rfl, rfl, rfl, rfl, rfl, rfl, fun _ => id, fun _ => rfl, fun _ => List.suffix_rfl,
    fun _ => List.Sublist.refl _⟩
  wait w _ := openDrain_consumes env w
  discard w _ _ := discardDrain_consumes env w
  takeOver w _ := setActiveOutputStream_consumes env w .primary
    (setActiveOutputStream env w .primary).sinkState
  release primary w front _ := release_consumes (releasePrimary_outcome env primary w) front
  failover force nowNs w _ := failover_consumes env force nowNs w _

theorem Consumes.of_steps (h : ReflTransGen Consumes w w') : Consumes w w' := by
  induction h with
  | refl => exact .refl w
  | tail _ hlast ih => exact ih.trans hlast

/-- **A drain only consumes.** -/
theorem recoveryEngineDrain_consumes (env : Env σ) (force : Bool) (w : World σ) :
    Consumes w (recoveryEngineDrain env force w).2 :=
  .of_steps ((consumes_drainSteps env).drain force w)

theorem recoveryEngineFlush_consumes (env : Env σ) (w : World σ) :
    Consumes w (recoveryEngineFlush env w).2 := by
  have h := recoveryEngineDrain_consumes env true w
  unfold recoveryEngineFlush
  rcases hres : recoveryEngineDrain env true w with ⟨_ | _, w'⟩
  · rw [hres] at h
    exact h
  · rw [hres] at h
    simp only
    split
    · exact h
    · exact ⟨h.1, h.2, h.3, h.4, h.5, h.6, h.7, h.8, h.9, h.10, h.11⟩

/-- **Every stage pushes one record or consumes.** -/
theorem Stage.push_or_consumes (h : Stage env w w') :
    (∃ streamId p, w' = pushIngest env streamId p w) ∨ Consumes w w' := by
  have hsteps := consumes_drainSteps env
  cases h with
  | ingest streamId p => exact .inl ⟨streamId, p, rfl⟩
  | sink s =>
    exact .inr ⟨rfl, rfl, rfl, rfl, rfl, rfl, rfl, fun _ => id, fun _ => rfl, fun _ => List.suffix_rfl,
      fun _ => List.Sublist.refl _⟩
  | read => exact .inr (hsteps.read w)
  | wait _ idle => exact .inr (hsteps.wait w idle)
  | discard _ nonempty ready => exact .inr (hsteps.discard w nonempty ready)
  | takeOver _ ready => exact .inr (hsteps.takeOver w ready)
  | release primary _ front active => exact .inr (hsteps.release primary w front active)
  | failover force nowNs _ guard => exact .inr (hsteps.failover force nowNs w guard)

theorem Stage.cases_push (h : Stage env w w') :
    (∃ streamId p, Ingested env streamId p w w') ∨ Consumes w w' := by
  rcases h.push_or_consumes with ⟨streamId, p, rfl⟩ | hconsumes
  · exact .inl ⟨streamId, p, pushIngest_ingested env streamId p w⟩
  · exact .inr hconsumes

/-! ### Consistency -/

/-- A record that some push has made. -/
def PacketRecord.IsPush (r : PacketRecord) (streamId : StreamId) (streamIndex : ℕ) : Prop :=
  ∃ t p, r = makeRecord streamId streamIndex t p

/-- The histories and queues hold what has been pushed, and the queues are sent in order. -/
structure Consistent (w : World σ) : Prop where
  burst : w.engine.config.maxContentBurstPackets ≤ 255
  count : ∀ s, (pushedRecords s w.trace).length = w.engine.nextStreamIndex s
  place : ∀ s i (r : PacketRecord), (pushedRecords s w.trace)[i]? = some r → r.IsPush s i
  history : ∀ s, (w.engine.history s).toList <:+ pushedRecords s w.trace
  queue : ∀ s, (w.engine.queue s).toList <:+ pushedRecords s w.trace
  order : ∀ s, (queueSent s w.trace ++ (w.engine.queue s).toList).Sublist (pushedRecords s w.trace)
  overflows : w.stats.primaryDelayOverflows = 0 → .overflow .primary ∉ w.trace
  latest : ∀ s, pushedRecords s w.trace ≠ [] → (w.engine.history s).toList ≠ []

theorem freshWorld_consistent (config : RecoveryEngineConfig) (sinkState : σ) :
    Consistent (freshWorld config sinkState) := by
  refine ⟨?_, fun s => rfl, by simp [freshWorld], fun s => ?_, fun s => ?_, fun s => ?_,
    by simp [freshWorld], by simp [freshWorld]⟩
  · simp only [freshWorld, recoveryEngineInitWithConfig]
    split <;> omega
  · exact List.nil_suffix
  · cases s <;> exact List.nil_suffix
  · cases s <;> exact List.Sublist.refl _

theorem pushHistory_suffix (config : RecoveryEngineConfig) (history : PacketHistory)
    (r : PacketRecord) :
    (pushHistory config history r).toList <:+ history.toList ++ [r] := by
  have hpush : (history.pushEvict r).toList <:+ history.toList ++ [r] := by
    rw [RingBuffer.toList_pushEvict]
    split
    · exact List.suffix_rfl
    · obtain ⟨l, hl⟩ := List.tail_suffix history.toList
      exact ⟨l, by rw [← List.append_assoc, hl]⟩
  simp only [pushHistory]
  split
  · rw [packetHistoryPruneOlderThan, RingBuffer.toList_popWhile]
    exact (List.dropWhile_suffix _).trans hpush
  · exact hpush

/-- The pushed record itself is never pruned. -/
theorem pushHistory_ne_nil (config : RecoveryEngineConfig) (history : PacketHistory)
    (r : PacketRecord) : (pushHistory config history r).toList ≠ [] := by
  have hlast : r ∈ (history.pushEvict r).toList := by
    rw [RingBuffer.toList_pushEvict]
    split <;> simp
  simp only [pushHistory]
  split
  · rw [packetHistoryPruneOlderThan, RingBuffer.toList_popWhile, ne_eq, List.dropWhile_eq_nil_iff]
    intro hall
    have h := hall r hlast
    simp only [decide_eq_true_eq] at h
    omega
  · exact List.ne_nil_of_mem hlast

theorem StreamId.ne_other (s : StreamId) : s ≠ s.other := by cases s <;> simp [StreamId.other]

theorem StreamId.eq_or_eq_other (s s' : StreamId) : s' = s ∨ s' = s.other := by
  cases s <;> cases s' <;> simp [StreamId.other]

section Ingest

variable {streamId : StreamId} {p : ParsedPacket}

/-- The record a push has made. -/
theorem Ingested.pushed (h : Ingested env streamId p w w') (s : StreamId) :
    pushedRecords s w'.trace = pushedRecords s w.trace ++
      if s = streamId then
        [makeRecord streamId (w.engine.nextStreamIndex streamId) (env.clock w.reads) p]
      else [] := by
  obtain ⟨l, ht, hl, -⟩ := h.trace
  have hnote : ∀ ev ∈ l, ev.IsNote := by
    intro ev hev
    rcases hl ev hev with ⟨d, rfl⟩ | rfl <;> trivial
  rw [ht, pushedRecords_append]
  congr 1
  have hcons : pushedRecords s (Event.pushed (makeRecord streamId
      (w.engine.nextStreamIndex streamId) (env.clock w.reads) p) :: l) =
      (if streamId = s then [makeRecord streamId
        (w.engine.nextStreamIndex streamId) (env.clock w.reads) p] else []) ++
        pushedRecords s l := by
    simp only [pushedRecords, List.filterMap_cons, makeRecord]
    split <;> simp_all
  rw [hcons, pushedRecords_of_notes hnote, List.append_nil]
  simp only [eq_comm]

/-- A push sends nothing. -/
theorem Ingested.sentEvents_eq (h : Ingested env streamId p w w') :
    sentEvents w'.trace = sentEvents w.trace := by
  obtain ⟨l, ht, hl, -⟩ := h.trace
  have hnote : ∀ ev ∈ l, ev.IsNote := by
    intro ev hev
    rcases hl ev hev with ⟨d, rfl⟩ | rfl <;> trivial
  rw [ht, sentEvents_append, sentEvents_pushed, sentEvents_of_notes hnote, List.append_nil]

theorem Ingested.queue_suffix (h : Ingested env streamId p w w') (s : StreamId) :
    (w'.engine.queue s).toList <:+ (w.engine.queue s).toList ++
      if s = streamId then
        [makeRecord streamId (w.engine.nextStreamIndex streamId) (env.clock w.reads) p]
      else [] := by
  rcases streamId.eq_or_eq_other s with rfl | rfl
  · rw [if_pos rfl]
    obtain ⟨l, -, -, -, ⟨-, hq⟩ | ⟨-, hq⟩⟩ := h.trace
    · rw [hq]
    · rw [hq]
      obtain ⟨l, hl⟩ := List.tail_suffix (w.engine.queue s).toList
      exact ⟨l, by rw [← List.append_assoc, hl]⟩
  · rw [if_neg streamId.ne_other.symm, List.append_nil, h.otherQueue]

theorem Ingested.received (h : Ingested env streamId p w w') (s : StreamId) :
    received s w'.trace = received s w.trace ++ if streamId = s then [p.packet] else [] := by
  rw [TwoStream.received, TwoStream.received, h.pushed, List.map_append]
  by_cases hs : s = streamId
  · rw [if_pos hs, if_pos hs.symm]
    rfl
  · rw [if_neg hs, if_neg (Ne.symm hs)]
    rfl

theorem Ingested.consistent (h : Ingested env streamId p w w') (hw : Consistent w) :
    Consistent w' := by
  obtain ⟨a, i, primaryQueue, secondaryQueue, he⟩ := h.engine
  refine ⟨?_, fun s => ?_, fun s i r hr => ?_, fun s => ?_, fun s => ?_, fun s => ?_, fun h0 => ?_,
    fun s hs => ?_⟩
  · rw [he]
    exact hw.burst
  · rw [h.pushed s, List.length_append, hw.count s, he]
    by_cases hs : s = streamId
    · subst hs
      simp
    · simp [hs]
  · rw [h.pushed s] at hr
    by_cases hs : s = streamId
    · subst hs
      rw [if_pos rfl, List.getElem?_append] at hr
      split at hr
      · exact hw.place s i r hr
      · next hlt =>
        obtain ⟨h0, rfl⟩ : i - (pushedRecords s w.trace).length = 0 ∧ _ = r := by
          simpa [List.getElem?_singleton] using hr
        obtain rfl : i = w.engine.nextStreamIndex s := by
          have := hw.count s
          omega
        exact ⟨_, p, rfl⟩
    · rw [if_neg hs, List.append_nil] at hr
      exact hw.place s i r hr
  · rw [h.pushed s, he]
    by_cases hs : s = streamId
    · subst hs
      simp only [Function.update_self, if_true]
      refine (pushHistory_suffix _ _ _).trans ?_
      obtain ⟨l, hl⟩ := hw.history s
      exact ⟨l, by rw [← List.append_assoc, hl]⟩
    · simp only [Function.update_of_ne hs, if_neg hs, List.append_nil]
      exact hw.history s
  · rw [h.pushed s]
    refine (h.queue_suffix s).trans ?_
    obtain ⟨l, hl⟩ := hw.queue s
    exact ⟨l, by rw [← List.append_assoc, hl]⟩
  · rw [h.pushed s, queueSent, h.sentEvents_eq]
    refine ((h.queue_suffix s).sublist.append_left _).trans ?_
    rw [← List.append_assoc]
    exact (hw.order s).append_right _
  · obtain ⟨l, ht, -, hover, -⟩ := h.trace
    obtain ⟨h0, hl⟩ := hover h0
    rw [ht]
    simp [hl, hw.overflows h0]
  · rw [he]
    by_cases hstream : s = streamId
    · subst hstream
      simp only [Function.update_self]
      exact pushHistory_ne_nil _ _ _
    · simp only [Function.update_of_ne hstream]
      rw [h.pushed s, if_neg hstream, List.append_nil] at hs
      exact hw.latest s hs

end Ingest

theorem Consumes.consistent (h : Consumes w w') (hw : Consistent w) : Consistent w' where
  burst := by
    rw [h.config]
    exact hw.burst
  count s := by
    rw [h.pushed, h.nextStreamIndex]
    exact hw.count s
  place s := by
    rw [h.pushed]
    exact hw.place s
  history s := by
    rw [h.pushed, h.history]
    exact hw.history s
  queue s := by
    rw [h.pushed]
    exact (h.queue s).trans (hw.queue s)
  order s := by
    rw [h.pushed]
    exact (h.order s).trans (hw.order s)
  overflows h0 hs := hw.overflows (h.overflows ▸ h0) (h.overflow _ hs)
  latest s hs := by
    rw [h.pushed] at hs
    rw [h.history]
    exact hw.latest s hs

/-- **Consistency is kept by every stage.** -/
theorem Stage.consistent (h : Stage env w w') (hw : Consistent w) : Consistent w' := by
  rcases h.cases_push with ⟨streamId, p, h⟩ | h
  · exact h.consistent hw
  · exact h.consistent hw

theorem reachable_consistent {config : RecoveryEngineConfig} {sinkState : σ}
    (h : Reachable env config sinkState w) : Consistent w :=
  run_invariant (fun _ _ hstage hw => hstage.consistent hw) h (freshWorld_consistent _ _)

/-- **Bounded invariants.** What every stage keeps while the trace meets `Q`, a condition that
prefixes inherit, holds wherever the trace meets `Q`; the stage may assume consistency. -/
theorem bounded_stages {Q : List Event → Prop} {I : World σ → Prop}
    (hQ : ∀ t t', t <+: t' → Q t' → Q t) (h : ReflTransGen (Stage env) w w') (hq : Q w'.trace)
    (hw : Consistent w) (hI : I w)
    (hstep : ∀ w w', Stage env w w' → Q w'.trace → Consistent w → I w → I w') : I w' := by
  refine (bounded_invariant (I := fun w => Consistent w ∧ I w) hQ
    (fun w₁ w₂ (hstage : Stage env w₁ w₂) => hstage.trace_prefix) ?_ h hq ⟨hw, hI⟩).2
  rintro w w' hstage hq ⟨hconsistent, hI⟩
  exact ⟨hstage.consistent hconsistent, hstep w w' hstage hq hconsistent hI⟩

/-- **Guarded invariants.** What every stage keeps while the trace meets `p` holds wherever the trace
meets `p`; the stage may assume consistency. -/
theorem Reachable.guarded {p : List Event → Event → Prop} {I : World σ → Prop}
    {config : RecoveryEngineConfig} {sinkState : σ} (h : Reachable env config sinkState w)
    (hp : Along p w.trace) (hfresh : I (freshWorld config sinkState))
    (hstep : ∀ w w', Stage env w w' → Along p w'.trace → Consistent w → I w → I w') : I w :=
  bounded_stages (fun _ _ hprefix h => h.of_prefix hprefix) h hp (freshWorld_consistent config sinkState)
    hfresh hstep

/-- **Invariants.** What every stage keeps, given consistency, holds in every reachable state. -/
theorem Reachable.invariant {I : World σ → Prop} {config : RecoveryEngineConfig} {sinkState : σ}
    (h : Reachable env config sinkState w) (hfresh : I (freshWorld config sinkState))
    (hstep : ∀ w w', Stage env w w' → Consistent w → I w → I w') : I w :=
  bounded_stages (Q := fun _ => True) (fun _ _ _ _ => trivial) h trivial
    (freshWorld_consistent config sinkState) hfresh fun w w' hstage _ => hstep w w' hstage

/-! ### Records and their places -/

section Places

variable {s : StreamId} {i : ℕ} {r : PacketRecord}

/-- A pushed record stands at its own index. -/
theorem Consistent.getElem?_of_mem (hw : Consistent w) (h : r ∈ pushedRecords s w.trace) :
    (pushedRecords s w.trace)[r.streamIndex]? = some r := by
  obtain ⟨i, hi⟩ := List.getElem?_of_mem h
  obtain ⟨t, p, rfl⟩ := hw.place s i r hi
  exact hi

theorem Consistent.isPush_of_mem (hw : Consistent w) (h : r ∈ pushedRecords s w.trace) :
    r.IsPush s r.streamIndex :=
  hw.place s _ r (hw.getElem?_of_mem h)

/-- Lookups by index find pushed records. -/
theorem Consistent.getElem?_of_find (hw : Consistent w)
    (h : packetHistoryFindIndex (w.engine.history s) i = some r) :
    (pushedRecords s w.trace)[i]? = some r := by
  have hr := hw.getElem?_of_mem ((hw.history s).subset (packetHistoryFindIndex_mem h))
  rwa [packetHistoryFindIndex_index h] at hr

theorem Consistent.isPush_of_find (hw : Consistent w)
    (h : packetHistoryFindIndex (w.engine.history s) i = some r) : r.IsPush s i :=
  hw.place s i r (hw.getElem?_of_find h)

/-- A lookup finds the pushed records from the oldest held one on. -/
theorem Consistent.find_eq (hw : Consistent w) {before : List PacketRecord}
    (hbefore : before ++ (w.engine.history s).toList = pushedRecords s w.trace) :
    packetHistoryFindIndex (w.engine.history s) i =
      if i < before.length then none else (pushedRecords s w.trace)[i]? := by
  have hslot (j : ℕ) (hj : j < (w.engine.history s).count) :
      (pushedRecords s w.trace)[before.length + j]? =
        some ((w.engine.history s).slots
          (((w.engine.history s).start + j) % (w.engine.history s).capacity)) := by
    rw [← hbefore, List.getElem?_append_right (by omega), Nat.add_sub_cancel_left,
      RingBuffer.getElem?_toList, if_pos hj]
    rfl
  have hlength : before.length + (w.engine.history s).count = (pushedRecords s w.trace).length := by
    rw [← hbefore, List.length_append, RingBuffer.length_toList]
  have hend (hi : before.length + (w.engine.history s).count ≤ i) :
      (pushedRecords s w.trace)[i]? = none := by
    rw [List.getElem?_eq_none_iff]
    omega
  simp only [packetHistoryFindIndex]
  by_cases hzero : (w.engine.history s).count = 0
  · rw [if_pos hzero]
    split
    · rfl
    · rw [hend (by omega)]
  · rw [if_neg hzero]
    have holdest : ((w.engine.history s).slots (w.engine.history s).start).streamIndex =
        before.length := by
      have hfirst := hslot 0 (by omega)
      obtain ⟨t, p, h⟩ := hw.place s _ _ hfirst
      rw [Nat.add_zero, Nat.mod_eq_of_lt (w.engine.history s).start_lt] at h
      rw [h]
      rfl
    rw [holdest]
    by_cases hold : i < before.length
    · rw [if_pos hold, if_pos hold]
    · rw [if_neg hold, if_neg hold]
      by_cases hlate : (w.engine.history s).count ≤ i - before.length
      · rw [if_pos hlate, hend (by omega)]
      · have hfound := hslot (i - before.length) (by omega)
        rw [show before.length + (i - before.length) = i by omega] at hfound
        obtain ⟨t, p, hpush⟩ := hw.place s i _ hfound
        rw [if_neg hlate, hfound, hpush]
        exact if_neg (not_not.mpr rfl)

/-- Lookups find what was pushed since any record that is still there. -/
theorem Consistent.find_of_held (hw : Consistent w) {k : ℕ}
    (hheld : packetHistoryFindIndex (w.engine.history s) k ≠ none) (hk : k ≤ i)
    (hr : (pushedRecords s w.trace)[i]? = some r) :
    packetHistoryFindIndex (w.engine.history s) i = some r := by
  obtain ⟨before, hbefore⟩ := hw.history s
  rw [hw.find_eq hbefore] at hheld ⊢
  have hold : ¬ k < before.length := fun h => hheld (if_pos h)
  rw [if_neg (by omega), hr]

/-- Lookups find what the history holds. -/
theorem Consistent.find_of_mem (hw : Consistent w) (h : r ∈ (w.engine.history s).toList) :
    packetHistoryFindIndex (w.engine.history s) r.streamIndex = some r := by
  obtain ⟨before, hbefore⟩ := hw.history s
  obtain ⟨j, hj⟩ := List.getElem?_of_mem h
  have hget : (pushedRecords s w.trace)[before.length + j]? = some r := by
    rw [← hbefore, List.getElem?_append_right (by omega), Nat.add_sub_cancel_left, hj]
  obtain ⟨t, p, rfl⟩ := hw.place s _ r hget
  rw [hw.find_eq hbefore, ← hget]
  exact if_neg (by simp [makeRecord])

/-- **Lookups by index** find the records of the history and no others. -/
theorem Consistent.find_eq_some_iff (hw : Consistent w) :
    packetHistoryFindIndex (w.engine.history s) i = some r ↔
      r ∈ (w.engine.history s).toList ∧ r.streamIndex = i := by
  constructor
  · exact fun hfind => ⟨packetHistoryFindIndex_mem hfind, packetHistoryFindIndex_index hfind⟩
  · rintro ⟨hmem, rfl⟩
    exact hw.find_of_mem hmem

theorem Consistent.mem_of_front (hw : Consistent w)
    (h : delayQueueFront (w.engine.queue s) = some r) : r ∈ pushedRecords s w.trace := by
  rw [delayQueueFront_eq] at h
  exact (hw.queue s).subset (List.mem_of_mem_head? h)

theorem Consistent.isPush_of_front (hw : Consistent w)
    (h : delayQueueFront (w.engine.queue s) = some r) : r.IsPush s r.streamIndex :=
  hw.isPush_of_mem (hw.mem_of_front h)

/-- The pushed records carry the indices 0, 1, 2, …. -/
theorem Consistent.indices (hw : Consistent w) (s : StreamId) :
    (pushedRecords s w.trace).map (·.streamIndex) =
      List.range (pushedRecords s w.trace).length := by
  refine List.ext_getElem (by simp) fun i h1 h2 => ?_
  rw [List.length_map] at h1
  obtain ⟨t, p, h⟩ := hw.place s i _ (List.getElem?_eq_getElem h1)
  rw [List.getElem_map, List.getElem_range, h]
  rfl

/-- No two records of a history have one index. -/
theorem Consistent.nodup_history (hw : Consistent w) (s : StreamId) :
    ((w.engine.history s).toList.map (·.streamIndex)).Nodup := by
  have hindices : ((pushedRecords s w.trace).map (·.streamIndex)).Nodup := by
    rw [hw.indices s]
    exact List.nodup_range
  exact hindices.sublist ((hw.history s).sublist.map _)

end Places

/-! ### What a run receives -/

theorem step_received (env : Env σ) (w : World σ) (op : Op) (s : StreamId) :
    received s (step env w op).trace =
      received s w.trace ++ (pushedPackets s [op]).map (·.packet) := by
  have hconsumes {w w' : World σ} (h : Consumes w w') : received s w'.trace = received s w.trace := by
    rw [received, h.pushed]
    rfl
  cases op with
  | push streamId p =>
    have hpush := (pushIngest_ingested env streamId p w).received s
    have hdrain := hconsumes (recoveryEngineDrain_consumes env false (pushIngest env streamId p w))
    refine (hdrain.trans hpush).trans (congrArg _ ?_)
    by_cases hs : streamId = s
    · simp [pushedPackets, hs]
    · simp [pushedPackets, hs]
  | drain force =>
    refine (hconsumes (recoveryEngineDrain_consumes env force w)).trans ?_
    simp [pushedPackets]
  | flush =>
    refine (hconsumes (recoveryEngineFlush_consumes env w)).trans ?_
    simp [pushedPackets]

/-- **A run receives what its calls push.** -/
theorem run_received (env : Env σ) (w : World σ) (ops : List Op) (s : StreamId) :
    received s (run env w ops).trace =
      received s w.trace ++ (pushedPackets s ops).map (·.packet) := by
  induction ops generalizing w with
  | nil => simp [run, pushedPackets]
  | cons op ops ih =>
    have hcons : pushedPackets s (op :: ops) = pushedPackets s [op] ++ pushedPackets s ops := by
      rw [pushedPackets, pushedPackets, pushedPackets, ← List.filterMap_append, List.singleton_append]
    rw [run, List.foldl_cons]
    refine (ih (step env w op)).trans ?_
    rw [step_received, hcons, List.map_append, List.append_assoc]

end TwoStream
