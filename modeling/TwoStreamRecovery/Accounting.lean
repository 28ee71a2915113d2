import TwoStreamRecovery.Engine.Emission
import TwoStreamRecovery.GapSound

/-!
# Output accounting

* `lastCounter`, `countChecked`: a reference check of a sequence of sent packets, which looks back
  at the packets themselves instead of keeping a state.
* `Accounted`: the counters and the output state agree with what the sink has taken.
* `output_accounting`: in every run, whatever the sink refuses.
* **`run_taken`**: the packets logged as sent are those for which the sink has answered 0, in order;
  `recorded_accounting`: so the counter of output packets is right for any sink.
-/

namespace TwoStream

open Relation

variable {σ : Type} {env : Env σ} {w w' : World σ}

/-! ### The reference check -/

/-- The continuity counter of the last packet of a PID. -/
def lastCounter (pid : ℕ) (sent : List PacketRecord) : Option ℕ :=
  ((sent.filter fun r => r.pid == pid).getLast?).map (·.continuityCounter)

/-- A packet the check looks at. -/
def checked (r : PacketRecord) : Bool :=
  !r.isNull && !r.transportError && !r.discontinuityIndicator

/-- A counter that is neither the previous one nor, for payload, the next. -/
def isContinuityError (previous : Option ℕ) (r : PacketRecord) : Bool :=
  match previous with
  | none => false
  | some cc =>
    checked r &&
      if r.hasPayload then r.continuityCounter != cc && r.continuityCounter != (cc + 1) % 16
      else r.continuityCounter != cc

/-- Payload that repeats the previous counter. -/
def isDuplicateCounter (previous : Option ℕ) (r : PacketRecord) : Bool :=
  match previous with
  | none => false
  | some cc => checked r && r.hasPayload && r.continuityCounter == cc

/-- How many packets, each against those before it, `check` finds. -/
def countChecked (check : Option ℕ → PacketRecord → Bool) :
    List PacketRecord → List PacketRecord → ℕ
  | _, [] => 0
  | before, r :: rest =>
    (if check (lastCounter r.pid before) r then 1 else 0) + countChecked check (before ++ [r]) rest

theorem countChecked_concat (check : Option ℕ → PacketRecord → Bool) (before sent : List PacketRecord)
    (r : PacketRecord) :
    countChecked check before (sent ++ [r]) =
      countChecked check before sent +
        if check (lastCounter r.pid (before ++ sent)) r then 1 else 0 := by
  induction sent generalizing before with
  | nil => simp [countChecked]
  | cons x rest ih =>
    rw [List.cons_append, countChecked, countChecked, ih, List.append_assoc, List.singleton_append,
      Nat.add_assoc]

theorem lastCounter_concat (pid : ℕ) (sent : List PacketRecord) (r : PacketRecord) :
    lastCounter pid (sent ++ [r]) =
      if r.pid = pid then some r.continuityCounter else lastCounter pid sent := by
  by_cases h : r.pid = pid
  · simp [lastCounter, List.filter_append, h]
  · simp [lastCounter, List.filter_append, h]

/-! ### What one accepted record counts -/

/-- The counter a PID state holds. -/
def PidState.counter? (state : PidState) : Option ℕ :=
  if state.valid then some state.continuityCounter else none

section Accept

variable (state : PidState) (r : PacketRecord) (stats : ReportStats)

theorem observeOutputStats_errors :
    (if r.isNull then stats else observeOutputStats state r stats).outputContinuityErrors =
      stats.outputContinuityErrors + if isContinuityError state.counter? r then 1 else 0 := by
  obtain ⟨valid, cc⟩ := state
  simp only [observeOutputStats, isContinuityError, PidState.counter?, checked, nextCc]
  cases r.isNull <;> cases valid <;> cases r.transportError <;> cases r.discontinuityIndicator <;>
    cases r.hasPayload <;> simp
  · split_ifs <;> rfl
  · split_ifs <;> simp_all

theorem observeOutputStats_duplicates :
    (if r.isNull then stats else observeOutputStats state r stats).outputDuplicateCounters =
      stats.outputDuplicateCounters + if isDuplicateCounter state.counter? r then 1 else 0 := by
  obtain ⟨valid, cc⟩ := state
  simp only [observeOutputStats, isDuplicateCounter, PidState.counter?, checked, nextCc]
  cases r.isNull <;> cases valid <;> cases r.transportError <;> cases r.discontinuityIndicator <;>
    cases r.hasPayload <;> simp
  · split_ifs <;> rfl
  · split_ifs <;> simp_all

/-- The other output counters are not touched. -/
theorem observeOutputStats_frame :
    let stats' := if r.isNull then stats else observeOutputStats state r stats
    stats'.outputPackets = stats.outputPackets ∧ stats'.outputDatagrams = stats.outputDatagrams ∧
      stats'.recoveredPackets = stats.recoveredPackets ∧
      stats'.recoveredNullPackets = stats.recoveredNullPackets ∧
      stats'.recoveredContentPackets = stats.recoveredContentPackets := by
  simp only [observeOutputStats]
  split_ifs <;> exact ⟨rfl, rfl, rfl, rfl, rfl⟩

/-- The counters of `output_record` before the continuity check. -/
def countPacket (stats : ReportStats) : ReportStats :=
  let stats := { stats with outputPackets := stats.outputPackets + 1 }
  if stats.outputPackets % 7 = 0 then reportStatsObserveOutputDatagram stats false else stats

theorem acceptStats_eq :
    acceptStats state r stats =
      if r.isNull then countPacket stats else observeOutputStats state r (countPacket stats) := rfl

theorem countPacket_frame :
    (countPacket stats).outputPackets = stats.outputPackets + 1 ∧
      (countPacket stats).outputDatagrams =
        stats.outputDatagrams + (if (stats.outputPackets + 1) % 7 = 0 then 1 else 0) ∧
      (countPacket stats).recoveredPackets = stats.recoveredPackets ∧
      (countPacket stats).recoveredNullPackets = stats.recoveredNullPackets ∧
      (countPacket stats).recoveredContentPackets = stats.recoveredContentPackets ∧
      (countPacket stats).outputContinuityErrors = stats.outputContinuityErrors ∧
      (countPacket stats).outputDuplicateCounters = stats.outputDuplicateCounters := by
  simp only [countPacket, reportStatsObserveOutputDatagram]
  split_ifs <;> exact ⟨rfl, rfl, rfl, rfl, rfl, rfl, rfl⟩

end Accept

/-! ### The invariant -/

/-- The output counters. -/
def ReportStats.output (stats : ReportStats) : ℕ × ℕ × ℕ × ℕ × ℕ × ℕ × ℕ :=
  (stats.outputPackets, stats.outputDatagrams, stats.recoveredPackets, stats.recoveredNullPackets,
    stats.recoveredContentPackets, stats.outputContinuityErrors, stats.outputDuplicateCounters)

/-- The counters and the output state agree with what the sink has taken. -/
structure Accounted (w : World σ) : Prop where
  packets : w.stats.outputPackets = (sentEvents w.trace).length
  routes : w.stats.outputPackets = (queueSent .primary w.trace).length +
    (queueSent .secondary w.trace).length + w.stats.recoveredPackets
  recovered : w.stats.recoveredPackets =
    w.stats.recoveredNullPackets + w.stats.recoveredContentPackets
  datagrams : w.stats.outputDatagrams = w.stats.outputPackets / 7
  states : ∀ pid, pid ≠ tsNullPid →
    (w.engine.outputPidState pid).counter? = lastCounter pid (sentRecords w.trace)
  folded : w.engine.outputPidState =
    (sentRecords w.trace).foldl outputStatesAfter fun _ => ⟨false, 0⟩
  errors : w.stats.outputContinuityErrors =
    countChecked isContinuityError [] (sentRecords w.trace)
  duplicates : w.stats.outputDuplicateCounters =
    countChecked isDuplicateCounter [] (sentRecords w.trace)

/-- Nothing is sent and no output counter moves. -/
structure SameOutput (w w' : World σ) : Prop where
  sent : sentEvents w'.trace = sentEvents w.trace
  states : w'.engine.outputPidState = w.engine.outputPidState
  counters : w'.stats.output = w.stats.output

theorem SameOutput.refl (w : World σ) : SameOutput w w := ⟨rfl, rfl, rfl⟩

theorem SameOutput.trans {w'' : World σ} (h : SameOutput w w') (h' : SameOutput w' w'') :
    SameOutput w w'' :=
  ⟨h'.sent.trans h.sent, h'.states.trans h.states, h'.counters.trans h.counters⟩

theorem SameOutput.accounted (h : SameOutput w w') (hw : Accounted w) : Accounted w' := by
  obtain ⟨hsent, hstates, hcounters⟩ := h
  simp only [ReportStats.output, Prod.mk.injEq] at hcounters
  obtain ⟨h1, h2, h3, h4, h5, h6, h7⟩ := hcounters
  obtain ⟨packets, routes, recovered, datagrams, states, folded, errors, duplicates⟩ := hw
  constructor
  · rw [h1, hsent]
    exact packets
  · rw [h1, h3, queueSent, queueSent, hsent]
    exact routes
  · rw [h3, h4, h5]
    exact recovered
  · rw [h1, h2]
    exact datagrams
  · rw [hstates, sentRecords, hsent]
    exact states
  · rw [hstates, sentRecords, hsent]
    exact folded
  · rw [h6, sentRecords, hsent]
    exact errors
  · rw [h7, sentRecords, hsent]
    exact duplicates

/-- A record whose null flag says what its PID says. -/
def PacketRecord.NullByPid (r : PacketRecord) : Prop := r.isNull = true ↔ r.pid = tsNullPid

/-- What one accepted record does to everything but the count of the routes. -/
theorem acceptRecord_accounted_core (route : Route) {r : PacketRecord} (hr : r.NullByPid)
    (hw : Accounted w) :
    let w' := acceptRecord route w r
    w'.stats.outputPackets = (sentEvents w'.trace).length ∧
      w'.stats.outputPackets = w.stats.outputPackets + 1 ∧
      w'.stats.outputDatagrams = w'.stats.outputPackets / 7 ∧
      w'.stats.recoveredPackets = w.stats.recoveredPackets ∧
      w'.stats.recoveredNullPackets = w.stats.recoveredNullPackets ∧
      w'.stats.recoveredContentPackets = w.stats.recoveredContentPackets ∧
      (∀ pid, pid ≠ tsNullPid →
        (w'.engine.outputPidState pid).counter? = lastCounter pid (sentRecords w'.trace)) ∧
      w'.engine.outputPidState =
        (sentRecords w'.trace).foldl outputStatesAfter (fun _ => ⟨false, 0⟩) ∧
      w'.stats.outputContinuityErrors = countChecked isContinuityError [] (sentRecords w'.trace) ∧
      w'.stats.outputDuplicateCounters = countChecked isDuplicateCounter [] (sentRecords w'.trace) := by
  obtain ⟨hp, hd, h3, h4, h5, h6, h7⟩ := countPacket_frame w.stats
  obtain ⟨g1, g2, g3, g4, g5⟩ :=
    observeOutputStats_frame (w.engine.outputPidState r.pid) r (countPacket w.stats)
  have hsent : sentRecords (acceptRecord route w r).trace = sentRecords w.trace ++ [r] := by
    rw [acceptRecord_trace, sentRecords_append]
    rfl
  have hstate : r.isNull = false →
      (w.engine.outputPidState r.pid).counter? = lastCounter r.pid (sentRecords w.trace) :=
    fun hnull => hw.states _ fun hpid => by simp [hr.mpr hpid] at hnull
  -- a null packet is in neither count
  have hcheck : ∀ check : Option ℕ → PacketRecord → Bool,
      (∀ previous, r.isNull = true → check previous r = false) →
      countChecked check [] (sentRecords (acceptRecord route w r).trace) =
        countChecked check [] (sentRecords w.trace) +
          if check (w.engine.outputPidState r.pid).counter? r then 1 else 0 := by
    intro check hfalse
    rw [hsent, countChecked_concat, List.nil_append]
    cases hnull : r.isNull with
    | true => rw [hfalse _ hnull, hfalse _ hnull]
    | false => rw [hstate hnull]
  simp only [acceptRecord_stats, acceptStats_eq]
  refine ⟨?_, ?_, ?_, ?_, ?_, ?_, ?_, ?_, ?_, ?_⟩
  · rw [g1, hp, hw.packets, acceptRecord_trace, sentEvents_append, List.length_append]
    rfl
  · rw [g1, hp]
  · rw [g2, g1, hd, hp, hw.datagrams]
    split_ifs <;> omega
  · rw [g3, h3]
  · rw [g4, h4]
  · rw [g5, h5]
  · intro pid hpid
    rw [hsent, lastCounter_concat, acceptRecord_engine]
    simp only [outputStatesAfter]
    cases hnull : r.isNull with
    | true =>
      have hne : r.pid ≠ pid := fun h => hpid (h ▸ hr.mp hnull)
      rw [if_pos rfl, if_neg hne]
      exact hw.states pid hpid
    | false =>
      simp only [Bool.false_eq_true, if_false, setCc]
      by_cases h : pid = r.pid
      · rw [if_pos h, if_pos h.symm]
        rfl
      · rw [if_neg h, if_neg (Ne.symm h)]
        exact hw.states pid hpid
  · rw [hsent, List.foldl_concat, ← hw.folded, acceptRecord_engine]
  · rw [observeOutputStats_errors, h6, hw.errors, hcheck isContinuityError]
    intro previous hnull
    cases previous <;> simp [isContinuityError, checked, hnull]
  · rw [observeOutputStats_duplicates, h7, hw.duplicates, hcheck isDuplicateCounter]
    intro previous hnull
    cases previous <;> simp [isDuplicateCounter, checked, hnull]

/-- A record sent from its queue. -/
theorem acceptRecord_accounted {route : Route} {r : PacketRecord} (hr : r.NullByPid)
    (hroute : route = .passThrough ∨ route = .failover) (hw : Accounted w) :
    Accounted (acceptRecord route w r) := by
  obtain ⟨h1, h2, h3, h4, h5, h6, h7, hf, h8, h9⟩ := acceptRecord_accounted_core route hr hw
  refine ⟨h1, ?_, ?_, h3, h7, hf, h8, h9⟩
  · rw [h2, h4, hw.routes, acceptRecord_trace, queueSent_append, queueSent_append]
    rcases hroute with rfl | rfl <;> simp [queueSent, queueRoute] <;> omega
  · rw [h4, h5, h6]
    exact hw.recovered

/-- A recovered record. -/
theorem acceptRecovered_accounted {route : Route} {r : PacketRecord} (hr : r.NullByPid)
    (nullFlag : PacketRecord → Bool) (hroute : route ≠ .passThrough ∧ route ≠ .failover)
    (hw : Accounted w) : Accounted (acceptRecovered route nullFlag w r) := by
  obtain ⟨h1, h2, h3, h4, h5, h6, h7, hf, h8, h9⟩ := acceptRecord_accounted_core route hr hw
  refine ⟨h1, ?_, ?_, h3, h7, hf, h8, h9⟩
  · simp only [acceptRecovered, reportStatsObserveRecovery]
    rw [h2, h4, hw.routes, acceptRecord_trace, queueSent_append, queueSent_append]
    simp [queueSent, queueRoute, hroute.1, hroute.2]
    omega
  · simp only [acceptRecovered, reportStatsObserveRecovery]
    rw [h4, h5, h6, hw.recovered]
    cases nullFlag r <;> simp <;> omega

theorem acceptAll_accounted {route : Route} (nullFlag : PacketRecord → Bool)
    (hroute : route ≠ .passThrough ∧ route ≠ .failover) {L : List PacketRecord}
    (hL : ∀ r ∈ L, r.NullByPid) (hw : Accounted w) :
    Accounted (acceptAll route nullFlag w L) := by
  induction L generalizing w with
  | nil => exact hw
  | cons r rest ih =>
    rw [acceptAll_cons]
    exact ih (fun x hx => hL x (List.mem_cons_of_mem _ hx))
      (acceptRecovered_accounted (hL r List.mem_cons_self) nullFlag hroute hw)

/-! ### Stages -/

theorem observeUnrecoverablePrimaryGap_output (stats : ReportStats) (primary : PacketRecord)
    (missingCount : Option ℕ) (reason : ReasonName) :
    (observeUnrecoverablePrimaryGap stats primary missingCount reason).output = stats.output := by
  unfold observeUnrecoverablePrimaryGap
  split
  · rfl
  · split_ifs <;> rfl

theorem recoveryRejectLog_sameOutput (primary : PacketRecord)
    (previousCc missingCount : Option ℕ) (candidate before after : Bool)
    (rejectReason : RejectReason) (reason : ReasonName) :
    SameOutput w (recoveryRejectLog w primary previousCc missingCount candidate before after
      rejectReason reason) := by
  refine ⟨?_, rfl, ?_⟩
  · simp [recoveryRejectLog, recoveryDecisionLog, World.log, sentEvents]
  · simp only [recoveryRejectLog]
    rw [observeUnrecoverablePrimaryGap_output]
    rfl

theorem sameOutput_of_notes {l : List Event} (ht : w'.trace = w.trace ++ l)
    (hl : ∀ ev ∈ l, ev.IsNote) (he : w'.engine.outputPidState = w.engine.outputPidState)
    (hs : w'.stats.output = w.stats.output) : SameOutput w w' :=
  ⟨by rw [ht, sentEvents_append, sentEvents_of_notes hl, List.append_nil], he, hs⟩

theorem gapLogged_sameOutput (w : World σ) (primary : PacketRecord) (n : ℕ)
    (previousCc : Option ℕ) (decision : DecisionName) :
    SameOutput w (gapLogged w primary n previousCc decision) :=
  sameOutput_of_notes rfl (by simp [Event.IsNote]) rfl rfl

theorem teiLogged_sameOutput (w : World σ) (primary : PacketRecord) :
    SameOutput w (teiLogged w primary) :=
  sameOutput_of_notes rfl (by simp [Event.IsNote]) rfl rfl

theorem sink_sameOutput (w : World σ) (s : σ) : SameOutput w { w with sinkState := s } :=
  ⟨rfl, rfl, rfl⟩

theorem popPrimary_sameOutput (w : World σ) : SameOutput w (popPrimary w) := ⟨rfl, rfl, rfl⟩

theorem gapBurst_sameOutput (kind : GapKind) (n : ℕ) (w : World σ) :
    SameOutput w (gapBurst kind n w) := by
  refine ⟨by rw [gapBurst_trace], by rw [gapBurst_engine], ?_⟩
  cases kind <;> simp only [gapBurst, countContentBurst] <;> split <;> rfl

theorem openRelease_sameOutput (primary : PacketRecord) (w : World σ) :
    SameOutput w (openRelease primary w) :=
  sameOutput_of_notes rfl (by simp [Event.IsNote]) rfl rfl

theorem updatePrimaryAnchor_sameOutput (w : World σ) (primary : PacketRecord)
    (m : Option PacketRecord) : SameOutput w (updatePrimaryAnchor w primary m) := by
  obtain ⟨l, ht, hl⟩ := updatePrimaryAnchor_trace w primary m
  refine sameOutput_of_notes ht (fun ev hev => ?_) ?_ ?_
  · obtain ⟨old, new, rfl⟩ := hl ev hev
    trivial
  · rw [updatePrimaryAnchor_engine]
  · rw [updatePrimaryAnchor_stats]

theorem enterFailover_sameOutput (nowNs : ℕ) (w : World σ) :
    SameOutput w (enterFailover nowNs w) := by
  obtain ⟨ring, he, -⟩ := discardSecondary_engine w.engine
  refine sameOutput_of_notes (l := [.failover nowNs w.engine]) rfl (by simp [Event.IsNote]) ?_ rfl
  simp only [enterFailover, he]

theorem setActiveOutputStream_sameOutput (env : Env σ) (w : World σ) (streamId : StreamId) (s : σ) :
    SameOutput w { setActiveOutputStream env w streamId with sinkState := s } := by
  obtain ⟨l, ht, hl⟩ := setActiveOutputStream_trace env w streamId
  refine sameOutput_of_notes ht ?_ ?_ ?_
  · rcases hl with ⟨rfl, -⟩ | ⟨rfl, -⟩ <;> simp [Event.IsNote]
  · simp only [setActiveOutputStream_engine]
  · simp only [setActiveOutputStream]
    split <;> rfl

theorem Ingested.sameOutput {streamId : StreamId} {p : ParsedPacket}
    (h : Ingested env streamId p w w') : SameOutput w w' := by
  obtain ⟨a, i, q1, q2, he⟩ := h.engine
  obtain ⟨a, b, c, d, n, hs⟩ := h.stats
  exact ⟨h.sentEvents_eq, by rw [he], by rw [hs]; rfl⟩

/-- Records found in a history carry their null flag by PID. -/
theorem Consistent.nullByPid_of_find (hw : Consistent w) {s : StreamId} {i : ℕ} {r : PacketRecord}
    (h : packetHistoryFindIndex (w.engine.history s) i = some r) : r.NullByPid := by
  obtain ⟨t, p, hr⟩ := hw.isPush_of_find h
  rw [hr]
  exact p.isNull_iff

theorem Consistent.nullByPid_of_front (hw : Consistent w) {s : StreamId} {r : PacketRecord}
    (h : delayQueueFront (w.engine.queue s) = some r) : r.NullByPid := by
  obtain ⟨t, p, hr⟩ := hw.isPush_of_front h
  rw [hr]
  exact p.isNull_iff

theorem findAlignedSecondaryRecord_eq_some {e : RecoveryEngine} {primary r : PacketRecord}
    (h : findAlignedSecondaryRecord e primary = some r) :
    e.alignment.hasAlignment = true ∧ 0 ≤ primary.streamIndex + e.alignment.offsetPackets ∧
      packetHistoryFindIndex (e.history .secondary)
        (primary.streamIndex + e.alignment.offsetPackets).toNat = some r := by
  simp only [findAlignedSecondaryRecord] at h
  split_ifs at h with h1 h2
  exact ⟨by simpa using h1, by omega, h⟩

theorem gapRoute_ne {kind : GapKind} {primary M : PacketRecord} :
    Route.gap kind primary M ≠ .passThrough ∧ Route.gap kind primary M ≠ .failover := by simp

theorem Prepared.accounted {primary : PacketRecord} (h : Prepared primary w w')
    (hconsistent : Consistent w) (hw : Accounted w) : Accounted w' := by
  cases h with
  | fits => exact hw
  | rejected => exact (recoveryRejectLog_sameOutput _ _ _ _ _ _ _ _).accounted hw
  | @inserted kind M L previousCc decision s unique evidence adjacent =>
    have hlogged := (gapLogged_sameOutput w primary L.length previousCc decision).accounted hw
    have hall : Accounted (acceptAll (.gap kind primary M) (gapNullFlag kind) _ L) :=
      acceptAll_accounted (gapNullFlag kind) gapRoute_ne
        (fun r hr => hconsistent.nullByPid_of_find (evidence.found hr).1) hlogged
    exact ((sink_sameOutput _ s).trans (gapBurst_sameOutput kind L.length _)).accounted hall

theorem openRelease_consistent {primary : PacketRecord} (h : Consistent w) :
    Consistent (openRelease primary w) := by
  have hconsumes : Consumes w (openRelease primary w) := by
    refine consumes_of_notes (l := [.release (openRelease primary w).engine]) rfl
      (by simp [Event.IsNote]) (by simp) rfl rfl rfl rfl rfl rfl rfl fun s => ?_
    cases s <;> exact List.suffix_rfl
  exact hconsumes.consistent h

theorem release_accounted {primary : PacketRecord} {res : Iteration × World σ}
    (h : ReleaseOutcome env primary w res)
    (hfront : delayQueueFront w.engine.primaryQueue = some primary) (hconsistent : Consistent w)
    (hw : Accounted w) : Accounted res.2 := by
  have hopen : Accounted (openRelease primary w) := (openRelease_sameOutput primary w).accounted hw
  have hconsistent' : Consistent (openRelease primary w) := openRelease_consistent hconsistent
  have hnull : primary.NullByPid := hconsistent.nullByPid_of_front (s := .primary) hfront
  cases h with
  | @replaced candidate s damaged check =>
    have hfind := (findAlignedSecondaryRecord_eq_some (checkPrimaryTei_eq_ok_iff.mp check).aligned).2.2
    have hlogged := ((teiLogged_sameOutput (openRelease primary w) primary).trans
      (sink_sameOutput _ s)).accounted hopen
    have hrecovered : Accounted (acceptRecovered (.transportError primary) (fun _ => false) _ _) :=
      acceptRecovered_accounted (hconsistent'.nullByPid_of_find hfind) (fun _ => false) (by simp)
        hlogged
    exact (popPrimary_sameOutput _).accounted hrecovered
  | @sent w' s prepared =>
    have hprepared := (sink_sameOutput _ s).accounted (prepared.accounted hconsistent' hopen)
    have hsent := acceptRecord_accounted hnull (.inl rfl) hprepared
    exact ((updatePrimaryAnchor_sameOutput _ primary _).trans (popPrimary_sameOutput _)).accounted
      hsent
  | @refused w' s refuses prepared =>
    exact (sink_sameOutput _ s).accounted (prepared.accounted hconsistent' hopen)
  | @refusedReplacement s refuses =>
    exact ((teiLogged_sameOutput _ primary).trans (sink_sameOutput _ s)).accounted hopen
  | @refusedGap kind M L previousCc decision s n refuses evidence =>
    have hlogged := (gapLogged_sameOutput (openRelease primary w) primary L.length previousCc
      decision).accounted hopen
    exact (sink_sameOutput _ s).accounted (acceptAll_accounted (gapNullFlag kind) gapRoute_ne
      (fun r hr => hconsistent'.nullByPid_of_find (evidence.found (List.mem_of_mem_take hr)).1)
      hlogged)

theorem failoverSent_accounted {r : PacketRecord} {s : σ}
    (hfront : delayQueueFront w.engine.secondaryQueue = some r) (hconsistent : Consistent w)
    (hw : Accounted w) : Accounted (failoverSent env w r s) := by
  have hswitch := (setActiveOutputStream_sameOutput env w .secondary s).accounted hw
  have hsent := acceptRecord_accounted (hconsistent.nullByPid_of_front (s := .secondary) hfront)
    (.inr rfl) hswitch
  exact ⟨hsent.1, hsent.2, hsent.3, hsent.4, hsent.5, hsent.6, hsent.7, hsent.8⟩

theorem Stage.accounted (h : Stage env w w') (hw : Consistent w ∧ Accounted w) :
    Consistent w' ∧ Accounted w' := by
  obtain ⟨hconsistent, hw⟩ := hw
  refine ⟨h.consistent hconsistent, ?_⟩
  cases h with
  | ingest streamId p => exact (pushIngest_ingested env streamId p w).sameOutput.accounted hw
  | sink s => exact (sink_sameOutput w s).accounted hw
  | read => exact SameOutput.accounted (w := w) ⟨rfl, rfl, rfl⟩ hw
  | wait _ idle =>
    obtain ⟨start, he⟩ := openDrain_engine env w
    exact (sameOutput_of_notes (openDrain_trace w) (by simp [Event.IsNote]) (by rw [he])
      rfl).accounted hw
  | discard _ nonempty ready =>
    obtain ⟨start, ring, he, -⟩ := discardDrain_engine env w
    exact (sameOutput_of_notes (discardDrain_trace w) (by simp [Event.IsNote]) (by rw [he])
      rfl).accounted hw
  | takeOver _ ready => exact (setActiveOutputStream_sameOutput env w .primary _).accounted hw
  | release primary _ front active =>
    exact release_accounted (releasePrimary_outcome env primary w) front hconsistent hw
  | failover force nowNs _ guard =>
    refine (failoverLoop_rule (J := fun w => Consistent w ∧ Accounted w) ?_ ?_ ?_ _ _ ?_).2
    · rintro w₁ ⟨h1, h2⟩
      exact ⟨(Stage.read w₁ : Stage env w₁ _).consistent h1,
        SameOutput.accounted (w := w₁) ⟨rfl, rfl, rfl⟩ h2⟩
    · rintro w₁ r s hfront ⟨h1, h2⟩
      exact ⟨(failoverSent_consumes hfront).consistent h1, failoverSent_accounted hfront h1 h2⟩
    · rintro w₁ s - ⟨h1, h2⟩
      exact ⟨(setActiveOutputStream_consumes env w₁ .secondary s).consistent h1,
        (setActiveOutputStream_sameOutput env w₁ .secondary s).accounted h2⟩
    · exact ⟨(enterFailover_consumes nowNs w).consistent hconsistent,
        (enterFailover_sameOutput nowNs w).accounted hw⟩

theorem freshWorld_accounted (config : RecoveryEngineConfig) (sinkState : σ) :
    Accounted (freshWorld config sinkState) :=
  ⟨rfl, rfl, rfl, by simp [freshWorld, reportStatsInit], fun _ _ => rfl, rfl, rfl, rfl⟩

theorem reachable_accounted {config : RecoveryEngineConfig} {sinkState : σ}
    (h : Reachable env config sinkState w) : Accounted w :=
  (run_invariant (I := fun w => Consistent w ∧ Accounted w)
    (fun _ _ (hstage : Stage env _ _) hw => hstage.accounted hw) h
    ⟨freshWorld_consistent config sinkState, freshWorld_accounted config sinkState⟩).2

/-- **Output accounting is exact under any sink.** -/
theorem output_accounting (env : Env σ) (config : RecoveryEngineConfig) (sinkState : σ)
    (ops : List Op) :
    let w := run env (freshWorld config sinkState) ops
    let sent := sentRecords w.trace
    w.stats.outputPackets = sent.length ∧
      w.stats.outputPackets = (queueSent .primary w.trace).length +
        (queueSent .secondary w.trace).length + w.stats.recoveredPackets ∧
      w.stats.recoveredPackets = w.stats.recoveredNullPackets + w.stats.recoveredContentPackets ∧
      w.stats.outputDatagrams = w.stats.outputPackets / 7 ∧
      (∀ pid, pid ≠ tsNullPid →
        (w.engine.outputPidState pid).counter? = lastCounter pid sent) ∧
      w.stats.outputContinuityErrors = countChecked isContinuityError [] sent ∧
      w.stats.outputDuplicateCounters = countChecked isDuplicateCounter [] sent := by
  have h := reachable_accounted (run_reachable env config sinkState ops)
  refine ⟨?_, h.routes, h.recovered, h.datagrams, h.states, h.errors, h.duplicates⟩
  rw [h.packets, sentRecords, List.length_map]

/-! ### What the sink has taken -/

/-- The state of the sink keeps the packets for which it has answered 0. -/
structure Records (sink : PacketSink σ) (taken : σ → List Packet) : Prop where
  send : ∀ s p, taken (sink.sendTsPacket s p).2 =
    if (sink.sendTsPacket s p).1 = 0 then taken s ++ [p] else taken s
  flush : ∀ flush, sink.flush = some flush → ∀ s, taken (flush s).2 = taken s

/-- A sink with a record of what it takes. -/
def PacketSink.recording (sink : PacketSink σ) : PacketSink (σ × List Packet) where
  sendTsPacket s p :=
    ((sink.sendTsPacket s.1 p).1, (sink.sendTsPacket s.1 p).2,
      if (sink.sendTsPacket s.1 p).1 = 0 then s.2 ++ [p] else s.2)
  flush := sink.flush.map fun flush s => ((flush s.1).1, (flush s.1).2, s.2)

/-- Any sink can be given one. -/
theorem PacketSink.recording_records (sink : PacketSink σ) : Records sink.recording Prod.snd where
  send _ _ := rfl
  flush flush h s := by
    obtain ⟨inner, -, rfl⟩ := Option.map_eq_some_iff.mp h
    rfl

section Records

variable {taken : σ → List Packet} (h : Records env.sink taken)

include h

theorem Records.kept :
    Kept env fun emission => taken emission.1 = (emission.2.1.map Prod.snd).map (·.packet) := by
  intro route w r hw
  have hsend := h.send w.sinkState r.packet
  rw [outputRecord]
  split
  · next hrefused =>
    rw [if_neg hrefused] at hsend
    exact hsend.trans hw
  · next htaken =>
    rw [if_pos (not_not.mp htaken)] at hsend
    simp only [acceptRecord_emission, List.map_append, List.map_cons, List.map_nil]
    exact hsend.trans (congrArg (· ++ [r.packet]) hw)

theorem Records.step (op : Op) (hw : taken w.sinkState = (sentRecords w.trace).map (·.packet)) :
    taken (step env w op).sinkState = (sentRecords (step env w op).trace).map (·.packet) := by
  cases op with
  | push streamId p => exact h.kept.push streamId p w hw
  | drain force => exact h.kept.drain force w hw
  | flush =>
    have hdrain := h.kept.drain true w hw
    simp only [TwoStream.step, recoveryEngineFlush]
    generalize recoveryEngineDrain env true w = res at hdrain ⊢
    rcases res with ⟨_ | _, w'⟩
    · exact hdrain
    · simp only
      split
      · exact hdrain
      · next flush hflush => exact (h.flush flush hflush _).trans hdrain

/-- **What is logged as sent is what the sink has taken**, in every run, in the same order. -/
theorem run_taken (config : RecoveryEngineConfig) {sinkState : σ} (hstart : taken sinkState = [])
    (ops : List Op) : taken (run env (freshWorld config sinkState) ops).sinkState =
      (sentRecords (run env (freshWorld config sinkState) ops).trace).map (·.packet) := by
  have hrun (w : World σ) (hw : taken w.sinkState = (sentRecords w.trace).map (·.packet)) :
      taken (run env w ops).sinkState = (sentRecords (run env w ops).trace).map (·.packet) := by
    induction ops generalizing w with
    | nil => exact hw
    | cons op rest ih => exact ih (TwoStream.step env w op) (h.step op hw)
  exact hrun (freshWorld config sinkState) hstart

end Records

/-- **The output is counted by what the sink has taken**, for any sink with a record of it. -/
theorem recorded_accounting (sink : PacketSink σ) (clock : ℕ → ℕ) (config : RecoveryEngineConfig)
    (sinkState : σ) (ops : List Op) :
    let env : Env (σ × List Packet) := ⟨sink.recording, clock⟩
    let w := run env (freshWorld config (sinkState, [])) ops
    w.sinkState.2 = (sentRecords w.trace).map (·.packet) ∧ w.stats.outputPackets = w.sinkState.2.length := by
  intro env w
  have hrecords : Records env.sink Prod.snd := sink.recording_records
  have htaken : w.sinkState.2 = (sentRecords w.trace).map (·.packet) := run_taken hrecords config rfl ops
  have hw : Accounted w := reachable_accounted (run_reachable env config (sinkState, []) ops)
  refine ⟨htaken, ?_⟩
  rw [hw.packets, htaken, sentRecords, List.length_map, List.length_map]

end TwoStream
