import TwoStreamRecovery.Engine.Release
import TwoStreamRecovery.Lib.Runs
import TwoStreamRecovery.Run

/-!
# The stages of a call

* `Stage env w w'`: one stage of a push, a drain or a flush, with what the code has checked before
  it. `run_stages`: a run is a sequence of stages, so what every stage preserves holds in every
  run.
* `Reachable`: the states a run passes through.
* `SameInputs`: the fields that sending leaves alone. `failoverLoop_rule`: the loop of the failover
  routine.
-/

namespace TwoStream

open Relation

variable {σ : Type}

/-! ### Frames -/

/-- The fields of the engine that no release changes, apart from the queue it pops. -/
structure SameInputs (e e' : RecoveryEngine) : Prop where
  config : e'.config = e.config
  history : e'.history = e.history
  secondaryQueue : e'.secondaryQueue = e.secondaryQueue
  nextStreamIndex : e'.nextStreamIndex = e.nextStreamIndex
  lastInputArrivalNs : e'.lastInputArrivalNs = e.lastInputArrivalNs
  activeOutputStreamId : e'.activeOutputStreamId = e.activeOutputStreamId
  primaryReturnStartNs : e'.primaryReturnStartNs = e.primaryReturnStartNs
  alignment : e'.alignment = e.alignment
  inputPidState : e'.inputPidState = e.inputPidState

theorem SameInputs.trans {e e' e'' : RecoveryEngine} (h : SameInputs e e') (h' : SameInputs e' e'') :
    SameInputs e e'' :=
  ⟨h'.1.trans h.1, h'.2.trans h.2, h'.3.trans h.3, h'.4.trans h.4, h'.5.trans h.5, h'.6.trans h.6,
    h'.7.trans h.7, h'.8.trans h.8, h'.9.trans h.9⟩

theorem openRelease_sameInputs (primary : PacketRecord) (w : World σ) :
    SameInputs w.engine (openRelease primary w).engine :=
  ⟨rfl, rfl, rfl, rfl, rfl, rfl, rfl, rfl, rfl⟩

section Frames

variable {route : Route} {nullFlag : PacketRecord → Bool} {w : World σ} {r primary : PacketRecord}

theorem acceptAll_sameInputs (L : List PacketRecord) :
    SameInputs w.engine (acceptAll route nullFlag w L).engine := by
  rw [acceptAll_engine]
  exact ⟨rfl, rfl, rfl, rfl, rfl, rfl, rfl, rfl, rfl⟩

theorem acceptAll_primaryQueue (L : List PacketRecord) :
    (acceptAll route nullFlag w L).engine.primaryQueue = w.engine.primaryQueue := by
  rw [acceptAll_engine]

theorem acceptAll_lastPrimaryAnchor (L : List PacketRecord) :
    (acceptAll route nullFlag w L).engine.lastPrimaryAnchor = w.engine.lastPrimaryAnchor := by
  rw [acceptAll_engine]

@[simp] theorem gapBurst_engine (kind : GapKind) (n : ℕ) :
    (gapBurst kind n w).engine = w.engine := by
  cases kind <;> simp only [gapBurst, countContentBurst] <;> split <;> rfl

@[simp] theorem gapBurst_trace (kind : GapKind) (n : ℕ) : (gapBurst kind n w).trace = w.trace := by
  cases kind <;> simp only [gapBurst, countContentBurst] <;> split <;> rfl

@[simp] theorem gapBurst_reads (kind : GapKind) (n : ℕ) : (gapBurst kind n w).reads = w.reads := by
  cases kind <;> simp only [gapBurst, countContentBurst] <;> split <;> rfl

/-- The anchor the loop is left with. -/
def nextAnchor (old : PrimaryAnchor) (primary : PacketRecord) : Option PacketRecord → PrimaryAnchor
  | none => old
  | some m =>
    if primary.isNull || m.isNull || !recordsExactNonErrorMatch primary m then old
    else ⟨true, primary.streamIndex, m.streamIndex⟩

theorem updatePrimaryAnchor_engine (m : Option PacketRecord) :
    (updatePrimaryAnchor w primary m).engine =
      { w.engine with
        lastPrimaryAnchor := nextAnchor w.engine.lastPrimaryAnchor primary m } := by
  unfold updatePrimaryAnchor nextAnchor
  cases m with
  | none => rfl
  | some m =>
    simp only
    split <;> rfl

theorem updatePrimaryAnchor_stats (m : Option PacketRecord) :
    (updatePrimaryAnchor w primary m).stats = w.stats := by
  unfold updatePrimaryAnchor
  cases m with
  | none => rfl
  | some m =>
    simp only
    split <;> rfl

theorem updatePrimaryAnchor_reads (m : Option PacketRecord) :
    (updatePrimaryAnchor w primary m).reads = w.reads := by
  unfold updatePrimaryAnchor
  cases m with
  | none => rfl
  | some m =>
    simp only
    split <;> rfl

/-- The anchor's own trace. -/
theorem updatePrimaryAnchor_trace (w : World σ) (primary : PacketRecord)
    (m : Option PacketRecord) :
    ∃ l, (updatePrimaryAnchor w primary m).trace = w.trace ++ l ∧
      ∀ ev ∈ l, ∃ old new, ev = .anchored old new := by
  unfold updatePrimaryAnchor
  cases m with
  | none => exact ⟨[], by simp, by simp⟩
  | some m =>
    simp only
    split
    · exact ⟨[], by simp, by simp⟩
    · exact ⟨_, rfl, by simp⟩

theorem Prepared.sameInputs {w' : World σ} (h : Prepared primary w w') :
    SameInputs w.engine w'.engine ∧ w'.engine.primaryQueue = w.engine.primaryQueue ∧
      w'.reads = w.reads := by
  cases h with
  | fits => exact ⟨⟨rfl, rfl, rfl, rfl, rfl, rfl, rfl, rfl, rfl⟩, rfl, rfl⟩
  | rejected => exact ⟨⟨rfl, rfl, rfl, rfl, rfl, rfl, rfl, rfl, rfl⟩, rfl, rfl⟩
  | inserted =>
    rw [gapBurst_engine, gapBurst_reads]
    refine ⟨?_, ?_, ?_⟩
    · rw [acceptAll_engine]
      exact ⟨rfl, rfl, rfl, rfl, rfl, rfl, rfl, rfl, rfl⟩
    · rw [acceptAll_engine]
      rfl
    · rw [acceptAll_reads]
      rfl

/-- **Frame of an iteration:** a release pops at most its own record and reads no clock. -/
theorem ReleaseOutcome.frame {env : Env σ} {res : Iteration × World σ}
    (h : ReleaseOutcome env primary w res) :
    SameInputs w.engine res.2.engine ∧ res.2.reads = w.reads ∧
      (res.1 = .next ∧ res.2.engine.primaryQueue = delayQueuePop w.engine.primaryQueue ∨
        res.1 = .done false ∧ ¬ env.Accepting ∧
          res.2.engine.primaryQueue = w.engine.primaryQueue) := by
  cases h with
  | replaced damaged check =>
    refine ⟨?_, ?_, .inl ⟨rfl, ?_⟩⟩
    · simp only [popPrimary, acceptRecovered, acceptRecord_engine]
      exact ⟨rfl, rfl, rfl, rfl, rfl, rfl, rfl, rfl, rfl⟩
    · simp only [popPrimary, acceptRecovered, acceptRecord_reads]
      rfl
    · simp only [popPrimary, acceptRecovered, acceptRecord_engine]
      rfl
  | sent prepared =>
    obtain ⟨hsame, hqueue, hreads⟩ := prepared.sameInputs
    refine ⟨?_, ?_, .inl ⟨rfl, ?_⟩⟩
    · simp only [popPrimary, updatePrimaryAnchor_engine, acceptRecord_engine]
      exact ((openRelease_sameInputs primary w).trans hsame).trans
        ⟨rfl, rfl, rfl, rfl, rfl, rfl, rfl, rfl, rfl⟩
    · simp only [popPrimary, updatePrimaryAnchor_reads, acceptRecord_reads]
      exact hreads
    · simp only [popPrimary, updatePrimaryAnchor_engine, acceptRecord_engine, hqueue]
      rfl
  | refused refuses prepared =>
    obtain ⟨hsame, hqueue, hreads⟩ := prepared.sameInputs
    exact ⟨(openRelease_sameInputs primary w).trans hsame, hreads, .inr ⟨rfl, refuses, hqueue⟩⟩
  | refusedReplacement refuses =>
    exact ⟨⟨rfl, rfl, rfl, rfl, rfl, rfl, rfl, rfl, rfl⟩, rfl, .inr ⟨rfl, refuses, rfl⟩⟩
  | refusedGap refuses evidence =>
    refine ⟨?_, ?_, .inr ⟨rfl, refuses, ?_⟩⟩
    · exact (openRelease_sameInputs primary w).trans
        (acceptAll_sameInputs (w := gapLogged (openRelease primary w) _ _ _ _) _)
    · rw [acceptAll_reads]
      rfl
    · exact acceptAll_primaryQueue _

end Frames

/-! ### Pushing -/

/-- What looking at a pushed record may change: the alignment, the input counters, and log lines. -/
structure Observed (w w' : World σ) : Prop where
  engine : ∃ a i, w'.engine = { w.engine with alignment := a, inputPidState := i }
  stats : ∃ a b c d, w'.stats =
    { w.stats with
      alignmentOffsetPackets := a
      alignmentConfidence := b
      secondaryLossEvents := c
      secondaryMissingPackets := d }
  reads : w'.reads = w.reads
  sinkState : w'.sinkState = w.sinkState
  trace : ∃ l, w'.trace = w.trace ++ l ∧ ∀ ev ∈ l, ∃ d, ev = .decision d

section Observe

variable {w w' w'' : World σ}

theorem Observed.refl (w : World σ) : Observed w w :=
  ⟨⟨_, _, rfl⟩, ⟨_, _, _, _, rfl⟩, rfl, rfl, [], by simp, by simp⟩

theorem Observed.trans (h : Observed w w') (h' : Observed w' w'') : Observed w w'' := by
  obtain ⟨⟨a, i, he⟩, ⟨b, c, d, f, hs⟩, hr, hsink, l, ht, hl⟩ := h
  obtain ⟨⟨a', i', he'⟩, ⟨b', c', d', f', hs'⟩, hr', hsink', l', ht', hl'⟩ := h'
  refine ⟨⟨a', i', by rw [he', he]⟩, ⟨b', c', d', f', by rw [hs', hs]⟩, hr'.trans hr,
    hsink'.trans hsink, l ++ l', by rw [ht', ht, List.append_assoc], fun ev hev => ?_⟩
  exact (List.mem_append.mp hev).elim (hl ev) (hl' ev)

theorem updateAlignmentFromMatch_observed (w : World σ) (primary secondary : PacketRecord) :
    Observed w (updateAlignmentFromMatch w primary secondary) :=
  ⟨⟨_, _, rfl⟩, ⟨_, _, _, _, rfl⟩, rfl, rfl, [], by simp [updateAlignmentFromMatch], by simp⟩

theorem updatePcrTiming_observed (w : World σ) (r : PacketRecord) :
    Observed w (updatePcrTiming w r) := by
  unfold updatePcrTiming
  split
  · exact .refl w
  · split
    · exact .refl w
    · split
      · split <;> exact updateAlignmentFromMatch_observed _ _ _
      · exact .refl w

theorem observeInputPathGap_observed (w : World σ) (streamId : StreamId) (r : PacketRecord) :
    Observed w (observeInputPathGap w streamId r) := by
  simp only [observeInputPathGap]
  split
  · exact .refl w
  · refine Observed.trans (?_ : Observed w (ite _ _ _))
      ⟨⟨_, _, rfl⟩, ⟨_, _, _, _, rfl⟩, rfl, rfl, [], (List.append_nil _).symm, by simp⟩
    generalize (_ && _ : Bool) = gap
    cases gap
    · exact .refl w
    · exact ⟨⟨_, _, rfl⟩, ⟨_, _, _, _, rfl⟩, rfl, rfl, _, rfl, by simp⟩

theorem missAlignment_observed (w : World σ) : Observed w (missAlignment w) := by
  simp only [missAlignment]
  split <;> exact ⟨⟨_, _, rfl⟩, ⟨_, _, _, _, rfl⟩, rfl, rfl, [], by simp, by simp⟩

theorem updateAlignment_observed (w : World σ) (streamId : StreamId) (r : PacketRecord) :
    Observed w (updateAlignment w streamId r) := by
  simp only [updateAlignment]
  split
  · exact .refl w
  · split
    · cases streamId <;> exact updateAlignmentFromMatch_observed _ _ _
    · split
      · exact ⟨⟨_, _, rfl⟩, ⟨_, _, _, _, rfl⟩, rfl, rfl, [], by simp, by simp⟩
      · exact missAlignment_observed w

end Observe

/-- The queue of a stream. -/
def RecoveryEngine.queue (e : RecoveryEngine) : StreamId → DelayQueue
  | .primary => e.primaryQueue
  | .secondary => e.secondaryQueue

/-- What a push has done before its drain. -/
structure Ingested (env : Env σ) (streamId : StreamId) (p : ParsedPacket) (w w' : World σ) : Prop where
  engine : ∃ a i primaryQueue secondaryQueue, w'.engine =
    { w.engine with
      alignment := a
      inputPidState := i
      primaryQueue := primaryQueue
      secondaryQueue := secondaryQueue
      nextStreamIndex :=
        Function.update w.engine.nextStreamIndex streamId (w.engine.nextStreamIndex streamId + 1)
      history :=
        Function.update w.engine.history streamId
          (pushHistory w.engine.config (w.engine.history streamId)
            (makeRecord streamId (w.engine.nextStreamIndex streamId) (env.clock w.reads) p))
      lastInputArrivalNs := Function.update w.engine.lastInputArrivalNs streamId (env.clock w.reads)
      decisionCandidateCount := 0
      decisionCandidatesTruncated := false }
  stats : ∃ a b c d n, w'.stats =
    { w.stats with
      alignmentOffsetPackets := a
      alignmentConfidence := b
      secondaryLossEvents := c
      secondaryMissingPackets := d
      primaryDelayOverflows := n }
  reads : w'.reads = w.reads + 1
  sinkState : w'.sinkState = w.sinkState
  otherQueue : w'.engine.queue streamId.other = w.engine.queue streamId.other
  trace : ∃ l,
    w'.trace = w.trace ++ .pushed
      (makeRecord streamId (w.engine.nextStreamIndex streamId) (env.clock w.reads) p) :: l ∧
    (∀ ev ∈ l, (∃ d, ev = .decision d) ∨ ev = .overflow streamId) ∧
    (w'.stats.primaryDelayOverflows = 0 →
      w.stats.primaryDelayOverflows = 0 ∧ .overflow .primary ∉ l) ∧
    (.overflow streamId ∉ l ∧
        (w'.engine.queue streamId).toList = (w.engine.queue streamId).toList ++
          [makeRecord streamId (w.engine.nextStreamIndex streamId) (env.clock w.reads) p] ∨
      .overflow streamId ∈ l ∧
        (w'.engine.queue streamId).toList = (w.engine.queue streamId).toList.tail ++
          [makeRecord streamId (w.engine.nextStreamIndex streamId) (env.clock w.reads) p])

theorem toList_delayQueuePush {queue queue' : DelayQueue} {r : PacketRecord}
    (h : delayQueuePush queue r = some queue') : queue'.toList = queue.toList ++ [r] := by
  obtain ⟨ring, hring, rfl⟩ := Option.map_eq_some_iff.mp h
  exact (RingBuffer.toList_push? hring).1

theorem toList_delayQueuePopPush (queue : DelayQueue) (r : PacketRecord) :
    (delayQueuePopPush queue r).toList = queue.toList.tail ++ [r] := by
  obtain ⟨queue', h⟩ := Option.ne_none_iff_exists'.mp (delayQueuePush_pop queue r)
  rw [delayQueuePopPush, h, Option.getD_some, toList_delayQueuePush h, toList_delayQueuePop]

/-- **What a push does before its drain.** -/
theorem pushIngest_ingested (env : Env σ) (streamId : StreamId) (p : ParsedPacket) (w : World σ) :
    Ingested env streamId p w (pushIngest env streamId p w) := by
  have hobserved := ((updatePcrTiming_observed (storeRecord env streamId p w).2
    (storeRecord env streamId p w).1).trans (observeInputPathGap_observed _ streamId
      (storeRecord env streamId p w).1)).trans (updateAlignment_observed _ streamId
        (storeRecord env streamId p w).1)
  unfold pushIngest
  simp only
  generalize updateAlignment _ streamId (storeRecord env streamId p w).1 = w₁ at hobserved ⊢
  obtain ⟨⟨a, i, he⟩, ⟨b, c, d, f, hs⟩, hr, hsink, l, ht, hl⟩ := hobserved
  have ht : w₁.trace = w.trace ++ .pushed
      (makeRecord streamId (w.engine.nextStreamIndex streamId) (env.clock w.reads) p) :: l := by
    rw [ht]
    simp [storeRecord, World.log, reportStatsNowNs]
  have hdec : ∀ ev ∈ l, (∃ d, ev = .decision d) ∨ ev = .overflow streamId :=
    fun ev hev => .inl (hl ev hev)
  have hno : ∀ id, .overflow id ∉ l := fun id h => by simpa using hl _ h
  cases streamId with
  | primary =>
    simp only [pushQueue]
    split
    · next queue hqueue =>
      refine ⟨⟨a, i, queue, w.engine.secondaryQueue, by rw [he]; rfl⟩, ⟨b, c, d, f, _, by rw [hs]; rfl⟩,
        by rw [hr]; rfl, by rw [hsink]; rfl, by simp [RecoveryEngine.queue, StreamId.other, he]; rfl,
        l, ht, hdec,
        fun h0 => ⟨by rw [hs] at h0; exact h0, hno _⟩, .inl ⟨hno _, ?_⟩⟩
      rw [RecoveryEngine.queue, toList_delayQueuePush hqueue, he]
      rfl
    · refine ⟨⟨a, i, _, w.engine.secondaryQueue, by rw [World.log, he]; rfl⟩,
        ⟨b, c, d, f, _, by rw [World.log, hs]; rfl⟩, by rw [World.log]; exact hr,
        by rw [World.log]; exact hsink, by simp [RecoveryEngine.queue, StreamId.other, World.log, he]; rfl,
        l ++ [.overflow .primary],
        by simp [World.log, ht], ?_, fun h0 => by simp at h0, .inr ⟨by simp, ?_⟩⟩
      · intro ev hev
        rcases List.mem_append.mp hev with hev | hev
        · exact hdec ev hev
        · exact .inr (by simpa using hev)
      · rw [RecoveryEngine.queue, toList_delayQueuePopPush, World.log, he]
        rfl
  | secondary =>
    simp only [pushQueue]
    split
    · next queue hqueue =>
      refine ⟨⟨a, i, w.engine.primaryQueue, queue, by rw [he]; rfl⟩, ⟨b, c, d, f, _, by rw [hs]; rfl⟩,
        by rw [hr]; rfl, by rw [hsink]; rfl, by simp [RecoveryEngine.queue, StreamId.other, he]; rfl,
        l, ht, hdec,
        fun h0 => ⟨by rw [hs] at h0; exact h0, hno _⟩, .inl ⟨hno _, ?_⟩⟩
      rw [RecoveryEngine.queue, toList_delayQueuePush hqueue, he]
      rfl
    · refine ⟨⟨a, i, w.engine.primaryQueue, _, by rw [World.log, he]; rfl⟩,
        ⟨b, c, d, f, _, by rw [World.log, hs]; rfl⟩, by rw [World.log]; exact hr,
        by rw [World.log]; exact hsink, by simp [RecoveryEngine.queue, StreamId.other, World.log, he]; rfl,
        l ++ [.overflow .secondary], by simp [World.log, ht], ?_,
        fun h0 => ⟨by rw [World.log, hs] at h0; exact h0, by simp [hno]⟩, .inr ⟨by simp, ?_⟩⟩
      · intro ev hev
        rcases List.mem_append.mp hev with hev | hev
        · exact hdec ev hev
        · exact .inr (by simpa using hev)
      · rw [RecoveryEngine.queue, toList_delayQueuePopPush, World.log, he]
        rfl

/-! ### Draining -/

/-- A drain that has read the clock and updated the hold-off. -/
def openDrain (env : Env σ) (w : World σ) : World σ :=
  let (nowNs, w) := reportStatsNowNs env w
  let w := w.log (.drain nowNs w.engine)
  { w with engine := (primaryReturnHoldoffElapsed w.engine nowNs).2 }

/-- `primary_return_ready` of a drain started in `w`. -/
def drainReady (env : Env σ) (w : World σ) : Bool :=
  (primaryReturnHoldoffElapsed w.engine (env.clock w.reads)).1

/-- A drain that has dropped the primary records it takes for already sent. -/
def discardDrain (env : Env σ) (w : World σ) : World σ :=
  let w := openDrain env w
  { w with engine := discardPrimaryRecordsAlreadyOutputBySecondary w.engine }

/-- The hold-off is over at `nowNs`. -/
structure ReturnElapsed (e : RecoveryEngine) (nowNs : ℕ) : Prop where
  heard : primaryIsSilentBeyondOutage e nowNs = false
  arrived : e.lastInputArrivalNs .primary ≠ 0
  started : e.primaryReturnStartNs = 0 → nowNs = 0
  elapsed : e.config.primaryReturnNs ≤ elapsedNs e.primaryReturnStartNs nowNs

theorem returnElapsed_of_ready {e : RecoveryEngine} {nowNs : ℕ}
    (h : (primaryReturnHoldoffElapsed e nowNs).1 = true)
    (hactive : e.activeOutputStreamId = .secondary) :
    ReturnElapsed (primaryReturnHoldoffElapsed e nowNs).2 nowNs := by
  unfold primaryReturnHoldoffElapsed at h ⊢
  rw [if_neg (by simp [hactive])] at h ⊢
  split at h
  · simp at h
  · next hsilent =>
    rw [if_neg hsilent]
    have hsilent : primaryIsSilentBeyondOutage e nowNs = false := by simpa using hsilent
    split at h
    · simp at h
    · next harrived =>
      rw [if_neg harrived]
      by_cases hstart : e.primaryReturnStartNs = 0
      · simp only [if_pos hstart] at h ⊢
        exact ⟨hsilent, harrived, id, by simpa using h⟩
      · simp only [if_neg hstart] at h ⊢
        exact ⟨hsilent, harrived, fun h0 => absurd h0 hstart, by simpa using h⟩

/-- A record sent by failover. -/
def failoverSent (env : Env σ) (w : World σ) (r : PacketRecord) (s : σ) : World σ :=
  let w := acceptRecord .failover { setActiveOutputStream env w .secondary with sinkState := s } r
  { w with engine := { w.engine with secondaryQueue := delayQueuePop w.engine.secondaryQueue } }

/-- The failover routine after its guard. -/
def enterFailover (nowNs : ℕ) (w : World σ) : World σ :=
  { w.log (.failover nowNs w.engine) with
    engine := discardSecondaryRecordsAlreadyOutputByPrimary w.engine }

/-- What holds when the failover routine has passed its guard: `nowNs` is the latest clock reading,
and the secondary is the output already or the primary is silent and has nothing left to send. -/
structure FailoverGuard (env : Env σ) (w : World σ) (nowNs : ℕ) : Prop where
  reading : nowNs = w.lastReading env
  outage : w.engine.activeOutputStreamId = .secondary ∨
    primaryIsSilentBeyondOutage w.engine nowNs = true ∧ w.engine.primaryQueue.ring.count = 0

/-- One stage of a call. -/
inductive Stage (env : Env σ) : World σ → World σ → Prop
  | ingest (streamId : StreamId) (p : ParsedPacket) (w : World σ) :
      Stage env w (pushIngest env streamId p w)
  | sink (s : σ) (w : World σ) : Stage env w { w with sinkState := s }
  | read (w : World σ) : Stage env w (reportStatsNowNs env w).2
  | wait (w : World σ)
      (idle : w.engine.primaryQueue.ring.count = 0 ∨ drainReady env w = false) :
      Stage env w (openDrain env w)
  | discard (w : World σ) (nonempty : w.engine.primaryQueue.ring.count ≠ 0)
      (ready : drainReady env w = true) : Stage env w (discardDrain env w)
  | takeOver (w : World σ)
      (ready : w.engine.activeOutputStreamId = .secondary →
        ReturnElapsed w.engine (w.lastReading env)) :
      Stage env w (setActiveOutputStream env w .primary)
  | release (primary : PacketRecord) (w : World σ)
      (front : delayQueueFront w.engine.primaryQueue = some primary)
      (active : w.engine.activeOutputStreamId = .primary) :
      Stage env w (releasePrimary env primary w).2
  | failover (force : Bool) (nowNs : ℕ) (w : World σ) (guard : FailoverGuard env w nowNs) :
      Stage env w
        (failoverLoop env force (enterFailover nowNs w).engine.secondaryQueue.ring.count
          (enterFailover nowNs w)).2

/-- A relation that holds over each stage of a drain. -/
structure DrainSteps (env : Env σ) (R : World σ → World σ → Prop) : Prop where
  read : ∀ w, R w (reportStatsNowNs env w).2
  wait : ∀ w, w.engine.primaryQueue.ring.count = 0 ∨ drainReady env w = false → R w (openDrain env w)
  discard : ∀ w, w.engine.primaryQueue.ring.count ≠ 0 → drainReady env w = true →
    R w (discardDrain env w)
  takeOver : ∀ w, (w.engine.activeOutputStreamId = .secondary →
    ReturnElapsed w.engine (w.lastReading env)) → R w (setActiveOutputStream env w .primary)
  release : ∀ primary w, delayQueueFront w.engine.primaryQueue = some primary →
    w.engine.activeOutputStreamId = .primary → R w (releasePrimary env primary w).2
  failover : ∀ force nowNs w, FailoverGuard env w nowNs →
    R w (failoverLoop env force (enterFailover nowNs w).engine.secondaryQueue.ring.count
      (enterFailover nowNs w)).2

theorem stage_drainSteps (env : Env σ) : DrainSteps env (Stage env) :=
  ⟨.read, .wait, .discard, .takeOver, .release, .failover⟩

section Drain

variable {env : Env σ} {w : World σ} {R : World σ → World σ → Prop}

theorem DrainSteps.drainSecondary (hR : DrainSteps env R) (force : Bool) {nowNs : ℕ}
    (hreading : nowNs = w.lastReading env)
    (hidle : w.engine.activeOutputStreamId = .secondary ∨ w.engine.primaryQueue.ring.count = 0) :
    ReflTransGen R w (drainSecondaryOnPrimaryOutage env force nowNs w).2 := by
  unfold drainSecondaryOnPrimaryOutage
  split
  · exact .refl
  · next h =>
    refine .single (hR.failover force nowNs w ⟨hreading, ?_⟩)
    by_cases hactive : w.engine.activeOutputStreamId = .secondary
    · exact .inl hactive
    · exact .inr ⟨by simpa [hactive] using h, hidle.resolve_left hactive⟩

theorem DrainSteps.drainTail (hR : DrainSteps env R) (force : Bool) (w : World σ) :
    ReflTransGen R w (drainTail env force w).2 := by
  unfold TwoStream.drainTail
  split
  · next hempty => exact .head (hR.read w) (hR.drainSecondary force rfl (.inr hempty))
  · exact .refl

/-- With the primary as the output, an iteration waits or releases its front record. -/
theorem drainIteration_of_primary (force : Bool)
    (hactive : w.engine.activeOutputStreamId = .primary) :
    drainIteration env force w =
      match delayQueueFront w.engine.primaryQueue with
      | none => (.stop, w)
      | some primary =>
        if notYetDue force w.engine.primaryQueue primary (env.clock w.reads) then
          (.stop, (reportStatsNowNs env w).2)
        else releasePrimary env primary (reportStatsNowNs env w).2 := by
  unfold drainIteration
  cases delayQueueFront w.engine.primaryQueue with
  | none => rfl
  | some primary => simp [reportStatsNowNs, hactive, setActiveOutputStream]

theorem DrainSteps.drainLoop (hR : DrainSteps env R) (force : Bool) (n : ℕ) (w : World σ)
    (hactive : w.engine.activeOutputStreamId = .primary) :
    ReflTransGen R w (drainLoop env force n w).2 := by
  induction n generalizing w with
  | zero => exact hR.drainTail force w
  | succ n ih =>
    rw [TwoStream.drainLoop, drainIteration_of_primary force hactive]
    cases hfront : delayQueueFront w.engine.primaryQueue with
    | none => exact hR.drainTail force w
    | some primary =>
      simp only
      by_cases hdue : notYetDue force w.engine.primaryQueue primary (env.clock w.reads) = true
      · rw [if_pos hdue]
        exact .head (hR.read w) (hR.drainTail force _)
      · rw [if_neg hdue]
        have hstage : R (reportStatsNowNs env w).2
            (releasePrimary env primary (reportStatsNowNs env w).2).2 :=
          hR.release primary _ hfront hactive
        have hframe := (releasePrimary_outcome env primary (reportStatsNowNs env w).2).frame
        generalize releasePrimary env primary (reportStatsNowNs env w).2 = res at hstage hframe
        rcases res with ⟨_ | _ | ok, w'⟩
        · exact .head (hR.read w) (.head hstage (ih w' (hframe.1.activeOutputStreamId.trans hactive)))
        · exact .head (hR.read w) (.head hstage (hR.drainTail force _))
        · exact .head (hR.read w) (.single hstage)

theorem setActiveOutputStream_active (env : Env σ) (w : World σ) (streamId : StreamId) :
    (setActiveOutputStream env w streamId).engine.activeOutputStreamId = streamId := by
  unfold setActiveOutputStream
  split
  · assumption
  · rfl

/-- A drain by its stages. -/
theorem recoveryEngineDrain_eq (env : Env σ) (force : Bool) (w : World σ) :
    recoveryEngineDrain env force w =
      if (openDrain env w).engine.primaryQueue.ring.count = 0 then
        if (openDrain env w).engine.activeOutputStreamId = .secondary && drainReady env w then
          (true, openDrain env w)
        else drainSecondaryOnPrimaryOutage env force (env.clock w.reads) (openDrain env w)
      else if !drainReady env w then
        drainSecondaryOnPrimaryOutage env force (env.clock w.reads) (openDrain env w)
      else if (discardDrain env w).engine.primaryQueue.ring.count = 0 then
        if (discardDrain env w).engine.activeOutputStreamId = .secondary then
          (true, discardDrain env w)
        else drainSecondaryOnPrimaryOutage env force (env.clock w.reads) (discardDrain env w)
      else
        drainLoop env force
          (setActiveOutputStream env (discardDrain env w) .primary).engine.primaryQueue.ring.count
          (setActiveOutputStream env (discardDrain env w) .primary) := rfl

/-- **A drain is a sequence of its stages.** -/
theorem DrainSteps.drain (hR : DrainSteps env R) (force : Bool) (w : World σ) :
    ReflTransGen R w (recoveryEngineDrain env force w).2 := by
  rw [recoveryEngineDrain_eq]
  have hcount : (openDrain env w).engine.primaryQueue = w.engine.primaryQueue := by
    simp only [openDrain, primaryReturnHoldoffElapsed]
    split_ifs <;> rfl
  have hready (h : drainReady env w = true)
      (hactive : (discardDrain env w).engine.activeOutputStreamId = .secondary) :
      ReturnElapsed (discardDrain env w).engine ((discardDrain env w).lastReading env) := by
    have hsame : (discardDrain env w).engine.activeOutputStreamId =
        w.engine.activeOutputStreamId := by
      simp only [discardDrain, discardPrimaryRecordsAlreadyOutputBySecondary, openDrain,
        primaryReturnHoldoffElapsed]
      split_ifs <;> rfl
    have helapsed := returnElapsed_of_ready h (hsame ▸ hactive)
    exact ⟨helapsed.1, helapsed.2, helapsed.3, helapsed.4⟩
  have hwaiting (h : drainReady env w = false) :
      (openDrain env w).engine.activeOutputStreamId = .secondary := by
    by_contra hactive
    have hsame : (openDrain env w).engine.activeOutputStreamId = w.engine.activeOutputStreamId := by
      simp only [openDrain, primaryReturnHoldoffElapsed]
      split_ifs <;> rfl
    rw [hsame] at hactive
    simp [drainReady, primaryReturnHoldoffElapsed, hactive] at h
  split
  · next hempty =>
    have hidle : w.engine.primaryQueue.ring.count = 0 := by rwa [hcount] at hempty
    split
    · exact .single (hR.wait w (.inl hidle))
    · exact .head (hR.wait w (.inl hidle)) (hR.drainSecondary force rfl (.inr hempty))
  · next hnonempty =>
    rw [hcount] at hnonempty
    split
    · next hwait =>
      have hwait : drainReady env w = false := by simpa using hwait
      exact .head (hR.wait w (.inr hwait)) (hR.drainSecondary force rfl (.inl (hwaiting hwait)))
    · next hgo =>
      have hgo : drainReady env w = true := by simpa using hgo
      have hdiscard : R w (discardDrain env w) := hR.discard w hnonempty hgo
      split
      · next hempty =>
        split
        · exact .single hdiscard
        · exact .head hdiscard (hR.drainSecondary force rfl (.inr hempty))
      · exact .head hdiscard (.head (hR.takeOver _ (hready hgo))
          (hR.drainLoop force _ _ (setActiveOutputStream_active env _ _)))

/-- **A call is a sequence of stages.** -/
theorem step_stages (env : Env σ) (w : World σ) (op : Op) :
    ReflTransGen (Stage env) w (step env w op) := by
  cases op with
  | push streamId p =>
    exact .head (.ingest streamId p w) ((stage_drainSteps env).drain false _)
  | drain force => exact (stage_drainSteps env).drain force w
  | flush =>
    have hdrain := (stage_drainSteps env).drain true w
    rw [step, recoveryEngineFlush]
    rcases hres : recoveryEngineDrain env true w with ⟨_ | _, w'⟩
    · rw [hres] at hdrain
      exact hdrain
    · rw [hres] at hdrain
      simp only
      split
      · exact hdrain
      · exact hdrain.tail (.sink _ w')

/-- **A run is a sequence of stages.** -/
theorem run_stages (env : Env σ) (w : World σ) (ops : List Op) :
    ReflTransGen (Stage env) w (run env w ops) := by
  induction ops generalizing w with
  | nil => exact .refl
  | cons op ops ih => exact (step_stages env w op).trans (ih _)

end Drain

end TwoStream
