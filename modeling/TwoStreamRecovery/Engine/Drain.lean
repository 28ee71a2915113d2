import TwoStreamRecovery.Engine.Recover

/-!
# Draining and pushing

* `drainSecondaryOnPrimaryOutage`: failover.
* `releasePrimary`: one released primary record, from the recoveries to the anchor update.
* `recoveryEngineDrain`, `recoveryEngineFlush`, `recoveryEnginePushPacket`,
  `recoveryEngineInitWithConfig`.
-/

namespace TwoStream

variable {σ : Type}

/-! ### Failover -/

/-- `primary_is_silent_beyond_outage`. -/
def primaryIsSilentBeyondOutage (e : RecoveryEngine) (nowNs : ℕ) : Bool :=
  if e.config.primaryOutageNs = 0 || e.lastInputArrivalNs .secondary = 0 then false
  else if e.lastInputArrivalNs .primary = 0 then false
  else if nowNs < e.lastInputArrivalNs .primary then false
  else decide (e.config.primaryOutageNs ≤ nowNs - e.lastInputArrivalNs .primary)

/-- The cutoff of `discard_secondary_records_already_output_by_primary`. -/
def secondaryCutoff (e : RecoveryEngine) : Option ℕ :=
  let anchored := if e.lastPrimaryAnchor.valid then some e.lastPrimaryAnchor.secondaryIndex else none
  if e.alignment.hasAlignment && e.hasOutputStreamIndex .primary then
    let secondaryIndex : ℤ := e.lastOutputStreamIndex .primary + e.alignment.offsetPackets
    if decide (0 ≤ secondaryIndex) && anchored.all fun cutoff => cutoff < secondaryIndex.toNat then
      some secondaryIndex.toNat
    else anchored
  else anchored

/-- `discard_secondary_records_through`. -/
def discardSecondaryRecordsThrough (e : RecoveryEngine) (streamIndex : ℕ) : RecoveryEngine :=
  { e with
    secondaryQueue :=
      { e.secondaryQueue with
        ring := e.secondaryQueue.ring.popWhile fun r => decide (r.streamIndex ≤ streamIndex) } }

/-- `discard_secondary_records_already_output_by_primary`. -/
def discardSecondaryRecordsAlreadyOutputByPrimary (e : RecoveryEngine) : RecoveryEngine :=
  match secondaryCutoff e with
  | none => e
  | some cutoff => discardSecondaryRecordsThrough e cutoff

/-- `primary_record_already_output_by_secondary`. -/
def primaryRecordAlreadyOutputBySecondary (e : RecoveryEngine) (primary : PacketRecord) : Bool :=
  if !e.alignment.hasAlignment || !e.hasOutputStreamIndex .secondary then false
  else
    let secondaryIndex : ℤ := primary.streamIndex + e.alignment.offsetPackets
    decide (0 ≤ secondaryIndex) && decide (secondaryIndex.toNat ≤ e.lastOutputStreamIndex .secondary)

/-- `discard_primary_records_already_output_by_secondary`. -/
def discardPrimaryRecordsAlreadyOutputBySecondary (e : RecoveryEngine) : RecoveryEngine :=
  { e with
    primaryQueue :=
      { e.primaryQueue with
        ring := e.primaryQueue.ring.popWhile (primaryRecordAlreadyOutputBySecondary e) } }

/-- A queued record is younger than the queue's delay. -/
def notYetDue (force : Bool) (queue : DelayQueue) (r : PacketRecord) (nowNs : ℕ) : Bool :=
  !force && decide (r.arrivalTimeNs ≤ nowNs) && decide (nowNs - r.arrivalTimeNs < queue.delayNs)

/-- The loop of `drain_secondary_on_primary_outage`; `n` bounds its length. -/
def failoverLoop (env : Env σ) (force : Bool) : ℕ → World σ → Bool × World σ
  | 0, w => (true, w)
  | n + 1, w =>
    match delayQueueFront w.engine.secondaryQueue with
    | none => (true, w)
    | some secondary =>
      let (nowNs, w) := reportStatsNowNs env w
      if notYetDue force w.engine.secondaryQueue secondary nowNs then (true, w)
      else
        let w := setActiveOutputStream env w .secondary
        match outputRecord env .failover w secondary with
        | (false, w) => (false, w)
        | (true, w) =>
          let w :=
            { w with
              engine :=
                { w.engine with secondaryQueue := delayQueuePop w.engine.secondaryQueue } }
          if !force then (true, w) else failoverLoop env force n w

/-- `drain_secondary_on_primary_outage`. -/
def drainSecondaryOnPrimaryOutage (env : Env σ) (force : Bool) (nowNs : ℕ) (w : World σ) :
    Bool × World σ :=
  if w.engine.activeOutputStreamId ≠ .secondary && !primaryIsSilentBeyondOutage w.engine nowNs then
    (true, w)
  else
    let w := w.log (.failover nowNs w.engine)
    let w := { w with engine := discardSecondaryRecordsAlreadyOutputByPrimary w.engine }
    failoverLoop env force w.engine.secondaryQueue.ring.count w

/-- `primary_return_holdoff_elapsed`. -/
def primaryReturnHoldoffElapsed (e : RecoveryEngine) (nowNs : ℕ) : Bool × RecoveryEngine :=
  if e.activeOutputStreamId ≠ .secondary then (true, { e with primaryReturnStartNs := 0 })
  else if primaryIsSilentBeyondOutage e nowNs then (false, { e with primaryReturnStartNs := 0 })
  else if e.lastInputArrivalNs .primary = 0 then (false, { e with primaryReturnStartNs := 0 })
  else
    let e := if e.primaryReturnStartNs = 0 then { e with primaryReturnStartNs := nowNs } else e
    (decide (e.config.primaryReturnNs ≤ elapsedNs e.primaryReturnStartNs nowNs), e)

/-! ### One released primary record -/

/-- The local variables of the drain loop. -/
structure Release (σ : Type) where
  world : World σ
  primaryFits : Bool
  loggedRecoveryDecision : Bool
  insertedRecovery : Bool

/-- What a recovery's return value does to the local variables; `.error` is `return -1`. -/
def Release.afterRecovery (primary : PacketRecord) (s : Release σ) :
    Decision × World σ → Except (World σ) (Release σ)
  | (.failed, w) => .error w
  | (.none, w) => .ok { s with world := w }
  | (.inserted, w) =>
    .ok ⟨w, recordFitsNextOutput w.engine primary, true, true⟩
  | (.rejected, w) =>
    .ok ⟨w, recordFitsNextOutput w.engine primary, true, false⟩

/-- One of the three gap recoveries of the loop; `onlyMisfit` adds the test of `primary_fits`. -/
def Release.gapStage (primary : PacketRecord) (candidates : SecondaryAfterAnchorCandidates)
    (validator : RecoveryEngine → PacketRecord → PacketRecord → CandidateValidation)
    (recover : World σ → PacketRecord → PacketRecord → Decision × World σ)
    (logNoValid onlyMisfit : Bool) (s : Release σ) : Except (World σ) (Release σ) :=
  if !s.insertedRecovery && !s.loggedRecoveryDecision && !(onlyMisfit && s.primaryFits) &&
      s.world.engine.lastPrimaryAnchor.valid && decide (0 < candidates.records.length) then
    s.afterRecovery primary
      (tryUniqueCandidateRecovery s.world primary candidates validator recover logNoValid)
  else .ok s

/-- The reject that is logged when nothing else was and the record does not fit. -/
def logUnexplainedMisfit (primary : PacketRecord) (candidates : SecondaryAfterAnchorCandidates)
    (w : World σ) : World σ :=
  let e := w.engine
  let previousCc := previousOutputCcForRecord e primary
  let missingCount := previousCc.bind (inferMissingFromCc · primary)
  let lowAlignment := e.alignment.confidence < e.config.minAlignmentConfidence
  let beforeAnchor := e.lastPrimaryAnchor.valid
  let available := decide (0 < candidates.records.length)
  let (rejectReason, reason) : RejectReason × ReasonName :=
    if lowAlignment then (.lowAlignment, .lowAlignment)
    else if beforeAnchor && candidates.records.length = 0 then (.ambiguous, .noAfterAnchor)
    else if candidates.truncated then (.ambiguous, .tooManyAfterAnchors)
    else (.missingCandidate, .missingAnchorOrCandidate)
  recoveryRejectLog w primary previousCc missingCount available beforeAnchor available rejectReason
    reason

/-- `update_primary_anchor`. -/
def updatePrimaryAnchor (w : World σ) (primary : PacketRecord) (secondaryMatch : Option PacketRecord) :
    World σ :=
  match secondaryMatch with
  | none => w
  | some m =>
    if primary.isNull || m.isNull || !recordsExactNonErrorMatch primary m then w
    else
      let anchor : PrimaryAnchor := ⟨true, primary.streamIndex, m.streamIndex⟩
      let w := w.log (.anchored w.engine.lastPrimaryAnchor anchor)
      { w with engine := { w.engine with lastPrimaryAnchor := anchor } }

/-- `single_secondary_match`. -/
def singleSecondaryMatch (candidates : SecondaryAfterAnchorCandidates) : Option PacketRecord :=
  match candidates.records with
  | [m] => if candidates.truncated then none else some m
  | _ => none

/-- `anchor_secondary_match`. -/
def anchorSecondaryMatch (e : RecoveryEngine) (primary : PacketRecord)
    (candidates : SecondaryAfterAnchorCandidates) : Option PacketRecord :=
  match singleSecondaryMatch candidates with
  | some m => some m
  | none =>
    if e.alignment.hasAlignment then findAlignedSecondaryRecord e primary else none

/-- The end of an iteration: `next` runs the loop again, `stop` leaves it, `done` returns. -/
inductive Iteration where
  | next
  | stop
  | done (ok : Bool)
  deriving DecidableEq

/-- The recoveries tried before the record is sent. -/
def recoverBefore (env : Env σ) (primary : PacketRecord) (candidates : SecondaryAfterAnchorCandidates)
    (s : Release σ) : Except (World σ) (Release σ) := do
  let s ← s.gapStage primary candidates validateNullPositionCandidate
    (tryRecoverNullPositionGap env) false false
  let s ← s.gapStage primary candidates validateMixedPositionCandidate
    (tryRecoverMixedPositionGap env) false false
  s.gapStage primary candidates validateExactContentCandidate
    (tryRecoverExactContentGap env) true true

/-- Pop the released record. -/
def popPrimary (w : World σ) : World σ :=
  { w with engine := { w.engine with primaryQueue := delayQueuePop w.engine.primaryQueue } }

/-- The end of the loop body, from the last reject on. -/
def sendPrimary (env : Env σ) (primary : PacketRecord) (candidates : SecondaryAfterAnchorCandidates)
    (anchorMatch : Option PacketRecord) (s : Release σ) : Iteration × World σ :=
  let w :=
    if !s.primaryFits && !s.loggedRecoveryDecision then
      logUnexplainedMisfit primary candidates s.world
    else s.world
  match outputRecord env .passThrough w primary with
  | (false, w) => (.done false, w)
  | (true, w) => (.next, popPrimary (updatePrimaryAnchor w primary anchorMatch))

/-- The loop body from `find_secondary_boundary_matches` on. -/
def releasePrimary (env : Env σ) (primary : PacketRecord) (w : World σ) : Iteration × World σ :=
  let candidates := findSecondaryBoundaryMatches w.engine primary
  let w :=
    { w with
      engine :=
        { w.engine with
          decisionCandidateCount := candidates.records.length
          decisionCandidatesTruncated := candidates.truncated } }
  let w := w.log (.release w.engine)
  let anchorMatch := anchorSecondaryMatch w.engine primary candidates
  let primaryFits := recordFitsNextOutput w.engine primary
  match tryRecoverPrimaryTeiPacket env w primary with
  | (.failed, w) => (.done false, w)
  | (.inserted, w) => (.next, popPrimary w)
  | (decision, w) =>
    match recoverBefore env primary candidates ⟨w, primaryFits, decision == .rejected, false⟩ with
    | .error w => (.done false, w)
    | .ok s => sendPrimary env primary candidates anchorMatch s

/-! ### The drain loop -/

/-- The body of the drain loop. -/
def drainIteration (env : Env σ) (force : Bool) (w : World σ) : Iteration × World σ :=
  match delayQueueFront w.engine.primaryQueue with
  | none => (.stop, w)
  | some primary =>
    let (nowNs, w) := reportStatsNowNs env w
    let (ready, w) :=
      if w.engine.activeOutputStreamId = .secondary then
        let (ready, e) := primaryReturnHoldoffElapsed w.engine nowNs
        (ready, { w with engine := e })
      else (true, w)
    if !ready then
      let (ok, w) := drainSecondaryOnPrimaryOutage env force nowNs w
      (.done ok, w)
    else
      let w := setActiveOutputStream env w .primary
      if notYetDue force w.engine.primaryQueue primary nowNs then (.stop, w)
      else releasePrimary env primary w

/-- After the loop: failover if the queue has run empty. -/
def drainTail (env : Env σ) (force : Bool) (w : World σ) : Bool × World σ :=
  if w.engine.primaryQueue.ring.count = 0 then
    let (nowNs, w) := reportStatsNowNs env w
    drainSecondaryOnPrimaryOutage env force nowNs w
  else (true, w)

/-- The drain loop; `n` bounds its length. -/
def drainLoop (env : Env σ) (force : Bool) : ℕ → World σ → Bool × World σ
  | 0, w => drainTail env force w
  | n + 1, w =>
    match drainIteration env force w with
    | (.next, w) => drainLoop env force n w
    | (.stop, w) => drainTail env force w
    | (.done ok, w) => (ok, w)

/-- `recovery_engine_drain`. -/
def recoveryEngineDrain (env : Env σ) (force : Bool) (w : World σ) : Bool × World σ :=
  let (nowNs, w) := reportStatsNowNs env w
  let w := w.log (.drain nowNs w.engine)
  let (ready, e) := primaryReturnHoldoffElapsed w.engine nowNs
  let w := { w with engine := e }
  if w.engine.primaryQueue.ring.count = 0 then
    if w.engine.activeOutputStreamId = .secondary && ready then (true, w)
    else drainSecondaryOnPrimaryOutage env force nowNs w
  else if !ready then drainSecondaryOnPrimaryOutage env force nowNs w
  else
    let w := { w with engine := discardPrimaryRecordsAlreadyOutputBySecondary w.engine }
    if w.engine.primaryQueue.ring.count = 0 then
      if w.engine.activeOutputStreamId = .secondary then (true, w)
      else drainSecondaryOnPrimaryOutage env force nowNs w
    else
      let w := setActiveOutputStream env w .primary
      drainLoop env force w.engine.primaryQueue.ring.count w

/-- `recovery_engine_flush`. -/
def recoveryEngineFlush (env : Env σ) (w : World σ) : Bool × World σ :=
  match recoveryEngineDrain env true w with
  | (false, w) => (false, w)
  | (true, w) =>
    match env.sink.flush with
    | none => (true, w)
    | some flush => ((flush w.sinkState).1 == 0, { w with sinkState := (flush w.sinkState).2 })

/-! ### Pushing -/

/-- The record a push stores. -/
def makeRecord (streamId : StreamId) (streamIndex arrivalTimeNs : ℕ) (p : ParsedPacket) :
    PacketRecord where
  sourceStreamId := streamId
  streamIndex := streamIndex
  arrivalTimeNs := arrivalTimeNs
  pid := p.info.pid
  continuityCounter := p.info.continuityCounter
  hasPayload := p.info.hasPayload
  hasPcr := p.info.hasPcr
  isNull := p.info.isNull
  transportError := p.info.transportError
  discontinuityIndicator := p.info.discontinuityIndicator
  pcrValue := if p.info.hasPcr then p.info.pcrBase else 0
  hash := hashPacket p.packet
  packet := p.packet

/-- The history of the pushed stream after the push: the record is appended and what is older
than the retention is pruned. -/
def pushHistory (config : RecoveryEngineConfig) (history : PacketHistory) (r : PacketRecord) :
    PacketHistory :=
  let history := history.pushEvict r
  let retentionNs := config.historyMs * 1000000 % 2 ^ 64
  if decide (0 < retentionNs) && decide (retentionNs < r.arrivalTimeNs) then
    packetHistoryPruneOlderThan history (r.arrivalTimeNs - retentionNs)
  else history

/-- Pop the oldest record of a full queue and push again; the second push is never refused
(`delayQueuePush_pop`). -/
def delayQueuePopPush (queue : DelayQueue) (r : PacketRecord) : DelayQueue :=
  (delayQueuePush (delayQueuePop queue) r).getD queue

theorem delayQueuePush_pop (queue : DelayQueue) (r : PacketRecord) :
    delayQueuePush (delayQueuePop queue) r ≠ none := by
  have hpos := queue.ring.capacity_pos
  have hle := queue.ring.count_le
  simp only [delayQueuePush, delayQueuePop, ne_eq, Option.map_eq_none_iff,
    RingBuffer.push?_eq_none_iff, RingBuffer.pop_count, RingBuffer.pop_capacity]
  omega

/-- The queue of the pushed stream after the push. -/
def pushQueue (w : World σ) (streamId : StreamId) (r : PacketRecord) : World σ :=
  match streamId with
  | .primary =>
    match delayQueuePush w.engine.primaryQueue r with
    | some queue => { w with engine := { w.engine with primaryQueue := queue } }
    | none =>
      let w := w.log (.overflow .primary)
      { w with
        stats := { w.stats with primaryDelayOverflows := w.stats.primaryDelayOverflows + 1 }
        engine :=
          { w.engine with primaryQueue := delayQueuePopPush w.engine.primaryQueue r } }
  | .secondary =>
    match delayQueuePush w.engine.secondaryQueue r with
    | some queue => { w with engine := { w.engine with secondaryQueue := queue } }
    | none =>
      let w := w.log (.overflow .secondary)
      { w with
        engine :=
          { w.engine with secondaryQueue := delayQueuePopPush w.engine.secondaryQueue r } }

/-- The record of a push is in its history; nothing has looked at it yet. -/
def storeRecord (env : Env σ) (streamId : StreamId) (p : ParsedPacket) (w : World σ) :
    PacketRecord × World σ :=
  let (nowNs, w) := reportStatsNowNs env w
  let r := makeRecord streamId (w.engine.nextStreamIndex streamId) nowNs p
  let w := w.log (.pushed r)
  (r,
    { w with
      engine :=
        { w.engine with
          nextStreamIndex :=
            Function.update w.engine.nextStreamIndex streamId (w.engine.nextStreamIndex streamId + 1)
          history :=
            Function.update w.engine.history streamId
              (pushHistory w.engine.config (w.engine.history streamId) r)
          lastInputArrivalNs := Function.update w.engine.lastInputArrivalNs streamId nowNs
          decisionCandidateCount := 0
          decisionCandidatesTruncated := false } })

/-- `recovery_engine_push_packet` up to its final drain. -/
def pushIngest (env : Env σ) (streamId : StreamId) (p : ParsedPacket) (w : World σ) : World σ :=
  let (r, w) := storeRecord env streamId p w
  let w := updatePcrTiming w r
  let w := observeInputPathGap w streamId r
  let w := updateAlignment w streamId r
  pushQueue w streamId r

/-- `recovery_engine_push_packet`. -/
def recoveryEnginePushPacket (env : Env σ) (streamId : StreamId) (p : ParsedPacket) (w : World σ) :
    Bool × World σ :=
  recoveryEngineDrain env false (pushIngest env streamId p w)

/-! ### Initial state -/

theorem historyCapacityFromConfig_pos (config : RecoveryEngineConfig) :
    0 < historyCapacityFromConfig config := by
  simp only [historyCapacityFromConfig]
  split_ifs <;> omega

/-- `recovery_engine_init_with_config`. -/
def recoveryEngineInitWithConfig (config : RecoveryEngineConfig) : RecoveryEngine :=
  let capacity := historyCapacityFromConfig config
  let ring : RingBuffer PacketRecord :=
    .empty .zero capacity (historyCapacityFromConfig_pos config)
  { config :=
      { config with
        maxContentBurstPackets :=
          if 255 < config.maxContentBurstPackets then 255 else config.maxContentBurstPackets
        minAlignmentConfidence :=
          if 100 < config.minAlignmentConfidence then 100 else config.minAlignmentConfidence }
    history := fun _ => ring
    primaryQueue := ⟨ring, config.primaryDelayNs⟩
    secondaryQueue := ⟨ring, config.primaryDelayNs⟩
    nextStreamIndex := fun _ => 0
    lastInputArrivalNs := fun _ => 0
    lastOutputStreamIndex := fun _ => 0
    hasOutputStreamIndex := fun _ => false
    activeOutputStreamId := .primary
    primaryReturnStartNs := 0
    alignment := ⟨false, 0, 0, 0, 0⟩
    lastPrimaryAnchor := ⟨false, 0, 0⟩
    inputPidState := fun _ _ => ⟨false, 0⟩
    outputPidState := fun _ => ⟨false, 0⟩
    decisionCandidateCount := 0
    decisionCandidatesTruncated := false }

end TwoStream
