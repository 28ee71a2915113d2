import TwoStreamRecovery.Engine.Record

/-!
# Output, switching and the decision log

* `outputRecord`: offer a record to the sink and, when it is taken, account for it
  (`acceptRecord`).
* `setActiveOutputStream`, `recoveryRejectLog`.
* `observeInputPathGap`: the per-stream loss diagnosis of a push.
-/

namespace TwoStream

variable {σ : Type}

/-! ### Decision log -/

/-- `recovery_decision_log`. -/
def recoveryDecisionLog (w : World σ) (streamId : StreamId) (record : PacketRecord)
    (previousCc missingCount : Option ℕ) (candidateAvailable beforeAnchor afterAnchor : Bool)
    (decision : DecisionName) (reason : Option ReasonName) : World σ :=
  w.log (.decision
    { streamId := streamId
      record := record
      previousCc := previousCc
      missingCount := missingCount
      confidence := w.engine.alignment.confidence
      candidateAvailable := candidateAvailable
      candidates := w.engine.decisionCandidateCount
      truncated := w.engine.decisionCandidatesTruncated
      beforeAnchor := beforeAnchor
      afterAnchor := afterAnchor
      decision := decision
      reason := reason })

/-- `observe_unrecoverable_primary_gap`. -/
def observeUnrecoverablePrimaryGap (stats : ReportStats) (primary : PacketRecord)
    (missingCount : Option ℕ) (reason : ReasonName) : ReportStats :=
  match missingCount with
  | none => stats
  | some n =>
    if n = 0 || primary.isNull || primary.transportError || primary.discontinuityIndicator then stats
    else if reason.isNullReason then stats
    else { stats with unrecoverableLoss := stats.unrecoverableLoss + n }

/-- `recovery_reject_log`. -/
def recoveryRejectLog (w : World σ) (primary : PacketRecord) (previousCc missingCount : Option ℕ)
    (candidateAvailable beforeAnchor afterAnchor : Bool) (rejectReason : RejectReason)
    (reason : ReasonName) : World σ :=
  let w := recoveryDecisionLog w .primary primary previousCc missingCount candidateAvailable
    beforeAnchor afterAnchor .reject (some reason)
  { w with
    stats := observeUnrecoverablePrimaryGap (reportStatsRejectRecovery w.stats rejectReason) primary
      missingCount reason }

/-! ### Sending -/

/-- The counters of `observe_output_record`, from the state of the record's PID. -/
def observeOutputStats (state : PidState) (r : PacketRecord) (stats : ReportStats) : ReportStats :=
  if state.valid && !r.transportError && !r.discontinuityIndicator then
    if r.hasPayload then
      if r.continuityCounter = state.continuityCounter then
        { stats with outputDuplicateCounters := stats.outputDuplicateCounters + 1 }
      else if r.continuityCounter ≠ nextCc state.continuityCounter then
        { stats with outputContinuityErrors := stats.outputContinuityErrors + 1 }
      else stats
    else if r.continuityCounter ≠ state.continuityCounter then
      { stats with outputContinuityErrors := stats.outputContinuityErrors + 1 }
    else stats
  else stats

/-- `observe_output_record`. -/
def observeOutputRecord (w : World σ) (r : PacketRecord) : World σ :=
  if r.isNull then w
  else
    { w with
      stats := observeOutputStats (w.engine.outputPidState r.pid) r w.stats
      engine := { w.engine with outputPidState := setCc w.engine.outputPidState r } }

/-- What `output_record` does once the sink has taken the record. -/
def acceptRecord (route : Route) (w : World σ) (r : PacketRecord) : World σ :=
  let stats := { w.stats with outputPackets := w.stats.outputPackets + 1 }
  let engine :=
    { w.engine with
      hasOutputStreamIndex := Function.update w.engine.hasOutputStreamIndex r.sourceStreamId true
      lastOutputStreamIndex :=
        Function.update w.engine.lastOutputStreamIndex r.sourceStreamId r.streamIndex }
  let stats :=
    if stats.outputPackets % 7 = 0 then reportStatsObserveOutputDatagram stats false else stats
  observeOutputRecord ({ w with stats := stats, engine := engine }.log (.sent route r)) r

/-- `output_record`: `false` where the C function returns -1. -/
def outputRecord (env : Env σ) (route : Route) (w : World σ) (r : PacketRecord) : Bool × World σ :=
  let sent := env.sink.sendTsPacket w.sinkState r.packet
  let w := { w with sinkState := sent.2 }
  if sent.1 ≠ 0 then (false, w) else (true, acceptRecord route w r)

/-- `set_active_output_stream`. -/
def setActiveOutputStream (env : Env σ) (w : World σ) (streamId : StreamId) : World σ :=
  if w.engine.activeOutputStreamId = streamId then w
  else
    let w := w.log (.switched streamId (w.lastReading env) w.engine)
    { w with
      engine := { w.engine with activeOutputStreamId := streamId }
      stats :=
        { w.stats with
          activeOutputStreamId := streamId
          sourceSwitches :=
            Function.update w.stats.sourceSwitches streamId (w.stats.sourceSwitches streamId + 1) } }

/-! ### Input loss -/

/-- `observe_input_path_gap`. -/
def observeInputPathGap (w : World σ) (streamId : StreamId) (r : PacketRecord) : World σ :=
  if r.isNull || r.transportError || r.discontinuityIndicator || decide (8192 ≤ r.pid) then w
  else
    let state := w.engine.inputPidState streamId r.pid
    let missing := if r.hasPayload then inferMissingFromCc state.continuityCounter r else none
    let gap :=
      if r.hasPayload then
        r.continuityCounter != state.continuityCounter &&
          r.continuityCounter != nextCc state.continuityCounter
      else r.continuityCounter != state.continuityCounter
    let w :=
      if state.valid && gap && streamId = .secondary then
        recoveryDecisionLog
          { w with
            stats :=
              { w.stats with
                secondaryLossEvents := w.stats.secondaryLossEvents + 1
                secondaryMissingPackets := w.stats.secondaryMissingPackets + missing.getD 1 } }
          streamId r (some state.continuityCounter) missing false false false .reject
          (some .secondaryInputGap)
      else w
    { w with
      engine :=
        { w.engine with
          inputPidState :=
            Function.update w.engine.inputPidState streamId
              (setCc (w.engine.inputPidState streamId) r) } }

end TwoStream
