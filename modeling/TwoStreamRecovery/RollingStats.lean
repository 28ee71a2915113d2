import TwoStreamRecovery.Datagram

/-!
# Rolling samples and health (`report_stats.c`)

* `WindowedStats`: the counters of the engine, of the inputs and of the datagrams, with the ring of
  samples and the health that `update_stream_health` writes.
* `captureRollingSample`, `reportStatsTick` write the ring; `oldestRollingSample` and
  `rollingSampleAgo` read it.
* `streamProblemDelta`, `outputProblemDelta`, `computeRollingWindow` compare the counters with a
  sample; `updateStreamHealth` judges the differences.

Counters do not overflow. The difference of two of them wraps around as `uint64_t` does.
-/

namespace TwoStream

/-- `REPORT_STATS_ROLLING_SECONDS`. -/
abbrev reportStatsRollingSeconds : ℕ := 60

/-- `REPORT_STATS_QUIET_SECONDS`. -/
abbrev reportStatsQuietSeconds : ℕ := 30

/-- `REPORT_STATS_HEALTH_INTERVAL_NS`. -/
abbrev reportStatsHealthIntervalNs : ℕ := 5000000000

/-- `stream_health_t`. -/
inductive StreamHealth where
  | healthy
  | degraded
  | lossy
  | untrusted
  | offline
  deriving DecidableEq

/-- `report_stats_sample_t`. -/
structure ReportStatsSample where
  packetsReceived : StreamId → ℕ
  syncErrors : StreamId → ℕ
  transportErrors : StreamId → ℕ
  continuityErrors : StreamId → ℕ
  duplicateCounters : StreamId → ℕ
  recoveredPackets : ℕ
  unrecoverableLoss : ℕ
  outputPackets : ℕ
  outputContinuityErrors : ℕ
  outputDuplicateCounters : ℕ
  streamDisagreements : ℕ
  primaryDelayOverflows : ℕ
  secondaryLossEvents : ℕ
  secondaryMissingPackets : ℕ
  secondaryMissingAnchors : ℕ
  secondaryPacketsTooLate : ℕ
  primaryDelayInsufficient : ℕ
  recoveryExactCcGap : ℕ
  sourceSwitches : StreamId → ℕ
  activeOutputStreamId : StreamId
  alignmentConfidence : ℕ

/-- A sample filled with zeros. -/
def ReportStatsSample.zero : ReportStatsSample where
  packetsReceived _ := 0
  syncErrors _ := 0
  transportErrors _ := 0
  continuityErrors _ := 0
  duplicateCounters _ := 0
  recoveredPackets := 0
  unrecoverableLoss := 0
  outputPackets := 0
  outputContinuityErrors := 0
  outputDuplicateCounters := 0
  streamDisagreements := 0
  primaryDelayOverflows := 0
  secondaryLossEvents := 0
  secondaryMissingPackets := 0
  secondaryMissingAnchors := 0
  secondaryPacketsTooLate := 0
  primaryDelayInsufficient := 0
  recoveryExactCcGap := 0
  sourceSwitches _ := 0
  activeOutputStreamId := .primary
  alignmentConfidence := 0

/-- `report_stats_t`, with the ring of samples and the health. -/
structure WindowedStats extends ReportStats, ReceptionStats, FramingStats where
  streamDisagreements : ℕ
  secondaryMissingAnchors : ℕ
  secondaryPacketsTooLate : ℕ
  primaryDelayInsufficient : ℕ
  recoveryExactCcGap : ℕ
  streamHealth : StreamId → StreamHealth
  outputHealth : StreamHealth
  lastSampleNs : ℕ
  lastHealthUpdateNs : ℕ
  rollingSamples : ℕ → ReportStatsSample
  rollingIndex : ℕ
  rollingCount : ℕ

/-- `report_stats_init` at `startNs`. -/
def windowedStatsInit (startNs : ℕ) : WindowedStats where
  toReportStats := reportStatsInit
  toReceptionStats := receptionStatsInit startNs
  toFramingStats := framingStatsInit
  streamDisagreements := 0
  secondaryMissingAnchors := 0
  secondaryPacketsTooLate := 0
  primaryDelayInsufficient := 0
  recoveryExactCcGap := 0
  streamHealth _ := .healthy
  outputHealth := .healthy
  lastSampleNs := startNs
  lastHealthUpdateNs := 0
  rollingSamples _ := .zero
  rollingIndex := 0
  rollingCount := 0

/-! ### The ring of samples -/

/-- The sample that `capture_rolling_sample` fills in. -/
def rollingSample (stats : WindowedStats) : ReportStatsSample where
  packetsReceived := stats.packetsReceived
  syncErrors := stats.syncErrors
  transportErrors := stats.transportErrors
  continuityErrors := stats.continuityErrors
  duplicateCounters := stats.duplicateCounters
  recoveredPackets := stats.recoveredPackets
  unrecoverableLoss := stats.unrecoverableLoss
  outputPackets := stats.outputPackets
  outputContinuityErrors := stats.outputContinuityErrors
  outputDuplicateCounters := stats.outputDuplicateCounters
  streamDisagreements := stats.streamDisagreements
  primaryDelayOverflows := stats.primaryDelayOverflows
  secondaryLossEvents := stats.secondaryLossEvents
  secondaryMissingPackets := stats.secondaryMissingPackets
  secondaryMissingAnchors := stats.secondaryMissingAnchors
  secondaryPacketsTooLate := stats.secondaryPacketsTooLate
  primaryDelayInsufficient := stats.primaryDelayInsufficient
  recoveryExactCcGap := stats.recoveryExactCcGap
  sourceSwitches := stats.sourceSwitches
  activeOutputStreamId := stats.activeOutputStreamId
  alignmentConfidence := stats.alignmentConfidence

/-- `capture_rolling_sample`. -/
def captureRollingSample (stats : WindowedStats) : WindowedStats :=
  { stats with
    rollingSamples := Function.update stats.rollingSamples stats.rollingIndex (rollingSample stats)
    rollingIndex := (stats.rollingIndex + 1) % reportStatsRollingSeconds
    rollingCount :=
      if stats.rollingCount < reportStatsRollingSeconds then stats.rollingCount + 1
      else stats.rollingCount }

/-- `report_stats_tick`. -/
def reportStatsTick (nowNs : ℕ) (stats : WindowedStats) : WindowedStats :=
  if nowNs = 0 then stats
  else if stats.lastSampleNs ≠ 0 ∧ elapsedNs stats.lastSampleNs nowNs < 1000000000 then stats
  else { captureRollingSample stats with lastSampleNs := nowNs }

/-- `oldest_rolling_sample`. -/
def oldestRollingSample (stats : WindowedStats) : Option ReportStatsSample :=
  if stats.rollingCount = 0 then none
  else if stats.rollingCount < reportStatsRollingSeconds then some (stats.rollingSamples 0)
  else some (stats.rollingSamples stats.rollingIndex)

/-- `rolling_sample_ago`. -/
def rollingSampleAgo (stats : WindowedStats) (seconds : ℕ) : Option ReportStatsSample :=
  if stats.rollingCount = 0 then none
  else if stats.rollingCount ≤ seconds then oldestRollingSample stats
  else
    let newestIndex :=
      if stats.rollingIndex = 0 then reportStatsRollingSeconds - 1 else stats.rollingIndex - 1
    let index := (newestIndex + reportStatsRollingSeconds - seconds) % reportStatsRollingSeconds
    some (stats.rollingSamples index)

/-! ### Differences -/

/-- `counter - sample` of two `uint64_t`. -/
def counterSub (counter sample : ℕ) : ℕ :=
  if sample ≤ counter then counter - sample else counter + 2 ^ 64 - sample

/-- `sample == NULL ? counter : counter - sample->counter`. -/
def counterSince (counter : ℕ) (sample : Option ℕ) : ℕ := sample.elim counter (counterSub counter)

/-- `stream_problem_delta`. -/
def streamProblemDelta (stats : WindowedStats) (sample : Option ReportStatsSample)
    (streamId : StreamId) : ℕ :=
  let problems :=
    match sample with
    | none =>
      stats.syncErrors streamId + stats.transportErrors streamId + stats.continuityErrors streamId +
        stats.duplicateCounters streamId
    | some sample =>
      counterSub (stats.syncErrors streamId) (sample.syncErrors streamId) +
        counterSub (stats.transportErrors streamId) (sample.transportErrors streamId) +
        counterSub (stats.continuityErrors streamId) (sample.continuityErrors streamId) +
        counterSub (stats.duplicateCounters streamId) (sample.duplicateCounters streamId)
  let problems :=
    match streamId with
    | .primary =>
      problems + counterSince stats.recoveredPackets (sample.map (·.recoveredPackets)) +
        counterSince stats.unrecoverableLoss (sample.map (·.unrecoverableLoss)) +
        counterSince stats.primaryDelayInsufficient (sample.map (·.primaryDelayInsufficient)) +
        counterSince stats.recoveryExactCcGap (sample.map (·.recoveryExactCcGap))
    | .secondary =>
      problems + counterSince stats.secondaryLossEvents (sample.map (·.secondaryLossEvents)) +
        counterSince stats.secondaryMissingPackets (sample.map (·.secondaryMissingPackets)) +
        counterSince stats.secondaryMissingAnchors (sample.map (·.secondaryMissingAnchors)) +
        counterSince stats.secondaryPacketsTooLate (sample.map (·.secondaryPacketsTooLate))
  problems + counterSince stats.streamDisagreements (sample.map (·.streamDisagreements))

/-- `output_problem_delta`. -/
def outputProblemDelta (stats : WindowedStats) (sample : Option ReportStatsSample) : ℕ :=
  match sample with
  | none => stats.outputContinuityErrors + stats.outputDuplicateCounters + stats.unrecoverableLoss
  | some sample =>
    counterSub stats.outputContinuityErrors sample.outputContinuityErrors +
      counterSub stats.outputDuplicateCounters sample.outputDuplicateCounters +
      counterSub stats.unrecoverableLoss sample.unrecoverableLoss

/-- What `compute_rolling_window` returns. -/
structure RollingWindow where
  winPackets : StreamId → ℕ
  winCcErrors : StreamId → ℕ
  winRecovered : ℕ
  winUnrecoverable : ℕ
  winOutput : ℕ

/-- `compute_rolling_window`. -/
def computeRollingWindow (stats : WindowedStats) : RollingWindow :=
  match oldestRollingSample stats with
  | none => ⟨fun _ => 0, fun _ => 0, 0, 0, 0⟩
  | some oldest =>
    { winPackets := fun s => counterSub (stats.packetsReceived s) (oldest.packetsReceived s)
      winCcErrors := fun s => counterSub (stats.continuityErrors s) (oldest.continuityErrors s)
      winRecovered := counterSub stats.recoveredPackets oldest.recoveredPackets
      winUnrecoverable := counterSub stats.unrecoverableLoss oldest.unrecoverableLoss
      winOutput := counterSub stats.outputPackets oldest.outputPackets }

/-! ### Health -/

/-- `health_from_recent`. -/
def healthFromRecent (packets problems quietProblems : ℕ) : StreamHealth :=
  if packets = 0 then .degraded
  else if problems = 0 ∧ quietProblems = 0 then .healthy
  else if packets * 50 % 2 ^ 64 ≤ problems * 1000 % 2 ^ 64 then .untrusted
  else if packets * 10 % 2 ^ 64 ≤ problems * 1000 % 2 ^ 64 then .lossy
  else .degraded

/-- The health of a stream at `nowNs`. -/
def judgeStream (nowNs : ℕ) (stats : WindowedStats) (streamId : StreamId) : StreamHealth :=
  let windowSample := oldestRollingSample stats
  let quietSample := rollingSampleAgo stats reportStatsQuietSeconds
  let packets := counterSince (stats.packetsReceived streamId)
    (windowSample.map (·.packetsReceived streamId))
  let problems := streamProblemDelta stats windowSample streamId
  let quietProblems := streamProblemDelta stats quietSample streamId
  if nowNs ≠ 0 ∧ stats.lastPacketNs streamId ≠ 0 ∧
      reportStatsOfflineNs ≤ elapsedNs (stats.lastPacketNs streamId) nowNs then .offline
  else healthFromRecent packets problems quietProblems

/-- `update_stream_health`. -/
def updateStreamHealth (nowNs : ℕ) (stats : WindowedStats) : WindowedStats :=
  if nowNs ≠ 0 ∧ stats.lastHealthUpdateNs ≠ 0 ∧
      elapsedNs stats.lastHealthUpdateNs nowNs < reportStatsHealthIntervalNs then stats
  else
    { stats with
      lastHealthUpdateNs := nowNs
      streamHealth := judgeStream nowNs stats
      outputHealth := healthFromRecent
        (counterSince stats.outputPackets ((oldestRollingSample stats).map (·.outputPackets)))
        (outputProblemDelta stats (oldestRollingSample stats))
        (outputProblemDelta stats (rollingSampleAgo stats reportStatsQuietSeconds)) }

end TwoStream
