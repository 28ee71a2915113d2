import TwoStreamRecovery.TsPacket

/-!
# Counters (`report_stats.c`)

The counters the recovery engine writes, and the functions it writes them through. Wall-clock
times, floating-point averages and the rolling windows are not part of this module.
-/

namespace TwoStream

/-- `now_ns - last_ns`, in 64-bit arithmetic. -/
def elapsedNs (lastNs nowNs : ℕ) : ℕ := (nowNs + 2 ^ 64 - lastNs) % 2 ^ 64

theorem elapsedNs_le {lastNs nowNs : ℕ} (h : lastNs ≤ nowNs) :
    elapsedNs lastNs nowNs ≤ nowNs - lastNs := by
  have hwrap : nowNs + 2 ^ 64 - lastNs = nowNs - lastNs + 2 ^ 64 := by omega
  rw [elapsedNs, hwrap, Nat.add_mod_right]
  exact Nat.mod_le _ _

/-- `int stream_id`: 0 is the primary input, 1 the secondary. -/
inductive StreamId where
  | primary
  | secondary
  deriving DecidableEq

/-- The other input, `stream_id == 0 ? 1 : 0`. -/
def StreamId.other : StreamId → StreamId
  | .primary => .secondary
  | .secondary => .primary

/-- `recovery_reject_reason_t`. -/
inductive RejectReason where
  | lowAlignment
  | secondaryLate
  | tei
  | discontinuity
  | wrongPid
  | wrongCounter
  | ambiguous
  | burstTooLarge
  | missingCandidate
  deriving DecidableEq

/-- `report_stats_t`, restricted to the counters of the recovery engine. -/
structure ReportStats where
  outputDatagrams : ℕ
  outputShortFlushes : ℕ
  primaryDelayOverflows : ℕ
  recoveredNullPackets : ℕ
  recoveredContentPackets : ℕ
  recoveredContentBursts : ℕ
  secondaryLossEvents : ℕ
  secondaryMissingPackets : ℕ
  recoveryRejects : RejectReason → ℕ
  alignmentOffsetPackets : ℤ
  alignmentConfidence : ℕ
  recoveredPackets : ℕ
  unrecoverableLoss : ℕ
  outputPackets : ℕ
  outputContinuityErrors : ℕ
  outputDuplicateCounters : ℕ
  sourceSwitches : StreamId → ℕ
  activeOutputStreamId : StreamId

/-- `report_stats_init`. -/
def reportStatsInit : ReportStats where
  outputDatagrams := 0
  outputShortFlushes := 0
  primaryDelayOverflows := 0
  recoveredNullPackets := 0
  recoveredContentPackets := 0
  recoveredContentBursts := 0
  secondaryLossEvents := 0
  secondaryMissingPackets := 0
  recoveryRejects _ := 0
  alignmentOffsetPackets := 0
  alignmentConfidence := 0
  recoveredPackets := 0
  unrecoverableLoss := 0
  outputPackets := 0
  outputContinuityErrors := 0
  outputDuplicateCounters := 0
  sourceSwitches _ := 0
  activeOutputStreamId := .primary

/-- `report_stats_observe_output_datagram`. -/
def reportStatsObserveOutputDatagram (stats : ReportStats) (shortFlush : Bool) : ReportStats :=
  { stats with
    outputDatagrams := stats.outputDatagrams + 1
    outputShortFlushes := stats.outputShortFlushes + if shortFlush then 1 else 0 }

/-- `report_stats_observe_recovery`. -/
def reportStatsObserveRecovery (stats : ReportStats) (isNullPacket : Bool) : ReportStats :=
  { stats with
    recoveredPackets := stats.recoveredPackets + 1
    recoveredNullPackets := stats.recoveredNullPackets + if isNullPacket then 1 else 0
    recoveredContentPackets := stats.recoveredContentPackets + if isNullPacket then 0 else 1 }

/-- `report_stats_reject_recovery`. -/
def reportStatsRejectRecovery (stats : ReportStats) (reason : RejectReason) : ReportStats :=
  { stats with
    recoveryRejects :=
      fun r => if r = reason then stats.recoveryRejects r + 1 else stats.recoveryRejects r }

end TwoStream
