import TwoStreamRecovery.Lib.Ring
import TwoStreamRecovery.ReportStats

/-!
# Data of the recovery engine (`recovery_engine.h`, `packet_sink.h`)

* `PacketRecord`, `RecoveryEngineConfig`, `RecoveryEngine`: the structures of the header, with the
  fields that some modelled function reads.
* `PacketSink`, `Env`: the sink and the clock the engine runs against.
* `World`: the engine, its counters, the sink and the clock position, with a trace of what
  happened. The trace is only written, never read, by the model of the code.
-/

namespace TwoStream

/-- `packet_record_t`. -/
structure PacketRecord where
  sourceStreamId : StreamId
  streamIndex : ℕ
  arrivalTimeNs : ℕ
  pid : ℕ
  continuityCounter : ℕ
  hasPayload : Bool
  hasPcr : Bool
  isNull : Bool
  transportError : Bool
  discontinuityIndicator : Bool
  pcrValue : ℕ
  hash : ℕ
  packet : Packet
  deriving DecidableEq

/-- A record of `calloc`ed memory. -/
def PacketRecord.zero : PacketRecord where
  sourceStreamId := .primary
  streamIndex := 0
  arrivalTimeNs := 0
  pid := 0
  continuityCounter := 0
  hasPayload := false
  hasPcr := false
  isNull := false
  transportError := false
  discontinuityIndicator := false
  pcrValue := 0
  hash := 0
  packet := ⟨List.replicate tsPacketSize 0, List.length_replicate⟩

/-- `recovery_engine_config_t`. -/
structure RecoveryEngineConfig where
  primaryDelayNs : ℕ
  alignmentWindowNs : ℕ
  historyMs : ℕ
  primaryOutageNs : ℕ
  primaryReturnNs : ℕ
  minAlignmentConfidence : ℕ
  maxContentBurstPackets : ℕ
  deriving DecidableEq

/-- `recovery_engine_default_config`. -/
def recoveryEngineDefaultConfig : RecoveryEngineConfig where
  primaryDelayNs := 2500000000
  alignmentWindowNs := 6000000000
  historyMs := 10000
  primaryOutageNs := 50000000
  primaryReturnNs := 120000000000
  minAlignmentConfidence := 40
  maxContentBurstPackets := 15

/-- `alignment_state_t`. -/
structure AlignmentState where
  hasAlignment : Bool
  offsetPackets : ℤ
  confidence : ℕ
  consecutiveMatches : ℕ
  consecutiveMisses : ℕ
  deriving DecidableEq

/-- `primary_anchor_t`. -/
structure PrimaryAnchor where
  valid : Bool
  primaryIndex : ℕ
  secondaryIndex : ℕ
  deriving DecidableEq

/-- `output_pid_state_t` and `input_pid_state_t`. -/
structure PidState where
  valid : Bool
  continuityCounter : ℕ
  deriving DecidableEq

/-- `packet_history_t`. -/
abbrev PacketHistory := RingBuffer PacketRecord

/-- `primary_delay_queue_t`. -/
structure DelayQueue where
  ring : RingBuffer PacketRecord
  delayNs : ℕ

/-- `recovery_engine_t`, without its pointers to the sink and the counters. -/
structure RecoveryEngine where
  config : RecoveryEngineConfig
  history : StreamId → PacketHistory
  primaryQueue : DelayQueue
  secondaryQueue : DelayQueue
  nextStreamIndex : StreamId → ℕ
  lastInputArrivalNs : StreamId → ℕ
  lastOutputStreamIndex : StreamId → ℕ
  hasOutputStreamIndex : StreamId → Bool
  activeOutputStreamId : StreamId
  primaryReturnStartNs : ℕ
  alignment : AlignmentState
  lastPrimaryAnchor : PrimaryAnchor
  inputPidState : StreamId → ℕ → PidState
  outputPidState : ℕ → PidState
  decisionCandidateCount : ℕ
  decisionCandidatesTruncated : Bool

/-! ### The surroundings of the engine -/

/-- `packet_sink_t`: `send_ts_packet` and `flush` on the sink's own state; 0 means success. -/
structure PacketSink (σ : Type) where
  sendTsPacket : σ → Packet → ℤ × σ
  flush : Option (σ → ℤ × σ)

/-- The sink and the clock: `clock n` is what the `n`-th call of `report_stats_now_ns` returns. -/
structure Env (σ : Type) where
  sink : PacketSink σ
  clock : ℕ → ℕ

/-- The sink takes every packet. -/
def Env.Accepting {σ : Type} (env : Env σ) : Prop := ∀ s p, (env.sink.sendTsPacket s p).1 = 0

/-! ### The trace -/

/-- The three gap recoveries. -/
inductive GapKind where
  | nullPosition
  | mixedPosition
  | exactContent
  deriving DecidableEq

/-- Why a record was sent: as the released primary record, by failover, inserted before
`primary` with after-anchor `secondaryMatch`, or in place of the damaged `primary`. -/
inductive Route where
  | passThrough
  | failover
  | gap (kind : GapKind) (primary secondaryMatch : PacketRecord)
  | transportError (primary : PacketRecord)
  deriving DecidableEq

/-- The `decision=` texts of the decision log. -/
inductive DecisionName where
  | reject
  | recoverContent
  | recoverContentBurst
  | recoverMixedBurst
  | recoverNullRegion
  | recoverPrimaryTei
  deriving DecidableEq

def DecisionName.text : DecisionName → String
  | .reject => "reject"
  | .recoverContent => "recover_content"
  | .recoverContentBurst => "recover_content_burst"
  | .recoverMixedBurst => "recover_mixed_burst"
  | .recoverNullRegion => "recover_null_region"
  | .recoverPrimaryTei => "recover_primary_tei"

/-- The `reason=` texts of the validators and of the decision log. -/
inductive ReasonName where
  | notContentGap
  | notNullPositionGap
  | notMixedPositionGap
  | burstTooLarge
  | nullBurstTooLarge
  | mixedBurstTooLarge
  | lowAlignment
  | beforeAnchor
  | afterAnchor
  | noAfterAnchor
  | staleAnchorPrefix
  | multipleCandidates
  | missingCandidate
  | nullCandidate
  | secondaryTei
  | secondaryDiscontinuity
  | wrongPid
  | wrongCounter
  | secondaryWrongCounter
  | afterAnchorWrongCounter
  | candidateCounterContradiction
  | primaryDiscontinuity
  | primaryNotContent
  | tooManyAfterAnchors
  | multipleValidAfterAnchors
  | noValidAfterAnchor
  | missingAnchorOrCandidate
  | secondaryInputGap
  deriving DecidableEq

def ReasonName.text : ReasonName → String
  | .notContentGap => "not_content_gap"
  | .notNullPositionGap => "not_null_position_gap"
  | .notMixedPositionGap => "not_mixed_position_gap"
  | .burstTooLarge => "burst_too_large"
  | .nullBurstTooLarge => "null_burst_too_large"
  | .mixedBurstTooLarge => "mixed_burst_too_large"
  | .lowAlignment => "low_alignment"
  | .beforeAnchor => "before_anchor"
  | .afterAnchor => "after_anchor"
  | .noAfterAnchor => "no_after_anchor"
  | .staleAnchorPrefix => "stale_anchor_prefix"
  | .multipleCandidates => "multiple_candidates"
  | .missingCandidate => "missing_candidate"
  | .nullCandidate => "null_candidate"
  | .secondaryTei => "secondary_tei"
  | .secondaryDiscontinuity => "secondary_discontinuity"
  | .wrongPid => "wrong_pid"
  | .wrongCounter => "wrong_counter"
  | .secondaryWrongCounter => "secondary_wrong_counter"
  | .afterAnchorWrongCounter => "after_anchor_wrong_counter"
  | .candidateCounterContradiction => "candidate_counter_contradiction"
  | .primaryDiscontinuity => "primary_discontinuity"
  | .primaryNotContent => "primary_not_content"
  | .tooManyAfterAnchors => "too_many_after_anchors"
  | .multipleValidAfterAnchors => "multiple_valid_after_anchors"
  | .noValidAfterAnchor => "no_valid_after_anchor"
  | .missingAnchorOrCandidate => "missing_anchor_or_candidate"
  | .secondaryInputGap => "secondary_input_gap"

/-- `strncmp(reason, "null_", 5) == 0`. -/
def ReasonName.isNullReason (r : ReasonName) : Bool :=
  decide (r.text.toList.take 5 = "null_".toList)

/-- One line of `recovery_decision_log`; `none` prints as `unknown`. -/
structure DecisionLog where
  streamId : StreamId
  record : PacketRecord
  previousCc : Option ℕ
  missingCount : Option ℕ
  confidence : ℕ
  candidateAvailable : Bool
  candidates : ℕ
  truncated : Bool
  beforeAnchor : Bool
  afterAnchor : Bool
  decision : DecisionName
  reason : Option ReasonName
  deriving DecidableEq

/-- What the trace records. `drain`, `release` and `failover` carry the engine as it is when a
drain has read the clock, when the loop has collected the candidates for its front record, and when
the failover routine has passed its guard. -/
inductive Event where
  | pushed (record : PacketRecord)
  | overflow (streamId : StreamId)
  | drain (nowNs : ℕ) (engine : RecoveryEngine)
  | release (engine : RecoveryEngine)
  | failover (nowNs : ℕ) (engine : RecoveryEngine)
  | switched (streamId : StreamId) (nowNs : ℕ) (engine : RecoveryEngine)
  | sent (route : Route) (record : PacketRecord)
  | anchored (old new : PrimaryAnchor)
  | decision (log : DecisionLog)

/-- The state of a run. -/
structure World (σ : Type) where
  engine : RecoveryEngine
  stats : ReportStats
  sinkState : σ
  reads : ℕ
  trace : List Event

variable {σ : Type}

/-- Append to the trace. -/
def World.log (w : World σ) (ev : Event) : World σ := { w with trace := w.trace ++ [ev] }

/-- `report_stats_now_ns`. -/
def reportStatsNowNs (env : Env σ) (w : World σ) : ℕ × World σ :=
  (env.clock w.reads, { w with reads := w.reads + 1 })

/-- The latest clock reading. -/
def World.lastReading (env : Env σ) (w : World σ) : ℕ := env.clock (w.reads - 1)

end TwoStream
