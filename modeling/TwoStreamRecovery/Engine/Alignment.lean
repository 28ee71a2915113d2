import TwoStreamRecovery.Engine.Output

/-!
# Alignment of the two inputs

* `findConfirmedMatchingRecordNear`: the search for a record with a confirmed backward run.
* `updateAlignment` (packet runs) and `updatePcrTiming` (equal PCR values) set the offset through
  `updateAlignmentFromMatch`.

The PCR bitrate and delay estimates are floating-point outputs that nothing here reads; they are
left out.
-/

namespace TwoStream

variable {σ : Type}

/-- `history_capacity_from_config`. -/
def historyCapacityFromConfig (config : RecoveryEngineConfig) : ℕ :=
  let capacity :=
    if 0 < config.historyMs then (config.historyMs * 14000 % 2 ^ 64 + 999) % 2 ^ 64 / 1000 else 65536
  let capacity := if capacity < 8192 then 8192 else capacity
  if 1048576 < capacity then 1048576 else capacity

/-- `alignment_search_radius_packets`. -/
def alignmentSearchRadiusPackets (e : RecoveryEngine) : ℕ :=
  let radius := (e.config.alignmentWindowNs * 14 % 2 ^ 64 + 999999) % 2 ^ 64 / 1000000
  let radius := if radius < 2048 then 2048 else radius
  if (e.history .primary).capacity < radius then (e.history .primary).capacity else radius

/-- `update_alignment_from_match`. -/
def updateAlignmentFromMatch (w : World σ) (primary secondary : PacketRecord) : World σ :=
  let offset : ℤ := secondary.streamIndex - primary.streamIndex
  { w with
    engine :=
      { w.engine with
        alignment :=
          { hasAlignment := true
            offsetPackets := offset
            confidence := 100
            consecutiveMatches := w.engine.alignment.consecutiveMatches + 1
            consecutiveMisses := 0 } }
    stats := { w.stats with alignmentOffsetPackets := offset, alignmentConfidence := 100 } }

/-! ### PCR matches -/

/-- The records `find_matching_pcr_record` considers. -/
def pcrCandidate (record candidate : PacketRecord) : Bool :=
  candidate.hasPcr && candidate.pid == record.pid && candidate.pcrValue == record.pcrValue &&
    !candidate.transportError && !candidate.discontinuityIndicator

/-- `find_matching_pcr_record`: the considered record with the latest arrival, the oldest of
several. -/
def findMatchingPcrRecord (history : PacketHistory) (record : PacketRecord) :
    Option PacketRecord :=
  history.toList.foldl
    (fun best candidate =>
      if !pcrCandidate record candidate then best
      else
        match best with
        | none => some candidate
        | some b => if b.arrivalTimeNs < candidate.arrivalTimeNs then some candidate else best)
    none

/-- `update_pcr_timing`. -/
def updatePcrTiming (w : World σ) (record : PacketRecord) : World σ :=
  if !record.hasPcr || record.transportError || record.discontinuityIndicator then w
  else
    match findMatchingPcrRecord (w.engine.history record.sourceStreamId.other) record with
    | none => w
    | some found =>
      if recordsExactNonErrorMatch record found then
        match record.sourceStreamId with
        | .primary => updateAlignmentFromMatch w record found
        | .secondary => updateAlignmentFromMatch w found record
      else w

/-! ### Packet runs -/

/-- The loop of `has_confirmed_backward_run` from `count` on, for `n` further records. -/
def confirmedBackwardRunFrom (self other : PacketHistory) (record candidate : PacketRecord) :
    ℕ → ℕ → Bool
  | 0, _ => true
  | n + 1, count =>
    if record.streamIndex < count || candidate.streamIndex < count then false
    else
      match packetHistoryFindIndex self (record.streamIndex - count),
        packetHistoryFindIndex other (candidate.streamIndex - count) with
      | some previousSelf, some previousOther =>
        recordsMatch previousSelf previousOther &&
          confirmedBackwardRunFrom self other record candidate n (count + 1)
      | _, _ => false

/-- `has_confirmed_backward_run`. -/
def hasConfirmedBackwardRun (self other : PacketHistory) (record candidate : PacketRecord)
    (requiredMatches : ℕ) : Bool :=
  confirmedBackwardRunFrom self other record candidate (requiredMatches - 1) 1

/-- The loop of `find_confirmed_matching_record_near` over `n` indices from `index` on. -/
def findConfirmedFrom (self other : PacketHistory) (record : PacketRecord) (requiredMatches : ℕ) :
    ℕ → ℤ → Option PacketRecord
  | 0, _ => none
  | n + 1, index =>
    let found :=
      if index < 0 then none
      else
        match packetHistoryFindIndex other index.toNat with
        | none => none
        | some candidate =>
          if recordsMatch record candidate &&
              hasConfirmedBackwardRun self other record candidate requiredMatches then
            some candidate
          else none
    match found with
    | some candidate => some candidate
    | none => findConfirmedFrom self other record requiredMatches n (index + 1)

/-- `find_confirmed_matching_record_near`. -/
def findConfirmedMatchingRecordNear (self other : PacketHistory) (record : PacketRecord)
    (expectedIndex : ℤ) (radius requiredMatches : ℕ) : Option PacketRecord :=
  findConfirmedFrom self other record requiredMatches (2 * radius + 1) (expectedIndex - radius)

/-- The first two searches of `update_alignment`: around the aligned index and around the
record's own index. -/
def findNearMatch (e : RecoveryEngine) (streamId : StreamId) (record : PacketRecord) :
    Option PacketRecord :=
  let self := e.history streamId
  let other := e.history streamId.other
  let expectedIndex : ℤ :=
    match streamId with
    | .primary => record.streamIndex + e.alignment.offsetPackets
    | .secondary => record.streamIndex - e.alignment.offsetPackets
  let aligned :=
    if e.alignment.hasAlignment then
      findConfirmedMatchingRecordNear self other record expectedIndex 8 8
    else none
  match aligned with
  | some found => some found
  | none => findConfirmedMatchingRecordNear self other record record.streamIndex 8 8

/-- A failed wide search: 64 misses cost one point of confidence. -/
def missAlignment (w : World σ) : World σ :=
  let misses := w.engine.alignment.consecutiveMisses + 1
  if 64 ≤ misses && 0 < w.engine.alignment.confidence then
    { w with
      engine :=
        { w.engine with
          alignment :=
            { w.engine.alignment with
              confidence := w.engine.alignment.confidence - 1
              consecutiveMisses := 0 } }
      stats := { w.stats with alignmentConfidence := w.engine.alignment.confidence - 1 } }
  else
    { w with
      engine :=
        { w.engine with alignment := { w.engine.alignment with consecutiveMisses := misses } } }

/-- `update_alignment`. -/
def updateAlignment (w : World σ) (streamId : StreamId) (record : PacketRecord) : World σ :=
  if !recordIsInformative record then w
  else
    let found :=
      match findNearMatch w.engine streamId record with
      | some found => some found
      | none =>
        if record.streamIndex % 512 ≠ 0 then none
        else
          findConfirmedMatchingRecordNear (w.engine.history streamId)
            (w.engine.history streamId.other) record record.streamIndex
            (alignmentSearchRadiusPackets w.engine) 8
    match found with
    | some found =>
      match streamId with
      | .primary => updateAlignmentFromMatch w record found
      | .secondary => updateAlignmentFromMatch w found record
    | none =>
      if record.streamIndex % 512 ≠ 0 then
        { w with
          engine :=
            { w.engine with
              alignment :=
                { w.engine.alignment with
                  consecutiveMisses := w.engine.alignment.consecutiveMisses + 1 } } }
      else missAlignment w

end TwoStream
