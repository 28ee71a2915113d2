import TwoStreamRecovery.Engine.Alignment

/-!
# After-anchor candidates and their validators

* `findSecondaryBoundaryMatches`: the secondary records that may be the copy of a released
  primary record.
* `validateNullPositionCandidate`, `validateMixedPositionCandidate`,
  `validateExactContentCandidate`: the dry runs of the three gap recoveries.

The loops over the records of a gap are written once (`scanNullRegion`, `scanMixedRegion`,
`scanExactContent`): the C code repeats them word for word in the validator and in the recovery
function.
-/

namespace TwoStream

/-! ### Candidates -/

/-- `secondary_after_anchor_candidates_t`. -/
structure SecondaryAfterAnchorCandidates where
  records : List PacketRecord
  truncated : Bool

/-- `add_secondary_after_anchor_candidate`. Two pointers into the secondary history are equal
exactly when the records have the same index, since the lookup is by index. -/
def addSecondaryAfterAnchorCandidate (candidates : SecondaryAfterAnchorCandidates)
    (candidate : PacketRecord) : SecondaryAfterAnchorCandidates :=
  if candidates.records.any fun r => r.streamIndex == candidate.streamIndex then candidates
  else if 64 ≤ candidates.records.length then { candidates with truncated := true }
  else { candidates with records := candidates.records ++ [candidate] }

/-- `collect_secondary_after_anchor_candidates_in_range`, over `n` indices from `index` on. -/
def collectCandidatesInRange (history : PacketHistory) (primary : PacketRecord) :
    ℕ → ℕ → SecondaryAfterAnchorCandidates → SecondaryAfterAnchorCandidates
  | 0, _, candidates => candidates
  | n + 1, index, candidates =>
    collectCandidatesInRange history primary n (index + 1)
      (match packetHistoryFindIndex history index with
        | some candidate =>
          if recordsExactNonErrorMatch primary candidate then
            addSecondaryAfterAnchorCandidate candidates candidate
          else candidates
        | none => candidates)

/-- The part of `find_secondary_boundary_matches` around the aligned index. -/
def alignedBoundaryMatches (e : RecoveryEngine) (primary : PacketRecord)
    (candidates : SecondaryAfterAnchorCandidates) : SecondaryAfterAnchorCandidates :=
  if !e.alignment.hasAlignment then candidates
  else
    let expectedIndex : ℤ := primary.streamIndex + e.alignment.offsetPackets
    let candidates :=
      if 0 ≤ expectedIndex then
        match packetHistoryFindIndex (e.history .secondary) expectedIndex.toNat with
        | some exact =>
          if recordsExactNonErrorMatch primary exact then
            addSecondaryAfterAnchorCandidate candidates exact
          else candidates
        | none => candidates
      else candidates
    if 0 ≤ expectedIndex + 8 then
      let firstExact := (expectedIndex - 8).toNat
      let lastExact := (expectedIndex + 8).toNat
      collectCandidatesInRange (e.history .secondary) primary (lastExact + 1 - firstExact) firstExact
        candidates
    else candidates

/-- The part of `find_secondary_boundary_matches` after the anchor. -/
def anchoredBoundaryMatches (e : RecoveryEngine) (primary : PacketRecord)
    (candidates : SecondaryAfterAnchorCandidates) : SecondaryAfterAnchorCandidates :=
  if !e.lastPrimaryAnchor.valid || decide (primary.streamIndex ≤ e.lastPrimaryAnchor.primaryIndex) then
    candidates
  else
    let firstIndex := e.lastPrimaryAnchor.secondaryIndex + 1
    let oversizeScan := e.config.maxContentBurstPackets + 1
    let oversizeScan := if oversizeScan < 255 then 255 else oversizeScan
    let lastIndex :=
      firstIndex + (primary.streamIndex - e.lastPrimaryAnchor.primaryIndex - 1) + oversizeScan
    collectCandidatesInRange (e.history .secondary) primary (lastIndex + 1 - firstIndex) firstIndex
      candidates

/-- `find_secondary_boundary_matches`. -/
def findSecondaryBoundaryMatches (e : RecoveryEngine) (primary : PacketRecord) :
    SecondaryAfterAnchorCandidates :=
  if primary.isNull || primary.transportError || primary.discontinuityIndicator then ⟨[], false⟩
  else anchoredBoundaryMatches e primary (alignedBoundaryMatches e primary ⟨[], false⟩)

/-! ### Windows -/

/-- `recovery_candidate_validation_t`. -/
structure CandidateValidation where
  valid : Bool
  rejectReason : RejectReason
  reason : Option ReasonName
  missingPackets : ℕ
  hasMissingCount : Bool
  deriving DecidableEq

/-- The first guards of all six functions: there is no gap to look at. -/
def noGapWindow (e : RecoveryEngine) (primary secondaryMatch : PacketRecord) : Bool :=
  primary.isNull || primary.transportError || primary.discontinuityIndicator ||
    !e.lastPrimaryAnchor.valid ||
    decide (secondaryMatch.streamIndex ≤ e.lastPrimaryAnchor.secondaryIndex) ||
    decide (primary.streamIndex ≤ e.lastPrimaryAnchor.primaryIndex)

/-- `primary_between`. -/
def primaryBetween (e : RecoveryEngine) (primary : PacketRecord) : ℕ :=
  primary.streamIndex - e.lastPrimaryAnchor.primaryIndex - 1

/-- `secondary_between`. -/
def secondaryBetween (e : RecoveryEngine) (secondaryMatch : PacketRecord) : ℕ :=
  secondaryMatch.streamIndex - e.lastPrimaryAnchor.secondaryIndex - 1

/-- `missing_packets`. -/
def missingPackets (e : RecoveryEngine) (primary secondaryMatch : PacketRecord) : ℕ :=
  secondaryBetween e secondaryMatch - primaryBetween e primary

/-- The anchor's two records are still there and match. -/
def beforeAnchorHolds (e : RecoveryEngine) : Bool :=
  recordsAreNonNullExactAnchor
    (packetHistoryFindIndex (e.history .primary) e.lastPrimaryAnchor.primaryIndex)
    (packetHistoryFindIndex (e.history .secondary) e.lastPrimaryAnchor.secondaryIndex)

/-- The released record and the after-anchor are non-null and match. -/
def afterAnchorHolds (primary secondaryMatch : PacketRecord) : Bool :=
  !primary.isNull && !secondaryMatch.isNull && recordsExactNonErrorMatch primary secondaryMatch

/-- The prefix loop: `n` primary records from `i` on match the secondary records from `j` on. -/
def prefixMatches (e : RecoveryEngine) : ℕ → ℕ → ℕ → Bool
  | 0, _, _ => true
  | n + 1, i, j =>
    match packetHistoryFindIndex (e.history .primary) i,
      packetHistoryFindIndex (e.history .secondary) j with
    | some primaryPrefix, some secondaryPrefix =>
      recordsExactNonErrorMatch primaryPrefix secondaryPrefix && prefixMatches e n (i + 1) (j + 1)
    | _, _ => false

/-- The prefix of the current window matches. -/
def windowPrefixMatches (e : RecoveryEngine) (primary : PacketRecord) : Bool :=
  prefixMatches e (primaryBetween e primary) (e.lastPrimaryAnchor.primaryIndex + 1)
    (e.lastPrimaryAnchor.secondaryIndex + 1)

/-- `first_candidate_index` of the null and mixed windows. -/
def firstCandidateIndex (e : RecoveryEngine) (primary : PacketRecord) : ℕ :=
  e.lastPrimaryAnchor.secondaryIndex + primaryBetween e primary + 1

/-- Why a region of candidates is not usable. -/
structure Reject where
  rejectReason : RejectReason
  reason : ReasonName
  candidateAvailable : Bool
  deriving DecidableEq

/-! ### Null regions -/

/-- What the loops over a null region find. -/
inductive NullScan where
  | clean
  | notNull
  | reject (r : Reject)
  deriving DecidableEq

/-- The loop over `n` expected null records from `index` on. -/
def scanNullRegion (history : PacketHistory) : ℕ → ℕ → NullScan
  | 0, _ => .clean
  | n + 1, index =>
    match packetHistoryFindIndex history index with
    | none => .reject ⟨.missingCandidate, .missingCandidate, false⟩
    | some candidate =>
      if !candidate.isNull then .notNull
      else if candidate.transportError then .reject ⟨.tei, .secondaryTei, true⟩
      else if candidate.discontinuityIndicator then
        .reject ⟨.discontinuity, .secondaryDiscontinuity, true⟩
      else scanNullRegion history n (index + 1)

/-- The scan of an oversized null region, over `n` records from `index` on. -/
def scanOversizedNullRegion (history : PacketHistory) : ℕ → ℕ → NullScan
  | 0, _ => .reject ⟨.burstTooLarge, .nullBurstTooLarge, true⟩
  | n + 1, index =>
    match packetHistoryFindIndex history index with
    | none => .reject ⟨.missingCandidate, .missingCandidate, false⟩
    | some candidate =>
      if !candidate.isNull then .notNull else scanOversizedNullRegion history n (index + 1)

/-- `validate_null_position_candidate`. Its test for `missing_packets == 0` (also in the mixed
functions) follows `secondary_between <= primary_between` and never holds. -/
def validateNullPositionCandidate (e : RecoveryEngine) (primary secondaryMatch : PacketRecord) :
    CandidateValidation :=
  let result : CandidateValidation :=
    ⟨false, .missingCandidate, some .notNullPositionGap, 0, false⟩
  let missing := missingPackets e primary secondaryMatch
  let counted : CandidateValidation := { result with missingPackets := missing, hasMissingCount := true }
  if noGapWindow e primary secondaryMatch then result
  else if secondaryBetween e secondaryMatch ≤ primaryBetween e primary then result
  else if e.config.maxContentBurstPackets < missing then
    match scanOversizedNullRegion (e.history .secondary) (e.config.maxContentBurstPackets + 1)
      (firstCandidateIndex e primary) with
    | .reject r => { counted with rejectReason := r.rejectReason, reason := some r.reason }
    | _ => counted
  else if e.alignment.confidence < e.config.minAlignmentConfidence then
    { counted with rejectReason := .lowAlignment, reason := some .lowAlignment }
  else if !beforeAnchorHolds e then
    { counted with rejectReason := .ambiguous, reason := some .beforeAnchor }
  else if !afterAnchorHolds primary secondaryMatch then
    { counted with rejectReason := .ambiguous, reason := some .afterAnchor }
  else if !windowPrefixMatches e primary then
    { counted with rejectReason := .ambiguous, reason := some .staleAnchorPrefix }
  else
    match scanNullRegion (e.history .secondary) missing (firstCandidateIndex e primary) with
    | .reject r => { counted with rejectReason := r.rejectReason, reason := some r.reason }
    | .notNull => counted
    | .clean => { counted with valid := true, reason := none }

/-! ### Mixed regions -/

/-- What the loop over a mixed region has seen. -/
structure MixedScan where
  states : ℕ → PidState
  sawContent : Bool
  sawNull : Bool
  sameContentPid : Bool
  contentPid : ℕ

/-- `saw_null`, `saw_content`, `same_content_pid` and `content_pid` after one more record. -/
def MixedScan.observe (s : MixedScan) (candidate : PacketRecord) : MixedScan :=
  { states := observeOutputStates s.states candidate
    sawContent := s.sawContent || !candidate.isNull
    sawNull := s.sawNull || candidate.isNull
    sameContentPid :=
      if candidate.isNull || !s.sawContent || candidate.pid == s.contentPid then s.sameContentPid
      else false
    contentPid := if candidate.isNull || s.sawContent then s.contentPid else candidate.pid }

/-- The loop over `n` records of a mixed region from `index` on. -/
def scanMixedRegion (history : PacketHistory) : ℕ → ℕ → MixedScan → Except Reject MixedScan
  | 0, _, s => .ok s
  | n + 1, index, s =>
    match packetHistoryFindIndex history index with
    | none => .error ⟨.missingCandidate, .missingCandidate, false⟩
    | some candidate =>
      if candidate.transportError then .error ⟨.tei, .secondaryTei, true⟩
      else if candidate.discontinuityIndicator then
        .error ⟨.discontinuity, .secondaryDiscontinuity, true⟩
      else if !recordFitsOutputStates s.states candidate then
        .error ⟨.wrongCounter, .candidateCounterContradiction, true⟩
      else scanMixedRegion history n (index + 1) (s.observe candidate)

/-- The state of the loop before its first record. -/
def MixedScan.start (e : RecoveryEngine) : MixedScan :=
  ⟨e.outputPidState, false, false, true, 0⟩

/-- `matching_pid_count`, over `n` records from `index` on. -/
def countMatchingPid (history : PacketHistory) (pid : ℕ) : ℕ → ℕ → ℕ
  | 0, _ => 0
  | n + 1, index =>
    (match packetHistoryFindIndex history index with
      | some candidate => if !candidate.isNull && candidate.pid == pid then 1 else 0
      | none => 0) + countMatchingPid history pid n (index + 1)

/-- The rejection of a released record that does not fit after the region. -/
def mixedAfterAnchorReject (e : RecoveryEngine) (primary : PacketRecord) (missing : ℕ) : Reject :=
  let ccMissing := (previousOutputCcForRecord e primary).bind (inferMissingFromCc · primary)
  let wrongPid :=
    match ccMissing with
    | some n =>
      decide (n ≤ missing) &&
        countMatchingPid (e.history .secondary) primary.pid missing (firstCandidateIndex e primary) == 0
    | none => false
  if wrongPid then ⟨.wrongPid, .wrongPid, true⟩
  else ⟨.wrongCounter, .afterAnchorWrongCounter, true⟩

/-- `validate_mixed_position_candidate`. -/
def validateMixedPositionCandidate (e : RecoveryEngine) (primary secondaryMatch : PacketRecord) :
    CandidateValidation :=
  let result : CandidateValidation :=
    ⟨false, .missingCandidate, some .notMixedPositionGap, 0, false⟩
  let missing := missingPackets e primary secondaryMatch
  let counted : CandidateValidation := { result with missingPackets := missing, hasMissingCount := true }
  if noGapWindow e primary secondaryMatch then result
  else if secondaryBetween e secondaryMatch ≤ primaryBetween e primary then result
  else if e.config.maxContentBurstPackets < missing then
    { counted with rejectReason := .burstTooLarge, reason := some .mixedBurstTooLarge }
  else if e.alignment.confidence < e.config.minAlignmentConfidence then
    { counted with rejectReason := .lowAlignment, reason := some .lowAlignment }
  else if !beforeAnchorHolds e then
    { counted with rejectReason := .ambiguous, reason := some .beforeAnchor }
  else if !afterAnchorHolds primary secondaryMatch then
    { counted with rejectReason := .ambiguous, reason := some .afterAnchor }
  else if !windowPrefixMatches e primary then
    { counted with rejectReason := .ambiguous, reason := some .staleAnchorPrefix }
  else
    match scanMixedRegion (e.history .secondary) missing (firstCandidateIndex e primary) (.start e) with
    | .error r => { counted with rejectReason := r.rejectReason, reason := some r.reason }
    | .ok s =>
      if !s.sawContent then counted
      else if !recordFitsOutputStates s.states primary then
        let r := mixedAfterAnchorReject e primary missing
        { counted with rejectReason := r.rejectReason, reason := some r.reason }
      else { counted with valid := true, reason := none }

/-! ### Exact content -/

/-- `cc_missing_count`: inferred from the counters, or the window's own count where the counters
come round. -/
def ccMissingCount (e : RecoveryEngine) (primary secondaryMatch : PacketRecord) : Option ℕ :=
  match previousOutputCcForRecord e primary with
  | none => none
  | some previousCc =>
    match inferMissingFromCc previousCc primary with
    | some n => some n
    | none =>
      let missing := missingPackets e primary secondaryMatch
      if primary.hasPayload && decide (0 < missing) && decide (missing ≤ 15) &&
          primary.continuityCounter == (previousCc + missing + 1) % 16 then
        some missing
      else none

/-- `candidate_first_index`: behind the prefix where the prefix matches. -/
def candidateFirstIndex (e : RecoveryEngine) (primary secondaryMatch : PacketRecord) : ℕ :=
  e.lastPrimaryAnchor.secondaryIndex + 1 +
    if decide (0 < primaryBetween e primary) &&
        decide (primaryBetween e primary < secondaryBetween e secondaryMatch) &&
        windowPrefixMatches e primary then
      primaryBetween e primary
    else 0

/-- A record that may be the missing one: content of the PID with the expected counter. -/
def possibleMissing (pid cc : ℕ) (possible : PacketRecord) : Bool :=
  !possible.isNull && possible.hasPayload && possible.pid == pid && possible.continuityCounter == cc

/-- The inner loop over `n` records from `index` on: `none` when a second record is possible. -/
def findMissingCandidate (history : PacketHistory) (pid cc : ℕ) :
    ℕ → ℕ → Option PacketRecord → Option (Option PacketRecord)
  | 0, _, candidate => some candidate
  | n + 1, index, candidate =>
    match packetHistoryFindIndex history index with
    | none => findMissingCandidate history pid cc n (index + 1) candidate
    | some possible =>
      if possibleMissing pid cc possible then
        if candidate.isSome then none
        else findMissingCandidate history pid cc n (index + 1) (some possible)
      else findMissingCandidate history pid cc n (index + 1) candidate

/-- The candidate looked at when no record is possible and one packet is missing. -/
def fallbackCandidate (e : RecoveryEngine) (primary secondaryMatch : PacketRecord) :
    Option PacketRecord :=
  if missingPackets e primary secondaryMatch = 1 then
    packetHistoryFindIndex (e.history .secondary)
      (if primaryBetween e primary = 0 then e.lastPrimaryAnchor.secondaryIndex + 1
        else secondaryMatch.streamIndex - 1)
  else none

/-- The checks on the record chosen for one missing counter. -/
def checkMissingCandidate (pid cc : ℕ) : Option PacketRecord → Except Reject PacketRecord
  | none => .error ⟨.missingCandidate, .missingCandidate, false⟩
  | some candidate =>
    if candidate.isNull then .error ⟨.wrongPid, .nullCandidate, true⟩
    else if candidate.transportError then .error ⟨.tei, .secondaryTei, true⟩
    else if candidate.discontinuityIndicator then
      .error ⟨.discontinuity, .secondaryDiscontinuity, true⟩
    else if candidate.pid ≠ pid then .error ⟨.wrongPid, .wrongPid, true⟩
    else if !candidate.hasPayload || candidate.continuityCounter ≠ cc then
      .error ⟨.wrongCounter, .wrongCounter, true⟩
    else .ok candidate

/-- The record for one missing counter. -/
def chooseMissingCandidate (e : RecoveryEngine) (primary secondaryMatch : PacketRecord) (cc : ℕ) :
    Except Reject PacketRecord :=
  let firstIndex := candidateFirstIndex e primary secondaryMatch
  match findMissingCandidate (e.history .secondary) primary.pid cc
    (secondaryMatch.streamIndex - firstIndex) firstIndex none with
  | none => .error ⟨.ambiguous, .multipleCandidates, true⟩
  | some candidate =>
    checkMissingCandidate primary.pid cc
      (match candidate with
        | some candidate => some candidate
        | none => fallbackCandidate e primary secondaryMatch)

/-- The outer loop: the records for `n` missing counters from the `k`-th on. -/
def scanExactContent (e : RecoveryEngine) (primary secondaryMatch : PacketRecord) (previousCc : ℕ) :
    ℕ → ℕ → Except Reject (List PacketRecord)
  | 0, _ => .ok []
  | n + 1, k =>
    match chooseMissingCandidate e primary secondaryMatch ((previousCc + 1 + k) % 16) with
    | .error r => .error r
    | .ok candidate =>
      match scanExactContent e primary secondaryMatch previousCc n (k + 1) with
      | .error r => .error r
      | .ok rest => .ok (candidate :: rest)

/-- The simulated output of the chosen records and then of the released one. -/
def checkExactStates (primary : PacketRecord) : List PacketRecord → (ℕ → PidState) → Option Reject
  | [], states =>
    if recordFitsOutputStates states primary then none
    else some ⟨.wrongCounter, .afterAnchorWrongCounter, true⟩
  | candidate :: rest, states =>
    if !recordFitsOutputStates states candidate then
      some ⟨.wrongCounter, .secondaryWrongCounter, true⟩
    else checkExactStates primary rest (observeOutputStates states candidate)

/-- `validate_exact_content_candidate`. -/
def validateExactContentCandidate (e : RecoveryEngine) (primary secondaryMatch : PacketRecord) :
    CandidateValidation :=
  let result : CandidateValidation := ⟨false, .missingCandidate, some .notContentGap, 0, false⟩
  if noGapWindow e primary secondaryMatch then result
  else if secondaryBetween e secondaryMatch < primaryBetween e primary then result
  else if recordFitsNextOutput e primary then result
  else
    match previousOutputCcForRecord e primary, ccMissingCount e primary secondaryMatch with
    | some previousCc, some ccMissing =>
      let counted : CandidateValidation :=
        { result with missingPackets := ccMissing, hasMissingCount := true }
      if ccMissing = 0 then counted
      else if e.config.maxContentBurstPackets < ccMissing then
        { counted with rejectReason := .burstTooLarge, reason := some .burstTooLarge }
      else if e.alignment.confidence < e.config.minAlignmentConfidence then
        { counted with rejectReason := .lowAlignment, reason := some .lowAlignment }
      else if !beforeAnchorHolds e then
        { counted with rejectReason := .ambiguous, reason := some .beforeAnchor }
      else if !afterAnchorHolds primary secondaryMatch then
        { counted with rejectReason := .ambiguous, reason := some .afterAnchor }
      else
        match scanExactContent e primary secondaryMatch previousCc ccMissing 0 with
        | .error r => { counted with rejectReason := r.rejectReason, reason := some r.reason }
        | .ok candidates =>
          match checkExactStates primary candidates e.outputPidState with
          | some r => { counted with rejectReason := r.rejectReason, reason := some r.reason }
          | none => { counted with valid := true, reason := none }
    | _, _ => result

end TwoStream
