import TwoStreamRecovery.Engine.Validate

/-!
# The recovery functions

* `tryRecoverNullPositionGap`, `tryRecoverMixedPositionGap`, `tryRecoverExactContentGap`: check
  the window again, log the decision and send the missing records.
* `tryRecoverPrimaryTeiPacket`: replace a damaged primary record.
* `tryUniqueCandidateRecovery`: run a recovery on the only candidate its validator accepts.
-/

namespace TwoStream

variable {σ : Type}

/-- The return values `-1`, `RECOVERY_DECISION_NONE`, `RECOVERY_DECISION_INSERTED` and
`RECOVERY_DECISION_REJECTED`. -/
inductive Decision where
  | failed
  | none
  | inserted
  | rejected
  deriving DecidableEq

/-! ### Sending a gap -/

/-- The sending loop of the null and mixed recoveries, over `n` records from `index` on. -/
def sendSecondaryRange (env : Env σ) (route : Route) (nullFlag : PacketRecord → Bool) :
    ℕ → ℕ → World σ → Bool × World σ
  | 0, _, w => (true, w)
  | n + 1, index, w =>
    match packetHistoryFindIndex (w.engine.history .secondary) index with
    | none => (false, w)
    | some candidate =>
      match outputRecord env route w candidate with
      | (false, w) => (false, w)
      | (true, w) =>
        sendSecondaryRange env route nullFlag n (index + 1)
          { w with stats := reportStatsObserveRecovery w.stats (nullFlag candidate) }

/-- The sending loop of the exact recovery. -/
def sendCandidates (env : Env σ) (route : Route) : List PacketRecord → World σ → Bool × World σ
  | [], w => (true, w)
  | candidate :: rest, w =>
    match outputRecord env route w candidate with
    | (false, w) => (false, w)
    | (true, w) =>
      sendCandidates env route rest { w with stats := reportStatsObserveRecovery w.stats false }

/-- `recovered_content_bursts++` for more than one packet. -/
def countContentBurst (w : World σ) (missing : ℕ) : World σ :=
  if 1 < missing then
    { w with
      stats := { w.stats with recoveredContentBursts := w.stats.recoveredContentBursts + 1 } }
  else w

/-! ### Null regions -/

/-- `try_recover_null_position_gap`. -/
def tryRecoverNullPositionGap (env : Env σ) (w : World σ) (primary secondaryMatch : PacketRecord) :
    Decision × World σ :=
  let e := w.engine
  let previousCc := previousOutputCcForRecord e primary
  let missing := missingPackets e primary secondaryMatch
  let rejected (candidate before after : Bool) (rejectReason : RejectReason) (reason : ReasonName) :=
    (Decision.rejected,
      recoveryRejectLog w primary previousCc (some missing) candidate before after rejectReason reason)
  if noGapWindow e primary secondaryMatch then (.none, w)
  else if secondaryBetween e secondaryMatch ≤ primaryBetween e primary then (.none, w)
  else if primaryBetween e primary ≠ 0 then (.none, w)
  else if e.config.maxContentBurstPackets < missing then
    match scanOversizedNullRegion (e.history .secondary) (e.config.maxContentBurstPackets + 1)
      (e.lastPrimaryAnchor.secondaryIndex + 1) with
    | .reject r => rejected r.candidateAvailable true true r.rejectReason r.reason
    | _ => (.none, w)
  else if e.alignment.confidence < e.config.minAlignmentConfidence then
    rejected true true true .lowAlignment .lowAlignment
  else if !beforeAnchorHolds e then rejected true false true .ambiguous .beforeAnchor
  else if !afterAnchorHolds primary secondaryMatch then
    rejected true true false .ambiguous .afterAnchor
  else
    match scanNullRegion (e.history .secondary) missing (e.lastPrimaryAnchor.secondaryIndex + 1) with
    | .reject r => rejected r.candidateAvailable true true r.rejectReason r.reason
    | .notNull => (.none, w)
    | .clean =>
      let w := recoveryDecisionLog w .primary primary previousCc (some missing) true true true
        .recoverNullRegion none
      match sendSecondaryRange env (.gap .nullPosition primary secondaryMatch) (fun _ => true) missing
        (e.lastPrimaryAnchor.secondaryIndex + 1) w with
      | (false, w) => (.failed, w)
      | (true, w) => (.inserted, w)

/-! ### Mixed regions -/

/-- The decision text of a mixed recovery. -/
def mixedDecision (primary : PacketRecord) (missing : ℕ) (s : MixedScan) : DecisionName :=
  if !s.sawNull && s.sameContentPid && primary.pid == s.contentPid then
    if 1 < missing then .recoverContentBurst else .recoverContent
  else .recoverMixedBurst

/-- `try_recover_mixed_position_gap`. -/
def tryRecoverMixedPositionGap (env : Env σ) (w : World σ) (primary secondaryMatch : PacketRecord) :
    Decision × World σ :=
  let e := w.engine
  let previousCc := previousOutputCcForRecord e primary
  let missing := missingPackets e primary secondaryMatch
  let rejected (candidate before after : Bool) (rejectReason : RejectReason) (reason : ReasonName) :=
    (Decision.rejected,
      recoveryRejectLog w primary previousCc (some missing) candidate before after rejectReason reason)
  if noGapWindow e primary secondaryMatch then (.none, w)
  else if secondaryBetween e secondaryMatch ≤ primaryBetween e primary then (.none, w)
  else if e.config.maxContentBurstPackets < missing then
    rejected true true true .burstTooLarge .mixedBurstTooLarge
  else if e.alignment.confidence < e.config.minAlignmentConfidence then
    rejected true true true .lowAlignment .lowAlignment
  else if !beforeAnchorHolds e then rejected true false true .ambiguous .beforeAnchor
  else if !afterAnchorHolds primary secondaryMatch then
    rejected true true false .ambiguous .afterAnchor
  else if !windowPrefixMatches e primary then (.none, w)
  else
    match scanMixedRegion (e.history .secondary) missing (firstCandidateIndex e primary) (.start e) with
    | .error r => rejected r.candidateAvailable true true r.rejectReason r.reason
    | .ok s =>
      if !s.sawContent then (.none, w)
      else if !recordFitsOutputStates s.states primary then
        let r := mixedAfterAnchorReject e primary missing
        rejected r.candidateAvailable true true r.rejectReason r.reason
      else
        let w := recoveryDecisionLog w .primary primary previousCc (some missing) true true true
          (mixedDecision primary missing s) none
        match sendSecondaryRange env (.gap .mixedPosition primary secondaryMatch)
          (fun candidate => candidate.isNull) missing (firstCandidateIndex e primary) w with
        | (false, w) => (.failed, w)
        | (true, w) => (.inserted, countContentBurst w missing)

/-! ### Exact content -/

/-- `try_recover_exact_content_gap`. -/
def tryRecoverExactContentGap (env : Env σ) (w : World σ) (primary secondaryMatch : PacketRecord) :
    Decision × World σ :=
  let e := w.engine
  if noGapWindow e primary secondaryMatch then (.none, w)
  else if secondaryBetween e secondaryMatch < primaryBetween e primary then (.none, w)
  else if recordFitsNextOutput e primary then (.none, w)
  else
    match previousOutputCcForRecord e primary, ccMissingCount e primary secondaryMatch with
    | some previousCc, some ccMissing =>
      let rejected (candidate before after : Bool) (rejectReason : RejectReason)
          (reason : ReasonName) :=
        (Decision.rejected,
          recoveryRejectLog w primary (some previousCc) (some ccMissing) candidate before after
            rejectReason reason)
      if ccMissing = 0 then (.none, w)
      else if e.config.maxContentBurstPackets < ccMissing then
        rejected true true true .burstTooLarge .burstTooLarge
      else if e.alignment.confidence < e.config.minAlignmentConfidence then
        rejected true true true .lowAlignment .lowAlignment
      else if !beforeAnchorHolds e then rejected true false true .ambiguous .beforeAnchor
      else if !afterAnchorHolds primary secondaryMatch then
        rejected true true false .ambiguous .afterAnchor
      else
        match scanExactContent e primary secondaryMatch previousCc ccMissing 0 with
        | .error r => rejected r.candidateAvailable true true r.rejectReason r.reason
        | .ok candidates =>
          match checkExactStates primary candidates e.outputPidState with
          | some r => rejected r.candidateAvailable true true r.rejectReason r.reason
          | none =>
            let w := recoveryDecisionLog w .primary primary (some previousCc) (some ccMissing) true
              true true (if 1 < ccMissing then .recoverContentBurst else .recoverContent) none
            match sendCandidates env (.gap .exactContent primary secondaryMatch) candidates w with
            | (false, w) => (.failed, w)
            | (true, w) => (.inserted, countContentBurst w ccMissing)
    | _, _ => (.none, w)

/-! ### Damaged primary records -/

/-- The rejection checks of `try_recover_primary_tei_packet`, in order; `.ok` carries the
replacement. The last three flags of a rejection are `candidate`, `before` and `after`. -/
def checkPrimaryTei (e : RecoveryEngine) (primary : PacketRecord) :
    Except (RejectReason × ReasonName × Bool × Bool × Bool) PacketRecord :=
  let anchorValid := e.lastPrimaryAnchor.valid
  if primary.isNull || !primary.hasPayload || primary.discontinuityIndicator then
    if primary.discontinuityIndicator then
      .error (.discontinuity, .primaryDiscontinuity, false, anchorValid, false)
    else .error (.wrongPid, .primaryNotContent, false, anchorValid, false)
  else if e.alignment.confidence < e.config.minAlignmentConfidence then
    .error (.lowAlignment, .lowAlignment, false, anchorValid, false)
  else if !beforeAnchorHolds e then .error (.ambiguous, .beforeAnchor, false, false, false)
  else
    match findAlignedSecondaryRecord e primary with
    | none => .error (.missingCandidate, .missingCandidate, false, true, false)
    | some candidate =>
      if candidate.transportError then .error (.tei, .secondaryTei, true, true, false)
      else if candidate.discontinuityIndicator then
        .error (.discontinuity, .secondaryDiscontinuity, true, true, false)
      else if candidate.isNull || !candidate.hasPayload || candidate.pid != primary.pid then
        .error (.wrongPid, .wrongPid, true, true, false)
      else if candidate.continuityCounter ≠ primary.continuityCounter then
        .error (.wrongCounter, .wrongCounter, true, true, false)
      else if !recordsAreNonNullExactAnchor
          (packetHistoryFindIndex (e.history .primary) (primary.streamIndex + 1))
          (packetHistoryFindIndex (e.history .secondary) (candidate.streamIndex + 1)) then
        .error (.ambiguous, .noAfterAnchor, true, true, false)
      else if !recordFitsNextOutput e candidate then
        .error (.wrongCounter, .secondaryWrongCounter, true, true, true)
      else .ok candidate

/-- `try_recover_primary_tei_packet`. -/
def tryRecoverPrimaryTeiPacket (env : Env σ) (w : World σ) (primary : PacketRecord) :
    Decision × World σ :=
  let previousCc := previousOutputCcForRecord w.engine primary
  if !primary.transportError then (.none, w)
  else
    match checkPrimaryTei w.engine primary with
    | .error (rejectReason, reason, candidate, before, after) =>
      (.rejected,
        recoveryRejectLog w primary previousCc (some 0) candidate before after rejectReason reason)
    | .ok candidate =>
      let w := recoveryDecisionLog w .primary primary previousCc (some 0) true true true
        .recoverPrimaryTei none
      match outputRecord env (.transportError primary) w candidate with
      | (false, w) => (.failed, w)
      | (true, w) => (.inserted, { w with stats := reportStatsObserveRecovery w.stats false })

/-! ### The unique candidate -/

/-- `validation_reject_is_definitive`. -/
def validationRejectIsDefinitive (validation : CandidateValidation) : Bool :=
  match validation.rejectReason with
  | .wrongCounter | .tei | .discontinuity | .burstTooLarge | .lowAlignment => true
  | _ => false

/-- What the loop over the candidates ends with. -/
inductive CandidateScan where
  | multiple (validation : CandidateValidation)
  | done (winner : Option PacketRecord) (bestReject : CandidateValidation)

/-- The loop of `try_unique_candidate_recovery`. -/
def scanCandidates (validate : PacketRecord → CandidateValidation) :
    List PacketRecord → Option PacketRecord → CandidateValidation → CandidateScan
  | [], winner, bestReject => .done winner bestReject
  | record :: rest, winner, bestReject =>
    let validation := validate record
    if validation.valid then
      if winner.isSome then .multiple validation
      else scanCandidates validate rest (some record) bestReject
    else if bestReject.reason.isNone || (validation.hasMissingCount && !bestReject.hasMissingCount) ||
        validation.rejectReason != .missingCandidate then
      scanCandidates validate rest winner validation
    else scanCandidates validate rest winner bestReject

/-- The missing count of a validation, where it has one. -/
def CandidateValidation.missingCount (v : CandidateValidation) : Option ℕ :=
  if v.hasMissingCount then some v.missingPackets else none

/-- `try_unique_candidate_recovery`. -/
def tryUniqueCandidateRecovery (w : World σ) (primary : PacketRecord)
    (candidates : SecondaryAfterAnchorCandidates)
    (validator : RecoveryEngine → PacketRecord → PacketRecord → CandidateValidation)
    (recover : World σ → PacketRecord → PacketRecord → Decision × World σ) (logNoValid : Bool) :
    Decision × World σ :=
  let previousCc := previousOutputCcForRecord w.engine primary
  let anchorValid := w.engine.lastPrimaryAnchor.valid
  if candidates.truncated then
    (.rejected,
      recoveryRejectLog w primary previousCc none true anchorValid false .ambiguous
        .tooManyAfterAnchors)
  else
    match scanCandidates (validator w.engine primary) candidates.records none
      ⟨false, .missingCandidate, some .missingCandidate, 0, false⟩ with
    | .multiple validation =>
      (.rejected,
        recoveryRejectLog w primary previousCc validation.missingCount true true true .ambiguous
          .multipleValidAfterAnchors)
    | .done (some winner) _ => recover w primary winner
    | .done none bestReject =>
      if 0 < candidates.records.length &&
          (logNoValid || validationRejectIsDefinitive bestReject) then
        (.rejected,
          recoveryRejectLog w primary previousCc bestReject.missingCount true anchorValid true
            bestReject.rejectReason (bestReject.reason.getD .noValidAfterAnchor))
      else (.none, w)

end TwoStream
