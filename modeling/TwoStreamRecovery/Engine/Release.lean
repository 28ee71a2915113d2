import TwoStreamRecovery.Engine.Evidence

/-!
# What one released primary record does

* `tryUniqueCandidateRecovery_outcome`: a recovery abstains, rejects, or sends on evidence.
* `releasePrimary_outcome`: the iteration of the drain loop, as one of few forms; the record is
  replaced, or sent after at most one rejection or insertion, or the sink has refused something.
-/

namespace TwoStream

variable {σ : Type}

/-! ### Scanning the candidates -/

/-- A finished scan has found the accepted candidates, at most one. -/
theorem scanCandidates_eq_done {validate : PacketRecord → CandidateValidation}
    {records : List PacketRecord} {winner x : Option PacketRecord} {best b : CandidateValidation}
    (h : scanCandidates validate records winner best = .done x b) :
    winner.toList ++ records.filter (fun r => (validate r).valid) = x.toList := by
  induction records generalizing winner best with
  | nil =>
    simp only [scanCandidates, CandidateScan.done.injEq] at h
    simp [h.1]
  | cons r rest ih =>
    simp only [scanCandidates] at h
    split_ifs at h with hv hw hb
    · rw [List.filter_cons_of_pos (p := fun r => (validate r).valid) hv]
      have hnone : winner = none := by simpa using hw
      simpa [hnone] using ih h
    · rw [List.filter_cons_of_neg (p := fun r => (validate r).valid) hv]
      exact ih h
    · rw [List.filter_cons_of_neg (p := fun r => (validate r).valid) hv]
      exact ih h

/-- A scan stops early only at a second accepted candidate. -/
theorem scanCandidates_eq_multiple {validate : PacketRecord → CandidateValidation}
    {records : List PacketRecord} {winner : Option PacketRecord} {best v : CandidateValidation}
    (h : scanCandidates validate records winner best = .multiple v) :
    2 ≤ (winner.toList ++ records.filter (fun r => (validate r).valid)).length := by
  induction records generalizing winner best with
  | nil => simp [scanCandidates] at h
  | cons r rest ih =>
    simp only [scanCandidates] at h
    split_ifs at h with hv hw hb
    · rw [List.filter_cons_of_pos (p := fun r => (validate r).valid) hv]
      obtain ⟨x, rfl⟩ := Option.isSome_iff_exists.mp hw
      simp
    · rw [List.filter_cons_of_pos (p := fun r => (validate r).valid) hv]
      have hnone : winner = none := by simpa using hw
      simpa [hnone] using ih h
    · rw [List.filter_cons_of_neg (p := fun r => (validate r).valid) hv]
      exact ih h
    · rw [List.filter_cons_of_neg (p := fun r => (validate r).valid) hv]
      exact ih h

/-! ### One recovery -/

/-- The candidates a validator accepts. -/
def acceptedCandidates (kind : GapKind) (e : RecoveryEngine) (primary : PacketRecord) :
    List PacketRecord :=
  (findSecondaryBoundaryMatches e primary).records.filter fun r => (gapValidator kind e primary r).valid

/-- `secondaryMatch` is the only candidate the validator accepts, out of a complete set. -/
structure UniqueCandidate (e : RecoveryEngine) (primary secondaryMatch : PacketRecord)
    (kind : GapKind) : Prop where
  complete : (findSecondaryBoundaryMatches e primary).truncated = false
  unique : acceptedCandidates kind e primary = [secondaryMatch]

theorem UniqueCandidate.mem {e : RecoveryEngine} {primary secondaryMatch : PacketRecord}
    {kind : GapKind} (h : UniqueCandidate e primary secondaryMatch kind) :
    secondaryMatch ∈ (findSecondaryBoundaryMatches e primary).records ∧
      (gapValidator kind e primary secondaryMatch).valid = true := by
  have : secondaryMatch ∈ acceptedCandidates kind e primary := by rw [h.unique]; simp
  exact List.mem_filter.mp this

/-- The world in which the records of a gap have been logged. -/
def gapLogged (w : World σ) (primary : PacketRecord) (n : ℕ) (previousCc : Option ℕ)
    (decision : DecisionName) : World σ :=
  recoveryDecisionLog w .primary primary previousCc (some n) true true true decision none

/-- How a recovery ends. -/
inductive RecoveryOutcome (env : Env σ) (primary : PacketRecord) (w : World σ) (kind : GapKind) :
    Decision × World σ → Prop
  | abstained : RecoveryOutcome env primary w kind (.none, w)
  | rejected (previousCc missingCount : Option ℕ) (candidate before after : Bool)
      (rejectReason : RejectReason) (reason : ReasonName) :
      RecoveryOutcome env primary w kind
        (.rejected,
          recoveryRejectLog w primary previousCc missingCount candidate before after rejectReason
            reason)
  | sent {secondaryMatch : PacketRecord} {L : List PacketRecord} {previousCc : Option ℕ}
      {decision : DecisionName}
      (unique : UniqueCandidate w.engine primary secondaryMatch kind)
      (evidence : GapEvidence w.engine primary secondaryMatch kind L)
      (adjacent : kind = .nullPosition → primaryBetween w.engine primary = 0) :
      RecoveryOutcome env primary w kind
        (finishGap kind L.length
          (insertAll env (.gap kind primary secondaryMatch) (gapNullFlag kind) L
            (gapLogged w primary L.length previousCc decision)))

section

variable {env : Env σ} {primary : PacketRecord} {w : World σ} {kind : GapKind}

/-- With a unique accepted candidate the recovery is run on it. -/
theorem tryUniqueCandidateRecovery_of_unique {secondaryMatch : PacketRecord} {logNoValid : Bool}
    {recover : World σ → PacketRecord → PacketRecord → Decision × World σ}
    (h : UniqueCandidate w.engine primary secondaryMatch kind) :
    tryUniqueCandidateRecovery w primary (findSecondaryBoundaryMatches w.engine primary)
      (gapValidator kind) recover logNoValid = recover w primary secondaryMatch := by
  simp only [tryUniqueCandidateRecovery]
  rw [if_neg (by simp [h.complete])]
  split
  · next hscan =>
    have := scanCandidates_eq_multiple hscan
    rw [Option.toList_none, List.nil_append] at this
    change 2 ≤ (acceptedCandidates kind w.engine primary).length at this
    rw [h.unique] at this
    simp at this
  · next winner b hscan =>
    have := scanCandidates_eq_done hscan
    rw [Option.toList_none, List.nil_append] at this
    change acceptedCandidates kind w.engine primary = _ at this
    rw [h.unique] at this
    simp at this
    rw [this]
  · next b hscan =>
    have := scanCandidates_eq_done hscan
    rw [Option.toList_none, List.nil_append] at this
    change acceptedCandidates kind w.engine primary = _ at this
    rw [h.unique] at this
    simp at this

theorem tryUniqueCandidateRecovery_outcome (env : Env σ) (primary : PacketRecord) (w : World σ)
    (kind : GapKind) (logNoValid : Bool) :
    RecoveryOutcome env primary w kind
      (tryUniqueCandidateRecovery w primary (findSecondaryBoundaryMatches w.engine primary)
        (gapValidator kind) (gapRecovery env kind) logNoValid) := by
  simp only [tryUniqueCandidateRecovery]
  split_ifs with htrunc
  · exact .rejected ..
  · split
    · exact .rejected ..
    · next winner b hscan =>
      have hunique : UniqueCandidate w.engine primary winner kind :=
        ⟨by simpa using htrunc, by simpa [acceptedCandidates] using scanCandidates_eq_done hscan⟩
      obtain ⟨L, hevidence⟩ := gapValidator_valid_iff.mp hunique.mem.2
      rcases gapRecovery_eq env hevidence with ⟨-, -, h⟩ | ⟨hadj, previousCc, decision, h⟩
      · rw [h]
        exact .abstained
      · rw [h]
        exact .sent hunique hevidence hadj
    · split_ifs
      · exact .rejected ..
      · exact .abstained

end

/-! ### One iteration -/

/-- The world in which the loop has collected the candidates for its front record. -/
def openRelease (primary : PacketRecord) (w : World σ) : World σ :=
  let candidates := findSecondaryBoundaryMatches w.engine primary
  let w :=
    { w with
      engine :=
        { w.engine with
          decisionCandidateCount := candidates.records.length
          decisionCandidatesTruncated := candidates.truncated } }
  w.log (.release w.engine)

/-- `anchor_secondary_match`, from the engine alone. -/
def releaseAnchor (e : RecoveryEngine) (primary : PacketRecord) : Option PacketRecord :=
  anchorSecondaryMatch e primary (findSecondaryBoundaryMatches e primary)

/-- The world in which a replacement has been logged. -/
def teiLogged (w : World σ) (primary : PacketRecord) : World σ :=
  recoveryDecisionLog w .primary primary (previousOutputCcForRecord w.engine primary) (some 0) true
    true true .recoverPrimaryTei none

/-- What may have happened, from `w` on, when the released record is offered to the sink. -/
inductive Prepared (primary : PacketRecord) (w : World σ) : World σ → Prop
  | fits (undamaged : primary.transportError = false)
      (fits : recordFitsNextOutput w.engine primary = true) : Prepared primary w w
  | rejected (previousCc missingCount : Option ℕ) (candidate before after : Bool)
      (rejectReason : RejectReason) (reason : ReasonName) :
      Prepared primary w
        (recoveryRejectLog w primary previousCc missingCount candidate before after rejectReason
          reason)
  | inserted {kind : GapKind} {secondaryMatch : PacketRecord} {L : List PacketRecord}
      {previousCc : Option ℕ} {decision : DecisionName} {s : σ}
      (unique : UniqueCandidate w.engine primary secondaryMatch kind)
      (evidence : GapEvidence w.engine primary secondaryMatch kind L)
      (adjacent : kind = .nullPosition → primaryBetween w.engine primary = 0) :
      Prepared primary w
        (gapBurst kind L.length
          { acceptAll (.gap kind primary secondaryMatch) (gapNullFlag kind)
              (gapLogged w primary L.length previousCc decision) L with
            sinkState := s })

/-- The forms of an iteration that releases `primary`. -/
inductive ReleaseOutcome (env : Env σ) (primary : PacketRecord) (w : World σ) :
    Iteration × World σ → Prop
  | replaced {candidate : PacketRecord} {s : σ} (damaged : primary.transportError = true)
      (check : checkPrimaryTei (openRelease primary w).engine primary = .ok candidate) :
      ReleaseOutcome env primary w
        (.next, popPrimary
          (acceptRecovered (.transportError primary) (fun _ => false)
            { teiLogged (openRelease primary w) primary with sinkState := s } candidate))
  | sent {w' : World σ} {s : σ} (prepared : Prepared primary (openRelease primary w) w') :
      ReleaseOutcome env primary w
        (.next, popPrimary
          (updatePrimaryAnchor (acceptRecord .passThrough { w' with sinkState := s } primary) primary
            (releaseAnchor (openRelease primary w).engine primary)))
  | refused {w' : World σ} {s : σ} (refuses : ¬ env.Accepting)
      (prepared : Prepared primary (openRelease primary w) w') :
      ReleaseOutcome env primary w (.done false, { w' with sinkState := s })
  | refusedReplacement {s : σ} (refuses : ¬ env.Accepting) :
      ReleaseOutcome env primary w
        (.done false, { teiLogged (openRelease primary w) primary with sinkState := s })
  | refusedGap {kind : GapKind} {secondaryMatch : PacketRecord} {L : List PacketRecord}
      {previousCc : Option ℕ} {decision : DecisionName} {s : σ} {n : ℕ} (refuses : ¬ env.Accepting)
      (evidence : GapEvidence (openRelease primary w).engine primary secondaryMatch kind L) :
      ReleaseOutcome env primary w
        (.done false,
          { acceptAll (.gap kind primary secondaryMatch) (gapNullFlag kind)
              (gapLogged (openRelease primary w) primary L.length previousCc decision) (L.take n) with
            sinkState := s })

section

variable {env : Env σ} {primary : PacketRecord} {w : World σ}

@[simp] theorem recoveryRejectLog_engine (w : World σ) (primary : PacketRecord)
    (previousCc missingCount : Option ℕ) (candidate before after : Bool)
    (rejectReason : RejectReason) (reason : ReasonName) :
    (recoveryRejectLog w primary previousCc missingCount candidate before after rejectReason
      reason).engine = w.engine := rfl

theorem outputRecord_refuses {route : Route} {r : PacketRecord} {w' : World σ}
    (h : outputRecord env route w r = (false, w')) :
    ¬ env.Accepting ∧ ∃ s, w' = { w with sinkState := s } := by
  constructor
  · intro hacc
    obtain ⟨s, hs⟩ := outputRecord_accepting hacc route w r
    rw [hs] at h
    cases h
  · obtain ⟨s, hs | hs⟩ := outputRecord_cases env route w r
    · rw [hs] at h
      exact ⟨s, (Prod.mk.inj h).2.symm⟩
    · rw [hs] at h
      cases h

theorem outputRecord_takes {route : Route} {r : PacketRecord} {w' : World σ}
    (h : outputRecord env route w r = (true, w')) :
    ∃ s, w' = acceptRecord route { w with sinkState := s } r := by
  obtain ⟨s, hs | hs⟩ := outputRecord_cases env route w r
  · rw [hs] at h
    cases h
  · rw [hs] at h
    exact ⟨s, (Prod.mk.inj h).2.symm⟩

/-- How the recoveries before the release end, from a state in which nothing has been decided. -/
inductive RecoverOutcome (env : Env σ) (primary : PacketRecord) (w : World σ) :
    Except (World σ) (Release σ) → Prop
  | quiet : RecoverOutcome env primary w (.ok ⟨w, recordFitsNextOutput w.engine primary, false, false⟩)
  | decided {w' : World σ} {fits inserted : Bool} (prepared : Prepared primary w w') :
      RecoverOutcome env primary w (.ok ⟨w', fits, true, inserted⟩)
  | aborted {kind : GapKind} {secondaryMatch : PacketRecord} {L : List PacketRecord}
      {previousCc : Option ℕ} {decision : DecisionName} {s : σ} {n : ℕ} (refuses : ¬ env.Accepting)
      (evidence : GapEvidence w.engine primary secondaryMatch kind L) :
      RecoverOutcome env primary w
        (.error
          { acceptAll (.gap kind primary secondaryMatch) (gapNullFlag kind)
              (gapLogged w primary L.length previousCc decision) (L.take n) with sinkState := s })

/-- A stage does nothing once a decision has been logged. -/
theorem gapStage_logged {candidates : SecondaryAfterAnchorCandidates}
    {validator : RecoveryEngine → PacketRecord → PacketRecord → CandidateValidation}
    {recover : World σ → PacketRecord → PacketRecord → Decision × World σ}
    {logNoValid onlyMisfit : Bool} {s : Release σ} (h : s.loggedRecoveryDecision = true) :
    s.gapStage primary candidates validator recover logNoValid onlyMisfit = .ok s := by
  rw [Release.gapStage, if_neg (by simp [h])]

/-- One stage, from a state in which nothing has been decided. -/
theorem gapStage_outcome (env : Env σ) (primary : PacketRecord) (w : World σ) (kind : GapKind)
    (logNoValid onlyMisfit : Bool) :
    RecoverOutcome env primary w
      ((⟨w, recordFitsNextOutput w.engine primary, false, false⟩ : Release σ).gapStage primary
        (findSecondaryBoundaryMatches w.engine primary) (gapValidator kind) (gapRecovery env kind)
        logNoValid onlyMisfit) := by
  unfold Release.gapStage
  split
  · have h := tryUniqueCandidateRecovery_outcome env primary w kind logNoValid
    generalize tryUniqueCandidateRecovery w primary _ (gapValidator kind) (gapRecovery env kind)
      logNoValid = res at h
    cases h with
    | abstained => exact .quiet
    | rejected previousCc missingCount candidate before after rejectReason reason =>
      exact .decided (.rejected ..)
    | @sent secondaryMatch L previousCc decision unique evidence adjacent =>
      obtain ⟨n, s, hn, h⟩ := insertAll_eq env (.gap kind primary secondaryMatch)
        (gapNullFlag kind) L (gapLogged w primary L.length previousCc decision)
      by_cases hlast : n = L.length
      · rw [h, decide_eq_true hlast, hlast, List.take_length]
        exact .decided (.inserted unique evidence adjacent)
      · have hrefuses : ¬ env.Accepting := by
          intro hacc
          obtain ⟨s', h'⟩ := insertAll_accepting hacc (.gap kind primary secondaryMatch)
            (gapNullFlag kind) L (gapLogged w primary L.length previousCc decision)
          rw [h, decide_eq_false hlast] at h'
          cases h'
        rw [h, decide_eq_false hlast]
        exact .aborted hrefuses evidence
  · exact .quiet

theorem recoverBefore_outcome (env : Env σ) (primary : PacketRecord) (w : World σ) :
    RecoverOutcome env primary w
      (recoverBefore env primary (findSecondaryBoundaryMatches w.engine primary)
        ⟨w, recordFitsNextOutput w.engine primary, false, false⟩) := by
  have h1 := gapStage_outcome env primary w .nullPosition false false
  have h2 := gapStage_outcome env primary w .mixedPosition false false
  have h3 := gapStage_outcome env primary w .exactContent true true
  simp only [recoverBefore, bind, Except.bind]
  simp only [gapValidator, gapRecovery] at h1 h2 h3
  -- the first stage that decides settles the rest
  generalize Release.gapStage primary _ validateNullPositionCandidate _ _ _ _ = r1 at h1 ⊢
  cases h1 with
  | quiet =>
    simp only
    generalize Release.gapStage primary _ validateMixedPositionCandidate _ _ _ _ = r2 at h2 ⊢
    cases h2 with
    | quiet => exact h3
    | decided prepared => simpa [gapStage_logged] using .decided prepared
    | aborted refuses evidence => exact .aborted refuses evidence
  | decided prepared => simpa [gapStage_logged] using .decided prepared
  | aborted refuses evidence => exact .aborted refuses evidence

/-- The end of the loop body: at most one more rejection, then the record is offered. -/
theorem sendPrimary_outcome (env : Env σ) (primary : PacketRecord) (w : World σ)
    {w' : World σ} {fits logged inserted : Bool}
    (h : fits = true ∨ logged = true → Prepared primary (openRelease primary w) w')
    (hquiet : w' = openRelease primary w ∨ logged = true) :
    ReleaseOutcome env primary w
      (sendPrimary env primary (findSecondaryBoundaryMatches w.engine primary)
        (releaseAnchor (openRelease primary w).engine primary) ⟨w', fits, logged, inserted⟩) := by
  simp only [sendPrimary]
  have hprepared : Prepared primary (openRelease primary w)
      (if (!fits && !logged) = true then
        logUnexplainedMisfit primary (findSecondaryBoundaryMatches w.engine primary) w' else w') := by
    split
    · next hc =>
      have hlogged : logged = false := by
        cases logged
        · rfl
        · simp at hc
      obtain rfl : w' = openRelease primary w := hquiet.resolve_right (by simp [hlogged])
      exact .rejected ..
    · next hc => exact h (by cases fits <;> cases logged <;> simp_all)
  generalize (if (!fits && !logged) = true then
        logUnexplainedMisfit primary (findSecondaryBoundaryMatches w.engine primary) w' else w') = w₂
    at hprepared
  rcases hout : outputRecord env .passThrough w₂ primary with ⟨_ | _, w₃⟩
  · obtain ⟨hrefuses, s, rfl⟩ := outputRecord_refuses hout
    exact .refused hrefuses hprepared
  · obtain ⟨s, rfl⟩ := outputRecord_takes hout
    exact .sent hprepared

/-- How the loop body goes on after the recoveries before the record. -/
def afterGaps (env : Env σ) (primary : PacketRecord) (w : World σ) :
    Except (World σ) (Release σ) → Iteration × World σ
  | .error w' => (.done false, w')
  | .ok s => sendPrimary env primary (findSecondaryBoundaryMatches w.engine primary)
      (releaseAnchor (openRelease primary w).engine primary) s

/-- How it goes on after the replacement of a damaged record. -/
def afterTei (env : Env σ) (primary : PacketRecord) (w : World σ) :
    Decision × World σ → Iteration × World σ
  | (.failed, w') => (.done false, w')
  | (.inserted, w') => (.next, popPrimary w')
  | (decision, w') =>
    afterGaps env primary w (recoverBefore env primary
      (findSecondaryBoundaryMatches w.engine primary)
      ⟨w', recordFitsNextOutput w.engine primary, decision == .rejected, false⟩)

theorem releasePrimary_eq (env : Env σ) (primary : PacketRecord) (w : World σ) :
    releasePrimary env primary w =
      afterTei env primary w (tryRecoverPrimaryTeiPacket env (openRelease primary w) primary) := rfl

/-- An undamaged record needs no replacement. -/
theorem releasePrimary_undamaged (env : Env σ) {primary : PacketRecord} (w : World σ)
    (hundamaged : primary.transportError = false) :
    releasePrimary env primary w =
      afterGaps env primary w (recoverBefore env primary
        (findSecondaryBoundaryMatches w.engine primary)
        ⟨openRelease primary w, recordFitsNextOutput w.engine primary, false, false⟩) := by
  rw [releasePrimary_eq, tryRecoverPrimaryTeiPacket, hundamaged]
  rfl

/-- **What an iteration that releases `primary` does.** -/
theorem releasePrimary_outcome (env : Env σ) (primary : PacketRecord) (w : World σ) :
    ReleaseOutcome env primary w (releasePrimary env primary w) := by
  cases htei : primary.transportError with
  | false =>
    rw [releasePrimary_undamaged env w htei]
    have h := recoverBefore_outcome env primary (openRelease primary w)
    change RecoverOutcome env primary (openRelease primary w)
      (recoverBefore env primary (findSecondaryBoundaryMatches w.engine primary)
        ⟨openRelease primary w, recordFitsNextOutput w.engine primary, false, false⟩) at h
    generalize recoverBefore env primary (findSecondaryBoundaryMatches w.engine primary) _ = res
      at h
    cases h with
    | quiet =>
      refine sendPrimary_outcome env primary w (fun h => ?_) (.inl rfl)
      exact .fits htei (h.resolve_right (by simp))
    | decided prepared => exact sendPrimary_outcome env primary w (fun _ => prepared) (.inr rfl)
    | aborted refuses evidence => exact .refusedGap refuses evidence
  | true =>
    rw [releasePrimary_eq, tryRecoverPrimaryTeiPacket, htei]
    simp only [Bool.not_true, Bool.false_eq_true, if_false]
    cases hcheck : checkPrimaryTei (openRelease primary w).engine primary with
    | error r =>
      obtain ⟨rejectReason, reason, candidate, before, after⟩ := r
      simp only [afterTei, recoverBefore, gapStage_logged, beq_self_eq_true, bind, Except.bind]
      exact sendPrimary_outcome env primary w (fun _ => .rejected ..) (.inr rfl)
    | ok candidate =>
      simp only
      rcases hout : outputRecord env (.transportError primary)
        (teiLogged (openRelease primary w) primary) candidate with ⟨_ | _, w₃⟩
      · obtain ⟨hrefuses, s, rfl⟩ := outputRecord_refuses hout
        rw [teiLogged] at hout
        rw [hout]
        exact .refusedReplacement hrefuses
      · obtain ⟨s, rfl⟩ := outputRecord_takes hout
        rw [teiLogged] at hout
        rw [hout]
        exact .replaced htei hcheck

end

end TwoStream
