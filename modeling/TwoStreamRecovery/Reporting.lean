import TwoStreamRecovery.Accounting

/-!
# Reporting loss

* `Reported`: an iteration that sends a record out of sequence has counted one reject.
* `HiddenLoss`: the front record stays out of sequence behind an inserted null region.
* `drainIteration_reported_iff`: the second is the only exception to the first.
-/

namespace TwoStream

variable {σ : Type} {env : Env σ} {w w' : World σ} {primary : PacketRecord}

/-- A continuity error comes with exactly one more reject. -/
def Reported (w w' : World σ) : Prop :=
  w'.stats.outputContinuityErrors ≠ w.stats.outputContinuityErrors →
    ∃ reason, w'.stats.recoveryRejects =
      Function.update w.stats.recoveryRejects reason (w.stats.recoveryRejects reason + 1)

/-- A null region is about to be inserted before the front record, which is out of sequence. -/
def HiddenLoss (e : RecoveryEngine) (primary : PacketRecord) : Prop :=
  (∃ secondaryMatch, UniqueCandidate e primary secondaryMatch .nullPosition) ∧
    primaryBetween e primary = 0 ∧
    isContinuityError (e.outputPidState primary.pid).counter? primary = true

/-! ### What the null validator reads -/

theorem prefixMatches_congr {e e' : RecoveryEngine} (h : e'.history = e.history) (n i j : ℕ) :
    prefixMatches e' n i j = prefixMatches e n i j := by
  induction n generalizing i j with
  | zero => rfl
  | succ n ih => simp only [prefixMatches, h, ih]

/-- Fields the candidates and the null validator do not read. -/
theorem acceptedCandidates_null_congr {e e' : RecoveryEngine} (hconfig : e'.config = e.config)
    (hhistory : e'.history = e.history) (halignment : e'.alignment = e.alignment)
    (hanchor : e'.lastPrimaryAnchor = e.lastPrimaryAnchor) (primary : PacketRecord) :
    findSecondaryBoundaryMatches e' primary = findSecondaryBoundaryMatches e primary ∧
      acceptedCandidates .nullPosition e' primary = acceptedCandidates .nullPosition e primary := by
  have hmatches : findSecondaryBoundaryMatches e' primary = findSecondaryBoundaryMatches e primary := by
    simp only [findSecondaryBoundaryMatches, anchoredBoundaryMatches, alignedBoundaryMatches, hconfig,
      hhistory, halignment, hanchor]
  have hvalidator : validateNullPositionCandidate e' primary =
      validateNullPositionCandidate e primary := by
    funext m
    simp only [validateNullPositionCandidate, noGapWindow, primaryBetween, secondaryBetween,
      missingPackets, firstCandidateIndex, beforeAnchorHolds, windowPrefixMatches,
      prefixMatches_congr hhistory, hconfig, hhistory, halignment, hanchor]
    rfl
  refine ⟨hmatches, ?_⟩
  simp only [acceptedCandidates, gapValidator, hmatches, hvalidator]

theorem hiddenLoss_congr {e e' : RecoveryEngine} (hconfig : e'.config = e.config)
    (hhistory : e'.history = e.history) (halignment : e'.alignment = e.alignment)
    (hanchor : e'.lastPrimaryAnchor = e.lastPrimaryAnchor)
    (hstates : e'.outputPidState = e.outputPidState) :
    HiddenLoss e' primary ↔ HiddenLoss e primary := by
  obtain ⟨hmatches, haccepted⟩ :=
    acceptedCandidates_null_congr hconfig hhistory halignment hanchor primary
  have hunique (m : PacketRecord) : UniqueCandidate e' primary m .nullPosition ↔
      UniqueCandidate e primary m .nullPosition := by
    constructor
    · exact fun h => ⟨hmatches ▸ h.complete, haccepted ▸ h.unique⟩
    · exact fun h => ⟨hmatches.symm ▸ h.complete, haccepted.symm ▸ h.unique⟩
  simp only [HiddenLoss, hunique, primaryBetween, hanchor, hstates]

theorem hiddenLoss_openRelease (primary : PacketRecord) (w : World σ) :
    HiddenLoss (openRelease primary w).engine primary ↔ HiddenLoss w.engine primary :=
  hiddenLoss_congr rfl rfl rfl rfl rfl

/-! ### What a record counts -/

theorem acceptStats_errors (state : PidState) (r : PacketRecord) (stats : ReportStats) :
    (acceptStats state r stats).outputContinuityErrors =
      stats.outputContinuityErrors + if isContinuityError state.counter? r then 1 else 0 := by
  have h := (countPacket_frame stats).2.2.2.2.2.1
  rw [acceptStats_eq, ← h]
  exact observeOutputStats_errors state r (countPacket stats)

theorem acceptStats_duplicates (state : PidState) (r : PacketRecord) (stats : ReportStats) :
    (acceptStats state r stats).outputDuplicateCounters =
      stats.outputDuplicateCounters + if isDuplicateCounter state.counter? r then 1 else 0 := by
  have h := (countPacket_frame stats).2.2.2.2.2.2
  rw [acceptStats_eq, ← h]
  exact observeOutputStats_duplicates state r (countPacket stats)

theorem acceptStats_rejects (state : PidState) (r : PacketRecord) (stats : ReportStats) :
    (acceptStats state r stats).recoveryRejects = stats.recoveryRejects := by
  simp only [acceptStats, observeOutputStats, reportStatsObserveOutputDatagram]
  split_ifs <;> rfl

/-- A record that fits is no error. -/
theorem isContinuityError_of_fits {states : ℕ → PidState} {r : PacketRecord}
    (h : recordFitsOutputStates states r = true) :
    isContinuityError (states r.pid).counter? r = false := by
  simp only [recordFitsOutputStates, nextCc] at h
  simp only [isContinuityError, PidState.counter?, checked]
  cases hvalid : (states r.pid).valid with
  | false => rfl
  | true =>
    simp only [if_true]
    split_ifs at h <;> simp_all

/-- A record that fits repeats no counter. -/
theorem isDuplicateCounter_of_fits {states : ℕ → PidState} {r : PacketRecord}
    (h : recordFitsOutputStates states r = true) :
    isDuplicateCounter (states r.pid).counter? r = false := by
  simp only [recordFitsOutputStates, nextCc] at h
  simp only [isDuplicateCounter, PidState.counter?, checked]
  cases hvalid : (states r.pid).valid with
  | false => rfl
  | true =>
    simp only [if_true]
    split_ifs at h with hnull hflags hinvalid hpayload
    · simp [hnull]
    · simp [hvalid] at hinvalid
    · simp_all
    · have hcc : r.continuityCounter = ((states r.pid).continuityCounter + 1) % 16 := by simpa using h
      have hne : r.continuityCounter ≠ (states r.pid).continuityCounter := by omega
      simp [hne]

/-- The two fault counters of the output. -/
def ReportStats.faults (stats : ReportStats) : ℕ × ℕ :=
  (stats.outputContinuityErrors, stats.outputDuplicateCounters)

/-- A record that fits is no fault. -/
theorem acceptStats_faults {states : ℕ → PidState} {r : PacketRecord}
    (h : recordFitsOutputStates states r = true) (stats : ReportStats) :
    (acceptStats (states r.pid) r stats).faults = stats.faults := by
  have herrors := acceptStats_errors (states r.pid) r stats
  have hduplicates := acceptStats_duplicates (states r.pid) r stats
  rw [isContinuityError_of_fits h] at herrors
  rw [isDuplicateCounter_of_fits h] at hduplicates
  simp only [ReportStats.faults, herrors, hduplicates]
  rfl

/-- The counters of recoveries and losses, and the fault counters of the output. -/
def ReportStats.incidents (stats : ReportStats) : ℕ × ℕ × (RejectReason → ℕ) × ℕ × ℕ :=
  (stats.recoveredPackets, stats.unrecoverableLoss, stats.recoveryRejects,
    stats.outputContinuityErrors, stats.outputDuplicateCounters)

/-- A record that fits is no incident. -/
theorem acceptStats_incidents {states : ℕ → PidState} {r : PacketRecord}
    (h : recordFitsOutputStates states r = true) (stats : ReportStats) :
    (acceptStats (states r.pid) r stats).incidents = stats.incidents := by
  have hfaults := acceptStats_faults h stats
  have hrest : (acceptStats (states r.pid) r stats).recoveredPackets = stats.recoveredPackets ∧
      (acceptStats (states r.pid) r stats).unrecoverableLoss = stats.unrecoverableLoss ∧
      (acceptStats (states r.pid) r stats).recoveryRejects = stats.recoveryRejects := by
    simp only [acceptStats, observeOutputStats, reportStatsObserveOutputDatagram]
    split_ifs <;> exact ⟨rfl, rfl, rfl⟩
  simp only [ReportStats.faults, Prod.mk.injEq] at hfaults
  simp only [ReportStats.incidents, hfaults.1, hfaults.2, hrest.1, hrest.2.1, hrest.2.2]

/-- The records of a recovery that fit in turn count as recovered, and nothing else. -/
theorem acceptAll_incidents {route : Route} {nullFlag : PacketRecord → Bool} {L : List PacketRecord}
    (h : FitsInTurn w.engine.outputPidState L) (hclean : ∀ r ∈ L, r.Clean) :
    (acceptAll route nullFlag w L).stats.incidents =
      (w.stats.recoveredPackets + L.length, w.stats.incidents.2) := by
  induction L generalizing w with
  | nil => rfl
  | cons r rest ih =>
    have hr := hclean r List.mem_cons_self
    have hstates : observeOutputStates w.engine.outputPidState r =
        outputStatesAfter w.engine.outputPidState r := by
      simp [observeOutputStates, outputStatesAfter, hr.1, hr.2]
    have hrest : FitsInTurn (acceptRecovered route nullFlag w r).engine.outputPidState rest := by
      rw [acceptRecovered, acceptRecord_engine, ← hstates]
      exact h.2
    have hone : (acceptRecovered route nullFlag w r).stats.incidents =
        (w.stats.recoveredPackets + 1, w.stats.incidents.2) := by
      have hsame := acceptStats_incidents h.1 w.stats
      rw [← acceptRecord_stats route] at hsame
      simp only [ReportStats.incidents, Prod.mk.injEq] at hsame
      simp only [acceptRecovered, reportStatsObserveRecovery, ReportStats.incidents, hsame.1, hsame.2]
    rw [acceptAll_cons, ih hrest fun x hx => hclean x (List.mem_cons_of_mem _ hx), hone]
    rw [show (acceptRecovered route nullFlag w r).stats.recoveredPackets = w.stats.recoveredPackets + 1
      from congrArg Prod.fst hone, List.length_cons]
    congr 1
    omega

theorem acceptAll_faults {route : Route} {nullFlag : PacketRecord → Bool} {L : List PacketRecord}
    (h : FitsInTurn w.engine.outputPidState L) (hclean : ∀ r ∈ L, r.Clean) :
    (acceptAll route nullFlag w L).stats.faults = w.stats.faults :=
  congrArg (fun counts => counts.2.2.2) (acceptAll_incidents h hclean)

theorem gapBurst_incidents (kind : GapKind) (n : ℕ) (w : World σ) :
    (gapBurst kind n w).stats.incidents = w.stats.incidents := by
  cases kind with
  | nullPosition => rfl
  | _ =>
    simp only [gapBurst, countContentBurst]
    split <;> rfl

/-- The records of a recovery, and the record after it, where they fit in turn. -/
theorem insertion_incidents {route : Route} {nullFlag : PacketRecord → Bool} {L : List PacketRecord}
    (kind : GapKind) (n : ℕ) (h : FitsInTurn w.engine.outputPidState (L ++ [primary]))
    (hclean : ∀ r ∈ L, r.Clean) :
    let w' := gapBurst kind n (acceptAll route nullFlag w L)
    (acceptStats (w'.engine.outputPidState primary.pid) primary w'.stats).incidents =
      (w.stats.recoveredPackets + L.length, w.stats.incidents.2) := by
  obtain ⟨hL, hfit, -⟩ := fitsInTurn_append.mp h
  have hstates : (gapBurst kind n (acceptAll route nullFlag w L)).engine.outputPidState =
      L.foldl observeOutputStates w.engine.outputPidState := by
    rw [gapBurst_engine, acceptAll_engine, foldl_observeOutputStates hclean]
  show (acceptStats ((gapBurst kind n (acceptAll route nullFlag w L)).engine.outputPidState primary.pid)
    primary _).incidents = _
  rw [hstates, acceptStats_incidents hfit, gapBurst_incidents, acceptAll_incidents hL hclean]

theorem acceptAll_rejects {route : Route} {nullFlag : PacketRecord → Bool} (L : List PacketRecord) :
    (acceptAll route nullFlag w L).stats.recoveryRejects = w.stats.recoveryRejects := by
  induction L generalizing w with
  | nil => rfl
  | cons r rest ih =>
    rw [acceptAll_cons, ih]
    simp only [acceptRecovered, reportStatsObserveRecovery, acceptRecord_stats]
    exact acceptStats_rejects _ _ _

theorem gapBurst_counts (kind : GapKind) (n : ℕ) (w : World σ) :
    (gapBurst kind n w).stats.faults = w.stats.faults ∧
      (gapBurst kind n w).stats.recoveryRejects = w.stats.recoveryRejects := by
  have hincidents := gapBurst_incidents kind n w
  exact ⟨congrArg (fun counts => counts.2.2.2) hincidents, congrArg (fun counts => counts.2.2.1) hincidents⟩

/-- Null records fit any state and leave it alone. -/
theorem null_fits {L : List PacketRecord} (h : ∀ r ∈ L, r.isNull = true) (states : ℕ → PidState) :
    FitsInTurn states L ∧ L.foldl outputStatesAfter states = states := by
  induction L with
  | nil => exact ⟨trivial, rfl⟩
  | cons r rest ih =>
    have hr := h r List.mem_cons_self
    obtain ⟨hfits, hfold⟩ := ih fun x hx => h x (List.mem_cons_of_mem _ hx)
    refine ⟨⟨by simp [recordFitsOutputStates, hr], ?_⟩, ?_⟩
    · rw [show observeOutputStates states r = states by simp [observeOutputStates, hr]]
      exact hfits
    · rw [List.foldl_cons, show outputStatesAfter states r = states by simp [outputStatesAfter, hr]]
      exact hfold

/-! ### One release -/

/-- After a content recovery the released record is no error; a null recovery changes nothing. -/
theorem evidence_errors {kind : GapKind} {secondaryMatch : PacketRecord} {L : List PacketRecord}
    (h : GapEvidence w.engine primary secondaryMatch kind L) :
    FitsInTurn w.engine.outputPidState L ∧
      (isContinuityError ((L.foldl outputStatesAfter w.engine.outputPidState) primary.pid).counter?
          primary = true →
        kind = .nullPosition ∧
          isContinuityError (w.engine.outputPidState primary.pid).counter? primary = true) := by
  have hcontent (hfits : FitsInTurn w.engine.outputPidState (L ++ [primary])) :
      FitsInTurn w.engine.outputPidState L ∧
        isContinuityError ((L.foldl outputStatesAfter w.engine.outputPidState) primary.pid).counter?
          primary = false := by
    obtain ⟨hL, hlast, -⟩ := fitsInTurn_append.mp hfits
    rw [foldl_observeOutputStates h.clean] at hlast
    exact ⟨hL, isContinuityError_of_fits hlast⟩
  cases h.plan with
  | nullPosition longer samePrefix range length null =>
    obtain ⟨hfits, hfold⟩ := null_fits null w.engine.outputPidState
    rw [hfold]
    exact ⟨hfits, fun herror => ⟨rfl, herror⟩⟩
  | mixedPosition longer samePrefix range length content fits =>
    obtain ⟨hL, hlast⟩ := hcontent fits
    exact ⟨hL, fun herror => by simp [hlast] at herror⟩
  | exactContent notShorter misfit previous count nonempty chosen fits =>
    obtain ⟨hL, hlast⟩ := hcontent fits
    exact ⟨hL, fun herror => by simp [hlast] at herror⟩

/-- **What is counted before the released record is offered:** its own error is either reported or
hidden. -/
theorem Prepared.counts (h : Prepared primary w w') :
    w'.stats.outputContinuityErrors = w.stats.outputContinuityErrors ∧
      (isContinuityError (w'.engine.outputPidState primary.pid).counter? primary = true →
        (∃ reason, w'.stats.recoveryRejects =
          Function.update w.stats.recoveryRejects reason (w.stats.recoveryRejects reason + 1)) ∨
        HiddenLoss w.engine primary) := by
  cases h with
  | fits undamaged fits =>
    exact ⟨rfl, fun herror => by simp [isContinuityError_of_fits fits] at herror⟩
  | rejected previousCc missingCount candidate before after rejectReason reason =>
    have hstats (stats : ReportStats) :
        (observeUnrecoverablePrimaryGap stats primary missingCount reason).outputContinuityErrors =
          stats.outputContinuityErrors ∧
        (observeUnrecoverablePrimaryGap stats primary missingCount reason).recoveryRejects =
          stats.recoveryRejects := by
      unfold observeUnrecoverablePrimaryGap
      split
      · exact ⟨rfl, rfl⟩
      · split_ifs <;> exact ⟨rfl, rfl⟩
    simp only [recoveryRejectLog]
    refine ⟨(hstats _).1, fun _ => .inl ⟨rejectReason, ?_⟩⟩
    rw [(hstats _).2]
    funext r
    simp only [reportStatsRejectRecovery, Function.update_apply]
    by_cases hr : r = rejectReason
    · subst hr
      rw [if_pos rfl, if_pos rfl]
      rfl
    · rw [if_neg hr, if_neg hr]
      rfl
  | @inserted kind secondaryMatch L previousCc decision s unique evidence adjacent =>
    obtain ⟨hfits, herror⟩ := evidence_errors evidence
    have hburst (w' : World σ) : (gapBurst kind L.length w').stats.outputContinuityErrors =
        w'.stats.outputContinuityErrors := congrArg Prod.fst (gapBurst_counts kind L.length w').1
    rw [hburst, gapBurst_engine]
    refine ⟨congrArg Prod.fst (acceptAll_faults (w := gapLogged w primary L.length previousCc decision)
      hfits evidence.clean), fun h => .inr ?_⟩
    rw [acceptAll_engine] at h
    obtain ⟨rfl, hbefore⟩ := herror h
    exact ⟨⟨secondaryMatch, unique⟩, adjacent rfl, hbefore⟩

/-- **A release that sends an undamaged record** hides its loss, or reports it. -/
theorem release_reported (hundamaged : primary.transportError = false)
    (h : releasePrimary env primary w = (.next, w')) :
    HiddenLoss w.engine primary ∨ Reported w w' := by
  have houtcome := releasePrimary_outcome env primary w
  rw [h] at houtcome
  cases houtcome with
  | replaced damaged check => simp [hundamaged] at damaged
  | @sent w₁ s prepared =>
    obtain ⟨hbefore, herror⟩ := prepared.counts
    by_cases hself : isContinuityError (w₁.engine.outputPidState primary.pid).counter? primary = true
    · rcases herror hself with hreject | hhidden
      · right
        intro _
        simp only [popPrimary, updatePrimaryAnchor_stats, acceptRecord_stats, acceptStats_rejects]
        exact hreject
      · exact .inl ((hiddenLoss_openRelease primary w).mp hhidden)
    · right
      intro hmore
      simp only [popPrimary, updatePrimaryAnchor_stats, acceptRecord_stats, acceptStats_errors,
        if_neg hself] at hmore
      exact absurd hbefore hmore

/-- Where a null region can be inserted, the first recovery does it and the others stand back. -/
theorem recoverBefore_of_null (env : Env σ) {secondaryMatch : PacketRecord} {L : List PacketRecord}
    (hunique : UniqueCandidate w.engine primary secondaryMatch .nullPosition)
    (hadjacent : primaryBetween w.engine primary = 0)
    (hevidence : GapEvidence w.engine primary secondaryMatch .nullPosition L) (fits : Bool) :
    ∃ previousCc decision n s,
      recoverBefore env primary (findSecondaryBoundaryMatches w.engine primary)
          ⟨w, fits, false, false⟩ =
        if n = L.length then
          .ok ⟨{ acceptAll (.gap .nullPosition primary secondaryMatch) (gapNullFlag .nullPosition)
                (gapLogged w primary L.length previousCc decision) L with sinkState := s },
            recordFitsNextOutput
              (acceptAll (.gap .nullPosition primary secondaryMatch) (gapNullFlag .nullPosition)
                (gapLogged w primary L.length previousCc decision) L).engine primary, true, true⟩
        else
          .error { acceptAll (.gap .nullPosition primary secondaryMatch) (gapNullFlag .nullPosition)
            (gapLogged w primary L.length previousCc decision) (L.take n) with sinkState := s } := by
  have hvalid : w.engine.lastPrimaryAnchor.valid = true :=
    (noGapWindow_eq_false_iff.mp hevidence.window).2.2.1
  have hsome : 0 < (findSecondaryBoundaryMatches w.engine primary).records.length :=
    List.length_pos_of_mem hunique.mem.1
  obtain ⟨previousCc, decision, hrecover⟩ := ((gapRecovery_eq env hevidence).resolve_left
    fun hskip => hskip.2.1 hadjacent).2
  obtain ⟨n, s, -, hinsert⟩ := insertAll_eq env (.gap .nullPosition primary secondaryMatch)
    (gapNullFlag .nullPosition) L (gapLogged w primary L.length previousCc decision)
  refine ⟨previousCc, decision, n, s, ?_⟩
  have hfirst : (⟨w, fits, false, false⟩ : Release σ).gapStage primary
      (findSecondaryBoundaryMatches w.engine primary) validateNullPositionCandidate
      (tryRecoverNullPositionGap env) false false =
      (⟨w, fits, false, false⟩ : Release σ).afterRecovery primary
        (finishGap .nullPosition L.length
          (insertAll env (.gap .nullPosition primary secondaryMatch) (gapNullFlag .nullPosition) L
            (gapLogged w primary L.length previousCc decision))) := by
    rw [Release.gapStage, if_pos (by simp [hvalid, hsome])]
    congr 1
    exact (tryUniqueCandidateRecovery_of_unique hunique).trans hrecover
  simp only [recoverBefore, bind, Except.bind, hfirst, hinsert]
  by_cases hn : n = L.length
  · rw [if_pos hn, decide_eq_true hn, hn, List.take_length]
    simp only [finishGap, Release.afterRecovery, gapBurst]
    rw [gapStage_logged rfl]
    simp only
    rw [gapStage_logged rfl]
  · rw [if_neg hn, decide_eq_false hn]
    rfl

/-- **Hidden loss:** the null region goes out, the record follows with its error, and nothing is
reported. -/
theorem release_of_hiddenLoss (hundamaged : primary.transportError = false)
    (h : releasePrimary env primary w = (.next, w')) (hhidden : HiddenLoss w.engine primary) :
    w'.stats.outputContinuityErrors = w.stats.outputContinuityErrors + 1 ∧
      w'.stats.recoveryRejects = w.stats.recoveryRejects := by
  obtain ⟨⟨secondaryMatch, hunique⟩, hadjacent, herror⟩ :=
    (hiddenLoss_openRelease primary w).mpr hhidden
  obtain ⟨L, hevidence⟩ := gapValidator_valid_iff.mp hunique.mem.2
  have hnull : ∀ r ∈ L, r.isNull = true := by
    cases hevidence.plan with
    | nullPosition longer samePrefix range length null => exact null
  obtain ⟨hfits, hfold⟩ := null_fits hnull (openRelease primary w).engine.outputPidState
  obtain ⟨previousCc, decision, n, s, hrecover⟩ :=
    recoverBefore_of_null env hunique hadjacent hevidence
      (recordFitsNextOutput (openRelease primary w).engine primary)
  have hrecover' : recoverBefore env primary (findSecondaryBoundaryMatches w.engine primary)
      ⟨openRelease primary w, recordFitsNextOutput w.engine primary, false, false⟩ = _ := hrecover
  rw [releasePrimary_undamaged env w hundamaged, hrecover'] at h
  by_cases hn : n = L.length
  · rw [if_pos hn] at h
    simp only [afterGaps, sendPrimary, Bool.not_true, Bool.and_false, Bool.false_eq_true,
      if_false] at h
    generalize hw₁ : acceptAll (.gap .nullPosition primary secondaryMatch)
      (gapNullFlag .nullPosition) (gapLogged (openRelease primary w) primary L.length previousCc
        decision) L = w₁ at h
    have hstates : w₁.engine.outputPidState = w.engine.outputPidState := by
      rw [← hw₁, acceptAll_engine]
      exact hfold
    have herrors : w₁.stats.outputContinuityErrors = w.stats.outputContinuityErrors := by
      rw [← hw₁]
      exact congrArg Prod.fst (acceptAll_faults (w := gapLogged (openRelease primary w) primary
        L.length previousCc decision) hfits hevidence.clean)
    have hrejects : w₁.stats.recoveryRejects = w.stats.recoveryRejects := by
      rw [← hw₁]
      exact acceptAll_rejects L
    rcases hout : outputRecord env .passThrough { w₁ with sinkState := s } primary with ⟨_ | _, w₂⟩
    · rw [hout] at h
      cases h
    · obtain ⟨s', rfl⟩ := outputRecord_takes hout
      rw [hout] at h
      obtain rfl := (Prod.mk.inj h).2
      simp only [popPrimary, updatePrimaryAnchor_stats, acceptRecord_stats, acceptStats_rejects,
        acceptStats_errors]
      refine ⟨?_, hrejects⟩
      rw [herrors, hstates]
      exact congrArg (_ + ·) (if_pos herror)
  · rw [if_neg hn] at h
    cases h

/-! ### The iteration of the drain loop -/

/-- The fields an iteration has left alone when it comes to its release. -/
structure SameJudgement (w w' : World σ) : Prop where
  config : w'.engine.config = w.engine.config
  history : w'.engine.history = w.engine.history
  alignment : w'.engine.alignment = w.engine.alignment
  anchor : w'.engine.lastPrimaryAnchor = w.engine.lastPrimaryAnchor
  states : w'.engine.outputPidState = w.engine.outputPidState
  errors : w'.stats.outputContinuityErrors = w.stats.outputContinuityErrors
  rejects : w'.stats.recoveryRejects = w.stats.recoveryRejects

theorem setActiveOutputStream_sameJudgement (env : Env σ) (w : World σ) (streamId : StreamId) :
    SameJudgement w (setActiveOutputStream env w streamId) := by
  unfold setActiveOutputStream
  split <;> exact ⟨rfl, rfl, rfl, rfl, rfl, rfl, rfl⟩

/-- An iteration that goes on to the next one has released its front record. -/
theorem drainIteration_next {force : Bool} (h : drainIteration env force w = (.next, w')) :
    ∃ primary w₁, delayQueueFront w.engine.primaryQueue = some primary ∧ SameJudgement w w₁ ∧
      releasePrimary env primary w₁ = (.next, w') := by
  unfold drainIteration at h
  cases hfront : delayQueueFront w.engine.primaryQueue with
  | none =>
    rw [hfront] at h
    cases h
  | some primary =>
    rw [hfront] at h
    have hrelease (w₁ : World σ) (hjudge : SameJudgement w w₁)
        (h : (if notYetDue force (setActiveOutputStream env w₁ .primary).engine.primaryQueue primary
            (env.clock w.reads) then (Iteration.stop, setActiveOutputStream env w₁ .primary)
          else releasePrimary env primary (setActiveOutputStream env w₁ .primary)) = (.next, w')) :
        ∃ w₁, SameJudgement w w₁ ∧ releasePrimary env primary w₁ = (.next, w') := by
      split at h
      · cases h
      · obtain ⟨h1, h2, h3, h4, h5, h6, h7⟩ := setActiveOutputStream_sameJudgement env w₁ .primary
        exact ⟨_, ⟨h1.trans hjudge.1, h2.trans hjudge.2, h3.trans hjudge.3, h4.trans hjudge.4,
          h5.trans hjudge.5, h6.trans hjudge.6, h7.trans hjudge.7⟩, h⟩
    suffices ∃ w₁, SameJudgement w w₁ ∧ releasePrimary env primary w₁ = (.next, w') by
      obtain ⟨w₁, hjudge, h⟩ := this
      exact ⟨primary, w₁, rfl, hjudge, h⟩
    by_cases hactive : w.engine.activeOutputStreamId = .secondary
    · simp only [reportStatsNowNs, hactive, reduceIte] at h
      obtain ⟨start, hstart⟩ := primaryReturnHoldoffElapsed_engine w.engine (env.clock w.reads)
      split at h
      · cases h
      · refine hrelease _ ?_ h
        simp only [hstart]
        exact ⟨rfl, rfl, rfl, rfl, rfl, rfl, rfl⟩
    · simp only [reportStatsNowNs, hactive, reduceIte, Bool.not_true, Bool.false_eq_true] at h
      exact hrelease { w with reads := w.reads + 1 } ⟨rfl, rfl, rfl, rfl, rfl, rfl, rfl⟩ h

/-- **Loss is reported unless it is hidden.** An iteration that sends an undamaged record counts
exactly one reject for its continuity error, if and only if no null region hides the loss. -/
theorem drainIteration_reported_iff {force : Bool}
    (hfront : delayQueueFront w.engine.primaryQueue = some primary)
    (hundamaged : primary.transportError = false)
    (h : drainIteration env force w = (.next, w')) :
    Reported w w' ↔ ¬ HiddenLoss w.engine primary := by
  obtain ⟨primary', w₁, hfront', hjudge, hrelease⟩ := drainIteration_next h
  obtain rfl : primary = primary' := Option.some.inj (hfront.symm.trans hfront')
  have hcongr : HiddenLoss w₁.engine primary ↔ HiddenLoss w.engine primary :=
    hiddenLoss_congr hjudge.config hjudge.history hjudge.alignment hjudge.anchor hjudge.states
  have hreported : Reported w w' ↔ Reported w₁ w' := by
    rw [Reported, Reported, hjudge.errors, hjudge.rejects]
  rw [hreported, ← hcongr]
  constructor
  · intro hreported hhidden
    obtain ⟨hmore, hsame⟩ := release_of_hiddenLoss hundamaged hrelease hhidden
    obtain ⟨reason, hreason⟩ := hreported (by omega)
    have hcount := congrFun (hsame.symm.trans hreason) reason
    rw [Function.update_self] at hcount
    omega
  · intro hnot
    exact (release_reported hundamaged hrelease).resolve_left hnot

/-! ### A lost packet nobody reports -/

/-- Both inputs agree up to a packet with a clock reference. Then the secondary brings a null packet
and payload whose counter has jumped, and the primary the same payload without the null packet. -/
def hiddenLossOps : List Op :=
  [.push .secondary nullPacket, .push .primary nullPacket,
    .push .secondary (pcrPacket 0x100 0 1).parse, .push .primary (pcrPacket 0x100 0 1).parse,
    .push .secondary nullPacket, .push .secondary (payloadPacket 0x100 2 2).parse]

/-- The engine when the drain of that payload comes to its loop. -/
def hiddenLossWorld : World Unit :=
  discardDrain (scriptedEnv [] 1)
    (pushIngest (scriptedEnv [] 1) .primary (payloadPacket 0x100 2 2).parse
      (run (scriptedEnv [] 1) (freshWorld promptConfig ()) hiddenLossOps))

/-- The payload as the primary has stored it. -/
def hiddenLossRecord : PacketRecord := makeRecord .primary 2 1 (payloadPacket 0x100 2 2).parse

/-- The law has an exception that a run reaches. -/
theorem drainIteration_hides_loss :
    delayQueueFront hiddenLossWorld.engine.primaryQueue = some hiddenLossRecord ∧
      hiddenLossRecord.transportError = false ∧
      (drainIteration (scriptedEnv [] 1) false hiddenLossWorld).1 = .next ∧
      ¬ Reported hiddenLossWorld (drainIteration (scriptedEnv [] 1) false hiddenLossWorld).2 := by
  refine ⟨by decide +kernel, by decide +kernel, by decide +kernel, fun hreported => ?_⟩
  obtain ⟨reason, hreason⟩ := hreported (by decide +kernel)
  have hnone : ∀ reason, (drainIteration (scriptedEnv [] 1) false
      hiddenLossWorld).2.stats.recoveryRejects reason =
        hiddenLossWorld.stats.recoveryRejects reason := by
    intro reason
    cases reason <;> decide +kernel
  have hcount := congrFun hreason reason
  rw [hnone, Function.update_self] at hcount
  omega

theorem drainIteration_reported_iff_hiddenLoss :
    Reported hiddenLossWorld (drainIteration (scriptedEnv [] 1) false hiddenLossWorld).2 ↔
      ¬ HiddenLoss hiddenLossWorld.engine hiddenLossRecord := by
  have hnext : (drainIteration (scriptedEnv [] 1) false hiddenLossWorld).1 = .next := by
    decide +kernel
  generalize hres : drainIteration (scriptedEnv [] 1) false hiddenLossWorld = res at hnext ⊢
  obtain ⟨iteration, w'⟩ := res
  obtain rfl : iteration = .next := hnext
  exact drainIteration_reported_iff (by decide +kernel) (by decide +kernel) hres

end TwoStream
