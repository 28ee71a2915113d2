import TwoStreamRecovery.Engine.Trace

/-!
# Collecting the after-anchors

* `IsCandidate`: a record of the secondary history that may be collected for a primary record.
* `findSecondaryBoundaryMatches_of_oneCopy`: where all of them have one index, at most one is
  collected; `findSecondaryBoundaryMatches_eq`: and one is where it lies in the range after the
  anchor.
* `releasePrimary_quiet`, `releasePrimary_mixed`: releases without an insertion, and with a mixed one.
-/

namespace TwoStream

variable {σ : Type}

/-! ### Collecting -/

/-- A record that the search for after-anchors may collect. -/
def IsCandidate (e : RecoveryEngine) (primary candidate : PacketRecord) : Prop :=
  packetHistoryFindIndex (e.history .secondary) candidate.streamIndex = some candidate ∧
    recordsExactNonErrorMatch primary candidate = true

/-- All candidates have one index. -/
def OneCopy (e : RecoveryEngine) (primary : PacketRecord) : Prop :=
  ∀ m m', IsCandidate e primary m → IsCandidate e primary m' → m.streamIndex = m'.streamIndex

/-- One index of a search. -/
def collectAt (history : PacketHistory) (primary : PacketRecord) (index : ℕ)
    (candidates : SecondaryAfterAnchorCandidates) : SecondaryAfterAnchorCandidates :=
  match packetHistoryFindIndex history index with
  | some candidate =>
    if recordsExactNonErrorMatch primary candidate then
      addSecondaryAfterAnchorCandidate candidates candidate
    else candidates
  | none => candidates

section Collect

variable {e : RecoveryEngine} {primary m : PacketRecord} {candidates : SecondaryAfterAnchorCandidates}

theorem collectCandidatesInRange_succ (history : PacketHistory) (n index : ℕ) :
    collectCandidatesInRange history primary (n + 1) index candidates =
      collectCandidatesInRange history primary n (index + 1)
        (collectAt history primary index candidates) := rfl

/-- **Rule of the search:** what each added candidate preserves, the search preserves. -/
theorem findSecondaryBoundaryMatches_rule {J : SecondaryAfterAnchorCandidates → Prop}
    (hadd : ∀ c m, IsCandidate e primary m → J c → J (addSecondaryAfterAnchorCandidate c m))
    (hempty : J ⟨[], false⟩) : J (findSecondaryBoundaryMatches e primary) := by
  have hat (index : ℕ) (c : SecondaryAfterAnchorCandidates) (hc : J c) :
      J (collectAt (e.history .secondary) primary index c) := by
    unfold collectAt
    split
    · next m hfind =>
      split
      · next hmatch =>
        have hm : IsCandidate e primary m := ⟨by rw [packetHistoryFindIndex_index hfind, hfind], hmatch⟩
        exact hadd c m hm hc
      · exact hc
    · exact hc
  have hrange (n index : ℕ) (c : SecondaryAfterAnchorCandidates) (hc : J c) :
      J (collectCandidatesInRange (e.history .secondary) primary n index c) := by
    induction n generalizing index c with
    | zero => exact hc
    | succ n ih => exact ih (index + 1) _ (hat index c hc)
  have haligned : J (alignedBoundaryMatches e primary ⟨[], false⟩) := by
    have hexact : J (if 0 ≤ (primary.streamIndex + e.alignment.offsetPackets : ℤ) then
        collectAt (e.history .secondary) primary
          (primary.streamIndex + e.alignment.offsetPackets : ℤ).toNat ⟨[], false⟩
        else ⟨[], false⟩) := by
      split
      · exact hat _ _ hempty
      · exact hempty
    unfold alignedBoundaryMatches
    split
    · exact hempty
    · simp only
      split
      · exact hrange _ _ _ hexact
      · exact hexact
  unfold findSecondaryBoundaryMatches anchoredBoundaryMatches
  split
  · exact hempty
  · split
    · exact haligned
    · exact hrange _ _ _ haligned

/-- What is collected was found and matches. -/
theorem isCandidate_of_mem (h : m ∈ (findSecondaryBoundaryMatches e primary).records) :
    IsCandidate e primary m := by
  refine findSecondaryBoundaryMatches_rule
    (J := fun c => ∀ m ∈ c.records, IsCandidate e primary m) ?_ (by simp) m h
  intro c m hm hc x hx
  unfold addSecondaryAfterAnchorCandidate at hx
  split_ifs at hx
  · exact hc x hx
  · exact hc x hx
  · rcases List.mem_append.mp hx with hx | hx
    · exact hc x hx
    · obtain rfl : x = m := by simpa using hx
      exact hm

/-- Null records have no candidates. -/
theorem findSecondaryBoundaryMatches_of_null (hnull : primary.isNull = true) :
    findSecondaryBoundaryMatches e primary = ⟨[], false⟩ := by
  rw [findSecondaryBoundaryMatches, hnull]
  rfl

/-- **One copy, one candidate.** -/
theorem findSecondaryBoundaryMatches_of_oneCopy (hone : OneCopy e primary) :
    (findSecondaryBoundaryMatches e primary).truncated = false ∧
      (findSecondaryBoundaryMatches e primary).records.length ≤ 1 := by
  suffices h : (findSecondaryBoundaryMatches e primary).truncated = false ∧
      ((findSecondaryBoundaryMatches e primary).records = [] ∨
        ∃ m, (findSecondaryBoundaryMatches e primary).records = [m] ∧ IsCandidate e primary m) by
    obtain ⟨hcomplete, hrecords | ⟨m, hrecords, -⟩⟩ := h
    · exact ⟨hcomplete, by simp [hrecords]⟩
    · exact ⟨hcomplete, by simp [hrecords]⟩
  refine findSecondaryBoundaryMatches_rule
    (J := fun c => c.truncated = false ∧
      (c.records = [] ∨ ∃ m, c.records = [m] ∧ IsCandidate e primary m)) ?_ (by simp)
  rintro c m hm ⟨hcomplete, hrecords | ⟨m', hrecords, hm'⟩⟩
  · refine ⟨?_, .inr ⟨m, ?_, hm⟩⟩
    · simp [addSecondaryAfterAnchorCandidate, hrecords, hcomplete]
    · simp [addSecondaryAfterAnchorCandidate, hrecords]
  · have hsame : addSecondaryAfterAnchorCandidate c m = c := by
      simp [addSecondaryAfterAnchorCandidate, hrecords, hone m' m hm' hm]
    rw [hsame]
    exact ⟨hcomplete, .inr ⟨m', hrecords, hm'⟩⟩

theorem addSecondaryAfterAnchorCandidate_ne_nil :
    (addSecondaryAfterAnchorCandidate candidates m).records ≠ [] := by
  unfold addSecondaryAfterAnchorCandidate
  by_cases hany : candidates.records.any (fun r => r.streamIndex == m.streamIndex) = true
  · rw [if_pos hany]
    intro h
    simp [h] at hany
  · rw [if_neg hany]
    by_cases hfull : 64 ≤ candidates.records.length
    · rw [if_pos hfull]
      intro h
      simp only at h
      simp [h] at hfull
    · rw [if_neg hfull]
      simp

theorem collectAt_ne_nil {history : PacketHistory} {index : ℕ} (h : candidates.records ≠ []) :
    (collectAt history primary index candidates).records ≠ [] := by
  unfold collectAt
  split
  · split
    · exact addSecondaryAfterAnchorCandidate_ne_nil
    · exact h
  · exact h

/-- A search does not lose what was collected, and collects what it comes across. -/
theorem collectCandidatesInRange_ne_nil {n index : ℕ}
    (h : candidates.records ≠ [] ∨
      ∃ m, IsCandidate e primary m ∧ index ≤ m.streamIndex ∧ m.streamIndex < index + n) :
    (collectCandidatesInRange (e.history .secondary) primary n index candidates).records ≠ [] := by
  induction n generalizing index candidates with
  | zero =>
    rcases h with h | ⟨m, -, h1, h2⟩
    · exact h
    · omega
  | succ n ih =>
    rw [collectCandidatesInRange_succ]
    apply ih
    rcases h with h | ⟨m, hm, h1, h2⟩
    · exact .inl (collectAt_ne_nil h)
    · by_cases hhere : m.streamIndex = index
      · left
        obtain ⟨hfind, hmatch⟩ := hm
        rw [collectAt, ← hhere, hfind]
        simp only
        rw [if_pos hmatch]
        exact addSecondaryAfterAnchorCandidate_ne_nil
      · exact .inr ⟨m, hm, by omega, by omega⟩

/-- **The range after the anchor is searched:** a copy no further than the burst limit behind the
primary record's own distance from the anchor is collected. -/
theorem findSecondaryBoundaryMatches_eq (hone : OneCopy e primary) (hm : IsCandidate e primary m)
    (hnull : primary.isNull = false) (hclean : primary.Clean)
    (hvalid : e.lastPrimaryAnchor.valid = true)
    (hprimary : e.lastPrimaryAnchor.primaryIndex < primary.streamIndex)
    (hafter : e.lastPrimaryAnchor.secondaryIndex < m.streamIndex)
    (hnear : secondaryBetween e m ≤ primaryBetween e primary + e.config.maxContentBurstPackets) :
    findSecondaryBoundaryMatches e primary = ⟨[m], false⟩ := by
  obtain ⟨hcomplete, hlength⟩ := findSecondaryBoundaryMatches_of_oneCopy hone
  have hsome : (findSecondaryBoundaryMatches e primary).records ≠ [] := by
    rw [findSecondaryBoundaryMatches, hnull, hclean.1, hclean.2, if_neg (by simp),
      anchoredBoundaryMatches, if_neg (by simp [hvalid, hprimary])]
    apply collectCandidatesInRange_ne_nil
    refine .inr ⟨m, hm, by omega, ?_⟩
    simp only [secondaryBetween, primaryBetween] at hnear
    split <;> omega
  have hpos := List.length_pos_iff.mpr hsome
  obtain ⟨m', hrecords⟩ := List.length_eq_one_iff.mp (Nat.le_antisymm hlength hpos)
  have hm' : IsCandidate e primary m' := isCandidate_of_mem (by rw [hrecords]; simp)
  have hfind := hm'.1
  rw [hone m' m hm' hm, hm.1] at hfind
  rw [Option.some.inj hfind, ← hrecords, ← hcomplete]

end Collect

/-! ### Recoveries that stand back -/

/-- The validator finds nothing to recover and nothing to report. -/
def CandidateValidation.Quiet (validation : CandidateValidation) : Prop :=
  validation.valid = false ∧ validation.rejectReason = .missingCandidate

section Quiet

variable {e : RecoveryEngine} {primary m : PacketRecord} {candidates : SecondaryAfterAnchorCandidates}
  {L : List PacketRecord}

/-- In a window that is not longer on the secondary there is nothing to recover by position. -/
theorem validatePosition_quiet
    (h : noGapWindow e primary m = true ∨ secondaryBetween e m ≤ primaryBetween e primary) :
    (validateNullPositionCandidate e primary m).Quiet ∧
      (validateMixedPositionCandidate e primary m).Quiet := by
  simp only [validateNullPositionCandidate, validateMixedPositionCandidate]
  by_cases hw : noGapWindow e primary m = true
  · rw [if_pos hw, if_pos hw]
    exact ⟨⟨rfl, rfl⟩, rfl, rfl⟩
  · rw [if_neg hw, if_neg hw]
    rw [if_pos (h.resolve_left hw), if_pos (h.resolve_left hw)]
    exact ⟨⟨rfl, rfl⟩, rfl, rfl⟩

theorem scanNullRegion_eq_notNull {history : PacketHistory} {index : ℕ}
    (hrange : HistoryRange history index L) (hclean : ∀ r ∈ L, r.Clean)
    (hcontent : ∃ r ∈ L, r.isNull = false) :
    scanNullRegion history L.length index = .notNull := by
  induction L generalizing index with
  | nil => simp at hcontent
  | cons r rest ih =>
    obtain ⟨hfind, hrest⟩ := hrange
    have hr := hclean r List.mem_cons_self
    rw [List.length_cons, scanNullRegion, hfind]
    simp only
    cases hnull : r.isNull with
    | false => rfl
    | true =>
      have hcontent : ∃ x ∈ rest, x.isNull = false := by
        obtain ⟨x, hx, hxn⟩ := hcontent
        rcases List.mem_cons.mp hx with rfl | hx
        · rw [hnull] at hxn
          cases hxn
        · exact ⟨x, hx, hxn⟩
      simp only [Bool.not_true, Bool.false_eq_true, if_false, hr.1, hr.2]
      exact ih hrest (fun x hx => hclean x (List.mem_cons_of_mem _ hx)) hcontent

/-- Where the mixed recovery has its evidence, the null recovery stands back. -/
theorem validateNullPositionCandidate_quiet (h : GapEvidence e primary m .mixedPosition L) :
    (validateNullPositionCandidate e primary m).Quiet := by
  obtain ⟨hw, hmax, hconf, hbefore, hafter, hclean, hplan⟩ := h
  cases hplan with
  | mixedPosition longer samePrefix range length content fits =>
    have hscan := scanNullRegion_eq_notNull range hclean content
    rw [length] at hscan
    simp only [validateNullPositionCandidate]
    rw [if_neg (by simp [hw]), if_neg (by omega), if_neg (by omega), if_neg (by omega),
      if_neg (by simp [hbefore]), if_neg (by simp [hafter]), if_neg (by simp [samePrefix]), hscan]
    exact ⟨rfl, rfl⟩

theorem scanCandidates_quiet {validate : PacketRecord → CandidateValidation}
    {records : List PacketRecord} (h : ∀ r ∈ records, (validate r).Quiet)
    (best : CandidateValidation) (hbest : best.rejectReason = .missingCandidate) :
    ∃ b, scanCandidates validate records none best = .done none b ∧
      b.rejectReason = .missingCandidate := by
  induction records generalizing best with
  | nil => exact ⟨best, rfl, hbest⟩
  | cons r rest ih =>
    obtain ⟨hvalid, hreason⟩ := h r List.mem_cons_self
    have hrest := fun x hx => h x (List.mem_cons_of_mem r hx)
    simp only [scanCandidates, hvalid, Bool.false_eq_true, if_false]
    split
    · exact ih hrest _ hreason
    · exact ih hrest best hbest

theorem tryUniqueCandidateRecovery_quiet {w : World σ}
    {validator : RecoveryEngine → PacketRecord → PacketRecord → CandidateValidation}
    {recover : World σ → PacketRecord → PacketRecord → Decision × World σ}
    (hcomplete : candidates.truncated = false)
    (h : ∀ r ∈ candidates.records, (validator w.engine primary r).Quiet) :
    tryUniqueCandidateRecovery w primary candidates validator recover false = (.none, w) := by
  obtain ⟨b, hscan, hb⟩ := scanCandidates_quiet h
    ⟨false, .missingCandidate, some .missingCandidate, 0, false⟩ rfl
  simp only [tryUniqueCandidateRecovery]
  rw [if_neg (by simp [hcomplete]), hscan]
  simp [validationRejectIsDefinitive, hb]

/-- A quiet stage leaves everything as it is. -/
theorem gapStage_quiet {s : Release σ} {onlyMisfit : Bool}
    {validator : RecoveryEngine → PacketRecord → PacketRecord → CandidateValidation}
    {recover : World σ → PacketRecord → PacketRecord → Decision × World σ}
    (hcomplete : candidates.truncated = false)
    (h : ∀ r ∈ candidates.records, (validator s.world.engine primary r).Quiet) :
    s.gapStage primary candidates validator recover false onlyMisfit = .ok s := by
  unfold Release.gapStage
  split
  · rw [tryUniqueCandidateRecovery_quiet hcomplete h]
    rfl
  · rfl

/-- The exact recovery is for records that do not fit. -/
theorem gapStage_fits {s : Release σ} {logNoValid : Bool}
    {validator : RecoveryEngine → PacketRecord → PacketRecord → CandidateValidation}
    {recover : World σ → PacketRecord → PacketRecord → Decision × World σ}
    (h : s.primaryFits = true) :
    s.gapStage primary candidates validator recover logNoValid true = .ok s := by
  rw [Release.gapStage, if_neg (by simp [h])]

end Quiet

/-! ### Two releases -/

section Release

variable {env : Env σ} {primary m : PacketRecord} {w : World σ} {L : List PacketRecord}

/-- The world after a record that was sent from the state `w'`. -/
def finishRelease (primary : PacketRecord) (w w' : World σ) : World σ :=
  popPrimary (updatePrimaryAnchor (acceptRecord .passThrough w' primary) primary
    (releaseAnchor (openRelease primary w).engine primary))

theorem sentRecords_map_sent {route : Route} (L : List PacketRecord) :
    sentRecords (L.map (.sent route)) = L := by
  rw [sentRecords, sentEvents_map_sent, List.map_map]
  exact List.map_id L

theorem finishRelease_sentRecords (w w' : World σ) :
    sentRecords (finishRelease primary w w').trace = sentRecords w'.trace ++ [primary] := by
  obtain ⟨l, ht, hl⟩ := updatePrimaryAnchor_trace (acceptRecord .passThrough w' primary) primary
    (releaseAnchor (openRelease primary w).engine primary)
  have hnotes : sentEvents l = [] := sentEvents_of_notes fun ev hev => by
    obtain ⟨old, new, rfl⟩ := hl ev hev
    trivial
  simp only [finishRelease, popPrimary]
  rw [ht, acceptRecord_trace, sentRecords_append, sentRecords_append, sentRecords, sentRecords,
    sentRecords, hnotes]
  simp

theorem finishRelease_stats (w w' : World σ) :
    (finishRelease primary w w').stats =
      acceptStats (w'.engine.outputPidState primary.pid) primary w'.stats := by
  simp only [finishRelease, popPrimary, updatePrimaryAnchor_stats, acceptRecord_stats]

/-- The anchor after a record has been sent. -/
theorem finishRelease_anchor (w w' : World σ) :
    (finishRelease primary w w').engine.lastPrimaryAnchor =
      nextAnchor w'.engine.lastPrimaryAnchor primary (releaseAnchor (openRelease primary w).engine primary) := by
  simp only [finishRelease, popPrimary, updatePrimaryAnchor_engine, acceptRecord_engine]

/-- A null record leaves the anchor alone. -/
theorem finishRelease_anchor_of_null (hnull : primary.isNull = true) (w w' : World σ) :
    (finishRelease primary w w').engine.lastPrimaryAnchor = w'.engine.lastPrimaryAnchor := by
  rw [finishRelease_anchor]
  cases releaseAnchor (openRelease primary w).engine primary with
  | none => rfl
  | some m => rw [nextAnchor, if_pos (by simp [hnull])]

/-- A content record is anchored to its only candidate. -/
theorem nextAnchor_of_candidate {e : RecoveryEngine} (old : PrimaryAnchor)
    (hcandidate : findSecondaryBoundaryMatches e primary = ⟨[m], false⟩)
    (hafter : afterAnchorHolds primary m = true) :
    nextAnchor old primary (releaseAnchor e primary) = ⟨true, primary.streamIndex, m.streamIndex⟩ := by
  have htaken : releaseAnchor e primary = some m := by
    rw [releaseAnchor, hcandidate]
    rfl
  simp only [afterAnchorHolds, Bool.and_eq_true, Bool.not_eq_true'] at hafter
  rw [htaken, nextAnchor, if_neg (by simp [hafter])]

theorem finishRelease_anchor_of_candidate
    (hcandidate : findSecondaryBoundaryMatches w.engine primary = ⟨[m], false⟩)
    (hafter : afterAnchorHolds primary m = true) (w' : World σ) :
    (finishRelease primary w w').engine.lastPrimaryAnchor = ⟨true, primary.streamIndex, m.streamIndex⟩ := by
  have hopen : findSecondaryBoundaryMatches (openRelease primary w).engine primary = ⟨[m], false⟩ :=
    hcandidate
  rw [finishRelease_anchor, nextAnchor_of_candidate _ hopen hafter]

/-- **A release without an insertion.** -/
theorem releasePrimary_quiet (hacc : env.Accepting) (hundamaged : primary.transportError = false)
    (hfits : recordFitsNextOutput w.engine primary = true)
    (hcomplete : (findSecondaryBoundaryMatches w.engine primary).truncated = false)
    (hquiet : ∀ r ∈ (findSecondaryBoundaryMatches w.engine primary).records,
      (validateNullPositionCandidate (openRelease primary w).engine primary r).Quiet ∧
        (validateMixedPositionCandidate (openRelease primary w).engine primary r).Quiet) :
    ∃ s, releasePrimary env primary w =
      (.next, finishRelease primary w { openRelease primary w with sinkState := s }) := by
  obtain ⟨s, hsent⟩ := outputRecord_accepting hacc .passThrough (openRelease primary w) primary
  refine ⟨s, ?_⟩
  have hrecover : recoverBefore env primary (findSecondaryBoundaryMatches w.engine primary)
      ⟨openRelease primary w, recordFitsNextOutput w.engine primary, false, false⟩ =
      .ok ⟨openRelease primary w, recordFitsNextOutput w.engine primary, false, false⟩ := by
    simp only [recoverBefore, bind, Except.bind]
    rw [gapStage_quiet hcomplete fun r hr => (hquiet r hr).1]
    simp only
    rw [gapStage_quiet hcomplete fun r hr => (hquiet r hr).2]
    simp only
    exact gapStage_fits hfits
  rw [releasePrimary_undamaged env w hundamaged, hrecover]
  simp only [afterGaps, sendPrimary, hfits, Bool.not_true, Bool.false_and, Bool.false_eq_true, if_false, hsent]
  rfl

/-- **A release with a mixed insertion.** -/
theorem releasePrimary_mixed (hacc : env.Accepting) (hundamaged : primary.transportError = false)
    (hunique : findSecondaryBoundaryMatches w.engine primary = ⟨[m], false⟩)
    (hevidence : GapEvidence (openRelease primary w).engine primary m .mixedPosition L) :
    ∃ previousCc decision s, releasePrimary env primary w =
      (.next, finishRelease primary w
        { gapBurst .mixedPosition L.length
            (acceptAll (.gap .mixedPosition primary m) (gapNullFlag .mixedPosition)
              (gapLogged (openRelease primary w) primary L.length previousCc decision) L) with
          sinkState := s }) := by
  have hopen : findSecondaryBoundaryMatches (openRelease primary w).engine primary = ⟨[m], false⟩ :=
    hunique
  have hcandidate : UniqueCandidate (openRelease primary w).engine primary m .mixedPosition := by
    refine ⟨by rw [hopen], ?_⟩
    have hvalid := gapValidator_valid_iff.mpr ⟨L, hevidence⟩
    rw [acceptedCandidates, hopen]
    simp [hvalid]
  have hanchor : (openRelease primary w).engine.lastPrimaryAnchor.valid = true :=
    (noGapWindow_eq_false_iff.mp hevidence.window).2.2.1
  obtain ⟨previousCc, decision, hrecover⟩ :=
    ((gapRecovery_eq env hevidence).resolve_left fun hskip => by simp at hskip).2
  obtain ⟨s, hinsert⟩ := insertAll_accepting hacc (.gap .mixedPosition primary m)
    (gapNullFlag .mixedPosition) L
    (gapLogged (openRelease primary w) primary L.length previousCc decision)
  -- the null recovery stands back, the mixed one sends, the exact one finds the decision logged
  have hnull : (⟨openRelease primary w, recordFitsNextOutput w.engine primary, false, false⟩ :
      Release σ).gapStage primary (findSecondaryBoundaryMatches w.engine primary)
      validateNullPositionCandidate (tryRecoverNullPositionGap env) false false =
      .ok ⟨openRelease primary w, recordFitsNextOutput w.engine primary, false, false⟩ := by
    apply gapStage_quiet
    · rw [hunique]
    · rw [hunique]
      intro r hr
      obtain rfl : r = m := by simpa using hr
      exact validateNullPositionCandidate_quiet hevidence
  have hmixed : (⟨openRelease primary w, recordFitsNextOutput w.engine primary, false, false⟩ :
      Release σ).gapStage primary (findSecondaryBoundaryMatches w.engine primary)
      validateMixedPositionCandidate (tryRecoverMixedPositionGap env) false false =
      (⟨openRelease primary w, recordFitsNextOutput w.engine primary, false, false⟩ :
        Release σ).afterRecovery primary
        (finishGap .mixedPosition L.length
          (insertAll env (.gap .mixedPosition primary m) (gapNullFlag .mixedPosition) L
            (gapLogged (openRelease primary w) primary L.length previousCc decision))) := by
    rw [Release.gapStage, if_pos (by simp [hanchor, hunique])]
    congr 1
    exact (tryUniqueCandidateRecovery_of_unique hcandidate).trans hrecover
  obtain ⟨s', hsent⟩ := outputRecord_accepting hacc .passThrough
    (gapBurst .mixedPosition L.length
      { acceptAll (.gap .mixedPosition primary m) (gapNullFlag .mixedPosition)
          (gapLogged (openRelease primary w) primary L.length previousCc decision) L with
        sinkState := s }) primary
  refine ⟨previousCc, decision, s', ?_⟩
  rw [releasePrimary_undamaged env w hundamaged]
  simp only [recoverBefore, bind, Except.bind, hnull, hmixed, hinsert, finishGap,
    Release.afterRecovery]
  rw [gapStage_logged rfl]
  simp only [afterGaps, sendPrimary, Bool.not_true, Bool.and_false, Bool.false_eq_true, if_false, hsent]
  simp only [finishRelease, gapBurst, countContentBurst]
  split <;> rfl

end Release

end TwoStream
