import TwoStreamRecovery.Reporting

/-!
# Dry runs and recoveries agree

* `StandsBack`: what a recovery does without its validator's approval; it sends nothing.
* `content_recovery_agrees`: with the approval, the recovery sends exactly the validated records.
* `content_recovery_clean`: what a recovery sends, and the record after it, is no continuity fault.
-/

namespace TwoStream

variable {σ : Type} {env : Env σ} {w w' : World σ} {primary secondaryMatch : PacketRecord}

/-! ### Recoveries that were not validated -/

/-- A recovery that sends nothing: it abstains, or logs one rejection. -/
def StandsBack (w : World σ) (primary : PacketRecord) (res : Decision × World σ) : Prop :=
  res = (.none, w) ∨ ∃ previousCc missingCount candidate before after rejectReason reason,
    res = (.rejected,
      recoveryRejectLog w primary previousCc missingCount candidate before after rejectReason reason)

theorem standsBack_ite {c : Prop} [Decidable c] {a b : Decision × World σ}
    (ha : c → StandsBack w primary a) (hb : ¬ c → StandsBack w primary b) :
    StandsBack w primary (if c then a else b) := by
  split_ifs with h
  · exact ha h
  · exact hb h

theorem tryRecoverMixedPositionGap_of_invalid (env : Env σ)
    (h : (validateMixedPositionCandidate w.engine primary secondaryMatch).valid = false) :
    StandsBack w primary (tryRecoverMixedPositionGap env w primary secondaryMatch) := by
  have hnone : ∀ L, ¬ GapEvidence w.engine primary secondaryMatch .mixedPosition L := by
    intro L hevidence
    rw [validateMixedPositionCandidate_valid_iff.mpr ⟨L, hevidence⟩] at h
    cases h
  simp only [tryRecoverMixedPositionGap]
  split_ifs with hw hlong hmax hconf hbefore hafter hprefix
  · exact .inl rfl
  · exact .inl rfl
  · exact .inr ⟨_, _, _, _, _, _, _, rfl⟩
  · exact .inr ⟨_, _, _, _, _, _, _, rfl⟩
  · exact .inr ⟨_, _, _, _, _, _, _, rfl⟩
  · exact .inr ⟨_, _, _, _, _, _, _, rfl⟩
  · exact .inl rfl
  · cases hscan : scanMixedRegion (w.engine.history .secondary)
        (missingPackets w.engine primary secondaryMatch) (firstCandidateIndex w.engine primary)
        (.start w.engine) with
    | error r => exact .inr ⟨_, _, _, _, _, _, _, rfl⟩
    | ok s =>
      simp only
      by_cases hcontent : s.sawContent = true
      · by_cases hfit : recordFitsOutputStates s.states primary = true
        · -- all checks passed: this is the validator's evidence
          obtain ⟨L, hlen, hrange, hclean, hfits, rfl⟩ := scanMixedRegion_eq_ok_iff.mp hscan
          rw [foldl_observe_sawContent] at hcontent
          rw [foldl_observe_states] at hfit
          refine absurd ?_ (hnone L)
          exact ⟨by simpa using hw, by omega, by omega, by simpa using hbefore, by simpa using hafter,
            hclean, .mixedPosition (by omega) (by simpa using hprefix) hrange hlen
              (by simpa [MixedScan.start] using hcontent)
              (fitsInTurn_append.mpr ⟨hfits, by simpa [MixedScan.start] using hfit, trivial⟩)⟩
        · rw [if_neg (by simp [hcontent]), if_pos (by simp [hfit])]
          exact .inr ⟨_, _, _, _, _, _, _, rfl⟩
      · rw [if_pos (by simp [hcontent])]
        exact .inl rfl

theorem tryRecoverExactContentGap_of_invalid (env : Env σ)
    (h : (validateExactContentCandidate w.engine primary secondaryMatch).valid = false) :
    StandsBack w primary (tryRecoverExactContentGap env w primary secondaryMatch) := by
  have hnone : ∀ L, ¬ GapEvidence w.engine primary secondaryMatch .exactContent L := by
    intro L hevidence
    rw [validateExactContentCandidate_valid_iff.mpr ⟨L, hevidence⟩] at h
    cases h
  simp only [tryRecoverExactContentGap]
  refine standsBack_ite (fun _ => .inl rfl) fun hw => ?_
  refine standsBack_ite (fun _ => .inl rfl) fun hshort => ?_
  refine standsBack_ite (fun _ => .inl rfl) fun hfit => ?_
  split
  · next previousCc n hprevious hcount =>
    refine standsBack_ite (fun _ => .inl rfl) fun hzero => ?_
    refine standsBack_ite (fun _ => .inr ⟨_, _, _, _, _, _, _, rfl⟩) fun hmax => ?_
    refine standsBack_ite (fun _ => .inr ⟨_, _, _, _, _, _, _, rfl⟩) fun hconf => ?_
    refine standsBack_ite (fun _ => .inr ⟨_, _, _, _, _, _, _, rfl⟩) fun hbefore => ?_
    refine standsBack_ite (fun _ => .inr ⟨_, _, _, _, _, _, _, rfl⟩) fun hafter => ?_
    cases hscan : scanExactContent w.engine primary secondaryMatch previousCc n 0 with
    | error r => exact .inr ⟨_, _, _, _, _, _, _, rfl⟩
    | ok L =>
      cases hstates : checkExactStates primary L w.engine.outputPidState with
      | some r =>
        simp only [hstates]
        exact .inr ⟨_, _, _, _, _, _, _, rfl⟩
      | none =>
        -- all checks passed: this is the validator's evidence
        obtain ⟨hlen, hchosen⟩ := scanExactContent_eq_ok hscan
        subst hlen
        have hw' : noGapWindow w.engine primary secondaryMatch = false := by simpa using hw
        have hclean : ∀ r ∈ L, r.Clean := by
          intro r hr
          obtain ⟨i, hi⟩ := List.getElem?_of_mem hr
          exact (chooseMissingCandidate_eq_ok hw' (hchosen i r hi)).2.2.2.2.1
        refine absurd ?_ (hnone L)
        exact ⟨hw', by omega, by omega, by simpa using hbefore, by simpa using hafter, hclean,
          .exactContent (by omega) (by simpa using hfit) hprevious hcount (by simpa using hzero)
            hscan (checkExactStates_eq_none_iff.mp hstates)⟩
  · exact .inl rfl

theorem StandsBack.sends_nothing {res : Decision × World σ} (h : StandsBack w primary res) :
    res.1 ≠ .inserted ∧ sentEvents res.2.trace = sentEvents w.trace := by
  rcases h with rfl | ⟨previousCc, missingCount, candidate, before, after, rejectReason, reason, rfl⟩
  · exact ⟨by simp, rfl⟩
  · exact ⟨by simp, (recoveryRejectLog_sameOutput _ _ _ _ _ _ _ _).sent⟩

/-! ### Agreement -/

/-- The records of a validated window: the stretch behind the matched prefix, or one record for each
missing counter. -/
def Validated (e : RecoveryEngine) (primary secondaryMatch : PacketRecord) :
    GapKind → List PacketRecord → Prop
  | .exactContent, L => ∃ previousCc, previousOutputCcForRecord e primary = some previousCc ∧
      ccMissingCount e primary secondaryMatch = some L.length ∧
      ∀ i r, L[i]? = some r →
        chooseMissingCandidate e primary secondaryMatch ((previousCc + 1 + i) % 16) = .ok r
  | _, L => L.length = missingPackets e primary secondaryMatch ∧
      HistoryRange (e.history .secondary) (firstCandidateIndex e primary) L

/-- The recovery does what its dry run says. -/
structure Agrees (w : World σ) (primary secondaryMatch : PacketRecord) (kind : GapKind)
    (validation : CandidateValidation) (res : Decision × World σ) : Prop where
  valid : validation.valid = true → ∃ L, Validated w.engine primary secondaryMatch kind L ∧
    validation.missingPackets = L.length ∧ res.1 = .inserted ∧
    sentEvents res.2.trace = sentEvents w.trace ++ gapSent kind primary secondaryMatch L ∧
    res.2.stats.recoveryRejects = w.stats.recoveryRejects
  invalid : validation.valid = false →
    res.1 ≠ .inserted ∧ sentEvents res.2.trace = sentEvents w.trace

theorem GapEvidence.validated {kind : GapKind} {L : List PacketRecord}
    (h : GapEvidence w.engine primary secondaryMatch kind L) :
    Validated w.engine primary secondaryMatch kind L := by
  cases h.plan with
  | nullPosition longer samePrefix range length null => exact ⟨length, range⟩
  | mixedPosition longer samePrefix range length content fits => exact ⟨length, range⟩
  | @exactContent _ previousCc notShorter misfit previous count nonempty chosen fits =>
    refine ⟨previousCc, previous, count, fun i r hr => ?_⟩
    have h := (scanExactContent_eq_ok chosen).2 i r hr
    rwa [Nat.zero_add] at h

/-- The count a validator reports is the length of what it has validated. -/
theorem GapEvidence.missingPackets_eq {kind : GapKind} {L : List PacketRecord}
    (h : GapEvidence w.engine primary secondaryMatch kind L) :
    (gapValidator kind w.engine primary secondaryMatch).missingPackets = L.length := by
  obtain ⟨hw, hmax, hconf, hbefore, hafter, hclean, hplan⟩ := h
  cases hplan with
  | nullPosition longer samePrefix range length null =>
    simp only [gapValidator, validateNullPositionCandidate]
    rw [if_neg (by simp [hw]), if_neg (by omega), if_neg (by omega), if_neg (by omega),
      if_neg (by simp [hbefore]), if_neg (by simp [hafter]), if_neg (by simp [samePrefix])]
    split <;> exact length.symm
  | mixedPosition longer samePrefix range length content fits =>
    simp only [gapValidator, validateMixedPositionCandidate]
    rw [if_neg (by simp [hw]), if_neg (by omega), if_neg (by omega), if_neg (by omega),
      if_neg (by simp [hbefore]), if_neg (by simp [hafter]), if_neg (by simp [samePrefix])]
    split
    · exact length.symm
    · split_ifs <;> exact length.symm
  | @exactContent _ previousCc notShorter misfit previous count nonempty chosen fits =>
    simp only [gapValidator, validateExactContentCandidate]
    rw [if_neg (by simp [hw]), if_neg (by omega), if_neg (by simp [misfit]), previous, count]
    simp only
    rw [if_neg (by simpa using nonempty), if_neg (by omega), if_neg (by omega),
      if_neg (by simp [hbefore]), if_neg (by simp [hafter]), chosen]
    simp only
    split <;> rfl

/-- On evidence, and where the null recovery acts, a recovery sends the validated records. -/
theorem gapRecovery_of_valid (hacc : env.Accepting) {kind : GapKind}
    (hkind : kind = .nullPosition → primaryBetween w.engine primary = 0)
    (h : (gapValidator kind w.engine primary secondaryMatch).valid = true) :
    ∃ L previousCc decision s, GapEvidence w.engine primary secondaryMatch kind L ∧
      gapRecovery env kind w primary secondaryMatch =
        (.inserted, gapBurst kind L.length
          { acceptAll (.gap kind primary secondaryMatch) (gapNullFlag kind)
              (gapLogged w primary L.length previousCc decision) L with sinkState := s }) := by
  obtain ⟨L, hevidence⟩ := gapValidator_valid_iff.mp h
  rcases gapRecovery_eq env hevidence with ⟨hnull, hbetween, -⟩ | ⟨-, previousCc, decision, hrecover⟩
  · exact absurd (hkind hnull) hbetween
  · obtain ⟨s, hinsert⟩ := insertAll_accepting hacc (.gap kind primary secondaryMatch)
      (gapNullFlag kind) L (gapLogged w primary L.length previousCc decision)
    refine ⟨L, previousCc, decision, s, hevidence, ?_⟩
    rw [gapLogged] at hinsert
    rw [hrecover, hinsert]
    rfl

theorem agrees_of_kind (hacc : env.Accepting) (kind : GapKind) (hkind : kind ≠ .nullPosition)
    (hinvalid : (gapValidator kind w.engine primary secondaryMatch).valid = false →
      StandsBack w primary (gapRecovery env kind w primary secondaryMatch)) :
    Agrees w primary secondaryMatch kind (gapValidator kind w.engine primary secondaryMatch)
      (gapRecovery env kind w primary secondaryMatch) := by
  refine ⟨fun h => ?_, fun h => (hinvalid h).sends_nothing⟩
  obtain ⟨L, previousCc, decision, s, hevidence, hrecover⟩ :=
    gapRecovery_of_valid hacc (fun hnull => absurd hnull hkind) h
  obtain ⟨d, hd⟩ := gapLogged_trace w primary L.length previousCc decision
  refine ⟨L, hevidence.validated, hevidence.missingPackets_eq, by rw [hrecover], ?_, ?_⟩
  · rw [hrecover, gapBurst_trace, acceptAll_trace, hd, sentEvents_append, sentEvents_append,
      sentEvents_map_sent]
    exact congrArg (· ++ _) (List.append_nil _)
  · rw [hrecover, (gapBurst_counts kind L.length _).2]
    exact acceptAll_rejects L

/-- **Content validators and content recoveries agree,** in every state of the engine. -/
theorem content_recovery_agrees (hacc : env.Accepting) (w : World σ)
    (primary secondaryMatch : PacketRecord) :
    Agrees w primary secondaryMatch .mixedPosition
        (validateMixedPositionCandidate w.engine primary secondaryMatch)
        (tryRecoverMixedPositionGap env w primary secondaryMatch) ∧
      Agrees w primary secondaryMatch .exactContent
        (validateExactContentCandidate w.engine primary secondaryMatch)
        (tryRecoverExactContentGap env w primary secondaryMatch) :=
  ⟨agrees_of_kind hacc .mixedPosition (by simp) (tryRecoverMixedPositionGap_of_invalid env),
    agrees_of_kind hacc .exactContent (by simp) (tryRecoverExactContentGap_of_invalid env)⟩

/-- The copy of the record that waits in `gapWorld`. -/
def gapMatch : PacketRecord := makeRecord .secondary 2 8 (payloadPacket 0x100 2 2).parse

/-- Both dry runs accept the copy and both recoveries insert. -/
theorem gapWorld_accepted :
    ((validateMixedPositionCandidate gapWorld.engine gapPrimary gapMatch).valid = true ∧
      (validateExactContentCandidate gapWorld.engine gapPrimary gapMatch).valid = true) ∧
    (tryRecoverMixedPositionGap gapEnv gapWorld gapPrimary gapMatch).1 = .inserted ∧
    (tryRecoverExactContentGap gapEnv gapWorld gapPrimary gapMatch).1 = .inserted := by
  decide +kernel

theorem content_recovery_agrees_gapWorld :
    (validateMixedPositionCandidate gapWorld.engine gapPrimary gapMatch).valid = true ∧
      (validateExactContentCandidate gapWorld.engine gapPrimary gapMatch).valid = true ∧
      Agrees gapWorld gapPrimary gapMatch .mixedPosition
        (validateMixedPositionCandidate gapWorld.engine gapPrimary gapMatch)
        (tryRecoverMixedPositionGap gapEnv gapWorld gapPrimary gapMatch) ∧
      Agrees gapWorld gapPrimary gapMatch .exactContent
        (validateExactContentCandidate gapWorld.engine gapPrimary gapMatch)
        (tryRecoverExactContentGap gapEnv gapWorld gapPrimary gapMatch) :=
  ⟨gapWorld_accepted.1.1, gapWorld_accepted.1.2,
    content_recovery_agrees (scriptedEnv_accepting _ _) gapWorld gapPrimary gapMatch⟩

/-! ### Continuity of what is sent -/

/-- What a recovery has sent, and then the released record, is no fault. -/
theorem gapRecovery_clean (hacc : env.Accepting) (kind : GapKind) (hkind : kind ≠ .nullPosition)
    (hinvalid : (gapValidator kind w.engine primary secondaryMatch).valid = false →
      StandsBack w primary (gapRecovery env kind w primary secondaryMatch))
    (hinserted : gapRecovery env kind w primary secondaryMatch = (.inserted, w')) :
    (outputRecord env .passThrough w' primary).2.stats.faults = w.stats.faults := by
  have hvalid : (gapValidator kind w.engine primary secondaryMatch).valid = true := by
    by_contra hnot
    refine (hinvalid (by simpa using hnot)).sends_nothing.1 ?_
    rw [hinserted]
  obtain ⟨L, previousCc, decision, s, hevidence, hrecover⟩ :=
    gapRecovery_of_valid hacc (fun hnull => absurd hnull hkind) hvalid
  have hfits : FitsInTurn w.engine.outputPidState (L ++ [primary]) := by
    cases hevidence.plan with
    | nullPosition longer samePrefix range length null => exact absurd rfl hkind
    | mixedPosition longer samePrefix range length content fits => exact fits
    | exactContent notShorter misfit previous count nonempty chosen fits => exact fits
  obtain ⟨hL, hlast, -⟩ := fitsInTurn_append.mp hfits
  rw [foldl_observeOutputStates hevidence.clean] at hlast
  obtain rfl : _ = w' := congrArg Prod.snd (hrecover.symm.trans hinserted)
  obtain ⟨s', hsent⟩ := outputRecord_accepting hacc .passThrough
    (gapBurst kind L.length
      { acceptAll (.gap kind primary secondaryMatch) (gapNullFlag kind)
          (gapLogged w primary L.length previousCc decision) L with sinkState := s }) primary
  have hstates : (gapBurst kind L.length
      { acceptAll (.gap kind primary secondaryMatch) (gapNullFlag kind)
          (gapLogged w primary L.length previousCc decision) L with
        sinkState := s }).engine.outputPidState =
      L.foldl outputStatesAfter w.engine.outputPidState := by
    rw [gapBurst_engine]
    exact congrArg RecoveryEngine.outputPidState (acceptAll_engine _ _ _ L)
  rw [hsent, acceptRecord_stats]
  simp only [hstates]
  rw [acceptStats_faults hlast, (gapBurst_counts kind L.length _).1]
  exact acceptAll_faults (w := gapLogged w primary L.length previousCc decision) hL hevidence.clean

/-- **Content recovery leaves clean continuity,** in every state of the engine. -/
theorem content_recovery_clean (hacc : env.Accepting) (w w' : World σ)
    (primary secondaryMatch : PacketRecord) :
    (tryRecoverMixedPositionGap env w primary secondaryMatch = (.inserted, w') →
        (outputRecord env .passThrough w' primary).2.stats.faults = w.stats.faults) ∧
      (tryRecoverExactContentGap env w primary secondaryMatch = (.inserted, w') →
        (outputRecord env .passThrough w' primary).2.stats.faults = w.stats.faults) ∧
      (tryRecoverPrimaryTeiPacket env w primary = (.inserted, w') →
        w'.stats.faults = w.stats.faults) := by
  refine ⟨?_, ?_, ?_⟩
  · exact gapRecovery_clean hacc .mixedPosition (by simp) (tryRecoverMixedPositionGap_of_invalid env)
  · exact gapRecovery_clean hacc .exactContent (by simp) (tryRecoverExactContentGap_of_invalid env)
  · intro h
    simp only [tryRecoverPrimaryTeiPacket] at h
    split_ifs at h with hdamaged
    · simp at h
    split at h
    · simp at h
    · next candidate hcheck =>
      obtain ⟨s, hsent⟩ := outputRecord_accepting hacc (.transportError primary) (teiLogged w primary)
        candidate
      rw [teiLogged] at hsent
      rw [hsent] at h
      obtain rfl := congrArg Prod.snd h
      have hfits := (checkPrimaryTei_eq_ok_iff.mp hcheck).fits
      rw [← acceptStats_faults hfits w.stats]
      simp only [ReportStats.faults, reportStatsObserveRecovery, acceptRecord_stats]
      rfl

/-- As `gapWorld`, but the first payload packet reaches the primary with a transport error. -/
def damagedWorld : World Unit :=
  run gapEnv (freshWorld { promptConfig with primaryDelayNs := 5 } ())
    [.push .secondary (pcrPacket 0x100 0 1).parse, .push .primary (pcrPacket 0x100 0 1).parse,
      .drain false, .push .secondary (payloadPacket 0x100 1 1).parse,
      .push .secondary (payloadPacket 0x100 2 2).parse,
      .push .primary (payloadPacket 0x8100 1 1).parse,
      .push .primary (payloadPacket 0x100 2 2).parse]

/-- The damaged record. -/
def damagedPrimary : PacketRecord := makeRecord .primary 1 8 (payloadPacket 0x8100 1 1).parse

theorem content_recovery_clean_worlds :
    (outputRecord gapEnv .passThrough
        (tryRecoverMixedPositionGap gapEnv gapWorld gapPrimary gapMatch).2
        gapPrimary).2.stats.faults = gapWorld.stats.faults ∧
      (outputRecord gapEnv .passThrough
        (tryRecoverExactContentGap gapEnv gapWorld gapPrimary gapMatch).2
        gapPrimary).2.stats.faults = gapWorld.stats.faults ∧
      (tryRecoverPrimaryTeiPacket gapEnv damagedWorld damagedPrimary).2.stats.faults =
        damagedWorld.stats.faults := by
  have hacc : gapEnv.Accepting := scriptedEnv_accepting _ _
  have hpair (res : Decision × World Unit) (h : res.1 = .inserted) : res = (.inserted, res.2) := by
    rw [← h]
  exact ⟨(content_recovery_clean hacc gapWorld _ gapPrimary gapMatch).1 (hpair _ gapWorld_accepted.2.1),
    (content_recovery_clean hacc gapWorld _ gapPrimary gapMatch).2.1 (hpair _ gapWorld_accepted.2.2),
    (content_recovery_clean hacc damagedWorld _ damagedPrimary gapMatch).2.2
      (hpair _ (by decide +kernel))⟩

end TwoStream
