import TwoStreamRecovery.LastSent
import TwoStreamRecovery.Places
import TwoStreamRecovery.PrimaryOutput

/-!
# Old content

* `RejectsForGood`, `ExactTurn`: when the exact recovery gets its turn.
* `NoImpostor`: then the records it may choose from lie behind what was sent and in the order of
  their counters.
* **`content_only_forward`**: in a run that meets it, the content of a PID is sent in the order of
  the feed.
-/

namespace TwoStream

open Relation

variable {σ : Type} {env : Env σ} {w w' : World σ} {T : List ParsedPacket} {primary m : PacketRecord}
  {config : RecoveryEngineConfig} {sinkState : σ} {place place' : ℕ → ℕ}

/-! ### The turn of the exact recovery -/

/-- A dry run whose rejection keeps the later recoveries from trying. -/
def RejectsForGood (validation : CandidateValidation) : Prop :=
  validation.valid = false ∧ validationRejectIsDefinitive validation = true

instance (validation : CandidateValidation) : Decidable (RejectsForGood validation) :=
  inferInstanceAs (Decidable (_ ∧ _))

/-- The exact recovery has one accepted after-anchor and the other recoveries let it try. -/
structure ExactTurn (e : RecoveryEngine) (primary m : PacketRecord) : Prop where
  unique : UniqueCandidate e primary m .exactContent
  null : ¬ RejectsForGood (validateNullPositionCandidate e primary m)
  mixed : ¬ RejectsForGood (validateMixedPositionCandidate e primary m)

section Turn

variable {validator : RecoveryEngine → PacketRecord → PacketRecord → CandidateValidation}
  (recover : World σ → PacketRecord → PacketRecord → Decision × World σ) (logNoValid : Bool)

theorem RejectsForGood.reason {validation : CandidateValidation} (h : RejectsForGood validation) :
    validation.rejectReason ≠ .missingCandidate := by
  intro hreason
  have hdefinitive := h.2
  simp [validationRejectIsDefinitive, hreason] at hdefinitive

/-- The scan of one candidate that is not accepted. -/
theorem scanCandidates_single {validate : PacketRecord → CandidateValidation}
    (hvalid : (validate m).valid = false) (best : CandidateValidation) :
    scanCandidates validate [m] none best = .done none (validate m) ∨
      scanCandidates validate [m] none best = .done none best ∧
        (validate m).rejectReason = .missingCandidate := by
  simp only [scanCandidates, hvalid, Bool.false_eq_true, if_false]
  split
  · exact .inl rfl
  · next h => exact .inr ⟨rfl, by simp at h; exact h.2⟩

/-- The only candidate is rejected for good; nothing is sent. -/
theorem tryUniqueCandidateRecovery_forGood (h : RejectsForGood (validator w.engine primary m)) :
    ∃ w', tryUniqueCandidateRecovery w primary ⟨[m], false⟩ validator recover logNoValid =
        (.rejected, w') ∧ sentRecords w'.trace = sentRecords w.trace := by
  have hscan := (scanCandidates_single h.1 ⟨false, .missingCandidate, some .missingCandidate, 0,
    false⟩).resolve_right fun hbest => h.reason hbest.2
  have hreject : tryUniqueCandidateRecovery w primary ⟨[m], false⟩ validator recover logNoValid =
      (.rejected, recoveryRejectLog w primary (previousOutputCcForRecord w.engine primary)
        (validator w.engine primary m).missingCount true w.engine.lastPrimaryAnchor.valid true
        (validator w.engine primary m).rejectReason
        ((validator w.engine primary m).reason.getD .noValidAfterAnchor)) := by
    simp only [tryUniqueCandidateRecovery, hscan, h.2]
    rw [if_neg (by simp), if_pos (by simp)]
  exact ⟨_, hreject, congrArg (List.map Prod.snd) (recoveryRejectLog_sameOutput ..).sent⟩

/-- The only candidate is rejected, but not for good. -/
theorem tryUniqueCandidateRecovery_abstains (hvalid : (validator w.engine primary m).valid = false)
    (h : ¬ RejectsForGood (validator w.engine primary m)) :
    tryUniqueCandidateRecovery w primary ⟨[m], false⟩ validator recover false = (.none, w) := by
  have hdefinitive : validationRejectIsDefinitive (validator w.engine primary m) = false := by
    by_contra hyes
    exact h ⟨hvalid, by simpa using hyes⟩
  simp only [tryUniqueCandidateRecovery]
  rcases scanCandidates_single hvalid ⟨false, .missingCandidate, some .missingCandidate, 0, false⟩ with
    hscan | ⟨hscan, -⟩
  · rw [if_neg (by simp), hscan]
    simp [hdefinitive]
  · rw [if_neg (by simp), hscan]
    simp [validationRejectIsDefinitive]

/-- A stage that rejects for good sends nothing and ends the recoveries. -/
theorem gapStage_forGood (hanchor : w.engine.lastPrimaryAnchor.valid = true)
    (h : RejectsForGood (validator w.engine primary m)) (fits : Bool) :
    ∃ w', (⟨w, fits, false, false⟩ : Release σ).gapStage primary ⟨[m], false⟩ validator recover
        logNoValid false = .ok ⟨w', recordFitsNextOutput w'.engine primary, true, false⟩ ∧
      sentRecords w'.trace = sentRecords w.trace := by
  obtain ⟨w', hreject, hsent⟩ :=
    tryUniqueCandidateRecovery_forGood recover logNoValid h
  refine ⟨w', ?_, hsent⟩
  rw [Release.gapStage, if_pos (by simp [hanchor]), hreject]
  rfl

/-- Where the null recovery has its evidence, the mixed one stands back. -/
theorem validateMixedPositionCandidate_quiet {e : RecoveryEngine} {L : List PacketRecord}
    (h : GapEvidence e primary m .nullPosition L) : (validateMixedPositionCandidate e primary m).Quiet := by
  obtain ⟨hw, hmax, hconf, hbefore, hafter, hclean, hplan⟩ := h
  cases hplan with
  | nullPosition longer samePrefix range length null =>
    have hscan : scanMixedRegion (e.history .secondary) (missingPackets e primary m)
        (firstCandidateIndex e primary) (.start e) = .ok (L.foldl MixedScan.observe (.start e)) :=
      scanMixedRegion_eq_ok_iff.mpr ⟨L, length, range, hclean, (null_fits null _).1, rfl⟩
    have hcontent : (L.foldl MixedScan.observe (.start e)).sawContent = false := by
      rw [foldl_observe_sawContent]
      simpa [MixedScan.start] using null
    simp only [validateMixedPositionCandidate]
    rw [if_neg (by simp [hw]), if_neg (by omega), if_neg (by omega), if_neg (by omega),
      if_neg (by simp [hbefore]), if_neg (by simp [hafter]), if_neg (by simp [samePrefix]), hscan]
    simp only [hcontent]
    exact ⟨rfl, rfl⟩

/-- **A rejection for good keeps everything but the released record from being sent.** -/
theorem release_forGood (hacc : env.Accepting) (hundamaged : primary.transportError = false)
    (hcandidates : findSecondaryBoundaryMatches w.engine primary = ⟨[m], false⟩)
    (hanchor : w.engine.lastPrimaryAnchor.valid = true)
    (h : RejectsForGood (validateNullPositionCandidate (openRelease primary w).engine primary m) ∨
      RejectsForGood (validateMixedPositionCandidate (openRelease primary w).engine primary m)) :
    sentRecords (releasePrimary env primary w).2.trace = sentRecords w.trace ++ [primary] := by
  have hopen : sentRecords (openRelease primary w).trace = sentRecords w.trace :=
    congrArg (List.map Prod.snd) (openRelease_sameOutput primary w).sent
  have hrecover : ∃ w' fits, recoverBefore env primary ⟨[m], false⟩
      ⟨openRelease primary w, recordFitsNextOutput w.engine primary, false, false⟩ =
        .ok ⟨w', fits, true, false⟩ ∧ sentRecords w'.trace = sentRecords w.trace := by
    by_cases hnull : RejectsForGood
        (validateNullPositionCandidate (openRelease primary w).engine primary m)
    · obtain ⟨w', hstage, hsent⟩ := gapStage_forGood (w := openRelease primary w)
        (tryRecoverNullPositionGap env) false hanchor hnull (recordFitsNextOutput w.engine primary)
      refine ⟨w', recordFitsNextOutput w'.engine primary, ?_, hsent.trans hopen⟩
      simp only [recoverBefore, bind, Except.bind, hstage]
      rw [gapStage_logged rfl]
      exact gapStage_logged rfl
    · have hmixed := h.resolve_left hnull
      have hvalid : (validateNullPositionCandidate (openRelease primary w).engine primary m).valid =
          false := by
        by_contra hyes
        obtain ⟨L, hevidence⟩ := validateNullPositionCandidate_valid_iff.mp (by simpa using hyes)
        exact hmixed.reason (validateMixedPositionCandidate_quiet hevidence).2
      have hnone : (⟨openRelease primary w, recordFitsNextOutput w.engine primary, false, false⟩ :
          Release σ).gapStage primary ⟨[m], false⟩ validateNullPositionCandidate
            (tryRecoverNullPositionGap env) false false =
          .ok ⟨openRelease primary w, recordFitsNextOutput w.engine primary, false, false⟩ := by
        rw [Release.gapStage]
        split
        · rw [tryUniqueCandidateRecovery_abstains _ hvalid hnull]
          rfl
        · rfl
      obtain ⟨w', hstage, hsent⟩ := gapStage_forGood (w := openRelease primary w)
        (tryRecoverMixedPositionGap env) false hanchor hmixed (recordFitsNextOutput w.engine primary)
      refine ⟨w', recordFitsNextOutput w'.engine primary, ?_, hsent.trans hopen⟩
      simp only [recoverBefore, bind, Except.bind, hnone, hstage]
      exact gapStage_logged rfl
  obtain ⟨w', fits, hrecover, hsent⟩ := hrecover
  obtain ⟨s, htaken⟩ := outputRecord_accepting hacc .passThrough w' primary
  have hrelease : releasePrimary env primary w =
      (.next, finishRelease primary w { w' with sinkState := s }) := by
    rw [releasePrimary_undamaged env w hundamaged, hcandidates, hrecover]
    simp only [afterGaps, sendPrimary, Bool.not_true, Bool.and_false, Bool.false_eq_true, if_false, htaken]
    rfl
  rw [hrelease, finishRelease_sentRecords]
  exact congrArg (· ++ [primary]) hsent

end Turn

/-! ### The condition -/

/-- Where the packet of a record stands in the feed. -/
def position (T : List ParsedPacket) (r : PacketRecord) : ℕ := (T.map (·.packet)).idxOf r.packet

/-- Content of one PID, in the order of the feed. -/
def Before (T : List ParsedPacket) (a b : PacketRecord) : Prop :=
  a.isNull = false → a.pid = b.pid → position T a < position T b

/-- Records of one PID are content or null alike. -/
theorem PacketRecord.NullByPid.content {a b : PacketRecord} (ha : a.NullByPid) (hb : b.NullByPid)
    (hcontent : a.isNull = false) (hpid : a.pid = b.pid) : b.isNull = false := by
  by_contra hnull
  have hnullpid := hb.mp (by simpa using hnull)
  rw [← hpid] at hnullpid
  rw [ha.mpr hnullpid] at hcontent
  cases hcontent

/-- The place of a record's counter among the missing ones. -/
def missingRank (e : RecoveryEngine) (primary m r : PacketRecord) : ℕ :=
  (missingCounters e primary m).idxOf r.continuityCounter

/-- Where the exact recovery gets its turn, the records it may choose from lie behind everything that
was sent of their PID, and in the order of the missing counters. -/
def NoImpostor (T : List ParsedPacket) (sent : List PacketRecord) (e : RecoveryEngine) : Prop :=
  ∀ primary, delayQueueFront e.primaryQueue = some primary → ∀ m, ExactTurn e primary m →
    ∀ r ∈ (e.history .secondary).toList, Insertable .exactContent e primary m r →
      (∀ a ∈ sent, a.pid = r.pid → position T a < position T r) ∧
      ∀ r' ∈ (e.history .secondary).toList, Insertable .exactContent e primary m r' →
        missingRank e primary m r < missingRank e primary m r' → r.streamIndex < r'.streamIndex

/-- The condition on the events of a run. -/
def noImpostorAt (T : List ParsedPacket) (pre : List Event) : Event → Prop
  | .release e => NoImpostor T (sentRecords pre) e
  | _ => True

instance (e : RecoveryEngine) (primary m : PacketRecord) : Decidable (ExactTurn e primary m) :=
  decidable_of_iff
    (((findSecondaryBoundaryMatches e primary).truncated = false ∧
        acceptedCandidates .exactContent e primary = [m]) ∧
      ¬ RejectsForGood (validateNullPositionCandidate e primary m) ∧
      ¬ RejectsForGood (validateMixedPositionCandidate e primary m))
    ⟨fun h => ⟨⟨h.1.1, h.1.2⟩, h.2.1, h.2.2⟩, fun h => ⟨⟨h.1.1, h.1.2⟩, h.2, h.3⟩⟩

instance (T : List ParsedPacket) (sent : List PacketRecord) (e : RecoveryEngine) :
    Decidable (NoImpostor T sent e) :=
  decidable_of_iff
    (∀ primary ∈ delayQueueFront e.primaryQueue, ∀ m ∈ acceptedCandidates .exactContent e primary,
      ExactTurn e primary m → ∀ r ∈ (e.history .secondary).toList, Insertable .exactContent e primary m r →
        (∀ a ∈ sent, a.pid = r.pid → position T a < position T r) ∧
        ∀ r' ∈ (e.history .secondary).toList, Insertable .exactContent e primary m r' →
          missingRank e primary m r < missingRank e primary m r' → r.streamIndex < r'.streamIndex) (by
    constructor
    · intro h primary hfront m hturn
      exact h primary hfront m (hturn.unique.unique ▸ List.mem_singleton_self m) hturn
    · intro h primary hfront m _ hturn
      exact h primary hfront m hturn)

instance (T : List ParsedPacket) : ∀ pre ev, Decidable (noImpostorAt T pre ev)
  | pre, .release e => inferInstanceAs (Decidable (NoImpostor T (sentRecords pre) e))
  | _, .pushed _ => .isTrue trivial
  | _, .overflow _ => .isTrue trivial
  | _, .drain _ _ => .isTrue trivial
  | _, .failover _ _ => .isTrue trivial
  | _, .switched _ _ _ => .isTrue trivial
  | _, .sent _ _ => .isTrue trivial
  | _, .anchored _ _ => .isTrue trivial
  | _, .decision _ => .isTrue trivial

/-- A content record stands at its place. -/
theorem Placed.position_eq {s : StreamId} {L : List PacketRecord} {i : ℕ} {r : PacketRecord}
    (hT : Feed T) (hL : Placed T place s L) (hi : L[i]? = some r) (hcontent : r.isNull = false) :
    position T r = place i := by
  obtain ⟨t, p, hp, rfl⟩ := hL.packet i r hi
  have hmem : p.packet ∈ T.map (·.packet) := List.mem_map_of_mem (List.mem_of_getElem? hp)
  have hlt := List.idxOf_lt_length_iff.mpr hmem
  have hget : (T.map (·.packet))[(T.map (·.packet)).idxOf p.packet]? = some p.packet :=
    List.getElem?_eq_some_iff.mpr ⟨hlt, List.getElem_idxOf hlt⟩
  rw [List.getElem?_map, Option.map_eq_some_iff] at hget
  obtain ⟨q, hq, hpacket⟩ := hget
  rw [ParsedPacket.ext_packet hpacket] at hq
  exact hT.place_eq hq hp hcontent rfl

/-! ### What a release finds -/

/-- What is known, in terms of places, when a release looks at its front record. -/
structure Survey (T : List ParsedPacket) (place place' : ℕ → ℕ) (e : RecoveryEngine)
    (trace : List Event) : Prop where
  feed : Feed T
  primary : Placed T place .primary (pushedRecords .primary trace)
  secondary : Placed T place' .secondary (pushedRecords .secondary trace)
  found : ∀ s i r, packetHistoryFindIndex (e.history s) i = some r → (pushedRecords s trace)[i]? = some r
  anchored : e.lastPrimaryAnchor.valid = true →
    place e.lastPrimaryAnchor.primaryIndex = place' e.lastPrimaryAnchor.secondaryIndex
  ahead : e.lastPrimaryAnchor.valid = true → ∀ r, delayQueueFront e.primaryQueue = some r →
    e.lastPrimaryAnchor.primaryIndex < r.streamIndex
  waiting : ∀ r, delayQueueFront e.primaryQueue = some r →
    (pushedRecords .primary trace)[r.streamIndex]? = some r
  sent : ∀ a ∈ sentRecords trace, (pushedRecords a.sourceStreamId trace)[a.streamIndex]? = some a
  behind : ∀ a ∈ sentRecords trace, a.sourceStreamId = .primary →
    ∀ r, delayQueueFront e.primaryQueue = some r → a.streamIndex < r.streamIndex
  inserted : ∀ a ∈ sentRecords trace, a.sourceStreamId = .secondary →
    e.lastPrimaryAnchor.valid = true ∧ a.streamIndex < e.lastPrimaryAnchor.secondaryIndex

section Survey

variable {e : RecoveryEngine} {trace : List Event} {a r : PacketRecord} {L : List PacketRecord}
  (h : Survey T place place' e trace)
include h

theorem Survey.position_secondary
    (hfind : packetHistoryFindIndex (e.history .secondary) r.streamIndex = some r)
    (hcontent : r.isNull = false) : position T r = place' r.streamIndex :=
  h.secondary.position_eq h.feed (h.found .secondary r.streamIndex r hfind) hcontent

theorem Survey.position_sent (ha : a ∈ sentRecords trace) (hcontent : a.isNull = false) :
    a.sourceStreamId = .primary ∧ position T a = place a.streamIndex ∨
      a.sourceStreamId = .secondary ∧ position T a = place' a.streamIndex := by
  have hget := h.sent a ha
  cases hsource : a.sourceStreamId with
  | primary =>
    rw [hsource] at hget
    exact .inl ⟨rfl, h.primary.position_eq h.feed hget hcontent⟩
  | secondary =>
    rw [hsource] at hget
    exact .inr ⟨rfl, h.secondary.position_eq h.feed hget hcontent⟩

/-- What was sent stands before what is released. -/
theorem Survey.sent_lt (ha : a ∈ sentRecords trace) (hcontent : a.isNull = false)
    (hfront : delayQueueFront e.primaryQueue = some primary) (hnull : primary.isNull = false) :
    position T a < position T primary := by
  rw [h.primary.position_eq h.feed (h.waiting primary hfront) hnull]
  rcases h.position_sent ha hcontent with ⟨hsource, hplace⟩ | ⟨hsource, hplace⟩
  · rw [hplace]
    exact h.primary.mono (h.behind a ha hsource primary hfront)
  · have hin := h.inserted a ha hsource
    have hbefore := h.secondary.mono hin.2
    have hafter := h.primary.mono (h.ahead hin.1 primary hfront)
    rw [h.anchored hin.1] at hafter
    omega

/-- A candidate stands where the released record stands. -/
theorem Survey.candidate (hfront : delayQueueFront e.primaryQueue = some primary)
    (hnull : primary.isNull = false) (hm : IsCandidate e primary m) :
    position T primary = place' m.streamIndex := by
  have hfound := h.found .secondary m.streamIndex m hm.1
  rw [h.primary.position_eq h.feed (h.waiting primary hfront) hnull]
  exact (h.primary.match_iff h.feed h.secondary (h.waiting primary hfront) hfound hnull).mp hm.2

/-- What is inserted stands before the released record. -/
theorem Survey.inserted_lt {kind : GapKind} (hfront : delayQueueFront e.primaryQueue = some primary)
    (hm : IsCandidate e primary m) (hevidence : GapEvidence e primary m kind L) (hr : r ∈ L)
    (hcontent : r.isNull = false) : position T r < position T primary := by
  have hnull := (noGapWindow_eq_false_iff.mp hevidence.window).1
  obtain ⟨hfind, -, hlast⟩ := hevidence.found hr
  rw [h.position_secondary hfind hcontent, h.candidate hfront hnull hm]
  exact h.secondary.mono hlast

/-- The null flags of the inputs say what the PIDs say. -/
theorem Survey.nullByPid_found
    (hfind : packetHistoryFindIndex (e.history .secondary) r.streamIndex = some r) : r.NullByPid := by
  obtain ⟨t, p, -, hmade⟩ := h.secondary.packet _ r (h.found .secondary _ r hfind)
  rw [hmade]
  exact p.isNull_iff

theorem Survey.nullByPid_front (hfront : delayQueueFront e.primaryQueue = some r) : r.NullByPid := by
  obtain ⟨t, p, -, hmade⟩ := h.primary.packet _ r (h.waiting r hfront)
  rw [hmade]
  exact p.isNull_iff

theorem Survey.nullByPid_sent (ha : a ∈ sentRecords trace) : a.NullByPid := by
  have hget := h.sent a ha
  cases hsource : a.sourceStreamId with
  | primary =>
    obtain ⟨t, p, -, hmade⟩ := h.primary.packet _ a (hsource ▸ hget)
    rw [hmade]
    exact p.isNull_iff
  | secondary =>
    obtain ⟨t, p, -, hmade⟩ := h.secondary.packet _ a (hsource ▸ hget)
    rw [hmade]
    exact p.isNull_iff

end Survey

/-- The counters of the exact recovery's records have the ranks of the records. -/
theorem missingRank_eq {e : RecoveryEngine} {L : List PacketRecord} {i : ℕ} {r : PacketRecord}
    (hevidence : GapEvidence e primary m .exactContent L) (hr : L[i]? = some r) :
    missingRank e primary m r = i := by
  cases hevidence.plan with
  | @exactContent _ previousCc notShorter misfit previous count nonempty chosen fits =>
    have hcounter := (exact_counters hevidence.window chosen hr).2.2.2
    have hlt := (List.getElem?_eq_some_iff.mp hr).1
    have hfew := ccMissingCount_le count
    have hnodup : (missingCounters e primary m).Nodup := by
      simp only [missingCounters, previous, count]
      refine List.Nodup.map_on ?_ List.nodup_range
      intro x hx y hy hxy
      rw [List.mem_range] at hx hy
      omega
    have hlength : i < (missingCounters e primary m).length := by
      simp only [missingCounters, previous, count, List.length_map, List.length_range]
      exact hlt
    have hget : (missingCounters e primary m)[i] = r.continuityCounter := by
      simp only [missingCounters, previous, count, List.getElem_map, List.getElem_range]
      exact hcounter.symm
    rw [missingRank, ← hget]
    exact hnodup.idxOf_getElem i hlength

section Insertion

variable {e : RecoveryEngine} {trace : List Event} {a r : PacketRecord} {L : List PacketRecord}
  (h : Survey T place place' e trace)
include h

/-- What was sent stands before the region behind the matched prefix. -/
theorem Survey.sent_lt_region (ha : a ∈ sentRecords trace) (hcontent : a.isNull = false)
    (hfront : delayQueueFront e.primaryQueue = some primary)
    (hwindow : noGapWindow e primary m = false) (hsame : windowPrefixMatches e primary = true)
    (hr : firstCandidateIndex e primary ≤ r.streamIndex) : position T a < place' r.streamIndex := by
  have hw := noGapWindow_eq_false_iff.mp hwindow
  have hvalid := hw.2.2.1
  have hanchored := h.anchored hvalid
  simp only [firstCandidateIndex] at hr
  have hafter := h.secondary.mono (show e.lastPrimaryAnchor.secondaryIndex < r.streamIndex by omega)
  rcases h.position_sent ha hcontent with ⟨hsource, hplace⟩ | ⟨hsource, hplace⟩
  · rw [hplace]
    have hbehind := h.behind a ha hsource primary hfront
    by_cases hanchor : a.streamIndex ≤ e.lastPrimaryAnchor.primaryIndex
    · have hle := h.primary.mono.monotone hanchor
      omega
    · -- the record belongs to the prefix and has its copy there
      have hx : a.streamIndex - e.lastPrimaryAnchor.primaryIndex - 1 < primaryBetween e primary := by
        simp only [primaryBetween]
        omega
      obtain ⟨p, q, hp, hq, hmatch⟩ := prefixMatches_iff.mp hsame _ hx
      rw [show e.lastPrimaryAnchor.primaryIndex + 1 +
        (a.streamIndex - e.lastPrimaryAnchor.primaryIndex - 1) = a.streamIndex by omega] at hp
      have hget := h.sent a ha
      rw [hsource] at hget
      have hpa := h.found .primary _ p hp
      rw [hget] at hpa
      obtain rfl := Option.some.inj hpa
      have hcopy := (h.primary.match_iff h.feed h.secondary hget (h.found .secondary _ q hq) hcontent).mp
        hmatch
      rw [hcopy]
      apply h.secondary.mono
      omega
  · rw [hplace]
    have hin := h.inserted a ha hsource
    exact h.secondary.mono (by omega)

/-- The records of a stretch stand in the order of the feed. -/
theorem Survey.range_pairwise {index : ℕ} (hrange : HistoryRange (e.history .secondary) index L) :
    L.Pairwise (Before T) := by
  have hindices : (L.map (·.streamIndex)).Pairwise (· < ·) := by
    rw [hrange.indices]
    exact List.pairwise_lt_range'
  rw [List.pairwise_map] at hindices
  refine hindices.imp_of_mem fun {a b} ha hb hlt hcontent hpid => ?_
  have hfa := (hrange.mem ha).1
  have hfb := (hrange.mem hb).1
  have hcontent' := (h.nullByPid_found hfa).content (h.nullByPid_found hfb) hcontent hpid
  rw [h.position_secondary hfa hcontent, h.position_secondary hfb hcontent']
  exact h.secondary.mono hlt

/-- **What a release inserts comes after what was sent, and in order.** -/
theorem Survey.insertion {kind : GapKind} (hfront : delayQueueFront e.primaryQueue = some primary)
    (hevidence : GapEvidence e primary m kind L) (hclear : NoImpostor T (sentRecords trace) e)
    (hturn : kind = .exactContent → ExactTurn e primary m) :
    (∀ a ∈ sentRecords trace, ∀ r ∈ L, Before T a r) ∧ L.Pairwise (Before T) := by
  have hregion (hsame : windowPrefixMatches e primary = true)
      (hrange : HistoryRange (e.history .secondary) (firstCandidateIndex e primary) L) :
      (∀ a ∈ sentRecords trace, ∀ r ∈ L, Before T a r) ∧ L.Pairwise (Before T) := by
    refine ⟨fun a ha r hr hcontent hpid => ?_, h.range_pairwise hrange⟩
    obtain ⟨hfind, hfirst, -⟩ := hrange.mem hr
    have hcontent' := (h.nullByPid_sent ha).content (h.nullByPid_found hfind) hcontent hpid
    rw [h.position_secondary hfind hcontent']
    exact h.sent_lt_region ha hcontent hfront hevidence.window hsame hfirst
  cases hevidence.plan with
  | nullPosition longer samePrefix range length null => exact hregion samePrefix range
  | mixedPosition longer samePrefix range length content fits => exact hregion samePrefix range
  | exactContent notShorter misfit previous count nonempty chosen fits =>
    have hchoice (r : PacketRecord) (hr : r ∈ L) := hclear primary hfront m (hturn rfl) r
      (packetHistoryFindIndex_mem (hevidence.found hr).1) (hevidence.insertable hr)
    refine ⟨fun a ha r hr hcontent hpid => (hchoice r hr).1 a ha hpid, ?_⟩
    rw [List.pairwise_iff_getElem]
    intro i j hi hj hij hcontent hpid
    have hri := List.getElem_mem hi
    have hrj := List.getElem_mem hj
    have hfi := (hevidence.found hri).1
    have hfj := (hevidence.found hrj).1
    have hlt := (hchoice L[i] hri).2 L[j] (packetHistoryFindIndex_mem hfj) (hevidence.insertable hrj) (by
      rw [missingRank_eq hevidence (List.getElem?_eq_getElem hi),
        missingRank_eq hevidence (List.getElem?_eq_getElem hj)]
      exact hij)
    have hcontent' := (h.nullByPid_found hfi).content (h.nullByPid_found hfj) hcontent hpid
    rw [h.position_secondary hfi hcontent, h.position_secondary hfj hcontent']
    exact h.secondary.mono hlt

end Insertion

/-! ### Stages -/

/-- Each input receives a part of `T`, the output stays the primary, and no release is taken in. -/
structure PartialInputs (T : List ParsedPacket) (trace : List Event) : Prop where
  parts : ∀ s, (received s trace).Sublist (T.map (·.packet))
  stays : StaysPrimary trace
  clear : Along (noImpostorAt T) trace

/-- What was sent is in order, and what was inserted lies behind the anchor. -/
structure OnlyForward (T : List ParsedPacket) (w : World σ) : Prop where
  active : w.engine.activeOutputStreamId = .primary
  ordered : (sentRecords w.trace).Pairwise (Before T)
  inserted : ∀ a ∈ sentRecords w.trace, a.sourceStreamId = .secondary →
    w.engine.lastPrimaryAnchor.valid = true ∧ a.streamIndex < w.engine.lastPrimaryAnchor.secondaryIndex

theorem PartialInputs.earlier {t t' : List Event} (h : t <+: t') (ht : PartialInputs T t') :
    PartialInputs T t where
  parts s := (received_grow h s).sublist.trans (ht.parts s)
  stays := ht.stays.of_prefix h
  clear := ht.clear.of_prefix h

theorem OnlyForward.of_same (hsent : sentEvents w'.trace = sentEvents w.trace)
    (hanchor : w'.engine.lastPrimaryAnchor = w.engine.lastPrimaryAnchor)
    (hactive : w'.engine.activeOutputStreamId = w.engine.activeOutputStreamId) (hw : OnlyForward T w) :
    OnlyForward T w' := by
  have hrecords : sentRecords w'.trace = sentRecords w.trace := congrArg (List.map Prod.snd) hsent
  refine ⟨hactive.trans hw.active, ?_, ?_⟩
  · rw [hrecords]
    exact hw.ordered
  · rw [hrecords, hanchor]
    exact hw.inserted

/-- A sent record was pushed on its own stream; of the primary only the front of the queue is sent. -/
theorem SentKnown.source {a : PacketRecord} (hw : SentKnown w) (hconsistent : Consistent w)
    (ha : a ∈ sentRecords w.trace) :
    a ∈ pushedRecords a.sourceStreamId w.trace ∧
      (a.sourceStreamId = .primary → a ∈ queueSent .primary w.trace) := by
  obtain ⟨x, hx, rfl⟩ := List.mem_map.mp ha
  have hpushed := hw.pushed x hx
  have hsource := hconsistent.source_of_mem hpushed
  refine ⟨hsource ▸ hpushed, fun hprimary => ?_⟩
  have hroute : x.1 = .passThrough := by
    have hstream := hsource.symm.trans hprimary
    generalize x.1 = route at hstream
    cases route with
    | passThrough => rfl
    | failover | gap | transportError => cases hstream
  exact List.mem_filterMap.mpr ⟨x, hx, by simp [hroute, queueRoute]⟩

/-- The survey of a release. -/
theorem exists_survey (hT : Feed T) (hreach : Reachable env config sinkState w)
    (h : PartialInputs T w.trace) (hw : OnlyForward T w) (primary : PacketRecord) :
    ∃ place place', Survey T place place' (openRelease primary w).engine w.trace := by
  have hconsistent := reachable_consistent hreach
  have hknown := sentKnown_of_reachable hreach
  obtain ⟨hmatches, hset⟩ := reachable_anchorSet hreach
  obtain ⟨place, hp⟩ := exists_placed hconsistent (h.parts .primary)
  obtain ⟨place', hs⟩ := exists_placed hconsistent (h.parts .secondary)
  refine ⟨place, place',
    { feed := hT
      primary := hp
      secondary := hs
      found := fun s i r hfind => hconsistent.getElem?_of_find hfind
      anchored := ?_
      ahead := ?_
      waiting := ?_
      sent := ?_
      behind := ?_
      inserted := hw.inserted }⟩
  · intro hvalid
    obtain ⟨a, b, ha, hb, hnull, hmatch⟩ := hmatches hvalid
    exact (hp.match_iff hT hs ha hb hnull).mp hmatch
  · intro hvalid r hfront
    obtain ⟨a, ha, hindex⟩ := hset.sent hvalid
    have hlt := hconsistent.sent_lt_front (s := .primary) ha hfront
    rw [hindex] at hlt
    exact hlt
  · intro r hfront
    exact hconsistent.getElem?_of_mem (hconsistent.mem_of_front (s := .primary) hfront)
  · intro a ha
    exact hconsistent.getElem?_of_mem (hknown.source hconsistent ha).1
  · intro a ha hsource r hfront
    exact hconsistent.sent_lt_front (s := .primary) ((hknown.source hconsistent ha).2 hsource) hfront

/-- What is sent before the released record. -/
theorem Prepared.inserts (h : Prepared primary w w') :
    ∃ L, sentRecords w'.trace = sentRecords w.trace ++ L ∧
      w'.engine.lastPrimaryAnchor = w.engine.lastPrimaryAnchor ∧
      (L = [] ∨ ∃ kind m, UniqueCandidate w.engine primary m kind ∧ GapEvidence w.engine primary m kind L) := by
  cases h with
  | fits => exact ⟨[], by simp, rfl, .inl rfl⟩
  | rejected previousCc missingCount candidate before after rejectReason reason =>
    have hsame := (recoveryRejectLog_sameOutput (w := w) primary previousCc missingCount candidate before
      after rejectReason reason).sent
    exact ⟨[], by rw [sentRecords, hsame]; simp [sentRecords], rfl, .inl rfl⟩
  | @inserted kind m L previousCc decision s unique evidence adjacent =>
    refine ⟨L, ?_, ?_, .inr ⟨kind, m, unique, evidence⟩⟩
    · obtain ⟨d, hd⟩ := gapLogged_trace w primary L.length previousCc decision
      rw [gapBurst_trace, acceptAll_trace, hd, sentRecords_append, sentRecords_append,
        sentRecords_map_sent]
      congr 1
      exact List.append_nil _
    · rw [gapBurst_engine]
      exact acceptAll_lastPrimaryAnchor L

theorem nextAnchor_cases (old : PrimaryAnchor) (primary : PacketRecord) (x : Option PacketRecord) :
    nextAnchor old primary x = old ∨
      ∃ m, x = some m ∧ primary.isNull = false ∧ recordsExactNonErrorMatch primary m = true ∧
        nextAnchor old primary x = ⟨true, primary.streamIndex, m.streamIndex⟩ := by
  cases x with
  | none => exact .inl rfl
  | some m =>
    by_cases hkeep : (primary.isNull || m.isNull || !recordsExactNonErrorMatch primary m) = true
    · left
      simp [nextAnchor, hkeep]
    · right
      refine ⟨m, rfl, ?_, ?_, by simp [nextAnchor, hkeep]⟩
      · simp only [Bool.or_eq_true, not_or] at hkeep
        simpa using hkeep.1.1
      · simp only [Bool.or_eq_true, not_or] at hkeep
        simpa using hkeep.2

/-- The only copy is the only candidate. -/
theorem candidates_eq {e : RecoveryEngine} {kind : GapKind} (hone : OneCopy e primary)
    (hunique : UniqueCandidate e primary m kind) :
    findSecondaryBoundaryMatches e primary = ⟨[m], false⟩ := by
  obtain ⟨hcomplete, hlength⟩ := findSecondaryBoundaryMatches_of_oneCopy hone
  have hmem := hunique.mem.1
  obtain ⟨m', hrecords⟩ := List.length_eq_one_iff.mp
    (Nat.le_antisymm hlength (List.length_pos_of_mem hmem))
  rw [hrecords] at hmem
  obtain rfl := List.mem_singleton.mp hmem
  rw [← hrecords, ← hcomplete]

/-- After an insertion the anchor is set to the after-anchor. -/
theorem nextAnchor_of_insertion {e : RecoveryEngine} {kind : GapKind} {L : List PacketRecord} (hone : OneCopy e primary)
    (hunique : UniqueCandidate e primary m kind) (hevidence : GapEvidence e primary m kind L) :
    nextAnchor e.lastPrimaryAnchor primary (releaseAnchor e primary) =
      ⟨true, primary.streamIndex, m.streamIndex⟩ :=
  nextAnchor_of_candidate _ (candidates_eq hone hunique) hevidence.after

section Anchor

variable {e : RecoveryEngine} {trace : List Event} (h : Survey T place place' e trace)
include h

/-- The anchor never moves back on the secondary. -/
theorem Survey.anchor_le (hvalid : e.lastPrimaryAnchor.valid = true)
    (hfront : delayQueueFront e.primaryQueue = some primary) :
    (nextAnchor e.lastPrimaryAnchor primary (releaseAnchor e primary)).valid = true ∧
      e.lastPrimaryAnchor.secondaryIndex ≤
        (nextAnchor e.lastPrimaryAnchor primary (releaseAnchor e primary)).secondaryIndex := by
  rcases nextAnchor_cases e.lastPrimaryAnchor primary (releaseAnchor e primary) with
    hsame | ⟨m, htaken, hnull, hmatch, hset⟩
  · rw [hsame]
    exact ⟨hvalid, le_rfl⟩
  · rw [hset]
    have hm : IsCandidate e primary m := ⟨releaseAnchor_find htaken, hmatch⟩
    have hplace := h.candidate hfront hnull hm
    rw [h.primary.position_eq h.feed (h.waiting primary hfront) hnull] at hplace
    have hlt := h.primary.mono (h.ahead hvalid primary hfront)
    rw [h.anchored hvalid, hplace] at hlt
    exact ⟨rfl, Nat.le_of_lt (h.secondary.mono.lt_iff_lt.mp hlt)⟩

end Anchor

/-- An exact insertion happens at the turn of the exact recovery. -/
theorem exactTurn_of_inserted {L : List PacketRecord} (hacc : env.Accepting)
    (hundamaged : primary.transportError = false) (hone : OneCopy (openRelease primary w).engine primary)
    (hunique : UniqueCandidate (openRelease primary w).engine primary m .exactContent)
    (hevidence : GapEvidence (openRelease primary w).engine primary m .exactContent L)
    (hsent : sentRecords (releasePrimary env primary w).2.trace = sentRecords w.trace ++ L ++ [primary]) :
    ExactTurn (openRelease primary w).engine primary m := by
  have hanchor := (noGapWindow_eq_false_iff.mp hevidence.window).2.2.1
  have hno : ¬ (RejectsForGood (validateNullPositionCandidate (openRelease primary w).engine primary m) ∨
      RejectsForGood (validateMixedPositionCandidate (openRelease primary w).engine primary m)) := by
    intro hreject
    have hcandidates := candidates_eq hone hunique
    have halone := release_forGood (w := w) hacc hundamaged hcandidates hanchor hreject
    rw [halone, List.append_assoc] at hsent
    have hlength := congrArg List.length (List.append_cancel_left hsent)
    rw [List.length_append] at hlength
    cases hevidence.plan with
    | exactContent notShorter misfit previous count nonempty chosen fits =>
      exact nonempty (List.length_eq_zero_iff.mp (by omega))
  exact ⟨hunique, fun h => hno (.inl h), fun h => hno (.inr h)⟩

/-- **A release keeps the order.** -/
theorem release_onlyForward (hacc : env.Accepting) (hT : Feed T)
    (hreach : Reachable env config sinkState w)
    (h : PartialInputs T (releasePrimary env primary w).2.trace) (hw : OnlyForward T w)
    (hfront : delayQueueFront w.engine.primaryQueue = some primary) :
    OnlyForward T (releasePrimary env primary w).2 := by
  have hconsistent := reachable_consistent hreach
  have houtcome := releasePrimary_outcome env primary w
  obtain ⟨l, htrace, -⟩ := houtcome.trace
  have hbefore : PartialInputs T w.trace := h.earlier ⟨_, htrace.symm⟩
  have hclear : NoImpostor T (sentRecords w.trace) (openRelease primary w).engine :=
    h.clear w.trace _ l htrace
  obtain ⟨place, place', hsurvey⟩ := exists_survey hT hreach hbefore hw primary
  have hfront' : delayQueueFront (openRelease primary w).engine.primaryQueue = some primary := hfront
  have hundamaged := (hsurvey.primary.clean hT (hsurvey.waiting primary hfront')).1
  obtain ⟨w₁, s, hprepared, hrelease⟩ := houtcome.undamaged hacc hundamaged
  obtain ⟨L, hL, hanchor, hinsert⟩ := hprepared.inserts
  have hsent : sentRecords (releasePrimary env primary w).2.trace = sentRecords w.trace ++ L ++ [primary] := by
    rw [hrelease, finishRelease_sentRecords]
    refine congrArg (· ++ [primary]) (hL.trans (congrArg (· ++ L) ?_))
    exact congrArg (List.map Prod.snd) (openRelease_sameOutput primary w).sent
  have hnext : (releasePrimary env primary w).2.engine.lastPrimaryAnchor =
      nextAnchor w.engine.lastPrimaryAnchor primary (releaseAnchor (openRelease primary w).engine primary) := by
    rw [hrelease]
    exact (finishRelease_anchor w _).trans (congrArg (nextAnchor · primary _) hanchor)
  -- what an insertion adds
  have hone (hnull : primary.isNull = false) : OneCopy (openRelease primary w).engine primary := by
    show OneCopy w.engine primary
    exact hsurvey.primary.oneCopy hT hconsistent hsurvey.secondary
      (hconsistent.mem_of_front (s := .primary) hfront) hnull
  have hinserted : (∀ a ∈ sentRecords w.trace, ∀ r ∈ L, Before T a r) ∧ L.Pairwise (Before T) ∧
      (∀ r ∈ L, Before T r primary) ∧
      ∀ r ∈ L, (releasePrimary env primary w).2.engine.lastPrimaryAnchor.valid = true ∧
        r.streamIndex < (releasePrimary env primary w).2.engine.lastPrimaryAnchor.secondaryIndex := by
    rcases hinsert with rfl | ⟨kind, m, hunique, hevidence⟩
    · simp
    · have hnull := (noGapWindow_eq_false_iff.mp hevidence.window).1
      have hcandidate := isCandidate_of_mem hunique.mem.1
      obtain ⟨hbehind, hpairwise⟩ := hsurvey.insertion hfront' hevidence hclear (fun hkind => by
        subst hkind
        exact exactTurn_of_inserted hacc hundamaged (hone hnull) hunique hevidence hsent)
      refine ⟨hbehind, hpairwise, ?_, ?_⟩
      · intro r hr hcontent _
        exact hsurvey.inserted_lt hfront' hcandidate hevidence hr hcontent
      · intro r hr
        have hset := nextAnchor_of_insertion (hone hnull) hunique hevidence
        rw [hnext, show w.engine.lastPrimaryAnchor = (openRelease primary w).engine.lastPrimaryAnchor from rfl,
          hset]
        exact ⟨rfl, (hevidence.found hr).2.2⟩
  obtain ⟨hbehind, hpairwise, hlast, hunder⟩ := hinserted
  have hprimary (a : PacketRecord) (ha : a ∈ sentRecords w.trace) : Before T a primary := by
    intro hcontent hpid
    have hnull := (hsurvey.nullByPid_sent ha).content (hsurvey.nullByPid_front hfront') hcontent hpid
    exact hsurvey.sent_lt ha hcontent hfront' hnull
  refine ⟨houtcome.frame.1.activeOutputStreamId.trans hw.active, ?_, ?_⟩
  · rw [hsent, List.pairwise_append, List.pairwise_append]
    refine ⟨⟨hw.ordered, hpairwise, hbehind⟩, List.pairwise_singleton _ _, ?_⟩
    intro a ha r hr
    obtain rfl := List.mem_singleton.mp hr
    rcases List.mem_append.mp ha with ha | ha
    · exact hprimary a ha
    · exact hlast a ha
  · intro a ha hsource
    rw [hsent, List.append_assoc, List.mem_append, List.mem_append] at ha
    rcases ha with ha | ha | ha
    · have hin := hw.inserted a ha hsource
      have hmoved := hsurvey.anchor_le hin.1 hfront'
      rw [hnext]
      exact ⟨hmoved.1, Nat.lt_of_lt_of_le hin.2 hmoved.2⟩
    · exact hunder a ha
    · obtain rfl := List.mem_singleton.mp ha
      have hown := hconsistent.source_of_mem (hconsistent.mem_of_front (s := .primary) hfront)
      rw [hown] at hsource
      cases hsource

theorem Stage.onlyForward (hacc : env.Accepting) (hT : Feed T) (h : Stage env w w')
    (hQ : PartialInputs T w'.trace) (hreach : Reachable env config sinkState w)
    (hw : OnlyForward T w) : OnlyForward T w' := by
  cases h.onPrimary hw.active hQ.stays with
  | ingest streamId p =>
    have hingested := pushIngest_ingested env streamId p w
    obtain ⟨a, i, q, q', he⟩ := hingested.engine
    apply hw.of_same hingested.sentEvents_eq
    · rw [he]
    · rw [he]
  | idle hidle =>
    obtain ⟨start, queue, he⟩ := hidle.engine
    apply hw.of_same hidle.sentEvents_eq
    · rw [he]
    · rw [he]
  | discard =>
    obtain ⟨start, ring, he, -⟩ := discardDrain_engine env w
    apply hw.of_same
    · rw [discardDrain_trace, sentEvents_append]
      exact List.append_nil _
    · rw [he]
    · rw [he]
  | release primary front => exact release_onlyForward hacc hT hreach hQ hw front

/-! ### Runs -/

/-- **The content of a PID is sent in the order of the feed,** in a run of which no release could take
an older packet for a missing one. -/
theorem content_only_forward {ops : List Op} (hacc : env.Accepting) (hT : Feed T)
    (hparts : ∀ s, (pushedPackets s ops).Sublist T)
    (hstays : ∀ x ∈ switches (run env (freshWorld config sinkState) ops).trace, x.1 ≠ .secondary)
    (hclear : ∀ pre e post, (run env (freshWorld config sinkState) ops).trace = pre ++ .release e :: post →
      NoImpostor T (sentRecords pre) e) (pid : ℕ) (hpid : pid ≠ tsNullPid) :
    (((sentRecords (run env (freshWorld config sinkState) ops).trace).filter (·.pid = pid)).map
      (position T)).Pairwise (· < ·) := by
  have hreach := run_reachable env config sinkState ops
  have hend : PartialInputs T (run env (freshWorld config sinkState) ops).trace := by
    refine ⟨fun s => ?_, staysPrimary_of_switches hstays, ?_⟩
    · rw [run_received]
      exact (hparts s).map _
    · intro pre ev post hsplit
      cases ev with
      | release e => exact hclear pre e post hsplit
      | _ => trivial
  have hfresh : OnlyForward T (freshWorld config sinkState) :=
    ⟨rfl, List.Pairwise.nil, by simp [freshWorld, sentRecords]⟩
  have hw := (bounded_stages (I := fun w => Reachable env config sinkState w ∧ OnlyForward T w)
    (fun t t' => PartialInputs.earlier) hreach hend (freshWorld_consistent config sinkState)
    ⟨.refl, hfresh⟩ (fun w w' hstage hQ _ hw => ⟨hw.1.tail hstage, hstage.onlyForward hacc hT hQ hw.1 hw.2⟩)).2
  obtain ⟨place, place', hsurvey⟩ := exists_survey hT hreach hend hw .zero
  rw [List.pairwise_map]
  refine (hw.ordered.filter _).imp_of_mem fun {a b} ha hb hbefore => ?_
  rw [List.mem_filter] at ha hb
  have hapid : a.pid = pid := by simpa using ha.2
  have hbpid : b.pid = pid := by simpa using hb.2
  apply hbefore
  · by_contra hnull
    have hnullpid := (hsurvey.nullByPid_sent ha.1).mp (by simpa using hnull)
    exact hpid (hapid.symm.trans hnullpid)
  · rw [hapid, hbpid]

/-- The secondary misses the second packet, the primary the third. -/
def crossedFeed : List ParsedPacket :=
  [(pcrPacket 0x100 0 1).parse, (payloadPacket 0x101 5 3).parse, (payloadPacket 0x100 1 1).parse,
    (payloadPacket 0x100 2 2).parse]

def crossedOps : List Op :=
  [.push .secondary (pcrPacket 0x100 0 1).parse, .push .primary (pcrPacket 0x100 0 1).parse,
    .push .primary (payloadPacket 0x101 5 3).parse, .push .secondary (payloadPacket 0x100 1 1).parse,
    .push .secondary (payloadPacket 0x100 2 2).parse, .push .primary (payloadPacket 0x100 2 2).parse]

def crossedWorld : World Unit := run (scriptedEnv [] 1) (freshWorld promptConfig ()) crossedOps

theorem crossedWorld_facts :
    Feed crossedFeed ∧ (pushedPackets .primary crossedOps).Sublist crossedFeed ∧
      (pushedPackets .secondary crossedOps).Sublist crossedFeed ∧
      (∀ x ∈ switches crossedWorld.trace, x.1 ≠ .secondary) ∧
      Along (noImpostorAt crossedFeed) crossedWorld.trace ∧
      ((sentRecords crossedWorld.trace).filter (·.pid = 0x100)).map (position crossedFeed) = [0, 2, 3] := by
  decide +kernel

theorem content_only_forward_crossedWorld :
    ((sentRecords crossedWorld.trace).filter (·.pid = 0x100)).map (position crossedFeed) = [0, 2, 3] ∧
      (((sentRecords crossedWorld.trace).filter (·.pid = 0x100)).map (position crossedFeed)).Pairwise
        (· < ·) := by
  obtain ⟨hT, hprimary, hsecondary, hstays, hclear, hsent⟩ := crossedWorld_facts
  have hparts (s : StreamId) : (pushedPackets s crossedOps).Sublist crossedFeed := by
    cases s with
    | primary => exact hprimary
    | secondary => exact hsecondary
  exact ⟨hsent, content_only_forward (scriptedEnv_accepting _ _) hT hparts hstays
    (fun pre e post hsplit => hclear pre (.release e) post hsplit) 0x100 (by decide)⟩

/-! ### A packet sent again -/

/-- Eighteen payload packets of one PID, with all counters. -/
def roundFeed : List ParsedPacket :=
  (pcrPacket 0x100 0 1).parse ::
    (List.range 18).map fun k => (payloadPacket 0x100 ((k + 1) % 16) (k + 1)).parse

/-- Both inputs miss the last but one; the secondary is late. -/
def roundOps : List Op :=
  [.push .secondary (pcrPacket 0x100 0 1).parse, .push .primary (pcrPacket 0x100 0 1).parse] ++
    ((roundFeed.take 17).drop 1).map (.push .primary) ++ ((roundFeed.take 17).drop 1).map (.push .secondary) ++
    (roundFeed.drop 18).map (.push .secondary) ++ (roundFeed.drop 18).map (.push .primary)

def roundWorld : World Unit := run (scriptedEnv [] 1) (freshWorld promptConfig ()) roundOps

/-- Before the last packet the second one is sent again: it has the counter of the missing one. -/
theorem content_sent_again :
    Feed roundFeed ∧ FitsInOrder roundFeed ∧ (pushedPackets .primary roundOps).Sublist roundFeed ∧
      (pushedPackets .secondary roundOps).Sublist roundFeed ∧ switches roundWorld.trace = [] ∧
      ¬ (((sentRecords roundWorld.trace).filter (·.pid = 0x100)).map (position roundFeed)).Pairwise
        (· < ·) := by
  decide +kernel

end TwoStream
