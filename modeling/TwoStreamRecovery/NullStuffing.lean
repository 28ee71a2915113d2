import TwoStreamRecovery.Anchor
import TwoStreamRecovery.Reporting

/-!
# Lost null stuffing (`try_recover_null_position_gap`)

* `LostStuffing`: between the anchor and a released record the secondary has more null packets than
  the primary.
* `releasePrimary_null`: a release with a null insertion.
* **`null_stuffing_recovered_iff`**: the lost packets are sent exactly when the primary has lost them
  all.
-/

namespace TwoStream

variable {σ : Type} {env : Env σ} {w : World σ} {primary m : PacketRecord}

/-! ### Stuffing -/

/-- `n` clean null records with the packet `N`, from `index` on. -/
def NullStretch (history : PacketHistory) (N : Packet) (index n : ℕ) : Prop :=
  ∃ L, L.length = n ∧ HistoryRange history index L ∧
    ∀ r ∈ L, r.isNull = true ∧ r.Clean ∧ r.packet = N

instance (r : PacketRecord) : Decidable r.Clean := inferInstanceAs (Decidable (_ ∧ _))

instance decidableHistoryRange (history : PacketHistory) :
    ∀ (index : ℕ) (L : List PacketRecord), Decidable (HistoryRange history index L)
  | _, [] => isTrue trivial
  | index, r :: rest =>
    haveI := decidableHistoryRange history (index + 1) rest
    inferInstanceAs (Decidable (packetHistoryFindIndex history index = some r ∧ _))

/-- Between the anchor and `primary` stand `u` null packets, between the anchor and its only match
`m` on the secondary `v` of the same. -/
structure LostStuffing (e : RecoveryEngine) (primary m : PacketRecord) (N : Packet) (u v : ℕ) :
    Prop where
  anchored : e.lastPrimaryAnchor.valid = true
  held : packetHistoryFindIndex (e.history .primary) e.lastPrimaryAnchor.primaryIndex ≠ none ∧
    packetHistoryFindIndex (e.history .secondary) e.lastPrimaryAnchor.secondaryIndex ≠ none
  confidence : e.config.minAlignmentConfidence ≤ e.alignment.confidence
  only : (findSecondaryBoundaryMatches e primary).records = [m]
  primaryIndex : primary.streamIndex = e.lastPrimaryAnchor.primaryIndex + 1 + u
  secondaryIndex : m.streamIndex = e.lastPrimaryAnchor.secondaryIndex + 1 + v
  survived : NullStretch (e.history .primary) N (e.lastPrimaryAnchor.primaryIndex + 1) u
  delivered : NullStretch (e.history .secondary) N (e.lastPrimaryAnchor.secondaryIndex + 1) v
  lost : u < v
  burst : v - u ≤ e.config.maxContentBurstPackets

/-- The release of `primary` sends `n` null packets `N` before it and counts them. -/
def SendsStuffing (w w' : World σ) (primary : PacketRecord) (N : Packet) (n : ℕ) : Prop :=
  (∃ L, sentRecords w'.trace = sentRecords w.trace ++ L ++ [primary] ∧
    L.map (·.packet) = List.replicate n N ∧ ∀ r ∈ L, r.isNull = true) ∧
  w'.stats.recoveredNullPackets = w.stats.recoveredNullPackets + n

theorem findSecondaryBoundaryMatches_complete {e : RecoveryEngine}
    (h : (findSecondaryBoundaryMatches e primary).records.length < 64) :
    (findSecondaryBoundaryMatches e primary).truncated = false := by
  have hfull : (findSecondaryBoundaryMatches e primary).truncated = true →
      64 ≤ (findSecondaryBoundaryMatches e primary).records.length := by
    refine findSecondaryBoundaryMatches_rule
      (J := fun c => c.truncated = true → 64 ≤ c.records.length) ?_ (by simp)
    intro c m _ hc
    unfold addSecondaryAfterAnchorCandidate
    split_ifs with hany hfull
    · exact hc
    · exact fun _ => hfull
    · intro htruncated
      have hlength := hc htruncated
      simp only [List.length_append]
      omega
  by_contra htruncated
  have hlength := hfull (by simpa using htruncated)
  omega

section Evidence

variable {e : RecoveryEngine} {N : Packet} {u v : ℕ}

theorem LostStuffing.candidate (h : LostStuffing e primary m N u v) : IsCandidate e primary m :=
  isCandidate_of_mem (by rw [h.only]; simp)

/-- A record with candidates is content and clean. -/
theorem LostStuffing.released (h : LostStuffing e primary m N u v) :
    primary.isNull = false ∧ primary.Clean := by
  have honly := h.only
  unfold findSecondaryBoundaryMatches at honly
  split at honly
  · cases honly
  · next hflags =>
    simp only [Bool.or_eq_true, not_or, Bool.not_eq_true] at hflags
    exact ⟨hflags.1.1, hflags.1.2, hflags.2⟩

theorem LostStuffing.between (h : LostStuffing e primary m N u v) :
    primaryBetween e primary = u ∧ secondaryBetween e m = v := by
  have hp := h.primaryIndex
  have hs := h.secondaryIndex
  simp only [primaryBetween, secondaryBetween]
  omega

/-- The stretch behind the anchor holds null records only. -/
theorem LostStuffing.null_of_between (h : LostStuffing e primary m N u v) {r : PacketRecord}
    (hfind : packetHistoryFindIndex (e.history .secondary) r.streamIndex = some r)
    (hafter : e.lastPrimaryAnchor.secondaryIndex < r.streamIndex)
    (hbefore : r.streamIndex < m.streamIndex) : r.isNull = true := by
  obtain ⟨L, hlength, hrange, hnull⟩ := h.delivered
  have hs := h.secondaryIndex
  have hindices := hrange.indices
  have hlt : r.streamIndex - (e.lastPrimaryAnchor.secondaryIndex + 1) < L.length := by omega
  have hindex : (L[r.streamIndex - (e.lastPrimaryAnchor.secondaryIndex + 1)]).streamIndex =
      r.streamIndex := by
    have hget : (L.map (·.streamIndex))[r.streamIndex - (e.lastPrimaryAnchor.secondaryIndex + 1)]? =
        some r.streamIndex := by
      rw [hindices, List.getElem?_range' hlt]
      congr 1
      omega
    simpa [List.getElem?_eq_getElem hlt] using hget
  have hmem : L[r.streamIndex - (e.lastPrimaryAnchor.secondaryIndex + 1)] ∈ L := List.getElem_mem hlt
  have hfound := (hrange.mem hmem).1
  rw [hindex, hfind] at hfound
  rw [Option.some.inj hfound]
  exact (hnull _ hmem).1

/-- Behind a surviving null packet nothing is inserted. -/
theorem LostStuffing.no_insertion (h : LostStuffing e primary m N u v) (hu : u ≠ 0) {kind : GapKind}
    {L : List PacketRecord} (hunique : UniqueCandidate e primary m kind)
    (hevidence : GapEvidence e primary m kind L)
    (hadjacent : kind = .nullPosition → primaryBetween e primary = 0) : False := by
  have hfound (r : PacketRecord) (hr : r ∈ L) : r.isNull = true := by
    obtain ⟨hfind, hafter, hbefore⟩ := hevidence.found hr
    have hfirst := anchor_lt_gapFirstIndex kind e primary m
    exact h.null_of_between hfind (by omega) hbefore
  cases hevidence.plan with
  | nullPosition longer samePrefix range length null => exact hu (h.between.1 ▸ hadjacent rfl)
  | mixedPosition longer samePrefix range length content fits =>
    obtain ⟨r, hr, hcontent⟩ := content
    simp [hfound r hr] at hcontent
  | exactContent notShorter misfit previous count nonempty chosen fits =>
    obtain ⟨r, hr⟩ := List.exists_mem_of_ne_nil L nonempty
    obtain ⟨i, hi⟩ := List.getElem?_of_mem hr
    have hcontent := (exact_counters hevidence.window chosen hi).1
    simp [hfound r hr] at hcontent

/-- Without a surviving null packet the null recovery has its evidence. -/
theorem LostStuffing.evidence (h : LostStuffing e primary m N 0 v)
    (hbefore : beforeAnchorHolds e = true) (hcontent : m.isNull = false) :
    ∃ L, GapEvidence e primary m .nullPosition L ∧ L.map (·.packet) = List.replicate v N := by
  obtain ⟨L, hlength, hrange, hnull⟩ := h.delivered
  obtain ⟨hprimary, hsecondary⟩ := h.between
  have hp := h.primaryIndex
  have hs := h.secondaryIndex
  have hlost := h.lost
  have hburst := h.burst
  obtain ⟨hreleased, hclean⟩ := h.released
  refine ⟨L, ?_, ?_⟩
  · refine ⟨?_, by omega, h.confidence, hbefore, ?_, fun r hr => (hnull r hr).2.1, ?_⟩
    · exact noGapWindow_eq_false_iff.mpr ⟨hreleased, hclean, h.anchored, by omega, by omega⟩
    · simp [afterAnchorHolds, hreleased, hcontent, h.candidate.2]
    · refine .nullPosition (by omega) ?_ ?_ ?_ fun r hr => (hnull r hr).1
      · rw [windowPrefixMatches, hprimary]
        rfl
      · rw [firstCandidateIndex, hprimary]
        exact hrange
      · rw [missingPackets, hprimary, hsecondary]
        exact hlength
  · rw [← hlength]
    exact List.eq_replicate_iff.mpr ⟨by simp, by simpa using fun r hr => (hnull r hr).2.2⟩

end Evidence

/-! ### A release with a null insertion -/

theorem acceptStats_recoveredNull (state : PidState) (r : PacketRecord) (stats : ReportStats) :
    (acceptStats state r stats).recoveredNullPackets = stats.recoveredNullPackets := by
  simp only [acceptStats, observeOutputStats, reportStatsObserveOutputDatagram]
  split_ifs <;> rfl

theorem acceptAll_recoveredNull {route : Route} (L : List PacketRecord) :
    (acceptAll route (gapNullFlag .nullPosition) w L).stats.recoveredNullPackets =
      w.stats.recoveredNullPackets + L.length := by
  induction L generalizing w with
  | nil => rfl
  | cons r rest ih =>
    rw [acceptAll_cons, ih, List.length_cons]
    simp only [acceptRecovered, reportStatsObserveRecovery, acceptRecord_stats, acceptStats_recoveredNull,
      gapNullFlag,
      if_true]
    omega

/-- **A release with a null insertion.** -/
theorem releasePrimary_null {L : List PacketRecord} (hacc : env.Accepting)
    (hundamaged : primary.transportError = false)
    (hunique : UniqueCandidate (openRelease primary w).engine primary m .nullPosition)
    (hadjacent : primaryBetween w.engine primary = 0)
    (hevidence : GapEvidence (openRelease primary w).engine primary m .nullPosition L) :
    ∃ previousCc decision s, releasePrimary env primary w =
      (.next, finishRelease primary w
        { acceptAll (.gap .nullPosition primary m) (gapNullFlag .nullPosition)
            (gapLogged (openRelease primary w) primary L.length previousCc decision) L with
          sinkState := s }) := by
  obtain ⟨previousCc, decision, n, s, hrecover⟩ := recoverBefore_of_null env hunique hadjacent
    hevidence (recordFitsNextOutput (openRelease primary w).engine primary)
  have hrelease := releasePrimary_undamaged env w hundamaged
  have hrecover' : recoverBefore env primary (findSecondaryBoundaryMatches w.engine primary)
      ⟨openRelease primary w, recordFitsNextOutput w.engine primary, false, false⟩ = _ := hrecover
  rw [hrecover'] at hrelease
  by_cases hn : n = L.length
  · rw [if_pos hn] at hrelease
    obtain ⟨s', hsent⟩ := outputRecord_accepting hacc .passThrough
      { acceptAll (.gap .nullPosition primary m) (gapNullFlag .nullPosition)
          (gapLogged (openRelease primary w) primary L.length previousCc decision) L with
        sinkState := s } primary
    refine ⟨previousCc, decision, s', ?_⟩
    rw [hrelease]
    simp only [afterGaps, sendPrimary, Bool.not_true, Bool.and_false, Bool.false_eq_true, if_false, hsent]
    rfl
  · -- the sink refuses nothing
    rw [if_neg hn] at hrelease
    obtain ⟨l, -, -, hends⟩ := (releasePrimary_outcome env primary w).trace
    have hframe := (releasePrimary_outcome env primary w).frame.2.2
    rw [hrelease] at hframe
    rcases hframe with ⟨hnext, -⟩ | ⟨-, hrefuses, -⟩
    · cases hnext
    · exact absurd hacc hrefuses

theorem finishRelease_recoveredNull (w w' : World σ) :
    (finishRelease primary w w').stats.recoveredNullPackets = w'.stats.recoveredNullPackets := by
  simp only [finishRelease, popPrimary, updatePrimaryAnchor_stats, acceptRecord_stats]
  exact acceptStats_recoveredNull _ _ _

/-! ### What is recovered -/

/-- **Lost null stuffing is recovered** exactly when the primary has lost all of it. -/
theorem null_stuffing_recovered_iff {config : RecoveryEngineConfig} {sinkState : σ} {N : Packet}
    {u v : ℕ} (hacc : env.Accepting) (hreach : Reachable env config sinkState w)
    (hfront : delayQueueFront w.engine.primaryQueue = some primary)
    (h : LostStuffing w.engine primary m N u v) :
    SendsStuffing w (releasePrimary env primary w).2 primary N (v - u) ↔ u = 0 := by
  have hconsistent := reachable_consistent hreach
  have hlost := h.lost
  have hopened : LostStuffing (openRelease primary w).engine primary m N u v :=
    ⟨h.1, h.2, h.3, h.4, h.5, h.6, h.7, h.8, h.9, h.10⟩
  constructor
  · rintro ⟨⟨L, hsent, hpackets, -⟩, -⟩
    by_contra hu
    obtain ⟨l, ht, -, hsends⟩ := (releasePrimary_outcome env primary w).sends hacc
    have hsent' : sentRecords (releasePrimary env primary w).2.trace =
        sentRecords w.trace ++ (sentEvents l).map Prod.snd := by
      rw [ht, sentRecords_append]
      rfl
    have halone : sentEvents l = [(.passThrough, primary)] := by
      generalize sentEvents l = sent at hsends ⊢
      cases hsends with
      | replaced damaged check => simp [h.released.2.1] at damaged
      | alone => rfl
      | @inserted kind secondaryMatch L' unique evidence adjacent =>
        have hmem := unique.mem.1
        rw [hopened.only] at hmem
        obtain rfl := List.mem_singleton.mp hmem
        exact (hopened.no_insertion hu unique evidence adjacent).elim
    rw [hsent', halone, List.append_assoc] at hsent
    have hnil : L = [] := by
      have hlength := congrArg List.length (List.append_cancel_left hsent)
      simpa using hlength
    rw [hnil] at hpackets
    have hlength := congrArg List.length hpackets
    simp only [List.map_nil, List.length_nil, List.length_replicate] at hlength
    omega
  · rintro rfl
    have hbefore := beforeAnchorHolds_of_held hconsistent (reachable_anchorSet hreach).1 h.anchored
      h.held.1 h.held.2
    have hsame := (hconsistent.nullByPid_of_front (s := .primary) hfront).isNull_eq
      (hconsistent.nullByPid_of_find h.candidate.1) h.candidate.2
    have hcontent : m.isNull = false := hsame.symm.trans h.released.1
    obtain ⟨L, hevidence, hpackets⟩ := hopened.evidence hbefore hcontent
    have hunique : UniqueCandidate (openRelease primary w).engine primary m .nullPosition := by
      have hvalid := gapValidator_valid_iff.mpr ⟨L, hevidence⟩
      refine ⟨findSecondaryBoundaryMatches_complete (by rw [hopened.only]; simp), ?_⟩
      rw [acceptedCandidates, hopened.only]
      simp [hvalid]
    obtain ⟨previousCc, decision, s, hrelease⟩ := releasePrimary_null hacc h.released.2.1 hunique
      h.between.1 hevidence
    obtain ⟨d, hd⟩ := gapLogged_trace (openRelease primary w) primary L.length previousCc decision
    have hnull : ∀ r ∈ L, r.isNull = true := by
      cases hevidence.plan with
      | nullPosition longer samePrefix range length null => exact null
    rw [hrelease]
    refine ⟨⟨L, ?_, hpackets, hnull⟩, ?_⟩
    · rw [finishRelease_sentRecords]
      congr 1
      simp only [acceptAll_trace, hd]
      have hopen : sentRecords (openRelease primary w).trace = sentRecords w.trace :=
        congrArg (List.map Prod.snd) (openRelease_sameOutput primary w).sent
      have hlog : sentRecords [.decision d] = [] := rfl
      rw [sentRecords_append, sentRecords_append, sentRecords_map_sent, hopen, hlog, List.append_nil]
    · have hlength : L.length = v := by
        have hlengths := congrArg List.length hpackets
        simpa using hlengths
      rw [finishRelease_recoveredNull, Nat.sub_zero, ← hlength]
      exact acceptAll_recoveredNull L

/-! ### Stuffing of which some survives -/

/-- A packet, `u` null packets on the primary and `v` on the secondary, and a packet. -/
def stuffingOps (u v : ℕ) : List Op :=
  [.push .secondary (pcrPacket 0x100 0 1).parse, .push .primary (pcrPacket 0x100 0 1).parse] ++
    List.replicate v (.push .secondary nullPacket) ++ [.push .secondary (payloadPacket 0x100 1 1).parse] ++
    List.replicate u (.push .primary nullPacket) ++ [.push .primary (payloadPacket 0x100 1 1).parse]

/-- All but the last packet of the primary arrive at time 1, and are sent when the last arrives at
time 8. -/
def stuffingEnv (reads : ℕ) : Env Unit := scriptedEnv (List.replicate reads 1) 8

/-- One of three null packets survives. -/
def survivingWorld : World Unit :=
  run (stuffingEnv 18) (freshWorld { promptConfig with primaryDelayNs := 5 } ()) (stuffingOps 1 3)

/-- Both null packets are lost. -/
def lostWorld : World Unit :=
  run (stuffingEnv 14) (freshWorld { promptConfig with primaryDelayNs := 5 } ()) (stuffingOps 0 2)

/-- The waiting record of the primary behind `u` null packets, and its copy behind `v`. -/
def stuffingPair (u v : ℕ) : PacketRecord × PacketRecord :=
  (makeRecord .primary (u + 1) 8 (payloadPacket 0x100 1 1).parse,
    makeRecord .secondary (v + 1) 1 (payloadPacket 0x100 1 1).parse)

/-- Null records of a stream at time 1. -/
def nullRecords (streamId : StreamId) (n : ℕ) : List PacketRecord :=
  (List.range' 1 n).map fun i => makeRecord streamId i 1 nullPacket

theorem nullRecords_null {streamId : StreamId} {n : ℕ} : ∀ r ∈ nullRecords streamId n,
    r.isNull = true ∧ r.Clean ∧ r.packet = nullPacket.packet := by
  have hnull : nullPacket.info.isNull = true ∧ nullPacket.info.transportError = false ∧
      nullPacket.info.discontinuityIndicator = false := by decide +kernel
  intro r hr
  obtain ⟨i, -, rfl⟩ := List.mem_map.mp hr
  exact ⟨hnull.1, hnull.2, rfl⟩

/-- What is looked up when `stuffingOps u v` has run. -/
def StuffingFound (w : World Unit) (u v : ℕ) : Prop :=
  (delayQueueFront w.engine.primaryQueue = some (stuffingPair u v).1 ∧
    w.engine.lastPrimaryAnchor = ⟨true, 0, 0⟩ ∧
    (packetHistoryFindIndex (w.engine.history .primary) 0 ≠ none ∧
      packetHistoryFindIndex (w.engine.history .secondary) 0 ≠ none) ∧
    w.engine.config.minAlignmentConfidence ≤ w.engine.alignment.confidence ∧
    (findSecondaryBoundaryMatches w.engine (stuffingPair u v).1).records = [(stuffingPair u v).2]) ∧
  HistoryRange (w.engine.history .primary) 1 (nullRecords .primary u) ∧
  HistoryRange (w.engine.history .secondary) 1 (nullRecords .secondary v) ∧
  v - u ≤ w.engine.config.maxContentBurstPackets

instance decidableStuffingFound (w : World Unit) (u v : ℕ) : Decidable (StuffingFound w u v) :=
  inferInstanceAs (Decidable (_ ∧ _))

theorem StuffingFound.lostStuffing {w : World Unit} {u v : ℕ} (h : StuffingFound w u v) (huv : u < v) :
    LostStuffing w.engine (stuffingPair u v).1 (stuffingPair u v).2 nullPacket.packet u v := by
  obtain ⟨⟨-, hanchor, hheld, hconfidence, honly⟩, hprimary, hsecondary, hburst⟩ := h
  have hlength (s : StreamId) (n : ℕ) : (nullRecords s n).length = n := by
    rw [nullRecords, List.length_map, List.length_range']
  refine ⟨?_, ?_, hconfidence, honly, ?_, ?_, ?_, ?_, huv, hburst⟩
  · rw [hanchor]
  · rw [hanchor]
    exact hheld
  · rw [hanchor]
    exact Nat.add_comm u 1
  · rw [hanchor]
    exact Nat.add_comm v 1
  · rw [hanchor]
    exact ⟨nullRecords .primary u, hlength _ _, hprimary, nullRecords_null⟩
  · rw [hanchor]
    exact ⟨nullRecords .secondary v, hlength _ _, hsecondary, nullRecords_null⟩

theorem lostWorld_reachable :
    Reachable (stuffingEnv 14) { promptConfig with primaryDelayNs := 5 } () lostWorld :=
  run_reachable _ _ _ _

theorem lostWorld_found : StuffingFound lostWorld 0 2 := by decide +kernel

/-- The lost packets are recovered where both are lost. -/
theorem null_stuffing_recovered_lostWorld :
    SendsStuffing lostWorld (releasePrimary (stuffingEnv 14) (stuffingPair 0 2).1 lostWorld).2
      (stuffingPair 0 2).1 nullPacket.packet 2 := by
  have hacc : (stuffingEnv 14).Accepting := scriptedEnv_accepting _ _
  exact (null_stuffing_recovered_iff hacc lostWorld_reachable lostWorld_found.1.1
    (lostWorld_found.lostStuffing (by omega))).mpr rfl

theorem survivingWorld_reachable :
    Reachable (stuffingEnv 18) { promptConfig with primaryDelayNs := 5 } () survivingWorld :=
  run_reachable _ _ _ _

theorem survivingWorld_found : StuffingFound survivingWorld 1 3 ∧
    (releasePrimary (stuffingEnv 18) (stuffingPair 1 3).1 survivingWorld).2.stats.recoveredNullPackets ≠
      survivingWorld.stats.recoveredNullPackets + (3 - 1) := by
  decide +kernel

/-- Behind the surviving packet the two lost ones are not recovered. -/
theorem null_stuffing_not_recovered :
    (stuffingEnv 18).Accepting ∧
      Reachable (stuffingEnv 18) { promptConfig with primaryDelayNs := 5 } () survivingWorld ∧
      delayQueueFront survivingWorld.engine.primaryQueue = some (stuffingPair 1 3).1 ∧
      LostStuffing survivingWorld.engine (stuffingPair 1 3).1 (stuffingPair 1 3).2 nullPacket.packet 1 3 ∧
      ¬ SendsStuffing survivingWorld
        (releasePrimary (stuffingEnv 18) (stuffingPair 1 3).1 survivingWorld).2
        (stuffingPair 1 3).1 nullPacket.packet (3 - 1) := by
  obtain ⟨hfound, hcount⟩ := survivingWorld_found
  exact ⟨scriptedEnv_accepting _ _, survivingWorld_reachable, hfound.1.1, hfound.lostStuffing (by omega),
    fun hsends => hcount hsends.2⟩

end TwoStream
