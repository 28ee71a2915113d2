import Mathlib.Data.List.Nodup
import TwoStreamRecovery.Invariant

/-!
# Insertions rest on evidence

* `GapEvidence.found`, `GapEvidence.nodup`: where inserted records come from.
* `gap_insertion_sound`: whatever a release inserts before its record lies between the anchor and
  the unique after-anchor.
-/

namespace TwoStream

variable {σ : Type} {env : Env σ} {w : World σ}

/-! ### Consequences of the evidence -/

section Evidence

variable {e : RecoveryEngine} {primary secondaryMatch : PacketRecord} {kind : GapKind}
  {L : List PacketRecord}

/-- The region of the null and mixed recoveries ends at the after-anchor. -/
theorem region_end (hw : noGapWindow e primary secondaryMatch = false)
    (hlonger : primaryBetween e primary < secondaryBetween e secondaryMatch) :
    firstCandidateIndex e primary + missingPackets e primary secondaryMatch =
      secondaryMatch.streamIndex := by
  obtain ⟨-, -, -, hs, hp⟩ := noGapWindow_eq_false_iff.mp hw
  simp only [firstCandidateIndex, missingPackets, secondaryBetween, primaryBetween] at hlonger ⊢
  omega

/-- The stretch of the secondary stream a recovery takes its records from. -/
def gapFirstIndex (kind : GapKind) (e : RecoveryEngine) (primary secondaryMatch : PacketRecord) : ℕ :=
  match kind with
  | .exactContent => candidateFirstIndex e primary secondaryMatch
  | _ => firstCandidateIndex e primary

theorem anchor_lt_gapFirstIndex (kind : GapKind) (e : RecoveryEngine)
    (primary secondaryMatch : PacketRecord) :
    e.lastPrimaryAnchor.secondaryIndex < gapFirstIndex kind e primary secondaryMatch := by
  cases kind with
  | exactContent =>
    rcases candidateFirstIndex_cases e primary secondaryMatch with h | ⟨h, -⟩
    · simp only [gapFirstIndex]
      omega
    · simp only [gapFirstIndex, h, firstCandidateIndex]
      omega
  | nullPosition =>
    simp only [gapFirstIndex, firstCandidateIndex]
    omega
  | mixedPosition =>
    simp only [gapFirstIndex, firstCandidateIndex]
    omega

/-- **Inserted records** are in the secondary history, in the stretch before the after-anchor. -/
theorem GapEvidence.found (h : GapEvidence e primary secondaryMatch kind L) {r : PacketRecord}
    (hr : r ∈ L) :
    packetHistoryFindIndex (e.history .secondary) r.streamIndex = some r ∧
      gapFirstIndex kind e primary secondaryMatch ≤ r.streamIndex ∧
      r.streamIndex < secondaryMatch.streamIndex := by
  have hw := h.window
  cases h.plan with
  | nullPosition longer samePrefix range length null =>
    obtain ⟨hfind, h1, h2⟩ := range.mem hr
    rw [length, region_end hw longer] at h2
    exact ⟨hfind, h1, h2⟩
  | mixedPosition longer samePrefix range length content fits =>
    obtain ⟨hfind, h1, h2⟩ := range.mem hr
    rw [length, region_end hw longer] at h2
    exact ⟨hfind, h1, h2⟩
  | exactContent notShorter misfit previous count nonempty chosen fits =>
    obtain ⟨i, hi⟩ := List.getElem?_of_mem hr
    obtain ⟨hfind, h1, h2, -⟩ :=
      chooseMissingCandidate_eq_ok hw ((scanExactContent_eq_ok chosen).2 i r hi)
    exact ⟨hfind, h1, h2⟩

/-- The records of the exact recovery carry the missing counters in order. -/
theorem exact_counters {previousCc : ℕ} (hw : noGapWindow e primary secondaryMatch = false)
    (hchosen : scanExactContent e primary secondaryMatch previousCc L.length 0 = .ok L) {i : ℕ}
    {r : PacketRecord} (hr : L[i]? = some r) :
    r.isNull = false ∧ r.pid = primary.pid ∧ r.hasPayload = true ∧
      r.continuityCounter = (previousCc + 1 + i) % 16 := by
  have h := chooseMissingCandidate_eq_ok hw ((scanExactContent_eq_ok hchosen).2 i r hr)
  refine ⟨h.2.2.2.1, h.2.2.2.2.2.1, h.2.2.2.2.2.2.1, ?_⟩
  rw [h.2.2.2.2.2.2.2]
  congr 1
  omega

/-- **No record is inserted twice.** -/
theorem GapEvidence.nodup (h : GapEvidence e primary secondaryMatch kind L) :
    (L.map (·.streamIndex)).Nodup := by
  have hw := h.window
  have hrange : ∀ index, HistoryRange (e.history .secondary) index L →
      (L.map (·.streamIndex)).Nodup := fun index hrange => by
    rw [hrange.indices]
    exact List.nodup_range'
  cases h.plan with
  | nullPosition longer samePrefix range length null => exact hrange _ range
  | mixedPosition longer samePrefix range length content fits => exact hrange _ range
  | exactContent notShorter misfit previous count nonempty chosen fits =>
    -- equal indices are equal records, and the counters of different ones differ
    have hle := ccMissingCount_le count
    rw [List.nodup_iff_injective_getElem]
    rintro ⟨i, hi⟩ ⟨j, hj⟩ hij
    simp only [List.length_map] at hi hj
    simp only [List.getElem_map] at hij
    have hrecord : L[i] = L[j] := by
      have h1 := (h.found (List.getElem_mem hi)).1
      have h2 := (h.found (List.getElem_mem hj)).1
      rw [hij] at h1
      exact Option.some.inj (h1.symm.trans h2)
    have h1 := (exact_counters hw chosen (List.getElem?_eq_getElem hi)).2.2.2
    have h2 := (exact_counters hw chosen (List.getElem?_eq_getElem hj)).2.2.2
    rw [hrecord, h2] at h1
    exact Fin.ext (by simp only; omega)

end Evidence

/-! ### Soundness -/

/-- What stands behind the insertion of the records `L` before `primary`. -/
structure SoundInsertion (e : RecoveryEngine) (primary secondaryMatch : PacketRecord)
    (kind : GapKind) (L : List PacketRecord) : Prop where
  anchor : e.lastPrimaryAnchor.valid = true ∧ ∃ a b,
    packetHistoryFindIndex (e.history .primary) e.lastPrimaryAnchor.primaryIndex = some a ∧
    packetHistoryFindIndex (e.history .secondary) e.lastPrimaryAnchor.secondaryIndex = some b ∧
    a.isNull = false ∧ b.isNull = false ∧ recordsExactNonErrorMatch a b = true
  afterAnchor : primary.isNull = false ∧ secondaryMatch.isNull = false ∧
    recordsExactNonErrorMatch primary secondaryMatch = true
  unique : UniqueCandidate e primary secondaryMatch kind
  between : ∀ r ∈ L, r ∈ (e.history .secondary).toList ∧
    e.lastPrimaryAnchor.secondaryIndex < r.streamIndex ∧ r.streamIndex < secondaryMatch.streamIndex
  clean : ∀ r ∈ L, r.transportError = false ∧ r.discontinuityIndicator = false
  nodup : (L.map (·.streamIndex)).Nodup
  burst : L.length ≤ e.config.maxContentBurstPackets ∧ L.length ≤ 255
  confidence : e.config.minAlignmentConfidence ≤ e.alignment.confidence
  null : kind = .nullPosition → ∀ r ∈ L, r.isNull = true
  content : kind = .mixedPosition → ∃ r ∈ L, r.isNull = false
  exact : kind = .exactContent →
    ∀ r ∈ L, r.isNull = false ∧ r.hasPayload = true ∧ r.pid = primary.pid

theorem soundInsertion_of_evidence {e : RecoveryEngine} {primary secondaryMatch : PacketRecord}
    {kind : GapKind} {L : List PacketRecord} (hmax : e.config.maxContentBurstPackets ≤ 255)
    (hunique : UniqueCandidate e primary secondaryMatch kind)
    (h : GapEvidence e primary secondaryMatch kind L) :
    SoundInsertion e primary secondaryMatch kind L where
  anchor := by
    obtain ⟨a, b, ha, hb, hna, hnb, hmatch⟩ := recordsAreNonNullExactAnchor_iff.mp h.before
    exact ⟨(noGapWindow_eq_false_iff.mp h.window).2.2.1, a, b, ha, hb, hna, hnb, hmatch⟩
  afterAnchor := by simpa [afterAnchorHolds, and_assoc] using h.after
  unique := hunique
  between r hr := by
    obtain ⟨hfind, h1, h2⟩ := h.found hr
    have := anchor_lt_gapFirstIndex kind e primary secondaryMatch
    exact ⟨packetHistoryFindIndex_mem hfind, by omega, h2⟩
  clean := h.clean
  nodup := h.nodup
  burst := ⟨h.burst, h.burst.trans hmax⟩
  confidence := h.confidence
  null hk := by
    subst hk
    cases h.plan with
    | nullPosition longer samePrefix range length null => exact null
  content hk := by
    subst hk
    cases h.plan with
    | mixedPosition longer samePrefix range length content fits => exact content
  exact hk := by
    subst hk
    intro r hr
    cases h.plan with
    | exactContent notShorter misfit previous count nonempty chosen fits =>
      obtain ⟨i, hi⟩ := List.getElem?_of_mem hr
      obtain ⟨hnull, hpid, hpayload, -⟩ := exact_counters h.window chosen hi
      exact ⟨hnull, hpayload, hpid⟩

/-- The records a list of sends has inserted. -/
def gapInserted (sent : List (Route × PacketRecord)) : List PacketRecord :=
  sent.filterMap fun
    | (.gap _ _ _, r) => some r
    | _ => none

theorem gapInserted_gapSent (kind : GapKind) (primary secondaryMatch : PacketRecord)
    (L : List PacketRecord) : gapInserted (gapSent kind primary secondaryMatch L) = L := by
  induction L with
  | nil => rfl
  | cons r rest ih => exact congrArg (r :: ·) ih

/-- **Gap insertion is sound.** In a reachable state, every record a release inserts before
`primary` rests on the anchor, on one accepted after-anchor and on the records between them. -/
theorem gap_insertion_sound {config : RecoveryEngineConfig} {sinkState : σ} (hacc : env.Accepting)
    (hreach : Reachable env config sinkState w) (primary : PacketRecord) :
    ∃ sent, sentEvents (releasePrimary env primary w).2.trace = sentEvents w.trace ++ sent ∧
      ∀ kind primary' secondaryMatch r, (.gap kind primary' secondaryMatch, r) ∈ sent →
        primary' = primary ∧
          SoundInsertion (openRelease primary w).engine primary secondaryMatch kind
            (gapInserted sent) := by
  have hmax : (openRelease primary w).engine.config.maxContentBurstPackets ≤ 255 :=
    (reachable_consistent hreach).burst
  obtain ⟨l, ht, -, hsends⟩ := (releasePrimary_outcome env primary w).sends hacc
  refine ⟨sentEvents l, ?_, ?_⟩
  · have hrelease : sentEvents (Event.release (openRelease primary w).engine :: l) = sentEvents l := rfl
    rw [ht, sentEvents_append, hrelease]
  · generalize sentEvents l = sent at hsends ⊢
    cases hsends with
    | replaced => simp
    | alone => simp
    | @inserted kind secondaryMatch L unique evidence adjacent =>
      intro kind' primary' secondaryMatch' r hr
      have hmem : (Route.gap kind' primary' secondaryMatch', r) ∈
          gapSent kind primary secondaryMatch L := by simpa using hr
      obtain ⟨x, hx, heq⟩ := List.mem_map.mp hmem
      simp only [Prod.mk.injEq, Route.gap.injEq] at heq
      obtain ⟨⟨rfl, rfl, rfl⟩, rfl⟩ := heq
      have hall : gapInserted (gapSent kind primary secondaryMatch L ++ [(.passThrough, primary)]) =
          L := by
        rw [gapInserted, List.filterMap_append]
        change gapInserted (gapSent kind primary secondaryMatch L) ++ [] = L
        rw [gapInserted_gapSent, List.append_nil]
      rw [hall]
      exact ⟨rfl, soundInsertion_of_evidence hmax unique evidence⟩

/-! ### A run with an insertion -/

/-- The packet before the gap arrives on both inputs and is sent at time 8. -/
def gapEnv : Env Unit := scriptedEnv (List.replicate 5 1) 8

/-- The primary then misses the first of two payload packets; the second waits for its delay. -/
def gapWorld : World Unit :=
  run gapEnv (freshWorld { promptConfig with primaryDelayNs := 5 } ())
    [.push .secondary (pcrPacket 0x100 0 1).parse, .push .primary (pcrPacket 0x100 0 1).parse,
      .drain false, .push .secondary (payloadPacket 0x100 1 1).parse,
      .push .secondary (payloadPacket 0x100 2 2).parse,
      .push .primary (payloadPacket 0x100 2 2).parse]

theorem gapWorld_reachable :
    Reachable gapEnv { promptConfig with primaryDelayNs := 5 } () gapWorld := by
  unfold gapWorld
  exact run_reachable gapEnv _ () _

/-- The waiting record. -/
def gapPrimary : PacketRecord := makeRecord .primary 1 8 (payloadPacket 0x100 2 2).parse

theorem gap_insertion_sound_gapWorld :
    delayQueueFront gapWorld.engine.primaryQueue = some gapPrimary ∧
      (sentRecords (releasePrimary gapEnv gapPrimary gapWorld).2.trace).map
        (fun r => (r.sourceStreamId, r.streamIndex)) =
          [(.primary, 0), (.secondary, 1), (.primary, 1)] ∧
      ∃ sent, sentEvents (releasePrimary gapEnv gapPrimary gapWorld).2.trace =
          sentEvents gapWorld.trace ++ sent ∧
        ∀ kind primary secondaryMatch r, (.gap kind primary secondaryMatch, r) ∈ sent →
          primary = gapPrimary ∧
            SoundInsertion (openRelease gapPrimary gapWorld).engine gapPrimary secondaryMatch kind
              (gapInserted sent) := by
  have haccepting : gapEnv.Accepting := scriptedEnv_accepting _ _
  have hsound := gap_insertion_sound haccepting gapWorld_reachable gapPrimary
  exact ⟨by decide +kernel, by decide +kernel, hsound⟩

end TwoStream
