import TwoStreamRecovery.AlignmentEvidence
import TwoStreamRecovery.Engine.Candidates
import TwoStreamRecovery.Lib.Collect

/-!
# The after-anchor candidates of a record

* `InScan`: the secondary indices that are searched for a primary record; `boundaryMatches`: the
  records there that match it.
* `matchesFrom`: the matches of a range of indices; `findSecondaryBoundaryMatches_pair`: the search
  offers those of three ranges, one after the other.
* **`boundary_matches_complete`**: what is collected is all of `boundaryMatches`, unless there are more
  than 64.
-/

namespace TwoStream

variable {σ : Type} {env : Env σ} {w : World σ} {config : RecoveryEngineConfig} {sinkState : σ}
  {e : RecoveryEngine} {primary r : PacketRecord} {index n : ℕ}

/-! ### What is searched -/

/-- The indices within 8 of the aligned index. -/
def InAlignedScan (e : RecoveryEngine) (primary : PacketRecord) (i : ℕ) : Prop :=
  e.alignment.hasAlignment = true ∧
    primary.streamIndex + e.alignment.offsetPackets - 8 ≤ i ∧
    i ≤ primary.streamIndex + e.alignment.offsetPackets + 8

/-- The indices after the anchor that are scanned. -/
def InAnchoredScan (e : RecoveryEngine) (primary : PacketRecord) (i : ℕ) : Prop :=
  e.lastPrimaryAnchor.valid = true ∧ e.lastPrimaryAnchor.primaryIndex < primary.streamIndex ∧
    e.lastPrimaryAnchor.secondaryIndex + 1 ≤ i ∧
    i ≤ e.lastPrimaryAnchor.secondaryIndex + 1 + primaryBetween e primary +
      max (e.config.maxContentBurstPackets + 1) 255

instance (e : RecoveryEngine) (primary : PacketRecord) (i : ℕ) :
    Decidable (InAlignedScan e primary i) := by
  unfold InAlignedScan
  infer_instance

instance (e : RecoveryEngine) (primary : PacketRecord) (i : ℕ) :
    Decidable (InAnchoredScan e primary i) := by
  unfold InAnchoredScan
  infer_instance

/-- The records of the secondary history that are searched and match. -/
def boundaryMatches (e : RecoveryEngine) (primary : PacketRecord) : List PacketRecord :=
  (e.history .secondary).toList.filter fun r =>
    recordsExactNonErrorMatch primary r &&
      decide (InAlignedScan e primary r.streamIndex ∨ InAnchoredScan e primary r.streamIndex)

theorem mem_boundaryMatches :
    r ∈ boundaryMatches e primary ↔ r ∈ (e.history .secondary).toList ∧
      recordsExactNonErrorMatch primary r = true ∧
        (InAlignedScan e primary r.streamIndex ∨ InAnchoredScan e primary r.streamIndex) := by
  rw [boundaryMatches, List.mem_filter, Bool.and_eq_true, decide_eq_true_eq]

/-! ### The search -/

/-- The match at an index. -/
def matchAt (e : RecoveryEngine) (primary : PacketRecord) (index : ℕ) : Option PacketRecord :=
  (packetHistoryFindIndex (e.history .secondary) index).filter (recordsExactNonErrorMatch primary)

/-- The matches at `n` indices from `index` on. -/
def matchesFrom (e : RecoveryEngine) (primary : PacketRecord) (n index : ℕ) : List PacketRecord :=
  (List.range' index n).filterMap (matchAt e primary)

/-- One candidate, as an item of the collection. -/
def offerCandidate : List PacketRecord × Bool → PacketRecord → List PacketRecord × Bool :=
  collect (·.streamIndex) 64

/-- The candidates as a collection. -/
def SecondaryAfterAnchorCandidates.pair (c : SecondaryAfterAnchorCandidates) :
    List PacketRecord × Bool := (c.records, c.truncated)

theorem addSecondaryAfterAnchorCandidate_pair (c : SecondaryAfterAnchorCandidates) (r : PacketRecord) :
    (addSecondaryAfterAnchorCandidate c r).pair = offerCandidate c.pair r := by
  have hany : c.records.any (fun x => x.streamIndex == r.streamIndex) = true ↔
      ∃ x ∈ c.records, x.streamIndex = r.streamIndex := by
    simp
  by_cases hthere : ∃ x ∈ c.records, x.streamIndex = r.streamIndex
  · have hsame : offerCandidate c.pair r = c.pair := if_pos hthere
    rw [addSecondaryAfterAnchorCandidate, if_pos (hany.mpr hthere), hsame]
  · rw [addSecondaryAfterAnchorCandidate, if_neg fun h => hthere (hany.mp h)]
    by_cases hfull : 64 ≤ c.records.length
    · have hnoted : offerCandidate c.pair r = (c.records, true) := (if_neg hthere).trans (if_pos hfull)
      rw [if_pos hfull, hnoted]
      rfl
    · have hadded : offerCandidate c.pair r = (c.records ++ [r], c.truncated) :=
        (if_neg hthere).trans (if_neg hfull)
      rw [if_neg hfull, hadded]
      rfl

theorem collectAt_pair (c : SecondaryAfterAnchorCandidates) :
    (collectAt (e.history .secondary) primary index c).pair =
      (matchAt e primary index).toList.foldl offerCandidate c.pair := by
  unfold collectAt matchAt
  cases packetHistoryFindIndex (e.history .secondary) index with
  | none => rfl
  | some r =>
    simp only [Option.filter]
    split
    · exact addSecondaryAfterAnchorCandidate_pair c r
    · rfl

/-- **A range is searched** by offering its matches. -/
theorem collectCandidatesInRange_pair (c : SecondaryAfterAnchorCandidates) :
    (collectCandidatesInRange (e.history .secondary) primary n index c).pair =
      (matchesFrom e primary n index).foldl offerCandidate c.pair := by
  induction n generalizing index c with
  | zero => rfl
  | succ n ih =>
    rw [collectCandidatesInRange_succ, ih, collectAt_pair, ← List.foldl_append, matchesFrom, matchesFrom,
      List.range'_succ, List.filterMap_cons]
    cases matchAt e primary index <;> rfl

/-- The matches offered around the aligned index. -/
def alignedMatches (e : RecoveryEngine) (primary : PacketRecord) : List PacketRecord :=
  let expectedIndex : ℤ := primary.streamIndex + e.alignment.offsetPackets
  if e.alignment.hasAlignment then
    (if 0 ≤ expectedIndex then (matchAt e primary expectedIndex.toNat).toList else []) ++
      if 0 ≤ expectedIndex + 8 then
        matchesFrom e primary ((expectedIndex + 8).toNat + 1 - (expectedIndex - 8).toNat)
          (expectedIndex - 8).toNat
      else []
  else []

/-- The matches offered after the anchor. -/
def anchoredMatches (e : RecoveryEngine) (primary : PacketRecord) : List PacketRecord :=
  if e.lastPrimaryAnchor.valid = true ∧ e.lastPrimaryAnchor.primaryIndex < primary.streamIndex then
    matchesFrom e primary (primaryBetween e primary + max (e.config.maxContentBurstPackets + 1) 255 + 1)
      (e.lastPrimaryAnchor.secondaryIndex + 1)
  else []

theorem alignedBoundaryMatches_pair (c : SecondaryAfterAnchorCandidates) :
    (alignedBoundaryMatches e primary c).pair =
      (alignedMatches e primary).foldl offerCandidate c.pair := by
  by_cases haligned : e.alignment.hasAlignment = true
  · have hexact (expectedIndex : ℤ) :
        (if 0 ≤ expectedIndex then
            collectAt (e.history .secondary) primary expectedIndex.toNat c
          else c).pair =
          (if 0 ≤ expectedIndex then (matchAt e primary expectedIndex.toNat).toList else []).foldl
            offerCandidate c.pair := by
      split
      · exact collectAt_pair c
      · rfl
    simp only [alignedMatches]
    rw [if_pos haligned, List.foldl_append, ← hexact, alignedBoundaryMatches,
      if_neg (by simp [haligned])]
    simp only
    split
    · exact collectCandidatesInRange_pair _
    · rfl
  · rw [alignedBoundaryMatches, if_pos (by simpa using haligned), alignedMatches, if_neg haligned]
    rfl

theorem anchoredBoundaryMatches_pair (c : SecondaryAfterAnchorCandidates) :
    (anchoredBoundaryMatches e primary c).pair =
      (anchoredMatches e primary).foldl offerCandidate c.pair := by
  by_cases hscan : e.lastPrimaryAnchor.valid = true ∧
      e.lastPrimaryAnchor.primaryIndex < primary.streamIndex
  · rw [anchoredBoundaryMatches, if_neg (by simp [hscan]), anchoredMatches, if_pos hscan]
    have hlength : e.lastPrimaryAnchor.secondaryIndex + 1 + primaryBetween e primary +
        (if e.config.maxContentBurstPackets + 1 < 255 then 255 else e.config.maxContentBurstPackets + 1) +
          1 - (e.lastPrimaryAnchor.secondaryIndex + 1) =
        primaryBetween e primary + max (e.config.maxContentBurstPackets + 1) 255 + 1 := by
      split <;> omega
    rw [← hlength]
    exact collectCandidatesInRange_pair c
  · rw [anchoredBoundaryMatches, if_pos, anchoredMatches, if_neg hscan]
    · rfl
    · rw [Bool.or_eq_true, Bool.not_eq_true', decide_eq_true_eq]
      by_contra hnone
      rw [not_or, Bool.not_eq_false, Nat.not_le] at hnone
      exact hscan hnone

theorem findSecondaryBoundaryMatches_pair (hnull : primary.isNull = false) (hclean : primary.Clean) :
    (findSecondaryBoundaryMatches e primary).pair =
      (alignedMatches e primary ++ anchoredMatches e primary).foldl offerCandidate ([], false) := by
  rw [findSecondaryBoundaryMatches, hnull, hclean.1, hclean.2, if_neg (by simp),
    anchoredBoundaryMatches_pair, alignedBoundaryMatches_pair, List.foldl_append]
  rfl

/-! ### What is offered -/

theorem matchAt_eq_some_iff (hw : Consistent w) :
    matchAt w.engine primary index = some r ↔ r ∈ (w.engine.history .secondary).toList ∧
      recordsExactNonErrorMatch primary r = true ∧ r.streamIndex = index := by
  rw [matchAt, Option.filter_eq_some_iff, hw.find_eq_some_iff]
  constructor
  · rintro ⟨⟨hmem, hindex⟩, hmatch⟩
    exact ⟨hmem, hmatch, hindex⟩
  · rintro ⟨hmem, hmatch, hindex⟩
    exact ⟨⟨hmem, hindex⟩, hmatch⟩

theorem mem_matchesFrom (hw : Consistent w) :
    r ∈ matchesFrom w.engine primary n index ↔ r ∈ (w.engine.history .secondary).toList ∧
      recordsExactNonErrorMatch primary r = true ∧ index ≤ r.streamIndex ∧
        r.streamIndex < index + n := by
  simp only [matchesFrom, List.mem_filterMap, List.mem_range'_1, matchAt_eq_some_iff hw]
  constructor
  · rintro ⟨i, hi, hmem, hmatch, rfl⟩
    exact ⟨hmem, hmatch, hi⟩
  · rintro ⟨hmem, hmatch, hi⟩
    exact ⟨r.streamIndex, hi, hmem, hmatch, rfl⟩

theorem mem_alignedMatches (hw : Consistent w) :
    r ∈ alignedMatches w.engine primary ↔ r ∈ (w.engine.history .secondary).toList ∧
      recordsExactNonErrorMatch primary r = true ∧ InAlignedScan w.engine primary r.streamIndex := by
  unfold alignedMatches InAlignedScan
  by_cases haligned : w.engine.alignment.hasAlignment = true
  · simp only
    generalize hexpected : (primary.streamIndex + w.engine.alignment.offsetPackets : ℤ) = expectedIndex
    rw [if_pos haligned, List.mem_append, and_iff_right haligned]
    have hexact (h : r ∈ if 0 ≤ expectedIndex then
        (matchAt w.engine primary expectedIndex.toNat).toList else []) :
        r ∈ (w.engine.history .secondary).toList ∧ recordsExactNonErrorMatch primary r = true ∧
          (r.streamIndex : ℤ) = expectedIndex := by
      split at h
      · next hpos =>
        rw [Option.mem_toList, matchAt_eq_some_iff hw] at h
        obtain ⟨hmem, hmatch, hindex⟩ := h
        exact ⟨hmem, hmatch, by omega⟩
      · cases h
    have hrange : (r ∈ if 0 ≤ expectedIndex + 8 then
        matchesFrom w.engine primary ((expectedIndex + 8).toNat + 1 - (expectedIndex - 8).toNat)
          (expectedIndex - 8).toNat else []) ↔
        r ∈ (w.engine.history .secondary).toList ∧ recordsExactNonErrorMatch primary r = true ∧
          expectedIndex - 8 ≤ r.streamIndex ∧ (r.streamIndex : ℤ) ≤ expectedIndex + 8 := by
      split
      · rw [mem_matchesFrom hw]
        exact and_congr_right fun _ => and_congr_right fun _ => by omega
      · refine iff_of_false List.not_mem_nil fun h => ?_
        omega
    rw [hrange, or_iff_right_of_imp]
    intro h
    obtain ⟨hmem, hmatch, hindex⟩ := hexact h
    exact ⟨hmem, hmatch, by omega, by omega⟩
  · simp only
    rw [if_neg haligned]
    exact iff_of_false List.not_mem_nil fun h => haligned h.2.2.1

theorem mem_anchoredMatches (hw : Consistent w) :
    r ∈ anchoredMatches w.engine primary ↔ r ∈ (w.engine.history .secondary).toList ∧
      recordsExactNonErrorMatch primary r = true ∧ InAnchoredScan w.engine primary r.streamIndex := by
  unfold anchoredMatches InAnchoredScan
  split
  · next hscan =>
    rw [mem_matchesFrom hw]
    refine and_congr_right fun _ => and_congr_right fun _ => ?_
    rw [and_iff_right hscan.1, and_iff_right hscan.2]
    exact and_congr_right fun _ => by omega
  · next hscan =>
    refine iff_of_false (List.not_mem_nil) ?_
    rintro ⟨-, -, hvalid, hprimary, -⟩
    exact hscan ⟨hvalid, hprimary⟩

/-- **Three ranges are offered:** the matches at the searched indices. -/
theorem mem_offered (hw : Consistent w) :
    r ∈ alignedMatches w.engine primary ++ anchoredMatches w.engine primary ↔
      r ∈ boundaryMatches w.engine primary := by
  rw [List.mem_append, mem_alignedMatches hw, mem_anchoredMatches hw, mem_boundaryMatches, ← and_or_left,
    ← and_or_left]

/-! ### What is collected -/

theorem boundaryMatches_nodup (hw : Consistent w) : (boundaryMatches w.engine primary).Nodup :=
  (hw.nodup_history .secondary).of_map.filter _

theorem Consistent.eq_of_index (hw : Consistent w) {a b : PacketRecord} {s : StreamId}
    (ha : a ∈ (w.engine.history s).toList) (hb : b ∈ (w.engine.history s).toList)
    (hindex : a.streamIndex = b.streamIndex) : a = b :=
  List.inj_on_of_nodup_map (hw.nodup_history s) ha hb hindex

/-- The search as a collection of `boundaryMatches`. -/
theorem boundaryMatches_collected (hw : Consistent w) (hnull : primary.isNull = false)
    (hclean : primary.Clean) :
    Collected 64 (boundaryMatches w.engine primary).toFinset
      (findSecondaryBoundaryMatches w.engine primary).pair := by
  have hoffered : (∅ : Finset PacketRecord) ∪
      (alignedMatches w.engine primary ++ anchoredMatches w.engine primary).toFinset =
        (boundaryMatches w.engine primary).toFinset := by
    ext r
    rw [Finset.empty_union, List.mem_toFinset, List.mem_toFinset, mem_offered hw]
  rw [findSecondaryBoundaryMatches_pair hnull hclean, ← hoffered]
  refine collected_nil.foldl _ fun a ha b hb hindex => ?_
  rw [hoffered, List.mem_toFinset] at ha
  exact hw.eq_of_index (mem_boundaryMatches.mp ha).1 (mem_boundaryMatches.mp ((mem_offered hw).mp hb)).1
    hindex

/-- **After-anchor candidates are collected completely.** They stand at different indices and match; if
there are at most 64 matches at the searched indices they are all of them, and otherwise the search
says that it was cut off. -/
theorem boundary_matches_complete (hreach : Reachable env config sinkState w) {primary : PacketRecord}
    (hnull : primary.isNull = false) (hclean : primary.Clean) :
    let candidates := findSecondaryBoundaryMatches w.engine primary
    (candidates.records.map (·.streamIndex)).Nodup ∧
      (∀ r ∈ candidates.records, recordsExactNonErrorMatch primary r = true) ∧
      (candidates.truncated = false →
        ∀ r, r ∈ candidates.records ↔ r ∈ boundaryMatches w.engine primary) ∧
      (candidates.truncated = true ↔ 64 < (boundaryMatches w.engine primary).length) := by
  intro candidates
  have hw := reachable_consistent hreach
  have hcollected := boundaryMatches_collected hw hnull hclean
  have hfound (r : PacketRecord) (hr : r ∈ candidates.records) :
      r ∈ boundaryMatches w.engine primary := List.mem_toFinset.mp (hcollected.offered r hr)
  refine ⟨?_, fun r hr => (mem_boundaryMatches.mp (hfound r hr)).2.1, fun hcomplete r => ?_, ?_⟩
  · refine hcollected.nodup.map_on fun a ha b hb hindex => ?_
    exact hw.eq_of_index (mem_boundaryMatches.mp (hfound a ha)).1
      (mem_boundaryMatches.mp (hfound b hb)).1 hindex
  · exact ⟨hfound r, fun hr => hcollected.complete hcomplete r (List.mem_toFinset.mpr hr)⟩
  · rw [← List.toFinset_card_of_nodup (boundaryMatches_nodup hw)]
    exact hcollected.truncated_iff

/-- The eighth pair has aligned the inputs. -/
def eightPairs : List Op := sevenPairs ++ [.push .primary (payloadPacket 0x100 8 8).parse]

def eightPairsWorld : World Unit := run (scriptedEnv [] 1) (freshWorld promptConfig ()) eightPairs

/-- The record of the eighth pair. -/
def eighthRecord : PacketRecord := makeRecord .primary 7 1 (payloadPacket 0x100 8 8).parse

/-- The only candidate for it is its copy, one packet ahead. -/
theorem boundary_matches_complete_eightPairs :
    (boundaryMatches eightPairsWorld.engine eighthRecord).map (·.streamIndex) = [8] ∧
      ((findSecondaryBoundaryMatches eightPairsWorld.engine eighthRecord).truncated = true ↔
        64 < (boundaryMatches eightPairsWorld.engine eighthRecord).length) :=
  ⟨by decide +kernel,
    (boundary_matches_complete (run_reachable (scriptedEnv [] 1) promptConfig () eightPairs)
      rfl ⟨rfl, rfl⟩).2.2.2⟩

end TwoStream
