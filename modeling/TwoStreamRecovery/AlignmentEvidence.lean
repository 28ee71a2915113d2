import TwoStreamRecovery.NullAlignment

/-!
# The evidence behind the alignment

* `BackedByRun`: eight consecutive pairs of matching records in the two histories.
* `updateAlignment_backed`: packet runs move the alignment only where there is such a run.
* **`alignment_backed`**: the alignment of a reachable state is that of two equal packets, and a push
  moves it only with a run or with an equal clock reference.
-/

namespace TwoStream

variable {σ : Type} {env : Env σ} {w w' w'' : World σ} {self other : PacketHistory}
  {record found : PacketRecord} {streamId : StreamId} {p : ParsedPacket}

/-! ### Confirmed runs -/

/-- The records `i` of the primary and `j` of the secondary end eight pairs of matching records. -/
def BackedByRun (e : RecoveryEngine) (i j : ℕ) : Prop :=
  ∀ t < 8, t ≤ i ∧ t ≤ j ∧
    ∃ a ∈ (e.history .primary).toList, ∃ b ∈ (e.history .secondary).toList,
      a.streamIndex = i - t ∧ b.streamIndex = j - t ∧ recordsMatch a b = true

/-- The pairs that a backward run has compared. -/
theorem confirmedBackwardRunFrom_pairs {n count : ℕ}
    (h : confirmedBackwardRunFrom self other record found n count = true) {t : ℕ} (hle : count ≤ t)
    (hlt : t < count + n) :
    t ≤ record.streamIndex ∧ t ≤ found.streamIndex ∧ ∃ a ∈ self.toList, ∃ b ∈ other.toList,
      a.streamIndex = record.streamIndex - t ∧ b.streamIndex = found.streamIndex - t ∧
        recordsMatch a b = true := by
  induction n generalizing count with
  | zero => omega
  | succ n ih =>
    simp only [confirmedBackwardRunFrom] at h
    split_ifs at h with hcount
    simp only [Bool.or_eq_true, decide_eq_true_eq, not_or, not_lt] at hcount
    split at h
    · next a b ha hb =>
      rw [Bool.and_eq_true] at h
      rcases Nat.eq_or_lt_of_le hle with rfl | hlater
      · exact ⟨hcount.1, hcount.2, a, packetHistoryFindIndex_mem ha, b, packetHistoryFindIndex_mem hb,
          packetHistoryFindIndex_index ha, packetHistoryFindIndex_index hb, h.1⟩
      · exact ih h.2 hlater (by omega)
    · cases h

/-- The search has compared eight pairs. -/
theorem findConfirmed_pairs {expected : ℤ} {radius : ℕ} (hheld : record ∈ self.toList)
    (h : findConfirmedMatchingRecordNear self other record expected radius 8 = some found) {t : ℕ}
    (ht : t < 8) :
    t ≤ record.streamIndex ∧ t ≤ found.streamIndex ∧ ∃ a ∈ self.toList, ∃ b ∈ other.toList,
      a.streamIndex = record.streamIndex - t ∧ b.streamIndex = found.streamIndex - t ∧
        recordsMatch a b = true := by
  obtain ⟨hmem, hmatch, hrun⟩ := findConfirmedFrom_eq_some h
  rcases Nat.eq_zero_or_pos t with rfl | hpos
  · exact ⟨Nat.zero_le _, Nat.zero_le _, record, hheld, found, hmem, rfl, rfl, hmatch⟩
  · exact confirmedBackwardRunFrom_pairs hrun hpos (by omega)

theorem recordsMatch_symm {a b : PacketRecord} (h : recordsMatch a b = true) :
    recordsMatch b a = true := by
  obtain ⟨ha, hb, hsame⟩ := recordsMatch_iff.mp h
  exact recordsMatch_iff.mpr ⟨hb, ha, recordsExactNonErrorMatch_symm hsame⟩

/-- A run that ends with the record `index` of the stream. -/
def RunEndsAt (e : RecoveryEngine) (streamId : StreamId) (index i j : ℕ) : Prop :=
  BackedByRun e i j ∧
    match streamId with
    | .primary => i = index
    | .secondary => j = index

/-- **Packet runs move the alignment** only to the end of a run. -/
theorem updateAlignment_backed (w : World σ) (record : PacketRecord)
    (hheld : record ∈ (w.engine.history record.sourceStreamId).toList) :
    Unmoved w (updateAlignment w record.sourceStreamId record) ∨
      ∃ i j, RunEndsAt w.engine record.sourceStreamId record.streamIndex i j ∧
        (updateAlignment w record.sourceStreamId record).aligned =
          ⟨true, (j : ℤ) - i, 100, (j : ℤ) - i, 100⟩ := by
  rcases updateAlignment_cases w record with h | ⟨found, expected, radius, hsearch, h⟩
  · exact .inl h
  · have hpairs := fun t ht => findConfirmed_pairs (t := t) hheld hsearch ht
    simp only [pairOffset] at h
    cases hstream : record.sourceStreamId with
    | primary =>
      simp only [hstream] at h hpairs
      exact .inr ⟨record.streamIndex, found.streamIndex, ⟨hpairs, rfl⟩, h⟩
    | secondary =>
      simp only [hstream] at h hpairs
      refine .inr ⟨found.streamIndex, record.streamIndex, ⟨fun t ht => ?_, rfl⟩, h⟩
      obtain ⟨hself, hother, a, ha, b, hb, haIndex, hbIndex, hmatch⟩ := hpairs t ht
      exact ⟨hother, hself, b, hb, a, ha, hbIndex, haIndex, recordsMatch_symm hmatch⟩

/-! ### Pushes -/

/-- The state in which a push compares packet runs. -/
def beforeAlignment (env : Env σ) (streamId : StreamId) (p : ParsedPacket) (w : World σ) : World σ :=
  observeInputPathGap
    (updatePcrTiming (storeRecord env streamId p w).2 (storeRecord env streamId p w).1) streamId
    (storeRecord env streamId p w).1

/-- The state after it. -/
def afterAlignment (env : Env σ) (streamId : StreamId) (p : ParsedPacket) (w : World σ) : World σ :=
  updateAlignment (beforeAlignment env streamId p w) streamId (storeRecord env streamId p w).1

theorem pushIngest_eq (env : Env σ) (streamId : StreamId) (p : ParsedPacket) (w : World σ) :
    pushIngest env streamId p w =
      pushQueue (afterAlignment env streamId p w) streamId (storeRecord env streamId p w).1 := rfl

/-- The record itself is stored. -/
theorem mem_pushHistory (config : RecoveryEngineConfig) (history : PacketHistory) (r : PacketRecord) :
    r ∈ (pushHistory config history r).toList := by
  rcases List.suffix_concat_iff.mp (pushHistory_suffix config history r) with hnil | ⟨t, ht, -⟩
  · exact absurd hnil (pushHistory_ne_nil config history r)
  · rw [ht]
    simp

theorem beforeAlignment_history (env : Env σ) (streamId : StreamId) (p : ParsedPacket) (w : World σ) :
    (beforeAlignment env streamId p w).engine.history =
      (storeRecord env streamId p w).2.engine.history := by
  obtain ⟨a, i, he⟩ := ((updatePcrTiming_observed (storeRecord env streamId p w).2
    (storeRecord env streamId p w).1).trans (observeInputPathGap_observed _ streamId
      (storeRecord env streamId p w).1)).engine
  rw [beforeAlignment, he]

theorem afterAlignment_backed (env : Env σ) (streamId : StreamId) (p : ParsedPacket) (w : World σ) :
    Unmoved (beforeAlignment env streamId p w) (afterAlignment env streamId p w) ∨
      ∃ i j, RunEndsAt (beforeAlignment env streamId p w).engine streamId
          (w.engine.nextStreamIndex streamId) i j ∧
        (afterAlignment env streamId p w).aligned =
          ⟨true, (j : ℤ) - i, 100, (j : ℤ) - i, 100⟩ := by
  have hheld : (storeRecord env streamId p w).1 ∈
      ((beforeAlignment env streamId p w).engine.history streamId).toList := by
    rw [beforeAlignment_history]
    simp only [storeRecord, Function.update_self]
    exact mem_pushHistory _ _ _
  exact updateAlignment_backed (beforeAlignment env streamId p w) (storeRecord env streamId p w).1 hheld

theorem Unmoved.trans (h : Unmoved w w') (h' : Unmoved w' w'') : Unmoved w w'' :=
  ⟨h'.hasAlignment.trans h.hasAlignment, h'.offset.trans h.offset, h'.confidence.trans h.confidence⟩

theorem Unmoved.of_aligned (h : w'.aligned = w.aligned) : Unmoved w w' := by
  simp only [World.aligned, AlignmentView.mk.injEq] at h
  exact ⟨h.1, h.2.1, h.2.2.1.le⟩

/-- Without an equal clock reference the alignment is untouched until packet runs are compared. -/
theorem beforeAlignment_aligned (env : Env σ) (streamId : StreamId) (p : ParsedPacket) (w : World σ) :
    (beforeAlignment env streamId p w).aligned =
      match pcrPartner w.engine (storeRecord env streamId p w).1 with
      | none => w.aligned
      | some found => ⟨true, pairOffset (storeRecord env streamId p w).1 found, 100,
          pairOffset (storeRecord env streamId p w).1 found, 100⟩ := by
  rw [beforeAlignment, observeInputPathGap_aligned, updatePcrTiming_aligned, storeRecord_pcrPartner]
  rfl

/-- A push without a run and without an equal clock reference. -/
theorem push_unmoved
    (hpcr : pcrPartner w.engine
      (makeRecord streamId (w.engine.nextStreamIndex streamId) (env.clock w.reads) p) = none)
    (hrun : ∀ i j, ¬ RunEndsAt (beforeAlignment env streamId p w).engine streamId
      (w.engine.nextStreamIndex streamId) i j) :
    Unmoved w (recoveryEnginePushPacket env streamId p w).2 := by
  have hbefore : Unmoved w (beforeAlignment env streamId p w) := by
    refine .of_aligned ((beforeAlignment_aligned env streamId p w).trans ?_)
    have hnone : pcrPartner w.engine (storeRecord env streamId p w).1 = none := hpcr
    rw [hnone]
  have hafter : Unmoved (beforeAlignment env streamId p w) (afterAlignment env streamId p w) :=
    (afterAlignment_backed env streamId p w).resolve_right fun ⟨i, j, h, _⟩ => hrun i j h
  have hqueue : (pushIngest env streamId p w).aligned = (afterAlignment env streamId p w).aligned := by
    rw [pushIngest_eq]
    exact pushQueue_aligned _ _ _
  have hdrain : (recoveryEnginePushPacket env streamId p w).2.aligned =
      (pushIngest env streamId p w).aligned :=
    (recoveryEngineDrain_consumes env false (pushIngest env streamId p w)).aligned
  exact (hbefore.trans hafter).trans (.of_aligned (hdrain.trans hqueue))

/-! ### Confidence -/

/-- Confidence is a percentage. -/
def ConfidenceBounded (w : World σ) : Prop := w.engine.alignment.confidence ≤ 100

theorem pushIngest_confidence (env : Env σ) (streamId : StreamId) (p : ParsedPacket)
    (hw : ConfidenceBounded w) : ConfidenceBounded (pushIngest env streamId p w) := by
  have hbefore : (beforeAlignment env streamId p w).engine.alignment.confidence ≤ 100 := by
    have h := beforeAlignment_aligned env streamId p w
    split at h
    · exact (Unmoved.of_aligned h).confidence.trans hw
    · simp only [World.aligned, AlignmentView.mk.injEq] at h
      exact h.2.2.1.le
  have hafter : (afterAlignment env streamId p w).engine.alignment.confidence ≤ 100 := by
    rcases afterAlignment_backed env streamId p w with h | ⟨i, j, -, h⟩
    · exact h.confidence.trans hbefore
    · simp only [World.aligned, AlignmentView.mk.injEq] at h
      exact h.2.2.1.le
  have hqueue := pushQueue_aligned (afterAlignment env streamId p w) streamId
    (storeRecord env streamId p w).1
  rw [← pushIngest_eq] at hqueue
  exact (Unmoved.of_aligned hqueue).confidence.trans hafter

theorem reachable_confidence {config : RecoveryEngineConfig} {sinkState : σ}
    (hreach : Reachable env config sinkState w) : ConfidenceBounded w := by
  refine hreach.invariant (I := ConfidenceBounded) (Nat.zero_le _) fun w₁ w₂ hstage _ hw => ?_
  rcases hstage.push_or_consumes with ⟨streamId, p, rfl⟩ | hconsumes
  · exact pushIngest_confidence env streamId p hw
  · exact (Unmoved.of_aligned hconsumes.aligned).confidence.trans hw

/-! ### The evidence -/

/-- **Alignment is always backed by evidence.** The offset of a reachable state is that of two equal
pushed packets, and the copies agree. When a push compares packet runs, it changes the offset only
to that of eight matching pairs; without such a run and without an equal clock reference it leaves
the alignment alone. -/
theorem alignment_backed {config : RecoveryEngineConfig} {sinkState : σ}
    (hreach : Reachable env config sinkState w) :
    (w.engine.alignment.hasAlignment = true →
        ∃ a ∈ pushedRecords .primary w.trace, ∃ b ∈ pushedRecords .secondary w.trace,
          w.engine.alignment.offsetPackets = (b.streamIndex : ℤ) - a.streamIndex ∧
            recordsExactNonErrorMatch a b = true) ∧
      (∀ streamId p,
        (afterAlignment env streamId p w).engine.alignment.offsetPackets ≠
            (beforeAlignment env streamId p w).engine.alignment.offsetPackets →
          ∃ i j, RunEndsAt (beforeAlignment env streamId p w).engine streamId
              (w.engine.nextStreamIndex streamId) i j ∧
            (afterAlignment env streamId p w).engine.alignment.offsetPackets = (j : ℤ) - i) ∧
      (∀ streamId p,
        pcrPartner w.engine
            (makeRecord streamId (w.engine.nextStreamIndex streamId) (env.clock w.reads) p) = none →
          (∀ i j, ¬ RunEndsAt (beforeAlignment env streamId p w).engine streamId
            (w.engine.nextStreamIndex streamId) i j) →
          Unmoved w (recoveryEnginePushPacket env streamId p w).2) ∧
      w.engine.alignment.confidence ≤ 100 ∧
      w.stats.alignmentOffsetPackets = w.engine.alignment.offsetPackets ∧
      w.stats.alignmentConfidence = w.engine.alignment.confidence := by
  have hcopied := reachable_copied hreach
  refine ⟨fun haligned => ?_, fun streamId p hchanged => ?_, fun streamId p hpcr hrun => ?_,
    reachable_confidence hreach, hcopied.offset, hcopied.confidence⟩
  · have hoffset : w.engine.alignedOffset = some w.engine.alignment.offsetPackets := by
      rw [RecoveryEngine.alignedOffset, if_pos haligned]
    exact reachable_alignedByMatch hreach _ hoffset
  · rcases afterAlignment_backed env streamId p w with h | ⟨i, j, hrun, h⟩
    · exact absurd h.offset hchanged
    · simp only [World.aligned, AlignmentView.mk.injEq] at h
      exact ⟨i, j, hrun, h.2.1⟩
  · exact push_unmoved hpcr hrun

/-- The secondary is one packet ahead, and seven packets have arrived on both inputs. -/
def sevenPairs : List Op :=
  (List.range 9).map (fun n => .push .secondary (payloadPacket 0x100 n n).parse) ++
    (List.range 7).map fun n => .push .primary (payloadPacket 0x100 (n + 1) (n + 1)).parse

/-- The eighth pair moves the offset. -/
theorem alignment_backed_eighthPair :
    ∃ i j, RunEndsAt
        (beforeAlignment (scriptedEnv [] 1) .primary (payloadPacket 0x100 8 8).parse
          (run (scriptedEnv [] 1) (freshWorld promptConfig ()) sevenPairs)).engine .primary
        ((run (scriptedEnv [] 1) (freshWorld promptConfig ()) sevenPairs).engine.nextStreamIndex
          .primary) i j ∧
      (afterAlignment (scriptedEnv [] 1) .primary (payloadPacket 0x100 8 8).parse
        (run (scriptedEnv [] 1) (freshWorld promptConfig ()) sevenPairs)).engine.alignment.offsetPackets =
          (j : ℤ) - i :=
  (alignment_backed (run_reachable (scriptedEnv [] 1) promptConfig () sevenPairs)).2.1 .primary
    (payloadPacket 0x100 8 8).parse (by decide +kernel)

end TwoStream
