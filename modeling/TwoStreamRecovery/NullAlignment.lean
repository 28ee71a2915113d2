import TwoStreamRecovery.Invariant

/-!
# What moves the alignment

* `World.aligned`: the alignment and its copies among the counters; `reachable_copied`: they agree.
* `pcrPartner`: the record whose clock reference a pushed record repeats exactly.
* `null_push_aligned_iff`: a null packet leaves the alignment alone exactly when no such record moves
  it.
* `pushIngest_offset`: a push keeps the offset, or sets it to that of a pair of equal packets.
-/

namespace TwoStream

open Relation

variable {σ : Type} {env : Env σ} {w w' : World σ}

/-! ### The alignment and its copies -/

/-- The alignment, and its copies among the counters. -/
structure AlignmentView where
  hasAlignment : Bool
  offsetPackets : ℤ
  confidence : ℕ
  statsOffsetPackets : ℤ
  statsConfidence : ℕ
  deriving DecidableEq

/-- The alignment of a state. -/
def World.aligned (w : World σ) : AlignmentView where
  hasAlignment := w.engine.alignment.hasAlignment
  offsetPackets := w.engine.alignment.offsetPackets
  confidence := w.engine.alignment.confidence
  statsOffsetPackets := w.stats.alignmentOffsetPackets
  statsConfidence := w.stats.alignmentConfidence

/-- The copies agree with the engine. -/
structure Copied (w : World σ) : Prop where
  offset : w.stats.alignmentOffsetPackets = w.engine.alignment.offsetPackets
  confidence : w.stats.alignmentConfidence = w.engine.alignment.confidence

/-- The offset of a pushed record and its copy on the other input. -/
def pairOffset (record found : PacketRecord) : ℤ :=
  match record.sourceStreamId with
  | .primary => found.streamIndex - record.streamIndex
  | .secondary => record.streamIndex - found.streamIndex

/-- The record of the other input whose clock reference the pushed record repeats exactly. -/
def pcrPartner (e : RecoveryEngine) (record : PacketRecord) : Option PacketRecord :=
  if !record.hasPcr || record.transportError || record.discontinuityIndicator then none
  else
    (findMatchingPcrRecord (e.history record.sourceStreamId.other) record).filter
      (recordsExactNonErrorMatch record)

theorem Copied.of_aligned (h : w'.aligned = w.aligned) (hw : Copied w) : Copied w' := by
  obtain ⟨hoffset, hconfidence⟩ := hw
  simp only [World.aligned, AlignmentView.mk.injEq] at h
  obtain ⟨-, ho, hc, hso, hsc⟩ := h
  exact ⟨by rw [hso, ho, hoffset], by rw [hsc, hc, hconfidence]⟩

/-! ### Stages of a push -/

theorem updateAlignmentFromMatch_aligned (w : World σ) (primary secondary : PacketRecord) :
    (updateAlignmentFromMatch w primary secondary).aligned =
      ⟨true, (secondary.streamIndex : ℤ) - primary.streamIndex, 100,
        (secondary.streamIndex : ℤ) - primary.streamIndex, 100⟩ := rfl

/-- **Equal clock references** move the alignment to the offset of the pair. -/
theorem updatePcrTiming_aligned (w : World σ) (record : PacketRecord) :
    (updatePcrTiming w record).aligned =
      match pcrPartner w.engine record with
      | none => w.aligned
      | some found => ⟨true, pairOffset record found, 100, pairOffset record found, 100⟩ := by
  unfold updatePcrTiming pcrPartner
  by_cases hclean : !record.hasPcr || record.transportError || record.discontinuityIndicator
  · rw [if_pos hclean, if_pos hclean]
  · rw [if_neg hclean, if_neg hclean]
    cases hfind : findMatchingPcrRecord (w.engine.history record.sourceStreamId.other) record with
    | none => rfl
    | some found =>
      simp only
      by_cases hmatch : recordsExactNonErrorMatch record found = true
      · rw [if_pos hmatch, Option.filter_some_pos hmatch]
        simp only [pairOffset]
        cases record.sourceStreamId <;> exact updateAlignmentFromMatch_aligned _ _ _
      · rw [if_neg hmatch, Option.filter_some_neg (by simpa using hmatch)]

theorem observeInputPathGap_aligned (w : World σ) (streamId : StreamId) (r : PacketRecord) :
    (observeInputPathGap w streamId r).aligned = w.aligned := by
  simp only [observeInputPathGap]
  split
  · rfl
  · generalize (_ && _ : Bool) = gap
    cases gap <;> rfl

theorem pushQueue_aligned (w : World σ) (streamId : StreamId) (r : PacketRecord) :
    (pushQueue w streamId r).aligned = w.aligned := by
  cases streamId <;> simp only [pushQueue] <;> split <;> rfl

/-- A null record is not compared by packet runs. -/
theorem updateAlignment_of_null (w : World σ) (streamId : StreamId) {r : PacketRecord}
    (hnull : r.isNull = true) : updateAlignment w streamId r = w := by
  rw [updateAlignment, if_pos (by simp [recordIsInformative, hnull])]

theorem updateAlignment_copied (streamId : StreamId) (r : PacketRecord) (hw : Copied w) :
    Copied (updateAlignment w streamId r) := by
  simp only [updateAlignment]
  split
  · exact hw
  · split
    · cases streamId <;> exact ⟨rfl, rfl⟩
    · split
      · exact ⟨hw.offset, hw.confidence⟩
      · simp only [missAlignment]
        split
        · exact ⟨hw.offset, rfl⟩
        · exact ⟨hw.offset, hw.confidence⟩

/-- The history of the other input is not touched by a push. -/
theorem storeRecord_pcrPartner (env : Env σ) (streamId : StreamId) (p : ParsedPacket) (w : World σ) :
    pcrPartner (storeRecord env streamId p w).2.engine (storeRecord env streamId p w).1 =
      pcrPartner w.engine (storeRecord env streamId p w).1 := by
  have hother : (storeRecord env streamId p w).2.engine.history streamId.other =
      w.engine.history streamId.other := by
    simp only [storeRecord]
    exact Function.update_of_ne (StreamId.ne_other streamId).symm _ _
  have hsource : (storeRecord env streamId p w).1.sourceStreamId = streamId := rfl
  simp only [pcrPartner, hsource, hother]

theorem pushIngest_copied (streamId : StreamId) (p : ParsedPacket) (hw : Copied w) :
    Copied (pushIngest env streamId p w) := by
  have hstored : Copied (storeRecord env streamId p w).2 := ⟨hw.offset, hw.confidence⟩
  have htimed : Copied
      (updatePcrTiming (storeRecord env streamId p w).2 (storeRecord env streamId p w).1) := by
    have h := updatePcrTiming_aligned (storeRecord env streamId p w).2 (storeRecord env streamId p w).1
    cases hpartner : pcrPartner (storeRecord env streamId p w).2.engine
      (storeRecord env streamId p w).1 with
    | none =>
      rw [hpartner] at h
      exact hstored.of_aligned h
    | some found =>
      simp only [hpartner, World.aligned, AlignmentView.mk.injEq] at h
      obtain ⟨-, ho, hc, hso, hsc⟩ := h
      exact ⟨hso.trans ho.symm, hsc.trans hc.symm⟩
  have hobserved := htimed.of_aligned (observeInputPathGap_aligned _ streamId
    (storeRecord env streamId p w).1)
  exact (updateAlignment_copied streamId (storeRecord env streamId p w).1 hobserved).of_aligned
    (pushQueue_aligned _ streamId (storeRecord env streamId p w).1)

theorem Consumes.aligned (h : Consumes w w') : w'.aligned = w.aligned := by
  have hinputs := h.inputs
  simp only [ReportStats.inputs, Prod.mk.injEq] at hinputs
  simp only [World.aligned, h.alignment, hinputs.2.2.2.1, hinputs.2.2.2.2]

theorem Stage.copied (h : Stage env w w') (hw : Copied w) : Copied w' := by
  have hsteps := consumes_drainSteps env
  cases h with
  | ingest streamId p => exact pushIngest_copied streamId p hw
  | sink s => exact ⟨hw.offset, hw.confidence⟩
  | read => exact ⟨hw.offset, hw.confidence⟩
  | wait _ idle => exact hw.of_aligned (hsteps.wait w idle).aligned
  | discard _ nonempty ready => exact hw.of_aligned (hsteps.discard w nonempty ready).aligned
  | takeOver _ ready => exact hw.of_aligned (hsteps.takeOver w ready).aligned
  | release primary _ front active => exact hw.of_aligned (hsteps.release primary w front active).aligned
  | failover force nowNs _ guard => exact hw.of_aligned (hsteps.failover force nowNs w guard).aligned

/-- **The copies of the alignment agree with the engine** in every reachable state. -/
theorem reachable_copied {config : RecoveryEngineConfig} {sinkState : σ}
    (hreach : Reachable env config sinkState w) : Copied w :=
  run_invariant (fun _ _ hstage hw => hstage.copied hw) hreach ⟨rfl, rfl⟩

/-! ### Pairs that set the alignment -/

/-- The offset of the alignment, where there is one. -/
def RecoveryEngine.alignedOffset (e : RecoveryEngine) : Option ℤ :=
  if e.alignment.hasAlignment then some e.alignment.offsetPackets else none

/-- A record of the other input that may set the alignment when `record` is pushed: equal content, or
an equal packet with an equal clock reference. -/
structure PairsWith (e : RecoveryEngine) (record found : PacketRecord) : Prop where
  mem : found ∈ (e.history record.sourceStreamId.other).toList
  same : recordsExactNonErrorMatch record found = true
  content : record.isNull = false ∨
    record.hasPcr = true ∧ found.hasPcr = true ∧ found.pcrValue = record.pcrValue

theorem findMatchingPcrRecord_eq_some {history : PacketHistory} {record found : PacketRecord}
    (h : findMatchingPcrRecord history record = some found) :
    found ∈ history.toList ∧ pcrCandidate record found = true := by
  let Good : Option PacketRecord → Prop := fun best =>
    ∀ b, best = some b → b ∈ history.toList ∧ pcrCandidate record b = true
  have hstep : ∀ best, Good best → ∀ r ∈ history.toList, Good
      (if !pcrCandidate record r then best
      else
        match best with
        | none => some r
        | some b => if b.arrivalTimeNs < r.arrivalTimeNs then some r else best) := by
    intro best hbest r hmem
    by_cases hr : pcrCandidate record r = true
    · have hgood : Good (some r) := fun b hb => by
        obtain rfl := Option.some.inj hb
        exact ⟨hmem, hr⟩
      simp only [hr, Bool.not_true, Bool.false_eq_true, if_false]
      cases best with
      | none => exact hgood
      | some b =>
        simp only
        split
        · exact hgood
        · exact hbest
    · rw [if_pos (by simpa using hr)]
      exact hbest
  have hnone : Good none := fun b hb => by cases hb
  exact List.foldlRecOn (motive := Good) history.toList _ hnone hstep found h

theorem recordsMatch_iff {a b : PacketRecord} :
    recordsMatch a b = true ↔
      a.isNull = false ∧ b.isNull = false ∧ recordsExactNonErrorMatch a b = true := by
  simp only [recordsMatch, recordIsInformative, recordsExactNonErrorMatch, Bool.and_eq_true,
    Bool.not_eq_true', beq_iff_eq]
  tauto

/-- A confirmed match has been found in the other history. -/
theorem findConfirmedFrom_eq_some {self other : PacketHistory} {record found : PacketRecord}
    {required n : ℕ} {index : ℤ}
    (h : findConfirmedFrom self other record required n index = some found) :
    found ∈ other.toList ∧ recordsMatch record found = true ∧
      hasConfirmedBackwardRun self other record found required = true := by
  induction n generalizing index with
  | zero => cases h
  | succ n ih =>
    simp only [findConfirmedFrom] at h
    split at h
    · next candidate hcandidate =>
      obtain rfl := Option.some.inj h
      split_ifs at hcandidate with hindex
      split at hcandidate
      · cases hcandidate
      · next candidate hfind =>
        split_ifs at hcandidate with hmatch
        obtain rfl := Option.some.inj hcandidate
        rw [Bool.and_eq_true] at hmatch
        exact ⟨packetHistoryFindIndex_mem hfind, hmatch⟩
    · exact ih h

theorem updatePcrTiming_offset (w : World σ) (record : PacketRecord) :
    (updatePcrTiming w record).engine.alignedOffset = w.engine.alignedOffset ∨
      ∃ found, PairsWith w.engine record found ∧
        (updatePcrTiming w record).engine.alignedOffset = some (pairOffset record found) := by
  have h := updatePcrTiming_aligned w record
  cases hpartner : pcrPartner w.engine record with
  | none =>
    rw [hpartner] at h
    simp only [World.aligned, AlignmentView.mk.injEq] at h
    exact .inl (by simp only [RecoveryEngine.alignedOffset, h.1, h.2.1])
  | some found =>
    rw [hpartner] at h
    simp only [World.aligned, AlignmentView.mk.injEq] at h
    simp only [pcrPartner] at hpartner
    split_ifs at hpartner with hclean
    obtain ⟨hfind, hsame⟩ := Option.filter_eq_some_iff.mp hpartner
    obtain ⟨hmem, hpcr⟩ := findMatchingPcrRecord_eq_some hfind
    simp only [pcrCandidate, Bool.and_eq_true, beq_iff_eq] at hpcr
    refine .inr ⟨found, ⟨hmem, hsame, .inr ⟨?_, hpcr.1.1.1.1, hpcr.1.1.2⟩⟩, ?_⟩
    · have hall : (record.hasPcr = true ∧ record.transportError = false) ∧
          record.discontinuityIndicator = false := by simpa using hclean
      exact hall.1.1
    · simp only [RecoveryEngine.alignedOffset, h.1, h.2.1, if_true]

/-- The alignment stays where it is, and is not trusted more. -/
structure Unmoved (w w' : World σ) : Prop where
  hasAlignment : w'.engine.alignment.hasAlignment = w.engine.alignment.hasAlignment
  offset : w'.engine.alignment.offsetPackets = w.engine.alignment.offsetPackets
  confidence : w'.engine.alignment.confidence ≤ w.engine.alignment.confidence

theorem Unmoved.alignedOffset (h : Unmoved w w') :
    w'.engine.alignedOffset = w.engine.alignedOffset := by
  rw [RecoveryEngine.alignedOffset, RecoveryEngine.alignedOffset, h.hasAlignment, h.offset]

theorem missAlignment_unmoved (w : World σ) : Unmoved w (missAlignment w) := by
  simp only [missAlignment]
  split
  · exact ⟨rfl, rfl, Nat.sub_le _ _⟩
  · exact ⟨rfl, rfl, le_rfl⟩

/-- Packet runs move the alignment to the offset of a confirmed match only. -/
theorem updateAlignment_cases (w : World σ) (record : PacketRecord) :
    Unmoved w (updateAlignment w record.sourceStreamId record) ∨
      ∃ found expected radius,
        findConfirmedMatchingRecordNear (w.engine.history record.sourceStreamId)
            (w.engine.history record.sourceStreamId.other) record expected radius 8 = some found ∧
          (updateAlignment w record.sourceStreamId record).aligned =
            ⟨true, pairOffset record found, 100, pairOffset record found, 100⟩ := by
  have hnear : ∀ found, findNearMatch w.engine record.sourceStreamId record = some found →
      ∃ expected radius, findConfirmedMatchingRecordNear (w.engine.history record.sourceStreamId)
        (w.engine.history record.sourceStreamId.other) record expected radius 8 = some found := by
    intro found h
    simp only [findNearMatch] at h
    split at h
    · next c hc =>
      obtain rfl := Option.some.inj h
      split_ifs at hc
      exact ⟨_, _, hc⟩
    · exact ⟨_, _, h⟩
  simp only [updateAlignment]
  split
  · exact .inl ⟨rfl, rfl, le_rfl⟩
  · split
    · next found hfind =>
      obtain ⟨expected, radius, hsearch⟩ : ∃ expected radius,
          findConfirmedMatchingRecordNear (w.engine.history record.sourceStreamId)
            (w.engine.history record.sourceStreamId.other) record expected radius 8 = some found := by
        split at hfind
        · next c hc =>
          obtain rfl := Option.some.inj hfind
          exact hnear _ hc
        · split_ifs at hfind
          exact ⟨_, _, hfind⟩
      refine .inr ⟨found, expected, radius, hsearch, ?_⟩
      simp only [pairOffset]
      cases record.sourceStreamId <;> exact updateAlignmentFromMatch_aligned _ _ _
    · split
      · exact .inl ⟨rfl, rfl, le_rfl⟩
      · exact .inl (missAlignment_unmoved w)

theorem updateAlignment_offset (w : World σ) (record : PacketRecord) :
    (updateAlignment w record.sourceStreamId record).engine.alignedOffset = w.engine.alignedOffset ∨
      ∃ found, PairsWith w.engine record found ∧
        (updateAlignment w record.sourceStreamId record).engine.alignedOffset =
          some (pairOffset record found) := by
  rcases updateAlignment_cases w record with h | ⟨found, expected, radius, hsearch, h⟩
  · exact .inl h.alignedOffset
  · obtain ⟨hmem, hmatch, -⟩ := findConfirmedFrom_eq_some hsearch
    obtain ⟨hcontent, -, hsame⟩ := recordsMatch_iff.mp hmatch
    simp only [World.aligned, AlignmentView.mk.injEq] at h
    refine .inr ⟨found, ⟨hmem, hsame, .inl hcontent⟩, ?_⟩
    simp only [RecoveryEngine.alignedOffset, h.1, h.2.1, if_true]

/-- **How a push moves the offset:** it keeps it, or sets it to that of a pair of equal packets. -/
theorem pushIngest_offset (env : Env σ) (streamId : StreamId) (p : ParsedPacket) (w : World σ) :
    (pushIngest env streamId p w).engine.alignedOffset = w.engine.alignedOffset ∨
      ∃ found, PairsWith w.engine
          (makeRecord streamId (w.engine.nextStreamIndex streamId) (env.clock w.reads) p) found ∧
        (pushIngest env streamId p w).engine.alignedOffset = some (pairOffset
          (makeRecord streamId (w.engine.nextStreamIndex streamId) (env.clock w.reads) p) found) := by
  let r := (storeRecord env streamId p w).1
  let w₁ := (storeRecord env streamId p w).2
  let w₂ := updatePcrTiming w₁ r
  let w₃ := observeInputPathGap w₂ streamId r
  have hqueue : (pushIngest env streamId p w).engine.alignedOffset =
      (updateAlignment w₃ streamId r).engine.alignedOffset := by
    have h := pushQueue_aligned (updateAlignment w₃ streamId r) streamId r
    simp only [World.aligned, AlignmentView.mk.injEq] at h
    change (pushQueue (updateAlignment w₃ streamId r) streamId r).engine.alignedOffset = _
    simp only [RecoveryEngine.alignedOffset, h.1, h.2.1]
  have hgap : w₃.engine.alignedOffset = w₂.engine.alignedOffset := by
    have h := observeInputPathGap_aligned w₂ streamId r
    simp only [World.aligned, AlignmentView.mk.injEq] at h
    change (observeInputPathGap w₂ streamId r).engine.alignedOffset = _
    simp only [RecoveryEngine.alignedOffset, h.1, h.2.1]
  have hother : w₁.engine.history streamId.other = w.engine.history streamId.other :=
    Function.update_of_ne (StreamId.ne_other streamId).symm _ _
  have hpairs : ∀ {w' : World σ} {found}, w'.engine.history = w₁.engine.history →
      PairsWith w'.engine r found → PairsWith w.engine r found := by
    intro w' found hhistory h
    refine ⟨?_, h.same, h.content⟩
    have hmem := h.mem
    rw [hhistory] at hmem
    change found ∈ (w₁.engine.history streamId.other).toList at hmem
    rwa [hother] at hmem
  have hhistory : w₃.engine.history = w₁.engine.history := by
    obtain ⟨a, i, he⟩ := ((updatePcrTiming_observed w₁ r).trans
      (observeInputPathGap_observed w₂ streamId r)).engine
    change (observeInputPathGap (updatePcrTiming w₁ r) streamId r).engine.history = _
    rw [he]
  rw [hqueue]
  rcases updateAlignment_offset w₃ r with h | ⟨found, hfound, h⟩
  · rcases updatePcrTiming_offset w₁ r with h' | ⟨found, hfound, h'⟩
    · exact .inl (h.trans (hgap.trans h'))
    · exact .inr ⟨found, hpairs rfl hfound, h.trans (hgap.trans h')⟩
  · exact .inr ⟨found, hpairs hhistory hfound, h⟩

/-- The alignment is that of two pushed records. -/
def AlignedByPair (w : World σ) : Prop :=
  ∀ o, w.engine.alignedOffset = some o →
    ∃ a ∈ pushedRecords .primary w.trace, ∃ b ∈ pushedRecords .secondary w.trace,
      o = (b.streamIndex : ℤ) - a.streamIndex

theorem Consumes.alignedOffset (h : Consumes w w') :
    w'.engine.alignedOffset = w.engine.alignedOffset := by
  simp only [RecoveryEngine.alignedOffset, h.alignment]

/-- The two records are equal packets. -/
def AlignedByMatch (w : World σ) : Prop :=
  ∀ o, w.engine.alignedOffset = some o →
    ∃ a ∈ pushedRecords .primary w.trace, ∃ b ∈ pushedRecords .secondary w.trace,
      o = (b.streamIndex : ℤ) - a.streamIndex ∧ recordsExactNonErrorMatch a b = true

theorem recordsExactNonErrorMatch_symm {a b : PacketRecord}
    (h : recordsExactNonErrorMatch a b = true) : recordsExactNonErrorMatch b a = true := by
  obtain ⟨ha, hb, ha', hb', hhash, hpid, hcc⟩ := recordsExactNonErrorMatch_iff.mp h
  exact recordsExactNonErrorMatch_iff.mpr ⟨hb, ha, hb', ha', hhash.symm, hpid.symm, hcc.symm⟩

theorem Stage.alignedByMatch (h : Stage env w w') (hconsistent : Consistent w)
    (hw : AlignedByMatch w) : AlignedByMatch w' := by
  have hgrow : ∀ s r, r ∈ pushedRecords s w.trace → r ∈ pushedRecords s w'.trace := by
    intro s r hr
    exact (pushedRecords_grow h.trace_prefix s).subset hr
  have hkept : w'.engine.alignedOffset = w.engine.alignedOffset → AlignedByMatch w' := by
    intro heq o ho
    obtain ⟨a, ha, b, hb, hab⟩ := hw o (heq ▸ ho)
    exact ⟨a, hgrow _ a ha, b, hgrow _ b hb, hab⟩
  rcases h.push_or_consumes with ⟨streamId, p, rfl⟩ | hconsumes
  · have hpushed := (pushIngest_ingested env streamId p w).pushed streamId
    rw [if_pos rfl] at hpushed
    rcases pushIngest_offset env streamId p w with h | ⟨found, hfound, h⟩
    · exact hkept h
    · intro o ho
      rw [h] at ho
      obtain rfl := Option.some.inj ho
      have hself : makeRecord streamId (w.engine.nextStreamIndex streamId) (env.clock w.reads) p ∈
          pushedRecords streamId (pushIngest env streamId p w).trace := by
        rw [hpushed]
        simp
      have hmem := hgrow _ _ ((hconsistent.history streamId.other).subset hfound.mem)
      cases streamId with
      | primary => exact ⟨_, hself, _, hmem, rfl, hfound.same⟩
      | secondary => exact ⟨_, hmem, _, hself, rfl, recordsExactNonErrorMatch_symm hfound.same⟩
  · exact hkept hconsumes.alignedOffset

/-- **The alignment is that of two equal packets** in every reachable state. -/
theorem reachable_alignedByMatch {config : RecoveryEngineConfig} {sinkState : σ}
    (hreach : Reachable env config sinkState w) : AlignedByMatch w :=
  hreach.invariant (I := AlignedByMatch) (fun _ ho => by cases ho)
    fun _ _ hstage hconsistent hw => hstage.alignedByMatch hconsistent hw

/-- **The alignment is that of two pushed records** in every reachable state. -/
theorem reachable_alignedByPair {config : RecoveryEngineConfig} {sinkState : σ}
    (hreach : Reachable env config sinkState w) : AlignedByPair w := by
  intro o ho
  obtain ⟨a, ha, b, hb, hab, -⟩ := reachable_alignedByMatch hreach o ho
  exact ⟨a, ha, b, hb, hab⟩

/-! ### Null packets -/

theorem pushIngest_aligned_of_null (env : Env σ) (streamId : StreamId) {p : ParsedPacket}
    (hnull : p.info.isNull = true) (w : World σ) :
    (pushIngest env streamId p w).aligned =
      match pcrPartner w.engine (storeRecord env streamId p w).1 with
      | none => w.aligned
      | some found => ⟨true, pairOffset (storeRecord env streamId p w).1 found, 100,
          pairOffset (storeRecord env streamId p w).1 found, 100⟩ := by
  have hrecord : (storeRecord env streamId p w).1.isNull = true := hnull
  have hpush : pushIngest env streamId p w = pushQueue (updateAlignment (observeInputPathGap
      (updatePcrTiming (storeRecord env streamId p w).2 (storeRecord env streamId p w).1) streamId
      (storeRecord env streamId p w).1) streamId (storeRecord env streamId p w).1) streamId
      (storeRecord env streamId p w).1 := rfl
  rw [hpush, pushQueue_aligned, updateAlignment_of_null _ _ hrecord, observeInputPathGap_aligned,
    updatePcrTiming_aligned, storeRecord_pcrPartner]
  rfl

/-- **A null packet leaves the alignment alone** exactly when no record whose clock reference it
repeats moves the alignment. -/
theorem null_push_aligned_iff {config : RecoveryEngineConfig} {sinkState : σ}
    (hreach : Reachable env config sinkState w) (streamId : StreamId) {p : ParsedPacket}
    (hnull : p.info.isNull = true) :
    (recoveryEnginePushPacket env streamId p w).2.aligned = w.aligned ↔
      ∀ found, pcrPartner w.engine
          (makeRecord streamId (w.engine.nextStreamIndex streamId) (env.clock w.reads) p) = some found →
        w.engine.alignment.hasAlignment = true ∧
          w.engine.alignment.offsetPackets = pairOffset
            (makeRecord streamId (w.engine.nextStreamIndex streamId) (env.clock w.reads) p) found ∧
          w.engine.alignment.confidence = 100 := by
  have hpush : (recoveryEnginePushPacket env streamId p w).2.aligned =
      (pushIngest env streamId p w).aligned :=
    (recoveryEngineDrain_consumes env false (pushIngest env streamId p w)).aligned
  have hcopied := reachable_copied hreach
  have hrecord : (storeRecord env streamId p w).1 =
      makeRecord streamId (w.engine.nextStreamIndex streamId) (env.clock w.reads) p := rfl
  rw [hpush, pushIngest_aligned_of_null env streamId hnull w, hrecord]
  generalize makeRecord streamId (w.engine.nextStreamIndex streamId) (env.clock w.reads) p = r
  cases pcrPartner w.engine r with
  | none => simp
  | some found =>
    simp only [World.aligned, AlignmentView.mk.injEq, hcopied.offset, hcopied.confidence,
      Option.some.injEq, forall_eq']
    constructor
    · rintro ⟨h1, h2, h3, -, -⟩
      exact ⟨h1.symm, h2.symm, h3.symm⟩
    · rintro ⟨h1, h2, h3⟩
      exact ⟨h1.symm, h2.symm, h3.symm, h2.symm, h3.symm⟩

/-! ### A null packet that sets the alignment -/

/-- A null packet with a clock reference. -/
def nullPcrPacket : ParsedPacket := (pcrPacket 0x1fff 0 1).parse

/-- The primary has received it. -/
def nullPcrWorld : World Unit :=
  run (scriptedEnv [] 1) (freshWorld promptConfig ()) [.push .primary nullPcrPacket]

theorem nullPcrWorld_reachable : Reachable (scriptedEnv [] 1) promptConfig () nullPcrWorld :=
  run_reachable _ _ _ _

/-- When the secondary receives it too, it establishes the alignment. -/
theorem null_push_aligns :
    Reachable (scriptedEnv [] 1) promptConfig () nullPcrWorld ∧
      nullPcrPacket.info.isNull = true ∧ nullPcrWorld.aligned = ⟨false, 0, 0, 0, 0⟩ ∧
      (recoveryEnginePushPacket (scriptedEnv [] 1) .secondary nullPcrPacket nullPcrWorld).2.aligned =
        ⟨true, 0, 100, 0, 100⟩ :=
  ⟨run_reachable _ _ _ _, by decide +kernel, by decide +kernel, by decide +kernel⟩

/-- A null packet without a clock reference does not. -/
theorem null_push_aligned_plain :
    (recoveryEnginePushPacket (scriptedEnv [] 1) .secondary nullPacket nullPcrWorld).2.aligned =
      nullPcrWorld.aligned :=
  (null_push_aligned_iff nullPcrWorld_reachable .secondary rfl).mpr fun found hfound => by
    simp [pcrPartner, makeRecord, nullPacket] at hfound

end TwoStream
