import TwoStreamRecovery.Anchor

/-!
# Replacing damaged records (`try_recover_primary_tei_packet`)

* `FullEvidence`: everything a replacement should stand on.
* **`replacement_evidence_iff`**: along every run a replacement has it exactly when some anchor has
  been set before.
-/

namespace TwoStream

variable {σ : Type} {env : Env σ} {w w' : World σ} {primary candidate : PacketRecord}

/-- Two records of the histories are content and match. -/
def MatchAt (e : RecoveryEngine) (i j : ℕ) : Prop :=
  ∃ a b, packetHistoryFindIndex (e.history .primary) i = some a ∧
    packetHistoryFindIndex (e.history .secondary) j = some b ∧
      a.isNull = false ∧ b.isNull = false ∧ recordsExactNonErrorMatch a b = true

/-- The evidence for replacing `primary` by `candidate`, with the engine `e`, after the events
`pre`. -/
structure FullEvidence (pre : List Event) (e : RecoveryEngine) (primary candidate : PacketRecord) :
    Prop where
  valid : e.lastPrimaryAnchor.valid = true
  set : ∃ old, .anchored old e.lastPrimaryAnchor ∈ pre
  earlier : e.lastPrimaryAnchor.primaryIndex < primary.streamIndex
  before : MatchAt e e.lastPrimaryAnchor.primaryIndex e.lastPrimaryAnchor.secondaryIndex
  confidence : e.config.minAlignmentConfidence ≤ e.alignment.confidence
  aligned : e.alignment.hasAlignment = true ∧ 0 ≤ primary.streamIndex + e.alignment.offsetPackets ∧
    packetHistoryFindIndex (e.history .secondary)
      (primary.streamIndex + e.alignment.offsetPackets).toNat = some candidate
  content : candidate.isNull = false ∧ candidate.hasPayload = true
  clean : candidate.transportError = false ∧ candidate.discontinuityIndicator = false
  same : candidate.pid = primary.pid ∧ candidate.continuityCounter = primary.continuityCounter
  fits : recordFitsNextOutput e candidate = true
  after : MatchAt e (primary.streamIndex + 1) (candidate.streamIndex + 1)

/-- What is known of each replacement: the release it belongs to, and when its evidence is full. -/
def replacedAt (pre : List Event) : Event → Prop
  | .sent (.transportError primary) candidate =>
    ∃ e, (∃ before d, pre = before ++ [.release e, .decision d]) ∧
      (FullEvidence pre e primary candidate ↔ anchorings pre ≠ [])
  | _ => True

theorem matchAt_iff {e : RecoveryEngine} {i j : ℕ} :
    recordsAreNonNullExactAnchor (packetHistoryFindIndex (e.history .primary) i)
      (packetHistoryFindIndex (e.history .secondary) j) = true ↔ MatchAt e i j :=
  recordsAreNonNullExactAnchor_iff

theorem not_replaced_of_sentEvents {l : List Event}
    (h : ∀ x ∈ sentEvents l, ∀ p, x.1 ≠ .transportError p) (pre : List Event) {ev : Event}
    (hev : ev ∈ l) : replacedAt pre ev := by
  cases ev with
  | sent route r =>
    cases route with
    | transportError p => exact absurd rfl (h (.transportError p, r) (mem_sentEvents_iff.mpr hev) p)
    | _ => trivial
  | _ => trivial

/-- A release replaces its record, on the evidence of its check, or sends no replacement. -/
theorem ReleaseOutcome.replacement {res : Iteration × World σ} (h : ReleaseOutcome env primary w res) :
    (∃ candidate d, TeiEvidence (openRelease primary w).engine primary candidate ∧
      res.2.trace = w.trace ++ [.release (openRelease primary w).engine, .decision d] ++
        [.sent (.transportError primary) candidate]) ∨
    ∃ l, res.2.trace = w.trace ++ l ∧ ∀ x ∈ sentEvents l, ∀ p, x.1 ≠ .transportError p := by
  have hgap (kind : GapKind) (M : PacketRecord) (L : List PacketRecord) :
      ∀ x ∈ gapSent kind primary M L, ∀ p, x.1 ≠ .transportError p := by
    intro x hx p
    obtain ⟨r, -, rfl⟩ := List.mem_map.mp hx
    simp
  have hopen : (openRelease primary w).trace =
      w.trace ++ [.release (openRelease primary w).engine] := rfl
  cases h with
  | @replaced candidate s damaged check =>
    obtain ⟨d, hd⟩ := teiLogged_trace (openRelease primary w) primary
    refine .inl ⟨candidate, d, checkPrimaryTei_eq_ok_iff.mp check, ?_⟩
    simp only [popPrimary, acceptRecovered, acceptRecord_trace]
    rw [hd, hopen]
    simp
  | @sent w₁ s prepared =>
    obtain ⟨l, ht, -, kind, M, L, hsent, -⟩ := prepared.trace
    obtain ⟨l', ht', hl'⟩ := updatePrimaryAnchor_trace
      (acceptRecord .passThrough { w₁ with sinkState := s } primary) primary
      (releaseAnchor (openRelease primary w).engine primary)
    refine .inr ⟨.release (openRelease primary w).engine :: l ++ .sent .passThrough primary :: l', ?_, ?_⟩
    · simp only [popPrimary]
      rw [ht', acceptRecord_trace, ht, hopen]
      simp
    · have hnotes : sentEvents l' = [] := sentEvents_of_notes fun ev hev => by
        obtain ⟨old, new, rfl⟩ := hl' ev hev
        trivial
      intro x hx p
      have hx : x ∈ gapSent kind primary M L ++ [(.passThrough, primary)] := by
        rw [← hsent, ← hnotes]
        simpa [sentEvents] using hx
      rcases List.mem_append.mp hx with hx | hx
      · exact hgap kind M L x hx p
      · obtain rfl := List.mem_singleton.mp hx
        simp
  | @refused w₁ s refuses prepared =>
    obtain ⟨l, ht, -, kind, M, L, hsent, -⟩ := prepared.trace
    refine .inr ⟨.release (openRelease primary w).engine :: l, ?_, fun x hx => ?_⟩
    · rw [ht, hopen]
      simp
    · have hx : x ∈ gapSent kind primary M L := hsent ▸ hx
      exact hgap kind M L x hx
  | refusedReplacement refuses =>
    obtain ⟨d, hd⟩ := teiLogged_trace (openRelease primary w) primary
    exact .inr ⟨[.release (openRelease primary w).engine, .decision d], by simp [hd, hopen],
      by simp [sentEvents]⟩
  | @refusedGap kind secondaryMatch L previousCc decision s n refuses evidence =>
    obtain ⟨d, hd⟩ := gapLogged_trace (openRelease primary w) primary L.length previousCc decision
    refine .inr ⟨.release (openRelease primary w).engine :: .decision d ::
      (L.take n).map (.sent (.gap kind primary secondaryMatch)), ?_, fun x hx => ?_⟩
    · rw [acceptAll_trace, hd, hopen]
      simp
    · have hx : x ∈ gapSent kind primary secondaryMatch (L.take n) := by
        rw [gapSent, ← sentEvents_map_sent]
        exact hx
      exact hgap kind secondaryMatch (L.take n) x hx

/-- **One replacement:** the check leaves open only whether an anchor has been set. -/
theorem fullEvidence_iff (hconsistent : Consistent w) (hset : AnchorSet w)
    (hfront : delayQueueFront w.engine.primaryQueue = some primary) {d : DecisionLog}
    (h : TeiEvidence (openRelease primary w).engine primary candidate) :
    FullEvidence (w.trace ++ [.release (openRelease primary w).engine, .decision d])
        (openRelease primary w).engine primary candidate ↔
      anchorings (w.trace ++ [.release (openRelease primary w).engine, .decision d]) ≠ [] := by
  have hanchorings : anchorings (w.trace ++ [.release (openRelease primary w).engine, .decision d]) =
      anchorings w.trace := by
    rw [anchorings, List.filterMap_append]
    exact List.append_nil _
  constructor
  · intro hfull
    obtain ⟨old, hold⟩ := hfull.set
    exact List.ne_nil_of_mem (mem_anchorings.mpr hold)
  · intro hsome
    obtain ⟨⟨old, new⟩, hmem⟩ := List.exists_mem_of_ne_nil _ (hanchorings ▸ hsome)
    have hvalid := hset.validAfter old new (mem_anchorings.mp hmem)
    obtain ⟨old', hlogged⟩ := hset.logged hvalid
    obtain ⟨a, ha, hindex⟩ := hset.sent hvalid
    have hlt := hconsistent.sent_lt_front (s := .primary) ha hfront
    exact
      { valid := hvalid
        set := ⟨old', List.mem_append_left _ hlogged⟩
        earlier := hindex ▸ hlt
        before := matchAt_iff.mp h.before
        confidence := h.confidence
        aligned := findAlignedSecondaryRecord_eq_some h.aligned
        content := ⟨h.samePid.1, h.samePid.2.1⟩
        clean := h.clean
        same := ⟨h.samePid.2.2, h.sameCounter⟩
        fits := h.fits
        after := matchAt_iff.mp h.after }

theorem Stage.replacedAt (h : Stage env w w') (hconsistent : Consistent w) (hset : AnchorSet w)
    (hw : Along replacedAt w.trace) : Along replacedAt w'.trace := by
  rcases h.release_or_aside with ⟨primary, front, -, rfl⟩ | ⟨-, l, ht, hl⟩
  · rcases (releasePrimary_outcome env primary w).replacement with
      ⟨candidate, d, hevidence, ht⟩ | ⟨l, ht, hl⟩
    · rw [ht, along_concat]
      refine ⟨hw.append fun pre ev post hsplit => ?_, _, ⟨w.trace, d, rfl⟩,
        fullEvidence_iff hconsistent hset front hevidence⟩
      have hmem : ev ∈ [.release (openRelease primary w).engine, .decision d] := by simp [hsplit]
      exact not_replaced_of_sentEvents (by simp [sentEvents]) _ hmem
    · rw [ht]
      refine hw.append fun pre ev post hsplit => ?_
      exact not_replaced_of_sentEvents hl _ (by simp [hsplit])
  · rw [ht]
    refine hw.append fun pre ev post hsplit => ?_
    have haside := hl ev (by simp [hsplit])
    cases ev with
    | sent route r =>
      obtain rfl : route = .failover := haside
      trivial
    | _ => trivial

/-- **A damaged record is replaced on full evidence** exactly when an anchor has been set before. -/
theorem replacement_evidence_iff (env : Env σ) (config : RecoveryEngineConfig) (sinkState : σ)
    (ops : List Op) : Along replacedAt (run env (freshWorld config sinkState) ops).trace := by
  have hreach := run_reachable env config sinkState ops
  have hstart : Reachable env config sinkState (freshWorld config sinkState) := .refl
  have hfresh : Along replacedAt (freshWorld config sinkState).trace := along_nil _
  refine (hreach.invariant (I := fun w => (AnchorMatches w ∧ AnchorSet w) ∧ Along replacedAt w.trace)
    ⟨reachable_anchorSet hstart, hfresh⟩ ?_).2
  rintro w w' hstage hconsistent ⟨⟨hmatches, hset⟩, hw⟩
  exact ⟨⟨hstage.anchorMatches hconsistent hmatches, hstage.anchorSet hconsistent hmatches hset⟩,
    hstage.replacedAt hconsistent hset hw⟩

/-! ### A replacement without an anchor -/

/-- The first packet is sent before its copy arrives; the third waits when the damaged second is
released at time 8. -/
def unanchoredWorld : World Unit :=
  run (scriptedEnv (List.replicate 15 1) 8) (freshWorld { promptConfig with primaryDelayNs := 5 } ())
    [.push .primary (pcrPacket 0x100 0 1).parse, .flush, .push .secondary (pcrPacket 0x100 0 1).parse,
      .push .secondary (payloadPacket 0x100 1 1).parse, .push .secondary (payloadPacket 0x100 2 2).parse,
      .push .primary (payloadPacket 0x8100 1 1).parse, .push .primary (payloadPacket 0x100 2 2).parse]

/-- The damaged record and its replacement. -/
def unanchoredPair : PacketRecord × PacketRecord :=
  (makeRecord .primary 1 1 (payloadPacket 0x8100 1 1).parse,
    makeRecord .secondary 1 1 (payloadPacket 0x100 1 1).parse)

/-- The damaged record is replaced though no anchor has been set. -/
theorem replaced_without_anchor :
    ∃ pre post, unanchoredWorld.trace =
        pre ++ .sent (.transportError unanchoredPair.1) unanchoredPair.2 :: post ∧
      ∀ e, ¬ FullEvidence pre e unanchoredPair.1 unanchoredPair.2 := by
  have hsent : (.transportError unanchoredPair.1, unanchoredPair.2) ∈ sentEvents unanchoredWorld.trace := by
    decide +kernel
  have hnone : anchorings unanchoredWorld.trace = [] := by decide +kernel
  obtain ⟨pre, post, htrace⟩ := List.append_of_mem (mem_sentEvents_iff.mp hsent)
  refine ⟨pre, post, htrace, fun e hfull => ?_⟩
  obtain ⟨old, hold⟩ := hfull.set
  have hmem : (old, e.lastPrimaryAnchor) ∈ anchorings unanchoredWorld.trace := by
    rw [mem_anchorings, htrace]
    exact List.mem_append_left _ hold
  rw [hnone] at hmem
  cases hmem

end TwoStream
