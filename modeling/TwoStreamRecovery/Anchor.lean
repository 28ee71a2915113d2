import TwoStreamRecovery.Accounting
import TwoStreamRecovery.Engine.Candidates

/-!
# The anchor

* `Stage.anchor`: a stage keeps the anchor, or releases a record and sets the anchor to it and its
  secondary match.
* `AnchorMatches`: the anchor pairs a primary record with a matching secondary one.
* `AnchorSet`: the anchor was set when its primary record was sent.
* **`anchor_forward`**: it moves forward on the primary, and on the secondary where matching content
  keeps its order.
-/

namespace TwoStream

variable {σ : Type} {env : Env σ} {w w' w'' : World σ} {primary : PacketRecord}

/-! ### Stages and the anchor -/

/-- The anchor is left alone. -/
structure AnchorKept (w w' : World σ) : Prop where
  anchor : w'.engine.lastPrimaryAnchor = w.engine.lastPrimaryAnchor
  trace : ∃ l, w'.trace = w.trace ++ l ∧ ∀ old new, .anchored old new ∉ l

/-- The releases that set an anchor. -/
structure SetsAnchor (w : World σ) (primary m : PacketRecord) : Prop where
  front : delayQueueFront w.engine.primaryQueue = some primary
  active : w.engine.activeOutputStreamId = .primary
  taken : releaseAnchor w.engine primary = some m
  content : primary.isNull = false
  same : recordsExactNonErrorMatch primary m = true

/-- The anchor of `primary` and `m`. -/
def anchorAt (primary m : PacketRecord) : PrimaryAnchor := ⟨true, primary.streamIndex, m.streamIndex⟩

/-- What a release that sets an anchor has done to it. -/
structure AnchorMoved (w w' : World σ) (primary m : PacketRecord) : Prop where
  sets : SetsAnchor w primary m
  anchor : w'.engine.lastPrimaryAnchor = anchorAt primary m
  trace : ∃ l, w'.trace = w.trace ++ l ++
    [.sent .passThrough primary, .anchored w.engine.lastPrimaryAnchor (anchorAt primary m)] ∧
    ∀ old new, .anchored old new ∉ l

theorem AnchorKept.refl (w : World σ) : AnchorKept w w := ⟨rfl, [], by simp, by simp⟩

theorem AnchorKept.trans (h : AnchorKept w w') (h' : AnchorKept w' w'') : AnchorKept w w'' := by
  obtain ⟨ha, l, ht, hl⟩ := h
  obtain ⟨ha', l', ht', hl'⟩ := h'
  refine ⟨ha'.trans ha, l ++ l', by rw [ht', ht, List.append_assoc], fun old new hmem => ?_⟩
  exact (List.mem_append.mp hmem).elim (hl old new) (hl' old new)

theorem updatePrimaryAnchor_cases (w : World σ) (primary : PacketRecord) (m? : Option PacketRecord) :
    updatePrimaryAnchor w primary m? = w ∨
      ∃ m, m? = some m ∧ primary.isNull = false ∧ recordsExactNonErrorMatch primary m = true ∧
        (updatePrimaryAnchor w primary m?).engine.lastPrimaryAnchor = anchorAt primary m ∧
        (updatePrimaryAnchor w primary m?).trace =
          w.trace ++ [.anchored w.engine.lastPrimaryAnchor (anchorAt primary m)] := by
  cases m? with
  | none => exact .inl rfl
  | some m =>
    simp only [updatePrimaryAnchor]
    by_cases h : (primary.isNull || m.isNull || !recordsExactNonErrorMatch primary m) = true
    · rw [if_pos h]
      exact .inl rfl
    · rw [if_neg h]
      simp only [Bool.or_eq_true, Bool.not_eq_eq_eq_not, Bool.not_true, not_or, Bool.not_eq_true,
        Bool.not_eq_false] at h
      exact .inr ⟨m, rfl, h.1.1, h.2, rfl, rfl⟩

theorem Prepared.anchorKept (h : Prepared primary w w') : AnchorKept w w' := by
  cases h with
  | fits => exact .refl w
  | rejected => exact ⟨rfl, _, rfl, by simp⟩
  | @inserted kind secondaryMatch L previousCc decision s unique evidence adjacent =>
    obtain ⟨d, hd⟩ := gapLogged_trace w primary L.length previousCc decision
    refine ⟨?_, .decision d :: L.map (.sent (.gap kind primary secondaryMatch)), ?_, by simp⟩
    · rw [gapBurst_engine]
      exact acceptAll_lastPrimaryAnchor _
    · rw [gapBurst_trace, acceptAll_trace, hd]
      simp

/-- **The anchor of a release.** -/
theorem ReleaseOutcome.anchor {res : Iteration × World σ} (h : ReleaseOutcome env primary w res)
    (hfront : delayQueueFront w.engine.primaryQueue = some primary)
    (hactive : w.engine.activeOutputStreamId = .primary) :
    AnchorKept w res.2 ∨ ∃ m, AnchorMoved w res.2 primary m := by
  have hopen : AnchorKept w (openRelease primary w) := ⟨rfl, _, rfl, by simp⟩
  cases h with
  | @replaced candidate s damaged check =>
    obtain ⟨d, hd⟩ := teiLogged_trace (openRelease primary w) primary
    refine .inl (hopen.trans ⟨?_, [.decision d, .sent (.transportError primary) candidate], ?_, by simp⟩)
    · simp only [popPrimary, acceptRecovered, acceptRecord_engine]
      rfl
    · simp only [popPrimary, acceptRecovered, acceptRecord_trace]
      rw [hd]
      simp
  | @sent w₁ s prepared =>
    have hprepared := hopen.trans prepared.anchorKept
    obtain ⟨l, ht, hl⟩ := hprepared.trace
    have haccept : (acceptRecord .passThrough { w₁ with sinkState := s } primary).trace =
        w.trace ++ l ++ [.sent .passThrough primary] := by
      rw [acceptRecord_trace, ← ht]
    have hanchor : (acceptRecord .passThrough { w₁ with sinkState := s } primary).engine.lastPrimaryAnchor =
        w.engine.lastPrimaryAnchor := by
      rw [acceptRecord_engine]
      exact hprepared.anchor
    rcases updatePrimaryAnchor_cases (acceptRecord .passThrough { w₁ with sinkState := s } primary) primary
      (releaseAnchor (openRelease primary w).engine primary) with
      hsame | ⟨m, hm, hcontent, hmatch, hnew, hlog⟩
    · left
      rw [hsame]
      refine ⟨hanchor, l ++ [.sent .passThrough primary], ?_, ?_⟩
      · rw [← List.append_assoc]
        exact haccept
      · simpa using hl
    · refine .inr ⟨m, ⟨hfront, hactive, hm, hcontent, hmatch⟩, hnew, l, ?_, hl⟩
      refine hlog.trans ?_
      rw [haccept, hanchor, List.append_assoc]
      rfl
  | refused refuses prepared =>
    obtain ⟨ha, l, ht, hl⟩ := hopen.trans prepared.anchorKept
    exact .inl ⟨ha, l, ht, hl⟩
  | refusedReplacement refuses =>
    obtain ⟨d, hd⟩ := teiLogged_trace (openRelease primary w) primary
    exact .inl (hopen.trans ⟨rfl, [.decision d], hd, by simp⟩)
  | @refusedGap kind secondaryMatch L previousCc decision s n refuses evidence =>
    obtain ⟨d, hd⟩ := gapLogged_trace (openRelease primary w) primary L.length previousCc decision
    refine .inl (hopen.trans ⟨acceptAll_lastPrimaryAnchor _,
      .decision d :: (L.take n).map (.sent (.gap kind primary secondaryMatch)), ?_, fun old new hmem => ?_⟩)
    · rw [acceptAll_trace, hd, List.append_assoc]
      rfl
    · obtain ⟨r, -, hr⟩ := List.mem_map.mp ((List.mem_cons.mp hmem).resolve_left (by simp))
      cases hr

/-- The events of a stage that releases nothing. -/
def Event.Aside : Event → Prop
  | .release _ => False
  | .anchored _ _ => False
  | .sent route _ => route = .failover
  | _ => True

/-- A stage that releases nothing. -/
structure Aside (w w' : World σ) : Prop where
  anchor : w'.engine.lastPrimaryAnchor = w.engine.lastPrimaryAnchor
  trace : ∃ l, w'.trace = w.trace ++ l ∧ ∀ ev ∈ l, ev.Aside

theorem Aside.trans (h : Aside w w') (h' : Aside w' w'') : Aside w w'' := by
  obtain ⟨ha, l, ht, hl⟩ := h
  obtain ⟨ha', l', ht', hl'⟩ := h'
  refine ⟨ha'.trans ha, l ++ l', by rw [ht', ht, List.append_assoc], fun ev hev => ?_⟩
  exact (List.mem_append.mp hev).elim (hl ev) (hl' ev)

theorem Aside.anchorKept (h : Aside w w') : AnchorKept w w' := by
  obtain ⟨ha, l, ht, hl⟩ := h
  exact ⟨ha, l, ht, fun old new hmem => hl _ hmem⟩

theorem setActiveOutputStream_aside (env : Env σ) (w : World σ) (streamId : StreamId) (s : σ) :
    Aside w { setActiveOutputStream env w streamId with sinkState := s } := by
  obtain ⟨l, ht, hl⟩ := setActiveOutputStream_trace env w streamId
  refine ⟨by rw [setActiveOutputStream_engine], l, ht, ?_⟩
  rcases hl with ⟨rfl, -⟩ | ⟨rfl, -⟩ <;> simp [Event.Aside]

theorem failoverSent_aside (w : World σ) (r : PacketRecord) (s : σ) :
    Aside w (failoverSent env w r s) := by
  obtain ⟨-, l, ht, hl⟩ := setActiveOutputStream_aside env w .secondary w.sinkState
  refine ⟨by rw [failoverSent_engine], l ++ [.sent .failover r], ?_, fun ev hev => ?_⟩
  · rw [failoverSent_trace, ht, List.append_assoc]
  · rcases List.mem_append.mp hev with hev | hev
    · exact hl ev hev
    · obtain rfl := List.mem_singleton.mp hev
      exact rfl

theorem failover_aside (env : Env σ) (force : Bool) (nowNs n : ℕ) (w : World σ) :
    Aside w (failoverLoop env force n (enterFailover nowNs w)).2 := by
  refine failoverLoop_rule (J := Aside w) ?_ ?_ ?_ n _ ?_
  · rintro w₁ ⟨ha, l, ht, hl⟩
    exact ⟨ha, l, ht, hl⟩
  · intro w₁ r s _ h
    exact h.trans (failoverSent_aside w₁ r s)
  · intro w₁ s _ h
    exact h.trans (setActiveOutputStream_aside env w₁ .secondary s)
  · obtain ⟨ring, he, -⟩ := discardSecondary_engine w.engine
    refine ⟨?_, [.failover nowNs w.engine], rfl, by simp [Event.Aside]⟩
    simp only [enterFailover, he]

/-- **Only releases touch the anchor and send from the primary side.** -/
theorem Stage.release_or_aside (h : Stage env w w') :
    (∃ primary, delayQueueFront w.engine.primaryQueue = some primary ∧
      w.engine.activeOutputStreamId = .primary ∧ w' = (releasePrimary env primary w).2) ∨
    Aside w w' := by
  cases h with
  | ingest streamId p =>
    obtain ⟨a, i, q, q', he⟩ := (pushIngest_ingested env streamId p w).engine
    obtain ⟨l, ht, hl, -⟩ := (pushIngest_ingested env streamId p w).trace
    refine .inr ⟨by rw [he], _, ht, fun ev hev => ?_⟩
    rcases List.mem_cons.mp hev with rfl | hev
    · trivial
    · rcases hl ev hev with ⟨d, rfl⟩ | rfl <;> trivial
  | sink s => exact .inr ⟨rfl, [], by simp, by simp⟩
  | read => exact .inr ⟨rfl, [], by simp [reportStatsNowNs], by simp⟩
  | wait _ idle =>
    obtain ⟨start, he⟩ := openDrain_engine env w
    exact .inr ⟨by rw [he], _, openDrain_trace w, by simp [Event.Aside]⟩
  | discard _ nonempty ready =>
    obtain ⟨start, ring, he, -⟩ := discardDrain_engine env w
    exact .inr ⟨by rw [he], _, discardDrain_trace w, by simp [Event.Aside]⟩
  | takeOver _ ready =>
    exact .inr (setActiveOutputStream_aside env w .primary
      (setActiveOutputStream env w .primary).sinkState)
  | release primary _ front active => exact .inl ⟨primary, front, active, rfl⟩
  | failover force nowNs _ guard => exact .inr (failover_aside env force nowNs _ w)

/-- **A stage keeps the anchor or sets it.** -/
theorem Stage.anchor (h : Stage env w w') :
    AnchorKept w w' ∨ ∃ primary m, AnchorMoved w w' primary m := by
  rcases h.release_or_aside with ⟨primary, front, active, rfl⟩ | haside
  · rcases (releasePrimary_outcome env primary w).anchor front active with h | ⟨m, h⟩
    · exact .inl h
    · exact .inr ⟨primary, m, h⟩
  · exact .inl haside.anchorKept

/-! ### The anchor's records -/

/-- The record an anchor is taken from stands in the secondary history. -/
theorem releaseAnchor_find {e : RecoveryEngine} {primary m : PacketRecord}
    (h : releaseAnchor e primary = some m) :
    packetHistoryFindIndex (e.history .secondary) m.streamIndex = some m := by
  simp only [releaseAnchor, anchorSecondaryMatch] at h
  cases hsingle : singleSecondaryMatch (findSecondaryBoundaryMatches e primary) with
  | some x =>
    rw [hsingle] at h
    obtain rfl := Option.some.inj h
    suffices hmem : x ∈ (findSecondaryBoundaryMatches e primary).records from (isCandidate_of_mem hmem).1
    unfold singleSecondaryMatch at hsingle
    split at hsingle
    · next y hrecords =>
      split at hsingle
      · cases hsingle
      · obtain rfl := Option.some.inj hsingle
        rw [hrecords]
        simp
    · cases hsingle
  | none =>
    rw [hsingle] at h
    simp only at h
    split at h
    · have hfind := (findAlignedSecondaryRecord_eq_some h).2.2
      rwa [packetHistoryFindIndex_index hfind]
    · cases h

/-- The anchor pairs a primary record with a secondary one that matches it. -/
def AnchorMatches (w : World σ) : Prop :=
  w.engine.lastPrimaryAnchor.valid = true → ∃ a b,
    (pushedRecords .primary w.trace)[w.engine.lastPrimaryAnchor.primaryIndex]? = some a ∧
      (pushedRecords .secondary w.trace)[w.engine.lastPrimaryAnchor.secondaryIndex]? = some b ∧
        a.isNull = false ∧ recordsExactNonErrorMatch a b = true

theorem AnchorMatches.of_same (hw : AnchorMatches w) (ht : w.trace <+: w'.trace)
    (ha : w'.engine.lastPrimaryAnchor = w.engine.lastPrimaryAnchor) : AnchorMatches w' := by
  intro hvalid
  rw [ha] at hvalid ⊢
  obtain ⟨a, b, h1, h2, h⟩ := hw hvalid
  exact ⟨a, b, getElem?_of_prefix (pushedRecords_grow ht _) h1,
    getElem?_of_prefix (pushedRecords_grow ht _) h2, h⟩

theorem AnchorMoved.find {m : PacketRecord} (h : AnchorMoved w w' primary m) :
    packetHistoryFindIndex (w.engine.history .secondary) m.streamIndex = some m :=
  releaseAnchor_find h.sets.taken

/-- **The anchor's records match.** -/
theorem Stage.anchorMatches (h : Stage env w w') (hconsistent : Consistent w) (hw : AnchorMatches w) :
    AnchorMatches w' := by
  have ht := h.trace_prefix
  rcases h.anchor with hkept | ⟨primary, m, hmoved⟩
  · exact hw.of_same ht hkept.anchor
  · intro _
    have hprimary := hconsistent.getElem?_of_mem (hconsistent.mem_of_front (s := .primary)
      hmoved.sets.front)
    rw [hmoved.anchor]
    exact ⟨primary, m, getElem?_of_prefix (pushedRecords_grow ht _) hprimary,
      getElem?_of_prefix (pushedRecords_grow ht _) (hconsistent.getElem?_of_find hmoved.find),
      hmoved.sets.content, hmoved.sets.same⟩

theorem PacketRecord.NullByPid.isNull_eq {a b : PacketRecord} (ha : a.NullByPid) (hb : b.NullByPid)
    (h : recordsExactNonErrorMatch a b = true) : a.isNull = b.isNull := by
  have hpid := (recordsExactNonErrorMatch_iff.mp h).2.2.2.2.2.1
  refine Bool.eq_iff_iff.mpr (Iff.trans ha ?_)
  rw [hpid]
  exact Iff.symm hb

/-- The anchor's records, where they are still held. -/
theorem beforeAnchorHolds_of_held (hconsistent : Consistent w) (hmatches : AnchorMatches w)
    (hvalid : w.engine.lastPrimaryAnchor.valid = true)
    (hprimary : packetHistoryFindIndex (w.engine.history .primary)
      w.engine.lastPrimaryAnchor.primaryIndex ≠ none)
    (hsecondary : packetHistoryFindIndex (w.engine.history .secondary)
      w.engine.lastPrimaryAnchor.secondaryIndex ≠ none) : beforeAnchorHolds w.engine = true := by
  obtain ⟨a, b, ha, hb, hcontent, hmatch⟩ := hmatches hvalid
  obtain ⟨x, hx⟩ := Option.ne_none_iff_exists'.mp hprimary
  obtain ⟨y, hy⟩ := Option.ne_none_iff_exists'.mp hsecondary
  obtain rfl : x = a := Option.some.inj ((hconsistent.getElem?_of_find hx).symm.trans ha)
  obtain rfl : y = b := Option.some.inj ((hconsistent.getElem?_of_find hy).symm.trans hb)
  have hsame := (hconsistent.nullByPid_of_find hx).isNull_eq (hconsistent.nullByPid_of_find hy) hmatch
  have hcontentY : y.isNull = false := hsame.symm.trans hcontent
  exact recordsAreNonNullExactAnchor_iff.mpr ⟨x, y, hx, hy, hcontent, hcontentY, hmatch⟩

/-! ### The way of the anchor -/

/-- The changes of the anchor: from what to what. -/
def anchorings (trace : List Event) : List (PrimaryAnchor × PrimaryAnchor) :=
  trace.filterMap fun
    | .anchored old new => some (old, new)
    | _ => none

theorem mem_anchorings {t : List Event} {old new : PrimaryAnchor} :
    (old, new) ∈ anchorings t ↔ .anchored old new ∈ t := by
  rw [anchorings, List.mem_filterMap]
  constructor
  · rintro ⟨ev, hev, h⟩
    cases ev <;> simp_all
  · exact fun h => ⟨_, h, rfl⟩

/-- The anchor's records have been pushed, are content and match. -/
def PairedBy (trace : List Event) (anchor : PrimaryAnchor) : Prop :=
  ∃ a ∈ pushedRecords .primary trace, ∃ b ∈ pushedRecords .secondary trace,
    a.streamIndex = anchor.primaryIndex ∧ b.streamIndex = anchor.secondaryIndex ∧
      a.isNull = false ∧ recordsExactNonErrorMatch a b = true

/-- How the anchor came to be what it is. -/
structure AnchorSet (w : World σ) : Prop where
  sent : w.engine.lastPrimaryAnchor.valid = true →
    ∃ a ∈ queueSent .primary w.trace, a.streamIndex = w.engine.lastPrimaryAnchor.primaryIndex
  logged : w.engine.lastPrimaryAnchor.valid = true →
    ∃ old, .anchored old w.engine.lastPrimaryAnchor ∈ w.trace
  validAfter : ∀ old new, .anchored old new ∈ w.trace → w.engine.lastPrimaryAnchor.valid = true
  paired : ∀ old new, .anchored old new ∈ w.trace → old.valid = true →
    PairedBy w.trace old ∧ PairedBy w.trace new ∧ old.primaryIndex < new.primaryIndex

theorem PairedBy.grow {t t' : List Event} {anchor : PrimaryAnchor} (ht : t <+: t')
    (h : PairedBy t anchor) : PairedBy t' anchor := by
  obtain ⟨a, ha, b, hb, hab⟩ := h
  exact ⟨a, (pushedRecords_grow ht _).subset ha, b, (pushedRecords_grow ht _).subset hb, hab⟩

/-- What has been sent from a queue stands before what waits in it. -/
theorem Consistent.sent_lt_front (hw : Consistent w) {s : StreamId} {a r : PacketRecord}
    (ha : a ∈ queueSent s w.trace) (hr : delayQueueFront (w.engine.queue s) = some r) :
    a.streamIndex < r.streamIndex := by
  have hindices : ((pushedRecords s w.trace).map (·.streamIndex)).Pairwise (· < ·) := by
    rw [hw.indices s]
    exact List.pairwise_lt_range
  have horder := (List.pairwise_map.mp hindices).sublist (hw.order s)
  rw [delayQueueFront_eq] at hr
  exact (List.pairwise_append.mp horder).2.2 a ha r (List.mem_of_mem_head? hr)

theorem AnchorMatches.paired (hmatches : AnchorMatches w) (hconsistent : Consistent w)
    (hvalid : w.engine.lastPrimaryAnchor.valid = true) :
    PairedBy w.trace w.engine.lastPrimaryAnchor := by
  obtain ⟨a, b, ha, hb, hnull, hmatch⟩ := hmatches hvalid
  obtain ⟨t, p, hpa⟩ := hconsistent.place _ _ _ ha
  obtain ⟨t', p', hpb⟩ := hconsistent.place _ _ _ hb
  exact ⟨a, List.mem_of_getElem? ha, b, List.mem_of_getElem? hb, by rw [hpa]; rfl, by rw [hpb]; rfl,
    hnull, hmatch⟩

/-- **Each change moves the anchor forward on the primary.** -/
theorem Stage.anchorSet (h : Stage env w w') (hconsistent : Consistent w) (hmatches : AnchorMatches w)
    (hw : AnchorSet w) : AnchorSet w' := by
  have hgrow := h.trace_prefix
  have hkeptPairs (old new : PrimaryAnchor) (hmem : .anchored old new ∈ w.trace)
      (hvalid : old.valid = true) :
      PairedBy w'.trace old ∧ PairedBy w'.trace new ∧ old.primaryIndex < new.primaryIndex := by
    obtain ⟨hold, hnew, hlt⟩ := hw.paired old new hmem hvalid
    exact ⟨hold.grow hgrow, hnew.grow hgrow, hlt⟩
  rcases h.anchor with ⟨hanchor, l, ht, hl⟩ | ⟨primary, m, hmoved⟩
  · have hold (old new : PrimaryAnchor) (hmem : .anchored old new ∈ w'.trace) :
        .anchored old new ∈ w.trace := by
      rw [ht] at hmem
      exact (List.mem_append.mp hmem).resolve_right (hl old new)
    refine ⟨fun hvalid => ?_, fun hvalid => ?_, fun old new hmem => ?_, fun old new hmem => ?_⟩
    · rw [hanchor] at hvalid ⊢
      obtain ⟨a, ha, hindex⟩ := hw.sent hvalid
      refine ⟨a, ?_, hindex⟩
      rw [ht, queueSent_append]
      exact List.mem_append_left _ ha
    · rw [hanchor] at hvalid ⊢
      obtain ⟨old, hold⟩ := hw.logged hvalid
      exact ⟨old, hgrow.subset hold⟩
    · rw [hanchor]
      exact hw.validAfter old new (hold old new hmem)
    · exact hkeptPairs old new (hold old new hmem)
  · obtain ⟨l, ht, hl⟩ := hmoved.trace
    have hnew : PairedBy w'.trace (anchorAt primary m) := by
      have hconsistent' := h.consistent hconsistent
      have hvalid : w'.engine.lastPrimaryAnchor.valid = true := by rw [hmoved.anchor]; rfl
      have hpaired := (h.anchorMatches hconsistent hmatches).paired hconsistent' hvalid
      rwa [hmoved.anchor] at hpaired
    refine ⟨fun _ => ⟨primary, ?_, by rw [hmoved.anchor]; rfl⟩,
      fun _ => ⟨w.engine.lastPrimaryAnchor, ?_⟩,
      fun old new hmem => by rw [hmoved.anchor]; rfl, fun old new hmem hvalid => ?_⟩
    · rw [ht, queueSent_append]
      exact List.mem_append_right _ (by simp [queueSent, sentEvents, queueRoute])
    · rw [ht, hmoved.anchor]
      simp
    · rw [ht] at hmem
      rcases List.mem_append.mp hmem with hmem | hmem
      · rcases List.mem_append.mp hmem with hmem | hmem
        · exact hkeptPairs old new hmem hvalid
        · exact absurd hmem (hl old new)
      · obtain ⟨rfl, rfl⟩ : old = w.engine.lastPrimaryAnchor ∧ new = anchorAt primary m := by
          simpa using hmem
        obtain ⟨a, ha, hindex⟩ := hw.sent hvalid
        have hlt := hconsistent.sent_lt_front (s := .primary) ha hmoved.sets.front
        exact ⟨(hmatches.paired hconsistent hvalid).grow hgrow, hnew, hindex ▸ hlt⟩

/-- **The anchor of a reachable state.** -/
theorem reachable_anchorSet {config : RecoveryEngineConfig} {sinkState : σ}
    (hreach : Reachable env config sinkState w) : AnchorMatches w ∧ AnchorSet w := by
  refine hreach.invariant (I := fun w => AnchorMatches w ∧ AnchorSet w) ?_ ?_
  · have hnone : (freshWorld config sinkState).engine.lastPrimaryAnchor.valid ≠ true :=
      Bool.false_ne_true
    exact ⟨fun hvalid => absurd hvalid hnone, fun hvalid => absurd hvalid hnone,
      fun hvalid => absurd hvalid hnone, by simp [freshWorld], by simp [freshWorld]⟩
  · rintro w w' hstage hconsistent ⟨hmatches, hset⟩
    exact ⟨hstage.anchorMatches hconsistent hmatches, hstage.anchorSet hconsistent hmatches hset⟩

/-! ### Only forward -/

/-- Content that matches stands in the same order on both inputs. -/
def MatchesInOrder (trace : List Event) : Prop :=
  ∀ a ∈ pushedRecords .primary trace, ∀ a' ∈ pushedRecords .primary trace,
    ∀ b ∈ pushedRecords .secondary trace, ∀ b' ∈ pushedRecords .secondary trace,
      a.isNull = false → a'.isNull = false → recordsExactNonErrorMatch a b = true →
        recordsExactNonErrorMatch a' b' = true → a.streamIndex < a'.streamIndex →
          b.streamIndex < b'.streamIndex

instance (trace : List Event) : Decidable (MatchesInOrder trace) :=
  inferInstanceAs (Decidable (∀ _ ∈ _, _))

/-- **The anchor moves forward** on the primary in every run, and on the secondary where matching
content keeps its order. -/
theorem anchor_forward (env : Env σ) (config : RecoveryEngineConfig) (sinkState : σ) (ops : List Op) :
    ∀ old new, (old, new) ∈ anchorings (run env (freshWorld config sinkState) ops).trace →
      old.valid = true → old.primaryIndex < new.primaryIndex ∧
        (MatchesInOrder (run env (freshWorld config sinkState) ops).trace →
          old.secondaryIndex < new.secondaryIndex) := by
  intro old new hmem hvalid
  obtain ⟨-, hset⟩ := reachable_anchorSet (run_reachable env config sinkState ops)
  obtain ⟨⟨a, ha, b, hb, haIndex, hbIndex, hnull, hmatch⟩,
    ⟨a', ha', b', hb', haIndex', hbIndex', hnull', hmatch'⟩, hlt⟩ :=
    hset.paired old new (mem_anchorings.mp hmem) hvalid
  refine ⟨hlt, fun hinOrder => ?_⟩
  have hsecondary := hinOrder a ha a' ha' b hb b' hb' hnull hnull' hmatch hmatch' (by omega)
  omega

/-- Two packets arrive on both inputs, and the primary repeats the first. -/
def returningOps : List Op :=
  [.push .secondary (pcrPacket 0x100 0 1).parse, .push .primary (pcrPacket 0x100 0 1).parse,
    .push .secondary (pcrPacket 0x101 0 2).parse, .push .primary (pcrPacket 0x101 0 2).parse,
    .push .primary (pcrPacket 0x100 0 1).parse]

/-- The repeated packet takes the anchor back on the secondary. -/
theorem anchor_moves_back :
    ((⟨true, 1, 1⟩ : PrimaryAnchor), (⟨true, 2, 0⟩ : PrimaryAnchor)) ∈
      anchorings (run (scriptedEnv [] 1) (freshWorld promptConfig ()) returningOps).trace := by
  decide +kernel

/-- Without the repetition it moves forward on both inputs. -/
theorem anchor_forward_returningOps :
    ∃ old new, (old, new) ∈ anchorings
        (run (scriptedEnv [] 1) (freshWorld promptConfig ()) (returningOps.take 4)).trace ∧
      old.valid = true ∧ old.primaryIndex < new.primaryIndex ∧ old.secondaryIndex < new.secondaryIndex := by
  have hmem : ((⟨true, 0, 0⟩ : PrimaryAnchor), (⟨true, 1, 1⟩ : PrimaryAnchor)) ∈ anchorings
      (run (scriptedEnv [] 1) (freshWorld promptConfig ()) (returningOps.take 4)).trace := by
    decide +kernel
  obtain ⟨hprimary, hsecondary⟩ :=
    anchor_forward (scriptedEnv [] 1) promptConfig () (returningOps.take 4) _ _ hmem rfl
  exact ⟨_, _, hmem, rfl, hprimary, hsecondary (by decide +kernel)⟩

end TwoStream
