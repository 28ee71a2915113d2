import TwoStreamRecovery.Duplicates

/-!
# What the engine knows about what it has sent

* `RecoveryEngine.outputIndex`: the index of the last record sent of a stream, as the engine keeps it;
  `lastIndex`: the same from the sent records.
* `SentKnown`: they agree, and what was sent was pushed; `sentKnown_of_reachable`.
* `AllSent`: states in which the primary's records have been sent and nothing else.
-/

namespace TwoStream

variable {σ : Type} {env : Env σ} {w w' w'' : World σ} {s : StreamId} {r : PacketRecord}

/-! ### The last index -/

/-- The index of the last record sent of a stream. -/
def RecoveryEngine.outputIndex (e : RecoveryEngine) (s : StreamId) : Option ℕ :=
  if e.hasOutputStreamIndex s then some (e.lastOutputStreamIndex s) else none

/-- The index of the last record of a stream. -/
def lastIndex (s : StreamId) (sent : List PacketRecord) : Option ℕ :=
  ((sent.filter fun r => r.sourceStreamId = s).getLast?).map (·.streamIndex)

theorem lastIndex_concat (s : StreamId) (sent : List PacketRecord) (r : PacketRecord) :
    lastIndex s (sent ++ [r]) =
      if r.sourceStreamId = s then some r.streamIndex else lastIndex s sent := by
  by_cases hr : r.sourceStreamId = s <;> simp [lastIndex, List.filter_append, hr]

theorem acceptRecord_outputIndex (route : Route) (w : World σ) (r : PacketRecord) (s : StreamId) :
    (acceptRecord route w r).engine.outputIndex s =
      if r.sourceStreamId = s then some r.streamIndex else w.engine.outputIndex s := by
  rw [RecoveryEngine.outputIndex, acceptRecord_engine]
  by_cases hr : r.sourceStreamId = s
  · subst hr
    simp
  · simp [RecoveryEngine.outputIndex, Function.update_of_ne (Ne.symm hr), hr]

/-- Sent records are pushed records of the stream their route sends from, and the engine knows the
last one of each stream. -/
structure SentKnown (w : World σ) : Prop where
  pushed : ∀ x ∈ sentEvents w.trace, x.2 ∈ pushedRecords x.1.stream w.trace
  index : ∀ s, w.engine.outputIndex s = lastIndex s (sentRecords w.trace)

/-- Nothing is sent. -/
structure SameSent (w w' : World σ) : Prop where
  sent : sentEvents w'.trace = sentEvents w.trace
  grows : w.trace <+: w'.trace
  index : w'.engine.outputIndex = w.engine.outputIndex

theorem SameSent.trans (h : SameSent w w') (h' : SameSent w' w'') : SameSent w w'' where
  sent := h'.sent.trans h.sent
  grows := h.grows.trans h'.grows
  index := h'.index.trans h.index

theorem SameSent.sentKnown (h : SameSent w w') (hw : SentKnown w) : SentKnown w' := by
  constructor
  · intro x hx
    rw [h.sent] at hx
    exact (pushedRecords_grow h.grows x.1.stream).subset (hw.pushed x hx)
  · intro s
    rw [h.index, sentRecords, h.sent]
    exact hw.index s

/-! ### Sending -/

theorem acceptRecord_sentKnown (route : Route) (hr : r ∈ pushedRecords route.stream w.trace)
    (hw : SentKnown w) : SentKnown (acceptRecord route w r) := by
  have hpushed : ∀ s, pushedRecords s (acceptRecord route w r).trace = pushedRecords s w.trace := by
    intro s
    rw [acceptRecord_trace, pushedRecords_append]
    simp
  have hsent : sentEvents (acceptRecord route w r).trace = sentEvents w.trace ++ [(route, r)] := by
    rw [acceptRecord_trace, sentEvents_append]
    simp
  constructor
  · intro x hx
    rw [hsent, List.mem_append, List.mem_singleton] at hx
    rw [hpushed]
    rcases hx with hx | rfl
    · exact hw.pushed x hx
    · exact hr
  · intro s
    rw [acceptRecord_outputIndex, sentRecords, hsent, List.map_append, List.map_singleton,
      lastIndex_concat, hw.index s]
    rfl

theorem acceptAll_sentKnown {route : Route} {nullFlag : PacketRecord → Bool} {L : List PacketRecord}
    (hL : ∀ r ∈ L, r ∈ pushedRecords route.stream w.trace) (hw : SentKnown w) :
    SentKnown (acceptAll route nullFlag w L) := by
  induction L generalizing w with
  | nil => exact hw
  | cons r rest ih =>
    have hsent := acceptRecord_sentKnown route (hL r List.mem_cons_self) hw
    have hpushed : pushedRecords route.stream (acceptRecord route w r).trace =
        pushedRecords route.stream w.trace := by
      rw [acceptRecord_trace, pushedRecords_append]
      simp
    refine ih ?_ ⟨hsent.pushed, hsent.index⟩
    intro x hx
    change x ∈ pushedRecords route.stream (acceptRecord route w r).trace
    rw [hpushed]
    exact hL x (List.mem_cons_of_mem _ hx)

/-! ### Stages -/

/-- What writes notes only and keeps the last indices sends nothing. -/
theorem sameSent_of_notes {l : List Event} (ht : w'.trace = w.trace ++ l) (hl : ∀ ev ∈ l, ev.IsNote)
    (hindex : w'.engine.outputIndex = w.engine.outputIndex) : SameSent w w' where
  sent := by rw [ht, sentEvents_append, sentEvents_of_notes hl, List.append_nil]
  grows := ⟨l, ht.symm⟩
  index := hindex

theorem sink_sameSent (w : World σ) (s : σ) : SameSent w { w with sinkState := s } :=
  ⟨rfl, List.prefix_rfl, rfl⟩

theorem openRelease_sameSent (primary : PacketRecord) (w : World σ) :
    SameSent w (openRelease primary w) :=
  sameSent_of_notes rfl (by simp [Event.IsNote]) rfl

theorem setActiveOutputStream_sameSent (env : Env σ) (w : World σ) (streamId : StreamId) (s : σ) :
    SameSent w { setActiveOutputStream env w streamId with sinkState := s } := by
  obtain ⟨l, ht, hl⟩ := setActiveOutputStream_trace env w streamId
  refine sameSent_of_notes ht ?_ ?_
  · rcases hl with ⟨rfl, -⟩ | ⟨rfl, -⟩ <;> simp [Event.IsNote]
  · funext streamId'
    simp only [RecoveryEngine.outputIndex, setActiveOutputStream_engine]

/-- The sends of an insertion. -/
theorem gapLogged_sentKnown {primary M : PacketRecord} {kind : GapKind} {L L' : List PacketRecord}
    (evidence : GapEvidence w.engine primary M kind L) (hL : L'.Sublist L) (previousCc : Option ℕ)
    (decision : DecisionName) (hconsistent : Consistent w) (hw : SentKnown w) :
    SentKnown (acceptAll (.gap kind primary M) (gapNullFlag kind)
      (gapLogged w primary L.length previousCc decision) L') := by
  have hlogged : SameSent w (gapLogged w primary L.length previousCc decision) :=
    sameSent_of_notes rfl (by simp [Event.IsNote]) rfl
  have hfound : ∀ r ∈ L', r ∈ pushedRecords .secondary
      (gapLogged w primary L.length previousCc decision).trace := by
    intro r hr
    have hmem := List.mem_of_getElem? (hconsistent.getElem?_of_find (evidence.found (hL.subset hr)).1)
    exact (pushedRecords_grow hlogged.grows .secondary).subset hmem
  exact acceptAll_sentKnown hfound (hlogged.sentKnown hw)

theorem Prepared.sentKnown {primary : PacketRecord} (h : Prepared primary w w')
    (hconsistent : Consistent w) (hw : SentKnown w) : SentKnown w' := by
  cases h with
  | fits => exact hw
  | rejected previousCc missingCount candidate before after rejectReason reason =>
    have hlogged : SameSent w (recoveryRejectLog w primary previousCc missingCount candidate before
        after rejectReason reason) := sameSent_of_notes rfl (by simp [Event.IsNote]) rfl
    exact hlogged.sentKnown hw
  | @inserted kind M L previousCc decision s unique evidence adjacent =>
    have hall := gapLogged_sentKnown evidence (List.Sublist.refl L) previousCc decision hconsistent hw
    refine SameSent.sentKnown ⟨?_, ?_, ?_⟩ hall
    · rw [gapBurst_trace]
    · rw [gapBurst_trace]
    · rw [gapBurst_engine]

theorem release_sentKnown {primary : PacketRecord} {res : Iteration × World σ}
    (h : ReleaseOutcome env primary w res)
    (hfront : delayQueueFront w.engine.primaryQueue = some primary) (hconsistent : Consistent w)
    (hw : SentKnown w) : SentKnown res.2 := by
  have hopen : SentKnown (openRelease primary w) := (openRelease_sameSent primary w).sentKnown hw
  have hconsistent' : Consistent (openRelease primary w) := openRelease_consistent hconsistent
  have hpushed : primary ∈ pushedRecords .primary w.trace :=
    hconsistent.mem_of_front (s := .primary) hfront
  cases h with
  | @replaced candidate s damaged check =>
    have hfind := (findAlignedSecondaryRecord_eq_some (checkPrimaryTei_eq_ok_iff.mp check).aligned).2.2
    have hlogged : SameSent (openRelease primary w)
        { teiLogged (openRelease primary w) primary with sinkState := s } :=
      sameSent_of_notes rfl (by simp [Event.IsNote]) rfl
    have hmem := List.mem_of_getElem? (hconsistent'.getElem?_of_find hfind)
    have hsent := acceptRecord_sentKnown (.transportError primary)
      ((pushedRecords_grow hlogged.grows .secondary).subset hmem) (hlogged.sentKnown hopen)
    exact ⟨hsent.pushed, hsent.index⟩
  | @sent w₁ s prepared =>
    have hprepared : SentKnown { w₁ with sinkState := s } :=
      (sink_sameSent w₁ s).sentKnown (prepared.sentKnown hconsistent' hopen)
    obtain ⟨l, ht, -⟩ := prepared.trace
    have hgrows : w.trace <+: ({ w₁ with sinkState := s } : World σ).trace := by
      change w.trace <+: w₁.trace
      rw [ht]
      exact (openRelease_sameSent primary w).grows.trans (List.prefix_append _ _)
    have hsent := acceptRecord_sentKnown .passThrough
      ((pushedRecords_grow hgrows .primary).subset hpushed) hprepared
    obtain ⟨l', ht', hl'⟩ := updatePrimaryAnchor_trace
      (acceptRecord .passThrough { w₁ with sinkState := s } primary) primary
      (releaseAnchor (openRelease primary w).engine primary)
    have hnotes : ∀ ev ∈ l', ev.IsNote := by
      intro ev hev
      obtain ⟨old, new, rfl⟩ := hl' ev hev
      trivial
    have hanchor := sameSent_of_notes ht' hnotes (by rw [updatePrimaryAnchor_engine]; rfl)
    have hdone := hanchor.sentKnown hsent
    exact ⟨hdone.pushed, hdone.index⟩
  | @refused w₁ s refuses prepared =>
    exact (sink_sameSent w₁ s).sentKnown (prepared.sentKnown hconsistent' hopen)
  | @refusedReplacement s refuses =>
    have hlogged : SameSent (openRelease primary w)
        { teiLogged (openRelease primary w) primary with sinkState := s } :=
      sameSent_of_notes rfl (by simp [Event.IsNote]) rfl
    exact hlogged.sentKnown hopen
  | @refusedGap kind M L previousCc decision s n refuses evidence =>
    exact (sink_sameSent _ s).sentKnown
      (gapLogged_sentKnown evidence (List.take_sublist n L) previousCc decision hconsistent' hopen)

theorem failoverSent_sentKnown {s : σ} (hfront : delayQueueFront w.engine.secondaryQueue = some r)
    (hconsistent : Consistent w) (hw : SentKnown w) : SentKnown (failoverSent env w r s) := by
  have hswitch := setActiveOutputStream_sameSent env w .secondary s
  have hpushed : r ∈ pushedRecords .secondary w.trace :=
    hconsistent.mem_of_front (s := .secondary) hfront
  have hsent := acceptRecord_sentKnown .failover
    ((pushedRecords_grow hswitch.grows .secondary).subset hpushed) (hswitch.sentKnown hw)
  exact ⟨hsent.pushed, hsent.index⟩

theorem enterFailover_sameSent (nowNs : ℕ) (w : World σ) : SameSent w (enterFailover nowNs w) := by
  obtain ⟨ring, he, -⟩ := discardSecondary_engine w.engine
  refine sameSent_of_notes (l := [.failover nowNs w.engine]) rfl (by simp [Event.IsNote]) ?_
  funext s
  simp only [RecoveryEngine.outputIndex, enterFailover, he]

theorem Stage.sentKnown (h : Stage env w w') (hconsistent : Consistent w) (hw : SentKnown w) :
    SentKnown w' := by
  cases h with
  | ingest streamId p =>
    have hingested := pushIngest_ingested env streamId p w
    obtain ⟨a, i, q1, q2, he⟩ := hingested.engine
    have hsame : SameSent w (pushIngest env streamId p w) := by
      obtain ⟨l, ht, -⟩ := hingested.trace
      exact ⟨hingested.sentEvents_eq, ⟨_, ht.symm⟩, by rw [he]; rfl⟩
    exact hsame.sentKnown hw
  | sink s => exact (sink_sameSent w s).sentKnown hw
  | read => exact ⟨hw.pushed, hw.index⟩
  | wait _ idle =>
    obtain ⟨start, he⟩ := openDrain_engine env w
    exact (sameSent_of_notes (openDrain_trace w) (by simp [Event.IsNote])
      (by rw [he]; rfl)).sentKnown hw
  | discard _ nonempty ready =>
    obtain ⟨start, ring, he, -⟩ := discardDrain_engine env w
    exact (sameSent_of_notes (discardDrain_trace w) (by simp [Event.IsNote])
      (by rw [he]; rfl)).sentKnown hw
  | takeOver _ ready => exact (setActiveOutputStream_sameSent env w .primary _).sentKnown hw
  | release primary _ front active =>
    exact release_sentKnown (releasePrimary_outcome env primary w) front hconsistent hw
  | failover force nowNs _ guard =>
    refine (failoverLoop_rule (J := fun w => Consistent w ∧ SentKnown w) ?_ ?_ ?_ _ _ ?_).2
    · rintro w₁ ⟨h1, h2⟩
      exact ⟨(Stage.read w₁ : Stage env w₁ _).consistent h1, h2.pushed, h2.index⟩
    · rintro w₁ r s hfront ⟨h1, h2⟩
      exact ⟨(failoverSent_consumes hfront).consistent h1, failoverSent_sentKnown hfront h1 h2⟩
    · rintro w₁ s - ⟨h1, h2⟩
      exact ⟨(setActiveOutputStream_consumes env w₁ .secondary s).consistent h1,
        (setActiveOutputStream_sameSent env w₁ .secondary s).sentKnown h2⟩
    · exact ⟨(enterFailover_consumes nowNs w).consistent hconsistent,
        (enterFailover_sameSent nowNs w).sentKnown hw⟩

/-- **What was sent was pushed, and the engine knows the last of it,** in every reachable state,
whatever the sink refuses. -/
theorem sentKnown_of_reachable {config : RecoveryEngineConfig} {sinkState : σ}
    (hreach : Reachable env config sinkState w) : SentKnown w :=
  hreach.invariant (I := SentKnown) ⟨(by simp [freshWorld]), fun s => by cases s <;> rfl⟩
    fun _ _ hstage hconsistent hw => hstage.sentKnown hconsistent hw

/-! ### All of the primary has been sent -/

/-- The primary's records have been sent in order, and nothing else. -/
def AllSent (w : World σ) : Prop := sentRecords w.trace = pushedRecords .primary w.trace

theorem AllSent.queueSent_eq (hall : AllSent w) (hconsistent : Consistent w) (hw : SentKnown w) :
    queueSent .primary w.trace = pushedRecords .primary w.trace := by
  have hroute : ∀ x ∈ sentEvents w.trace, x.1 = .passThrough := by
    intro x hx
    have hprimary : x.2 ∈ pushedRecords .primary w.trace := by
      rw [← hall]
      exact List.mem_map_of_mem hx
    have h1 := hconsistent.source_of_mem hprimary
    have h2 := hconsistent.source_of_mem (hw.pushed x hx)
    have hstream : x.1.stream = .primary := h2.symm.trans h1
    generalize x.1 = route at hstream
    cases route with
    | passThrough => rfl
    | failover | gap | transportError => cases hstream
  rw [← hall, sentRecords, queueSent]
  generalize sentEvents w.trace = L at hroute
  induction L with
  | nil => rfl
  | cons x rest ih =>
    rw [List.filterMap_cons_some (b := x.2) (by simp [hroute x List.mem_cons_self, queueRoute]),
      ih fun y hy => hroute y (List.mem_cons_of_mem _ hy)]
    rfl

/-- Nothing waits in the primary queue. -/
theorem AllSent.queue_nil (hall : AllSent w) (hconsistent : Consistent w) (hw : SentKnown w) :
    w.engine.primaryQueue.toList = [] := by
  have horder := (hconsistent.order .primary).length_le
  rw [hall.queueSent_eq hconsistent hw, List.length_append] at horder
  have hzero : w.engine.primaryQueue.toList.length = 0 := by
    change (w.engine.queue .primary).toList.length = 0
    omega
  exact List.length_eq_zero_iff.mp hzero

/-- The engine has the last index. -/
theorem AllSent.outputIndex_eq (hall : AllSent w) (hconsistent : Consistent w) (hw : SentKnown w)
    {n : ℕ} (hn : (pushedRecords .primary w.trace).length = n + 1) :
    w.engine.outputIndex .primary = some n := by
  obtain ⟨r, hget⟩ : ∃ r, (pushedRecords .primary w.trace)[n]? = some r :=
    ⟨_, List.getElem?_eq_getElem (Nat.lt_of_lt_of_eq n.lt_succ_self hn.symm)⟩
  obtain ⟨t, p, hr⟩ := hconsistent.place _ _ _ hget
  have hlast : pushedRecords .primary w.trace = (pushedRecords .primary w.trace).take n ++ [r] := by
    have htake := List.take_add_one (l := pushedRecords .primary w.trace) (i := n)
    rw [hget, List.take_of_length_le (by omega)] at htake
    exact htake
  rw [hw.index, hall, hlast, lastIndex_concat, hr]
  rfl

end TwoStream
