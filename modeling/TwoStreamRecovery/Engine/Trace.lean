import TwoStreamRecovery.Engine.Stages

/-!
# What the stages write

* `Stage.trace_prefix`: stages only append to the trace.
* `ReleaseOutcome.trace`: what a released record adds to it.
* `failoverLoop_rule`: what each sent record preserves, the failover routine preserves.
-/

namespace TwoStream

open Relation

variable {σ : Type} {env : Env σ}

/-! ### Releases -/

/-- The events between the start of a release and the next stage. -/
def Event.OfRelease : Event → Prop
  | .sent _ _ => True
  | .anchored _ _ => True
  | .decision _ => True
  | _ => False

theorem Event.OfRelease.not_pushed {l : List Event} (h : ∀ ev ∈ l, ev.OfRelease)
    (streamId : StreamId) : pushedRecords streamId l = [] := by
  refine List.filterMap_eq_nil_iff.mpr fun ev hev => ?_
  have := h ev hev
  cases ev <;> simp_all [Event.OfRelease]

section Release

variable {primary : PacketRecord} {w w' : World σ}

/-- The sends of an insertion. -/
def gapSent (kind : GapKind) (primary secondaryMatch : PacketRecord) (L : List PacketRecord) :
    List (Route × PacketRecord) :=
  L.map fun r => (.gap kind primary secondaryMatch, r)

theorem gapLogged_trace (w : World σ) (primary : PacketRecord) (n : ℕ) (previousCc : Option ℕ)
    (decision : DecisionName) :
    ∃ d, (gapLogged w primary n previousCc decision).trace = w.trace ++ [.decision d] := ⟨_, rfl⟩

theorem teiLogged_trace (w : World σ) (primary : PacketRecord) :
    ∃ d, (teiLogged w primary).trace = w.trace ++ [.decision d] := ⟨_, rfl⟩

/-- What a release that goes on to the next record has sent. -/
def ReleaseSent (primary : PacketRecord) (sent : List (Route × PacketRecord)) : Prop :=
  (∃ kind M L, sent = gapSent kind primary M L ++ [(.passThrough, primary)]) ∨
    ∃ c, sent = [(.transportError primary, c)]

/-- What it has sent, with the evidence for it. -/
inductive ReleaseSends (e : RecoveryEngine) (primary : PacketRecord) :
    List (Route × PacketRecord) → Prop
  | replaced {candidate : PacketRecord} (damaged : primary.transportError = true)
      (check : checkPrimaryTei e primary = .ok candidate) :
      ReleaseSends e primary [(.transportError primary, candidate)]
  | alone : ReleaseSends e primary [(.passThrough, primary)]
  | inserted {kind : GapKind} {secondaryMatch : PacketRecord} {L : List PacketRecord}
      (unique : UniqueCandidate e primary secondaryMatch kind)
      (evidence : GapEvidence e primary secondaryMatch kind L)
      (adjacent : kind = .nullPosition → primaryBetween e primary = 0) :
      ReleaseSends e primary (gapSent kind primary secondaryMatch L ++ [(.passThrough, primary)])

theorem ReleaseSends.sent {e : RecoveryEngine} {sent : List (Route × PacketRecord)}
    (h : ReleaseSends e primary sent) : ReleaseSent primary sent := by
  cases h with
  | replaced damaged check => exact .inr ⟨_, rfl⟩
  | alone => exact .inl ⟨.nullPosition, primary, [], rfl⟩
  | inserted unique evidence adjacent => exact .inl ⟨_, _, _, rfl⟩

/-- The sends before the released record itself. -/
theorem Prepared.trace (h : Prepared primary w w') :
    ∃ l, w'.trace = w.trace ++ l ∧ (∀ ev ∈ l, ev.OfRelease) ∧
      ∃ kind M L, sentEvents l = gapSent kind primary M L ∧
        ReleaseSends w.engine primary (gapSent kind primary M L ++ [(.passThrough, primary)]) := by
  cases h with
  | fits => exact ⟨[], by simp, by simp, .nullPosition, primary, [], rfl, .alone⟩
  | rejected =>
    exact ⟨_, rfl, by simp [Event.OfRelease], .nullPosition, primary, [], rfl, .alone⟩
  | @inserted kind secondaryMatch L previousCc decision s unique evidence adjacent =>
    obtain ⟨d, hd⟩ := gapLogged_trace w primary L.length previousCc decision
    refine ⟨.decision d :: L.map (.sent (.gap kind primary secondaryMatch)), ?_, ?_, kind,
      secondaryMatch, L, ?_, .inserted unique evidence adjacent⟩
    · rw [gapBurst_trace, acceptAll_trace, hd]
      simp
    · intro ev hev
      rcases List.mem_cons.mp hev with rfl | hev
      · trivial
      · obtain ⟨r, -, rfl⟩ := List.mem_map.mp hev
        trivial
    · exact sentEvents_map_sent L

/-- What an iteration adds to the trace, and what it has sent. -/
theorem ReleaseOutcome.adds {res : Iteration × World σ} (h : ReleaseOutcome env primary w res) :
    ∃ l, res.2.trace = w.trace ++ .release (openRelease primary w).engine :: l ∧
      (∀ ev ∈ l, ev.OfRelease) ∧
      (res.1 = .next ∧ ReleaseSends (openRelease primary w).engine primary (sentEvents l) ∨
        res.1 = .done false ∧ ¬ env.Accepting ∧
          ∃ kind M L, sentEvents l = gapSent kind primary M L) := by
  have hopen : (openRelease primary w).trace =
      w.trace ++ [.release (openRelease primary w).engine] := rfl
  cases h with
  | @replaced candidate s damaged check =>
    obtain ⟨d, hd⟩ := teiLogged_trace (openRelease primary w) primary
    refine ⟨[.decision d, .sent (.transportError primary) candidate], ?_, by simp [Event.OfRelease],
      .inl ⟨rfl, .replaced damaged check⟩⟩
    simp only [popPrimary, acceptRecovered, acceptRecord_trace]
    rw [hd, hopen]
    simp
  | @sent w' s prepared =>
    obtain ⟨l, ht, hl, kind, M, L, hsent, hsends⟩ := prepared.trace
    obtain ⟨l', ht', hl'⟩ := updatePrimaryAnchor_trace
      (acceptRecord .passThrough { w' with sinkState := s } primary) primary
      (releaseAnchor (openRelease primary w).engine primary)
    refine ⟨l ++ .sent .passThrough primary :: l', ?_, ?_, .inl ⟨rfl, ?_⟩⟩
    · simp only [popPrimary]
      rw [ht', acceptRecord_trace, ht, hopen]
      simp
    · intro ev hev
      rcases List.mem_append.mp hev with hev | hev
      · exact hl ev hev
      · rcases List.mem_cons.mp hev with rfl | hev
        · trivial
        · obtain ⟨old, new, rfl⟩ := hl' ev hev
          trivial
    · have hnotes : sentEvents l' = [] := sentEvents_of_notes fun ev hev => by
        obtain ⟨old, new, rfl⟩ := hl' ev hev
        trivial
      rw [sentEvents_append, hsent, sentEvents_sent, hnotes]
      exact hsends
  | @refused w' s refuses prepared =>
    obtain ⟨l, ht, hl, kind, M, L, hsent, -⟩ := prepared.trace
    exact ⟨l, by rw [ht, hopen]; simp, hl, .inr ⟨rfl, refuses, kind, M, L, hsent⟩⟩
  | refusedReplacement refuses =>
    obtain ⟨d, hd⟩ := teiLogged_trace (openRelease primary w) primary
    exact ⟨[.decision d], by simp [hd, hopen], by simp [Event.OfRelease],
      .inr ⟨rfl, refuses, .nullPosition, primary, [], rfl⟩⟩
  | @refusedGap kind secondaryMatch L previousCc decision s n refuses evidence =>
    obtain ⟨d, hd⟩ := gapLogged_trace (openRelease primary w) primary L.length previousCc decision
    refine ⟨.decision d :: (L.take n).map (.sent (.gap kind primary secondaryMatch)), ?_, ?_,
      .inr ⟨rfl, refuses, kind, secondaryMatch, L.take n, ?_⟩⟩
    · rw [acceptAll_trace, hd, hopen]
      simp
    · intro ev hev
      rcases List.mem_cons.mp hev with rfl | hev
      · trivial
      · obtain ⟨r, -, rfl⟩ := List.mem_map.mp hev
        trivial
    · exact sentEvents_map_sent _

/-- **The trace of an iteration.** -/
theorem ReleaseOutcome.trace {res : Iteration × World σ} (h : ReleaseOutcome env primary w res) :
    ∃ l, res.2.trace = w.trace ++ .release (openRelease primary w).engine :: l ∧
      (∀ ev ∈ l, ev.OfRelease) ∧
      (res.1 = .next ∧ ReleaseSent primary (sentEvents l) ∨
        res.1 = .done false ∧ ∃ kind M L, sentEvents l = gapSent kind primary M L) := by
  obtain ⟨l, ht, hl, ⟨hnext, hsends⟩ | ⟨hdone, -, hsent⟩⟩ := h.adds
  · exact ⟨l, ht, hl, .inl ⟨hnext, hsends.sent⟩⟩
  · exact ⟨l, ht, hl, .inr ⟨hdone, hsent⟩⟩

/-- **The sends of an iteration under an accepting sink.** -/
theorem ReleaseOutcome.sends {res : Iteration × World σ} (hacc : env.Accepting)
    (h : ReleaseOutcome env primary w res) :
    ∃ l, res.2.trace = w.trace ++ .release (openRelease primary w).engine :: l ∧
      (∀ ev ∈ l, ev.OfRelease) ∧
      ReleaseSends (openRelease primary w).engine primary (sentEvents l) := by
  obtain ⟨l, ht, hl, ⟨-, hsends⟩ | ⟨-, hrefuses, -⟩⟩ := h.adds
  · exact ⟨l, ht, hl, hsends⟩
  · exact absurd hacc hrefuses

end Release

/-! ### Failover -/

/-- **Rule of the failover loop.** -/
theorem failoverLoop_rule {J : World σ → Prop} {force : Bool}
    (hread : ∀ w, J w → J (reportStatsNowNs env w).2)
    (hsend : ∀ w r s, delayQueueFront w.engine.secondaryQueue = some r → J w →
      J (failoverSent env w r s))
    (hrefuse : ∀ w s, ¬ env.Accepting → J w →
      J { setActiveOutputStream env w .secondary with sinkState := s })
    (n : ℕ) (w : World σ) (hw : J w) : J (failoverLoop env force n w).2 := by
  induction n generalizing w with
  | zero => exact hw
  | succ n ih =>
    unfold failoverLoop
    cases hfront : delayQueueFront w.engine.secondaryQueue with
    | none => exact hw
    | some secondary =>
      have hnow := hread w hw
      simp only
      split
      · exact hnow
      · rcases hout : outputRecord env .failover
          (setActiveOutputStream env (reportStatsNowNs env w).2 .secondary) secondary with ⟨_ | _, w'⟩
        · obtain ⟨hrefuses, s, rfl⟩ := outputRecord_refuses hout
          exact hrefuse _ s hrefuses hnow
        · obtain ⟨s, rfl⟩ := outputRecord_takes hout
          have hsent := hsend (reportStatsNowNs env w).2 secondary s hfront hnow
          simp only
          split
          · exact hsent
          · exact ih _ hsent

theorem setActiveOutputStream_trace (env : Env σ) (w : World σ) (streamId : StreamId) :
    ∃ l, (setActiveOutputStream env w streamId).trace = w.trace ++ l ∧
      ((l = [] ∧ w.engine.activeOutputStreamId = streamId) ∨
        (l = [.switched streamId (w.lastReading env) w.engine] ∧
          w.engine.activeOutputStreamId ≠ streamId)) := by
  unfold setActiveOutputStream
  split
  · next h => exact ⟨[], by simp, .inl ⟨rfl, h⟩⟩
  · next h => exact ⟨_, rfl, .inr ⟨rfl, h⟩⟩

/-- Switching changes the active stream only. -/
theorem setActiveOutputStream_engine (env : Env σ) (w : World σ) (streamId : StreamId) :
    (setActiveOutputStream env w streamId).engine =
      { w.engine with activeOutputStreamId := streamId } := by
  unfold setActiveOutputStream
  split
  · next h => rw [← h]
  · rfl

@[simp] theorem setActiveOutputStream_reads (w : World σ) (streamId : StreamId) :
    (setActiveOutputStream env w streamId).reads = w.reads := by
  unfold setActiveOutputStream
  split <;> rfl

theorem failoverSent_engine (w : World σ) (r : PacketRecord) (s : σ) :
    (failoverSent env w r s).engine =
      { w.engine with
        activeOutputStreamId := .secondary
        hasOutputStreamIndex := Function.update w.engine.hasOutputStreamIndex r.sourceStreamId true
        lastOutputStreamIndex :=
          Function.update w.engine.lastOutputStreamIndex r.sourceStreamId r.streamIndex
        outputPidState := outputStatesAfter w.engine.outputPidState r
        secondaryQueue := delayQueuePop w.engine.secondaryQueue } := by
  simp only [failoverSent, acceptRecord_engine, setActiveOutputStream_engine]

theorem failoverSent_trace (w : World σ) (r : PacketRecord) (s : σ) :
    (failoverSent env w r s).trace =
      (setActiveOutputStream env w .secondary).trace ++ [.sent .failover r] := by
  simp only [failoverSent, acceptRecord_trace]

theorem setActiveOutputStream_appends (w : World σ) (streamId : StreamId) :
    w.trace <+: (setActiveOutputStream env w streamId).trace := by
  obtain ⟨l, ht, -⟩ := setActiveOutputStream_trace env w streamId
  exact ⟨l, ht.symm⟩

theorem failoverSent_appends (w : World σ) (r : PacketRecord) (s : σ) :
    w.trace <+: (failoverSent env w r s).trace := by
  rw [failoverSent_trace]
  exact (setActiveOutputStream_appends w .secondary).trans (List.prefix_append _ _)

/-- The failover routine only appends to the trace. -/
theorem failoverLoop_appends (force : Bool) (n : ℕ) (w : World σ) :
    w.trace <+: (failoverLoop env force n w).2.trace :=
  failoverLoop_rule (J := fun w' => w.trace <+: w'.trace) (fun _ h => h)
    (fun w₁ r s _ h => h.trans (failoverSent_appends w₁ r s))
    (fun w₁ _ _ h => h.trans (setActiveOutputStream_appends w₁ .secondary)) n w List.prefix_rfl

/-! ### Stages -/

theorem discardSecondary_engine (e : RecoveryEngine) :
    ∃ ring, discardSecondaryRecordsAlreadyOutputByPrimary e =
      { e with secondaryQueue := { e.secondaryQueue with ring := ring } } ∧
      ring.toList <:+ e.secondaryQueue.toList := by
  unfold discardSecondaryRecordsAlreadyOutputByPrimary
  split
  · exact ⟨e.secondaryQueue.ring, rfl, List.suffix_rfl⟩
  · refine ⟨_, rfl, ?_⟩
    rw [RingBuffer.toList_popWhile]
    exact List.dropWhile_suffix _

/-- The hold-off moves its own start time only. -/
theorem primaryReturnHoldoffElapsed_engine (e : RecoveryEngine) (nowNs : ℕ) :
    ∃ start, (primaryReturnHoldoffElapsed e nowNs).2 = { e with primaryReturnStartNs := start } := by
  unfold primaryReturnHoldoffElapsed
  split_ifs
  · exact ⟨0, rfl⟩
  · exact ⟨0, rfl⟩
  · exact ⟨0, rfl⟩
  · exact ⟨nowNs, rfl⟩
  · exact ⟨e.primaryReturnStartNs, rfl⟩

theorem openDrain_engine (env : Env σ) (w : World σ) :
    ∃ start, (openDrain env w).engine = { w.engine with primaryReturnStartNs := start } :=
  primaryReturnHoldoffElapsed_engine w.engine (env.clock w.reads)

theorem discardDrain_engine (env : Env σ) (w : World σ) :
    ∃ start ring, (discardDrain env w).engine =
      { w.engine with
        primaryReturnStartNs := start
        primaryQueue := { w.engine.primaryQueue with ring := ring } } ∧
      ring.toList = w.engine.primaryQueue.toList.dropWhile
        (primaryRecordAlreadyOutputBySecondary w.engine) := by
  obtain ⟨start, h⟩ := openDrain_engine env w
  refine ⟨start, w.engine.primaryQueue.ring.popWhile
    (primaryRecordAlreadyOutputBySecondary w.engine), ?_, RingBuffer.toList_popWhile _ _⟩
  simp only [discardDrain, discardPrimaryRecordsAlreadyOutputBySecondary, h]
  rfl

theorem openDrain_trace (w : World σ) :
    (openDrain env w).trace = w.trace ++ [.drain (env.clock w.reads) w.engine] := rfl

theorem discardDrain_trace (w : World σ) :
    (discardDrain env w).trace = w.trace ++ [.drain (env.clock w.reads) w.engine] := rfl

/-- **Stages only append to the trace.** -/
theorem Stage.trace_prefix {w w' : World σ} (h : Stage env w w') : w.trace <+: w'.trace := by
  cases h with
  | ingest streamId p =>
    obtain ⟨l, ht, -⟩ := (pushIngest_ingested env streamId p w).trace
    exact ⟨_, ht.symm⟩
  | sink s => exact List.prefix_rfl
  | read => exact List.prefix_rfl
  | wait _ idle => exact List.prefix_append _ _
  | discard _ nonempty ready => exact List.prefix_append _ _
  | takeOver _ ready => exact setActiveOutputStream_appends w .primary
  | release primary _ front active =>
    obtain ⟨l, ht, -⟩ := (releasePrimary_outcome env primary w).trace
    exact ⟨_, ht.symm⟩
  | failover force nowNs _ guard =>
    exact (List.prefix_append _ _).trans (failoverLoop_appends force _ (enterFailover nowNs w))

/-! ### Reachable states -/

/-- The states a run passes through between the stages of its calls. -/
def Reachable (env : Env σ) (config : RecoveryEngineConfig) (sinkState : σ) (w : World σ) : Prop :=
  ReflTransGen (Stage env) (freshWorld config sinkState) w

theorem run_reachable (env : Env σ) (config : RecoveryEngineConfig) (sinkState : σ)
    (ops : List Op) : Reachable env config sinkState (run env (freshWorld config sinkState) ops) :=
  run_stages env _ ops

end TwoStream
