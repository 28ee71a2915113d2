import TwoStreamRecovery.Engine.Trace

/-!
# What every send keeps

* `World.emission`: the sink's state, what it has taken, and how the engine counts it.
* `Env.ideal`: the sink that takes every record; `World.forget`: the world without its sink.
* `Settles env J K`: offering a record to the sink keeps the condition `J` on the emission, unless
  the sink refuses it, and then `K` holds.
* `Settled J K`: the world is the one with the ideal sink, and `J` holds; or the sink has refused a
  record, and `K` holds.
* `Settles.drain`, `Settles.push`: so every drain and every push is settled.
* `Kept env J`: the sink keeps `J` in either case; `Kept.drain`, `Kept.push`.
-/

namespace TwoStream

open Relation

variable {σ : Type} {env : Env σ} {w : World σ}

/-- The sink's state, what it has taken, and how the engine counts it. -/
def World.emission (w : World σ) : σ × List (Route × PacketRecord) × ℕ × ℕ :=
  (w.sinkState, sentEvents w.trace, w.stats.outputPackets, w.stats.outputDatagrams)

/-- The conditions on the emission. -/
abbrev EmissionProp (σ : Type) : Type := σ × List (Route × PacketRecord) × ℕ × ℕ → Prop

/-- Offering a record to the sink keeps `J`. -/
def Kept (env : Env σ) (J : σ × List (Route × PacketRecord) × ℕ × ℕ → Prop) : Prop :=
  ∀ route w r, J w.emission → J (outputRecord env route w r).2.emission

/-- What a sink keeps, as long as it takes the records: `J`. When it refuses one, `K` holds. -/
structure Settles (env : Env σ) (J K : EmissionProp σ) : Prop where
  taken : ∀ {route w r w'}, J w.emission → outputRecord env route w r = (true, w') → J w'.emission
  refused : ∀ {route w r w'}, J w.emission → outputRecord env route w r = (false, w') → K w'.emission

theorem Kept.settles {J : EmissionProp σ} (hJ : Kept env J) : Settles env J J where
  taken {route w r w'} hw hout := by
    have hsent := hJ route w r hw
    rwa [hout] at hsent
  refused {route w r w'} hw hout := by
    have hsent := hJ route w r hw
    rwa [hout] at hsent

/-! ### The ideal sink -/

/-- The sink that takes every record, with the same clock. -/
def Env.ideal (env : Env σ) : Env Unit := ⟨⟨fun s _ => (0, s), none⟩, env.clock⟩

theorem Env.ideal_accepting (env : Env σ) : env.ideal.Accepting := fun _ _ => rfl

/-- The world without its sink. -/
abbrev World.forget (w : World σ) : World Unit := { w with sinkState := () }

@[simp] theorem World.forget_engine (w : World σ) : w.forget.engine = w.engine := rfl

@[simp] theorem World.forget_stats (w : World σ) : w.forget.stats = w.stats := rfl

@[simp] theorem World.forget_reads (w : World σ) : w.forget.reads = w.reads := rfl

@[simp] theorem World.forget_trace (w : World σ) : w.forget.trace = w.trace := rfl

@[simp] theorem Env.ideal_clock (env : Env σ) : env.ideal.clock = env.clock := rfl

theorem World.ext_fields {w w' : World σ} (hengine : w.engine = w'.engine) (hstats : w.stats = w'.stats)
    (hsink : w.sinkState = w'.sinkState) (hreads : w.reads = w'.reads) (htrace : w.trace = w'.trace) :
    w = w' := by
  rcases w with ⟨engine, stats, sinkState, reads, trace⟩
  rcases w' with ⟨engine', stats', sinkState', reads', trace'⟩
  obtain rfl : engine = engine' := hengine
  obtain rfl : stats = stats' := hstats
  obtain rfl : sinkState = sinkState' := hsink
  obtain rfl : reads = reads' := hreads
  obtain rfl : trace = trace' := htrace
  rfl

theorem acceptRecord_forget (route : Route) (w : World σ) (r : PacketRecord) :
    acceptRecord route w.forget r = (acceptRecord route w r).forget :=
  World.ext_fields (by simp) (by simp) rfl (by simp) (by simp)

theorem recoveryDecisionLog_forget (w : World σ) (streamId : StreamId) (record : PacketRecord)
    (previousCc missingCount : Option ℕ) (candidate before after : Bool) (decision : DecisionName)
    (reason : Option ReasonName) :
    recoveryDecisionLog w.forget streamId record previousCc missingCount candidate before after decision
      reason = (recoveryDecisionLog w streamId record previousCc missingCount candidate before after
        decision reason).forget := rfl

theorem setActiveOutputStream_forget (env : Env σ) (w : World σ) (streamId : StreamId) :
    setActiveOutputStream env.ideal w.forget streamId = (setActiveOutputStream env w streamId).forget := by
  unfold setActiveOutputStream
  split_ifs <;> rfl

theorem countContentBurst_forget (w : World σ) (missing : ℕ) :
    countContentBurst w.forget missing = (countContentBurst w missing).forget := by
  unfold countContentBurst
  split_ifs <;> rfl

theorem updatePrimaryAnchor_forget (w : World σ) (primary : PacketRecord) (m : Option PacketRecord) :
    updatePrimaryAnchor w.forget primary m = (updatePrimaryAnchor w primary m).forget := by
  cases m with
  | none => rfl
  | some m =>
    simp only [updatePrimaryAnchor]
    split_ifs <;> rfl

theorem updatePcrTiming_forget (w : World σ) (r : PacketRecord) :
    updatePcrTiming w.forget r = (updatePcrTiming w r).forget := by
  simp only [updatePcrTiming]
  split
  · rfl
  · cases findMatchingPcrRecord (w.engine.history r.sourceStreamId.other) r with
    | none => rfl
    | some found =>
      dsimp only
      split
      · cases r.sourceStreamId <;> rfl
      · rfl

theorem observeInputPathGap_forget (w : World σ) (streamId : StreamId) (r : PacketRecord) :
    observeInputPathGap w.forget streamId r = (observeInputPathGap w streamId r).forget := by
  simp only [observeInputPathGap]
  split_ifs <;> rfl

theorem updateAlignment_forget (w : World σ) (streamId : StreamId) (r : PacketRecord) :
    updateAlignment w.forget streamId r = (updateAlignment w streamId r).forget := by
  simp only [updateAlignment]
  split
  · rfl
  · split
    · cases streamId <;> rfl
    · split_ifs
      · rfl
      · simp only [missAlignment]
        split_ifs <;> rfl

theorem pushIngest_forget (env : Env σ) (streamId : StreamId) (p : ParsedPacket) (w : World σ) :
    pushIngest env.ideal streamId p w.forget = (pushIngest env streamId p w).forget := by
  have hstore : storeRecord env.ideal streamId p w.forget =
      ((storeRecord env streamId p w).1, (storeRecord env streamId p w).2.forget) := rfl
  simp only [pushIngest, hstore, updatePcrTiming_forget, observeInputPathGap_forget,
    updateAlignment_forget]
  generalize updateAlignment _ streamId _ = w₁
  cases streamId with
  | primary =>
    simp only [pushQueue]
    cases delayQueuePush w₁.engine.primaryQueue (storeRecord env .primary p w).1 <;> rfl
  | secondary =>
    simp only [pushQueue]
    cases delayQueuePush w₁.engine.secondaryQueue (storeRecord env .secondary p w).1 <;> rfl

/-- A record that the sink has taken. -/
theorem acceptRecord_emission (route : Route) (w : World σ) (r : PacketRecord) :
    (acceptRecord route w r).emission =
      (w.sinkState, sentEvents w.trace ++ [(route, r)], w.stats.outputPackets + 1,
        w.stats.outputDatagrams + if (w.stats.outputPackets + 1) % 7 = 0 then 1 else 0) := by
  have hobserve (state : PidState) (stats : ReportStats) :
      (observeOutputStats state r stats).outputPackets = stats.outputPackets ∧
        (observeOutputStats state r stats).outputDatagrams = stats.outputDatagrams := by
    unfold observeOutputStats
    split_ifs <;> exact ⟨rfl, rfl⟩
  have hstats : (acceptStats (w.engine.outputPidState r.pid) r w.stats).outputPackets =
        w.stats.outputPackets + 1 ∧
      (acceptStats (w.engine.outputPidState r.pid) r w.stats).outputDatagrams =
        w.stats.outputDatagrams + if (w.stats.outputPackets + 1) % 7 = 0 then 1 else 0 := by
    simp only [acceptStats, reportStatsObserveOutputDatagram]
    by_cases hbatch : (w.stats.outputPackets + 1) % 7 = 0
    · rw [if_pos hbatch, if_pos hbatch]
      split
      · exact ⟨rfl, rfl⟩
      · exact ⟨(hobserve _ _).1, (hobserve _ _).2⟩
    · rw [if_neg hbatch, if_neg hbatch]
      split
      · exact ⟨rfl, rfl⟩
      · exact ⟨(hobserve _ _).1, (hobserve _ _).2⟩
  rw [World.emission, acceptRecord_sinkState, acceptRecord_trace, acceptRecord_stats, hstats.1, hstats.2,
    sentEvents_append]
  rfl

/-! ### Nothing is offered -/

theorem emission_of_notes {w' : World σ} {l : List Event} (ht : w'.trace = w.trace ++ l)
    (hl : ∀ ev ∈ l, ev.IsNote) (hsink : w'.sinkState = w.sinkState)
    (hpackets : w'.stats.outputPackets = w.stats.outputPackets)
    (hdatagrams : w'.stats.outputDatagrams = w.stats.outputDatagrams) :
    w'.emission = w.emission := by
  rw [World.emission, World.emission, ht, sentEvents_append, sentEvents_of_notes hl, List.append_nil,
    hsink, hpackets, hdatagrams]

theorem recoveryDecisionLog_emission (w : World σ) (streamId : StreamId) (record : PacketRecord)
    (previousCc missingCount : Option ℕ) (candidate before after : Bool) (decision : DecisionName)
    (reason : Option ReasonName) :
    (recoveryDecisionLog w streamId record previousCc missingCount candidate before after decision
      reason).emission = w.emission :=
  emission_of_notes rfl (by simp [Event.IsNote]) rfl rfl rfl

theorem recoveryRejectLog_emission (w : World σ) (primary : PacketRecord)
    (previousCc missingCount : Option ℕ) (candidate before after : Bool)
    (rejectReason : RejectReason) (reason : ReasonName) :
    (recoveryRejectLog w primary previousCc missingCount candidate before after rejectReason
      reason).emission = w.emission := by
  have hcounts (stats : ReportStats) :
      (observeUnrecoverablePrimaryGap stats primary missingCount reason).outputPackets =
          stats.outputPackets ∧
        (observeUnrecoverablePrimaryGap stats primary missingCount reason).outputDatagrams =
          stats.outputDatagrams := by
    unfold observeUnrecoverablePrimaryGap
    split
    · exact ⟨rfl, rfl⟩
    · split_ifs <;> exact ⟨rfl, rfl⟩
  exact emission_of_notes rfl (by simp [Event.IsNote]) rfl (hcounts _).1 (hcounts _).2

theorem setActiveOutputStream_emission (env : Env σ) (w : World σ) (streamId : StreamId) :
    (setActiveOutputStream env w streamId).emission = w.emission := by
  unfold setActiveOutputStream
  split
  · rfl
  · exact emission_of_notes rfl (by simp [Event.IsNote]) rfl rfl rfl

theorem countContentBurst_emission (w : World σ) (n : ℕ) :
    (countContentBurst w n).emission = w.emission := by
  unfold countContentBurst
  split <;> rfl

theorem updatePrimaryAnchor_emission (w : World σ) (primary : PacketRecord)
    (m : Option PacketRecord) : (updatePrimaryAnchor w primary m).emission = w.emission := by
  unfold updatePrimaryAnchor
  split
  · rfl
  · split
    · rfl
    · exact emission_of_notes rfl (by simp [Event.IsNote]) rfl rfl rfl

/-! ### Recoveries -/

section Recoveries

variable {J K : EmissionProp σ} {route : Route} {primary : PacketRecord}

/-- What a routine leaves behind: what it does with the ideal sink, and `J`; or it has failed, since
the sink has refused a record, and `K`. -/
def Settled (J K : EmissionProp σ) : Bool × World σ → Bool × World Unit → Prop
  | (true, w), res => res = (true, w.forget) ∧ J w.emission
  | (false, w), res => res = (false, w.forget) ∧ J w.emission ∨ K w.emission

/-- What a recovery leaves behind. -/
def SettledDecision (J K : EmissionProp σ) : Decision × World σ → Decision × World Unit → Prop
  | (.failed, w), res => res = (.failed, w.forget) ∧ J w.emission ∨ K w.emission
  | (decision, w), res => res = (decision, w.forget) ∧ J w.emission

theorem Settles.send (hJ : Settles env J K) (route : Route) (r : PacketRecord) (hw : J w.emission) :
    Settled J K (outputRecord env route w r) (outputRecord env.ideal route w.forget r) := by
  have hideal : outputRecord env.ideal route w.forget r = (true, (acceptRecord route w r).forget) := by
    rw [← acceptRecord_forget]
    rfl
  rcases hout : outputRecord env route w r with ⟨_ | _, w'⟩
  · exact .inr (hJ.refused hw hout)
  · have hkept := hJ.taken hw hout
    obtain ⟨s, rfl⟩ := outputRecord_takes hout
    refine ⟨?_, hkept⟩
    rw [hideal, ← acceptRecord_forget, ← acceptRecord_forget]

theorem Settles.sendSecondaryRange (hJ : Settles env J K) (nullFlag : PacketRecord → Bool)
    (n index : ℕ) (w : World σ) (hw : J w.emission) :
    Settled J K (sendSecondaryRange env route nullFlag n index w)
      (sendSecondaryRange env.ideal route nullFlag n index w.forget) := by
  induction n generalizing index w with
  | zero => exact ⟨rfl, hw⟩
  | succ n ih =>
    rw [TwoStream.sendSecondaryRange, TwoStream.sendSecondaryRange, World.forget_engine]
    split
    · exact .inl ⟨rfl, hw⟩
    · next candidate _ =>
      have hsent := hJ.send route candidate hw
      generalize outputRecord env route w candidate = res at hsent ⊢
      rcases res with ⟨_ | _, w'⟩
      · obtain ⟨hideal, hkept⟩ | hrefused := hsent
        · rw [hideal]
          exact .inl ⟨rfl, hkept⟩
        · exact .inr hrefused
      · obtain ⟨hideal, hkept⟩ := hsent
        rw [hideal]
        exact ih (index + 1) { w' with stats := reportStatsObserveRecovery w'.stats (nullFlag candidate) }
          hkept

theorem Settles.sendCandidates (hJ : Settles env J K) (L : List PacketRecord) (w : World σ)
    (hw : J w.emission) :
    Settled J K (sendCandidates env route L w) (sendCandidates env.ideal route L w.forget) := by
  induction L generalizing w with
  | nil => exact ⟨rfl, hw⟩
  | cons candidate rest ih =>
    rw [TwoStream.sendCandidates, TwoStream.sendCandidates]
    have hsent := hJ.send route candidate hw
    generalize outputRecord env route w candidate = res at hsent ⊢
    rcases res with ⟨_ | _, w'⟩
    · obtain ⟨hideal, hkept⟩ | hrefused := hsent
      · rw [hideal]
        exact .inl ⟨rfl, hkept⟩
      · exact .inr hrefused
    · obtain ⟨hideal, hkept⟩ := hsent
      rw [hideal]
      exact ih { w' with stats := reportStatsObserveRecovery w'.stats false } hkept

/-- Either branch is settled. -/
theorem settled_ite {α β : Type} {R : α → β → Prop} {c : Prop} [Decidable c] {a b : α} {a' b' : β}
    (ha : R a a') (hb : R b b') : R (if c then a else b) (if c then a' else b') := by
  split_ifs
  · exact ha
  · exact hb

/-- The end of a recovery that sends. -/
def afterSend {τ : Type} (f : World τ → World τ) : Bool × World τ → Decision × World τ
  | (false, w) => (.failed, w)
  | (true, w) => (.inserted, f w)

/-- A recovery that sends is settled as its loop is. -/
theorem settled_send {res : Bool × World σ} {res' : Bool × World Unit} (f : World σ → World σ)
    (f' : World Unit → World Unit) (hf : ∀ w, (f w).emission = w.emission)
    (hf' : ∀ w, f' w.forget = (f w).forget) (h : Settled J K res res') :
    SettledDecision J K (afterSend f res) (afterSend f' res') := by
  rcases res with ⟨_ | _, w'⟩
  · rcases h with ⟨rfl, hkept⟩ | hrefused
    · exact .inl ⟨rfl, hkept⟩
    · exact .inr hrefused
  · obtain ⟨rfl, hkept⟩ := h
    refine ⟨congrArg (Decision.inserted, ·) (hf' w'), ?_⟩
    rw [hf]
    exact hkept

/-- A recovery that rejects. -/
theorem settled_rejected (primary : PacketRecord) (hw : J w.emission)
    (previousCc missingCount : Option ℕ) (candidate before after : Bool) (rejectReason : RejectReason)
    (reason : ReasonName) :
    SettledDecision J K
      (.rejected, recoveryRejectLog w primary previousCc missingCount candidate before after
        rejectReason reason)
      (.rejected, recoveryRejectLog w.forget primary previousCc missingCount candidate before after
        rejectReason reason) := by
  refine ⟨rfl, ?_⟩
  rw [recoveryRejectLog_emission]
  exact hw

/-- A recovery that does nothing. -/
theorem settled_none (hw : J w.emission) :
    SettledDecision J K ((.none, w) : Decision × World σ) (.none, w.forget) := ⟨rfl, hw⟩

theorem Settles.tryRecoverNullPositionGap (hJ : Settles env J K) (secondaryMatch : PacketRecord)
    (hw : J w.emission) :
    SettledDecision J K (tryRecoverNullPositionGap env w primary secondaryMatch)
      (tryRecoverNullPositionGap env.ideal w.forget primary secondaryMatch) := by
  have hnone : SettledDecision J K (.none, w) (.none, w.forget) := settled_none hw
  have hreject := settled_rejected (K := K) primary hw
  simp only [TwoStream.tryRecoverNullPositionGap]
  refine settled_ite hnone (settled_ite hnone (settled_ite hnone (settled_ite ?_ (settled_ite ?_
    (settled_ite ?_ (settled_ite ?_ ?_))))))
  · split
    · exact hreject _ _ _ _ _ _ _
    · exact hnone
  · exact hreject _ _ _ _ _ _ _
  · exact hreject _ _ _ _ _ _ _
  · exact hreject _ _ _ _ _ _ _
  · split
    · exact hreject _ _ _ _ _ _ _
    · exact hnone
    · rw [recoveryDecisionLog_forget]
      refine settled_send (fun w => w) (fun w => w) (fun _ => rfl) (fun _ => rfl)
        (hJ.sendSecondaryRange _ _ _ _ ?_)
      rw [recoveryDecisionLog_emission]
      exact hw

theorem Settles.tryRecoverMixedPositionGap (hJ : Settles env J K) (secondaryMatch : PacketRecord)
    (hw : J w.emission) :
    SettledDecision J K (tryRecoverMixedPositionGap env w primary secondaryMatch)
      (tryRecoverMixedPositionGap env.ideal w.forget primary secondaryMatch) := by
  have hnone : SettledDecision J K (.none, w) (.none, w.forget) := settled_none hw
  have hreject := settled_rejected (K := K) primary hw
  simp only [TwoStream.tryRecoverMixedPositionGap]
  refine settled_ite hnone (settled_ite hnone (settled_ite ?_ (settled_ite ?_ (settled_ite ?_
    (settled_ite ?_ (settled_ite hnone ?_))))))
  · exact hreject _ _ _ _ _ _ _
  · exact hreject _ _ _ _ _ _ _
  · exact hreject _ _ _ _ _ _ _
  · exact hreject _ _ _ _ _ _ _
  · split
    · exact hreject _ _ _ _ _ _ _
    · refine settled_ite hnone (settled_ite ?_ ?_)
      · exact hreject _ _ _ _ _ _ _
      · rw [recoveryDecisionLog_forget]
        refine settled_send (countContentBurst · _) (countContentBurst · _)
          (fun w => countContentBurst_emission w _) (fun w => countContentBurst_forget w _)
          (hJ.sendSecondaryRange _ _ _ _ ?_)
        rw [recoveryDecisionLog_emission]
        exact hw

theorem Settles.tryRecoverExactContentGap (hJ : Settles env J K) (secondaryMatch : PacketRecord)
    (hw : J w.emission) :
    SettledDecision J K (tryRecoverExactContentGap env w primary secondaryMatch)
      (tryRecoverExactContentGap env.ideal w.forget primary secondaryMatch) := by
  have hnone : SettledDecision J K (.none, w) (.none, w.forget) := settled_none hw
  have hreject := settled_rejected (K := K) primary hw
  simp only [TwoStream.tryRecoverExactContentGap]
  refine settled_ite hnone (settled_ite hnone (settled_ite hnone ?_))
  split
  · refine settled_ite hnone (settled_ite ?_ (settled_ite ?_ (settled_ite ?_ (settled_ite ?_ ?_))))
    · exact hreject _ _ _ _ _ _ _
    · exact hreject _ _ _ _ _ _ _
    · exact hreject _ _ _ _ _ _ _
    · exact hreject _ _ _ _ _ _ _
    · split
      · exact hreject _ _ _ _ _ _ _
      · split
        · exact hreject _ _ _ _ _ _ _
        · rw [recoveryDecisionLog_forget]
          refine settled_send (countContentBurst · _) (countContentBurst · _)
            (fun w => countContentBurst_emission w _) (fun w => countContentBurst_forget w _)
            (hJ.sendCandidates _ _ ?_)
          rw [recoveryDecisionLog_emission]
          exact hw
  · exact hnone

theorem Settles.gap (hJ : Settles env J K) (kind : GapKind) (secondaryMatch : PacketRecord)
    (hw : J w.emission) :
    SettledDecision J K (gapRecovery env kind w primary secondaryMatch)
      (gapRecovery env.ideal kind w.forget primary secondaryMatch) := by
  cases kind with
  | nullPosition => exact hJ.tryRecoverNullPositionGap secondaryMatch hw
  | mixedPosition => exact hJ.tryRecoverMixedPositionGap secondaryMatch hw
  | exactContent => exact hJ.tryRecoverExactContentGap secondaryMatch hw

theorem Settles.tryRecoverPrimaryTeiPacket (hJ : Settles env J K) (primary : PacketRecord)
    (hw : J w.emission) :
    SettledDecision J K (tryRecoverPrimaryTeiPacket env w primary)
      (tryRecoverPrimaryTeiPacket env.ideal w.forget primary) := by
  simp only [TwoStream.tryRecoverPrimaryTeiPacket]
  refine settled_ite (settled_none hw) ?_
  split
  · exact settled_rejected primary hw _ _ _ _ _ _ _
  · rw [recoveryDecisionLog_forget]
    refine settled_send (fun w : World σ => { w with stats := reportStatsObserveRecovery w.stats false })
      (fun w => { w with stats := reportStatsObserveRecovery w.stats false }) (fun _ => rfl)
      (fun _ => rfl) (hJ.send _ _ ?_)
    rw [recoveryDecisionLog_emission]
    exact hw

theorem Settles.tryUniqueCandidateRecovery (hJ : Settles env J K) (primary : PacketRecord)
    (kind : GapKind) (candidates : SecondaryAfterAnchorCandidates) (logNoValid : Bool)
    (hw : J w.emission) :
    SettledDecision J K
      (tryUniqueCandidateRecovery w primary candidates (gapValidator kind) (gapRecovery env kind)
        logNoValid)
      (tryUniqueCandidateRecovery w.forget primary candidates (gapValidator kind)
        (gapRecovery env.ideal kind) logNoValid) := by
  have hreject := settled_rejected (K := K) primary hw
  simp only [TwoStream.tryUniqueCandidateRecovery]
  refine settled_ite (hreject _ _ _ _ _ _ _) ?_
  split
  · exact hreject _ _ _ _ _ _ _
  · exact hJ.gap kind _ hw
  · exact settled_ite (hreject _ _ _ _ _ _ _) (settled_none hw)

end Recoveries

/-! ### One iteration -/

section Iterations

variable {J K : EmissionProp σ} {primary : PacketRecord}

/-- The local variables without the sink. -/
def Release.forget (s : Release σ) : Release Unit :=
  ⟨s.world.forget, s.primaryFits, s.loggedRecoveryDecision, s.insertedRecovery⟩

/-- What the recoveries before a send leave behind. -/
def SettledRelease (J K : EmissionProp σ) :
    Except (World σ) (Release σ) → Except (World Unit) (Release Unit) → Prop
  | .error w, res => res = .error w.forget ∧ J w.emission ∨ K w.emission
  | .ok s, res => res = .ok s.forget ∧ J s.world.emission

/-- What an iteration leaves behind. -/
def SettledIteration (J K : EmissionProp σ) : Iteration × World σ → Iteration × World Unit → Prop
  | (.done false, w), res => res = (.done false, w.forget) ∧ J w.emission ∨ K w.emission
  | (it, w), res => res = (it, w.forget) ∧ J w.emission

theorem Settles.gapStage (hJ : Settles env J K) (kind : GapKind)
    (candidates : SecondaryAfterAnchorCandidates) (logNoValid onlyMisfit : Bool) (s : Release σ)
    (hw : J s.world.emission) :
    SettledRelease J K
      (s.gapStage primary candidates (gapValidator kind) (gapRecovery env kind) logNoValid onlyMisfit)
      (s.forget.gapStage primary candidates (gapValidator kind) (gapRecovery env.ideal kind) logNoValid
        onlyMisfit) := by
  have hrecovered := hJ.tryUniqueCandidateRecovery primary kind candidates logNoValid hw
  unfold Release.gapStage
  refine settled_ite ?_ ⟨rfl, hw⟩
  · rw [Release.forget]
    generalize TwoStream.tryUniqueCandidateRecovery s.world primary candidates _ _ _ = res
      at hrecovered ⊢
    rcases res with ⟨_ | _ | _ | _, w'⟩
    · obtain ⟨hideal, hkept⟩ | hrefused := hrecovered
      · rw [hideal]
        exact .inl ⟨rfl, hkept⟩
      · exact .inr hrefused
    · obtain ⟨hideal, hkept⟩ := hrecovered
      rw [hideal]
      exact ⟨rfl, hkept⟩
    · obtain ⟨hideal, hkept⟩ := hrecovered
      rw [hideal]
      exact ⟨rfl, hkept⟩
    · obtain ⟨hideal, hkept⟩ := hrecovered
      rw [hideal]
      exact ⟨rfl, hkept⟩

theorem settled_bind {x : Except (World σ) (Release σ)} {x' : Except (World Unit) (Release Unit)}
    {f : Release σ → Except (World σ) (Release σ)}
    {f' : Release Unit → Except (World Unit) (Release Unit)} (hx : SettledRelease J K x x')
    (hf : ∀ s, J s.world.emission → SettledRelease J K (f s) (f' s.forget)) :
    SettledRelease J K (x >>= f) (x' >>= f') := by
  cases x with
  | error w' =>
    rcases hx with ⟨rfl, hkept⟩ | hrefused
    · exact .inl ⟨rfl, hkept⟩
    · exact .inr hrefused
  | ok s =>
    obtain ⟨rfl, hkept⟩ := hx
    exact hf s hkept

theorem Settles.recoverBefore (hJ : Settles env J K) (primary : PacketRecord)
    (candidates : SecondaryAfterAnchorCandidates) (s : Release σ) (hw : J s.world.emission) :
    SettledRelease J K (recoverBefore env primary candidates s)
      (recoverBefore env.ideal primary candidates s.forget) := by
  unfold TwoStream.recoverBefore
  refine settled_bind (hJ.gapStage .nullPosition candidates false false s hw) fun s₁ h₁ => ?_
  refine settled_bind (hJ.gapStage .mixedPosition candidates false false s₁ h₁) fun s₂ h₂ => ?_
  exact hJ.gapStage .exactContent candidates true true s₂ h₂

theorem Settles.sendPrimary (hJ : Settles env J K) (candidates : SecondaryAfterAnchorCandidates)
    (anchorMatch : Option PacketRecord) (s : Release σ) (hw : J s.world.emission) :
    SettledIteration J K (sendPrimary env primary candidates anchorMatch s)
      (sendPrimary env.ideal primary candidates anchorMatch s.forget) := by
  have hlogged : ∃ w : World σ, J w.emission ∧
      w = (if !s.primaryFits && !s.loggedRecoveryDecision then
        logUnexplainedMisfit primary candidates s.world else s.world) ∧
      w.forget = if !s.forget.primaryFits && !s.forget.loggedRecoveryDecision then
        logUnexplainedMisfit primary candidates s.forget.world else s.forget.world := by
    by_cases hmisfit : (!s.primaryFits && !s.loggedRecoveryDecision) = true
    · exact ⟨logUnexplainedMisfit primary candidates s.world,
        (settled_rejected (K := K) primary hw _ _ _ _ _ _ _).2, (if_pos hmisfit).symm,
        (if_pos hmisfit).symm⟩
    · exact ⟨s.world, hw, (if_neg hmisfit).symm, (if_neg hmisfit).symm⟩
  obtain ⟨w, hkept, hworld, hideal⟩ := hlogged
  simp only [TwoStream.sendPrimary]
  rw [← hworld, ← hideal]
  have hsent := hJ.send .passThrough primary hkept
  generalize outputRecord env .passThrough w primary = res at hsent ⊢
  rcases res with ⟨_ | _, w'⟩
  · obtain ⟨hideal, hkept⟩ | hrefused := hsent
    · rw [hideal]
      exact .inl ⟨rfl, hkept⟩
    · exact .inr hrefused
  · obtain ⟨hsame, hkept'⟩ := hsent
    have hanchor : (popPrimary (updatePrimaryAnchor w' primary anchorMatch)).emission = w'.emission :=
      updatePrimaryAnchor_emission w' primary anchorMatch
    rw [hsame]
    refine ⟨?_, ?_⟩
    · simp only [updatePrimaryAnchor_forget]
      rfl
    · rw [hanchor]
      exact hkept'

theorem Settles.afterGaps (hJ : Settles env J K) (hw : J w.emission) (logged : Bool) (w₀ : World σ) :
    SettledIteration J K
      (TwoStream.afterGaps env primary w₀ (TwoStream.recoverBefore env primary
        (findSecondaryBoundaryMatches w₀.engine primary)
        ⟨w, recordFitsNextOutput w₀.engine primary, logged, false⟩))
      (TwoStream.afterGaps env.ideal primary w₀.forget (TwoStream.recoverBefore env.ideal primary
        (findSecondaryBoundaryMatches w₀.engine primary)
        ⟨w.forget, recordFitsNextOutput w₀.engine primary, logged, false⟩)) := by
  have hbefore := hJ.recoverBefore primary (findSecondaryBoundaryMatches w₀.engine primary)
    ⟨w, recordFitsNextOutput w₀.engine primary, logged, false⟩ hw
  generalize TwoStream.recoverBefore env primary _ _ = res at hbefore ⊢
  rcases res with w₁ | s₁
  · obtain ⟨hideal, hkept⟩ | hrefused := hbefore
    · rw [Release.forget] at hideal
      rw [hideal]
      exact .inl ⟨rfl, hkept⟩
    · exact .inr hrefused
  · obtain ⟨hideal, hkept⟩ := hbefore
    rw [Release.forget] at hideal
    rw [hideal]
    exact hJ.sendPrimary _ _ s₁ hkept

theorem Settles.releasePrimary (hJ : Settles env J K) (primary : PacketRecord) (hw : J w.emission) :
    SettledIteration J K (releasePrimary env primary w) (releasePrimary env.ideal primary w.forget) := by
  have hopen : J (openRelease primary w).emission := by
    rw [show (openRelease primary w).emission = w.emission from
      emission_of_notes rfl (by simp [Event.IsNote]) rfl rfl rfl]
    exact hw
  have hreplaced := hJ.tryRecoverPrimaryTeiPacket primary hopen
  have hforget : openRelease primary w.forget = (openRelease primary w).forget := rfl
  rw [releasePrimary_eq, releasePrimary_eq, hforget]
  generalize TwoStream.tryRecoverPrimaryTeiPacket env (openRelease primary w) primary = res
    at hreplaced ⊢
  rcases res with ⟨_ | _ | _ | _, w'⟩
  · obtain ⟨hideal, hkept⟩ | hrefused := hreplaced
    · rw [hideal]
      exact .inl ⟨rfl, hkept⟩
    · exact .inr hrefused
  · obtain ⟨hideal, hkept⟩ := hreplaced
    rw [hideal]
    exact hJ.afterGaps hkept false w
  · obtain ⟨hideal, hkept⟩ := hreplaced
    rw [hideal]
    exact ⟨rfl, hkept⟩
  · obtain ⟨hideal, hkept⟩ := hreplaced
    rw [hideal]
    exact hJ.afterGaps hkept true w

end Iterations

/-! ### Calls -/

section Calls

variable {J K : EmissionProp σ}

theorem setActiveOutputStream_kept (env : Env σ) (streamId : StreamId) (hw : J w.emission) :
    J (setActiveOutputStream env w streamId).emission := by
  rw [setActiveOutputStream_emission]
  exact hw

theorem Settles.failoverLoop (hJ : Settles env J K) (force : Bool) (n : ℕ) (w : World σ)
    (hw : J w.emission) :
    Settled J K (failoverLoop env force n w) (failoverLoop env.ideal force n w.forget) := by
  induction n generalizing w with
  | zero => exact ⟨rfl, hw⟩
  | succ n ih =>
    unfold TwoStream.failoverLoop
    cases hfront : delayQueueFront w.engine.secondaryQueue with
    | none => exact ⟨rfl, hw⟩
    | some secondary =>
      have hread : reportStatsNowNs env.ideal w.forget =
          ((reportStatsNowNs env w).1, (reportStatsNowNs env w).2.forget) := rfl
      simp only [hread, setActiveOutputStream_forget]
      split_ifs
      · exact ⟨rfl, hw⟩
      · have hsent := hJ.send .failover secondary
          (setActiveOutputStream_kept (w := (reportStatsNowNs env w).2) env .secondary hw)
        generalize outputRecord env .failover _ secondary = res at hsent ⊢
        rcases res with ⟨_ | _, w'⟩
        · obtain ⟨hideal, hkept⟩ | hrefused := hsent
          · rw [hideal]
            exact .inl ⟨rfl, hkept⟩
          · exact .inr hrefused
        · obtain ⟨hideal, hkept⟩ := hsent
          rw [hideal]
          exact ⟨rfl, hkept⟩
      · have hsent := hJ.send .failover secondary
          (setActiveOutputStream_kept (w := (reportStatsNowNs env w).2) env .secondary hw)
        generalize outputRecord env .failover _ secondary = res at hsent ⊢
        rcases res with ⟨_ | _, w'⟩
        · obtain ⟨hideal, hkept⟩ | hrefused := hsent
          · rw [hideal]
            exact .inl ⟨rfl, hkept⟩
          · exact .inr hrefused
        · obtain ⟨hideal, hkept⟩ := hsent
          rw [hideal]
          exact ih _ hkept

theorem Settles.drainSecondaryOnPrimaryOutage (hJ : Settles env J K) (force : Bool) (nowNs : ℕ)
    (hw : J w.emission) :
    Settled J K (drainSecondaryOnPrimaryOutage env force nowNs w)
      (drainSecondaryOnPrimaryOutage env.ideal force nowNs w.forget) := by
  unfold TwoStream.drainSecondaryOnPrimaryOutage
  refine settled_ite ⟨rfl, hw⟩ ?_
  · refine hJ.failoverLoop force _ (enterFailover nowNs w) ?_
    rw [show (enterFailover nowNs w).emission = w.emission from
      emission_of_notes rfl (by simp [Event.IsNote]) rfl rfl rfl]
    exact hw

theorem Settles.drainTail (hJ : Settles env J K) (force : Bool) (hw : J w.emission) :
    Settled J K (drainTail env force w) (drainTail env.ideal force w.forget) := by
  unfold TwoStream.drainTail
  refine settled_ite ?_ ⟨rfl, hw⟩
  exact hJ.drainSecondaryOnPrimaryOutage (w := (reportStatsNowNs env w).2) force _ hw

/-- The end of an iteration of the drain loop. -/
def afterIteration {τ : Type} (env : Env τ) (force : Bool) (n : ℕ) :
    Iteration × World τ → Bool × World τ
  | (.next, w) => drainLoop env force n w
  | (.stop, w) => drainTail env force w
  | (.done ok, w) => (ok, w)

theorem Settles.drainLoop (hJ : Settles env J K) (force : Bool) (n : ℕ) (w : World σ)
    (hactive : w.engine.activeOutputStreamId = .primary) (hw : J w.emission) :
    Settled J K (drainLoop env force n w) (drainLoop env.ideal force n w.forget) := by
  induction n generalizing w with
  | zero => exact hJ.drainTail force hw
  | succ n ih =>
    have hnow : Settled J K (TwoStream.drainTail env force (reportStatsNowNs env w).2)
        (TwoStream.drainTail env.ideal force (reportStatsNowNs env.ideal w.forget).2) :=
      hJ.drainTail (w := (reportStatsNowNs env w).2) force hw
    show Settled J K (afterIteration env force n (drainIteration env force w))
      (afterIteration env.ideal force n (drainIteration env.ideal force w.forget))
    rw [drainIteration_of_primary force hactive, drainIteration_of_primary force (w := w.forget) hactive]
    cases hfront : delayQueueFront w.engine.primaryQueue with
    | none => exact hJ.drainTail force hw
    | some primary =>
      refine settled_ite (R := fun res res' => Settled J K (afterIteration env force n res)
        (afterIteration env.ideal force n res')) hnow ?_
      · have hreleased := hJ.releasePrimary (w := (reportStatsNowNs env w).2) primary hw
        have hframe := (releasePrimary_outcome env primary (reportStatsNowNs env w).2).frame
        have hread : (reportStatsNowNs env.ideal w.forget).2 = (reportStatsNowNs env w).2.forget := rfl
        rw [hread]
        generalize TwoStream.releasePrimary env primary (reportStatsNowNs env w).2 = res
          at hreleased hframe
        rcases res with ⟨_ | _ | _ | _, w'⟩
        · obtain ⟨hideal, hkept⟩ := hreleased
          rw [hideal]
          exact ih w' (hframe.1.activeOutputStreamId.trans hactive) hkept
        · obtain ⟨hideal, hkept⟩ := hreleased
          rw [hideal]
          exact hJ.drainTail force hkept
        · obtain ⟨hideal, hkept⟩ | hrefused := hreleased
          · rw [hideal]
            exact .inl ⟨rfl, hkept⟩
          · exact .inr hrefused
        · obtain ⟨hideal, hkept⟩ := hreleased
          rw [hideal]
          exact ⟨rfl, hkept⟩

theorem openDrain_emission (env : Env σ) (w : World σ) : (openDrain env w).emission = w.emission :=
  emission_of_notes (openDrain_trace w) (by simp [Event.IsNote]) rfl rfl rfl

theorem discardDrain_emission (env : Env σ) (w : World σ) :
    (discardDrain env w).emission = w.emission :=
  emission_of_notes (discardDrain_trace w) (by simp [Event.IsNote]) rfl rfl rfl

/-- **A drain with a real sink** does what it does with the ideal one and keeps what every taken record
keeps, or it fails at a record that the sink refuses. -/
theorem Settles.drain (hJ : Settles env J K) (force : Bool) (w : World σ) (hw : J w.emission) :
    Settled J K (recoveryEngineDrain env force w) (recoveryEngineDrain env.ideal force w.forget) := by
  have hopen : J (openDrain env w).emission := by rwa [openDrain_emission]
  have hdiscard : J (discardDrain env w).emission := by rwa [discardDrain_emission]
  have hopen' : openDrain env.ideal w.forget = (openDrain env w).forget := rfl
  have hdiscard' : discardDrain env.ideal w.forget = (discardDrain env w).forget := rfl
  have hready' : drainReady env.ideal w.forget = drainReady env w := rfl
  rw [recoveryEngineDrain_eq, recoveryEngineDrain_eq, hopen', hdiscard', hready',
    setActiveOutputStream_forget]
  simp only [Env.ideal_clock]
  split_ifs
  · exact ⟨rfl, hopen⟩
  · exact hJ.drainSecondaryOnPrimaryOutage force _ hopen
  · exact hJ.drainSecondaryOnPrimaryOutage force _ hopen
  · exact ⟨rfl, hdiscard⟩
  · exact hJ.drainSecondaryOnPrimaryOutage force _ hdiscard
  · exact hJ.drainLoop force _ _ (setActiveOutputStream_active env _ _)
      (setActiveOutputStream_kept env .primary hdiscard)

/-- A push offers nothing before its drain. -/
theorem pushIngest_emission (env : Env σ) (streamId : StreamId) (p : ParsedPacket) (w : World σ) :
    (pushIngest env streamId p w).emission = w.emission := by
  have hin := pushIngest_ingested env streamId p w
  obtain ⟨l, ht, hl, -⟩ := hin.trace
  obtain ⟨b, c, d, f, n, hs⟩ := hin.stats
  have hnotes : sentEvents l = [] := sentEvents_of_notes fun ev hev => by
    rcases hl ev hev with ⟨d, rfl⟩ | rfl <;> trivial
  rw [World.emission, World.emission, ht, hin.sinkState, hs, sentEvents_append, sentEvents_pushed,
    hnotes, List.append_nil]

theorem Settles.push (hJ : Settles env J K) (streamId : StreamId) (p : ParsedPacket) (w : World σ)
    (hw : J w.emission) :
    Settled J K (recoveryEnginePushPacket env streamId p w)
      (recoveryEnginePushPacket env.ideal streamId p w.forget) := by
  rw [recoveryEnginePushPacket, recoveryEnginePushPacket, pushIngest_forget]
  refine hJ.drain false _ ?_
  rw [pushIngest_emission]
  exact hw

/-- What holds in either case. -/
theorem Settled.kept {res : Bool × World σ} {res' : Bool × World Unit} (h : Settled J J res res') :
    J res.2.emission := by
  rcases res with ⟨_ | _, w'⟩
  · rcases h with ⟨-, hkept⟩ | hrefused
    · exact hkept
    · exact hrefused
  · exact h.2

/-- **What every send keeps, a drain keeps.** -/
theorem Kept.drain (hJ : Kept env J) (force : Bool) (w : World σ) (hw : J w.emission) :
    J (recoveryEngineDrain env force w).2.emission :=
  (hJ.settles.drain force w hw).kept

theorem Kept.push (hJ : Kept env J) (streamId : StreamId) (p : ParsedPacket) (w : World σ)
    (hw : J w.emission) : J (recoveryEnginePushPacket env streamId p w).2.emission :=
  (hJ.settles.push streamId p w hw).kept

end Calls

end TwoStream
