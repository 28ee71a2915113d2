import TwoStreamRecovery.Reporting

/-!
# The primary queue under an accepting sink

* `primaryHandled`: the primary records that were sent, or replaced because they were damaged.
* `FrontKept`: the condition on a drain under which it drops nothing.
* `primary_kept`: in a run whose drains all meet it, no primary record is lost.
-/

namespace TwoStream

open Relation

variable {σ : Type} {env : Env σ} {w w' : World σ}

/-- The primary records handled so far, in order. -/
def primaryHandled (trace : List Event) : List PacketRecord :=
  (sentEvents trace).filterMap fun
    | (.passThrough, r) => some r
    | (.transportError primary, _) => some primary
    | _ => none

/-- The oldest waiting primary record is not taken for one that the secondary has sent. -/
def FrontKept (e : RecoveryEngine) : Prop :=
  ∀ primary, delayQueueFront e.primaryQueue = some primary →
    primaryRecordAlreadyOutputBySecondary e primary = false

instance (e : RecoveryEngine) : Decidable (FrontKept e) :=
  decidable_of_iff
    ((delayQueueFront e.primaryQueue).all fun r => !primaryRecordAlreadyOutputBySecondary e r) (by
    unfold FrontKept
    cases delayQueueFront e.primaryQueue <;> simp)

@[simp] theorem primaryHandled_append (t t' : List Event) :
    primaryHandled (t ++ t') = primaryHandled t ++ primaryHandled t' := by
  simp [primaryHandled]

/-- What stands to be handled and what was pushed. -/
structure InOrder (w : World σ) : Prop where
  order : primaryHandled w.trace ++ w.engine.primaryQueue.toList = pushedRecords .primary w.trace

/-- Nothing is handled, pushed or taken off the primary queue. -/
structure KeepsOrder (w w' : World σ) : Prop where
  handled : primaryHandled w'.trace = primaryHandled w.trace
  queue : w'.engine.primaryQueue.toList = w.engine.primaryQueue.toList
  pushed : pushedRecords .primary w'.trace = pushedRecords .primary w.trace
  overflows : w'.stats.primaryDelayOverflows = w.stats.primaryDelayOverflows

theorem KeepsOrder.trans {w'' : World σ} (h : KeepsOrder w w') (h' : KeepsOrder w' w'') :
    KeepsOrder w w'' :=
  ⟨h'.1.trans h.1, h'.2.trans h.2, h'.3.trans h.3, h'.4.trans h.4⟩

theorem keepsOrder_of_notes {l : List Event} (ht : w'.trace = w.trace ++ l)
    (hl : ∀ ev ∈ l, ev.IsNote)
    (hqueue : w'.engine.primaryQueue.toList = w.engine.primaryQueue.toList)
    (hoverflows : w'.stats.primaryDelayOverflows = w.stats.primaryDelayOverflows) :
    KeepsOrder w w' := by
  have hnone : primaryHandled l = [] := by
    rw [primaryHandled, sentEvents_of_notes hl, List.filterMap_nil]
  refine ⟨?_, hqueue, ?_, hoverflows⟩
  · rw [ht, primaryHandled_append, hnone, List.append_nil]
  · rw [ht, pushedRecords_append, pushedRecords_of_notes hl, List.append_nil]

/-! ### Stages that keep the queue -/

theorem setActiveOutputStream_keepsOrder (env : Env σ) (w : World σ) (streamId : StreamId) (s : σ) :
    KeepsOrder w { setActiveOutputStream env w streamId with sinkState := s } := by
  obtain ⟨l, ht, hl⟩ := setActiveOutputStream_trace env w streamId
  refine keepsOrder_of_notes ht ?_ ?_ ?_
  · rcases hl with ⟨rfl, -⟩ | ⟨rfl, -⟩ <;> simp [Event.IsNote]
  · simp only [setActiveOutputStream_engine]
  · simp only [setActiveOutputStream]
    split <;> rfl

/-- A drain that finds its front kept discards nothing. -/
theorem discardDrain_keepsOrder (hkept : FrontKept w.engine) : KeepsOrder w (discardDrain env w) := by
  obtain ⟨start, ring, he, hring⟩ := discardDrain_engine env w
  refine keepsOrder_of_notes (discardDrain_trace w) (by simp [Event.IsNote]) ?_ rfl
  rw [he]
  change ring.toList = w.engine.primaryQueue.toList
  rw [hring]
  cases hlist : w.engine.primaryQueue.toList with
  | nil => rfl
  | cons primary rest =>
    have hfront : delayQueueFront w.engine.primaryQueue = some primary := by
      rw [delayQueueFront_eq, hlist]
      rfl
    rw [List.dropWhile_cons_of_neg (by simp [hkept primary hfront])]

theorem failoverSent_keepsOrder (w : World σ) (r : PacketRecord) (s : σ) :
    KeepsOrder w (failoverSent env w r s) := by
  have hswitch := setActiveOutputStream_keepsOrder env w .secondary s
  refine hswitch.trans ⟨?_, ?_, ?_, ?_⟩
  · rw [failoverSent_trace, primaryHandled_append]
    exact List.append_nil _
  · simp only [failoverSent, acceptRecord_engine]
  · rw [failoverSent_trace, pushedRecords_append]
    exact List.append_nil _
  · simp only [failoverSent, acceptRecord_stats]
    exact congrArg Prod.fst (acceptStats_kept _ _ _).1

theorem failover_keepsOrder (force : Bool) (nowNs n : ℕ) (w : World σ) :
    KeepsOrder w (failoverLoop env force n (enterFailover nowNs w)).2 := by
  refine failoverLoop_rule (J := fun w' => KeepsOrder w w') ?_ ?_ ?_ n _ ?_
  · exact fun w₁ h => h.trans ⟨rfl, rfl, rfl, rfl⟩
  · exact fun w₁ r s _ h => h.trans (failoverSent_keepsOrder w₁ r s)
  · exact fun w₁ s _ h => h.trans (setActiveOutputStream_keepsOrder env w₁ .secondary s)
  · obtain ⟨ring, he, -⟩ := discardSecondary_engine w.engine
    refine keepsOrder_of_notes (l := [.failover nowNs w.engine]) rfl (by simp [Event.IsNote]) ?_ rfl
    simp only [enterFailover, he]

/-! ### Stages that move the queue -/

/-- A release moves its record from the queue to the handled ones. -/
theorem release_inOrder {primary : PacketRecord} {res : Iteration × World σ} (hacc : env.Accepting)
    (h : ReleaseOutcome env primary w res)
    (hfront : delayQueueFront w.engine.primaryQueue = some primary) (hw : InOrder w) :
    InOrder res.2 := by
  obtain ⟨l, ht, hrelease, hsent⟩ := h.trace
  obtain ⟨-, -, hpop⟩ := h.frame
  have hqueue : res.2.engine.primaryQueue = delayQueuePop w.engine.primaryQueue := by
    rcases hpop with ⟨-, hpop⟩ | ⟨-, hrefuses, -⟩
    · exact hpop
    · exact absurd hacc hrefuses
  have hnext : ReleaseSent primary (sentEvents l) := by
    rcases hsent with ⟨-, hsent⟩ | ⟨hdone, -⟩
    · exact hsent
    · rcases hpop with ⟨hnext, -⟩ | ⟨-, hrefuses, -⟩
      · cases hnext.symm.trans hdone
      · exact absurd hacc hrefuses
  have hhandled : primaryHandled l = [primary] := by
    rcases hnext with ⟨kind, M, L, hsent⟩ | ⟨c, hsent⟩
    · rw [primaryHandled, hsent, List.filterMap_append, List.filterMap_eq_nil_iff.mpr]
      · rfl
      · intro x hx
        obtain ⟨r, -, rfl⟩ := List.mem_map.mp hx
        rfl
    · rw [primaryHandled, hsent]
      rfl
  rw [delayQueueFront_eq, List.head?_eq_some_iff] at hfront
  obtain ⟨rest, hrest⟩ := hfront
  constructor
  rw [ht, hqueue, toList_delayQueuePop, hrest, List.tail_cons, pushedRecords_append,
    show Event.release (openRelease primary w).engine :: l =
      [Event.release (openRelease primary w).engine] ++ l from rfl,
    pushedRecords_append, Event.OfRelease.not_pushed hrelease, primaryHandled_append,
    primaryHandled_append, hhandled, ← hw.order, hrest]
  simp [primaryHandled, sentEvents, pushedRecords]

theorem Ingested.inOrder {streamId : StreamId} {p : ParsedPacket}
    (h : Ingested env streamId p w w') (h0 : w'.stats.primaryDelayOverflows = 0) (hw : InOrder w) :
    InOrder w' := by
  obtain ⟨l, ht, -, hover, hqueue⟩ := h.trace
  obtain ⟨-, hno⟩ := hover h0
  have hhandled : primaryHandled w'.trace = primaryHandled w.trace := by
    rw [primaryHandled, h.sentEvents_eq]
    rfl
  constructor
  rw [hhandled, h.pushed, ← hw.order]
  cases streamId with
  | primary =>
    rw [if_pos rfl, List.append_assoc]
    rcases hqueue with ⟨-, hqueue⟩ | ⟨hyes, -⟩
    · exact congrArg (primaryHandled w.trace ++ ·) hqueue
    · exact absurd hyes hno
  | secondary =>
    have hqueue : w'.engine.primaryQueue = w.engine.primaryQueue := h.otherQueue
    rw [if_neg (by simp), hqueue, List.append_nil]

/-! ### Runs -/

theorem KeepsOrder.inOrder (h : KeepsOrder w w')
    (hw : w.stats.primaryDelayOverflows = 0 → InOrder w) :
    w'.stats.primaryDelayOverflows = 0 → InOrder w' := by
  intro h0
  have h0 := h.overflows.symm.trans h0
  constructor
  rw [h.handled, h.queue, h.pushed]
  exact (hw h0).order

/-- The condition on the events of a run. -/
def frontKeptAt (_ : List Event) : Event → Prop
  | .drain _ e => FrontKept e
  | _ => True

theorem Stage.inOrder (hacc : env.Accepting) (h : Stage env w w')
    (hkept : Along frontKeptAt w'.trace)
    (hw : w.stats.primaryDelayOverflows = 0 → InOrder w) :
    w'.stats.primaryDelayOverflows = 0 → InOrder w' := by
  cases h with
  | ingest streamId p =>
    intro h0
    have hingested := pushIngest_ingested env streamId p w
    obtain ⟨l, -, -, hover, -⟩ := hingested.trace
    exact hingested.inOrder h0 (hw (hover h0).1)
  | sink s => exact KeepsOrder.inOrder (w := w) ⟨rfl, rfl, rfl, rfl⟩ hw
  | read => exact KeepsOrder.inOrder (w := w) ⟨rfl, rfl, rfl, rfl⟩ hw
  | wait _ idle =>
    obtain ⟨start, he⟩ := openDrain_engine env w
    have hkeeps : KeepsOrder w (openDrain env w) :=
      keepsOrder_of_notes (openDrain_trace w) (by simp [Event.IsNote]) (by rw [he]) rfl
    exact hkeeps.inOrder hw
  | discard _ nonempty ready =>
    rw [discardDrain_trace] at hkept
    have hfront : FrontKept w.engine := (along_concat.mp hkept).2
    exact (discardDrain_keepsOrder hfront).inOrder hw
  | takeOver _ ready => exact (setActiveOutputStream_keepsOrder env w .primary _).inOrder hw
  | release primary _ front active =>
    have houtcome := releasePrimary_outcome env primary w
    intro h0
    rw [houtcome.overflows] at h0
    exact release_inOrder hacc houtcome front (hw h0)
  | failover force nowNs _ guard => exact (failover_keepsOrder force nowNs _ w).inOrder hw

/-- **No primary record is lost** in a run with an accepting sink and no overflow, as long as no
drain finds the front record taken for already sent. -/
theorem primary_kept {config : RecoveryEngineConfig} {sinkState : σ} {ops : List Op}
    (hacc : env.Accepting)
    (hoverflows : (run env (freshWorld config sinkState) ops).stats.primaryDelayOverflows = 0)
    (hkept : ∀ nowNs e, .drain nowNs e ∈ (run env (freshWorld config sinkState) ops).trace →
      FrontKept e) :
    let w := run env (freshWorld config sinkState) ops
    primaryHandled w.trace ++ w.engine.primaryQueue.toList = pushedRecords .primary w.trace := by
  have halong : Along frontKeptAt (run env (freshWorld config sinkState) ops).trace := by
    rintro pre ev post h
    cases ev with
    | drain nowNs e => exact hkept nowNs e (by rw [h]; simp)
    | _ => trivial
  have hinv := (run_reachable env config sinkState ops).guarded
    (I := fun w => w.stats.primaryDelayOverflows = 0 → InOrder w) halong (fun _ => ⟨rfl⟩)
    (fun _ _ hstage hp _ hw => hstage.inOrder hacc hp hw)
  exact (hinv hoverflows).order

/-! ### A burst after which a record is dropped -/

/-- The primary misses two packets of a burst; the recovery sends them from the secondary. -/
def droppedOps : List Op :=
  [.push .secondary nullPacket, .push .primary nullPacket,
    .push .secondary (pcrPacket 0x100 0 1).parse, .push .primary (pcrPacket 0x100 0 1).parse,
    .push .secondary (payloadPacket 0x100 1 1).parse, .push .secondary (payloadPacket 0x100 2 2).parse,
    .push .secondary (payloadPacket 0x100 3 3).parse, .push .secondary (payloadPacket 0x100 4 4).parse,
    .push .primary (payloadPacket 0x100 3 3).parse, .push .primary (payloadPacket 0x100 4 4).parse]

def droppedWorld : World Unit := run (scriptedEnv [] 1) (freshWorld promptConfig ()) droppedOps

/-- The next primary packet is pushed and neither handled nor kept. -/
theorem primary_dropped :
    droppedWorld.stats.primaryDelayOverflows = 0 ∧ switches droppedWorld.trace = [] ∧
      primaryHandled droppedWorld.trace ++ droppedWorld.engine.primaryQueue.toList ≠
        pushedRecords .primary droppedWorld.trace :=
  ⟨by decide +kernel, by decide +kernel, by decide +kernel⟩

/-- Up to that push nothing was lost. -/
theorem primary_kept_before :
    let w := run (scriptedEnv [] 1) (freshWorld promptConfig ()) droppedOps.dropLast
    primaryHandled w.trace ++ w.engine.primaryQueue.toList = pushedRecords .primary w.trace := by
  have hkept : (run (scriptedEnv [] 1) (freshWorld promptConfig ()) droppedOps.dropLast).trace.all
      (fun
        | .drain _ e => decide (FrontKept e)
        | _ => true) = true := by
    decide +kernel
  exact primary_kept (scriptedEnv_accepting _ _) (by decide +kernel)
    fun nowNs e h => of_decide_eq_true (List.all_eq_true.mp hkept _ h)

end TwoStream
