import TwoStreamRecovery.HistoryWindow
import TwoStreamRecovery.MainLoop

/-!
# The delay of the output

* `PacedStage`: the stages of calls that force no drain; a record is sent from a queue when it is due.
* `drain_paced`: a drain that is not forced is made of them.
* **`sent_not_early`**: no record of a queue is sent before the delay has passed since its arrival.
* **`round_leaves_none_due`**: a round of the main loop in which the primary stays the output leaves no
  record in its queue that was due.
-/

namespace TwoStream

open Relation

variable {σ : Type} {env : Env σ} {w w' : World σ} {config : RecoveryEngineConfig} {sinkState : σ}

/-! ### Stages -/

/-- The queued record is due. -/
def Due (env : Env σ) (w : World σ) (s : StreamId) (r : PacketRecord) : Prop :=
  notYetDue false (w.engine.queue s) r (w.lastReading env) = false

/-- One stage of a call that forces no drain. -/
inductive PacedStage (env : Env σ) : World σ → World σ → Prop
  | ingest (streamId : StreamId) (p : ParsedPacket) (w : World σ) :
      PacedStage env w (pushIngest env streamId p w)
  | sink (s : σ) (w : World σ) : PacedStage env w { w with sinkState := s }
  | read (w : World σ) : PacedStage env w (reportStatsNowNs env w).2
  | wait (w : World σ) : PacedStage env w (openDrain env w)
  | discard (w : World σ) : PacedStage env w (discardDrain env w)
  | takeOver (w : World σ) : PacedStage env w (setActiveOutputStream env w .primary)
  | release (primary : PacketRecord) (w : World σ)
      (front : delayQueueFront w.engine.primaryQueue = some primary) (due : Due env w .primary primary) :
      PacedStage env w (releasePrimary env primary w).2
  | enter (nowNs : ℕ) (w : World σ) : PacedStage env w (enterFailover nowNs w)
  | failover (r : PacketRecord) (s : σ) (w : World σ)
      (front : delayQueueFront w.engine.secondaryQueue = some r) (due : Due env w .secondary r) :
      PacedStage env w (failoverSent env w r s)
  | refuse (s : σ) (w : World σ) :
      PacedStage env w { setActiveOutputStream env w .secondary with sinkState := s }

/-- The failover routine sends one record at most. -/
theorem failoverLoop_paced (n : ℕ) (w : World σ) :
    ReflTransGen (PacedStage env) w (failoverLoop env false n w).2 := by
  cases n with
  | zero => exact .refl
  | succ n =>
    unfold failoverLoop
    cases hfront : delayQueueFront w.engine.secondaryQueue with
    | none => exact .refl
    | some secondary =>
      have hread : PacedStage env w (reportStatsNowNs env w).2 := .read w
      simp only
      split
      · exact .single hread
      · next hdue =>
        have hdue : Due env (reportStatsNowNs env w).2 .secondary secondary :=
          Bool.eq_false_iff.mpr hdue
        rcases hout : outputRecord env .failover
          (setActiveOutputStream env (reportStatsNowNs env w).2 .secondary) secondary with ⟨_ | _, w'⟩
        · obtain ⟨-, s, rfl⟩ := outputRecord_refuses hout
          exact .head hread (.single (.refuse s _))
        · obtain ⟨s, rfl⟩ := outputRecord_takes hout
          exact .head hread (.single (.failover secondary s _ hfront hdue))

theorem drainSecondary_paced (nowNs : ℕ) (w : World σ) :
    ReflTransGen (PacedStage env) w (drainSecondaryOnPrimaryOutage env false nowNs w).2 := by
  unfold drainSecondaryOnPrimaryOutage
  split
  · exact .refl
  · exact .head (.enter nowNs w) (failoverLoop_paced _ _)

theorem drainTail_paced (w : World σ) : ReflTransGen (PacedStage env) w (drainTail env false w).2 := by
  unfold drainTail
  split
  · exact .head (.read w) (drainSecondary_paced _ _)
  · exact .refl

theorem drainLoop_paced (n : ℕ) (w : World σ) (hactive : w.engine.activeOutputStreamId = .primary) :
    ReflTransGen (PacedStage env) w (drainLoop env false n w).2 := by
  induction n generalizing w with
  | zero => exact drainTail_paced w
  | succ n ih =>
    rw [drainLoop, drainIteration_of_primary false hactive]
    cases hfront : delayQueueFront w.engine.primaryQueue with
    | none => exact drainTail_paced w
    | some primary =>
      simp only
      by_cases hdue : notYetDue false w.engine.primaryQueue primary (env.clock w.reads) = true
      · rw [if_pos hdue]
        exact .head (.read w) (drainTail_paced _)
      · rw [if_neg hdue]
        have hdue : Due env (reportStatsNowNs env w).2 .primary primary := Bool.eq_false_iff.mpr hdue
        have hstage : PacedStage env (reportStatsNowNs env w).2
            (releasePrimary env primary (reportStatsNowNs env w).2).2 := .release primary _ hfront hdue
        have hframe := (releasePrimary_outcome env primary (reportStatsNowNs env w).2).frame
        generalize releasePrimary env primary (reportStatsNowNs env w).2 = res at hstage hframe
        rcases res with ⟨_ | _ | ok, w'⟩
        · exact .head (.read w) (.head hstage (ih w' (hframe.1.activeOutputStreamId.trans hactive)))
        · exact .head (.read w) (.head hstage (drainTail_paced _))
        · exact .head (.read w) (.single hstage)

/-- **A drain that is not forced is made of paced stages.** -/
theorem drain_paced (env : Env σ) (w : World σ) :
    ReflTransGen (PacedStage env) w (recoveryEngineDrain env false w).2 := by
  rw [recoveryEngineDrain_eq]
  split
  · split
    · exact .single (.wait w)
    · exact .head (.wait w) (drainSecondary_paced _ _)
  · split
    · exact .head (.wait w) (drainSecondary_paced _ _)
    · split
      · split
        · exact .single (.discard w)
        · exact .head (.discard w) (drainSecondary_paced _ _)
      · exact .head (.discard w) (.head (.takeOver _)
          (drainLoop_paced _ _ (setActiveOutputStream_active env _ _)))

/-- The states that such calls pass through. -/
def PacedReachable (env : Env σ) (config : RecoveryEngineConfig) (sinkState : σ) (w : World σ) : Prop :=
  ReflTransGen (PacedStage env) (freshWorld config sinkState) w

/-- So is what the main loop does before the signal. -/
theorem Receives.paced {s s' : Station σ} {l : List (StreamId × ParsedPacket)}
    (h : Receives env false s l s') : ReflTransGen (PacedStage env) s.world s'.world := by
  induction h with
  | refl => exact .refl
  | packet _ streamId p ih =>
    exact (ih.tail (.read _)).trans (.head (.ingest streamId p _) (drain_paced env _))
  | read _ ih => exact ih.tail (.read _)
  | drain _ force hforce ih =>
    cases force with
    | false => exact ih.trans (drain_paced env _)
    | true => cases hforce rfl
  | sink _ state ih => exact ih.tail (.sink state _)

/-! ### Invariants -/

theorem Consumes.withSink (s : σ) : Consumes w { w with sinkState := s } :=
  ⟨rfl, rfl, rfl, rfl, rfl, rfl, rfl, fun _ => id, fun _ => rfl, fun _ => List.suffix_rfl,
    fun _ => List.Sublist.refl _⟩

/-- What a stage that stores no packet takes from the queues. -/
theorem PacedStage.cases_push (h : PacedStage env w w') :
    (∃ streamId p, w' = pushIngest env streamId p w) ∨ Consumes w w' := by
  cases h with
  | ingest streamId p => exact .inl ⟨streamId, p, rfl⟩
  | sink s => exact .inr (.withSink s)
  | read => exact .inr ((consumes_drainSteps env).read w)
  | wait => exact .inr (openDrain_consumes env w)
  | discard => exact .inr (discardDrain_consumes env w)
  | takeOver => exact .inr (setActiveOutputStream_consumes env w .primary _)
  | release primary _ front due => exact .inr (release_consumes (releasePrimary_outcome env primary w) front)
  | enter nowNs => exact .inr (enterFailover_consumes nowNs w)
  | failover r s _ front due => exact .inr (failoverSent_consumes front)
  | refuse s => exact .inr (setActiveOutputStream_consumes env w .secondary s)

theorem PacedStage.reads_le (h : PacedStage env w w') : w.reads ≤ w'.reads := by
  cases h with
  | ingest streamId p =>
    rw [(pushIngest_ingested env streamId p w).reads]
    exact Nat.le_succ _
  | sink s => exact le_rfl
  | read => exact Nat.le_succ _
  | wait => exact Nat.le_succ _
  | discard => exact Nat.le_succ _
  | takeOver => rw [setActiveOutputStream_reads]
  | release primary _ front due => rw [(releasePrimary_outcome env primary w).frame.2.1]
  | enter nowNs => exact le_rfl
  | failover r s _ front due => simp [failoverSent]
  | refuse s => simp

/-! ### Delays -/

theorem delayQueuePush_delayNs {queue queue' : DelayQueue} {r : PacketRecord}
    (h : delayQueuePush queue r = some queue') : queue'.delayNs = queue.delayNs := by
  obtain ⟨ring, -, rfl⟩ := Option.map_eq_some_iff.mp h
  rfl

theorem delayQueuePopPush_delayNs (queue : DelayQueue) (r : PacketRecord) :
    (delayQueuePopPush queue r).delayNs = queue.delayNs := by
  rw [delayQueuePopPush]
  cases hpush : delayQueuePush (delayQueuePop queue) r with
  | none => rfl
  | some queue' => exact (delayQueuePush_delayNs hpush).trans (delayQueuePop_delayNs queue)

theorem pushQueue_delayNs (w : World σ) (streamId : StreamId) (r : PacketRecord) (s : StreamId) :
    ((pushQueue w streamId r).engine.queue s).delayNs = (w.engine.queue s).delayNs := by
  cases streamId with
  | primary =>
    rw [pushQueue]
    split
    · next queue hpush =>
      cases s with
      | primary => exact delayQueuePush_delayNs hpush
      | secondary => rfl
    · cases s with
      | primary => exact delayQueuePopPush_delayNs _ r
      | secondary => rfl
  | secondary =>
    rw [pushQueue]
    split
    · next queue hpush =>
      cases s with
      | primary => rfl
      | secondary => exact delayQueuePush_delayNs hpush
    · cases s with
      | primary => rfl
      | secondary => exact delayQueuePopPush_delayNs _ r

theorem pushIngest_delayNs (env : Env σ) (streamId : StreamId) (p : ParsedPacket) (w : World σ)
    (s : StreamId) :
    ((pushIngest env streamId p w).engine.queue s).delayNs = (w.engine.queue s).delayNs := by
  have hobserved := ((updatePcrTiming_observed (storeRecord env streamId p w).2
    (storeRecord env streamId p w).1).trans (observeInputPathGap_observed _ streamId
      (storeRecord env streamId p w).1)).trans (updateAlignment_observed _ streamId
        (storeRecord env streamId p w).1)
  obtain ⟨a, i, he⟩ := hobserved.engine
  rw [pushIngest, pushQueue_delayNs, he]
  cases s <;> rfl

/-- The delay of a queue stays. -/
theorem PacedStage.delayNs (h : PacedStage env w w') (s : StreamId) :
    (w'.engine.queue s).delayNs = (w.engine.queue s).delayNs := by
  cases h with
  | ingest streamId p => exact pushIngest_delayNs env streamId p w s
  | sink state => rfl
  | read => rfl
  | wait =>
    obtain ⟨start, he⟩ := openDrain_engine env w
    rw [he]
    cases s <;> rfl
  | discard =>
    obtain ⟨start, ring, he, -⟩ := discardDrain_engine env w
    rw [he]
    cases s <;> rfl
  | takeOver =>
    rw [setActiveOutputStream_engine]
    cases s <;> rfl
  | release primary _ front due =>
    obtain ⟨hsame, -, hqueue⟩ := (releasePrimary_outcome env primary w).frame
    cases s with
    | primary =>
      rcases hqueue with ⟨-, hqueue⟩ | ⟨-, -, hqueue⟩
      · exact (congrArg DelayQueue.delayNs hqueue).trans (delayQueuePop_delayNs _)
      · exact congrArg DelayQueue.delayNs hqueue
    | secondary => exact congrArg DelayQueue.delayNs hsame.secondaryQueue
  | enter nowNs =>
    obtain ⟨ring, he, -⟩ := discardSecondary_engine w.engine
    have he : (enterFailover nowNs w).engine = _ := he
    rw [he]
    cases s <;> rfl
  | failover r state _ front due =>
    rw [failoverSent_engine]
    cases s <;> rfl
  | refuse state =>
    have he := setActiveOutputStream_engine env w .secondary
    cases s with
    | primary => exact congrArg (·.primaryQueue.delayNs) he
    | secondary => exact congrArg (·.secondaryQueue.delayNs) he

/-! ### Sends -/

/-- The queued record whose turn a send is. -/
def Route.occasion : Route → PacketRecord → PacketRecord
  | .passThrough, r => r
  | .failover, r => r
  | .gap _ primary _, _ => primary
  | .transportError primary, _ => primary

/-- The delay of the queued record has passed. -/
def Waited (config : RecoveryEngineConfig) (nowNs : ℕ) (r : PacketRecord) : Prop :=
  r.arrivalTimeNs + config.primaryDelayNs ≤ nowNs

/-- The queues wait for the delay, in order of arrival; what is sent has waited. -/
structure Paced (env : Env σ) (config : RecoveryEngineConfig) (w : World σ) : Prop where
  delay : ∀ s, (w.engine.queue s).delayNs = config.primaryDelayNs
  ordered : ∀ s, (w.engine.queue s).toList.Pairwise (·.arrivalTimeNs ≤ ·.arrivalTimeNs)
  past : ∀ s, ∀ r ∈ (w.engine.queue s).toList, r.arrivalTimeNs ≤ w.lastReading env
  sent : ∀ x ∈ sentEvents w.trace, Waited config (w.lastReading env) (x.1.occasion x.2)

theorem Due.waited {s : StreamId} {r : PacketRecord} (h : Due env w s r) (hw : Paced env config w)
    (hr : r ∈ (w.engine.queue s).toList) : Waited config (w.lastReading env) r := by
  have hpast := hw.past s r hr
  simp only [Due, notYetDue, hw.delay s, hpast, Bool.not_false, decide_true, Bool.true_and,
    decide_eq_false_iff_not, not_lt] at h
  rw [Waited]
  omega

/-- A release sends for the released record. -/
theorem ReleaseOutcome.occasion {primary : PacketRecord} {res : Iteration × World σ}
    (h : ReleaseOutcome env primary w res) :
    ∃ l, sentEvents res.2.trace = sentEvents w.trace ++ l ∧ ∀ x ∈ l, x.1.occasion x.2 = primary := by
  have hgap (kind : GapKind) (M : PacketRecord) (L : List PacketRecord) :
      ∀ x ∈ gapSent kind primary M L, x.1.occasion x.2 = primary := by
    intro x hx
    obtain ⟨r, -, rfl⟩ := List.mem_map.mp hx
    rfl
  obtain ⟨l, ht, -, hsent⟩ := h.trace
  refine ⟨sentEvents l, ?_, ?_⟩
  · rw [ht, sentEvents_append]
    rfl
  · rcases hsent with ⟨-, ⟨kind, M, L, hl⟩ | ⟨c, hl⟩⟩ | ⟨-, kind, M, L, hl⟩
    · rw [hl]
      intro x hx
      rcases List.mem_append.mp hx with hx | hx
      · exact hgap kind M L x hx
      · rw [List.mem_singleton.mp hx]
        rfl
    · rw [hl]
      intro x hx
      rw [List.mem_singleton.mp hx]
      rfl
    · rw [hl]
      exact hgap kind M L

/-- What a stage sends, it sends for a record that is due. -/
theorem PacedStage.sends (h : PacedStage env w w') :
    ∃ l, sentEvents w'.trace = sentEvents w.trace ++ l ∧
      ∀ x ∈ l, ∃ s, Due env w s (x.1.occasion x.2) ∧ x.1.occasion x.2 ∈ (w.engine.queue s).toList := by
  have hswitch (s : StreamId) :
      sentEvents (setActiveOutputStream env w s).trace = sentEvents w.trace := by
    obtain ⟨l, ht, hl⟩ := setActiveOutputStream_trace env w s
    have hnone : sentEvents l = [] := by
      rcases hl with ⟨rfl, -⟩ | ⟨rfl, -⟩ <;> rfl
    rw [ht, sentEvents_append, hnone, List.append_nil]
  have hmem {s : StreamId} {r : PacketRecord} (hfront : delayQueueFront (w.engine.queue s) = some r) :
      r ∈ (w.engine.queue s).toList := by
    rw [delayQueueFront_eq] at hfront
    exact List.mem_of_head? hfront
  cases h with
  | ingest streamId p =>
    exact ⟨[], by rw [(pushIngest_ingested env streamId p w).sentEvents_eq, List.append_nil], by simp⟩
  | sink state => exact ⟨[], by simp, by simp⟩
  | read => exact ⟨[], by simp [reportStatsNowNs], by simp⟩
  | wait => exact ⟨[], by rw [openDrain_trace, sentEvents_append]; rfl, by simp⟩
  | discard => exact ⟨[], by rw [discardDrain_trace, sentEvents_append]; rfl, by simp⟩
  | takeOver => exact ⟨[], by rw [hswitch, List.append_nil], by simp⟩
  | release primary _ front due =>
    obtain ⟨l, hl, hoccasion⟩ := (releasePrimary_outcome env primary w).occasion
    refine ⟨l, hl, fun x hx => ⟨.primary, ?_, ?_⟩⟩
    · rw [hoccasion x hx]
      exact due
    · rw [hoccasion x hx]
      exact hmem (s := .primary) front
  | enter nowNs => exact ⟨[], by simp only [enterFailover, World.log, sentEvents_append]; rfl, by simp⟩
  | failover r state _ front due =>
    refine ⟨[(.failover, r)], ?_, fun x hx => ⟨.secondary, ?_, ?_⟩⟩
    · rw [failoverSent_trace, sentEvents_append, hswitch]
      rfl
    · rw [List.mem_singleton.mp hx]
      exact due
    · rw [List.mem_singleton.mp hx]
      exact hmem (s := .secondary) front
  | refuse state => exact ⟨[], by simp only [hswitch, List.append_nil], by simp⟩

theorem PacedStage.paced (hclock : Monotone env.clock) (h : PacedStage env w w')
    (hw : Paced env config w) : Paced env config w' := by
  have hlater : w.lastReading env ≤ w'.lastReading env := hclock (Nat.sub_le_sub_right h.reads_le 1)
  refine ⟨fun s => (h.delayNs s).trans (hw.delay s), fun s => ?_, fun s => ?_, fun x hx => ?_⟩
  · rcases h.cases_push with ⟨streamId, p, rfl⟩ | hconsumes
    · have hingested := pushIngest_ingested env streamId p w
      refine List.Pairwise.sublist (hingested.queue_suffix s).sublist ?_
      split
      · refine List.pairwise_append.mpr ⟨hw.ordered s, List.pairwise_singleton _ _, fun a ha b hb => ?_⟩
        rw [List.mem_singleton.mp hb]
        exact (hw.past s a ha).trans (hclock (Nat.sub_le _ _))
      · rw [List.append_nil]
        exact hw.ordered s
    · exact (hw.ordered s).sublist (hconsumes.queue s).sublist
  · rcases h.cases_push with ⟨streamId, p, rfl⟩ | hconsumes
    · have hingested := pushIngest_ingested env streamId p w
      intro r hr
      rcases List.mem_append.mp ((hingested.queue_suffix s).subset hr) with hr | hr
      · exact (hw.past s r hr).trans hlater
      · split at hr
        · rw [List.mem_singleton.mp hr, World.lastReading, hingested.reads, Nat.add_sub_cancel]
          exact le_rfl
        · cases hr
    · exact fun r hr => (hw.past s r ((hconsumes.queue s).subset hr)).trans hlater
  · obtain ⟨l, hl, hsends⟩ := h.sends
    rw [hl] at hx
    rcases List.mem_append.mp hx with hx | hx
    · exact (hw.sent x hx).trans hlater
    · obtain ⟨s, hdue, hmem⟩ := hsends x hx
      exact (hdue.waited hw hmem).trans hlater

theorem pacedReachable_paced (hclock : Monotone env.clock)
    (hreach : PacedReachable env config sinkState w) : Paced env config w := by
  induction hreach with
  | refl =>
    refine ⟨fun s => ?_, fun s => ?_, fun s r hr => ?_, fun x hx => by cases hx⟩
    · cases s <;> rfl
    · cases s <;> exact .nil
    · cases s <;> cases hr
  | tail _ hstage ih => exact hstage.paced hclock ih

theorem runRounds_pacedReachable (env : Env σ) (config : RecoveryEngineConfig) (httpPort : ℕ)
    (consoleReport : Bool) (sinkState : σ) (rounds : List Round) :
    PacedReachable env config sinkState
      (runRounds env consoleReport rounds (openLoop env config httpPort sinkState)).2.world := by
  have hopen : Receives env false (freshStation config sinkState (env.clock 0)) []
      (openLoop env config httpPort sinkState).station := Receives.refl.read
  obtain ⟨l, -, h⟩ := (hopen.trans_if (runRounds_receivesIf consoleReport rounds _)).exists_receives
  exact h.paced

/-- **Nothing is sent early**: whatever has been sent before the signal, the delay of the record whose
turn it was has passed by then. -/
theorem sent_not_early (hclock : Monotone env.clock) (config : RecoveryEngineConfig) (httpPort : ℕ)
    (consoleReport : Bool) (sinkState : σ) :
    (∀ rounds, PacedReachable env config sinkState
        (runRounds env consoleReport rounds (openLoop env config httpPort sinkState)).2.world) ∧
      ∀ w, PacedReachable env config sinkState w →
        ∀ x ∈ sentEvents w.trace, Waited config (w.lastReading env) (x.1.occasion x.2) :=
  ⟨runRounds_pacedReachable env config httpPort consoleReport sinkState, fun _ hreach =>
    (pacedReachable_paced hclock hreach).sent⟩

/-! ### Records that are due -/

theorem drainTail_queue (force : Bool) (w : World σ) :
    (drainTail env force w).2.engine.primaryQueue.toList <:+ w.engine.primaryQueue.toList :=
  (Consumes.of_steps ((consumes_drainSteps env).drainTail force w)).queue .primary

/-- None of the records was due at the time. -/
def NoneDue (config : RecoveryEngineConfig) (nowNs : ℕ) (l : List PacketRecord) : Prop :=
  ∀ r ∈ l, ¬ Waited config nowNs r

theorem noneDue_nil {nowNs : ℕ} : NoneDue config nowNs [] := fun _ hr => by cases hr

theorem NoneDue.of_suffix {nowNs : ℕ} {l l' : List PacketRecord} (h : NoneDue config nowNs l)
    (hl : l' <:+ l) : NoneDue config nowNs l' := fun r hr => h r (hl.subset hr)

/-- Behind a record that is not due, none is. -/
theorem noneDue_of_front {nowNs t : ℕ} {queue : DelayQueue} {primary : PacketRecord}
    (hfront : delayQueueFront queue = some primary)
    (hordered : queue.toList.Pairwise (·.arrivalTimeNs ≤ ·.arrivalTimeNs))
    (hdelay : queue.delayNs = config.primaryDelayNs) (ht : t ≤ nowNs)
    (hwait : notYetDue false queue primary nowNs = true) : NoneDue config t queue.toList := by
  rw [delayQueueFront_eq, List.head?_eq_some_iff] at hfront
  obtain ⟨rest, hqueue⟩ := hfront
  simp only [notYetDue, Bool.not_false, Bool.true_and, Bool.and_eq_true, decide_eq_true_eq,
    hdelay] at hwait
  have hfirst : t < primary.arrivalTimeNs + config.primaryDelayNs := by omega
  rw [hqueue, List.pairwise_cons] at hordered
  intro r hr
  rw [hqueue] at hr
  rw [Waited, not_le]
  rcases List.mem_cons.mp hr with rfl | hr
  · exact hfirst
  · exact hfirst.trans_le (Nat.add_le_add_right (hordered.1 r hr) _)

theorem drainLoop_noneDue (hclock : Monotone env.clock) {t : ℕ} (n : ℕ) (w : World σ)
    (hactive : w.engine.activeOutputStreamId = .primary)
    (hn : w.engine.primaryQueue.toList.length ≤ n)
    (hordered : w.engine.primaryQueue.toList.Pairwise (·.arrivalTimeNs ≤ ·.arrivalTimeNs))
    (hdelay : w.engine.primaryQueue.delayNs = config.primaryDelayNs) (ht : t ≤ env.clock w.reads)
    (hok : (drainLoop env false n w).1 = true) :
    NoneDue config t (drainLoop env false n w).2.engine.primaryQueue.toList := by
  induction n generalizing w with
  | zero =>
    have hempty : w.engine.primaryQueue.toList = [] := List.eq_nil_of_length_eq_zero (Nat.le_zero.mp hn)
    exact NoneDue.of_suffix (hempty ▸ noneDue_nil) (drainTail_queue false w)
  | succ n ih =>
    rw [drainLoop, drainIteration_of_primary false hactive] at hok ⊢
    cases hfront : delayQueueFront w.engine.primaryQueue with
    | none =>
      have hempty : w.engine.primaryQueue.toList = [] := by
        rwa [delayQueueFront_eq, List.head?_eq_none_iff] at hfront
      exact NoneDue.of_suffix (hempty ▸ noneDue_nil) (drainTail_queue false w)
    | some primary =>
      rw [hfront] at hok
      simp only at hok ⊢
      by_cases hwait : notYetDue false w.engine.primaryQueue primary (env.clock w.reads) = true
      · rw [if_pos hwait]
        exact (noneDue_of_front hfront hordered hdelay ht hwait).of_suffix (drainTail_queue false _)
      · rw [if_neg hwait] at hok ⊢
        have hframe := (releasePrimary_outcome env primary (reportStatsNowNs env w).2).frame
        generalize releasePrimary env primary (reportStatsNowNs env w).2 = res at hframe hok
        obtain ⟨hsame, hreads, ⟨hnext, hqueue⟩ | ⟨hdone, -, -⟩⟩ := hframe
        · rcases res with ⟨it, w'⟩
          obtain rfl : it = .next := hnext
          have hqueue : w'.engine.primaryQueue = delayQueuePop w.engine.primaryQueue := hqueue
          have hlist : w'.engine.primaryQueue.toList = w.engine.primaryQueue.toList.tail := by
            rw [hqueue, toList_delayQueuePop]
          refine ih w' (hsame.activeOutputStreamId.trans hactive) ?_ ?_ ?_ ?_ hok
          · rw [hlist, List.length_tail]
            omega
          · rw [hlist]
            exact hordered.sublist (List.tail_sublist _)
          · rw [hqueue, delayQueuePop_delayNs]
            exact hdelay
          · have hreads : w'.reads = w.reads + 1 := hreads
            rw [hreads]
            exact ht.trans (hclock (Nat.le_succ _))
        · rcases res with ⟨it, w'⟩
          obtain rfl : it = .done false := hdone
          cases hok

/-- **A drain leaves nothing due**: while the primary is the output, a drain that succeeds leaves in its
queue no record that was due when the drain began. -/
theorem recoveryEngineDrain_noneDue (hclock : Monotone env.clock) (hw : Paced env config w)
    (hactive : w.engine.activeOutputStreamId = .primary)
    (hok : (recoveryEngineDrain env false w).1 = true) :
    NoneDue config (env.clock w.reads)
      (recoveryEngineDrain env false w).2.engine.primaryQueue.toList := by
  have hsecondary (nowNs : ℕ) (w₁ : World σ) (hempty : w₁.engine.primaryQueue.ring.count = 0) :
      NoneDue config (env.clock w.reads)
        (drainSecondaryOnPrimaryOutage env false nowNs w₁).2.engine.primaryQueue.toList := by
    have hconsumes : Consumes w₁ (drainSecondaryOnPrimaryOutage env false nowNs w₁).2 := by
      unfold drainSecondaryOnPrimaryOutage
      split
      · exact .refl w₁
      · exact failover_consumes env false nowNs w₁ _
    have hnone : w₁.engine.primaryQueue.toList = [] := (RingBuffer.count_eq_zero_iff _).mp hempty
    exact NoneDue.of_suffix (hnone ▸ noneDue_nil) (hconsumes.queue .primary)
  rw [recoveryEngineDrain_eq, drainReady_of_primary hactive] at hok ⊢
  by_cases hopen : (openDrain env w).engine.primaryQueue.ring.count = 0
  · have hnone : (openDrain env w).engine.primaryQueue.toList = [] :=
      (RingBuffer.count_eq_zero_iff _).mp hopen
    rw [if_pos hopen]
    split
    · exact hnone ▸ noneDue_nil
    · exact hsecondary _ _ hopen
  · rw [if_neg hopen, if_neg (by simp)] at hok ⊢
    by_cases hdiscard : (discardDrain env w).engine.primaryQueue.ring.count = 0
    · have hnone : (discardDrain env w).engine.primaryQueue.toList = [] :=
        (RingBuffer.count_eq_zero_iff _).mp hdiscard
      rw [if_pos hdiscard]
      split
      · exact hnone ▸ noneDue_nil
      · exact hsecondary _ _ hdiscard
    · rw [if_neg hdiscard] at hok ⊢
      have hdiscarded : Paced env config (discardDrain env w) := (PacedStage.discard w).paced hclock hw
      have hqueue : (setActiveOutputStream env (discardDrain env w) .primary).engine.primaryQueue =
          (discardDrain env w).engine.primaryQueue := by
        rw [setActiveOutputStream_engine]
      refine drainLoop_noneDue hclock _ _ (setActiveOutputStream_active env _ _) ?_ ?_ ?_ ?_ hok
      · rw [DelayQueue.toList, RingBuffer.length_toList]
      · rw [hqueue]
        exact hdiscarded.ordered .primary
      · rw [hqueue]
        exact hdiscarded.delay .primary
      · rw [setActiveOutputStream_reads]
        exact hclock (Nat.le_succ _)

theorem PacedStage.trace_prefix (h : PacedStage env w w') : w.trace <+: w'.trace := by
  cases h with
  | ingest streamId p =>
    obtain ⟨l, ht, -⟩ := (pushIngest_ingested env streamId p w).trace
    exact ⟨_, ht.symm⟩
  | sink state => exact List.prefix_rfl
  | read => exact List.prefix_rfl
  | wait => exact List.prefix_append _ _
  | discard => exact List.prefix_append _ _
  | takeOver => exact setActiveOutputStream_appends w .primary
  | release primary _ front due =>
    obtain ⟨l, ht, -⟩ := (releasePrimary_outcome env primary w).trace
    exact ⟨_, ht.symm⟩
  | enter nowNs => exact List.prefix_append _ _
  | failover r state _ front due => exact failoverSent_appends w r state
  | refuse state => exact setActiveOutputStream_appends w .secondary

theorem switches_grow {t t' : List Event} (h : t <+: t') : switches t <+: switches t' := h.filterMap _

theorem switches_between {t t' t'' : List Event} (h : t <+: t') (h' : t' <+: t'')
    (hsame : switches t'' = switches t) : switches t' = switches t := by
  have hlater := switches_grow h'
  rw [hsame] at hlater
  exact hlater.eq_of_length_le (switches_grow h).length_le

theorem switches_of_switch (hactive : w.engine.activeOutputStreamId = .primary) {t : List Event}
    (ht : (setActiveOutputStream env w .secondary).trace <+: t) : switches t ≠ switches w.trace := by
  have hlonger := (switches_grow ht).length_le
  obtain ⟨l, hl, ⟨-, h⟩ | ⟨rfl, -⟩⟩ := setActiveOutputStream_trace env w .secondary
  · rw [hactive] at h
    cases h
  · rw [hl, switches, List.filterMap_append, List.length_append] at hlonger
    intro hsame
    rw [hsame] at hlonger
    exact absurd hlonger (Nat.not_le_of_lt (Nat.lt_succ_self _))

/-- The output is the primary until it is switched. -/
theorem PacedStage.active (h : PacedStage env w w') (hsame : switches w'.trace = switches w.trace)
    (hactive : w.engine.activeOutputStreamId = .primary) :
    w'.engine.activeOutputStreamId = .primary := by
  cases h with
  | ingest streamId p =>
    obtain ⟨a, i, q, q', he⟩ := (pushIngest_ingested env streamId p w).engine
    rw [he]
    exact hactive
  | sink state => exact hactive
  | read => exact hactive
  | wait =>
    obtain ⟨start, he⟩ := openDrain_engine env w
    rw [he]
    exact hactive
  | discard =>
    obtain ⟨start, ring, he, -⟩ := discardDrain_engine env w
    rw [he]
    exact hactive
  | takeOver => exact setActiveOutputStream_active env w .primary
  | release primary _ front due =>
    exact (releasePrimary_outcome env primary w).frame.1.activeOutputStreamId.trans hactive
  | enter nowNs =>
    obtain ⟨ring, he, -⟩ := discardSecondary_engine w.engine
    exact (congrArg RecoveryEngine.activeOutputStreamId he).trans hactive
  | failover r state _ front due =>
    rw [failoverSent_trace] at hsame
    exact absurd hsame (switches_of_switch hactive (List.prefix_append _ _))
  | refuse state => exact absurd hsame (switches_of_switch hactive List.prefix_rfl)

theorem paced_grows (h : ReflTransGen (PacedStage env) w w') : w.trace <+: w'.trace :=
  trace_prefix (fun _ _ hstage => PacedStage.trace_prefix hstage) h

theorem paced_active (h : ReflTransGen (PacedStage env) w w')
    (hsame : switches w'.trace = switches w.trace)
    (hactive : w.engine.activeOutputStreamId = .primary) :
    w'.engine.activeOutputStreamId = .primary := by
  induction h with
  | refl => exact hactive
  | tail hbefore hstage ih =>
    have hmid := switches_between (paced_grows hbefore) hstage.trace_prefix hsame
    exact hstage.active (hsame.trans hmid.symm) (ih hmid)

/-! ### Rounds -/

theorem andThen_true {res : Bool × MainLoop σ} {next : MainLoop σ → Bool × MainLoop σ}
    (h : (andThen res next).1 = true) : res.1 = true ∧ andThen res next = next res.2 := by
  rcases res with ⟨_ | _, m⟩
  · cases h
  · exact ⟨rfl, rfl⟩

theorem reportRound_world (env : Env σ) (consoleReport : Bool) (m : MainLoop σ) :
    (reportRound env consoleReport m).world.engine = m.world.engine ∧
      (reportRound env consoleReport m).world.trace = m.world.trace := by
  simp only [reportRound, reportStatsMaybePrint]
  split_ifs <;> exact ⟨rfl, rfl⟩

/-- The drain of a round that succeeds. -/
theorem runRound_drain {consoleReport : Bool} {m : MainLoop σ} {visits : Option Visits}
    {arrivals : StreamId → Arrival}
    (hok : (runRound env consoleReport m (.ready visits arrivals)).1 = true) :
    ∃ w, ReflTransGen (PacedStage env) m.world w ∧ (recoveryEngineDrain env false w).1 = true ∧
      (runRound env consoleReport m (.ready visits arrivals)).2.world.engine =
        (recoveryEngineDrain env false w).2.engine ∧
      (runRound env consoleReport m (.ready visits arrivals)).2.world.trace =
        (recoveryEngineDrain env false w).2.trace := by
  have hvisits : Receives env false m.station [] (handleVisits env visits m).station :=
    handleVisits_receives visits .refl
  rw [runRound] at hok ⊢
  have hprimary := hvisits.trans_if
    (receiveInput_receivesIf .primary (arrivals .primary) (handleVisits env visits m))
  generalize receiveInput env .primary (arrivals .primary) _ = res₁ at hok hprimary ⊢
  obtain ⟨hok₁, hres₁⟩ := andThen_true hok
  rw [hres₁] at hok ⊢
  rw [hok₁] at hprimary
  have hsecondary := Receives.trans_if hprimary
    (receiveInput_receivesIf .secondary (arrivals .secondary) res₁.2)
  generalize receiveInput env .secondary (arrivals .secondary) res₁.2 = res₂ at hok hsecondary ⊢
  obtain ⟨hok₂, hres₂⟩ := andThen_true hok
  rw [hres₂] at hok ⊢
  rw [hok₂] at hsecondary
  obtain ⟨hok₃, hres₃⟩ := andThen_true hok
  rw [hres₃]
  obtain ⟨hengine, htrace⟩ := reportRound_world env consoleReport (drainRound env res₂.2).2
  exact ⟨res₂.2.world, Receives.paced hsecondary, hok₃, hengine, htrace⟩

/-- **A round leaves nothing due**: if the output is the primary and is not switched in a round that
succeeds, no record waits after it that was due before it. -/
theorem round_leaves_none_due (hclock : Monotone env.clock) {m : MainLoop σ}
    (hreach : PacedReachable env config sinkState m.world)
    (hactive : m.world.engine.activeOutputStreamId = .primary) (consoleReport : Bool)
    (visits : Option Visits) (arrivals : StreamId → Arrival)
    (hround : (runRound env consoleReport m (.ready visits arrivals)).1 = true)
    (hstays : switches (runRound env consoleReport m (.ready visits arrivals)).2.world.trace =
      switches m.world.trace) :
    NoneDue config (m.world.lastReading env)
      (runRound env consoleReport m (.ready visits arrivals)).2.world.engine.primaryQueue.toList := by
  obtain ⟨w, hpaced, hok, hengine, htrace⟩ := runRound_drain hround
  have hreach' : PacedReachable env config sinkState w := hreach.trans hpaced
  rw [htrace] at hstays
  have hsame := switches_between (paced_grows hpaced) (paced_grows (drain_paced env w)) hstays
  have hnone := recoveryEngineDrain_noneDue hclock (pacedReachable_paced hclock hreach')
    (paced_active hpaced hsame hactive) hok
  have hreads : m.world.reads ≤ w.reads :=
    run_invariant (I := fun w => m.world.reads ≤ w.reads) (fun _ _ hstage h => h.trans hstage.reads_le)
      hpaced le_rfl
  have hlater : m.world.lastReading env ≤ env.clock w.reads := hclock ((Nat.sub_le _ _).trans hreads)
  intro r hr hwaited
  rw [hengine] at hr
  exact hnone r hr (le_trans hwaited hlater)

/-- Every reading of the clock is one later. -/
def tickingEnv : Env Unit where
  sink := ⟨fun s _ => (0, s), none⟩
  clock := id

def delayedConfig : RecoveryEngineConfig := { promptConfig with primaryDelayNs := 9 }

/-- A datagram of two packets, and a round without one. -/
def delayedRounds : List Round :=
  [.ready none (Function.update (fun _ => .nothing) .primary
    (.datagram (packetBytes [nullPacket, (payloadPacket 0x100 0 1).parse]))),
   .ready none fun _ => .nothing]

/-- The first packet has been sent. -/
theorem sent_not_early_delayedRounds :
    let w := (runRounds tickingEnv false delayedRounds (openLoop tickingEnv delayedConfig 0 ())).2.world
    (sentEvents w.trace).length = 1 ∧
      ∀ x ∈ sentEvents w.trace, Waited delayedConfig (w.lastReading tickingEnv) (x.1.occasion x.2) := by
  have hclock : Monotone tickingEnv.clock := monotone_id
  have hall := sent_not_early hclock delayedConfig 0 false ()
  exact ⟨by decide +kernel, hall.2 _ (hall.1 delayedRounds)⟩

/-- The loop after the first of these rounds, and after the second. -/
def delayedLoop : MainLoop Unit :=
  (runRounds tickingEnv false (delayedRounds.take 1) (openLoop tickingEnv delayedConfig 0 ())).2

def delayedEnd : Bool × MainLoop Unit :=
  runRound tickingEnv false delayedLoop (.ready none fun _ => .nothing)

/-- The second packet waits. -/
theorem round_leaves_none_due_delayedEnd :
    delayedEnd.2.world.engine.primaryQueue.toList.length = 1 ∧
      NoneDue delayedConfig (delayedLoop.world.lastReading tickingEnv)
        delayedEnd.2.world.engine.primaryQueue.toList := by
  have hclock : Monotone tickingEnv.clock := monotone_id
  have hreach : PacedReachable tickingEnv delayedConfig () delayedLoop.world := by
    rw [delayedLoop]
    exact runRounds_pacedReachable tickingEnv delayedConfig 0 false () (delayedRounds.take 1)
  have hround : delayedEnd.1 = true := by decide +kernel
  have hone : delayedEnd.2.world.engine.primaryQueue.toList.length = 1 := by decide +kernel
  have hactive : delayedLoop.world.engine.activeOutputStreamId = .primary := by decide +kernel
  have hstays : switches delayedEnd.2.world.trace = switches delayedLoop.world.trace := by
    decide +kernel
  rw [delayedEnd] at hround hone hstays ⊢
  have hnone := round_leaves_none_due hclock hreach hactive false none (fun _ => .nothing) hround hstays
  exact ⟨hone, hnone⟩

end TwoStream
