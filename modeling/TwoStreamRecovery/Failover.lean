import Mathlib.Data.List.Chain
import TwoStreamRecovery.PrimaryOrder

/-!
# While the secondary is the output

* `sinceSwitch`: the events since the last switch of the output.
* `FrontUnsent`: the condition on a failover under which it discards nothing.
* `failover_consecutive`: while that is so, failover sends consecutive records.
-/

namespace TwoStream

open Relation

variable {σ : Type} {env : Env σ} {w w' : World σ}

/-! ### Since the last switch -/

/-- An event that switches the output. -/
def Event.isSwitch : Event → Bool
  | .switched _ _ _ => true
  | _ => false

/-- The events since the last switch. -/
def sinceSwitch (trace : List Event) : List Event :=
  trace.foldl (fun period ev => if ev.isSwitch then [] else period ++ [ev]) []

@[simp] theorem sinceSwitch_concat (t : List Event) (ev : Event) :
    sinceSwitch (t ++ [ev]) = if ev.isSwitch then [] else sinceSwitch t ++ [ev] := by
  rw [sinceSwitch, List.foldl_append]
  rfl

theorem sinceSwitch_append {l : List Event} (h : ∀ ev ∈ l, ev.isSwitch = false) (t : List Event) :
    sinceSwitch (t ++ l) = sinceSwitch t ++ l := by
  induction l using List.reverseRecOn with
  | nil => simp
  | append_singleton l ev ih =>
    have hev : ev.isSwitch = false := h ev (by simp)
    rw [← List.append_assoc, sinceSwitch_concat, hev, ih fun x hx => h x (by simp [hx])]
    simp

theorem isSwitch_of_switches {l : List Event} (h : switches l = []) :
    ∀ ev ∈ l, ev.isSwitch = false := by
  intro ev hev
  have := List.filterMap_eq_nil_iff.mp h ev hev
  cases ev <;> simp_all [Event.isSwitch]

/-- The period that a switch opens. -/
theorem sinceSwitch_switched {l : List Event} (h : switches l = []) (t : List Event)
    (streamId : StreamId) (nowNs : ℕ) (e : RecoveryEngine) :
    sinceSwitch (t ++ .switched streamId nowNs e :: l) = l := by
  have hsplit : t ++ .switched streamId nowNs e :: l = (t ++ [.switched streamId nowNs e]) ++ l := by
    simp
  rw [hsplit, sinceSwitch_append (isSwitch_of_switches h), sinceSwitch_concat]
  rfl

/-! ### Consecutive records -/

/-- Each record follows the one before it in its stream. -/
def Consecutive (L : List PacketRecord) : Prop :=
  L.IsChain fun r r' => r'.streamIndex = r.streamIndex + 1

/-- The records sent by failover since the last switch. -/
def failoverSince (trace : List Event) : List PacketRecord := queueSent .secondary (sinceSwitch trace)

/-- Between two switches, failover sends consecutive records. -/
def FailoverConsecutive (trace : List Event) : Prop :=
  ∀ pre nowNs e mid post, trace = pre ++ .switched .secondary nowNs e :: mid ++ post →
    switches mid = [] → Consecutive (queueSent .secondary mid)

/-- The oldest waiting secondary record is not taken for one that the primary has sent. -/
def FrontUnsent (e : RecoveryEngine) : Prop :=
  ∀ secondary cutoff, delayQueueFront e.secondaryQueue = some secondary →
    secondaryCutoff e = some cutoff → cutoff < secondary.streamIndex

instance (L : List PacketRecord) : Decidable (Consecutive L) := by
  unfold Consecutive
  infer_instance

instance (e : RecoveryEngine) : Decidable (FrontUnsent e) :=
  decidable_of_iff
    ((delayQueueFront e.secondaryQueue).all fun r =>
      (secondaryCutoff e).all fun cutoff => decide (cutoff < r.streamIndex)) (by
    unfold FrontUnsent
    cases delayQueueFront e.secondaryQueue <;> cases secondaryCutoff e <;> simp)

/-- The condition on the events of a run: no failover discards anything while the secondary is the
output. -/
def frontUnsentAt (_ : List Event) : Event → Prop
  | .failover _ e => e.activeOutputStreamId = .secondary → FrontUnsent e
  | _ => True

/-- An event that neither switches nor sends by failover. -/
def Event.Quiet : Event → Prop
  | .switched _ _ _ => False
  | .sent .failover _ => False
  | _ => True

theorem Event.Quiet.isSwitch {ev : Event} (h : ev.Quiet) : ev.isSwitch = false := by
  cases ev <;> simp_all [Event.Quiet, Event.isSwitch]

theorem queueSent_of_quiet {l : List Event} (h : ∀ ev ∈ l, ev.Quiet) :
    queueSent .secondary l = [] := by
  refine queueSent_eq_nil fun x hx hroute => ?_
  obtain ⟨route, r⟩ := x
  obtain rfl : route = .failover := hroute
  exact h _ (mem_sentEvents_iff.mp hx)

theorem failoverSince_append {t l : List Event} (h : ∀ ev ∈ l, ev.Quiet) :
    failoverSince (t ++ l) = failoverSince t := by
  rw [failoverSince, sinceSwitch_append fun ev hev => (h ev hev).isSwitch, queueSent_append,
    queueSent_of_quiet h, List.append_nil]
  rfl

theorem failoverSince_switched (t : List Event) (streamId : StreamId) (nowNs : ℕ)
    (e : RecoveryEngine) : failoverSince (t ++ [.switched streamId nowNs e]) = [] := by
  rw [failoverSince, sinceSwitch_concat]
  rfl

theorem failoverSince_sent (t : List Event) (r : PacketRecord) :
    failoverSince (t ++ [.sent .failover r]) = failoverSince t ++ [r] := by
  rw [failoverSince, sinceSwitch_concat]
  simp only [Event.isSwitch, Bool.false_eq_true, if_false]
  rw [queueSent_append]
  rfl

/-- The records sent so far in this period are consecutive, the next one follows in the queue. -/
structure Chained (w : World σ) : Prop where
  always : Along (fun pre ev => Consecutive (failoverSince (pre ++ [ev]))) w.trace
  now : Consecutive (failoverSince w.trace)
  next : ∀ r ∈ (failoverSince w.trace).getLast?, w.engine.activeOutputStreamId = .secondary ∧
    r.streamIndex + 1 + w.engine.secondaryQueue.toList.length = w.engine.nextStreamIndex .secondary

/-! ### Steps -/

/-- The waiting records are the latest pushes. -/
theorem Consistent.front_index (hw : Consistent w) {s : StreamId} {r : PacketRecord}
    (h : delayQueueFront (w.engine.queue s) = some r) :
    r.streamIndex + (w.engine.queue s).toList.length = w.engine.nextStreamIndex s := by
  obtain ⟨before, hbefore⟩ := hw.queue s
  rw [delayQueueFront_eq, List.head?_eq_some_iff] at h
  obtain ⟨rest, hrest⟩ := h
  have hplace : (pushedRecords s w.trace)[before.length]? = some r := by
    rw [← hbefore, hrest]
    simp
  obtain ⟨t, p, rfl⟩ := hw.place s _ _ hplace
  have hcount := hw.count s
  rw [← hbefore, List.length_append] at hcount
  exact hcount

/-- Quiet events, and a queue that only grows at its end with the stream. -/
theorem Chained.quiet {l : List Event} {n : ℕ} (hw : Chained w) (ht : w'.trace = w.trace ++ l)
    (hl : ∀ ev ∈ l, ev.Quiet)
    (hactive : w.engine.activeOutputStreamId = .secondary →
      w'.engine.activeOutputStreamId = .secondary ∧
        w'.engine.secondaryQueue.toList.length = w.engine.secondaryQueue.toList.length + n ∧
        w'.engine.nextStreamIndex .secondary = w.engine.nextStreamIndex .secondary + n) :
    Chained w' := by
  have hsame : failoverSince w'.trace = failoverSince w.trace := by rw [ht, failoverSince_append hl]
  refine ⟨?_, ?_, fun r hr => ?_⟩
  · rw [ht]
    refine hw.always.append fun pre ev post h => ?_
    have hquiet : ∀ x ∈ pre ++ [ev], x.Quiet := fun x hx => hl x (by
      rw [h]
      simp only [List.mem_append, List.mem_singleton] at hx
      rcases hx with hx | rfl <;> simp [*])
    rw [List.append_assoc, failoverSince_append hquiet]
    exact hw.now
  · rw [hsame]
    exact hw.now
  · rw [hsame] at hr
    obtain ⟨hsecondary, hnext⟩ := hw.next r hr
    obtain ⟨h1, h2, h3⟩ := hactive hsecondary
    exact ⟨h1, by omega⟩

/-- A switch opens a new period. -/
theorem Chained.switched {streamId : StreamId} {nowNs : ℕ} {e : RecoveryEngine} (hw : Chained w)
    (ht : w'.trace = w.trace ++ [.switched streamId nowNs e]) : Chained w' := by
  have hnone : failoverSince w'.trace = [] := by rw [ht, failoverSince_switched]
  refine ⟨?_, ?_, ?_⟩
  · rw [ht, along_concat]
    refine ⟨hw.always, ?_⟩
    rw [failoverSince_switched]
    exact .nil
  · rw [hnone]
    exact .nil
  · simp [hnone]

theorem setActiveOutputStream_chained {streamId : StreamId} {s : σ} (hw : Chained w) :
    Chained { setActiveOutputStream env w streamId with sinkState := s } := by
  obtain ⟨l, ht, ⟨rfl, hactive⟩ | ⟨rfl, -⟩⟩ := setActiveOutputStream_trace env w streamId
  · refine hw.quiet (n := 0) (l := []) ht (by simp) fun hsecondary => ?_
    rw [hsecondary] at hactive
    simp only [setActiveOutputStream_engine, ← hactive]
    exact ⟨trivial, rfl, rfl⟩
  · exact hw.switched ht

theorem failoverSent_chained {r : PacketRecord} {s : σ}
    (hfront : delayQueueFront w.engine.secondaryQueue = some r) (hconsistent : Consistent w)
    (hw : Chained w) : Chained (failoverSent env w r s) := by
  have hswitch : Chained { setActiveOutputStream env w .secondary with sinkState := s } :=
    setActiveOutputStream_chained hw
  have hindex := hconsistent.front_index (s := .secondary) hfront
  rw [delayQueueFront_eq, List.head?_eq_some_iff] at hfront
  obtain ⟨rest, hrest⟩ := hfront
  have hfollows : Consecutive (failoverSince (setActiveOutputStream env w .secondary).trace ++ [r]) := by
    refine List.isChain_append.mpr ⟨hswitch.now, .singleton r, fun x hx y hy => ?_⟩
    obtain rfl : r = y := by simpa using hy
    have hnext := (hswitch.next x hx).2
    simp only [setActiveOutputStream_engine] at hnext
    simp only [RecoveryEngine.queue] at hindex
    omega
  refine ⟨?_, ?_, fun x hx => ?_⟩
  · rw [failoverSent_trace, along_concat]
    refine ⟨hswitch.always, ?_⟩
    rw [failoverSince_sent]
    exact hfollows
  · rw [failoverSent_trace, failoverSince_sent]
    exact hfollows
  · rw [failoverSent_trace, failoverSince_sent, List.getLast?_concat] at hx
    obtain rfl : r = x := by simpa using hx
    rw [failoverSent_engine]
    refine ⟨rfl, ?_⟩
    simp only [toList_delayQueuePop, hrest, List.tail_cons]
    simp only [RecoveryEngine.queue, hrest, List.length_cons] at hindex
    omega

/-- A failover discards nothing that it would have to send next. -/
theorem enterFailover_chained {nowNs : ℕ} (hw : Chained w)
    (hunsent : w.engine.activeOutputStreamId = .secondary → FrontUnsent w.engine) :
    Chained (enterFailover nowNs w) := by
  refine hw.quiet (n := 0) (l := [.failover nowNs w.engine]) rfl (by simp [Event.Quiet])
    fun hsecondary => ?_
  have hsame : (discardSecondaryRecordsAlreadyOutputByPrimary w.engine).secondaryQueue.toList =
      w.engine.secondaryQueue.toList := by
    unfold discardSecondaryRecordsAlreadyOutputByPrimary
    cases hcutoff : secondaryCutoff w.engine with
    | none => rfl
    | some cutoff =>
      change (w.engine.secondaryQueue.ring.popWhile _).toList = w.engine.secondaryQueue.ring.toList
      rw [RingBuffer.toList_popWhile]
      cases hlist : w.engine.secondaryQueue.ring.toList with
      | nil => rfl
      | cons secondary rest =>
        have hfront : delayQueueFront w.engine.secondaryQueue = some secondary := by
          rw [delayQueueFront_eq, DelayQueue.toList, hlist]
          rfl
        have hlt := hunsent hsecondary secondary cutoff hfront hcutoff
        rw [List.dropWhile_cons_of_neg (by simpa using hlt)]
  obtain ⟨ring, he, -⟩ := discardSecondary_engine w.engine
  simp only [enterFailover]
  refine ⟨?_, by rw [hsame]; rfl, ?_⟩
  · rw [he]
    exact hsecondary
  · rw [he]
    rfl

theorem Stage.chained (h : Stage env w w') (hno : .overflow .secondary ∉ w'.trace)
    (hunsent : Along frontUnsentAt w'.trace) (hconsistent : Consistent w) (hw : Chained w) :
    Chained w' := by
  have hprefix := h.trace_prefix
  cases h with
  | ingest streamId p =>
    have hingested := pushIngest_ingested env streamId p w
    obtain ⟨a, i, primaryQueue, secondaryQueue, he⟩ := hingested.engine
    obtain ⟨l, ht, hl, -, hqueue⟩ := hingested.trace
    have hquiet : ∀ ev ∈ Event.pushed (makeRecord streamId (w.engine.nextStreamIndex streamId)
        (env.clock w.reads) p) :: l, ev.Quiet := by
      intro ev hev
      rcases List.mem_cons.mp hev with rfl | hev
      · trivial
      · rcases hl ev hev with ⟨d, rfl⟩ | rfl <;> trivial
    cases streamId with
    | primary =>
      refine hw.quiet (n := 0) ht hquiet fun hsecondary => ?_
      have hother : (pushIngest env .primary p w).engine.secondaryQueue = w.engine.secondaryQueue :=
        hingested.otherQueue
      rw [hother, he]
      exact ⟨hsecondary, rfl, by simp⟩
    | secondary =>
      refine hw.quiet (n := 1) ht hquiet fun hsecondary => ?_
      rcases hqueue with ⟨-, hqueue⟩ | ⟨hyes, -⟩
      · have hlength : (pushIngest env .secondary p w).engine.secondaryQueue.toList.length =
            w.engine.secondaryQueue.toList.length + 1 := by
          have := congrArg List.length hqueue
          simpa [RecoveryEngine.queue] using this
        refine ⟨?_, hlength, ?_⟩
        · rw [he]
          exact hsecondary
        · rw [he]
          simp
      · exact absurd (by rw [ht]; simp [hyes]) hno
  | sink s => exact hw.quiet (n := 0) (l := []) (by simp) (by simp) fun h => ⟨h, rfl, rfl⟩
  | read => exact hw.quiet (n := 0) (l := []) (by simp [reportStatsNowNs]) (by simp) fun h => ⟨h, rfl, rfl⟩
  | wait _ idle =>
    obtain ⟨start, he⟩ := openDrain_engine env w
    refine hw.quiet (n := 0) (openDrain_trace w) (by simp [Event.Quiet]) fun h => ?_
    rw [he]
    exact ⟨h, rfl, rfl⟩
  | discard _ nonempty ready =>
    obtain ⟨start, ring, he, -⟩ := discardDrain_engine env w
    refine hw.quiet (n := 0) (discardDrain_trace w) (by simp [Event.Quiet]) fun h => ?_
    rw [he]
    exact ⟨h, rfl, rfl⟩
  | takeOver _ ready =>
    exact setActiveOutputStream_chained (s := (setActiveOutputStream env w .primary).sinkState) hw
  | release primary _ front active =>
    have houtcome := releasePrimary_outcome env primary w
    obtain ⟨hsame, -, -⟩ := houtcome.frame
    obtain ⟨l, ht, hl, hsent⟩ := houtcome.trace
    have hroutes : ∀ r, (.failover, r) ∉ sentEvents l := by
      intro r hr
      rcases hsent with ⟨-, ⟨kind, M, L, hsent⟩ | ⟨c, hsent⟩⟩ | ⟨-, kind, M, L, hsent⟩ <;>
        rw [hsent] at hr <;> simp [gapSent] at hr
    refine hw.quiet (n := 0) ht ?_ fun h => ?_
    · intro ev hev
      rcases List.mem_cons.mp hev with rfl | hev
      · trivial
      · have hrelease := hl ev hev
        cases ev with
        | sent route r =>
          cases route with
          | failover => exact hroutes r (mem_sentEvents_iff.mpr hev)
          | _ => trivial
        | switched => exact hrelease
        | _ => trivial
    · rw [hsame.secondaryQueue, hsame.nextStreamIndex, hsame.activeOutputStreamId]
      exact ⟨h, rfl, rfl⟩
  | failover force nowNs _ guard =>
    have hlogged : w.trace ++ [.failover nowNs w.engine] <+:
        (failoverLoop env force (enterFailover nowNs w).engine.secondaryQueue.ring.count
          (enterFailover nowNs w)).2.trace := failoverLoop_appends force _ (enterFailover nowNs w)
    have hcondition := (along_concat.mp (hunsent.of_prefix hlogged)).2
    refine (failoverLoop_rule (J := fun w => Consistent w ∧ Chained w) ?_ ?_ ?_ _ _
      ⟨(enterFailover_consumes nowNs w).consistent hconsistent,
        enterFailover_chained hw hcondition⟩).2
    · rintro w₁ ⟨h1, h2⟩
      refine ⟨(Stage.read w₁ : Stage env w₁ _).consistent h1, ?_⟩
      exact h2.quiet (n := 0) (l := []) (by simp [reportStatsNowNs]) (by simp) fun h => ⟨h, rfl, rfl⟩
    · rintro w₁ r s hfront ⟨h1, h2⟩
      exact ⟨(failoverSent_consumes hfront).consistent h1, failoverSent_chained hfront h1 h2⟩
    · rintro w₁ s - ⟨h1, h2⟩
      exact ⟨(setActiveOutputStream_consumes env w₁ .secondary s).consistent h1,
        setActiveOutputStream_chained h2⟩

/-- **No packet is skipped while the secondary is the output,** in a run without overflow of its
queue in which no failover, while the secondary is the output, takes the front record for sent. -/
theorem failover_consecutive {config : RecoveryEngineConfig} {sinkState : σ} {ops : List Op}
    (hno : .overflow .secondary ∉ (run env (freshWorld config sinkState) ops).trace)
    (hunsent : ∀ nowNs e, .failover nowNs e ∈ (run env (freshWorld config sinkState) ops).trace →
      e.activeOutputStreamId = .secondary → FrontUnsent e) :
    FailoverConsecutive (run env (freshWorld config sinkState) ops).trace := by
  let p : List Event → Event → Prop := fun t ev => frontUnsentAt t ev ∧ ev ≠ .overflow .secondary
  have halong : Along p (run env (freshWorld config sinkState) ops).trace := by
    rintro pre ev post h
    have hmem : ev ∈ (run env (freshWorld config sinkState) ops).trace := by simp [h]
    refine ⟨?_, fun hev => hno (hev ▸ hmem)⟩
    cases ev with
    | failover nowNs e => exact hunsent nowNs e hmem
    | _ => trivial
  have hchained : Chained (run env (freshWorld config sinkState) ops) := by
    refine (run_reachable env config sinkState ops).guarded halong
      ⟨along_nil _, .nil, by simp [freshWorld, failoverSince, sinceSwitch, queueSent]⟩ ?_
    intro w w' hstage hp hconsistent hw
    refine hstage.chained (fun hmem => ?_) (fun pre ev post h => (hp pre ev post h).1) hconsistent hw
    obtain ⟨pre, post, h⟩ := List.append_of_mem hmem
    exact (hp pre _ post h).2 rfl
  intro pre nowNs e mid post htrace hmid
  rcases List.eq_nil_or_concat mid with rfl | ⟨mid, ev, rfl⟩
  · exact .nil
  · have hlast : Consecutive (failoverSince
        ((pre ++ .switched .secondary nowNs e :: mid) ++ [ev])) :=
      hchained.always (pre ++ .switched .secondary nowNs e :: mid) ev post (by rw [htrace]; simp)
    rw [List.concat_eq_append] at hmid ⊢
    rw [failoverSince, List.append_assoc, List.cons_append, sinceSwitch_switched hmid] at hlast
    exact hlast

/-! ### A backlog that is discarded -/

/-- The primary falls silent after its first packets; the secondary waits five time units with each of
its own. One unit after the secondary has taken over, a packet of the primary moves the alignment. -/
def skippedEnv : Env Unit :=
  scriptedEnv (.replicate 11 1 ++ .replicate 4 8 ++ .replicate 12 20 ++ .replicate 2 26 ++
    .replicate 3 27 ++ [28, 29, 30]) 31

def skippedOps : List Op :=
  [.push .secondary nullPacket, .push .primary nullPacket,
    .push .secondary (pcrPacket 0x100 0 1).parse, .push .primary (pcrPacket 0x100 0 1).parse,
    .drain false,
    .push .secondary (payloadPacket 0x100 1 1).parse, .push .secondary (payloadPacket 0x100 2 2).parse,
    .push .secondary (payloadPacket 0x100 3 3).parse, .push .secondary (pcrPacket 0x100 4 5).parse,
    .drain false, .push .primary (pcrPacket 0x100 4 5).parse,
    .drain false, .drain false, .drain false, .drain false]

def skippedWorld : World Unit :=
  run skippedEnv
    (freshWorld { promptConfig with primaryDelayNs := 5, primaryOutageNs := 10, primaryReturnNs := 1000 } ())
    skippedOps

/-- No queue has overflowed. -/
def noOverflow (trace : List Event) : Bool :=
  trace.all fun
    | .overflow _ => false
    | _ => true

theorem not_mem_of_noOverflow {t : List Event} (h : noOverflow t = true) (streamId : StreamId) :
    .overflow streamId ∉ t := by
  intro hmem
  simpa using List.all_eq_true.mp h _ hmem

/-- A way to see that failover has skipped a record after the only switch. -/
theorem not_failoverConsecutive {t : List Event} {nowNs : ℕ}
    (hswitches : switches t = [(.secondary, nowNs)])
    (hskipped : ¬ Consecutive (queueSent .secondary t))
    (hbefore : queueSent .secondary (t.takeWhile fun ev => !ev.isSwitch) = []) :
    ¬ FailoverConsecutive t := by
  obtain ⟨pre, e, mid, rfl, hpre, hmid⟩ := exists_of_switches (L := []) hswitches
  have hquiet : ∀ ev ∈ pre, (!ev.isSwitch) = true := fun ev hev => by
    rw [isSwitch_of_switches hpre ev hev]
    rfl
  rw [List.takeWhile_append_of_pos hquiet, List.takeWhile_cons_of_neg (by simp [Event.isSwitch]),
    List.append_nil] at hbefore
  intro h
  refine hskipped ?_
  have hnone : queueSent .secondary [Event.switched .secondary nowNs e] = [] := rfl
  rw [← List.singleton_append, queueSent_append, queueSent_append, hbefore, hnone]
  exact h pre nowNs e mid [] (by simp) hmid

/-- The secondary records 3 and 4 are never sent. -/
theorem failover_skips :
    noOverflow skippedWorld.trace = true ∧ switches skippedWorld.trace = [(.secondary, 26)] ∧
      (queueSent .secondary skippedWorld.trace).map (·.streamIndex) = [2, 5] ∧
      ¬ FailoverConsecutive skippedWorld.trace := by
  have hswitches : switches skippedWorld.trace = [(.secondary, 26)] := by decide +kernel
  exact ⟨by decide +kernel, hswitches, by decide +kernel,
    not_failoverConsecutive hswitches (by decide +kernel) (by decide +kernel)⟩

/-- Without the late primary packet all of them are. -/
theorem failover_consecutive_without :
    let w := run skippedEnv
      (freshWorld { promptConfig with primaryDelayNs := 5, primaryOutageNs := 10, primaryReturnNs := 1000 } ())
      (skippedOps.take 10 ++ .replicate 3 (.drain false))
    (queueSent .secondary w.trace).map (·.streamIndex) = [2, 3, 4, 5] ∧
      FailoverConsecutive w.trace := by
  generalize hw : run skippedEnv
    (freshWorld { promptConfig with primaryDelayNs := 5, primaryOutageNs := 10, primaryReturnNs := 1000 } ())
    (skippedOps.take 10 ++ .replicate 3 (.drain false)) = w
  have hunsent : w.trace.all (fun
      | .failover _ e => decide (e.activeOutputStreamId = .secondary → FrontUnsent e)
      | _ => true) = true := by
    rw [← hw]
    decide +kernel
  have hno : noOverflow w.trace = true := by
    rw [← hw]
    decide +kernel
  subst hw
  exact ⟨by decide +kernel, failover_consecutive (not_mem_of_noOverflow hno _)
    fun nowNs e h => of_decide_eq_true (List.all_eq_true.mp hunsent _ h)⟩

end TwoStream
