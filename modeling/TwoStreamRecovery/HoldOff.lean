import TwoStreamRecovery.Failover

/-!
# The hold-off before the return to the primary

* `drainsSince`, `switchTime`: the drains since the last switch, and when it was.
* `ReturnHeldOff`: what the hold-off is for.
* `holdOffAt`: the condition on the events of a run; `return_held_off`: runs that meet it are held off.
-/

namespace TwoStream

open Relation

variable {σ : Type} {env : Env σ} {w w' : World σ}

/-! ### Drains and switches of a trace -/

/-- The drains of a trace: their first clock reading, and the engine then. -/
def drains (trace : List Event) : List (ℕ × RecoveryEngine) :=
  trace.filterMap fun
    | .drain nowNs e => some (nowNs, e)
    | _ => none

/-- The drains since the last switch. -/
def drainsSince (trace : List Event) : List (ℕ × RecoveryEngine) := drains (sinceSwitch trace)

/-- When the last switch was. -/
def switchTime (trace : List Event) : ℕ := ((switches trace).getLast?.map Prod.snd).getD 0

/-- An event that is neither a switch nor a drain. -/
def Event.Calm : Event → Prop
  | .switched _ _ _ => False
  | .drain _ _ => False
  | _ => True

theorem Event.Calm.isSwitch {ev : Event} (h : ev.Calm) : ev.isSwitch = false := by
  cases ev <;> simp_all [Event.Calm, Event.isSwitch]

theorem switches_of_calm {l : List Event} (h : ∀ ev ∈ l, ev.isSwitch = false) : switches l = [] := by
  refine List.filterMap_eq_nil_iff.mpr fun ev hev => ?_
  have := h ev hev
  cases ev <;> simp_all [Event.isSwitch]

theorem drains_of_calm {l : List Event} (h : ∀ ev ∈ l, ev.Calm) : drains l = [] := by
  refine List.filterMap_eq_nil_iff.mpr fun ev hev => ?_
  have := h ev hev
  cases ev <;> simp_all [Event.Calm]

theorem mem_drains {t : List Event} {nowNs : ℕ} {e : RecoveryEngine} :
    (nowNs, e) ∈ drains t ↔ .drain nowNs e ∈ t := by
  rw [drains, List.mem_filterMap]
  constructor
  · rintro ⟨ev, hev, h⟩
    cases ev <;> simp_all
  · exact fun h => ⟨_, h, rfl⟩

section Append

variable {t l : List Event} {nowNs : ℕ} {e : RecoveryEngine} {streamId : StreamId}

theorem drainsSince_calm (h : ∀ ev ∈ l, ev.Calm) : drainsSince (t ++ l) = drainsSince t := by
  rw [drainsSince, sinceSwitch_append fun ev hev => (h ev hev).isSwitch, drains,
    List.filterMap_append]
  have hnone := drains_of_calm h
  rw [drains] at hnone
  rw [hnone, List.append_nil]
  rfl

theorem switchTime_append (h : ∀ ev ∈ l, ev.isSwitch = false) :
    switchTime (t ++ l) = switchTime t := by
  have hnone := switches_of_calm h
  rw [switches] at hnone
  rw [switchTime, switches, List.filterMap_append, hnone, List.append_nil]
  rfl

theorem drainsSince_drain :
    drainsSince (t ++ [.drain nowNs e]) = drainsSince t ++ [(nowNs, e)] := by
  rw [drainsSince, sinceSwitch_concat, if_neg (by simp [Event.isSwitch]), drains,
    List.filterMap_append]
  rfl

theorem drainsSince_switched : drainsSince (t ++ [.switched streamId nowNs e]) = [] := by
  rw [drainsSince, sinceSwitch_concat]
  rfl

theorem switchTime_switched : switchTime (t ++ [.switched streamId nowNs e]) = nowNs := by
  rw [switchTime, switches, List.filterMap_append]
  simp

end Append

/-! ### The hold-off -/

/-- The primary has been heard within `outageNs` before `nowNs`. -/
def HeardWithin (outageNs nowNs : ℕ) (e : RecoveryEngine) : Prop :=
  e.lastInputArrivalNs .primary ≠ 0 ∧ nowNs - e.lastInputArrivalNs .primary < outageNs

/-- The output returns to the primary `primaryReturnNs` after it has left it at the earliest, and
every drain of this last stretch has heard the primary. -/
def ReturnHeldOff (config : RecoveryEngineConfig) (trace : List Event) : Prop :=
  ∀ pre leftNs e₀ mid backNs e₁ post,
    trace = pre ++ .switched .secondary leftNs e₀ :: mid ++ .switched .primary backNs e₁ :: post →
    switches mid = [] →
    leftNs + config.primaryReturnNs ≤ backNs ∧
      ∀ nowNs e, .drain nowNs e ∈ mid → backNs ≤ nowNs + config.primaryReturnNs →
        HeardWithin config.primaryOutageNs nowNs e

/-- The condition on the events of a run: no hold-off is running when the output leaves the primary,
and none is started at a clock reading at which an earlier drain has found the primary silent. -/
def holdOffAt (pre : List Event) : Event → Prop
  | .switched .secondary _ e => e.primaryReturnStartNs = 0
  | .drain nowNs e =>
    e.activeOutputStreamId = .secondary → e.primaryReturnStartNs = 0 →
      primaryIsSilentBeyondOutage e nowNs = false →
      ∀ d ∈ drainsSince pre, d.1 = nowNs → primaryIsSilentBeyondOutage d.2 nowNs = false
  | _ => True

instance : ∀ pre ev, Decidable (holdOffAt pre ev)
  | _, .switched .secondary _ e => inferInstanceAs (Decidable (e.primaryReturnStartNs = 0))
  | pre, .drain nowNs e =>
    inferInstanceAs (Decidable (e.activeOutputStreamId = .secondary → e.primaryReturnStartNs = 0 →
      primaryIsSilentBeyondOutage e nowNs = false →
      ∀ d ∈ drainsSince pre, d.1 = nowNs → primaryIsSilentBeyondOutage d.2 nowNs = false))
  | _, .switched .primary _ _ => .isTrue trivial
  | _, .pushed _ => .isTrue trivial
  | _, .overflow _ => .isTrue trivial
  | _, .release _ => .isTrue trivial
  | _, .failover _ _ => .isTrue trivial
  | _, .sent _ _ => .isTrue trivial
  | _, .anchored _ _ => .isTrue trivial
  | _, .decision _ => .isTrue trivial

/-- The engine runs with these times. -/
def HasTimes (config : RecoveryEngineConfig) (e : RecoveryEngine) : Prop :=
  e.config.primaryOutageNs = config.primaryOutageNs ∧
    e.config.primaryReturnNs = config.primaryReturnNs

/-- Failover is configured and both inputs have been heard. -/
structure Live (config : RecoveryEngineConfig) (e : RecoveryEngine) : Prop where
  times : HasTimes config e
  outage : config.primaryOutageNs ≠ 0
  arrivals : ∀ s, e.lastInputArrivalNs s ≠ 0

/-- What the hold-off keeps track of while the secondary is the output. -/
structure HoldOff (config : RecoveryEngineConfig) (env : Env σ) (w : World σ) : Prop where
  live : Live config w.engine
  left : switchTime w.trace ≤ w.lastReading env
  drains : ∀ d ∈ drainsSince w.trace, d.1 ≤ w.lastReading env ∧ Live config d.2
  started : w.engine.primaryReturnStartNs ≠ 0 →
    switchTime w.trace ≤ w.engine.primaryReturnStartNs ∧
      w.engine.primaryReturnStartNs ≤ w.lastReading env ∧
      ∀ d ∈ drainsSince w.trace, w.engine.primaryReturnStartNs ≤ d.1 →
        primaryIsSilentBeyondOutage d.2 d.1 = false

/-- A return to the primary is held off, given the events before it. -/
def returnAt (config : RecoveryEngineConfig) (pre : List Event) : Event → Prop
  | .switched .primary backNs _ =>
    switchTime pre + config.primaryReturnNs ≤ backNs ∧
      ∀ d ∈ drainsSince pre, backNs ≤ d.1 + config.primaryReturnNs →
        HeardWithin config.primaryOutageNs d.1 d.2
  | _ => True

/-- The invariant. -/
structure HeldOff (config : RecoveryEngineConfig) (env : Env σ) (w : World σ) : Prop where
  times : HasTimes config w.engine
  always : Along (returnAt config) w.trace
  now : w.engine.activeOutputStreamId = .secondary → HoldOff config env w

/-! ### Silence -/

theorem live_of_silent {config : RecoveryEngineConfig} {e : RecoveryEngine} {nowNs : ℕ}
    (htimes : HasTimes config e) (h : primaryIsSilentBeyondOutage e nowNs = true) : Live config e := by
  simp only [primaryIsSilentBeyondOutage] at h
  split_ifs at h with h1 h2 h3
  simp only [Bool.or_eq_true, decide_eq_true_eq, not_or] at h1
  refine ⟨htimes, htimes.1 ▸ h1.1, fun s => ?_⟩
  cases s with
  | primary => exact h2
  | secondary => exact h1.2

theorem heardWithin_of_not_silent {config : RecoveryEngineConfig} {e : RecoveryEngine} {nowNs : ℕ}
    (hlive : Live config e) (h : primaryIsSilentBeyondOutage e nowNs = false) :
    HeardWithin config.primaryOutageNs nowNs e := by
  have hprimary := hlive.arrivals .primary
  have hsecondary := hlive.arrivals .secondary
  have houtage := hlive.outage
  refine ⟨hprimary, ?_⟩
  simp only [primaryIsSilentBeyondOutage, hlive.times.1] at h
  rw [if_neg (by simp [houtage, hsecondary]), if_neg hprimary] at h
  split_ifs at h with h1
  · omega
  · have := of_decide_eq_false h
    omega

/-- How a drain moves the start of the hold-off. -/
theorem holdoff_start {e : RecoveryEngine} {nowNs : ℕ} (hactive : e.activeOutputStreamId = .secondary) :
    (primaryReturnHoldoffElapsed e nowNs).2.primaryReturnStartNs = 0 ∨
      primaryIsSilentBeyondOutage e nowNs = false ∧
        (e.primaryReturnStartNs = 0 ∧
            (primaryReturnHoldoffElapsed e nowNs).2.primaryReturnStartNs = nowNs ∨
          e.primaryReturnStartNs ≠ 0 ∧
            (primaryReturnHoldoffElapsed e nowNs).2.primaryReturnStartNs = e.primaryReturnStartNs) := by
  unfold primaryReturnHoldoffElapsed
  rw [if_neg (by simp [hactive])]
  by_cases hsilent : primaryIsSilentBeyondOutage e nowNs = true
  · rw [if_pos hsilent]
    exact .inl rfl
  · rw [if_neg hsilent]
    by_cases harrived : e.lastInputArrivalNs .primary = 0
    · rw [if_pos harrived]
      exact .inl rfl
    · rw [if_neg harrived]
      refine .inr ⟨by simpa using hsilent, ?_⟩
      by_cases hstart : e.primaryReturnStartNs = 0
      · simp [hstart]
      · simp [hstart]

/-! ### Steps -/

/-- Calm events; the engine's times, arrivals and hold-off are as before or later. -/
theorem HeldOff.calm {config : RecoveryEngineConfig} {l : List Event} (hw : HeldOff config env w)
    (ht : w'.trace = w.trace ++ l) (hl : ∀ ev ∈ l, ev.Calm)
    (hconfig : w'.engine.config = w.engine.config)
    (hactive : w'.engine.activeOutputStreamId = w.engine.activeOutputStreamId)
    (hstart : w'.engine.primaryReturnStartNs = w.engine.primaryReturnStartNs)
    (harrivals : ∀ s, w.engine.lastInputArrivalNs s ≠ 0 → w'.engine.lastInputArrivalNs s ≠ 0)
    (hreading : w.lastReading env ≤ w'.lastReading env) : HeldOff config env w' := by
  have htimes : HasTimes config w'.engine := by
    rw [HasTimes, hconfig]
    exact hw.times
  have hswitch : switchTime w'.trace = switchTime w.trace := by
    rw [ht, switchTime_append fun ev hev => (hl ev hev).isSwitch]
  have hdrains : drainsSince w'.trace = drainsSince w.trace := by rw [ht, drainsSince_calm hl]
  refine ⟨htimes, ?_, fun hsecondary => ?_⟩
  · rw [ht]
    refine hw.always.append fun pre ev post h => ?_
    have hcalm : ev.Calm := hl ev (by simp [h])
    cases ev with
    | switched => exact absurd hcalm id
    | _ => trivial
  · rw [hactive] at hsecondary
    obtain ⟨hlive, hleft, hpast, hstarted⟩ := hw.now hsecondary
    refine ⟨⟨htimes, hlive.outage, fun s => harrivals s (hlive.arrivals s)⟩, ?_, ?_, ?_⟩
    · rw [hswitch]
      exact hleft.trans hreading
    · rw [hdrains]
      exact fun d hd => ⟨(hpast d hd).1.trans hreading, (hpast d hd).2⟩
    · rw [hswitch, hdrains, hstart]
      intro h0
      obtain ⟨h1, h2, h3⟩ := hstarted h0
      exact ⟨h1, h2.trans hreading, h3⟩

/-- Opening a drain restarts the hold-off, starts it or lets it run. -/
theorem HeldOff.drained {config : RecoveryEngineConfig} (hclock : Monotone env.clock)
    (hw : HeldOff config env w)
    (hcondition : holdOffAt w.trace (.drain (env.clock w.reads) w.engine))
    (ht : w'.trace = w.trace ++ [.drain (env.clock w.reads) w.engine])
    (hreads : w'.reads = w.reads + 1) (hconfig : w'.engine.config = w.engine.config)
    (hactive : w'.engine.activeOutputStreamId = w.engine.activeOutputStreamId)
    (harrivals : w'.engine.lastInputArrivalNs = w.engine.lastInputArrivalNs)
    (hstart : w'.engine.primaryReturnStartNs =
      (primaryReturnHoldoffElapsed w.engine (env.clock w.reads)).2.primaryReturnStartNs) :
    HeldOff config env w' := by
  have htimes : HasTimes config w'.engine := by
    rw [HasTimes, hconfig]
    exact hw.times
  have hnow : w'.lastReading env = env.clock w.reads := by
    rw [World.lastReading, hreads, Nat.add_sub_cancel]
  have hreading : w.lastReading env ≤ env.clock w.reads := hclock (Nat.sub_le _ _)
  refine ⟨htimes, ?_, fun hsecondary => ?_⟩
  · rw [ht, along_concat]
    exact ⟨hw.always, trivial⟩
  · rw [hactive] at hsecondary
    obtain ⟨hlive, hleft, hpast, hstarted⟩ := hw.now hsecondary
    have hswitch : switchTime w'.trace = switchTime w.trace := by
      rw [ht, switchTime_append (by simp [Event.isSwitch])]
    have hdrains : drainsSince w'.trace =
        drainsSince w.trace ++ [(env.clock w.reads, w.engine)] := by
      rw [ht, drainsSince_drain]
    refine ⟨⟨htimes, hlive.outage, by rw [harrivals]; exact hlive.arrivals⟩, ?_, ?_, ?_⟩
    · rw [hswitch, hnow]
      exact hleft.trans hreading
    · rw [hdrains, hnow]
      intro d hd
      rcases List.mem_append.mp hd with hd | hd
      · exact ⟨(hpast d hd).1.trans hreading, (hpast d hd).2⟩
      · obtain rfl := List.mem_singleton.mp hd
        exact ⟨le_rfl, hlive⟩
    · rw [hswitch, hdrains, hnow, hstart]
      intro h0
      rcases holdoff_start hsecondary with hzero | ⟨hheard, ⟨hfirst, hstart⟩ | ⟨hrunning, hstart⟩⟩
      · exact absurd hzero h0
      · -- the hold-off starts now, so no earlier drain is later
        rw [hstart]
        refine ⟨hleft.trans hreading, le_rfl, fun d hd hle => ?_⟩
        rcases List.mem_append.mp hd with hd | hd
        · have heq : d.1 = env.clock w.reads := le_antisymm ((hpast d hd).1.trans hreading) hle
          rw [heq]
          exact hcondition hsecondary hfirst hheard d hd heq
        · obtain rfl := List.mem_singleton.mp hd
          exact hheard
      · rw [hstart]
        obtain ⟨h1, h2, h3⟩ := hstarted hrunning
        refine ⟨h1, h2.trans hreading, fun d hd hle => ?_⟩
        rcases List.mem_append.mp hd with hd | hd
        · exact h3 d hd hle
        · obtain rfl := List.mem_singleton.mp hd
          exact hheard

/-- The output leaves the primary. -/
theorem leave_heldOff {config : RecoveryEngineConfig} {s : σ}
    (hcondition : Along holdOffAt (setActiveOutputStream env w .secondary).trace)
    (hlive : Live config w.engine) (hw : HeldOff config env w) :
    HeldOff config env { setActiveOutputStream env w .secondary with sinkState := s } := by
  have he := setActiveOutputStream_engine env w .secondary
  obtain ⟨l, ht, ⟨rfl, hactive⟩ | ⟨rfl, -⟩⟩ := setActiveOutputStream_trace env w .secondary
  · refine hw.calm (l := []) ht (by simp) ?_ ?_ ?_ (fun s h => ?_) (le_of_eq ?_)
    · simp only [he]
    · simp only [he, hactive]
    · simp only [he]
    · simp only [he]
      exact h
    · simp only [World.lastReading, setActiveOutputStream_reads]
  · rw [ht, along_concat] at hcondition
    have hstart : w.engine.primaryReturnStartNs = 0 := hcondition.2
    refine ⟨?_, ?_, fun _ => ⟨?_, ?_, ?_, fun h0 => ?_⟩⟩
    · simp only [he]
      exact hw.times
    · simp only [ht, along_concat]
      exact ⟨hw.always, trivial⟩
    · simp only [he]
      exact ⟨hlive.times, hlive.outage, hlive.arrivals⟩
    · simp only [ht, switchTime_switched, World.lastReading, setActiveOutputStream_reads]
      exact le_rfl
    · simp only [ht, drainsSince_switched]
      simp
    · simp only [he] at h0
      exact absurd hstart h0

/-- The output returns to the primary once the hold-off is over. -/
theorem return_heldOff {config : RecoveryEngineConfig} (hpos : ∀ n, 0 < env.clock n)
    (hready : w.engine.activeOutputStreamId = .secondary →
      ReturnElapsed w.engine (w.lastReading env)) (hw : HeldOff config env w) :
    HeldOff config env (setActiveOutputStream env w .primary) := by
  have he := setActiveOutputStream_engine env w .primary
  refine ⟨?_, ?_, fun hsecondary => ?_⟩
  · rw [he]
    exact hw.times
  · obtain ⟨l, ht, ⟨rfl, -⟩ | ⟨rfl, hactive⟩⟩ := setActiveOutputStream_trace env w .primary
    · rw [ht, List.append_nil]
      exact hw.always
    · have hsecondary : w.engine.activeOutputStreamId = .secondary := by
        cases h : w.engine.activeOutputStreamId with
        | primary => exact absurd h hactive
        | secondary => rfl
      obtain ⟨hlive, hleft, hpast, hstarted⟩ := hw.now hsecondary
      have helapsed := hready hsecondary
      have hreading : 0 < w.lastReading env := hpos _
      have hrunning : w.engine.primaryReturnStartNs ≠ 0 := by
        intro h0
        have := helapsed.started h0
        omega
      obtain ⟨h1, h2, h3⟩ := hstarted hrunning
      have hreturn := helapsed.elapsed.trans (elapsedNs_le (by omega))
      rw [hw.times.2] at hreturn
      rw [ht, along_concat]
      refine ⟨hw.always, by omega, fun d hd hlate => ?_⟩
      exact heardWithin_of_not_silent (hpast d hd).2 (h3 d hd (by omega))
  · rw [he] at hsecondary
    cases hsecondary

theorem failoverSent_heldOff {config : RecoveryEngineConfig} {r : PacketRecord} {s : σ}
    (hcondition : Along holdOffAt (failoverSent env w r s).trace) (hlive : Live config w.engine)
    (hw : HeldOff config env w) :
    HeldOff config env (failoverSent env w r s) ∧ Live config (failoverSent env w r s).engine := by
  have he := setActiveOutputStream_engine env w .secondary
  rw [failoverSent_trace] at hcondition
  have hleft : HeldOff config env { setActiveOutputStream env w .secondary with sinkState := s } :=
    leave_heldOff hcondition.append_left hlive hw
  refine ⟨hleft.calm (failoverSent_trace w r s) (by simp [Event.Calm]) ?_ ?_ ?_ (fun s h => ?_)
    (le_of_eq ?_), ?_⟩
  · simp only [failoverSent_engine, he]
  · simp only [failoverSent_engine, he]
  · simp only [failoverSent_engine, he]
  · simp only [he] at h
    simp only [failoverSent_engine]
    exact h
  · simp only [World.lastReading, failoverSent, acceptRecord_reads, setActiveOutputStream_reads]
  · rw [failoverSent_engine]
    exact ⟨hlive.times, hlive.outage, hlive.arrivals⟩

theorem Stage.heldOff {config : RecoveryEngineConfig} (hclock : Monotone env.clock)
    (hpos : ∀ n, 0 < env.clock n) (h : Stage env w w') (hcondition : Along holdOffAt w'.trace)
    (hw : HeldOff config env w) : HeldOff config env w' := by
  cases h with
  | ingest streamId p =>
    have hingested := pushIngest_ingested env streamId p w
    obtain ⟨a, i, primaryQueue, secondaryQueue, he⟩ := hingested.engine
    obtain ⟨l, ht, hl, -⟩ := hingested.trace
    refine hw.calm ht ?_ (by rw [he]) (by rw [he]) (by rw [he]) (fun s h => ?_) ?_
    · intro ev hev
      rcases List.mem_cons.mp hev with rfl | hev
      · trivial
      · rcases hl ev hev with ⟨d, rfl⟩ | rfl <;> trivial
    · rw [he]
      simp only [Function.update_apply]
      split
      · exact (hpos _).ne'
      · exact h
    · rw [World.lastReading, World.lastReading, hingested.reads]
      exact hclock (by omega)
  | sink s =>
    exact hw.calm (l := []) (by simp) (by simp) rfl rfl rfl (fun _ h => h) le_rfl
  | read =>
    refine hw.calm (l := []) (by simp [reportStatsNowNs]) (by simp) rfl rfl rfl (fun _ h => h) ?_
    exact hclock (by simp only [reportStatsNowNs]; omega)
  | wait _ idle =>
    rw [openDrain_trace, along_concat] at hcondition
    obtain ⟨start, he⟩ := openDrain_engine env w
    exact hw.drained hclock hcondition.2 (openDrain_trace w) rfl (by rw [he]) (by rw [he]) (by rw [he])
      rfl
  | discard _ nonempty ready =>
    rw [discardDrain_trace, along_concat] at hcondition
    obtain ⟨start, ring, he, -⟩ := discardDrain_engine env w
    exact hw.drained hclock hcondition.2 (discardDrain_trace w) rfl (by rw [he]) (by rw [he])
      (by rw [he]) rfl
  | takeOver _ ready => exact return_heldOff hpos ready hw
  | release primary _ front active =>
    have houtcome := releasePrimary_outcome env primary w
    obtain ⟨hsame, hreads, -⟩ := houtcome.frame
    obtain ⟨l, ht, hl, -⟩ := houtcome.trace
    refine hw.calm ht ?_ hsame.config hsame.activeOutputStreamId hsame.primaryReturnStartNs
      (fun s h => ?_) (le_of_eq ?_)
    · intro ev hev
      rcases List.mem_cons.mp hev with rfl | hev
      · trivial
      · have hrelease := hl ev hev
        cases ev with
        | switched => exact hrelease
        | drain => exact hrelease
        | _ => trivial
    · rw [hsame.lastInputArrivalNs]
      exact h
    · rw [World.lastReading, World.lastReading, hreads]
  | failover force nowNs _ guard =>
    have hlive : Live config w.engine := by
      rcases guard.outage with hsecondary | ⟨hsilent, -⟩
      · exact (hw.now hsecondary).live
      · exact live_of_silent hw.times hsilent
    obtain ⟨ring, he, -⟩ := discardSecondary_engine w.engine
    refine (failoverLoop_rule
      (J := fun w₁ => Along holdOffAt w₁.trace → HeldOff config env w₁ ∧ Live config w₁.engine)
      ?_ ?_ ?_ _ _ ?_ hcondition).1
    · intro w₁ hw₁ hp
      obtain ⟨h1, h2⟩ := hw₁ hp
      refine ⟨h1.calm (l := []) (by simp [reportStatsNowNs]) (by simp) rfl rfl rfl (fun _ h => h)
        (hclock (by simp only [reportStatsNowNs]; omega)), h2⟩
    · intro w₁ r s _ hw₁ hp
      obtain ⟨h1, h2⟩ := hw₁ (hp.of_prefix (failoverSent_appends w₁ r s))
      exact failoverSent_heldOff hp h2 h1
    · intro w₁ s _ hw₁ hp
      obtain ⟨h1, h2⟩ := hw₁ (hp.of_prefix (setActiveOutputStream_appends w₁ .secondary))
      refine ⟨leave_heldOff hp h2 h1, ?_⟩
      simp only [setActiveOutputStream_engine]
      exact ⟨h2.times, h2.outage, h2.arrivals⟩
    · intro _
      constructor
      · refine hw.calm (l := [.failover nowNs w.engine]) rfl (by simp [Event.Calm]) ?_ ?_ ?_
          (fun s h => ?_) le_rfl
        · simp only [enterFailover, he]
        · simp only [enterFailover, he]
        · simp only [enterFailover, he]
        · simp only [enterFailover, he]
          exact h
      · simp only [enterFailover, he]
        exact ⟨hlive.times, hlive.outage, hlive.arrivals⟩

/-- **The return to the primary respects the hold-off** in every run, under a nondecreasing positive
clock, whose events meet `holdOffAt`. -/
theorem return_held_off {config : RecoveryEngineConfig} {sinkState : σ} {ops : List Op}
    (hclock : Monotone env.clock) (hpos : ∀ n, 0 < env.clock n)
    (hcondition : Along holdOffAt (run env (freshWorld config sinkState) ops).trace) :
    ReturnHeldOff config (run env (freshWorld config sinkState) ops).trace := by
  have hheld : HeldOff config env (run env (freshWorld config sinkState) ops) := by
    refine (run_reachable env config sinkState ops).guarded hcondition ⟨⟨rfl, rfl⟩, along_nil _, ?_⟩
      fun _ _ hstage hp _ hw => hstage.heldOff hclock hpos hp hw
    intro hsecondary
    cases hsecondary
  intro pre leftNs e₀ mid backNs e₁ post htrace hmid
  have hquiet := isSwitch_of_switches hmid
  have hreturn : returnAt config (pre ++ .switched .secondary leftNs e₀ :: mid)
      (.switched .primary backNs e₁) := hheld.always _ _ post (by rw [htrace])
  have htime : switchTime (pre ++ .switched .secondary leftNs e₀ :: mid) = leftNs := by
    have hsplit : pre ++ .switched .secondary leftNs e₀ :: mid =
        (pre ++ [.switched .secondary leftNs e₀]) ++ mid := by simp
    rw [hsplit, switchTime_append hquiet, switchTime_switched]
  have hdrains : drainsSince (pre ++ .switched .secondary leftNs e₀ :: mid) = drains mid := by
    rw [drainsSince, sinceSwitch_switched hmid]
  obtain ⟨hback, hheard⟩ := hreturn
  rw [htime] at hback
  rw [hdrains] at hheard
  exact ⟨hback, fun nowNs e hmem hlate => hheard (nowNs, e) (mem_drains.mpr hmem) hlate⟩

/-! ### A return without hold-off -/

/-- The output leaves the primary at 20 and returns at 121; the same drain then finds the primary
silent and leaves it again, with the old hold-off still running. -/
def hastyEnv : Env Unit :=
  scriptedEnv (.replicate 12 1 ++ [20, 20] ++ [21, 21, 21] ++ [121, 121, 121, 121, 140, 140]) 141

def hastyConfig : RecoveryEngineConfig :=
  { promptConfig with primaryOutageNs := 10, primaryReturnNs := 100 }

def hastyOps : List Op :=
  .replicate 4 (.push .secondary nullPacket) ++
    [.push .primary nullPacket, .drain false, .push .primary nullPacket, .push .primary nullPacket,
      .push .primary nullPacket]

def hastyWorld : World Unit := run hastyEnv (freshWorld hastyConfig ()) hastyOps

/-- The output is back at the primary one time unit after it has left it. -/
theorem return_too_early :
    Monotone hastyEnv.clock ∧ (∀ n, 0 < hastyEnv.clock n) ∧
      switches hastyWorld.trace =
        [(.secondary, 20), (.primary, 121), (.secondary, 140), (.primary, 141)] ∧
      ¬ ReturnHeldOff hastyConfig hastyWorld.trace := by
  have hswitches : switches hastyWorld.trace =
      [(.secondary, 20), (.primary, 121), (.secondary, 140), (.primary, 141)] := by decide +kernel
  refine ⟨scriptedEnv_monotone (by decide), scriptedEnv_pos (by decide), hswitches, fun h => ?_⟩
  obtain ⟨pre, e₀, rest, hpre, -, hrest⟩ :=
    exists_of_switches (L := [(.secondary, 20), (.primary, 121)]) hswitches
  obtain ⟨mid, e₁, post, hmid, hquiet, -⟩ := exists_of_switches (L := []) hrest
  have hback := (h pre 140 e₀ mid 141 e₁ post (by rw [hpre, hmid]; simp) hquiet).1
  simp [hastyConfig] at hback

/-- With the primary heard in time the output stays there. -/
theorem return_held_off_once :
    let env := scriptedEnv (.replicate 12 1 ++ [20, 20] ++ [21, 21, 21]) 121
    let w := run env (freshWorld hastyConfig ()) (hastyOps.take 8)
    switches w.trace = [(.secondary, 20), (.primary, 121)] ∧ ReturnHeldOff hastyConfig w.trace :=
  ⟨by decide +kernel, return_held_off (scriptedEnv_monotone (by decide)) (scriptedEnv_pos (by decide))
    (by decide +kernel)⟩

end TwoStream
