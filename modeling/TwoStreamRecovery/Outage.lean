import TwoStreamRecovery.HoldOff

/-!
# Failover only on an outage

* `activeStream`: the output after the events of a trace.
* `RealOutage`: what stands behind a switch to the secondary.
* `failover_on_outage`: in every run the output leaves the primary on real outages only, failover
  sends only while the secondary is the output, and the switches are counted.
-/

namespace TwoStream

open Relation

variable {σ : Type} {env : Env σ} {w w' : World σ} {config : RecoveryEngineConfig}

/-! ### The output of a trace -/

/-- The output after the events of a trace. -/
def activeStream (trace : List Event) : StreamId :=
  ((switches trace).getLast?.map Prod.fst).getD .primary

/-- When the latest packet of a stream arrived. -/
def latestArrival (streamId : StreamId) (trace : List Event) : Option ℕ :=
  (pushedRecords streamId trace).getLast?.map (·.arrivalTimeNs)

theorem activeStream_append {t l : List Event} (h : ∀ ev ∈ l, ev.isSwitch = false) :
    activeStream (t ++ l) = activeStream t := by
  have hnone := switches_of_calm h
  rw [switches] at hnone
  rw [activeStream, switches, List.filterMap_append, hnone, List.append_nil]
  rfl

theorem activeStream_switched {t : List Event} {streamId : StreamId} {nowNs : ℕ}
    {e : RecoveryEngine} : activeStream (t ++ [.switched streamId nowNs e]) = streamId := by
  rw [activeStream, switches, List.filterMap_append]
  simp

/-- What stands behind a switch to the secondary at `nowNs`, with the engine `e` before it. -/
structure RealOutage (config : RecoveryEngineConfig) (pre : List Event) (nowNs : ℕ)
    (e : RecoveryEngine) : Prop where
  configured : config.primaryOutageNs ≠ 0
  delivered : ∀ s, pushedRecords s pre ≠ []
  drained : e.primaryQueue.toList = []
  silent : ∃ arrivalNs, latestArrival .primary pre = some arrivalNs ∧
    arrivalNs + config.primaryOutageNs ≤ nowNs

/-- What every event of a run meets, given the events before it. -/
def outageAt (config : RecoveryEngineConfig) (pre : List Event) : Event → Prop
  | .switched .secondary nowNs e => activeStream pre = .primary ∧ RealOutage config pre nowNs e
  | .sent .failover _ => activeStream pre = .secondary
  | .sent .passThrough r => r.sourceStreamId = .primary
  | _ => True

/-- The engine and the counters agree with the trace about the output and the arrivals. -/
structure Watched (config : RecoveryEngineConfig) (w : World σ) : Prop where
  outage : w.engine.config.primaryOutageNs = config.primaryOutageNs
  always : Along (outageAt config) w.trace
  active : w.engine.activeOutputStreamId = activeStream w.trace
  reported : w.stats.activeOutputStreamId = w.engine.activeOutputStreamId
  counted : w.stats.sourceSwitches .secondary = w.stats.sourceSwitches .primary +
    if w.engine.activeOutputStreamId = .secondary then 1 else 0
  arrivals : ∀ s, w.engine.lastInputArrivalNs s = (latestArrival s w.trace).getD 0

/-! ### Steps -/

/-- Events without a switch or a failover. -/
theorem Watched.quiet {l : List Event} (hw : Watched config w) (ht : w'.trace = w.trace ++ l)
    (hl : ∀ ev ∈ l, ev.isSwitch = false)
    (hsent : ∀ route r, .sent route r ∈ l →
      route ≠ .failover ∧ (route = .passThrough → r.sourceStreamId = .primary))
    (hconfig : w'.engine.config = w.engine.config)
    (hactive : w'.engine.activeOutputStreamId = w.engine.activeOutputStreamId)
    (hstats : w'.stats.switching = w.stats.switching)
    (harrivals : ∀ s, w'.engine.lastInputArrivalNs s = (latestArrival s w'.trace).getD 0) :
    Watched config w' := by
  have hswitches : w'.stats.sourceSwitches = w.stats.sourceSwitches := congrArg Prod.fst hstats
  have hreported : w'.stats.activeOutputStreamId = w.stats.activeOutputStreamId :=
    congrArg Prod.snd hstats
  refine ⟨by rw [hconfig]; exact hw.outage, ?_, ?_, ?_, ?_, harrivals⟩
  · rw [ht]
    refine hw.always.append fun pre ev post h => ?_
    have hmem : ev ∈ l := by simp [h]
    have hno := hl ev hmem
    cases ev with
    | switched => simp [Event.isSwitch] at hno
    | sent route r =>
      obtain ⟨hfailover, hsource⟩ := hsent route r hmem
      cases route with
      | failover => exact absurd rfl hfailover
      | passThrough => exact hsource rfl
      | _ => trivial
    | _ => trivial
  · rw [hactive, hw.active, ht, activeStream_append hl]
  · rw [hreported, hactive, hw.reported]
  · rw [hswitches, hactive, hw.counted]

/-- Arrivals of a stage that pushes nothing. -/
theorem Watched.arrivals_of_consumes (hw : Watched config w) (h : Consumes w w') (s : StreamId) :
    w'.engine.lastInputArrivalNs s = (latestArrival s w'.trace).getD 0 := by
  rw [h.lastInputArrivalNs, hw.arrivals s, latestArrival, latestArrival, h.pushed s]

/-- A switch that its condition allows. -/
theorem setActiveOutputStream_watched (streamId : StreamId) {s : σ} (hw : Watched config w)
    (hreal : streamId = .secondary → w.engine.activeOutputStreamId = .primary →
      RealOutage config w.trace (w.lastReading env) w.engine) :
    Watched config { setActiveOutputStream env w streamId with sinkState := s } := by
  have hconsumes := setActiveOutputStream_consumes env w streamId s
  have harrivals := hw.arrivals_of_consumes hconsumes
  by_cases hsame : w.engine.activeOutputStreamId = streamId
  · simp only [setActiveOutputStream, if_pos hsame]
    exact hw.quiet (l := []) (by simp) (by simp) (by simp) rfl rfl rfl hw.arrivals
  · simp only [setActiveOutputStream, if_neg hsame] at harrivals ⊢
    refine ⟨hw.outage, ?_, ?_, rfl, ?_, harrivals⟩
    · refine along_concat.mpr ⟨hw.always, ?_⟩
      cases streamId with
      | primary => trivial
      | secondary =>
        have hprimary : w.engine.activeOutputStreamId = .primary := by
          cases h : w.engine.activeOutputStreamId with
          | primary => rfl
          | secondary => exact absurd h hsame
        exact ⟨hw.active ▸ hprimary, hreal rfl hprimary⟩
    · exact activeStream_switched.symm
    · have hcounted := hw.counted
      cases streamId with
      | primary =>
        have hsecondary : w.engine.activeOutputStreamId = .secondary := by
          cases h : w.engine.activeOutputStreamId with
          | primary => exact absurd h hsame
          | secondary => rfl
        rw [if_pos hsecondary] at hcounted
        simp [World.log, hcounted]
      | secondary =>
        rw [if_neg hsame] at hcounted
        simp [World.log, hcounted]

theorem failoverSent_watched {r : PacketRecord} {s : σ} (hw : Watched config w)
    (hreal : w.engine.activeOutputStreamId = .primary →
      RealOutage config w.trace (w.lastReading env) w.engine)
    (hfront : delayQueueFront w.engine.secondaryQueue = some r) :
    Watched config (failoverSent env w r s) := by
  have hswitched : Watched config
      { setActiveOutputStream env w .secondary with sinkState := s } :=
    setActiveOutputStream_watched .secondary hw fun _ => hreal
  have hactive := setActiveOutputStream_active env w .secondary
  have hconsumes : Consumes w (failoverSent env w r s) := failoverSent_consumes hfront
  have hstats : (failoverSent env w r s).stats.switching =
      (setActiveOutputStream env w .secondary).stats.switching := by
    simp only [failoverSent, acceptRecord_stats]
    exact (acceptStats_kept _ _ _).2
  have hcounts : (failoverSent env w r s).stats.sourceSwitches =
      (setActiveOutputStream env w .secondary).stats.sourceSwitches := congrArg Prod.fst hstats
  have hoff : (failoverSent env w r s).engine.activeOutputStreamId = .secondary := by
    rw [failoverSent_engine]
  refine ⟨by rw [failoverSent_engine]; exact hw.outage, ?_, ?_, ?_, ?_, hw.arrivals_of_consumes hconsumes⟩
  · rw [failoverSent_trace]
    refine along_concat.mpr ⟨hswitched.always, ?_⟩
    exact hswitched.active.symm.trans hactive
  · rw [hoff, failoverSent_trace, activeStream_append (by simp [Event.isSwitch])]
    exact hactive.symm.trans hswitched.active
  · rw [hoff, ← hactive]
    exact (congrArg Prod.snd hstats).trans hswitched.reported
  · have hcounted := hswitched.counted
    rw [if_pos hactive] at hcounted
    rw [if_pos hoff, hcounts]
    exact hcounted

/-- A silent primary whose queue is empty is a real outage. -/
theorem realOutage_of_silent {nowNs laterNs : ℕ} (hw : Watched config w)
    (hsilent : primaryIsSilentBeyondOutage w.engine nowNs = true)
    (hempty : w.engine.primaryQueue.ring.count = 0) (hlater : nowNs ≤ laterNs) :
    RealOutage config w.trace laterNs w.engine := by
  have harrived (s : StreamId) (h : w.engine.lastInputArrivalNs s ≠ 0) :
      ∃ arrivalNs, latestArrival s w.trace = some arrivalNs ∧
        arrivalNs = w.engine.lastInputArrivalNs s := by
    rw [hw.arrivals s] at h ⊢
    cases hlatest : latestArrival s w.trace with
    | none => simp [hlatest] at h
    | some arrivalNs => exact ⟨arrivalNs, rfl, rfl⟩
  have hpushed (s : StreamId) (h : w.engine.lastInputArrivalNs s ≠ 0) :
      pushedRecords s w.trace ≠ [] := by
    obtain ⟨arrivalNs, hlatest, -⟩ := harrived s h
    intro hnil
    simp [latestArrival, hnil] at hlatest
  simp only [primaryIsSilentBeyondOutage] at hsilent
  split_ifs at hsilent with h1 h2 h3
  simp only [Bool.or_eq_true, decide_eq_true_eq, not_or] at h1
  obtain ⟨arrivalNs, hlatest, harrival⟩ := harrived .primary h2
  refine ⟨hw.outage ▸ h1.1, fun s => ?_, (RingBuffer.count_eq_zero_iff _).mp hempty, arrivalNs, hlatest,
    ?_⟩
  · cases s with
    | primary => exact hpushed .primary h2
    | secondary => exact hpushed .secondary h1.2
  · have hold := of_decide_eq_true hsilent
    rw [hw.outage] at hold
    omega

/-- The failover routine. -/
theorem failover_watched (hclock : Monotone env.clock) {force : Bool} {nowNs : ℕ}
    (hguard : FailoverGuard env w nowNs) (n : ℕ) (hw : Watched config w) :
    Watched config (failoverLoop env force n (enterFailover nowNs w)).2 := by
  -- until the first record is sent, the primary stays silent and its queue empty
  refine (failoverLoop_rule
    (J := fun w₁ => Watched config w₁ ∧ nowNs ≤ w₁.lastReading env ∧
      (w₁.engine.activeOutputStreamId = .secondary ∨
        primaryIsSilentBeyondOutage w₁.engine nowNs = true ∧
          w₁.engine.primaryQueue.ring.count = 0)) ?_ ?_ ?_ n _ ?_).1
  · rintro w₁ ⟨hw₁, hreading, houtage⟩
    refine ⟨hw₁.quiet (l := []) (by simp [reportStatsNowNs]) (by simp) (by simp) rfl rfl rfl
      hw₁.arrivals, hreading.trans (hclock ?_), houtage⟩
    simp only [reportStatsNowNs]
    omega
  · rintro w₁ r s hfront ⟨hw₁, hreading, houtage⟩
    refine ⟨failoverSent_watched hw₁ (fun hprimary => ?_) hfront, ?_, .inl ?_⟩
    · rcases houtage with hsecondary | ⟨hsilent, hempty⟩
      · rw [hprimary] at hsecondary
        cases hsecondary
      · exact realOutage_of_silent hw₁ hsilent hempty hreading
    · simpa [World.lastReading, failoverSent] using hreading
    · rw [failoverSent_engine]
  · rintro w₁ s - ⟨hw₁, hreading, houtage⟩
    refine ⟨setActiveOutputStream_watched .secondary hw₁ fun _ hprimary => ?_, ?_, .inl ?_⟩
    · rcases houtage with hsecondary | ⟨hsilent, hempty⟩
      · rw [hprimary] at hsecondary
        cases hsecondary
      · exact realOutage_of_silent hw₁ hsilent hempty hreading
    · simpa [World.lastReading] using hreading
    · exact setActiveOutputStream_active env w₁ .secondary
  · obtain ⟨ring, he, -⟩ := discardSecondary_engine w.engine
    have he : (enterFailover nowNs w).engine =
        { w.engine with secondaryQueue := { w.engine.secondaryQueue with ring := ring } } := he
    refine ⟨hw.quiet (l := [.failover nowNs w.engine]) rfl (by simp [Event.isSwitch]) (by simp) ?_ ?_ rfl
      (hw.arrivals_of_consumes (enterFailover_consumes nowNs w)), hguard.reading.le, ?_⟩
    · rw [he]
    · rw [he]
    · rw [he]
      exact hguard.outage

theorem Stage.watched (hclock : Monotone env.clock) (h : Stage env w w') (hconsistent : Consistent w)
    (hw : Watched config w) : Watched config w' := by
  have hsteps := consumes_drainSteps env
  cases h with
  | ingest streamId p =>
    have hin := pushIngest_ingested env streamId p w
    obtain ⟨l, ht, hl, -⟩ := hin.trace
    obtain ⟨a, i, primaryQueue, secondaryQueue, he⟩ := hin.engine
    obtain ⟨b, c, d, f, n, hs⟩ := hin.stats
    refine hw.quiet ht ?_ ?_ (by rw [he]) (by rw [he]) (by rw [hs]; rfl) fun s => ?_
    · intro ev hev
      rcases List.mem_cons.mp hev with rfl | hev
      · rfl
      · rcases hl ev hev with ⟨d, rfl⟩ | rfl <;> rfl
    · intro route r hmem
      rcases List.mem_cons.mp hmem with hmem | hmem
      · cases hmem
      · rcases hl _ hmem with ⟨d, hd⟩ | hd <;> cases hd
    · rw [latestArrival, hin.pushed s, he]
      by_cases hs : s = streamId
      · subst hs
        simp [makeRecord]
      · simp only [if_neg hs, List.append_nil, Function.update_of_ne hs]
        exact hw.arrivals s
  | sink s => exact hw.quiet (l := []) (by simp) (by simp) (by simp) rfl rfl rfl hw.arrivals
  | read => exact hw.quiet (l := []) (by simp [reportStatsNowNs]) (by simp) (by simp) rfl rfl rfl hw.arrivals
  | wait _ idle =>
    obtain ⟨start, he⟩ := openDrain_engine env w
    exact hw.quiet (openDrain_trace w) (by simp [Event.isSwitch]) (by simp) (by rw [he]) (by rw [he]) rfl
      (hw.arrivals_of_consumes (hsteps.wait w idle))
  | discard _ nonempty ready =>
    obtain ⟨start, ring, he, -⟩ := discardDrain_engine env w
    exact hw.quiet (discardDrain_trace w) (by simp [Event.isSwitch]) (by simp) (by rw [he]) (by rw [he])
      rfl (hw.arrivals_of_consumes (hsteps.discard w nonempty ready))
  | takeOver _ ready =>
    exact setActiveOutputStream_watched .primary
      (s := (setActiveOutputStream env w .primary).sinkState) hw (by simp)
  | release primary _ front active =>
    have houtcome := releasePrimary_outcome env primary w
    have hsource : primary.sourceStreamId = .primary := by
      obtain ⟨t, p, h⟩ := hconsistent.isPush_of_front (s := .primary) front
      rw [h]
      rfl
    obtain ⟨l, ht, hl, hsent⟩ := houtcome.trace
    have hframe := houtcome.frame.1
    refine hw.quiet ht ?_ ?_ hframe.config hframe.activeOutputStreamId houtcome.kept.2
      (hw.arrivals_of_consumes (hsteps.release primary w front active))
    · intro ev hev
      rcases List.mem_cons.mp hev with rfl | hev
      · rfl
      · have := hl ev hev
        cases ev <;> simp_all [Event.OfRelease, Event.isSwitch]
    · intro route r hmem
      have hmem : (route, r) ∈ sentEvents l :=
        mem_sentEvents_iff.mpr ((List.mem_cons.mp hmem).resolve_left (by simp))
      rcases hsent with ⟨-, ⟨kind, M, L, hsent⟩ | ⟨c, hsent⟩⟩ | ⟨-, kind, M, L, hsent⟩
      · rw [hsent, gapSent] at hmem
        rcases List.mem_append.mp hmem with hmem | hmem
        · obtain ⟨x, -, hx⟩ := List.mem_map.mp hmem
          obtain ⟨rfl, rfl⟩ := Prod.mk.inj hx
          exact ⟨by simp, by simp⟩
        · obtain ⟨rfl, rfl⟩ := Prod.mk.inj (List.mem_singleton.mp hmem)
          exact ⟨by simp, fun _ => hsource⟩
      · rw [hsent] at hmem
        obtain ⟨rfl, rfl⟩ := Prod.mk.inj (List.mem_singleton.mp hmem)
        exact ⟨by simp, by simp⟩
      · rw [hsent, gapSent] at hmem
        obtain ⟨x, -, hx⟩ := List.mem_map.mp hmem
        obtain ⟨rfl, rfl⟩ := Prod.mk.inj hx
        exact ⟨by simp, by simp⟩
  | failover force nowNs _ guard => exact failover_watched hclock guard _ hw

/-! ### Every run -/

theorem freshWorld_watched (config : RecoveryEngineConfig) (sinkState : σ) :
    Watched config (freshWorld config sinkState) :=
  ⟨rfl, along_nil _, rfl, rfl, rfl, fun _ => rfl⟩

/-- **Failover happens only on a real outage and is counted exactly.** -/
theorem failover_on_outage {sinkState : σ} (hclock : Monotone env.clock)
    (hreach : Reachable env config sinkState w) :
    (∀ pre nowNs e post, w.trace = pre ++ .switched .secondary nowNs e :: post →
        activeStream pre = .primary ∧ RealOutage config pre nowNs e) ∧
      (∀ pre route r post, w.trace = pre ++ .sent route r :: post → r.sourceStreamId = .secondary →
        (∀ kind primary secondaryMatch, route ≠ .gap kind primary secondaryMatch) →
        (∀ primary, route ≠ .transportError primary) → activeStream pre = .secondary) ∧
      w.engine.activeOutputStreamId = activeStream w.trace ∧
      w.stats.activeOutputStreamId = w.engine.activeOutputStreamId ∧
      w.stats.sourceSwitches .secondary = w.stats.sourceSwitches .primary +
        if w.engine.activeOutputStreamId = .secondary then 1 else 0 := by
  have hw : Consistent w ∧ Watched config w :=
    run_invariant (I := fun w => Consistent w ∧ Watched config w)
      (fun _ _ hstage h => ⟨hstage.consistent h.1, hstage.watched hclock h.1 h.2⟩) hreach
      ⟨freshWorld_consistent config sinkState, freshWorld_watched config sinkState⟩
  refine ⟨fun pre nowNs e post h => hw.2.always pre _ post h, ?_, hw.2.active, hw.2.reported,
    hw.2.counted⟩
  intro pre route r post h hsource hgap htei
  have hcondition := hw.2.always pre _ post h
  cases route with
  | passThrough =>
    rw [show r.sourceStreamId = .primary from hcondition] at hsource
    cases hsource
  | failover => exact hcondition
  | gap kind primary secondaryMatch => exact absurd rfl (hgap kind primary secondaryMatch)
  | transportError primary => exact absurd rfl (htei primary)

/-- The only switch of `skippedWorld` is one. -/
theorem failover_on_outage_skippedWorld :
    ∃ pre e post, skippedWorld.trace = pre ++ .switched .secondary 26 e :: post ∧
      activeStream pre = .primary ∧
      RealOutage { promptConfig with primaryDelayNs := 5, primaryOutageNs := 10, primaryReturnNs := 1000 }
        pre 26 e ∧
      skippedWorld.stats.activeOutputStreamId = skippedWorld.engine.activeOutputStreamId ∧
      skippedWorld.stats.sourceSwitches .secondary = skippedWorld.stats.sourceSwitches .primary + 1 := by
  have hclock : Monotone skippedEnv.clock := scriptedEnv_monotone (by decide)
  have hswitches : switches skippedWorld.trace = [] ++ (.secondary, 26) :: [] := by decide +kernel
  obtain ⟨pre, e, post, ht, -, -⟩ := exists_of_switches hswitches
  have hreach : Reachable skippedEnv
      { promptConfig with primaryDelayNs := 5, primaryOutageNs := 10, primaryReturnNs := 1000 } ()
      skippedWorld := run_reachable skippedEnv _ () skippedOps
  obtain ⟨hreal, -, -, hreported, hcounted⟩ := failover_on_outage hclock hreach
  obtain ⟨hprimary, houtage⟩ := hreal pre 26 e post ht
  refine ⟨pre, e, post, ht, hprimary, houtage, hreported, hcounted.trans ?_⟩
  rw [if_pos (by decide +kernel)]

end TwoStream
