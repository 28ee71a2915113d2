import TwoStreamRecovery.Reception
import TwoStreamRecovery.Invariant

/-!
# The two diagnoses of input loss (`process_datagram`)

* `Station`: the engine and the counters of the inputs; a received packet is counted and then pushed.
* `latestCounter`: the counter of the latest packet of a PID. The counters of the inputs remember it
  of all packets, the engine of the clean ones (`Tracks`, `stationRun_tracks`).
* **`loss_diagnoses_agree_iff`**: the secondary's loss events and continuity errors agree packet by
  packet exactly when every clean packet follows the latest packet of its PID if it follows the
  latest clean one, and the other way round.
-/

namespace TwoStream

variable {σ : Type} {env : Env σ}

/-! ### Receiving -/

/-- The engine with the counters of the inputs. -/
structure Station (σ : Type) where
  world : World σ
  reception : ReceptionStats

/-- A fresh engine, and counters initialised at `startNs`. -/
def freshStation (config : RecoveryEngineConfig) (sinkState : σ) (startNs : ℕ) : Station σ :=
  ⟨freshWorld config sinkState, receptionStatsInit startNs⟩

/-- The packet loop of `process_datagram`, for one packet: its counters, then the push. -/
def receivePacket (env : Env σ) (streamId : StreamId) (p : ParsedPacket) (s : Station σ) : Station σ :=
  let (nowNs, w) := reportStatsNowNs env s.world
  ⟨(recoveryEnginePushPacket env streamId p w).2,
    reportStatsObservePacket nowNs s.reception streamId p.info⟩

/-- One call. -/
def stationStep (env : Env σ) (s : Station σ) : Op → Station σ
  | .push streamId p => receivePacket env streamId p s
  | op => { s with world := step env s.world op }

/-- A run of calls. -/
def stationRun (env : Env σ) (s : Station σ) (ops : List Op) : Station σ :=
  ops.foldl (stationStep env) s

/-- The packets that the calls push on the secondary. -/
abbrev secondaryPackets (ops : List Op) : List ParsedPacket := pushedPackets .secondary ops

/-- After `packets`, the next secondary packet is counted less than `REPORT_STATS_OFFLINE_NS` after
the previous one. -/
def OnTime (env : Env σ) (s : Station σ) (packets : List ParsedPacket) : Prop :=
  packets ≠ [] → elapsedNs (s.reception.lastPacketNs .secondary) (env.clock s.world.reads) <
    reportStatsOfflineNs

/-- No secondary packet comes after a pause. -/
def unpausedAt (env : Env σ) (s₀ : Station σ) (before : List Op) : Op → Prop
  | .push .secondary _ => OnTime env (stationRun env s₀ before) (secondaryPackets before)
  | _ => True

instance (env : Env σ) (s₀ : Station σ) (before : List Op) (op : Op) :
    Decidable (unpausedAt env s₀ before op) := by
  cases op with
  | push streamId p =>
    cases streamId with
    | primary => exact isTrue trivial
    | secondary => exact inferInstanceAs (Decidable (_ → _))
  | drain => exact isTrue trivial
  | flush => exact isTrue trivial

/-- What one secondary packet adds to the two counters. -/
structure DiagnosedAlike (s s' : Station σ) : Prop where
  increment : s'.world.stats.secondaryLossEvents = s.world.stats.secondaryLossEvents + 1 ↔
    s'.reception.continuityErrors .secondary = s.reception.continuityErrors .secondary + 1
  equal : s'.world.stats.secondaryLossEvents = s'.reception.continuityErrors .secondary

/-- Each secondary packet is diagnosed alike. -/
def diagnosedAlikeAt (env : Env σ) (s₀ : Station σ) (before : List Op) : Op → Prop
  | .push .secondary p =>
    DiagnosedAlike (stationRun env s₀ before) (stationRun env s₀ (before ++ [.push .secondary p]))
  | _ => True

/-! ### Latest counters -/

/-- The counter of the latest packet of a PID. -/
def latestCounter (packets : List ParsedPacket) (pid : ℕ) : Option ℕ :=
  (packets.filter (·.info.pid == pid)).getLast?.map (·.info.continuityCounter)

/-- The counter of the latest clean packet of a PID. -/
def latestCleanCounter (packets : List ParsedPacket) (pid : ℕ) : Option ℕ :=
  latestCounter (packets.filter (·.info.isClean)) pid

/-- After `packets`, the packet follows the latest packet of its PID exactly if it follows the latest
clean one. -/
def FollowsAlike (packets : List ParsedPacket) (info : TsPacketInfo) : Prop :=
  info.isClean = true →
    (info.breaks (latestCounter packets info.pid) = true ↔
      info.breaks (latestCleanCounter packets info.pid) = true)

instance (packets : List ParsedPacket) (info : TsPacketInfo) : Decidable (FollowsAlike packets info) :=
  inferInstanceAs (Decidable (_ → _))

/-- The condition for each secondary packet of a run. -/
def followsAlikeAt (before : List Op) : Op → Prop
  | .push .secondary p => FollowsAlike (secondaryPackets before) p.info
  | _ => True

instance (before : List Op) (op : Op) : Decidable (followsAlikeAt before op) := by
  cases op with
  | push streamId p =>
    cases streamId with
    | primary => exact isTrue trivial
    | secondary => exact inferInstanceAs (Decidable (FollowsAlike (secondaryPackets before) p.info))
  | drain => exact isTrue trivial
  | flush => exact isTrue trivial

theorem latestCounter_concat (packets : List ParsedPacket) (p : ParsedPacket) (pid : ℕ) :
    latestCounter (packets ++ [p]) pid =
      if pid = p.info.pid then some p.info.continuityCounter else latestCounter packets pid := by
  rw [latestCounter, List.filter_append]
  by_cases hpid : pid = p.info.pid
  · rw [if_pos hpid, List.filter_cons_of_pos (by simpa using hpid.symm), List.filter_nil,
      List.getLast?_concat]
    rfl
  · rw [if_neg hpid, List.filter_cons_of_neg (by simpa using Ne.symm hpid), List.filter_nil,
      List.append_nil]
    rfl

theorem latestCleanCounter_concat (packets : List ParsedPacket) (p : ParsedPacket) (pid : ℕ) :
    latestCleanCounter (packets ++ [p]) pid =
      if p.info.isClean = true ∧ pid = p.info.pid then some p.info.continuityCounter
      else latestCleanCounter packets pid := by
  by_cases hclean : p.info.isClean = true
  · have hone : [p].filter (·.info.isClean) = [p] := List.filter_cons_of_pos hclean
    rw [latestCleanCounter, List.filter_append, hone, latestCounter_concat]
    simp only [hclean, true_and]
    rfl
  · have hnone : [p].filter (·.info.isClean) = [] := List.filter_cons_of_neg hclean
    rw [latestCleanCounter, List.filter_append, hnone, List.append_nil, if_neg (by simp [hclean])]
    rfl

/-! ### The engine's diagnosis -/

/-- The counter the engine remembers for a PID of a stream. -/
def RecoveryEngine.inputCounterOf (e : RecoveryEngine) (streamId : StreamId) (pid : ℕ) : Option ℕ :=
  if (e.inputPidState streamId pid).valid then some (e.inputPidState streamId pid).continuityCounter
  else none

/-- The stages of a push around `observe_input_path_gap` leave the diagnosis alone. -/
structure SameDiagnosis (w w' : World σ) : Prop where
  events : w'.stats.secondaryLossEvents = w.stats.secondaryLossEvents
  missing : w'.stats.secondaryMissingPackets = w.stats.secondaryMissingPackets
  counters : w'.engine.inputPidState = w.engine.inputPidState

theorem SameDiagnosis.trans {w w' w'' : World σ} (h : SameDiagnosis w w') (h' : SameDiagnosis w' w'') :
    SameDiagnosis w w'' :=
  ⟨h'.events.trans h.events, h'.missing.trans h.missing, h'.counters.trans h.counters⟩

section Push

variable {w : World σ} {streamId : StreamId} {r : PacketRecord}

theorem updatePcrTiming_sameDiagnosis (w : World σ) (r : PacketRecord) :
    SameDiagnosis w (updatePcrTiming w r) := by
  unfold updatePcrTiming
  split
  · exact ⟨rfl, rfl, rfl⟩
  · split
    · exact ⟨rfl, rfl, rfl⟩
    · split
      · split <;> exact ⟨rfl, rfl, rfl⟩
      · exact ⟨rfl, rfl, rfl⟩

theorem updateAlignment_sameDiagnosis (w : World σ) (streamId : StreamId) (r : PacketRecord) :
    SameDiagnosis w (updateAlignment w streamId r) := by
  simp only [updateAlignment]
  split
  · exact ⟨rfl, rfl, rfl⟩
  · split
    · cases streamId <;> exact ⟨rfl, rfl, rfl⟩
    · split
      · exact ⟨rfl, rfl, rfl⟩
      · simp only [missAlignment]
        split <;> exact ⟨rfl, rfl, rfl⟩

theorem pushQueue_sameDiagnosis (w : World σ) (streamId : StreamId) (r : PacketRecord) :
    SameDiagnosis w (pushQueue w streamId r) := by
  cases streamId <;> simp only [pushQueue] <;> split <;> exact ⟨rfl, rfl, rfl⟩

/-- **The engine's diagnosis:** a clean record is judged against the latest clean one of its PID. -/
theorem observeInputPathGap_diagnosis (w : World σ) (streamId : StreamId) {r : PacketRecord}
    (hpid : r.pid < 8192) :
    (observeInputPathGap w streamId r).stats.secondaryLossEvents = w.stats.secondaryLossEvents +
        (if streamId = .secondary ∧ recordIsInformative r = true ∧ breaksCounter r.continuityCounter
          r.hasPayload (w.engine.inputCounterOf streamId r.pid) = true then 1 else 0) ∧
      (observeInputPathGap w streamId r).engine.inputPidState =
        if recordIsInformative r = true then
          Function.update w.engine.inputPidState streamId (setCc (w.engine.inputPidState streamId) r)
        else w.engine.inputPidState := by
  have hflags : (r.isNull || r.transportError || r.discontinuityIndicator || decide (8192 ≤ r.pid)) =
      !recordIsInformative r := by
    rw [decide_eq_false (by omega), recordIsInformative]
    cases r.isNull <;> cases r.transportError <;> cases r.discontinuityIndicator <;> rfl
  unfold observeInputPathGap
  rw [hflags]
  by_cases hclean : recordIsInformative r = true
  · rw [if_neg (by simp [hclean]), if_pos hclean]
    constructor
    · have hjudged : ((w.engine.inputPidState streamId r.pid).valid &&
          (if r.hasPayload then
            r.continuityCounter != (w.engine.inputPidState streamId r.pid).continuityCounter &&
              r.continuityCounter != nextCc (w.engine.inputPidState streamId r.pid).continuityCounter
          else r.continuityCounter != (w.engine.inputPidState streamId r.pid).continuityCounter)) =
          breaksCounter r.continuityCounter r.hasPayload (w.engine.inputCounterOf streamId r.pid) := by
        rw [RecoveryEngine.inputCounterOf]
        cases (w.engine.inputPidState streamId r.pid).valid <;> cases r.hasPayload <;>
          simp [breaksCounter, bne]
      simp only [hjudged, hclean, true_and]
      cases streamId with
      | primary => simp
      | secondary =>
        cases breaksCounter r.continuityCounter r.hasPayload
          (w.engine.inputCounterOf .secondary r.pid) <;> simp [recoveryDecisionLog, World.log]
    · simp only
      generalize (_ && _ : Bool) = gap
      cases gap <;> rfl
  · rw [if_pos (by simpa using hclean), if_neg hclean, if_neg (by simp [hclean])]
    exact ⟨rfl, rfl⟩

theorem inputCounterOf_update {e e' : RecoveryEngine}
    (h : e'.inputPidState =
      Function.update e.inputPidState streamId (setCc (e.inputPidState streamId) r)) (s : StreamId)
    (pid : ℕ) :
    e'.inputCounterOf s pid =
      if s = streamId ∧ pid = r.pid then some r.continuityCounter else e.inputCounterOf s pid := by
  by_cases hs : s = streamId
  · subst hs
    rw [RecoveryEngine.inputCounterOf, h, Function.update_self, setCc]
    by_cases hpid : pid = r.pid
    · simp [hpid]
    · simp [hpid, RecoveryEngine.inputCounterOf]
  · have hne : ¬ (s = streamId ∧ pid = r.pid) := fun h => hs h.1
    rw [if_neg hne, RecoveryEngine.inputCounterOf, RecoveryEngine.inputCounterOf, h,
      Function.update_of_ne hs]

/-- A push diagnoses its record once. -/
theorem pushPacket_around (env : Env σ) (streamId : StreamId) (p : ParsedPacket) (w : World σ) :
    ∃ w₁, SameDiagnosis w w₁ ∧
      SameDiagnosis (observeInputPathGap w₁ streamId
          (makeRecord streamId (w.engine.nextStreamIndex streamId) (env.clock w.reads) p))
        (recoveryEnginePushPacket env streamId p w).2 := by
  have hstored : SameDiagnosis w (storeRecord env streamId p w).2 := ⟨rfl, rfl, rfl⟩
  have hafter := (updateAlignment_sameDiagnosis (observeInputPathGap
    (updatePcrTiming (storeRecord env streamId p w).2 (storeRecord env streamId p w).1) streamId
    (storeRecord env streamId p w).1) streamId (storeRecord env streamId p w).1).trans
    (pushQueue_sameDiagnosis _ streamId (storeRecord env streamId p w).1)
  have hdrain := recoveryEngineDrain_consumes env false (pushIngest env streamId p w)
  have hdrained : SameDiagnosis (pushIngest env streamId p w)
      (recoveryEnginePushPacket env streamId p w).2 :=
    ⟨congrArg (fun inputs => inputs.2.1) hdrain.inputs,
      congrArg (fun inputs => inputs.2.2.1) hdrain.inputs, hdrain.inputPidState⟩
  exact ⟨_, hstored.trans (updatePcrTiming_sameDiagnosis _ (storeRecord env streamId p w).1),
    hafter.trans hdrained⟩

theorem SameDiagnosis.inputCounterOf {w' : World σ} (h : SameDiagnosis w w') (s : StreamId)
    (pid : ℕ) : w'.engine.inputCounterOf s pid = w.engine.inputCounterOf s pid := by
  rw [RecoveryEngine.inputCounterOf, RecoveryEngine.inputCounterOf, h.counters]

/-- What a push does to the diagnosis. -/
theorem pushPacket_diagnosis (env : Env σ) (streamId : StreamId) (p : ParsedPacket) (w : World σ) :
    (recoveryEnginePushPacket env streamId p w).2.stats.secondaryLossEvents =
        w.stats.secondaryLossEvents +
          (if streamId = .secondary ∧ p.info.isClean = true ∧
            p.info.breaks (w.engine.inputCounterOf streamId p.info.pid) = true then 1 else 0) ∧
      ∀ s pid, (recoveryEnginePushPacket env streamId p w).2.engine.inputCounterOf s pid =
        if s = streamId ∧ p.info.isClean = true ∧ pid = p.info.pid then some p.info.continuityCounter
        else w.engine.inputCounterOf s pid := by
  obtain ⟨w₁, hbefore, hafter⟩ := pushPacket_around env streamId p w
  generalize hr : makeRecord streamId (w.engine.nextStreamIndex streamId) (env.clock w.reads) p = r
    at hafter
  have hpid : r.pid < 8192 := by
    rw [← hr]
    exact p.pid_lt
  obtain ⟨hevents, hcounters⟩ := observeInputPathGap_diagnosis w₁ streamId hpid
  constructor
  · rw [hafter.events, hevents, hbefore.events, hbefore.inputCounterOf, ← hr]
    rfl
  · intro s pid
    by_cases hclean : p.info.isClean = true
    · have hset : (recoveryEnginePushPacket env streamId p w).2.engine.inputPidState =
          Function.update w.engine.inputPidState streamId
            (setCc (w.engine.inputPidState streamId) r) := by
        rw [hafter.counters, hcounters, hbefore.counters, ← hr]
        exact if_pos hclean
      rw [inputCounterOf_update hset, ← hr]
      simp only [hclean, true_and]
      rfl
    · have hkept : (recoveryEnginePushPacket env streamId p w).2.engine.inputPidState =
          w.engine.inputPidState := by
        rw [hafter.counters, hcounters, hbefore.counters, ← hr]
        exact if_neg hclean
      have hnot : ¬ (s = streamId ∧ p.info.isClean = true ∧ pid = p.info.pid) := fun h => hclean h.2.1
      rw [if_neg hnot, RecoveryEngine.inputCounterOf, RecoveryEngine.inputCounterOf, hkept]

end Push

/-! ### Both diagnoses along a run -/

/-- What the two diagnoses remember of the secondary packets received so far. -/
structure Tracks (s : Station σ) (packets : List ParsedPacket) : Prop where
  reception : ∀ pid, s.reception.counterOf .secondary pid = latestCounter packets pid
  engine : ∀ pid, s.world.engine.inputCounterOf .secondary pid = latestCleanCounter packets pid

theorem freshStation_tracks (config : RecoveryEngineConfig) (sinkState : σ) (startNs : ℕ) :
    Tracks (freshStation config sinkState startNs) [] := ⟨fun _ => rfl, fun _ => rfl⟩

section Receive

variable {s : Station σ} {packets : List ParsedPacket} {p : ParsedPacket}

/-- Counters of the secondary survive the test for a pause. -/
theorem resetIfOffline_tracks (hs : Tracks s packets) (htime : OnTime env s packets) (pid : ℕ) :
    (resetIfOffline (env.clock s.world.reads) s.reception .secondary).counterOf .secondary pid =
      latestCounter packets pid := by
  by_cases hnone : packets = []
  · rw [resetIfOffline]
    split
    · rw [hnone]
      simp [ReceptionStats.counterOf, resetStreamContinuity, latestCounter]
    · exact hs.reception pid
  · rw [resetIfOffline_of_lt (htime hnone)]
    exact hs.reception pid

/-- **A received secondary packet:** what both diagnoses count and remember. -/
theorem receivePacket_secondary (hs : Tracks s packets) (htime : OnTime env s packets) :
    Tracks (receivePacket env .secondary p s) (packets ++ [p]) ∧
      (receivePacket env .secondary p s).world.stats.secondaryLossEvents =
        s.world.stats.secondaryLossEvents + (if p.info.isClean = true ∧
          p.info.breaks (latestCleanCounter packets p.info.pid) = true then 1 else 0) ∧
      (receivePacket env .secondary p s).reception.continuityErrors .secondary =
        s.reception.continuityErrors .secondary + (if p.info.isClean = true ∧
          p.info.breaks (latestCounter packets p.info.pid) = true then 1 else 0) := by
  obtain ⟨hevents, hcounters⟩ := pushPacket_diagnosis env .secondary p (reportStatsNowNs env s.world).2
  refine ⟨⟨fun pid => ?_, fun pid => ?_⟩, ?_, ?_⟩
  · refine (observePacket_counterOf _ _ _ _ pid).trans ?_
    rw [latestCounter_concat]
    by_cases hpid : pid = p.info.pid
    · rw [if_pos hpid, if_pos hpid]
    · rw [if_neg hpid, if_neg hpid]
      exact resetIfOffline_tracks hs htime pid
  · refine (hcounters .secondary pid).trans ?_
    rw [latestCleanCounter_concat, ← hs.engine pid]
    simp only [true_and]
    rfl
  · refine hevents.trans ?_
    have hengine : (reportStatsNowNs env s.world).2.engine.inputCounterOf .secondary p.info.pid =
        latestCleanCounter packets p.info.pid := hs.engine p.info.pid
    rw [hengine]
    simp only [true_and]
    rfl
  · refine (congrFun (observePacket_continuityErrors _ _ _ _) .secondary).trans ?_
    have hreset := resetIfOffline_tracks hs htime p.info.pid
    rw [bump_self]
    simp only [Bool.and_eq_true]
    rw [← hreset]

/-- The primary's packets do not touch the secondary's diagnoses. -/
theorem receivePacket_primary (hs : Tracks s packets) :
    Tracks (receivePacket env .primary p s) packets ∧
      (receivePacket env .primary p s).world.stats.secondaryLossEvents =
        s.world.stats.secondaryLossEvents ∧
      (receivePacket env .primary p s).reception.continuityErrors .secondary =
        s.reception.continuityErrors .secondary := by
  obtain ⟨hevents, hcounters⟩ := pushPacket_diagnosis env .primary p (reportStatsNowNs env s.world).2
  have hne : (StreamId.secondary) ≠ .primary := by decide
  refine ⟨⟨fun pid => ?_, fun pid => ?_⟩, ?_, ?_⟩
  · exact (observePacket_counterOf_other hne pid).trans (hs.reception pid)
  · refine (hcounters .secondary pid).trans ?_
    rw [if_neg (by simp)]
    exact hs.engine pid
  · refine hevents.trans ?_
    rw [if_neg (by simp)]
    rfl
  · refine (congrFun (observePacket_continuityErrors _ _ _ _) .secondary).trans ?_
    exact bump_of_ne hne ..

/-- A call that receives nothing touches no diagnosis. -/
theorem Consumes.tracks {w : World σ} (h : Consumes s.world w) (hs : Tracks s packets) :
    Tracks { s with world := w } packets ∧
      w.stats.secondaryLossEvents = s.world.stats.secondaryLossEvents := by
  refine ⟨⟨hs.reception, fun pid => ?_⟩, congrArg (fun inputs => inputs.2.1) h.inputs⟩
  rw [RecoveryEngine.inputCounterOf]
  simp only [h.inputPidState]
  exact hs.engine pid

end Receive

section Run

variable {s₀ : Station σ} {ops : List Op}

theorem stationRun_concat (env : Env σ) (s₀ : Station σ) (ops : List Op) (op : Op) :
    stationRun env s₀ (ops ++ [op]) = stationStep env (stationRun env s₀ ops) op := by
  rw [stationRun, List.foldl_append]
  rfl

/-- **Both diagnoses remember the latest counters**, in every run without pauses. -/
theorem stationRun_tracks (hfresh : Tracks s₀ []) (htime : Along (unpausedAt env s₀) ops) :
    Tracks (stationRun env s₀ ops) (secondaryPackets ops) := by
  induction ops using List.reverseRecOn with
  | nil => exact hfresh
  | append_singleton ops op ih =>
    obtain ⟨hbefore, hlast⟩ := along_concat.mp htime
    have hs := ih hbefore
    have hconcat : secondaryPackets (ops ++ [op]) = secondaryPackets ops ++ secondaryPackets [op] :=
      List.filterMap_append
    rw [stationRun_concat, hconcat]
    cases op with
    | push streamId p =>
      cases streamId with
      | primary =>
        have h : Tracks (receivePacket env .primary p (stationRun env s₀ ops)) (secondaryPackets ops) :=
          (receivePacket_primary hs).1
        show Tracks _ (secondaryPackets ops ++ [])
        rw [List.append_nil]
        exact h
      | secondary => exact (receivePacket_secondary hs hlast).1
    | drain force =>
      have h := ((recoveryEngineDrain_consumes env force (stationRun env s₀ ops).world).tracks hs).1
      show Tracks _ (secondaryPackets ops ++ [])
      rw [List.append_nil]
      exact h
    | flush =>
      have h := ((recoveryEngineFlush_consumes env (stationRun env s₀ ops).world).tracks hs).1
      show Tracks _ (secondaryPackets ops ++ [])
      rw [List.append_nil]
      exact h

/-- Where every packet meets the condition, the two counters stay equal. -/
theorem stationRun_equal (hfresh : Tracks s₀ []) (htime : Along (unpausedAt env s₀) ops)
    (hstart : s₀.world.stats.secondaryLossEvents = s₀.reception.continuityErrors .secondary)
    (halike : Along followsAlikeAt ops) :
    (stationRun env s₀ ops).world.stats.secondaryLossEvents =
      (stationRun env s₀ ops).reception.continuityErrors .secondary := by
  induction ops using List.reverseRecOn with
  | nil => exact hstart
  | append_singleton ops op ih =>
    obtain ⟨hbefore, hlast⟩ := along_concat.mp htime
    obtain ⟨halike, hfollows⟩ := along_concat.mp halike
    have hs := stationRun_tracks hfresh hbefore
    have hequal := ih hbefore halike
    rw [stationRun_concat]
    cases op with
    | push streamId p =>
      cases streamId with
      | primary =>
        obtain ⟨-, hevents, herrors⟩ :
          Tracks (receivePacket env .primary p (stationRun env s₀ ops)) _ ∧ _ := receivePacket_primary hs
        exact hevents.trans (hequal.trans herrors.symm)
      | secondary =>
        obtain ⟨-, hevents, herrors⟩ := receivePacket_secondary hs hlast
        refine hevents.trans (Eq.trans ?_ herrors.symm)
        have hcond := and_congr_right hfollows
        simp only [hequal, hcond]
    | drain force =>
      have h := ((recoveryEngineDrain_consumes env force (stationRun env s₀ ops).world).tracks hs).2
      exact h.trans hequal
    | flush =>
      have h := ((recoveryEngineFlush_consumes env (stationRun env s₀ ops).world).tracks hs).2
      exact h.trans hequal

end Run

/-- **The two diagnoses of secondary loss agree** on every packet of a run exactly when every clean
packet follows the latest packet of its PID if it follows the latest clean one, and conversely. -/
theorem loss_diagnoses_agree_iff (env : Env σ) (config : RecoveryEngineConfig) (sinkState : σ)
    (startNs : ℕ) (ops : List Op)
    (htime : Along (unpausedAt env (freshStation config sinkState startNs)) ops) :
    Along (diagnosedAlikeAt env (freshStation config sinkState startNs)) ops ↔
      Along followsAlikeAt ops := by
  have hfresh := freshStation_tracks config sinkState startNs
  generalize hs₀ : freshStation config sinkState startNs = s₀ at htime hfresh ⊢
  have hstart : s₀.world.stats.secondaryLossEvents = s₀.reception.continuityErrors .secondary := by
    rw [← hs₀]
    rfl
  constructor
  · rintro hdiagnosed before op after rfl
    have halike := hdiagnosed before op after rfl
    have hlast := htime before op after rfl
    cases op with
    | push streamId p =>
      cases streamId with
      | primary => trivial
      | secondary =>
        have hs := stationRun_tracks hfresh htime.append_left
        obtain ⟨-, hevents, herrors⟩ := receivePacket_secondary hs hlast
        have hincrement := halike.increment
        rw [stationRun_concat, stationStep, hevents, herrors] at hincrement
        intro hclean
        simpa [hclean, iff_comm] using hincrement
    | drain => trivial
    | flush => trivial
  · rintro halike before op after rfl
    have hfollows := halike before op after rfl
    have hlast := htime before op after rfl
    cases op with
    | push streamId p =>
      cases streamId with
      | primary => trivial
      | secondary =>
        have hs := stationRun_tracks hfresh htime.append_left
        obtain ⟨-, hevents, herrors⟩ := receivePacket_secondary hs hlast
        have hprefix : before ++ [.push .secondary p] <+: before ++ .push .secondary p :: after :=
          ⟨after, by simp⟩
        have hcond := and_congr_right hfollows
        refine ⟨?_, stationRun_equal hfresh (htime.of_prefix hprefix) hstart (halike.of_prefix hprefix)⟩
        rw [stationRun_concat, stationStep, hevents, herrors]
        simp only [hcond, Nat.add_left_cancel_iff]
    | drain => trivial
    | flush => trivial

/-! ### A discontinuity that only one diagnosis sees -/

/-- A packet without payload that announces a discontinuity. -/
def discontinuityPacket (pid cc : ℕ) : Packet where
  bytes := [0x47, .ofNat (pid / 256), .ofNat pid, .ofNat (0x20 + cc), 183, 0x80] ++ .replicate 182 0xff
  size := by rw [List.length_append, List.length_replicate]; rfl

/-- The secondary receives counter 5 and a discontinuity to counter 9. -/
def discontinuityStart : List Op :=
  [.push .secondary (payloadPacket 0x100 5 1).parse,
    .push .secondary (discontinuityPacket 0x100 9).parse]

/-- Then it receives the counter `cc`. -/
def resumedAt (cc : ℕ) : Op := .push .secondary (payloadPacket 0x100 cc 2).parse

/-- The packet after an announced jump is a loss event for the engine and no continuity error. -/
theorem loss_diagnoses_differ :
    Along (unpausedAt (scriptedEnv [] 1) (freshStation promptConfig () 1))
        (discontinuityStart ++ [resumedAt 10]) ∧
      ¬ Along (diagnosedAlikeAt (scriptedEnv [] 1) (freshStation promptConfig () 1))
        (discontinuityStart ++ [resumedAt 10]) := by
  refine ⟨by decide +kernel, fun halike => ?_⟩
  have hlast : DiagnosedAlike
      (stationRun (scriptedEnv [] 1) (freshStation promptConfig () 1) discontinuityStart)
      (stationRun (scriptedEnv [] 1) (freshStation promptConfig () 1)
        (discontinuityStart ++ [resumedAt 10])) := (along_concat.mp halike).2
  have hequal := hlast.equal
  revert hequal
  decide +kernel

/-- A loss behind the jump is counted by both. -/
theorem loss_diagnoses_agree_lost :
    Along (diagnosedAlikeAt (scriptedEnv [] 1) (freshStation promptConfig () 1))
      (discontinuityStart ++ [resumedAt 12]) :=
  (loss_diagnoses_agree_iff (scriptedEnv [] 1) promptConfig () 1 (discontinuityStart ++ [resumedAt 12])
    (by decide +kernel)).mpr (by decide +kernel)

end TwoStream
