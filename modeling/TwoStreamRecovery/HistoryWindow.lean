import TwoStreamRecovery.Lib.Suffixes
import TwoStreamRecovery.Outage
import TwoStreamRecovery.Sizing

/-!
# The packet history as a window

* `expired`: a record older than the newest arrival minus the retention.
* `Stage.reads_le`: the clock is only read on; `Arrived`: the pushes arrive in order.
* `toList_pushHistory`: a push moves the window on.
* **`history_exact_window`**: the history of a stream is the longest suffix of its pushes that fits the
  capacity and holds no expired record, and lookups by index find its records and no others.
-/

namespace TwoStream

variable {σ : Type} {env : Env σ} {w w' : World σ} {config : RecoveryEngineConfig} {sinkState : σ}

/-! ### The clock of a run -/

/-- **The clock is only read on.** -/
theorem Stage.reads_le (h : Stage env w w') : w.reads ≤ w'.reads := by
  cases h with
  | ingest streamId p =>
    rw [(pushIngest_ingested env streamId p w).reads]
    exact Nat.le_succ _
  | sink s => exact le_rfl
  | read => exact Nat.le_succ _
  | wait _ idle => exact Nat.le_succ _
  | discard _ nonempty ready => exact Nat.le_succ _
  | takeOver _ ready => rw [setActiveOutputStream_reads]
  | release primary _ front active =>
    rw [(releasePrimary_outcome env primary w).frame.2.1]
  | failover force nowNs _ guard =>
    refine failoverLoop_rule (J := fun w₁ => w.reads ≤ w₁.reads) ?_ ?_ ?_ _ _ le_rfl
    · exact fun w₁ h => h.trans (Nat.le_succ _)
    · intro w₁ r s _ h
      simp only [failoverSent, acceptRecord_reads, setActiveOutputStream_reads]
      exact h
    · intro w₁ s _ h
      simp only [setActiveOutputStream_reads]
      exact h

/-- The pushes of a stream arrive in order, and before the next reading of the clock. -/
structure Arrived (env : Env σ) (w : World σ) : Prop where
  ordered : ∀ s, (pushedRecords s w.trace).Pairwise (·.arrivalTimeNs ≤ ·.arrivalTimeNs)
  past : ∀ s, ∀ r ∈ pushedRecords s w.trace, r.arrivalTimeNs ≤ env.clock w.reads

theorem reachable_arrived (hclock : Monotone env.clock) (hreach : Reachable env config sinkState w) :
    Arrived env w := by
  refine hreach.invariant ⟨fun s => .nil, fun s r hr => by cases hr⟩ fun w w' hstage _ hw => ?_
  have hlater : env.clock w.reads ≤ env.clock w'.reads := hclock hstage.reads_le
  rcases hstage.cases_push with ⟨streamId, p, hingested⟩ | hconsumes
  · refine ⟨fun s => ?_, fun s r hr => ?_⟩
    · rw [hingested.pushed s]
      split
      · refine List.pairwise_append.mpr ⟨hw.ordered s, List.pairwise_singleton _ _, fun a ha b hb => ?_⟩
        rw [List.mem_singleton.mp hb]
        exact hw.past s a ha
      · rw [List.append_nil]
        exact hw.ordered s
    · rw [hingested.pushed s] at hr
      rcases List.mem_append.mp hr with hr | hr
      · exact (hw.past s r hr).trans hlater
      · split at hr
        · rw [List.mem_singleton.mp hr]
          exact hlater
        · cases hr
  · refine ⟨fun s => ?_, fun s r hr => ?_⟩
    · rw [hconsumes.pushed s]
      exact hw.ordered s
    · rw [hconsumes.pushed s] at hr
      exact (hw.past s r hr).trans hlater

/-! ### Pushes -/

/-- The record is older than the newest arrival minus the retention. -/
def expired (config : RecoveryEngineConfig) (newestNs : ℕ) (r : PacketRecord) : Bool :=
  config.historyMs != 0 && decide (r.arrivalTimeNs + config.historyMs * 1000000 < newestNs)

theorem expired_mono {newestNs newestNs' : ℕ} {r : PacketRecord} (h : newestNs ≤ newestNs')
    (hr : expired config newestNs r = true) : expired config newestNs' r = true := by
  simp only [expired, Bool.and_eq_true, decide_eq_true_eq] at hr ⊢
  exact ⟨hr.1, hr.2.trans_le h⟩

/-- What arrived later is younger. -/
theorem not_expired_of_le {newestNs : ℕ} {r r' : PacketRecord} (h : r.arrivalTimeNs ≤ r'.arrivalTimeNs)
    (hr : expired config newestNs r = false) : expired config newestNs r' = false := by
  simp only [expired, Bool.and_eq_false_iff, decide_eq_false_iff_not] at hr ⊢
  exact hr.imp_right fun hyoung => by omega

/-- **A push moves the window on.** -/
theorem toList_pushHistory (hretention : config.historyMs * 1000000 < 2 ^ 64) (history : PacketHistory)
    (r : PacketRecord) :
    (pushHistory config history r).toList =
      (pushWindow history.capacity history.toList r).dropWhile (expired config r.arrivalTimeNs) := by
  have hpush : (history.pushEvict r).toList = pushWindow history.capacity history.toList r := by
    rw [RingBuffer.toList_pushEvict, pushWindow, RingBuffer.length_toList]
  rw [pushHistory_eq, historyRetentionNs_eq_iff.mpr hretention, ← hpush]
  by_cases hprune : 0 < config.historyMs ∧ config.historyMs * 1000000 < r.arrivalTimeNs
  · have hcutoff : expired config r.arrivalTimeNs = fun old =>
        decide (old.arrivalTimeNs < r.arrivalTimeNs - config.historyMs * 1000000) := by
      funext old
      rw [expired, bne_iff_ne.mpr (Nat.ne_of_gt hprune.1), Bool.true_and, decide_eq_decide]
      omega
    rw [if_pos (by simp [hprune]), packetHistoryPruneOlderThan, RingBuffer.toList_popWhile, hcutoff]
  · have hnone : expired config r.arrivalTimeNs = fun _ => false := by
      funext old
      simp only [expired, Bool.and_eq_false_iff, bne_eq_false_iff_eq, decide_eq_false_iff_not]
      omega
    rw [if_neg, hnone]
    · cases (history.pushEvict r).toList <;> rfl
    · simp only [Bool.and_eq_true, decide_eq_true_eq]
      omega

/-! ### Histories -/

/-- The records a history should hold: as many as it has room for, none of them expired. -/
def HistoryWindow (config : RecoveryEngineConfig) (streamId : StreamId) (trace : List Event) :
    List PacketRecord → Prop :=
  Window (historyCapacityFromConfig config)
    (expired config ((latestArrival streamId trace).getD 0))

/-- Every history is the window of its stream. -/
def Windowed (config : RecoveryEngineConfig) (w : World σ) : Prop :=
  ∀ s, LongestSuffix (HistoryWindow config s w.trace) (pushedRecords s w.trace)
    (w.engine.history s).toList

theorem latestArrival_le (hw : Arrived env w) (s : StreamId) :
    (latestArrival s w.trace).getD 0 ≤ env.clock w.reads := by
  rw [latestArrival]
  cases hlast : (pushedRecords s w.trace).getLast? with
  | none => exact Nat.zero_le _
  | some r => exact hw.past s r (List.mem_of_getLast? hlast)

theorem Ingested.windowed {streamId : StreamId} {p : ParsedPacket}
    (hretention : config.historyMs * 1000000 < 2 ^ 64) (h : Ingested env streamId p w w')
    (hsized : Sized config w) (harrived : Arrived env w) (harrived' : Arrived env w')
    (hw : Windowed config w) : Windowed config w' := by
  obtain ⟨a, i, primaryQueue, secondaryQueue, he⟩ := h.engine
  intro s
  have hpushed := h.pushed s
  by_cases hs : s = streamId
  · subst hs
    rw [if_pos rfl] at hpushed
    have hlatest : (latestArrival s w'.trace).getD 0 = env.clock w.reads := by
      rw [latestArrival, hpushed, List.getLast?_concat]
      rfl
    have hconfig : w.engine.config.historyMs = config.historyMs := by
      rw [hsized.kept]
      rfl
    have hexpired : expired w.engine.config = expired config := by
      funext newestNs r
      rw [expired, expired, hconfig]
    have hlist := toList_pushHistory (by rw [hconfig]; exact hretention) (w.engine.history s)
      (makeRecord s (w.engine.nextStreamIndex s) (env.clock w.reads) p)
    rw [hsized.capacity, hexpired] at hlist
    have hordered := harrived'.ordered s
    rw [hpushed] at hordered
    rw [HistoryWindow, hlatest, hpushed, he]
    simp only [Function.update_self]
    rw [hlist]
    refine (hw s).push (historyCapacityFromConfig_pos config) (fun r _ hr => ?_) ?_
    · exact expired_mono (latestArrival_le harrived s) hr
    · exact hordered.imp fun hle => not_expired_of_le hle
  · rw [if_neg hs, List.append_nil] at hpushed
    rw [HistoryWindow, latestArrival, hpushed, he]
    simp only [Function.update_of_ne hs]
    exact hw s

/-- **Every reachable history is the window of its stream.** -/
theorem reachable_windowed (hclock : Monotone env.clock)
    (hretention : config.historyMs * 1000000 < 2 ^ 64) (hreach : Reachable env config sinkState w) :
    Windowed config w := by
  induction hreach with
  | refl => exact fun s => longestSuffix_nil
  | @tail w w' hreach hstage ih =>
    rcases hstage.cases_push with ⟨streamId, p, hingested⟩ | hconsumes
    · exact hingested.windowed hretention (reachable_sized hreach) (reachable_arrived hclock hreach)
        (reachable_arrived hclock (hreach.tail hstage)) ih
    · intro s
      rw [HistoryWindow, latestArrival, hconsumes.pushed s, hconsumes.history]
      exact ih s

/-- **The packet history is an exact window.** -/
theorem history_exact_window (hclock : Monotone env.clock)
    (hretention : config.historyMs * 1000000 < 2 ^ 64) (hreach : Reachable env config sinkState w)
    (streamId : StreamId) :
    LongestSuffix (HistoryWindow config streamId w.trace) (pushedRecords streamId w.trace)
        (w.engine.history streamId).toList ∧
      ∀ i r, packetHistoryFindIndex (w.engine.history streamId) i = some r ↔
        r ∈ (w.engine.history streamId).toList ∧ r.streamIndex = i :=
  ⟨reachable_windowed hclock hretention hreach streamId, fun _ _ =>
    (reachable_consistent hreach).find_eq_some_iff⟩

/-- Packets at 1 ms, 2 ms and 2.5 ms. -/
def threeArrivals : Env Unit := scriptedEnv (.replicate 4 1000000 ++ .replicate 4 2000000) 2500000

/-- A history of one millisecond. -/
def briefConfig : RecoveryEngineConfig := { promptConfig with historyMs := 1 }

def threeArrivalsWorld : World Unit :=
  run threeArrivals (freshWorld briefConfig ()) (.replicate 3 (.push .primary nullPacket))

/-- The first packet is no longer found. -/
theorem history_exact_window_threeArrivals :
    ((pushedRecords .primary threeArrivalsWorld.trace).map (·.arrivalTimeNs) =
        [1000000, 2000000, 2500000] ∧
      packetHistoryFindIndex (threeArrivalsWorld.engine.history .primary) 0 = none) ∧
      LongestSuffix (HistoryWindow briefConfig .primary threeArrivalsWorld.trace)
        (pushedRecords .primary threeArrivalsWorld.trace)
        (threeArrivalsWorld.engine.history .primary).toList :=
  ⟨by decide +kernel,
    (history_exact_window (scriptedEnv_monotone (by decide)) (by decide)
      (run_reachable threeArrivals briefConfig () (.replicate 3 (.push .primary nullPacket)))
      .primary).1⟩

end TwoStream
