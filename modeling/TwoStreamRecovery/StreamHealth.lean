import TwoStreamRecovery.RollingWindow

/-!
# Health after a quiet period (`update_stream_health`)

* `HealthDue`, `IsOffline`: when the health is judged, and when it does not depend on problems.
* **`health_recovers_iff`**: after a quiet period a stream is healthy exactly if no problem is left in
  the rolling window either.
-/

namespace TwoStream

/-- The interval between two health updates has elapsed. -/
def HealthDue (nowNs : ℕ) (stats : WindowedStats) : Prop :=
  nowNs = 0 ∨ stats.lastHealthUpdateNs = 0 ∨
    reportStatsHealthIntervalNs ≤ elapsedNs stats.lastHealthUpdateNs nowNs

/-- No packet of the stream has arrived for a while. -/
def IsOffline (nowNs : ℕ) (stats : WindowedStats) (streamId : StreamId) : Prop :=
  nowNs ≠ 0 ∧ stats.lastPacketNs streamId ≠ 0 ∧
    reportStatsOfflineNs ≤ elapsedNs (stats.lastPacketNs streamId) nowNs

/-- No problem of the stream has been counted since the sample. -/
def QuietSince (stats : WindowedStats) (streamId : StreamId) (sample : ReportStatsSample) : Prop :=
  ∀ c ∈ problemCounters streamId, c.value stats = c.sampled sample

instance (nowNs : ℕ) (stats : WindowedStats) : Decidable (HealthDue nowNs stats) :=
  inferInstanceAs (Decidable (_ ∨ _))

instance (nowNs : ℕ) (stats : WindowedStats) (streamId : StreamId) :
    Decidable (IsOffline nowNs stats streamId) :=
  inferInstanceAs (Decidable (_ ∧ _))

instance (stats : WindowedStats) (streamId : StreamId) (sample : ReportStatsSample) :
    Decidable (QuietSince stats streamId sample) :=
  inferInstanceAs (Decidable (∀ c ∈ problemCounters streamId, _))

variable {startNs nowNs : ℕ} {ops : List StatsOp} {stats : WindowedStats} {streamId : StreamId}
  {sample : ReportStatsSample}

/-! ### Problems in a window -/

/-- No problem is counted in a window without increments. -/
theorem streamProblemDelta_eq_zero (streamId : StreamId)
    (hle : ∀ c : Counter, c.sampled sample ≤ c.value stats) :
    streamProblemDelta stats (some sample) streamId = 0 ↔ QuietSince stats streamId sample := by
  rw [streamProblemDelta_some, List.sum_eq_zero_iff_forall_eq_nat]
  constructor
  · intro h c hc
    have hzero := h _ (List.mem_map_of_mem hc)
    rw [counterSub, if_pos (hle c)] at hzero
    exact Nat.le_antisymm (Nat.sub_eq_zero_iff_le.mp hzero) (hle c)
  · intro h n hn
    obtain ⟨c, hc, rfl⟩ := List.mem_map.mp hn
    rw [h c hc, counterSub, if_pos (Nat.le_refl _), Nat.sub_self]

theorem healthFromRecent_eq_healthy {packets : ℕ} (hpackets : packets ≠ 0)
    (problems quietProblems : ℕ) :
    healthFromRecent packets problems quietProblems = .healthy ↔
      problems = 0 ∧ quietProblems = 0 := by
  rw [healthFromRecent, if_neg hpackets]
  split
  · next h => exact ⟨fun _ => h, fun _ => rfl⟩
  · next h =>
    refine ⟨fun hhealthy => ?_, fun h' => absurd h' h⟩
    split at hhealthy
    · cases hhealthy
    · split at hhealthy <;> cases hhealthy

theorem updateStreamHealth_streamHealth (hdue : HealthDue nowNs stats)
    (honline : ¬ IsOffline nowNs stats streamId) :
    (updateStreamHealth nowNs stats).streamHealth streamId =
      healthFromRecent
        (counterSince (stats.packetsReceived streamId)
          ((oldestRollingSample stats).map (·.packetsReceived streamId)))
        (streamProblemDelta stats (oldestRollingSample stats) streamId)
        (streamProblemDelta stats (rollingSampleAgo stats reportStatsQuietSeconds) streamId) := by
  have hinterval : ¬ (nowNs ≠ 0 ∧ stats.lastHealthUpdateNs ≠ 0 ∧
      elapsedNs stats.lastHealthUpdateNs nowNs < reportStatsHealthIntervalNs) := by
    rintro ⟨hnow, hlast, hearly⟩
    rcases hdue with h | h | h
    · exact hnow h
    · exact hlast h
    · omega
  rw [updateStreamHealth, if_neg hinterval]
  exact if_neg honline

/-- **A quiet period does not restore health.** Let a stream have received packets since the oldest of
more than 30 samples, none of them late, and let none of its problem counters have moved for 30
samples. A health update then finds it healthy exactly if they have not moved since the oldest sample
either. -/
theorem health_recovers_iff (startNs nowNs : ℕ) (ops : List StatsOp) (streamId : StreamId)
    (hcaptured : reportStatsQuietSeconds < (captures startNs ops).length)
    (hquiet : ∀ sample ∈ rollingSampleAgo (runStats startNs ops) reportStatsQuietSeconds,
      QuietSince (runStats startNs ops) streamId sample)
    (hreceived : ∀ sample ∈ oldestRollingSample (runStats startNs ops),
      sample.packetsReceived streamId < (runStats startNs ops).packetsReceived streamId)
    (honline : ¬ IsOffline nowNs (runStats startNs ops) streamId)
    (hdue : HealthDue nowNs (runStats startNs ops)) :
    (updateStreamHealth nowNs (runStats startNs ops)).streamHealth streamId = .healthy ↔
      ∀ sample ∈ oldestRollingSample (runStats startNs ops),
        QuietSince (runStats startNs ops) streamId sample := by
  have hpos : 0 < (captures startNs ops).length := Nat.zero_lt_of_lt hcaptured
  obtain ⟨i, -, holdest⟩ := exists_oldestRollingSample hpos
  obtain ⟨j, -, hago⟩ := exists_rollingSampleAgo hpos (lt_min hcaptured (by decide))
  have hzero := fun k => streamProblemDelta_eq_zero streamId fun c => sampled_le_value startNs ops c k
  have hreceived := hreceived _ holdest
  have hpackets : counterSub ((runStats startNs ops).packetsReceived streamId)
      ((sampleAt startNs ops i).packetsReceived streamId) ≠ 0 := by
    rw [counterSub, if_pos (Nat.le_of_lt hreceived)]
    omega
  rw [updateStreamHealth_streamHealth hdue honline, holdest, hago, Option.map_some, counterSince,
    Option.elim_some, healthFromRecent_eq_healthy hpackets, hzero, hzero]
  constructor
  · rintro ⟨hwindow, -⟩ sample hsample
    rw [← Option.some.inj hsample]
    exact hwindow
  · exact fun h => ⟨h _ rfl, hquiet _ hago⟩

/-- A second of the primary, with 1000 packets. -/
def secondOps (i : ℕ) : List StatsOp :=
  [.count (.packetsReceived .primary) 1000, .arrived .primary ((i + 2) * 1000000000),
    .tick ((i + 2) * 1000000000)]

/-- Thirty-three seconds without a problem. -/
theorem health_recovers_iff_quiet :
    (updateStreamHealth 35000000000
      (runStats 1000000000 ((List.range 33).flatMap secondOps ++
        [.count (.packetsReceived .primary) 1]))).streamHealth .primary = .healthy := by
  refine (health_recovers_iff _ _ _ _ ?_ ?_ ?_ ?_ ?_).mpr ?_ <;> decide +kernel

/-- One repeated counter after the first second, then 32 seconds without a problem. -/
def recoveredOps : List StatsOp :=
  secondOps 0 ++ .count (.duplicateCounters .primary) 1 :: (List.range' 1 32).flatMap secondOps

/-- The stream is still degraded. -/
theorem quiet_stream_degraded :
    ¬ ∀ (startNs nowNs : ℕ) (ops : List StatsOp) (streamId : StreamId),
      reportStatsQuietSeconds < (captures startNs ops).length →
      (∀ sample ∈ rollingSampleAgo (runStats startNs ops) reportStatsQuietSeconds,
        QuietSince (runStats startNs ops) streamId sample) →
      (∀ sample ∈ oldestRollingSample (runStats startNs ops),
        sample.packetsReceived streamId < (runStats startNs ops).packetsReceived streamId) →
      ¬ IsOffline nowNs (runStats startNs ops) streamId →
      HealthDue nowNs (runStats startNs ops) →
      (updateStreamHealth nowNs (runStats startNs ops)).streamHealth streamId = .healthy := by
  intro h
  have hdegraded : (updateStreamHealth 35000000000
      (runStats 1000000000 recoveredOps)).streamHealth .primary = .degraded := by
    decide +kernel
  have hhealthy := h 1000000000 35000000000 recoveredOps .primary (by decide +kernel)
    (by decide +kernel) (by decide +kernel) (by decide +kernel) (by decide +kernel)
  rw [hdegraded] at hhealthy
  cases hhealthy

end TwoStream
