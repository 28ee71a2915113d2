import TwoStreamRecovery.RollingStats
import TwoStreamRecovery.Lib.Latest
import Mathlib.Algebra.Order.BigOperators.Group.List
import Mathlib.Algebra.Order.Group.Nat

/-!
# The rolling windows

* `Counter`: the counters that a sample copies. `runStats`: increments, ticks and health updates
  after `report_stats_init`.
* `captures`: where a run has captured samples; `runStats_latest`: the ring holds the latest of them.
* `increments`: how far a part of a run has moved a counter (`runStats_counter`).
* **`rolling_windows_exact`**: the samples found are those of the seconds asked for, and a window is
  the number of increments since its sample.
-/

namespace TwoStream

/-! ### Counters -/

/-- The counters that a sample copies. -/
inductive Counter where
  | packetsReceived (streamId : StreamId)
  | syncErrors (streamId : StreamId)
  | transportErrors (streamId : StreamId)
  | continuityErrors (streamId : StreamId)
  | duplicateCounters (streamId : StreamId)
  | recoveredPackets
  | unrecoverableLoss
  | outputPackets
  | outputContinuityErrors
  | outputDuplicateCounters
  | streamDisagreements
  | primaryDelayOverflows
  | secondaryLossEvents
  | secondaryMissingPackets
  | secondaryMissingAnchors
  | secondaryPacketsTooLate
  | primaryDelayInsufficient
  | recoveryExactCcGap
  | sourceSwitches (streamId : StreamId)
  deriving DecidableEq

/-- The counter now. -/
def Counter.value (stats : WindowedStats) : Counter → ℕ
  | .packetsReceived s => stats.packetsReceived s
  | .syncErrors s => stats.syncErrors s
  | .transportErrors s => stats.transportErrors s
  | .continuityErrors s => stats.continuityErrors s
  | .duplicateCounters s => stats.duplicateCounters s
  | .recoveredPackets => stats.recoveredPackets
  | .unrecoverableLoss => stats.unrecoverableLoss
  | .outputPackets => stats.outputPackets
  | .outputContinuityErrors => stats.outputContinuityErrors
  | .outputDuplicateCounters => stats.outputDuplicateCounters
  | .streamDisagreements => stats.streamDisagreements
  | .primaryDelayOverflows => stats.primaryDelayOverflows
  | .secondaryLossEvents => stats.secondaryLossEvents
  | .secondaryMissingPackets => stats.secondaryMissingPackets
  | .secondaryMissingAnchors => stats.secondaryMissingAnchors
  | .secondaryPacketsTooLate => stats.secondaryPacketsTooLate
  | .primaryDelayInsufficient => stats.primaryDelayInsufficient
  | .recoveryExactCcGap => stats.recoveryExactCcGap
  | .sourceSwitches s => stats.sourceSwitches s

/-- The counter in a sample. -/
def Counter.sampled (sample : ReportStatsSample) : Counter → ℕ
  | .packetsReceived s => sample.packetsReceived s
  | .syncErrors s => sample.syncErrors s
  | .transportErrors s => sample.transportErrors s
  | .continuityErrors s => sample.continuityErrors s
  | .duplicateCounters s => sample.duplicateCounters s
  | .recoveredPackets => sample.recoveredPackets
  | .unrecoverableLoss => sample.unrecoverableLoss
  | .outputPackets => sample.outputPackets
  | .outputContinuityErrors => sample.outputContinuityErrors
  | .outputDuplicateCounters => sample.outputDuplicateCounters
  | .streamDisagreements => sample.streamDisagreements
  | .primaryDelayOverflows => sample.primaryDelayOverflows
  | .secondaryLossEvents => sample.secondaryLossEvents
  | .secondaryMissingPackets => sample.secondaryMissingPackets
  | .secondaryMissingAnchors => sample.secondaryMissingAnchors
  | .secondaryPacketsTooLate => sample.secondaryPacketsTooLate
  | .primaryDelayInsufficient => sample.primaryDelayInsufficient
  | .recoveryExactCcGap => sample.recoveryExactCcGap
  | .sourceSwitches s => sample.sourceSwitches s

/-- Increment the counter of a stream. -/
def addTo (counts : StreamId → ℕ) (streamId : StreamId) (amount : ℕ) : StreamId → ℕ :=
  Function.update counts streamId (counts streamId + amount)

/-- Increment a counter. -/
def Counter.add (amount : ℕ) (stats : WindowedStats) : Counter → WindowedStats
  | .packetsReceived s => { stats with packetsReceived := addTo stats.packetsReceived s amount }
  | .syncErrors s => { stats with syncErrors := addTo stats.syncErrors s amount }
  | .transportErrors s => { stats with transportErrors := addTo stats.transportErrors s amount }
  | .continuityErrors s => { stats with continuityErrors := addTo stats.continuityErrors s amount }
  | .duplicateCounters s =>
    { stats with duplicateCounters := addTo stats.duplicateCounters s amount }
  | .recoveredPackets => { stats with recoveredPackets := stats.recoveredPackets + amount }
  | .unrecoverableLoss => { stats with unrecoverableLoss := stats.unrecoverableLoss + amount }
  | .outputPackets => { stats with outputPackets := stats.outputPackets + amount }
  | .outputContinuityErrors =>
    { stats with outputContinuityErrors := stats.outputContinuityErrors + amount }
  | .outputDuplicateCounters =>
    { stats with outputDuplicateCounters := stats.outputDuplicateCounters + amount }
  | .streamDisagreements => { stats with streamDisagreements := stats.streamDisagreements + amount }
  | .primaryDelayOverflows =>
    { stats with primaryDelayOverflows := stats.primaryDelayOverflows + amount }
  | .secondaryLossEvents => { stats with secondaryLossEvents := stats.secondaryLossEvents + amount }
  | .secondaryMissingPackets =>
    { stats with secondaryMissingPackets := stats.secondaryMissingPackets + amount }
  | .secondaryMissingAnchors =>
    { stats with secondaryMissingAnchors := stats.secondaryMissingAnchors + amount }
  | .secondaryPacketsTooLate =>
    { stats with secondaryPacketsTooLate := stats.secondaryPacketsTooLate + amount }
  | .primaryDelayInsufficient =>
    { stats with primaryDelayInsufficient := stats.primaryDelayInsufficient + amount }
  | .recoveryExactCcGap => { stats with recoveryExactCcGap := stats.recoveryExactCcGap + amount }
  | .sourceSwitches s => { stats with sourceSwitches := addTo stats.sourceSwitches s amount }

variable {stats : WindowedStats} {sample : ReportStatsSample} {c c' : Counter} {amount : ℕ}
  {streamId : StreamId}

theorem addTo_apply (counts : StreamId → ℕ) (s s' : StreamId) :
    addTo counts s' amount s = counts s + if s' = s then amount else 0 := by
  by_cases h : s' = s
  · rw [h, addTo, Function.update_self, if_pos rfl]
  · rw [addTo, Function.update_of_ne (Ne.symm h), if_neg h, Nat.add_zero]

/-- An increment moves its own counter. -/
theorem Counter.value_add :
    c.value (c'.add amount stats) = c.value stats + if c' = c then amount else 0 := by
  cases c' <;> cases c <;> simp [Counter.value, Counter.add, addTo_apply]

/-- A sample copies every counter. -/
theorem Counter.sampled_rollingSample : c.sampled (rollingSample stats) = c.value stats := by
  cases c <;> rfl

/-- An increment leaves the rest of the record. -/
theorem Counter.add_rest (amount : ℕ) (stats : WindowedStats) (c : Counter) :
    (c.add amount stats).rollingSamples = stats.rollingSamples ∧
      (c.add amount stats).rollingIndex = stats.rollingIndex ∧
      (c.add amount stats).rollingCount = stats.rollingCount ∧
      (c.add amount stats).lastSampleNs = stats.lastSampleNs := by
  cases c <;> exact ⟨rfl, rfl, rfl, rfl⟩

/-! ### Runs -/

/-- What happens to the record: an increment, the arrival time of a packet, a tick, a health update. -/
inductive StatsOp where
  | count (counter : Counter) (amount : ℕ)
  | arrived (streamId : StreamId) (nowNs : ℕ)
  | tick (nowNs : ℕ)
  | updateHealth (nowNs : ℕ)

/-- One operation. -/
def statsStep (stats : WindowedStats) : StatsOp → WindowedStats
  | .count counter amount => counter.add amount stats
  | .arrived streamId nowNs =>
    { stats with lastPacketNs := Function.update stats.lastPacketNs streamId nowNs }
  | .tick nowNs => reportStatsTick nowNs stats
  | .updateHealth nowNs => updateStreamHealth nowNs stats

/-- A run after `report_stats_init`. -/
def runStats (startNs : ℕ) (ops : List StatsOp) : WindowedStats :=
  ops.foldl statsStep (windowedStatsInit startNs)

/-- The operation captures a sample: it is a tick, a second after the last capture. -/
def StatsOp.captures (stats : WindowedStats) : StatsOp → Bool
  | .tick nowNs =>
    nowNs != 0 && (stats.lastSampleNs == 0 || 1000000000 ≤ elapsedNs stats.lastSampleNs nowNs)
  | _ => false

/-- The places of a run where a sample has been captured. -/
def captures (startNs : ℕ) (ops : List StatsOp) : List ℕ :=
  (List.range ops.length).filter fun i =>
    ops[i]?.any (StatsOp.captures (runStats startNs (ops.take i)))

/-- The place of the capture `k` captures ago; the last one is one capture ago. -/
def captureAgo (startNs : ℕ) (ops : List StatsOp) (k : ℕ) : Option ℕ :=
  (captures startNs ops)[(captures startNs ops).length - k]?

/-- The sample captured at a place. -/
def sampleAt (startNs : ℕ) (ops : List StatsOp) (i : ℕ) : ReportStatsSample :=
  rollingSample (runStats startNs (ops.take i))

/-- How far an operation moves a counter. -/
def StatsOp.increment (c : Counter) : StatsOp → ℕ
  | .count counter amount => if counter = c then amount else 0
  | _ => 0

/-- How far operations move a counter. -/
def increments (ops : List StatsOp) (c : Counter) : ℕ := (ops.map (StatsOp.increment c)).sum

variable {startNs nowNs : ℕ} {ops : List StatsOp} {op : StatsOp}

theorem runStats_concat (startNs : ℕ) (ops : List StatsOp) (op : StatsOp) :
    runStats startNs (ops ++ [op]) = statsStep (runStats startNs ops) op := by
  rw [runStats, List.foldl_append]
  rfl

/-- A tick captures a sample or does nothing. -/
theorem reportStatsTick_eq (nowNs : ℕ) (stats : WindowedStats) :
    reportStatsTick nowNs stats =
      if (StatsOp.tick nowNs).captures stats then
        { captureRollingSample stats with lastSampleNs := nowNs }
      else stats := by
  have hdue : (StatsOp.tick nowNs).captures stats = true ↔
      ¬ nowNs = 0 ∧ ¬ (stats.lastSampleNs ≠ 0 ∧ elapsedNs stats.lastSampleNs nowNs < 1000000000) := by
    simp only [StatsOp.captures, Bool.and_eq_true, bne_iff_ne, Bool.or_eq_true, beq_iff_eq,
      decide_eq_true_eq]
    omega
  rw [reportStatsTick]
  split
  · next h => rw [if_neg fun h' => (hdue.mp h').1 h]
  · next hnow =>
    split
    · next h => rw [if_neg fun h' => (hdue.mp h').2 h]
    · next h => rw [if_pos (hdue.mpr ⟨hnow, h⟩)]

/-- What an operation does to the ring of samples. -/
theorem statsStep_ring (stats : WindowedStats) (op : StatsOp) :
    (statsStep stats op).rollingSamples =
        (if op.captures stats then captureRollingSample stats else stats).rollingSamples ∧
      (statsStep stats op).rollingIndex =
        (if op.captures stats then captureRollingSample stats else stats).rollingIndex ∧
      (statsStep stats op).rollingCount =
        (if op.captures stats then captureRollingSample stats else stats).rollingCount := by
  cases op with
  | count c amount =>
    obtain ⟨hsamples, hindex, hcount, -⟩ := c.add_rest amount stats
    exact ⟨hsamples, hindex, hcount⟩
  | arrived streamId nowNs => exact ⟨rfl, rfl, rfl⟩
  | tick nowNs =>
    simp only [statsStep, reportStatsTick_eq]
    split <;> exact ⟨rfl, rfl, rfl⟩
  | updateHealth nowNs =>
    simp only [statsStep, updateStreamHealth]
    split <;> exact ⟨rfl, rfl, rfl⟩

/-- What an operation does to a counter. -/
theorem statsStep_value (stats : WindowedStats) (op : StatsOp) (c : Counter) :
    c.value (statsStep stats op) = c.value stats + op.increment c := by
  cases op with
  | count c' amount => exact Counter.value_add
  | arrived streamId nowNs => cases c <;> rfl
  | tick nowNs =>
    rw [statsStep, reportStatsTick_eq]
    split <;> cases c <;> rfl
  | updateHealth nowNs =>
    rw [statsStep, updateStreamHealth]
    split <;> cases c <;> rfl

/-- **A counter** has moved by the increments since any place of the run. -/
theorem runStats_counter (startNs : ℕ) (ops : List StatsOp) (c : Counter) (i : ℕ) :
    c.value (runStats startNs ops) =
      c.value (runStats startNs (ops.take i)) + increments (ops.drop i) c := by
  have hfold : ∀ (stats : WindowedStats) (rest : List StatsOp),
      c.value (rest.foldl statsStep stats) = c.value stats + increments rest c := by
    intro stats rest
    induction rest generalizing stats with
    | nil => rfl
    | cons op rest ih =>
      rw [List.foldl_cons, ih, statsStep_value, increments, increments, List.map_cons, List.sum_cons,
        Nat.add_assoc]
  rw [← hfold, runStats, runStats, ← List.foldl_append, List.take_append_drop]

/-! ### Captures -/

theorem sampleAt_concat_of_le {i : ℕ} (hi : i ≤ ops.length) :
    sampleAt startNs (ops ++ [op]) i = sampleAt startNs ops i := by
  rw [sampleAt, List.take_append_of_le_length hi, sampleAt]

/-- The last operation may be one more capture. -/
theorem captures_concat (startNs : ℕ) (ops : List StatsOp) (op : StatsOp) :
    captures startNs (ops ++ [op]) =
      captures startNs ops ++ if op.captures (runStats startNs ops) then [ops.length] else [] := by
  have hbefore : ∀ i ∈ List.range ops.length,
      (ops ++ [op])[i]?.any (StatsOp.captures (runStats startNs ((ops ++ [op]).take i))) =
        ops[i]?.any (StatsOp.captures (runStats startNs (ops.take i))) := by
    intro i hi
    have hi := List.mem_range.mp hi
    rw [List.getElem?_append_left hi, List.take_append_of_le_length (Nat.le_of_lt hi)]
  rw [captures, List.length_append, List.length_singleton, List.range_succ, List.filter_append,
    List.filter_congr hbefore, captures]
  congr 1
  rw [List.filter_singleton, List.getElem?_concat_length, List.take_left, Option.any_some,
    Bool.cond_eq_ite]

theorem lt_of_mem_captures {i : ℕ} (hi : i ∈ captures startNs ops) : i < ops.length :=
  List.mem_range.mp (List.mem_of_mem_filter hi)

/-- The samples of a run, oldest first. -/
theorem map_sampleAt_concat (startNs : ℕ) (ops : List StatsOp) (op : StatsOp) :
    (captures startNs (ops ++ [op])).map (sampleAt startNs (ops ++ [op])) =
      (captures startNs ops).map (sampleAt startNs ops) ++
        if op.captures (runStats startNs ops) then [rollingSample (runStats startNs ops)] else [] := by
  have hsame : (captures startNs ops).map (sampleAt startNs (ops ++ [op])) =
      (captures startNs ops).map (sampleAt startNs ops) :=
    List.map_congr_left fun i hi => sampleAt_concat_of_le (Nat.le_of_lt (lt_of_mem_captures hi))
  rw [captures_concat, List.map_append, hsame]
  split
  · rw [List.map_singleton, sampleAt_concat_of_le (Nat.le_refl _), sampleAt, List.take_length]
  · rfl

/-- **The ring** holds the latest samples of the run. -/
theorem runStats_latest (startNs : ℕ) (ops : List StatsOp) :
    Latest reportStatsRollingSeconds (runStats startNs ops).rollingSamples
      (runStats startNs ops).rollingIndex (runStats startNs ops).rollingCount
      ((captures startNs ops).map (sampleAt startNs ops)) := by
  induction ops using List.reverseRecOn with
  | nil => exact Latest.nil
  | append_singleton ops op ih =>
    obtain ⟨hsamples, hindex, hcount⟩ := statsStep_ring (runStats startNs ops) op
    rw [runStats_concat, map_sampleAt_concat, hsamples, hindex, hcount]
    cases op.captures (runStats startNs ops) with
    | true => exact ih.write (by decide) _
    | false =>
      rw [if_neg Bool.false_ne_true, if_neg Bool.false_ne_true, List.append_nil]
      exact ih

theorem runStats_rollingCount (startNs : ℕ) (ops : List StatsOp) :
    (runStats startNs ops).rollingCount = min (captures startNs ops).length 60 := by
  rw [(runStats_latest startNs ops).count_eq, List.length_map]

theorem captureAgo_isSome (startNs : ℕ) (ops : List StatsOp) {k : ℕ} (hk : 0 < k)
    (hcaptured : k ≤ (captures startNs ops).length) :
    ∃ i, captureAgo startNs ops k = some i :=
  ⟨_, List.getElem?_eq_getElem (show (captures startNs ops).length - k < _ by omega)⟩

/-- `oldest_rolling_sample` finds the oldest of the last 60 samples. -/
theorem oldestRollingSample_runStats (hcaptured : 0 < (captures startNs ops).length) :
    oldestRollingSample (runStats startNs ops) =
      (captureAgo startNs ops (min (captures startNs ops).length 60)).map (sampleAt startNs ops) := by
  have hcount := runStats_rollingCount startNs ops
  have hne : (captures startNs ops).map (sampleAt startNs ops) ≠ [] := by
    rw [Ne, List.map_eq_nil_iff]
    exact List.ne_nil_of_length_pos hcaptured
  have holdest := (runStats_latest startNs ops).oldest (by decide) hne
  rw [List.length_map, List.getElem?_map, hcount] at holdest
  rw [captureAgo, holdest, oldestRollingSample, hcount, if_neg (by omega)]
  split <;> rfl

/-- `rolling_sample_ago` finds the sample of some seconds ago, while there is one. -/
theorem rollingSampleAgo_runStats (hcaptured : 0 < (captures startNs ops).length) (seconds : ℕ) :
    rollingSampleAgo (runStats startNs ops) seconds =
      if seconds < min (captures startNs ops).length 60 then
        (captureAgo startNs ops (seconds + 1)).map (sampleAt startNs ops)
      else oldestRollingSample (runStats startNs ops) := by
  have hcount := runStats_rollingCount startNs ops
  rw [rollingSampleAgo, hcount, if_neg (by omega)]
  split
  · next hlate => rw [if_neg (Nat.not_lt.mpr hlate)]
  · next hrecent =>
    have hago := (runStats_latest startNs ops).ago (s := seconds) (by omega)
    rw [List.length_map, List.getElem?_map] at hago
    rw [if_pos (Nat.not_le.mp hrecent), captureAgo, hago]

theorem exists_oldestRollingSample (hcaptured : 0 < (captures startNs ops).length) :
    ∃ i, captureAgo startNs ops (min (captures startNs ops).length 60) = some i ∧
      oldestRollingSample (runStats startNs ops) = some (sampleAt startNs ops i) := by
  obtain ⟨i, hi⟩ := captureAgo_isSome startNs ops
    (k := min (captures startNs ops).length 60) (by omega) (by omega)
  refine ⟨i, hi, ?_⟩
  rw [oldestRollingSample_runStats hcaptured, hi]
  rfl

theorem exists_rollingSampleAgo (hcaptured : 0 < (captures startNs ops).length) {seconds : ℕ}
    (hseconds : seconds < min (captures startNs ops).length 60) :
    ∃ i, captureAgo startNs ops (seconds + 1) = some i ∧
      rollingSampleAgo (runStats startNs ops) seconds = some (sampleAt startNs ops i) := by
  obtain ⟨i, hi⟩ := captureAgo_isSome startNs ops (k := seconds + 1) (by omega) (by omega)
  refine ⟨i, hi, ?_⟩
  rw [rollingSampleAgo_runStats hcaptured, if_pos hseconds, hi]
  rfl

/-! ### Windows -/

/-- The counters that `stream_problem_delta` compares. -/
def problemCounters (streamId : StreamId) : List Counter :=
  [.syncErrors streamId, .transportErrors streamId, .continuityErrors streamId,
    .duplicateCounters streamId] ++
  (match streamId with
    | .primary =>
      [.recoveredPackets, .unrecoverableLoss, .primaryDelayInsufficient, .recoveryExactCcGap]
    | .secondary =>
      [.secondaryLossEvents, .secondaryMissingPackets, .secondaryMissingAnchors,
        .secondaryPacketsTooLate]) ++
  [.streamDisagreements]

/-- The counters that `output_problem_delta` compares. -/
def outputProblemCounters : List Counter :=
  [.outputContinuityErrors, .outputDuplicateCounters, .unrecoverableLoss]

theorem streamProblemDelta_some (stats : WindowedStats) (sample : ReportStatsSample)
    (streamId : StreamId) :
    streamProblemDelta stats (some sample) streamId =
      ((problemCounters streamId).map fun c => counterSub (c.value stats) (c.sampled sample)).sum := by
  cases streamId <;>
    simp only [streamProblemDelta, problemCounters, counterSince, Option.map_some, Option.elim_some,
      List.map_append, List.map_cons, List.map_nil, List.sum_append, List.sum_cons, List.sum_nil,
      Counter.value, Counter.sampled] <;>
    omega

theorem outputProblemDelta_some (stats : WindowedStats) (sample : ReportStatsSample) :
    outputProblemDelta stats (some sample) =
      (outputProblemCounters.map fun c => counterSub (c.value stats) (c.sampled sample)).sum := by
  simp only [outputProblemDelta, outputProblemCounters, List.map_cons, List.map_nil, List.sum_cons,
    List.sum_nil, Counter.value, Counter.sampled]
  omega

theorem counterSub_add (a n : ℕ) : counterSub (a + n) a = n := by
  rw [counterSub, if_pos (Nat.le_add_right a n), Nat.add_sub_cancel_left]

/-- What a sample lacks of a counter is the increments since its capture. -/
theorem value_eq_sampled_add (startNs : ℕ) (ops : List StatsOp) (c : Counter) (i : ℕ) :
    c.value (runStats startNs ops) =
      c.sampled (sampleAt startNs ops i) + increments (ops.drop i) c := by
  rw [sampleAt, Counter.sampled_rollingSample]
  exact runStats_counter startNs ops c i

theorem counterSub_sampleAt (startNs : ℕ) (ops : List StatsOp) (c : Counter) (i : ℕ) :
    counterSub (c.value (runStats startNs ops)) (c.sampled (sampleAt startNs ops i)) =
      increments (ops.drop i) c := by
  rw [value_eq_sampled_add, counterSub_add]

theorem sampled_le_value (startNs : ℕ) (ops : List StatsOp) (c : Counter) (i : ℕ) :
    c.sampled (sampleAt startNs ops i) ≤ c.value (runStats startNs ops) := by
  rw [value_eq_sampled_add startNs ops c i]
  exact Nat.le_add_right _ _

/-- **Rolling windows are exact.** In a run that has captured samples, `oldest_rolling_sample` is the
oldest of the last 60, and `rolling_sample_ago` the one captured a second more ago than it is asked
for, or else the oldest. No counter has fallen behind a sample, and the windows count the increments
since the capture. -/
theorem rolling_windows_exact (startNs : ℕ) (ops : List StatsOp)
    (hcaptured : 0 < (captures startNs ops).length) :
    (∃ i, captureAgo startNs ops (min (captures startNs ops).length 60) = some i ∧
      oldestRollingSample (runStats startNs ops) = some (sampleAt startNs ops i) ∧
      computeRollingWindow (runStats startNs ops) =
        { winPackets := fun s => increments (ops.drop i) (.packetsReceived s)
          winCcErrors := fun s => increments (ops.drop i) (.continuityErrors s)
          winRecovered := increments (ops.drop i) .recoveredPackets
          winUnrecoverable := increments (ops.drop i) .unrecoverableLoss
          winOutput := increments (ops.drop i) .outputPackets }) ∧
    (∀ seconds < min (captures startNs ops).length 60,
      ∃ i, captureAgo startNs ops (seconds + 1) = some i ∧
        rollingSampleAgo (runStats startNs ops) seconds = some (sampleAt startNs ops i)) ∧
    (∀ seconds, min (captures startNs ops).length 60 ≤ seconds →
      rollingSampleAgo (runStats startNs ops) seconds =
        oldestRollingSample (runStats startNs ops)) ∧
    ∀ i ∈ captures startNs ops,
      (∀ c : Counter, c.sampled (sampleAt startNs ops i) ≤ c.value (runStats startNs ops)) ∧
      (∀ streamId, streamProblemDelta (runStats startNs ops) (some (sampleAt startNs ops i)) streamId =
        ((problemCounters streamId).map (increments (ops.drop i))).sum) ∧
      outputProblemDelta (runStats startNs ops) (some (sampleAt startNs ops i)) =
        (outputProblemCounters.map (increments (ops.drop i))).sum := by
  refine ⟨?_, fun seconds hseconds => ?_, fun seconds hseconds => ?_, fun i _ => ⟨fun c => ?_, ?_, ?_⟩⟩
  · obtain ⟨i, hi, holdest⟩ := exists_oldestRollingSample hcaptured
    have hsub := fun c => counterSub_sampleAt startNs ops c i
    refine ⟨i, hi, holdest, ?_⟩
    rw [computeRollingWindow, holdest]
    simp only [← hsub, Counter.value, Counter.sampled]
  · exact exists_rollingSampleAgo hcaptured hseconds
  · rw [rollingSampleAgo_runStats hcaptured, if_neg (Nat.not_lt.mpr hseconds)]
  · exact sampled_le_value startNs ops c i
  · intro streamId
    rw [streamProblemDelta_some]
    simp only [counterSub_sampleAt]
  · rw [outputProblemDelta_some]
    simp only [counterSub_sampleAt]

/-- Two seconds, with two errors in the first and a recovered packet after the second. -/
def sampledOps : List StatsOp :=
  [.tick 2000000000, .count (.packetsReceived .primary) 5, .count (.continuityErrors .primary) 2,
    .tick 2500000000, .tick 3000000000, .count .recoveredPackets 1]

/-- The window since the first sample counts all of them. -/
theorem rolling_windows_exact_sampledOps :
    captures 1000000000 sampledOps = [0, 4] ∧
      streamProblemDelta (runStats 1000000000 sampledOps)
        (some (sampleAt 1000000000 sampledOps 0)) .primary = 3 := by
  have hcaptures : captures 1000000000 sampledOps = [0, 4] := by decide +kernel
  have hcaptured : 0 < (captures 1000000000 sampledOps).length := by
    rw [hcaptures]
    decide
  obtain ⟨-, -, -, hwindows⟩ := rolling_windows_exact 1000000000 sampledOps hcaptured
  obtain ⟨-, hdelta, -⟩ := hwindows 0 (by rw [hcaptures]; decide)
  exact ⟨hcaptures, (hdelta .primary).trans (by decide +kernel)⟩

end TwoStream
