import TwoStreamRecovery.Invariant
import TwoStreamRecovery.Lib.Wrapping
import TwoStreamRecovery.NumericValues
import Mathlib.Algebra.Order.Floor.Div
import Mathlib.GroupTheory.GroupAction.Ring

/-!
# Sizes from the configuration

* `Sized`: a run keeps its configuration and the blocks of its histories.
* `ExactSizes`: the capacity of the histories, the radius of the wide search and the retention are
  those of exact arithmetic, and no young record is pruned.
* **`sizes_exact_iff`**: so it is exactly where `SizesFit`; there the sizes grow with the configuration.
-/

namespace TwoStream

variable {σ : Type} {env : Env σ} {w w' : World σ} {config config' : RecoveryEngineConfig}

/-! ### The sizes of a run -/

/-- The configuration and the blocks of the histories are those of the start. -/
structure Sized (config : RecoveryEngineConfig) (w : World σ) : Prop where
  kept : w.engine.config = (recoveryEngineInitWithConfig config).config
  capacity : ∀ s, (w.engine.history s).capacity = historyCapacityFromConfig config

theorem pushHistory_capacity (config : RecoveryEngineConfig) (history : PacketHistory)
    (r : PacketRecord) : (pushHistory config history r).capacity = history.capacity := by
  simp only [pushHistory, packetHistoryPruneOlderThan]
  split
  · rw [RingBuffer.popWhile_capacity, RingBuffer.pushEvict_capacity]
  · rw [RingBuffer.pushEvict_capacity]

theorem reachable_sized {sinkState : σ} (hreach : Reachable env config sinkState w) :
    Sized config w := by
  refine hreach.invariant ⟨rfl, fun _ => rfl⟩ fun w w' hstage _ hw => ?_
  rcases hstage.cases_push with ⟨streamId, p, hingested⟩ | hconsumes
  · obtain ⟨a, i, primaryQueue, secondaryQueue, he⟩ := hingested.engine
    refine ⟨by rw [he]; exact hw.kept, fun s => ?_⟩
    rw [he]
    by_cases hs : s = streamId
    · subst hs
      simp only [Function.update_self, pushHistory_capacity]
      exact hw.capacity s
    · simp only [Function.update_of_ne hs]
      exact hw.capacity s
  · exact ⟨hconsumes.config.trans hw.kept, fun s => by rw [hconsumes.history]; exact hw.capacity s⟩

/-! ### Exact arithmetic -/

/-- `history_retention_ns` of a push. -/
def historyRetentionNs (config : RecoveryEngineConfig) : ℕ := config.historyMs * 1000000 % 2 ^ 64

theorem pushHistory_eq (config : RecoveryEngineConfig) (history : PacketHistory) (r : PacketRecord) :
    pushHistory config history r =
      if decide (0 < historyRetentionNs config) && decide (historyRetentionNs config < r.arrivalTimeNs)
      then packetHistoryPruneOlderThan (history.pushEvict r)
        (r.arrivalTimeNs - historyRetentionNs config)
      else history.pushEvict r := rfl

/-- The capacity without a wrap. -/
def exactHistoryCapacity (config : RecoveryEngineConfig) : ℕ :=
  if config.historyMs = 0 then 65536 else clamp 8192 1048576 (14 * config.historyMs)

/-- The sizes are those of exact arithmetic. -/
structure ExactSizes (env : Env σ) (config : RecoveryEngineConfig) (sinkState : σ) : Prop where
  capacity : config.historyMs ≠ 0 →
    historyCapacityFromConfig config = clamp 8192 1048576 (14 * config.historyMs)
  radius : ∀ w, Reachable env config sinkState w →
    alignmentSearchRadiusPackets w.engine =
      clamp 2048 (w.engine.history .primary).capacity (14 * config.alignmentWindowNs ⌈/⌉ 1000000)
  retention : historyRetentionNs config = config.historyMs * 1000000
  young : ∀ (history : PacketHistory) (r old : PacketRecord), old ∈ (history.pushEvict r).toList →
    old ∉ (pushHistory config history r).toList →
      old.arrivalTimeNs + config.historyMs * 1000000 < r.arrivalTimeNs

/-- The retention fits 64 bits, and the radius does or reaches the capacity after its wrap. -/
structure SizesFit (config : RecoveryEngineConfig) : Prop where
  history : config.historyMs * 1000000 < 2 ^ 64
  window : 14 * config.alignmentWindowNs + 999999 < 2 ^ 64 ∨
    exactHistoryCapacity config * 1000000 ≤ (14 * config.alignmentWindowNs + 999999) % 2 ^ 64

theorem historyRetentionNs_eq_iff :
    historyRetentionNs config = config.historyMs * 1000000 ↔ config.historyMs * 1000000 < 2 ^ 64 :=
  Nat.mod_eq_iff_lt (by decide)

theorem historyCapacityFromConfig_eq (hfits : config.historyMs * 1000000 < 2 ^ 64) :
    historyCapacityFromConfig config = exactHistoryCapacity config := by
  have hpackets : (config.historyMs * 14000 % 2 ^ 64 + 999) % 2 ^ 64 / 1000 = 14 * config.historyMs := by
    omega
  simp only [historyCapacityFromConfig, exactHistoryCapacity, clamp, hpackets]
  split_ifs <;> omega

theorem historyCapacityFromConfig_bounds (config : RecoveryEngineConfig) :
    8192 ≤ historyCapacityFromConfig config ∧ historyCapacityFromConfig config ≤ 1048576 := by
  simp only [historyCapacityFromConfig]
  split_ifs <;> omega

theorem ceilDiv_million (n : ℕ) : n ⌈/⌉ 1000000 = (n + 999999) / 1000000 := by
  rw [Nat.ceilDiv_eq_add_pred_div, Nat.add_sub_assoc (by decide)]

/-- The radius, with its single wrap. -/
theorem alignmentSearchRadiusPackets_eq (e : RecoveryEngine) :
    alignmentSearchRadiusPackets e = clamp 2048 (e.history .primary).capacity
      ((14 * e.config.alignmentWindowNs + 999999) % 2 ^ 64 / 1000000) := by
  simp only [alignmentSearchRadiusPackets, clamp]
  rw [Nat.mod_add_mod, Nat.mul_comm 14]
  split_ifs <;> omega

theorem alignmentSearchRadiusPackets_eq_iff {sinkState : σ}
    (hreach : Reachable env config sinkState w) :
    alignmentSearchRadiusPackets w.engine = clamp 2048 (w.engine.history .primary).capacity
        (14 * config.alignmentWindowNs ⌈/⌉ 1000000) ↔
      14 * config.alignmentWindowNs + 999999 < 2 ^ 64 ∨
        historyCapacityFromConfig config * 1000000 ≤
          (14 * config.alignmentWindowNs + 999999) % 2 ^ 64 := by
  obtain ⟨hconfig, hcapacity⟩ := reachable_sized hreach
  obtain ⟨hlow, hhigh⟩ := historyCapacityFromConfig_bounds config
  have hwindow : w.engine.config.alignmentWindowNs = config.alignmentWindowNs := by
    rw [hconfig]
    rfl
  rw [alignmentSearchRadiusPackets_eq, hcapacity, hwindow, ceilDiv_million]
  exact clamp_wrap_iff (by omega) (by decide) (by omega)

/-- What a push prunes is older than the retention. -/
theorem old_of_pruned {history : PacketHistory} {r old : PacketRecord}
    (hmem : old ∈ (history.pushEvict r).toList) (hpruned : old ∉ (pushHistory config history r).toList) :
    old.arrivalTimeNs + historyRetentionNs config < r.arrivalTimeNs := by
  rw [pushHistory_eq] at hpruned
  split at hpruned
  · rw [packetHistoryPruneOlderThan, RingBuffer.toList_popWhile] at hpruned
    have hsplit := List.takeWhile_append_dropWhile
      (p := fun x : PacketRecord => decide (x.arrivalTimeNs < r.arrivalTimeNs - historyRetentionNs config))
      (l := (history.pushEvict r).toList)
    rw [← hsplit] at hmem
    have hold := List.mem_takeWhile_imp ((List.mem_append.mp hmem).resolve_right hpruned)
    rw [decide_eq_true_eq] at hold
    omega
  · exact absurd hmem hpruned

theorem SizesFit.exactSizes (h : SizesFit config) (env : Env σ) (sinkState : σ) :
    ExactSizes env config sinkState := by
  have hcapacity := historyCapacityFromConfig_eq h.history
  have hretention := historyRetentionNs_eq_iff.mpr h.history
  constructor
  · intro hpos
    rw [hcapacity, exactHistoryCapacity, if_neg hpos]
  · intro w hreach
    rw [alignmentSearchRadiusPackets_eq_iff hreach, hcapacity]
    exact h.window
  · exact hretention
  · intro history r old hmem hpruned
    have hold := old_of_pruned hmem hpruned
    rwa [hretention] at hold

theorem ExactSizes.sizesFit {sinkState : σ} (h : ExactSizes env config sinkState) :
    SizesFit config := by
  have hfits := historyRetentionNs_eq_iff.mp h.retention
  have hfresh : Reachable env config sinkState (freshWorld config sinkState) := .refl
  have hradius := (alignmentSearchRadiusPackets_eq_iff hfresh).mp (h.radius _ hfresh)
  rw [historyCapacityFromConfig_eq hfits] at hradius
  exact ⟨hfits, hradius⟩

theorem SizesFit.capacity_mono (h : SizesFit config) (h' : SizesFit config')
    (hpos : config.historyMs ≠ 0) (hle : config.historyMs ≤ config'.historyMs) :
    historyCapacityFromConfig config ≤ historyCapacityFromConfig config' := by
  rw [historyCapacityFromConfig_eq h.history, historyCapacityFromConfig_eq h'.history,
    exactHistoryCapacity, exactHistoryCapacity, if_neg hpos, if_neg (by omega)]
  exact clamp_mono (Nat.mul_le_mul_left 14 hle) le_rfl

theorem SizesFit.radius_mono (h : SizesFit config) (h' : SizesFit config')
    (hcapacity : historyCapacityFromConfig config ≤ historyCapacityFromConfig config')
    (hle : config.alignmentWindowNs ≤ config'.alignmentWindowNs) :
    alignmentSearchRadiusPackets (recoveryEngineInitWithConfig config) ≤
      alignmentSearchRadiusPackets (recoveryEngineInitWithConfig config') := by
  have hradius := (h.exactSizes (scriptedEnv [] 1) ()).radius _ .refl
  have hradius' := (h'.exactSizes (scriptedEnv [] 1) ()).radius _ .refl
  simp only [freshWorld] at hradius hradius'
  rw [hradius, hradius', ceilDiv_million, ceilDiv_million]
  exact clamp_mono (Nat.div_le_div_right (by omega)) hcapacity

/-- **Sizing arithmetic**, for every configuration: the sizes are exact if and only if they fit, and
configurations that fit have sizes that grow with the history and with the alignment window. -/
theorem sizes_exact_iff (env : Env σ) (config : RecoveryEngineConfig) (sinkState : σ) :
    (ExactSizes env config sinkState ↔ SizesFit config) ∧
      ∀ config', SizesFit config → SizesFit config' →
        (config.historyMs ≠ 0 → config.historyMs ≤ config'.historyMs →
          historyCapacityFromConfig config ≤ historyCapacityFromConfig config') ∧
        (historyCapacityFromConfig config ≤ historyCapacityFromConfig config' →
          config.alignmentWindowNs ≤ config'.alignmentWindowNs →
            alignmentSearchRadiusPackets (recoveryEngineInitWithConfig config) ≤
              alignmentSearchRadiusPackets (recoveryEngineInitWithConfig config')) :=
  ⟨⟨ExactSizes.sizesFit, fun h => h.exactSizes env sinkState⟩, fun _ h h' =>
    ⟨h.capacity_mono h', h.radius_mono h'⟩⟩

/-- A command line that ends with the two inputs. -/
theorem commandLineParseFrom_inputs {options : CommandLineOptions}
    (hprimary : options.inputPrimaryUrl = none) (hsecondary : options.inputSecondaryUrl = none)
    (primary secondary : CString) :
    commandLineParseFrom options
        ["--input-primary-url".toList, primary, "--input-secondary-url".toList, secondary] =
      .ok { options with inputPrimaryUrl := some primary, inputSecondaryUrl := some secondary } := by
  simp [commandLineParseFrom, commandLineOption, CommandLineOption.ofName, TextOption.given,
    TextOption.store, hprimary, hsecondary]

/-- A history of 18446744073710 ms. -/
def longHistory : List CString :=
  ["--history-ms".toList, "18446744073710".toList, "--input-primary-url".toList, ['h', ':', '1'],
    "--input-secondary-url".toList, ['h', ':', '2']]

/-- The command line accepts it, and the retention wraps to 448384 ns. -/
theorem long_history_wraps :
    ¬ ∀ args options, commandLineParse args = .ok options →
      ExactSizes (scriptedEnv [] 1) options.recoveryConfig () := by
  intro h
  have hvalue : (strtoull "18446744073710".toList).isComplete "18446744073710".toList = true ∧
      (strtoull "18446744073710".toList).value = 18446744073710 := by
    decide +kernel
  have hin : NumericOption.historyMs.inRange (strtoull "18446744073710".toList).value := by
    rw [hvalue.2]
    show 18446744073710 < 2 ^ 64
    decide
  have hport : NumericOption.historyMs = .httpPort → commandLineDefaults.httpPort = 0 := nofun
  have hparse := (commandLineParseFrom_numeric hport _).mpr
    ⟨hvalue.1, hin, commandLineParseFrom_inputs rfl rfl ['h', ':', '1'] ['h', ':', '2']⟩
  have hfits := (h longHistory _ hparse).sizesFit.history
  simp only [NumericOption.store, hvalue.2] at hfits
  exact absurd hfits (by decide)

end TwoStream
