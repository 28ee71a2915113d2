import TwoStreamRecovery.Engine.Record

/-!
# Counters of the inputs (`report_stats_observe_packet`)

* `ReceptionStats`: the part of `report_stats_t` that is written for each received packet.
* `reportStatsObservePacket`.
* `ReceptionStats.counterOf`: the counter remembered for a PID; `observePacket_counterOf` and
  `observePacket_continuityErrors` say what a packet does to it and to the errors.
-/

namespace TwoStream

/-- `REPORT_STATS_OFFLINE_NS`. -/
abbrev reportStatsOfflineNs : ℕ := 5000000000

/-- `report_stats_t`, restricted to what `report_stats_observe_packet` reads and writes. -/
structure ReceptionStats where
  packetsReceived : StreamId → ℕ
  transportErrors : StreamId → ℕ
  continuityErrors : StreamId → ℕ
  duplicateCounters : StreamId → ℕ
  nullPackets : StreamId → ℕ
  pcrPackets : StreamId → ℕ
  perPidPackets : StreamId → ℕ → ℕ
  lastPacketNs : StreamId → ℕ
  lastContinuityCounter : StreamId → ℕ → ℕ
  hasContinuityCounter : StreamId → ℕ → Bool

/-- `report_stats_init` at `startNs`. -/
def receptionStatsInit (startNs : ℕ) : ReceptionStats where
  packetsReceived _ := 0
  transportErrors _ := 0
  continuityErrors _ := 0
  duplicateCounters _ := 0
  nullPackets _ := 0
  pcrPackets _ := 0
  perPidPackets _ _ := 0
  lastPacketNs _ := startNs
  lastContinuityCounter _ _ := 0
  hasContinuityCounter _ _ := false

/-- Count one more for a stream if `b` holds. -/
def bump (counts : StreamId → ℕ) (streamId : StreamId) (b : Bool) : StreamId → ℕ :=
  Function.update counts streamId (counts streamId + if b then 1 else 0)

/-- Overwrite the entry of a PID of a stream. -/
def setPid {α : Type} (table : StreamId → ℕ → α) (streamId : StreamId) (pid : ℕ) (a : α) :
    StreamId → ℕ → α :=
  Function.update table streamId (Function.update (table streamId) pid a)

/-- `reset_stream_continuity`. -/
def resetStreamContinuity (stats : ReceptionStats) (streamId : StreamId) : ReceptionStats :=
  { stats with
    hasContinuityCounter := Function.update stats.hasContinuityCounter streamId fun _ => false }

/-- The reset after a pause. -/
def resetIfOffline (nowNs : ℕ) (stats : ReceptionStats) (streamId : StreamId) : ReceptionStats :=
  if nowNs ≠ 0 ∧ stats.lastPacketNs streamId ≠ 0 ∧
      reportStatsOfflineNs ≤ elapsedNs (stats.lastPacketNs streamId) nowNs then
    resetStreamContinuity stats streamId
  else stats

/-- What is counted for every packet. -/
def countReceived (nowNs : ℕ) (stats : ReceptionStats) (streamId : StreamId) (info : TsPacketInfo) :
    ReceptionStats :=
  { stats with
    packetsReceived := bump stats.packetsReceived streamId true
    lastPacketNs := Function.update stats.lastPacketNs streamId nowNs
    perPidPackets :=
      setPid stats.perPidPackets streamId info.pid (stats.perPidPackets streamId info.pid + 1)
    transportErrors := bump stats.transportErrors streamId info.transportError
    nullPackets := bump stats.nullPackets streamId info.isNull
    pcrPackets := bump stats.pcrPackets streamId info.hasPcr }

/-- Remember the counter of a packet. -/
def rememberCounter (stats : ReceptionStats) (streamId : StreamId) (info : TsPacketInfo) :
    ReceptionStats :=
  { stats with
    lastContinuityCounter :=
      setPid stats.lastContinuityCounter streamId info.pid info.continuityCounter
    hasContinuityCounter := setPid stats.hasContinuityCounter streamId info.pid true }

/-- The comparison of a packet's counter with the last one of its PID. -/
def judgeCounter (stats : ReceptionStats) (streamId : StreamId) (info : TsPacketInfo) (last : ℕ) :
    ReceptionStats :=
  if info.hasPayload then
    if info.continuityCounter = last then
      { stats with duplicateCounters := bump stats.duplicateCounters streamId true }
    else if info.continuityCounter ≠ nextCc last then
      { stats with continuityErrors := bump stats.continuityErrors streamId true }
    else stats
  else if info.continuityCounter ≠ last then
    { stats with continuityErrors := bump stats.continuityErrors streamId true }
  else stats

/-- `report_stats_observe_packet`. -/
def reportStatsObservePacket (nowNs : ℕ) (stats : ReceptionStats) (streamId : StreamId)
    (info : TsPacketInfo) : ReceptionStats :=
  let stats := countReceived nowNs (resetIfOffline nowNs stats streamId) streamId info
  if info.isNull || info.transportError || info.discontinuityIndicator then
    rememberCounter stats streamId info
  else if !stats.hasContinuityCounter streamId info.pid then rememberCounter stats streamId info
  else
    let stats := judgeCounter stats streamId info (stats.lastContinuityCounter streamId info.pid)
    { stats with
      lastContinuityCounter :=
        setPid stats.lastContinuityCounter streamId info.pid info.continuityCounter }

/-! ### Remembered counters -/

/-- A packet that both input diagnoses judge. -/
def TsPacketInfo.isClean (info : TsPacketInfo) : Bool :=
  !info.isNull && !info.transportError && !info.discontinuityIndicator

/-- A packet with counter `cc` does not follow a packet of its PID with counter `previous`. -/
def breaksCounter (cc : ℕ) (hasPayload : Bool) : Option ℕ → Bool
  | none => false
  | some previous => cc != previous && !(hasPayload && cc == nextCc previous)

/-- The packet does not follow a packet of its PID with counter `previous`. -/
def TsPacketInfo.breaks (info : TsPacketInfo) (previous : Option ℕ) : Bool :=
  breaksCounter info.continuityCounter info.hasPayload previous

/-- The counter remembered for a PID. -/
def ReceptionStats.counterOf (stats : ReceptionStats) (streamId : StreamId) (pid : ℕ) : Option ℕ :=
  if stats.hasContinuityCounter streamId pid then some (stats.lastContinuityCounter streamId pid)
  else none

section Observe

variable {stats : ReceptionStats} {streamId : StreamId} {info : TsPacketInfo} {nowNs : ℕ}

@[simp] theorem bump_self (counts : StreamId → ℕ) (b : Bool) :
    bump counts streamId b streamId = counts streamId + if b then 1 else 0 := Function.update_self ..

@[simp] theorem bump_of_ne {s : StreamId} (h : s ≠ streamId) (counts : StreamId → ℕ) (b : Bool) :
    bump counts streamId b s = counts s := Function.update_of_ne h ..

theorem setPid_of_ne {α : Type} {s : StreamId} (h : s ≠ streamId) (table : StreamId → ℕ → α)
    (pid : ℕ) (a : α) : setPid table streamId pid a s = table s := Function.update_of_ne h ..

@[simp] theorem setPid_self {α : Type} (table : StreamId → ℕ → α) (pid pid' : ℕ) (a : α) :
    setPid table streamId pid a streamId pid' = if pid' = pid then a else table streamId pid' := by
  simp [setPid, Function.update_apply]

/-- Within the limit nothing is reset. -/
theorem resetIfOffline_of_lt
    (h : elapsedNs (stats.lastPacketNs streamId) nowNs < reportStatsOfflineNs) :
    resetIfOffline nowNs stats streamId = stats :=
  if_neg fun ⟨_, _, hoffline⟩ => absurd h (by omega)

theorem rememberCounter_counterOf (pid : ℕ) :
    (rememberCounter stats streamId info).counterOf streamId pid =
      if pid = info.pid then some info.continuityCounter else stats.counterOf streamId pid := by
  simp only [ReceptionStats.counterOf, rememberCounter, setPid_self]
  by_cases hpid : pid = info.pid
  · simp [hpid]
  · simp [hpid]

/-- A judgement writes counts only, and counts an error at a break. -/
theorem judgeCounter_cases (stats : ReceptionStats) (streamId : StreamId) (info : TsPacketInfo)
    (last : ℕ) :
    ∃ duplicates, judgeCounter stats streamId info last =
      { stats with
        duplicateCounters := duplicates
        continuityErrors := bump stats.continuityErrors streamId (info.breaks (some last)) } := by
  have hsame (h : info.breaks (some last) = false) :
      bump stats.continuityErrors streamId (info.breaks (some last)) = stats.continuityErrors := by
    simp [bump, h]
  simp only [judgeCounter]
  split_ifs with hpayload heq hnext hne
  · exact ⟨_, by rw [hsame (by simp [TsPacketInfo.breaks, breaksCounter, heq])]⟩
  · have hbreaks : info.breaks (some last) = true := by
      simp [TsPacketInfo.breaks, breaksCounter, heq, hpayload, hnext]
    exact ⟨stats.duplicateCounters, by rw [hbreaks]⟩
  · exact ⟨_, by rw [hsame (by simpa [TsPacketInfo.breaks, breaksCounter, heq, hpayload] using hnext)]⟩
  · have hbreaks : info.breaks (some last) = true := by
      simp [TsPacketInfo.breaks, breaksCounter, hne, hpayload]
    exact ⟨stats.duplicateCounters, by rw [hbreaks]⟩
  · exact ⟨_, by rw [hsame (by simpa [TsPacketInfo.breaks, breaksCounter, hpayload] using hne)]⟩

/-- **The latest packet of a PID is remembered**, whatever its flags. -/
theorem observePacket_counterOf (nowNs : ℕ) (stats : ReceptionStats) (streamId : StreamId)
    (info : TsPacketInfo) (pid : ℕ) :
    (reportStatsObservePacket nowNs stats streamId info).counterOf streamId pid =
      if pid = info.pid then some info.continuityCounter
      else (resetIfOffline nowNs stats streamId).counterOf streamId pid := by
  have hcount : (resetIfOffline nowNs stats streamId).counterOf streamId pid =
      (countReceived nowNs (resetIfOffline nowNs stats streamId) streamId info).counterOf streamId pid :=
    rfl
  rw [hcount]
  simp only [reportStatsObservePacket]
  generalize countReceived nowNs (resetIfOffline nowNs stats streamId) streamId info = counted
  by_cases hflags : (info.isNull || info.transportError || info.discontinuityIndicator) = true
  · rw [if_pos hflags, rememberCounter_counterOf]
  · rw [if_neg hflags]
    by_cases hfirst : (!counted.hasContinuityCounter streamId info.pid) = true
    · rw [if_pos hfirst, rememberCounter_counterOf]
    · rw [if_neg hfirst]
      obtain ⟨duplicates, hjudged⟩ := judgeCounter_cases counted streamId info
        (counted.lastContinuityCounter streamId info.pid)
      rw [hjudged]
      simp only [ReceptionStats.counterOf, setPid_self]
      by_cases hpid : pid = info.pid
      · rw [if_pos hpid, if_pos hpid, hpid, if_pos (by simpa using hfirst)]
      · rw [if_neg hpid, if_neg hpid]

/-- **Continuity errors** count the clean packets that break with the latest packet of their PID. -/
theorem observePacket_continuityErrors (nowNs : ℕ) (stats : ReceptionStats) (streamId : StreamId)
    (info : TsPacketInfo) :
    (reportStatsObservePacket nowNs stats streamId info).continuityErrors =
      bump stats.continuityErrors streamId
        (info.isClean &&
          info.breaks ((resetIfOffline nowNs stats streamId).counterOf streamId info.pid)) := by
  have hreset : (resetIfOffline nowNs stats streamId).continuityErrors = stats.continuityErrors := by
    rw [resetIfOffline]
    split <;> rfl
  have hcounted : (countReceived nowNs (resetIfOffline nowNs stats streamId) streamId info).continuityErrors =
      stats.continuityErrors := hreset
  have hnone : bump stats.continuityErrors streamId false = stats.continuityErrors := by
    simp [bump]
  have hcounter : (resetIfOffline nowNs stats streamId).counterOf streamId info.pid =
      (countReceived nowNs (resetIfOffline nowNs stats streamId) streamId info).counterOf streamId
        info.pid := rfl
  rw [hcounter]
  simp only [reportStatsObservePacket]
  generalize countReceived nowNs (resetIfOffline nowNs stats streamId) streamId info = counted
    at hcounted ⊢
  by_cases hflags : (info.isNull || info.transportError || info.discontinuityIndicator) = true
  · rw [if_pos hflags]
    have hclean : info.isClean = false := by
      simp only [Bool.or_eq_true] at hflags
      simp only [TsPacketInfo.isClean]
      grind
    rw [hclean, Bool.false_and, hnone]
    exact hcounted
  · rw [if_neg hflags]
    have hclean : info.isClean = true := by
      simp only [Bool.or_eq_true] at hflags
      simp only [TsPacketInfo.isClean]
      grind
    rw [hclean, Bool.true_and]
    by_cases hfirst : (!counted.hasContinuityCounter streamId info.pid) = true
    · rw [if_pos hfirst, ReceptionStats.counterOf, if_neg (by simpa using hfirst)]
      exact hcounted.trans hnone.symm
    · rw [if_neg hfirst]
      obtain ⟨duplicates, hjudged⟩ := judgeCounter_cases counted streamId info
        (counted.lastContinuityCounter streamId info.pid)
      rw [hjudged, ReceptionStats.counterOf, if_pos (by simpa using hfirst)]
      simp only [hcounted]

/-- A packet of the other stream leaves the counters of this one. -/
theorem observePacket_counterOf_other {s : StreamId} (h : s ≠ streamId) (pid : ℕ) :
    (reportStatsObservePacket nowNs stats streamId info).counterOf s pid = stats.counterOf s pid := by
  have hreset : (resetIfOffline nowNs stats streamId).counterOf s pid = stats.counterOf s pid := by
    rw [resetIfOffline]
    split
    · simp only [ReceptionStats.counterOf, resetStreamContinuity, Function.update_of_ne h]
    · rfl
  have hcounted : (countReceived nowNs (resetIfOffline nowNs stats streamId) streamId info).counterOf s
      pid = stats.counterOf s pid := hreset
  rw [← hcounted]
  simp only [reportStatsObservePacket, judgeCounter, rememberCounter]
  split_ifs <;> simp only [ReceptionStats.counterOf, setPid_of_ne h]

end Observe

end TwoStream
