import TwoStreamRecovery.Engine.Data

/-!
# Records, histories and queues

* `packetHistoryFindIndex` and the queue operations, on ring buffers.
* The comparisons of two records, the continuity test against the output state
  (`recordFitsOutputStates`, `observeOutputStates`) and `inferMissingFromCc`.
-/

namespace TwoStream

/-! ### History and queues -/

/-- `packet_history_prune_older_than`. -/
def packetHistoryPruneOlderThan (history : PacketHistory) (cutoffNs : ℕ) : PacketHistory :=
  history.popWhile fun oldest => decide (oldest.arrivalTimeNs < cutoffNs)

/-- `packet_history_find_index`. -/
def packetHistoryFindIndex (history : PacketHistory) (streamIndex : ℕ) : Option PacketRecord :=
  if history.count = 0 then none
  else
    let oldestStreamIndex := (history.slots history.start).streamIndex
    if streamIndex < oldestStreamIndex then none
    else
      let offset := streamIndex - oldestStreamIndex
      if history.count ≤ offset then none
      else
        let record := history.slots ((history.start + offset) % history.capacity)
        if record.streamIndex ≠ streamIndex then none else some record

/-- `delay_queue_front`. -/
def delayQueueFront (queue : DelayQueue) : Option PacketRecord := queue.ring.front?

/-- `delay_queue_pop`. -/
def delayQueuePop (queue : DelayQueue) : DelayQueue := { queue with ring := queue.ring.pop }

/-- `delay_queue_push`: `none` where the C function returns -1. -/
def delayQueuePush (queue : DelayQueue) (record : PacketRecord) : Option DelayQueue :=
  (queue.ring.push? record).map fun ring => { queue with ring := ring }

/-- The records waiting in a queue, oldest first. -/
def DelayQueue.toList (queue : DelayQueue) : List PacketRecord := queue.ring.toList

theorem packetHistoryFindIndex_index {history : PacketHistory} {i : ℕ} {r : PacketRecord}
    (h : packetHistoryFindIndex history i = some r) : r.streamIndex = i := by
  simp only [packetHistoryFindIndex] at h
  split_ifs at h with h1 h2 h3 h4
  obtain rfl := Option.some.inj h
  exact not_not.mp h4

theorem packetHistoryFindIndex_mem {history : PacketHistory} {i : ℕ} {r : PacketRecord}
    (h : packetHistoryFindIndex history i = some r) : r ∈ history.toList := by
  simp only [packetHistoryFindIndex] at h
  split_ifs at h with h1 h2 h3 h4
  obtain rfl := Option.some.inj h
  exact List.mem_of_getElem? (i := i - (history.slots history.start).streamIndex)
    (by rw [RingBuffer.getElem?_toList, if_pos (by omega)]; rfl)

@[simp] theorem delayQueueFront_eq (queue : DelayQueue) :
    delayQueueFront queue = queue.toList.head? := RingBuffer.front?_eq_head? _

@[simp] theorem toList_delayQueuePop (queue : DelayQueue) :
    (delayQueuePop queue).toList = queue.toList.tail := RingBuffer.toList_pop _

@[simp] theorem delayQueuePop_delayNs (queue : DelayQueue) :
    (delayQueuePop queue).delayNs = queue.delayNs := rfl

/-! ### Comparing records -/

/-- `record_is_informative`. -/
def recordIsInformative (r : PacketRecord) : Bool :=
  !r.isNull && !r.transportError && !r.discontinuityIndicator

/-- `records_match`. -/
def recordsMatch (a b : PacketRecord) : Bool :=
  recordIsInformative a && recordIsInformative b &&
    a.hash == b.hash && a.pid == b.pid && a.continuityCounter == b.continuityCounter

/-- `records_exact_non_error_match`. -/
def recordsExactNonErrorMatch (a b : PacketRecord) : Bool :=
  !a.transportError && !b.transportError &&
    !a.discontinuityIndicator && !b.discontinuityIndicator &&
    a.hash == b.hash && a.pid == b.pid && a.continuityCounter == b.continuityCounter

/-- `records_are_non_null_exact_anchor`. -/
def recordsAreNonNullExactAnchor : Option PacketRecord → Option PacketRecord → Bool
  | some a, some b => !a.isNull && !b.isNull && recordsExactNonErrorMatch a b
  | _, _ => false

/-- `find_aligned_secondary_record`. -/
def findAlignedSecondaryRecord (e : RecoveryEngine) (primary : PacketRecord) :
    Option PacketRecord :=
  if !e.alignment.hasAlignment then none
  else
    let expectedIndex : ℤ := primary.streamIndex + e.alignment.offsetPackets
    if expectedIndex < 0 then none
    else packetHistoryFindIndex (e.history .secondary) expectedIndex.toNat

theorem recordsExactNonErrorMatch_iff {a b : PacketRecord} :
    recordsExactNonErrorMatch a b = true ↔
      a.transportError = false ∧ b.transportError = false ∧
        a.discontinuityIndicator = false ∧ b.discontinuityIndicator = false ∧
        a.hash = b.hash ∧ a.pid = b.pid ∧ a.continuityCounter = b.continuityCounter := by
  simp [recordsExactNonErrorMatch, and_assoc]

theorem recordsAreNonNullExactAnchor_iff {a b : Option PacketRecord} :
    recordsAreNonNullExactAnchor a b = true ↔
      ∃ r s, a = some r ∧ b = some s ∧ r.isNull = false ∧ s.isNull = false ∧
        recordsExactNonErrorMatch r s = true := by
  cases a <;> cases b <;> simp [recordsAreNonNullExactAnchor, and_assoc]

/-! ### Continuity -/

/-- The counter after `cc`, `(uint8_t)((cc + 1U) & 0x0fU)`. -/
def nextCc (cc : ℕ) : ℕ := (cc + 1) % 16

/-- `record_fits_output_states`. -/
def recordFitsOutputStates (states : ℕ → PidState) (r : PacketRecord) : Bool :=
  if r.isNull then true
  else if r.transportError || r.discontinuityIndicator then false
  else if !(states r.pid).valid then true
  else if !r.hasPayload then r.continuityCounter == (states r.pid).continuityCounter
  else r.continuityCounter == nextCc (states r.pid).continuityCounter

/-- `record_fits_next_output`. -/
def recordFitsNextOutput (e : RecoveryEngine) (r : PacketRecord) : Bool :=
  recordFitsOutputStates e.outputPidState r

/-- `previous_output_cc_for_record`. -/
def previousOutputCcForRecord (e : RecoveryEngine) (r : PacketRecord) : Option ℕ :=
  if r.isNull || decide (8192 ≤ r.pid) then none
  else if !(e.outputPidState r.pid).valid then none
  else some (e.outputPidState r.pid).continuityCounter

/-- `infer_missing_from_cc`; the difference is taken in unsigned arithmetic. -/
def inferMissingFromCc (previousCc : ℕ) (r : PacketRecord) : Option ℕ :=
  if !r.hasPayload || r.isNull then none
  else
    let delta := (r.continuityCounter + 16 - previousCc % 16) % 16
    if delta = 0 then none else some (delta - 1)

/-- Overwrite one entry of a table of counters. -/
def setCc (states : ℕ → PidState) (r : PacketRecord) : ℕ → PidState :=
  fun pid => if pid = r.pid then ⟨true, r.continuityCounter⟩ else states pid

/-- `observe_output_states`. -/
def observeOutputStates (states : ℕ → PidState) (r : PacketRecord) : ℕ → PidState :=
  if r.isNull || r.transportError || r.discontinuityIndicator then states else setCc states r

theorem inferMissingFromCc_le {previousCc n : ℕ} {r : PacketRecord}
    (h : inferMissingFromCc previousCc r = some n) : n ≤ 14 := by
  simp only [inferMissingFromCc] at h
  split_ifs at h
  have := Option.some.inj h
  omega

end TwoStream
