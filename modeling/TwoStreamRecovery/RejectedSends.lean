import TwoStreamRecovery.OutputUdp

/-!
# Rejected packets (`output_udp.c`)

* `sinkRun`: sends and flushes of the UDP output, with the packets whose send returned 0.
* `BatchFails`: the seventh packet is stored, but its datagram fails.
* **`rejected_sends_iff`**: rejected sends leave the output alone and only accepted packets are
  transmitted, exactly in the runs in which no batch fails.
-/

namespace TwoStream

variable {sendto : ℕ → ℤ} {output : OutputUdp} {packet : Packet}

/-! ### One call -/

/-- Six packets are pending, and `sendto` does not take the datagram the seventh one completes. -/
def BatchFails (sendto : ℕ → ℤ) (output : OutputUdp) : Prop :=
  output.pending.length + 1 = outputTsPacketsPerDatagram ∧
    sendto output.calls ≠ outputUdpPayloadBytes

/-- A rejected send leaves the pending packets alone. -/
def RejectsUnchanged (sendto : ℕ → ℤ) (output : OutputUdp) (packet : Packet) : Prop :=
  (outputUdpSendTsPacket sendto output packet).1 = -1 →
    (outputUdpSendTsPacket sendto output packet).2.pending = output.pending

theorem rejectsUnchanged_iff : RejectsUnchanged sendto output packet ↔ ¬ BatchFails sendto output := by
  have hsend := sendCases sendto output packet
  simp only [RejectsUnchanged, BatchFails]
  generalize outputUdpSendTsPacket sendto output packet = res at hsend ⊢
  cases hsend with
  | full h => simp; omega
  | waits h => simp; omega
  | sent h hsent => simp [hsent]
  | failed h hfailed => simpa [h] using hfailed

/-! ### Runs -/

/-- A call of the sink. -/
inductive SinkOp
  | send (packet : Packet)
  | flush

/-- The output, and the packets whose send returned 0. -/
structure SinkRun where
  output : OutputUdp
  accepted : List Packet

def sinkStep (sendto : ℕ → ℤ) (r : SinkRun) : SinkOp → SinkRun
  | .send packet =>
    let (result, output) := outputUdpSendTsPacket sendto r.output packet
    ⟨output, if result = 0 then r.accepted ++ [packet] else r.accepted⟩
  | .flush => { r with output := (outputUdpFlush sendto r.output).2 }

/-- The sink after `ops`. -/
def sinkRun (sendto : ℕ → ℤ) (ops : List SinkOp) : SinkRun :=
  ops.foldl (sinkStep sendto) ⟨outputUdpOpen, []⟩

/-- At every point of the run a rejected send changes nothing, and what has been transmitted are
accepted packets, each once and in order. -/
structure RejectsKept (sendto : ℕ → ℤ) (ops : List SinkOp) : Prop where
  unchanged : ∀ before packet, before ++ [.send packet] <+: ops →
    RejectsUnchanged sendto (sinkRun sendto before).output packet
  transmitted : ∀ before, before <+: ops →
    (sinkRun sendto before).output.datagrams.flatten.Sublist (sinkRun sendto before).accepted

/-- No send of the run completes a datagram that `sendto` does not take. -/
def NoBatchFails (sendto : ℕ → ℤ) (ops : List SinkOp) : Prop :=
  ∀ before packet, before ++ [.send packet] <+: ops →
    ¬ BatchFails sendto (sinkRun sendto before).output

/-- There is room, and what is transmitted or pending was accepted, in this order. -/
structure Orderly (r : SinkRun) : Prop where
  room : r.output.pending.length < outputTsPacketsPerDatagram
  order : (r.output.datagrams.flatten ++ r.output.pending).Sublist r.accepted

theorem Orderly.send {r : SinkRun} (hr : Orderly r) (hbatch : ¬ BatchFails sendto r.output)
    (packet : Packet) : Orderly (sinkStep sendto r (.send packet)) := by
  obtain ⟨hroom, horder⟩ := hr
  have hsend := sendCases sendto r.output packet
  have hstored := horder.append (List.Sublist.refl [packet])
  simp only [sinkStep]
  generalize outputUdpSendTsPacket sendto r.output packet = res at hsend ⊢
  cases hsend with
  | full h => exact absurd hroom (by omega)
  | waits h => exact ⟨by simpa using h, by simpa using hstored⟩
  | sent h _ => exact ⟨Nat.zero_lt_succ _, by simpa using hstored⟩
  | failed h hfailed => exact absurd ⟨h, hfailed⟩ hbatch

theorem Orderly.flush {r : SinkRun} (hr : Orderly r) : Orderly (sinkStep sendto r .flush) := by
  obtain ⟨hroom, horder⟩ := hr
  have hflush := flushCases sendto r.output
  simp only [sinkStep]
  generalize outputUdpFlush sendto r.output = res at hflush ⊢
  cases hflush with
  | drops h => exact ⟨Nat.zero_lt_succ _, by simpa using (List.sublist_append_left _ _).trans horder⟩
  | sent h _ => exact absurd hroom (by omega)
  | failed h _ => exact absurd hroom (by omega)

theorem sinkRun_append_singleton (sendto : ℕ → ℤ) (ops : List SinkOp) (op : SinkOp) :
    sinkRun sendto (ops ++ [op]) = sinkStep sendto (sinkRun sendto ops) op := by
  rw [sinkRun, List.foldl_append]
  rfl

theorem NoBatchFails.of_prefix {before ops : List SinkOp} (h : NoBatchFails sendto ops)
    (hstart : before <+: ops) : NoBatchFails sendto before :=
  fun _ packet hsend => h _ packet (hsend.trans hstart)

/-- **A run without a failing batch stays orderly.** -/
theorem NoBatchFails.orderly {ops : List SinkOp} (h : NoBatchFails sendto ops) :
    Orderly (sinkRun sendto ops) := by
  induction ops using List.reverseRecOn with
  | nil => exact ⟨Nat.zero_lt_succ _, List.Sublist.refl _⟩
  | append_singleton before op ih =>
    have hbefore := ih (h.of_prefix (List.prefix_append _ _))
    rw [sinkRun_append_singleton]
    cases op with
    | send packet => exact hbefore.send (h before packet (List.prefix_refl _)) packet
    | flush => exact hbefore.flush

/-- **Rejected sends change nothing, where no batch fails.** -/
theorem rejected_sends_iff (sendto : ℕ → ℤ) (ops : List SinkOp) :
    RejectsKept sendto ops ↔ NoBatchFails sendto ops := by
  constructor
  · intro h before packet hstart
    exact rejectsUnchanged_iff.mp (h.unchanged before packet hstart)
  · intro h
    constructor
    · intro before packet hstart
      exact rejectsUnchanged_iff.mpr (h before packet hstart)
    · intro before hstart
      exact (List.sublist_append_left _ _).trans (h.of_prefix hstart).orderly.order

/-- Seven sends and a flush. -/
def seventhRejected : List SinkOp :=
  .replicate 6 (.send (.ofBytes [0x47, 0x1f, 0xff])) ++ [.send (.ofBytes [0x47, 1]), .flush]

/-- The first datagram fails. -/
def failsOnce (n : ℕ) : ℤ := if n = 0 then -1 else outputUdpPayloadBytes

/-- The rejected packet stays in the buffer, and the flush transmits it. -/
theorem seventhRejected_transmitted :
    (outputUdpSendTsPacket failsOnce (sinkRun failsOnce (seventhRejected.take 6)).output
        (.ofBytes [0x47, 1])).1 = -1 ∧
      (sinkRun failsOnce (seventhRejected.take 6)).output.pending.length = 6 ∧
      (sinkRun failsOnce (seventhRejected.take 7)).output.pending.length = 7 ∧
      (sinkRun failsOnce seventhRejected).output.datagrams.flatten.getLast? =
        some (.ofBytes [0x47, 1]) ∧
      Packet.ofBytes [0x47, 1] ∉ (sinkRun failsOnce seventhRejected).accepted ∧
      ¬ RejectsKept failsOnce seventhRejected := by
  refine ⟨by decide +kernel, by decide +kernel, by decide +kernel, by decide +kernel,
    by decide +kernel, fun h => ?_⟩
  have hunchanged := h.unchanged (seventhRejected.take 6) (.ofBytes [0x47, 1]) ⟨[.flush], rfl⟩
  revert hunchanged
  rw [RejectsUnchanged]
  decide +kernel

end TwoStream
