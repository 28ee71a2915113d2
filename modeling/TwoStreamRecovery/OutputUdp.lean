import TwoStreamRecovery.Engine.Emission

/-!
# The UDP output (`output_udp.c`)

* `OutputUdp`: the pending packets, and the datagrams the socket has taken.
* `outputUdpSendTsPacket`, `outputUdpFlush`, `outputUdpAsPacketSink`: the sink the engine writes to;
  `SendCases`, `FlushCases`: what one call of it does.
* `Batched`: sink and engine count in step; `udp_batches`: in every run.
-/

namespace TwoStream

variable {sendto : ℕ → ℤ} {clock : ℕ → ℕ}

/-! ### The sink -/

/-- `OUTPUT_TS_PACKETS_PER_DATAGRAM`. -/
abbrev outputTsPacketsPerDatagram : ℕ := 7

/-- `OUTPUT_UDP_PAYLOAD_BYTES`. -/
abbrev outputUdpPayloadBytes : ℕ := tsPacketSize * outputTsPacketsPerDatagram

/-- `output_udp_t`: the first `pending_packets` packets of its buffer; of its socket, how often
`sendto` was called and the datagrams it has sent in full. -/
structure OutputUdp where
  pending : List Packet
  calls : ℕ
  datagrams : List (List Packet)
  deriving DecidableEq

/-- `output_udp_open`. -/
def outputUdpOpen : OutputUdp := ⟨[], 0, []⟩

/-- The bytes of a datagram. -/
def payload (packets : List Packet) : List UInt8 := packets.flatMap (·.bytes)

/-- `output_udp_flush`; `sendto n` is what the `n`-th call of `sendto` returns. -/
def outputUdpFlush (sendto : ℕ → ℤ) (output : OutputUdp) : ℤ × OutputUdp :=
  if output.pending.length = 0 then (0, output)
  else if output.pending.length ≠ outputTsPacketsPerDatagram then (0, { output with pending := [] })
  else
    let sent := sendto output.calls
    if decide (sent < 0) || sent.toNat != outputUdpPayloadBytes then
      (-1, { output with calls := output.calls + 1 })
    else
      (0,
        { pending := []
          calls := output.calls + 1
          datagrams := output.datagrams ++ [output.pending] })

/-- `output_udp_send_ts_packet`. -/
def outputUdpSendTsPacket (sendto : ℕ → ℤ) (output : OutputUdp) (packet : Packet) : ℤ × OutputUdp :=
  if outputTsPacketsPerDatagram ≤ output.pending.length then (-1, output)
  else
    let output := { output with pending := output.pending ++ [packet] }
    if output.pending.length = outputTsPacketsPerDatagram then outputUdpFlush sendto output
    else (0, output)

/-- `output_udp_as_packet_sink`. -/
def outputUdpAsPacketSink (sendto : ℕ → ℤ) : PacketSink OutputUdp :=
  ⟨outputUdpSendTsPacket sendto, some (outputUdpFlush sendto)⟩

/-- The engine with this sink. -/
def udpEnv (sendto : ℕ → ℤ) (clock : ℕ → ℕ) : Env OutputUdp := ⟨outputUdpAsPacketSink sendto, clock⟩

theorem payload_length (packets : List Packet) :
    (payload packets).length = tsPacketSize * packets.length := by
  induction packets with
  | nil => rfl
  | cons p rest ih =>
    have hp := p.size
    rw [payload, List.flatMap_cons, List.length_append, ← payload, ih, hp, List.length_cons,
      Nat.mul_succ, Nat.add_comm]

/-- What `output_udp_send_ts_packet` does. -/
inductive SendCases (sendto : ℕ → ℤ) (output : OutputUdp) (packet : Packet) : ℤ × OutputUdp → Prop
  | full (h : outputTsPacketsPerDatagram ≤ output.pending.length) :
      SendCases sendto output packet (-1, output)
  | waits (h : output.pending.length + 1 < outputTsPacketsPerDatagram) :
      SendCases sendto output packet (0, { output with pending := output.pending ++ [packet] })
  | sent (h : output.pending.length + 1 = outputTsPacketsPerDatagram)
      (hsent : sendto output.calls = outputUdpPayloadBytes) :
      SendCases sendto output packet
        (0, ⟨[], output.calls + 1, output.datagrams ++ [output.pending ++ [packet]]⟩)
  | failed (h : output.pending.length + 1 = outputTsPacketsPerDatagram)
      (hfailed : sendto output.calls ≠ outputUdpPayloadBytes) :
      SendCases sendto output packet
        (-1, ⟨output.pending ++ [packet], output.calls + 1, output.datagrams⟩)

/-- What `output_udp_flush` does. -/
inductive FlushCases (sendto : ℕ → ℤ) (output : OutputUdp) : ℤ × OutputUdp → Prop
  | drops (h : output.pending.length ≠ outputTsPacketsPerDatagram) :
      FlushCases sendto output (0, { output with pending := [] })
  | sent (h : output.pending.length = outputTsPacketsPerDatagram)
      (hsent : sendto output.calls = outputUdpPayloadBytes) :
      FlushCases sendto output (0, ⟨[], output.calls + 1, output.datagrams ++ [output.pending]⟩)
  | failed (h : output.pending.length = outputTsPacketsPerDatagram)
      (hfailed : sendto output.calls ≠ outputUdpPayloadBytes) :
      FlushCases sendto output (-1, { output with calls := output.calls + 1 })

theorem flushCases (sendto : ℕ → ℤ) (output : OutputUdp) :
    FlushCases sendto output (outputUdpFlush sendto output) := by
  simp only [outputUdpFlush]
  split_ifs with hempty hpart hfails
  · have hdrops : FlushCases sendto output (0, { output with pending := [] }) :=
      .drops (by rw [hempty]; decide)
    rw [List.length_eq_zero_iff] at hempty
    rwa [← hempty] at hdrops
  · exact .drops hpart
  · refine .failed (not_not.mp hpart) fun hsent => ?_
    rw [hsent] at hfails
    exact absurd hfails (by decide)
  · refine .sent (not_not.mp hpart) ?_
    simp only [Bool.or_eq_true, decide_eq_true_eq, bne_iff_ne, not_or, not_not] at hfails
    omega

theorem sendCases (sendto : ℕ → ℤ) (output : OutputUdp) (packet : Packet) :
    SendCases sendto output packet (outputUdpSendTsPacket sendto output packet) := by
  simp only [outputUdpSendTsPacket, List.length_append, List.length_singleton]
  split_ifs with hfull hseventh
  · exact .full hfull
  · have hstored : (output.pending ++ [packet]).length = outputTsPacketsPerDatagram := by
      simpa using hseventh
    have hflush := flushCases sendto { output with pending := output.pending ++ [packet] }
    generalize outputUdpFlush sendto _ = res at hflush ⊢
    cases hflush with
    | drops h => exact absurd hstored h
    | sent _ hsent => exact .sent hseventh hsent
    | failed _ hfailed => exact .failed hseventh hfailed
  · exact .waits (by omega)

theorem outputUdpFlush_grows (sendto : ℕ → ℤ) (output : OutputUdp) :
    output.datagrams <+: (outputUdpFlush sendto output).2.datagrams := by
  have hflush := flushCases sendto output
  generalize outputUdpFlush sendto output = res at hflush ⊢
  cases hflush with
  | drops _ => exact List.prefix_rfl
  | sent _ _ => exact List.prefix_append _ _
  | failed _ _ => exact List.prefix_rfl

theorem outputUdpSendTsPacket_grows (sendto : ℕ → ℤ) (output : OutputUdp) (packet : Packet) :
    output.datagrams <+: (outputUdpSendTsPacket sendto output packet).2.datagrams := by
  have hsend := sendCases sendto output packet
  generalize outputUdpSendTsPacket sendto output packet = res at hsend ⊢
  cases hsend with
  | full _ => exact List.prefix_rfl
  | waits _ => exact List.prefix_rfl
  | sent _ _ => exact List.prefix_append _ _
  | failed _ _ => exact List.prefix_rfl

/-- A flush drops what does not fill a datagram. -/
theorem outputUdpFlush_of_lt {output : OutputUdp}
    (h : output.pending.length < outputTsPacketsPerDatagram) :
    outputUdpFlush sendto output = (0, { output with pending := [] }) := by
  have hflush := flushCases sendto output
  generalize outputUdpFlush sendto output = res at hflush ⊢
  cases hflush with
  | drops _ => rfl
  | sent hfull _ => exact absurd hfull h.ne
  | failed hfull _ => exact absurd hfull h.ne

/-! ### Batches -/

/-- What the sink has and what the engine has counted. -/
structure BatchedEmission (emission : OutputUdp × List (Route × PacketRecord) × ℕ × ℕ) : Prop where
  full : ∀ d ∈ emission.1.datagrams, d.length = outputTsPacketsPerDatagram
  order : emission.1.datagrams.flatten ++ emission.1.pending =
    (emission.2.1.map Prod.snd).map (·.packet)
  pending : emission.1.pending.length = emission.2.2.1 % outputTsPacketsPerDatagram
  datagrams : emission.2.2.2 = emission.1.datagrams.length

/-- **Offering a record keeps sink and engine in step.** -/
theorem batchedEmission_kept (hsendto : ∀ n, sendto n = outputUdpPayloadBytes) :
    Kept (udpEnv sendto clock) BatchedEmission := by
  intro route w r hw
  obtain ⟨hfull, horder, hpending, hdatagrams⟩ := hw
  simp only [World.emission] at hfull horder hpending hdatagrams
  have hroom : w.sinkState.pending.length < outputTsPacketsPerDatagram := by
    rw [hpending]
    exact Nat.mod_lt _ (by decide)
  have horder' : w.sinkState.datagrams.flatten ++ (w.sinkState.pending ++ [r.packet]) =
      ((sentEvents w.trace ++ [(route, r)]).map Prod.snd).map (·.packet) := by
    rw [← List.append_assoc, horder]
    simp
  have hsend := sendCases sendto w.sinkState r.packet
  have hcall : (udpEnv sendto clock).sink.sendTsPacket w.sinkState r.packet =
      outputUdpSendTsPacket sendto w.sinkState r.packet := rfl
  rw [outputRecord, hcall]
  generalize outputUdpSendTsPacket sendto w.sinkState r.packet = res at hsend
  cases hsend with
  | full h => exact absurd hroom (by omega)
  | failed _ hfailed => exact absurd (hsendto _) hfailed
  | waits h =>
    -- the engine counts no datagram, since the batch is not full after this packet
    have hcount : (w.stats.outputPackets + 1) % outputTsPacketsPerDatagram =
        w.sinkState.pending.length + 1 := by
      simp only [outputTsPacketsPerDatagram] at hpending h ⊢
      omega
    simp only [ne_eq, not_true_eq_false, if_false, acceptRecord_emission]
    refine ⟨hfull, horder', ?_, ?_⟩
    · rw [hcount, List.length_append, List.length_singleton]
    · rw [if_neg (by rw [hcount]; exact Nat.succ_ne_zero _)]
      exact hdatagrams
  | sent h _ =>
    have hcount : (w.stats.outputPackets + 1) % outputTsPacketsPerDatagram = 0 := by
      simp only [outputTsPacketsPerDatagram] at hpending h ⊢
      omega
    simp only [ne_eq, not_true_eq_false, if_false, acceptRecord_emission]
    refine ⟨?_, ?_, ?_, ?_⟩
    · intro d hd
      rcases List.mem_append.mp hd with hd | hd
      · exact hfull d hd
      · rw [List.mem_singleton.mp hd, List.length_append, List.length_singleton]
        exact h
    · simpa using horder'
    · exact hcount.symm
    · rw [if_pos hcount, List.length_append, List.length_singleton, hdatagrams]

/-- Sink and engine are in step. -/
structure Batched (w : World OutputUdp) : Prop where
  full : ∀ d ∈ w.sinkState.datagrams, d.length = outputTsPacketsPerDatagram ∧
    (payload d).length = outputUdpPayloadBytes
  order : w.sinkState.datagrams.flatten ++ w.sinkState.pending = (sentRecords w.trace).map (·.packet)
  pending : w.sinkState.pending.length = w.stats.outputPackets % outputTsPacketsPerDatagram
  datagrams : w.stats.outputDatagrams = w.sinkState.datagrams.length

theorem batched_of_emission {w : World OutputUdp} (h : BatchedEmission w.emission) : Batched w := by
  obtain ⟨hfull, horder, hpending, hdatagrams⟩ := h
  refine ⟨fun d hd => ⟨hfull d hd, ?_⟩, horder, hpending, hdatagrams⟩
  rw [payload_length, hfull d hd]

theorem run_batchedEmission (hsendto : ∀ n, sendto n = outputUdpPayloadBytes) {ops : List Op}
    (hops : .flush ∉ ops) (w : World OutputUdp) (hw : BatchedEmission w.emission) :
    BatchedEmission (run (udpEnv sendto clock) w ops).emission := by
  have hkept : Kept (udpEnv sendto clock) BatchedEmission := batchedEmission_kept hsendto
  induction ops generalizing w with
  | nil => exact hw
  | cons op rest ih =>
    refine ih (fun h => hops (List.mem_cons_of_mem _ h)) _ ?_
    cases op with
    | push streamId p => exact hkept.push streamId p w hw
    | drain force => exact hkept.drain force w hw
    | flush => exact absurd List.mem_cons_self hops

/-- Between the end of a flush's drain and the end of the flush only an incomplete batch is lost. -/
structure LosesLast (drained flushed : World OutputUdp) : Prop where
  sent : sentRecords flushed.trace = sentRecords drained.trace
  stats : flushed.stats = drained.stats
  datagrams : flushed.sinkState.datagrams = drained.sinkState.datagrams
  lost : ∃ lost, lost.length = flushed.stats.outputPackets % outputTsPacketsPerDatagram ∧
    flushed.sinkState.datagrams.flatten ++ lost = (sentRecords flushed.trace).map (·.packet)

theorem flush_losesLast (clock : ℕ → ℕ) {w : World OutputUdp}
    (hdrained : Batched (step (udpEnv sendto clock) w (.drain true))) :
    LosesLast (step (udpEnv sendto clock) w (.drain true)) (step (udpEnv sendto clock) w .flush) := by
  have hroom : (step (udpEnv sendto clock) w (.drain true)).sinkState.pending.length <
      outputTsPacketsPerDatagram := by
    rw [hdrained.pending]
    exact Nat.mod_lt _ (by decide)
  have hlost := hdrained.pending
  have horder := hdrained.order
  simp only [step, recoveryEngineFlush] at hroom hlost horder ⊢
  generalize recoveryEngineDrain (udpEnv sendto clock) true w = res at hroom hlost horder ⊢
  rcases res with ⟨_ | _, w'⟩
  · exact ⟨rfl, rfl, rfl, w'.sinkState.pending, hlost, horder⟩
  · have hsink : (udpEnv sendto clock).sink.flush = some (outputUdpFlush sendto) := rfl
    have hflush : outputUdpFlush sendto w'.sinkState = (0, { w'.sinkState with pending := [] }) :=
      outputUdpFlush_of_lt hroom
    simp only [hsink, hflush]
    exact ⟨rfl, rfl, rfl, w'.sinkState.pending, hlost, horder⟩

/-- **UDP batching refines the emission order.** In every run of pushes and drains, sink and engine
are in step; so they are when a flush at the end has drained, and the flush loses the packets of the
last, incomplete batch only. -/
theorem udp_batches (sendto : ℕ → ℤ) (clock : ℕ → ℕ)
    (hsendto : ∀ n, sendto n = outputUdpPayloadBytes) (config : RecoveryEngineConfig) {ops : List Op}
    (hops : .flush ∉ ops) :
    let w := run (udpEnv sendto clock) (freshWorld config outputUdpOpen) ops
    Batched w ∧ Batched (step (udpEnv sendto clock) w (.drain true)) ∧
      LosesLast (step (udpEnv sendto clock) w (.drain true)) (step (udpEnv sendto clock) w .flush) := by
  intro w
  have hfresh : BatchedEmission (freshWorld config outputUdpOpen).emission :=
    ⟨by simp [freshWorld, World.emission, outputUdpOpen], rfl, rfl, rfl⟩
  have hw : BatchedEmission w.emission := run_batchedEmission hsendto hops _ hfresh
  have hdrained : Batched (step (udpEnv sendto clock) w (.drain true)) :=
    batched_of_emission ((batchedEmission_kept hsendto).drain true w hw)
  exact ⟨batched_of_emission hw, hdrained, flush_losesLast clock hdrained⟩

/-- Nine packets reach the primary. -/
def nineOps : List Op := .replicate 9 (.push .primary nullPacket)

def nineEnv : Env OutputUdp := udpEnv (fun _ => outputUdpPayloadBytes) fun _ => 1

def nineWorld : World OutputUdp := run nineEnv (freshWorld promptConfig outputUdpOpen) nineOps

/-- Seven of them leave in a datagram, the flush loses the other two. -/
theorem udp_batches_nineWorld :
    nineWorld.sinkState.datagrams.length = 1 ∧ nineWorld.sinkState.pending.length = 2 ∧
      Batched nineWorld ∧ Batched (step nineEnv nineWorld (.drain true)) ∧
      LosesLast (step nineEnv nineWorld (.drain true)) (step nineEnv nineWorld .flush) :=
  ⟨by decide +kernel, by decide +kernel,
    udp_batches (fun _ => outputUdpPayloadBytes) (fun _ => 1) (fun _ => rfl) promptConfig (by decide)⟩

end TwoStream
