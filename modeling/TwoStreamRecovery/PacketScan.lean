import TwoStreamRecovery.Datagram
import TwoStreamRecovery.OutputUdp

/-!
# The packets of a datagram

* `Datagram.packets`: the packets that `process_datagram` finds, from the bytes alone.
* `receivePackets`: packets given to the engine one by one, until it refuses one.
* **`processDatagram_packets`**: the packet loop with its `size_t` offsets does nothing else to the
  engine than to give it the packets of the datagram.
* **`packets_payload`**: the packets of a datagram made of packets are these packets.
-/

namespace TwoStream

variable {σ : Type} {env : Env σ} {streamId : StreamId} {b : Datagram}

/-! ### Scanning -/

/-- The packets that the loop passes from `offset` on; `n` bounds its length. -/
def Datagram.packetsFrom (b : Datagram) : ℕ → ℕ → List ParsedPacket
  | 0, _ => []
  | n + 1, offset =>
    if b.length < offset + tsPacketSize then []
    else
      match (b.window offset).parse? with
      | none => b.packetsFrom n (scanNext b offset)
      | some p => p :: b.packetsFrom n (offset + tsPacketSize)

/-- The packets of a datagram. -/
def Datagram.packets (b : Datagram) : List ParsedPacket := b.packetsFrom (b.length + 1) 0

/-- Packets are received one by one; `false` if the engine refuses one, which is then the last. -/
def receivePackets (env : Env σ) (streamId : StreamId) :
    List ParsedPacket → Station σ → Bool × Station σ
  | [], s => (true, s)
  | p :: rest, s =>
    if pushTaken env streamId p s then
      receivePackets env streamId rest (receivePacket env streamId p s)
    else (false, receivePacket env streamId p s)

theorem Packet.parse?_eq_some {packet : Packet} {p : ParsedPacket} :
    packet.parse? = some p ↔ packet = p.packet := by
  have hcases : packet.parse? = none ∧ tsPacketParse packet = none ∨
      ∃ q, packet.parse? = some q ∧ q.packet = packet := by
    unfold Packet.parse?
    split
    · next info h => exact .inr ⟨_, rfl, rfl⟩
    · next h => exact .inl ⟨rfl, h⟩
  rcases hcases with ⟨hnone, hparse⟩ | ⟨q, hsome, hq⟩
  · rw [hnone]
    refine iff_of_false (by simp) ?_
    rintro rfl
    rw [p.parsed] at hparse
    cases hparse
  · rw [hsome, Option.some.injEq, ← hq]
    constructor
    · rintro rfl
      rfl
    · intro hpacket
      rcases p with ⟨packet', info, hparsed⟩
      rcases q with ⟨packet'', info', hparsed'⟩
      obtain rfl : packet'' = packet' := hpacket
      obtain rfl : info' = info := Option.some.inj (hparsed'.symm.trans hparsed)
      rfl

/-- **The loop gives the engine the packets from its offset on.** -/
theorem receivePackets_of_returns {t t' : DatagramLoop σ} {ok : Bool}
    (hret : Returns (datagramStep env streamId b) t (ok, t')) (ht : t.offset ≤ b.length) {n : ℕ}
    (hn : b.length - t.offset < n) :
    receivePackets env streamId (b.packetsFrom n t.offset) t.receiver.station =
      (ok, t'.receiver.station) := by
  generalize hres : (ok, t') = res at hret
  induction hret generalizing n with
  | @done t res hstep =>
    obtain ⟨n, rfl⟩ : ∃ m, n = m + 1 := ⟨n - 1, by omega⟩
    have hcases := datagramStep_cases env streamId ht
    rw [hstep, ← hres] at hcases
    cases hcases with
    | atEnd hend => rw [Datagram.packetsFrom, if_pos hend, receivePackets]
    | refused hfits p hparse htaken =>
      rw [Datagram.packetsFrom, if_neg (Nat.not_lt.mpr hfits), hparse]
      dsimp only
      rw [receivePackets, htaken, if_neg Bool.false_ne_true]
      rfl
  | @next t t₁ res hstep rest ih =>
    obtain ⟨n, rfl⟩ : ∃ m, n = m + 1 := ⟨n - 1, by omega⟩
    have hcases := datagramStep_cases env streamId ht
    rw [hstep] at hcases
    cases hcases with
    | rejected hfits hbad =>
      have hnone : (b.window t.offset).parse? = none := by
        rw [parses_eq] at hbad
        exact Option.isSome_eq_false_iff.mp hbad |> Option.isNone_iff_eq_none.mp
      have hgt := scanNext_gt b t.offset
      have hle := scanNext_le hfits
      rw [Datagram.packetsFrom, if_neg (Nat.not_lt.mpr hfits), hnone]
      exact ih hle (by change b.length - scanNext b t.offset < n; omega) hres
    | passed hfits p hparse htaken =>
      have hpacket : tsPacketSize = 188 := rfl
      rw [Datagram.packetsFrom, if_neg (Nat.not_lt.mpr hfits), hparse]
      dsimp only
      rw [receivePackets, htaken, if_pos rfl]
      exact ih hfits (by change b.length - (t.offset + tsPacketSize) < n; omega) hres

/-- **What a datagram does to the engine** is to give it the packets of the datagram. -/
theorem processDatagram_packets (env : Env σ) (streamId : StreamId) (b : Datagram) (s : Receiver σ) :
    ∃ t, processDatagram env streamId b s =
        some ((receivePackets env streamId b.packets s.station).1, t) ∧
      t.receiver.station = (receivePackets env streamId b.packets s.station).2 := by
  obtain ⟨ok, t, hloop⟩ := datagramLoop_returns env streamId b s
  have hpackets : receivePackets env streamId b.packets s.station = (ok, t.receiver.station) :=
    receivePackets_of_returns (returns_of_loopFor hloop) (Nat.zero_le _) (Nat.lt_succ_self _)
  have hclose : (closeDatagram streamId b (ok, t)).1 = ok ∧
      (closeDatagram streamId b (ok, t)).2.receiver.station = t.receiver.station := by
    cases ok with
    | true =>
      simp only [closeDatagram]
      split <;> exact ⟨rfl, rfl⟩
    | false => exact ⟨rfl, rfl⟩
  rw [hpackets]
  refine ⟨(closeDatagram streamId b (ok, t)).2, ?_, hclose.2⟩
  rw [processDatagram, hloop, Option.map_some]
  exact congrArg some (Prod.ext hclose.1 rfl)

/-- Every packet of a datagram is a window of it that `ts_packet_parse` accepts. -/
theorem exists_window_of_mem {n offset : ℕ} {p : ParsedPacket} (h : p ∈ b.packetsFrom n offset) :
    ∃ k, k + tsPacketSize ≤ b.length ∧ b.window k = p.packet := by
  induction n generalizing offset with
  | zero => cases h
  | succ n ih =>
    rw [Datagram.packetsFrom] at h
    split at h
    · cases h
    · next hover =>
      cases hparse : (b.window offset).parse? with
      | none =>
        rw [hparse] at h
        exact ih h
      | some q =>
        rw [hparse] at h
        rcases List.mem_cons.mp h with rfl | h
        · exact ⟨offset, Nat.not_lt.mp hover, Packet.parse?_eq_some.mp hparse⟩
        · exact ih h

/-! ### Datagrams made of packets -/

/-- The bytes of packets with their headers. -/
abbrev packetBytes (ps : List ParsedPacket) : List UInt8 := payload (ps.map (·.packet))

theorem Packet.ofBytes_append (p : Packet) (rest : List UInt8) : Packet.ofBytes (p.bytes ++ rest) = p := by
  rcases p with ⟨bytes, hsize⟩
  have hle : tsPacketSize ≤ (bytes ++ rest).length := by
    rw [List.length_append, hsize]
    exact Nat.le_add_right _ _
  rw [Packet.ofBytes, Packet.mk.injEq, List.takeD_eq_take _ hle, ← hsize, List.take_left]

theorem packetBytes_length (ps : List ParsedPacket) :
    (packetBytes ps).length = tsPacketSize * ps.length := by
  rw [packetBytes, payload_length, List.length_map]

/-- The packets behind some packets. -/
theorem packetsFrom_payload {before rest : List ParsedPacket}
    (hbytes : b.bytes = packetBytes (before ++ rest)) {n : ℕ} (hn : rest.length < n) :
    b.packetsFrom n (packetBytes before).length = rest := by
  have hlength : b.length = (packetBytes before).length + tsPacketSize * rest.length := by
    rw [Datagram.length, hbytes, packetBytes_length, packetBytes_length, List.length_append, Nat.mul_add]
  induction rest generalizing before n with
  | nil =>
    cases n with
    | zero => rfl
    | succ n =>
      have hover : b.length < (packetBytes before).length + tsPacketSize := by
        rw [hlength]
        exact Nat.add_lt_add_left (by decide) _
      rw [Datagram.packetsFrom, if_pos hover]
  | cons p rest ih =>
    obtain ⟨n, rfl⟩ : ∃ m, n = m + 1 := ⟨n - 1, by omega⟩
    have hfits : ¬ b.length < (packetBytes before).length + tsPacketSize := by
      rw [hlength, List.length_cons, Nat.mul_succ]
      omega
    have hwindow : b.window (packetBytes before).length = p.packet := by
      have hsplit : packetBytes (before ++ p :: rest) =
          packetBytes before ++ (p.packet.bytes ++ packetBytes rest) := by
        simp [packetBytes, payload]
      rw [Datagram.window, hbytes, hsplit, List.drop_left, Packet.ofBytes_append]
    have hconcat : before ++ p :: rest = (before ++ [p]) ++ rest := by simp
    have hnext : (packetBytes before).length + tsPacketSize = (packetBytes (before ++ [p])).length := by
      rw [packetBytes_length, packetBytes_length, List.length_append, List.length_singleton, Nat.mul_succ]
    rw [Datagram.packetsFrom, if_neg hfits, Packet.parse?_eq_some.mpr hwindow]
    dsimp only
    rw [hnext, ih (by rw [hbytes, hconcat]) (by simpa using hn)
      (by rw [hlength, ← hnext, List.length_cons, Nat.mul_succ]; omega)]

/-- **Round trip.** A datagram that consists of packets is scanned to these packets. -/
theorem packets_payload {ps : List ParsedPacket} (hbytes : b.bytes = packetBytes ps) : b.packets = ps := by
  show b.packetsFrom (b.length + 1) (packetBytes []).length = ps
  refine packetsFrom_payload hbytes ?_
  rw [Datagram.length, hbytes, packetBytes_length]
  show ps.length < 188 * ps.length + 1
  omega

end TwoStream
