import Mathlib.Data.Nat.Bitwise
import Mathlib.Data.List.GetD
import Mathlib.Data.List.TakeDrop

/-!
# Transport packets (`ts_packet.c`, `hash_packet`)

* `Packet`: 188 bytes. `tsPacketParse` reads the header into `TsPacketInfo`.
* `ParsedPacket`: a packet with the header it parses to; this is what the engine is fed.
* `hashPacket`: the 64-bit hash the engine compares packets by.
-/

namespace TwoStream

/-- `TS_PACKET_SIZE`. -/
abbrev tsPacketSize : ℕ := 188

/-- `TS_SYNC_BYTE`. -/
abbrev tsSyncByte : ℕ := 0x47

/-- `TS_NULL_PID`. -/
abbrev tsNullPid : ℕ := 0x1fff

/-- A packet buffer, `uint8_t packet[TS_PACKET_SIZE]`. -/
structure Packet where
  bytes : List UInt8
  size : bytes.length = tsPacketSize
  deriving DecidableEq

/-- Byte `k` of the packet. -/
def Packet.byte (p : Packet) (k : ℕ) : ℕ := (p.bytes.getD k 0).toNat

/-- The packet at the start of `bytes`, padded where they end. -/
def Packet.ofBytes (bytes : List UInt8) : Packet where
  bytes := bytes.takeD tsPacketSize 0
  size := List.takeD_length _ _ _

/-- `ts_packet_info_t`. -/
structure TsPacketInfo where
  pid : ℕ
  continuityCounter : ℕ
  adaptationFieldControl : ℕ
  transportError : Bool
  payloadUnitStart : Bool
  hasPayload : Bool
  hasAdaptation : Bool
  discontinuityIndicator : Bool
  hasPcr : Bool
  pcrBase : ℕ
  pcrExtension : ℕ
  isNull : Bool
  deriving DecidableEq

/-- `ts_packet_has_sync`. -/
def tsPacketHasSync (packet : Packet) : Bool := packet.byte 0 == tsSyncByte

/-- `ts_packet_parse`: `none` where the C function returns `false`. -/
def tsPacketParse (packet : Packet) : Option TsPacketInfo :=
  if !tsPacketHasSync packet then none
  else
    let pid := ((packet.byte 1 &&& 0x1f) <<< 8) ||| packet.byte 2
    let adaptationFieldControl := (packet.byte 3 >>> 4) &&& 0x03
    let info : TsPacketInfo :=
      { pid := pid
        continuityCounter := packet.byte 3 &&& 0x0f
        adaptationFieldControl := adaptationFieldControl
        transportError := packet.byte 1 &&& 0x80 != 0
        payloadUnitStart := packet.byte 1 &&& 0x40 != 0
        hasPayload := adaptationFieldControl == 1 || adaptationFieldControl == 3
        hasAdaptation := adaptationFieldControl == 2 || adaptationFieldControl == 3
        discontinuityIndicator := false
        hasPcr := false
        pcrBase := 0
        pcrExtension := 0
        isNull := pid == tsNullPid }
    if adaptationFieldControl = 0 then none
    else if !info.hasAdaptation then some info
    else
      let adaptationLength := packet.byte 4
      if adaptationLength = 0 then some info
      else if 5 + adaptationLength > tsPacketSize then none
      else
        let discontinuityIndicator := packet.byte 5 &&& 0x80 != 0
        if packet.byte 5 &&& 0x10 != 0 && adaptationLength ≥ 7 then
          some { info with
            discontinuityIndicator := discontinuityIndicator
            hasPcr := true
            pcrBase := (packet.byte 6 <<< 25) ||| (packet.byte 7 <<< 17) |||
              (packet.byte 8 <<< 9) ||| (packet.byte 9 <<< 1) ||| (packet.byte 10 >>> 7)
            pcrExtension := ((packet.byte 10 &&& 0x01) <<< 8) ||| packet.byte 11 }
        else some { info with discontinuityIndicator := discontinuityIndicator }

theorem getD_takeD {k n : ℕ} (l : List UInt8) (hk : k < n) : (l.takeD n 0).getD k 0 = l.getD k 0 := by
  induction n generalizing l k with
  | zero => omega
  | succ n ih =>
    cases l with
    | nil => rw [List.takeD_nil, List.getD_replicate _ hk, List.getD_nil]
    | cons a l =>
      cases k with
      | zero => rfl
      | succ k =>
        simp only [List.takeD_succ, List.tail_cons, List.getD_cons_succ]
        exact ih l (by omega)

theorem Packet.byte_ofBytes {k : ℕ} (bytes : List UInt8) (hk : k < tsPacketSize) :
    (Packet.ofBytes bytes).byte k = (bytes.getD k 0).toNat := by
  rw [Packet.byte, Packet.ofBytes, getD_takeD _ hk]

theorem Packet.byte_lt (p : Packet) (k : ℕ) : p.byte k < 256 := (p.bytes.getD k 0).toNat_lt

/-- What `tsPacketParse` guarantees about the fields the engine indexes and compares by. -/
theorem tsPacketParse_bounds {packet : Packet} {info : TsPacketInfo}
    (h : tsPacketParse packet = some info) :
    info.pid < 8192 ∧ info.continuityCounter < 16 ∧ (info.isNull = true ↔ info.pid = tsNullPid) := by
  have hpid : ((packet.byte 1 &&& 0x1f) <<< 8) ||| packet.byte 2 < 8192 := by
    have h1 : packet.byte 1 &&& 0x1f ≤ 0x1f := Nat.and_le_right
    have h2 := packet.byte_lt 2
    exact Nat.or_lt_two_pow (n := 13) (by rw [Nat.shiftLeft_eq]; omega) (by omega)
  have hcc : packet.byte 3 &&& 0x0f < 16 := Nat.lt_succ_of_le Nat.and_le_right
  simp only [tsPacketParse] at h
  split_ifs at h <;> obtain rfl := Option.some.inj h <;> exact ⟨hpid, hcc, by simp⟩

/-- A packet together with the header it parses to. -/
structure ParsedPacket where
  packet : Packet
  info : TsPacketInfo
  parsed : tsPacketParse packet = some info
  deriving DecidableEq

theorem ParsedPacket.pid_lt (p : ParsedPacket) : p.info.pid < 8192 :=
  (tsPacketParse_bounds p.parsed).1

theorem ParsedPacket.continuityCounter_lt (p : ParsedPacket) : p.info.continuityCounter < 16 :=
  (tsPacketParse_bounds p.parsed).2.1

theorem ParsedPacket.isNull_iff (p : ParsedPacket) : p.info.isNull = true ↔ p.info.pid = tsNullPid :=
  (tsPacketParse_bounds p.parsed).2.2

/-! ### Building packets -/

/-- A packet of payload, all bytes `content`. -/
def payloadPacket (pid cc content : ℕ) : Packet where
  bytes := [0x47, .ofNat (pid / 256), .ofNat pid, .ofNat (0x10 + cc)] ++ .replicate 184 (.ofNat content)
  size := by rw [List.length_append, List.length_replicate]; rfl

/-- A packet with a clock reference and payload. -/
def pcrPacket (pid cc pcr : ℕ) : Packet where
  bytes := [0x47, .ofNat (pid / 256), .ofNat pid, .ofNat (0x30 + cc), 7, 0x10, 0, 0, 0, .ofNat pcr, 0, 0] ++
    .replicate 176 0xff
  size := by rw [List.length_append, List.length_replicate]; rfl

/-- A null packet with its header. -/
def nullPacket : ParsedPacket where
  packet := payloadPacket tsNullPid 0 0
  info := ⟨tsNullPid, 0, 1, false, false, true, false, false, false, 0, 0, true⟩
  parsed := by decide +kernel

/-- A packet with its header; a null packet where there is none. -/
def Packet.parse (p : Packet) : ParsedPacket :=
  match h : tsPacketParse p with
  | some info => ⟨p, info, h⟩
  | none => nullPacket

/-! ### Hashing -/

/-- `hash_packet`, in 64-bit arithmetic. -/
def hashPacket (packet : Packet) : ℕ :=
  packet.bytes.foldl (fun hash b => ((hash ^^^ b.toNat) * 1099511628211) % 2 ^ 64)
    1469598103934665603

end TwoStream
