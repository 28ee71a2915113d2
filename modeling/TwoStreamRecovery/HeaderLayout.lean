import TwoStreamRecovery.TsPacket
import TwoStreamRecovery.Lib.BitFields

/-!
# The layout of transport packets

* `TsHeader`: the fields of the header, of the adaptation field and of the clock reference, with all
  the bits between them; `TsHeader.packet` lays them out in front of any payload.
* `tsPacketParse_isSome_iff`: which packets `ts_packet_parse` accepts.
* `tsPacketParse_layout`: it gives the fields of a layout back.
* **`tsPacketParse_format`**: the two together, for every packet.
-/

namespace TwoStream

/-! ### The layout -/

/-- The fields of a packet. -/
structure TsHeader where
  transportError : Bool
  payloadUnitStart : Bool
  transportPriority : Bool
  pid : Fin (2 ^ 13)
  scramblingControl : Fin (2 ^ 2)
  adaptationFieldControl : Fin (2 ^ 2)
  control_ne_zero : adaptationFieldControl ≠ 0
  continuityCounter : Fin (2 ^ 4)
  adaptationLength : ℕ
  adaptationLength_le : adaptationLength ≤ 183
  discontinuity : Bool
  randomAccess : Bool
  streamPriority : Bool
  pcrFlag : Bool
  otherFlags : Fin (2 ^ 4)
  pcrBase : Fin (2 ^ 33)
  reserved : Fin (2 ^ 6)
  pcrExtension : Fin (2 ^ 9)

variable (h : TsHeader)

/-- There is an adaptation field. -/
def TsHeader.hasAdaptation : Bool :=
  decide (h.adaptationFieldControl = 2) || decide (h.adaptationFieldControl = 3)

/-- It has flags. -/
def TsHeader.hasFlags : Bool := h.hasAdaptation && decide (h.adaptationLength ≠ 0)

/-- It has room for the clock reference that the flags announce. -/
def TsHeader.hasPcr : Bool := h.hasAdaptation && h.pcrFlag && decide (7 ≤ h.adaptationLength)

/-- The fields of the first four bytes. -/
def TsHeader.headerFields : List (ℕ × ℕ) :=
  [(8, tsSyncByte), (1, h.transportError.toNat), (1, h.payloadUnitStart.toNat),
    (1, h.transportPriority.toNat), (13, h.pid), (2, h.scramblingControl),
    (2, h.adaptationFieldControl), (4, h.continuityCounter)]

/-- The flags of the adaptation field. -/
def TsHeader.flagFields : List (ℕ × ℕ) :=
  [(1, h.discontinuity.toNat), (1, h.randomAccess.toNat), (1, h.streamPriority.toNat),
    (1, h.pcrFlag.toNat), (4, h.otherFlags)]

/-- The clock reference. -/
def TsHeader.pcrFields : List (ℕ × ℕ) := [(33, h.pcrBase), (6, h.reserved), (9, h.pcrExtension)]

/-- The bytes of the fields that are there. -/
def TsHeader.bytes : List UInt8 :=
  fieldsBytes 4 h.headerFields ++
    ((if h.hasAdaptation then fieldsBytes 1 [(8, h.adaptationLength)] else []) ++
      ((if h.hasFlags then fieldsBytes 1 h.flagFields else []) ++
        if h.hasPcr then fieldsBytes 6 h.pcrFields else []))

/-- A packet with these fields; `body` is the rest of it. -/
def TsHeader.packet (body : List UInt8) : Packet := .ofBytes (h.bytes ++ body)

/-- What `ts_packet_parse` should report. -/
def TsHeader.info : TsPacketInfo where
  pid := h.pid
  continuityCounter := h.continuityCounter
  adaptationFieldControl := h.adaptationFieldControl
  transportError := h.transportError
  payloadUnitStart := h.payloadUnitStart
  hasPayload := decide (h.adaptationFieldControl = 1) || decide (h.adaptationFieldControl = 3)
  hasAdaptation := h.hasAdaptation
  discontinuityIndicator := h.hasFlags && h.discontinuity
  hasPcr := h.hasPcr
  pcrBase := if h.hasPcr then h.pcrBase else 0
  pcrExtension := if h.hasPcr then h.pcrExtension else 0
  isNull := decide ((h.pid : ℕ) = tsNullPid)

/-! ### Reading bytes -/

section Bytes

variable {h} (body : List UInt8) {k : ℕ}

theorem packet_byte (hk : k < tsPacketSize) :
    (h.packet body).byte k = ((h.bytes ++ body).getD k 0).toNat := Packet.byte_ofBytes _ hk

theorem header_byte (hk : k < 4) :
    (h.packet body).byte k = fieldsValue h.headerFields / 256 ^ (3 - k) % 256 := by
  have hpacket : k < tsPacketSize := Nat.lt_of_lt_of_le hk (by decide)
  rw [packet_byte body hpacket, TsHeader.bytes, List.append_assoc,
    List.getD_append _ _ _ _ (by simpa using hk), getD_fieldsBytes _ hk]

theorem length_byte (hadaptation : h.hasAdaptation = true) :
    (h.packet body).byte 4 = h.adaptationLength := by
  have hle := h.adaptationLength_le
  rw [packet_byte body (by decide), TsHeader.bytes, if_pos hadaptation, List.append_assoc,
    List.append_assoc, List.getD_append_right _ _ _ _ (by simp), length_fieldsBytes,
    List.getD_append _ _ _ _ (by simp), getD_fieldsBytes _ (by decide)]
  simp only [fieldsValue, List.foldl_cons, List.foldl_nil]
  omega

theorem flags_byte (hflags : h.hasFlags = true) :
    (h.packet body).byte 5 = fieldsValue h.flagFields % 256 := by
  have hadaptation : h.hasAdaptation = true := by
    rw [TsHeader.hasFlags, Bool.and_eq_true] at hflags
    exact hflags.1
  rw [packet_byte body (by decide), TsHeader.bytes, if_pos hadaptation, if_pos hflags]
  simp only [List.append_assoc]
  rw [List.getD_append_right _ _ _ _ (by simp), List.getD_append_right _ _ _ _ (by simp),
    List.getD_append _ _ _ _ (by simp), length_fieldsBytes, length_fieldsBytes,
    getD_fieldsBytes _ (by decide)]
  simp

theorem pcr_byte (hpcr : h.hasPcr = true) (hk : k < 6) :
    (h.packet body).byte (6 + k) = fieldsValue h.pcrFields / 256 ^ (5 - k) % 256 := by
  have hall := hpcr
  simp only [TsHeader.hasPcr, Bool.and_eq_true, decide_eq_true_eq] at hall
  have hflags : h.hasFlags = true := by
    simp only [TsHeader.hasFlags, hall.1.1, Bool.true_and, decide_eq_true_eq]
    omega
  have hpacket : 6 + k < tsPacketSize := Nat.lt_of_lt_of_le (by omega : 6 + k < 12) (by decide)
  rw [packet_byte body hpacket, TsHeader.bytes, if_pos hall.1.1, if_pos hflags, if_pos hpcr]
  simp only [List.append_assoc]
  rw [List.getD_append_right _ _ _ _ (by simp; omega), List.getD_append_right _ _ _ _ (by simp; omega),
    List.getD_append_right _ _ _ _ (by simp; omega), length_fieldsBytes, length_fieldsBytes,
    length_fieldsBytes, show 6 + k - 4 - 1 - 1 = k by omega, List.getD_append _ _ _ _ (by simpa using hk),
    getD_fieldsBytes _ hk]

end Bytes

/-! ### Masks and shifts -/

section Masks

variable {b b₁ b₂ b₃ b₄ : ℕ}

theorem pid_eq (hb : b₂ < 256) : ((b₁ &&& 0x1f) <<< 8) ||| b₂ = b₁ % 32 * 256 + b₂ := by
  have hmask : b₁ &&& 0x1f = b₁ % 32 := and_mask 5 b₁
  rw [hmask, Nat.shiftLeft_eq]
  exact or_eq_add (i := 8) (Nat.dvd_mul_left _ _) hb

theorem control_eq (b : ℕ) : (b >>> 4) &&& 0x03 = b / 16 % 4 := by
  rw [Nat.shiftRight_eq_div_pow]
  exact and_mask 2 _

theorem counter_eq (b : ℕ) : b &&& 0x0f = b % 16 := and_mask 4 b

theorem bit7_eq (b : ℕ) : (b &&& 0x80 != 0) = decide (b / 128 % 2 = 1) := and_bit_ne_zero 7 b

theorem bit6_eq (b : ℕ) : (b &&& 0x40 != 0) = decide (b / 64 % 2 = 1) := and_bit_ne_zero 6 b

theorem bit4_eq (b : ℕ) : (b &&& 0x10 != 0) = decide (b / 16 % 2 = 1) := and_bit_ne_zero 4 b

theorem base_eq {b₀ : ℕ} (h₁ : b₁ < 256) (h₂ : b₂ < 256) (h₃ : b₃ < 256) (h₄ : b₄ < 256) :
    (b₀ <<< 25) ||| (b₁ <<< 17) ||| (b₂ <<< 9) ||| (b₃ <<< 1) ||| (b₄ >>> 7) =
      b₀ * 2 ^ 25 + b₁ * 2 ^ 17 + b₂ * 2 ^ 9 + b₃ * 2 + b₄ / 128 := by
  simp only [Nat.shiftLeft_eq, Nat.shiftRight_eq_div_pow]
  have h25 : b₀ * 2 ^ 25 ||| b₁ * 2 ^ 17 = b₀ * 2 ^ 25 + b₁ * 2 ^ 17 :=
    or_eq_add (i := 25) (by omega) (by omega)
  have h17 : b₀ * 2 ^ 25 + b₁ * 2 ^ 17 ||| b₂ * 2 ^ 9 =
      b₀ * 2 ^ 25 + b₁ * 2 ^ 17 + b₂ * 2 ^ 9 := or_eq_add (i := 17) (by omega) (by omega)
  have h9 : b₀ * 2 ^ 25 + b₁ * 2 ^ 17 + b₂ * 2 ^ 9 ||| b₃ * 2 ^ 1 =
      b₀ * 2 ^ 25 + b₁ * 2 ^ 17 + b₂ * 2 ^ 9 + b₃ * 2 ^ 1 := or_eq_add (i := 9) (by omega) (by omega)
  rw [h25, h17, h9]
  exact or_eq_add (i := 1) (by omega) (by omega)

theorem extension_eq (hb : b₂ < 256) : ((b₁ &&& 0x01) <<< 8) ||| b₂ = b₁ % 2 * 256 + b₂ := by
  have hmask : b₁ &&& 0x01 = b₁ % 2 := and_mask 1 b₁
  rw [hmask, Nat.shiftLeft_eq]
  exact or_eq_add (i := 8) (Nat.dvd_mul_left _ _) hb

end Masks

/-! ### Acceptance -/

/-- **Which packets are accepted:** those with the sync byte, payload or an adaptation field, and an
adaptation field that fits. -/
theorem tsPacketParse_isSome_iff (p : Packet) :
    (tsPacketParse p).isSome = true ↔
      p.byte 0 = tsSyncByte ∧ p.byte 3 / 16 % 4 ≠ 0 ∧
        (p.byte 3 / 16 % 4 = 2 ∨ p.byte 3 / 16 % 4 = 3 → p.byte 4 ≤ 183) := by
  unfold tsPacketParse
  simp only [tsPacketHasSync, control_eq]
  generalize p.byte 3 / 16 % 4 = control
  by_cases hsync : p.byte 0 = tsSyncByte
  · by_cases hzero : control = 0
    · simp [hsync, hzero]
    · by_cases hadaptation : control = 2 ∨ control = 3
      · have hhas : (control == 2 || control == 3) = true := by simpa using hadaptation
        simp only [hsync, hzero, hadaptation, hhas, beq_self_eq_true, Bool.not_true, Bool.false_eq_true,
          reduceIte, ne_eq, not_false_eq_true, true_and, true_imp_iff]
        by_cases hempty : p.byte 4 = 0
        · simp [hempty]
        · by_cases hlong : 5 + p.byte 4 > tsPacketSize
          · have hover : ¬ p.byte 4 ≤ 183 := by
              have hpacket : tsPacketSize = 188 := rfl
              omega
            simp [hempty, hlong, hover]
          · have hfits : p.byte 4 ≤ 183 := by
              have hpacket : tsPacketSize = 188 := rfl
              omega
            rw [if_neg hempty, if_neg hlong]
            split <;> simp [hfits]
      · have hhas : (control == 2 || control == 3) = false := by simpa using hadaptation
        simp [hsync, hzero, hhas, hadaptation]
  · simp [hsync]

/-! ### Parsing a layout -/

section Layout

variable (body : List UInt8)

/-- The first four bytes. -/
theorem header_bytes :
    (h.packet body).byte 0 = tsSyncByte ∧
      (h.packet body).byte 1 = h.transportError.toNat * 128 + h.payloadUnitStart.toNat * 64 +
        h.transportPriority.toNat * 32 + h.pid / 256 ∧
      (h.packet body).byte 2 = h.pid % 256 ∧
      (h.packet body).byte 3 =
        h.scramblingControl * 64 + h.adaptationFieldControl * 16 + h.continuityCounter := by
  have h₁ := h.transportError.toNat_le
  have h₂ := h.payloadUnitStart.toNat_le
  have h₃ := h.transportPriority.toNat_le
  have h₄ := h.pid.isLt
  have h₅ := h.scramblingControl.isLt
  have h₆ := h.adaptationFieldControl.isLt
  have h₇ := h.continuityCounter.isLt
  refine ⟨?_, ?_, ?_, ?_⟩ <;>
    rw [header_byte body (by decide)] <;>
    simp only [fieldsValue, TsHeader.headerFields, tsSyncByte, List.foldl_cons, List.foldl_nil] <;>
    omega

/-- The flags of the adaptation field. -/
theorem flags_eq (hflags : h.hasFlags = true) :
    (h.packet body).byte 5 = h.discontinuity.toNat * 128 + h.randomAccess.toNat * 64 +
      h.streamPriority.toNat * 32 + h.pcrFlag.toNat * 16 + h.otherFlags := by
  have h₁ := h.discontinuity.toNat_le
  have h₂ := h.randomAccess.toNat_le
  have h₃ := h.streamPriority.toNat_le
  have h₄ := h.pcrFlag.toNat_le
  have h₅ := h.otherFlags.isLt
  rw [flags_byte body hflags]
  simp only [fieldsValue, TsHeader.flagFields, List.foldl_cons, List.foldl_nil]
  omega

/-- The clock reference. -/
theorem pcr_bytes (hpcr : h.hasPcr = true) :
    (h.packet body).byte 6 = h.pcrBase / 2 ^ 25 ∧ (h.packet body).byte 7 = h.pcrBase / 2 ^ 17 % 256 ∧
      (h.packet body).byte 8 = h.pcrBase / 2 ^ 9 % 256 ∧ (h.packet body).byte 9 = h.pcrBase / 2 % 256 ∧
      (h.packet body).byte 10 = h.pcrBase % 2 * 128 + h.reserved * 2 + h.pcrExtension / 256 ∧
      (h.packet body).byte 11 = h.pcrExtension % 256 := by
  have h₁ := h.pcrBase.isLt
  have h₂ := h.reserved.isLt
  have h₃ := h.pcrExtension.isLt
  have hbyte (k : ℕ) (hk : k < 6) := pcr_byte body hpcr hk
  simp only [fieldsValue, TsHeader.pcrFields, List.foldl_cons, List.foldl_nil] at hbyte
  refine ⟨(hbyte 0 (by decide)).trans ?_, (hbyte 1 (by decide)).trans ?_,
    (hbyte 2 (by decide)).trans ?_, (hbyte 3 (by decide)).trans ?_, (hbyte 4 (by decide)).trans ?_,
    (hbyte 5 (by decide)).trans ?_⟩ <;> omega

/-- The base is put together from its bytes. -/
theorem base_digits (a : ℕ) {r e : ℕ} (hr : r < 64) (he : e < 512) :
    a / 2 ^ 25 * 2 ^ 25 + a / 2 ^ 17 % 256 * 2 ^ 17 + a / 2 ^ 9 % 256 * 2 ^ 9 + a / 2 % 256 * 2 +
      (a % 2 * 128 + r * 2 + e / 256) / 128 = a := by
  have hlast : (a % 2 * 128 + r * 2 + e / 256) / 128 = a % 2 := by omega
  rw [hlast]
  omega

/-- So is the extension. -/
theorem extension_digits (a : ℕ) {r e : ℕ} (he : e < 512) :
    (a % 2 * 128 + r * 2 + e / 256) % 2 * 256 + e % 256 = e := by omega

/-- A flag is read from the bit it is laid out in. -/
theorem flag_eq {b : ℕ} {flag : Bool} (hb : b % 2 = flag.toNat) : decide (b % 2 = 1) = flag := by
  cases flag <;> simp_all

theorem adaptation_eq :
    ((h.adaptationFieldControl : ℕ) == 2 || (h.adaptationFieldControl : ℕ) == 3) = h.hasAdaptation := by
  rw [TsHeader.hasAdaptation]
  generalize h.adaptationFieldControl = control
  revert control
  decide

theorem payload_eq :
    ((h.adaptationFieldControl : ℕ) == 1 || (h.adaptationFieldControl : ℕ) == 3) = h.info.hasPayload := by
  simp only [TsHeader.info]
  generalize h.adaptationFieldControl = control
  revert control
  decide

/-- The fields of a layout are given back, whatever the other bits and bytes are. -/
theorem tsPacketParse_layout : tsPacketParse (h.packet body) = some h.info := by
  obtain ⟨hbyte0, hbyte1, hbyte2, hbyte3⟩ := header_bytes h body
  have hzero := h.control_ne_zero
  have h₁ := h.transportError.toNat_le
  have h₂ := h.payloadUnitStart.toNat_le
  have h₃ := h.transportPriority.toNat_le
  have h₄ := h.pid.isLt
  have h₅ := h.adaptationFieldControl.isLt
  have h₆ := h.continuityCounter.isLt
  have hsync : tsPacketHasSync (h.packet body) = true := by rw [tsPacketHasSync, hbyte0]; rfl
  have herror : decide ((h.packet body).byte 1 / 128 % 2 = 1) = h.transportError :=
    flag_eq (by omega)
  have hstart : decide ((h.packet body).byte 1 / 64 % 2 = 1) = h.payloadUnitStart :=
    flag_eq (by omega)
  have hpid : (h.packet body).byte 1 % 32 * 256 + (h.packet body).byte 2 = h.pid := by omega
  have hcontrol : (h.packet body).byte 3 / 16 % 4 = h.adaptationFieldControl := by omega
  have hcounter : (h.packet body).byte 3 % 16 = h.continuityCounter := by omega
  unfold tsPacketParse
  simp only [hsync, pid_eq (Packet.byte_lt _ 2), control_eq, counter_eq, bit7_eq, bit6_eq, bit4_eq,
    extension_eq (Packet.byte_lt _ 11), base_eq (Packet.byte_lt _ 7) (Packet.byte_lt _ 8)
      (Packet.byte_lt _ 9) (Packet.byte_lt _ 10), herror, hstart, hpid, hcontrol, hcounter,
    adaptation_eq, payload_eq]
  have hnonzero : (h.adaptationFieldControl : ℕ) ≠ 0 := fun hzero' => hzero (Fin.ext hzero')
  rw [if_neg (by simp), if_neg hnonzero]
  by_cases hadaptation : h.hasAdaptation = true
  · have hle := h.adaptationLength_le
    have hlength := length_byte body hadaptation
    rw [if_neg (by simp [hadaptation]), hlength]
    by_cases hempty : h.adaptationLength = 0
    · rw [if_pos hempty]
      have hflags : h.hasFlags = false := by simp [TsHeader.hasFlags, hempty]
      have hpcr : h.hasPcr = false := by simp [TsHeader.hasPcr, hempty]
      simp [TsHeader.info, hflags, hpcr, beq_eq_decide]
    · have hflags : h.hasFlags = true := by simp [TsHeader.hasFlags, hadaptation, hempty]
      have hbyte5 := flags_eq h body hflags
      have h₇ := h.randomAccess.toNat_le
      have h₈ := h.streamPriority.toNat_le
      have h₉ := h.pcrFlag.toNat_le
      have h₁₀ := h.otherFlags.isLt
      have h₁₁ := h.discontinuity.toNat_le
      have hdiscontinuity : decide ((h.packet body).byte 5 / 128 % 2 = 1) = h.discontinuity :=
        flag_eq (by omega)
      have hflag : decide ((h.packet body).byte 5 / 16 % 2 = 1) = h.pcrFlag := flag_eq (by omega)
      have hfits : ¬ 5 + h.adaptationLength > tsPacketSize := by
        have hpacket : tsPacketSize = 188 := rfl
        omega
      have hpcr : (h.pcrFlag && decide (h.adaptationLength ≥ 7)) = h.hasPcr := by
        simp [TsHeader.hasPcr, hadaptation]
      rw [if_neg hempty, if_neg hfits, hdiscontinuity, hflag, hpcr]
      by_cases hreference : h.hasPcr = true
      · obtain ⟨hbyte6, hbyte7, hbyte8, hbyte9, hbyte10, hbyte11⟩ := pcr_bytes h body hreference
        rw [if_pos hreference, hbyte6, hbyte7, hbyte8, hbyte9, hbyte10, hbyte11,
          base_digits h.pcrBase h.reserved.isLt h.pcrExtension.isLt,
          extension_digits h.pcrBase h.pcrExtension.isLt]
        simp [TsHeader.info, hflags, hreference, beq_eq_decide]
      · rw [if_neg hreference]
        simp [TsHeader.info, hflags, hreference, beq_eq_decide]
  · have hflags : h.hasFlags = false := by simp [TsHeader.hasFlags, hadaptation]
    have hpcr : h.hasPcr = false := by simp [TsHeader.hasPcr, hadaptation]
    rw [if_pos (by simpa using hadaptation)]
    simp [TsHeader.info, hflags, hpcr, beq_eq_decide]

/-- A packet that starts with the fields is one of the layouts. -/
theorem packet_eq {p : Packet} (hp : p.bytes = h.bytes ++ body) : p = h.packet body := by
  have hbytes : p.bytes = (h.packet body).bytes := by
    rw [TsHeader.packet, Packet.ofBytes, ← hp]
    simp only
    rw [List.takeD_eq_take _ p.size.ge, List.take_of_length_le p.size.le]
  cases p
  cases hbytes
  rfl

end Layout

/-- **The packet parser decodes the transport header format.** It accepts exactly the packets with the
sync byte, an adaptation field control that is not 0 and an adaptation field that fits, and it gives
back the fields that a packet is laid out with; the adaptation flags are reported only where there is
room for them. -/
theorem tsPacketParse_format (p : Packet) :
    ((tsPacketParse p).isSome = true ↔
        p.byte 0 = tsSyncByte ∧ p.byte 3 / 16 % 4 ≠ 0 ∧
          (p.byte 3 / 16 % 4 = 2 ∨ p.byte 3 / 16 % 4 = 3 → p.byte 4 ≤ 183)) ∧
      ∀ (h : TsHeader) (body : List UInt8), p.bytes = h.bytes ++ body →
        tsPacketParse p = some h.info ∧
          (h.info.hasPcr = true → h.pcrFlag = true ∧ 7 ≤ h.adaptationLength) ∧
          (h.hasAdaptation = false ∨ h.adaptationLength = 0 →
            h.info.discontinuityIndicator = false ∧ h.info.hasPcr = false) := by
  refine ⟨tsPacketParse_isSome_iff p, fun h body hp => ⟨?_, fun hpcr => ?_, fun hnone => ?_⟩⟩
  · rw [packet_eq h body hp]
    exact tsPacketParse_layout h body
  · simp only [TsHeader.info, TsHeader.hasPcr, Bool.and_eq_true, decide_eq_true_eq] at hpcr
    exact ⟨hpcr.1.2, hpcr.2⟩
  · rcases hnone with hnone | hempty
    · simp [TsHeader.info, TsHeader.hasFlags, TsHeader.hasPcr, hnone]
    · simp [TsHeader.info, TsHeader.hasFlags, TsHeader.hasPcr, hempty]

/-- A clock reference with its highest and its lowest bits set. -/
def clockHeader : TsHeader where
  transportError := false
  payloadUnitStart := true
  transportPriority := true
  pid := 0x1abc
  scramblingControl := 2
  adaptationFieldControl := 3
  control_ne_zero := by decide
  continuityCounter := 9
  adaptationLength := 7
  adaptationLength_le := by decide
  discontinuity := true
  randomAccess := false
  streamPriority := true
  pcrFlag := true
  otherFlags := 5
  pcrBase := 0x100000001
  reserved := 63
  pcrExtension := 0x101

theorem tsPacketParse_format_clockHeader :
    tsPacketParse (clockHeader.packet (.replicate 176 0xff)) = some clockHeader.info :=
  ((tsPacketParse_format (clockHeader.packet (.replicate 176 0xff))).2 clockHeader
    (.replicate 176 0xff) (by decide +kernel)).1

end TwoStream
