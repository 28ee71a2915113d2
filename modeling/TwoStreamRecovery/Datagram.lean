import TwoStreamRecovery.LossDiagnosis
import TwoStreamRecovery.Lib.Loop

/-!
# Datagrams (`process_datagram`)

* `Datagram`: the bytes of one receive call. Offsets are computed in `size_t`.
* `datagramStep`: one iteration of the packet loop; `processDatagram`: the loop and the counters
  around it.
* `scanNext`: where the loop goes after a window. It moves forward only (`scanNext_gt`).
* **`processDatagram_terminates`**: the loop ends, reads inside the datagram, and passes disjoint
  windows in order.
-/

namespace TwoStream

/-! ### Buffers -/

/-- Addition of `size_t`. -/
def sizeAdd (a b : ℕ) : ℕ := (a + b) % 2 ^ 64

/-- Subtraction of `size_t`. -/
def sizeSub (a b : ℕ) : ℕ := (a + 2 ^ 64 - b) % 2 ^ 64

/-- What a receive call has stored; its length is a `ssize_t`. -/
structure Datagram where
  bytes : List UInt8
  size : bytes.length < 2 ^ 63

/-- `bytes`, the length of the datagram. -/
def Datagram.length (b : Datagram) : ℕ := b.bytes.length

/-- `buffer[k]`. -/
def Datagram.byte (b : Datagram) (k : ℕ) : ℕ := (b.bytes.getD k 0).toNat

/-- The window at `offset`, padded where it leaves the datagram. -/
def Datagram.window (b : Datagram) (offset : ℕ) : Packet := .ofBytes (b.bytes.drop offset)

/-- `has_sync_run`. -/
def hasSyncRun (b : Datagram) (offset : ℕ) : Bool :=
  (List.range 4).all fun i =>
    let syncOffset := sizeAdd offset (i * tsPacketSize)
    decide (syncOffset < b.length) && b.byte syncOffset == tsSyncByte

/-- `find_resync_offset`. -/
def findResyncOffset (b : Datagram) (startOffset : ℕ) : Option ℕ :=
  (List.range' (startOffset + 1) (b.length - (startOffset + 1))).find? (hasSyncRun b)

/-! ### The packet loop -/

/-- `report_stats_t`, restricted to what is counted for datagrams. -/
structure FramingStats where
  inputDatagrams : StreamId → ℕ
  malformedDatagrams : StreamId → ℕ
  partialDatagrams : StreamId → ℕ
  resyncEvents : StreamId → ℕ
  syncErrors : StreamId → ℕ

/-- The engine with the counters of its inputs and of their datagrams. -/
structure Receiver (σ : Type) where
  station : Station σ
  framing : FramingStats

variable {σ : Type}

/-- `report_stats_observe_datagram`. -/
def reportStatsObserveDatagram (stats : FramingStats) (streamId : StreamId) (bytes : ℕ) :
    FramingStats :=
  { stats with
    inputDatagrams := bump stats.inputDatagrams streamId true
    partialDatagrams :=
      bump stats.partialDatagrams streamId (decide (bytes = 0) || decide (bytes % tsPacketSize ≠ 0)) }

/-- The state of the packet loop, with the windows that were handed to `ts_packet_parse` and those that
were handed to `recovery_engine_push_packet`. -/
structure DatagramLoop (σ : Type) where
  receiver : Receiver σ
  offset : ℕ
  parsed : List ℕ
  passed : List ℕ

/-- The counters of a window that does not parse. -/
def countBadPacket (stats : FramingStats) (streamId : StreamId) (resync : Bool) : FramingStats :=
  { stats with
    syncErrors := bump stats.syncErrors streamId true
    malformedDatagrams := bump stats.malformedDatagrams streamId true
    resyncEvents := bump stats.resyncEvents streamId resync }

/-- The counters of a datagram that the loop does not use up. -/
def countPartial (stats : FramingStats) (streamId : StreamId) : FramingStats :=
  { stats with
    syncErrors := bump stats.syncErrors streamId true
    partialDatagrams := bump stats.partialDatagrams streamId true }

/-- A packet with its header, where `ts_packet_parse` returns `true`. -/
def Packet.parse? (p : Packet) : Option ParsedPacket :=
  match h : tsPacketParse p with
  | some info => some ⟨p, info, h⟩
  | none => none

/-- `recovery_engine_push_packet` returns 0 for the packet. -/
def pushTaken (env : Env σ) (streamId : StreamId) (p : ParsedPacket) (s : Station σ) : Bool :=
  (recoveryEnginePushPacket env streamId p (reportStatsNowNs env s.world).2).1

/-- `report_stats_init`. -/
def framingStatsInit : FramingStats where
  inputDatagrams _ := 0
  malformedDatagrams _ := 0
  partialDatagrams _ := 0
  resyncEvents _ := 0
  syncErrors _ := 0

/-- A fresh engine with fresh counters. -/
def freshReceiver (config : RecoveryEngineConfig) (sinkState : σ) (startNs : ℕ) : Receiver σ :=
  ⟨freshStation config sinkState startNs, framingStatsInit⟩

/-- One iteration of the loop of `process_datagram`: it returns, or goes on at the next offset. -/
def datagramStep (env : Env σ) (streamId : StreamId) (b : Datagram) (t : DatagramLoop σ) :
    (Bool × DatagramLoop σ) ⊕ DatagramLoop σ :=
  if b.length < sizeAdd t.offset tsPacketSize then .inl (true, t)
  else
    let t := { t with parsed := t.parsed ++ [t.offset] }
    match (b.window t.offset).parse? with
    | none =>
      match findResyncOffset b t.offset with
      | some resyncOffset =>
        let t := { t with receiver.framing := countBadPacket t.receiver.framing streamId true }
        let t := { t with offset := sizeSub resyncOffset tsPacketSize }
        .inr { t with offset := sizeAdd t.offset tsPacketSize }
      | none =>
        let t := { t with receiver.framing := countBadPacket t.receiver.framing streamId false }
        .inr { t with offset := sizeAdd t.offset tsPacketSize }
    | some p =>
      let taken := pushTaken env streamId p t.receiver.station
      let t :=
        { t with
          receiver.station := receivePacket env streamId p t.receiver.station
          passed := t.passed ++ [t.offset] }
      if !taken then .inl (false, t) else .inr { t with offset := sizeAdd t.offset tsPacketSize }

/-- The state in which the loop starts. -/
def openDatagram (streamId : StreamId) (b : Datagram) (s : Receiver σ) : DatagramLoop σ where
  receiver := { s with framing := reportStatsObserveDatagram s.framing streamId b.length }
  offset := 0
  parsed := []
  passed := []

/-- The counters after the loop. -/
def closeDatagram (streamId : StreamId) (b : Datagram) :
    Bool × DatagramLoop σ → Bool × DatagramLoop σ
  | (true, t) =>
    if t.offset ≠ b.length then
      (true, { t with receiver.framing := countPartial t.receiver.framing streamId })
    else (true, t)
  | (false, t) => (false, t)

/-- `process_datagram`: `true` where the C function returns 0. The loop has enough iterations
(`processDatagram_terminates`). -/
def processDatagram (env : Env σ) (streamId : StreamId) (b : Datagram) (s : Receiver σ) :
    Option (Bool × DatagramLoop σ) :=
  (loopFor (datagramStep env streamId b) (b.length + 1) (openDatagram streamId b s)).map
    (closeDatagram streamId b)

/-! ### Where the loop goes -/

section Scan

variable {b : Datagram} {x y : ℕ}

/-- `ts_packet_parse` accepts the window at `offset`. -/
def Datagram.parses (b : Datagram) (offset : ℕ) : Bool := (tsPacketParse (b.window offset)).isSome

theorem parses_eq (b : Datagram) (x : ℕ) : b.parses x = (b.window x).parse?.isSome := by
  simp only [Datagram.parses, Packet.parse?]
  split <;> simp_all

/-- The offset after the window at `offset`. -/
def scanNext (b : Datagram) (offset : ℕ) : ℕ :=
  if b.parses offset then offset + tsPacketSize
  else (findResyncOffset b offset).getD (offset + tsPacketSize)

theorem findResyncOffset_eq_some :
    findResyncOffset b x = some y ↔ x < y ∧ y < b.length ∧ hasSyncRun b y = true ∧
      ∀ z, x < z → z < y → hasSyncRun b z = false := by
  rw [findResyncOffset, List.find?_range'_eq_some, List.mem_range'_1]
  constructor
  · rintro ⟨hrun, ⟨hlow, hhigh⟩, hfirst⟩
    exact ⟨by omega, by omega, hrun, fun z hz hzy => by simpa using hfirst z hz hzy⟩
  · rintro ⟨hlow, hhigh, hrun, hfirst⟩
    exact ⟨hrun, ⟨hlow, by omega⟩, fun z hz hzy => by simpa using hfirst z hz hzy⟩

theorem findResyncOffset_eq_none :
    findResyncOffset b x = none ↔ ∀ y, x < y → y < b.length → hasSyncRun b y = false := by
  rw [findResyncOffset, List.find?_range'_eq_none]
  constructor
  · intro h y hxy hy
    simpa using h y hxy (by omega)
  · intro h y hxy hy
    simpa using h y hxy (by omega)

theorem scanNext_of_parses (h : b.parses x = true) : scanNext b x = x + tsPacketSize := if_pos h

/-- **The offset increases.** -/
theorem scanNext_gt (b : Datagram) (x : ℕ) : x < scanNext b x := by
  unfold scanNext
  split
  · exact Nat.lt_add_of_pos_right (by decide)
  · cases h : findResyncOffset b x with
    | none => exact Nat.lt_add_of_pos_right (by decide)
    | some y => exact (findResyncOffset_eq_some.mp h).1

/-- It does not leave the datagram. -/
theorem scanNext_le (hx : x + tsPacketSize ≤ b.length) : scanNext b x ≤ b.length := by
  unfold scanNext
  split
  · exact hx
  · cases h : findResyncOffset b x with
    | none => exact hx
    | some y => exact (findResyncOffset_eq_some.mp h).2.1.le

/-- The loop goes from one offset to the next. -/
def Moves (b : Datagram) (x y : ℕ) : Prop := x + tsPacketSize ≤ b.length ∧ y = scanNext b x

instance (b : Datagram) (x y : ℕ) : Decidable (Moves b x y) := inferInstanceAs (Decidable (_ ∧ _))

theorem sizeAdd_eq (h : x + y < 2 ^ 64) : sizeAdd x y = x + y := Nat.mod_eq_of_lt h

/-- The subtraction may wrap; the increment of the loop undoes it. -/
theorem sizeAdd_sizeSub (hx : x < 2 ^ 64) (hy : y ≤ 2 ^ 64) : sizeAdd (sizeSub x y) y = x := by
  unfold sizeAdd sizeSub
  omega

end Scan

/-! ### Iterations -/

section Iteration

variable {env : Env σ} {streamId : StreamId} {b : Datagram} {t t' : DatagramLoop σ} {ok : Bool}

/-- After a window that does not parse. -/
def DatagramLoop.reject (streamId : StreamId) (b : Datagram) (t : DatagramLoop σ) : DatagramLoop σ where
  receiver :=
    { t.receiver with
      framing := countBadPacket t.receiver.framing streamId (findResyncOffset b t.offset).isSome }
  offset := scanNext b t.offset
  parsed := t.parsed ++ [t.offset]
  passed := t.passed

/-- After a window that has been pushed, before the increment. -/
def DatagramLoop.pass (env : Env σ) (streamId : StreamId) (p : ParsedPacket) (t : DatagramLoop σ) :
    DatagramLoop σ where
  receiver := { t.receiver with station := receivePacket env streamId p t.receiver.station }
  offset := t.offset
  parsed := t.parsed ++ [t.offset]
  passed := t.passed ++ [t.offset]

/-- What an iteration does. -/
inductive DatagramStep (env : Env σ) (streamId : StreamId) (b : Datagram) (t : DatagramLoop σ) :
    (Bool × DatagramLoop σ) ⊕ DatagramLoop σ → Prop
  | atEnd (hend : b.length < t.offset + tsPacketSize) : DatagramStep env streamId b t (.inl (true, t))
  | rejected (hfits : t.offset + tsPacketSize ≤ b.length) (hbad : b.parses t.offset = false) :
      DatagramStep env streamId b t (.inr (t.reject streamId b))
  | passed (hfits : t.offset + tsPacketSize ≤ b.length) (p : ParsedPacket)
      (hparse : (b.window t.offset).parse? = some p)
      (htaken : pushTaken env streamId p t.receiver.station = true) :
      DatagramStep env streamId b t
        (.inr { t.pass env streamId p with offset := t.offset + tsPacketSize })
  | refused (hfits : t.offset + tsPacketSize ≤ b.length) (p : ParsedPacket)
      (hparse : (b.window t.offset).parse? = some p)
      (htaken : pushTaken env streamId p t.receiver.station = false) :
      DatagramStep env streamId b t (.inl (false, t.pass env streamId p))

/-- **The iterations**, in plain arithmetic. -/
theorem datagramStep_cases (env : Env σ) (streamId : StreamId) (ht : t.offset ≤ b.length) :
    DatagramStep env streamId b t (datagramStep env streamId b t) := by
  have hsize := b.size
  have hlength : b.length = b.bytes.length := rfl
  have hpacket : tsPacketSize = 188 := rfl
  have hadd : sizeAdd t.offset tsPacketSize = t.offset + tsPacketSize := sizeAdd_eq (by omega)
  simp only [datagramStep, hadd]
  by_cases hover : b.length < t.offset + tsPacketSize
  · rw [if_pos hover]
    exact .atEnd hover
  · have hfits : t.offset + tsPacketSize ≤ b.length := by omega
    rw [if_neg hover]
    cases hparse : (b.window t.offset).parse? with
    | none =>
      have hbad : b.parses t.offset = false := by rw [parses_eq, hparse]; rfl
      have hrejected : DatagramStep env streamId b t (.inr (t.reject streamId b)) :=
        .rejected hfits hbad
      simp only [DatagramLoop.reject, scanNext, hbad, Bool.false_eq_true, reduceIte] at hrejected
      cases hresync : findResyncOffset b t.offset with
      | none =>
        rw [hresync] at hrejected
        exact hrejected
      | some y =>
        have hy := (findResyncOffset_eq_some.mp hresync).2.1
        have hback : sizeAdd (sizeSub y tsPacketSize) tsPacketSize = y :=
          sizeAdd_sizeSub (by omega) (by decide)
        rw [hresync] at hrejected
        simp only [hback]
        exact hrejected
    | some p =>
      simp only
      cases htaken : pushTaken env streamId p t.receiver.station with
      | true => exact DatagramStep.passed hfits p hparse htaken
      | false => exact DatagramStep.refused hfits p hparse htaken

/-! ### Termination -/

/-- What the loop has done so far: the windows lie inside the datagram, and those that were passed do
not overlap. -/
structure LoopInvariant (b : Datagram) (t : DatagramLoop σ) : Prop where
  offset : t.offset ≤ b.length
  inside : ∀ o ∈ t.parsed, o + tsPacketSize ≤ b.length
  before : ∀ o ∈ t.parsed, o < t.offset
  increasing : t.parsed.Pairwise (· < ·)
  behind : ∀ o ∈ t.passed, o + tsPacketSize ≤ t.offset
  disjoint : t.passed.Pairwise fun o o' => o + tsPacketSize ≤ o'
  sublist : t.passed.Sublist t.parsed

theorem pairwise_concat {r : ℕ → ℕ → Prop} {l : List ℕ} {x : ℕ} (hl : l.Pairwise r)
    (hx : ∀ o ∈ l, r o x) : (l ++ [x]).Pairwise r :=
  List.pairwise_append.mpr ⟨hl, List.pairwise_singleton r x, fun o ho y hy => by
    rw [List.mem_singleton.mp hy]
    exact hx o ho⟩

/-- An iteration that goes on parses its window, and may pass it. -/
theorem LoopInvariant.next (ht : LoopInvariant b t) (hfits : t.offset + tsPacketSize ≤ b.length)
    (hparsed : t'.parsed = t.parsed ++ [t.offset]) (hlt : t.offset < t'.offset)
    (hle : t'.offset ≤ b.length)
    (hpassed : t'.passed = t.passed ∨
      t'.passed = t.passed ++ [t.offset] ∧ t.offset + tsPacketSize ≤ t'.offset) :
    LoopInvariant b t' where
  offset := hle
  inside o ho := by
    rw [hparsed, List.mem_append, List.mem_singleton] at ho
    rcases ho with ho | rfl
    · exact ht.inside o ho
    · exact hfits
  before o ho := by
    rw [hparsed, List.mem_append, List.mem_singleton] at ho
    rcases ho with ho | rfl
    · exact (ht.before o ho).trans hlt
    · exact hlt
  increasing := by
    rw [hparsed]
    exact pairwise_concat ht.increasing ht.before
  behind o ho := by
    rcases hpassed with hpassed | ⟨hpassed, hjump⟩
    · rw [hpassed] at ho
      exact (ht.behind o ho).trans hlt.le
    · rw [hpassed, List.mem_append, List.mem_singleton] at ho
      rcases ho with ho | rfl
      · exact (ht.behind o ho).trans hlt.le
      · exact hjump
  disjoint := by
    rcases hpassed with hpassed | ⟨hpassed, -⟩
    · rw [hpassed]
      exact ht.disjoint
    · rw [hpassed]
      exact pairwise_concat ht.disjoint ht.behind
  sublist := by
    rw [hparsed]
    rcases hpassed with hpassed | ⟨hpassed, -⟩
    · rw [hpassed]
      exact ht.sublist.trans (List.sublist_append_left _ _)
    · rw [hpassed]
      exact ht.sublist.append_right _

theorem datagramStep_invariant (ht : LoopInvariant b t)
    (hstep : datagramStep env streamId b t = .inr t') :
    LoopInvariant b t' ∧ t.offset < t'.offset := by
  have hcases := datagramStep_cases env streamId ht.offset
  rw [hstep] at hcases
  cases hcases with
  | rejected hfits hbad =>
    have hgt := scanNext_gt b t.offset
    exact ⟨ht.next hfits rfl hgt (scanNext_le hfits) (.inl rfl), hgt⟩
  | passed hfits p hparse htaken =>
    have hgt : t.offset < t.offset + tsPacketSize := Nat.lt_add_of_pos_right (by decide)
    exact ⟨ht.next hfits rfl hgt hfits (.inr ⟨rfl, le_rfl⟩), hgt⟩

theorem openDatagram_invariant (streamId : StreamId) (b : Datagram) (s : Receiver σ) :
    LoopInvariant b (openDatagram streamId b s) where
  offset := Nat.zero_le _
  inside _ ho := by cases ho
  before _ ho := by cases ho
  increasing := .nil
  behind _ ho := by cases ho
  disjoint := .nil
  sublist := .slnil

/-- A window that is refused has been parsed and passed like any other. -/
theorem datagramStep_returned (ht : LoopInvariant b t)
    (hstep : datagramStep env streamId b t = .inl (ok, t')) :
    ∃ t'' : DatagramLoop σ, LoopInvariant b t'' ∧ t'.parsed = t''.parsed ∧ t'.passed = t''.passed := by
  have hcases := datagramStep_cases env streamId ht.offset
  rw [hstep] at hcases
  cases hcases with
  | atEnd hover => exact ⟨t, ht, rfl, rfl⟩
  | refused hfits p hparse htaken =>
    have hgt : t.offset < t.offset + tsPacketSize := Nat.lt_add_of_pos_right (by decide)
    exact ⟨{ t.pass env streamId p with offset := t.offset + tsPacketSize },
      ht.next hfits rfl hgt hfits (.inr ⟨rfl, le_rfl⟩), rfl, rfl⟩

/-- The loop of `process_datagram` returns. -/
theorem datagramLoop_returns (env : Env σ) (streamId : StreamId) (b : Datagram) (s : Receiver σ) :
    ∃ ok t, loopFor (datagramStep env streamId b) (b.length + 1) (openDatagram streamId b s) =
      some (ok, t) := by
  obtain ⟨⟨ok, t⟩, h⟩ := loopFor_isSome (I := LoopInvariant b) (n := b.length + 1)
    (fun t => b.length - t.offset)
    (fun t t' ht hstep => by
      obtain ⟨ht', hlt⟩ := datagramStep_invariant ht hstep
      have hle := ht'.offset
      exact ⟨ht', by omega⟩)
    (openDatagram_invariant streamId b s) (by omega)
  exact ⟨ok, t, h⟩

/-- The counters after the loop do not change what was parsed and passed. -/
theorem closeDatagram_ghosts (streamId : StreamId) (b : Datagram) (res : Bool × DatagramLoop σ) :
    (closeDatagram streamId b res).1 = res.1 ∧
      (closeDatagram streamId b res).2.parsed = res.2.parsed ∧
      (closeDatagram streamId b res).2.passed = res.2.passed ∧
      (closeDatagram streamId b res).2.offset = res.2.offset := by
  rcases res with ⟨ok, t⟩
  cases ok with
  | true =>
    simp only [closeDatagram]
    split <;> exact ⟨rfl, rfl, rfl, rfl⟩
  | false => exact ⟨rfl, rfl, rfl, rfl⟩

/-- **Datagram parsing terminates and stays in bounds.** Whatever the datagram, the loop returns; its
offset increases from window to window, the windows that it parses lie inside the datagram, and those
that it passes to the engine do not overlap. -/
theorem processDatagram_terminates (env : Env σ) (streamId : StreamId) (b : Datagram)
    (s : Receiver σ) :
    ∃ ok t, processDatagram env streamId b s = some (ok, t) ∧
      t.parsed.Pairwise (· < ·) ∧
      (∀ o ∈ t.parsed, o + tsPacketSize ≤ b.length) ∧
      t.passed.Sublist t.parsed ∧
      t.passed.Pairwise fun o o' => o + tsPacketSize ≤ o' := by
  obtain ⟨ok, t, hloop⟩ := datagramLoop_returns env streamId b s
  obtain ⟨t', ht', hstep⟩ := (returns_of_loopFor hloop).rule (I := LoopInvariant b)
    (fun _ _ ht hstep => (datagramStep_invariant ht hstep).1) (openDatagram_invariant streamId b s)
  obtain ⟨t'', ht'', hparsed, hpassed⟩ := datagramStep_returned ht' hstep
  obtain ⟨-, hparsed', hpassed', -⟩ := closeDatagram_ghosts streamId b (ok, t)
  refine ⟨(closeDatagram streamId b (ok, t)).1, (closeDatagram streamId b (ok, t)).2, ?_, ?_⟩
  · rw [processDatagram, hloop]
    rfl
  · rw [hparsed', hpassed', hparsed, hpassed]
    exact ⟨ht''.increasing, ht''.inside, ht''.sublist, ht''.disjoint⟩

end Iteration

end TwoStream
