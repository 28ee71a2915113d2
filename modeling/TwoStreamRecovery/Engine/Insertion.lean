import TwoStreamRecovery.Engine.Drain

/-!
# Sending a list of records

* `HistoryRange`: a stretch of records found at consecutive stream indices.
* `acceptAll`: what a recovery does to the world when the sink takes the given records.
* `insertAll`: the sending loops of the recoveries as one function; `insertAll_eq` says how far it
  gets, `sendSecondaryRange_eq` and `sendCandidates_eq` that it is them.
-/

namespace TwoStream

variable {σ : Type}

/-! ### Stretches of a history -/

/-- The records of `L` are found at the indices from `index` on. -/
def HistoryRange (history : PacketHistory) : ℕ → List PacketRecord → Prop
  | _, [] => True
  | index, r :: rest => packetHistoryFindIndex history index = some r ∧ HistoryRange history (index + 1) rest

theorem HistoryRange.mem {history : PacketHistory} {index : ℕ} {L : List PacketRecord}
    (h : HistoryRange history index L) {r : PacketRecord} (hr : r ∈ L) :
    packetHistoryFindIndex history r.streamIndex = some r ∧ index ≤ r.streamIndex ∧
      r.streamIndex < index + L.length := by
  induction L generalizing index with
  | nil => simp at hr
  | cons a rest ih =>
    have ha := packetHistoryFindIndex_index h.1
    rcases List.mem_cons.mp hr with rfl | hr
    · refine ⟨by rw [ha]; exact h.1, ha.ge, ?_⟩
      rw [List.length_cons]; omega
    · obtain ⟨hfind, h1, h2⟩ := ih h.2 hr
      exact ⟨hfind, by omega, by rw [List.length_cons]; omega⟩

theorem HistoryRange.indices {history : PacketHistory} {index : ℕ} {L : List PacketRecord}
    (h : HistoryRange history index L) : L.map (·.streamIndex) = List.range' index L.length := by
  induction L generalizing index with
  | nil => rfl
  | cons a rest ih =>
    rw [List.map_cons, List.length_cons, List.range'_succ, packetHistoryFindIndex_index h.1, ih h.2]

/-- The range of given length is unique. -/
theorem HistoryRange.unique {history : PacketHistory} {index : ℕ} {L L' : List PacketRecord}
    (h : HistoryRange history index L) (h' : HistoryRange history index L')
    (hlen : L.length = L'.length) : L = L' := by
  induction L generalizing index L' with
  | nil => exact (List.length_eq_zero_iff.mp hlen.symm).symm
  | cons a rest ih =>
    cases L' with
    | nil => simp at hlen
    | cons b rest' =>
      have hab : a = b := Option.some.inj (h.1.symm.trans h'.1)
      rw [hab, ih h.2 h'.2 (by simpa using hlen)]

/-! ### Accepted records -/

/-- The output state after a record, `observe_output_record`. -/
def outputStatesAfter (states : ℕ → PidState) (r : PacketRecord) : ℕ → PidState :=
  if r.isNull then states else setCc states r

/-- The counters after a record, in `output_record`. -/
def acceptStats (state : PidState) (r : PacketRecord) (stats : ReportStats) : ReportStats :=
  let stats := { stats with outputPackets := stats.outputPackets + 1 }
  let stats :=
    if stats.outputPackets % 7 = 0 then reportStatsObserveOutputDatagram stats false else stats
  if r.isNull then stats else observeOutputStats state r stats

variable (route : Route) (w : World σ) (r : PacketRecord)

@[simp] theorem acceptRecord_engine :
    (acceptRecord route w r).engine =
      { w.engine with
        hasOutputStreamIndex := Function.update w.engine.hasOutputStreamIndex r.sourceStreamId true
        lastOutputStreamIndex :=
          Function.update w.engine.lastOutputStreamIndex r.sourceStreamId r.streamIndex
        outputPidState := outputStatesAfter w.engine.outputPidState r } := by
  unfold acceptRecord observeOutputRecord outputStatesAfter
  cases r.isNull <;> rfl

@[simp] theorem acceptRecord_stats :
    (acceptRecord route w r).stats =
      acceptStats (w.engine.outputPidState r.pid) r w.stats := by
  unfold acceptRecord observeOutputRecord acceptStats
  cases r.isNull <;> rfl

@[simp] theorem acceptRecord_trace :
    (acceptRecord route w r).trace = w.trace ++ [.sent route r] := by
  unfold acceptRecord observeOutputRecord
  cases r.isNull <;> rfl

@[simp] theorem acceptRecord_sinkState : (acceptRecord route w r).sinkState = w.sinkState := by
  unfold acceptRecord observeOutputRecord
  cases r.isNull <;> rfl

@[simp] theorem acceptRecord_reads : (acceptRecord route w r).reads = w.reads := by
  unfold acceptRecord observeOutputRecord
  cases r.isNull <;> rfl

variable {route w r} {env : Env σ}

/-- The sink refuses, or it takes the record. -/
theorem outputRecord_cases (env : Env σ) (route : Route) (w : World σ) (r : PacketRecord) :
    ∃ s, outputRecord env route w r = (false, { w with sinkState := s }) ∨
      outputRecord env route w r = (true, acceptRecord route { w with sinkState := s } r) := by
  refine ⟨(env.sink.sendTsPacket w.sinkState r.packet).2, ?_⟩
  simp only [outputRecord]
  split
  · exact .inl rfl
  · exact .inr rfl

theorem outputRecord_accepting (hacc : env.Accepting) (route : Route) (w : World σ)
    (r : PacketRecord) :
    ∃ s, outputRecord env route w r = (true, acceptRecord route { w with sinkState := s } r) :=
  ⟨(env.sink.sendTsPacket w.sinkState r.packet).2, by
    rw [outputRecord, if_neg (not_not.mpr (hacc _ _))]⟩

/-- A recovered record that the sink has taken. -/
def acceptRecovered (route : Route) (nullFlag : PacketRecord → Bool) (w : World σ)
    (r : PacketRecord) : World σ :=
  { acceptRecord route w r with
    stats := reportStatsObserveRecovery (acceptRecord route w r).stats (nullFlag r) }

/-- The records of a recovery, all taken. -/
def acceptAll (route : Route) (nullFlag : PacketRecord → Bool) (w : World σ)
    (L : List PacketRecord) : World σ :=
  L.foldl (acceptRecovered route nullFlag) w

/-- The sending loop of a recovery. -/
def insertAll (env : Env σ) (route : Route) (nullFlag : PacketRecord → Bool) :
    List PacketRecord → World σ → Bool × World σ
  | [], w => (true, w)
  | r :: rest, w =>
    match outputRecord env route w r with
    | (false, w) => (false, w)
    | (true, w) =>
      insertAll env route nullFlag rest
        { w with stats := reportStatsObserveRecovery w.stats (nullFlag r) }

variable {nullFlag : PacketRecord → Bool}

@[simp] theorem acceptAll_nil : acceptAll route nullFlag w [] = w := rfl

@[simp] theorem acceptAll_cons {L : List PacketRecord} :
    acceptAll route nullFlag w (r :: L) =
      acceptAll route nullFlag (acceptRecovered route nullFlag w r) L := rfl

theorem acceptAll_sinkState {L : List PacketRecord} {s : σ} :
    acceptAll route nullFlag { w with sinkState := s } L =
      { acceptAll route nullFlag w L with sinkState := s } := by
  induction L generalizing w with
  | nil => rfl
  | cons r rest ih =>
    rw [acceptAll_cons, acceptAll_cons, ← ih]
    congr 1
    unfold acceptRecovered acceptRecord observeOutputRecord
    cases r.isNull <;> rfl

/-- **How far a recovery gets:** the sink has taken some first records of the list, and all of
them when the loop reports success. -/
theorem insertAll_eq (env : Env σ) (route : Route) (nullFlag : PacketRecord → Bool)
    (L : List PacketRecord) (w : World σ) :
    ∃ n s, n ≤ L.length ∧ insertAll env route nullFlag L w =
      (decide (n = L.length), { acceptAll route nullFlag w (L.take n) with sinkState := s }) := by
  induction L generalizing w with
  | nil => exact ⟨0, w.sinkState, le_rfl, rfl⟩
  | cons r rest ih =>
    obtain ⟨s, h | h⟩ := outputRecord_cases env route w r
    · refine ⟨0, s, Nat.zero_le _, ?_⟩
      simp [insertAll, h]
    · obtain ⟨n, s', hn, ih⟩ := ih (acceptRecovered route nullFlag { w with sinkState := s } r)
      refine ⟨n + 1, s', Nat.succ_le_succ hn, ?_⟩
      rw [insertAll, h]
      refine Eq.trans ih ?_
      simp only [List.take_succ_cons, List.length_cons, acceptAll_cons, Nat.add_right_cancel_iff]
      rw [← acceptAll_cons, acceptAll_sinkState, acceptAll_cons]

theorem insertAll_accepting (hacc : env.Accepting) (route : Route)
    (nullFlag : PacketRecord → Bool) (L : List PacketRecord) (w : World σ) :
    ∃ s, insertAll env route nullFlag L w =
      (true, { acceptAll route nullFlag w L with sinkState := s }) := by
  induction L generalizing w with
  | nil => exact ⟨w.sinkState, rfl⟩
  | cons r rest ih =>
    obtain ⟨s, h⟩ := outputRecord_accepting hacc route w r
    obtain ⟨s', ih⟩ := ih (acceptRecovered route nullFlag { w with sinkState := s } r)
    refine ⟨s', ?_⟩
    rw [insertAll, h]
    refine Eq.trans ih ?_
    rw [← acceptAll_cons, acceptAll_sinkState]

theorem sendCandidates_eq (L : List PacketRecord) (w : World σ) :
    sendCandidates env route L w = insertAll env route (fun _ => false) L w := by
  induction L generalizing w with
  | nil => rfl
  | cons r rest ih =>
    unfold sendCandidates insertAll
    rcases outputRecord env route w r with ⟨_ | _, w'⟩
    · rfl
    · exact ih _

/-- `output_record` leaves the inputs alone. -/
theorem outputRecord_history (env : Env σ) (route : Route) (w : World σ) (r : PacketRecord) :
    (outputRecord env route w r).2.engine.history = w.engine.history := by
  obtain ⟨s, h | h⟩ := outputRecord_cases env route w r <;> simp [h]

theorem sendSecondaryRange_eq {L : List PacketRecord} {index : ℕ} {w : World σ}
    (h : HistoryRange (w.engine.history .secondary) index L) :
    sendSecondaryRange env route nullFlag L.length index w = insertAll env route nullFlag L w := by
  induction L generalizing index w with
  | nil => rfl
  | cons r rest ih =>
    have hhistory := outputRecord_history env route w r
    rw [List.length_cons, sendSecondaryRange, insertAll, h.1]
    simp only
    rcases hout : outputRecord env route w r with ⟨_ | _, w'⟩
    · rfl
    · have hhistory : w'.engine.history = w.engine.history := by rw [← hhistory, hout]
      exact ih (hhistory ▸ h.2)

/-! ### What a recovery leaves behind -/

variable (route nullFlag w) (L : List PacketRecord)

@[simp] theorem acceptAll_trace :
    (acceptAll route nullFlag w L).trace = w.trace ++ L.map (.sent route) := by
  induction L generalizing w with
  | nil => simp
  | cons r rest ih => rw [acceptAll_cons, ih]; simp [acceptRecovered]

@[simp] theorem acceptAll_reads : (acceptAll route nullFlag w L).reads = w.reads := by
  induction L generalizing w with
  | nil => rfl
  | cons r rest ih => rw [acceptAll_cons, ih]; simp [acceptRecovered]

/-- Only the output fields of the engine change. -/
theorem acceptAll_engine :
    (acceptAll route nullFlag w L).engine =
      { w.engine with
        hasOutputStreamIndex := (acceptAll route nullFlag w L).engine.hasOutputStreamIndex
        lastOutputStreamIndex := (acceptAll route nullFlag w L).engine.lastOutputStreamIndex
        outputPidState := L.foldl outputStatesAfter w.engine.outputPidState } := by
  induction L generalizing w with
  | nil => rfl
  | cons r rest ih =>
    rw [acceptAll_cons, ih]
    simp [acceptRecovered]

end TwoStream
