import TwoStreamRecovery.Invariant

/-!
# The packets behind the records

* `ParsedPacket.key`: what the engine tells packets apart by.
* `Feed T`: a sequence of undamaged packets whose content packets are pairwise different.
* `FitsInOrder T`: the counters of `T` are continuous.
* `Consistent.packet_of_pushed`: the packet a record was made of.
* `recordsExactNonErrorMatch_makeRecord`: when two records match, in terms of their packets.
-/

namespace TwoStream

variable {σ : Type} {w : World σ}

/-! ### Packets -/

/-- Hash, PID and counter: what the engine tells packets apart by. -/
def ParsedPacket.key (p : ParsedPacket) : ℕ × ℕ × ℕ :=
  (hashPacket p.packet, p.info.pid, p.info.continuityCounter)

/-- Neither error nor discontinuity flag. -/
def ParsedPacket.Clean (p : ParsedPacket) : Prop :=
  p.info.transportError = false ∧ p.info.discontinuityIndicator = false

/-- Two undamaged packets with one key. -/
def ParsedPacket.Matches (p q : ParsedPacket) : Prop := p.Clean ∧ q.Clean ∧ p.key = q.key

/-- Undamaged packets, of which those with content are pairwise different. -/
structure Feed (T : List ParsedPacket) : Prop where
  clean : ∀ p ∈ T, p.Clean
  distinct : T.Pairwise fun p q => p.info.isNull = false → q.info.isNull = false → p.key ≠ q.key

instance ParsedPacket.decidableClean (p : ParsedPacket) : Decidable p.Clean :=
  inferInstanceAs (Decidable (_ ∧ _))

instance ParsedPacket.decidableMatches (p q : ParsedPacket) : Decidable (p.Matches q) :=
  inferInstanceAs (Decidable (_ ∧ _ ∧ _))

instance decidableFeed (T : List ParsedPacket) : Decidable (Feed T) :=
  decidable_of_iff ((∀ p ∈ T, p.Clean) ∧
    T.Pairwise fun p q => p.info.isNull = false → q.info.isNull = false → p.key ≠ q.key)
    ⟨fun h => ⟨h.1, h.2⟩, fun h => ⟨h.1, h.2⟩⟩

/-- A packet determines its header. -/
theorem ParsedPacket.ext_packet {p q : ParsedPacket} (h : p.packet = q.packet) : p = q := by
  have hinfo : p.info = q.info := by
    have hq := q.parsed
    rw [← h, p.parsed] at hq
    exact Option.some.inj hq
  cases p
  cases q
  simp_all

/-- The key says whether a packet is null. -/
theorem ParsedPacket.isNull_of_key {p q : ParsedPacket} (h : p.key = q.key) :
    p.info.isNull = q.info.isNull := by
  have hpid : p.info.pid = q.info.pid := congrArg (fun k => k.2.1) h
  rw [Bool.eq_iff_iff, p.isNull_iff, q.isNull_iff, hpid]

section Feed

variable {T : List ParsedPacket} {p q : ParsedPacket} {i j : ℕ}

/-- Where equals of some kind are excluded, equals stand at one place. -/
theorem place_eq_of_pairwise {R : ParsedPacket → ParsedPacket → Prop} (hsymm : ∀ p q, R p q → R q p)
    (hpair : T.Pairwise fun p q => ¬ R p q) (hi : T[i]? = some p) (hj : T[j]? = some q)
    (hR : R p q) : i = j := by
  obtain ⟨hilt, rfl⟩ := List.getElem?_eq_some_iff.mp hi
  obtain ⟨hjlt, rfl⟩ := List.getElem?_eq_some_iff.mp hj
  have hget := List.pairwise_iff_getElem.mp hpair
  have h1 : ¬ i < j := fun hlt => hget i j hilt hjlt hlt hR
  have h2 : ¬ j < i := fun hlt => hget j i hjlt hilt hlt (hsymm _ _ hR)
  omega

/-- A content packet stands at one place only. -/
theorem Feed.place_eq (hT : Feed T) (hi : T[i]? = some p) (hj : T[j]? = some q)
    (hcontent : p.info.isNull = false) (hkey : p.key = q.key) : i = j := by
  refine place_eq_of_pairwise
    (R := fun p q => p.info.isNull = false ∧ q.info.isNull = false ∧ p.key = q.key)
    (fun p q h => ⟨h.2.1, h.1, h.2.2.symm⟩) ?_ hi hj
    ⟨hcontent, by rw [← ParsedPacket.isNull_of_key hkey, hcontent], hkey⟩
  exact hT.distinct.imp fun h hR => h hR.1 hR.2.1 hR.2.2

theorem Feed.clean_of_getElem? (hT : Feed T) (hi : T[i]? = some p) : p.Clean :=
  hT.clean p (List.mem_of_getElem? hi)

end Feed

/-! ### Continuity -/

/-- Every content packet fits the output state left by the packets before it. -/
def FitsInOrder (T : List ParsedPacket) : Prop :=
  FitsInTurn (fun _ => ⟨false, 0⟩) (T.map (makeRecord .primary 0 0))

instance decidableFitsInTurn : ∀ states L, Decidable (FitsInTurn states L)
  | _, [] => .isTrue trivial
  | states, r :: rest =>
    have := decidableFitsInTurn (observeOutputStates states r) rest
    inferInstanceAs (Decidable (_ ∧ _))

instance decidableFitsInOrder (T : List ParsedPacket) : Decidable (FitsInOrder T) :=
  decidableFitsInTurn _ _

/-- A record without its origin; continuity does not look at it. -/
def PacketRecord.plain (r : PacketRecord) : PacketRecord :=
  { r with sourceStreamId := .primary, streamIndex := 0, arrivalTimeNs := 0 }

theorem fitsInTurn_plain {states : ℕ → PidState} {L : List PacketRecord} :
    FitsInTurn states (L.map PacketRecord.plain) ↔ FitsInTurn states L := by
  induction L generalizing states with
  | nil => exact Iff.rfl
  | cons r rest ih => exact and_congr_right fun _ => ih

theorem foldl_plain {states : ℕ → PidState} {L : List PacketRecord} :
    (L.map PacketRecord.plain).foldl observeOutputStates states = L.foldl observeOutputStates states := by
  induction L generalizing states with
  | nil => rfl
  | cons r rest ih => exact ih

/-! ### Records -/

/-- Two records match exactly when their packets do. -/
theorem recordsExactNonErrorMatch_makeRecord {s s' : StreamId} {i i' t t' : ℕ} {p q : ParsedPacket} :
    recordsExactNonErrorMatch (makeRecord s i t p) (makeRecord s' i' t' q) = true ↔ p.Matches q := by
  rw [recordsExactNonErrorMatch_iff]
  simp only [makeRecord, ParsedPacket.Matches, ParsedPacket.Clean, ParsedPacket.key, Prod.mk.injEq]
  tauto

section Received

variable {s : StreamId} {S : List ParsedPacket} {i : ℕ} {r : PacketRecord} {p : ParsedPacket}

/-- The packet a record was made of. -/
theorem Consistent.packet_of_pushed (hw : Consistent w) (hS : received s w.trace = S.map (·.packet))
    (h : (pushedRecords s w.trace)[i]? = some r) : ∃ t p, S[i]? = some p ∧ r = makeRecord s i t p := by
  obtain ⟨t, p, rfl⟩ := hw.place s i r h
  have hreceived : (S.map (·.packet))[i]? = some p.packet := by
    rw [← hS, received, List.getElem?_map, h]
    rfl
  rw [List.getElem?_map, Option.map_eq_some_iff] at hreceived
  obtain ⟨q, hq, hpacket⟩ := hreceived
  exact ⟨t, p, by rw [hq, ParsedPacket.ext_packet hpacket], rfl⟩

/-- The record of a received packet. -/
theorem Consistent.pushed_of_packet (hw : Consistent w) (hS : received s w.trace = S.map (·.packet))
    (h : S[i]? = some p) : ∃ t, (pushedRecords s w.trace)[i]? = some (makeRecord s i t p) := by
  have hlength : (pushedRecords s w.trace).length = S.length := by
    have := congrArg List.length hS
    simpa [received] using this
  obtain ⟨hlt, -⟩ := List.getElem?_eq_some_iff.mp h
  have hget : (pushedRecords s w.trace)[i]? = some ((pushedRecords s w.trace)[i]) :=
    List.getElem?_eq_getElem (by omega)
  obtain ⟨t, q, hq, hr⟩ := hw.packet_of_pushed hS hget
  rw [h] at hq
  obtain rfl := Option.some.inj hq
  exact ⟨t, by rw [hget, hr]⟩

/-- The records of a stream, without their origin, are what its packets are. -/
theorem Consistent.plain_eq (hw : Consistent w) (hS : received s w.trace = S.map (·.packet)) :
    (pushedRecords s w.trace).map PacketRecord.plain = S.map (makeRecord .primary 0 0) := by
  apply List.ext_getElem?
  intro i
  rw [List.getElem?_map, List.getElem?_map]
  cases hi : S[i]? with
  | some p =>
    obtain ⟨t, hr⟩ := hw.pushed_of_packet hS hi
    rw [hr]
    rfl
  | none =>
    have hlength := congrArg List.length hS
    simp only [received, List.length_map] at hlength
    have hnone : (pushedRecords s w.trace)[i]? = none := by
      rw [List.getElem?_eq_none_iff] at hi ⊢
      omega
    rw [hnone]
    rfl

/-- A stream that receives a continuous feed from its start on is continuous. -/
theorem Consistent.fitsInTurn (hw : Consistent w) {T : List ParsedPacket}
    (hT : FitsInOrder T) (h : received s w.trace <+: T.map (·.packet)) :
    FitsInTurn (fun _ => ⟨false, 0⟩) (pushedRecords s w.trace) := by
  obtain ⟨S, ⟨rest, hrest⟩, hS⟩ := List.prefix_map_iff.mp h
  have hfits : FitsInTurn (fun _ => ⟨false, 0⟩) ((S ++ rest).map (makeRecord .primary 0 0)) := by
    rw [hrest]
    exact hT
  rw [List.map_append, fitsInTurn_append] at hfits
  rw [← fitsInTurn_plain, hw.plain_eq hS]
  exact hfits.1

/-- The next packet a stream is known to receive. -/
theorem getElem?_of_received {L : List Packet} (h : L ++ [p.packet] <+: S.map (·.packet)) :
    S[L.length]? = some p := by
  have hget : (S.map (·.packet))[L.length]? = some p.packet :=
    getElem?_of_prefix h (by rw [List.getElem?_append_right le_rfl, Nat.sub_self]; rfl)
  rw [List.getElem?_map, Option.map_eq_some_iff] at hget
  obtain ⟨q, hq, hpacket⟩ := hget
  rw [hq, ParsedPacket.ext_packet hpacket]

end Received

end TwoStream
