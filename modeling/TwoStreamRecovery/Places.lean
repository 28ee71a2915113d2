import Mathlib.Data.List.NodupEquivFin
import TwoStreamRecovery.Engine.Candidates
import TwoStreamRecovery.Feed

/-!
# Where the packets of a stream stand in the feed

* `Placed T place s records`: the records were made of packets of `T`, in the order of `T`.
* `exists_placed`: so it is with every stream that receives a part of `T`.
* `Placed.match_iff`: two records of content match exactly when they stand at one place.
* `Placed.oneCopy`: a content record has one copy at most; `Placed.between_le`: between two copies
  a stream that misses nothing has as many records as any other.
-/

namespace TwoStream

variable {σ : Type} {w : World σ} {T : List ParsedPacket} {place place' : ℕ → ℕ} {s s' : StreamId}
  {L L' : List PacketRecord} {a b : PacketRecord} {i j : ℕ}

theorem received_grow {t t' : List Event} (h : t <+: t') (s : StreamId) :
    received s t <+: received s t' := (pushedRecords_grow h s).map _

/-- The record at index `i` was made of the packet at `place i` of `T`. -/
structure Placed (T : List ParsedPacket) (place : ℕ → ℕ) (s : StreamId) (records : List PacketRecord) :
    Prop where
  mono : StrictMono place
  packet : ∀ i r, records[i]? = some r → ∃ t p, T[place i]? = some p ∧ r = makeRecord s i t p

theorem Placed.of_prefix (h : L <+: L') (hL' : Placed T place s L') : Placed T place s L where
  mono := hL'.mono
  packet i r hr := by
    have hr' := getElem?_of_prefix h hr
    exact hL'.packet i r hr'

/-- A stream that receives a part of `T`. -/
theorem exists_placed (hw : Consistent w) (h : (received s w.trace).Sublist (T.map (·.packet))) :
    ∃ place, Placed T place s (pushedRecords s w.trace) := by
  obtain ⟨S, hS, hreceived⟩ := List.sublist_map_iff.mp h
  obtain ⟨f, hf⟩ := List.sublist_iff_exists_orderEmbedding_getElem?_eq.mp hS
  refine ⟨f, f.strictMono, fun i r hr => ?_⟩
  obtain ⟨t, p, hp, hmade⟩ := hw.packet_of_pushed hreceived hr
  exact ⟨t, p, by rw [← hf, hp], hmade⟩

/-- A stream that receives `T` from its start on. -/
theorem placed_of_start (hw : Consistent w) (h : received s w.trace <+: T.map (·.packet)) :
    Placed T id s (pushedRecords s w.trace) := by
  obtain ⟨S, hS, hreceived⟩ := List.prefix_map_iff.mp h
  refine ⟨strictMono_id, fun i r hr => ?_⟩
  obtain ⟨t, p, hp, hmade⟩ := hw.packet_of_pushed hreceived hr
  exact ⟨t, p, getElem?_of_prefix hS hp, hmade⟩

section Feed

variable (hT : Feed T) (hL : Placed T place s L) (hL' : Placed T place' s' L')
include hT hL

theorem Placed.clean (hi : L[i]? = some a) : a.Clean := by
  obtain ⟨t, p, hp, rfl⟩ := hL.packet i a hi
  exact hT.clean_of_getElem? hp

include hL'

/-- **Content records match exactly when they stand at one place.** -/
theorem Placed.match_iff (hi : L[i]? = some a) (hj : L'[j]? = some b) (hcontent : a.isNull = false) :
    recordsExactNonErrorMatch a b = true ↔ place i = place' j := by
  obtain ⟨t, p, hp, rfl⟩ := hL.packet i a hi
  obtain ⟨t', q, hq, rfl⟩ := hL'.packet j b hj
  rw [recordsExactNonErrorMatch_makeRecord]
  constructor
  · intro hmatch
    exact hT.place_eq hp hq hcontent hmatch.2.2
  · intro hplace
    rw [← hplace, hp] at hq
    obtain rfl := Option.some.inj hq
    have hclean := hT.clean_of_getElem? hp
    exact ⟨hclean, hclean, rfl⟩

end Feed

section Consistent

variable (hT : Feed T) (hw : Consistent w)
  (hprimary : Placed T place .primary (pushedRecords .primary w.trace))
  (hsecondary : Placed T place' .secondary (pushedRecords .secondary w.trace))
include hT hw hprimary hsecondary

/-- A candidate is the copy of its record. -/
theorem Placed.candidate_place (ha : a ∈ pushedRecords .primary w.trace) (hcontent : a.isNull = false)
    (hb : IsCandidate w.engine a b) : place a.streamIndex = place' b.streamIndex :=
  (hprimary.match_iff hT hsecondary (hw.getElem?_of_mem ha) (hw.getElem?_of_find hb.1) hcontent).mp hb.2

/-- **A content record has one copy at most.** -/
theorem Placed.oneCopy (ha : a ∈ pushedRecords .primary w.trace) (hcontent : a.isNull = false) :
    OneCopy w.engine a := by
  intro m m' hm hm'
  have h := hprimary.candidate_place hT hw hsecondary ha hcontent hm
  have h' := hprimary.candidate_place hT hw hsecondary ha hcontent hm'
  exact hsecondary.mono.injective (h.symm.trans h')

end Consistent

/-- Between two places there are as many indices as the stream has packets there, at most. -/
theorem Placed.between_le (hL : Placed T place s L) (hij : i ≤ j) :
    j - i ≤ place j - place i := by
  have h := hL.mono.add_le_nat (j - i) i
  rw [Nat.sub_add_cancel hij] at h
  omega

end TwoStream
