import TwoStreamRecovery.Datagram

/-!
# Partial datagrams

* `UsedUp`: the packet loop comes to the end of a datagram exactly.
* `processDatagram_partial`: the length is judged on entry and the last offset after the loop; a
  datagram that fails both tests is counted twice.
* **`partial_counted_once`**: a datagram is counted once at most if it is a whole number of packets
  long or the loop uses it up.
-/

namespace TwoStream

open Relation

variable {σ : Type} {env : Env σ} {streamId : StreamId} {b : Datagram} {s : Receiver σ}
  {t t' : DatagramLoop σ} {ok : Bool} {x y : ℕ}

/-! ### The way of the loop -/

/-- The loop comes to the end of the datagram exactly. -/
def UsedUp (b : Datagram) : Prop := ReflTransGen (Moves b) 0 b.length

/-- One of the two tests of `process_datagram` for partial datagrams fails. -/
def CountedOnce (b : Datagram) : Prop := b.length % tsPacketSize = 0 ∨ UsedUp b

theorem moves_unique (b : Datagram) : Relator.RightUnique (Moves b) := by
  rintro x y z ⟨-, rfl⟩ ⟨-, rfl⟩
  rfl

/-- There is one way, so it has one end. -/
theorem end_unique (hx : ReflTransGen (Moves b) 0 x) (hy : ReflTransGen (Moves b) 0 y)
    (hxend : b.length < x + tsPacketSize) (hyend : b.length < y + tsPacketSize) : x = y := by
  rcases ReflTransGen.total_of_right_unique (moves_unique b) hx hy with hxy | hyx
  · rcases hxy.cases_head with rfl | ⟨z, hmove, -⟩
    · rfl
    · exact absurd hmove.1 (by omega)
  · rcases hyx.cases_head with rfl | ⟨z, hmove, -⟩
    · rfl
    · exact absurd hmove.1 (by omega)

/-! ### What is counted -/

/-- The loop follows its way and counts no datagram. -/
structure Underway (b : Datagram) (t₀ t : DatagramLoop σ) : Prop where
  offset : t.offset ≤ b.length
  way : ReflTransGen (Moves b) t₀.offset t.offset
  input : t.receiver.framing.inputDatagrams = t₀.receiver.framing.inputDatagrams
  partials : t.receiver.framing.partialDatagrams = t₀.receiver.framing.partialDatagrams

theorem Underway.next {t₀ : DatagramLoop σ} (ht : Underway b t₀ t)
    (hstep : datagramStep env streamId b t = .inr t') : Underway b t₀ t' := by
  have hcases := datagramStep_cases env streamId ht.offset
  rw [hstep] at hcases
  cases hcases with
  | rejected hfits hbad =>
    exact ⟨scanNext_le hfits, ht.way.tail ⟨hfits, rfl⟩, ht.input, ht.partials⟩
  | passed hfits p hparse htaken =>
    have hparses : b.parses t.offset = true := by rw [parses_eq, hparse]; rfl
    exact ⟨hfits, ht.way.tail ⟨hfits, (scanNext_of_parses hparses).symm⟩, ht.input, ht.partials⟩

/-- **What a datagram is counted as.** On entry its length is judged, and after the loop the last
offset. -/
theorem processDatagram_partial (h : processDatagram env streamId b s = some (ok, t)) :
    t.receiver.framing.inputDatagrams = bump s.framing.inputDatagrams streamId true ∧
      ∃ late, (late = true ↔ ok = true ∧ ¬ UsedUp b) ∧
        t.receiver.framing.partialDatagrams =
          bump (bump s.framing.partialDatagrams streamId
            (decide (b.length = 0) || decide (b.length % tsPacketSize ≠ 0))) streamId late := by
  obtain ⟨ok', t₁, hloop⟩ := datagramLoop_returns env streamId b s
  rw [processDatagram, hloop] at h
  have hclosed : closeDatagram streamId b (ok', t₁) = (ok, t) := Option.some.inj h
  obtain ⟨t₂, ht₂, hstep⟩ := (returns_of_loopFor hloop).rule
    (I := Underway b (openDatagram streamId b s)) (fun _ _ ht hstep => ht.next hstep)
    ⟨Nat.zero_le _, .refl, rfl, rfl⟩
  have hinput : t₂.receiver.framing.inputDatagrams = bump s.framing.inputDatagrams streamId true :=
    ht₂.input
  have hpartials : t₂.receiver.framing.partialDatagrams = bump s.framing.partialDatagrams streamId
      (decide (b.length = 0) || decide (b.length % tsPacketSize ≠ 0)) := ht₂.partials
  have hcases := datagramStep_cases env streamId ht₂.offset
  rw [hstep] at hcases
  cases hcases with
  | atEnd hover =>
    have hused : UsedUp b ↔ t₁.offset = b.length := by
      constructor
      · exact fun hused => end_unique ht₂.way hused hover (Nat.lt_add_of_pos_right (by decide))
      · intro heq
        have hway := ht₂.way
        rw [heq] at hway
        exact hway
    simp only [closeDatagram] at hclosed
    split at hclosed
    · next hoffset =>
      obtain ⟨rfl, rfl⟩ := Prod.mk.inj hclosed
      exact ⟨hinput, true, by simp [hused, hoffset], by rw [← hpartials]; rfl⟩
    · next hoffset =>
      obtain ⟨rfl, rfl⟩ := Prod.mk.inj hclosed
      exact ⟨hinput, false, by simpa [hused] using hoffset, by rw [← hpartials]; simp [bump]⟩
  | refused hfits p hparse htaken =>
    obtain ⟨rfl, rfl⟩ := Prod.mk.inj hclosed
    exact ⟨hinput, false, by simp, by rw [← hpartials]; simp [bump, DatagramLoop.pass]⟩

/-! ### Sequences of datagrams -/

/-- One datagram. -/
def receiveDatagram (env : Env σ) (s : Receiver σ) (c : StreamId × Datagram) : Receiver σ :=
  (processDatagram env c.1 c.2 s).elim s (·.2.receiver)

/-- A sequence of datagrams on the two streams. -/
def receiveDatagrams (env : Env σ) (s : Receiver σ) (calls : List (StreamId × Datagram)) :
    Receiver σ := calls.foldl (receiveDatagram env) s

/-- The datagram is counted as partial once at most, and once if its length says so. -/
structure GrowsOnce (streamId : StreamId) (b : Datagram) (s s' : Receiver σ) : Prop where
  atMost : s'.framing.partialDatagrams streamId ≤ s.framing.partialDatagrams streamId + 1
  partly : b.length % tsPacketSize ≠ 0 →
    s.framing.partialDatagrams streamId < s'.framing.partialDatagrams streamId

/-- **Exactly then** it is counted once, unless the engine refuses one of its packets. -/
theorem growsOnce_iff (h : processDatagram env streamId b s = some (ok, t)) :
    GrowsOnce streamId b s t.receiver ↔ CountedOnce b ∨ ok = false := by
  obtain ⟨-, late, hlate, hpartials⟩ := processDatagram_partial h
  have hcount := congrFun hpartials streamId
  rw [bump_self, bump_self] at hcount
  constructor
  · rintro ⟨hatMost, -⟩
    by_cases hwhole : b.length % tsPacketSize = 0
    · exact .inl (.inl hwhole)
    · cases late with
      | true => simp [hwhole] at hcount; omega
      | false =>
        have hnot : ¬ (ok = true ∧ ¬ UsedUp b) := fun h => by simpa using hlate.mpr h
        by_cases hused : UsedUp b
        · exact .inl (.inr hused)
        · exact .inr (by simpa [hused] using hnot)
  · intro hcond
    refine ⟨?_, fun hpart => ?_⟩
    · by_cases hwhole : b.length % tsPacketSize = 0
      · by_cases hempty : b.length = 0
        · have hused : UsedUp b := by rw [UsedUp, hempty]
          have hfalse : late = false := by simpa [hused] using hlate
          simp [hempty, hfalse] at hcount
          omega
        · simp only [hwhole, hempty, decide_false, Bool.false_or, ne_eq, not_true_eq_false,
            Bool.false_eq_true, if_false] at hcount
          split at hcount <;> omega
      · have hfalse : late = false := by
          rcases hcond with (hcond | hused) | hok
          · exact absurd hcond hwhole
          · simpa [hused] using hlate
          · simpa [hok] using hlate
        simp [hwhole, hfalse] at hcount
        omega
    · simp [hpart] at hcount
      omega

theorem receiveDatagram_eq (env : Env σ) (s : Receiver σ) (c : StreamId × Datagram) :
    ∃ ok t, processDatagram env c.1 c.2 s = some (ok, t) ∧ receiveDatagram env s c = t.receiver := by
  obtain ⟨ok, t, h, -⟩ := processDatagram_terminates env c.1 c.2 s
  exact ⟨ok, t, h, by rw [receiveDatagram, h]; rfl⟩

theorem receiveDatagrams_concat (env : Env σ) (s : Receiver σ) (calls : List (StreamId × Datagram))
    (c : StreamId × Datagram) :
    receiveDatagrams env s (calls ++ [c]) = receiveDatagram env (receiveDatagrams env s calls) c := by
  rw [receiveDatagrams, List.foldl_append]
  rfl

/-- No more partial datagrams than datagrams. -/
def PartialBounded (s : Receiver σ) : Prop :=
  ∀ i, s.framing.partialDatagrams i ≤ s.framing.inputDatagrams i

theorem receiveDatagram_bounded (hs : PartialBounded s) {c : StreamId × Datagram}
    (hc : CountedOnce c.2) : PartialBounded (receiveDatagram env s c) := by
  obtain ⟨ok, t, h, heq⟩ := receiveDatagram_eq env s c
  obtain ⟨hinput, late, -, hpartials⟩ := processDatagram_partial h
  have hgrows := (growsOnce_iff h).mpr (.inl hc)
  rw [heq]
  intro i
  rw [hinput]
  by_cases hi : i = c.1
  · subst hi
    have hatMost := hgrows.atMost
    have hbound := hs c.1
    rw [bump_self, if_pos rfl]
    omega
  · rw [bump_of_ne hi, hpartials, bump_of_ne hi, bump_of_ne hi]
    exact hs i

theorem receiveDatagrams_bounded (hs : PartialBounded s) {calls : List (StreamId × Datagram)}
    (hcalls : ∀ c ∈ calls, CountedOnce c.2) : PartialBounded (receiveDatagrams env s calls) := by
  induction calls using List.reverseRecOn with
  | nil => exact hs
  | append_singleton calls c ih =>
    rw [receiveDatagrams_concat]
    exact receiveDatagram_bounded (ih fun c' hc' => hcalls c' (List.mem_append_left _ hc'))
      (hcalls c (by simp))

/-- **A datagram is counted as partial once at most**, in every sequence of datagrams each of which is
a whole number of packets long or used up by the loop. A datagram that is neither is counted twice. -/
theorem partial_counted_once (env : Env σ) (config : RecoveryEngineConfig) (sinkState : σ)
    (startNs : ℕ) (calls : List (StreamId × Datagram)) (hcalls : ∀ c ∈ calls, CountedOnce c.2) :
    (∀ before c after, calls = before ++ c :: after →
        GrowsOnce c.1 c.2 (receiveDatagrams env (freshReceiver config sinkState startNs) before)
          (receiveDatagrams env (freshReceiver config sinkState startNs) (before ++ [c]))) ∧
      (∀ i, (receiveDatagrams env (freshReceiver config sinkState startNs) calls).framing.partialDatagrams
          i ≤
        (receiveDatagrams env (freshReceiver config sinkState startNs) calls).framing.inputDatagrams i) ∧
      ∀ (s : Receiver σ) streamId b ok t, processDatagram env streamId b s = some (ok, t) →
        (GrowsOnce streamId b s t.receiver ↔ CountedOnce b ∨ ok = false) := by
  refine ⟨?_, receiveDatagrams_bounded (fun i => le_rfl) hcalls, fun s streamId b ok t => growsOnce_iff⟩
  rintro before c after rfl
  obtain ⟨ok, t, h, heq⟩ :=
    receiveDatagram_eq env (receiveDatagrams env (freshReceiver config sinkState startNs) before) c
  rw [receiveDatagrams_concat, heq]
  exact (growsOnce_iff h).mpr (.inl (hcalls c (by simp)))

/-- The first bytes of a packet. -/
def fragment : Datagram where
  bytes := [0x47] ++ .replicate 99 0
  size := by rw [List.length_append, List.length_replicate]; decide

/-- It is one datagram, and counted as two partial ones. -/
theorem fragment_counted_twice :
    ¬ GrowsOnce .primary fragment (freshReceiver promptConfig () 1)
        (receiveDatagrams (scriptedEnv [] 1) (freshReceiver promptConfig () 1) [(.primary, fragment)]) ∧
      (receiveDatagrams (scriptedEnv [] 1) (freshReceiver promptConfig () 1)
          [(.primary, fragment)]).framing.inputDatagrams .primary = 1 ∧
      (receiveDatagrams (scriptedEnv [] 1) (freshReceiver promptConfig () 1)
          [(.primary, fragment)]).framing.partialDatagrams .primary = 2 := by
  refine ⟨fun hgrows => ?_, by decide +kernel, by decide +kernel⟩
  have hatMost := hgrows.atMost
  revert hatMost
  decide +kernel

/-- Four packets behind a byte that is none of theirs. -/
def shiftedPackets : Datagram where
  bytes := 0 :: (List.range 4).flatMap fun n => (payloadPacket 0x100 n n).bytes
  size := by decide +kernel

/-- The loop uses it up. -/
theorem shiftedPackets_usedUp : UsedUp shiftedPackets := by
  have h₁ : Moves shiftedPackets 0 1 := by decide +kernel
  have h₂ : Moves shiftedPackets 1 189 := by decide +kernel
  have h₃ : Moves shiftedPackets 189 377 := by decide +kernel
  have h₄ : Moves shiftedPackets 377 565 := by decide +kernel
  have h₅ : Moves shiftedPackets 565 shiftedPackets.length := by decide +kernel
  exact ((((ReflTransGen.single h₁).tail h₂).tail h₃).tail h₄).tail h₅

theorem partial_counted_once_shiftedPackets :
    (receiveDatagrams (scriptedEnv [] 1) (freshReceiver promptConfig () 1)
        [(.primary, shiftedPackets), (.secondary, shiftedPackets)]).framing.partialDatagrams .primary ≤
      (receiveDatagrams (scriptedEnv [] 1) (freshReceiver promptConfig () 1)
        [(.primary, shiftedPackets), (.secondary, shiftedPackets)]).framing.inputDatagrams .primary :=
  (partial_counted_once (scriptedEnv [] 1) promptConfig () 1
    [(.primary, shiftedPackets), (.secondary, shiftedPackets)] fun c hc => by
      simp only [List.mem_cons, List.not_mem_nil, or_false] at hc
      rcases hc with rfl | rfl <;> exact .inr shiftedPackets_usedUp).2.1 .primary

end TwoStream
