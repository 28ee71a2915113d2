import TwoStreamRecovery.Datagram

/-!
# Bad packets in aligned datagrams

* `Harmless`: after a slot that does not parse, no sync run among the payloads takes the loop away
  from the slots for good.
* `slotStations`: the slots that parse, pushed in order.
* **`slots_passed_iff`**: the loop passes exactly the slots that parse if and only if the engine
  refuses none but the last of them and every bad slot is harmless.
-/

namespace TwoStream

open Relation

variable {σ : Type} {env : Env σ} {streamId : StreamId} {b : Datagram} {s : Station σ}
  {t t' : DatagramLoop σ} {ok : Bool} {x y o k m n : ℕ} {res : Bool × DatagramLoop σ}

/-! ### Sync runs -/

theorem hasSyncRun_iff (hx : x ≤ b.length) :
    hasSyncRun b x = true ↔
      ∀ i < 4, x + i * tsPacketSize < b.length ∧ b.byte (x + i * tsPacketSize) = tsSyncByte := by
  have hsize := b.size
  have hlength : b.length = b.bytes.length := rfl
  simp only [hasSyncRun, List.all_eq_true, List.mem_range, Bool.and_eq_true, decide_eq_true_eq,
    beq_iff_eq]
  refine forall_congr' fun i => forall_congr' fun hi => ?_
  have hle : i * tsPacketSize ≤ 3 * 188 := Nat.mul_le_mul (by omega) le_rfl
  rw [sizeAdd_eq (by omega)]

/-- A sync run takes four packets. -/
theorem hasSyncRun_fits (hx : x ≤ b.length) (h : hasSyncRun b x = true) :
    x + 3 * tsPacketSize < b.length := ((hasSyncRun_iff hx).mp h 3 (by decide)).1

/-- No sync run lies before the first one. -/
theorem le_of_first (hfirst : ∀ z, x < z → z < y → hasSyncRun b z = false) (hox : x < o)
    (hrun : hasSyncRun b o = true) : y ≤ o := by
  by_contra hbefore
  rw [hfirst o hox (by omega)] at hrun
  cases hrun

/-- The windows from `x` to `y` do not parse. -/
def Rejects (b : Datagram) : ℕ → ℕ → Prop :=
  ReflTransGen fun x y => Moves b x y ∧ b.parses x = false

theorem scanNext_of_some (hbad : b.parses x = false) (h : findResyncOffset b x = some y) :
    scanNext b x = y := by
  rw [scanNext, if_neg (by simp [hbad]), h]
  rfl

theorem scanNext_of_none (hbad : b.parses x = false) (h : findResyncOffset b x = none) :
    scanNext b x = x + tsPacketSize := by
  rw [scanNext, if_neg (by simp [hbad]), h]
  rfl

theorem Rejects.single (hfits : x + tsPacketSize ≤ b.length) (hbad : b.parses x = false) :
    Rejects b x (scanNext b x) := ReflTransGen.single ⟨⟨hfits, rfl⟩, hbad⟩

/-! ### False sync runs -/

/-- The sync runs from `x` to the slot after `o` do not parse, and the last of them is followed by two
windows that do not either. -/
def RunsRejected (b : Datagram) (o x : ℕ) : Prop :=
  ∀ y, x ≤ y → y < o + tsPacketSize → hasSyncRun b y = true →
    b.parses y = false ∧
      ((∀ z, y < z → z < o + tsPacketSize → hasSyncRun b z = false) →
        b.parses (y + tsPacketSize) = false ∧ b.parses (y + 2 * tsPacketSize) = false)

/-- What may follow a slot at `o` that does not parse. Four slots after it are a sync run of their own;
three slots are enough for a false run; with fewer there is none. -/
structure Harmless (b : Datagram) (o : ℕ) : Prop where
  many : o + 5 * tsPacketSize ≤ b.length →
    ∀ x, o < x → x < o + tsPacketSize → hasSyncRun b x = true → b.parses x = false
  last : b.length = o + 4 * tsPacketSize →
    (∀ x, o < x → x < o + tsPacketSize → hasSyncRun b x = false) ∨
      RunsRejected b o (o + 1) ∧ ∀ i, 1 ≤ i → i ≤ 3 → b.parses (o + i * tsPacketSize) = false

theorem Harmless.of_few (h : b.length ≤ o + 3 * tsPacketSize) : Harmless b o := by
  have hpacket : tsPacketSize = 188 := rfl
  exact ⟨fun hmany => by omega, fun hlast => by omega⟩

/-- With four slots after it, a bad slot leads back to the slots or to a false run that parses. -/
theorem stray_many (hrun : hasSyncRun b (o + tsPacketSize) = true)
    (hlen : o + 5 * tsPacketSize ≤ b.length) (hox : o < x) (hx : x ≤ o + tsPacketSize)
    (hxrun : hasSyncRun b x = true) :
    (∃ y, x ≤ y ∧ y < o + tsPacketSize ∧ hasSyncRun b y = true ∧ b.parses y = true ∧ Rejects b x y) ∨
      (∀ y, x ≤ y → y < o + tsPacketSize → hasSyncRun b y = true → b.parses y = false) ∧
        Rejects b x (o + tsPacketSize) := by
  induction h : o + tsPacketSize - x using Nat.strong_induction_on generalizing x with
  | _ d ih =>
    rcases Nat.eq_or_lt_of_le hx with rfl | hlt
    · exact .inr ⟨fun y hy hlt => absurd hlt (by omega), .refl⟩
    · cases hparses : b.parses x with
      | true => exact .inl ⟨x, le_rfl, hlt, hxrun, hparses, .refl⟩
      | false =>
        have hfits : x + tsPacketSize ≤ b.length := by omega
        cases hresync : findResyncOffset b x with
        | none =>
          have hnone := findResyncOffset_eq_none.mp hresync (o + tsPacketSize) hlt (by omega)
          rw [hrun] at hnone
          cases hnone
        | some y =>
          obtain ⟨hxy, hy, hyrun, hfirst⟩ := findResyncOffset_eq_some.mp hresync
          have hyo : y ≤ o + tsPacketSize := le_of_first hfirst hlt hrun
          have hstep : Rejects b x y := by
            have hsingle := Rejects.single hfits hparses
            rwa [scanNext_of_some hparses hresync] at hsingle
          rcases ih (o + tsPacketSize - y) (by omega) (by omega) hyo hyrun rfl with
            ⟨z, hyz, hz, hzrun, hzparses, hpath⟩ | ⟨hall, hpath⟩
          · exact .inl ⟨z, by omega, hz, hzrun, hzparses, hstep.trans hpath⟩
          · refine .inr ⟨fun z hxz hz hzrun => ?_, hstep.trans hpath⟩
            rcases Nat.eq_or_lt_of_le hxz with rfl | hxz
            · exact hparses
            · exact hall z (le_of_first hfirst hxz hzrun) hz hzrun

/-- From a run that does not parse to the next one. -/
theorem runsRejected_iff_next (hparses : b.parses x = false) (hxy : x < y) (hyo : y < o + tsPacketSize)
    (hyrun : hasSyncRun b y = true) (hfirst : ∀ z, x < z → z < y → hasSyncRun b z = false) :
    RunsRejected b o x ↔ RunsRejected b o y := by
  constructor
  · exact fun hall z hyz => hall z (by omega)
  · intro hall z hxz hz hzrun
    rcases Nat.eq_or_lt_of_le hxz with rfl | hxz
    · refine ⟨hparses, fun hnone => ?_⟩
      rw [hnone y hxy hyo] at hyrun
      cases hyrun
    · exact hall z (le_of_first hfirst hxz hzrun) hz hzrun

/-- The last run that does not parse is judged by the two windows behind it. -/
theorem runsRejected_iff_last (hparses : b.parses x = false) (hx : x < o + tsPacketSize)
    (hxrun : hasSyncRun b x = true)
    (hlast : ∀ z, x < z → z < o + tsPacketSize → hasSyncRun b z = false) :
    RunsRejected b o x ↔
      b.parses (x + tsPacketSize) = false ∧ b.parses (x + 2 * tsPacketSize) = false := by
  constructor
  · exact fun hall => (hall x le_rfl hx hxrun).2 hlast
  · intro htwo z hxz hz hzrun
    rcases Nat.eq_or_lt_of_le hxz with rfl | hxz
    · exact ⟨hparses, fun _ => htwo⟩
    · rw [hlast z hxz hz] at hzrun
      cases hzrun

/-- Where no sync run follows, the loop moves on by one packet. -/
theorem Rejects.next (hfits : x + tsPacketSize ≤ b.length) (hbad : b.parses x = false)
    (hnone : ∀ z, x < z → z < b.length → hasSyncRun b z = false) :
    Rejects b x (x + tsPacketSize) := by
  have hsingle := Rejects.single hfits hbad
  rwa [scanNext_of_none hbad (findResyncOffset_eq_none.mpr hnone)] at hsingle

/-- With three slots after it, a false run leads to a packet between the slots, or to the end of the
datagram. -/
theorem stray_last (hlen : b.length = o + 4 * tsPacketSize) (ho : o % tsPacketSize = 0) (hox : o < x)
    (hx : x < o + tsPacketSize) (hxrun : hasSyncRun b x = true) :
    (∃ y, y % tsPacketSize ≠ 0 ∧ y + tsPacketSize ≤ b.length ∧ b.parses y = true ∧ Rejects b x y ∧
        ¬ RunsRejected b o x) ∨
      RunsRejected b o x ∧ ∃ z, Rejects b x z ∧ z ≤ b.length ∧ b.length < z + tsPacketSize := by
  have hpacket : tsPacketSize = 188 := rfl
  rw [hpacket] at ho
  -- behind the last false run the search finds nothing
  have hbeyond : ∀ y, o + tsPacketSize ≤ y → y < b.length → hasSyncRun b y = false := by
    intro y hy hlt
    by_contra hrun
    have hfits := hasSyncRun_fits hlt.le (by simpa using hrun)
    omega
  induction h : o + tsPacketSize - x using Nat.strong_induction_on generalizing x with
  | _ d ih =>
    have hfits : x + tsPacketSize ≤ b.length := by omega
    cases hparses : b.parses x with
    | true =>
      refine .inl ⟨x, by rw [hpacket]; omega, hfits, hparses, .refl, fun hrejected => ?_⟩
      rw [(hrejected x le_rfl hx hxrun).1] at hparses
      cases hparses
    | false =>
      have hsingle := Rejects.single hfits hparses
      cases hresync : findResyncOffset b x with
      | some y =>
        obtain ⟨hxy, hy, hyrun, hfirst⟩ := findResyncOffset_eq_some.mp hresync
        rw [scanNext_of_some hparses hresync] at hsingle
        have hyo : y < o + tsPacketSize := by
          by_contra hpast
          rw [hbeyond y (by omega) hy] at hyrun
          cases hyrun
        rw [runsRejected_iff_next hparses hxy hyo hyrun hfirst]
        rcases ih (o + tsPacketSize - y) (by omega) (by omega) hyo hyrun rfl with
          ⟨z, hz, hzfits, hzparses, hpath, hnot⟩ | ⟨hall, z, hpath, hz⟩
        · exact .inl ⟨z, hz, hzfits, hzparses, hsingle.trans hpath, hnot⟩
        · exact .inr ⟨hall, z, hsingle.trans hpath, hz⟩
      | none =>
        rw [scanNext_of_none hparses hresync] at hsingle
        have hlast : ∀ z, x < z → z < o + tsPacketSize → hasSyncRun b z = false := fun z hz hzo =>
          findResyncOffset_eq_none.mp hresync z hz (by omega)
        have hnext : ∀ y, o + tsPacketSize ≤ y → y + tsPacketSize ≤ b.length → b.parses y = false →
            Rejects b y (y + tsPacketSize) := fun y hy hyfits hybad =>
          .next hyfits hybad fun z hyz hz => hbeyond z (by omega) hz
        rw [runsRejected_iff_last hparses hx hxrun hlast]
        cases hone : b.parses (x + tsPacketSize) with
        | true => exact .inl ⟨_, by rw [hpacket]; omega, by omega, hone, hsingle, by simp⟩
        | false =>
          have hpath := hsingle.trans (hnext _ (by omega) (by omega) hone)
          rw [show x + tsPacketSize + tsPacketSize = x + 2 * tsPacketSize by omega] at hpath
          cases htwo : b.parses (x + 2 * tsPacketSize) with
          | true => exact .inl ⟨_, by rw [hpacket]; omega, by omega, htwo, hpath, by simp⟩
          | false =>
            refine .inr ⟨⟨rfl, rfl⟩, x + 2 * tsPacketSize + tsPacketSize, ?_, by omega, by omega⟩
            exact hpath.trans (hnext _ (by omega) (by omega) htwo)

/-- The search runs past what is not a sync run. -/
theorem RunsRejected.of_first (hfirst : ∀ z, o < z → z < x → hasSyncRun b z = false)
    (h : RunsRejected b o x) : RunsRejected b o (o + 1) := by
  intro y hoy hy hyrun
  exact h y (le_of_first hfirst (by omega) hyrun) hy hyrun

/-- Every slot starts with a sync byte. -/
structure Aligned (b : Datagram) : Prop where
  whole : b.length % tsPacketSize = 0
  sync : ∀ o, o % tsPacketSize = 0 → o < b.length → b.byte o = tsSyncByte

/-- Where the loop goes after a slot that does not parse. -/
inductive AfterBad (b : Datagram) (o : ℕ) : Prop
  | on (path : Rejects b o (o + tsPacketSize)) (harmless : Harmless b o)
  | strays (y : ℕ) (hy : y % tsPacketSize ≠ 0) (hfits : y + tsPacketSize ≤ b.length)
      (hparses : b.parses y = true) (path : Rejects b o y) (harmful : ¬ Harmless b o)
  | ends (z : ℕ) (path : Rejects b o z) (hend : b.length < z + tsPacketSize)
      (hlen : b.length = o + 4 * tsPacketSize)
      (hiff : Harmless b o ↔ ∀ i, 1 ≤ i → i ≤ 3 → b.parses (o + i * tsPacketSize) = false)

/-- **After a bad slot** the loop goes on at the next slot, strays to a packet between the slots, or runs
to the end of the datagram. -/
theorem afterBad (haligned : Aligned b) (ho : o % tsPacketSize = 0)
    (hfits : o + tsPacketSize ≤ b.length) (hbad : b.parses o = false) : AfterBad b o := by
  have hpacket : tsPacketSize = 188 := rfl
  have hwhole := haligned.whole
  rw [hpacket] at ho hwhole
  have hsingle := Rejects.single hfits hbad
  cases hresync : findResyncOffset b o with
  | none =>
    rw [scanNext_of_none hbad hresync] at hsingle
    have hnone := findResyncOffset_eq_none.mp hresync
    refine .on hsingle ⟨fun hmany x hox hx hrun => ?_, fun hlast => .inl fun x hox hx => ?_⟩
    · rw [hnone x hox (by omega)] at hrun
      cases hrun
    · exact hnone x hox (by omega)
  | some x =>
    obtain ⟨hox, hxlen, hxrun, hfirst⟩ := findResyncOffset_eq_some.mp hresync
    rw [scanNext_of_some hbad hresync] at hsingle
    have hxfits := hasSyncRun_fits hxlen.le hxrun
    by_cases hmany : o + 5 * tsPacketSize ≤ b.length
    · have hrun : hasSyncRun b (o + tsPacketSize) = true := by
        refine (hasSyncRun_iff (by omega)).mpr fun i hi => ?_
        rw [hpacket]
        exact ⟨by omega, haligned.sync _ (by rw [hpacket]; omega) (by omega)⟩
      have hx : x ≤ o + tsPacketSize := le_of_first hfirst (by omega) hrun
      rcases stray_many hrun hmany hox hx hxrun with ⟨y, hxy, hy, hyrun, hparses, hpath⟩ | ⟨hall, hpath⟩
      · refine .strays y (by rw [hpacket]; omega) (by omega) hparses (hsingle.trans hpath) fun h => ?_
        rw [h.many hmany y (by omega) hy hyrun] at hparses
        cases hparses
      · refine .on (hsingle.trans hpath) ⟨fun _ z hoz hz hzrun => ?_, fun hlast => by omega⟩
        exact hall z (le_of_first hfirst hoz hzrun) hz hzrun
    · have hlen : b.length = o + 4 * tsPacketSize := by omega
      have hx : x < o + tsPacketSize := by omega
      have hrejected (h : Harmless b o) :
          RunsRejected b o x ∧ ∀ i, 1 ≤ i → i ≤ 3 → b.parses (o + i * tsPacketSize) = false := by
        rcases h.last hlen with hnone | ⟨hall, hslots⟩
        · rw [hnone x hox hx] at hxrun
          cases hxrun
        · exact ⟨fun y hxy => hall y (by omega), hslots⟩
      rcases stray_last hlen ho hox hx hxrun with
        ⟨y, hy, hyfits, hparses, hpath, hnot⟩ | ⟨hall, z, hpath, -, hend⟩
      · exact .strays y hy hyfits hparses (hsingle.trans hpath) fun h => hnot (hrejected h).1
      · refine .ends z (hsingle.trans hpath) hend hlen ⟨fun h => (hrejected h).2, fun hslots => ?_⟩
        exact ⟨fun h => absurd h hmany, fun _ => .inr ⟨hall.of_first hfirst, hslots⟩⟩

/-! ### The slots -/

/-- The engine, after it has been given the slots before slot `k` that parse, and whether it has taken
them all. -/
def slotStations (env : Env σ) (streamId : StreamId) (b : Datagram) (s : Station σ) :
    ℕ → Bool × Station σ
  | 0 => (true, s)
  | k + 1 =>
    match slotStations env streamId b s k, (b.window (tsPacketSize * k)).parse? with
    | (true, s'), some p => (pushTaken env streamId p s', receivePacket env streamId p s')
    | (ok, s'), _ => (ok, s')

/-- The `m` slots from slot `k` on that parse. -/
def acceptedFrom (b : Datagram) (k m : ℕ) : List ℕ :=
  ((List.range' k m).map (tsPacketSize * ·)).filter b.parses

/-- Where the engine has taken the slots before it, a slot that parses is reached, and a slot that does
not is harmless. -/
def SlotsPass (env : Env σ) (streamId : StreamId) (b : Datagram) (s : Station σ) (k m : ℕ) : Prop :=
  ∀ j, k ≤ j → j < k + m →
    (b.parses (tsPacketSize * j) = true → (slotStations env streamId b s j).1 = true) ∧
      (b.parses (tsPacketSize * j) = false → (slotStations env streamId b s j).1 = true →
        Harmless b (tsPacketSize * j))

theorem acceptedFrom_succ_of_parses (h : b.parses (tsPacketSize * k) = true) :
    acceptedFrom b k (m + 1) = tsPacketSize * k :: acceptedFrom b (k + 1) m := by
  rw [acceptedFrom, List.range'_succ, List.map_cons, List.filter_cons_of_pos h]
  rfl

theorem acceptedFrom_succ_of_bad (h : b.parses (tsPacketSize * k) = false) :
    acceptedFrom b k (m + 1) = acceptedFrom b (k + 1) m := by
  rw [acceptedFrom, List.range'_succ, List.map_cons, List.filter_cons_of_neg (by simp [h])]
  rfl

theorem acceptedFrom_eq_nil :
    acceptedFrom b k m = [] ↔ ∀ j, k ≤ j → j < k + m → b.parses (tsPacketSize * j) = false := by
  simp only [acceptedFrom, List.filter_eq_nil_iff, List.mem_map, List.mem_range'_1,
    Bool.not_eq_true]
  constructor
  · exact fun h j hkj hj => h _ ⟨j, ⟨hkj, hj⟩, rfl⟩
  · rintro h - ⟨j, ⟨hkj, hj⟩, rfl⟩
    exact h j hkj hj

/-- None of the three slots after slot `k` parses. -/
theorem acceptedFrom_three_eq_nil :
    acceptedFrom b (k + 1) 3 = [] ↔
      ∀ i, 1 ≤ i → i ≤ 3 → b.parses (tsPacketSize * k + i * tsPacketSize) = false := by
  rw [acceptedFrom_eq_nil]
  constructor
  · intro h i hi hi'
    have hslot := h (k + i) (by omega) (by omega)
    rwa [Nat.mul_add, Nat.mul_comm tsPacketSize i] at hslot
  · intro h j hkj hj
    have hslot := h (j - k) (by omega) (by omega)
    rwa [Nat.mul_comm (j - k), ← Nat.mul_add, Nat.add_sub_cancel' (by omega)] at hslot

theorem dvd_of_mem_acceptedFrom (h : x ∈ acceptedFrom b k m) : x % tsPacketSize = 0 := by
  simp only [acceptedFrom, List.mem_filter, List.mem_map] at h
  obtain ⟨⟨j, -, rfl⟩, -⟩ := h
  exact Nat.mul_mod_right _ _

theorem slotsPass_succ :
    SlotsPass env streamId b s k (m + 1) ↔
      ((b.parses (tsPacketSize * k) = true → (slotStations env streamId b s k).1 = true) ∧
        (b.parses (tsPacketSize * k) = false → (slotStations env streamId b s k).1 = true →
          Harmless b (tsPacketSize * k))) ∧
        SlotsPass env streamId b s (k + 1) m := by
  constructor
  · exact fun h => ⟨h k le_rfl (by omega), fun j hkj hj => h j (by omega) (by omega)⟩
  · rintro ⟨hk, h⟩ j hkj hj
    rcases Nat.eq_or_lt_of_le hkj with rfl | hlt
    · exact hk
    · exact h j hlt (by omega)

theorem slotStations_of_bad (h : b.parses (tsPacketSize * k) = false) :
    slotStations env streamId b s (k + 1) = slotStations env streamId b s k := by
  have hnone : (b.window (tsPacketSize * k)).parse? = none := by
    simpa [parses_eq] using h
  simp only [slotStations, hnone]

theorem slotStations_of_parses {p : ParsedPacket} {s' : Station σ}
    (hp : (b.window (tsPacketSize * k)).parse? = some p)
    (h : slotStations env streamId b s k = (true, s')) :
    slotStations env streamId b s (k + 1) =
      (pushTaken env streamId p s', receivePacket env streamId p s') := by
  simp only [slotStations, h, hp]

/-- After a refusal nothing more is taken. -/
theorem slotStations_refused (h : (slotStations env streamId b s k).1 = false) (hkm : k ≤ m) :
    (slotStations env streamId b s m).1 = false := by
  induction m, hkm using Nat.le_induction with
  | base => exact h
  | succ m hkm ih =>
    simp only [slotStations]
    split
    · next heq _ =>
      rw [heq] at ih
      cases ih
    · next heq _ =>
      rw [heq] at ih
      exact ih

/-- After a refusal nothing more is reached. -/
theorem slotsPass_iff_of_refused (h : (slotStations env streamId b s k).1 = false) :
    SlotsPass env streamId b s k m ↔ acceptedFrom b k m = [] := by
  rw [acceptedFrom_eq_nil]
  refine forall_congr' fun j => forall_congr' fun hkj => forall_congr' fun hj => ?_
  simp [slotStations_refused h hkj]

/-- Bad slots with at most two more after them are all harmless. -/
theorem slotsPass_of_few (hlen : b.length ≤ tsPacketSize * (k + 3)) (h : acceptedFrom b k m = []) :
    SlotsPass env streamId b s k m := by
  intro j hkj hj
  have hpacket : tsPacketSize = 188 := rfl
  have hbad := acceptedFrom_eq_nil.mp h j hkj hj
  refine ⟨fun hparses => ?_, fun _ _ => .of_few (by rw [hpacket] at hlen ⊢; omega)⟩
  rw [hbad] at hparses
  cases hparses

/-! ### Following the loop -/

/-- Windows that do not parse leave the engine alone. -/
theorem Rejects.follow (hpath : Rejects b x y) (ht : t.offset = x) (hx : x ≤ b.length)
    (hret : Returns (datagramStep env streamId b) t res) :
    ∃ t₁, t₁.offset = y ∧ y ≤ b.length ∧ t₁.passed = t.passed ∧
      t₁.receiver.station = t.receiver.station ∧ Returns (datagramStep env streamId b) t₁ res := by
  induction hpath using ReflTransGen.head_induction_on generalizing t with
  | refl => exact ⟨t, ht, hx, rfl, rfl, hret⟩
  | head hstep hpath ih =>
    obtain ⟨⟨hfits, rfl⟩, hbad⟩ := hstep
    have hcases := datagramStep_cases env streamId (b := b) (t := t) (by omega)
    have hnext : datagramStep env streamId b t = .inr (t.reject streamId b) := by
      generalize datagramStep env streamId b t = res' at hcases
      subst ht
      cases hcases with
      | atEnd hover => omega
      | rejected => rfl
      | passed hfits p hparse => simp [parses_eq, hparse] at hbad
      | refused hfits p hparse => simp [parses_eq, hparse] at hbad
    exact ih (t := t.reject streamId b) (by rw [← ht]; rfl) (scanNext_le hfits) (hret.of_inr hnext)

/-- What has been passed stays passed. -/
theorem passed_prefix (ht : t.offset ≤ b.length)
    (hret : Returns (datagramStep env streamId b) t (ok, t')) : t.passed <+: t'.passed := by
  obtain ⟨t₁, ⟨ht₁, hprefix⟩, hstep⟩ := hret.rule
    (I := fun t₁ => t₁.offset ≤ b.length ∧ t.passed <+: t₁.passed) (fun t₁ t₂ ⟨h, hprefix⟩ hstep => by
      have hcases := datagramStep_cases env streamId h
      rw [hstep] at hcases
      cases hcases with
      | rejected hfits => exact ⟨scanNext_le hfits, hprefix⟩
      | passed hfits => exact ⟨hfits, hprefix.trans (List.prefix_append _ _)⟩)
    ⟨ht, List.prefix_rfl⟩
  have hcases := datagramStep_cases env streamId ht₁
  rw [hstep] at hcases
  cases hcases with
  | atEnd => exact hprefix
  | refused => exact hprefix.trans (List.prefix_append _ _)

/-- A window that parses is passed; the loop goes on if the engine takes it. -/
theorem returns_of_parses {p : ParsedPacket} (ht : t.offset + tsPacketSize ≤ b.length)
    (hp : (b.window t.offset).parse? = some p)
    (hret : Returns (datagramStep env streamId b) t (ok, t')) :
    if pushTaken env streamId p t.receiver.station then
      Returns (datagramStep env streamId b)
        { t.pass env streamId p with offset := t.offset + tsPacketSize } (ok, t')
    else ok = false ∧ t' = t.pass env streamId p := by
  have hcases := datagramStep_cases env streamId (b := b) (t := t) (by omega)
  generalize hres : datagramStep env streamId b t = res' at hcases
  cases hcases with
  | atEnd hover => omega
  | rejected hfits hbad => simp [parses_eq, hp] at hbad
  | passed hfits p' hparse htaken =>
    obtain rfl := Option.some.inj (hp.symm.trans hparse)
    rw [if_pos htaken]
    exact hret.of_inr hres
  | refused hfits p' hparse htaken =>
    obtain rfl := Option.some.inj (hp.symm.trans hparse)
    rw [if_neg (by simp [htaken])]
    exact Prod.mk.inj (hret.of_inl hres)

theorem passed_of_parses (ht : t.offset + tsPacketSize ≤ b.length)
    (hparses : b.parses t.offset = true)
    (hret : Returns (datagramStep env streamId b) t (ok, t')) :
    ∃ rest, t'.passed = t.passed ++ t.offset :: rest := by
  obtain ⟨p, hp⟩ := Option.isSome_iff_exists.mp ((parses_eq _ _).symm.trans hparses)
  have hnext := returns_of_parses ht hp hret
  split at hnext
  · obtain ⟨rest, hrest⟩ := passed_prefix (by exact ht) hnext
    exact ⟨rest, by rw [← hrest]; simp [DatagramLoop.pass]⟩
  · exact ⟨[], by rw [hnext.2]; rfl⟩

theorem returns_of_atEnd (ht : t.offset ≤ b.length) (hover : b.length < t.offset + tsPacketSize)
    (hret : Returns (datagramStep env streamId b) t (ok, t')) : t' = t := by
  have hcases := datagramStep_cases env streamId ht
  generalize hres : datagramStep env streamId b t = res' at hcases
  cases hcases with
  | atEnd => exact (Prod.mk.inj (hret.of_inl hres)).2
  | rejected hfits => omega
  | passed hfits => omega
  | refused hfits => omega

/-- **The loop from slot `k` on**, with `m` slots left. -/
theorem slots_from (haligned : Aligned b) (hlen : b.length = tsPacketSize * (k + m))
    (ht : t.offset = tsPacketSize * k)
    (hs : slotStations env streamId b s k = (true, t.receiver.station))
    (hret : Returns (datagramStep env streamId b) t (ok, t')) :
    ∃ rest, t'.passed = t.passed ++ rest ∧
      (rest = acceptedFrom b k m ↔ SlotsPass env streamId b s k m) := by
  have hpacket : tsPacketSize = 188 := rfl
  induction m generalizing k t with
  | zero =>
    rw [Nat.add_zero, ← ht] at hlen
    obtain rfl := returns_of_atEnd (by omega) (by omega) hret
    refine ⟨[], by simp, fun _ j hkj hj => absurd hj (by omega), fun _ => by simp [acceptedFrom]⟩
  | succ m ih =>
    have hoffset : t.offset = 188 * k := ht
    have hlength : b.length = 188 * (k + (m + 1)) := hlen
    have hfits : t.offset + tsPacketSize ≤ b.length := by omega
    cases hparses : b.parses (tsPacketSize * k) with
    | true =>
      rw [acceptedFrom_succ_of_parses hparses, slotsPass_succ]
      obtain ⟨p, hp⟩ := Option.isSome_iff_exists.mp ((parses_eq _ _).symm.trans hparses)
      have hstations := slotStations_of_parses hp hs
      have hnext := returns_of_parses hfits (by rw [ht]; exact hp) hret
      split at hnext
      · next htaken =>
        rw [htaken] at hstations
        obtain ⟨rest, hrest, hiff⟩ := ih (k := k + 1)
          (t := { t.pass env streamId p with offset := t.offset + tsPacketSize })
          (by rw [hlen]; congr 1; omega) (by simp only [ht]; rfl) hstations hnext
        refine ⟨tsPacketSize * k :: rest, by rw [hrest, ← ht]; simp [DatagramLoop.pass], ?_⟩
        simp only [List.cons.injEq, true_and, hiff, hs, hparses]
        simp
      · next hrefused =>
        have hrefusal : (slotStations env streamId b s (k + 1)).1 = false := by
          rw [hstations]
          simpa using hrefused
        refine ⟨[tsPacketSize * k], by rw [hnext.2, ← ht]; rfl, ?_⟩
        simp only [List.cons.injEq, true_and, slotsPass_iff_of_refused hrefusal, hs, hparses, Bool.true_eq_false,
          IsEmpty.forall_iff, implies_true, and_self]
        exact eq_comm
    | false =>
      rw [acceptedFrom_succ_of_bad hparses, slotsPass_succ]
      have hsame : slotStations env streamId b s (k + 1) = slotStations env streamId b s k :=
        slotStations_of_bad hparses
      have hstations := hsame.trans hs
      have hk : ((b.parses (tsPacketSize * k) = true → (slotStations env streamId b s k).1 = true) ∧
          (b.parses (tsPacketSize * k) = false → (slotStations env streamId b s k).1 = true →
            Harmless b (tsPacketSize * k))) ↔ Harmless b (tsPacketSize * k) := by
        simp [hparses, hs]
      rw [hk]
      cases afterBad haligned (Nat.mul_mod_right _ k) (by omega) hparses with
      | on path harmless =>
        obtain ⟨t₁, ht₁, -, hpassed, hstation, hret₁⟩ := path.follow ht (by omega) hret
        rw [← hstation] at hstations
        obtain ⟨rest, hrest, hiff⟩ := ih (k := k + 1) (t := t₁)
          (by rw [hlen]; congr 1; omega) (by rw [ht₁]; rfl) hstations hret₁
        exact ⟨rest, by rw [hrest, hpassed], by simp [hiff, harmless]⟩
      | strays y hy hyfits hyparses path harmful =>
        obtain ⟨t₁, ht₁, -, hpassed, -, hret₁⟩ := path.follow ht (by omega) hret
        obtain ⟨rest, hrest⟩ := passed_of_parses (by rw [ht₁]; exact hyfits)
          (by rw [ht₁]; exact hyparses) hret₁
        refine ⟨y :: rest, by rw [hrest, hpassed, ht₁], fun heq => ?_, fun h => absurd h.1 harmful⟩
        have hmem : y ∈ acceptedFrom b (k + 1) m := by
          rw [← heq]
          exact List.mem_cons_self
        exact absurd (dvd_of_mem_acceptedFrom hmem) hy
      | ends z path hend hlen' hiff =>
        obtain ⟨t₁, ht₁, hz, hpassed, -, hret₁⟩ := path.follow ht (by omega) hret
        obtain rfl := returns_of_atEnd (by omega) (by omega) hret₁
        refine ⟨[], by rw [hpassed, List.append_nil], ?_⟩
        obtain rfl : m = 3 := by
          have hlast : b.length = 188 * k + 4 * 188 := hlen'
          omega
        rw [eq_comm, acceptedFrom_three_eq_nil, hiff, iff_self_and]
        intro hslots
        exact slotsPass_of_few (by rw [hlen]) (acceptedFrom_three_eq_nil.mpr hslots)

/-! ### Whole datagrams -/

/-- **The slots that parse are passed**, in order and each once, exactly if the engine refuses none of
them but the last and every slot that does not parse is harmless. -/
theorem slots_passed_iff (env : Env σ) (streamId : StreamId) (b : Datagram) (s : Receiver σ) (n : ℕ)
    (hlen : b.length = tsPacketSize * n)
    (hsync : ∀ k < n, b.byte (tsPacketSize * k) = tsSyncByte) :
    (processDatagram env streamId b s).map (·.2.passed) = some (acceptedFrom b 0 n) ↔
      SlotsPass env streamId b s.station 0 n := by
  have haligned : Aligned b := by
    refine ⟨by rw [hlen]; exact Nat.mul_mod_right _ n, fun o ho hlt => ?_⟩
    obtain ⟨k, rfl⟩ := Nat.dvd_of_mod_eq_zero ho
    rw [hlen] at hlt
    exact hsync k (Nat.lt_of_mul_lt_mul_left hlt)
  obtain ⟨ok, t, hloop⟩ := datagramLoop_returns env streamId b s
  obtain ⟨rest, hrest, hiff⟩ := slots_from (k := 0) (m := n) (s := s.station) haligned
    (by rw [hlen, Nat.zero_add]) rfl rfl (returns_of_loopFor hloop)
  obtain ⟨-, -, hpassed, -⟩ := closeDatagram_ghosts streamId b (ok, t)
  rw [← hiff, processDatagram, hloop, Option.map_some, Option.map_some, Option.some.injEq, hpassed,
    hrest]
  rfl

/-- A slot whose payload contains the header of another packet. -/
def straySlot (header : UInt8) : List UInt8 :=
  [0x47, 1, 0, header] ++ .replicate 96 0 ++ [0x47, 1, 0, 0x10] ++ .replicate 84 0

/-- The first of four slots does not parse. -/
def strayDatagram : Datagram where
  bytes := straySlot 0 ++ straySlot 0x11 ++ straySlot 0x12 ++ straySlot 0x13
  size := by decide +kernel

/-- The loop passes three packets, none of them a slot. -/
theorem stray_passed :
    strayDatagram.length = tsPacketSize * 4 ∧
      (∀ k < 4, strayDatagram.byte (tsPacketSize * k) = tsSyncByte) ∧
      acceptedFrom strayDatagram 0 4 = [188, 376, 564] ∧
      (processDatagram (scriptedEnv [] 1) .primary strayDatagram
        (freshReceiver promptConfig () 1)).map (·.2.passed) = some [100, 288, 476] := by
  decide +kernel

/-- A bad slot and three good ones. -/
def badFirstSlot : Datagram where
  bytes := [0x47, 1, 0, 0] ++ .replicate 184 0 ++
    (List.range 3).flatMap fun n => (payloadPacket 0x100 n n).bytes
  size := by decide +kernel

/-- The good ones are passed. -/
theorem slots_passed_badFirstSlot :
    (processDatagram (scriptedEnv [] 1) .primary badFirstSlot
      (freshReceiver promptConfig () 1)).map (·.2.passed) = some (acceptedFrom badFirstSlot 0 4) := by
  have hstations : ∀ j < 4, (slotStations (scriptedEnv [] 1) .primary badFirstSlot
      (freshReceiver promptConfig () 1).station j).1 = true := by decide +kernel
  have hgood : ∀ j < 4, j ≠ 0 → badFirstSlot.parses (tsPacketSize * j) = true := by decide +kernel
  have hruns : ∀ x < 188, hasSyncRun badFirstSlot x = true → x = 0 := by decide +kernel
  have hlength : badFirstSlot.length = 752 := by decide +kernel
  refine (slots_passed_iff (scriptedEnv [] 1) .primary badFirstSlot (freshReceiver promptConfig () 1) 4
    (by decide +kernel) (by decide +kernel)).mpr fun j _ hj => ⟨fun _ => hstations j hj, fun hbad _ => ?_⟩
  have hzero : j = 0 := by
    by_contra hne
    rw [hgood j hj hne] at hbad
    cases hbad
  subst hzero
  refine ⟨fun hmany => ?_, fun _ => .inl fun x hx hlt => ?_⟩
  · rw [hlength] at hmany
    exact absurd hmany (by decide)
  · by_contra hrun
    exact absurd (hruns x hlt (by simpa using hrun)) (by omega)

end TwoStream
