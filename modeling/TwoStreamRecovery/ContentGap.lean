import TwoStreamRecovery.Places
import TwoStreamRecovery.PrimaryOutput
import TwoStreamRecovery.Reporting

/-!
# Lost content (`recovery_engine_drain`)

* `GapRemoval`: what the primary receives of a feed when it loses short stretches of it.
* `Pending`: what stays as it is while the primary's records wait.
* `Refilled`: what each release of a flush keeps; the lost stretches before the released records have
  been sent from the secondary.
* **`content_gaps_recovered`**: the flush sends the whole feed.
-/

namespace TwoStream

open Relation

variable {σ : Type} {env : Env σ} {w w' w₀ : World σ} {A B P T R : List ParsedPacket}
  {primary : PacketRecord} {config : RecoveryEngineConfig} {sinkState : σ}

/-! ### Gaps -/

/-- `P` is `B` without some stretches of at most `burst` packets. Each of them has content, and a
content packet follows it that is not missing. -/
inductive GapRemoval (burst : ℕ) : List ParsedPacket → List ParsedPacket → Prop
  | nil : GapRemoval burst [] []
  | keep (p : ParsedPacket) {B P : List ParsedPacket} (rest : GapRemoval burst B P) :
      GapRemoval burst (p :: B) (p :: P)
  | gap {G : List ParsedPacket} (p : ParsedPacket) {B P : List ParsedPacket}
      (short : G.length ≤ burst) (content : ∃ q ∈ G, q.info.isNull = false)
      (next : p.info.isNull = false) (rest : GapRemoval burst B P) :
      GapRemoval burst (G ++ p :: B) (p :: P)

/-- Both inputs have received `A`, which ends in content. The primary's copy has been sent and nothing
else, and the anchor is at the last packet. -/
structure InStep (A : List ParsedPacket) (w : World σ) : Prop where
  active : w.engine.activeOutputStreamId = .primary
  inputs : ∀ s, received s w.trace = A.map (·.packet)
  sent : AllSent w
  content : ∃ A' p, A = A' ++ [p] ∧ p.info.isNull = false
  anchor : w.engine.lastPrimaryAnchor = ⟨true, A.length - 1, A.length - 1⟩

/-- Neither a release, nor the loss of a waiting primary record, nor failover. -/
def Event.waits : Event → Bool
  | .release _ => false
  | .overflow .primary => false
  | .failover _ _ => false
  | _ => true

/-- From `w₀` to `w` the primary's records only wait, and the histories keep theirs. -/
structure OnlyWaits (w₀ w : World σ) : Prop where
  events : ∀ ev ∈ w.trace.drop w₀.trace.length, ev.waits = true
  held : ∀ s, ∀ r ∈ (w₀.engine.history s).toList, r ∈ (w.engine.history s).toList

theorem GapRemoval.sublist {burst : ℕ} (h : GapRemoval burst B P) : P.Sublist B := by
  induction h with
  | nil => exact .slnil
  | keep p rest ih => exact ih.cons_cons p
  | gap p short content next rest ih =>
    exact (ih.cons_cons p).trans (List.sublist_append_right _ _)

/-! ### Waiting -/

/-- The primary's records wait, and what a release looks at is as in `w₀`. -/
structure Pending (w₀ w : World σ) : Prop extends InTurn w where
  grows : w₀.trace <+: w.trace
  sent : sentRecords w.trace = sentRecords w₀.trace
  anchor : w.engine.lastPrimaryAnchor = w₀.engine.lastPrimaryAnchor
  incidents : w.stats.incidents = w₀.stats.incidents
  config : w.engine.config = w₀.engine.config

theorem Stage.pending (h : Stage env w w')
    (hwaits : ∀ ev ∈ w'.trace.drop w₀.trace.length, ev.waits = true) (hconsistent : Consistent w)
    (hsent : SentKnown w) (hw : Pending w₀ w) : Pending w₀ w' := by
  have hgrows : w₀.trace <+: w'.trace := hw.grows.trans (Stage.trace_prefix (h : Stage env w _))
  rcases h.primary_or_failover hw.active with hstage | ⟨force, nowNs, rfl⟩
  · cases hstage with
    | ingest streamId p =>
      have hin := pushIngest_ingested env streamId p w
      have hkept : .overflow .primary ∉ (pushIngest env streamId p w).trace.drop w.trace.length := by
        intro hmem
        have hlater := List.drop_subset_drop_left _ hw.grows.length_le hmem
        cases hwaits _ hlater
      obtain ⟨a, i, q, q', he⟩ := hin.engine
      obtain ⟨b, c, d, x, y, hs⟩ := hin.stats
      refine ⟨hin.inTurn hkept hw.toInTurn, hgrows, ?_, ?_, ?_, ?_⟩
      · rw [← hw.sent]
        exact congrArg (List.map Prod.snd) hin.sentEvents_eq
      · rw [he]
        exact hw.anchor
      · rw [hs]
        exact hw.incidents
      · rw [he]
        exact hw.config
    | idle hidle =>
      obtain ⟨start, queue, he⟩ := hidle.engine
      refine ⟨hidle.inTurn hw.toInTurn, hgrows, ?_, ?_, ?_, ?_⟩
      · rw [← hw.sent]
        exact congrArg (List.map Prod.snd) hidle.sentEvents_eq
      · rw [he]
        exact hw.anchor
      · rw [hidle.stats]
        exact hw.incidents
      · rw [he]
        exact hw.config
    | discard =>
      obtain ⟨start, ring, he, -⟩ := discardDrain_engine env w
      refine ⟨discard_inTurn hconsistent hsent hw.toInTurn, hgrows, ?_, ?_, hw.incidents, ?_⟩
      · rw [← hw.sent, discardDrain_trace, sentRecords_append]
        exact List.append_nil _
      · rw [he]
        exact hw.anchor
      · rw [he]
        exact hw.config
    | release primary front =>
      obtain ⟨l, ht, -⟩ := (releasePrimary_outcome env primary w).trace
      have hadds : w.trace ++ .release (openRelease primary w).engine :: l <+:
          (releasePrimary env primary w).2.trace := by rw [ht]
      have hmem := mem_drop_of_grow hw.grows hadds
      cases hwaits _ hmem
  · have hmark := hwaits _ (mem_drop_of_grow hw.grows (failover_mark env force nowNs _ w))
    cases hmark

/-- **While nothing is released,** only the inputs grow. -/
theorem pending_of_waits {ops : List Op}
    (hreach : Reachable env config sinkState w) (h : InStep A w)
    (hwaits : OnlyWaits w (run env w ops)) : Pending w (run env w ops) := by
  have hconsistent := reachable_consistent hreach
  have hknown := sentKnown_of_reachable hreach
  have hstart : Pending w w := by
    refine ⟨⟨h.active, ?_⟩, List.prefix_rfl, rfl, rfl, rfl, rfl⟩
    rw [h.sent.queue_nil hconsistent hknown, List.append_nil]
    exact h.sent
  refine (bounded_stages (I := fun w' => SentKnown w' ∧ Pending w w')
    (Q := fun t => ∀ ev ∈ t.drop w.trace.length, ev.waits = true) ?_ (run_stages env w ops) hwaits.events
    hconsistent ⟨hknown, hstart⟩ ?_).2
  · intro t t' hgrows hq ev hev
    exact hq ev ((hgrows.drop _).subset hev)
  · intro w₁ w₂ hstage hq hconsistent₁ hw₁
    exact ⟨hstage.sentKnown hconsistent₁ hw₁.1, hstage.pending hq hconsistent₁ hw₁.1 hw₁.2⟩

/-! ### The place of the anchor -/

/-- The anchor lies before the `k`-th packet of `R` and the `n`-th of `T`, and from it to them both
have the same packets. -/
structure AnchorBefore (T R : List ParsedPacket) (a k n : ℕ) (anchor : PrimaryAnchor) : Prop where
  valid : anchor.valid = true
  late : a ≤ anchor.primaryIndex ∧ a ≤ anchor.secondaryIndex
  before : anchor.primaryIndex < k
  level : k + anchor.secondaryIndex = n + anchor.primaryIndex
  same : ∀ i, anchor.primaryIndex + i < k → R[anchor.primaryIndex + i]? = T[anchor.secondaryIndex + i]?

section Anchor

variable {a k n : ℕ} {anchor : PrimaryAnchor}

/-- One more packet on both inputs. -/
theorem AnchorBefore.keep (h : AnchorBefore T R a k n anchor) (hsame : R[k]? = T[n]?) :
    AnchorBefore T R a (k + 1) (n + 1) anchor where
  valid := h.valid
  late := h.late
  before := Nat.lt_succ_of_lt h.before
  level := by
    have hlevel := h.level
    omega
  same i hi := by
    by_cases hlast : anchor.primaryIndex + i < k
    · exact h.same i hlast
    · have hlevel := h.level
      rw [show anchor.primaryIndex + i = k by omega, show anchor.secondaryIndex + i = n by omega, hsame]

/-- The anchor at two copies. -/
theorem anchorBefore_at (hk : a ≤ k) (hn : a ≤ n) (hsame : R[k]? = T[n]?) :
    AnchorBefore T R a (k + 1) (n + 1) ⟨true, k, n⟩ where
  valid := rfl
  late := ⟨hk, hn⟩
  before := Nat.lt_succ_self k
  level := by
    show k + 1 + n = n + 1 + k
    omega
  same i hi := by
    have hzero : i = 0 := by
      have hlt : k + i < k + 1 := hi
      omega
    rw [hzero]
    exact hsame

end Anchor

/-! ### Records of a feed -/

section Records

variable {s : StreamId} {S G : List ParsedPacket} {L : List PacketRecord} {a j : ℕ} {p : ParsedPacket}

/-- What was received since a held record is found. -/
theorem Consistent.find_of_packet (hw : Consistent w) (hS : received s w.trace = S.map (·.packet))
    (hheld : packetHistoryFindIndex (w.engine.history s) a ≠ none) (ha : a ≤ j) (hj : S[j]? = some p) :
    ∃ t, packetHistoryFindIndex (w.engine.history s) j = some (makeRecord s j t p) := by
  obtain ⟨t, ht⟩ := hw.pushed_of_packet hS hj
  exact ⟨t, hw.find_of_held hheld ha ht⟩

/-- A stretch of what was received since a held record is found. -/
theorem Consistent.exists_range (hw : Consistent w) (hS : received s w.trace = S.map (·.packet))
    (hheld : packetHistoryFindIndex (w.engine.history s) a ≠ none) (ha : a ≤ j) (hG : G <+: S.drop j) :
    ∃ L, HistoryRange (w.engine.history s) j L ∧
      L.map PacketRecord.plain = G.map (makeRecord .primary 0 0) := by
  induction G generalizing j with
  | nil => exact ⟨[], trivial, rfl⟩
  | cons q G ih =>
    obtain ⟨rest, hrest⟩ := hG
    have hq : S[j]? = some q := by
      rw [← List.head?_drop, ← hrest]
      rfl
    have htail : G <+: S.drop (j + 1) := by
      rw [← List.tail_drop, ← hrest]
      exact List.prefix_append _ _
    obtain ⟨t, hfind⟩ := hw.find_of_packet hS hheld ha hq
    obtain ⟨L, hrange, hplain⟩ := ih (Nat.le_succ_of_le ha) htail
    refine ⟨makeRecord s j t q :: L, ⟨hfind, hrange⟩, ?_⟩
    rw [List.map_cons, List.map_cons, hplain]
    rfl

/-- Records of undamaged packets are undamaged. -/
theorem clean_of_plain (hL : L.map PacketRecord.plain = G.map (makeRecord .primary 0 0))
    (hG : ∀ p ∈ G, p.Clean) : ∀ r ∈ L, r.Clean := by
  intro r hr
  have hmem : r.plain ∈ G.map (makeRecord .primary 0 0) := by
    rw [← hL]
    exact List.mem_map_of_mem hr
  obtain ⟨p, hp, hmade⟩ := List.mem_map.mp hmem
  show r.plain.Clean
  rw [← hmade]
  exact hG p hp

/-- Records of content packets are content. -/
theorem content_of_plain (hL : L.map PacketRecord.plain = G.map (makeRecord .primary 0 0))
    (hG : ∃ q ∈ G, q.info.isNull = false) : ∃ r ∈ L, r.isNull = false := by
  obtain ⟨q, hq, hcontent⟩ := hG
  have hmem : makeRecord .primary 0 0 q ∈ L.map PacketRecord.plain := by
    rw [hL]
    exact List.mem_map_of_mem hq
  obtain ⟨r, hr, hplain⟩ := List.mem_map.mp hmem
  refine ⟨r, hr, ?_⟩
  show r.plain.isNull = false
  rw [hplain]
  exact hcontent

/-- Two records of one content packet. -/
theorem afterAnchorHolds_makeRecord {s' : StreamId} {i i' t t' : ℕ} (hclean : p.Clean)
    (hcontent : p.info.isNull = false) :
    afterAnchorHolds (makeRecord s i t p) (makeRecord s' i' t' p) = true := by
  have hmatch : recordsExactNonErrorMatch (makeRecord s i t p) (makeRecord s' i' t' p) = true :=
    recordsExactNonErrorMatch_makeRecord.mpr ⟨hclean, hclean, rfl⟩
  rw [afterAnchorHolds, hmatch]
  simp [makeRecord, hcontent]

end Records

/-! ### Releases -/

/-- The first `k` records of the primary, which has received `R`, have been released, and the first `n`
packets of `T` have been sent. What the inputs have received since the index `a` is found. -/
structure Refilled (T R : List ParsedPacket) (a : ℕ) (stats : ReportStats) (k n : ℕ) (w : World σ) :
    Prop where
  active : w.engine.activeOutputStreamId = .primary
  primary : received .primary w.trace = R.map (·.packet)
  secondary : received .secondary w.trace = T.map (·.packet)
  waits : w.engine.primaryQueue.toList = (pushedRecords .primary w.trace).drop k
  sent : (sentRecords w.trace).map PacketRecord.plain = (T.take n).map (makeRecord .primary 0 0)
  gaps : GapRemoval w.engine.config.maxContentBurstPackets (T.drop n) (R.drop k)
  confidence : w.engine.config.minAlignmentConfidence ≤ w.engine.alignment.confidence
  held : ∀ s, packetHistoryFindIndex (w.engine.history s) a ≠ none
  anchor : AnchorBefore T R a k n w.engine.lastPrimaryAnchor
  within : k ≤ R.length ∧ n ≤ T.length
  incidents : k ≤ n ∧ w.stats.incidents = (stats.recoveredPackets + (n - k), stats.incidents.2)

section Refilled

variable {a k n j : ℕ} {stats : ReportStats} {p : ParsedPacket} {G : List ParsedPacket}

/-- The waiting record. -/
theorem Refilled.front (h : Refilled T R a stats k n w) (hconsistent : Consistent w)
    (hfront : delayQueueFront w.engine.primaryQueue = some primary) :
    ∃ t p, R[k]? = some p ∧ primary = makeRecord .primary k t p := by
  rw [delayQueueFront_eq, h.waits, List.head?_drop] at hfront
  exact hconsistent.packet_of_pushed h.primary hfront

/-- The next packets of the feed fit what has been sent. -/
theorem Refilled.fits (h : Refilled T R a stats k n w) (hT : Feed T) (hfits : FitsInOrder T)
    (haccounted : Accounted w) {L : List PacketRecord} (hG : G <+: T.drop n)
    (hL : L.map PacketRecord.plain = G.map (makeRecord .primary 0 0)) :
    FitsInTurn w.engine.outputPidState L := by
  obtain ⟨rest, hrest⟩ := hG
  have hclean : ∀ r ∈ sentRecords w.trace, r.Clean :=
    clean_of_plain h.sent fun p hp => hT.clean p (List.mem_of_mem_take hp)
  have hturn : FitsInTurn (fun _ => ⟨false, 0⟩)
      ((T.take n ++ (G ++ rest)).map (makeRecord .primary 0 0)) := by
    rw [hrest, List.take_append_drop]
    exact hfits
  rw [List.map_append, List.map_append, fitsInTurn_append, fitsInTurn_append, ← h.sent, foldl_plain,
    foldl_observeOutputStates hclean, ← haccounted.folded, ← hL] at hturn
  exact fitsInTurn_plain.mp hturn.2.1

/-- The copy of a waiting content record is its only candidate, if no more than the burst limit is
missing before it. -/
theorem Refilled.candidate (h : Refilled T R a stats k n w) (hT : Feed T) (hR : R.Sublist T)
    (hconsistent : Consistent w) {t : ℕ} (hmem : makeRecord .primary k t p ∈ pushedRecords .primary w.trace)
    (hj : T[j]? = some p) (hnj : n ≤ j) (hcontent : p.info.isNull = false)
    (hburst : j - n ≤ w.engine.config.maxContentBurstPackets) :
    ∃ t', findSecondaryBoundaryMatches w.engine (makeRecord .primary k t p) =
      ⟨[makeRecord .secondary j t' p], false⟩ := by
  obtain ⟨hvalid, ⟨-, hlate⟩, hbefore, hlevel, -⟩ := h.anchor
  have hafter : w.engine.lastPrimaryAnchor.secondaryIndex < j := by omega
  obtain ⟨t', hfind⟩ := hconsistent.find_of_packet h.secondary (h.held .secondary) (by omega) hj
  have hclean := hT.clean_of_getElem? hj
  have hcopy : IsCandidate w.engine (makeRecord .primary k t p) (makeRecord .secondary j t' p) :=
    ⟨hfind, recordsExactNonErrorMatch_makeRecord.mpr ⟨hclean, hclean, rfl⟩⟩
  have hpart : (received .primary w.trace).Sublist (T.map (·.packet)) := by
    rw [h.primary]
    exact hR.map _
  have hstart : received .secondary w.trace <+: T.map (·.packet) := by rw [h.secondary]
  obtain ⟨place, hplaced⟩ := exists_placed hconsistent hpart
  have hwhole := placed_of_start hconsistent hstart
  have hone := hplaced.oneCopy hT hconsistent hwhole hmem hcontent
  refine ⟨t', findSecondaryBoundaryMatches_eq hone hcopy hcontent hclean hvalid hbefore hafter ?_⟩
  simp only [secondaryBetween, primaryBetween, makeRecord]
  omega

/-- What a release adds. -/
theorem Refilled.released (h : Refilled T R a stats k n w)
    (hfront : delayQueueFront w.engine.primaryQueue = some primary) {w₁ : World σ}
    {L : List PacketRecord} {B : List ParsedPacket} {P : List ParsedPacket}
    (hrelease : releasePrimary env primary w = (.next, finishRelease primary w w₁))
    (hsent : sentRecords w₁.trace = sentRecords w.trace ++ L)
    (hL : L.map PacketRecord.plain = G.map (makeRecord .primary 0 0))
    (hprimary : primary.plain = makeRecord .primary 0 0 p)
    (hT : T.drop n = G ++ p :: B) (hR : R.drop k = p :: P)
    (hgaps : GapRemoval w.engine.config.maxContentBurstPackets B P)
    (hanchor : AnchorBefore T R a (k + 1) (n + G.length + 1)
      (finishRelease primary w w₁).engine.lastPrimaryAnchor)
    (hincidents : (finishRelease primary w w₁).stats.incidents =
      (w.stats.recoveredPackets + G.length, w.stats.incidents.2)) :
    Refilled T R a stats (k + 1) (n + G.length + 1) (releasePrimary env primary w).2 := by
  have hframe := (releasePrimary_outcome env primary w).frame
  have hconsumes := release_consumes (releasePrimary_outcome env primary w) hfront
  rw [hrelease] at hframe hconsumes ⊢
  obtain ⟨hsame, -, ⟨-, hpop⟩ | ⟨hstop, -⟩⟩ := hframe
  swap
  · cases hstop
  have hreceived (s : StreamId) : received s (finishRelease primary w w₁).trace = received s w.trace :=
    congrArg (List.map PacketRecord.packet) (hconsumes.pushed s)
  have hdropT : T.drop (n + G.length + 1) = B := by
    rw [show n + G.length + 1 = n + (G.length + 1) by omega, ← List.drop_drop, hT, ← List.drop_drop,
      List.drop_left]
    rfl
  have hdropR : R.drop (k + 1) = P := by
    rw [← List.drop_drop, hR]
    rfl
  have htake : T.take (n + G.length + 1) = T.take n ++ (G ++ [p]) := by
    rw [show n + G.length + 1 = n + (G.length + 1) by omega, List.take_add, hT, List.take_append]
    simp
  refine ⟨hsame.activeOutputStreamId.trans h.active, (hreceived _).trans h.primary,
    (hreceived _).trans h.secondary, ?_, ?_, ?_, ?_, ?_, hanchor, ?_, ?_⟩
  · rw [hpop, toList_delayQueuePop, h.waits, hconsumes.pushed, List.tail_drop]
  · rw [finishRelease_sentRecords, hsent, htake, List.map_append, List.map_append, List.map_append,
      List.map_append, h.sent, hL, List.append_assoc, List.map_singleton, List.map_singleton, hprimary]
  · rw [hsame.config, hdropT, hdropR]
    exact hgaps
  · rw [hsame.config, hsame.alignment]
    exact h.confidence
  · rw [hsame.history]
    exact h.held
  · have hlengthT := congrArg List.length hT
    have hlengthR := congrArg List.length hR
    simp only [List.length_drop, List.length_append, List.length_cons] at hlengthT hlengthR
    omega
  · obtain ⟨hkn, hcount⟩ := h.incidents
    have hrecovered : w.stats.recoveredPackets = stats.recoveredPackets + (n - k) := congrArg Prod.fst hcount
    refine ⟨by omega, ?_⟩
    rw [hincidents, hrecovered, hcount]
    congr 1
    omega

/-- The packets between the anchor and the waiting record are the same on both inputs. -/
theorem Refilled.prefix_matches (h : Refilled T R a stats k n w) (hT : Feed T)
    (hconsistent : Consistent w) (hk : k ≤ R.length) {t : ℕ} :
    windowPrefixMatches (openRelease primary w).engine (makeRecord .primary k t p) = true := by
  obtain ⟨-, ⟨hlate, hlate'⟩, hbefore, hlevel, hsame⟩ := h.anchor
  refine prefixMatches_iff.mpr fun x hx => ?_
  have hx' : x < k - w.engine.lastPrimaryAnchor.primaryIndex - 1 := hx
  have hget : R[w.engine.lastPrimaryAnchor.primaryIndex + 1 + x]? =
      some R[w.engine.lastPrimaryAnchor.primaryIndex + 1 + x] := List.getElem?_eq_getElem (by omega)
  have hget' := hsame (1 + x) (by omega)
  rw [← Nat.add_assoc, hget, ← Nat.add_assoc] at hget'
  obtain ⟨t₁, hfind⟩ := hconsistent.find_of_packet h.primary (h.held .primary) (by omega) hget
  obtain ⟨t₂, hfind'⟩ := hconsistent.find_of_packet h.secondary (h.held .secondary) (by omega) hget'.symm
  have hclean := hT.clean_of_getElem? hget'.symm
  exact ⟨_, _, hfind, hfind', recordsExactNonErrorMatch_makeRecord.mpr ⟨hclean, hclean, rfl⟩⟩

/-- **A release without a gap before it.** -/
theorem Refilled.release_keep (h : Refilled T R a stats k n w) (hacc : env.Accepting) (hT : Feed T)
    (hfits : FitsInOrder T) (hR : R.Sublist T) (hreach : Reachable env config sinkState w)
    (hfront : delayQueueFront w.engine.primaryQueue = some primary) (hk : R.drop k = p :: P)
    (hn : T.drop n = p :: B) (hgaps : GapRemoval w.engine.config.maxContentBurstPackets B P) :
    Refilled T R a stats (k + 1) (n + 1) (releasePrimary env primary w).2 := by
  have hconsistent := reachable_consistent hreach
  have haccounted := reachable_accounted hreach
  have hmem : primary ∈ pushedRecords .primary w.trace := hconsistent.mem_of_front hfront
  have hRk : R[k]? = some p := by
    rw [← List.head?_drop, hk]
    rfl
  have hTn : T[n]? = some p := by
    rw [← List.head?_drop, hn]
    rfl
  have hclean := hT.clean_of_getElem? hTn
  obtain ⟨t, p', hp', rfl⟩ := h.front hconsistent hfront
  obtain rfl : p = p' := Option.some.inj (hRk.symm.trans hp')
  have hfit : recordFitsNextOutput w.engine (makeRecord .primary k t p) = true := by
    have hone : [p] <+: T.drop n := by
      rw [hn]
      exact List.prefix_append [p] B
    exact (h.fits hT hfits haccounted (L := [makeRecord .primary k t p]) hone rfl).1
  have hincidents {s : σ} : (finishRelease (makeRecord .primary k t p) w
      { openRelease (makeRecord .primary k t p) w with sinkState := s }).stats.incidents =
        w.stats.incidents := by
    rw [finishRelease_stats]
    exact acceptStats_incidents hfit w.stats
  have hsame : R[k]? = T[n]? := hRk.trans hTn.symm
  have hopen {s : σ} : sentRecords { openRelease (makeRecord .primary k t p) w with sinkState := s }.trace =
      sentRecords w.trace ++ [] := by
    rw [List.append_nil]
    exact congrArg (List.map Prod.snd) (openRelease_sameOutput _ w).sent
  cases hnull : p.info.isNull with
  | true =>
    have hnone : findSecondaryBoundaryMatches w.engine (makeRecord .primary k t p) = ⟨[], false⟩ :=
      findSecondaryBoundaryMatches_of_null hnull
    obtain ⟨s, hrelease⟩ := releasePrimary_quiet hacc hclean.1 hfit (by rw [hnone])
      (by simp [hnone])
    refine h.released hfront (L := []) (G := []) hrelease hopen rfl rfl hn hk hgaps ?_ hincidents
    rw [finishRelease_anchor_of_null hnull]
    exact h.anchor.keep hsame
  | false =>
    obtain ⟨t', hcandidate⟩ := h.candidate hT hR hconsistent hmem hTn le_rfl hnull (by omega)
    obtain ⟨-, -, hbefore, hlevel, -⟩ := h.anchor
    obtain ⟨s, hrelease⟩ := releasePrimary_quiet hacc hclean.1 hfit (by rw [hcandidate]) (by
      intro r hr
      rw [hcandidate] at hr
      obtain rfl := List.mem_singleton.mp hr
      apply validatePosition_quiet
      right
      show n - w.engine.lastPrimaryAnchor.secondaryIndex - 1 ≤ k - w.engine.lastPrimaryAnchor.primaryIndex - 1
      omega)
    refine h.released hfront (L := []) (G := []) hrelease hopen rfl rfl hn hk hgaps ?_ hincidents
    rw [finishRelease_anchor_of_candidate hcandidate (afterAnchorHolds_makeRecord hclean hnull)]
    have hlate := h.anchor.late
    exact anchorBefore_at (by omega) (by omega) hsame

/-- The evidence for the lost stretch. -/
theorem Refilled.evidence (h : Refilled T R a stats k n w) (hT : Feed T) (hfits : FitsInOrder T)
    (hreach : Reachable env config sinkState w) (hk : R.drop k = p :: P)
    (hn : T.drop n = G ++ p :: B) (hshort : G.length ≤ w.engine.config.maxContentBurstPackets)
    (hcontent : ∃ q ∈ G, q.info.isNull = false) (hnext : p.info.isNull = false) (t t' : ℕ) :
    ∃ L, L.map PacketRecord.plain = G.map (makeRecord .primary 0 0) ∧
      GapEvidence (openRelease primary w).engine (makeRecord .primary k t p)
        (makeRecord .secondary (n + G.length) t' p) .mixedPosition L := by
  have hconsistent := reachable_consistent hreach
  have hlength : G.length ≠ 0 := by
    obtain ⟨q, hq, -⟩ := hcontent
    exact List.length_pos_of_mem hq |>.ne'
  have hRk : R[k]? = some p := by
    rw [← List.head?_drop, hk]
    rfl
  have hkR := (List.getElem?_eq_some_iff.mp hRk).1
  have hp : p ∈ T := List.mem_of_mem_drop (i := n) (by rw [hn]; simp)
  have hclean := hT.clean p hp
  have hG : G <+: T.drop n := by
    rw [hn]
    exact List.prefix_append _ _
  obtain ⟨hvalid, ⟨hlate, hlate'⟩, hbefore, hlevel, hsame⟩ := h.anchor
  obtain ⟨L, hrange, hplain⟩ := hconsistent.exists_range h.secondary (h.held .secondary)
    (j := n) (by omega) hG
  have hlengths : L.length = G.length := by
    have hmapped := congrArg List.length hplain
    simpa using hmapped
  have hmissing : missingPackets (openRelease primary w).engine (makeRecord .primary k t p)
      (makeRecord .secondary (n + G.length) t' p) = G.length := by
    show n + G.length - w.engine.lastPrimaryAnchor.secondaryIndex - 1 -
      (k - w.engine.lastPrimaryAnchor.primaryIndex - 1) = G.length
    omega
  have hpair := (reachable_anchorSet hreach).1
  have hanchored (s : StreamId) {S : List ParsedPacket} {i : ℕ} (hS : received s w.trace = S.map (·.packet))
      (ha : a ≤ i) (hi : i < S.length) : packetHistoryFindIndex (w.engine.history s) i ≠ none := by
    obtain ⟨t, hfind⟩ := hconsistent.find_of_packet hS (h.held s) ha (List.getElem?_eq_getElem hi)
    rw [hfind]
    exact Option.some_ne_none _
  have hnT : n + G.length < T.length := by
    have hlengthT := congrArg List.length hn
    simp only [List.length_drop, List.length_append, List.length_cons] at hlengthT
    omega
  have hburst : L.length ≤ w.engine.config.maxContentBurstPackets := by omega
  have hbeforeHolds : beforeAnchorHolds w.engine = true :=
    beforeAnchorHolds_of_held hconsistent hpair hvalid (hanchored .primary h.primary hlate (by omega))
      (hanchored .secondary h.secondary hlate' (by omega))
  refine ⟨L, hplain, ?_, hburst, h.confidence, hbeforeHolds, afterAnchorHolds_makeRecord hclean hnext,
    clean_of_plain hplain fun q hq => hT.clean q (List.mem_of_mem_drop (hG.subset hq)), ?_⟩
  · refine noGapWindow_eq_false_iff.mpr ⟨hnext, hclean, hvalid, ?_, hbefore⟩
    show w.engine.lastPrimaryAnchor.secondaryIndex < n + G.length
    omega
  · refine .mixedPosition ?_ (h.prefix_matches hT hconsistent (by omega)) ?_ (hlengths.trans hmissing.symm)
      (content_of_plain hplain hcontent) ?_
    · show k - w.engine.lastPrimaryAnchor.primaryIndex - 1 <
        n + G.length - w.engine.lastPrimaryAnchor.secondaryIndex - 1
      omega
    · have hfirst : firstCandidateIndex (openRelease primary w).engine (makeRecord .primary k t p) = n := by
        show w.engine.lastPrimaryAnchor.secondaryIndex + (k - w.engine.lastPrimaryAnchor.primaryIndex - 1) +
          1 = n
        omega
      rw [hfirst]
      exact hrange
    · have hstretch : G ++ [p] <+: T.drop n := by
        rw [hn]
        exact ⟨B, by simp⟩
      refine h.fits hT hfits (reachable_accounted hreach) hstretch ?_
      rw [List.map_append, List.map_append, hplain]
      rfl

/-- **A release behind a gap.** -/
theorem Refilled.release_gap (h : Refilled T R a stats k n w) (hacc : env.Accepting) (hT : Feed T)
    (hfits : FitsInOrder T) (hR : R.Sublist T) (hreach : Reachable env config sinkState w)
    (hfront : delayQueueFront w.engine.primaryQueue = some primary) (hk : R.drop k = p :: P)
    (hn : T.drop n = G ++ p :: B) (hshort : G.length ≤ w.engine.config.maxContentBurstPackets)
    (hcontent : ∃ q ∈ G, q.info.isNull = false) (hnext : p.info.isNull = false)
    (hgaps : GapRemoval w.engine.config.maxContentBurstPackets B P) :
    Refilled T R a stats (k + 1) (n + G.length + 1) (releasePrimary env primary w).2 := by
  have hconsistent := reachable_consistent hreach
  have hmem : primary ∈ pushedRecords .primary w.trace := hconsistent.mem_of_front hfront
  have hRk : R[k]? = some p := by
    rw [← List.head?_drop, hk]
    rfl
  have hTn : T[n + G.length]? = some p := by
    rw [← List.getElem?_drop, hn, List.getElem?_append_right le_rfl, Nat.sub_self]
    rfl
  have hclean := hT.clean_of_getElem? hTn
  obtain ⟨t, p', hp', rfl⟩ := h.front hconsistent hfront
  obtain rfl : p = p' := Option.some.inj (hRk.symm.trans hp')
  obtain ⟨t', hcandidate⟩ := h.candidate hT hR hconsistent hmem hTn (by omega) hnext (by omega)
  obtain ⟨L, hplain, hevidence⟩ := h.evidence hT hfits hreach hk hn hshort hcontent hnext t t'
  obtain ⟨previousCc, decision, s, hrelease⟩ := releasePrimary_mixed hacc hclean.1 hcandidate hevidence
  have hlengths : L.length = G.length := by
    have hmapped := congrArg List.length hplain
    simpa using hmapped
  refine h.released hfront (L := L) hrelease ?_ hplain rfl hn hk hgaps ?_ ?_
  · simp only [gapBurst_trace, acceptAll_trace]
    obtain ⟨d, hd⟩ := gapLogged_trace (openRelease (makeRecord .primary k t p) w)
      (makeRecord .primary k t p) L.length previousCc decision
    rw [hd, sentRecords_append, sentRecords_map_sent, sentRecords_append]
    have hopen : sentRecords (openRelease (makeRecord .primary k t p) w).trace = sentRecords w.trace :=
      congrArg (List.map Prod.snd) (openRelease_sameOutput _ w).sent
    rw [hopen]
    exact congrArg (· ++ L) (List.append_nil _)
  · have hlate := h.anchor.late
    have hbefore := h.anchor.before
    have hlevel := h.anchor.level
    rw [finishRelease_anchor_of_candidate hcandidate (afterAnchorHolds_makeRecord hclean hnext)]
    exact anchorBefore_at (by omega) (by omega) (hRk.trans hTn.symm)
  · have hfit : FitsInTurn w.engine.outputPidState (L ++ [makeRecord .primary k t p]) := by
      cases hevidence.plan with
      | mixedPosition longer samePrefix range length content fits => exact fits
    rw [finishRelease_stats, ← hlengths]
    exact insertion_incidents (w := gapLogged (openRelease (makeRecord .primary k t p) w)
      (makeRecord .primary k t p) L.length previousCc decision) .mixedPosition L.length hfit hevidence.clean

/-- The way to the next release. -/
theorem Refilled.of_consumes (h : Refilled T R a stats k n w) (hconsumes : Consumes w w')
    (hactive : w'.engine.activeOutputStreamId = w.engine.activeOutputStreamId)
    (hanchor : w'.engine.lastPrimaryAnchor = w.engine.lastPrimaryAnchor)
    (hqueue : w'.engine.primaryQueue.toList = w.engine.primaryQueue.toList)
    (hsent : sentRecords w'.trace = sentRecords w.trace) (hstats : w'.stats = w.stats) :
    Refilled T R a stats k n w' := by
  have hreceived (s : StreamId) : received s w'.trace = received s w.trace :=
    congrArg (List.map PacketRecord.packet) (hconsumes.pushed s)
  refine ⟨hactive.trans h.active, (hreceived _).trans h.primary, (hreceived _).trans h.secondary, ?_, ?_,
    ?_, ?_, ?_, ?_, h.within, ?_⟩
  · rw [hqueue, hconsumes.pushed, h.waits]
  · rw [hsent, h.sent]
  · rw [hconsumes.config]
    exact h.gaps
  · rw [hconsumes.config, hconsumes.alignment]
    exact h.confidence
  · rw [hconsumes.history]
    exact h.held
  · rw [hanchor]
    exact h.anchor
  · rw [hstats]
    exact h.incidents

/-- **A release sends the gap before its record, and the record.** -/
theorem Refilled.release (h : Refilled T R a stats k n w) (hacc : env.Accepting) (hT : Feed T)
    (hfits : FitsInOrder T) (hR : R.Sublist T) (hreach : Reachable env config sinkState w)
    (hfront : delayQueueFront w.engine.primaryQueue = some primary) :
    ∃ n', Refilled T R a stats (k + 1) n' (releasePrimary env primary w).2 := by
  obtain ⟨t, p, hk, -⟩ := h.front (reachable_consistent hreach) hfront
  have hgaps := h.gaps
  generalize hB : T.drop n = B at hgaps
  generalize hP : R.drop k = P at hgaps
  cases hgaps with
  | nil =>
    rw [← List.head?_drop, hP] at hk
    cases hk
  | keep p rest => exact ⟨_, h.release_keep hacc hT hfits hR hreach hfront hP hB rest⟩
  | gap p short content next rest =>
    exact ⟨_, h.release_gap hacc hT hfits hR hreach hfront hP hB short content next rest⟩

/-- When the queue has run empty, everything has been sent. -/
theorem Refilled.complete (h : Refilled T R a stats k n w)
    (hempty : w.engine.primaryQueue.toList = []) :
    (sentRecords w.trace).map (·.packet) = T.map (·.packet) ∧
      w.stats.incidents = (stats.recoveredPackets + (T.length - R.length), stats.incidents.2) := by
  have hlength := congrArg List.length h.primary
  simp only [received, List.length_map] at hlength
  have hwaits := h.waits
  rw [hempty, eq_comm, List.drop_eq_nil_iff] at hwaits
  obtain ⟨hkR, hnT⟩ := h.within
  have hgaps := h.gaps
  rw [List.drop_eq_nil_of_le (by omega : R.length ≤ k)] at hgaps
  generalize hB : T.drop n = B at hgaps
  cases hgaps with
  | nil =>
    rw [List.drop_eq_nil_iff] at hB
    have hn : n = T.length := by omega
    have hk : k = R.length := by omega
    have hsent := h.sent
    rw [hn, List.take_length] at hsent
    have hincidents := h.incidents.2
    rw [hn, hk] at hincidents
    refine ⟨?_, hincidents⟩
    have hpackets := congrArg (List.map PacketRecord.packet) hsent
    rw [List.map_map, List.map_map] at hpackets
    exact hpackets

end Refilled

/-! ### The flush -/

/-- The last record of each input is found. -/
theorem InStep.held (h : InStep A w) (hconsistent : Consistent w) (s : StreamId) :
    ∃ r ∈ (w.engine.history s).toList, r.streamIndex = A.length - 1 := by
  obtain ⟨A', p, rfl, -⟩ := h.content
  have hlast : (A' ++ [p])[A'.length]? = some p := by simp
  obtain ⟨t, hpushed⟩ := hconsistent.pushed_of_packet (h.inputs s) hlast
  have hlength := congrArg List.length (h.inputs s)
  simp only [received, List.length_map, List.length_append, List.length_singleton] at hlength
  have hne : (w.engine.history s).toList ≠ [] := by
    apply hconsistent.latest s
    intro hnil
    rw [hnil] at hpushed
    cases hpushed
  obtain ⟨before, hbefore⟩ := hconsistent.history s
  have hend : (w.engine.history s).toList.getLast hne = makeRecord s A'.length t p := by
    have hgetLast := List.getLast?_eq_getElem? (l := pushedRecords s w.trace)
    rw [hlength, Nat.add_sub_cancel, hpushed, ← hbefore, List.getLast?_append_of_ne_nil _ hne,
      List.getLast?_eq_getLast_of_ne_nil hne] at hgetLast
    exact Option.some.inj hgetLast
  refine ⟨_, List.getLast_mem hne, ?_⟩
  rw [hend]
  simp [makeRecord]

section Flush

variable {ops : List Op}

/-- The state in which the flush begins. -/
theorem refilled_of_waits (hacc : env.Accepting) (hreach : Reachable env config sinkState w)
    (h : InStep A w) (hwaits : OnlyWaits w (run env w ops))
    (hprimary : pushedPackets .primary ops = P) (hsecondary : pushedPackets .secondary ops = B)
    (hgaps : GapRemoval w.engine.config.maxContentBurstPackets B P)
    (hconfidence : (run env w ops).engine.config.minAlignmentConfidence ≤
      (run env w ops).engine.alignment.confidence) :
    Refilled (A ++ B) (A ++ P) (A.length - 1) w.stats A.length A.length (run env w ops) := by
  have hconsistent := reachable_consistent hreach
  have hconsistent' := reachable_consistent (hreach.trans (run_stages env w ops))
  have hpending := pending_of_waits hreach h hwaits
  have hpushed : (pushedRecords .primary w.trace).length = A.length := by
    have hlength := congrArg List.length (h.inputs .primary)
    simpa [received] using hlength
  have hpos : 0 < A.length := by
    obtain ⟨A', p, rfl, -⟩ := h.content
    simp
  have hsent : sentRecords (run env w ops).trace = pushedRecords .primary w.trace :=
    hpending.sent.trans h.sent
  refine ⟨hpending.active, ?_, ?_, ?_, ?_, ?_, hconfidence, fun s => ?_, ?_, by simp, le_rfl, ?_⟩
  · rw [run_received, h.inputs, hprimary, List.map_append]
  · rw [run_received, h.inputs, hsecondary, List.map_append]
  · rw [← hpending.order, hsent, ← hpushed, List.drop_left]
  · rw [hsent, hconsistent.plain_eq (h.inputs .primary), List.take_left]
  · rw [List.drop_left, List.drop_left, hpending.config]
    exact hgaps
  · obtain ⟨r, hr, hindex⟩ := h.held hconsistent s
    have hfind := hconsistent'.find_of_mem (hwaits.held s r hr)
    rw [hindex] at hfind
    rw [hfind]
    exact Option.some_ne_none _
  · have hsame : (A ++ P)[A.length - 1]? = (A ++ B)[A.length - 1]? := by
      rw [List.getElem?_append_left (by omega), List.getElem?_append_left (by omega)]
    have hat := anchorBefore_at (le_refl (A.length - 1)) (le_refl (A.length - 1)) hsame
    rw [Nat.sub_add_cancel hpos] at hat
    rw [hpending.anchor, h.anchor]
    exact hat
  · rw [hpending.incidents, Nat.sub_self]
    rfl

/-- What the flush keeps. -/
theorem flush_refilled {w₁ : World σ} {a n : ℕ} {stats : ReportStats} (hacc : env.Accepting)
    (hreach : Reachable env config sinkState w₁) (hT : Feed T) (hfits : FitsInOrder T) (hR : R.Sublist T)
    (hturn : InTurn w₁) (h : Refilled T R a stats n n w₁)
    (hheard : ∀ ev ∈ (recoveryEngineDrain env true w₁).2.trace.drop w₁.trace.length, ev.heard = true) :
    ∃ k n, Refilled T R a stats k n (recoveryEngineDrain env true w₁).2 := by
  have hconsistent := reachable_consistent hreach
  refine (recoveryEngineDrain_rule
    (J := fun w => Reachable env config sinkState w ∧ ∃ k n, Refilled T R a stats k n w) hacc h.active
    (fun w ⟨_, _, _, hw⟩ => hw.active) ?_ ?_ ?_ ?_ hheard).2
  · rintro w ⟨hw, k, n, hrefilled⟩
    have hconsumes := Consumes.of_steps (.single ((consumes_drainSteps env).read w))
    exact ⟨hw.tail (.read w), k, n, hrefilled.of_consumes hconsumes rfl rfl rfl rfl rfl⟩
  · rintro w primary hfront ⟨hw, k, n, hrefilled⟩
    obtain ⟨n', hreleased⟩ := hrefilled.release hacc hT hfits hR hw hfront
    exact ⟨hw.tail (.release primary w hfront hrefilled.active), k + 1, n', hreleased⟩
  · intro hempty
    obtain ⟨start, he⟩ := openDrain_engine env w₁
    refine ⟨hreach.tail (.wait w₁ (.inl hempty)), n, n,
      h.of_consumes (openDrain_consumes env w₁) ?_ ?_ ?_ ?_ rfl⟩
    · rw [he]
    · rw [he]
    · rw [he]
    · rw [openDrain_trace, sentRecords_append]
      exact List.append_nil _
  · intro hnonempty
    have hready : drainReady env w₁ = true := drainReady_of_primary h.active
    have hkeeps : InTurn (discardDrain env w₁) :=
      discard_inTurn hconsistent (sentKnown_of_reachable hreach) hturn
    have hsent : sentRecords (discardDrain env w₁).trace = sentRecords w₁.trace := by
      rw [discardDrain_trace, sentRecords_append]
      exact List.append_nil _
    have hconsumes := discardDrain_consumes env w₁
    have hqueue : (discardDrain env w₁).engine.primaryQueue.toList = w₁.engine.primaryQueue.toList := by
      have horder := hkeeps.order
      rw [hsent, hconsumes.pushed, ← hturn.order] at horder
      exact List.append_cancel_left horder
    obtain ⟨start, ring, he, -⟩ := discardDrain_engine env w₁
    refine ⟨hreach.tail (.discard w₁ hnonempty hready), n, n,
      h.of_consumes hconsumes ?_ ?_ hqueue hsent rfl⟩
    · rw [he]
    · rw [he]

/-- **Lost content is recovered:** after both inputs have been in step, the secondary receives `B` and
the primary `B` with gaps; a flush then sends the whole feed and counts the lost packets as
recovered. -/
theorem content_gaps_recovered (hacc : env.Accepting) (hreach : Reachable env config sinkState w)
    (hT : Feed (A ++ B)) (hfits : FitsInOrder (A ++ B)) (h : InStep A w)
    (hgaps : GapRemoval w.engine.config.maxContentBurstPackets B P)
    (hprimary : pushedPackets .primary ops = P) (hsecondary : pushedPackets .secondary ops = B)
    (hwaits : OnlyWaits w (run env w ops))
    (hconfidence : (run env w ops).engine.config.minAlignmentConfidence ≤
      (run env w ops).engine.alignment.confidence)
    (hheard : ∀ ev ∈ (step env (run env w ops) .flush).trace.drop (run env w ops).trace.length,
      ev.heard = true) :
    let w' := step env (run env w ops) .flush
    (sentRecords w'.trace).map (·.packet) = (A ++ B).map (·.packet) ∧
      w'.stats.recoveredPackets = w.stats.recoveredPackets + (B.length - P.length) ∧
      w'.stats.unrecoverableLoss = w.stats.unrecoverableLoss ∧
      w'.stats.recoveryRejects = w.stats.recoveryRejects ∧
      w'.stats.outputContinuityErrors = w.stats.outputContinuityErrors ∧
      w'.stats.outputDuplicateCounters = w.stats.outputDuplicateCounters := by
  have hstart := refilled_of_waits hacc hreach h hwaits hprimary hsecondary hgaps hconfidence
  have hturn := (pending_of_waits hreach h hwaits).toInTurn
  have hreach' : Reachable env config sinkState (run env w ops) := hreach.trans (run_stages env w ops)
  have hR : (A ++ P).Sublist (A ++ B) := hgaps.sublist.append_left A
  obtain ⟨s, hflush⟩ := recoveryEngineFlush_world env (run env w ops)
  have hstep : step env (run env w ops) .flush =
      { (recoveryEngineDrain env true (run env w ops)).2 with sinkState := s } := hflush
  rw [hstep] at hheard ⊢
  obtain ⟨k, n, hend⟩ := flush_refilled hacc hreach' hT hfits hR hturn hstart hheard
  have hempty := recoveryEngineDrain_empties hacc (run env w ops) hturn.active
  obtain ⟨hsent, hincidents⟩ := hend.complete hempty
  simp only [ReportStats.incidents, Prod.mk.injEq] at hincidents
  obtain ⟨hrecovered, hloss, hrejects, herrors, hduplicates⟩ := hincidents
  refine ⟨hsent, ?_, hloss, hrejects, herrors, hduplicates⟩
  show (recoveryEngineDrain env true (run env w ops)).2.stats.recoveredPackets = _
  rw [hrecovered, List.length_append, List.length_append]
  omega

end Flush

/-! ### A run with two gaps -/

instance decidableOnlyWaits (w₀ w : World σ) : Decidable (OnlyWaits w₀ w) :=
  decidable_of_iff ((w.trace.drop w₀.trace.length).all Event.waits = true ∧
    (∀ r ∈ (w₀.engine.history .primary).toList, r ∈ (w.engine.history .primary).toList) ∧
    ∀ r ∈ (w₀.engine.history .secondary).toList, r ∈ (w.engine.history .secondary).toList)
    ⟨fun h => ⟨List.all_eq_true.mp h.1, fun s => by cases s; exacts [h.2.1, h.2.2]⟩,
      fun h => ⟨List.all_eq_true.mpr h.1, h.2 .primary, h.2 .secondary⟩⟩

/-- What both inputs receive at first. -/
def commonFeed : List ParsedPacket := [(pcrPacket 0x100 0 1).parse, (payloadPacket 0x100 1 1).parse]

/-- What the secondary receives then. -/
def laterFeed : List ParsedPacket :=
  [(payloadPacket 0x100 2 2).parse, nullPacket, (payloadPacket 0x101 5 3).parse, nullPacket,
    (payloadPacket 0x100 3 4).parse, (payloadPacket 0x100 4 5).parse]

/-- What the primary receives of it. -/
def brokenFeed : List ParsedPacket :=
  [(payloadPacket 0x101 5 3).parse, nullPacket, (payloadPacket 0x100 4 5).parse]

/-- Records wait until a flush. -/
def patientConfig : RecoveryEngineConfig := { promptConfig with primaryDelayNs := 5 }

/-- Both inputs have received the common feed, and the primary's copy has been sent. -/
def inStepWorld : World Unit :=
  run (scriptedEnv [] 1) (freshWorld patientConfig ())
    (commonFeed.map (.push .secondary) ++ commonFeed.map (.push .primary) ++ [.flush])

/-- The primary is ahead of the secondary. -/
def brokenOps : List Op := brokenFeed.map (.push .primary) ++ laterFeed.map (.push .secondary)

theorem inStepWorld_facts :
    (Feed (commonFeed ++ laterFeed) ∧ FitsInOrder (commonFeed ++ laterFeed)) ∧
      (inStepWorld.engine.activeOutputStreamId = .primary ∧
        received .primary inStepWorld.trace = commonFeed.map (·.packet) ∧
        received .secondary inStepWorld.trace = commonFeed.map (·.packet) ∧
        sentRecords inStepWorld.trace = pushedRecords .primary inStepWorld.trace ∧
        inStepWorld.engine.lastPrimaryAnchor = ⟨true, 1, 1⟩ ∧
        inStepWorld.engine.config.maxContentBurstPackets = 15) ∧
      OnlyWaits inStepWorld (run (scriptedEnv [] 1) inStepWorld brokenOps) ∧
      (run (scriptedEnv [] 1) inStepWorld brokenOps).engine.config.minAlignmentConfidence ≤
        (run (scriptedEnv [] 1) inStepWorld brokenOps).engine.alignment.confidence ∧
      ((step (scriptedEnv [] 1) (run (scriptedEnv [] 1) inStepWorld brokenOps) .flush).trace.drop
        (run (scriptedEnv [] 1) inStepWorld brokenOps).trace.length).all Event.heard = true := by
  decide +kernel

/-- The flush sends the three lost packets. -/
theorem content_gaps_recovered_brokenFeed :
    (sentRecords (step (scriptedEnv [] 1) (run (scriptedEnv [] 1) inStepWorld brokenOps) .flush).trace).map
        (·.packet) = (commonFeed ++ laterFeed).map (·.packet) ∧
      (step (scriptedEnv [] 1) (run (scriptedEnv [] 1) inStepWorld brokenOps) .flush).stats.recoveredPackets =
        inStepWorld.stats.recoveredPackets + 3 := by
  obtain ⟨⟨hT, hfits⟩, ⟨hactive, hprimary, hsecondary, hsent, hanchor, hburst⟩, hwaits, hconfidence,
    hheard⟩ := inStepWorld_facts
  have hinputs : ∀ s, received s inStepWorld.trace = commonFeed.map (·.packet) := by
    intro s
    cases s with
    | primary => exact hprimary
    | secondary => exact hsecondary
  have hlast : ∃ A' p, commonFeed = A' ++ [p] ∧ p.info.isNull = false :=
    ⟨[(pcrPacket 0x100 0 1).parse], (payloadPacket 0x100 1 1).parse, rfl, by decide +kernel⟩
  have hstep : InStep commonFeed inStepWorld := ⟨hactive, hinputs, hsent, hlast, hanchor⟩
  have hgaps : GapRemoval inStepWorld.engine.config.maxContentBurstPackets laterFeed brokenFeed := by
    rw [hburst]
    have hpackets : (payloadPacket 0x100 2 2).parse.info.isNull = false ∧
        (payloadPacket 0x101 5 3).parse.info.isNull = false ∧
        (payloadPacket 0x100 3 4).parse.info.isNull = false ∧
        (payloadPacket 0x100 4 5).parse.info.isNull = false := by decide +kernel
    obtain ⟨h2, h5, h3, h4⟩ := hpackets
    have hlast : GapRemoval 15 ([(payloadPacket 0x100 3 4).parse] ++ [(payloadPacket 0x100 4 5).parse])
        [(payloadPacket 0x100 4 5).parse] := .gap _ (by simp) ⟨_, List.mem_cons_self, h3⟩ h4 .nil
    exact .gap (G := [(payloadPacket 0x100 2 2).parse, nullPacket]) _ (by simp)
      ⟨_, List.mem_cons_self, h2⟩ h5 (.keep nullPacket hlast)
  have hreach : Reachable (scriptedEnv [] 1) patientConfig () inStepWorld := run_reachable _ _ _ _
  have hall := content_gaps_recovered (scriptedEnv_accepting _ _) hreach hT hfits hstep hgaps rfl rfl hwaits
    hconfidence (List.all_eq_true.mp hheard)
  have hcount := hall.2.1
  rw [show laterFeed.length - brokenFeed.length = 3 from rfl] at hcount
  exact ⟨hall.1, hcount⟩

end TwoStream
