import TwoStreamRecovery.HoldOff

/-!
# Records that are sent twice

* `Insertable`: what a gap recovery would insert, told from the engine's state.
* `unsentAt`: the condition on a release or a failover under which it sends nothing again.
* `sent_once`: in a run that meets it, no record is sent twice.
-/

namespace TwoStream

open Relation

variable {σ : Type} {env : Env σ} {w w' : World σ}

/-! ### The condition -/

/-- The counters missing before the released record, as the exact recovery infers them. -/
def missingCounters (e : RecoveryEngine) (primary secondaryMatch : PacketRecord) : List ℕ :=
  match previousOutputCcForRecord e primary, ccMissingCount e primary secondaryMatch with
  | some previousCc, some n => (List.range n).map fun i => (previousCc + 1 + i) % 16
  | _, _ => []

/-- A record of the stretch before the after-anchor that a recovery of this kind would insert. -/
def Insertable (kind : GapKind) (e : RecoveryEngine) (primary secondaryMatch r : PacketRecord) : Prop :=
  gapFirstIndex kind e primary secondaryMatch ≤ r.streamIndex ∧
    r.streamIndex < secondaryMatch.streamIndex ∧
    (kind = .exactContent → r.isNull = false ∧ r.hasPayload = true ∧ r.pid = primary.pid ∧
      r.continuityCounter ∈ missingCounters e primary secondaryMatch)

instance (kind : GapKind) (e : RecoveryEngine) (primary secondaryMatch r : PacketRecord) :
    Decidable (Insertable kind e primary secondaryMatch r) := by
  unfold Insertable
  infer_instance

/-- The after-anchors on which some recovery would act. -/
def uniqueCandidates (e : RecoveryEngine) (primary : PacketRecord) : List (GapKind × PacketRecord) :=
  [.nullPosition, .mixedPosition, .exactContent].filterMap fun kind =>
    match (findSecondaryBoundaryMatches e primary).truncated, acceptedCandidates kind e primary with
    | false, [secondaryMatch] => some (kind, secondaryMatch)
    | _, _ => none

/-- A release inserts nothing that was sent, and replaces its record by nothing that was sent. -/
def ReleaseUnsent (sent : List PacketRecord) (e : RecoveryEngine) : Prop :=
  ∀ primary, delayQueueFront e.primaryQueue = some primary →
    (∀ x ∈ uniqueCandidates e primary, (x.1 = .nullPosition → primaryBetween e primary = 0) →
      ∀ r ∈ sent, r.sourceStreamId = .secondary → ¬ Insertable x.1 e primary x.2 r) ∧
    (primary.transportError = true →
      ∀ candidate, checkPrimaryTei e primary = .ok candidate → candidate ∉ sent)

/-- What was sent lies at or below the failover's cutoff. -/
def BacklogUnsent (sent : List PacketRecord) (e : RecoveryEngine) : Prop :=
  ∀ r ∈ e.secondaryQueue.toList, r ∈ sent → ∃ cutoff ∈ secondaryCutoff e, r.streamIndex ≤ cutoff

/-- The condition on the events of a run. -/
def unsentAt (pre : List Event) : Event → Prop
  | .release e => ReleaseUnsent (sentRecords pre) e
  | .failover _ e => BacklogUnsent (sentRecords pre) e
  | _ => True

instance (sent : List PacketRecord) (e : RecoveryEngine) : Decidable (ReleaseUnsent sent e) :=
  decidable_of_iff
    (∀ primary ∈ delayQueueFront e.primaryQueue,
      (∀ x ∈ uniqueCandidates e primary, (x.1 = .nullPosition → primaryBetween e primary = 0) →
        ∀ r ∈ sent, r.sourceStreamId = .secondary → ¬ Insertable x.1 e primary x.2 r) ∧
      (primary.transportError = true →
        ∀ candidate ∈ (checkPrimaryTei e primary).toOption, candidate ∉ sent)) (by
    have htei (primary : PacketRecord) : (∀ candidate,
        (checkPrimaryTei e primary).toOption = some candidate → candidate ∉ sent) ↔
        ∀ candidate, checkPrimaryTei e primary = .ok candidate →
          candidate ∉ sent := by
      cases checkPrimaryTei e primary <;> simp [Except.toOption]
    simp only [ReleaseUnsent, htei, Option.mem_def])

instance (sent : List PacketRecord) (e : RecoveryEngine) : Decidable (BacklogUnsent sent e) := by
  unfold BacklogUnsent
  infer_instance

instance : ∀ pre ev, Decidable (unsentAt pre ev)
  | pre, .release e => inferInstanceAs (Decidable (ReleaseUnsent (sentRecords pre) e))
  | pre, .failover _ e => inferInstanceAs (Decidable (BacklogUnsent (sentRecords pre) e))
  | _, .pushed _ => .isTrue trivial
  | _, .overflow _ => .isTrue trivial
  | _, .drain _ _ => .isTrue trivial
  | _, .switched _ _ _ => .isTrue trivial
  | _, .sent _ _ => .isTrue trivial
  | _, .anchored _ _ => .isTrue trivial
  | _, .decision _ => .isTrue trivial

theorem mem_uniqueCandidates {e : RecoveryEngine} {primary secondaryMatch : PacketRecord}
    {kind : GapKind} :
    (kind, secondaryMatch) ∈ uniqueCandidates e primary ↔
      UniqueCandidate e primary secondaryMatch kind := by
  have hfound (k : GapKind) :
      (match (findSecondaryBoundaryMatches e primary).truncated, acceptedCandidates k e primary with
        | false, [m] => some (k, m)
        | _, _ => none) = some (kind, secondaryMatch) ↔
      k = kind ∧ UniqueCandidate e primary secondaryMatch kind := by
    constructor
    · intro h
      split at h
      · next m hcomplete haccepted =>
        obtain ⟨rfl, rfl⟩ : k = kind ∧ m = secondaryMatch := by simpa using h
        exact ⟨rfl, hcomplete, haccepted⟩
      · cases h
    · rintro ⟨rfl, hcomplete, hunique⟩
      rw [hcomplete, hunique]
  rw [uniqueCandidates, List.mem_filterMap]
  constructor
  · rintro ⟨k, -, h⟩
    exact ((hfound k).mp h).2
  · intro h
    exact ⟨kind, by cases kind <;> simp, (hfound kind).mpr ⟨rfl, h⟩⟩

/-- What a recovery inserts is insertable. -/
theorem GapEvidence.insertable {e : RecoveryEngine} {primary secondaryMatch r : PacketRecord}
    {kind : GapKind} {L : List PacketRecord} (h : GapEvidence e primary secondaryMatch kind L)
    (hr : r ∈ L) : Insertable kind e primary secondaryMatch r := by
  obtain ⟨-, hfirst, hlast⟩ := h.found hr
  refine ⟨hfirst, hlast, fun hkind => ?_⟩
  subst hkind
  cases h.plan with
  | exactContent notShorter misfit previous count nonempty chosen fits =>
    obtain ⟨i, hi⟩ := List.getElem?_of_mem hr
    obtain ⟨hnull, hpid, hpayload, hcc⟩ := exact_counters h.window chosen hi
    refine ⟨hnull, hpayload, hpid, ?_⟩
    simp only [missingCounters, previous, count, List.mem_map, List.mem_range]
    exact ⟨i, (List.getElem?_eq_some_iff.mp hi).1, hcc.symm⟩

/-! ### Who sends what -/

/-- The stream a record of this route comes from. -/
def Route.stream : Route → StreamId
  | .passThrough => .primary
  | _ => .secondary

/-- The pushed records are pairwise different. -/
theorem Consistent.nodup (hw : Consistent w) (s : StreamId) : (pushedRecords s w.trace).Nodup := by
  refine List.Nodup.of_map (·.streamIndex) ?_
  rw [hw.indices]
  exact List.nodup_range

/-- Sent records are pushed records of the stream their route sends from, each sent once. -/
structure SentOnce (w : World σ) : Prop where
  pushed : ∀ x ∈ sentEvents w.trace, x.2 ∈ pushedRecords x.1.stream w.trace
  nodup : (sentRecords w.trace).Nodup

theorem Consistent.source_of_mem (hw : Consistent w) {s : StreamId} {r : PacketRecord}
    (h : r ∈ pushedRecords s w.trace) : r.sourceStreamId = s := by
  obtain ⟨t, p, hr⟩ := hw.isPush_of_mem h
  rw [hr]
  rfl

/-- Sending more records that were pushed and not sent. -/
theorem SentOnce.send {l : List Event} {new : List (Route × PacketRecord)} (hw : SentOnce w)
    (hsent : sentEvents w'.trace = sentEvents w.trace ++ new)
    (ht : w'.trace = w.trace ++ l)
    (hpushed : ∀ x ∈ new, x.2 ∈ pushedRecords x.1.stream w.trace)
    (hnodup : (new.map Prod.snd).Nodup)
    (hnew : ∀ x ∈ new, x.2 ∉ sentRecords w.trace) : SentOnce w' := by
  refine ⟨fun x hx => ?_, ?_⟩
  · rw [ht, pushedRecords_append]
    rw [hsent] at hx
    rcases List.mem_append.mp hx with hx | hx
    · exact List.mem_append_left _ (hw.pushed x hx)
    · exact List.mem_append_left _ (hpushed x hx)
  · rw [sentRecords, hsent, List.map_append]
    refine List.nodup_append.mpr ⟨hw.nodup, hnodup, fun a ha b hb hab => ?_⟩
    obtain ⟨x, hx, rfl⟩ := List.mem_map.mp hb
    exact hnew x hx (hab ▸ ha)

/-- A sent primary record has been sent from its queue. -/
theorem SentOnce.mem_queueSent (hconsistent : Consistent w) (hw : SentOnce w) {r : PacketRecord}
    (hr : r ∈ sentRecords w.trace) (hsource : r.sourceStreamId = .primary) :
    r ∈ queueSent .primary w.trace := by
  obtain ⟨⟨route, x⟩, hx, rfl⟩ := List.mem_map.mp hr
  have hstream := hconsistent.source_of_mem (hw.pushed _ hx)
  rw [queueSent, List.mem_filterMap]
  refine ⟨_, hx, if_pos ?_⟩
  cases route with
  | passThrough => rfl
  | _ => cases hstream.symm.trans hsource

/-- The front of the primary queue has not been sent. -/
theorem SentOnce.front_unsent (hconsistent : Consistent w) (hw : SentOnce w) {primary : PacketRecord}
    (hfront : delayQueueFront w.engine.primaryQueue = some primary) :
    primary ∉ sentRecords w.trace := by
  intro hmem
  have hpushed : primary ∈ pushedRecords .primary w.trace :=
    hconsistent.mem_of_front (s := .primary) hfront
  have hsent := hw.mem_queueSent hconsistent hmem (hconsistent.source_of_mem hpushed)
  have hnodup := (hconsistent.nodup .primary).sublist (hconsistent.order .primary)
  rw [delayQueueFront_eq] at hfront
  exact List.nodup_append.mp hnodup |>.2.2 primary hsent primary (List.mem_of_mem_head? hfront) rfl

/-! ### Steps -/

theorem release_sentOnce {primary : PacketRecord} (hacc : env.Accepting)
    (hfront : delayQueueFront w.engine.primaryQueue = some primary)
    (hunsent : ReleaseUnsent (sentRecords w.trace) (openRelease primary w).engine)
    (hconsistent : Consistent w) (hw : SentOnce w) :
    SentOnce (releasePrimary env primary w).2 := by
  obtain ⟨l, ht, -, hsends⟩ := (releasePrimary_outcome env primary w).sends hacc
  obtain ⟨hgap, htei⟩ := hunsent primary hfront
  have hself : primary ∉ sentRecords w.trace := hw.front_unsent hconsistent hfront
  have hpushed : primary ∈ pushedRecords .primary w.trace :=
    hconsistent.mem_of_front (s := .primary) hfront
  have hsent : sentEvents (releasePrimary env primary w).2.trace =
      sentEvents w.trace ++ sentEvents l := by
    have hrelease : sentEvents (Event.release (openRelease primary w).engine :: l) = sentEvents l := rfl
    rw [ht, sentEvents_append, hrelease]
  generalize sentEvents l = new at hsends hsent
  cases hsends with
  | @replaced candidate damaged check =>
    have hfind := (findAlignedSecondaryRecord_eq_some (checkPrimaryTei_eq_ok_iff.mp check).aligned).2.2
    refine hw.send hsent ht ?_ (by simp) ?_
    · simpa [Route.stream] using List.mem_of_getElem? (hconsistent.getElem?_of_find hfind)
    · simpa using htei damaged candidate check
  | alone => exact hw.send hsent ht (by simpa [Route.stream] using hpushed) (by simp) (by simpa using hself)
  | @inserted kind secondaryMatch L unique evidence adjacent =>
    have hfound : ∀ r ∈ L, r ∈ pushedRecords .secondary w.trace := fun r hr =>
      List.mem_of_getElem? (hconsistent.getElem?_of_find (evidence.found hr).1)
    have hsource : ∀ r ∈ L, r.sourceStreamId = .secondary := fun r hr =>
      hconsistent.source_of_mem (hfound r hr)
    have hmap : (gapSent kind primary secondaryMatch L).map Prod.snd = L := by
      rw [gapSent, List.map_map]
      exact List.map_id L
    refine hw.send hsent ht ?_ ?_ ?_
    · intro x hx
      rcases List.mem_append.mp hx with hx | hx
      · obtain ⟨r, hr, rfl⟩ := List.mem_map.mp hx
        exact hfound r hr
      · obtain rfl := List.mem_singleton.mp hx
        exact hpushed
    · rw [List.map_append, hmap]
      refine List.nodup_append.mpr ⟨.of_map _ evidence.nodup, by simp, fun a ha b hb hab => ?_⟩
      obtain rfl : b = primary := by simpa using hb
      have h1 := hsource a ha
      rw [hab, hconsistent.source_of_mem hpushed] at h1
      cases h1
    · intro x hx hmem
      rcases List.mem_append.mp hx with hx | hx
      · obtain ⟨r, hr, rfl⟩ := List.mem_map.mp hx
        exact hgap (kind, secondaryMatch) (mem_uniqueCandidates.mpr unique) adjacent r hmem (hsource r hr)
          (evidence.insertable hr)
      · obtain rfl := List.mem_singleton.mp hx
        exact hself hmem

/-- Nothing that waits in the secondary queue was sent. -/
def QueueUnsent (w : World σ) : Prop :=
  ∀ r ∈ w.engine.secondaryQueue.toList, r ∉ sentRecords w.trace

theorem SentOnce.of_same {l : List Event} (hw : SentOnce w) (ht : w'.trace = w.trace ++ l)
    (hnone : sentEvents l = []) : SentOnce w' := by
  have hsent : sentEvents w'.trace = sentEvents w.trace ++ [] := by rw [ht, sentEvents_append, hnone]
  exact hw.send hsent ht (by simp) (by simp) (by simp)

/-- Entering failover discards what was sent. -/
theorem enterFailover_unsent {nowNs : ℕ} (hunsent : BacklogUnsent (sentRecords w.trace) w.engine)
    (hconsistent : Consistent w) : QueueUnsent (enterFailover nowNs w) := by
  have hsent : sentRecords (enterFailover nowNs w).trace = sentRecords w.trace := by
    simp [enterFailover, World.log, sentRecords, sentEvents]
  intro r hr
  rw [hsent]
  intro hmem
  obtain ⟨ring, he, hsuffix⟩ := discardSecondary_engine w.engine
  have hqueue : r ∈ w.engine.secondaryQueue.toList := by
    simp only [enterFailover, he] at hr
    exact hsuffix.subset hr
  obtain ⟨cutoff, hcutoff, hle⟩ := hunsent r hqueue hmem
  have hring : r ∈ w.engine.secondaryQueue.toList.dropWhile
      fun r => decide (r.streamIndex ≤ cutoff) := by
    simp only [enterFailover, discardSecondaryRecordsAlreadyOutputByPrimary,
      Option.mem_def.mp hcutoff, discardSecondaryRecordsThrough, DelayQueue.toList,
      RingBuffer.toList_popWhile] at hr
    exact hr
  -- the queue is in order of the index, so the first record kept is above the cutoff
  have hsorted : w.engine.secondaryQueue.toList.Pairwise fun a b => a.streamIndex < b.streamIndex := by
    have hpushed : ((pushedRecords .secondary w.trace).map (·.streamIndex)).Pairwise (· < ·) := by
      rw [hconsistent.indices]
      exact List.pairwise_lt_range
    exact (List.pairwise_map.mp hpushed).sublist (hconsistent.queue .secondary).sublist
  have hpair := hsorted.sublist
    (List.dropWhile_suffix fun r => decide (r.streamIndex ≤ cutoff)).sublist
  cases hdrop : w.engine.secondaryQueue.toList.dropWhile
      (fun r => decide (r.streamIndex ≤ cutoff)) with
  | nil => simp [hdrop] at hring
  | cons first rest =>
    have hfirst := List.head?_dropWhile_not (fun r : PacketRecord => decide (r.streamIndex ≤ cutoff))
      w.engine.secondaryQueue.toList
    rw [hdrop] at hfirst hring hpair
    have hfirst : cutoff < first.streamIndex := by simpa using hfirst
    rcases List.mem_cons.mp hring with rfl | hrest
    · omega
    · have := List.rel_of_pairwise_cons hpair hrest
      omega

theorem failoverSent_sentOnce {r : PacketRecord} {s : σ}
    (hfront : delayQueueFront w.engine.secondaryQueue = some r) (hconsistent : Consistent w)
    (hqueue : QueueUnsent w) (hw : SentOnce w) :
    SentOnce (failoverSent env w r s) ∧ QueueUnsent (failoverSent env w r s) := by
  obtain ⟨l, ht, hl⟩ := setActiveOutputStream_trace env w .secondary
  have hnone : sentEvents l = [] := sentEvents_of_notes fun ev hev => by
    rcases hl with ⟨rfl, -⟩ | ⟨rfl, -⟩
    · simp at hev
    · obtain rfl := List.mem_singleton.mp hev
      trivial
  have htrace : (failoverSent env w r s).trace = w.trace ++ (l ++ [.sent .failover r]) := by
    rw [failoverSent_trace, ht, List.append_assoc]
  have hsent : sentEvents (failoverSent env w r s).trace = sentEvents w.trace ++ [(.failover, r)] := by
    rw [htrace, sentEvents_append, sentEvents_append, hnone]
    rfl
  have hpushed : r ∈ pushedRecords .secondary w.trace :=
    hconsistent.mem_of_front (s := .secondary) hfront
  rw [delayQueueFront_eq, List.head?_eq_some_iff] at hfront
  obtain ⟨rest, hrest⟩ := hfront
  have hunsent : r ∉ sentRecords w.trace := hqueue r (by rw [hrest]; simp)
  refine ⟨hw.send hsent htrace (by simpa [Route.stream] using hpushed) (by simp)
    (by simpa using hunsent), fun x hx => ?_⟩
  rw [failoverSent_engine] at hx
  simp only [toList_delayQueuePop, hrest, List.tail_cons] at hx
  have hnodup : (r :: rest).Nodup := by
    rw [← hrest]
    exact (hconsistent.nodup .secondary).sublist (hconsistent.queue .secondary).sublist
  rw [sentRecords, hsent, List.map_append, List.mem_append]
  rintro (hmem | hmem)
  · exact hqueue x (by rw [hrest]; simp [hx]) hmem
  · obtain rfl : x = r := by simpa using hmem
    exact (List.nodup_cons.mp hnodup).1 hx

theorem Stage.sentOnce (hacc : env.Accepting) (h : Stage env w w')
    (hunsent : Along unsentAt w'.trace) (hconsistent : Consistent w) (hw : SentOnce w) :
    SentOnce w' := by
  have hswitch (streamId : StreamId) (s : σ) (w₁ : World σ) (h₁ : SentOnce w₁) :
      SentOnce { setActiveOutputStream env w₁ streamId with sinkState := s } := by
    obtain ⟨l, ht, hl⟩ := setActiveOutputStream_trace env w₁ streamId
    refine h₁.of_same ht (sentEvents_of_notes fun ev hev => ?_)
    rcases hl with ⟨rfl, -⟩ | ⟨rfl, -⟩
    · simp at hev
    · obtain rfl := List.mem_singleton.mp hev
      trivial
  cases h with
  | ingest streamId p =>
    obtain ⟨l, ht, hl, -⟩ := (pushIngest_ingested env streamId p w).trace
    refine hw.of_same ht ?_
    rw [sentEvents_pushed]
    refine sentEvents_of_notes fun ev hev => ?_
    rcases hl ev hev with ⟨d, rfl⟩ | rfl <;> trivial
  | sink s => exact hw.of_same (l := []) (by simp) rfl
  | read => exact hw.of_same (l := []) (by simp [reportStatsNowNs]) rfl
  | wait _ idle => exact hw.of_same (openDrain_trace w) rfl
  | discard _ nonempty ready => exact hw.of_same (discardDrain_trace w) rfl
  | takeOver _ ready => exact hswitch .primary (setActiveOutputStream env w .primary).sinkState w hw
  | release primary _ front active =>
    obtain ⟨l, ht, -⟩ := (releasePrimary_outcome env primary w).trace
    have hhere : unsentAt w.trace (.release (openRelease primary w).engine) := hunsent _ _ _ ht
    exact release_sentOnce hacc front hhere hconsistent hw
  | failover force nowNs _ guard =>
    have hlogged := hunsent.of_prefix
      (failoverLoop_appends force (enterFailover nowNs w).engine.secondaryQueue.ring.count
        (enterFailover nowNs w))
    have hhere : BacklogUnsent (sentRecords w.trace) w.engine := (along_concat.mp hlogged).2
    refine (failoverLoop_rule (J := fun w => Consistent w ∧ SentOnce w ∧ QueueUnsent w) ?_ ?_ ?_ _ _
      ⟨(enterFailover_consumes nowNs w).consistent hconsistent,
        hw.of_same (l := [.failover nowNs w.engine]) rfl rfl,
        enterFailover_unsent hhere hconsistent⟩).2.1
    · rintro w₁ ⟨h1, h2, h3⟩
      exact ⟨(Stage.read w₁ : Stage env w₁ _).consistent h1,
        h2.of_same (l := []) (by simp [reportStatsNowNs]) rfl, h3⟩
    · rintro w₁ r s hfront ⟨h1, h2, h3⟩
      exact ⟨(failoverSent_consumes hfront).consistent h1, failoverSent_sentOnce hfront h1 h3 h2⟩
    · rintro w₁ s hrefuses -
      exact absurd hacc hrefuses

/-- **No record is sent twice** in a run with an accepting sink whose releases and failovers meet
`unsentAt`. -/
theorem sent_once {config : RecoveryEngineConfig} {sinkState : σ} {ops : List Op}
    (hacc : env.Accepting)
    (hunsent : Along unsentAt (run env (freshWorld config sinkState) ops).trace) :
    ((sentRecords (run env (freshWorld config sinkState) ops).trace).map
      fun r => (r.sourceStreamId, r.streamIndex)).Nodup := by
  have hreach := run_reachable env config sinkState ops
  have hsent : SentOnce (run env (freshWorld config sinkState) ops) :=
    hreach.guarded hunsent ⟨by simp [freshWorld], by simp [freshWorld, sentRecords]⟩
      fun _ _ hstage hp hconsistent hw => hstage.sentOnce hacc hp hconsistent hw
  have hconsistent := reachable_consistent hreach
  refine List.Nodup.map_on (fun a ha b hb hab => ?_) hsent.nodup
  obtain ⟨⟨s, a⟩, hx, rfl⟩ := List.mem_map.mp ha
  obtain ⟨⟨s', b⟩, hy, rfl⟩ := List.mem_map.mp hb
  -- a pushed record is told by its stream and its place there
  have h1 := hsent.pushed _ hx
  have h2 := hsent.pushed _ hy
  have hsource := hconsistent.source_of_mem h1
  have hsource' := hconsistent.source_of_mem h2
  simp only [Prod.mk.injEq] at hab hsource hsource'
  rw [← hsource', ← hab.1, hsource] at h2
  have hplace := hconsistent.getElem?_of_mem h1
  have hplace' := hconsistent.getElem?_of_mem h2
  simp only at hplace hplace'
  rw [hab.2, hplace'] at hplace
  exact (Option.some.inj hplace).symm

/-! ### A null packet that is sent twice -/

/-- The secondary sends a null packet during an outage; the next primary packet brings the output
back, with an anchor from before the outage. -/
def repeatedEnv : Env Unit :=
  scriptedEnv (.replicate 11 1 ++ .replicate 6 8 ++ [20, 20] ++ .replicate 3 21 ++ .replicate 3 22) 30

def repeatedConfig : RecoveryEngineConfig :=
  { promptConfig with primaryDelayNs := 5, primaryOutageNs := 10 }

def repeatedOps : List Op :=
  [.push .secondary nullPacket, .push .primary nullPacket,
    .push .secondary (pcrPacket 0x100 0 1).parse, .push .primary (pcrPacket 0x100 0 1).parse,
    .drain false, .push .secondary nullPacket, .drain false,
    .push .secondary (pcrPacket 0x100 3 4).parse, .push .primary (pcrPacket 0x100 3 4).parse,
    .drain false]

def repeatedWorld : World Unit := run repeatedEnv (freshWorld repeatedConfig ()) repeatedOps

theorem sent_twice :
    Monotone repeatedEnv.clock ∧
      (sentRecords repeatedWorld.trace).map (fun r => (r.sourceStreamId, r.streamIndex)) =
        [(.primary, 0), (.primary, 1), (.secondary, 2), (.secondary, 2), (.primary, 2)] ∧
      ¬ ((sentRecords repeatedWorld.trace).map fun r => (r.sourceStreamId, r.streamIndex)).Nodup := by
  have hsent : (sentRecords repeatedWorld.trace).map (fun r => (r.sourceStreamId, r.streamIndex)) =
      [(.primary, 0), (.primary, 1), (.secondary, 2), (.secondary, 2), (.primary, 2)] := by
    decide +kernel
  refine ⟨scriptedEnv_monotone (by decide), hsent, ?_⟩
  rw [hsent]
  decide

/-- An inserted burst is sent once. -/
theorem sent_once_burst :
    ((sentRecords (run (scriptedEnv [] 1) (freshWorld promptConfig ()) droppedOps).trace).map
      fun r => (r.sourceStreamId, r.streamIndex)).Nodup :=
  sent_once (scriptedEnv_accepting _ _) (by decide +kernel)

end TwoStream
