import TwoStreamRecovery.LastSent
import TwoStreamRecovery.Places
import TwoStreamRecovery.PrimaryOutput

/-!
# Losses on the secondary alone

* `CompletePrimary`: the primary receives a feed from its start on, the secondary any part of it.
* `release_passes`: then each release sends its own record and nothing else.
* **`secondary_loss_harmless`**: what is sent is the feed, whatever the secondary has lost.
-/

namespace TwoStream

open Relation

variable {σ : Type} {env : Env σ} {w w' : World σ} {T : List ParsedPacket} {primary : PacketRecord}
  {config : RecoveryEngineConfig} {sinkState : σ}

/-- The primary receives `T` from its start on, the secondary a part of it; the output stays the
primary, whose queue does not overflow. -/
structure CompletePrimary (T : List ParsedPacket) (trace : List Event) : Prop where
  primary : received .primary trace <+: T.map (·.packet)
  secondary : (received .secondary trace).Sublist (T.map (·.packet))
  stays : StaysPrimary trace
  kept : .overflow .primary ∉ trace

/-- The primary's records have been sent or wait, and nothing was counted. -/
structure PassesOn (w : World σ) : Prop extends InTurn w where
  incidents : w.stats.incidents = reportStatsInit.incidents

theorem CompletePrimary.earlier {t t' : List Event} (h : t <+: t') (ht : CompletePrimary T t') :
    CompletePrimary T t where
  primary := (received_grow h .primary).trans ht.primary
  secondary := (received_grow h .secondary).sublist.trans ht.secondary
  stays := ht.stays.of_prefix h
  kept hmem := ht.kept (h.subset hmem)

/-! ### Releases -/

/-- Between an anchor and a copy the secondary has no more records than the primary. -/
theorem CompletePrimary.between (hT : Feed T) (h : CompletePrimary T w.trace)
    (hconsistent : Consistent w) (hmatches : AnchorMatches w) {m : PacketRecord}
    (hprimary : primary ∈ pushedRecords .primary w.trace) (hcontent : primary.isNull = false)
    (hm : IsCandidate w.engine primary m) (hwindow : noGapWindow w.engine primary m = false) :
    secondaryBetween w.engine m ≤ primaryBetween w.engine primary := by
  have hwhole := placed_of_start hconsistent h.primary
  obtain ⟨place, hpart⟩ := exists_placed hconsistent h.secondary
  have hwindow := noGapWindow_eq_false_iff.mp hwindow
  obtain ⟨a, b, ha, hb, hnull, hmatch⟩ := hmatches hwindow.2.2.1
  have hanchor := (hwhole.match_iff hT hpart ha hb hnull).mp hmatch
  have hcopy := hwhole.candidate_place hT hconsistent hpart hprimary hcontent hm
  have hbetween := hpart.between_le (Nat.le_of_lt hwindow.2.2.2.1)
  have hforward := hpart.mono hwindow.2.2.2.1
  simp only [id] at hanchor hcopy
  simp only [secondaryBetween, primaryBetween]
  omega

/-- A waiting record fits what has been sent. -/
theorem PassesOn.fits (hT : Feed T) (hfits : FitsInOrder T) (h : CompletePrimary T w.trace)
    (hreach : Reachable env config sinkState w) (hw : PassesOn w)
    (hfront : delayQueueFront w.engine.primaryQueue = some primary) :
    recordFitsNextOutput w.engine primary = true := by
  have hconsistent := reachable_consistent hreach
  have hwhole := placed_of_start hconsistent h.primary
  have hturn := hconsistent.fitsInTurn hfits h.primary
  rw [delayQueueFront_eq, List.head?_eq_some_iff] at hfront
  obtain ⟨rest, hqueue⟩ := hfront
  have horder := hw.order
  rw [hqueue] at horder
  have hclean : ∀ r ∈ sentRecords w.trace, r.Clean := by
    intro r hr
    have hmem : r ∈ pushedRecords .primary w.trace := by
      rw [← horder]
      exact List.mem_append_left _ hr
    exact hwhole.clean hT (hconsistent.getElem?_of_mem hmem)
  rw [← horder, fitsInTurn_append, foldl_observeOutputStates hclean,
    ← (reachable_accounted hreach).folded] at hturn
  exact hturn.2.1

/-- **A release sends its record and nothing else.** -/
theorem release_passes (hacc : env.Accepting) (hT : Feed T) (hfits : FitsInOrder T)
    (h : CompletePrimary T w.trace) (hreach : Reachable env config sinkState w) (hw : PassesOn w)
    (hfront : delayQueueFront w.engine.primaryQueue = some primary) :
    ∃ s, releasePrimary env primary w =
      (.next, finishRelease primary w { openRelease primary w with sinkState := s }) := by
  have hconsistent := reachable_consistent hreach
  have hmatches := (reachable_anchorSet hreach).1
  have hmem : primary ∈ pushedRecords .primary w.trace := hconsistent.mem_of_front hfront
  have hclean := (placed_of_start hconsistent h.primary).clean hT (hconsistent.getElem?_of_mem hmem)
  have hfit := hw.fits hT hfits h hreach hfront
  cases hnull : primary.isNull with
  | true =>
    have hnone : findSecondaryBoundaryMatches w.engine primary = ⟨[], false⟩ :=
      findSecondaryBoundaryMatches_of_null hnull
    apply releasePrimary_quiet hacc hclean.1 hfit
    · rw [hnone]
    · rw [hnone]
      intro r hr
      cases hr
  | false =>
    obtain ⟨place, hpart⟩ := exists_placed hconsistent h.secondary
    have hone := (placed_of_start hconsistent h.primary).oneCopy hT hconsistent hpart hmem hnull
    apply releasePrimary_quiet hacc hclean.1 hfit (findSecondaryBoundaryMatches_of_oneCopy hone).1
    intro r hr
    apply validatePosition_quiet
    show noGapWindow w.engine primary r = true ∨
      secondaryBetween w.engine r ≤ primaryBetween w.engine primary
    cases hwindow : noGapWindow w.engine primary r with
    | true => exact .inl rfl
    | false => exact .inr (h.between hT hconsistent hmatches hmem hnull (isCandidate_of_mem hr) hwindow)

/-! ### Stages -/

theorem Ingested.passesOn {streamId : StreamId} {p : ParsedPacket} (h : Ingested env streamId p w w')
    (hkept : .overflow .primary ∉ w'.trace) (hw : PassesOn w) : PassesOn w' := by
  obtain ⟨b, c, d, n, m, hs⟩ := h.stats
  refine ⟨h.inTurn (fun hmem => hkept (List.mem_of_mem_drop hmem)) hw.toInTurn, ?_⟩
  rw [hs]
  exact hw.incidents

theorem Idle.passesOn (h : Idle w w') (hw : PassesOn w) : PassesOn w' := by
  refine ⟨h.inTurn hw.toInTurn, ?_⟩
  rw [h.stats]
  exact hw.incidents

/-- A drain drops nothing. -/
theorem discard_passesOn (hreach : Reachable env config sinkState w)
    (hw : PassesOn w) : PassesOn (discardDrain env w) :=
  ⟨discard_inTurn (reachable_consistent hreach) (sentKnown_of_reachable hreach) hw.toInTurn,
    hw.incidents⟩

theorem release_passesOn (hacc : env.Accepting) (hT : Feed T) (hfits : FitsInOrder T)
    (h : CompletePrimary T w.trace) (hreach : Reachable env config sinkState w) (hw : PassesOn w)
    (hfront : delayQueueFront w.engine.primaryQueue = some primary) :
    PassesOn (releasePrimary env primary w).2 := by
  have hfit := hw.fits hT hfits h hreach hfront
  have hconsumes := release_consumes (releasePrimary_outcome env primary w) hfront
  have hframe := (releasePrimary_outcome env primary w).frame
  obtain ⟨s, hrelease⟩ := release_passes hacc hT hfits h hreach hw hfront
  rw [hrelease] at hconsumes hframe ⊢
  have hpop : (finishRelease primary w { openRelease primary w with sinkState := s }).engine.primaryQueue =
      delayQueuePop w.engine.primaryQueue := by
    rcases hframe.2.2 with ⟨-, hpop⟩ | ⟨hstop, -⟩
    · exact hpop
    · cases hstop
  refine ⟨⟨hframe.1.activeOutputStreamId.trans hw.active, ?_⟩, ?_⟩
  · have hopen : sentRecords (openRelease primary w).trace = sentRecords w.trace :=
      congrArg (List.map Prod.snd) (openRelease_sameOutput primary w).sent
    rw [delayQueueFront_eq, List.head?_eq_some_iff] at hfront
    obtain ⟨rest, hqueue⟩ := hfront
    rw [finishRelease_sentRecords, hconsumes.pushed .primary, hpop, toList_delayQueuePop, hqueue,
      ← hw.order, hqueue]
    simp [hopen]
  · rw [finishRelease_stats]
    exact (acceptStats_incidents hfit w.stats).trans hw.incidents

theorem Stage.passesOn (hacc : env.Accepting) (hT : Feed T) (hfits : FitsInOrder T)
    (h : Stage env w w') (hQ : CompletePrimary T w'.trace) (hreach : Reachable env config sinkState w)
    (hw : PassesOn w) : PassesOn w' := by
  have hbefore := hQ.earlier (Stage.trace_prefix (h : Stage env w _))
  cases h.onPrimary hw.active hQ.stays with
  | ingest streamId p => exact (pushIngest_ingested env streamId p w).passesOn hQ.kept hw
  | idle hidle => exact hidle.passesOn hw
  | discard => exact discard_passesOn hreach hw
  | release primary front => exact release_passesOn hacc hT hfits hbefore hreach hw front

/-! ### Runs -/

theorem reachable_passesOn (hacc : env.Accepting) (hT : Feed T) (hfits : FitsInOrder T)
    (hreach : Reachable env config sinkState w) (h : CompletePrimary T w.trace) : PassesOn w := by
  have hfresh : PassesOn (freshWorld config sinkState) := ⟨⟨rfl, rfl⟩, rfl⟩
  refine (bounded_stages (I := fun w => Reachable env config sinkState w ∧ PassesOn w)
    (fun t t' => CompletePrimary.earlier) hreach h (freshWorld_consistent config sinkState)
    ⟨.refl, hfresh⟩ ?_).2
  intro w w' hstage hQ hconsistent hw
  exact ⟨hw.1.tail hstage, hstage.passesOn hacc hT hfits hQ hw.1 hw.2⟩

/-- The primary receives `T`, the secondary a part of it, and the output stays the primary. -/
theorem completePrimary_of_run {ops : List Op} (hprimary : pushedPackets .primary ops = T)
    (hsecondary : (pushedPackets .secondary ops).Sublist T)
    (hstays : ∀ x ∈ switches (run env (freshWorld config sinkState) ops).trace, x.1 ≠ .secondary)
    (hkept : (run env (freshWorld config sinkState) ops).stats.primaryDelayOverflows = 0) :
    CompletePrimary T (run env (freshWorld config sinkState) ops).trace := by
  have hreceived (s : StreamId) : received s (run env (freshWorld config sinkState) ops).trace =
      (pushedPackets s ops).map (·.packet) := run_received env (freshWorld config sinkState) ops s
  refine ⟨?_, ?_, staysPrimary_of_switches hstays, ?_⟩
  · rw [hreceived, hprimary]
  · rw [hreceived]
    exact hsecondary.map _
  · exact (reachable_consistent (run_reachable env config sinkState ops)).overflows hkept

/-- **Losses on the secondary never change the output.** -/
theorem secondary_loss_harmless {ops : List Op} (hacc : env.Accepting) (hT : Feed T)
    (hfits : FitsInOrder T) (hprimary : pushedPackets .primary ops = T)
    (hsecondary : (pushedPackets .secondary ops).Sublist T)
    (hstays : ∀ x ∈ switches (run env (freshWorld config sinkState) ops).trace, x.1 ≠ .secondary)
    (hkept : (run env (freshWorld config sinkState) ops).stats.primaryDelayOverflows = 0) :
    (∀ pre, pre <+: ops →
      let w := run env (freshWorld config sinkState) pre
      (sentRecords w.trace).map (·.packet) <+: T.map (·.packet) ∧
        w.stats.recoveredPackets = 0 ∧ w.stats.unrecoverableLoss = 0 ∧
        (∀ reason, w.stats.recoveryRejects reason = 0) ∧
        w.stats.outputContinuityErrors = 0 ∧ w.stats.outputDuplicateCounters = 0) ∧
      ∀ pre, ops = pre ++ [.flush] →
        (sentRecords (run env (freshWorld config sinkState) ops).trace).map (·.packet) =
          T.map (·.packet) := by
  have hend := completePrimary_of_run hprimary hsecondary hstays hkept
  have hreach (pre : List Op) := run_reachable env config sinkState pre
  have hpasses (pre : List Op) (hpre : pre <+: ops) :
      CompletePrimary T (run env (freshWorld config sinkState) pre).trace ∧
        PassesOn (run env (freshWorld config sinkState) pre) := by
    obtain ⟨rest, rfl⟩ := hpre
    have hstages := run_stages env (run env (freshWorld config sinkState) pre) rest
    rw [show run env (run env (freshWorld config sinkState) pre) rest =
      run env (freshWorld config sinkState) (pre ++ rest) from (List.foldl_append ..).symm] at hstages
    have hgrows := trace_prefix (fun _ _ h => Stage.trace_prefix h) hstages
    have hearlier := hend.earlier hgrows
    exact ⟨hearlier, reachable_passesOn hacc hT hfits (hreach pre) hearlier⟩
  have hsent (pre : List Op) (hpre : pre <+: ops) :
      (sentRecords (run env (freshWorld config sinkState) pre).trace).map (·.packet) ++
        (run env (freshWorld config sinkState) pre).engine.primaryQueue.toList.map (·.packet) =
          received .primary (run env (freshWorld config sinkState) pre).trace := by
    rw [← List.map_append, (hpasses pre hpre).2.order]
    rfl
  constructor
  · intro pre hpre
    obtain ⟨hcomplete, hw⟩ := hpasses pre hpre
    have hincidents := hw.incidents
    simp only [ReportStats.incidents, Prod.mk.injEq] at hincidents
    obtain ⟨hrecovered, hloss, hrejects, herrors, hduplicates⟩ := hincidents
    refine ⟨?_, hrecovered, hloss, congrFun hrejects, herrors, hduplicates⟩
    exact (List.prefix_append _ _).trans (hsent pre hpre ▸ hcomplete.primary)
  · rintro pre rfl
    have hw := (hpasses pre (List.prefix_append _ _)).2
    have hempty := flush_empties hacc _ hw.active
    have hlast : run env (freshWorld config sinkState) (pre ++ [.flush]) =
        (recoveryEngineFlush env (run env (freshWorld config sinkState) pre)).2 := List.foldl_append ..
    have hall := hsent (pre ++ [.flush]) List.prefix_rfl
    rw [← hlast] at hempty
    rw [hempty, List.map_nil, List.append_nil] at hall
    rw [hall, run_received, hprimary]
    rfl

/-! ### A run with losses -/

/-- Content with a null packet. -/
def sparseFeed : List ParsedPacket :=
  [(pcrPacket 0x100 0 1).parse, (payloadPacket 0x100 1 1).parse, nullPacket,
    (payloadPacket 0x100 2 2).parse, (payloadPacket 0x101 5 3).parse, (payloadPacket 0x100 3 4).parse]

/-- The secondary misses the second and the fifth packet. -/
def sparseOps : List Op :=
  [.push .secondary (pcrPacket 0x100 0 1).parse, .push .primary (pcrPacket 0x100 0 1).parse,
    .push .primary (payloadPacket 0x100 1 1).parse, .push .secondary nullPacket,
    .push .secondary (payloadPacket 0x100 2 2).parse, .push .primary nullPacket,
    .push .primary (payloadPacket 0x100 2 2).parse, .drain false,
    .push .secondary (payloadPacket 0x100 3 4).parse, .push .primary (payloadPacket 0x101 5 3).parse,
    .push .primary (payloadPacket 0x100 3 4).parse, .flush]

theorem secondary_loss_harmless_sparseFeed :
    (sentRecords (run (scriptedEnv [] 1) (freshWorld promptConfig ()) sparseOps).trace).map (·.packet) =
      sparseFeed.map (·.packet) := by
  have hfacts : (Feed sparseFeed ∧ FitsInOrder sparseFeed ∧ pushedPackets .primary sparseOps = sparseFeed ∧
      (pushedPackets .secondary sparseOps).Sublist sparseFeed) ∧
    (∀ x ∈ switches (run (scriptedEnv [] 1) (freshWorld promptConfig ()) sparseOps).trace,
      x.1 ≠ .secondary) ∧
    (run (scriptedEnv [] 1) (freshWorld promptConfig ()) sparseOps).stats.primaryDelayOverflows = 0 := by
    decide +kernel
  obtain ⟨⟨hT, hfits, hprimary, hsecondary⟩, hstays, hkept⟩ := hfacts
  exact (secondary_loss_harmless (scriptedEnv_accepting _ _) hT hfits hprimary hsecondary hstays
    hkept).2 sparseOps.dropLast rfl

end TwoStream
