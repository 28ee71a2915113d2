import TwoStreamRecovery.LossDiagnosis
import TwoStreamRecovery.Lib.Losses

/-!
# The measured loss of the secondary (`observe_input_path_gap`)

* `gapLength`: what a packet adds to `secondary_missing_packets`; `run_gaps` adds it up over a run.
* `LagsBehind`: how the counters of the survivors of a feed lag behind those of the feed.
* **`secondary_loss_measured`**: where no run of losses is longer than 14, the counters tell how many
  packets of the feed were lost between two survivors, and in how many runs.
-/

namespace TwoStream

variable {σ : Type} {env : Env σ} {w w' : World σ} {feed : List (ParsedPacket × Bool)}
  {x : ParsedPacket × Bool} {streamId : StreamId} {p : ParsedPacket} {packets : List ParsedPacket}

/-! ### Gaps -/

/-- The packets that a counter misses after the previous one of its PID. -/
def gapLength (previous : Option ℕ) (cc : ℕ) : ℕ := previous.elim 0 fun c => (cc + 16 - c) % 16 - 1

/-- A break is a gap. -/
theorem breaksCounter_iff {cc : ℕ} (hcc : cc < 16) {previous : Option ℕ}
    (hprevious : ∀ c, previous = some c → c < 16) :
    breaksCounter cc true previous = true ↔ 0 < gapLength previous cc := by
  cases previous with
  | none => simp [breaksCounter, gapLength]
  | some c =>
    have hc := hprevious c rfl
    simp only [breaksCounter, gapLength, Option.elim_some, nextCc, Bool.and_eq_true, bne_iff_ne,
      Bool.not_eq_true', Bool.true_and, beq_eq_false_iff_ne, ne_eq]
    omega

/-- A record with payload is counted as the gap before it. -/
theorem observeInputPathGap_missing (w : World σ) {r : PacketRecord} (hpid : r.pid < 8192)
    (hclean : recordIsInformative r = true) (hpayload : r.hasPayload = true)
    (hcc : r.continuityCounter < 16)
    (hprevious : ∀ c, w.engine.inputCounterOf .secondary r.pid = some c → c < 16) :
    (observeInputPathGap w .secondary r).stats.secondaryMissingPackets =
      w.stats.secondaryMissingPackets +
        gapLength (w.engine.inputCounterOf .secondary r.pid) r.continuityCounter := by
  simp only [recordIsInformative, Bool.and_eq_true, Bool.not_eq_true'] at hclean
  simp only [observeInputPathGap, hclean, hpayload, decide_eq_false (Nat.not_le.mpr hpid),
    Bool.or_self, Bool.false_eq_true, reduceIte, decide_true, Bool.and_true]
  simp only [RecoveryEngine.inputCounterOf] at hprevious ⊢
  generalize w.engine.inputPidState .secondary r.pid = state at hprevious ⊢
  cases hvalid : state.valid with
  | false => simp [gapLength]
  | true =>
    have hc := hprevious state.continuityCounter (by simp [hvalid])
    simp only [inferMissingFromCc, hpayload, hclean, gapLength, nextCc, Bool.true_and, Bool.not_true,
      Bool.or_self, Bool.false_eq_true, reduceIte, Option.elim_some, Bool.and_eq_true, bne_iff_ne,
      Nat.mod_eq_of_lt hc]
    split
    · next hgap =>
      rw [if_neg (by omega)]
      rfl
    · next hgap =>
      have hnone : (r.continuityCounter + 16 - state.continuityCounter) % 16 - 1 = 0 := by
        simp only [ne_eq] at hgap
        omega
      rw [hnone]
      rfl

/-- The primary's records do not count. -/
theorem observeInputPathGap_primary (w : World σ) (r : PacketRecord) :
    (observeInputPathGap w .primary r).stats.secondaryMissingPackets =
      w.stats.secondaryMissingPackets := by
  simp only [observeInputPathGap]
  split
  · rfl
  · simp

/-! ### Runs -/

/-- The gaps before the packets of a list that follows `before`. -/
def gapsFrom (before : List ParsedPacket) : List ParsedPacket → List ℕ
  | [] => []
  | p :: rest =>
    gapLength (latestCounter before p.info.pid) p.info.continuityCounter ::
      gapsFrom (before ++ [p]) rest

theorem gapsFrom_concat (before packets : List ParsedPacket) (p : ParsedPacket) :
    gapsFrom before (packets ++ [p]) = gapsFrom before packets ++
      [gapLength (latestCounter (before ++ packets) p.info.pid) p.info.continuityCounter] := by
  induction packets generalizing before with
  | nil => simp [gapsFrom]
  | cons q packets ih =>
    rw [List.cons_append, gapsFrom, ih, gapsFrom, List.cons_append, List.append_assoc,
      List.singleton_append]

theorem latestCounter_lt {pid c : ℕ} (h : latestCounter packets pid = some c) : c < 16 := by
  rw [latestCounter, Option.map_eq_some_iff] at h
  obtain ⟨p, -, rfl⟩ := h
  exact p.continuityCounter_lt

/-- What the engine has counted and remembers of the secondary packets received so far. -/
structure CountsGaps (w : World σ) (packets : List ParsedPacket) : Prop where
  missing : w.stats.secondaryMissingPackets = (gapsFrom [] packets).sum
  events : w.stats.secondaryLossEvents = (gapsFrom [] packets).countP (0 < ·)
  counters : ∀ pid, w.engine.inputCounterOf .secondary pid = latestCounter packets pid

theorem CountsGaps.of_same (h : SameDiagnosis w w') (hw : CountsGaps w packets) :
    CountsGaps w' packets :=
  ⟨h.missing.trans hw.missing, h.events.trans hw.events,
    fun pid => (h.inputCounterOf .secondary pid).trans (hw.counters pid)⟩

theorem CountsGaps.consumes (h : Consumes w w') (hw : CountsGaps w packets) :
    CountsGaps w' packets :=
  hw.of_same ⟨congrArg (fun inputs => inputs.2.1) h.inputs,
    congrArg (fun inputs => inputs.2.2.1) h.inputs, h.inputPidState⟩

/-- A packet of the primary. -/
theorem CountsGaps.primary (hw : CountsGaps w packets) (p : ParsedPacket) :
    CountsGaps (recoveryEnginePushPacket env .primary p w).2 packets := by
  obtain ⟨w₁, hbefore, hafter⟩ := pushPacket_around env .primary p w
  obtain ⟨hevents, hcounters⟩ := pushPacket_diagnosis env .primary p w
  refine ⟨?_, ?_, fun pid => ?_⟩
  · rw [hafter.missing, observeInputPathGap_primary, hbefore.missing, hw.missing]
  · rw [hevents, if_neg (by simp), Nat.add_zero, hw.events]
  · rw [hcounters, if_neg (by simp), hw.counters]

/-- **A packet of the secondary** adds the gap before it. -/
theorem CountsGaps.secondary (hw : CountsGaps w packets) (hclean : p.info.isClean = true)
    (hpayload : p.info.hasPayload = true) :
    CountsGaps (recoveryEnginePushPacket env .secondary p w).2 (packets ++ [p]) := by
  obtain ⟨w₁, hbefore, hafter⟩ := pushPacket_around env .secondary p w
  obtain ⟨hevents, hcounters⟩ := pushPacket_diagnosis env .secondary p w
  have hprevious : ∀ c, latestCounter packets p.info.pid = some c → c < 16 := fun _ => latestCounter_lt
  refine ⟨?_, ?_, fun pid => ?_⟩
  · have hmissing := observeInputPathGap_missing w₁
      (r := makeRecord .secondary (w.engine.nextStreamIndex .secondary) (env.clock w.reads) p)
      p.pid_lt hclean hpayload p.continuityCounter_lt
    rw [hbefore.inputCounterOf, hw.counters] at hmissing
    rw [hafter.missing, hmissing hprevious, hbefore.missing, hw.missing, gapsFrom_concat,
      List.sum_append, List.sum_singleton]
    rfl
  · have hbreaks : p.info.breaks (latestCounter packets p.info.pid) = true ↔
        0 < gapLength (latestCounter packets p.info.pid) p.info.continuityCounter := by
      rw [TsPacketInfo.breaks, hpayload]
      exact breaksCounter_iff p.continuityCounter_lt hprevious
    rw [hevents, hw.counters, hw.events, gapsFrom_concat, List.countP_append, List.countP_singleton]
    simp only [hclean, hbreaks, true_and, List.nil_append, decide_eq_true_eq]
  · rw [hcounters, latestCounter_concat, hw.counters]
    simp only [hclean, true_and]

/-- **The counters of a run** add the gaps of the secondary packets up. -/
theorem run_gaps (env : Env σ) (config : RecoveryEngineConfig) (sinkState : σ) {ops : List Op}
    (hops : ∀ p ∈ secondaryPackets ops, p.info.isClean = true ∧ p.info.hasPayload = true) :
    CountsGaps (run env (freshWorld config sinkState) ops) (secondaryPackets ops) := by
  induction ops using List.reverseRecOn with
  | nil => exact ⟨rfl, rfl, fun pid => rfl⟩
  | append_singleton ops op ih =>
    have hconcat : secondaryPackets (ops ++ [op]) = secondaryPackets ops ++ secondaryPackets [op] :=
      List.filterMap_append
    have hrun : run env (freshWorld config sinkState) (ops ++ [op]) =
        step env (run env (freshWorld config sinkState) ops) op := by
      rw [run, List.foldl_append]
      rfl
    have hw := ih fun p hp => hops p (by rw [hconcat]; exact List.mem_append_left _ hp)
    rw [hrun, hconcat]
    cases op with
    | push streamId p =>
      cases streamId with
      | primary =>
        show CountsGaps _ (secondaryPackets ops ++ [])
        rw [List.append_nil]
        exact hw.primary p
      | secondary =>
        obtain ⟨hclean, hpayload⟩ := hops p (by
          rw [hconcat]
          exact List.mem_append_right _ List.mem_cons_self)
        exact hw.secondary hclean hpayload
    | drain force =>
      show CountsGaps _ (secondaryPackets ops ++ [])
      rw [List.append_nil]
      exact hw.consumes (recoveryEngineDrain_consumes env force _)
    | flush =>
      show CountsGaps _ (secondaryPackets ops ++ [])
      rw [List.append_nil]
      exact hw.consumes (recoveryEngineFlush_consumes env _)

/-! ### Feeds with losses -/

/-- The PIDs of a feed, and which packets have arrived. -/
def marks (feed : List (ParsedPacket × Bool)) : List (ℕ × Bool) :=
  feed.map fun x => (x.1.info.pid, x.2)

/-- The packets that have arrived. -/
def survivors (feed : List (ParsedPacket × Bool)) : List ParsedPacket :=
  (feed.filter (·.2)).map (·.1)

/-- A packet with payload and without flags, whose counter follows the latest one of its PID. -/
def steadyAt (before : List (ParsedPacket × Bool)) (x : ParsedPacket × Bool) : Prop :=
  x.1.info.isClean = true ∧ x.1.info.hasPayload = true ∧
    ∀ c ∈ latestCounter (before.map (·.1)) x.1.info.pid, x.1.info.continuityCounter = nextCc c

instance (before : List (ParsedPacket × Bool)) (x : ParsedPacket × Bool) :
    Decidable (steadyAt before x) := inferInstanceAs (Decidable (_ ∧ _))

/-- A packet that arrives after at most 14 lost ones of its PID. -/
def withinLimitAt (before : List (ParsedPacket × Bool)) (x : ParsedPacket × Bool) : Prop :=
  x.2 = true → pending (marks before) x.1.info.pid ≤ 14

instance (before : List (ParsedPacket × Bool)) (x : ParsedPacket × Bool) :
    Decidable (withinLimitAt before x) := inferInstanceAs (Decidable (_ → _))

theorem marks_concat (feed : List (ParsedPacket × Bool)) (x : ParsedPacket × Bool) :
    marks (feed ++ [x]) = marks feed ++ [(x.1.info.pid, x.2)] := by
  rw [marks, List.map_append]
  rfl

theorem survivors_concat (feed : List (ParsedPacket × Bool)) (x : ParsedPacket × Bool) :
    survivors (feed ++ [x]) = survivors feed ++ if x.2 then [x.1] else [] := by
  rw [survivors, List.filter_append, List.map_append, survivors]
  cases hx : x.2 <;> simp [hx]

/-- The latest survivor of a PID lags behind the feed by the packets that are pending. -/
structure LagsBehind (feed : List (ParsedPacket × Bool)) : Prop where
  lag : ∀ pid c, latestCounter (survivors feed) pid = some c →
    (pid, true) ∈ marks feed ∧
      latestCounter (feed.map (·.1)) pid = some ((c + pending (marks feed) pid) % 16)
  none : ∀ pid, latestCounter (survivors feed) pid = none → (pid, true) ∉ marks feed

theorem LagsBehind.arrived (hfeed : LagsBehind feed) (hx : x.2 = true) : LagsBehind (feed ++ [x]) := by
  have hcounter := x.1.continuityCounter_lt
  constructor
  · intro pid c hc
    rw [survivors_concat, if_pos hx, latestCounter_concat] at hc
    rw [marks_concat, hx, List.map_append, List.map_singleton, latestCounter_concat, pending_concat]
    by_cases hpid : pid = x.1.info.pid
    · rw [if_pos hpid] at hc
      obtain rfl := Option.some.inj hc
      refine ⟨by simp [hpid], ?_⟩
      rw [if_pos hpid, if_pos (by rw [hpid]), Nat.add_zero, Nat.mod_eq_of_lt hcounter]
    · rw [if_neg hpid] at hc
      obtain ⟨hmem, hlatest⟩ := hfeed.lag pid c hc
      refine ⟨List.mem_append_left _ hmem, ?_⟩
      rw [if_neg hpid, if_neg (by simpa using Ne.symm hpid), if_neg (by simp), Nat.add_zero, hlatest]
  · intro pid hnone
    rw [survivors_concat, if_pos hx, latestCounter_concat] at hnone
    split at hnone
    · cases hnone
    · next hpid =>
      rw [marks_concat, hx, List.mem_append, List.mem_singleton]
      rintro (hmem | heq)
      · exact hfeed.none pid hnone hmem
      · exact hpid (Prod.mk.inj heq).1

theorem LagsBehind.lost (hfeed : LagsBehind feed) (hsteady : steadyAt feed x) (hx : x.2 = false) :
    LagsBehind (feed ++ [x]) := by
  constructor
  · intro pid c hc
    rw [survivors_concat, hx, if_neg (by simp), List.append_nil] at hc
    obtain ⟨hmem, hlatest⟩ := hfeed.lag pid c hc
    rw [marks_concat, hx, List.map_append, List.map_singleton, latestCounter_concat, pending_concat]
    have hne : ¬ ((x.1.info.pid, false) = (pid, true)) := by simp
    refine ⟨List.mem_append_left _ hmem, ?_⟩
    by_cases hpid : pid = x.1.info.pid
    · subst hpid
      have hnext := hsteady.2.2 _ hlatest
      rw [if_neg hne, if_pos rfl, if_pos ⟨rfl, hmem⟩, hnext, nextCc]
      congr 1
      omega
    · have hother : ¬ ((x.1.info.pid, false) = (pid, false) ∧ (pid, true) ∈ marks feed) :=
        fun h => hpid (Prod.mk.inj h.1).1.symm
      rw [if_neg hne, if_neg hpid, if_neg hother, Nat.add_zero, hlatest]
  · intro pid hnone
    rw [survivors_concat, hx, if_neg (by simp), List.append_nil] at hnone
    rw [marks_concat, hx, List.mem_append, List.mem_singleton]
    rintro (hmem | heq)
    · exact hfeed.none pid hnone hmem
    · cases (Prod.mk.inj heq).2

/-- A survivor's gap is the number of packets that are pending. -/
theorem LagsBehind.gap (hfeed : LagsBehind feed) (hsteady : steadyAt feed x)
    (hlimit : pending (marks feed) x.1.info.pid ≤ 14) :
    gapLength (latestCounter (survivors feed) x.1.info.pid) x.1.info.continuityCounter =
      pending (marks feed) x.1.info.pid := by
  cases hlatest : latestCounter (survivors feed) x.1.info.pid with
  | none =>
    rw [pending_of_not_mem (hfeed.none _ hlatest)]
    rfl
  | some c =>
    have hc := latestCounter_lt hlatest
    have hnext := hsteady.2.2 _ (hfeed.lag _ c hlatest).2
    rw [nextCc] at hnext
    simp only [gapLength, Option.elim_some, hnext]
    omega

/-- **The gaps of the survivors** add up to the losses between them. -/
theorem gaps_survivors (hsteady : Along steadyAt feed) (hlimit : Along withinLimitAt feed) :
    LagsBehind feed ∧ (gapsFrom [] (survivors feed)).sum = lostBetween (marks feed) ∧
      (gapsFrom [] (survivors feed)).countP (0 < ·) = lostRuns (marks feed) := by
  induction feed using List.reverseRecOn with
  | nil =>
    have hempty : LagsBehind [] := by
      constructor
      · intro pid c hc
        cases hc
      · intro pid _ hmem
        cases hmem
    exact ⟨hempty, rfl, rfl⟩
  | append_singleton feed x ih =>
    obtain ⟨hsteady, hx⟩ := along_concat.mp hsteady
    obtain ⟨hlimit, hxlimit⟩ := along_concat.mp hlimit
    obtain ⟨hfeed, hsum, hcount⟩ := ih hsteady hlimit
    rw [marks_concat, lostBetween_concat, lostRuns_concat, survivors_concat]
    cases harrived : x.2 with
    | true =>
      have hgap := hfeed.gap hx (hxlimit harrived)
      refine ⟨hfeed.arrived harrived, ?_, ?_⟩
      · rw [if_pos rfl, gapsFrom_concat, List.sum_append, List.sum_singleton, hsum, List.nil_append,
          hgap, if_pos rfl]
      · rw [if_pos rfl, gapsFrom_concat, List.countP_append, List.countP_singleton, hcount,
          List.nil_append, hgap]
        simp only [decide_eq_true_eq, true_and]
    | false =>
      refine ⟨hfeed.lost hx harrived, ?_, ?_⟩
      · rw [if_neg (by simp), List.append_nil, hsum, if_neg (by simp), Nat.add_zero]
      · rw [if_neg (by simp), List.append_nil, hcount, if_neg (by simp), Nat.add_zero]

/-- **Secondary loss is measured exactly** up to the counter's limit. Let the secondary receive a part
of a steady feed, with at most 14 packets lost between two consecutive survivors of a PID. Whatever
the primary receives in between, the engine counts the packets lost between two survivors of their
PID, and the runs that they form. -/
theorem secondary_loss_measured (env : Env σ) (config : RecoveryEngineConfig) (sinkState : σ)
    (ops : List Op) (feed : List (ParsedPacket × Bool)) (hsteady : Along steadyAt feed)
    (hlimit : Along withinLimitAt feed) (hops : secondaryPackets ops = survivors feed) :
    (run env (freshWorld config sinkState) ops).stats.secondaryMissingPackets =
        lostBetween (marks feed) ∧
      (run env (freshWorld config sinkState) ops).stats.secondaryLossEvents =
        lostRuns (marks feed) := by
  have hclean : ∀ p ∈ secondaryPackets ops, p.info.isClean = true ∧ p.info.hasPayload = true := by
    intro p hp
    rw [hops, survivors, List.mem_map] at hp
    obtain ⟨x, hx, rfl⟩ := hp
    obtain ⟨before, after, hfeed⟩ := List.append_of_mem (List.mem_of_mem_filter hx)
    have hx := hsteady before x after hfeed
    exact ⟨hx.1, hx.2.1⟩
  have hrun := run_gaps env config sinkState hclean
  rw [hops] at hrun
  obtain ⟨-, hsum, hcount⟩ := gaps_survivors hsteady hlimit
  exact ⟨hrun.missing.trans hsum, hrun.events.trans hcount⟩

/-- Packets of two PIDs, of which four are lost. -/
def thinnedFeed : List (ParsedPacket × Bool) :=
  [((payloadPacket 0x100 14 0).parse, true), ((payloadPacket 0x101 3 1).parse, false),
    ((payloadPacket 0x100 15 2).parse, false), ((payloadPacket 0x100 0 3).parse, false),
    ((payloadPacket 0x101 4 4).parse, true), ((payloadPacket 0x100 1 5).parse, true),
    ((payloadPacket 0x101 5 6).parse, true), ((payloadPacket 0x100 2 7).parse, false)]

/-- Two of them lie between survivors, in one run. -/
theorem secondary_loss_measured_thinnedFeed :
    (run (scriptedEnv [] 1) (freshWorld promptConfig ())
          (.push .primary nullPacket :: (survivors thinnedFeed).map (.push .secondary))
        ).stats.secondaryMissingPackets = 2 ∧
      (run (scriptedEnv [] 1) (freshWorld promptConfig ())
          (.push .primary nullPacket :: (survivors thinnedFeed).map (.push .secondary))
        ).stats.secondaryLossEvents = 1 := by
  have hfacts : (Along steadyAt thinnedFeed ∧ Along withinLimitAt thinnedFeed) ∧
      secondaryPackets (.push .primary nullPacket :: (survivors thinnedFeed).map (.push .secondary)) =
        survivors thinnedFeed ∧
      lostBetween (marks thinnedFeed) = 2 ∧ lostRuns (marks thinnedFeed) = 1 := by
    decide +kernel
  obtain ⟨⟨hsteady, hlimit⟩, hops, hmissing, hruns⟩ := hfacts
  obtain ⟨hcounted, hevents⟩ := secondary_loss_measured (scriptedEnv [] 1) promptConfig ()
    (.push .primary nullPacket :: (survivors thinnedFeed).map (.push .secondary)) thinnedFeed hsteady
    hlimit hops
  exact ⟨hcounted.trans hmissing, hevents.trans hruns⟩

end TwoStream
