import TwoStreamRecovery.MainLoop

/-!
# The loop and its sink

* `Settles.runRounds`: until the sink refuses a record, the loop does what it does with the ideal sink.
* `FailStop sendto`: the datagrams sent are the accepted packets in order, seven in each, but for the
  last six at most; after a `sendto` that fails, none is called.
* **`runLoop_failStop`**: so it is in every run of the loop, however it ends.
* **`runLoop_stops_iff`**: the loop returns -1 exactly if the web server or the engine cannot be opened, or
  `select` or `recv` or `sendto` has failed.
-/

namespace TwoStream

variable {σ : Type} {env : Env σ} {J K : EmissionProp σ}

/-! ### Sinks that refuse nothing -/

section Accepting

theorem failoverLoop_accepting (hacc : env.Accepting) (force : Bool) (n : ℕ) (w : World σ) :
    (failoverLoop env force n w).1 = true := by
  induction n generalizing w with
  | zero => rfl
  | succ n ih =>
    unfold failoverLoop
    cases hfront : delayQueueFront w.engine.secondaryQueue with
    | none => rfl
    | some secondary =>
      obtain ⟨s, hsent⟩ := outputRecord_accepting hacc .failover
        (setActiveOutputStream env (reportStatsNowNs env w).2 .secondary) secondary
      simp only [hsent]
      split_ifs
      · rfl
      · rfl
      · exact ih _

theorem drainSecondary_accepting (hacc : env.Accepting) (force : Bool) (nowNs : ℕ) (w : World σ) :
    (drainSecondaryOnPrimaryOutage env force nowNs w).1 = true := by
  unfold drainSecondaryOnPrimaryOutage
  split_ifs
  · rfl
  · exact failoverLoop_accepting hacc force _ _

theorem drainTail_accepting (hacc : env.Accepting) (force : Bool) (w : World σ) :
    (drainTail env force w).1 = true := by
  unfold drainTail
  split_ifs
  · exact drainSecondary_accepting hacc force _ _
  · rfl

theorem drainLoop_accepting (hacc : env.Accepting) (force : Bool) (n : ℕ) (w : World σ)
    (hactive : w.engine.activeOutputStreamId = .primary) : (drainLoop env force n w).1 = true := by
  induction n generalizing w with
  | zero => exact drainTail_accepting hacc force w
  | succ n ih =>
    rw [drainLoop, drainIteration_of_primary force hactive]
    cases hfront : delayQueueFront w.engine.primaryQueue with
    | none => exact drainTail_accepting hacc force w
    | some primary =>
      simp only
      by_cases hdue : notYetDue force w.engine.primaryQueue primary (env.clock w.reads) = true
      · rw [if_pos hdue]
        exact drainTail_accepting hacc force _
      · rw [if_neg hdue]
        have hframe := (releasePrimary_outcome env primary (reportStatsNowNs env w).2).frame
        generalize releasePrimary env primary (reportStatsNowNs env w).2 = res at hframe
        obtain ⟨hsame, -, ⟨hnext, -⟩ | ⟨-, hrefuses, -⟩⟩ := hframe
        · obtain ⟨it, w'⟩ := res
          obtain rfl : it = .next := hnext
          exact ih w' (hsame.activeOutputStreamId.trans hactive)
        · exact absurd hacc hrefuses

/-- **With such a sink, no drain fails.** -/
theorem recoveryEngineDrain_accepting (hacc : env.Accepting) (force : Bool) (w : World σ) :
    (recoveryEngineDrain env force w).1 = true := by
  rw [recoveryEngineDrain_eq]
  split_ifs
  · rfl
  · exact drainSecondary_accepting hacc force _ _
  · exact drainSecondary_accepting hacc force _ _
  · rfl
  · exact drainSecondary_accepting hacc force _ _
  · exact drainLoop_accepting hacc force _ _ (setActiveOutputStream_active env _ _)

/-- A round in which `select` or `recv` fails. -/
def Round.Breaks : Round → Prop
  | .interrupted => False
  | .failed => True
  | .ready _ arrivals => ∃ streamId, arrivals streamId = .failure

theorem receivePackets_accepting (hacc : env.Accepting) (streamId : StreamId) (ps : List ParsedPacket)
    (s : Station σ) : (receivePackets env streamId ps s).1 = true := by
  induction ps generalizing s with
  | nil => rfl
  | cons p rest ih =>
    have htaken : pushTaken env streamId p s = true := recoveryEngineDrain_accepting hacc false _
    rw [receivePackets, if_pos htaken]
    exact ih _

theorem receiveInput_accepting (hacc : env.Accepting) (streamId : StreamId) {arrival : Arrival}
    (harrival : arrival ≠ .failure) (m : MainLoop σ) :
    (receiveInput env streamId arrival m).1 = true := by
  cases arrival with
  | nothing => rfl
  | failure => exact absurd rfl harrival
  | datagram bytes =>
    rw [receiveInput]
    split
    · rfl
    · obtain ⟨t, hprocess, -⟩ :=
        processDatagram_packets env streamId (receivedDatagram bytes) m.receiver
      rw [hprocess]
      exact receivePackets_accepting hacc streamId _ _

theorem andThen_eq_true {res : Bool × MainLoop σ} {next : MainLoop σ → Bool × MainLoop σ}
    (h : res.1 = true) (hnext : ∀ m, (next m).1 = true) : (andThen res next).1 = true := by
  rw [andThen, if_pos h]
  exact hnext res.2

theorem andThen_eq_false {res : Bool × MainLoop σ} {next : MainLoop σ → Bool × MainLoop σ}
    (h : res.1 = false ∨ ∀ m, (next m).1 = false) : (andThen res next).1 = false := by
  rcases res with ⟨_ | _, m⟩
  · rfl
  · rcases h with h | h
    · cases h
    · exact h m

theorem runRound_accepting (hacc : env.Accepting) (consoleReport : Bool) (m : MainLoop σ) {round : Round}
    (hround : ¬ round.Breaks) : (runRound env consoleReport m round).1 = true := by
  cases round with
  | interrupted => rfl
  | failed => exact absurd trivial hround
  | ready visits arrivals =>
    have harrivals (streamId : StreamId) : arrivals streamId ≠ .failure := fun h => hround ⟨streamId, h⟩
    refine andThen_eq_true (receiveInput_accepting hacc _ (harrivals _) _) fun m => ?_
    refine andThen_eq_true (receiveInput_accepting hacc _ (harrivals _) m) fun m => ?_
    exact andThen_eq_true (recoveryEngineDrain_accepting hacc false m.world) fun m => rfl

/-- Only a failure of `select` or `recv` ends the rounds. -/
theorem runRounds_accepting (hacc : env.Accepting) (consoleReport : Bool) {rounds : List Round}
    (hrounds : ∀ round ∈ rounds, ¬ round.Breaks) (m : MainLoop σ) :
    (runRounds env consoleReport rounds m).1 = true := by
  induction rounds generalizing m with
  | nil => rfl
  | cons round rest ih =>
    exact andThen_eq_true (runRound_accepting hacc consoleReport m (hrounds round List.mem_cons_self))
      (ih fun round hround => hrounds round (List.mem_cons_of_mem _ hround))

end Accepting

/-- Such a failure does end them. -/
theorem runRound_of_breaks {round : Round} (hround : round.Breaks) (consoleReport : Bool)
    (m : MainLoop σ) : (runRound env consoleReport m round).1 = false := by
  cases round with
  | interrupted => exact absurd hround id
  | failed => rfl
  | ready visits arrivals =>
    obtain ⟨streamId, harrival⟩ := hround
    have hfails (m : MainLoop σ) : (receiveInput env streamId (arrivals streamId) m).1 = false := by
      rw [harrival]
      rfl
    cases streamId with
    | primary => exact andThen_eq_false (.inl (hfails _))
    | secondary => exact andThen_eq_false (.inr fun m => andThen_eq_false (.inl (hfails m)))

theorem runRounds_of_breaks {rounds : List Round} (hrounds : ∃ round ∈ rounds, round.Breaks)
    (consoleReport : Bool) (m : MainLoop σ) : (runRounds env consoleReport rounds m).1 = false := by
  induction rounds generalizing m with
  | nil => simp at hrounds
  | cons round rest ih =>
    obtain ⟨round', hmem, hbreaks⟩ := hrounds
    rcases List.mem_cons.mp hmem with rfl | hmem
    · exact andThen_eq_false (.inl (runRound_of_breaks hbreaks consoleReport m))
    · exact andThen_eq_false (.inr (ih ⟨round', hmem, hbreaks⟩))

/-! ### The loop without its sink -/

def Station.forget (s : Station σ) : Station Unit := ⟨s.world.forget, s.reception⟩

/-- The variables without the sink, and with other counters of the datagrams. -/
def MainLoop.forget (framing : FramingStats) (m : MainLoop σ) : MainLoop Unit :=
  ⟨⟨m.station.forget, framing⟩, m.lastReportNs, m.webEnabled⟩

/-- What receiving leaves behind. -/
def SettledStation (J K : EmissionProp σ) : Bool × Station σ → Bool × Station Unit → Prop
  | (true, s), res => res = (true, s.forget) ∧ J s.world.emission
  | (false, s), res => res = (false, s.forget) ∧ J s.world.emission ∨ K s.world.emission

/-- What a part of the loop leaves behind. -/
def SettledLoop (J K : EmissionProp σ) : Bool × MainLoop σ → Bool × MainLoop Unit → Prop
  | (true, m), res => (∃ framing, res = (true, m.forget framing)) ∧ J m.world.emission
  | (false, m), res => (∃ framing, res = (false, m.forget framing)) ∧ J m.world.emission ∨
      K m.world.emission

section Settles

variable {m : MainLoop σ} {framing : FramingStats}

theorem Settles.receivePacket (hJ : Settles env J K) (streamId : StreamId) (p : ParsedPacket)
    (s : Station σ) (hs : J s.world.emission) :
    SettledStation J K (pushTaken env streamId p s, TwoStream.receivePacket env streamId p s)
      (pushTaken env.ideal streamId p s.forget,
        TwoStream.receivePacket env.ideal streamId p s.forget) := by
  have hpush := hJ.push streamId p (reportStatsNowNs env s.world).2 hs
  have hreceive {τ : Type} (env : Env τ) (s : Station τ) :
      TwoStream.receivePacket env streamId p s =
        ⟨(recoveryEnginePushPacket env streamId p (reportStatsNowNs env s.world).2).2,
          reportStatsObservePacket (env.clock s.world.reads) s.reception streamId p.info⟩ := rfl
  have hread : (reportStatsNowNs env.ideal s.forget.world).2 = (reportStatsNowNs env s.world).2.forget :=
    rfl
  rw [hreceive, hreceive, pushTaken, pushTaken, hread]
  generalize recoveryEnginePushPacket env streamId p _ = res at hpush ⊢
  rcases res with ⟨_ | _, w'⟩
  · obtain ⟨hideal, hkept⟩ | hrefused := hpush
    · rw [hideal]
      exact .inl ⟨rfl, hkept⟩
    · exact .inr hrefused
  · obtain ⟨hideal, hkept⟩ := hpush
    rw [hideal]
    exact ⟨rfl, hkept⟩

theorem Settles.receivePackets (hJ : Settles env J K) (streamId : StreamId) (ps : List ParsedPacket)
    (s : Station σ) (hs : J s.world.emission) :
    SettledStation J K (receivePackets env streamId ps s)
      (receivePackets env.ideal streamId ps s.forget) := by
  induction ps generalizing s with
  | nil => exact ⟨rfl, hs⟩
  | cons p rest ih =>
    have hfirst := hJ.receivePacket streamId p s hs
    rw [TwoStream.receivePackets, TwoStream.receivePackets]
    generalize TwoStream.receivePacket env streamId p s = s' at hfirst ⊢
    generalize TwoStream.receivePacket env.ideal streamId p s.forget = s'' at hfirst ⊢
    cases htaken : pushTaken env streamId p s with
    | false =>
      rw [htaken] at hfirst
      obtain ⟨hideal, hkept⟩ | hrefused := hfirst
      · obtain ⟨hfails, rfl⟩ := Prod.mk.inj hideal
        rw [hfails]
        exact .inl ⟨rfl, hkept⟩
      · exact .inr hrefused
    | true =>
      rw [htaken] at hfirst
      obtain ⟨hideal, hkept⟩ := hfirst
      obtain ⟨htakes, rfl⟩ := Prod.mk.inj hideal
      rw [htakes]
      exact ih s' hkept

theorem Settles.receiveInput (hJ : Settles env J K) (streamId : StreamId) (arrival : Arrival)
    (hm : J m.world.emission) :
    SettledLoop J K (receiveInput env streamId arrival m)
      (receiveInput env.ideal streamId arrival (m.forget framing)) := by
  cases arrival with
  | nothing => exact ⟨⟨framing, rfl⟩, hm⟩
  | failure => exact .inl ⟨⟨framing, rfl⟩, hm⟩
  | datagram bytes =>
    rw [TwoStream.receiveInput, TwoStream.receiveInput]
    by_cases hempty : bytes = []
    · rw [if_pos hempty, if_pos hempty]
      exact ⟨⟨framing, rfl⟩, hm⟩
    · rw [if_neg hempty, if_neg hempty]
      have hpackets := hJ.receivePackets streamId (receivedDatagram bytes).packets m.station hm
      obtain ⟨t, hprocess, hstation⟩ :=
        processDatagram_packets env streamId (receivedDatagram bytes) m.receiver
      obtain ⟨t', hprocess', hstation'⟩ :=
        processDatagram_packets env.ideal streamId (receivedDatagram bytes) (m.forget framing).receiver
      rw [hprocess, hprocess', Option.elim_some, Option.elim_some]
      rcases t with ⟨⟨s, framing₁⟩, offset, parsed, passed⟩
      rcases t' with ⟨⟨s', framing₂⟩, offset', parsed', passed'⟩
      obtain rfl : s = _ := hstation
      obtain rfl : s' = _ := hstation'
      rw [show (m.forget framing).receiver.station = m.station.forget from rfl]
      generalize TwoStream.receivePackets env streamId _ m.station = res at hpackets
      rcases res with ⟨_ | _, s⟩
      · obtain ⟨hideal, hkept⟩ | hrefused := hpackets
        · rw [hideal]
          exact .inl ⟨⟨framing₂, rfl⟩, hkept⟩
        · exact .inr hrefused
      · obtain ⟨hideal, hkept⟩ := hpackets
        rw [hideal]
        exact ⟨⟨framing₂, rfl⟩, hkept⟩

theorem reportStatsMaybePrint_forget (force : Bool) (m : MainLoop σ) :
    reportStatsMaybePrint env.ideal force (m.forget framing) =
      (reportStatsMaybePrint env force m).forget framing := by
  simp only [reportStatsMaybePrint]
  rw [apply_ite (MainLoop.forget framing)]
  rfl

theorem reportStatsMaybePrint_emission (force : Bool) (m : MainLoop σ) :
    (reportStatsMaybePrint env force m).world.emission = m.world.emission := by
  simp only [reportStatsMaybePrint]
  split_ifs <;> rfl

theorem reportRound_forget (consoleReport : Bool) (m : MainLoop σ) :
    reportRound env.ideal consoleReport (m.forget framing) =
      (reportRound env consoleReport m).forget framing := by
  have hread : (m.forget framing).readClock env.ideal = (m.readClock env).forget framing := rfl
  rw [reportRound, reportRound, hread]
  split_ifs
  · exact reportStatsMaybePrint_forget false _
  · rfl

theorem reportRound_emission (consoleReport : Bool) (m : MainLoop σ) :
    (reportRound env consoleReport m).world.emission = m.world.emission := by
  rw [reportRound]
  split_ifs
  · exact reportStatsMaybePrint_emission false _
  · rfl

/-- The web server's part of a round does not touch the sink. -/
theorem handleVisits_forget (visits : Option Visits) (m : MainLoop σ) :
    handleVisits env.ideal visits (m.forget framing) = (handleVisits env visits m).forget framing ∧
      (handleVisits env visits m).world.emission = m.world.emission := by
  have hclients (clients : List Client) (m : MainLoop σ) :
      clients.foldl (handleVisit env.ideal) (m.forget framing) =
          (clients.foldl (handleVisit env) m).forget framing ∧
        (clients.foldl (handleVisit env) m).world.emission = m.world.emission := by
    induction clients generalizing m with
    | nil => exact ⟨rfl, rfl⟩
    | cons c rest ih =>
      have hvisit : handleVisit env.ideal (m.forget framing) c = (handleVisit env m c).forget framing ∧
          (handleVisit env m c).world.emission = m.world.emission := by
        rw [handleVisit, handleVisit]
        split_ifs <;> exact ⟨rfl, rfl⟩
      obtain ⟨hideal, hsame⟩ := ih (handleVisit env m c)
      rw [List.foldl_cons, List.foldl_cons, hvisit.1]
      exact ⟨hideal, hsame.trans hvisit.2⟩
  cases visits with
  | none => exact ⟨rfl, rfl⟩
  | some visits =>
    obtain ⟨hideal, hsame⟩ := hclients visits.clients m
    have hweb : (m.forget framing).webEnabled = m.webEnabled := rfl
    simp only [handleVisits, webServerHandleReady, hweb, hideal]
    split_ifs
    · exact ⟨rfl, hsame⟩
    · exact ⟨rfl, hsame⟩
    · exact ⟨rfl, rfl⟩

theorem SettledLoop.andThen {res : Bool × MainLoop σ} {res' : Bool × MainLoop Unit}
    {next : MainLoop σ → Bool × MainLoop σ} {next' : MainLoop Unit → Bool × MainLoop Unit}
    (h : SettledLoop J K res res')
    (hnext : ∀ m framing, J m.world.emission →
      SettledLoop J K (next m) (next' (m.forget framing))) :
    SettledLoop J K (andThen res next) (andThen res' next') := by
  rcases res with ⟨_ | _, m⟩
  · obtain ⟨⟨framing, rfl⟩, hkept⟩ | hrefused := h
    · exact .inl ⟨⟨framing, rfl⟩, hkept⟩
    · exact .inr hrefused
  · obtain ⟨⟨framing, rfl⟩, hkept⟩ := h
    exact hnext m framing hkept

/-- What every send keeps, receiving keeps. -/
theorem Kept.receiveInput (hJ : Kept env J) (streamId : StreamId) (arrival : Arrival)
    (hm : J m.world.emission) : J (receiveInput env streamId arrival m).2.world.emission := by
  have hsettled : SettledLoop J J _ (TwoStream.receiveInput env.ideal streamId arrival
      (m.forget framingStatsInit)) := hJ.settles.receiveInput streamId arrival hm
  generalize TwoStream.receiveInput env streamId arrival m = res at hsettled ⊢
  rcases res with ⟨_ | _, m'⟩
  · obtain ⟨-, hkept⟩ | hkept := hsettled
    · exact hkept
    · exact hkept
  · exact hsettled.2

theorem Settles.drainRound (hJ : Settles env J K) (hm : J m.world.emission) :
    SettledLoop J K (drainRound env m) (drainRound env.ideal (m.forget framing)) := by
  have hdrain := hJ.drain false m.world hm
  rw [TwoStream.drainRound, TwoStream.drainRound,
    show (m.forget framing).world = m.world.forget from rfl]
  generalize recoveryEngineDrain env false m.world = res at hdrain ⊢
  rcases res with ⟨_ | _, w'⟩
  · obtain ⟨hideal, hkept⟩ | hrefused := hdrain
    · rw [hideal]
      exact .inl ⟨⟨framing, rfl⟩, hkept⟩
    · exact .inr hrefused
  · obtain ⟨hideal, hkept⟩ := hdrain
    rw [hideal]
    exact ⟨⟨framing, rfl⟩, hkept⟩

theorem Settles.runRound (hJ : Settles env J K) (consoleReport : Bool) (round : Round)
    (hm : J m.world.emission) :
    SettledLoop J K (runRound env consoleReport m round)
      (runRound env.ideal consoleReport (m.forget framing) round) := by
  cases round with
  | interrupted => exact ⟨⟨framing, rfl⟩, hm⟩
  | failed => exact .inl ⟨⟨framing, rfl⟩, hm⟩
  | ready visits arrivals =>
    obtain ⟨hideal, hsame⟩ := handleVisits_forget visits m
    rw [TwoStream.runRound, TwoStream.runRound, hideal]
    refine (hJ.receiveInput .primary (arrivals .primary) (by rw [hsame]; exact hm)).andThen ?_
    intro m framing hm
    refine (hJ.receiveInput .secondary (arrivals .secondary) hm).andThen fun m framing hm => ?_
    refine (hJ.drainRound hm).andThen fun m framing hm => ?_
    rw [reportRound_forget]
    refine ⟨⟨framing, rfl⟩, ?_⟩
    rw [reportRound_emission]
    exact hm

/-- **The rounds with a real sink** are those with the ideal one, until the sink refuses a record. -/
theorem Settles.runRounds (hJ : Settles env J K) (consoleReport : Bool) (rounds : List Round)
    (m : MainLoop σ) (framing : FramingStats) (hm : J m.world.emission) :
    SettledLoop J K (runRounds env consoleReport rounds m)
      (runRounds env.ideal consoleReport rounds (m.forget framing)) := by
  induction rounds generalizing m framing with
  | nil => exact ⟨⟨framing, rfl⟩, hm⟩
  | cons round rest ih => exact (hJ.runRound consoleReport round hm).andThen ih

end Settles

/-! ### The socket -/

section Socket

variable {sendto : ℕ → ℤ} {clock : ℕ → ℕ} {w w' : World OutputUdp} {route : Route}
  {r : PacketRecord}

/-- The last `sendto` has not sent its datagram. -/
structure SendFailed (sendto : ℕ → ℤ) (output : OutputUdp) : Prop where
  last : output.calls = output.datagrams.length + 1
  failed : sendto output.datagrams.length ≠ outputUdpPayloadBytes

/-- While every `sendto` sends its datagram. -/
structure SoundEmission (sendto : ℕ → ℤ) (emission : OutputUdp × List (Route × PacketRecord) × ℕ × ℕ) :
    Prop extends BatchedEmission emission where
  calls : emission.1.calls = emission.1.datagrams.length
  sent : ∀ n < emission.1.calls, sendto n = outputUdpPayloadBytes

/-- The datagrams are full, and the packets in them are those accepted, in order, but for the last six
at most; the engine has counted the datagrams; every `sendto` but the last has sent its datagram. -/
structure FailStop (sendto : ℕ → ℤ) (emission : OutputUdp × List (Route × PacketRecord) × ℕ × ℕ) :
    Prop where
  full : ∀ d ∈ emission.1.datagrams, d.length = outputTsPacketsPerDatagram
  order : ∃ lost, lost.length < outputTsPacketsPerDatagram ∧
    emission.1.datagrams.flatten ++ lost = (emission.2.1.map Prod.snd).map (·.packet)
  counted : emission.2.2.2 = emission.1.datagrams.length
  sent : ∀ n < emission.1.datagrams.length, sendto n = outputUdpPayloadBytes
  calls : emission.1.calls = emission.1.datagrams.length ∨ SendFailed sendto emission.1

theorem SoundEmission.failStop {emission : OutputUdp × List (Route × PacketRecord) × ℕ × ℕ}
    (h : SoundEmission sendto emission) : FailStop sendto emission where
  full := h.full
  order := by
    refine ⟨emission.1.pending, ?_, h.order⟩
    rw [h.pending]
    exact Nat.mod_lt _ (by decide)
  counted := h.datagrams
  sent n hn := h.sent n (by rw [h.calls]; exact hn)
  calls := .inl h.calls

/-- A packet that is taken would be taken if every `sendto` sent its datagram. -/
theorem outputUdpSendTsPacket_of_taken {output output' : OutputUdp} {packet : Packet}
    (h : outputUdpSendTsPacket sendto output packet = (0, output')) :
    outputUdpSendTsPacket (fun _ => outputUdpPayloadBytes) output packet = (0, output') := by
  have hsend := sendCases sendto output packet
  have hsend' := sendCases (fun _ => outputUdpPayloadBytes) output packet
  rw [h] at hsend
  generalize outputUdpSendTsPacket (fun _ => outputUdpPayloadBytes) output packet = res at hsend' ⊢
  cases hsend with
  | waits hroom =>
    cases hsend' with
    | waits => rfl
    | full hfull => omega
    | sent hlast => omega
    | failed hlast => omega
  | sent hlast =>
    cases hsend' with
    | sent => rfl
    | full hfull => omega
    | waits hroom => omega
    | failed _ hfailed => exact absurd rfl hfailed

theorem outputRecord_udp (sendto : ℕ → ℤ) (clock : ℕ → ℕ) (route : Route) (w : World OutputUdp)
    (r : PacketRecord) :
    outputRecord (udpEnv sendto clock) route w r =
      if (outputUdpSendTsPacket sendto w.sinkState r.packet).1 ≠ 0 then
        (false, { w with sinkState := (outputUdpSendTsPacket sendto w.sinkState r.packet).2 })
      else
        (true, acceptRecord route
          { w with sinkState := (outputUdpSendTsPacket sendto w.sinkState r.packet).2 } r) := rfl

theorem SoundEmission.take {output : OutputUdp} (hw : SoundEmission sendto w.emission)
    (hsend : outputUdpSendTsPacket sendto w.sinkState r.packet = (0, output)) :
    SoundEmission sendto (acceptRecord route { w with sinkState := output } r).emission := by
  have hbatched : BatchedEmission (acceptRecord route { w with sinkState := output } r).emission := by
    have hkept : Kept (udpEnv (fun _ => outputUdpPayloadBytes) fun _ => 0) BatchedEmission :=
      batchedEmission_kept fun _ => rfl
    have hsound := hkept route w r hw.toBatchedEmission
    rw [outputRecord_udp, outputUdpSendTsPacket_of_taken hsend] at hsound
    exact hsound
  have hcases := sendCases sendto w.sinkState r.packet
  have hcalls : w.sinkState.calls = w.sinkState.datagrams.length := hw.calls
  have hsent : ∀ n < w.sinkState.calls, sendto n = outputUdpPayloadBytes := hw.sent
  rw [hsend] at hcases
  rw [acceptRecord_emission] at hbatched ⊢
  cases hcases with
  | waits hroom => exact ⟨hbatched, hcalls, hsent⟩
  | sent hlast hfull =>
    refine ⟨hbatched, ?_, ?_⟩
    · simp [hcalls]
    · intro n hn
      rcases Nat.lt_succ_iff_lt_or_eq.mp hn with hn | rfl
      · exact hsent n hn
      · exact hfull

/-- The datagram of a packet that is refused has not been sent. -/
theorem SoundEmission.refuse {output : OutputUdp} {code : ℤ} (hw : SoundEmission sendto w.emission)
    (hsend : outputUdpSendTsPacket sendto w.sinkState r.packet = (code, output)) (hcode : code ≠ 0) :
    FailStop sendto ({ w with sinkState := output } : World OutputUdp).emission ∧
      SendFailed sendto output := by
  have hcases := sendCases sendto w.sinkState r.packet
  have hcalls : w.sinkState.calls = w.sinkState.datagrams.length := hw.calls
  have hroom : w.sinkState.pending.length < outputTsPacketsPerDatagram := by
    rw [show w.sinkState.pending.length = w.stats.outputPackets % outputTsPacketsPerDatagram from hw.pending]
    exact Nat.mod_lt _ (by decide)
  rw [hsend] at hcases
  cases hcases with
  | full hfull => omega
  | waits => exact absurd rfl hcode
  | sent => exact absurd rfl hcode
  | failed hlast hfailed =>
    have hbroken : SendFailed sendto
        ⟨w.sinkState.pending ++ [r.packet], w.sinkState.calls + 1, w.sinkState.datagrams⟩ :=
      ⟨congrArg (· + 1) hcalls, by rwa [← hcalls]⟩
    refine ⟨⟨hw.full, ⟨w.sinkState.pending, hroom, hw.order⟩, hw.datagrams, ?_, .inr hbroken⟩,
      hbroken⟩
    intro n hn
    exact hw.sent n (hcalls ▸ hn)

/-- **The socket is settled.** -/
theorem soundEmission_settles (sendto : ℕ → ℤ) (clock : ℕ → ℕ) :
    Settles (udpEnv sendto clock) (SoundEmission sendto)
      fun emission => FailStop sendto emission ∧ SendFailed sendto emission.1 where
  taken {route w r w'} hw hout := by
    rw [outputRecord_udp] at hout
    rcases hsend : outputUdpSendTsPacket sendto w.sinkState r.packet with ⟨code, output⟩
    rw [hsend] at hout
    by_cases hcode : code = 0
    · subst hcode
      obtain rfl := (Prod.mk.inj hout).2
      exact hw.take hsend
    · rw [if_pos hcode] at hout
      cases hout
  refused {route w r w'} hw hout := by
    rw [outputRecord_udp] at hout
    rcases hsend : outputUdpSendTsPacket sendto w.sinkState r.packet with ⟨code, output⟩
    rw [hsend] at hout
    by_cases hcode : code = 0
    · subst hcode
      cases hout
    · rw [if_pos hcode] at hout
      obtain rfl := (Prod.mk.inj hout).2
      exact hw.refuse hsend hcode

/-! ### The program -/

theorem openLoop_sound (config : RecoveryEngineConfig) (httpPort : ℕ) :
    SoundEmission sendto
      (openLoop (udpEnv sendto clock) config httpPort outputUdpOpen).world.emission where
  full := List.forall_mem_nil _
  order := rfl
  pending := rfl
  datagrams := rfl
  calls := rfl
  sent n hn := absurd hn (Nat.not_lt_zero n)

theorem runRounds_settled (sendto : ℕ → ℤ) (clock : ℕ → ℕ) (options : LoopOptions)
    (rounds : List Round) :
    SettledLoop (SoundEmission sendto)
      (fun emission => FailStop sendto emission ∧ SendFailed sendto emission.1)
      (runRounds (udpEnv sendto clock) options.consoleReport rounds
        (openLoop (udpEnv sendto clock) options.config options.httpPort outputUdpOpen))
      (runRounds (udpEnv sendto clock).ideal options.consoleReport rounds
        (openLoop (udpEnv sendto clock).ideal options.config options.httpPort ())) :=
  (soundEmission_settles sendto clock).runRounds options.consoleReport rounds _ framingStatsInit
    (openLoop_sound options.config options.httpPort)

/-- What follows the signal. -/
theorem closeLoop_failStop {m : MainLoop OutputUdp} (consoleReport : Bool)
    (hm : SoundEmission sendto m.world.emission) :
    FailStop sendto (closeLoop (udpEnv sendto clock) consoleReport m).world.emission := by
  have hflush : FailStop sendto (recoveryEngineFlush (udpEnv sendto clock) m.world).2.emission := by
    have hdrain := (soundEmission_settles sendto clock).drain true m.world hm
    rw [recoveryEngineFlush]
    generalize recoveryEngineDrain (udpEnv sendto clock) true m.world = res at hdrain ⊢
    rcases res with ⟨_ | _, w⟩
    · obtain ⟨-, hkept⟩ | hrefused := hdrain
      · exact hkept.failStop
      · exact hrefused.1
    · obtain ⟨-, hkept⟩ := hdrain
      have hroom : w.sinkState.pending.length < outputTsPacketsPerDatagram := by
        rw [show w.sinkState.pending.length = w.stats.outputPackets % outputTsPacketsPerDatagram from
          hkept.pending]
        exact Nat.mod_lt _ (by decide)
      have hsink : (udpEnv sendto clock).sink.flush = some (outputUdpFlush sendto) := rfl
      simp only [hsink, outputUdpFlush_of_lt hroom]
      obtain ⟨hfull, horder, hcounted, hsent, hcalls⟩ := hkept.failStop
      exact ⟨hfull, horder, hcounted, hsent, hcalls.imp_right fun h => ⟨h.last, h.failed⟩⟩
  rw [closeLoop]
  split
  · rw [reportStatsMaybePrint_emission]
    exact hflush
  · exact hflush

theorem runLoop_emission (sendto : ℕ → ℤ) (clock : ℕ → ℕ) (options : LoopOptions)
    (opening : Opening) (rounds : List Round) :
    FailStop sendto
      (runLoop (udpEnv sendto clock) options opening outputUdpOpen rounds).2.world.emission := by
  have hrounds := runRounds_settled sendto clock options rounds
  rw [runLoop]
  split
  · exact (openLoop_sound options.config options.httpPort).failStop
  generalize runRounds (udpEnv sendto clock) _ _ _ = res at hrounds ⊢
  rcases res with ⟨_ | _, m⟩
  · obtain ⟨-, hkept⟩ | hrefused := hrounds
    · exact hkept.failStop
    · exact hrefused.1
  · exact closeLoop_failStop options.consoleReport hrounds.2

/-- **The program stops at the first failure.** In every run of the loop, whatever arrives and whoever
visits, and however it ends, the datagrams sent are the accepted packets in order, seven in each, but
for the last six at most; the counter of datagrams is right, and after a failed `sendto` there is none. -/
theorem runLoop_failStop (sendto : ℕ → ℤ) (clock : ℕ → ℕ) (options : LoopOptions)
    (opening : Opening) (rounds : List Round) :
    let w := (runLoop (udpEnv sendto clock) options opening outputUdpOpen rounds).2.world
    (∀ d ∈ w.sinkState.datagrams, d.length = outputTsPacketsPerDatagram ∧
        (payload d).length = outputUdpPayloadBytes) ∧
      (∃ lost, lost.length < outputTsPacketsPerDatagram ∧
        w.sinkState.datagrams.flatten ++ lost = (sentRecords w.trace).map (·.packet)) ∧
      w.stats.outputDatagrams = w.sinkState.datagrams.length ∧
      ∀ n, n + 1 < w.sinkState.calls → sendto n = outputUdpPayloadBytes := by
  intro w
  obtain ⟨hfull, horder, hcounted, hsent, hcalls⟩ := runLoop_emission sendto clock options opening rounds
  refine ⟨fun d hd => ⟨hfull d hd, ?_⟩, horder, hcounted, fun n hn => hsent n ?_⟩
  · rw [payload_length, hfull d hd]
  · change n < w.sinkState.datagrams.length
    rcases hcalls with hcalls | hfailed
    · have hcalls : w.sinkState.calls = w.sinkState.datagrams.length := hcalls
      omega
    · have hlast : w.sinkState.calls = w.sinkState.datagrams.length + 1 := hfailed.last
      omega

/-- **What ends the loop.** It returns -1 exactly if the web server or the engine cannot be opened,
`select` or `recv` fails in one of its rounds, or the last `sendto` before the signal has not sent its
datagram. So no datagram and no request ends it. -/
theorem runLoop_stops_iff (sendto : ℕ → ℤ) (clock : ℕ → ℕ) (options : LoopOptions) (opening : Opening)
    (rounds : List Round) :
    (runLoop (udpEnv sendto clock) options opening outputUdpOpen rounds).1 = -1 ↔
      opening.Fails options ∨ (∃ round ∈ rounds, round.Breaks) ∨
        SendFailed sendto (runRounds (udpEnv sendto clock) options.consoleReport rounds
          (openLoop (udpEnv sendto clock) options.config options.httpPort
            outputUdpOpen)).2.world.sinkState := by
  by_cases hopening : opening.Fails options
  · rw [runLoop, if_pos hopening]
    exact iff_of_true rfl (.inl hopening)
  rw [or_iff_right hopening]
  have hrounds := runRounds_settled sendto clock options rounds
  have hexit : (runLoop (udpEnv sendto clock) options opening outputUdpOpen rounds).1 = -1 ↔
      (runRounds (udpEnv sendto clock) options.consoleReport rounds
        (openLoop (udpEnv sendto clock) options.config options.httpPort outputUdpOpen)).1 = false := by
    rw [runLoop, if_neg hopening]
    generalize runRounds (udpEnv sendto clock) _ _ _ = res
    rcases res with ⟨_ | _, m⟩ <;> simp
  rw [hexit]
  constructor
  · intro hends
    by_cases hany : ∃ round ∈ rounds, round.Breaks
    · exact .inl hany
    · have hok := runRounds_accepting (udpEnv sendto clock).ideal_accepting options.consoleReport
        (fun round hmem hbreaks => hany ⟨round, hmem, hbreaks⟩)
        (openLoop (udpEnv sendto clock).ideal options.config options.httpPort ())
      generalize runRounds (udpEnv sendto clock) _ _ _ = res at hrounds hends ⊢
      rcases res with ⟨_ | _, m⟩
      · obtain ⟨⟨framing, hideal⟩, -⟩ | ⟨-, hfailed⟩ := hrounds
        · rw [hideal] at hok
          cases hok
        · exact .inr hfailed
      · cases hends
  · rintro (hany | hfailed)
    · exact runRounds_of_breaks hany _ _
    · generalize runRounds (udpEnv sendto clock) _ _ _ = res at hrounds hfailed ⊢
      rcases res with ⟨_ | _, m⟩
      · rfl
      · have hsound : m.world.sinkState.calls = m.world.sinkState.datagrams.length := hrounds.2.calls
        have hlast := hfailed.last
        simp only at hlast
        omega

end Socket

end TwoStream
