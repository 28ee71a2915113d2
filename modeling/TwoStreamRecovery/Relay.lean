import TwoStreamRecovery.FailStop
import TwoStreamRecovery.SecondaryLoss

/-!
# From datagrams to datagrams

* **`runLoop_provenance`**: every packet sent is a window of a datagram that was received.
* **`relayed_packets`**: another instance that receives the datagrams finds the packets in them.
* **`runLoop_transparent`**: an undisturbed primary is sent packet by packet, whatever the secondary
  has lost, but for the last six packets at most.
-/

namespace TwoStream

variable {σ : Type} {env : Env σ} {sendto : ℕ → ℤ} {clock : ℕ → ℕ} {options : LoopOptions}
  {opening : Opening} {rounds : List Round} {T : List ParsedPacket}

/-! ### Provenance -/

/-- The packet is a window of what an input has received in one of the rounds. -/
def FromInputs (rounds : List Round) (packet : Packet) : Prop :=
  ∃ visits arrivals streamId bytes k, Round.ready visits arrivals ∈ rounds ∧
    arrivals streamId = .datagram bytes ∧ k + tsPacketSize ≤ bytes.length ∧
    packet.bytes = (bytes.drop k).take tsPacketSize ∧ (tsPacketParse packet).isSome = true

theorem mem_packets_of_arrival {arrival : Arrival} {p : ParsedPacket} (h : p ∈ arrival.packets) :
    ∃ bytes k, arrival = .datagram bytes ∧ k + tsPacketSize ≤ bytes.length ∧
      p.packet.bytes = (bytes.drop k).take tsPacketSize := by
  cases arrival with
  | nothing => cases h
  | failure => cases h
  | datagram bytes =>
    obtain ⟨k, hfits, hwindow⟩ := exists_window_of_mem h
    have hlength : (receivedDatagram bytes).length = min inputBufferSize bytes.length :=
      List.length_take
    have hinside : k + tsPacketSize ≤ ((bytes.take inputBufferSize).drop k).length + k := by
      rw [List.length_drop, List.length_take]
      omega
    rw [hlength] at hfits
    refine ⟨bytes, k, rfl, by omega, ?_⟩
    rw [← hwindow]
    show ((bytes.take inputBufferSize).drop k).takeD tsPacketSize 0 = _
    rw [List.takeD_eq_take _ (by omega), List.drop_take, List.take_take,
      Nat.min_eq_left (by omega)]

theorem fromInputs_of_mem {streamId : StreamId} {p : ParsedPacket}
    (h : p ∈ packetsOf streamId (roundPackets rounds)) : FromInputs rounds p.packet := by
  obtain ⟨⟨i, q⟩, hmem, hp⟩ := List.mem_filterMap.mp h
  split_ifs at hp with hi
  obtain rfl : q = p := Option.some.inj hp
  obtain ⟨round, hround, hmem⟩ := List.mem_flatMap.mp hmem
  cases round with
  | interrupted => cases hmem
  | failed => cases hmem
  | ready visits arrivals =>
    rw [Round.packets, List.mem_append, List.mem_map, List.mem_map] at hmem
    have hfrom (s : StreamId) (hq : q ∈ (arrivals s).packets) : FromInputs rounds q.packet := by
      obtain ⟨bytes, k, harrival, hfits, hbytes⟩ := mem_packets_of_arrival hq
      exact ⟨visits, arrivals, s, bytes, k, hround, harrival, hfits, hbytes, by rw [q.parsed]; rfl⟩
    rcases hmem with ⟨q', hq', heq⟩ | ⟨q', hq', heq⟩
    · cases heq
      exact hfrom .primary hq'
    · cases heq
      exact hfrom .secondary hq'

/-- A packet that was sent is one of those received. -/
theorem exists_received {d : List Packet} {packet : Packet}
    (hd : d ∈ (runLoop (udpEnv sendto clock) options opening outputUdpOpen rounds).2.world.sinkState.datagrams)
    (hpacket : packet ∈ d) :
    ∃ streamId p, p ∈ packetsOf streamId (roundPackets rounds) ∧ p.packet = packet := by
  obtain ⟨lost, -, horder⟩ := (runLoop_emission sendto clock options opening rounds).order
  obtain ⟨l, hstart, hreceives⟩ :=
    (runLoop_receives (udpEnv sendto clock) options opening outputUdpOpen rounds).exists_receives
  generalize (runLoop (udpEnv sendto clock) options opening outputUdpOpen rounds).2 = m at *
  have hsent : packet ∈ ((sentEvents m.world.trace).map Prod.snd).map (·.packet) := by
    have hmem : packet ∈ m.world.sinkState.datagrams.flatten ++ lost :=
      List.mem_append_left _ (List.mem_flatten_of_mem hd hpacket)
    rwa [show m.world.sinkState.datagrams.flatten ++ lost = _ from horder] at hmem
  obtain ⟨r, hr, rfl⟩ := List.mem_map.mp hsent
  obtain ⟨x, hx, rfl⟩ := List.mem_map.mp hr
  have hpushed := (sentKnown_of_reachable hreceives.stages).pushed x hx
  have hreceived : x.2.packet ∈ received x.1.stream m.world.trace := List.mem_map_of_mem hpushed
  rw [hreceives.received_eq] at hreceived
  obtain ⟨p, hp, hsame⟩ := List.mem_map.mp hreceived
  obtain ⟨rest, hrest⟩ := hstart
  refine ⟨x.1.stream, p, ?_, hsame⟩
  rw [← hrest, packetsOf_append]
  exact List.mem_append_left _ hp

/-- **Nothing is made up.** In every run of the loop, however it ends, each packet of each datagram sent
is, byte for byte, a window of a datagram that one of the inputs has received. -/
theorem runLoop_provenance (sendto : ℕ → ℤ) (clock : ℕ → ℕ) (options : LoopOptions)
    (opening : Opening) (rounds : List Round) :
    ∀ d ∈ (runLoop (udpEnv sendto clock) options opening outputUdpOpen rounds).2.world.sinkState.datagrams,
      ∀ packet ∈ d, FromInputs rounds packet := by
  intro d hd packet hpacket
  obtain ⟨streamId, p, hp, rfl⟩ := exists_received hd hpacket
  exact fromInputs_of_mem hp

/-- Eight packets. -/
def relayFeed : List ParsedPacket :=
  sparseFeed ++ [(payloadPacket 0x101 6 5).parse, (payloadPacket 0x100 4 6).parse]

/-- The primary receives them in two datagrams, the secondary some of them. -/
def relayFeedRounds : List Round :=
  [.ready none fun
    | .primary => .datagram (packetBytes (relayFeed.take 5))
    | .secondary => .datagram (packetBytes (relayFeed.take 2)),
   .interrupted,
   .ready none fun
    | .primary => .datagram (packetBytes (relayFeed.drop 5))
    | .secondary => .nothing]

def relayFeedOptions : LoopOptions := ⟨promptConfig, 0, true⟩

/-- A packet that was sent and received. -/
theorem runLoop_provenance_relayFeed :
    ∃ d ∈ (runLoop (udpEnv (fun _ => outputUdpPayloadBytes) fun _ => 1) relayFeedOptions ⟨true, true⟩ outputUdpOpen
        relayFeedRounds).2.world.sinkState.datagrams,
      ∃ packet ∈ d, FromInputs relayFeedRounds packet := by
  have hsent : ∃ d ∈ (runLoop (udpEnv (fun _ => outputUdpPayloadBytes) fun _ => 1) relayFeedOptions
      ⟨true, true⟩ outputUdpOpen relayFeedRounds).2.world.sinkState.datagrams,
      ∃ packet ∈ d, packet ∈ relayFeed.map (·.packet) := by decide +kernel
  obtain ⟨d, hd, packet, hpacket, -⟩ := hsent
  exact ⟨d, hd, packet, hpacket, runLoop_provenance _ _ _ _ _ d hd packet hpacket⟩

/-! ### Another instance -/

/-- The datagrams reach the primary of another instance, one in a round. -/
def relayRounds (datagrams : List (List Packet)) : List Round :=
  datagrams.map fun d => .ready none (Function.update (fun _ => .nothing) .primary (.datagram (payload d)))

/-- A datagram of seven packets is received in full. -/
theorem relayed_datagram {d : List Packet} (hfull : d.length = outputTsPacketsPerDatagram)
    (hparse : ∀ packet ∈ d, (tsPacketParse packet).isSome = true) :
    ((receivedDatagram (payload d)).packets).map (·.packet) = d := by
  have hparsed : ∃ ps : List ParsedPacket, d = ps.map (·.packet) := by
    clear hfull
    induction d with
    | nil => exact ⟨[], rfl⟩
    | cons packet rest ih =>
      obtain ⟨ps, rfl⟩ := ih fun packet h => hparse packet (List.mem_cons_of_mem _ h)
      obtain ⟨info, hinfo⟩ := Option.isSome_iff_exists.mp (hparse packet List.mem_cons_self)
      exact ⟨⟨packet, info, hinfo⟩ :: ps, rfl⟩
  obtain ⟨ps, rfl⟩ := hparsed
  have hbytes : (receivedDatagram (payload (ps.map (·.packet)))).bytes = packetBytes ps := by
    refine List.take_of_length_le ?_
    rw [payload_length, hfull]
    decide
  rw [packets_payload hbytes]

theorem relayed_of_full {datagrams : List (List Packet)}
    (hfull : ∀ d ∈ datagrams, d.length = outputTsPacketsPerDatagram)
    (hparse : ∀ d ∈ datagrams, ∀ packet ∈ d, (tsPacketParse packet).isSome = true) :
    (packetsOf .primary (roundPackets (relayRounds datagrams))).map (·.packet) = datagrams.flatten := by
  induction datagrams with
  | nil => rfl
  | cons d rest ih =>
    have hfirst : packetsOf .primary (Round.packets
        (.ready none (Function.update (fun _ => .nothing) .primary (.datagram (payload d))))) =
          (receivedDatagram (payload d)).packets := by
      simp [Round.packets, Arrival.packets, packetsOf, List.filterMap_map]
    rw [relayRounds, List.map_cons, roundPackets, List.flatMap_cons, packetsOf_append, List.map_append,
      hfirst, relayed_datagram (hfull d List.mem_cons_self) (hparse d List.mem_cons_self),
      List.flatten_cons]
    refine congrArg (d ++ ·) (ih ?_ ?_)
    · exact fun d hd => hfull d (List.mem_cons_of_mem _ hd)
    · exact fun d hd => hparse d (List.mem_cons_of_mem _ hd)

/-- **What one instance sends, another receives.** The datagrams of any run, received on the primary of
another instance, consist for it of the packets that were put into them. -/
theorem relayed_packets (sendto : ℕ → ℤ) (clock : ℕ → ℕ) (options : LoopOptions)
    (opening : Opening) (rounds : List Round) :
    let out := (runLoop (udpEnv sendto clock) options opening outputUdpOpen rounds).2.world.sinkState.datagrams
    (packetsOf .primary (roundPackets (relayRounds out))).map (·.packet) = out.flatten := by
  refine relayed_of_full (runLoop_emission sendto clock options opening rounds).full fun d hd packet hpacket => ?_
  obtain ⟨streamId, p, -, rfl⟩ := exists_received hd hpacket
  rw [p.parsed]
  rfl

/-! ### Transparency -/

/-- The loop has ended by the signal, and the last `sendto` has sent its datagram. -/
structure EndsWell (sendto : ℕ → ℤ) (res : ℤ × MainLoop OutputUdp) : Prop where
  exit : res.1 = 0
  sent : ¬ SendFailed sendto res.2.world.sinkState

/-- A report on the console changes the number of clock readings only. -/
theorem reportStatsMaybePrint_world (force : Bool) (m : MainLoop σ) :
    ∃ n, (reportStatsMaybePrint env force m).world = { m.world with reads := n } := by
  simp only [reportStatsMaybePrint]
  split_ifs <;> exact ⟨_, rfl⟩

theorem closeLoop_world (consoleReport : Bool) (m : MainLoop σ) :
    ∃ n, (closeLoop env consoleReport m).world =
      { (recoveryEngineFlush env m.world).2 with reads := n } := by
  rw [closeLoop]
  split_ifs
  · exact reportStatsMaybePrint_world true _
  · exact ⟨_, rfl⟩

/-- A flush whose drain the sink refuses leaves it at that. -/
theorem flush_of_refused {w w' : World σ} (h : recoveryEngineDrain env true w = (false, w')) :
    (recoveryEngineFlush env w).2 = w' := by
  rw [recoveryEngineFlush, h]

/-- Then the packets of the rounds reach a run with the ideal sink, and its last drain leaves engine,
counters and trace as they are found at the end. -/
theorem EndsWell.ideal (h : EndsWell sendto (runLoop (udpEnv sendto clock) options opening outputUdpOpen rounds)) :
    let w := (runLoop (udpEnv sendto clock) options opening outputUdpOpen rounds).2.world
    ∃ s, Receives (udpEnv sendto clock).ideal true (freshStation options.config () (clock 0))
        (roundPackets rounds) s ∧
      w.engine = (recoveryEngineDrain (udpEnv sendto clock).ideal true s.world).2.engine ∧
      w.stats = (recoveryEngineDrain (udpEnv sendto clock).ideal true s.world).2.stats ∧
      w.trace = (recoveryEngineDrain (udpEnv sendto clock).ideal true s.world).2.trace := by
  have hopen : Receives (udpEnv sendto clock).ideal true (freshStation options.config () (clock 0)) []
      (openLoop (udpEnv sendto clock).ideal options.config options.httpPort ()).station :=
    Receives.refl.read
  have hideal := hopen.trans_if (runRounds_receivesIf options.consoleReport rounds _)
  have hrounds := runRounds_settled sendto clock options rounds
  obtain ⟨hexit, hsent⟩ := h
  have hopened : ¬ opening.Fails options := by
    intro hfails
    rw [runLoop, if_pos hfails] at hexit
    cases hexit
  rw [runLoop, if_neg hopened] at hexit hsent ⊢
  generalize runRounds (udpEnv sendto clock) _ _ _ = res at hrounds hexit hsent ⊢
  rcases res with ⟨_ | _, m⟩
  · cases hexit
  · obtain ⟨⟨framing, hsame⟩, hkept⟩ := hrounds
    rw [hsame] at hideal
    refine ⟨m.station.forget, hideal, ?_⟩
    obtain ⟨n, hclose⟩ : ∃ n, (closeLoop (udpEnv sendto clock) options.consoleReport m).world =
        { (recoveryEngineFlush (udpEnv sendto clock) m.world).2 with reads := n } := closeLoop_world _ m
    have hdrain := (soundEmission_settles sendto clock).drain true m.world hkept
    have hok := recoveryEngineDrain_accepting (udpEnv sendto clock).ideal_accepting true m.world.forget
    obtain ⟨state, hflush⟩ := recoveryEngineFlush_world (udpEnv sendto clock) m.world
    simp only [if_pos, hclose, hflush] at hsent ⊢
    rw [show m.station.forget.world = m.world.forget from rfl]
    rcases hres : recoveryEngineDrain (udpEnv sendto clock) true m.world with ⟨_ | _, w'⟩
    · rw [hres] at hdrain
      obtain ⟨hfalse, -⟩ | ⟨-, hfailed⟩ := hdrain
      · rw [hfalse] at hok
        cases hok
      · have hstate : w'.sinkState = state := by
          rw [← flush_of_refused hres, hflush]
        have hlast : SendFailed sendto w'.sinkState := hfailed
        rw [hstate] at hlast
        exact absurd hlast hsent
    · rw [hres] at hdrain
      rw [hdrain.1]
      exact ⟨rfl, rfl, rfl⟩

/-- **An undisturbed primary passes through the program.** Where the loop ends well, the primary has
received a feed, the secondary any part of it, and the output has stayed the primary, the datagrams sent
are the feed in order but for its last six packets at most; nothing was recovered, lost or rejected. -/
theorem runLoop_transparent (hT : Feed T) (hfits : FitsInOrder T)
    (hends : EndsWell sendto (runLoop (udpEnv sendto clock) options opening outputUdpOpen rounds))
    (hprimary : packetsOf .primary (roundPackets rounds) = T)
    (hsecondary : (packetsOf .secondary (roundPackets rounds)).Sublist T)
    (hstays : ∀ x ∈ switches (runLoop (udpEnv sendto clock) options opening outputUdpOpen rounds).2.world.trace,
      x.1 ≠ .secondary)
    (hkept : (runLoop (udpEnv sendto clock) options opening outputUdpOpen
      rounds).2.world.stats.primaryDelayOverflows = 0) :
    let w := (runLoop (udpEnv sendto clock) options opening outputUdpOpen rounds).2.world
    (∃ lost, lost.length < outputTsPacketsPerDatagram ∧
        w.sinkState.datagrams.flatten ++ lost = T.map (·.packet)) ∧
      w.stats.recoveredPackets = 0 ∧ w.stats.unrecoverableLoss = 0 ∧
      (∀ reason, w.stats.recoveryRejects reason = 0) ∧
      w.stats.outputContinuityErrors = 0 ∧ w.stats.outputDuplicateCounters = 0 := by
  intro w
  obtain ⟨s, hreceives, -, hstats, htrace⟩ := hends.ideal
  change w.stats = _ at hstats
  change w.trace = _ at htrace
  have hacc := (udpEnv sendto clock).ideal_accepting
  have hdrained := hreceives.drain true fun _ => rfl
  have hreceived (i : StreamId) : received i w.trace =
      (packetsOf i (roundPackets rounds)).map (·.packet) := by
    rw [htrace]
    exact hdrained.received_eq i
  have hstages : Reachable (udpEnv sendto clock).ideal options.config ()
      (recoveryEngineDrain (udpEnv sendto clock).ideal true s.world).2 := hdrained.stages
  have hcomplete : CompletePrimary T
      (recoveryEngineDrain (udpEnv sendto clock).ideal true s.world).2.trace := by
    rw [← htrace]
    refine ⟨?_, ?_, staysPrimary_of_switches hstays, ?_⟩
    · rw [hreceived, hprimary]
    · rw [hreceived]
      exact hsecondary.map _
    · rw [htrace]
      exact (reachable_consistent hstages).overflows (hstats ▸ hkept)
  have hpasses := reachable_passesOn hacc hT hfits hstages hcomplete
  have hbefore : PassesOn s.world := by
    refine reachable_passesOn hacc hT hfits hreceives.stages (hcomplete.earlier ?_)
    exact trace_prefix (fun _ _ h => Stage.trace_prefix h) (step_stages _ s.world (.drain true))
  have hempty := recoveryEngineDrain_empties hacc s.world hbefore.active
  have hsent : (sentRecords w.trace).map (·.packet) = T.map (·.packet) := by
    have horder := hpasses.order
    rw [hempty, List.append_nil, ← htrace] at horder
    rw [horder, ← hprimary, ← hreceived]
    rfl
  refine ⟨?_, ?_⟩
  · obtain ⟨lost, hlost, horder⟩ := (runLoop_emission sendto clock options opening rounds).order
    exact ⟨lost, hlost, horder.trans hsent⟩
  · have hincidents := hpasses.incidents
    rw [← hstats] at hincidents
    simp only [ReportStats.incidents, Prod.mk.injEq] at hincidents
    obtain ⟨hrecovered, hloss, hrejects, herrors, hduplicates⟩ := hincidents
    exact ⟨hrecovered, hloss, congrFun hrejects, herrors, hduplicates⟩

/-- Seven of the eight packets are sent. -/
theorem runLoop_transparent_relayFeed :
    ∃ lost, lost.length < outputTsPacketsPerDatagram ∧
      (runLoop (udpEnv (fun _ => outputUdpPayloadBytes) fun _ => 1) relayFeedOptions ⟨true, true⟩ outputUdpOpen
        relayFeedRounds).2.world.sinkState.datagrams.flatten ++ lost = relayFeed.map (·.packet) := by
  have hfacts : (Feed relayFeed ∧ FitsInOrder relayFeed ∧
      packetsOf .primary (roundPackets relayFeedRounds) = relayFeed ∧
      (packetsOf .secondary (roundPackets relayFeedRounds)).Sublist relayFeed) := by decide +kernel
  have hrun : (runLoop (udpEnv (fun _ => outputUdpPayloadBytes) fun _ => 1) relayFeedOptions ⟨true, true⟩ outputUdpOpen
        relayFeedRounds).1 = 0 ∧
      (∀ x ∈ switches (runLoop (udpEnv (fun _ => outputUdpPayloadBytes) fun _ => 1) relayFeedOptions
        ⟨true, true⟩ outputUdpOpen relayFeedRounds).2.world.trace, x.1 ≠ .secondary) ∧
      (runLoop (udpEnv (fun _ => outputUdpPayloadBytes) fun _ => 1) relayFeedOptions ⟨true, true⟩ outputUdpOpen
        relayFeedRounds).2.world.stats.primaryDelayOverflows = 0 := by decide +kernel
  obtain ⟨hT, hfits, hprimary, hsecondary⟩ := hfacts
  obtain ⟨hexit, hstays, hkept⟩ := hrun
  exact (runLoop_transparent hT hfits ⟨hexit, fun h => h.failed rfl⟩ hprimary hsecondary hstays hkept).1

end TwoStream
