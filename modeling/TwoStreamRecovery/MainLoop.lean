import TwoStreamRecovery.PacketScan
import TwoStreamRecovery.PrimaryOutput
import TwoStreamRecovery.WebServer

/-!
# The main loop (`run_loop`)

* `Round`: what one round of the loop meets: the end of `select`, the visitors of the web server and
  the datagrams at the two inputs.
* `runRound`, `runRounds`, `runLoop`: the loop, from its start to the signal that stops it.
* `Receives env l s s'`: from `s` to `s'` the packets `l` are received, between drains and readings of
  the clock; **`runLoop_receives`**: so the loop receives the packets of its datagrams.
* `Receives.stages`, `Receives.received_eq`: the stages of the engine, and what it has then received.

The samples and the health that reports show are not part of the state; the loop does not read them.
-/

namespace TwoStream

open Relation

variable {σ : Type} {env : Env σ}

/-! ### Rounds -/

/-- `INPUT_BUFFER_SIZE`. -/
abbrev inputBufferSize : ℕ := tsPacketSize * 64

/-- What `input_udp_receive` stores of a datagram. -/
def receivedDatagram (bytes : List UInt8) : Datagram where
  bytes := bytes.take inputBufferSize
  size := (List.length_take_le _ _).trans_lt (by decide)

/-- What an input has for a round: nothing, an error of `recv`, or a datagram. -/
inductive Arrival where
  | nothing
  | failure
  | datagram (bytes : List UInt8)

/-- A connection: `set_nonblocking` succeeds, the request comes in time, and its bytes. -/
structure Client where
  nonblocking : Bool
  inTime : Bool
  request : List UInt8

/-- What `web_server_handle_ready` accepts, and whether the socket is then found to be closed. -/
structure Visits where
  clients : List Client
  listenerLost : Bool

/-- A round: `select` is interrupted, fails, or says what is ready. -/
inductive Round where
  | interrupted
  | failed
  | ready (visits : Option Visits) (arrivals : StreamId → Arrival)

/-- The variables of `run_loop`. -/
structure MainLoop (σ : Type) where
  receiver : Receiver σ
  lastReportNs : ℕ
  webEnabled : Bool

abbrev MainLoop.station (m : MainLoop σ) : Station σ := m.receiver.station

abbrev MainLoop.world (m : MainLoop σ) : World σ := m.receiver.station.world

def MainLoop.withWorld (m : MainLoop σ) (w : World σ) : MainLoop σ :=
  { m with receiver.station.world := w }

/-! ### Reports -/

/-- The clock is read, and nothing else happens to the engine. -/
def MainLoop.readClock (env : Env σ) (m : MainLoop σ) : MainLoop σ :=
  m.withWorld (reportStatsNowNs env m.world).2

/-- The clock readings of `report_stats_format_json`: `report_stats_tick`, `update_stream_health`. -/
def reportStatsFormatJson (env : Env σ) (m : MainLoop σ) : MainLoop σ := (m.readClock env).readClock env

/-- `report_stats_maybe_print`. -/
def reportStatsMaybePrint (env : Env σ) (force : Bool) (m : MainLoop σ) : MainLoop σ :=
  let nowNs := (reportStatsNowNs env m.world).1
  let m := m.readClock env
  if !force && decide (elapsedNs m.lastReportNs nowNs < 1000000000) then m
  else { (m.readClock env).readClock env with lastReportNs := nowNs }

/-- `handle_client` answers with the counters. -/
def asksForStats (received : List UInt8) : Bool :=
  (requestLine received).any fun line =>
    decide (line.1 = "GET".toList) && decide (cutQuery line.2 = "/api/stats".toList)

/-- An accepted connection. -/
def handleVisit (env : Env σ) (m : MainLoop σ) (c : Client) : MainLoop σ :=
  if c.nonblocking && c.inTime && asksForStats c.request then reportStatsFormatJson env m else m

/-- `web_server_handle_ready`. -/
def webServerHandleReady (env : Env σ) (visits : Visits) (m : MainLoop σ) : MainLoop σ :=
  let m := visits.clients.foldl (handleVisit env) m
  if visits.listenerLost then { m with webEnabled := false } else m

/-- The web server's part of a round. -/
def handleVisits (env : Env σ) (visits : Option Visits) (m : MainLoop σ) : MainLoop σ :=
  match visits with
  | none => m
  | some visits => if m.webEnabled then webServerHandleReady env visits m else m

/-! ### The loop -/

/-- An input's part of a round; `false` where `run_loop` returns. The packet loop returns
(`processDatagram_packets`), so there is no third case. -/
def receiveInput (env : Env σ) (streamId : StreamId) (arrival : Arrival) (m : MainLoop σ) :
    Bool × MainLoop σ :=
  match arrival with
  | .nothing => (true, m)
  | .failure => (false, m)
  | .datagram bytes =>
    if bytes = [] then (true, m)
    else
      (processDatagram env streamId (receivedDatagram bytes) m.receiver).elim (false, m) fun res =>
        (res.1, { m with receiver := res.2.receiver })

/-- The drain of a round. -/
def drainRound (env : Env σ) (m : MainLoop σ) : Bool × MainLoop σ :=
  ((recoveryEngineDrain env false m.world).1, m.withWorld (recoveryEngineDrain env false m.world).2)

/-- The end of a round: `report_stats_tick`, and the report on the console. -/
def reportRound (env : Env σ) (consoleReport : Bool) (m : MainLoop σ) : MainLoop σ :=
  if consoleReport then reportStatsMaybePrint env false (m.readClock env) else m.readClock env

/-- The loop goes on if the routine has succeeded. -/
def andThen (res : Bool × MainLoop σ) (next : MainLoop σ → Bool × MainLoop σ) : Bool × MainLoop σ :=
  if res.1 then next res.2 else res

/-- One round of the loop; `false` where `run_loop` returns -1. -/
def runRound (env : Env σ) (consoleReport : Bool) (m : MainLoop σ) : Round → Bool × MainLoop σ
  | .interrupted => (true, m)
  | .failed => (false, m)
  | .ready visits arrivals =>
    andThen (receiveInput env .primary (arrivals .primary) (handleVisits env visits m)) fun m =>
    andThen (receiveInput env .secondary (arrivals .secondary) m) fun m =>
    andThen (drainRound env m) fun m =>
    (true, reportRound env consoleReport m)

/-- The rounds of the loop, as long as they succeed. -/
def runRounds (env : Env σ) (consoleReport : Bool) : List Round → MainLoop σ → Bool × MainLoop σ
  | [], m => (true, m)
  | round :: rest, m => andThen (runRound env consoleReport m round) (runRounds env consoleReport rest)

/-- The variables before the first round: `report_stats_init` has read the clock. -/
def openLoop (env : Env σ) (config : RecoveryEngineConfig) (httpPort : ℕ) (sinkState : σ) :
    MainLoop σ where
  receiver :=
    { freshReceiver config sinkState (env.clock 0) with
      station.world := (reportStatsNowNs env (freshWorld config sinkState)).2 }
  lastReportNs := env.clock 0
  webEnabled := httpPort != 0

/-- `command_line_options_t`, as far as `run_loop` reads it. -/
structure LoopOptions where
  config : RecoveryEngineConfig
  httpPort : ℕ
  consoleReport : Bool

/-- What follows the signal. -/
def closeLoop (env : Env σ) (consoleReport : Bool) (m : MainLoop σ) : MainLoop σ :=
  let m := m.withWorld (recoveryEngineFlush env m.world).2
  if consoleReport then reportStatsMaybePrint env true m else m

/-- Whether `web_server_open` and `recovery_engine_init_with_config` succeed. -/
structure Opening where
  webServer : Bool
  engine : Bool

/-- `run_loop` returns before its first round. -/
def Opening.Fails (opening : Opening) (options : LoopOptions) : Prop :=
  options.httpPort ≠ 0 ∧ opening.webServer = false ∨ opening.engine = false

instance (opening : Opening) (options : LoopOptions) : Decidable (opening.Fails options) :=
  inferInstanceAs (Decidable (_ ∨ _))

/-- `run_loop`, for the rounds that begin before the signal. -/
def runLoop (env : Env σ) (options : LoopOptions) (opening : Opening) (sinkState : σ)
    (rounds : List Round) : ℤ × MainLoop σ :=
  let start := openLoop env options.config options.httpPort sinkState
  if opening.Fails options then (-1, start)
  else
    let res := runRounds env options.consoleReport rounds start
    if res.1 then (0, closeLoop env options.consoleReport res.2) else (-1, res.2)

/-! ### The packets of the rounds -/

/-- The packets of a datagram that is received. -/
def Arrival.packets : Arrival → List ParsedPacket
  | .datagram bytes => (receivedDatagram bytes).packets
  | _ => []

/-- The packets that a round receives, in order. -/
def Round.packets : Round → List (StreamId × ParsedPacket)
  | .ready _ arrivals =>
    (arrivals .primary).packets.map (StreamId.primary, ·) ++
      (arrivals .secondary).packets.map (StreamId.secondary, ·)
  | _ => []

/-- The packets of a list are received in order, between readings of the clock and drains, which are
forced only if `closing`. -/
inductive Receives (env : Env σ) (closing : Bool) (s : Station σ) :
    List (StreamId × ParsedPacket) → Station σ → Prop
  | refl : Receives env closing s [] s
  | packet {l s'} (h : Receives env closing s l s') (streamId : StreamId) (p : ParsedPacket) :
    Receives env closing s (l ++ [(streamId, p)]) (receivePacket env streamId p s')
  | read {l s'} (h : Receives env closing s l s') :
    Receives env closing s l { s' with world := (reportStatsNowNs env s'.world).2 }
  | drain {l s'} (h : Receives env closing s l s') (force : Bool) (hforce : force = true → closing = true) :
    Receives env closing s l { s' with world := (recoveryEngineDrain env force s'.world).2 }
  | sink {l s'} (h : Receives env closing s l s') (state : σ) :
    Receives env closing s l { s' with world := { s'.world with sinkState := state } }

/-- From `s` to `s'` the packets `l` are received if `ok`, and the first of them otherwise. -/
def ReceivesIf (env : Env σ) (closing : Bool) (s : Station σ) (l : List (StreamId × ParsedPacket)) (ok : Bool)
    (s' : Station σ) : Prop :=
  if ok then Receives env closing s l s' else ∃ l', l' <+: l ∧ Receives env closing s l' s'

section Receives

variable {closing : Bool} {s s' s'' : Station σ} {l l' : List (StreamId × ParsedPacket)} {m : MainLoop σ}

theorem Receives.trans (h : Receives env closing s l s') (h' : Receives env closing s' l' s'') :
    Receives env closing s (l ++ l') s'' := by
  induction h' with
  | refl =>
    rw [List.append_nil]
    exact h
  | packet _ streamId p ih =>
    rw [← List.append_assoc]
    exact ih.packet streamId p
  | read _ ih => exact ih.read
  | drain _ force hforce ih => exact ih.drain force hforce
  | sink _ state ih => exact ih.sink state

theorem ReceivesIf.exists_receives {ok : Bool} (h : ReceivesIf env closing s l ok s') :
    ∃ l', l' <+: l ∧ Receives env closing s l' s' := by
  cases ok with
  | true => exact ⟨l, List.prefix_rfl, h⟩
  | false => exact h

theorem Receives.trans_if {ok : Bool} (h : Receives env closing s l s')
    (h' : ReceivesIf env closing s' l' ok s'') :
    ReceivesIf env closing s (l ++ l') ok s'' := by
  cases ok with
  | true => exact h.trans h'
  | false =>
    obtain ⟨l₁, hstart, hreceives⟩ := h'
    exact ⟨l ++ l₁, (List.prefix_append_right_inj l).mpr hstart, h.trans hreceives⟩

/-- A routine and the rest of the loop. -/
theorem andThen_receivesIf {res : Bool × MainLoop σ} {next : MainLoop σ → Bool × MainLoop σ}
    (h : ReceivesIf env closing s l res.1 res.2.station)
    (hnext : ∀ m, ReceivesIf env closing m.station l' (next m).1 (next m).2.station) :
    ReceivesIf env closing s (l ++ l') (andThen res next).1 (andThen res next).2.station := by
  rcases res with ⟨_ | _, m⟩
  · obtain ⟨l₁, hstart, hreceives⟩ := h
    exact ⟨l₁, hstart.trans (List.prefix_append _ _), hreceives⟩
  · exact Receives.trans_if (show Receives env closing s l m.station from h) (hnext m)

theorem receivePackets_receivesIf (streamId : StreamId) (ps : List ParsedPacket) (s : Station σ) :
    ReceivesIf env closing s (ps.map (streamId, ·)) (receivePackets env streamId ps s).1
      (receivePackets env streamId ps s).2 := by
  induction ps generalizing s with
  | nil => exact .refl
  | cons p rest ih =>
    have hfirst : Receives env closing s [(streamId, p)] (receivePacket env streamId p s) :=
      Receives.packet .refl streamId p
    rw [receivePackets]
    split
    · exact Receives.trans_if hfirst (ih (receivePacket env streamId p s))
    · exact ⟨[(streamId, p)], List.prefix_append _ _, hfirst⟩

theorem receivedDatagram_nil : (receivedDatagram []).packets = [] := rfl

theorem receiveInput_receivesIf (streamId : StreamId) (arrival : Arrival) (m : MainLoop σ) :
    ReceivesIf env closing m.station (arrival.packets.map (streamId, ·))
      (receiveInput env streamId arrival m).1
      (receiveInput env streamId arrival m).2.station := by
  cases arrival with
  | nothing => exact .refl
  | failure => exact ⟨[], List.prefix_rfl, .refl⟩
  | datagram bytes =>
    rw [receiveInput]
    by_cases hempty : bytes = []
    · rw [if_pos hempty, hempty, Arrival.packets, receivedDatagram_nil]
      exact .refl
    · obtain ⟨t, hprocess, hstation⟩ :=
        processDatagram_packets env streamId (receivedDatagram bytes) m.receiver
      rw [if_neg hempty, hprocess]
      simp only [Option.elim_some, MainLoop.station]
      rw [hstation]
      exact receivePackets_receivesIf streamId _ _

theorem reportStatsMaybePrint_receives (force : Bool) (h : Receives env closing s l m.station) :
    Receives env closing s l (reportStatsMaybePrint env force m).station := by
  simp only [reportStatsMaybePrint]
  split
  · exact h.read
  · exact h.read.read.read

theorem reportRound_receives (consoleReport : Bool) (h : Receives env closing s l m.station) :
    Receives env closing s l (reportRound env consoleReport m).station := by
  rw [reportRound]
  split
  · exact reportStatsMaybePrint_receives false h.read
  · exact h.read

theorem handleVisits_receives (visits : Option Visits) (h : Receives env closing s l m.station) :
    Receives env closing s l (handleVisits env visits m).station := by
  have hclients (clients : List Client) (m : MainLoop σ) (h : Receives env closing s l m.station) :
      Receives env closing s l (clients.foldl (handleVisit env) m).station := by
    induction clients generalizing m with
    | nil => exact h
    | cons c rest ih =>
      refine ih (handleVisit env m c) ?_
      rw [handleVisit]
      split
      · exact h.read.read
      · exact h
  cases visits with
  | none => exact h
  | some visits =>
    rw [handleVisits]
    split
    · rw [webServerHandleReady]
      split <;> exact hclients visits.clients m h
    · exact h

theorem runRound_receivesIf (consoleReport : Bool) (m : MainLoop σ) (round : Round) :
    ReceivesIf env closing m.station round.packets (runRound env consoleReport m round).1
      (runRound env consoleReport m round).2.station := by
  cases round with
  | interrupted => exact .refl
  | failed => exact ⟨[], List.prefix_rfl, .refl⟩
  | ready visits arrivals =>
    have hvisits : Receives env closing m.station [] (handleVisits env visits m).station :=
      handleVisits_receives visits .refl
    have hdrain (m : MainLoop σ) : ReceivesIf env closing m.station [] (drainRound env m).1
        (drainRound env m).2.station := by
      have hdrained : Receives env closing m.station [] (drainRound env m).2.station :=
        Receives.refl.drain false (by simp)
      cases (drainRound env m).1 with
      | true => exact hdrained
      | false => exact ⟨[], List.prefix_rfl, hdrained⟩
    have hend (m : MainLoop σ) : ReceivesIf env closing m.station [] true
        (reportRound env consoleReport m).station := reportRound_receives consoleReport .refl
    refine Receives.trans_if (l := []) hvisits (andThen_receivesIf (receiveInput_receivesIf _ _ _) ?_)
    intro m
    rw [← List.append_nil (List.map _ _)]
    refine andThen_receivesIf (receiveInput_receivesIf _ _ m) fun m => ?_
    exact andThen_receivesIf (l := []) (hdrain m) fun m => hend m

theorem runRounds_receivesIf (consoleReport : Bool) (rounds : List Round) (m : MainLoop σ) :
    ReceivesIf env closing m.station (rounds.flatMap Round.packets) (runRounds env consoleReport rounds m).1
      (runRounds env consoleReport rounds m).2.station := by
  induction rounds generalizing m with
  | nil => exact .refl
  | cons round rest ih =>
    rw [List.flatMap_cons]
    exact andThen_receivesIf (runRound_receivesIf consoleReport m round) ih

theorem closeLoop_receives (consoleReport : Bool) (h : Receives env true s l m.station) :
    Receives env true s l (closeLoop env consoleReport m).station := by
  obtain ⟨state, hflush⟩ := recoveryEngineFlush_world env m.world
  have hflushed : Receives env true s l (m.withWorld (recoveryEngineFlush env m.world).2).station := by
    rw [hflush]
    exact (h.drain true fun _ => rfl).sink state
  rw [closeLoop]
  split
  · exact reportStatsMaybePrint_receives true hflushed
  · exact hflushed

/-- The packets of all rounds, in the order in which they are received. -/
def roundPackets (rounds : List Round) : List (StreamId × ParsedPacket) := rounds.flatMap Round.packets

/-- **What the loop receives**: the packets of its datagrams, all of them if it ends by the signal. -/
theorem runLoop_receives (env : Env σ) (options : LoopOptions) (opening : Opening) (sinkState : σ)
    (rounds : List Round) :
    ReceivesIf env true (freshStation options.config sinkState (env.clock 0)) (roundPackets rounds)
      (decide ((runLoop env options opening sinkState rounds).1 = 0))
      (runLoop env options opening sinkState rounds).2.station := by
  have hopen : Receives env true (freshStation options.config sinkState (env.clock 0)) []
      (openLoop env options.config options.httpPort sinkState).station := Receives.refl.read
  have hrounds := hopen.trans_if (runRounds_receivesIf options.consoleReport rounds _)
  rw [List.nil_append] at hrounds
  rw [runLoop]
  split
  · exact ⟨[], List.nil_prefix, hopen⟩
  generalize runRounds env options.consoleReport rounds _ = res at hrounds ⊢
  rcases res with ⟨_ | _, m⟩
  · exact hrounds
  · exact closeLoop_receives options.consoleReport hrounds

/-! ### What is received -/

theorem receivePacket_world (streamId : StreamId) (p : ParsedPacket) (s : Station σ) :
    (receivePacket env streamId p s).world =
      step env (reportStatsNowNs env s.world).2 (.push streamId p) := rfl

theorem Receives.stages (h : Receives env closing s l s') : ReflTransGen (Stage env) s.world s'.world := by
  induction h with
  | refl => exact .refl
  | packet _ streamId p ih => exact (ih.tail (.read _)).trans (step_stages env _ (.push streamId p))
  | read _ ih => exact ih.tail (.read _)
  | drain _ force _ ih => exact ih.trans (step_stages env _ (.drain force))
  | sink _ state ih => exact ih.tail (.sink state _)

/-- The packets of a stream. -/
def packetsOf (streamId : StreamId) (l : List (StreamId × ParsedPacket)) : List ParsedPacket :=
  l.filterMap fun x => if x.1 = streamId then some x.2 else none

theorem packetsOf_append (streamId : StreamId) (l l' : List (StreamId × ParsedPacket)) :
    packetsOf streamId (l ++ l') = packetsOf streamId l ++ packetsOf streamId l' :=
  List.filterMap_append ..

/-- **The engine has received these packets**, and nothing else. -/
theorem Receives.received_eq (h : Receives env closing s l s') (streamId : StreamId) :
    received streamId s'.world.trace =
      received streamId s.world.trace ++ (packetsOf streamId l).map (·.packet) := by
  induction h with
  | refl => simp [packetsOf]
  | packet _ i p ih =>
    rw [receivePacket_world, step_received]
    refine (congrArg (· ++ _) ih).trans ?_
    rw [packetsOf_append, List.map_append, List.append_assoc]
    rfl
  | read _ ih => exact ih
  | drain _ force _ ih =>
    refine (step_received env _ (.drain force) streamId).trans ?_
    rw [ih]
    simp [pushedPackets]
  | sink _ state ih => exact ih

end Receives

end TwoStream
