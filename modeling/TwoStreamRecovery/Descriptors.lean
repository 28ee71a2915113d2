import TwoStreamRecovery.Lib.Ledger
import TwoStreamRecovery.MainLoop
import TwoStreamRecovery.OutputUdp

/-!
# Descriptors, memberships and memory (`main`)

* `OperatingSystem`: how the calls are answered, for any log of what the program has done so far. A call
  is in the log before it is answered, so that any of them may fail, whatever became of those before.
* `inputUdpOpenWithInterface`, `outputUdpOpen`, `recoveryEngineInitWithConfig`, `webServerOpen` and their
  counterparts, as programs that write this log.
* `runLoop`, `main`: the loop with its descriptors and the datagrams it sends, around the loop on its
  variables.

What the calls are given (ports, options of a socket) is not part of the log.
-/

namespace TwoStream.Descriptors

/-! ### The operating system -/

/-- What the program holds of the operating system. -/
inductive Resource where
  | descriptor (fd : ℕ)
  | membership (fd : ℕ)
  | block (address : ℕ)
  deriving DecidableEq

/-- The socket that a membership in a multicast group belongs to. -/
def Resource.socket : Resource → Option Resource
  | .membership fd => some (.descriptor fd)
  | _ => none

instance : Owned Resource where
  owner := Resource.socket
  owner_ne_self r := by cases r <;> simp [Resource.socket]

/-- What the program does: with a resource, by a call, or by sending a datagram. -/
abbrev Action := Deed Resource (List Packet)

/-- The operating system: whether the call that the log ends with succeeds, and the descriptor or the block
that is new then. -/
structure OperatingSystem where
  succeeds : List Action → Bool
  descriptor : List Action → ℕ
  block : List Action → ℕ
  descriptor_new : ∀ log held, balance log = some held →
    Resource.descriptor (descriptor log) ∉ held
  block_new : ∀ log held, balance log = some held → Resource.block (block log) ∉ held

abbrev Process (α : Type) := Program Resource (List Packet) α

variable (os : OperatingSystem)

/-- The descriptor of a call that succeeds. -/
def newDescriptor : Process ℕ := do
  let log ← get
  perform (.acquire (.descriptor (os.descriptor log)))
  return os.descriptor log

/-- `socket`. -/
def openSocket : Process (Option ℕ) := do
  perform .attempt
  if os.succeeds (← get) then
    let fd ← newDescriptor os
    return some fd
  else return none

/-- `calloc`. -/
def calloc : Process (Option ℕ) := do
  perform .attempt
  let log ← get
  if os.succeeds log then
    perform (.acquire (.block (os.block log)))
    return some (os.block log)
  else return none

/-- A call on a descriptor, and whether it succeeds. -/
def call (fd : ℕ) : Process Bool := do
  perform (.use (.descriptor fd))
  return os.succeeds (← get)

/-- A call on a descriptor; if it fails, the routine closes what it has opened. -/
def checked {α : Type} (fd : ℕ) (close : Process Unit) (next : Process (Option α)) :
    Process (Option α) := do
  if ← call os fd then next
  else
    close
    return none

/-- `close`, unless the descriptor is -1. -/
def closeDescriptor : Option ℕ → Process Unit
  | some fd => perform (.release (.descriptor fd))
  | none => return ()

/-- `free`. -/
def free : Option ℕ → Process Unit
  | some address => perform (.release (.block address))
  | none => return ()

/-! ### The inputs -/

/-- `input_udp_t`. -/
structure InputUdp where
  fd : Option ℕ
  joinedMulticast : Bool

/-- `input_udp_close`. -/
def inputUdpClose (input : InputUdp) : Process Unit :=
  match input.fd with
  | none => return ()
  | some fd => do
    if input.joinedMulticast then perform (.release (.membership fd))
    closeDescriptor (some fd)

/-- `is_multicast_address`, of an address in host order. -/
def isMulticastAddress (address : ℕ) : Bool := decide (0xe0000000 ≤ address ∧ address ≤ 0xefffffff)

/-- `parse_interface_address`; `inet_pton` is the one of the C library. -/
def parseInterfaceAddress (inetPton : CString → Option ℕ) : Option CString → Option ℕ
  | none => some 0
  | some text =>
    if text = [] ∨ text = "0.0.0.0".toList ∨ text = "*".toList then some 0 else inetPton text

/-- `input_address` of `input_udp_open_with_interface`. -/
def inputAddress (inetPton : CString → Option ℕ) (host : CString) : Option ℕ :=
  if host = "0.0.0.0".toList ∨ host = "*".toList then some 0 else inetPton host

/-- The end of `input_udp_open_with_interface`: `F_GETFL` and `F_SETFL`. -/
def inputUdpSetFlags (fd : ℕ) (input : InputUdp) : Process (Option InputUdp) :=
  checked os fd (inputUdpClose input) <|
  checked os fd (inputUdpClose input) <|
  return some input

/-- The multicast part of `input_udp_open_with_interface`. -/
def inputUdpJoin (inetPton : CString → Option ℕ) (interfaceAddress : Option CString) (fd : ℕ) :
    Process (Option InputUdp) :=
  match parseInterfaceAddress inetPton interfaceAddress with
  | none => do
    inputUdpClose ⟨some fd, false⟩
    return none
  | some _ =>
    checked os fd (inputUdpClose ⟨some fd, false⟩) do
      perform (.acquire (.membership fd))
      inputUdpSetFlags os fd ⟨some fd, true⟩

/-- `input_udp_open_with_interface`: after `socket`, two options are set and the socket is bound. -/
def inputUdpOpenWithInterface (inetPton : CString → Option ℕ) (url : CString)
    (interfaceAddress : Option CString) : Process (Option InputUdp) :=
  match inputUdpParseUrl url 128 with
  | none => return none
  | some (host, _) =>
    match inputAddress inetPton host with
    | none => return none
    | some address => do
      match ← openSocket os with
      | none => return none
      | some fd =>
        checked os fd (inputUdpClose ⟨some fd, false⟩) <|
        checked os fd (inputUdpClose ⟨some fd, false⟩) <|
        checked os fd (inputUdpClose ⟨some fd, false⟩) <|
          if isMulticastAddress address then inputUdpJoin os inetPton interfaceAddress fd
          else inputUdpSetFlags os fd ⟨some fd, false⟩

/-! ### The output -/

/-- `output_udp_t`, as far as it is opened and closed. -/
structure OutputSocket where
  fd : Option ℕ
  addrStorage : Option ℕ

/-- `output_udp_close`. -/
def outputUdpClose (output : OutputSocket) : Process Unit := do
  closeDescriptor output.fd
  free output.addrStorage

/-- `output_udp_open`. -/
def outputUdpOpen (inetPton : CString → Option ℕ) (url : CString) : Process (Option OutputSocket) := do
  match ← calloc os with
  | none => return none
  | some addr =>
    match outputUdpParseUrl url 128 with
    | none =>
      outputUdpClose ⟨none, some addr⟩
      return none
    | some (host, _) =>
      match ← openSocket os with
      | none =>
        outputUdpClose ⟨none, some addr⟩
        return none
      | some fd =>
        match inetPton host with
        | none =>
          outputUdpClose ⟨some fd, some addr⟩
          return none
        | some _ => return some ⟨some fd, some addr⟩

/-! ### The engine -/

/-- An array with an entry for each stream. -/
def byStream {α : Type} (primary secondary : α) : StreamId → α
  | .primary => primary
  | .secondary => secondary

/-- The memory of the engine: the records of its histories and queues. -/
structure EngineMemory where
  history : StreamId → ℕ
  primaryQueue : ℕ
  secondaryQueue : ℕ

/-- `recovery_engine_free`. -/
def recoveryEngineFree (engine : EngineMemory) : Process Unit := do
  free (some engine.secondaryQueue)
  free (some engine.primaryQueue)
  free (some (engine.history .secondary))
  free (some (engine.history .primary))

/-- `recovery_engine_init_with_config`: `packet_history_init` and `delay_queue_init`, each twice. -/
def recoveryEngineInitWithConfig : Process (Option EngineMemory) := do
  match ← calloc os with
  | none => return none
  | some primaryHistory =>
    match ← calloc os with
    | none =>
      free (some primaryHistory)
      return none
    | some secondaryHistory =>
      match ← calloc os with
      | none =>
        free (some secondaryHistory)
        free (some primaryHistory)
        return none
      | some primaryQueue =>
        match ← calloc os with
        | none =>
          free (some primaryQueue)
          free (some secondaryHistory)
          free (some primaryHistory)
          return none
        | some secondaryQueue =>
          return some ⟨byStream primaryHistory secondaryHistory, primaryQueue, secondaryQueue⟩

/-! ### The web server -/

/-- `web_server_close`. -/
def webServerClose (fd : Option ℕ) : Process Unit := closeDescriptor fd

/-- `web_server_open`: `SO_REUSEADDR`, `set_nonblocking`, `bind` and `listen`. -/
def webServerOpen : Process (Option ℕ) := do
  match ← openSocket os with
  | none => return none
  | some fd =>
    checked os fd (webServerClose (some fd)) <|
    checked os fd (webServerClose (some fd)) <|
    checked os fd (webServerClose (some fd)) <|
    checked os fd (webServerClose (some fd)) <|
    checked os fd (webServerClose (some fd)) <|
    return some fd

/-- A file is opened for a request. The counters do not matter for this. -/
def opensFile (files : FileSystem) (server : WebServer) (request : List UInt8) : Bool :=
  (handleClient files none server request).accesses.any fun access =>
    decide (access = .fopen access.path) && (files.fopen access.path).isSome

/-- `handle_client`: `recv`, and the file and `send` of the reply. -/
def handleClient (opensFile : Bool) (clientFd : ℕ) : Process Unit := do
  perform (.use (.descriptor clientFd))
  if opensFile then
    let file ← newDescriptor os
    perform (.use (.descriptor file))
    perform (.use (.descriptor clientFd))
    closeDescriptor (some file)
  else perform (.use (.descriptor clientFd))

/-- One turn of `web_server_handle_ready`: `accept`, `set_nonblocking`, `wait_for_client_request`. -/
def handleVisit (files : FileSystem) (server : WebServer) (fd : ℕ) (client : Client) : Process Unit := do
  perform (.use (.descriptor fd))
  let clientFd ← newDescriptor os
  perform (.use (.descriptor clientFd))
  if !client.nonblocking then closeDescriptor (some clientFd)
  else
    perform (.use (.descriptor clientFd))
    if !client.inTime then closeDescriptor (some clientFd)
    else
      handleClient os (opensFile files server client.request) clientFd
      closeDescriptor (some clientFd)

/-- `web_server_handle_ready`; what `web_server.fd` is then. -/
def webServerHandleReady (files : FileSystem) (server : WebServer) (visits : Visits) (fd : ℕ) :
    Process (Option ℕ) := do
  visits.clients.forM (handleVisit os files server fd)
  perform (.use (.descriptor fd))
  if visits.listenerLost then
    webServerClose (some fd)
    return none
  else return some fd

/-! ### The loop -/

/-- What `run_loop` works with. -/
structure Environment where
  sendto : ℕ → ℤ
  clock : ℕ → ℕ
  files : FileSystem
  inputs : StreamId → InputUdp
  output : OutputSocket
  options : LoopOptions

/-- Where `run_loop` returns, with `web_server.fd` where it is not closed. -/
inductive Exit where
  | webServerFailed
  | engineFailed
  | selectFailed
  | recvFailed (webServer : Option ℕ)
  | engineRefused
  | stopped
  deriving DecidableEq

/-- What `run_loop` returns. -/
def Exit.code : Exit → ℤ
  | .stopped => 0
  | _ => -1

/-- What has been opened then. -/
def Exit.opening (exit : Exit) : Opening :=
  ⟨decide (exit ≠ .webServerFailed), decide (exit ≠ .engineFailed)⟩

/-- Where `run_loop` returns, with its variables. -/
structure Return where
  exit : Exit
  loop : MainLoop OutputUdp

/-- The variables of `run_loop`, with `web_server.fd`. -/
structure LoopState where
  loop : MainLoop OutputUdp
  webServer : Option ℕ

variable (e : Environment)

abbrev Environment.env : Env OutputUdp := udpEnv e.sendto e.clock

/-- A call on a descriptor that may be -1. -/
def useDescriptor : Option ℕ → Process Unit
  | some fd => perform (.use (.descriptor fd))
  | none => return ()

/-- The socket and the address of a `sendto`. -/
def useOutput : Process Unit := do
  useDescriptor e.output.fd
  match e.output.addrStorage with
  | some address => perform (.use (.block address))
  | none => return ()

/-- `sendto`, where it sends the datagram. -/
def sendDatagram (datagram : List Packet) : Process Unit := do
  useOutput e
  perform (.emit datagram)

/-- `sendto`, where it fails. -/
def failDatagram : Process Unit := do
  useOutput e
  perform .attempt

/-- The datagrams that the loop has sent. -/
abbrev sentBy (m : MainLoop OutputUdp) : List (List Packet) := m.world.sinkState.datagrams

/-- The engine works on its memory, sends the datagrams by which the loop has come further, and calls the
`sendto` that fails, if there is one. -/
def engineWorks (engine : EngineMemory) (before after : MainLoop OutputUdp) : Process Unit := do
  perform (.use (.block (engine.history .primary)))
  perform (.use (.block (engine.history .secondary)))
  perform (.use (.block engine.primaryQueue))
  perform (.use (.block engine.secondaryQueue))
  ((sentBy after).drop (sentBy before).length).forM (sendDatagram e)
  if (sentBy after).length - (sentBy before).length <
      after.world.sinkState.calls - before.world.sinkState.calls then
    failDatagram e

/-- `select`. -/
def select (state : LoopState) : Process Unit := do
  useDescriptor (e.inputs .primary).fd
  useDescriptor (e.inputs .secondary).fd
  useDescriptor state.webServer

/-- The web server's part of a round. -/
def handleVisits (visits : Option Visits) (state : LoopState) : Process LoopState := do
  let loop := TwoStream.handleVisits e.env visits state.loop
  match visits, state.webServer with
  | some visits, some fd =>
    let server := TwoStream.webServerOpen "webroot".toList
    let webServer ← webServerHandleReady os e.files server visits fd
    return ⟨loop, webServer⟩
  | _, _ => return { state with loop := loop }

/-- An input's part of a round. -/
def receiveInput (engine : EngineMemory) (streamId : StreamId) (arrival : Arrival) (state : LoopState) :
    Process (Except Return LoopState) := do
  let res := TwoStream.receiveInput e.env streamId arrival state.loop
  match arrival with
  | .nothing => return .ok state
  | .failure =>
    useDescriptor (e.inputs streamId).fd
    recoveryEngineFree engine
    return .error ⟨.recvFailed state.webServer, res.2⟩
  | .datagram bytes =>
    useDescriptor (e.inputs streamId).fd
    if bytes = [] then return .ok state
    else
      engineWorks e engine state.loop res.2
      if res.1 then return .ok { state with loop := res.2 }
      else
        recoveryEngineFree engine
        webServerClose state.webServer
        return .error ⟨.engineRefused, res.2⟩

/-- The drain of a round, and the reports after it. -/
def drainRound (engine : EngineMemory) (state : LoopState) : Process (Except Return LoopState) := do
  let res := TwoStream.drainRound e.env state.loop
  engineWorks e engine state.loop res.2
  if res.1 then return .ok { state with loop := reportRound e.env e.options.consoleReport res.2 }
  else
    recoveryEngineFree engine
    webServerClose state.webServer
    return .error ⟨.engineRefused, res.2⟩

/-- One round of the loop. -/
def runRound (engine : EngineMemory) (state : LoopState) : Round → Process (Except Return LoopState)
  | .interrupted => do
    select e state
    return .ok state
  | .failed => do
    select e state
    recoveryEngineFree engine
    webServerClose state.webServer
    return .error ⟨.selectFailed, state.loop⟩
  | .ready visits arrivals => do
    select e state
    let state ← handleVisits os e visits state
    (receiveInput e engine .primary (arrivals .primary) state).onOk fun state =>
      (receiveInput e engine .secondary (arrivals .secondary) state).onOk fun state =>
        drainRound e engine state

/-- The rounds of the loop. -/
def runRounds (engine : EngineMemory) : List Round → LoopState → Process (Except Return LoopState)
  | [], state => return .ok state
  | round :: rest, state => (runRound os e engine state round).onOk (runRounds engine rest)

/-- The variables before the first round. -/
abbrev Environment.start : MainLoop OutputUdp :=
  openLoop e.env e.options.config e.options.httpPort TwoStream.outputUdpOpen

/-- `run_loop` from the engine on. -/
def runEngine (rounds : List Round) (webServer : Option ℕ) : Process Return := do
  match ← recoveryEngineInitWithConfig os with
  | none =>
    webServerClose webServer
    return ⟨.engineFailed, e.start⟩
  | some engine =>
    match ← runRounds os e engine rounds ⟨e.start, webServer⟩ with
    | .error result => return result
    | .ok state =>
      let loop := closeLoop e.env e.options.consoleReport state.loop
      engineWorks e engine state.loop loop
      recoveryEngineFree engine
      webServerClose state.webServer
      return ⟨.stopped, loop⟩

/-- `run_loop`. -/
def runLoop (rounds : List Round) : Process Return := do
  if e.options.httpPort ≠ 0 then
    match ← webServerOpen os with
    | none => return ⟨.webServerFailed, e.start⟩
    | some fd => runEngine os e rounds (some fd)
  else runEngine os e rounds none

/-! ### The program -/

/-- How `main` ends. -/
inductive MainExit where
  | help
  | wrongArguments
  | inputFailed
  | outputFailed
  | ran (result : Return)

/-- The options that `run_loop` reads. -/
def loopOptions (options : CommandLineOptions) : LoopOptions :=
  ⟨options.recoveryConfig, options.httpPort, options.consoleReport⟩

/-- `main`, for the rounds of its loop. -/
def main (inetPton : CString → Option ℕ) (sendto : ℕ → ℤ) (clock : ℕ → ℕ) (files : FileSystem)
    (args : List CString) (rounds : List Round) : Process MainExit :=
  match commandLineParse args with
  | .error .help => return .help
  | .error (.errors _) => return .wrongArguments
  | .ok options => do
    match ← inputUdpOpenWithInterface os inetPton (options.inputPrimaryUrl.getD [])
        options.inputPrimaryInterface with
    | none => return .inputFailed
    | some primary =>
      match ← inputUdpOpenWithInterface os inetPton (options.inputSecondaryUrl.getD [])
          options.inputSecondaryInterface with
      | none =>
        inputUdpClose primary
        return .inputFailed
      | some secondary =>
        match ← outputUdpOpen os inetPton options.outputUrl with
        | none =>
          inputUdpClose secondary
          inputUdpClose primary
          return .outputFailed
        | some output =>
          let inputs := byStream primary secondary
          let environment := ⟨sendto, clock, files, inputs, output, loopOptions options⟩
          let result ← runLoop os environment rounds
          outputUdpClose output
          inputUdpClose secondary
          inputUdpClose primary
          return .ran result

end TwoStream.Descriptors
