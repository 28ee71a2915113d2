import TwoStreamRecovery.Descriptors
import TwoStreamRecovery.FailStop
import Mathlib.Algebra.Order.Group.Multiset

/-!
# What is opened is closed (`main`)

* For each routine that opens or closes something, what is held when it returns.
* `Served`, `Ended`: the same for a part of the loop and for all of it, with what the loop on its variables
  does and the datagrams that are sent.
* **`main_releases`**: every run of `main` uses what it holds only, and has released all of it at its
  end, but for the listening socket if `recv` has failed.
* **`main_runs`**: `run_loop` ends as the loop on its variables ends, and has sent its datagrams.
* `scriptedSystem`: a system that answers as is written.
-/

namespace TwoStream.Descriptors

/-! ### What is opened and closed -/

variable {os : OperatingSystem} {e : Environment} {α : Type} {held rest : Multiset Resource} {fd : ℕ}

/-- What the result of a routine holds, if there is one. -/
def heldBy (f : α → Multiset Resource) (result : Option α) : Multiset Resource := result.elim 0 f

/-- A descriptor that may be -1. -/
def opened (fd : Option ℕ) : Multiset Resource := heldBy (fun fd => {.descriptor fd}) fd

def allocated (address : Option ℕ) : Multiset Resource := heldBy (fun address => {.block address}) address

theorem closed_singleton {r : Resource} (h : r.socket = none) : Closed {r} := by
  intro s hs o ho
  obtain rfl := Multiset.mem_singleton.mp hs
  cases h.symm.trans (Option.mem_def.mp ho)

theorem closed_heldBy {f : α → Multiset Resource} (h : ∀ a, Closed (f a)) (result : Option α) :
    Closed (heldBy f result) := by
  cases result with
  | none => exact closed_zero
  | some a => exact h a

theorem closed_opened (fd : Option ℕ) : Closed (opened fd) :=
  closed_heldBy (fun _ => closed_singleton rfl) fd

theorem closed_allocated (address : Option ℕ) : Closed (allocated address) :=
  closed_heldBy (fun _ => closed_singleton rfl) address

theorem newDescriptor_meets :
    Meets held (newDescriptor os) fun fd after => after = .descriptor fd ::ₘ held := by
  refine .get fun log hlog => ?_
  exact (Meets.acquire (os.descriptor_new log held hlog) (by simp [Owned.owner, Resource.socket])).seq
    (.pure rfl)

theorem openSocket_meets : Meets held (openSocket os) fun fd after => after = opened fd + held := by
  refine Meets.attempt.seq (.get fun log _ => ?_)
  split
  · refine newDescriptor_meets.bind fun fd after hafter => .pure ?_
    rw [hafter]
    rfl
  · exact .pure (zero_add held).symm

theorem calloc_meets : Meets held (calloc os) fun address after => after = allocated address + held := by
  refine Meets.attempt.seq (.get fun log hlog => ?_)
  split
  · exact (Meets.acquire (os.block_new log held hlog) (by simp [Owned.owner, Resource.socket])).seq
      (.pure rfl)
  · exact .pure (zero_add held).symm

theorem call_meets (h : .descriptor fd ∈ held) : Meets held (call os fd) fun _ after => after = held :=
  (Meets.use h).keeping fun _ => .get fun _ _ => .pure rfl

/-- **A checked call**: what the routine has opened is closed if the call fails. -/
theorem checked_meets {close : Process Unit} {next : Process (Option α)}
    {post : Option α → Multiset Resource → Prop} (h : .descriptor fd ∈ held)
    (hclose : Meets held close fun _ after => after = rest) (hnone : post none rest)
    (hnext : Meets held next post) : Meets held (checked os fd close next) post := by
  refine (call_meets h).keeping fun ok => ?_
  cases ok with
  | true => exact hnext
  | false => exact hclose.seq (.pure hnone)

theorem closeDescriptor_meets (fd : Option ℕ) (hrest : Closed rest) :
    Meets (opened fd + rest) (closeDescriptor fd) fun _ after => after = rest := by
  cases fd with
  | none => exact .pure (zero_add rest)
  | some fd =>
    rw [opened, heldBy, Option.elim, Multiset.singleton_add]
    exact .release hrest

theorem free_meets (address : Option ℕ) (hrest : Closed rest) :
    Meets (allocated address + rest) (free address) fun _ after => after = rest := by
  cases address with
  | none => exact .pure (zero_add rest)
  | some address =>
    rw [allocated, heldBy, Option.elim, Multiset.singleton_add]
    exact .release hrest

/-! ### Inputs and output -/

/-- What an input holds, the membership before its socket. -/
def InputUdp.resources (input : InputUdp) : Multiset Resource :=
  heldBy (fun fd => (if input.joinedMulticast then {.membership fd} else 0) + {.descriptor fd}) input.fd

/-- What the output holds. -/
def OutputSocket.resources (output : OutputSocket) : Multiset Resource :=
  opened output.fd + allocated output.addrStorage

theorem resources_plain (fd : ℕ) : InputUdp.resources ⟨some fd, false⟩ = {.descriptor fd} := zero_add _

theorem resources_joined (fd : ℕ) (rest : Multiset Resource) :
    InputUdp.resources ⟨some fd, true⟩ + rest =
      .membership fd ::ₘ (InputUdp.resources ⟨some fd, false⟩ + rest) := by
  rw [resources_plain, InputUdp.resources, heldBy, Option.elim, if_pos rfl, add_assoc,
    Multiset.singleton_add]

theorem closed_inputUdp (input : InputUdp) : Closed input.resources := by
  refine closed_heldBy (fun fd => ?_) input.fd
  split
  · refine Closed.cons (closed_singleton rfl) fun o ho => ?_
    obtain rfl := Option.some.inj (Option.mem_def.mp ho)
    exact Multiset.mem_singleton_self _
  · exact closed_zero.add (closed_singleton rfl)

theorem closed_outputSocket (output : OutputSocket) : Closed output.resources :=
  (closed_opened output.fd).add (closed_allocated output.addrStorage)

/-- **`input_udp_close`** leaves the group before it closes the socket. -/
theorem inputUdpClose_meets (input : InputUdp) (hrest : Closed rest) :
    Meets (input.resources + rest) (inputUdpClose input) fun _ after => after = rest := by
  obtain ⟨_ | fd, joined⟩ := input
  · exact .pure (zero_add rest)
  · have hsocket : Closed ({.descriptor fd} + rest) := (closed_opened (some fd)).add hrest
    have hclose := closeDescriptor_meets (some fd) hrest
    cases joined with
    | true =>
      rw [resources_joined, resources_plain]
      exact (Meets.release hsocket).seq hclose
    | false =>
      rw [resources_plain]
      exact hclose

theorem inputUdpSetFlags_meets (joined : Bool) (hrest : Closed rest) :
    Meets (InputUdp.resources ⟨some fd, joined⟩ + rest) (inputUdpSetFlags os fd ⟨some fd, joined⟩)
      fun input after => after = heldBy InputUdp.resources input + rest := by
  have hfd : .descriptor fd ∈ InputUdp.resources ⟨some fd, joined⟩ + rest := by
    simp [InputUdp.resources, heldBy]
  have hclose := inputUdpClose_meets ⟨some fd, joined⟩ hrest
  refine checked_meets hfd hclose (zero_add rest).symm ?_
  exact checked_meets hfd hclose (zero_add rest).symm (.pure rfl)

theorem inputUdpJoin_meets {inetPton : CString → Option ℕ} {interfaceAddress : Option CString}
    (hrest : Closed rest) :
    Meets (InputUdp.resources ⟨some fd, false⟩ + rest) (inputUdpJoin os inetPton interfaceAddress fd)
      fun input after => after = heldBy InputUdp.resources input + rest := by
  have hclose := inputUdpClose_meets ⟨some fd, false⟩ hrest
  have hfd : .descriptor fd ∈ InputUdp.resources ⟨some fd, false⟩ + rest := by
    simp [resources_plain]
  unfold inputUdpJoin
  split
  · exact hclose.seq (.pure (zero_add rest).symm)
  · refine checked_meets hfd hclose (zero_add rest).symm (.of_nodup fun hnodup => ?_)
    have hfree : .membership fd ∉ InputUdp.resources ⟨some fd, false⟩ + rest := by
      rw [resources_plain, Multiset.singleton_add] at hnodup ⊢
      intro h
      rcases Multiset.mem_cons.mp h with h | h
      · cases h
      · exact (Multiset.nodup_cons.mp hnodup).1 (hrest _ h _ rfl)
    have howner : ∀ o ∈ Owned.owner (Resource.membership fd),
        o ∈ InputUdp.resources ⟨some fd, false⟩ + rest := by
      intro o ho
      obtain rfl := Option.some.inj (Option.mem_def.mp ho)
      exact hfd
    refine (Meets.acquire hfree howner).seq ?_
    rw [← resources_joined]
    exact inputUdpSetFlags_meets true hrest

/-- **`input_udp_open_with_interface`** holds what its result holds, and nothing if it fails. -/
theorem inputUdpOpenWithInterface_meets {inetPton : CString → Option ℕ} {url : CString}
    {interfaceAddress : Option CString} (hrest : Closed rest) :
    Meets rest (inputUdpOpenWithInterface os inetPton url interfaceAddress) fun input after =>
      after = heldBy InputUdp.resources input + rest := by
  unfold inputUdpOpenWithInterface
  split
  · exact .pure (zero_add rest).symm
  · split
    · exact .pure (zero_add rest).symm
    · refine openSocket_meets.bind fun fd after hafter => ?_
      cases fd with
      | none => exact .pure hafter
      | some fd =>
        obtain rfl : after = InputUdp.resources ⟨some fd, false⟩ + rest :=
          hafter.trans (congrArg (· + rest) (resources_plain fd).symm)
        have hclose := inputUdpClose_meets ⟨some fd, false⟩ hrest
        have hfd : .descriptor fd ∈ InputUdp.resources ⟨some fd, false⟩ + rest := by
          simp [resources_plain]
        have hnone : rest = heldBy InputUdp.resources none + rest := (zero_add rest).symm
        refine checked_meets hfd hclose hnone (checked_meets hfd hclose hnone
          (checked_meets hfd hclose hnone ?_))
        split
        · exact inputUdpJoin_meets hrest
        · exact inputUdpSetFlags_meets false hrest

/-- **`output_udp_close`**. -/
theorem outputUdpClose_meets (output : OutputSocket) (hrest : Closed rest) :
    Meets (output.resources + rest) (outputUdpClose output) fun _ after => after = rest := by
  rw [OutputSocket.resources, add_assoc]
  exact (closeDescriptor_meets _ ((closed_allocated _).add hrest)).seq (free_meets _ hrest)

/-- **`output_udp_open`** holds what its result holds, and nothing if it fails. -/
theorem outputUdpOpen_meets {inetPton : CString → Option ℕ} {url : CString} (hrest : Closed rest) :
    Meets rest (outputUdpOpen os inetPton url) fun output after =>
      after = heldBy OutputSocket.resources output + rest := by
  have hnone : rest = heldBy OutputSocket.resources none + rest := (zero_add rest).symm
  have hclose (fd addr : Option ℕ) : Meets (opened fd + allocated addr + rest)
      (outputUdpClose ⟨fd, addr⟩ >>= fun _ => pure none) fun output after =>
        after = heldBy OutputSocket.resources output + rest :=
    (outputUdpClose_meets ⟨fd, addr⟩ hrest).seq (.pure hnone)
  refine calloc_meets.bind fun addr after hafter => ?_
  subst hafter
  cases addr with
  | none => exact .pure rfl
  | some addr =>
    have hfirst : allocated (some addr) + rest = opened none + allocated (some addr) + rest := by
      rw [opened, heldBy, Option.elim, zero_add]
    dsimp only
    split
    · rw [hfirst]
      exact hclose none (some addr)
    · refine openSocket_meets.bind fun fd after hafter => ?_
      rw [← add_assoc] at hafter
      subst hafter
      cases fd with
      | none => exact hclose none (some addr)
      | some fd =>
        dsimp only
        split
        · exact hclose (some fd) (some addr)
        · exact .pure rfl

/-! ### Engine and web server -/

/-- What the engine holds. -/
def EngineMemory.resources (engine : EngineMemory) : Multiset Resource :=
  allocated (some engine.secondaryQueue) + (allocated (some engine.primaryQueue) +
    (allocated (some (engine.history .secondary)) + allocated (some (engine.history .primary))))

theorem recoveryEngineFree_meets (engine : EngineMemory) (hrest : Closed rest) :
    Meets (engine.resources + rest) (recoveryEngineFree engine) fun _ after => after = rest := by
  have h1 := (closed_allocated (some (engine.history .primary))).add hrest
  have h2 := (closed_allocated (some (engine.history .secondary))).add h1
  have h3 := (closed_allocated (some engine.primaryQueue)).add h2
  simp only [EngineMemory.resources, add_assoc]
  exact (free_meets _ h3).seq ((free_meets _ h2).seq ((free_meets _ h1).seq (free_meets _ hrest)))

theorem closed_engineMemory (engine : EngineMemory) : Closed engine.resources :=
  (closed_allocated _).add ((closed_allocated _).add ((closed_allocated _).add (closed_allocated _)))

/-- **`recovery_engine_init_with_config`** frees the blocks it has if one is missing. -/
theorem recoveryEngineInitWithConfig_meets (hrest : Closed rest) :
    Meets rest (recoveryEngineInitWithConfig os) fun engine after =>
      after = heldBy EngineMemory.resources engine + rest := by
  have hnone : rest = heldBy EngineMemory.resources none + rest := (zero_add rest).symm
  refine calloc_meets.bind fun first _ hfirst => ?_
  subst hfirst
  cases first with
  | none => exact .pure rfl
  | some primaryHistory =>
    have h1 := (closed_allocated (some primaryHistory)).add hrest
    refine calloc_meets.bind fun second _ hsecond => ?_
    subst hsecond
    cases second with
    | none =>
      rw [allocated, heldBy, Option.elim, zero_add]
      exact (free_meets _ hrest).seq (.pure hnone)
    | some secondaryHistory =>
      have h2 := (closed_allocated (some secondaryHistory)).add h1
      refine calloc_meets.bind fun third _ hthird => ?_
      subst hthird
      cases third with
      | none =>
        rw [allocated, heldBy, Option.elim, zero_add]
        exact (free_meets _ h1).seq ((free_meets _ hrest).seq (.pure hnone))
      | some primaryQueue =>
        refine calloc_meets.bind fun fourth _ hfourth => ?_
        subst hfourth
        cases fourth with
        | none =>
          rw [allocated, heldBy, Option.elim, zero_add]
          exact (free_meets _ h2).seq ((free_meets _ h1).seq ((free_meets _ hrest).seq (.pure hnone)))
        | some secondaryQueue =>
          refine .pure ?_
          simp only [heldBy, Option.elim, EngineMemory.resources, byStream, add_assoc]

/-- **`web_server_open`**. -/
theorem webServerOpen_meets (hrest : Closed rest) :
    Meets rest (webServerOpen os) fun fd after => after = opened fd + rest := by
  refine openSocket_meets.bind fun fd after hafter => ?_
  subst hafter
  cases fd with
  | none => exact .pure rfl
  | some fd =>
    have hfd : .descriptor fd ∈ opened (some fd) + rest := by simp [opened, heldBy]
    have hcheck {next : Process (Option ℕ)}
        (hnext : Meets (opened (some fd) + rest) next fun fd after => after = opened fd + rest) :
        Meets (opened (some fd) + rest) (checked os fd (webServerClose (some fd)) next)
          fun fd after => after = opened fd + rest :=
      checked_meets hfd (closeDescriptor_meets (some fd) hrest) (zero_add rest).symm hnext
    exact hcheck (hcheck (hcheck (hcheck (hcheck (.pure rfl)))))

theorem handleClient_meets {opensFile : Bool} (hfd : .descriptor fd ∈ held) (hheld : Closed held) :
    Meets held (handleClient os opensFile fd) fun _ after => after = held := by
  refine (Meets.use hfd).seq ?_
  cases opensFile with
  | false => exact .use hfd
  | true =>
    refine newDescriptor_meets.bind fun file _ hfile => ?_
    subst hfile
    refine (Meets.use (Multiset.mem_cons_self _ _)).seq ((Meets.use (Multiset.mem_cons_of_mem hfd)).seq ?_)
    exact .release hheld

/-- **A connection is closed**, whatever becomes of it. -/
theorem handleVisit_meets {files : FileSystem} {server : WebServer} {client : Client}
    (hfd : .descriptor fd ∈ held) (hheld : Closed held) :
    Meets held (handleVisit os files server fd client) fun _ after => after = held := by
  refine (Meets.use hfd).seq (newDescriptor_meets.bind fun clientFd _ hclient => ?_)
  subst hclient
  have hmem : .descriptor clientFd ∈ Resource.descriptor clientFd ::ₘ held := Multiset.mem_cons_self _ _
  have hopen : Closed (Resource.descriptor clientFd ::ₘ held) :=
    hheld.cons (by simp [Owned.owner, Resource.socket])
  have hclose : Meets (Resource.descriptor clientFd ::ₘ held) (closeDescriptor (some clientFd))
      fun _ after => after = held := .release hheld
  refine (Meets.use hmem).seq ?_
  split
  · exact hclose
  · refine (Meets.use hmem).seq ?_
    split
    · exact hclose
    · exact (handleClient_meets hmem hopen).seq hclose

/-- **`web_server_handle_ready`** closes every connection, and its own socket if that is lost. -/
theorem webServerHandleReady_meets {files : FileSystem} {server : WebServer} {visits : Visits}
    (hrest : Closed rest) :
    Meets (opened (some fd) + rest) (webServerHandleReady os files server visits fd)
      fun webServer after => after = opened webServer + rest := by
  have hfd : .descriptor fd ∈ opened (some fd) + rest := by simp [opened, heldBy]
  have hclosed := (closed_opened (some fd)).add hrest
  refine (Meets.forM fun client _ => handleVisit_meets hfd hclosed).seq ((Meets.use hfd).seq ?_)
  split
  · exact (closeDescriptor_meets (some fd) hrest).seq (.pure (zero_add rest).symm)
  · exact .pure rfl

/-! ### What is sent -/

section Sent

variable (sendto : ℕ → ℤ) (clock : ℕ → ℕ) (m : MainLoop OutputUdp)

/-- No datagram is taken back. -/
theorem datagrams_kept (l : List (List Packet)) :
    Kept (udpEnv sendto clock) fun emission => l <+: emission.1.datagrams := by
  intro route w r hl
  have hgrows := hl.trans (outputUdpSendTsPacket_grows sendto w.sinkState r.packet)
  rw [outputRecord_udp]
  split_ifs
  · exact hgrows
  · rw [acceptRecord_emission]
    exact hgrows

theorem receiveInput_grows (streamId : StreamId) (arrival : Arrival) :
    sentBy m <+: sentBy (TwoStream.receiveInput (udpEnv sendto clock) streamId arrival m).2 :=
  (datagrams_kept sendto clock (sentBy m)).receiveInput streamId arrival List.prefix_rfl

theorem drainRound_grows : sentBy m <+: sentBy (TwoStream.drainRound (udpEnv sendto clock) m).2 :=
  (datagrams_kept sendto clock (sentBy m)).drain false m.world List.prefix_rfl

theorem sentBy_reportStatsMaybePrint (env : Env OutputUdp) (force : Bool) :
    sentBy (reportStatsMaybePrint env force m) = sentBy m :=
  congrArg (fun emission => emission.1.datagrams) (reportStatsMaybePrint_emission force m)

theorem closeLoop_grows (consoleReport : Bool) :
    sentBy m <+: sentBy (closeLoop (udpEnv sendto clock) consoleReport m) := by
  have hdrain : sentBy m <+:
      (recoveryEngineDrain (udpEnv sendto clock) true m.world).2.sinkState.datagrams :=
    (datagrams_kept sendto clock (sentBy m)).drain true m.world List.prefix_rfl
  have hflush : sentBy m <+:
      (recoveryEngineFlush (udpEnv sendto clock) m.world).2.sinkState.datagrams := by
    rw [recoveryEngineFlush]
    generalize recoveryEngineDrain (udpEnv sendto clock) true m.world = res at hdrain ⊢
    rcases res with ⟨_ | _, w⟩
    · exact hdrain
    · exact hdrain.trans (outputUdpFlush_grows sendto w.sinkState)
  rw [closeLoop]
  split
  · rw [sentBy_reportStatsMaybePrint]
    exact hflush
  · exact hflush

theorem sentBy_handleVisits (env : Env OutputUdp) (visits : Option Visits) :
    sentBy (TwoStream.handleVisits env visits m) = sentBy m := by
  obtain ⟨-, hsame⟩ : TwoStream.handleVisits env.ideal visits (m.forget framingStatsInit) = _ ∧ _ :=
    handleVisits_forget visits m
  exact congrArg (fun emission => emission.1.datagrams) hsame

theorem sentBy_reportRound (env : Env OutputUdp) (consoleReport : Bool) :
    sentBy (reportRound env consoleReport m) = sentBy m :=
  congrArg (fun emission => emission.1.datagrams) (reportRound_emission consoleReport m)

end Sent

/-! ### The loop -/

variable {engine : EngineMemory} {base : Multiset Resource} {state : LoopState}

/-- What is not released where `run_loop` returns. -/
def Exit.left : Exit → Multiset Resource
  | .recvFailed webServer => opened webServer
  | _ => 0

/-- The sockets that the loop works with are open. -/
structure Ready (e : Environment) (base : Multiset Resource) : Prop where
  inputs : ∀ streamId, opened (e.inputs streamId).fd ≤ base
  output : e.output.resources ≤ base
  closed : Closed base

/-- What is held in the loop. -/
def inLoop (engine : EngineMemory) (base : Multiset Resource) (webServer : Option ℕ) : Multiset Resource :=
  engine.resources + (opened webServer + base)

theorem useDescriptor_meets (fd : Option ℕ) (h : opened fd ≤ held) :
    Meets held (useDescriptor fd) fun _ after => after = held := by
  cases fd with
  | none => exact .pure rfl
  | some fd => exact .use (Multiset.mem_of_le h (Multiset.mem_singleton_self _))

theorem base_le_inLoop (engine : EngineMemory) (base : Multiset Resource) (webServer : Option ℕ) :
    base ≤ inLoop engine base webServer :=
  (Multiset.le_add_left base _).trans (Multiset.le_add_left _ _)

theorem useOutput_meets (hready : Ready e base) (webServer : Option ℕ) :
    Meets (inLoop engine base webServer) (useOutput e)
      fun _ held => held = inLoop engine base webServer := by
  have houtput : e.output.resources ≤ inLoop engine base webServer :=
    hready.output.trans (base_le_inLoop engine base webServer)
  refine (useDescriptor_meets _ ((Multiset.le_add_right _ _).trans houtput)).seq ?_
  split
  · next address haddress =>
    have hmem : .block address ∈ e.output.resources := by
      simp [OutputSocket.resources, haddress, allocated, heldBy]
    exact .use (Multiset.mem_of_le houtput hmem)
  · exact .pure rfl

/-- **The datagrams are sent** by which the loop has come further. -/
theorem engineWorks_makes (hready : Ready e base) (webServer : Option ℕ)
    {before after : MainLoop OutputUdp} (hgrows : sentBy before <+: sentBy after) :
    Makes (inLoop engine base webServer) (engineWorks e engine before after) fun _ held new =>
      held = inLoop engine base webServer ∧ sentBy before ++ new = sentBy after := by
  have hblock {address : ℕ} (h : .block address ∈ engine.resources) :
      Meets (inLoop engine base webServer) (perform (.use (.block address)) : Process Unit)
        fun _ held => held = inLoop engine base webServer := .use (Multiset.mem_add.mpr (.inl h))
  have hsend (datagram : List Packet) : Makes (inLoop engine base webServer) (sendDatagram e datagram)
      fun _ held new => held = inLoop engine base webServer ∧ new = [datagram] :=
    (useOutput_meets hready webServer).seqMakes (.emit datagram)
  have hfail : Meets (inLoop engine base webServer)
      (if (sentBy after).length - (sentBy before).length <
          after.world.sinkState.calls - before.world.sinkState.calls then failDatagram e
        else pure ()) fun _ held => held = inLoop engine base webServer := by
    split
    · exact (useOutput_meets hready webServer).seq .attempt
    · exact .pure rfl
  refine (hblock (by simp [EngineMemory.resources, allocated, heldBy])).seqMakes ?_
  refine (hblock (by simp [EngineMemory.resources, allocated, heldBy])).seqMakes ?_
  refine (hblock (by simp [EngineMemory.resources, allocated, heldBy])).seqMakes ?_
  refine (hblock (by simp [EngineMemory.resources, allocated, heldBy])).seqMakes ?_
  refine (Makes.forM hsend).bind ?_
  rintro _ _ _ ⟨rfl, rfl⟩
  refine hfail.mono ?_
  rintro _ _ _ ⟨rfl, rfl⟩
  refine ⟨rfl, ?_⟩
  rw [List.append_nil]
  exact List.prefix_iff_eq_append.mp hgrows

theorem select_meets (hready : Ready e base) :
    Meets (inLoop engine base state.webServer) (select e state)
      fun _ held => held = inLoop engine base state.webServer := by
  have hinput (streamId : StreamId) : opened (e.inputs streamId).fd ≤ inLoop engine base state.webServer :=
    (hready.inputs streamId).trans (base_le_inLoop engine base state.webServer)
  have hserver : opened state.webServer ≤ inLoop engine base state.webServer :=
    (Multiset.le_add_right _ base).trans (Multiset.le_add_left _ _)
  exact (useDescriptor_meets _ (hinput .primary)).seq
    ((useDescriptor_meets _ (hinput .secondary)).seq (useDescriptor_meets _ hserver))

/-- Engine and web server are given up. -/
theorem giveUp_makes {next : Process α} {post : α → Multiset Resource → List (List Packet) → Prop}
    (hready : Ready e base) (webServer : Option ℕ) (hnext : Makes base next post) :
    Makes (inLoop engine base webServer) (do recoveryEngineFree engine; webServerClose webServer; next)
      post :=
  (recoveryEngineFree_meets engine ((closed_opened webServer).add hready.closed)).seqMakes
    ((closeDescriptor_meets webServer hready.closed).seqMakes hnext)

/-- There is a web server only if there is a port for it. -/
def Listening (e : Environment) (webServer : Option ℕ) : Prop := webServer ≠ none → e.options.httpPort ≠ 0

theorem left_of_listening {webServer : Option ℕ} (h : Listening e webServer)
    (hleft : (Exit.recvFailed webServer).left ≠ 0) : e.options.httpPort ≠ 0 := by
  refine h fun hnone => hleft ?_
  rw [hnone]
  rfl

/-- The loop has returned from its rounds as `res` says, and has released what it held, but for the web
server after a failed `recv`. -/
structure GivenUp (e : Environment) (base : Multiset Resource) (res : Bool × MainLoop OutputUdp) (cause : Prop)
    (ret : Return) (held : Multiset Resource) : Prop where
  res_eq : res = (false, ret.loop)
  code : ret.exit.code = -1
  opening : ret.exit.opening = ⟨true, true⟩
  held_eq : held = ret.exit.left + base
  cause : ret.exit.left ≠ 0 → e.options.httpPort ≠ 0 ∧ cause

/-- The loop goes on as `res` says, or is given up. After `sent` it has sent what `res` says. -/
def Served (e : Environment) (engine : EngineMemory) (base : Multiset Resource) (sent : List (List Packet))
    (res : Bool × MainLoop OutputUdp) (cause : Prop) (result : Except Return LoopState)
    (held : Multiset Resource) (new : List (List Packet)) : Prop :=
  sent ++ new = sentBy res.2 ∧
    match result with
    | .ok state =>
      res = (true, state.loop) ∧ held = inLoop engine base state.webServer ∧ Listening e state.webServer
    | .error ret => GivenUp e base res cause ret held

section Served

variable {res : Bool × MainLoop OutputUdp} {sent new : List (List Packet)} {cause cause' : Prop}

theorem Served.mono {result : Except Return LoopState}
    (h : Served e engine base sent res cause result held new) (hcause : cause → cause') :
    Served e engine base sent res cause' result held new := by
  refine h.imp_right fun hresult => ?_
  cases result with
  | ok state => exact hresult
  | error ret => exact { hresult with cause := fun hleft => (hresult.cause hleft).imp_right hcause }

/-- A part of the loop and the rest. -/
theorem served_onOk {p : Process (Except Return LoopState)}
    {f : LoopState → Process (Except Return LoopState)}
    {next : MainLoop OutputUdp → Bool × MainLoop OutputUdp}
    (h : Makes held p (Served e engine base sent res cause))
    (hf : ∀ state : LoopState, Listening e state.webServer →
      Makes (inLoop engine base state.webServer) (f state)
        (Served e engine base (sentBy state.loop) (next state.loop) cause')) :
    Makes held (p.onOk f) (Served e engine base sent (andThen res next) (cause ∨ cause')) := by
  refine h.onOk ?_ ?_
  · rintro state _ new ⟨hsent, rfl, rfl, hlistening⟩
    refine (hf state hlistening).mono fun result after later hserved => ?_
    refine ⟨?_, (hserved.mono .inr).2⟩
    rw [← List.append_assoc, hsent]
    exact hserved.1
  · rintro ret after new ⟨hsent, hgiven⟩
    have hends : andThen res next = res := if_neg (by simp [hgiven.res_eq])
    rw [hends]
    exact Served.mono ⟨hsent, hgiven⟩ .inl

end Served

theorem handleVisits_meets (hready : Ready e base) (hlistening : Listening e state.webServer)
    (visits : Option Visits) :
    Meets (inLoop engine base state.webServer) (handleVisits os e visits state) fun state' held =>
      state'.loop = TwoStream.handleVisits e.env visits state.loop ∧
        held = inLoop engine base state'.webServer ∧ Listening e state'.webServer := by
  have hclosed : Closed (engine.resources + base) := (closed_engineMemory engine).add hready.closed
  have hswap (webServer : Option ℕ) :
      inLoop engine base webServer = opened webServer + (engine.resources + base) := add_left_comm _ _ _
  unfold handleVisits
  split
  · next visits fd hserver =>
    rw [hserver, hswap]
    refine (webServerHandleReady_meets hclosed).bind fun webServer held hheld => .pure ⟨rfl, ?_, ?_⟩
    · rw [hheld, hswap]
    · exact fun _ => hlistening (by simp [hserver])
  · exact .pure ⟨rfl, rfl, hlistening⟩

theorem receiveInput_makes (hready : Ready e base) (hlistening : Listening e state.webServer)
    (streamId : StreamId) (arrival : Arrival) :
    Makes (inLoop engine base state.webServer) (receiveInput e engine streamId arrival state)
      (Served e engine base (sentBy state.loop) (TwoStream.receiveInput e.env streamId arrival state.loop)
        (arrival = .failure)) := by
  have huse : Meets (inLoop engine base state.webServer) (useDescriptor (e.inputs streamId).fd)
      fun _ held => held = inLoop engine base state.webServer :=
    useDescriptor_meets _ ((hready.inputs streamId).trans (base_le_inLoop engine base state.webServer))
  have hgrows := receiveInput_grows e.sendto e.clock state.loop streamId arrival
  cases arrival with
  | nothing => exact .pure ⟨List.append_nil _, rfl, rfl, hlistening⟩
  | failure =>
    refine huse.seqMakes ((recoveryEngineFree_meets engine
      ((closed_opened state.webServer).add hready.closed)).seqMakes (.pure ⟨List.append_nil _, ?_⟩))
    exact ⟨rfl, rfl, rfl, rfl, fun hleft => ⟨left_of_listening hlistening hleft, rfl⟩⟩
  | datagram bytes =>
    refine huse.seqMakes ?_
    split
    · next hempty =>
      rw [TwoStream.receiveInput, if_pos hempty]
      exact .pure ⟨List.append_nil _, rfl, rfl, hlistening⟩
    · refine (engineWorks_makes hready state.webServer hgrows).bind ?_
      rintro _ _ new ⟨rfl, hsent⟩
      split
      · next hok => exact .pure ⟨by rwa [List.append_nil], Prod.ext hok rfl, rfl, hlistening⟩
      · next hfailed =>
        refine giveUp_makes hready state.webServer (.pure ⟨by rwa [List.append_nil], ?_⟩)
        exact ⟨Prod.ext (Bool.eq_false_iff.mpr hfailed) rfl, rfl, rfl, (zero_add base).symm,
          fun hleft => absurd rfl hleft⟩

theorem drainRound_makes (hready : Ready e base) (hlistening : Listening e state.webServer) :
    Makes (inLoop engine base state.webServer) (drainRound e engine state)
      (Served e engine base (sentBy state.loop)
        (andThen (TwoStream.drainRound e.env state.loop) fun m =>
          (true, reportRound e.env e.options.consoleReport m)) False) := by
  have hgrows := drainRound_grows e.sendto e.clock state.loop
  refine (engineWorks_makes hready state.webServer hgrows).bind ?_
  rintro _ _ new ⟨rfl, hsent⟩
  split
  · next hok =>
    rw [andThen, if_pos hok]
    refine .pure ⟨?_, rfl, rfl, hlistening⟩
    rw [List.append_nil, hsent, sentBy_reportRound]
  · next hfailed =>
    rw [andThen, if_neg hfailed]
    refine giveUp_makes hready state.webServer (.pure ⟨by rwa [List.append_nil], ?_⟩)
    exact ⟨Prod.ext (Bool.eq_false_iff.mpr hfailed) rfl, rfl, rfl, (zero_add base).symm,
      fun hleft => absurd rfl hleft⟩

/-- A round in which `recv` fails. -/
def RecvFails : Round → Prop
  | .ready _ arrivals => ∃ streamId, arrivals streamId = .failure
  | _ => False

/-- **One round.** -/
theorem runRound_makes (hready : Ready e base) (hlistening : Listening e state.webServer) (round : Round) :
    Makes (inLoop engine base state.webServer) (runRound os e engine state round)
      (Served e engine base (sentBy state.loop)
        (TwoStream.runRound e.env e.options.consoleReport state.loop round) (RecvFails round)) := by
  cases round with
  | interrupted =>
    exact (select_meets hready).seqMakes (.pure ⟨List.append_nil _, rfl, rfl, hlistening⟩)
  | failed =>
    refine (select_meets hready).seqMakes (giveUp_makes hready state.webServer (.pure ?_))
    exact ⟨List.append_nil _, rfl, rfl, rfl, (zero_add base).symm, fun hleft => absurd rfl hleft⟩
  | ready visits arrivals =>
    refine (select_meets hready).seqMakes ((handleVisits_meets hready hlistening visits).bindMakes ?_)
    rintro state' _ ⟨hloop, rfl, hlistening'⟩
    let drained (m : MainLoop OutputUdp) := andThen (TwoStream.drainRound e.env m) fun m =>
      (true, reportRound e.env e.options.consoleReport m)
    have hsecondary (state : LoopState) (h : Listening e state.webServer) :
        Makes (inLoop engine base state.webServer)
        ((receiveInput e engine .secondary (arrivals .secondary) state).onOk (drainRound e engine))
        (Served e engine base (sentBy state.loop)
          (andThen (TwoStream.receiveInput e.env .secondary (arrivals .secondary) state.loop) drained)
          (arrivals .secondary = .failure ∨ False)) :=
      served_onOk (receiveInput_makes hready h .secondary _) fun _ => drainRound_makes hready
    have hprimary : Makes (inLoop engine base state'.webServer)
        ((receiveInput e engine .primary (arrivals .primary) state').onOk fun state =>
          (receiveInput e engine .secondary (arrivals .secondary) state).onOk (drainRound e engine))
        (Served e engine base (sentBy state'.loop)
          (andThen (TwoStream.receiveInput e.env .primary (arrivals .primary) state'.loop) fun m =>
            andThen (TwoStream.receiveInput e.env .secondary (arrivals .secondary) m) drained)
          (arrivals .primary = .failure ∨ arrivals .secondary = .failure ∨ False)) :=
      served_onOk (receiveInput_makes hready hlistening' .primary _) hsecondary
    rw [hloop, sentBy_handleVisits] at hprimary
    refine hprimary.mono fun result held new hserved => hserved.mono ?_
    rintro (h | h | h)
    · exact ⟨.primary, h⟩
    · exact ⟨.secondary, h⟩
    · exact h.elim

/-- **The rounds.** -/
theorem runRounds_makes (hready : Ready e base) (rounds : List Round) (state : LoopState)
    (hlistening : Listening e state.webServer) :
    Makes (inLoop engine base state.webServer) (runRounds os e engine rounds state)
      (Served e engine base (sentBy state.loop)
        (TwoStream.runRounds e.env e.options.consoleReport rounds state.loop)
        (∃ round ∈ rounds, RecvFails round)) := by
  induction rounds generalizing state with
  | nil => exact .pure ⟨List.append_nil _, rfl, rfl, hlistening⟩
  | cons round rest ih =>
    refine (served_onOk (runRound_makes hready hlistening round) ih).mono fun result held new hserved =>
      hserved.mono ?_
    rintro (h | ⟨other, hother, h⟩)
    · exact ⟨round, List.mem_cons_self, h⟩
    · exact ⟨other, List.mem_cons_of_mem _ hother, h⟩

/-- What a run of the loop holds when it returns, what it returns, and what it has sent. -/
structure Ended (e : Environment) (base : Multiset Resource) (rounds : List Round) (ret : Return)
    (held : Multiset Resource) (new : List (List Packet)) : Prop where
  held_eq : held = ret.exit.left + base
  cause : ret.exit.left ≠ 0 → e.options.httpPort ≠ 0 ∧ ∃ round ∈ rounds, RecvFails round
  result : (ret.exit.code, ret.loop) =
    TwoStream.runLoop e.env e.options ret.exit.opening TwoStream.outputUdpOpen rounds
  sent : new = sentBy ret.loop

theorem runEngine_makes (hready : Ready e base) (rounds : List Round) (webServer : Option ℕ)
    (hlistening : Listening e webServer) :
    Makes (opened webServer + base) (runEngine os e rounds webServer) (Ended e base rounds) := by
  have hclosed := (closed_opened webServer).add hready.closed
  refine (recoveryEngineInitWithConfig_meets hclosed).bindMakes fun engine held hheld => ?_
  subst hheld
  cases engine with
  | none =>
    rw [heldBy, Option.elim, zero_add]
    refine (closeDescriptor_meets webServer hready.closed).seqMakes (.pure ?_)
    refine ⟨(zero_add base).symm, fun hleft => absurd rfl hleft, ?_, rfl⟩
    rw [TwoStream.runLoop, if_pos (.inr rfl)]
    rfl
  | some engine =>
    -- no failure of the two routines before the rounds
    have hopening : ¬ (⟨true, true⟩ : Opening).Fails e.options := by simp [Opening.Fails]
    refine (runRounds_makes hready rounds ⟨e.start, webServer⟩ hlistening).bind ?_
    rintro result held new ⟨hsent, hresult⟩
    cases result with
    | error ret =>
      refine .pure ⟨hresult.held_eq, hresult.cause, ?_, ?_⟩
      · rw [hresult.opening, TwoStream.runLoop, if_neg hopening, hresult.res_eq, hresult.code]
        rfl
      · rw [List.append_nil]
        exact hsent.trans (congrArg (fun res => sentBy res.2) hresult.res_eq)
    | ok state =>
      obtain ⟨hres, rfl, -⟩ := hresult
      have hgrows := closeLoop_grows e.sendto e.clock state.loop e.options.consoleReport
      refine (engineWorks_makes hready state.webServer hgrows).bind ?_
      rintro _ _ later ⟨rfl, hlater⟩
      refine giveUp_makes hready state.webServer (.pure ?_)
      refine ⟨(zero_add base).symm, fun hleft => absurd rfl hleft, ?_, ?_⟩
      · rw [show Exit.stopped.opening = ⟨true, true⟩ from rfl, TwoStream.runLoop, if_neg hopening, hres]
        rfl
      · rw [List.append_nil, ← hlater, ← show sentBy _ = sentBy state.loop from
          congrArg (fun res => sentBy res.2) hres, ← hsent]
        rfl

theorem runLoop_makes (hready : Ready e base) (rounds : List Round) :
    Makes base (runLoop os e rounds) (Ended e base rounds) := by
  unfold runLoop
  split
  · next hport =>
    refine (webServerOpen_meets hready.closed).bindMakes fun webServer held hheld => ?_
    subst hheld
    cases webServer with
    | none =>
      refine .pure ⟨rfl, fun hleft => absurd rfl hleft, ?_, rfl⟩
      rw [TwoStream.runLoop, if_pos (.inl ⟨hport, rfl⟩)]
      rfl
    | some fd => exact runEngine_makes hready rounds (some fd) fun _ => hport
  · have hrun : Makes (opened none + base) (runEngine os e rounds none) (Ended e base rounds) :=
      runEngine_makes hready rounds none fun hne => absurd rfl hne
    rwa [opened, heldBy, Option.elim, zero_add] at hrun

/-! ### The program -/

variable {inetPton : CString → Option ℕ} {sendto : ℕ → ℤ} {clock : ℕ → ℕ} {files : FileSystem}
  {args : List CString} {rounds : List Round}

/-- What is not released where `main` returns. -/
def MainExit.left : MainExit → Multiset Resource
  | .ran ret => ret.exit.left
  | _ => 0

/-- The datagrams that the loop has sent, if it was reached. -/
def MainExit.sent : MainExit → List (List Packet)
  | .ran ret => sentBy ret.loop
  | _ => []

/-- What a run of `main` holds when it returns, what its loop has returned, and what it has sent. -/
structure MainEnded (sendto : ℕ → ℤ) (clock : ℕ → ℕ) (args : List CString) (rounds : List Round)
    (exit : MainExit) (held : Multiset Resource) (new : List (List Packet)) : Prop where
  held_eq : held = exit.left
  cause : exit.left ≠ 0 → ∃ options, commandLineParse args = .ok options ∧ options.httpPort ≠ 0 ∧
    ∃ round ∈ rounds, RecvFails round
  sent : new = exit.sent
  result : ∀ ret, exit = .ran ret → ∃ options, commandLineParse args = .ok options ∧
    (ret.exit.code, ret.loop) = TwoStream.runLoop (udpEnv sendto clock) (loopOptions options)
      ret.exit.opening TwoStream.outputUdpOpen rounds

theorem mainEnded_early {exit : MainExit} (hleft : exit.left = 0) (hsent : exit.sent = [])
    (hran : ∀ ret, exit ≠ .ran ret) : MainEnded sendto clock args rounds exit 0 [] :=
  ⟨hleft.symm, fun h => absurd hleft h, hsent.symm, fun ret h => absurd h (hran ret)⟩

theorem opened_le_resources (input : InputUdp) : opened input.fd ≤ input.resources := by
  obtain ⟨_ | fd, joined⟩ := input
  · exact le_rfl
  · exact Multiset.le_add_left _ _

theorem closed_left (exit : Exit) : Closed exit.left := by
  cases exit with
  | recvFailed webServer => exact closed_opened webServer
  | _ => exact closed_zero

theorem ready_of_open (sendto : ℕ → ℤ) (clock : ℕ → ℕ) (files : FileSystem) (primary secondary : InputUdp)
    (output : OutputSocket) (options : LoopOptions) :
    Ready ⟨sendto, clock, files, byStream primary secondary, output, options⟩
      (output.resources + (secondary.resources + (primary.resources + 0))) where
  inputs
    | .primary => by
      rw [add_zero]
      exact (opened_le_resources primary).trans
        ((Multiset.le_add_left _ _).trans (Multiset.le_add_left _ _))
    | .secondary =>
      (opened_le_resources secondary).trans
        ((Multiset.le_add_right _ _).trans (Multiset.le_add_left _ _))
  output := Multiset.le_add_right _ _
  closed := (closed_outputSocket output).add
    ((closed_inputUdp secondary).add ((closed_inputUdp primary).add closed_zero))

theorem main_makes : Makes 0 (main os inetPton sendto clock files args rounds)
    (MainEnded sendto clock args rounds) := by
  unfold main
  split
  · exact .pure (mainEnded_early rfl rfl (by simp))
  · exact .pure (mainEnded_early rfl rfl (by simp))
  · next options hparse =>
    refine (inputUdpOpenWithInterface_meets closed_zero).bindMakes fun primary held hheld => ?_
    subst hheld
    cases primary with
    | none => exact .pure (mainEnded_early rfl rfl (by simp))
    | some primary =>
      have hclosed : Closed (primary.resources + 0) := (closed_inputUdp primary).add closed_zero
      refine (inputUdpOpenWithInterface_meets hclosed).bindMakes fun secondary held hheld => ?_
      subst hheld
      cases secondary with
      | none =>
        rw [heldBy, Option.elim, zero_add]
        exact (inputUdpClose_meets primary closed_zero).seqMakes
          (.pure (mainEnded_early rfl rfl (by simp)))
      | some secondary =>
        have hclosed' := (closed_inputUdp secondary).add hclosed
        refine (outputUdpOpen_meets hclosed').bindMakes fun output held hheld => ?_
        subst hheld
        cases output with
        | none =>
          rw [heldBy, Option.elim, zero_add]
          refine (inputUdpClose_meets secondary hclosed).seqMakes ?_
          exact (inputUdpClose_meets primary closed_zero).seqMakes
            (.pure (mainEnded_early rfl rfl (by simp)))
        | some output =>
          have hready := ready_of_open sendto clock files primary secondary output
            (loopOptions options)
          refine (runLoop_makes hready rounds).bind fun ret held new hended => ?_
          have hreorder : held =
              output.resources + (secondary.resources + (primary.resources + ret.exit.left)) := by
            rw [hended.held_eq, add_zero, add_comm, add_assoc, add_assoc]
          subst hreorder
          have hprimary := (closed_inputUdp primary).add (closed_left ret.exit)
          refine (outputUdpClose_meets output ((closed_inputUdp secondary).add hprimary)).seqMakes ?_
          refine (inputUdpClose_meets secondary hprimary).seqMakes ?_
          refine (inputUdpClose_meets primary (closed_left ret.exit)).seqMakes (.pure ?_)
          refine ⟨rfl, fun hleft => ⟨options, hparse, hended.cause hleft⟩, ?_, ?_⟩
          · rw [List.append_nil]
            exact hended.sent
          · rintro _ ⟨⟩
            exact ⟨options, hparse, hended.result⟩

/-- **`main` releases what it has acquired.** In every run it uses what it holds only, closes each
descriptor and frees each block once, and leaves each group before it closes the socket. At its end it
holds nothing, but for the listening socket of the web server if `recv` has failed. -/
theorem main_releases (os : OperatingSystem) (inetPton : CString → Option ℕ) (sendto : ℕ → ℤ)
    (clock : ℕ → ℕ) (files : FileSystem) (args : List CString) (rounds : List Round) :
    let run := (main os inetPton sendto clock files args rounds).run []
    balance run.2 = some run.1.left ∧
      (∀ r, run.2.count (.acquire r) = run.2.count (.release r) + run.1.left.count r) ∧
      (run.1.left ≠ 0 → ∃ options, commandLineParse args = .ok options ∧ options.httpPort ≠ 0 ∧
        ∃ round ∈ rounds, RecvFails round) := by
  intro run
  have hmain : Makes 0 (main os inetPton sendto clock files args rounds)
    (MainEnded sendto clock args rounds) := main_makes
  obtain ⟨held, new, hbalance, -, hended⟩ := hmain [] rfl
  obtain rfl := hended.held_eq
  exact ⟨hbalance, balance_count hbalance, hended.cause⟩

/-- **`main` runs the loop.** It sends the datagrams of `run_loop`, in order, and no other; and where it
reaches `run_loop`, this returns what the loop on its variables returns, and leaves them as that does. -/
theorem main_runs (os : OperatingSystem) (inetPton : CString → Option ℕ) (sendto : ℕ → ℤ)
    (clock : ℕ → ℕ) (files : FileSystem) (args : List CString) (rounds : List Round) :
    let run := (main os inetPton sendto clock files args rounds).run []
    emitted run.2 = run.1.sent ∧
      ∀ ret, run.1 = .ran ret → ∃ options, commandLineParse args = .ok options ∧
        (ret.exit.code, ret.loop) = TwoStream.runLoop (udpEnv sendto clock) (loopOptions options)
          ret.exit.opening TwoStream.outputUdpOpen rounds := by
  intro run
  have hmain : Makes 0 (main os inetPton sendto clock files args rounds)
    (MainEnded sendto clock args rounds) := main_makes
  obtain ⟨held, new, -, hemitted, hended⟩ := hmain [] rfl
  obtain rfl := hended.sent
  exact ⟨hemitted, hended.result⟩

/-! ### A system -/

/-- The number of a descriptor or a block. -/
def Resource.number : Resource → ℕ
  | .descriptor fd => fd
  | .membership fd => fd
  | .block address => address

/-- A number above all that were given out; 0, 1 and 2 are the standard streams. -/
def freeNumber : List Action → ℕ
  | [] => 3
  | .acquire r :: log => max (r.number + 1) (freeNumber log)
  | _ :: log => freeNumber log

theorem number_lt_freeNumber {log : List Action} {r : Resource} (h : Deed.acquire r ∈ log) :
    r.number < freeNumber log := by
  induction log with
  | nil => cases h
  | cons d log ih =>
    rcases List.mem_cons.mp h with rfl | hlater
    · exact Nat.lt_of_succ_le (le_max_left _ _)
    · cases d with
      | acquire s => exact (ih hlater).trans_le (le_max_right _ _)
      | use s => exact ih hlater
      | release s => exact ih hlater
      | attempt => exact ih hlater
      | emit d => exact ih hlater

/-- A system on which the calls succeed as is written. -/
def scriptedSystem (succeeds : ℕ → Bool) : OperatingSystem where
  succeeds log := succeeds log.length
  descriptor := freeNumber
  block := freeNumber
  descriptor_new _ _ h hheld := (number_lt_freeNumber (acquired_of_held h hheld)).ne rfl
  block_new _ _ h hheld := (number_lt_freeNumber (acquired_of_held h hheld)).ne rfl

/-- A group, an address of one host, and the port of the web server. -/
def hostArgs : List CString :=
  ["--input-primary-url".toList, "udp://239.1.1.1:4001".toList, "--input-secondary-url".toList,
    "udp://127.0.0.1:4002".toList, "--http-port".toList, "8080".toList]

/-- The addresses of these hosts. -/
def hostAddress (text : CString) : Option ℕ :=
  some (if text = "239.1.1.1".toList then 0xef010101 else 0x7f000001)

/-- A datagram of null packets. -/
def nullDatagram : List Packet := .replicate outputTsPacketsPerDatagram nullPacket.packet

/-- A client visits, and such a datagram is received, before the signal. -/
def nullRounds : List Round :=
  [.ready (some ⟨[⟨true, true, siblingRequest⟩], false⟩) fun
    | .primary => .datagram (payload nullDatagram)
    | .secondary => .nothing, .interrupted]

/-- The program with this, on such a system. -/
def nullMain (succeeds : ℕ → Bool) : MainExit × List Action :=
  (main (scriptedSystem succeeds) hostAddress (fun _ => outputUdpPayloadBytes) (fun _ => 1) siblingFiles
    hostArgs nullRounds).run []

/-- The second input gets no socket. -/
example : (nullMain (· != 10)).2.drop 9 =
    [.attempt, .release (.membership 3), .release (.descriptor 3)] := by decide +kernel

/-- The engine gets no memory. -/
example : (nullMain (· != 28)).2.drop 27 =
    [.attempt, .release (.descriptor 7), .release (.descriptor 6), .release (.block 5),
      .release (.descriptor 4), .release (.membership 3), .release (.descriptor 3)] := by decide +kernel

/-- Where `run_loop` has returned. -/
def MainExit.loopExit : MainExit → Option Exit
  | .ran ret => some ret.exit
  | _ => none

theorem ran_of_loopExit {exit : MainExit} {loopExit : Exit} (h : exit.loopExit = some loopExit) :
    ∃ ret, exit = .ran ret ∧ ret.exit = loopExit := by
  cases exit with
  | ran ret => exact ⟨ret, rfl, Option.some.inj h⟩
  | help => cases h
  | wrongArguments => cases h
  | inputFailed => cases h
  | outputFailed => cases h

/-- All is opened, the datagram is sent on, and the signal ends the loop. -/
theorem main_runs_nulls :
    emitted (nullMain fun _ => true).2 = [nullDatagram] ∧
      ∃ options, commandLineParse hostArgs = .ok options ∧
        (TwoStream.runLoop (udpEnv (fun _ => outputUdpPayloadBytes) fun _ => 1) (loopOptions options)
          ⟨true, true⟩ TwoStream.outputUdpOpen nullRounds).1 = 0 := by
  have hexit : (nullMain fun _ => true).1.loopExit = some .stopped := by decide +kernel
  have hdatagram : (nullMain fun _ => true).1.sent = [nullDatagram] := by decide +kernel
  obtain ⟨hsent, hresult⟩ := main_runs (scriptedSystem fun _ => true) hostAddress
    (fun _ => outputUdpPayloadBytes) (fun _ => 1) siblingFiles hostArgs nullRounds
  obtain ⟨ret, hret, hstopped⟩ := ran_of_loopExit hexit
  obtain ⟨options, hparse, hloop⟩ := hresult ret hret
  rw [hstopped] at hloop
  exact ⟨hsent.trans hdatagram, options, hparse, (congrArg Prod.fst hloop).symm⟩

end TwoStream.Descriptors
