import TwoStreamRecovery.Engine.Drain

/-!
# Runs of the engine

* `Op`, `step`, `run`: pushes, drains and flushes from a freshly initialised engine.
* What the trace says: `pushedRecords`, `sentRecords`, ….
-/

namespace TwoStream

variable {σ : Type}

/-- A call of the engine. -/
inductive Op where
  | push (streamId : StreamId) (p : ParsedPacket)
  | drain (force : Bool)
  | flush
  deriving DecidableEq

/-- One call; its return value is ignored and the run goes on. -/
def step (env : Env σ) (w : World σ) : Op → World σ
  | .push streamId p => (recoveryEnginePushPacket env streamId p w).2
  | .drain force => (recoveryEngineDrain env force w).2
  | .flush => (recoveryEngineFlush env w).2

/-- A freshly initialised engine, with fresh counters. -/
def freshWorld (config : RecoveryEngineConfig) (sinkState : σ) : World σ where
  engine := recoveryEngineInitWithConfig config
  stats := reportStatsInit
  sinkState := sinkState
  reads := 0
  trace := []

/-- A run of calls. -/
def run (env : Env σ) (w : World σ) (ops : List Op) : World σ := ops.foldl (step env) w

/-- A sink that takes every packet, and a clock that gives the listed readings and then `last`. -/
def scriptedEnv (readings : List ℕ) (last : ℕ) : Env Unit where
  sink := ⟨fun s _ => (0, s), none⟩
  clock n := readings.getD n last

theorem scriptedEnv_accepting (readings : List ℕ) (last : ℕ) : (scriptedEnv readings last).Accepting :=
  fun _ _ => rfl

/-- A script of increasing readings is a nondecreasing clock. -/
theorem scriptedEnv_monotone {readings : List ℕ} {last : ℕ}
    (h : (readings ++ [last]).Pairwise (· ≤ ·)) : Monotone (scriptedEnv readings last).clock := by
  obtain ⟨hreadings, -, hlast⟩ := List.pairwise_append.mp h
  intro i j hij
  simp only [scriptedEnv]
  by_cases hj : j < readings.length
  · rw [List.getD_eq_getElem _ _ (by omega), List.getD_eq_getElem _ _ hj]
    rcases Nat.lt_or_eq_of_le hij with hlt | rfl
    · exact List.pairwise_iff_getElem.mp hreadings i j (by omega) hj hlt
    · exact le_rfl
  · rw [List.getD_eq_default _ _ (by omega : readings.length ≤ j)]
    by_cases hi : i < readings.length
    · rw [List.getD_eq_getElem _ _ hi]
      exact hlast _ (List.getElem_mem hi) last (by simp)
    · rw [List.getD_eq_default _ _ (by omega)]

theorem scriptedEnv_pos {readings : List ℕ} {last : ℕ} (h : ∀ n ∈ readings ++ [last], 0 < n) (i : ℕ) :
    0 < (scriptedEnv readings last).clock i := by
  simp only [scriptedEnv]
  by_cases hi : i < readings.length
  · rw [List.getD_eq_getElem _ _ hi]
    exact h _ (by simp)
  · rw [List.getD_eq_default _ _ (by omega)]
    exact h last (by simp)

/-- A clock that jumps once. -/
theorem scriptedEnv_clock (n t last i : ℕ) :
    (scriptedEnv (.replicate n t) last).clock i = if i < n then t else last := by
  by_cases h : i < n <;> simp [scriptedEnv, List.getD_eq_getElem?_getD, List.getElem?_replicate, h]

/-- A configuration without waiting; the other fields as by default. -/
def promptConfig : RecoveryEngineConfig :=
  { recoveryEngineDefaultConfig with
    primaryDelayNs := 0
    alignmentWindowNs := 0
    historyMs := 0
    primaryOutageNs := 0
    primaryReturnNs := 0 }

/-! ### Reading the trace -/

/-- The records pushed on a stream, in order. -/
def pushedRecords (streamId : StreamId) (trace : List Event) : List PacketRecord :=
  trace.filterMap fun
    | .pushed r => if r.sourceStreamId = streamId then some r else none
    | _ => none

/-- The packets a stream has received, in order. -/
def received (streamId : StreamId) (trace : List Event) : List Packet :=
  (pushedRecords streamId trace).map (·.packet)

/-- The packets that some calls push on a stream. -/
def pushedPackets (streamId : StreamId) (ops : List Op) : List ParsedPacket :=
  ops.filterMap fun
    | .push s p => if s = streamId then some p else none
    | _ => none

/-- What the sink has taken, in order, and why it was sent. -/
def sentEvents (trace : List Event) : List (Route × PacketRecord) :=
  trace.filterMap fun
    | .sent route r => some (route, r)
    | _ => none

/-- The records the sink has taken, in order. -/
def sentRecords (trace : List Event) : List PacketRecord := (sentEvents trace).map Prod.snd

/-- How a stream's queue is sent. -/
def queueRoute : StreamId → Route
  | .primary => .passThrough
  | .secondary => .failover

/-- The records a stream has sent from its queue, in order. -/
def queueSent (streamId : StreamId) (trace : List Event) : List PacketRecord :=
  (sentEvents trace).filterMap fun (route, r) => if route = queueRoute streamId then some r else none

/-- The switches of the output: to which stream, and the clock reading at that time. -/
def switches (trace : List Event) : List (StreamId × ℕ) :=
  trace.filterMap fun
    | .switched streamId nowNs _ => some (streamId, nowNs)
    | _ => none

/-- The events that neither push nor send. -/
def Event.IsNote : Event → Prop
  | .pushed _ => False
  | .sent _ _ => False
  | _ => True

section Trace

variable {streamId : StreamId} {t t' l : List Event} {r : PacketRecord}

@[simp] theorem pushedRecords_append :
    pushedRecords streamId (t ++ t') = pushedRecords streamId t ++ pushedRecords streamId t' :=
  List.filterMap_append

@[simp] theorem sentEvents_append : sentEvents (t ++ t') = sentEvents t ++ sentEvents t' :=
  List.filterMap_append

@[simp] theorem sentRecords_append : sentRecords (t ++ t') = sentRecords t ++ sentRecords t' := by
  simp [sentRecords]

@[simp] theorem queueSent_append :
    queueSent streamId (t ++ t') = queueSent streamId t ++ queueSent streamId t' := by
  simp [queueSent]

theorem queueSent_eq_nil (h : ∀ x ∈ sentEvents t, x.1 ≠ queueRoute streamId) :
    queueSent streamId t = [] :=
  List.filterMap_eq_nil_iff.mpr fun x hx => if_neg (h x hx)

@[simp] theorem sentEvents_nil : sentEvents [] = [] := rfl

@[simp] theorem pushedRecords_nil : pushedRecords streamId [] = [] := rfl

@[simp] theorem sentEvents_sent {route : Route} :
    sentEvents (.sent route r :: t) = (route, r) :: sentEvents t := rfl

@[simp] theorem pushedRecords_sent {route : Route} :
    pushedRecords streamId (.sent route r :: t) = pushedRecords streamId t := rfl

@[simp] theorem sentEvents_pushed : sentEvents (.pushed r :: t) = sentEvents t := rfl

@[simp] theorem sentEvents_map_sent {route : Route} (L : List PacketRecord) :
    sentEvents (L.map (.sent route)) = L.map fun r => (route, r) := by
  induction L with
  | nil => rfl
  | cons r rest ih => rw [List.map_cons, sentEvents_sent, ih, List.map_cons]

/-- Notes push nothing. -/
theorem pushedRecords_of_notes (h : ∀ ev ∈ l, ev.IsNote) : pushedRecords streamId l = [] := by
  refine List.filterMap_eq_nil_iff.mpr fun ev hev => ?_
  have := h ev hev
  cases ev <;> simp_all [Event.IsNote]

/-- Notes send nothing. -/
theorem sentEvents_of_notes (h : ∀ ev ∈ l, ev.IsNote) : sentEvents l = [] := by
  refine List.filterMap_eq_nil_iff.mpr fun ev hev => ?_
  have := h ev hev
  cases ev <;> simp_all [Event.IsNote]

/-- A switch found in the list of switches stands in the trace. -/
theorem exists_of_switches {L M : List (StreamId × ℕ)} {n : ℕ}
    (h : switches t = L ++ (streamId, n) :: M) :
    ∃ pre e post, t = pre ++ .switched streamId n e :: post ∧ switches pre = L ∧
      switches post = M := by
  obtain ⟨pre, rest, rfl, hpre, hrest⟩ := List.filterMap_eq_append_iff.mp h
  obtain ⟨quiet, ev, post, rfl, hquiet, hev, hpost⟩ := List.filterMap_eq_cons_iff.mp hrest
  cases ev with
  | switched s m e =>
    obtain ⟨rfl, rfl⟩ : s = streamId ∧ m = n := by simpa using hev
    refine ⟨pre ++ quiet, e, post, by simp, ?_, hpost⟩
    rw [switches, List.filterMap_append, hpre, List.filterMap_eq_nil_iff.mpr hquiet, List.append_nil]
  | _ => simp at hev

theorem mem_sentEvents_iff {route : Route} : (route, r) ∈ sentEvents t ↔ .sent route r ∈ t := by
  rw [sentEvents, List.mem_filterMap]
  constructor
  · rintro ⟨ev, hev, h⟩
    cases ev <;> simp_all
  · exact fun h => ⟨_, h, rfl⟩

/-- More events, more pushes. -/
theorem pushedRecords_grow (h : t <+: t') (s : StreamId) :
    pushedRecords s t <+: pushedRecords s t' := by
  obtain ⟨l, rfl⟩ := h
  rw [pushedRecords_append]
  exact List.prefix_append _ _

theorem getElem?_of_prefix {α : Type} {l l' : List α} {i : ℕ} {x : α} (h : l <+: l')
    (hx : l[i]? = some x) : l'[i]? = some x := by
  obtain ⟨rest, rfl⟩ := h
  exact List.getElem?_append_left (List.getElem?_eq_some_iff.mp hx).1 ▸ hx

end Trace

end TwoStream
