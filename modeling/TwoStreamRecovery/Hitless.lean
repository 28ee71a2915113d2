import TwoStreamRecovery.Anchor
import TwoStreamRecovery.Feed
import TwoStreamRecovery.LastSent
import TwoStreamRecovery.NullAlignment

/-!
# Taking over from a silent primary

* `Shifted T o S`: the secondary delivers `T` at a constant offset; `Delivered`: the primary has
  delivered the first packets of `T`.
* `TakesOver`: what the failover routine keeps while the primary is silent.
* **`failover_hitless`**: the secondary continues `T` where the primary has stopped, as long as its
  queue has kept the records for it.
-/

namespace TwoStream

open Relation

variable {σ : Type} {env : Env σ} {w w' : World σ} {T S : List ParsedPacket} {n : ℕ} {o : ℤ}

/-! ### Two copies at an offset -/

/-- Packets with a clock reference have different ones. -/
def PcrDistinct (T : List ParsedPacket) : Prop :=
  T.Pairwise fun p q => p.info.hasPcr = true → q.info.hasPcr = true →
    (p.info.pid, p.info.pcrBase) ≠ (q.info.pid, q.info.pcrBase)

instance (T : List ParsedPacket) : Decidable (PcrDistinct T) :=
  inferInstanceAs (Decidable (T.Pairwise _))

/-- `S` is `T` moved up by `o` places, behind packets whose content matches none of `T`. -/
def Shifted (T : List ParsedPacket) (o : ℤ) (S : List ParsedPacket) : Prop :=
  ∀ (i : ℕ) p, S[i]? = some p →
    if (i : ℤ) < o then ∀ q ∈ T, p.info.isNull = false → ¬ q.Matches p
    else T[((i : ℤ) - o).toNat]? = some p

/-- The primary has delivered the first `n` packets of `T`, which have been sent and nothing else, and
the alignment is at the offset `o`. -/
structure Delivered (T : List ParsedPacket) (n : ℕ) (o : ℤ) (w : World σ) : Prop where
  active : w.engine.activeOutputStreamId = .primary
  nonempty : 1 ≤ n
  bounded : n ≤ T.length
  received : received .primary w.trace = (T.take n).map (·.packet)
  sent : AllSent w
  aligned : w.engine.alignment.hasAlignment = true ∧ w.engine.alignment.offsetPackets = o

/-- Of the secondary records from the index `k` on, the queue has lost none. -/
def QueueKeeps (k : ℤ) (w : World σ) : Prop :=
  ∀ r ∈ pushedRecords .secondary w.trace, k ≤ r.streamIndex → r ∈ w.engine.secondaryQueue.toList

theorem PcrDistinct.place_eq {p q : ParsedPacket} {i j : ℕ} (hT : PcrDistinct T)
    (hi : T[i]? = some p) (hj : T[j]? = some q) (hp : p.info.hasPcr = true) (hq : q.info.hasPcr = true)
    (hpid : p.info.pid = q.info.pid) (hpcr : p.info.pcrBase = q.info.pcrBase) : i = j := by
  refine place_eq_of_pairwise (R := fun p q => p.info.hasPcr = true ∧ q.info.hasPcr = true ∧
    (p.info.pid, p.info.pcrBase) = (q.info.pid, q.info.pcrBase))
    (fun p q h => ⟨h.2.1, h.1, h.2.2.symm⟩) ?_ hi hj ⟨hp, hq, by rw [hpid, hpcr]⟩
  exact hT.imp fun h hR => h hR.1 hR.2.1 hR.2.2

/-! ### What stays as it is -/

/-- What the secondary needs to know to go on where the primary has stopped. `k` is the index of the
first record it has to send. -/
structure Knows (o : ℤ) (n k : ℕ) (w : World σ) : Prop where
  offset : w.engine.alignedOffset = some o
  sent : w.engine.outputIndex .primary = some n
  first : (k : ℤ) = n + 1 + o
  anchor : w.engine.lastPrimaryAnchor.valid = true → w.engine.lastPrimaryAnchor.secondaryIndex < k

/-- The cutoff is the index before the first record to send. -/
theorem Knows.secondaryCutoff_eq {k : ℕ} (h : Knows o n (k + 1) w) :
    secondaryCutoff w.engine = some k := by
  have hoffset := h.offset
  have hsent := h.sent
  have hfirst := h.first
  have hanchor := h.anchor
  rw [RecoveryEngine.alignedOffset] at hoffset
  rw [RecoveryEngine.outputIndex] at hsent
  split_ifs at hoffset hsent with haligned houtput
  have ho := Option.some.inj hoffset
  have hn := Option.some.inj hsent
  have hindex : (w.engine.lastOutputStreamIndex .primary : ℤ) + w.engine.alignment.offsetPackets = k := by
    rw [hn, ho]
    push_cast at hfirst
    omega
  simp only [secondaryCutoff, haligned, houtput, hindex, Bool.and_self, if_true, Int.toNat_natCast]
  by_cases hvalid : w.engine.lastPrimaryAnchor.valid = true
  · have hlt := hanchor hvalid
    rw [if_pos hvalid]
    by_cases hcut : w.engine.lastPrimaryAnchor.secondaryIndex < k
    · simp [hcut]
    · have heq : w.engine.lastPrimaryAnchor.secondaryIndex = k := by omega
      simp [heq]
  · rw [if_neg hvalid]
    simp

/-- What the engine knows does not change with the secondary queue, the output and the clock. -/
theorem Knows.of_same {k : ℕ} (h : Knows o n k w)
    (hoffset : w'.engine.alignedOffset = w.engine.alignedOffset)
    (hsent : w'.engine.outputIndex .primary = w.engine.outputIndex .primary)
    (hanchor : w'.engine.lastPrimaryAnchor = w.engine.lastPrimaryAnchor) : Knows o n k w' where
  offset := hoffset.trans h.offset
  sent := hsent.trans h.sent
  first := h.first
  anchor := by rw [hanchor]; exact h.anchor

/-! ### Going on -/

/-- The secondary has taken over, or is about to: of its records from the index `k` on, `L` have been
sent and `rest` waits in its queue, at the end, and alone once something has been sent. -/
structure GoesOn (k : ℕ) (before : List PacketRecord) (w : World σ) (L rest : List PacketRecord) :
    Prop where
  sent : sentRecords w.trace = before ++ L
  split : (pushedRecords .secondary w.trace).drop k = L ++ rest
  waits : rest <:+ w.engine.secondaryQueue.toList
  alone : L ≠ [] → rest = w.engine.secondaryQueue.toList

section GoesOn

variable {k : ℕ} {before L rest : List PacketRecord}

theorem GoesOn.of_same (h : GoesOn k before w L rest)
    (hsent : sentRecords w'.trace = sentRecords w.trace)
    (hpushed : pushedRecords .secondary w'.trace = pushedRecords .secondary w.trace)
    (hqueue : w'.engine.secondaryQueue.toList = w.engine.secondaryQueue.toList) :
    GoesOn k before w' L rest where
  sent := hsent.trans h.sent
  split := by rw [hpushed, h.split]
  waits := hqueue ▸ h.waits
  alone := hqueue ▸ h.alone

/-- A pushed record waits at the end of the queue. -/
theorem GoesOn.pushed {r : PacketRecord} (h : GoesOn k before w L rest)
    (hsent : sentRecords w'.trace = sentRecords w.trace)
    (hpushed : pushedRecords .secondary w'.trace = pushedRecords .secondary w.trace ++ [r])
    (hqueue : w'.engine.secondaryQueue.toList = w.engine.secondaryQueue.toList ++ [r]) :
    ∃ rest', GoesOn k before w' L rest' := by
  by_cases hk : k ≤ (pushedRecords .secondary w.trace).length
  · refine ⟨rest ++ [r], hsent.trans h.sent, ?_, ?_, ?_⟩
    · rw [hpushed, List.drop_append_of_le_length hk, h.split, List.append_assoc]
    · rw [hqueue]
      obtain ⟨front, hfront⟩ := h.waits
      exact ⟨front, by rw [← hfront, List.append_assoc]⟩
    · intro hL
      rw [hqueue, h.alone hL]
  · -- the secondary is still behind the primary
    have hnil : L ++ rest = [] := by
      rw [← h.split]
      exact List.drop_of_length_le (by omega)
    obtain ⟨rfl, rfl⟩ := List.append_eq_nil_iff.mp hnil
    refine ⟨[], hsent.trans h.sent, ?_, List.nil_suffix, fun hL => absurd rfl hL⟩
    rw [hpushed]
    refine List.drop_of_length_le ?_
    rw [List.length_append, List.length_singleton]
    omega

/-- The records before the index `k` have smaller indices, the others have not. -/
theorem Consistent.index_lt_iff (hw : Consistent w) {s : StreamId} {A B : List PacketRecord}
    (hsplit : pushedRecords s w.trace = A ++ B) :
    (∀ r ∈ A, r.streamIndex < A.length) ∧ ∀ r ∈ B, A.length ≤ r.streamIndex := by
  have hindices := hw.indices s
  rw [hsplit, List.map_append, List.length_append, List.range_add] at hindices
  obtain ⟨hA, hB⟩ := List.append_inj hindices (by simp)
  constructor
  · intro r hr
    have hmem : r.streamIndex ∈ List.range A.length := by
      rw [← hA]
      exact List.mem_map_of_mem hr
    exact List.mem_range.mp hmem
  · intro r hr
    have hmem : r.streamIndex ∈ (List.range B.length).map (A.length + ·) := by
      rw [← hB]
      exact List.mem_map_of_mem hr
    obtain ⟨i, -, hi⟩ := List.mem_map.mp hmem
    omega

/-- **The discarded records** are those before the index `k`. -/
theorem GoesOn.discard (h : GoesOn (k + 1) before w L rest) (hconsistent : Consistent w) :
    w.engine.secondaryQueue.toList.dropWhile (fun r => decide (r.streamIndex ≤ k)) = rest := by
  obtain ⟨A, hA⟩ := h.waits
  obtain ⟨X, hX⟩ := hconsistent.queue .secondary
  change X ++ w.engine.secondaryQueue.toList = _ at hX
  have hlast : ∀ r ∈ rest, k + 1 ≤ r.streamIndex := by
    intro r hr
    have hsplit := List.take_append_drop (k + 1) (pushedRecords .secondary w.trace)
    obtain ⟨-, hge⟩ := hconsistent.index_lt_iff hsplit.symm
    have hmem : r ∈ (pushedRecords .secondary w.trace).drop (k + 1) := by
      rw [h.split]
      exact List.mem_append_right _ hr
    have hlength := List.length_pos_of_mem hmem
    rw [List.length_drop] at hlength
    have hle := hge r hmem
    rw [List.length_take] at hle
    omega
  have hfirst : ∀ r ∈ A, r.streamIndex ≤ k := by
    intro r hr
    by_cases hL : L = []
    · -- nothing sent: the rest of the queue stands before the index
      subst hL
      have hsplit : pushedRecords .secondary w.trace = (X ++ A) ++ rest := by
        rw [← hX, ← hA, List.append_assoc]
      obtain ⟨hlt, -⟩ := hconsistent.index_lt_iff hsplit
      have hindex := hlt r (List.mem_append_right _ hr)
      have hlength := congrArg List.length h.split
      have hlength' := congrArg List.length hsplit
      simp only [List.length_drop, List.length_append, List.nil_append] at hlength hlength' hindex
      omega
    · have hnil : A = [] := by
        have hqueue := congrArg List.length (h.alone hL)
        rw [← hA, List.length_append] at hqueue
        exact List.length_eq_zero_iff.mp (by omega)
      rw [hnil] at hr
      cases hr
  rw [← hA, List.dropWhile_append_of_pos fun r hr => by simpa using hfirst r hr]
  cases rest with
  | nil => rfl
  | cons r _ =>
    have hr := hlast r List.mem_cons_self
    rw [List.dropWhile_cons_of_neg (by simp only [decide_eq_true_eq]; omega)]

end GoesOn

/-! ### Stages -/

/-- What a trace adds to that of `w₀` while the primary is silent. -/
structure Silence (S : List ParsedPacket) (w₀ : World σ) (t : List Event) : Prop where
  primary : pushedRecords .primary t <+: pushedRecords .primary w₀.trace
  secondary : received .secondary t <+: S.map (·.packet)
  kept : .overflow .secondary ∉ t.drop w₀.trace.length

theorem Silence.of_prefix {w₀ : World σ} {t t' : List Event} (h : t <+: t') (ht : Silence S w₀ t') :
    Silence S w₀ t where
  primary := (pushedRecords_grow h .primary).trans ht.primary
  secondary := ((pushedRecords_grow h .secondary).map _).trans ht.secondary
  kept := fun hmem => ht.kept ((h.drop _).subset hmem)

/-- What every stage keeps while the primary is silent. `n` is the index of the last primary record,
`k + 1` that of its successor on the secondary. -/
structure TakesOver (o : ℤ) (n k : ℕ) (w₀ w : World σ) : Prop where
  knows : Knows o n (k + 1) w
  begun : o < (pushedRecords .secondary w.trace).length
  later : w₀.trace <+: w.trace
  silent : pushedRecords .primary w.trace = pushedRecords .primary w₀.trace
  idle : w.engine.primaryQueue.toList = []
  goes : ∃ L rest, GoesOn (k + 1) (sentRecords w₀.trace) w L rest

section Stages

variable {k : ℕ} {w₀ : World σ}

/-- A stage that touches neither queue. -/
theorem TakesOver.of_same {l : List Event} (h : TakesOver o n k w₀ w) (ht : w'.trace = w.trace ++ l)
    (hl : ∀ ev ∈ l, ev.IsNote) (hoffset : w'.engine.alignedOffset = w.engine.alignedOffset)
    (hsent : w'.engine.outputIndex = w.engine.outputIndex)
    (hanchor : w'.engine.lastPrimaryAnchor = w.engine.lastPrimaryAnchor)
    (hprimary : w'.engine.primaryQueue.toList = [])
    (hsecondary : w'.engine.secondaryQueue.toList = w.engine.secondaryQueue.toList) :
    TakesOver o n k w₀ w' := by
  have hpushed : ∀ s, pushedRecords s w'.trace = pushedRecords s w.trace := by
    intro s
    rw [ht, pushedRecords_append, pushedRecords_of_notes hl, List.append_nil]
  have hrecords : sentRecords w'.trace = sentRecords w.trace := by
    rw [ht, sentRecords_append, sentRecords, sentRecords, sentEvents_of_notes hl, List.map_nil,
      List.append_nil]
  obtain ⟨L, rest, hgoes⟩ := h.goes
  exact
    { knows := h.knows.of_same hoffset (by rw [hsent]) hanchor
      begun := by rw [hpushed]; exact h.begun
      later := ht ▸ h.later.trans (List.prefix_append _ _)
      silent := (hpushed .primary).trans h.silent
      idle := hprimary
      goes := ⟨L, rest, hgoes.of_same hrecords (hpushed .secondary) hsecondary⟩ }

/-- The copy of a pushed secondary record stands at the offset. -/
theorem Shifted.pairOffset_eq {p q : ParsedPacket} {i c : ℕ} (hT : Feed T)
    (hpcr : PcrDistinct T) (hshift : Shifted T o S) (hi : S[i]? = some p) (hio : o ≤ i)
    (hc : T[c]? = some q) (hsame : p.Matches q)
    (hcontent : p.info.isNull = false ∨
      p.info.hasPcr = true ∧ q.info.hasPcr = true ∧ q.info.pcrBase = p.info.pcrBase) :
    ((i : ℤ) - c) = o := by
  have hplace := hshift i p hi
  rw [if_neg (by omega)] at hplace
  have hkey := hsame.2.2
  have hpid : p.info.pid = q.info.pid := congrArg (fun k => k.2.1) hkey
  rcases hcontent with hcontent | ⟨hp, hq, hbase⟩
  · have := hT.place_eq hplace hc hcontent hkey
    omega
  · have := hpcr.place_eq hplace hc hp hq hpid hbase.symm
    omega

/-- A secondary push keeps the offset. -/
theorem TakesOver.ingest_offset {p : ParsedPacket} (hT : Feed T) (hpcr : PcrDistinct T)
    (hshift : Shifted T o S) (hP : received .primary w₀.trace = (T.take (n + 1)).map (·.packet))
    (hS : received .secondary (pushIngest env .secondary p w).trace <+: S.map (·.packet))
    (hconsistent : Consistent w) (h : TakesOver o n k w₀ w) :
    (pushIngest env .secondary p w).engine.alignedOffset = some o := by
  rcases pushIngest_offset env .secondary p w with hsame | ⟨found, hfound, hmoved⟩
  · exact hsame.trans h.knows.offset
  · rw [hmoved]
    congr 1
    have hmem : found ∈ pushedRecords .primary w.trace :=
      (hconsistent.history .primary).subset hfound.mem
    have hreceived : received .primary w.trace = (T.take (n + 1)).map (·.packet) := by
      rw [← hP, received, received, h.silent]
    obtain ⟨t, q, hq, hr⟩ := hconsistent.packet_of_pushed hreceived (hconsistent.getElem?_of_mem hmem)
    have hqT : T[found.streamIndex]? = some q := getElem?_of_prefix (List.take_prefix _ _) hq
    have hcount := hconsistent.count .secondary
    have hp : S[w.engine.nextStreamIndex .secondary]? = some p := by
      have hgrown := (pushIngest_ingested env .secondary p w).received .secondary
      rw [if_pos rfl] at hgrown
      rw [hgrown] at hS
      have hget := getElem?_of_received hS
      rwa [received, List.length_map, hcount] at hget
    have hbegun := h.begun
    rw [hcount] at hbegun
    have hsame := hfound.same
    have hcontent := hfound.content
    rw [hr] at hsame hcontent
    have hmatch := recordsExactNonErrorMatch_makeRecord.mp hsame
    refine hshift.pairOffset_eq hT hpcr hp hbegun.le hqT hmatch ?_
    rcases hcontent with hcontent | ⟨h1, h2, h3⟩
    · exact .inl hcontent
    · simp only [makeRecord] at h1 h2 h3
      rw [if_pos h1, if_pos h2] at h3
      exact .inr ⟨h1, h2, h3⟩

/-- What waits in the secondary queue is what has to be sent next. -/
structure Continues (o : ℤ) (n k : ℕ) (w₀ w : World σ) : Prop where
  consistent : Consistent w
  takesOver : TakesOver o n k w₀ w
  only : ∃ L, GoesOn (k + 1) (sentRecords w₀.trace) w L w.engine.secondaryQueue.toList

/-- Entering failover discards what the primary has sent. -/
theorem enterFailover_continues (nowNs : ℕ) (hconsistent : Consistent w) (h : TakesOver o n k w₀ w) :
    Continues o n k w₀ (enterFailover nowNs w) := by
  obtain ⟨L, rest, hgoes⟩ := h.goes
  have hengine : (enterFailover nowNs w).engine = discardSecondaryRecordsThrough w.engine k := by
    simp only [enterFailover, discardSecondaryRecordsAlreadyOutputByPrimary, h.knows.secondaryCutoff_eq]
  have hqueue : (enterFailover nowNs w).engine.secondaryQueue.toList = rest := by
    rw [hengine, ← hgoes.discard hconsistent]
    exact RingBuffer.toList_popWhile _ _
  have hsent : sentRecords (enterFailover nowNs w).trace = sentRecords w.trace := by
    simp [enterFailover, World.log, sentRecords, sentEvents]
  have hpushed : ∀ s, pushedRecords s (enterFailover nowNs w).trace = pushedRecords s w.trace := by
    intro s
    simp [enterFailover, World.log, pushedRecords]
  have hgoes' : GoesOn (k + 1) (sentRecords w₀.trace) (enterFailover nowNs w) L rest :=
    { sent := hsent.trans hgoes.sent
      split := by rw [hpushed, hgoes.split]
      waits := by rw [hqueue]
      alone := fun _ => hqueue.symm }
  refine ⟨(enterFailover_consumes nowNs w).consistent hconsistent, ?_, L, by rw [hqueue]; exact hgoes'⟩
  exact
    { knows := h.knows.of_same (by rw [hengine]; rfl) (by rw [hengine]; rfl) (by rw [hengine]; rfl)
      begun := by rw [hpushed]; exact h.begun
      later := h.later.trans (List.prefix_append _ _)
      silent := (hpushed .primary).trans h.silent
      idle := by rw [hengine]; exact h.idle
      goes := ⟨L, rest, hgoes'⟩ }

/-- The front record is the next one. -/
theorem failoverSent_continues {r : PacketRecord} {s : σ}
    (hfront : delayQueueFront w.engine.secondaryQueue = some r) (h : Continues o n k w₀ w) :
    Continues o n k w₀ (failoverSent env w r s) := by
  obtain ⟨L, hgoes⟩ := h.only
  have hsource : r.sourceStreamId = .secondary :=
    h.consistent.source_of_mem (h.consistent.mem_of_front (s := .secondary) hfront)
  rw [delayQueueFront_eq, List.head?_eq_some_iff] at hfront
  obtain ⟨rest, hrest⟩ := hfront
  obtain ⟨l, ht, hl⟩ := setActiveOutputStream_trace env w .secondary
  have hnotes : ∀ ev ∈ l, ev.IsNote := by
    rcases hl with ⟨rfl, -⟩ | ⟨rfl, -⟩ <;> simp [Event.IsNote]
  have htrace : (failoverSent env w r s).trace = w.trace ++ (l ++ [.sent .failover r]) := by
    rw [failoverSent_trace, ht, List.append_assoc]
  have hpushed : ∀ s', pushedRecords s' (failoverSent env w r s).trace = pushedRecords s' w.trace := by
    intro s'
    rw [htrace, pushedRecords_append, pushedRecords_append, pushedRecords_of_notes hnotes]
    simp
  have hsent : sentRecords (failoverSent env w r s).trace = sentRecords w.trace ++ [r] := by
    rw [htrace, sentRecords_append, sentRecords_append]
    have hnone : sentRecords l = [] := by rw [sentRecords, sentEvents_of_notes hnotes]; rfl
    rw [hnone]
    simp [sentRecords]
  have hqueue : (failoverSent env w r s).engine.secondaryQueue.toList = rest := by
    rw [failoverSent_engine]
    simp [hrest]
  have hgoes' : GoesOn (k + 1) (sentRecords w₀.trace) (failoverSent env w r s) (L ++ [r]) rest :=
    { sent := by rw [hsent, hgoes.sent, List.append_assoc]
      split := by rw [hpushed, hgoes.split, hrest]; simp
      waits := by rw [hqueue]
      alone := fun _ => hqueue.symm }
  refine ⟨(failoverSent_consumes (by rw [delayQueueFront_eq, hrest]; rfl)).consistent h.consistent, ?_,
    L ++ [r], by rw [hqueue]; exact hgoes'⟩
  have hover := h.takesOver
  exact
    { knows := by
        refine hover.knows.of_same ?_ ?_ ?_ <;> rw [failoverSent_engine]
        · rfl
        · simp [RecoveryEngine.outputIndex, hsource]
      begun := by rw [hpushed]; exact hover.begun
      later := hover.later.trans (failoverSent_appends w r s)
      silent := (hpushed .primary).trans hover.silent
      idle := by rw [failoverSent_engine]; exact hover.idle
      goes := ⟨L ++ [r], rest, hgoes'⟩ }

/-- **What every stage keeps while the primary is silent.** -/
theorem Stage.takesOver (hacc : env.Accepting) (hT : Feed T) (hpcr : PcrDistinct T)
    (hshift : Shifted T o S) (hP : received .primary w₀.trace = (T.take (n + 1)).map (·.packet))
    (hstage : Stage env w w') (hq : Silence S w₀ w'.trace) (hconsistent : Consistent w)
    (h : TakesOver o n k w₀ w) : TakesOver o n k w₀ w' := by
  have hempty : w.engine.primaryQueue.ring.count = 0 := by
    rw [RingBuffer.count_eq_zero_iff]
    exact h.idle
  cases hstage with
  | ingest streamId p =>
    have hingested := pushIngest_ingested env streamId p w
    obtain ⟨a, i, q1, q2, he⟩ := hingested.engine
    cases streamId with
    | primary =>
      have hgrown := hingested.pushed .primary
      have hlength := hq.primary.length_le
      rw [hgrown, h.silent, if_pos rfl, List.length_append, List.length_singleton] at hlength
      omega
    | secondary =>
      have hother := hingested.otherQueue
      have hprimary := hingested.pushed .primary
      have hsecondary := hingested.pushed .secondary
      rw [if_neg (by simp), List.append_nil] at hprimary
      rw [if_pos rfl] at hsecondary
      have hsent : sentRecords (pushIngest env .secondary p w).trace = sentRecords w.trace := by
        rw [sentRecords, hingested.sentEvents_eq, sentRecords]
      have hgrows : w.trace <+: _ := Stage.trace_prefix (Stage.ingest .secondary p w : Stage env w _)
      obtain ⟨l, ht, hl, hover, hcases⟩ := hingested.trace
      have hqueue : (pushIngest env .secondary p w).engine.secondaryQueue.toList =
          w.engine.secondaryQueue.toList ++ [makeRecord .secondary
            (w.engine.nextStreamIndex .secondary) (env.clock w.reads) p] := by
        rcases hcases with ⟨-, hqueue⟩ | ⟨hmem, -⟩
        · exact hqueue
        · exfalso
          apply hq.kept
          have hle := h.later.length_le
          rw [ht, List.drop_append_of_le_length hle]
          exact List.mem_append_right _ (List.mem_cons_of_mem _ hmem)
      obtain ⟨L, rest, hgoes⟩ := h.goes
      obtain ⟨rest', hgoes'⟩ := hgoes.pushed hsent hsecondary hqueue
      refine
        { knows := ⟨h.ingest_offset hT hpcr hshift hP hq.secondary hconsistent, ?_, h.knows.first, ?_⟩
          begun := ?_
          later := h.later.trans hgrows
          silent := hprimary.trans h.silent
          idle := ?_
          goes := ⟨L, rest', hgoes'⟩ }
      · rw [he]
        exact h.knows.sent
      · rw [he]
        exact h.knows.anchor
      · have hbegun := h.begun
        rw [hsecondary, List.length_append]
        push_cast
        omega
      · change (pushIngest env .secondary p w).engine.primaryQueue = w.engine.primaryQueue at hother
        rw [hother]
        exact h.idle
  | sink s => exact h.of_same (List.append_nil _).symm (by simp) rfl rfl rfl h.idle rfl
  | read => exact h.of_same (List.append_nil _).symm (by simp) rfl rfl rfl h.idle rfl
  | wait _ idle =>
    obtain ⟨start, he⟩ := openDrain_engine env w
    refine h.of_same (openDrain_trace w) (by simp [Event.IsNote]) ?_ ?_ ?_ ?_ ?_ <;> rw [he]
    · rfl
    · rfl
    · exact h.idle
  | discard _ nonempty ready => exact absurd hempty nonempty
  | takeOver _ ready =>
    obtain ⟨l, ht, hl⟩ := setActiveOutputStream_trace env w .primary
    have hnotes : ∀ ev ∈ l, ev.IsNote := by
      rcases hl with ⟨rfl, -⟩ | ⟨rfl, -⟩ <;> simp [Event.IsNote]
    refine h.of_same ht hnotes ?_ ?_ ?_ ?_ ?_ <;> rw [setActiveOutputStream_engine]
    · rfl
    · rfl
    · exact h.idle
  | release primary _ front active =>
    rw [delayQueueFront_eq, h.idle] at front
    cases front
  | failover force nowNs _ guard =>
    refine (failoverLoop_rule (J := Continues o n k w₀) ?_ ?_ ?_ _ _
      (enterFailover_continues nowNs hconsistent h)).takesOver
    · intro w₁ h₁
      obtain ⟨L, hgoes⟩ := h₁.only
      have hread : Stage env w₁ (reportStatsNowNs env w₁).2 := .read w₁
      exact ⟨hread.consistent h₁.consistent, h₁.takesOver.of_same (List.append_nil _).symm (by simp)
        rfl rfl rfl h₁.takesOver.idle rfl, L, hgoes.of_same rfl rfl rfl⟩
    · intro w₁ r s hfront h₁
      exact failoverSent_continues hfront h₁
    · intro w₁ s hrefuses _
      exact absurd hacc hrefuses

end Stages

/-! ### The state before -/

section Before

variable {k : ℕ}

/-- The queue keeps the records from the index `k` on at its end. -/
theorem QueueKeeps.suffix (h : QueueKeeps k w) (hconsistent : Consistent w) :
    (pushedRecords .secondary w.trace).drop k <:+ w.engine.secondaryQueue.toList := by
  obtain ⟨X, hX⟩ := hconsistent.queue .secondary
  change X ++ w.engine.secondaryQueue.toList = _ at hX
  refine List.suffix_of_suffix_length_le (List.drop_suffix _ _) ⟨X, hX⟩ ?_
  rw [List.length_drop]
  by_cases hk : k < (pushedRecords .secondary w.trace).length
  · have hget : (pushedRecords .secondary w.trace)[k]? = some _ := List.getElem?_eq_getElem hk
    obtain ⟨t, p, hr⟩ := hconsistent.place _ _ _ hget
    have hmem := h _ (List.mem_of_getElem? hget) (by rw [hr]; exact le_rfl)
    obtain ⟨-, hge⟩ := hconsistent.index_lt_iff hX.symm
    have hle := hge _ hmem
    rw [hr] at hle
    have hlength := congrArg List.length hX
    rw [List.length_append] at hlength
    change X.length ≤ k at hle
    omega
  · omega

/-- Where the secondary delivers `T` at the offset, its records from there on are the rest of `T`. -/
theorem Shifted.drop_prefix (hshift : Shifted T o S) (hk : (k : ℤ) = n + o) :
    S.drop k <+: T.drop n := by
  rw [List.prefix_iff_getElem?]
  intro i hi
  have hget : S[k + i]? = some (S.drop k)[i] := by
    rw [← List.getElem?_drop, List.getElem?_eq_getElem hi]
  have hplace := hshift (k + i) _ hget
  rw [if_neg (by push_cast; omega)] at hplace
  rw [List.getElem?_drop, ← hplace]
  congr 1
  push_cast
  omega

/-- The anchor lies behind the last packet of the primary. -/
theorem delivered_anchor_lt (h : Delivered T n o w) (hT : Feed T) (hshift : Shifted T o S)
    (hS : received .secondary w.trace <+: S.map (·.packet)) (hconsistent : Consistent w)
    (hmatches : AnchorMatches w) (hvalid : w.engine.lastPrimaryAnchor.valid = true) :
    (w.engine.lastPrimaryAnchor.secondaryIndex : ℤ) < n + o := by
  obtain ⟨a, b, ha, hb, hcontent, hsame⟩ := hmatches hvalid
  obtain ⟨t, p, hp, rfl⟩ := hconsistent.packet_of_pushed h.received ha
  obtain ⟨t', q, rfl⟩ := hconsistent.place _ _ _ hb
  have hmatch := recordsExactNonErrorMatch_makeRecord.mp hsame
  have hpT : T[w.engine.lastPrimaryAnchor.primaryIndex]? = some p :=
    getElem?_of_prefix (List.take_prefix _ _) hp
  have hlt : w.engine.lastPrimaryAnchor.primaryIndex < n := by
    have hlength := (List.getElem?_eq_some_iff.mp hp).1
    rw [List.length_take] at hlength
    omega
  have hqS : S[w.engine.lastPrimaryAnchor.secondaryIndex]? = some q := by
    have hreceived : (received .secondary w.trace)[w.engine.lastPrimaryAnchor.secondaryIndex]? =
        some q.packet := by
      rw [received, List.getElem?_map, hb]
      rfl
    have hget := getElem?_of_prefix hS hreceived
    rw [List.getElem?_map, Option.map_eq_some_iff] at hget
    obtain ⟨q', hq', hpacket⟩ := hget
    rw [hq', ParsedPacket.ext_packet hpacket]
  have hplace := hshift _ _ hqS
  have hcontent' : q.info.isNull = false := by
    rw [← ParsedPacket.isNull_of_key hmatch.2.2]
    exact hcontent
  split_ifs at hplace with hfront
  · exact absurd hmatch (hplace p (List.mem_of_getElem? hpT) hcontent')
  · have := hT.place_eq hpT hplace hcontent hmatch.2.2
    omega

/-- The engine knows where the secondary has to go on. -/
theorem knows_of_delivered {config : RecoveryEngineConfig} {sinkState : σ}
    (hreach : Reachable env config sinkState w) (hT : Feed T) (hshift : Shifted T o S)
    (hS : received .secondary w.trace <+: S.map (·.packet)) (h : Delivered T (n + 1) o w) :
    ∃ k, Knows o n (k + 1) w ∧ o < (pushedRecords .secondary w.trace).length := by
  have hconsistent := reachable_consistent hreach
  have hcount : (pushedRecords .primary w.trace).length = n + 1 := by
    have hlength := congrArg List.length h.received
    rw [received, List.length_map, List.length_map, List.length_take] at hlength
    have hbounded := h.bounded
    omega
  have hoffset : w.engine.alignedOffset = some o := by
    rw [RecoveryEngine.alignedOffset, h.aligned.1, h.aligned.2]
    rfl
  -- the pair that has set the alignment bounds the offset
  obtain ⟨a, ha, b, hb, hab⟩ := reachable_alignedByPair hreach o hoffset
  have halt := (List.getElem?_eq_some_iff.mp (hconsistent.getElem?_of_mem ha)).1
  have hblt := (List.getElem?_eq_some_iff.mp (hconsistent.getElem?_of_mem hb)).1
  refine ⟨(n + o).toNat, ⟨hoffset, ?_, by omega, fun hvalid => ?_⟩, by omega⟩
  · exact h.sent.outputIndex_eq hconsistent (sentKnown_of_reachable hreach) hcount
  · have hlt := delivered_anchor_lt h hT hshift hS hconsistent (reachable_anchorSet hreach).1 hvalid
    push_cast at hlt
    omega

end Before

/-! ### The takeover -/

/-- **Failover is hitless.** From a state in which the primary has delivered the first `n` packets of
`T` and the queue keeps what the secondary has to send, the secondary continues `T` while the primary
is silent. -/
theorem failover_hitless {config : RecoveryEngineConfig} {sinkState : σ} {ops : List Op}
    (hacc : env.Accepting) (hreach : Reachable env config sinkState w) (hT : Feed T)
    (hpcr : PcrDistinct T) (h : Delivered T n o w) (hshift : Shifted T o S)
    (hS : received .secondary (run env w ops).trace = S.map (·.packet))
    (hkeeps : QueueKeeps (n + o) w) (hsilent : pushedPackets .primary ops = [])
    (hno : .overflow .secondary ∉ (run env w ops).trace.drop w.trace.length) :
    ∃ L, sentRecords (run env w ops).trace = sentRecords w.trace ++ L ∧
      L.map (·.packet) <+: (T.drop n).map (·.packet) := by
  have hconsistent := reachable_consistent hreach
  have hgrows : w.trace <+: (run env w ops).trace :=
    trace_prefix (fun _ _ hstage => Stage.trace_prefix hstage) (run_stages env w ops)
  have hSw : received .secondary w.trace <+: S.map (·.packet) := by
    rw [← hS]
    exact (pushedRecords_grow hgrows .secondary).map _
  obtain ⟨m, rfl⟩ : ∃ m, n = m + 1 := ⟨n - 1, by have := h.nonempty; omega⟩
  obtain ⟨k, hknows, hbegun⟩ := knows_of_delivered hreach hT hshift hSw h
  have hk : ((k + 1 : ℕ) : ℤ) = ((m + 1 : ℕ) : ℤ) + o := by
    have hfirst := hknows.first
    push_cast at hfirst ⊢
    exact hfirst
  rw [← hk] at hkeeps
  have hstart : TakesOver o m k w w :=
    { knows := hknows
      begun := hbegun
      later := List.prefix_rfl
      silent := rfl
      idle := h.sent.queue_nil hconsistent (sentKnown_of_reachable hreach)
      goes := ⟨[], (pushedRecords .secondary w.trace).drop (k + 1), (List.append_nil _).symm, rfl,
        hkeeps.suffix hconsistent, fun hL => absurd rfl hL⟩ }
  have hq : Silence S w (run env w ops).trace := by
    refine ⟨?_, ?_, hno⟩
    · have hpushed := run_received env w ops .primary
      rw [hsilent, List.map_nil, List.append_nil] at hpushed
      have hlength := congrArg List.length hpushed
      rw [received, received, List.length_map, List.length_map] at hlength
      rw [← (pushedRecords_grow hgrows .primary).eq_of_length hlength.symm]
    · rw [hS]
  have hend : TakesOver o m k w (run env w ops) :=
    bounded_stages (Q := Silence S w) (fun _ _ hp ht => ht.of_prefix hp) (run_stages env w ops) hq
      hconsistent hstart fun _ _ hstage hq hc hw =>
        hstage.takesOver hacc hT hpcr hshift h.received hq hc hw
  obtain ⟨L, rest, hgoes⟩ := hend.goes
  refine ⟨L, hgoes.sent, ?_⟩
  have hL : L <+: (pushedRecords .secondary (run env w ops).trace).drop (k + 1) :=
    hgoes.split ▸ List.prefix_append _ _
  have hpackets : ((pushedRecords .secondary (run env w ops).trace).drop (k + 1)).map (·.packet) =
      (S.drop (k + 1)).map (·.packet) := by
    rw [List.map_drop, List.map_drop, ← hS]
    rfl
  exact (hL.map _).trans (hpackets ▸ (hshift.drop_prefix hk).map _)

/-! ### A run -/

instance (w : World σ) : Decidable (AllSent w) := inferInstanceAs (Decidable (_ = _))

instance (k : ℤ) (w : World σ) : Decidable (QueueKeeps k w) :=
  inferInstanceAs (Decidable (∀ _ ∈ _, _))

theorem shifted_zero (T : List ParsedPacket) : Shifted T 0 T := by
  intro i p hp
  rw [if_neg (by omega)]
  simpa using hp

/-- A packet with a clock reference and two of payload. -/
def hitlessFeed : List ParsedPacket :=
  [(pcrPacket 0x100 0 1).parse, (payloadPacket 0x100 1 1).parse, (payloadPacket 0x100 2 2).parse]

/-- The primary falls silent after its first packet. -/
def hitlessEnv : Env Unit := scriptedEnv (.replicate 8 1) 20

def hitlessWorld : World Unit :=
  run hitlessEnv (freshWorld { promptConfig with primaryOutageNs := 10 } ())
    [.push .secondary (pcrPacket 0x100 0 1).parse, .push .primary (pcrPacket 0x100 0 1).parse,
      .push .secondary (payloadPacket 0x100 1 1).parse]

/-- The secondary sends its backlog and goes on. -/
def hitlessLater : List Op :=
  [.drain false, .push .secondary (payloadPacket 0x100 2 2).parse, .drain false]

theorem hitlessWorld_reachable :
    Reachable hitlessEnv { promptConfig with primaryOutageNs := 10 } () hitlessWorld :=
  run_reachable _ _ _ _

theorem hitlessWorld_facts :
    (Feed hitlessFeed ∧ PcrDistinct hitlessFeed) ∧
      hitlessWorld.engine.activeOutputStreamId = .primary ∧
      received .primary hitlessWorld.trace = (hitlessFeed.take 1).map (·.packet) ∧
      AllSent hitlessWorld ∧
      (hitlessWorld.engine.alignment.hasAlignment = true ∧
        hitlessWorld.engine.alignment.offsetPackets = 0) ∧
      QueueKeeps (1 + 0) hitlessWorld ∧
      received .secondary (run hitlessEnv hitlessWorld hitlessLater).trace =
        hitlessFeed.map (·.packet) ∧
      noOverflow ((run hitlessEnv hitlessWorld hitlessLater).trace.drop
        hitlessWorld.trace.length) = true := by
  decide +kernel

/-- The secondary goes on with the second packet. -/
theorem failover_hitless_hitlessWorld :
    ∃ L, sentRecords (run hitlessEnv hitlessWorld hitlessLater).trace =
        sentRecords hitlessWorld.trace ++ L ∧
      L.map (·.packet) <+: (hitlessFeed.drop 1).map (·.packet) := by
  have ⟨⟨hT, hpcr⟩, hactive, hprimary, hsent, haligned, hkeeps, hsecondary, hno⟩ := hitlessWorld_facts
  have hdelivered : Delivered hitlessFeed 1 0 hitlessWorld :=
    ⟨hactive, le_rfl, by decide, hprimary, hsent, haligned⟩
  exact failover_hitless (S := hitlessFeed) (scriptedEnv_accepting _ _) hitlessWorld_reachable hT hpcr
    hdelivered (shifted_zero _) hsecondary hkeeps rfl (not_mem_of_noOverflow hno _)

/-! ### A record that the queue has lost -/

theorem delayQueuePush_size {queue queue' : DelayQueue} {r : PacketRecord}
    (h : delayQueuePush queue r = some queue') :
    queue'.ring.capacity = queue.ring.capacity ∧ queue'.delayNs = queue.delayNs := by
  obtain ⟨ring, hring, rfl⟩ := Option.map_eq_some_iff.mp h
  rw [RingBuffer.push?] at hring
  split_ifs at hring
  obtain rfl := Option.some.inj hring
  exact ⟨rfl, rfl⟩

/-- A push keeps the size and the delay of the secondary queue. -/
theorem pushIngest_secondaryQueue (env : Env σ) (streamId : StreamId) (p : ParsedPacket) (w : World σ) :
    (pushIngest env streamId p w).engine.secondaryQueue.ring.capacity =
        w.engine.secondaryQueue.ring.capacity ∧
      (pushIngest env streamId p w).engine.secondaryQueue.delayNs = w.engine.secondaryQueue.delayNs := by
  have hobserved := ((updatePcrTiming_observed (storeRecord env streamId p w).2
    (storeRecord env streamId p w).1).trans (observeInputPathGap_observed _ streamId
      (storeRecord env streamId p w).1)).trans (updateAlignment_observed _ streamId
        (storeRecord env streamId p w).1)
  unfold pushIngest
  simp only
  generalize updateAlignment _ streamId (storeRecord env streamId p w).1 = w₁ at hobserved ⊢
  obtain ⟨a, i, he⟩ := hobserved.engine
  have hsame : w₁.engine.secondaryQueue = w.engine.secondaryQueue := by rw [he]; rfl
  rw [← hsame]
  cases streamId with
  | primary =>
    simp only [pushQueue]
    split <;> exact ⟨rfl, rfl⟩
  | secondary =>
    simp only [pushQueue]
    split
    · next queue hqueue => exact delayQueuePush_size hqueue
    · simp only [World.log, delayQueuePopPush]
      cases hpush : delayQueuePush (delayQueuePop w₁.engine.secondaryQueue)
          (storeRecord env .secondary p w).1 with
      | none => exact ⟨rfl, rfl⟩
      | some queue =>
        obtain ⟨hcapacity, hdelay⟩ := delayQueuePush_size hpush
        exact ⟨hcapacity.trans (RingBuffer.pop_capacity _), hdelay⟩

/-- While the primary is heard and has nothing to send, a push only stores its record. -/
theorem step_push_idle {streamId : StreamId} {p : ParsedPacket}
    (hactive : w.engine.activeOutputStreamId = .primary)
    (hidle : (pushIngest env streamId p w).engine.primaryQueue.toList = [])
    (hheard : primaryIsSilentBeyondOutage (pushIngest env streamId p w).engine
      (env.clock (w.reads + 1)) = false) :
    step env w (.push streamId p) = openDrain env (pushIngest env streamId p w) := by
  have hingested := pushIngest_ingested env streamId p w
  obtain ⟨a, i, q1, q2, he⟩ := hingested.engine
  obtain ⟨start, ho⟩ := openDrain_engine env (pushIngest env streamId p w)
  have hactive' : (openDrain env (pushIngest env streamId p w)).engine.activeOutputStreamId = .primary := by
    rw [ho, he]
    exact hactive
  have hcount : (openDrain env (pushIngest env streamId p w)).engine.primaryQueue.ring.count = 0 := by
    rw [RingBuffer.count_eq_zero_iff, ho]
    exact hidle
  have hsilent : primaryIsSilentBeyondOutage (openDrain env (pushIngest env streamId p w)).engine
      (env.clock (w.reads + 1)) = false := by
    rw [ho]
    exact hheard
  change (recoveryEngineDrain env false (pushIngest env streamId p w)).2 = _
  rw [recoveryEngineDrain_eq, if_pos hcount, hactive', hingested.reads, if_neg (by simp),
    drainSecondaryOnPrimaryOutage, hactive', hsilent, if_pos (by decide)]

/-- A failover that is due sends the front record and returns. -/
theorem failoverLoop_sends {r : PacketRecord} {n : ℕ} (hacc : env.Accepting) (hn : n ≠ 0)
    (hfront : delayQueueFront w.engine.secondaryQueue = some r)
    (hdue : w.engine.secondaryQueue.delayNs = 0) :
    (failoverLoop env false n w).2.trace =
      (setActiveOutputStream env (reportStatsNowNs env w).2 .secondary).trace ++ [.sent .failover r] := by
  obtain ⟨m, rfl⟩ := Nat.exists_eq_succ_of_ne_zero hn
  have hready : notYetDue false (reportStatsNowNs env w).2.engine.secondaryQueue r
      (reportStatsNowNs env w).1 = false := by
    have hsame : (reportStatsNowNs env w).2.engine.secondaryQueue.delayNs = 0 := hdue
    simp [notYetDue, hsame]
  obtain ⟨s, hsent⟩ := outputRecord_accepting hacc .failover
    (setActiveOutputStream env (reportStatsNowNs env w).2 .secondary) r
  rw [failoverLoop, hfront]
  simp only [hready, Bool.false_eq_true, if_false, hsent, Bool.not_false, if_true]
  rw [acceptRecord_trace]

/-- Two packets and null stuffing. -/
def stuffedFeed (k : ℕ) : List ParsedPacket :=
  [(pcrPacket 0x100 0 1).parse, (payloadPacket 0x100 1 1).parse] ++ .replicate k nullPacket

/-- Time 20 comes after 8192 null packets. -/
def stuffedEnv : Env Unit := scriptedEnv (.replicate (8 + 2 * 8192) 1) 20

/-- The smallest queues there are. -/
def stuffedConfig : RecoveryEngineConfig := { promptConfig with historyMs := 1, primaryOutageNs := 10 }

/-- The primary falls silent after its first packet, the secondary goes on with `k` null packets. -/
def stuffedWorld (k : ℕ) : World Unit :=
  run stuffedEnv (freshWorld stuffedConfig ())
    ([.push .secondary (pcrPacket 0x100 0 1).parse, .push .primary (pcrPacket 0x100 0 1).parse,
      .push .secondary (payloadPacket 0x100 1 1).parse] ++ .replicate k (.push .secondary nullPacket))

/-- The secondary has sent nothing and its last record waits. -/
structure Waiting (k : ℕ) (w : World Unit) : Prop where
  active : w.engine.activeOutputStreamId = .primary
  outage : w.engine.config.primaryOutageNs = 10
  idle : w.engine.primaryQueue.toList = []
  offset : w.engine.alignedOffset = some 0
  sent : AllSent w
  primary : received .primary w.trace = ((stuffedFeed k).take 1).map (·.packet)
  secondary : received .secondary w.trace = (stuffedFeed k).map (·.packet)
  arrivals : w.engine.lastInputArrivalNs .primary = 1 ∧ w.engine.lastInputArrivalNs .secondary = 1
  reads : w.reads = 8 + 2 * k
  queue : w.engine.secondaryQueue.ring.capacity = 8192 ∧ w.engine.secondaryQueue.delayNs = 0 ∧
    w.engine.secondaryQueue.toList ≠ []

theorem stuffedWorld_zero : Waiting 0 (stuffedWorld 0) := by
  have h : (stuffedWorld 0).engine.activeOutputStreamId = .primary ∧
      (stuffedWorld 0).engine.config.primaryOutageNs = 10 ∧
      (stuffedWorld 0).engine.primaryQueue.toList = [] ∧
      (stuffedWorld 0).engine.alignedOffset = some 0 ∧ AllSent (stuffedWorld 0) ∧
      received .primary (stuffedWorld 0).trace = ((stuffedFeed 0).take 1).map (·.packet) ∧
      received .secondary (stuffedWorld 0).trace = (stuffedFeed 0).map (·.packet) ∧
      ((stuffedWorld 0).engine.lastInputArrivalNs .primary = 1 ∧
        (stuffedWorld 0).engine.lastInputArrivalNs .secondary = 1) ∧
      (stuffedWorld 0).reads = 8 + 2 * 0 ∧
      (stuffedWorld 0).engine.secondaryQueue.ring.capacity = 8192 ∧
      (stuffedWorld 0).engine.secondaryQueue.delayNs = 0 ∧
      (stuffedWorld 0).engine.secondaryQueue.toList ≠ [] := by decide +kernel
  exact ⟨h.1, h.2.1, h.2.2.1, h.2.2.2.1, h.2.2.2.2.1, h.2.2.2.2.2.1, h.2.2.2.2.2.2.1,
    h.2.2.2.2.2.2.2.1, h.2.2.2.2.2.2.2.2.1, h.2.2.2.2.2.2.2.2.2⟩

theorem stuffedEnv_accepting : stuffedEnv.Accepting := scriptedEnv_accepting _ _

theorem stuffedEnv_clock {i : ℕ} (h : i < 8 + 2 * 8192) : stuffedEnv.clock i = 1 :=
  (scriptedEnv_clock _ 1 20 i).trans (if_pos h)

theorem stuffedFeed_length (k : ℕ) : (stuffedFeed k).length = 2 + k := by
  rw [stuffedFeed, List.length_append, List.length_replicate]
  rfl

theorem stuffedFeed_drop (k : ℕ) : ((stuffedFeed k).drop 1).map (·.packet) =
    (payloadPacket 0x100 1 1).parse.packet :: List.replicate k nullPacket.packet := by
  rw [stuffedFeed, ← List.map_replicate]
  rfl

theorem stuffedFeed_succ (k : ℕ) : stuffedFeed (k + 1) = stuffedFeed k ++ [nullPacket] := by
  rw [stuffedFeed, stuffedFeed, List.replicate_succ', List.append_assoc]

theorem Waiting.push {k : ℕ} {w : World Unit} (hk : k < 8192) (h : Waiting k w) :
    Waiting (k + 1) (step stuffedEnv w (.push .secondary nullPacket)) := by
  have hingested := pushIngest_ingested stuffedEnv .secondary nullPacket w
  obtain ⟨a, i, q1, q2, he⟩ := hingested.engine
  obtain ⟨harrivals1, harrivals2⟩ := h.arrivals
  have hclock := stuffedEnv_clock (i := w.reads) (by rw [h.reads]; omega)
  have hclock' := stuffedEnv_clock (i := w.reads + 1) (by rw [h.reads]; omega)
  have hqueue : (pushIngest stuffedEnv .secondary nullPacket w).engine.primaryQueue =
      w.engine.primaryQueue := hingested.otherQueue
  have harrivals : (pushIngest stuffedEnv .secondary nullPacket w).engine.lastInputArrivalNs .primary = 1 := by
    rw [he]
    simpa using harrivals1
  have hheard : primaryIsSilentBeyondOutage (pushIngest stuffedEnv .secondary nullPacket w).engine
      (stuffedEnv.clock (w.reads + 1)) = false := by
    simp [primaryIsSilentBeyondOutage, harrivals1, hclock', he, h.outage]
  have hstep := step_push_idle (p := nullPacket) h.active (by rw [hqueue]; exact h.idle) hheard
  have hreceived := step_received stuffedEnv w (.push .secondary nullPacket)
  obtain ⟨start, ho⟩ := openDrain_engine stuffedEnv (pushIngest stuffedEnv .secondary nullPacket w)
  have hsent : sentRecords (step stuffedEnv w (.push .secondary nullPacket)).trace = sentRecords w.trace := by
    rw [hstep, openDrain_trace, sentRecords_append, sentRecords, hingested.sentEvents_eq]
    simp [sentRecords, sentEvents]
  have hpushed : pushedRecords .primary (step stuffedEnv w (.push .secondary nullPacket)).trace =
      pushedRecords .primary w.trace := by
    rw [hstep, openDrain_trace, pushedRecords_append, hingested.pushed .primary]
    simp [pushedRecords]
  have hsize := pushIngest_secondaryQueue stuffedEnv .secondary nullPacket w
  have hnone : pcrPartner w.engine (storeRecord stuffedEnv .secondary nullPacket w).1 = none := rfl
  have haligned := pushIngest_aligned_of_null stuffedEnv .secondary (p := nullPacket) rfl w
  rw [hnone] at haligned
  simp only [World.aligned, AlignmentView.mk.injEq] at haligned
  have hwaits : (pushIngest stuffedEnv .secondary nullPacket w).engine.secondaryQueue.toList ≠ [] := by
    obtain ⟨l, -, -, -, ⟨-, hlist⟩ | ⟨-, hlist⟩⟩ := hingested.trace <;>
      rw [RecoveryEngine.queue] at hlist <;> simp [hlist]
  constructor
  · rw [hstep, ho, he]
    exact h.active
  · rw [hstep, ho, he]
    exact h.outage
  · rw [hstep, ho]
    exact (congrArg DelayQueue.toList hqueue).trans h.idle
  · rw [hstep, ho, RecoveryEngine.alignedOffset, haligned.1, haligned.2.1]
    exact h.offset
  · rw [AllSent, hsent, hpushed]
    exact h.sent
  · exact (hreceived .primary).trans ((List.append_nil _).trans h.primary)
  · rw [stuffedFeed_succ, List.map_append, ← h.secondary]
    exact hreceived .secondary
  · rw [hstep, ho, he]
    simp [harrivals1, hclock]
  · rw [hstep]
    change (pushIngest stuffedEnv .secondary nullPacket w).reads + 1 = _
    rw [hingested.reads, h.reads]
    omega
  · rw [hstep, ho]
    exact ⟨hsize.1.trans h.queue.1, hsize.2.trans h.queue.2.1, hwaits⟩

theorem stuffedWorld_waiting {k : ℕ} (hk : k ≤ 8192) : Waiting k (stuffedWorld k) := by
  induction k with
  | zero => exact stuffedWorld_zero
  | succ k ih =>
    have hnext : stuffedWorld (k + 1) = step stuffedEnv (stuffedWorld k) (.push .secondary nullPacket) := by
      rw [stuffedWorld, List.replicate_succ', ← List.append_assoc, run, List.foldl_append]
      rfl
    rw [hnext]
    exact (ih (by omega)).push hk

/-- Null packets behind a feed. -/
theorem pairwise_stuffed {R : ParsedPacket → ParsedPacket → Prop} {A : List ParsedPacket} (k : ℕ)
    (hA : A.Pairwise R) (hnull : ∀ p, R p nullPacket) :
    (A ++ List.replicate k nullPacket).Pairwise R := by
  refine List.pairwise_append.mpr ⟨hA, List.pairwise_replicate.mpr (.inr (hnull _)), ?_⟩
  intro p _ q hq
  rw [List.eq_of_mem_replicate hq]
  exact hnull p

theorem stuffedFeed_feed (k : ℕ) : Feed (stuffedFeed k) ∧ PcrDistinct (stuffedFeed k) := by
  have hfront : Feed (stuffedFeed 0) ∧ PcrDistinct (stuffedFeed 0) := by decide +kernel
  refine ⟨⟨fun p hp => ?_, ?_⟩, ?_⟩
  · rcases List.mem_append.mp hp with hp | hp
    · exact hfront.1.clean p (List.mem_append_left _ hp)
    · rw [List.eq_of_mem_replicate hp]
      exact ⟨rfl, rfl⟩
  · exact pairwise_stuffed k hfront.1.distinct fun p _ hnull => by cases hnull
  · exact pairwise_stuffed k hfront.2 fun p _ hnull => by cases hnull

/-- The queue has lost the payload packet. -/
theorem Waiting.front_null {w : World Unit} (h : Waiting 8192 w) (hconsistent : Consistent w) :
    ∀ r ∈ w.engine.secondaryQueue.toList, 2 ≤ r.streamIndex ∧ r.packet = nullPacket.packet := by
  obtain ⟨X, hX⟩ := hconsistent.queue .secondary
  change X ++ w.engine.secondaryQueue.toList = _ at hX
  have hlength : X.length + w.engine.secondaryQueue.toList.length = 2 + 8192 := by
    have hreceived := congrArg List.length h.secondary
    rwa [received, ← hX, List.length_map, List.length_append, List.length_map, stuffedFeed_length]
      at hreceived
  have hle : w.engine.secondaryQueue.toList.length ≤ 8192 := by
    rw [← h.queue.1, DelayQueue.toList, RingBuffer.length_toList]
    exact RingBuffer.count_le _
  intro r hr
  obtain ⟨-, hge⟩ := hconsistent.index_lt_iff hX.symm
  have hindex : 2 ≤ r.streamIndex := le_trans (by omega) (hge r hr)
  have hpushed : r ∈ pushedRecords .secondary w.trace := by
    rw [← hX]
    exact List.mem_append_right _ hr
  obtain ⟨t, p, hp, heq⟩ := hconsistent.packet_of_pushed h.secondary (hconsistent.getElem?_of_mem hpushed)
  rw [stuffedFeed, List.getElem?_append_right (by simpa using hindex)] at hp
  refine ⟨hindex, ?_⟩
  rw [heq, List.eq_of_mem_replicate (List.mem_of_getElem? hp)]
  rfl

theorem stuffedWorld_reachable (k : ℕ) : Reachable stuffedEnv stuffedConfig () (stuffedWorld k) :=
  run_reachable _ _ _ _

theorem Waiting.delivered {k : ℕ} {w : World Unit} (h : Waiting k w) :
    Delivered (stuffedFeed k) 1 0 w where
  active := h.active
  nonempty := le_rfl
  bounded := by rw [stuffedFeed_length]; omega
  received := h.primary
  sent := h.sent
  aligned := by
    have hoffset := h.offset
    rw [RecoveryEngine.alignedOffset] at hoffset
    split_ifs at hoffset with haligned
    exact ⟨haligned, Option.some.inj hoffset⟩

/-- The next drain sends a null packet. -/
theorem Waiting.drain {w : World Unit} (h : Waiting 8192 w) (hreach : Reachable stuffedEnv stuffedConfig () w) :
    ∃ l r, (step stuffedEnv w (.drain false)).trace = w.trace ++ l ∧ sentRecords l = [r] ∧
      r.packet = nullPacket.packet ∧ ∀ ev ∈ l, ∀ s, ev ≠ .overflow s := by
  have hconsistent := reachable_consistent hreach
  have hclock : stuffedEnv.clock w.reads = 20 := by
    rw [h.reads]
    exact (scriptedEnv_clock _ 1 20 _).trans (if_neg (lt_irrefl _))
  obtain ⟨start, ho⟩ := openDrain_engine stuffedEnv w
  have hcount : (openDrain stuffedEnv w).engine.primaryQueue.ring.count = 0 := by
    rw [RingBuffer.count_eq_zero_iff, ho]
    exact h.idle
  have hactive : (openDrain stuffedEnv w).engine.activeOutputStreamId = .primary := by
    rw [ho]
    exact h.active
  have hsilent : primaryIsSilentBeyondOutage (openDrain stuffedEnv w).engine 20 = true := by
    rw [ho]
    simp [primaryIsSilentBeyondOutage, h.outage, h.arrivals.1, h.arrivals.2]
  -- the cutoff is the first record, so the queue stays as it is
  obtain ⟨k, hknows, -⟩ := knows_of_delivered hreach (stuffedFeed_feed 8192).1
    (shifted_zero (stuffedFeed 8192)) (by rw [h.secondary]) h.delivered
  obtain rfl : k = 0 := by
    have hfirst := hknows.first
    omega
  have hnull := h.front_null hconsistent
  have hcutoff : secondaryCutoff (openDrain stuffedEnv w).engine = some 0 := by
    rw [ho]
    exact hknows.secondaryCutoff_eq
  have hengine : (enterFailover 20 (openDrain stuffedEnv w)).engine =
      discardSecondaryRecordsThrough (openDrain stuffedEnv w).engine 0 := by
    simp only [enterFailover, discardSecondaryRecordsAlreadyOutputByPrimary, hcutoff]
  have hkept : (enterFailover 20 (openDrain stuffedEnv w)).engine.secondaryQueue.ring =
      w.engine.secondaryQueue.ring := by
    rw [hengine, ho]
    refine RingBuffer.popWhile_eq_self fun r hr => ?_
    rw [RingBuffer.front?_eq_head?] at hr
    have hindex := (hnull r (List.mem_of_mem_head? hr)).1
    simp only [decide_eq_true_eq]
    omega
  obtain ⟨r, rest, hqueue⟩ := List.exists_cons_of_ne_nil h.queue.2.2
  have hfront : delayQueueFront (enterFailover 20 (openDrain stuffedEnv w)).engine.secondaryQueue =
      some r := by
    rw [delayQueueFront_eq, DelayQueue.toList, hkept]
    exact congrArg List.head? hqueue
  have hdue : (enterFailover 20 (openDrain stuffedEnv w)).engine.secondaryQueue.delayNs = 0 := by
    rw [hengine, ho]
    exact h.queue.2.1
  have hn : (enterFailover 20 (openDrain stuffedEnv w)).engine.secondaryQueue.ring.count ≠ 0 := by
    rw [hkept, ne_eq, RingBuffer.count_eq_zero_iff]
    exact h.queue.2.2
  have htrace := failoverLoop_sends stuffedEnv_accepting hn hfront hdue
  obtain ⟨l, ht, hl⟩ := setActiveOutputStream_trace stuffedEnv
    (reportStatsNowNs stuffedEnv (enterFailover 20 (openDrain stuffedEnv w))).2 .secondary
  have hstep : (step stuffedEnv w (.drain false)).trace =
      w.trace ++ ([.drain 20 w.engine, .failover 20 (openDrain stuffedEnv w).engine] ++ l ++
        [.sent .failover r]) := by
    change (recoveryEngineDrain stuffedEnv false w).2.trace = _
    rw [recoveryEngineDrain_eq, if_pos hcount, hactive, if_neg (by simp), hclock,
      drainSecondaryOnPrimaryOutage, hactive, hsilent, if_neg (by simp)]
    refine htrace.trans ?_
    rw [ht]
    change ((openDrain stuffedEnv w).trace ++ [.failover 20 (openDrain stuffedEnv w).engine] ++ l) ++ _ = _
    rw [openDrain_trace, hclock]
    simp
  have hnotes : sentRecords l = [] ∧ ∀ ev ∈ l, ∀ s, ev ≠ .overflow s := by
    rcases hl with ⟨rfl, -⟩ | ⟨rfl, -⟩ <;> simp [sentRecords, sentEvents]
  refine ⟨_, r, hstep, ?_, (hnull r (by rw [hqueue]; simp)).2, ?_⟩
  · rw [sentRecords_append, sentRecords_append, hnotes.1]
    rfl
  · intro ev hev s
    rcases List.mem_append.mp hev with hev | hev
    · rcases List.mem_append.mp hev with hev | hev
      · rcases List.mem_cons.mp hev with rfl | hev
        · simp
        · obtain rfl := List.mem_singleton.mp hev
          simp
      · exact hnotes.2 ev hev s
    · obtain rfl := List.mem_singleton.mp hev
      simp

theorem Waiting.skips {w : World Unit} (h : Waiting 8192 w) (hreach : Reachable stuffedEnv stuffedConfig () w) :
    received .secondary (run stuffedEnv w [.drain false]).trace = (stuffedFeed 8192).map (·.packet) ∧
      .overflow .secondary ∉ (run stuffedEnv w [.drain false]).trace.drop w.trace.length ∧
      ¬ ∃ L, sentRecords (run stuffedEnv w [.drain false]).trace = sentRecords w.trace ++ L ∧
        L.map (·.packet) <+: ((stuffedFeed 8192).drop 1).map (·.packet) := by
  obtain ⟨l, r, ht, hsent, hpacket, hnone⟩ := h.drain hreach
  have hreceived := step_received stuffedEnv w (.drain false) .secondary
  change _ ∧ .overflow .secondary ∉ (step stuffedEnv w (.drain false)).trace.drop _ ∧
    ¬ ∃ L, sentRecords (step stuffedEnv w (.drain false)).trace = _ ∧ _
  refine ⟨hreceived.trans ((List.append_nil _).trans h.secondary), ?_, ?_⟩
  · rw [ht, List.drop_left]
    exact fun hmem => hnone _ hmem _ rfl
  · rintro ⟨L, hL, hprefix⟩
    rw [ht, sentRecords_append, hsent] at hL
    rw [← List.append_cancel_left hL, stuffedFeed_drop] at hprefix
    have hfirst := (List.cons_prefix_cons.mp hprefix).1
    exact absurd (hpacket.symm.trans hfirst) (by decide +kernel)

/-- The payload packet is skipped. -/
theorem failover_skips_lost :
    stuffedEnv.Accepting ∧ Monotone stuffedEnv.clock ∧
      Reachable stuffedEnv stuffedConfig () (stuffedWorld 8192) ∧ Feed (stuffedFeed 8192) ∧
      PcrDistinct (stuffedFeed 8192) ∧ Delivered (stuffedFeed 8192) 1 0 (stuffedWorld 8192) ∧
      Shifted (stuffedFeed 8192) 0 (stuffedFeed 8192) ∧
      received .secondary (run stuffedEnv (stuffedWorld 8192) [.drain false]).trace =
        (stuffedFeed 8192).map (·.packet) ∧
      .overflow .secondary ∉
        (run stuffedEnv (stuffedWorld 8192) [.drain false]).trace.drop (stuffedWorld 8192).trace.length ∧
      ¬ ∃ L, sentRecords (run stuffedEnv (stuffedWorld 8192) [.drain false]).trace =
          sentRecords (stuffedWorld 8192).trace ++ L ∧
        L.map (·.packet) <+: ((stuffedFeed 8192).drop 1).map (·.packet) := by
  have hwaiting := stuffedWorld_waiting le_rfl
  have hreach := stuffedWorld_reachable 8192
  have hclock : Monotone stuffedEnv.clock :=
    scriptedEnv_monotone (List.pairwise_append.mpr ⟨List.pairwise_replicate.mpr (.inr le_rfl), by simp,
      fun a ha b hb => by
        rw [List.eq_of_mem_replicate ha, List.mem_singleton.mp hb]
        decide⟩)
  exact ⟨stuffedEnv_accepting, hclock, hreach, (stuffedFeed_feed _).1, (stuffedFeed_feed _).2,
    hwaiting.delivered, shifted_zero _, hwaiting.skips hreach⟩

end TwoStream
