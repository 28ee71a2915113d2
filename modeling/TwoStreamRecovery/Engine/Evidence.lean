import TwoStreamRecovery.Engine.Insertion

/-!
# The evidence for an insertion

* `GapEvidence e primary secondaryMatch kind L`: all that is known when a gap recovery of `kind`
  inserts the records `L` before `primary`.
* `gapValidator_valid_iff`: a validator accepts an after-anchor exactly when there is such evidence.
* `gapRecovery_eq`: the recovery, whose own checks repeat the validator's, then sends `L`.
* `TeiEvidence`: all that is known when a damaged record is replaced.
-/

namespace TwoStream

variable {σ : Type}

/-! ### Scans -/

/-- Each record fits the output state left by those before it. -/
def FitsInTurn : (ℕ → PidState) → List PacketRecord → Prop
  | _, [] => True
  | states, r :: rest =>
    recordFitsOutputStates states r = true ∧ FitsInTurn (observeOutputStates states r) rest

/-- Neither error nor discontinuity flag. -/
def PacketRecord.Clean (r : PacketRecord) : Prop :=
  r.transportError = false ∧ r.discontinuityIndicator = false

theorem fitsInTurn_append {states : ℕ → PidState} {L L' : List PacketRecord} :
    FitsInTurn states (L ++ L') ↔
      FitsInTurn states L ∧ FitsInTurn (L.foldl observeOutputStates states) L' := by
  induction L generalizing states with
  | nil => simp [FitsInTurn]
  | cons r rest ih => simp [FitsInTurn, ih, and_assoc]

/-- On clean records the simulated output states are the real ones. -/
theorem foldl_observeOutputStates {L : List PacketRecord} (h : ∀ r ∈ L, r.Clean)
    (states : ℕ → PidState) :
    L.foldl observeOutputStates states = L.foldl outputStatesAfter states := by
  induction L generalizing states with
  | nil => rfl
  | cons r rest ih =>
    have hr := h r List.mem_cons_self
    have hstep : observeOutputStates states r = outputStatesAfter states r := by
      simp [observeOutputStates, outputStatesAfter, hr.1, hr.2]
    rw [List.foldl_cons, List.foldl_cons, hstep, ih fun r hr => h r (List.mem_cons_of_mem _ hr)]

theorem scanNullRegion_eq_clean_iff {history : PacketHistory} {n index : ℕ} :
    scanNullRegion history n index = .clean ↔
      ∃ L, L.length = n ∧ HistoryRange history index L ∧
        ∀ r ∈ L, r.isNull = true ∧ r.Clean := by
  induction n generalizing index with
  | zero =>
    refine ⟨fun _ => ⟨[], rfl, trivial, by simp⟩, fun _ => rfl⟩
  | succ n ih =>
    unfold scanNullRegion
    cases hfind : packetHistoryFindIndex history index with
    | none =>
      refine ⟨fun h => by simp at h, ?_⟩
      rintro ⟨_ | ⟨r, L⟩, hlen, hrange, -⟩
      · simp at hlen
      · cases hfind.symm.trans hrange.1
    | some r =>
      simp only
      constructor
      · intro h
        split_ifs at h with h1 h2 h3
        obtain ⟨L, hlen, hrange, hL⟩ := ih.mp h
        refine ⟨r :: L, by simp [hlen], ⟨hfind, hrange⟩, ?_⟩
        intro x hx
        rcases List.mem_cons.mp hx with rfl | hx
        · simp only [Bool.not_eq_true] at h1 h2 h3
          exact ⟨by simpa using h1, h2, h3⟩
        · exact hL x hx
      · rintro ⟨_ | ⟨r', L⟩, hlen, hrange, hL⟩
        · simp at hlen
        · obtain rfl : r = r' := Option.some.inj (hfind.symm.trans hrange.1)
          obtain ⟨hnull, htei, hdisc⟩ := hL r List.mem_cons_self
          rw [if_neg (by simp [hnull]), if_neg (by simp [htei]), if_neg (by simp [hdisc])]
          exact ih.mpr ⟨L, by simpa using hlen, hrange.2,
            fun x hx => hL x (List.mem_cons_of_mem _ hx)⟩

theorem scanMixedRegion_eq_ok_iff {history : PacketHistory} {n index : ℕ} {s t : MixedScan} :
    scanMixedRegion history n index s = .ok t ↔
      ∃ L, L.length = n ∧ HistoryRange history index L ∧ (∀ r ∈ L, r.Clean) ∧
        FitsInTurn s.states L ∧ t = L.foldl MixedScan.observe s := by
  induction n generalizing index s with
  | zero =>
    constructor
    · intro h
      exact ⟨[], rfl, trivial, by simp, trivial, (Except.ok.inj h).symm⟩
    · rintro ⟨L, hlen, -, -, -, rfl⟩
      rw [List.length_eq_zero_iff.mp hlen]
      rfl
  | succ n ih =>
    unfold scanMixedRegion
    cases hfind : packetHistoryFindIndex history index with
    | none =>
      refine ⟨fun h => by simp at h, ?_⟩
      rintro ⟨_ | ⟨r, L⟩, hlen, hrange, -⟩
      · simp at hlen
      · cases hfind.symm.trans hrange.1
    | some r =>
      simp only
      constructor
      · intro h
        split_ifs at h with h1 h2 h3
        obtain ⟨L, hlen, hrange, hclean, hfits, ht⟩ := ih.mp h
        refine ⟨r :: L, by simp [hlen], ⟨hfind, hrange⟩, ?_, ⟨by simpa using h3, hfits⟩, ht⟩
        intro x hx
        rcases List.mem_cons.mp hx with rfl | hx
        · exact ⟨by simpa using h1, by simpa using h2⟩
        · exact hclean x hx
      · rintro ⟨_ | ⟨r', L⟩, hlen, hrange, hclean, hfits, ht⟩
        · simp at hlen
        · obtain rfl : r = r' := Option.some.inj (hfind.symm.trans hrange.1)
          obtain ⟨htei, hdisc⟩ := hclean r List.mem_cons_self
          rw [if_neg (by simp [htei]), if_neg (by simp [hdisc]), if_neg (by simp [hfits.1])]
          exact ih.mpr ⟨L, by simpa using hlen, hrange.2,
            fun x hx => hclean x (List.mem_cons_of_mem _ hx), hfits.2, ht⟩

theorem foldl_observe_states (L : List PacketRecord) (s : MixedScan) :
    (L.foldl MixedScan.observe s).states = L.foldl observeOutputStates s.states := by
  induction L generalizing s with
  | nil => rfl
  | cons r rest ih => exact ih _

theorem foldl_observe_sawContent (L : List PacketRecord) (s : MixedScan) :
    (L.foldl MixedScan.observe s).sawContent = (s.sawContent || L.any fun r => !r.isNull) := by
  induction L generalizing s with
  | nil => simp
  | cons r rest ih =>
    rw [List.foldl_cons, ih, List.any_cons, ← Bool.or_assoc]
    rfl

theorem findMissingCandidate_eq_some {history : PacketHistory} {pid cc n index : ℕ}
    {candidate found : Option PacketRecord}
    (h : findMissingCandidate history pid cc n index candidate = some found) :
    found = candidate ∨ ∃ r, found = some r ∧ packetHistoryFindIndex history r.streamIndex = some r ∧
      index ≤ r.streamIndex ∧ r.streamIndex < index + n := by
  induction n generalizing index candidate with
  | zero => exact .inl (Option.some.inj h).symm
  | succ n ih =>
    unfold findMissingCandidate at h
    have hwiden : ∀ c, (found = c ∨ ∃ r, found = some r ∧
        packetHistoryFindIndex history r.streamIndex = some r ∧
          index + 1 ≤ r.streamIndex ∧ r.streamIndex < index + 1 + n) →
        found = c ∨ ∃ r, found = some r ∧ packetHistoryFindIndex history r.streamIndex = some r ∧
          index ≤ r.streamIndex ∧ r.streamIndex < index + (n + 1) := by
      rintro c (hc | ⟨r, hr, hfind, h1, h2⟩)
      · exact .inl hc
      · exact .inr ⟨r, hr, hfind, by omega, by omega⟩
    cases hfind : packetHistoryFindIndex history index with
    | none =>
      rw [hfind] at h
      exact hwiden _ (ih h)
    | some possible =>
      rw [hfind] at h
      simp only at h
      split_ifs at h with h1 h2
      · rcases hwiden _ (ih h) with hc | hr
        · have hi := packetHistoryFindIndex_index hfind
          exact .inr ⟨possible, hc, by rw [hi]; exact hfind, by omega, by omega⟩
        · exact .inr hr
      · exact hwiden _ (ih h)

theorem checkMissingCandidate_eq_ok {pid cc : ℕ} {candidate : Option PacketRecord}
    {r : PacketRecord} (h : checkMissingCandidate pid cc candidate = .ok r) :
    candidate = some r ∧ r.isNull = false ∧ r.Clean ∧ r.pid = pid ∧ r.hasPayload = true ∧
      r.continuityCounter = cc := by
  cases candidate with
  | none => simp [checkMissingCandidate] at h
  | some c =>
    simp only [checkMissingCandidate] at h
    split_ifs at h with h1 h2 h3 h4 h5
    obtain rfl := Except.ok.inj h
    simp only [Bool.or_eq_true, Bool.not_eq_eq_eq_not, Bool.not_true, ne_eq, decide_eq_true_eq,
      not_or, Bool.not_eq_false, Decidable.not_not, Bool.not_eq_true] at h1 h2 h3 h4 h5
    exact ⟨rfl, h1, ⟨h2, h3⟩, h4, h5.1, h5.2⟩

theorem checkExactStates_eq_none_iff {primary : PacketRecord} {L : List PacketRecord}
    {states : ℕ → PidState} :
    checkExactStates primary L states = none ↔ FitsInTurn states (L ++ [primary]) := by
  induction L generalizing states with
  | nil => simp [checkExactStates, FitsInTurn]
  | cons r rest ih =>
    unfold checkExactStates
    cases hfits : recordFitsOutputStates states r with
    | false => simp [FitsInTurn, hfits]
    | true => simpa [FitsInTurn, hfits] using ih

theorem scanExactContent_eq_ok {e : RecoveryEngine} {primary secondaryMatch : PacketRecord}
    {previousCc n k : ℕ} {L : List PacketRecord}
    (h : scanExactContent e primary secondaryMatch previousCc n k = .ok L) :
    L.length = n ∧ ∀ i r, L[i]? = some r →
      chooseMissingCandidate e primary secondaryMatch ((previousCc + 1 + (k + i)) % 16) = .ok r := by
  induction n generalizing k L with
  | zero =>
    obtain rfl := Except.ok.inj h
    simp
  | succ n ih =>
    unfold scanExactContent at h
    cases hc : chooseMissingCandidate e primary secondaryMatch ((previousCc + 1 + k) % 16) with
    | error r => simp [hc] at h
    | ok r =>
      rw [hc] at h
      cases hrest : scanExactContent e primary secondaryMatch previousCc n (k + 1) with
      | error r => simp [hrest] at h
      | ok rest =>
        rw [hrest] at h
        obtain rfl := Except.ok.inj h
        obtain ⟨hlen, hrest⟩ := ih hrest
        refine ⟨by simp [hlen], ?_⟩
        rintro (_ | i) x hx
        · rw [← Option.some.inj hx]
          exact hc
        · have hx := hrest i x (by simpa using hx)
          rwa [show k + 1 + i = k + (i + 1) by omega] at hx

/-! ### Windows -/

theorem prefixMatches_iff {e : RecoveryEngine} {n i j : ℕ} :
    prefixMatches e n i j = true ↔ ∀ x, x < n → ∃ a b,
      packetHistoryFindIndex (e.history .primary) (i + x) = some a ∧
        packetHistoryFindIndex (e.history .secondary) (j + x) = some b ∧
          recordsExactNonErrorMatch a b = true := by
  induction n generalizing i j with
  | zero => simp [prefixMatches]
  | succ n ih =>
    have hsplit : prefixMatches e (n + 1) i j = true ↔
        (∃ a b, packetHistoryFindIndex (e.history .primary) i = some a ∧
          packetHistoryFindIndex (e.history .secondary) j = some b ∧
            recordsExactNonErrorMatch a b = true) ∧ prefixMatches e n (i + 1) (j + 1) = true := by
      rw [prefixMatches]
      cases packetHistoryFindIndex (e.history .primary) i <;>
        cases packetHistoryFindIndex (e.history .secondary) j <;> simp
    rw [hsplit, ih]
    constructor
    · rintro ⟨hhead, hrest⟩ x hx
      cases x with
      | zero => exact hhead
      | succ x =>
        have hx' := hrest x (by omega)
        rw [show i + 1 + x = i + (x + 1) by omega, show j + 1 + x = j + (x + 1) by omega] at hx'
        exact hx'
    · intro hall
      refine ⟨hall 0 (by omega), fun x hx => ?_⟩
      have hx' := hall (x + 1) (by omega)
      rw [show i + (x + 1) = i + 1 + x by omega, show j + (x + 1) = j + 1 + x by omega] at hx'
      exact hx'

section Window

variable {e : RecoveryEngine} {primary secondaryMatch : PacketRecord}

theorem noGapWindow_eq_false_iff :
    noGapWindow e primary secondaryMatch = false ↔
      primary.isNull = false ∧ primary.Clean ∧ e.lastPrimaryAnchor.valid = true ∧
        e.lastPrimaryAnchor.secondaryIndex < secondaryMatch.streamIndex ∧
        e.lastPrimaryAnchor.primaryIndex < primary.streamIndex := by
  simp [noGapWindow, PacketRecord.Clean, and_assoc]

/-- The exact scan starts behind the anchor, or behind the matching prefix. -/
theorem candidateFirstIndex_cases (e : RecoveryEngine) (primary secondaryMatch : PacketRecord) :
    candidateFirstIndex e primary secondaryMatch = e.lastPrimaryAnchor.secondaryIndex + 1 ∨
      candidateFirstIndex e primary secondaryMatch = firstCandidateIndex e primary ∧
        primaryBetween e primary < secondaryBetween e secondaryMatch ∧
        windowPrefixMatches e primary = true := by
  simp only [candidateFirstIndex, firstCandidateIndex]
  split
  · next h =>
    simp only [Bool.and_eq_true, decide_eq_true_eq] at h
    exact .inr ⟨by omega, h.1.2, h.2⟩
  · exact .inl rfl

/-- The record chosen for a missing counter is a copy of it inside the scanned stretch. -/
theorem chooseMissingCandidate_eq_ok {cc : ℕ} {r : PacketRecord}
    (hw : noGapWindow e primary secondaryMatch = false)
    (h : chooseMissingCandidate e primary secondaryMatch cc = .ok r) :
    packetHistoryFindIndex (e.history .secondary) r.streamIndex = some r ∧
      candidateFirstIndex e primary secondaryMatch ≤ r.streamIndex ∧
      r.streamIndex < secondaryMatch.streamIndex ∧ r.isNull = false ∧ r.Clean ∧
      r.pid = primary.pid ∧ r.hasPayload = true ∧ r.continuityCounter = cc := by
  obtain ⟨-, -, -, hs, hp⟩ := noGapWindow_eq_false_iff.mp hw
  simp only [chooseMissingCandidate] at h
  cases hfind : findMissingCandidate (e.history .secondary) primary.pid cc
      (secondaryMatch.streamIndex - candidateFirstIndex e primary secondaryMatch)
      (candidateFirstIndex e primary secondaryMatch) none with
  | none => simp [hfind] at h
  | some found =>
    rw [hfind] at h
    obtain ⟨hr, hchecks⟩ := checkMissingCandidate_eq_ok h
    have hplace : packetHistoryFindIndex (e.history .secondary) r.streamIndex = some r ∧
        candidateFirstIndex e primary secondaryMatch ≤ r.streamIndex ∧
        r.streamIndex < secondaryMatch.streamIndex := by
      cases found with
      | some x =>
        obtain rfl : x = r := Option.some.inj hr
        rcases findMissingCandidate_eq_some hfind with hx | ⟨x', hx, hfind, h1, h2⟩
        · cases hx
        · obtain rfl := Option.some.inj hx
          exact ⟨hfind, h1, by omega⟩
      | none =>
        -- the fallback lies in the stretch as well
        simp only [fallbackCandidate] at hr
        split_ifs at hr with h1 h2
        · have hi := packetHistoryFindIndex_index hr
          refine ⟨by rw [hi]; exact hr, ?_, ?_⟩
          · rcases candidateFirstIndex_cases e primary secondaryMatch with hf | ⟨hf, -⟩
            · omega
            · rw [firstCandidateIndex] at hf
              omega
          · simp only [missingPackets, secondaryBetween] at h1
            omega
        · have hi := packetHistoryFindIndex_index hr
          refine ⟨by rw [hi]; exact hr, ?_, by omega⟩
          simp only [missingPackets] at h1
          rcases candidateFirstIndex_cases e primary secondaryMatch with hf | ⟨hf, hlt, -⟩
          · rw [secondaryBetween] at h1
            omega
          · rw [firstCandidateIndex] at hf
            rw [secondaryBetween] at h1 hlt
            omega
    exact ⟨hplace.1, hplace.2.1, hplace.2.2, hchecks⟩

theorem ccMissingCount_le {n : ℕ} (h : ccMissingCount e primary secondaryMatch = some n) :
    n ≤ 15 := by
  simp only [ccMissingCount] at h
  split at h
  · simp at h
  · split at h
    · next hinfer =>
      obtain rfl := Option.some.inj h
      have := inferMissingFromCc_le hinfer
      omega
    · split_ifs at h with hc
      simp only [Bool.and_eq_true, decide_eq_true_eq] at hc
      obtain rfl := Option.some.inj h
      exact hc.1.2

end Window

/-! ### Evidence -/

/-- What each kind of recovery inserts, and why. -/
inductive GapPlan (e : RecoveryEngine) (primary secondaryMatch : PacketRecord) :
    GapKind → List PacketRecord → Prop
  | nullPosition {L : List PacketRecord}
      (longer : primaryBetween e primary < secondaryBetween e secondaryMatch)
      (samePrefix : windowPrefixMatches e primary = true)
      (range : HistoryRange (e.history .secondary) (firstCandidateIndex e primary) L)
      (length : L.length = missingPackets e primary secondaryMatch)
      (null : ∀ r ∈ L, r.isNull = true) : GapPlan e primary secondaryMatch .nullPosition L
  | mixedPosition {L : List PacketRecord}
      (longer : primaryBetween e primary < secondaryBetween e secondaryMatch)
      (samePrefix : windowPrefixMatches e primary = true)
      (range : HistoryRange (e.history .secondary) (firstCandidateIndex e primary) L)
      (length : L.length = missingPackets e primary secondaryMatch)
      (content : ∃ r ∈ L, r.isNull = false)
      (fits : FitsInTurn e.outputPidState (L ++ [primary])) :
      GapPlan e primary secondaryMatch .mixedPosition L
  | exactContent {L : List PacketRecord} {previousCc : ℕ}
      (notShorter : primaryBetween e primary ≤ secondaryBetween e secondaryMatch)
      (misfit : recordFitsNextOutput e primary = false)
      (previous : previousOutputCcForRecord e primary = some previousCc)
      (count : ccMissingCount e primary secondaryMatch = some L.length)
      (nonempty : L ≠ [])
      (chosen : scanExactContent e primary secondaryMatch previousCc L.length 0 = .ok L)
      (fits : FitsInTurn e.outputPidState (L ++ [primary])) :
      GapPlan e primary secondaryMatch .exactContent L

/-- Everything that is known when the records `L` are inserted before `primary`. -/
structure GapEvidence (e : RecoveryEngine) (primary secondaryMatch : PacketRecord) (kind : GapKind)
    (L : List PacketRecord) : Prop where
  window : noGapWindow e primary secondaryMatch = false
  burst : L.length ≤ e.config.maxContentBurstPackets
  confidence : e.config.minAlignmentConfidence ≤ e.alignment.confidence
  before : beforeAnchorHolds e = true
  after : afterAnchorHolds primary secondaryMatch = true
  clean : ∀ r ∈ L, r.Clean
  plan : GapPlan e primary secondaryMatch kind L

/-- The validator of a kind of recovery. -/
def gapValidator : GapKind → RecoveryEngine → PacketRecord → PacketRecord → CandidateValidation
  | .nullPosition => validateNullPositionCandidate
  | .mixedPosition => validateMixedPositionCandidate
  | .exactContent => validateExactContentCandidate

section Validators

variable {e : RecoveryEngine} {primary secondaryMatch : PacketRecord}

/-- A guard that rejects. -/
theorem ite_valid_iff {c : Prop} [Decidable c] {a b : CandidateValidation} (ha : a.valid = false) :
    (if c then a else b).valid = true ↔ ¬ c ∧ b.valid = true := by
  by_cases h : c
  · simp [h, ha]
  · simp [h]

theorem validateNullPositionCandidate_valid_iff :
    (validateNullPositionCandidate e primary secondaryMatch).valid = true ↔
      ∃ L, GapEvidence e primary secondaryMatch .nullPosition L := by
  simp only [validateNullPositionCandidate]
  rw [ite_valid_iff rfl, ite_valid_iff rfl, ite_valid_iff (by split <;> rfl), ite_valid_iff rfl,
    ite_valid_iff rfl, ite_valid_iff rfl, ite_valid_iff rfl]
  constructor
  · rintro ⟨hw, hlong, hmax, hconf, hbefore, hafter, hprefix, h⟩
    cases hscan : scanNullRegion (e.history .secondary) (missingPackets e primary secondaryMatch)
        (firstCandidateIndex e primary) with
    | clean =>
      obtain ⟨L, hlen, hrange, hL⟩ := scanNullRegion_eq_clean_iff.mp hscan
      exact ⟨L, by simpa using hw, by omega, by omega, by simpa using hbefore, by simpa using hafter,
        fun r hr => (hL r hr).2,
        .nullPosition (by omega) (by simpa using hprefix) hrange hlen fun r hr => (hL r hr).1⟩
    | notNull => simp [hscan] at h
    | reject r => simp [hscan] at h
  · rintro ⟨L, hw, hmax, hconf, hbefore, hafter, hclean, hplan⟩
    cases hplan with
    | nullPosition longer samePrefix range length null =>
      have hscan := scanNullRegion_eq_clean_iff.mpr
        ⟨L, length, range, fun r hr => ⟨null r hr, hclean r hr⟩⟩
      refine ⟨by simp [hw], by omega, by omega, by omega, by simp [hbefore], by simp [hafter],
        by simp [samePrefix], ?_⟩
      rw [hscan]

theorem validateMixedPositionCandidate_valid_iff :
    (validateMixedPositionCandidate e primary secondaryMatch).valid = true ↔
      ∃ L, GapEvidence e primary secondaryMatch .mixedPosition L := by
  simp only [validateMixedPositionCandidate]
  rw [ite_valid_iff rfl, ite_valid_iff rfl, ite_valid_iff rfl, ite_valid_iff rfl, ite_valid_iff rfl,
    ite_valid_iff rfl, ite_valid_iff rfl]
  constructor
  · rintro ⟨hw, hlong, hmax, hconf, hbefore, hafter, hprefix, h⟩
    cases hscan : scanMixedRegion (e.history .secondary) (missingPackets e primary secondaryMatch)
        (firstCandidateIndex e primary) (.start e) with
    | error r => simp [hscan] at h
    | ok s =>
      obtain ⟨L, hlen, hrange, hclean, hfits, rfl⟩ := scanMixedRegion_eq_ok_iff.mp hscan
      rw [hscan] at h
      simp only at h
      rw [ite_valid_iff rfl, ite_valid_iff rfl, foldl_observe_sawContent, foldl_observe_states] at h
      obtain ⟨hcontent, hfit, -⟩ := h
      exact ⟨L, by simpa using hw, by omega, by omega, by simpa using hbefore, by simpa using hafter,
        hclean,
        .mixedPosition (by omega) (by simpa using hprefix) hrange hlen
          (by simpa [MixedScan.start] using hcontent)
          (fitsInTurn_append.mpr ⟨hfits, by simpa [MixedScan.start] using hfit, trivial⟩)⟩
  · rintro ⟨L, hw, hmax, hconf, hbefore, hafter, hclean, hplan⟩
    cases hplan with
    | mixedPosition longer samePrefix range length content fits =>
      obtain ⟨hL, hfit, -⟩ := fitsInTurn_append.mp fits
      have hscan := scanMixedRegion_eq_ok_iff.mpr ⟨L, length, range, hclean,
        show FitsInTurn (MixedScan.start e).states L from hL, rfl⟩
      refine ⟨by simp [hw], by omega, by omega, by omega, by simp [hbefore], by simp [hafter],
        by simp [samePrefix], ?_⟩
      rw [hscan]
      simp only
      rw [ite_valid_iff rfl, ite_valid_iff rfl, foldl_observe_sawContent, foldl_observe_states]
      exact ⟨by simpa [MixedScan.start] using content, by simpa [MixedScan.start] using hfit, rfl⟩

theorem validateExactContentCandidate_valid_iff :
    (validateExactContentCandidate e primary secondaryMatch).valid = true ↔
      ∃ L, GapEvidence e primary secondaryMatch .exactContent L := by
  simp only [validateExactContentCandidate]
  rw [ite_valid_iff rfl, ite_valid_iff rfl, ite_valid_iff rfl]
  constructor
  · rintro ⟨hw, hshort, hfit, h⟩
    split at h
    · next previousCc n hprevious hcount =>
      rw [ite_valid_iff rfl, ite_valid_iff rfl, ite_valid_iff rfl, ite_valid_iff rfl,
        ite_valid_iff rfl] at h
      obtain ⟨hzero, hmax, hconf, hbefore, hafter, h⟩ := h
      cases hscan : scanExactContent e primary secondaryMatch previousCc n 0 with
      | error r => simp [hscan] at h
      | ok L =>
        rw [hscan] at h
        simp only at h
        cases hstates : checkExactStates primary L e.outputPidState with
        | some r => simp [hstates] at h
        | none =>
          obtain ⟨hlen, hchosen⟩ := scanExactContent_eq_ok hscan
          subst hlen
          have hw' : noGapWindow e primary secondaryMatch = false := by simpa using hw
          refine ⟨L, hw', by omega, by omega, by simpa using hbefore, by simpa using hafter,
            fun r hr => ?_, .exactContent (by omega) (by simpa using hfit) hprevious hcount
              (by simpa using hzero) hscan (checkExactStates_eq_none_iff.mp hstates)⟩
          obtain ⟨i, hi⟩ := List.getElem?_of_mem hr
          exact (chooseMissingCandidate_eq_ok hw' (hchosen i r hi)).2.2.2.2.1
    · simp at h
  · rintro ⟨L, hw, hmax, hconf, hbefore, hafter, hclean, hplan⟩
    cases hplan with
    | exactContent notShorter misfit previous count nonempty chosen fits =>
      refine ⟨by simp [hw], by omega, by simp [misfit], ?_⟩
      rw [previous, count]
      simp only
      rw [ite_valid_iff rfl, ite_valid_iff rfl, ite_valid_iff rfl, ite_valid_iff rfl,
        ite_valid_iff rfl, chosen]
      refine ⟨by simpa using nonempty, by omega, by omega, by simp [hbefore], by simp [hafter], ?_⟩
      simp only [checkExactStates_eq_none_iff.mpr fits]

/-- **A validator accepts exactly on evidence.** -/
theorem gapValidator_valid_iff {kind : GapKind} :
    (gapValidator kind e primary secondaryMatch).valid = true ↔
      ∃ L, GapEvidence e primary secondaryMatch kind L :=
  match kind with
  | .nullPosition => validateNullPositionCandidate_valid_iff
  | .mixedPosition => validateMixedPositionCandidate_valid_iff
  | .exactContent => validateExactContentCandidate_valid_iff

end Validators

/-! ### Damaged records -/

/-- Everything that is known when `candidate` replaces the damaged record `primary`. -/
structure TeiEvidence (e : RecoveryEngine) (primary candidate : PacketRecord) : Prop where
  content : primary.isNull = false ∧ primary.hasPayload = true ∧ primary.discontinuityIndicator = false
  confidence : e.config.minAlignmentConfidence ≤ e.alignment.confidence
  before : beforeAnchorHolds e = true
  aligned : findAlignedSecondaryRecord e primary = some candidate
  clean : candidate.Clean
  samePid : candidate.isNull = false ∧ candidate.hasPayload = true ∧ candidate.pid = primary.pid
  sameCounter : candidate.continuityCounter = primary.continuityCounter
  after : recordsAreNonNullExactAnchor
    (packetHistoryFindIndex (e.history .primary) (primary.streamIndex + 1))
    (packetHistoryFindIndex (e.history .secondary) (candidate.streamIndex + 1)) = true
  fits : recordFitsNextOutput e candidate = true

/-- **A damaged record is replaced exactly on evidence.** -/
theorem checkPrimaryTei_eq_ok_iff {e : RecoveryEngine} {primary candidate : PacketRecord} :
    checkPrimaryTei e primary = .ok candidate ↔ TeiEvidence e primary candidate := by
  constructor
  · intro h
    simp only [checkPrimaryTei] at h
    by_cases hcontent : primary.isNull || !primary.hasPayload || primary.discontinuityIndicator
    · rw [if_pos hcontent] at h
      split_ifs at h
    · rw [if_neg hcontent] at h
      split_ifs at h with hconf hbefore
      cases hfind : findAlignedSecondaryRecord e primary with
      | none => simp [hfind] at h
      | some c =>
        rw [hfind] at h
        simp only at h
        split_ifs at h with htei hdisc hpid hcc hafter hfits
        obtain rfl := Except.ok.inj h
        refine ⟨by simpa [and_assoc] using hcontent, by omega, by simpa using hbefore, hfind,
          ⟨by simpa using htei, by simpa using hdisc⟩, by simpa [and_assoc] using hpid,
          by simpa using hcc, by simpa using hafter, by simpa using hfits⟩
  · rintro ⟨⟨hnull, hpayload, hdisc⟩, hconf, hbefore, hfind, ⟨htei, hdisc'⟩,
      ⟨hnull', hpayload', hpid⟩,
      hcc, hafter, hfits⟩
    simp only [checkPrimaryTei]
    rw [if_neg (by simp [hnull, hpayload, hdisc]), if_neg (by omega), if_neg (by simp [hbefore]), hfind]
    simp only
    rw [if_neg (by simp [htei]), if_neg (by simp [hdisc']), if_neg (by simp [hnull', hpayload', hpid]),
      if_neg (by simp [hcc]), if_neg (by simp [hafter]), if_neg (by simp [hfits])]

/-! ### Recoveries -/

/-- The recovery function of a kind. -/
def gapRecovery (env : Env σ) :
    GapKind → World σ → PacketRecord → PacketRecord → Decision × World σ
  | .nullPosition => tryRecoverNullPositionGap env
  | .mixedPosition => tryRecoverMixedPositionGap env
  | .exactContent => tryRecoverExactContentGap env

/-- How a recovery counts a record: `report_stats_observe_recovery`'s second argument. -/
def gapNullFlag : GapKind → PacketRecord → Bool
  | .nullPosition => fun _ => true
  | .mixedPosition => fun candidate => candidate.isNull
  | .exactContent => fun _ => false

/-- What a recovery counts when it has sent everything. -/
def gapBurst : GapKind → ℕ → World σ → World σ
  | .nullPosition, _, w => w
  | _, n, w => countContentBurst w n

/-- The return value of a recovery that sends. -/
def finishGap (kind : GapKind) (n : ℕ) : Bool × World σ → Decision × World σ
  | (false, w) => (.failed, w)
  | (true, w) => (.inserted, gapBurst kind n w)

section Recoveries

variable {env : Env σ} {w : World σ} {primary secondaryMatch : PacketRecord}
  {L : List PacketRecord}

theorem sendSecondaryRange_logged {route : Route} {nullFlag : PacketRecord → Bool} {index : ℕ}
    {previousCc : Option ℕ} {decision : DecisionName}
    (h : HistoryRange (w.engine.history .secondary) index L) :
    sendSecondaryRange env route nullFlag L.length index
        (recoveryDecisionLog w .primary primary previousCc (some L.length) true true true decision
          none) =
      insertAll env route nullFlag L
        (recoveryDecisionLog w .primary primary previousCc (some L.length) true true true decision
          none) :=
  sendSecondaryRange_eq (w := recoveryDecisionLog w _ _ _ _ _ _ _ _ _) h

theorem tryRecoverNullPositionGap_eq (env : Env σ)
    (h : GapEvidence w.engine primary secondaryMatch .nullPosition L) :
    tryRecoverNullPositionGap env w primary secondaryMatch =
      if primaryBetween w.engine primary ≠ 0 then (.none, w)
      else finishGap .nullPosition L.length
        (insertAll env (.gap .nullPosition primary secondaryMatch) (gapNullFlag .nullPosition) L
          (recoveryDecisionLog w .primary primary (previousOutputCcForRecord w.engine primary)
            (some L.length) true true true .recoverNullRegion none)) := by
  obtain ⟨hw, hmax, hconf, hbefore, hafter, hclean, hplan⟩ := h
  cases hplan with
  | nullPosition longer samePrefix range length null =>
    simp only [tryRecoverNullPositionGap]
    rw [if_neg (by simp [hw]), if_neg (by omega)]
    by_cases hb : primaryBetween w.engine primary = 0
    · have hfirst : firstCandidateIndex w.engine primary =
          w.engine.lastPrimaryAnchor.secondaryIndex + 1 := by rw [firstCandidateIndex, hb]
      rw [hfirst] at range
      have hscan := scanNullRegion_eq_clean_iff.mpr
        ⟨L, length, range, fun r hr => ⟨null r hr, hclean r hr⟩⟩
      rw [if_neg (not_not.mpr hb), if_neg (not_not.mpr hb), if_neg (by omega), if_neg (by omega),
        if_neg (by simp [hbefore]), if_neg (by simp [hafter]), hscan]
      simp only
      rw [← length, sendSecondaryRange_logged range]
      rfl
    · rw [if_pos hb, if_pos hb]

theorem tryRecoverMixedPositionGap_eq (env : Env σ)
    (h : GapEvidence w.engine primary secondaryMatch .mixedPosition L) :
    ∃ decision, tryRecoverMixedPositionGap env w primary secondaryMatch =
      finishGap .mixedPosition L.length
        (insertAll env (.gap .mixedPosition primary secondaryMatch) (gapNullFlag .mixedPosition) L
          (recoveryDecisionLog w .primary primary (previousOutputCcForRecord w.engine primary)
            (some L.length) true true true decision none)) := by
  obtain ⟨hw, hmax, hconf, hbefore, hafter, hclean, hplan⟩ := h
  cases hplan with
  | mixedPosition longer samePrefix range length content fits =>
    obtain ⟨hL, hfit, -⟩ := fitsInTurn_append.mp fits
    have hscan := scanMixedRegion_eq_ok_iff.mpr ⟨L, length, range, hclean,
      show FitsInTurn (MixedScan.start w.engine).states L from hL, rfl⟩
    have hsaw : (L.foldl MixedScan.observe (.start w.engine)).sawContent = true := by
      rw [foldl_observe_sawContent]
      simpa [MixedScan.start] using content
    refine ⟨mixedDecision primary L.length (L.foldl MixedScan.observe (.start w.engine)), ?_⟩
    simp only [tryRecoverMixedPositionGap]
    rw [if_neg (by simp [hw]), if_neg (by omega), if_neg (by omega), if_neg (by omega),
      if_neg (by simp [hbefore]), if_neg (by simp [hafter]), if_neg (by simp [samePrefix]), hscan]
    simp only
    rw [if_neg (by simp [hsaw]),
      if_neg (by rw [foldl_observe_states]; simpa [MixedScan.start] using hfit), ← length,
      sendSecondaryRange_logged range]
    rfl

theorem tryRecoverExactContentGap_eq (env : Env σ)
    (h : GapEvidence w.engine primary secondaryMatch .exactContent L) :
    ∃ previousCc decision, tryRecoverExactContentGap env w primary secondaryMatch =
      finishGap .exactContent L.length
        (insertAll env (.gap .exactContent primary secondaryMatch) (gapNullFlag .exactContent) L
          (recoveryDecisionLog w .primary primary previousCc (some L.length) true true true decision
            none)) := by
  obtain ⟨hw, hmax, hconf, hbefore, hafter, hclean, hplan⟩ := h
  cases hplan with
  | @exactContent _ previousCc notShorter misfit previous count nonempty chosen fits =>
    refine ⟨some previousCc, if 1 < L.length then .recoverContentBurst else .recoverContent, ?_⟩
    simp only [tryRecoverExactContentGap]
    rw [if_neg (by simp [hw]), if_neg (by omega), if_neg (by simp [misfit]), previous, count]
    simp only
    rw [if_neg (by simpa using nonempty), if_neg (by omega), if_neg (by omega),
      if_neg (by simp [hbefore]), if_neg (by simp [hafter]), chosen]
    simp only [checkExactStates_eq_none_iff.mpr fits, sendCandidates_eq]
    rfl

/-- **A recovery acts on the evidence:** called on an accepted after-anchor it sends the records,
except that the null recovery does nothing where primary records follow the anchor. -/
theorem gapRecovery_eq (env : Env σ) {kind : GapKind}
    (h : GapEvidence w.engine primary secondaryMatch kind L) :
    (kind = .nullPosition ∧ primaryBetween w.engine primary ≠ 0 ∧
      gapRecovery env kind w primary secondaryMatch = (.none, w)) ∨
    (kind = .nullPosition → primaryBetween w.engine primary = 0) ∧
      ∃ previousCc decision, gapRecovery env kind w primary secondaryMatch =
        finishGap kind L.length
          (insertAll env (.gap kind primary secondaryMatch) (gapNullFlag kind) L
            (recoveryDecisionLog w .primary primary previousCc (some L.length) true true true decision
              none)) := by
  cases kind with
  | nullPosition =>
    by_cases hb : primaryBetween w.engine primary = 0
    · refine .inr ⟨fun _ => hb, previousOutputCcForRecord w.engine primary, .recoverNullRegion, ?_⟩
      rw [gapRecovery, tryRecoverNullPositionGap_eq env h, if_neg (not_not.mpr hb)]
    · refine .inl ⟨rfl, hb, ?_⟩
      rw [gapRecovery, tryRecoverNullPositionGap_eq env h, if_pos hb]
  | mixedPosition =>
    obtain ⟨decision, h⟩ := tryRecoverMixedPositionGap_eq env h
    exact .inr ⟨by simp, _, decision, h⟩
  | exactContent =>
    obtain ⟨previousCc, decision, h⟩ := tryRecoverExactContentGap_eq env h
    exact .inr ⟨by simp, previousCc, decision, h⟩

end Recoveries

end TwoStream
