import Mathlib.Data.List.Count

/-!
# Losses in a keyed sequence

A sequence of items, each with its key and whether it has arrived.

* `pending`: the items of a key lost since the last one that has arrived.
* `lostBetween`: the lost items between two arrived items of their key; `lostRuns`: the runs they form.
* `pending_concat`, `lostBetween_concat`, `lostRuns_concat`: what one more item changes.
-/

variable {K : Type}

/-- Item `i` of the key is lost, after one that has arrived and before any other. -/
def IsPending (l : List (K × Bool)) (k : K) (i : ℕ) : Prop :=
  l[i]? = some (k, false) ∧ (k, true) ∈ l.take i ∧ (k, true) ∉ l.drop (i + 1)

variable [DecidableEq K]

instance (l : List (K × Bool)) (k : K) (i : ℕ) : Decidable (IsPending l k i) :=
  inferInstanceAs (Decidable (_ ∧ _))

/-- The number of items of the key lost since the last one that has arrived. -/
def pending (l : List (K × Bool)) (k : K) : ℕ :=
  (List.range l.length).countP fun i => decide (IsPending l k i)

/-- Item `i` is lost, between two items of its key that have arrived. -/
def isBetween (l : List (K × Bool)) (i : ℕ) : Bool :=
  match l[i]? with
  | some (k, false) => decide ((k, true) ∈ l.take i) && decide ((k, true) ∈ l.drop (i + 1))
  | _ => false

/-- The number of lost items between two of their key that have arrived. -/
def lostBetween (l : List (K × Bool)) : ℕ := (List.range l.length).countP (isBetween l)

/-- Item `i` has arrived and ends a run of lost items of its key. -/
def endsRun (l : List (K × Bool)) (i : ℕ) : Bool :=
  match l[i]? with
  | some (k, true) => decide (0 < pending (l.take i) k)
  | _ => false

/-- The number of non-empty runs of lost items between two of their key that have arrived. -/
def lostRuns (l : List (K × Bool)) : ℕ := (List.range l.length).countP (endsRun l)

/-! ### One more item -/

section Concat

variable {l : List (K × Bool)} {x : K × Bool} {k : K} {i : ℕ}

theorem countP_range_concat (p : ℕ → Bool) (n : ℕ) :
    (List.range (n + 1)).countP p = (List.range n).countP p + if p n then 1 else 0 := by
  rw [List.range_succ, List.countP_append, List.countP_singleton]

theorem countP_range_congr {p q : ℕ → Bool} {n : ℕ} (h : ∀ i < n, p i = q i) :
    (List.range n).countP p = (List.range n).countP q :=
  List.countP_congr fun i hi => by rw [h i (List.mem_range.mp hi)]

omit [DecidableEq K] in
theorem isPending_concat_of_lt (hi : i < l.length) :
    IsPending (l ++ [x]) k i ↔ IsPending l k i ∧ x ≠ (k, true) := by
  have hle := Nat.le_of_lt hi
  rw [IsPending, IsPending, List.getElem?_append_left hi, List.take_append_of_le_length hle,
    List.drop_append_of_le_length hi, List.mem_append, List.mem_singleton]
  constructor
  · rintro ⟨hlost, hbefore, hafter⟩
    exact ⟨⟨hlost, hbefore, fun h => hafter (.inl h)⟩, fun h => hafter (.inr h.symm)⟩
  · rintro ⟨⟨hlost, hbefore, hafter⟩, hx⟩
    exact ⟨hlost, hbefore, fun h => h.elim hafter fun h => hx h.symm⟩

omit [DecidableEq K] in
theorem isPending_concat_length :
    IsPending (l ++ [x]) k l.length ↔ x = (k, false) ∧ (k, true) ∈ l := by
  rw [IsPending, List.getElem?_concat_length, List.take_left, Option.some.injEq]
  simp

/-- The key has one more pending item, or none any more. -/
theorem pending_concat :
    pending (l ++ [x]) k =
      if x = (k, true) then 0
      else pending l k + if x = (k, false) ∧ (k, true) ∈ l then 1 else 0 := by
  rw [pending, List.length_append, List.length_singleton, countP_range_concat]
  simp only [decide_eq_true_eq, isPending_concat_length]
  by_cases hx : x = (k, true)
  · have hnone : ∀ i < l.length, decide (IsPending (l ++ [x]) k i) = false := by
      intro i hi
      rw [decide_eq_false_iff_not, isPending_concat_of_lt hi]
      exact fun h => h.2 hx
    rw [countP_range_congr hnone, if_pos hx, hx]
    simp
  · have hsame : ∀ i < l.length, decide (IsPending (l ++ [x]) k i) = decide (IsPending l k i) := by
      intro i hi
      rw [decide_eq_decide, isPending_concat_of_lt hi]
      exact and_iff_left hx
    rw [countP_range_congr hsame, if_neg hx, pending]

theorem pending_of_not_mem (h : (k, true) ∉ l) : pending l k = 0 := by
  rw [pending, List.countP_eq_zero]
  intro i _ hi
  exact h (List.mem_of_mem_take (of_decide_eq_true hi).2.1)

theorem isBetween_iff : isBetween l i = true ↔
    ∃ k, l[i]? = some (k, false) ∧ (k, true) ∈ l.take i ∧ (k, true) ∈ l.drop (i + 1) := by
  rw [isBetween]
  split
  · next k hk => simp [hk]
  · next h => exact ⟨fun h => by simp at h, fun ⟨k, hk, _⟩ => absurd hk (h k)⟩

/-- Positions are counted by the two cases. -/
theorem countP_or {p q r : ℕ → Bool} (l : List ℕ) (h : ∀ i ∈ l, p i = (q i || r i))
    (hdisjoint : ∀ i ∈ l, q i = true → r i = false) : l.countP p = l.countP q + l.countP r := by
  induction l with
  | nil => rfl
  | cons i l ih =>
    have hrest := ih (fun j hj => h j (List.mem_cons_of_mem i hj)) fun j hj =>
      hdisjoint j (List.mem_cons_of_mem i hj)
    rw [List.countP_cons, List.countP_cons, List.countP_cons, hrest, h i List.mem_cons_self]
    have hi := hdisjoint i List.mem_cons_self
    cases hq : q i with
    | true =>
      rw [hi hq]
      simp
      omega
    | false =>
      cases r i <;> simp
      omega

/-- When an item arrives, those of its key that are pending lie between two. -/
theorem lostBetween_concat :
    lostBetween (l ++ [x]) = lostBetween l + if x.2 then pending l x.1 else 0 := by
  have hlast : isBetween (l ++ [x]) l.length = false := by
    rw [← Bool.not_eq_true, isBetween_iff]
    rintro ⟨k, -, -, hafter⟩
    simp at hafter
  have hcases : ∀ i < l.length, (isBetween (l ++ [x]) i = true ↔
      isBetween l i = true ∨ x.2 = true ∧ IsPending l x.1 i) := by
    intro i hi
    have hle := Nat.le_of_lt hi
    rw [isBetween_iff, isBetween_iff, List.getElem?_append_left hi, List.take_append_of_le_length hle,
      List.drop_append_of_le_length hi]
    simp only [List.mem_append, List.mem_singleton, IsPending]
    constructor
    · rintro ⟨k, hlost, hbefore, hafter | rfl⟩
      · exact .inl ⟨k, hlost, hbefore, hafter⟩
      · by_cases hafter : (k, true) ∈ l.drop (i + 1)
        · exact .inl ⟨k, hlost, hbefore, hafter⟩
        · exact .inr ⟨rfl, hlost, hbefore, hafter⟩
    · rintro (⟨k, hlost, hbefore, hafter⟩ | ⟨harrived, hlost, hbefore, -⟩)
      · exact ⟨k, hlost, hbefore, .inl hafter⟩
      · exact ⟨x.1, hlost, hbefore, .inr (Prod.ext rfl harrived.symm)⟩
  rw [lostBetween, List.length_append, List.length_singleton, countP_range_concat, hlast,
    if_neg (by simp), Nat.add_zero]
  cases hx : x.2 with
  | false =>
    refine countP_range_congr fun i hi => ?_
    rw [Bool.eq_iff_iff, hcases i hi]
    simp [hx]
  | true =>
    rw [if_pos rfl]
    refine countP_or _ (fun i hi => ?_) fun i hi hbetween => ?_
    · rw [Bool.eq_iff_iff, hcases i (List.mem_range.mp hi)]
      simp [hx]
    · obtain ⟨k, hlost, -, hafter⟩ := isBetween_iff.mp hbetween
      rw [decide_eq_false_iff_not]
      rintro ⟨hlost', -, hnone⟩
      obtain ⟨rfl, -⟩ := Prod.mk.inj (Option.some.inj (hlost.symm.trans hlost'))
      exact hnone hafter

/-- They are a run if there are any. -/
theorem lostRuns_concat :
    lostRuns (l ++ [x]) = lostRuns l + if x.2 = true ∧ 0 < pending l x.1 then 1 else 0 := by
  have hsame : ∀ i < l.length, endsRun (l ++ [x]) i = endsRun l i := by
    intro i hi
    rw [endsRun, endsRun, List.getElem?_append_left hi,
      List.take_append_of_le_length (Nat.le_of_lt hi)]
  have hlast : endsRun (l ++ [x]) l.length = decide (x.2 = true ∧ 0 < pending l x.1) := by
    rw [endsRun, List.getElem?_concat_length, List.take_left]
    obtain ⟨k, arrived⟩ := x
    cases arrived <;> simp
  rw [lostRuns, List.length_append, List.length_singleton, countP_range_concat,
    countP_range_congr hsame, hlast, lostRuns]
  simp only [decide_eq_true_eq]

end Concat
