import Mathlib.Data.List.Basic
import Mathlib.Data.List.TakeWhile
import Mathlib.Data.Int.ModEq
import Mathlib.Logic.Function.Basic

/-!
# Ring buffers of fixed capacity

A block of `capacity` slots read as a queue: `count` elements starting at slot `start`, wrapping
around at the end of the block. The bounds are fields, so a ring that points outside its block
cannot be built.

* `RingBuffer.toList`: the contents, oldest first; `slot`, `front?` read it.
* `pop`, `push?` (refused when full), `pushEvict` (drops the oldest when full), `popWhile`.
* One equation for `toList` per operation: `toList_pop`, `toList_push?`, `toList_pushEvict`,
  `toList_popWhile`.
-/

variable {α : Type}

/-- A ring buffer over a block of `capacity` slots. -/
structure RingBuffer (α : Type) where
  slots : ℕ → α
  capacity : ℕ
  start : ℕ
  count : ℕ
  start_lt : start < capacity
  count_le : count ≤ capacity

namespace RingBuffer

/-- The empty ring over a block filled with `zero`. -/
def empty (zero : α) (capacity : ℕ) (h : 0 < capacity) : RingBuffer α where
  slots _ := zero
  capacity := capacity
  start := 0
  count := 0
  start_lt := h
  count_le := Nat.zero_le _

theorem capacity_pos (r : RingBuffer α) : 0 < r.capacity := Nat.zero_lt_of_lt r.start_lt

/-- The `i`-th oldest slot. -/
def slot (r : RingBuffer α) (i : ℕ) : α := r.slots ((r.start + i) % r.capacity)

/-- The contents, oldest first. -/
def toList (r : RingBuffer α) : List α := (List.range r.count).map r.slot

/-- The oldest element. -/
def front? (r : RingBuffer α) : Option α := if r.count = 0 then none else some (r.slots r.start)

/-- Drop the oldest element; nothing happens to an empty ring. -/
def pop (r : RingBuffer α) : RingBuffer α :=
  if h : r.count = 0 then r
  else
    { r with
      start := (r.start + 1) % r.capacity
      count := r.count - 1
      start_lt := Nat.mod_lt _ r.capacity_pos
      count_le := by have := r.count_le; omega }

/-- Append an element; refused when the ring is full. -/
def push? (r : RingBuffer α) (x : α) : Option (RingBuffer α) :=
  if h : r.capacity ≤ r.count then none
  else some
    { r with
      slots := Function.update r.slots ((r.start + r.count) % r.capacity) x
      count := r.count + 1
      count_le := by omega }

/-- Append an element, overwriting the oldest one when the ring is full. -/
def pushEvict (r : RingBuffer α) (x : α) : RingBuffer α :=
  if h : r.count < r.capacity then
    { r with
      slots := Function.update r.slots ((r.start + r.count) % r.capacity) x
      count := r.count + 1
      count_le := h }
  else
    { r with
      slots := Function.update r.slots r.start x
      start := (r.start + 1) % r.capacity
      start_lt := Nat.mod_lt _ r.capacity_pos }

/-- At most `n` pops, as long as the oldest element satisfies `p`. -/
def popWhileAux (p : α → Bool) : ℕ → RingBuffer α → RingBuffer α
  | 0, r => r
  | n + 1, r =>
    match r.front? with
    | none => r
    | some x => if p x then popWhileAux p n r.pop else r

/-- Pop as long as the oldest element satisfies `p`. -/
def popWhile (p : α → Bool) (r : RingBuffer α) : RingBuffer α := popWhileAux p r.count r

/-! ### Positions -/

@[simp] theorem length_toList (r : RingBuffer α) : r.toList.length = r.count := by
  simp [toList]

theorem getElem?_toList (r : RingBuffer α) (i : ℕ) :
    r.toList[i]? = if i < r.count then some (r.slot i) else none := by
  by_cases h : i < r.count
  · rw [if_pos h, toList, List.getElem?_map, List.getElem?_range h]; rfl
  · rw [if_neg h, List.getElem?_eq_none_iff, length_toList]; omega

@[simp] theorem toList_empty (zero : α) (capacity : ℕ) (h : 0 < capacity) :
    (empty zero capacity h).toList = [] := rfl

@[simp] theorem empty_count (zero : α) (capacity : ℕ) (h : 0 < capacity) :
    (empty zero capacity h).count = 0 := rfl

theorem slot_zero (r : RingBuffer α) : r.slot 0 = r.slots r.start := by
  rw [slot, Nat.add_zero, Nat.mod_eq_of_lt r.start_lt]

/-- Two offsets below the capacity name the same slot only if they are equal. -/
theorem wrap_inj {s i j c : ℕ} (hi : i < c) (hj : j < c) (h : (s + i) % c = (s + j) % c) :
    i = j := by
  have h' : i ≡ j [MOD c] := Nat.ModEq.add_left_cancel' s h
  unfold Nat.ModEq at h'
  rwa [Nat.mod_eq_of_lt hi, Nat.mod_eq_of_lt hj] at h'

/-- Moving the start shifts every offset by one. -/
theorem wrap_succ (s i c : ℕ) : ((s + 1) % c + i) % c = (s + (i + 1)) % c := by
  rw [Nat.mod_add_mod]; congr 1; omega

theorem front?_eq_head? (r : RingBuffer α) : r.front? = r.toList.head? := by
  rw [List.head?_eq_getElem?, getElem?_toList, front?, slot_zero]
  by_cases h : r.count = 0
  · rw [if_pos h, if_neg (by omega)]
  · rw [if_neg h, if_pos (by omega)]

theorem front?_eq_some_iff (r : RingBuffer α) (x : α) :
    r.front? = some x ↔ ∃ l, r.toList = x :: l := by
  rw [front?_eq_head?, List.head?_eq_some_iff]

theorem front?_eq_none_iff (r : RingBuffer α) : r.front? = none ↔ r.toList = [] := by
  rw [front?_eq_head?, List.head?_eq_none_iff]

theorem count_eq_zero_iff (r : RingBuffer α) : r.count = 0 ↔ r.toList = [] := by
  rw [← length_toList, List.length_eq_zero_iff]

/-! ### Operations on the contents -/

@[simp] theorem pop_capacity (r : RingBuffer α) : r.pop.capacity = r.capacity := by
  unfold pop; split <;> rfl

theorem pop_count (r : RingBuffer α) : r.pop.count = r.count - 1 := by
  unfold pop; split
  · omega
  · rfl

/-- **`pop` drops the head.** -/
@[simp] theorem toList_pop (r : RingBuffer α) : r.pop.toList = r.toList.tail := by
  apply List.ext_getElem?
  intro i
  rw [List.getElem?_tail, getElem?_toList, getElem?_toList, pop_count]
  by_cases hi : i + 1 < r.count
  · rw [if_pos (by omega), if_pos hi]
    simp only [pop, dif_neg (show ¬ r.count = 0 by omega), slot, wrap_succ]
  · rw [if_neg (by omega), if_neg hi]

/-- Reading after a write to the slot at offset `k`. -/
theorem update_slot {f : ℕ → α} {s c i k : ℕ} (x : α) (hi : i < c) (hk : k < c) :
    Function.update f ((s + k) % c) x ((s + i) % c) = if i = k then x else f ((s + i) % c) := by
  by_cases h : i = k
  · subst h; rw [if_pos rfl, Function.update_self]
  · rw [if_neg h, Function.update_of_ne fun e => h (wrap_inj hi hk e)]

theorem push?_eq_none_iff (r : RingBuffer α) (x : α) : r.push? x = none ↔ r.count = r.capacity := by
  have := r.count_le
  unfold push?; split
  · simp; omega
  · simp; omega

/-- **`push?` appends.** -/
theorem toList_push? {r r' : RingBuffer α} {x : α} (h : r.push? x = some r') :
    r'.toList = r.toList ++ [x] ∧ r'.capacity = r.capacity := by
  unfold push? at h
  split at h
  · simp at h
  · next hc =>
    obtain rfl := Option.some.inj h
    refine ⟨?_, rfl⟩
    have hle := r.count_le
    apply List.ext_getElem?
    intro i
    rw [getElem?_toList, List.getElem?_append, length_toList, getElem?_toList]
    simp only [slot]
    by_cases h1 : i < r.count
    · rw [if_pos (by omega), if_pos h1, if_pos h1, update_slot x (by omega) (by omega),
        if_neg (by omega)]
    · rw [if_neg h1]
      by_cases h2 : i = r.count
      · subst h2
        rw [if_pos (by omega), update_slot x (by omega) (by omega), if_pos rfl]
        simp
      · rw [if_neg (by omega)]
        have : i - r.count ≠ 0 := by omega
        simp [this]

/-- **`pushEvict` appends, after dropping the head of a full ring.** -/
theorem toList_pushEvict (r : RingBuffer α) (x : α) :
    (r.pushEvict x).toList =
      (if r.count < r.capacity then r.toList else r.toList.tail) ++ [x] := by
  by_cases hc : r.count < r.capacity
  · have h : r.push? x = some (r.pushEvict x) := by
      unfold push? pushEvict; rw [dif_neg (by omega), dif_pos hc]
    rw [if_pos hc, (toList_push? h).1]
  · have hle := r.count_le
    have hpos := r.capacity_pos
    have hs : r.start = (r.start + 0) % r.capacity := by
      rw [Nat.add_zero, Nat.mod_eq_of_lt r.start_lt]
    have hw : (r.start + r.count) % r.capacity = r.start := by
      rw [show r.count = r.capacity by omega, Nat.add_mod_right, Nat.mod_eq_of_lt r.start_lt]
    rw [if_neg hc]
    apply List.ext_getElem?
    intro i
    rw [getElem?_toList, List.getElem?_append, List.length_tail, length_toList,
      List.getElem?_tail, getElem?_toList]
    unfold pushEvict
    simp only [dif_neg hc, slot, wrap_succ]
    by_cases h1 : i + 1 < r.count
    · rw [if_pos (by omega), if_pos (by omega), if_pos h1]
      nth_rewrite 1 [hs]
      rw [update_slot x (by omega) (by omega), if_neg (by omega)]
    · rw [if_neg (show ¬ i < r.count - 1 by omega)]
      by_cases h2 : i + 1 = r.count
      · rw [if_pos (by omega), h2, hw, Function.update_self]
        have : i - (r.count - 1) = 0 := by omega
        simp [this]
      · rw [if_neg (by omega)]
        have : i - (r.count - 1) ≠ 0 := by omega
        simp [this]

@[simp] theorem pushEvict_capacity (r : RingBuffer α) (x : α) :
    (r.pushEvict x).capacity = r.capacity := by
  unfold pushEvict; split <;> rfl

theorem toList_popWhileAux (p : α → Bool) (n : ℕ) (r : RingBuffer α) (h : r.count ≤ n) :
    (popWhileAux p n r).toList = r.toList.dropWhile p := by
  induction n generalizing r with
  | zero =>
    have : r.toList = [] := (count_eq_zero_iff r).mp (by omega)
    simp [popWhileAux, this]
  | succ n ih =>
    unfold popWhileAux
    cases hf : r.front? with
    | none => simp [(front?_eq_none_iff r).mp hf]
    | some x =>
      obtain ⟨l, hl⟩ := (front?_eq_some_iff r x).mp hf
      cases hp : p x with
      | true =>
        have hle : r.pop.count ≤ n := by rw [pop_count]; omega
        simp [hp, ih _ hle, hl]
      | false => simp [hl, hp]

/-- **`popWhile` drops the longest prefix satisfying `p`.** -/
@[simp] theorem toList_popWhile (p : α → Bool) (r : RingBuffer α) :
    (r.popWhile p).toList = r.toList.dropWhile p :=
  toList_popWhileAux p _ r le_rfl

theorem popWhileAux_capacity (p : α → Bool) (n : ℕ) (r : RingBuffer α) :
    (popWhileAux p n r).capacity = r.capacity := by
  induction n generalizing r with
  | zero => rfl
  | succ n ih =>
    unfold popWhileAux
    split
    · rfl
    · split
      · rw [ih, pop_capacity]
      · rfl

@[simp] theorem popWhile_capacity (p : α → Bool) (r : RingBuffer α) :
    (r.popWhile p).capacity = r.capacity := popWhileAux_capacity p _ r

/-- Nothing is popped when the oldest element fails `p`. -/
theorem popWhile_eq_self {p : α → Bool} {r : RingBuffer α} (h : ∀ x, r.front? = some x → ¬ p x) :
    r.popWhile p = r := by
  unfold popWhile
  cases hc : r.count with
  | zero => rfl
  | succ n =>
    unfold popWhileAux
    cases hf : r.front? with
    | none => rfl
    | some x => simp [h x hf]

end RingBuffer
