import TwoStreamRecovery.Lib.Ring

/-!
# The latest values of a sequence

A block of `capacity` slots that is written round and round: the `k`-th value goes to slot
`k % capacity`. The writer keeps the next slot and the number of slots in use.

* `Latest`: what the block holds of the values written so far; `Latest.write`: one more value.
* `Latest.oldest`, `Latest.ago`: the slots of the oldest value and of the value some writes ago.
-/

variable {α : Type} {capacity : ℕ} {slots : ℕ → α} {index count : ℕ} {values : List α}

/-- The block holds the latest of the values. -/
structure Latest (capacity : ℕ) (slots : ℕ → α) (index count : ℕ) (values : List α) : Prop where
  index_eq : index = values.length % capacity
  count_eq : count = min values.length capacity
  slot : ∀ k x, values[k]? = some x → values.length ≤ k + capacity → slots (k % capacity) = x

/-- Nothing has been written. -/
theorem Latest.nil : Latest capacity slots 0 0 [] := by
  refine ⟨(Nat.zero_mod _).symm, (Nat.zero_min _).symm, fun k x hx => ?_⟩
  cases hx

/-- **One more value** goes to the next slot. -/
theorem Latest.write (h : Latest capacity slots index count values) (hcapacity : 0 < capacity)
    (x : α) :
    Latest capacity (Function.update slots index x) ((index + 1) % capacity)
      (if count < capacity then count + 1 else count) (values ++ [x]) := by
  have hindex := h.index_eq
  have hcount := h.count_eq
  constructor
  · rw [hindex, List.length_append, List.length_singleton, Nat.mod_add_mod]
  · rw [List.length_append, List.length_singleton]
    split <;> omega
  · intro k y hy hk
    rw [List.length_append, List.length_singleton] at hk
    rcases Nat.lt_trichotomy k values.length with hlt | rfl | hgt
    · rw [List.getElem?_append_left hlt] at hy
      have hslot : k % capacity ≠ index := by
        intro heq
        have hwrap : (k + 0) % capacity = (k + (values.length - k)) % capacity := by
          rw [Nat.add_zero, Nat.add_sub_of_le (Nat.le_of_lt hlt), heq, hindex]
        have := RingBuffer.wrap_inj hcapacity (by omega) hwrap
        omega
      rw [Function.update_of_ne hslot]
      exact h.slot k y hy (by omega)
    · rw [List.getElem?_concat_length] at hy
      rw [← hindex, Function.update_self]
      exact Option.some.inj hy
    · have hlength : (values ++ [x]).length ≤ k := by
        rw [List.length_append, List.length_singleton]
        exact hgt
      rw [List.getElem?_eq_none hlength] at hy
      cases hy

/-- The slot before the next one is that of the last value. -/
theorem pred_mod {n : ℕ} (hn : 0 < n) (hcapacity : 0 < capacity) :
    (if n % capacity = 0 then capacity - 1 else n % capacity - 1) = (n - 1) % capacity := by
  have hn' : n - 1 + 1 = n := Nat.sub_add_cancel hn
  have hlt := Nat.mod_lt (n - 1) hcapacity
  have hmod : n % capacity = ((n - 1) % capacity + 1) % capacity := by
    rw [Nat.mod_add_mod, hn']
  rcases Nat.lt_or_ge ((n - 1) % capacity + 1) capacity with hinside | hend
  · rw [Nat.mod_eq_of_lt hinside] at hmod
    rw [if_neg (by omega)]
    omega
  · have hend : (n - 1) % capacity + 1 = capacity := by omega
    rw [hend, Nat.mod_self] at hmod
    rw [if_pos hmod]
    omega

/-- Stepping back inside the block. -/
theorem mod_add_sub_mod {m s : ℕ} (hs : s ≤ m) (hscapacity : s < capacity) :
    (m % capacity + capacity - s) % capacity = (m - s) % capacity := by
  have hm := Nat.div_add_mod m capacity
  have hsplit : m - s + capacity = m % capacity + capacity - s + capacity * (m / capacity) := by
    omega
  rw [← Nat.add_mod_right (m - s), hsplit, Nat.add_mul_mod_self_left]

/-- **The oldest value** that the block still holds. -/
theorem Latest.oldest (h : Latest capacity slots index count values) (hcapacity : 0 < capacity)
    (hvalues : values ≠ []) :
    values[values.length - count]? = some (slots (if count < capacity then 0 else index)) := by
  have hpos := List.length_pos_of_ne_nil hvalues
  have hcount := h.count_eq
  have hk : values.length - count < values.length := by omega
  have hslot := h.slot _ _ (List.getElem?_eq_getElem hk) (by omega)
  rw [List.getElem?_eq_getElem hk, ← hslot]
  congr 2
  split
  · next hlt =>
    rw [show values.length - count = 0 by omega, Nat.zero_mod]
  · next hfull =>
    rw [h.index_eq, show values.length - count = values.length - capacity by omega,
      ← Nat.mod_eq_sub_mod (by omega)]

/-- **The value written `s + 1` writes ago**. -/
theorem Latest.ago (h : Latest capacity slots index count values) {s : ℕ} (hs : s < count) :
    values[values.length - (s + 1)]? =
      some (slots (((if index = 0 then capacity - 1 else index - 1) + capacity - s) % capacity)) := by
  have hcount := h.count_eq
  have hk : values.length - (s + 1) < values.length := by omega
  have hslot := h.slot _ _ (List.getElem?_eq_getElem hk) (by omega)
  rw [List.getElem?_eq_getElem hk, ← hslot, h.index_eq, pred_mod (by omega) (by omega),
    mod_add_sub_mod (by omega) (by omega), Nat.sub_sub, Nat.add_comm 1 s]
