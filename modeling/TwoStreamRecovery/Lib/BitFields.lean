import Mathlib.Data.Nat.Bitwise
import Mathlib.Data.List.GetD

/-!
# Bit fields

A format is a list of fields, each with its width in bits and its value, most significant first.

* `fieldsValue`: the number they make up; `fieldsBytes`: its bytes.
* `getD_fieldsBytes`: a byte of a format, in arithmetic.
* `or_eq_add`: parts that do not overlap may be put together with `|||`.
-/

/-- The number that the fields make up. -/
def fieldsValue (fields : List (ℕ × ℕ)) : ℕ :=
  fields.foldl (fun value field => value * 2 ^ field.1 + field.2) 0

/-- Its `n` lowest bytes, the most significant one first. -/
def fieldsBytes (n : ℕ) (fields : List (ℕ × ℕ)) : List UInt8 :=
  (List.range n).map fun i => .ofNat (fieldsValue fields / 256 ^ (n - 1 - i))

@[simp] theorem length_fieldsBytes (n : ℕ) (fields : List (ℕ × ℕ)) :
    (fieldsBytes n fields).length = n := by simp [fieldsBytes]

theorem getD_fieldsBytes {n i : ℕ} (fields : List (ℕ × ℕ)) (hi : i < n) :
    ((fieldsBytes n fields).getD i 0).toNat = fieldsValue fields / 256 ^ (n - 1 - i) % 256 := by
  rw [List.getD_eq_getElem _ _ (by simpa using hi)]
  simp [fieldsBytes]

/-- Parts that do not overlap. -/
theorem or_eq_add {i a b : ℕ} (ha : 2 ^ i ∣ a) (hb : b < 2 ^ i) : a ||| b = a + b := by
  obtain ⟨c, rfl⟩ := ha
  exact (Nat.two_pow_add_eq_or_of_lt hb c).symm

/-- The lowest bits. -/
theorem and_mask (i n : ℕ) : n &&& (2 ^ i - 1) = n % 2 ^ i := Nat.and_two_pow_sub_one_eq_mod n i

/-- A single bit. -/
theorem and_bit_ne_zero (i n : ℕ) : (n &&& 2 ^ i != 0) = decide (n / 2 ^ i % 2 = 1) := by
  rw [Nat.and_two_pow, Nat.testBit_eq_decide_div_mod_eq]
  by_cases h : n / 2 ^ i % 2 = 1
  · simp [h]
  · simp [h]
