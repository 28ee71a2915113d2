import Mathlib.Data.List.Infix
import Mathlib.Data.List.TakeWhile

/-!
# Longest suffixes

A window over a growing list: the longest suffix that is not too long and holds no expired element.

* `LongestSuffix`: the longest suffix with a property; there is only one.
* `Window`: the property of a window.
* **`LongestSuffix.push`**: an element is appended, the first one dropped from a full window, and
  what has expired dropped from the front; the result is the window of the longer list.
-/

variable {α : Type} {P : List α → Prop} {old old' : α → Bool} {capacity : ℕ} {l w v : List α} {x : α}

/-- `w` is the longest suffix of `l` with the property `P`. -/
structure LongestSuffix (P : List α → Prop) (l w : List α) : Prop where
  suffix : w <:+ l
  holds : P w
  longest : ∀ v, v <:+ l → P v → v <:+ w

theorem LongestSuffix.unique (hw : LongestSuffix P l w) (hv : LongestSuffix P l v) : v = w :=
  (hw.longest v hv.suffix hv.holds).eq_of_length
    (Nat.le_antisymm (hw.longest v hv.suffix hv.holds).length_le
      (hv.longest w hw.suffix hw.holds).length_le)

/-- No more than `capacity` elements, none of them expired. -/
structure Window (capacity : ℕ) (old : α → Bool) (w : List α) : Prop where
  fits : w.length ≤ capacity
  young : ∀ x ∈ w, old x = false

theorem Window.nil : Window capacity old [] := ⟨Nat.zero_le _, by simp⟩

/-- The window of the empty list. -/
theorem longestSuffix_nil : LongestSuffix (Window capacity old) [] [] :=
  ⟨List.suffix_rfl, .nil, fun _ hv _ => hv⟩

/-- A suffix without expired elements is not touched by expiry. -/
theorem suffix_dropWhile (hv : v <:+ l) (hyoung : ∀ x ∈ v, old x = false) : v <:+ l.dropWhile old := by
  induction l with
  | nil => exact hv
  | cons a l ih =>
    rw [List.dropWhile_cons]
    split
    · next ha =>
      rcases List.suffix_cons_iff.mp hv with rfl | hv
      · rw [hyoung a List.mem_cons_self] at ha
        cases ha
      · exact ih hv
    · exact hv

/-- Where young elements are followed by young elements only, expiry leaves no expired one. -/
theorem young_of_mem_dropWhile (hsorted : l.Pairwise fun a b => old a = false → old b = false)
    (hx : x ∈ l.dropWhile old) : old x = false := by
  induction l with
  | nil => cases hx
  | cons a l ih =>
    rw [List.pairwise_cons] at hsorted
    rw [List.dropWhile_cons] at hx
    split at hx
    · exact ih hsorted.2 hx
    · next ha =>
      rw [Bool.not_eq_true] at ha
      rcases List.mem_cons.mp hx with rfl | hx
      · exact ha
      · exact hsorted.1 x hx ha

/-- The window after a push, before expiry. -/
def pushWindow (capacity : ℕ) (w : List α) (x : α) : List α :=
  (if w.length < capacity then w else w.tail) ++ [x]

theorem pushWindow_suffix (capacity : ℕ) (w : List α) (x : α) : pushWindow capacity w x <:+ w ++ [x] := by
  unfold pushWindow
  split
  · exact List.suffix_rfl
  · obtain ⟨front, hfront⟩ := List.tail_suffix w
    exact ⟨front, by rw [← List.append_assoc, hfront]⟩

theorem length_pushWindow_le (hcapacity : 0 < capacity) (hw : w.length ≤ capacity) :
    (pushWindow capacity w x).length ≤ capacity := by
  unfold pushWindow
  split <;> simp only [List.length_append, List.length_tail, List.length_singleton] <;> omega

/-- **One more element.** Expired elements stay expired, and in the new list no young element is
followed by an expired one. -/
theorem LongestSuffix.push (h : LongestSuffix (Window capacity old) l w) (hcapacity : 0 < capacity)
    (hexpired : ∀ a ∈ l, old a = true → old' a = true)
    (hsorted : (l ++ [x]).Pairwise fun a b => old' a = false → old' b = false) :
    LongestSuffix (Window capacity old') (l ++ [x]) ((pushWindow capacity w x).dropWhile old') := by
  have hpush : pushWindow capacity w x <:+ l ++ [x] := by
    obtain ⟨front, hfront⟩ := h.suffix
    exact (pushWindow_suffix capacity w x).trans ⟨front, by rw [← List.append_assoc, hfront]⟩
  refine ⟨(List.dropWhile_suffix old').trans hpush, ⟨?_, fun a ha => ?_⟩, fun v hv hwindow => ?_⟩
  · exact (List.dropWhile_suffix old').length_le.trans (length_pushWindow_le hcapacity h.holds.fits)
  · exact young_of_mem_dropWhile (hsorted.sublist hpush.sublist) ha
  · refine suffix_dropWhile ?_ hwindow.young
    rcases List.suffix_concat_iff.mp hv with rfl | ⟨v', rfl, hv'⟩
    · exact List.nil_suffix
    · have hfits := hwindow.fits
      rw [List.length_append, List.length_singleton] at hfits
      -- without its last element, a window of the new list is one of the old list
      have hv'w : v' <:+ w := by
        refine h.longest v' hv' ⟨by omega, fun a ha => ?_⟩
        by_contra hold
        rw [Bool.not_eq_false] at hold
        have hyoung := hwindow.young a (List.mem_append_left _ ha)
        rw [hexpired a (hv'.subset ha) hold] at hyoung
        cases hyoung
      have hkept : v' <:+ if w.length < capacity then w else w.tail := by
        split
        · exact hv'w
        · exact List.suffix_of_suffix_length_le hv'w (List.tail_suffix w) (by rw [List.length_tail]; omega)
      obtain ⟨front, hfront⟩ := hkept
      exact ⟨front, by rw [pushWindow, ← hfront, List.append_assoc]⟩
