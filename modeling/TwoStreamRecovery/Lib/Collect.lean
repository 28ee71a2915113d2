import Mathlib.Data.Finset.Card

/-!
# Collecting with a limit

Items are offered one after the other. An item whose key is there already is skipped; when `limit`
items have been collected, a further one is only noted.

* `collect`: one item; `Collected`: what is known after the items of a set have been offered.
* `Collected.insert`, `Collected.foldl`: one more item, and a list of them.
* `Collected.truncated_iff`: an item was only noted exactly if there are more than `limit`.
-/

variable {α κ : Type} [DecidableEq α] [DecidableEq κ] {key : α → κ} {limit : ℕ} {S : Finset α}

/-- One item is offered. -/
def collect (key : α → κ) (limit : ℕ) (c : List α × Bool) (x : α) : List α × Bool :=
  if ∃ r ∈ c.1, key r = key x then c
  else if limit ≤ c.1.length then (c.1, true)
  else (c.1 ++ [x], c.2)

/-- The state `c` after the items of `S` have been offered. -/
structure Collected (limit : ℕ) (S : Finset α) (c : List α × Bool) : Prop where
  nodup : c.1.Nodup
  offered : ∀ x ∈ c.1, x ∈ S
  fits : c.1.length ≤ limit
  complete : c.2 = false → ∀ x ∈ S, x ∈ c.1
  full : c.2 = true → limit < S.card

variable {c : List α × Bool}

omit [DecidableEq α] in
theorem collected_nil : Collected limit (∅ : Finset α) ([], false) :=
  ⟨.nil, by simp, Nat.zero_le _, by simp, by simp⟩

/-- **An item was only noted** exactly if there are more than `limit`. -/
theorem Collected.truncated_iff (h : Collected limit S c) : c.2 = true ↔ limit < S.card := by
  refine ⟨h.full, fun hmany => ?_⟩
  by_contra hcomplete
  rw [Bool.not_eq_true] at hcomplete
  have hsubset : S ⊆ c.1.toFinset := fun x hx => List.mem_toFinset.mpr (h.complete hcomplete x hx)
  have hcard := (Finset.card_le_card hsubset).trans (List.toFinset_card_le c.1)
  have hfits := h.fits
  omega

/-- **One more item.** -/
theorem Collected.insert (h : Collected limit S c) (x : α) (hkey : ∀ r ∈ S, key r = key x → r = x) :
    Collected limit (Insert.insert x S) (collect key limit c x) := by
  unfold collect
  split
  · next hthere =>
    obtain ⟨r, hr, hsame⟩ := hthere
    obtain rfl := hkey r (h.offered r hr) hsame
    rw [Finset.insert_eq_of_mem (h.offered r hr)]
    exact h
  · next habsent =>
    have hnew : x ∉ c.1 := fun hx => habsent ⟨x, hx, rfl⟩
    split
    · next hlimit =>
      refine ⟨h.nodup, fun r hr => Finset.mem_insert_of_mem (h.offered r hr), h.fits, by simp, fun _ => ?_⟩
      -- the collected items and the new one are more than `limit`
      have hsubset : Insert.insert x c.1.toFinset ⊆ Insert.insert x S :=
        Finset.insert_subset_insert x fun r hr => h.offered r (List.mem_toFinset.mp hr)
      have hcard := Finset.card_le_card hsubset
      rw [Finset.card_insert_of_notMem (by rwa [List.mem_toFinset]),
        List.toFinset_card_of_nodup h.nodup] at hcard
      omega
    · next hroom =>
      refine ⟨List.nodup_append_comm.mp (List.nodup_cons.mpr ⟨hnew, h.nodup⟩), fun r hr => ?_, ?_,
        fun hcomplete r hr => ?_, fun hfull => ?_⟩
      · rcases List.mem_append.mp hr with hr | hr
        · exact Finset.mem_insert_of_mem (h.offered r hr)
        · rw [List.mem_singleton.mp hr]
          exact Finset.mem_insert_self x S
      · rw [List.length_append, List.length_singleton]
        omega
      · rcases Finset.mem_insert.mp hr with rfl | hr
        · exact List.mem_append_right _ List.mem_cons_self
        · exact List.mem_append_left _ (h.complete hcomplete r hr)
      · exact (h.full hfull).trans_le (Finset.card_le_card (Finset.subset_insert x S))

/-- **A list of items.** -/
theorem Collected.foldl (items : List α) (h : Collected limit S c)
    (hkey : ∀ r ∈ S ∪ items.toFinset, ∀ x ∈ items, key r = key x → r = x) :
    Collected limit (S ∪ items.toFinset) (items.foldl (collect key limit) c) := by
  induction items generalizing S c with
  | nil => simpa using h
  | cons x items ih =>
    have hinsert := h.insert x fun r hr => hkey r (Finset.mem_union_left _ hr) x List.mem_cons_self
    have hunion : S ∪ (x :: items).toFinset = Insert.insert x S ∪ items.toFinset := by
      rw [List.toFinset_cons, Finset.union_insert, Finset.insert_union]
    rw [hunion] at hkey ⊢
    exact ih hinsert fun r hr y hy => hkey r hr y (List.mem_cons_of_mem x hy)
