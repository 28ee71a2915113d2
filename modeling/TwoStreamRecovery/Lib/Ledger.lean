import Mathlib.Data.List.Induction
import Mathlib.Data.Multiset.AddSub
import Mathlib.Data.Multiset.ZeroCons

/-!
# A ledger of resources

* `Deed ρ μ`: a resource is acquired, used or released, a call is attempted, or something is emitted.
* `balance log`: what is held after a log, if each deed was allowed: nothing is acquired twice, used or
  released when it is not held, or released before what it owns; `emitted log`: what was emitted.
* `balance_count`: a resource has been acquired once more than released if it is held, and as often
  otherwise.
* `Makes held p post`: a program that starts with `held` does only what is allowed, and ends with what it
  holds and has emitted as in `post`; `Meets held p post`: and emits nothing.
* The rules `Meets.bind`, `Meets.acquire`, `Meets.release`, `Meets.forM` and `Makes.bind`, `Makes.emit`.
-/

namespace TwoStream

/-- Resources, and what each belongs to. -/
class Owned (ρ : Type) where
  owner : ρ → Option ρ
  owner_ne_self : ∀ r, owner r ≠ some r

/-- What is done: with a resource, by a call that may fail, or to the outside. -/
inductive Deed (ρ μ : Type) where
  | acquire (r : ρ)
  | use (r : ρ)
  | release (r : ρ)
  | attempt
  | emit (m : μ)
  deriving DecidableEq

variable {ρ μ α β ε : Type} [Owned ρ] {held rest : Multiset ρ} {r : ρ} {log : List (Deed ρ μ)}

open Owned

/-- The owner of all that is held is held too. -/
def Closed (held : Multiset ρ) : Prop := ∀ r ∈ held, ∀ o ∈ owner r, o ∈ held

theorem Closed.add {held' : Multiset ρ} (h : Closed held) (h' : Closed held') : Closed (held + held') := by
  intro r hr o ho
  rw [Multiset.mem_add] at hr ⊢
  rcases hr with hr | hr
  · exact .inl (h r hr o ho)
  · exact .inr (h' r hr o ho)

theorem Closed.cons (h : Closed held) (howner : ∀ o ∈ owner r, o ∈ held) : Closed (r ::ₘ held) := by
  intro s hs o ho
  rcases Multiset.mem_cons.mp hs with rfl | hs
  · exact Multiset.mem_cons_of_mem (howner o ho)
  · exact Multiset.mem_cons_of_mem (h s hs o ho)

theorem closed_zero : Closed (0 : Multiset ρ) := fun _ hr => absurd hr (Multiset.notMem_zero _)

variable [DecidableEq ρ]

/-- What is held after a deed, if it is allowed. -/
def Deed.entry (held : Multiset ρ) : Deed ρ μ → Option (Multiset ρ)
  | .acquire r =>
    if r ∉ held ∧ (owner r).all (fun o => decide (o ∈ held)) = true then some (r ::ₘ held) else none
  | .use r => if r ∈ held then some held else none
  | .release r => if r ∈ held ∧ ∀ s ∈ held, owner s ≠ some r then some (held.erase r) else none
  | .attempt | .emit _ => some held

/-- What is held after a log, if all of it is allowed. -/
def balance (log : List (Deed ρ μ)) : Option (Multiset ρ) := log.foldlM Deed.entry 0

theorem balance_concat (h : balance log = some held) (d : Deed ρ μ) :
    balance (log ++ [d]) = d.entry held := by
  rw [balance, List.foldlM_append, ← balance, h]
  simp

/-! ### What is held -/

/-- What one deed does. -/
theorem Deed.entry_cases {held' : Multiset ρ} {d : Deed ρ μ} (h : d.entry held = some held') :
    (∃ r, d = .acquire r ∧ r ∉ held ∧ (∀ o ∈ owner r, o ∈ held) ∧ held' = r ::ₘ held) ∨
      ((∀ r, d ≠ .acquire r ∧ d ≠ .release r) ∧ held' = held) ∨
      (∃ r, d = .release r ∧ (∀ s ∈ held', owner s ≠ some r) ∧ held = r ::ₘ held') := by
  cases d with
  | acquire r =>
    simp only [Deed.entry] at h
    split_ifs at h with hallowed
    refine .inl ⟨r, rfl, hallowed.1, fun o ho => ?_, (Option.some.inj h).symm⟩
    have howner := hallowed.2
    rw [Option.mem_def.mp ho] at howner
    simpa using howner
  | use r =>
    simp only [Deed.entry] at h
    split_ifs at h with hallowed
    exact .inr (.inl ⟨by simp, (Option.some.inj h).symm⟩)
  | release r =>
    simp only [Deed.entry] at h
    split_ifs at h with hallowed
    obtain rfl := Option.some.inj h
    exact .inr (.inr ⟨r, rfl, fun s hs => hallowed.2 s (Multiset.mem_of_mem_erase hs),
      (Multiset.cons_erase hallowed.1).symm⟩)
  | attempt => exact .inr (.inl ⟨by simp, (Option.some.inj h).symm⟩)
  | emit m => exact .inr (.inl ⟨by simp, (Option.some.inj h).symm⟩)

/-- An invariant of the entries holds of what is held. -/
theorem balance_invariant {P : Multiset ρ → List (Deed ρ μ) → Prop} (hzero : P 0 [])
    (hentry : ∀ held held' log d, P held log → d.entry held = some held' → P held' (log ++ [d]))
    (h : balance log = some held) : P held log := by
  induction log using List.reverseRecOn generalizing held with
  | nil =>
    obtain rfl := Option.some.inj h
    exact hzero
  | append_singleton log d ih =>
    rw [balance, List.foldlM_append, Option.bind_eq_bind, Option.bind_eq_some_iff] at h
    obtain ⟨before, hbefore, hlast⟩ := h
    exact hentry before held log d (ih hbefore) (by simpa using hlast)

theorem balance_nodup (h : balance log = some held) : held.Nodup := by
  refine balance_invariant (P := fun held _ => held.Nodup) Multiset.nodup_zero ?_ h
  intro held held' log d hnodup hentry
  obtain ⟨r, -, hnew, -, rfl⟩ | ⟨-, rfl⟩ | ⟨r, -, -, rfl⟩ := Deed.entry_cases hentry
  · exact Multiset.nodup_cons.mpr ⟨hnew, hnodup⟩
  · exact hnodup
  · exact (Multiset.nodup_cons.mp hnodup).2

/-- **Acquired as often as released**, and once more if it is held. -/
theorem balance_count [DecidableEq μ] (h : balance log = some held) (r : ρ) :
    log.count (.acquire r) = log.count (.release r) + held.count r := by
  refine balance_invariant (P := fun held log =>
    log.count (.acquire r) = log.count (.release r) + held.count r) (by simp) ?_ h
  intro held held' log d hcount hentry
  rw [List.count_append, List.count_append, hcount]
  obtain ⟨s, rfl, -, -, rfl⟩ | ⟨hother, rfl⟩ | ⟨s, rfl, -, rfl⟩ := Deed.entry_cases hentry
  · by_cases hs : r = s
    · subst hs
      simp [Nat.add_assoc]
    · simp [Multiset.count_cons_of_ne hs, Ne.symm hs]
  · simp [hother r]
  · by_cases hs : r = s
    · subst hs
      simp
      omega
    · simp [Multiset.count_cons_of_ne hs, Ne.symm hs]

/-- Only what was acquired is held. -/
theorem acquired_of_held [DecidableEq μ] (h : balance log = some held) (hr : r ∈ held) :
    Deed.acquire r ∈ log := by
  have hcount := balance_count h r
  have hheld : 0 < held.count r := Multiset.count_pos.mpr hr
  exact List.count_pos_iff.mp (by omega)

/-! ### What is emitted -/

def Deed.emission : Deed ρ μ → Option μ
  | .emit m => some m
  | _ => none

/-- What a log emits, in order. -/
def emitted (log : List (Deed ρ μ)) : List μ := log.filterMap Deed.emission

omit [Owned ρ] [DecidableEq ρ] in
theorem emitted_concat (log : List (Deed ρ μ)) (d : Deed ρ μ) :
    emitted (log ++ [d]) = emitted log ++ d.emission.toList := by
  rw [emitted, List.filterMap_append]
  cases d <;> rfl

/-! ### Programs -/

/-- A program that writes the log. -/
abbrev Program (ρ μ α : Type) := StateM (List (Deed ρ μ)) α

/-- A deed is written. -/
def perform (d : Deed ρ μ) : Program ρ μ Unit := modify (· ++ [d])

/-- Started with `held`, the program does what is allowed, and ends as in `post`, which says what it holds
then and what it has emitted. -/
def Makes (held : Multiset ρ) (p : Program ρ μ α) (post : α → Multiset ρ → List μ → Prop) : Prop :=
  ∀ log, balance log = some held →
    ∃ held' new, balance (p.run log).2 = some held' ∧ emitted (p.run log).2 = emitted log ++ new ∧
      post (p.run log).1 held' new

/-- The same of a program that emits nothing. -/
def Meets (held : Multiset ρ) (p : Program ρ μ α) (post : α → Multiset ρ → Prop) : Prop :=
  Makes held p fun a held' new => new = [] ∧ post a held'

section Makes

variable {p : Program ρ μ α} {f : α → Program ρ μ β} {post post' : α → Multiset ρ → List μ → Prop}
  {last : β → Multiset ρ → List μ → Prop}

theorem Makes.pure {a : α} (h : post a held []) : Makes held (pure a) post :=
  fun _ hlog => ⟨held, [], hlog, (List.append_nil _).symm, h⟩

theorem Makes.mono (h : Makes held p post) (hpost : ∀ a held' new, post a held' new → post' a held' new) :
    Makes held p post' := by
  intro log hlog
  obtain ⟨held', new, hbalance, hemitted, ha⟩ := h log hlog
  exact ⟨held', new, hbalance, hemitted, hpost _ _ _ ha⟩

theorem Makes.bind (h : Makes held p post) (hf : ∀ a held' new, post a held' new →
    Makes held' (f a) fun b after later => last b after (new ++ later)) : Makes held (p >>= f) last := by
  intro log hlog
  obtain ⟨held', new, hbalance, hemitted, ha⟩ := h log hlog
  obtain ⟨after, later, hbalance', hemitted', hb⟩ := hf _ _ _ ha _ hbalance
  refine ⟨after, new ++ later, hbalance', ?_, hb⟩
  rw [← List.append_assoc, ← hemitted]
  exact hemitted'

/-- Something is emitted. -/
theorem Makes.emit (m : μ) : Makes held (perform (.emit m)) fun _ after new => after = held ∧ new = [m] :=
  fun log hlog => ⟨held, [m], balance_concat hlog _, emitted_concat log _, rfl, rfl⟩

/-- The steps of a loop, each of which emits one thing. -/
theorem Makes.forM {l : List μ} {step : μ → Program ρ μ Unit}
    (h : ∀ m, Makes held (step m) fun _ after new => after = held ∧ new = [m]) :
    Makes held (l.forM step) fun _ after new => after = held ∧ new = l := by
  induction l with
  | nil => exact .pure ⟨rfl, rfl⟩
  | cons m l ih =>
    refine (h m).bind ?_
    rintro _ _ _ ⟨rfl, rfl⟩
    exact ih.mono fun _ _ later hlater => ⟨hlater.1, congrArg (m :: ·) hlater.2⟩

end Makes

section Rules

variable {p : Program ρ μ α} {f : α → Program ρ μ β} {post post' : α → Multiset ρ → Prop}
  {last : β → Multiset ρ → Prop} {full : β → Multiset ρ → List μ → Prop}

theorem Meets.pure {a : α} (h : post a held) : Meets held (pure a : Program ρ μ α) post :=
  Makes.pure ⟨rfl, h⟩

/-- A part that emits nothing, and the rest. -/
theorem Meets.bindMakes (h : Meets held p post) (hf : ∀ a held', post a held' → Makes held' (f a) full) :
    Makes held (p >>= f) full := by
  refine Makes.bind h ?_
  rintro a held' _ ⟨rfl, ha⟩
  exact hf a held' ha

theorem Meets.seqMakes {p : Program ρ μ Unit} {f : Program ρ μ β} {between : Multiset ρ}
    (h : Meets held p fun _ held' => held' = between) (hf : Makes between f full) :
    Makes held (p >>= fun _ => f) full :=
  h.bindMakes fun _ held' heq => by
    rw [heq]
    exact hf

theorem Meets.bind (h : Meets held p post) (hf : ∀ a held', post a held' → Meets held' (f a) last) :
    Meets held (p >>= f) last := h.bindMakes hf

/-- Nothing is held twice. -/
theorem Meets.of_nodup (h : held.Nodup → Meets held p post) : Meets held p post :=
  fun log hlog => h (balance_nodup hlog) log hlog

/-- The program reads the log. -/
theorem Meets.get {f : List (Deed ρ μ) → Program ρ μ β}
    (h : ∀ log, balance log = some held → Meets held (f log) last) : Meets held (get >>= f) last :=
  fun log hlog => h log hlog log hlog

/-- A part that keeps what is held. -/
theorem Meets.keeping (h : Meets held p fun _ held' => held' = held) (hf : ∀ a, Meets held (f a) last) :
    Meets held (p >>= f) last :=
  h.bind fun a held' heq => by
    rw [heq]
    exact hf a

theorem Meets.seq {p : Program ρ μ Unit} {f : Program ρ μ β} {between : Multiset ρ}
    (h : Meets held p fun _ held' => held' = between) (hf : Meets between f last) :
    Meets held (p >>= fun _ => f) last :=
  h.bind fun _ held' heq => by
    rw [heq]
    exact hf

theorem Meets.perform {d : Deed ρ μ} {held' : Multiset ρ} (h : d.entry held = some held')
    (hsilent : d.emission = none) : Meets held (perform d) fun _ after => after = held' := by
  intro log hlog
  refine ⟨held', [], (balance_concat hlog d).trans h, ?_, rfl, rfl⟩
  refine (emitted_concat log d).trans ?_
  rw [hsilent]
  rfl

theorem Meets.attempt :
    Meets held (TwoStream.perform .attempt : Program ρ μ Unit) fun _ after => after = held :=
  .perform rfl rfl

theorem Meets.use (h : r ∈ held) :
    Meets held (TwoStream.perform (.use r) : Program ρ μ Unit) fun _ after => after = held :=
  .perform (if_pos h) rfl

theorem Meets.acquire (h : r ∉ held) (howner : ∀ o ∈ owner r, o ∈ held) :
    Meets held (TwoStream.perform (.acquire r) : Program ρ μ Unit) fun _ after => after = r ::ₘ held := by
  refine .perform (if_pos ⟨h, ?_⟩) rfl
  cases howns : owner r with
  | none => rfl
  | some o => simpa using howner o howns

/-- What is released is not the owner of what is left. -/
theorem Meets.release (hrest : Closed rest) :
    Meets (r ::ₘ rest) (TwoStream.perform (.release r) : Program ρ μ Unit) fun _ after => after = rest := by
  intro log hlog
  have hnodup := Multiset.nodup_cons.mp (balance_nodup hlog)
  have hfree : ∀ s ∈ r ::ₘ rest, owner s ≠ some r := by
    intro s hs howns
    rcases Multiset.mem_cons.mp hs with rfl | hs
    · exact owner_ne_self s howns
    · exact hnodup.1 (hrest s hs r howns)
  have hentry : (Deed.release r : Deed ρ μ).entry (r ::ₘ rest) = some rest := by
    rw [Deed.entry, if_pos ⟨Multiset.mem_cons_self r rest, hfree⟩, Multiset.erase_cons_head]
  exact Meets.perform hentry rfl log hlog

/-- The steps of a loop, each of which keeps what is held. -/
theorem Meets.forM {l : List α} {step : α → Program ρ μ Unit}
    (h : ∀ a ∈ l, Meets held (step a) fun _ after => after = held) :
    Meets held (l.forM step) fun _ after => after = held := by
  induction l with
  | nil => exact .pure rfl
  | cons a l ih =>
    exact (h a List.mem_cons_self).seq (ih fun b hb => h b (List.mem_cons_of_mem a hb))

/-- The program goes on unless the first part ends it. -/
def Program.onOk (p : Program ρ μ (Except ε α)) (f : α → Program ρ μ (Except ε β)) :
    Program ρ μ (Except ε β) := do
  match ← p with
  | .ok a => f a
  | .error e => return .error e

theorem Makes.onOk {p : Program ρ μ (Except ε α)} {f : α → Program ρ μ (Except ε β)}
    {post : Except ε α → Multiset ρ → List μ → Prop} {last : Except ε β → Multiset ρ → List μ → Prop}
    (h : Makes held p post) (hok : ∀ a held' new, post (.ok a) held' new →
      Makes held' (f a) fun b after later => last b after (new ++ later))
    (hended : ∀ e held' new, post (.error e) held' new → last (.error e) held' new) :
    Makes held (p.onOk f) last := by
  refine h.bind fun res held' new hres => ?_
  cases res with
  | ok a => exact hok a held' new hres
  | error e =>
    refine .pure ?_
    rw [List.append_nil]
    exact hended e held' new hres

end Rules

end TwoStream
