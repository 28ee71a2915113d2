import Mathlib.Data.List.Infix
import Mathlib.Data.List.TakeWhile
import Mathlib.Logic.Relation

/-!
# Runs with an append-only trace

A step relation whose states carry a growing list of events.

* `Along p t`: every event of `t` satisfies `p`, given the events before it. Such conditions are
  inherited by prefixes, so a condition on a whole run holds at every point of it.
* `bounded_invariant`: what every step preserves, as long as the trace meets a condition that
  prefixes inherit, holds wherever the condition is met.
-/

open Relation

variable {S E : Type}

/-- `p` holds of every event of `t`, given the events before it. -/
def Along (p : List E → E → Prop) (t : List E) : Prop :=
  ∀ pre e post, t = pre ++ e :: post → p pre e

theorem along_nil (p : List E → E → Prop) : Along p [] := by
  intro pre e post h
  simp at h

theorem Along.of_prefix {p : List E → E → Prop} {t t' : List E} (h : t <+: t') (ht : Along p t') :
    Along p t := by
  rintro pre e post rfl
  obtain ⟨rest, rfl⟩ := h
  exact ht pre e (post ++ rest) (by simp)

theorem Along.append_left {p : List E → E → Prop} {t l : List E} (h : Along p (t ++ l)) :
    Along p t := h.of_prefix (List.prefix_append t l)

/-- One more event. -/
theorem along_concat {p : List E → E → Prop} {t : List E} {e : E} :
    Along p (t ++ [e]) ↔ Along p t ∧ p t e := by
  constructor
  · exact fun h => ⟨h.append_left, h t e [] rfl⟩
  · rintro ⟨ht, he⟩ pre d post h
    rcases List.eq_nil_or_concat post with rfl | ⟨post, x, rfl⟩
    · have h' : t = pre ∧ e = d := by simpa using List.append_inj' h rfl
      rw [← h'.1, ← h'.2]
      exact he
    · have h' : t ++ [e] = (pre ++ d :: post) ++ [x] := by simpa using h
      exact ht pre d post (List.append_inj' h' rfl).1

/-- Several more events. -/
theorem Along.append {p : List E → E → Prop} {t l : List E} (ht : Along p t)
    (hl : ∀ pre e post, l = pre ++ e :: post → p (t ++ pre) e) : Along p (t ++ l) := by
  induction l using List.reverseRecOn with
  | nil => simpa using ht
  | append_singleton l e ih =>
    rw [← List.append_assoc, along_concat]
    refine ⟨ih fun pre d post h => hl pre d (post ++ [e]) (by rw [h]; simp), ?_⟩
    exact hl l e [] rfl

/-- `Along`, computed: `t` is read after `before`. -/
def alongFrom (p : List E → E → Prop) [∀ pre e, Decidable (p pre e)] : List E → List E → Bool
  | _, [] => true
  | before, e :: rest => decide (p before e) && alongFrom p (before ++ [e]) rest

theorem alongFrom_iff (p : List E → E → Prop) [∀ pre e, Decidable (p pre e)] (before t : List E) :
    alongFrom p before t = true ↔ ∀ pre e post, t = pre ++ e :: post → p (before ++ pre) e := by
  induction t generalizing before with
  | nil => simp [alongFrom]
  | cons e rest ih =>
    rw [alongFrom, Bool.and_eq_true, decide_eq_true_eq, ih]
    constructor
    · rintro ⟨hhead, hrest⟩ pre d post h
      cases pre with
      | nil =>
        obtain ⟨rfl, -⟩ : e = d ∧ rest = post := by simpa using h
        simpa using hhead
      | cons x pre =>
        obtain ⟨rfl, hpost⟩ : e = x ∧ rest = pre ++ d :: post := by simpa using h
        simpa using hrest pre d post hpost
    · intro h
      refine ⟨by simpa using h [] e rest rfl, fun pre d post hrest => ?_⟩
      simpa using h (e :: pre) d post (by rw [hrest]; rfl)

instance (p : List E → E → Prop) [∀ pre e, Decidable (p pre e)] (t : List E) :
    Decidable (Along p t) :=
  decidable_of_iff (alongFrom p [] t = true) (by simpa [Along] using alongFrom_iff p [] t)

variable {step : S → S → Prop} {trace : S → List E}

/-- Runs only append to the trace. -/
theorem trace_prefix (happend : ∀ s s', step s s' → trace s <+: trace s') {s s' : S}
    (h : ReflTransGen step s s') : trace s <+: trace s' := by
  induction h with
  | refl => exact List.prefix_rfl
  | tail _ hstep ih => exact ih.trans (happend _ _ hstep)

/-- **Bounded runs.** A condition `Q` on traces is inherited by prefixes. What every step preserves
while the trace meets `Q` holds after every run whose trace meets it. -/
theorem bounded_invariant {Q : List E → Prop} {I : S → Prop}
    (hQ : ∀ t t', t <+: t' → Q t' → Q t)
    (happend : ∀ s s', step s s' → trace s <+: trace s')
    (hstep : ∀ s s', step s s' → Q (trace s') → I s → I s') {s s' : S}
    (hrun : ReflTransGen step s s') (hq : Q (trace s')) (hs : I s) : I s' := by
  induction hrun with
  | refl => exact hs
  | tail _ hlast ih => exact hstep _ _ hlast hq (ih (hQ _ _ (happend _ _ hlast) hq))

/-- What every step preserves holds after every run. -/
theorem run_invariant {I : S → Prop} (hstep : ∀ s s', step s s' → I s → I s') {s s' : S}
    (hrun : ReflTransGen step s s') (hs : I s) : I s' := by
  induction hrun with
  | refl => exact hs
  | tail _ hlast ih => exact hstep _ _ hlast ih
