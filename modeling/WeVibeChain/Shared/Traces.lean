import Mathlib.Data.List.Nodup
import WeVibeChain.Shared.Machine

/-!
# Runs compared with other runs, and things that happen once

Rules for machines. A machine that follows the inputs of another one which concern it,
and is not touched by the rest, takes a run of its own on those inputs. Two machines
that stay related on the same inputs give the same answers. Inputs that a relation does
not notice can be left out. Tokens that are spent when they are output and never become
unspent are output once in a run.
-/

set_option autoImplicit false

universe u v w

namespace Machine
variable {σ : Type u} {α : Type v} {ω : Type w} (m : Machine σ α ω)

section Refinement
variable {τ : Type u} {β : Type v} {ω' : Type w} {m : Machine σ α ω} {n : Machine τ β ω'}

/-- States stay related if the inputs that concern the second machine are steps of it, with the same
answers, and the other inputs leave the relation alone. -/
theorem run_refines (requestOf : α → Option β) (answer : ω → ω') {R : σ → τ → Prop}
    {P : σ → α → Prop}
    (hidle : ∀ s t a, R s t → P s a → requestOf a = none → R (m.next s a) t)
    (hstep : ∀ s t a b, R s t → P s a → requestOf a = some b →
      R (m.next s a) (n.next t b) ∧ answer (m.output s a) = n.output t b)
    {s : σ} {t : τ} (h : R s t) {as : List α} (hP : m.Along P s as) :
    R (m.run s as) (n.run t (as.filterMap requestOf)) ∧
      (m.observed (fun a => (requestOf a).isSome) s as).map answer =
        n.history t (as.filterMap requestOf) := by
  induction as generalizing s t with
  | nil => exact ⟨h, rfl⟩
  | cons a as ih =>
    unfold observed
    cases ha : requestOf a with
    | none =>
      rw [List.filterMap_cons_none ha]
      exact ih (hidle s t a h hP.1 ha) hP.2
    | some b =>
      obtain ⟨hnext, hanswer⟩ := hstep s t a b h hP.1 ha
      obtain ⟨hrun, hhistory⟩ := ih hnext hP.2
      rw [List.filterMap_cons_some ha]
      refine ⟨hrun, ?_⟩
      rw [history_cons, ← hanswer, ← hhistory]
      rfl

/-- Machines whose states stay related on the same inputs answer alike. -/
theorem history_refines {α : Type v} {m : Machine σ α ω} {n : Machine τ α ω'} (answer : ω' → ω)
    {R : σ → τ → Prop} {P : α → Prop}
    (hstep : ∀ s t a, R s t → P a →
      R (m.next s a) (n.next t a) ∧ m.output s a = answer (n.output t a))
    {s : σ} {t : τ} (h : R s t) {as : List α} (hP : ∀ a ∈ as, P a) :
    R (m.run s as) (n.run t as) ∧ m.history s as = (n.history t as).map answer := by
  induction as generalizing s t with
  | nil => exact ⟨h, rfl⟩
  | cons a as ih =>
    rw [List.forall_mem_cons] at hP
    obtain ⟨hnext, houtput⟩ := hstep s t a h hP.1
    obtain ⟨hrun, hhistory⟩ := ih hnext hP.2
    refine ⟨hrun, ?_⟩
    rw [history_cons, history_cons, List.map_cons, houtput, hhistory]

end Refinement

section Purged
variable {m : Machine σ α ω} {R : σ → σ → Prop}

/-- Inputs that the relation does not notice can be left out. -/
theorem run_purged (keep : α → Bool)
    (hquiet : ∀ s t a, R s t → keep a = false → R (m.next s a) t)
    (hstep : ∀ s t a, R s t → keep a = true →
      R (m.next s a) (m.next t a) ∧ m.output s a = m.output t a)
    {s t : σ} (h : R s t) (as : List α) :
    R (m.run s as) (m.run t (as.filter keep)) ∧
      m.observed keep s as = m.history t (as.filter keep) := by
  have hrun := run_refines (n := m) (R := R) (Option.guard keep) id ?_ ?_ h
    (m.along_true s as)
  · rw [List.filterMap_eq_filter, List.map_id] at hrun
    simpa only [Option.isSome_guard] using hrun
  · intro s t a hR _ hnone
    exact hquiet s t a hR (Option.guard_eq_none_iff.mp hnone)
  · intro s t a b hR _ hsome
    obtain ⟨rfl, ha⟩ := Option.guard_eq_some_iff.mp hsome
    exact hstep s t a hR ha

end Purged

section Once
variable {κ : Type w} {m : Machine σ α (List κ)}

/-- Everything output in a run has what the invariant gives it. -/
theorem forall_mem_flatten_history {I : σ → Prop} {Q : κ → Prop}
    (hI : ∀ s a, I s → I (m.next s a)) (hQ : ∀ s a, I s → ∀ t ∈ m.output s a, Q t) {s : σ}
    (hs : I s) (as : List α) : ∀ t ∈ (m.history s as).flatten, Q t := by
  induction as generalizing s with
  | nil => exact nofun
  | cons a as ih =>
    rw [history_cons, List.flatten_cons, List.forall_mem_append]
    exact ⟨hQ s a hs, ih (hI s a hs)⟩

/-- Tokens that are unspent before the input that outputs them and spent from then on: a run outputs
each of them once, none that was spent before it, and leaves them spent. -/
theorem history_spends_once {I : σ → Prop} {P : σ → κ → Prop}
    (hI : ∀ s a, I s → I (m.next s a))
    (honce : ∀ s a, I s → (m.output s a).Nodup ∧
      ∀ t ∈ m.output s a, ¬ P s t ∧ P (m.next s a) t)
    (hkept : ∀ s a t, I s → P s t → P (m.next s a) t) {s : σ} (hs : I s) (as : List α) :
    (m.history s as).flatten.Nodup ∧
      ∀ t ∈ (m.history s as).flatten, ¬ P s t ∧ P (m.run s as) t := by
  induction as generalizing s with
  | nil => exact ⟨List.nodup_nil, nofun⟩
  | cons a as ih =>
    obtain ⟨hnodup, hlater⟩ := ih (hI s a hs)
    obtain ⟨hnow, hspends⟩ := honce s a hs
    have hstays : ∀ t, P (m.next s a) t → P (m.run (m.next s a) as) t := by
      intro t ht
      exact (m.run_always (I := fun u => I u ∧ P u t)
        (fun u b hu => ⟨hI u b hu.1, hkept u b t hu.1 hu.2⟩) ⟨hI s a hs, ht⟩ as).2
    rw [history_cons, List.flatten_cons, List.nodup_append', run_cons]
    refine ⟨⟨hnow, hnodup, ?_⟩, ?_⟩
    · -- What is output now is spent when the later tokens are output.
      intro t hfirst hthen
      exact (hlater t hthen).1 (hspends t hfirst).2
    · rw [List.forall_mem_append]
      refine ⟨fun t ht => ⟨(hspends t ht).1, hstays t (hspends t ht).2⟩, fun t ht => ?_⟩
      exact ⟨fun hspent => (hlater t ht).1 (hkept s a t hs hspent), (hlater t ht).2⟩

end Once

end Machine

namespace Except
variable {ε : Type u} {α : Type v} {R : α → α → Prop}

/-- Two results that are the same error or related values. -/
inductive Alike (R : α → α → Prop) : Except ε α → Except ε α → Prop
  | error (e : ε) : Alike R (.error e) (.error e)
  | ok {a b : α} (h : R a b) : Alike R (.ok a) (.ok b)

theorem Alike.map {β : Type w} {S : β → β → Prop} {x y : Except ε α} {f : α → β}
    (h : Alike R x y) (hf : ∀ a b, R a b → S (f a) (f b)) : Alike S (x.map f) (y.map f) := by
  cases h with
  | error e => exact .error e
  | ok hab => exact .ok (hf _ _ hab)

end Except
