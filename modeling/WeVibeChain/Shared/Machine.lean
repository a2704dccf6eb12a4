import Mathlib.Data.List.Basic

/-!
# Runs of a machine with inputs and outputs

A machine takes one input at a time and answers each with an output. A run is a
finite list of inputs taken from a state; its history is the list of outputs.
The induction over a run is done here, once for each shape of argument: an
invariant of the state, an invariant of the state and the history together, and
a relation kept between two runs that take different inputs.
-/

set_option autoImplicit false

universe u v w

theorem Except.map_eq_ok {ε α β : Type} {x : Except ε α} {f : α → β} {b : β}
    (h : x.map f = .ok b) : ∃ a, x = .ok a ∧ f a = b := by
  cases x with
  | error e => cases h
  | ok a => exact ⟨a, rfl, Except.ok.inj h⟩

/-- What an accepted call left, with the response that was put beside it taken away. -/
theorem Except.eq_ok_of_map {ε α γ : Type} {x : Except ε α} {a : α} {c c' : γ}
    (h : (x.map fun a => (a, c)) = .ok (a, c')) : x = .ok a := by
  cases x with
  | error e => cases h
  | ok b =>
    cases h
    rfl

theorem Except.eq_ok_of_map_snd {ε α β γ : Type} {x : Except ε (α × β)} {f : β → γ} {a : α} {c : γ}
    (h : (x.map fun r => (r.1, f r.2)) = .ok (a, c)) : ∃ b, x = .ok (a, b) := by
  cases x with
  | error e => cases h
  | ok r =>
    cases h
    exact ⟨r.2, rfl⟩

/-- A loop of checks succeeds if all of them do. -/
theorem Except.forM_eq_ok_iff {ε α : Type} {check : α → Except ε Unit} {xs : List α} :
    xs.forM check = .ok () ↔ ∀ x ∈ xs, check x = .ok () := by
  induction xs with
  | nil => exact ⟨fun _ => nofun, fun _ => rfl⟩
  | cons x xs ih =>
    rw [List.forall_mem_cons, ← ih]
    change (check x >>= fun _ => xs.forM check) = .ok () ↔ _
    cases check x with
    | error e => exact ⟨nofun, nofun⟩
    | ok u => exact ⟨fun h => ⟨rfl, h⟩, fun h => h.2⟩

/-- Something came in by an entry of the log and did not go out since. -/
def EnteredSince {α : Type u} (enters leaves : α → Prop) (log : List α) : Prop :=
  ∃ before e after, log = before ++ e :: after ∧ enters e ∧ ∀ e' ∈ after, ¬ leaves e'

theorem not_enteredSince_nil {α : Type u} {enters leaves : α → Prop} :
    ¬ EnteredSince enters leaves [] := by
  rintro ⟨before, e, after, hsplit, -⟩
  exact List.append_ne_nil_of_right_ne_nil before (List.cons_ne_nil e after) hsplit.symm

theorem enteredSince_append_singleton {α : Type u} {enters leaves : α → Prop} {log : List α} {e : α} :
    EnteredSince enters leaves (log ++ [e]) ↔
      enters e ∨ EnteredSince enters leaves log ∧ ¬ leaves e := by
  constructor
  · rintro ⟨before, e', after, hsplit, henters, hstays⟩
    -- The entry is the last one or the last one comes after it.
    rcases List.eq_nil_or_concat' after with rfl | ⟨after, last, rfl⟩
    · obtain ⟨-, heq⟩ := List.append_inj' hsplit rfl
      obtain rfl := List.singleton_inj.mp heq
      exact Or.inl henters
    · rw [← List.cons_append, ← List.append_assoc] at hsplit
      obtain ⟨rfl, heq⟩ := List.append_inj' hsplit rfl
      obtain rfl := List.singleton_inj.mp heq
      rw [List.forall_mem_append] at hstays
      exact Or.inr ⟨⟨before, e', after, rfl, henters, hstays.1⟩,
        hstays.2 e (List.mem_singleton_self e)⟩
  · rintro (henters | ⟨⟨before, e', after, rfl, henters, hstays⟩, hlast⟩)
    · exact ⟨log, e, [], rfl, henters, nofun⟩
    · refine ⟨before, e', after ++ [e], by simp, henters, ?_⟩
      rw [List.forall_mem_append]
      refine ⟨hstays, fun x hx => ?_⟩
      rwa [List.mem_singleton.mp hx]

structure Machine (σ : Type u) (α : Type v) (ω : Type w) where
  step : σ → α → σ × ω

namespace Machine
variable {σ : Type u} {α : Type v} {ω : Type w} (m : Machine σ α ω)

def next (s : σ) (a : α) : σ := (m.step s a).1

def output (s : σ) (a : α) : ω := (m.step s a).2

def run : σ → List α → σ
  | s, [] => s
  | s, a :: as => run (m.next s a) as

def history : σ → List α → List ω
  | _, [] => []
  | s, a :: as => m.output s a :: history (m.next s a) as

/-- Every input of the run satisfies `P` in the state it is taken in. -/
def Along (P : σ → α → Prop) : σ → List α → Prop
  | _, [] => True
  | s, a :: as => P s a ∧ Along P (m.next s a) as

@[simp] theorem run_nil (s : σ) : m.run s [] = s := rfl

@[simp] theorem run_cons (s : σ) (a : α) (as : List α) :
    m.run s (a :: as) = m.run (m.next s a) as := rfl

@[simp] theorem history_nil (s : σ) : m.history s [] = [] := rfl

@[simp] theorem history_cons (s : σ) (a : α) (as : List α) :
    m.history s (a :: as) = m.output s a :: m.history (m.next s a) as := rfl

@[simp] theorem along_nil (P : σ → α → Prop) (s : σ) : m.Along P s [] := trivial

@[simp] theorem along_cons {P : σ → α → Prop} {s : σ} {a : α} {as : List α} :
    m.Along P s (a :: as) ↔ P s a ∧ m.Along P (m.next s a) as := Iff.rfl

theorem along_append {P : σ → α → Prop} {s : σ} {as bs : List α} :
    m.Along P s (as ++ bs) ↔ m.Along P s as ∧ m.Along P (m.run s as) bs := by
  induction as generalizing s with
  | nil => simp
  | cons a as ih => simp only [List.cons_append, along_cons, run_cons, ih, and_assoc]

theorem along_of_forall {P : σ → α → Prop} {as : List α} (h : ∀ s, ∀ a ∈ as, P s a) (s : σ) :
    m.Along P s as := by
  induction as generalizing s with
  | nil => trivial
  | cons a as ih =>
    exact ⟨h s a List.mem_cons_self, ih (fun t b hb => h t b (List.mem_cons_of_mem a hb)) _⟩

theorem along_true (s : σ) (as : List α) : m.Along (fun _ _ => True) s as :=
  m.along_of_forall (fun _ _ _ => trivial) s

theorem along_and {P Q : σ → α → Prop} {s : σ} {as : List α} (hP : m.Along P s as)
    (hQ : m.Along Q s as) : m.Along (fun t a => P t a ∧ Q t a) s as := by
  induction as generalizing s with
  | nil => trivial
  | cons a as ih => exact ⟨⟨hP.1, hQ.1⟩, ih hP.2 hQ.2⟩

theorem run_invariant {P : σ → α → Prop} {I : σ → Prop}
    (hstep : ∀ s a, I s → P s a → I (m.next s a)) {s : σ} {as : List α}
    (hs : I s) (hP : m.Along P s as) : I (m.run s as) := by
  induction as generalizing s with
  | nil => exact hs
  | cons a as ih => exact ih (hstep s a hs hP.1) hP.2

theorem run_always {I : σ → Prop} (hstep : ∀ s a, I s → I (m.next s a)) {s : σ} (hs : I s)
    (as : List α) : I (m.run s as) := by
  induction as generalizing s with
  | nil => exact hs
  | cons a as ih => exact ih (hstep s a hs)

/-- A machine that another one carries along has the same runs. -/
theorem run_map {τ : Type u} {ω' : Type w} {m' : Machine τ α ω'} {f : σ → τ}
    (hstep : ∀ s a, f (m.next s a) = m'.next (f s) a) (s : σ) (as : List α) :
    f (m.run s as) = m'.run (f s) as := by
  induction as generalizing s with
  | nil => rfl
  | cons a as ih => rw [run_cons, run_cons, ih, hstep]

/-- What the inputs keep as long as they satisfy `P` turns into something lasting at the first one
that does not. -/
theorem run_lost {P : σ → α → Prop} {I J : σ → Prop}
    (hkeep : ∀ s a, I s → P s a → I (m.next s a)) (hlose : ∀ s a, I s → ¬ P s a → J (m.next s a))
    (hlost : ∀ s a, J s → J (m.next s a)) {s : σ} {as : List α} (hs : I s)
    (hP : ¬ m.Along P s as) : J (m.run s as) := by
  induction as generalizing s with
  | nil => exact absurd trivial hP
  | cons a as ih =>
    by_cases ha : P s a
    · apply ih (hkeep s a hs ha)
      intro has
      exact hP ⟨ha, has⟩
    · exact m.run_always hlost (hlose s a hs ha) as

theorem run_append (s : σ) (as bs : List α) : m.run s (as ++ bs) = m.run (m.run s as) bs := by
  induction as generalizing s with
  | nil => rfl
  | cons a as ih => exact ih (m.next s a)

theorem history_append (s : σ) (as bs : List α) :
    m.history s (as ++ bs) = m.history s as ++ m.history (m.run s as) bs := by
  induction as generalizing s with
  | nil => rfl
  | cons a as ih => exact congrArg (m.output s a :: ·) (ih (m.next s a))

/-- What holds at the start or becomes true at an input with `P`, and is never lost, holds after
a run if it held before or some input of the run had `P`. -/
theorem run_iff_event {P : σ → α → Prop} {I Q : σ → Prop} (hI : ∀ s a, I s → I (m.next s a))
    (hstep : ∀ s a, I s → (Q (m.next s a) ↔ Q s ∨ P s a)) {s : σ} (hs : I s) (as : List α) :
    Q (m.run s as) ↔
      Q s ∨ ∃ before a after, as = before ++ a :: after ∧ P (m.run s before) a := by
  induction as generalizing s with
  | nil => simp
  | cons b bs ih =>
    rw [run_cons, ih (hI s b hs), hstep s b hs, or_assoc]
    refine or_congr_right ?_
    constructor
    · intro h
      rcases h with hb | ⟨before, a, after, rfl, ha⟩
      · exact ⟨[], b, bs, rfl, hb⟩
      · exact ⟨b :: before, a, after, rfl, ha⟩
    · rintro ⟨before, a, after, hsplit, ha⟩
      cases before with
      | nil =>
        obtain ⟨rfl, -⟩ := List.cons.inj hsplit
        exact Or.inl ha
      | cons c before =>
        obtain ⟨rfl, hrest⟩ := List.cons.inj hsplit
        exact Or.inr ⟨before, a, after, hrest, ha⟩

/-- What an invariant gives at every state holds of every input of the run. -/
theorem along_of_invariant {P Q : σ → α → Prop} {I : σ → Prop}
    (hstep : ∀ s a, I s → P s a → I (m.next s a)) (hQ : ∀ s a, I s → P s a → Q s a)
    {s : σ} {as : List α} (hs : I s) (hP : m.Along P s as) : m.Along Q s as := by
  induction as generalizing s with
  | nil => trivial
  | cons a as ih => exact ⟨hQ s a hs hP.1, ih (hstep s a hs hP.1) hP.2⟩

/-- An invariant of the state together with everything output so far. -/
theorem run_history_invariant {P : σ → α → Prop} {I : σ → List ω → Prop}
    (hstep : ∀ s log a, I s log → P s a → I (m.next s a) (log ++ [m.output s a]))
    {s : σ} {log : List ω} {as : List α} (hs : I s log) (hP : m.Along P s as) :
    I (m.run s as) (log ++ m.history s as) := by
  induction as generalizing s log with
  | nil => simpa using hs
  | cons a as ih =>
    have hnext := ih (hstep s log a hs hP.1) hP.2
    rwa [List.append_assoc] at hnext

/-- The same with everything output so far. -/
theorem run_history_lost {P : σ → α → Prop} {I J : σ → List ω → Prop}
    (hkeep : ∀ s log a, I s log → P s a → I (m.next s a) (log ++ [m.output s a]))
    (hlose : ∀ s log a, I s log → ¬ P s a → J (m.next s a) (log ++ [m.output s a]))
    (hlost : ∀ s log a, J s log → J (m.next s a) (log ++ [m.output s a]))
    {s : σ} {log : List ω} {as : List α} (hs : I s log) (hP : ¬ m.Along P s as) :
    J (m.run s as) (log ++ m.history s as) := by
  induction as generalizing s log with
  | nil => exact absurd trivial hP
  | cons a as ih =>
    by_cases ha : P s a
    · have hrest : ¬ m.Along P (m.next s a) as := fun has => hP ⟨ha, has⟩
      have hrun := ih (hkeep s log a hs ha) hrest
      rwa [List.append_assoc] at hrun
    · have hrun := m.run_history_invariant (fun t log b hJ _ => hlost t log b hJ)
        (hlose s log a hs ha) (m.along_true _ as)
      rwa [List.append_assoc] at hrun

section Outputs
variable {ω' : Type w}

/-- The machine with another answer to each input. -/
def withOutput (f : σ → α → ω') : Machine σ α ω' := ⟨fun s a => (m.next s a, f s a)⟩

@[simp] theorem next_withOutput (f : σ → α → ω') (s : σ) (a : α) :
    (m.withOutput f).next s a = m.next s a := rfl

@[simp] theorem output_withOutput (f : σ → α → ω') (s : σ) (a : α) :
    (m.withOutput f).output s a = f s a := rfl

@[simp] theorem run_withOutput (f : σ → α → ω') (s : σ) (as : List α) :
    (m.withOutput f).run s as = m.run s as := by
  induction as generalizing s with
  | nil => rfl
  | cons a as ih => exact ih (m.next s a)

end Outputs

section TwoRuns

/-- States that every input keeps related, with the same output, have the same histories. -/
theorem history_eq_of_related {Rel : σ → σ → Prop}
    (hstep : ∀ s s' a, Rel s s' → Rel (m.next s a) (m.next s' a) ∧ m.output s' a = m.output s a)
    {s s' : σ} (hs : Rel s s') (as : List α) :
    Rel (m.run s as) (m.run s' as) ∧ m.history s' as = m.history s as := by
  induction as generalizing s s' with
  | nil => exact ⟨hs, rfl⟩
  | cons a as ih =>
    obtain ⟨hnext, houtput⟩ := hstep s s' a hs
    obtain ⟨hrun, hhistory⟩ := ih hnext
    refine ⟨hrun, ?_⟩
    rw [history_cons, history_cons, houtput, hhistory]

/-- Two lists of inputs that match by `Same`, apart from inputs that are `Quiet` and occur in one
of the lists only. -/
inductive Aligned (Same : α → α → Prop) (Quiet : α → Prop) : List α → List α → Prop where
  | nil : Aligned Same Quiet [] []
  | both {a a' : α} {as as' : List α} :
      Same a a' → Aligned Same Quiet as as' → Aligned Same Quiet (a :: as) (a' :: as')
  | left {a : α} {as as' : List α} :
      Quiet a → Aligned Same Quiet as as' → Aligned Same Quiet (a :: as) as'
  | right {a : α} {as as' : List α} :
      Quiet a → Aligned Same Quiet as as' → Aligned Same Quiet as (a :: as')

/-- The outputs of the inputs that are watched. -/
def observed (watch : α → Bool) : σ → List α → List ω
  | _, [] => []
  | s, a :: as =>
    if watch a then m.output s a :: observed watch (m.next s a) as
    else observed watch (m.next s a) as

/-- A symmetric relation that matching inputs keep together and quiet inputs keep alone holds
after aligned runs, and what is watched shows no difference between them. -/
theorem aligned_runs (watch : α → Bool) {Rel : σ → σ → Prop} {Same : α → α → Prop}
    {Quiet P : α → Prop} (hsymm : ∀ s s', Rel s s' → Rel s' s)
    (hboth : ∀ s s' a a', Rel s s' → P a → P a' → Same a a' →
      Rel (m.next s a) (m.next s' a') ∧ watch a' = watch a ∧
        (watch a = true → m.output s' a' = m.output s a))
    (hquiet : ∀ s s' a, Rel s s' → P a → Quiet a → Rel (m.next s a) s' ∧ watch a = false)
    {as as' : List α} (h : Aligned Same Quiet as as') (hP : ∀ a ∈ as, P a) (hP' : ∀ a ∈ as', P a)
    {s s' : σ} (hs : Rel s s') :
    Rel (m.run s as) (m.run s' as') ∧ m.observed watch s' as' = m.observed watch s as := by
  induction h generalizing s s' with
  | nil => exact ⟨hs, rfl⟩
  | @both a a' as as' hsame _ ih =>
    rw [List.forall_mem_cons] at hP hP'
    obtain ⟨hnext, hwatch, houtput⟩ := hboth s s' a a' hs hP.1 hP'.1 hsame
    obtain ⟨hrun, hobserved⟩ := ih hP.2 hP'.2 hnext
    refine ⟨hrun, ?_⟩
    unfold observed
    rw [hwatch, hobserved]
    split
    · rename_i hwatched
      rw [houtput hwatched]
    · rfl
  | @left a as as' hskip _ ih =>
    rw [List.forall_mem_cons] at hP
    obtain ⟨hnext, hwatch⟩ := hquiet s s' a hs hP.1 hskip
    obtain ⟨hrun, hobserved⟩ := ih hP.2 hP' hnext
    refine ⟨hrun, ?_⟩
    rw [hobserved, observed.eq_2, hwatch]
    rfl
  | @right a as as' hskip _ ih =>
    rw [List.forall_mem_cons] at hP'
    obtain ⟨hnext, hwatch⟩ := hquiet s' s a (hsymm s s' hs) hP'.1 hskip
    obtain ⟨hrun, hobserved⟩ := ih hP hP'.2 (hsymm _ _ hnext)
    refine ⟨hrun, ?_⟩
    rw [← hobserved, observed.eq_2, hwatch]
    rfl

end TwoRuns

end Machine
