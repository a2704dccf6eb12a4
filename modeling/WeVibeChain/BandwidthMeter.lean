import WeVibeChain.BandwidthKeeper
import WeVibeChain.Shared.Machine
import WeVibeChain.Shared.Words

/-!
# x/bandwidth: what an org has used

Any sequence of calls of the keeper, from an empty store. A call that is refused
has already created the state it looked at, and so has a question; whether these
writes last is up to the caller.

The usage recorded for an org and an epoch number is the sum of the accepted
uses as long as no use is accepted because the sum in its comparison has wrapped.
-/

set_option autoImplicit false

namespace WeVibeChain.Bandwidth

open Bytes

section Calls

inductive Call where
  | consumeMemory (orgID : Bytes) (epoch : UInt64)
  | consumeServe (orgID : Bytes) (epoch count : UInt64)
  | setOverride (orgID : Bytes) (memoryCap serveCap : UInt64)
  | deleteOverride (orgID : Bytes)
  | updateParams (msg : MsgUpdateParams)
  | getRemaining (orgID : Bytes) (epoch : UInt64)
  deriving DecidableEq

inductive Answer where
  | done
  | remaining (memory serve : UInt64)
  deriving DecidableEq

/-- A call, and whether its caller drops what a refused call or a question has written. -/
structure Input where
  call : Call
  dropped : Bool
  deriving DecidableEq

variable (authority : Bytes)

/-- What the call leaves in the store, and its answer. -/
def perform (s : Store) : Call → Store × Except Error Answer
  | .consumeMemory orgID epoch =>
    match consumeMemoryBandwidth s orgID epoch with
    | .error e => ((getOrInitBandwidthState s orgID epoch).1, .error e)
    | .ok s' => (s', .ok .done)
  | .consumeServe orgID epoch count =>
    match consumeServeBandwidth s orgID epoch count with
    | .error e => ((getOrInitBandwidthState s orgID epoch).1, .error e)
    | .ok s' => (s', .ok .done)
  | .setOverride orgID memoryCap serveCap =>
    (setBandwidthOverride s orgID memoryCap serveCap, .ok .done)
  | .deleteOverride orgID => (deleteBandwidthOverride s orgID, .ok .done)
  | .updateParams msg =>
    match updateParamsMsg authority s msg with
    | .error e => (s, .error e)
    | .ok s' => (s', .ok .done)
  | .getRemaining orgID epoch =>
    let (s', memory, serve) := getRemainingBandwidth s orgID epoch
    (s', .ok (.remaining memory serve))

/-- Every call is answered with itself and its result. -/
def meter : Machine Store Input (Call × Except Error Answer) where
  step s input :=
    let r := perform authority s input.call
    (if input.dropped ∧ r.2 ≠ .ok .done then s else r.1, input.call, r.2)

end Calls

section Consumption
variable (orgID : Bytes) (epoch : UInt64)

/-- What an answered call has used of the memory quota of the org and epoch number. -/
def memoryConsumed : Call × Except Error Answer → Nat
  | (.consumeMemory o e, .ok .done) => if o = orgID ∧ e = epoch then 1 else 0
  | _ => 0

def serveConsumed : Call × Except Error Answer → Nat
  | (.consumeServe o e count, .ok .done) => if o = orgID ∧ e = epoch then count.toNat else 0
  | _ => 0

/-- The sums are of unbounded numbers. -/
def memoryTotal (log : List (Call × Except Error Answer)) : Nat :=
  (log.map (memoryConsumed orgID epoch)).sum

def serveTotal (log : List (Call × Except Error Answer)) : Nat :=
  (log.map (serveConsumed orgID epoch)).sum

variable {orgID epoch}

theorem memoryConsumed_eq_zero {event : Call × Except Error Answer} (h : event.2 ≠ .ok .done) :
    memoryConsumed orgID epoch event = 0 := by
  unfold memoryConsumed
  split
  · exact absurd rfl h
  · rfl

theorem serveConsumed_eq_zero {event : Call × Except Error Answer} (h : event.2 ≠ .ok .done) :
    serveConsumed orgID epoch event = 0 := by
  unfold serveConsumed
  split
  · exact absurd rfl h
  · rfl

theorem memoryTotal_concat (log : List (Call × Except Error Answer))
    (event : Call × Except Error Answer) :
    memoryTotal orgID epoch (log ++ [event]) =
      memoryTotal orgID epoch log + memoryConsumed orgID epoch event := by
  simp [memoryTotal]

theorem serveTotal_concat (log : List (Call × Except Error Answer))
    (event : Call × Except Error Answer) :
    serveTotal orgID epoch (log ++ [event]) =
      serveTotal orgID epoch log + serveConsumed orgID epoch event := by
  simp [serveTotal]

end Consumption

section Steps
variable (authority : Bytes) {s : Store} {input : Input} {orgID : Bytes} {epoch : UInt64}

/-- What a step can do to the record of the org and epoch number, with what it uses of the two
quotas. -/
inductive Recorded (s : Store) (call : Call) (orgID : Bytes) (epoch : UInt64) :
    Option BandwidthState → Nat → Nat → Prop where
  | same : Recorded s call orgID epoch (s.state.get (stateKey orgID epoch)) 0 0
  | created (absent : s.state.get (stateKey orgID epoch) = none) :
      Recorded s call orgID epoch (some (quota s orgID epoch)) 0 0
  | memory (below : (quota s orgID epoch).memoryUsed < (quota s orgID epoch).memoryCap) :
      Recorded s call orgID epoch
        (some { quota s orgID epoch with memoryUsed := (quota s orgID epoch).memoryUsed + 1 }) 1 0
  | serve (count : UInt64) (asked : call = .consumeServe orgID epoch count)
      (within : (quota s orgID epoch).serveUsed + count ≤ (quota s orgID epoch).serveCap) :
      Recorded s call orgID epoch
        (some { quota s orgID epoch with serveUsed := (quota s orgID epoch).serveUsed + count })
        0 count.toNat

theorem getOrInit_recorded (call : Call) (o : Bytes) (e : UInt64) :
    Recorded s call orgID epoch
      ((getOrInitBandwidthState s o e).1.state.get (stateKey orgID epoch)) 0 0 := by
  by_cases hkey : stateKey orgID epoch = stateKey o e
  · obtain ⟨rfl, rfl⟩ := stateKey_inj.mp hkey
    cases hget : s.state.get (stateKey orgID epoch) with
    | some state =>
      have hsame : (getOrInitBandwidthState s orgID epoch).1 = s := by
        unfold getOrInitBandwidthState
        rw [hget]
      rw [hsame]
      exact .same
    | none =>
      have hnew : (getOrInitBandwidthState s orgID epoch).1.state.get (stateKey orgID epoch) =
          some (quota s orgID epoch) := by
        unfold quota getOrInitBandwidthState
        rw [hget]
        exact OrderedMap.get_set_self _ _ _
      rw [hnew]
      exact .created hget
  · obtain ⟨state, hstate, hother⟩ := getOrInitBandwidthState_frame s o e
    rw [hstate]
    change Recorded s call orgID epoch (state.get (stateKey orgID epoch)) 0 0
    rw [hother _ hkey]
    exact .same

theorem perform_recorded (call : Call) :
    Recorded s call orgID epoch ((perform authority s call).1.state.get (stateKey orgID epoch))
      (memoryConsumed orgID epoch (call, (perform authority s call).2))
      (serveConsumed orgID epoch (call, (perform authority s call).2)) := by
  cases call with
  | consumeMemory o e =>
    unfold perform
    dsimp only
    split
    · exact getOrInit_recorded _ o e
    · rename_i s' hconsume
      obtain ⟨state, rfl, hself, hother⟩ := consumeMemoryBandwidth_ok hconsume
      by_cases hkey : stateKey orgID epoch = stateKey o e
      · obtain ⟨rfl, rfl⟩ := stateKey_inj.mp hkey
        simp only [memoryConsumed, serveConsumed, hself, and_self, if_true]
        exact .memory (consumeMemoryBandwidth_lt hconsume)
      · have hne : ¬ (o = orgID ∧ e = epoch) := by
          rintro ⟨rfl, rfl⟩
          exact hkey rfl
        simp only [memoryConsumed, serveConsumed, hother _ hkey, if_neg hne]
        exact .same
  | consumeServe o e count =>
    unfold perform
    dsimp only
    split
    · exact getOrInit_recorded _ o e
    · rename_i s' hconsume
      obtain ⟨hwithin, state, rfl, hself, hother⟩ := consumeServeBandwidth_ok hconsume
      by_cases hkey : stateKey orgID epoch = stateKey o e
      · obtain ⟨rfl, rfl⟩ := stateKey_inj.mp hkey
        simp only [memoryConsumed, serveConsumed, hself, and_self, if_true]
        exact .serve count rfl hwithin
      · have hne : ¬ (o = orgID ∧ e = epoch) := by
          rintro ⟨rfl, rfl⟩
          exact hkey rfl
        simp only [memoryConsumed, serveConsumed, hother _ hkey, if_neg hne]
        exact .same
  | setOverride o memoryCap serveCap => exact .same
  | deleteOverride o => exact .same
  | updateParams msg =>
    unfold perform
    dsimp only
    split
    · exact .same
    · rename_i s' hupdate
      obtain rfl := updateParamsMsg_ok hupdate
      exact .same
  | getRemaining o e => exact getOrInit_recorded _ o e

/-- A call whose writes are dropped has used nothing. -/
theorem step_recorded (s : Store) (input : Input) (orgID : Bytes) (epoch : UInt64) :
    ∃ after memory serve, Recorded s input.call orgID epoch after memory serve ∧
      ((meter authority).next s input).state.get (stateKey orgID epoch) = after ∧
      memoryConsumed orgID epoch ((meter authority).output s input) = memory ∧
      serveConsumed orgID epoch ((meter authority).output s input) = serve := by
  refine ⟨_, _, _, ?_, rfl, rfl, rfl⟩
  unfold meter Machine.next Machine.output
  dsimp only
  split
  · rename_i hdropped
    rw [memoryConsumed_eq_zero hdropped.2, serveConsumed_eq_zero hdropped.2]
    exact .same
  · exact perform_recorded authority input.call

variable {authority}

theorem quota_of_absent (h : s.state.get (stateKey orgID epoch) = none) :
    quota s orgID epoch =
      newBandwidthState orgID epoch (currentCaps s orgID).1 (currentCaps s orgID).2 := by
  unfold quota getOrInitBandwidthState
  rw [h]

theorem step_caps_kept {state : BandwidthState}
    (h : s.state.get (stateKey orgID epoch) = some state) :
    ∃ state', ((meter authority).next s input).state.get (stateKey orgID epoch) = some state' ∧
      state'.memoryCap = state.memoryCap ∧ state'.serveCap = state.serveCap := by
  have hquota := quota_of_state h
  obtain ⟨after, memory, serve, hstep, hafter, -, -⟩ :=
    step_recorded authority s input orgID epoch
  rw [hafter]
  cases hstep with
  | same => exact ⟨state, h, rfl, rfl⟩
  | created absent =>
    rw [absent] at h
    cases h
  | memory below => exact ⟨_, rfl, by rw [hquota], by rw [hquota]⟩
  | serve count asked within => exact ⟨_, rfl, by rw [hquota], by rw [hquota]⟩

theorem step_caps_created {state : BandwidthState}
    (habsent : s.state.get (stateKey orgID epoch) = none)
    (h : ((meter authority).next s input).state.get (stateKey orgID epoch) = some state) :
    (state.memoryCap, state.serveCap) = currentCaps s orgID := by
  have hquota := quota_of_absent habsent
  obtain ⟨after, memory, serve, hstep, hafter, -, -⟩ :=
    step_recorded authority s input orgID epoch
  rw [h] at hafter
  cases hstep with
  | same =>
    rw [habsent] at hafter
    cases hafter
  | created absent =>
    rw [Option.some.inj hafter, hquota]
    rfl
  | memory below =>
    rw [Option.some.inj hafter, hquota]
    rfl
  | serve count asked within =>
    rw [Option.some.inj hafter, hquota]
    rfl

end Steps

section Meter
variable {authority : Bytes} {s s' : Store} {input : Input} {orgID : Bytes} {epoch : UInt64}
  {m n : Nat}

/-- The usage of a record is what has been used, and within the caps. -/
structure Metered (state : BandwidthState) (memory serve : Nat) : Prop where
  memory : state.memoryUsed.toNat = memory
  serve : state.serveUsed.toNat = serve
  memoryCap : state.memoryUsed ≤ state.memoryCap
  serveCap : state.serveUsed ≤ state.serveCap

/-- A use of the serve quota is not accepted because its sum has wrapped: it does not wrap, or what
is left of it exceeds the cap all the same. -/
def NoWrap (s : Store) (input : Input) : Prop :=
  match input.call with
  | .consumeServe orgID epoch count =>
    (quota s orgID epoch).serveUsed.toNat + count.toNat < 2 ^ 64 ∨
      2 ^ 64 + (quota s orgID epoch).serveCap.toNat <
        (quota s orgID epoch).serveUsed.toNat + count.toNat
  | _ => True

theorem metered_quota_same
    (hsame : s'.state.get (stateKey orgID epoch) = s.state.get (stateKey orgID epoch))
    (h : Metered (quota s orgID epoch) m n) : Metered (quota s' orgID epoch) m n := by
  cases hget : s.state.get (stateKey orgID epoch) with
  | some state =>
    rw [hget] at hsame
    rw [quota_of_state hget] at h
    rwa [quota_of_state hsame]
  | none =>
    -- the caps may have changed, but nothing has been used
    rw [hget] at hsame
    rw [quota_of_absent hget] at h
    rw [quota_of_absent hsame, ← h.memory, ← h.serve]
    exact ⟨rfl, rfl, UInt64.zero_le, UInt64.zero_le⟩

theorem metered_next (hinput : NoWrap s input) (h : Metered (quota s orgID epoch) m n) :
    Metered (quota ((meter authority).next s input) orgID epoch)
      (m + memoryConsumed orgID epoch ((meter authority).output s input))
      (n + serveConsumed orgID epoch ((meter authority).output s input)) := by
  obtain ⟨after, memory, serve, hstep, hafter, hmemory, hserve⟩ :=
    step_recorded authority s input orgID epoch
  rw [hmemory, hserve]
  cases hstep with
  | same => exact metered_quota_same hafter h
  | created absent => rwa [quota_of_state hafter]
  | memory below =>
    rw [quota_of_state hafter]
    have hcap := (quota s orgID epoch).memoryCap.toNat_lt
    have hlt := UInt64.lt_iff_toNat_lt.mp below
    refine ⟨?_, h.serve, Words.add_one_le_of_lt below, h.serveCap⟩
    change ((quota s orgID epoch).memoryUsed + 1).toNat = m + 1
    rw [← h.memory]
    exact Words.toNat_add_of_lt (show (quota s orgID epoch).memoryUsed.toNat + 1 < 2 ^ 64 by omega)
  | serve count asked within =>
    rw [quota_of_state hafter]
    refine ⟨h.memory, ?_, h.memoryCap, within⟩
    change ((quota s orgID epoch).serveUsed + count).toNat = n + count.toNat
    unfold NoWrap at hinput
    rw [asked] at hinput
    have hused := (quota s orgID epoch).serveUsed.toNat_lt
    have hcount := count.toNat_lt
    have hsum := UInt64.le_iff_toNat_le.mp within
    rw [UInt64.toNat_add] at hsum
    rw [← h.serve, UInt64.toNat_add]
    dsimp only at hinput
    omega

variable (authority) in
/-- A sum that wraps and is accepted takes the total out of the range of the counter. -/
theorem serveConsumed_wrapped (hinput : ¬ NoWrap s input) :
    ∃ orgID epoch, 2 ^ 64 ≤ (quota s orgID epoch).serveUsed.toNat +
      serveConsumed orgID epoch ((meter authority).output s input) := by
  obtain ⟨call, dropped⟩ := input
  cases call with
  | consumeServe orgID epoch count =>
    unfold NoWrap at hinput
    dsimp only at hinput
    rw [not_or, Nat.not_lt, Nat.not_lt] at hinput
    obtain ⟨hwraps, hwithin⟩ := hinput
    have hused := (quota s orgID epoch).serveUsed.toNat_lt
    have hcount := count.toNat_lt
    have haccepted : ¬ (quota s orgID epoch).serveUsed + count > (quota s orgID epoch).serveCap := by
      rw [gt_iff_lt, UInt64.lt_iff_toNat_lt, UInt64.toNat_add]
      omega
    have hanswer : (perform authority s (.consumeServe orgID epoch count)).2 = .ok .done := by
      unfold perform
      dsimp only
      split
      · rename_i e hrefused
        exact absurd (consumeServeBandwidth_eq_error_iff.mp hrefused).1 haccepted
      · rfl
    refine ⟨orgID, epoch, ?_⟩
    change 2 ^ 64 ≤ _ + serveConsumed orgID epoch (_, (perform authority s _).2)
    rw [hanswer]
    simpa [serveConsumed] using hwraps
  | _ => exact absurd trivial hinput

end Meter

section Runs
variable (authority : Bytes)

/-- The caps of an org and epoch number are those in force when its record is created, and never
change afterwards. -/
structure CapsFixed (inputs : List Input) : Prop where
  atFirstUse : ∀ before input after, inputs = before ++ input :: after →
    ∀ orgID epoch state,
      ((meter authority).run {} before).state.get (stateKey orgID epoch) = none →
      ((meter authority).run {} (before ++ [input])).state.get (stateKey orgID epoch) =
        some state →
      (state.memoryCap, state.serveCap) = currentCaps ((meter authority).run {} before) orgID
  afterwards : ∀ before after, inputs = before ++ after →
    ∀ orgID epoch state,
      ((meter authority).run {} before).state.get (stateKey orgID epoch) = some state →
      ∃ state', ((meter authority).run {} inputs).state.get (stateKey orgID epoch) = some state' ∧
        state'.memoryCap = state.memoryCap ∧ state'.serveCap = state.serveCap

theorem capsFixed (inputs : List Input) : CapsFixed authority inputs where
  atFirstUse := by
    intro before input after _ orgID epoch state habsent hcreated
    rw [Machine.run_append] at hcreated
    exact step_caps_created habsent hcreated
  afterwards := by
    rintro before after rfl orgID epoch state hstate
    rw [Machine.run_append]
    refine (meter authority).run_always (I := fun t => ∃ state',
      t.state.get (stateKey orgID epoch) = some state' ∧
        state'.memoryCap = state.memoryCap ∧ state'.serveCap = state.serveCap) ?_
      ⟨state, hstate, rfl, rfl⟩ after
    rintro t input ⟨state', hstate', hmemory, hserve⟩
    obtain ⟨state'', hstate'', hmemory', hserve'⟩ := step_caps_kept hstate'
    exact ⟨state'', hstate'', hmemory'.trans hmemory, hserve'.trans hserve⟩

/-- The accepted uses of an org and epoch number add up to its recorded usage and stay within its
caps, and the remaining quota is the cap less the usage, as numbers. -/
structure Accounted (inputs : List Input) (orgID : Bytes) (epoch : UInt64) : Prop where
  memory : memoryTotal orgID epoch ((meter authority).history {} inputs) =
    (quota ((meter authority).run {} inputs) orgID epoch).memoryUsed.toNat
  serve : serveTotal orgID epoch ((meter authority).history {} inputs) =
    (quota ((meter authority).run {} inputs) orgID epoch).serveUsed.toNat
  memoryCap : memoryTotal orgID epoch ((meter authority).history {} inputs) ≤
    (quota ((meter authority).run {} inputs) orgID epoch).memoryCap.toNat
  serveCap : serveTotal orgID epoch ((meter authority).history {} inputs) ≤
    (quota ((meter authority).run {} inputs) orgID epoch).serveCap.toNat
  remaining : ∃ memory serve,
    (getRemainingBandwidth ((meter authority).run {} inputs) orgID epoch).2 = (memory, serve) ∧
      memory.toNat + memoryTotal orgID epoch ((meter authority).history {} inputs) =
        (quota ((meter authority).run {} inputs) orgID epoch).memoryCap.toNat ∧
      serve.toNat + serveTotal orgID epoch ((meter authority).history {} inputs) =
        (quota ((meter authority).run {} inputs) orgID epoch).serveCap.toNat

variable {authority}

theorem metered_run {inputs : List Input} (h : (meter authority).Along NoWrap {} inputs)
    (orgID : Bytes) (epoch : UInt64) :
    Metered (quota ((meter authority).run {} inputs) orgID epoch)
      (memoryTotal orgID epoch ((meter authority).history {} inputs))
      (serveTotal orgID epoch ((meter authority).history {} inputs)) := by
  have hstart : Metered (quota {} orgID epoch) (memoryTotal orgID epoch [])
      (serveTotal orgID epoch []) :=
    ⟨rfl, rfl, UInt64.zero_le, UInt64.zero_le⟩
  refine (meter authority).run_history_invariant (I := fun t log =>
    Metered (quota t orgID epoch) (memoryTotal orgID epoch log) (serveTotal orgID epoch log))
    ?_ hstart h
  intro t log input ht hinput
  rw [memoryTotal_concat, serveTotal_concat]
  exact metered_next hinput ht

/-- Once a sum has wrapped, the total is out of the range of the counter for good. -/
theorem serveTotal_wrapped {inputs : List Input} (h : ¬ (meter authority).Along NoWrap {} inputs) :
    ∃ orgID epoch, 2 ^ 64 ≤ serveTotal orgID epoch ((meter authority).history {} inputs) := by
  have hstart : ∀ orgID epoch, Metered (quota {} orgID epoch) (memoryTotal orgID epoch [])
      (serveTotal orgID epoch []) :=
    fun _ _ => ⟨rfl, rfl, UInt64.zero_le, UInt64.zero_le⟩
  refine (meter authority).run_history_lost
    (I := fun t log => ∀ orgID epoch, Metered (quota t orgID epoch) (memoryTotal orgID epoch log)
      (serveTotal orgID epoch log))
    (J := fun _ log => ∃ orgID epoch, 2 ^ 64 ≤ serveTotal orgID epoch log) ?_ ?_ ?_ hstart h
  · intro t log input ht hinput orgID epoch
    rw [memoryTotal_concat, serveTotal_concat]
    exact metered_next hinput (ht orgID epoch)
  · intro t log input ht hinput
    obtain ⟨orgID, epoch, hwraps⟩ := serveConsumed_wrapped authority hinput
    rw [(ht orgID epoch).serve] at hwraps
    refine ⟨orgID, epoch, ?_⟩
    rwa [serveTotal_concat]
  · rintro t log input ⟨orgID, epoch, hlarge⟩
    refine ⟨orgID, epoch, ?_⟩
    rw [serveTotal_concat]
    exact hlarge.trans (Nat.le_add_right _ _)

theorem Metered.accounted {inputs : List Input} {orgID : Bytes} {epoch : UInt64}
    (h : Metered (quota ((meter authority).run {} inputs) orgID epoch)
      (memoryTotal orgID epoch ((meter authority).history {} inputs))
      (serveTotal orgID epoch ((meter authority).history {} inputs))) :
    Accounted authority inputs orgID epoch := by
  have hmemory := UInt64.le_iff_toNat_le.mp h.memoryCap
  have hserve := UInt64.le_iff_toNat_le.mp h.serveCap
  refine ⟨h.memory.symm, h.serve.symm, ?_, ?_, _, _, getRemainingBandwidth_eq _ _ _, ?_, ?_⟩
  · rwa [← h.memory]
  · rwa [← h.serve]
  · rw [← h.memory, Words.toNat_sub_of_toNat_le hmemory]
    exact Nat.sub_add_cancel hmemory
  · rw [← h.serve, Words.toNat_sub_of_toNat_le hserve]
    exact Nat.sub_add_cancel hserve

variable (authority)

theorem accounted_iff_noWrap (inputs : List Input) :
    (CapsFixed authority inputs ∧ ∀ orgID epoch, Accounted authority inputs orgID epoch) ↔
      (meter authority).Along NoWrap {} inputs := by
  constructor
  · rintro ⟨-, haccounted⟩
    by_contra hwrapped
    obtain ⟨orgID, epoch, hlarge⟩ := serveTotal_wrapped hwrapped
    have hused := (quota ((meter authority).run {} inputs) orgID epoch).serveUsed.toNat_lt
    rw [(haccounted orgID epoch).serve] at hlarge
    omega
  · intro h
    exact ⟨capsFixed authority inputs, fun orgID epoch => (metered_run h orgID epoch).accounted⟩

end Runs

section Sample

/-- One serve, and then a count that takes the usage back to zero. -/
def sampleWrap : List Input :=
  [⟨.consumeServe (ascii "org") 0 1, false⟩, ⟨.consumeServe (ascii "org") 0 (2 ^ 64 - 1), false⟩]

theorem sampleWrap_unaccounted :
    ((meter (ascii "gov")).history {} sampleWrap).map Prod.snd = [.ok .done, .ok .done] ∧
      serveTotal (ascii "org") 0 ((meter (ascii "gov")).history {} sampleWrap) = 2 ^ 64 ∧
      (quota ((meter (ascii "gov")).run {} sampleWrap) (ascii "org") 0).serveUsed = 0 ∧
      (quota ((meter (ascii "gov")).run {} sampleWrap) (ascii "org") 0).serveCap = 50000 ∧
      ¬ Accounted (ascii "gov") sampleWrap (ascii "org") 0 := by
  have hsample :
      ((meter (ascii "gov")).history {} sampleWrap).map Prod.snd = [.ok .done, .ok .done] ∧
        serveTotal (ascii "org") 0 ((meter (ascii "gov")).history {} sampleWrap) = 2 ^ 64 ∧
        (quota ((meter (ascii "gov")).run {} sampleWrap) (ascii "org") 0).serveUsed = 0 ∧
        (quota ((meter (ascii "gov")).run {} sampleWrap) (ascii "org") 0).serveCap = 50000 := by
    decide +kernel
  obtain ⟨hanswers, htotal, hused, hcap⟩ := hsample
  refine ⟨hanswers, htotal, hused, hcap, ?_⟩
  intro h
  have hserve := h.serve
  rw [htotal, hused] at hserve
  cases hserve

end Sample

end WeVibeChain.Bandwidth
