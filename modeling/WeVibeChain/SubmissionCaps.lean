import WeVibeChain.MemoryEpochs
import WeVibeChain.OverrideAuthority

/-!
# How many memories an org submits between two ends of the epoch

The quota of an org has a cap for memories. The handler of a submission does not
ask for it: what it bounds is the number of commitments that wait for approval,
and an approval makes room for the next one. The submissions of an interval are
within the cap if the room for waiting commitments and the approvals are.
-/

set_option autoImplicit false

namespace WeVibeChain.Memory

open Bytes

section Waiting

/-- A queue since it was first looked at: what was let in waits or was taken out, and nothing was
let in beyond the limit. -/
structure Queued (limit waiting₀ submitted waiting taken : Nat) : Prop where
  balance : waiting₀ + submitted = waiting + taken
  bounded : waiting ≤ waiting₀ ∨ waiting ≤ limit

variable {limit waiting₀ submitted waiting taken : Nat}

theorem Queued.start (limit waiting₀ : Nat) : Queued limit waiting₀ 0 waiting₀ 0 :=
  ⟨rfl, Or.inl (Nat.le_refl _)⟩

theorem Queued.submit (h : Queued limit waiting₀ submitted waiting taken)
    (hroom : waiting < limit) : Queued limit waiting₀ (submitted + 1) (waiting + 1) taken := by
  obtain ⟨hbalance, -⟩ := h
  exact ⟨by omega, Or.inr hroom⟩

theorem Queued.take {waiting' : Nat} (h : Queued limit waiting₀ submitted waiting taken)
    (htaken : waiting' + 1 = waiting) : Queued limit waiting₀ submitted waiting' (taken + 1) := by
  obtain ⟨hbalance, hbounded⟩ := h
  exact ⟨by omega, by omega⟩

theorem Queued.submitted_le (h : Queued limit waiting₀ submitted waiting taken) :
    submitted ≤ limit - waiting₀ + taken := by
  obtain ⟨hbalance, hbounded⟩ := h
  omega

end Waiting

section Pending
variable {s : Store} {orgID orgID' contentHash : Bytes}

/-- The key is one of the org's pending commitments. -/
def PendingKeyOf (orgID key : Bytes) : Prop :=
  pendingPrefix orgID <+: key ∧ slash ∉ key.drop (pendingPrefix orgID).length

instance (orgID key : Bytes) : Decidable (PendingKeyOf orgID key) :=
  inferInstanceAs (Decidable (_ ∧ _))

/-- How many commitments of the org wait for approval. -/
def pendingOf (s : Store) (orgID : Bytes) : Nat :=
  s.pending.keys.countP fun key => PendingKeyOf orgID key

theorem pendingKeyOf_pendingKey :
    PendingKeyOf orgID (pendingKey orgID' contentHash) ↔ orgID' = orgID := by
  constructor
  · rintro ⟨⟨rest, hkey⟩, hrest⟩
    rw [← hkey, List.drop_left] at hrest
    rw [pendingPrefix, pendingKey, List.append_assoc, List.singleton_append,
      append_cons_inj_of_notMem hrest (slash_notMem_hexEncode contentHash)] at hkey
    exact (List.append_cancel_left hkey.1).symm
  · rintro rfl
    have hkey : pendingKey orgID' contentHash =
        pendingPrefix orgID' ++ hexEncode contentHash := by
      rw [pendingPrefix, List.append_assoc, List.singleton_append, pendingKey]
    rw [PendingKeyOf, hkey, List.drop_left]
    exact ⟨List.prefix_append _ _, slash_notMem_hexEncode contentHash⟩

/-- The count that is compared with the limit is at least the org's own. -/
theorem pendingOf_le_pendingCount (s : Store) (orgID : Bytes) :
    pendingOf s orgID ≤ pendingCount s orgID := by
  unfold pendingOf pendingCount Store.iteratorFrom
  have hown : (s.pending.keys.countP fun key => PendingKeyOf orgID key) ≤
      (s.pending.entries.map fun e => (e.1, Entry.pending e.2)).countP
        fun e => pendingPrefix orgID ≤ e.1 := by
    rw [OrderedMap.keys, List.countP_map, List.countP_map]
    refine List.countP_mono_left fun e _ hkey => ?_
    obtain ⟨⟨rest, hrest⟩, -⟩ := of_decide_eq_true hkey
    refine decide_eq_true ?_
    change pendingPrefix orgID ≤ e.1
    rw [← hrest]
    exact le_append _ _
  rw [← List.countP_eq_length_filter]
  refine hown.trans ?_
  unfold Store.entries
  simp only [List.countP_append]
  omega

theorem pendingOf_submit (h : s.pending.get (pendingKey orgID' contentHash) = none)
    (stored : StoredPendingCommitment) :
    pendingOf { s with pending := s.pending.set (pendingKey orgID' contentHash) stored } orgID =
      pendingOf s orgID + if orgID' = orgID then 1 else 0 := by
  unfold pendingOf
  rw [OrderedMap.countP_keys_set h]
  simp only [pendingKeyOf_pendingKey, decide_eq_true_eq]

theorem pendingOf_approve {a : Approval} {pending : PendingCommitment}
    (h : getPendingCommitment s a.orgID a.contentHash = .ok pending) :
    pendingOf (approvedStore s a pending) orgID + (if a.orgID = orgID then 1 else 0) =
      pendingOf s orgID := by
  have hdelete := OrderedMap.countP_keys_delete (getPendingCommitment_ok h)
    fun key => PendingKeyOf orgID key
  simp only [pendingKeyOf_pendingKey, decide_eq_true_eq] at hdelete
  exact hdelete

end Pending

/-- Whether the message submits a memory of the org. -/
def Msg.submitsFor (orgID : Bytes) : Msg → Bool
  | .submitCommitment msg => msg.orgId = orgID
  | _ => false

/-- Whether the message approves a memory of the org. -/
def Msg.approvesFor (orgID : Bytes) : Msg → Bool
  | .approveMemory msg => msg.orgId = orgID
  | _ => false

section Messages
variable {crypto : Crypto} {authority orgID : Bytes} {st st' : State} {msg : Msg}

/-- An accepted message lets one commitment of the org in if there is room, or takes one out, or
does neither. -/
theorem Queued.handle {limit waiting₀ submitted taken : Nat}
    (h : Queued limit waiting₀ submitted (pendingOf st.store orgID) taken)
    (hlimit : (getParams st.store).maxPendingPerOrg.toNat ≤ limit)
    (hok : Memory.handle crypto authority st msg = .ok st') :
    Queued limit waiting₀ (submitted + if msg.submitsFor orgID then 1 else 0)
      (pendingOf st'.store orgID) (taken + if msg.approvesFor orgID then 1 else 0) := by
  have hstored := handle_stored hok
  generalize hstore : st'.store = s' at hstored ⊢
  cases hstored with
  | submit m hbasic hfresh =>
    rw [pendingOf_submit hfresh]
    obtain ⟨-, -, hsubmit⟩ := submitCommitmentMsg_ok hok
    obtain ⟨-, -, hroom, -⟩ := submitCommitment_eq hsubmit
    by_cases horg : m.orgId = orgID
    · subst horg
      have hown := pendingOf_le_pendingCount st.store m.orgId
      change pendingCount st.store m.orgId < _ at hroom
      simpa [Msg.submitsFor, Msg.approvesFor] using h.submit (by omega)
    · simpa [Msg.submitsFor, Msg.approvesFor, horg] using h
  | approve m pending hbasic hfound hverified hfresh =>
    have hpending : pendingOf (approvedStore st.store (m.approval crypto) pending) orgID +
        (if m.orgId = orgID then 1 else 0) = pendingOf st.store orgID := pendingOf_approve hfound
    by_cases horg : m.orgId = orgID
    · rw [if_pos horg] at hpending
      simpa [Msg.submitsFor, Msg.approvesFor, horg] using h.take hpending
    · rw [if_neg horg, Nat.add_zero] at hpending
      rw [hpending]
      simpa [Msg.submitsFor, Msg.approvesFor, horg] using h
  | report m hbasic hfresh => exact h
  | params m => exact h

end Messages

end WeVibeChain.Memory

namespace WeVibeChain.Application

open Bytes

section Counting
variable {β γ : Type} {env : Env β γ} {st : State β γ}

/-- Whether a message of x/memory of the kind has been accepted. -/
def accepts (kind : Memory.Msg → Bool) : Option (Msg × Except Error Response) → Bool
  | some (.memory msg, .ok _) => kind msg
  | _ => false

def accepted (kind : Memory.Msg → Bool) (log : List (Option (Msg × Except Error Response))) : Nat :=
  log.countP (accepts kind)

theorem accepted_snoc (kind : Memory.Msg → Bool)
    (log : List (Option (Msg × Except Error Response)))
    (output : Option (Msg × Except Error Response)) :
    accepted kind (log ++ [output]) =
      accepted kind log + if accepts kind output then 1 else 0 := by
  rw [accepted, List.countP_append, List.countP_singleton]
  rfl

/-- Whether the input is a well-formed submission of a memory of the org that the wallet of its
leader signs. -/
def submitsFor (orgID : Bytes) (st : State β γ) : Input β γ → Bool
  | .msg (.memory (.submitCommitment m)) => m.orgId = orgID ∧ m.validateBasic.isOk ∧
      (Memory.requireLeaderWallet st.org m.orgId m.signer).isOk
  | _ => false

/-- How many such submissions there are in a run. -/
def sent (env : Env β γ) (st : State β γ) (inputs : List (Input β γ)) (orgID : Bytes) : Nat :=
  (((chain env).withOutput (submitsFor orgID)).history st inputs).countP id

theorem submitsFor_of_accepts {orgID : Bytes} {input : Input β γ}
    (h : accepts (Memory.Msg.submitsFor orgID) ((chain env).output st input) = true) :
    submitsFor orgID st input = true := by
  cases input with
  | epochEnd n => cases h
  | others bandwidth reputation bank feegrant => cases h
  | msg msg =>
    change accepts _ (some (msg, (deliver env st msg).2)) = true at h
    rcases deliver_cases env st msg with ⟨e, he⟩ | ⟨response, hdelivered, hok⟩
    · rw [he] at h
      cases msg <;> cases h
    rw [hdelivered] at h
    cases msg with
    | org msg => cases h
    | serve msg => cases h
    | bandwidth msg => cases h
    | memory msg =>
      obtain ⟨memory, hhandled, -⟩ := handle_memory_eq hok
      cases msg with
      | submitCommitment m =>
        obtain ⟨hbasic, hwallet, -⟩ := Memory.submitCommitmentMsg_ok hhandled
        have horg : m.orgId = orgID := of_decide_eq_true h
        refine decide_eq_true ⟨horg, ?_, ?_⟩
        · rw [hbasic]
          rfl
        · change (Memory.requireLeaderWallet st.memoryState.org _ _).isOk = true
          rw [hwallet]
          rfl
      | approveMemory m => cases h
      | reportMemory m => cases h
      | updateParams m => cases h

/-- No more submissions are accepted than the wallet of the leader sends. -/
theorem accepted_le_sent (env : Env β γ) (st : State β γ) (inputs : List (Input β γ))
    (orgID : Bytes) :
    accepted (Memory.Msg.submitsFor orgID) ((chain env).history st inputs) ≤
      sent env st inputs orgID := by
  induction inputs generalizing st with
  | nil => exact Nat.le_refl 0
  | cons input inputs ih =>
    have hrest := ih ((chain env).next st input)
    rw [sent, Machine.history_cons, Machine.history_cons, accepted, List.countP_cons,
      List.countP_cons]
    unfold accepted sent at hrest
    by_cases haccepts : accepts (Memory.Msg.submitsFor orgID) ((chain env).output st input) = true
    · rw [if_pos haccepts]
      have hsubmits := submitsFor_of_accepts haccepts
      rw [Machine.output_withOutput, id, if_pos hsubmits]
      exact Nat.succ_le_succ hrest
    · rw [if_neg haccepts]
      exact hrest.trans (Nat.le_add_right _ _)

end Counting

section Intervals
variable {β γ : Type} {env : Env β γ} {st : State β γ} {orgID : Bytes}

/-- The input is not an end of the epoch, and the org's override and the parameters of x/bandwidth
stay as they are. -/
def CapKept (env : Env β γ) (orgID : Bytes) (st : State β γ) : Input β γ → Prop
  | .epochEnd _ => False
  | input =>
    ((chain env).next st input).bandwidth.override.get (Bandwidth.overrideKey orgID) =
        st.bandwidth.override.get (Bandwidth.overrideKey orgID) ∧
      Bandwidth.getParams ((chain env).next st input).bandwidth =
        Bandwidth.getParams st.bandwidth

theorem CapKept.currentCaps {input : Input β γ} (h : CapKept env orgID st input) :
    Bandwidth.currentCaps ((chain env).next st input).bandwidth orgID =
      Bandwidth.currentCaps st.bandwidth orgID := by
  have hkept : ((chain env).next st input).bandwidth.override.get (Bandwidth.overrideKey orgID) =
        st.bandwidth.override.get (Bandwidth.overrideKey orgID) ∧
      Bandwidth.getParams ((chain env).next st input).bandwidth =
        Bandwidth.getParams st.bandwidth := by
    cases input with
    | epochEnd n => cases h
    | msg msg => exact h
    | others bandwidth reputation bank feegrant => exact h
  unfold Bandwidth.currentCaps
  rw [hkept.1, hkept.2]

variable (env st orgID) in
/-- Messages of x/memory do not touch the quotas. -/
theorem capKept_memory (msg : Memory.Msg) : CapKept env orgID st (.msg (.memory msg)) := by
  have hsame : (deliver env st (.memory msg)).1.bandwidth = st.bandwidth := by
    rcases deliver_cases env st (.memory msg) with ⟨e, he⟩ | ⟨response, -, hok⟩
    · rw [he]
    · obtain ⟨memory, -, hstate⟩ := handle_memory_eq hok
      rw [hstate]
  change (deliver env st (.memory msg)).1.bandwidth.override.get _ = _ ∧
    Bandwidth.getParams (deliver env st (.memory msg)).1.bandwidth = _
  rw [hsame]
  exact ⟨rfl, rfl⟩

/-- The limit for waiting commitments is at most this. -/
def PendingLimit (limit : Nat) (st : State β γ) (_ : Input β γ) : Prop :=
  (Memory.getParams st.memory).maxPendingPerOrg.toNat ≤ limit

theorem queued_next {limit waiting₀ : Nat} (env : Env β γ) (orgID : Bytes) (st : State β γ)
    (log : List (Option (Msg × Except Error Response))) (input : Input β γ)
    (h : Memory.Queued limit waiting₀ (accepted (Memory.Msg.submitsFor orgID) log)
      (Memory.pendingOf st.memory orgID) (accepted (Memory.Msg.approvesFor orgID) log))
    (hlimit : PendingLimit limit st input) :
    Memory.Queued limit waiting₀
      (accepted (Memory.Msg.submitsFor orgID) (log ++ [(chain env).output st input]))
      (Memory.pendingOf ((chain env).next st input).memory orgID)
      (accepted (Memory.Msg.approvesFor orgID) (log ++ [(chain env).output st input])) := by
  rw [accepted_snoc, accepted_snoc]
  cases input with
  | others bandwidth reputation bank feegrant => exact h
  | epochEnd n =>
    have hpending := Memory.pending_afterEpochEnd env.crypto.sha256 env.foreign st.memory n
    unfold Memory.pendingOf at h ⊢
    rw [← hpending] at h
    exact h
  | msg msg =>
    change Memory.Queued limit waiting₀
      (_ + if accepts _ (some (msg, (deliver env st msg).2)) then 1 else 0)
      (Memory.pendingOf (deliver env st msg).1.memory orgID)
      (_ + if accepts _ (some (msg, (deliver env st msg).2)) then 1 else 0)
    rcases deliver_cases env st msg with ⟨e, he⟩ | ⟨response, hdelivered, hok⟩
    · rw [he]
      cases msg <;> exact h
    rw [hdelivered]
    generalize (deliver env st msg).1 = st' at hok ⊢
    cases msg with
    | memory msg =>
      obtain ⟨memory, hhandled, rfl⟩ := handle_memory_eq hok
      have hqueued : Memory.Queued limit waiting₀ _ (Memory.pendingOf st.memoryState.store orgID)
        _ := h
      exact hqueued.handle hlimit hhandled
    | org msg =>
      obtain ⟨-, -, -, hmemory, -⟩ := handle_org hok
      rw [hmemory]
      exact h
    | serve msg =>
      obtain ⟨-, -, -, -, -, hmemory⟩ := handle_serve hok
      rw [hmemory]
      exact h
    | bandwidth msg =>
      obtain ⟨bandwidth, rfl⟩ := handle_bandwidth hok
      exact h

/-- What an org has submitted in a run is bounded by the room for waiting commitments and by its
approvals. -/
theorem submissions_le {limit : Nat} (env : Env β γ) (st : State β γ) (inputs : List (Input β γ))
    (orgID : Bytes) (hlimit : (chain env).Along (PendingLimit limit) st inputs) :
    accepted (Memory.Msg.submitsFor orgID) ((chain env).history st inputs) ≤
      limit - Memory.pendingOf st.memory orgID +
        accepted (Memory.Msg.approvesFor orgID) ((chain env).history st inputs) := by
  have hstart : Memory.Queued limit (Memory.pendingOf st.memory orgID)
      (accepted (Memory.Msg.submitsFor orgID) []) (Memory.pendingOf st.memory orgID)
      (accepted (Memory.Msg.approvesFor orgID) []) := .start _ _
  have hqueued := (chain env).run_history_invariant
    (I := fun t log => Memory.Queued limit (Memory.pendingOf st.memory orgID)
      (accepted (Memory.Msg.submitsFor orgID) log) (Memory.pendingOf t.memory orgID)
      (accepted (Memory.Msg.approvesFor orgID) log)) (queued_next env orgID) hstart hlimit
  exact hqueued.submitted_le

theorem currentCaps_run (env : Env β γ) (st : State β γ) (inputs : List (Input β γ))
    (orgID : Bytes) (hinterval : (chain env).Along (CapKept env orgID) st inputs) :
    Bandwidth.currentCaps ((chain env).run st inputs).bandwidth orgID =
      Bandwidth.currentCaps st.bandwidth orgID :=
  (chain env).run_invariant
    (I := fun t => Bandwidth.currentCaps t.bandwidth orgID =
      Bandwidth.currentCaps st.bandwidth orgID)
    (fun _ _ h hkept => hkept.currentCaps.trans h) rfl hinterval

/-- Over an interval without an end of the epoch in which the override and the parameters of
x/bandwidth stay as they are, an org has at most its memory cap of submissions accepted if no more
are sent by the wallet of its leader, or if the room for waiting commitments and the approvals
together are within the cap. -/
theorem submissions_within_cap (env : Env β γ) (st : State β γ) (inputs : List (Input β γ))
    (orgID : Bytes) (hinterval : (chain env).Along (CapKept env orgID) st inputs)
    (hroom : sent env st inputs orgID ≤ (Bandwidth.currentCaps st.bandwidth orgID).1.toNat ∨
      ∃ limit, (chain env).Along (PendingLimit limit) st inputs ∧
        limit - Memory.pendingOf st.memory orgID +
            accepted (Memory.Msg.approvesFor orgID) ((chain env).history st inputs) ≤
          (Bandwidth.currentCaps st.bandwidth orgID).1.toNat) :
    accepted (Memory.Msg.submitsFor orgID) ((chain env).history st inputs) ≤
      (Bandwidth.currentCaps ((chain env).run st inputs).bandwidth orgID).1.toNat := by
  rw [currentCaps_run env st inputs orgID hinterval]
  rcases hroom with hsent | ⟨limit, hlimit, hwithin⟩
  · exact (accepted_le_sent env st inputs orgID).trans hsent
  · exact (submissions_le env st inputs orgID hlimit).trans hwithin

end Intervals

section SubmissionSample

open Orgs (formatOrgID sampleAddress sampleRegister)

/-- The leader of the first org sets its memory cap to one, and the epoch ends. -/
def sampleQuota : List (Input Unit (List (Bytes × Bytes))) :=
  [.msg (.org (.registerOrg sampleRegister)),
    .msg (.bandwidth { sampleOverride with signer := formatUint 0, memoryCap := 1 }),
    .epochEnd 1]

def sampleCapped : State Unit (List (Bytes × Bytes)) := (chain sampleEnv).run sampleStart sampleQuota

/-- The same where one commitment may wait. -/
def sampleNarrow : State Unit (List (Bytes × Bytes)) :=
  (chain sampleEnv).run sampleCapped
    [.msg (.memory (.updateParams
      ⟨ascii "gov", { Memory.defaultParams with maxPendingPerOrg := 1 }⟩))]

def sampleSubmission (contentHash : Bytes) : Memory.Msg :=
  .submitCommitment
    { signer := sampleAddress 0
      orgId := formatOrgID 0
      contentHash := contentHash
      contributorId := formatUint 0 }

/-- Two memories are submitted. -/
def sampleSubmissions : List (Input Unit (List (Bytes × Bytes))) :=
  [.msg (.memory (sampleSubmission EpochHooks.sampleHash)),
    .msg (.memory (sampleSubmission EpochHooks.emptyHash))]

theorem capKept_sampleSubmissions (st : State Unit (List (Bytes × Bytes))) :
    (chain sampleEnv).Along (CapKept sampleEnv (formatOrgID 0)) st sampleSubmissions :=
  ⟨capKept_memory _ _ _ _, capKept_memory _ _ _ _, trivial⟩

theorem sample_narrow :
    (Memory.getParams sampleNarrow.memory).maxPendingPerOrg = 1 ∧
    (Memory.getParams ((chain sampleEnv).next sampleNarrow
      (.msg (.memory (sampleSubmission EpochHooks.sampleHash)))).memory).maxPendingPerOrg = 1 ∧
    Memory.pendingOf sampleNarrow.memory (formatOrgID 0) = 0 ∧
    accepted (Memory.Msg.approvesFor (formatOrgID 0))
      ((chain sampleEnv).history sampleNarrow sampleSubmissions) = 0 ∧
    (Bandwidth.currentCaps sampleNarrow.bandwidth (formatOrgID 0)).1 = 1 ∧
    (Bandwidth.currentCaps ((chain sampleEnv).run sampleNarrow sampleSubmissions).bandwidth
      (formatOrgID 0)).1 = 1 := by
  decide +kernel

/-- With room for one the second submission has to wait for an approval. -/
theorem sample_submissions_within :
    accepted (Memory.Msg.submitsFor (formatOrgID 0))
      ((chain sampleEnv).history sampleNarrow sampleSubmissions) ≤ 1 := by
  obtain ⟨hfirst, hsecond, hpending, happrovals, hcap, hcapped⟩ := sample_narrow
  have hwithin := submissions_within_cap sampleEnv sampleNarrow sampleSubmissions (formatOrgID 0)
    (capKept_sampleSubmissions sampleNarrow) (Or.inr ⟨1, ⟨?_, ?_, trivial⟩, ?_⟩)
  · rw [hcapped] at hwithin
    exact hwithin
  · rw [PendingLimit, hfirst]
    exact Nat.le_refl 1
  · rw [PendingLimit, hsecond]
    exact Nat.le_refl 1
  · rw [hpending, happrovals, hcap]
    exact Nat.le_refl 1

/-- The cap is one throughout, and two submissions are accepted. -/
theorem memory_cap_exceeded :
    (chain sampleEnv).Along (CapKept sampleEnv (formatOrgID 0)) sampleCapped sampleSubmissions ∧
    (Bandwidth.currentCaps sampleCapped.bandwidth (formatOrgID 0)).1 = 1 ∧
    accepted (Memory.Msg.submitsFor (formatOrgID 0))
      ((chain sampleEnv).history sampleCapped sampleSubmissions) = 2 :=
  ⟨capKept_sampleSubmissions sampleCapped, by decide +kernel, by decide +kernel⟩

end SubmissionSample

end WeVibeChain.Application
