import WeVibeChain.Authority
import WeVibeChain.EpochHooks
import WeVibeChain.OrgLeaders

/-!
# What a closed org still takes

Closing an org is final: nothing changes its status afterwards. Only four of the
handlers look at the status, though. The rest keep on working for a closed org,
for whoever has the authority to sign for it.
-/

set_option autoImplicit false

namespace WeVibeChain.Orgs

open Bytes

section Closed
variable {s s' : Store} {orgID : Bytes}

def Closed (s : Store) (orgID : Bytes) : Prop :=
  ∃ record, s.org.get (orgKey orgID) = some record ∧ OrgStatus.ofCode record.status = .closed

theorem Change.status {v v' : View} (h : Change v v') :
    v'.record.status = v.record.status ∨ v'.record.status = OrgStatus.closed.code := by
  cases h with
  | counters => exact Or.inl rfl
  | message msg =>
    cases msg with
    | closeOrg msg => exact Or.inr rfl
    | setMemberCapabilities msg =>
      rw [apply_setMemberCapabilities_record]
      exact Or.inl rfl
    | _ => exact Or.inl rfl

theorem Evolution.closed (h : Evolution s s') (hs : Closed s orgID) : Closed s' orgID := by
  obtain ⟨record, hget, hclosed⟩ := hs
  cases h with
  | params params heq => exact ⟨record, heq ▸ hget, hclosed⟩
  | org other v v' confined _ _ before after change =>
    by_cases hother : orgID = other
    · subst hother
      obtain rfl := Option.some.inj (hget.symm.trans (get_of_view before).1)
      refine ⟨v'.record, (get_of_view after).1, ?_⟩
      rcases change.status with hsame | hset
      · rwa [hsame]
      · rw [hset]
        decide
    · exact ⟨record, (confined.org _ (by simpa using hother)).trans hget, hclosed⟩
  | registered org _ _ _ fresh heq =>
    subst heq
    refine ⟨record, ((registeredStore_confined s org).org _ ?_).trans hget, hclosed⟩
    intro hkey
    rw [hkey, fresh] at hget
    cases hget

theorem Closed.not_active (hs : Closed s orgID) {v : View} (hv : view s orgID = some v) :
    ¬ v.Active := by
  obtain ⟨record, hget, hclosed⟩ := hs
  obtain rfl := Option.some.inj (hget.symm.trans (get_of_view hv).1)
  intro hactive
  rw [View.Active, hclosed] at hactive
  cases hactive

end Closed

end WeVibeChain.Orgs

namespace WeVibeChain.Application

open Bytes

/-- The org that the message is for, if it is a message that only an active org should take. -/
def Msg.work : Msg → Option Bytes
  | .org (.grantTrialAllowance _ _) => none
  | .org msg => msg.orgID
  | .memory (.submitCommitment msg) => some msg.orgId
  | .memory (.approveMemory msg) => some msg.orgId
  | .memory _ => none
  | .serve msg => msg.batch.map Prod.fst
  | .bandwidth _ => none

section Closing
variable {β γ : Type} {env : Env β γ} {st st' : State β γ} {msg : Msg} {response : Response}
  {orgID : Bytes}

/-- The message is of a kind whose handler does not look at the status, and its signer may sign it
for the org. -/
def Unguarded (st : State β γ) (orgID : Bytes) : Msg → Prop
  | .org (.addMember _) | .org (.removeMember _) | .org (.setMemberCapabilities _)
  | .org (.closeOrg _) | .bandwidth _ => False
  | .org msg => LeaderOf st orgID msg.signer
  | .memory msg => LeaderOf st orgID msg.signer
  | .serve msg => ServingOf st orgID msg.signer

/-- What is accepted for the org is unguarded. -/
def OnlyUnguarded (env : Env β γ) (orgID : Bytes) (st : State β γ) (input : Input β γ) : Prop :=
  ∀ msg, input = .msg msg → (deliver env st msg).2.isOk = true → msg.work = some orgID →
    Unguarded st orgID msg

/-- The input is not an unguarded message for the org that is accepted. -/
def Idle (env : Env β γ) (orgID : Bytes) (st : State β γ) (input : Input β γ) : Prop :=
  ∀ msg, input = .msg msg → (deliver env st msg).2.isOk = true → msg.work = some orgID →
    ¬ Unguarded st orgID msg

theorem closed_next (env : Env β γ) (st : State β γ) (input : Input β γ)
    (hs : Orgs.Closed st.org orgID) : Orgs.Closed ((chain env).next st input).org orgID := by
  rcases next_evolution env st input with heq | hevolution
  · rwa [heq]
  · exact hevolution.closed hs

/-- What a closed org accepts is unguarded. -/
theorem unguarded_of_closed (hs : Orgs.Closed st.org orgID)
    (h : handle env st msg = .ok (st', response)) (hwork : msg.work = some orgID) :
    Unguarded st orgID msg := by
  cases msg with
  | org msg =>
    have hid : msg.orgID = some orgID := by
      cases msg with
      | grantTrialAllowance => cases hwork
      | _ => exact hwork
    obtain ⟨orgResponse, -, hstored, -⟩ := handle_org h
    obtain ⟨v, hv, hsigned, hallowed, -⟩ := hstored.view_target hid
    have hleads : LeaderOf st orgID msg.signer := ⟨v.record, (Orgs.get_of_view hv).1, hsigned⟩
    cases msg with
    | addMember | removeMember | setMemberCapabilities =>
      exact absurd hallowed.1 (hs.not_active hv)
    | closeOrg => exact absurd hallowed (hs.not_active hv)
    | _ => exact hleads
  | memory msg =>
    obtain ⟨memory, hok, -⟩ := handle_memory h
    have hrequest : ∃ validated, msg.request = some (orgID, validated) := by
      cases msg with
      | submitCommitment | approveMemory =>
        obtain rfl := Option.some.inj hwork
        exact ⟨_, rfl⟩
      | reportMemory | updateParams => cases hwork
    obtain ⟨validated, hrequest⟩ := hrequest
    obtain ⟨-, hwallet, -⟩ := Memory.handle_request hok hrequest
    obtain ⟨record, hrecord, hsigned⟩ := Memory.requireLeaderWallet_ok hwallet
    exact ⟨record, hrecord, hsigned⟩
  | serve msg =>
    obtain ⟨serve, serveResponse, hok, -⟩ := handle_serve h
    obtain ⟨⟨o, validated⟩, hbatch, rfl⟩ := Option.map_eq_some_iff.mp hwork
    obtain ⟨-, hsigner⟩ := Serve.handle_batch hok hbatch
    obtain ⟨record, hrecord, -, haddress⟩ := Serve.requireServingKeySigner_ok hsigner
    exact ⟨record, hrecord, haddress⟩
  | bandwidth msg => cases hwork

theorem onlyUnguarded_of_closed (hs : Orgs.Closed st.org orgID) (input : Input β γ) :
    OnlyUnguarded env orgID st input := by
  rintro msg - haccepted hwork
  rcases deliver_cases env st msg with ⟨_, hrefused⟩ | ⟨_, -, hok⟩
  · rw [hrefused] at haccepted
    cases haccepted
  · exact unguarded_of_closed hs hok hwork

/-- Nothing in the history is work that was accepted for the org. -/
def NoWork (orgID : Bytes) (log : List (Option (Msg × Except Error Response))) : Prop :=
  ∀ entry ∈ log, ∀ e ∈ entry, e.2.isOk = true → e.1.work ≠ some orgID

instance (orgID : Bytes) (log : List (Option (Msg × Except Error Response))) :
    Decidable (NoWork orgID log) :=
  inferInstanceAs (Decidable (∀ entry ∈ log, ∀ e ∈ entry, e.2.isOk = true → e.1.work ≠ some orgID))

theorem noWork_next (log : List (Option (Msg × Except Error Response))) (input : Input β γ)
    (hs : Orgs.Closed st.org orgID) (hlog : NoWork orgID log) (hidle : Idle env orgID st input) :
    NoWork orgID (log ++ [(chain env).output st input]) := by
  intro entry hentry e he haccepted hwork
  rcases List.mem_append.mp hentry with hold | hnew
  · exact hlog entry hold e he haccepted hwork
  · rw [List.mem_singleton.mp hnew] at he
    cases input with
    | epochEnd | others => cases he
    | msg msg =>
      obtain rfl := Option.some.inj he
      exact hidle msg rfl haccepted hwork (onlyUnguarded_of_closed hs _ msg rfl haccepted hwork)

/-- A closed org stays closed and takes nothing but unguarded messages, so that it takes nothing at
all when there are none. -/
theorem closed_of_run {close : Orgs.MsgCloseOrg}
    (hclose : handle env st (.org (.closeOrg close)) = .ok (st', response))
    (inputs : List (Input β γ)) :
    Orgs.Closed ((chain env).run st' inputs).org close.orgId ∧
      (chain env).Along (OnlyUnguarded env close.orgId) st' inputs ∧
      ((chain env).Along (Idle env close.orgId) st' inputs →
        NoWork close.orgId ((chain env).history st' inputs)) := by
  have hclosed : Orgs.Closed st'.org close.orgId := by
    obtain ⟨orgResponse, -, hstored, -⟩ := handle_org hclose
    obtain ⟨v, -, -, -, hv'⟩ := hstored.view_target rfl
    have hcode : Orgs.OrgStatus.ofCode Orgs.OrgStatus.closed.code = .closed := by decide
    exact ⟨_, (Orgs.get_of_view hv').1, hcode⟩
  refine ⟨(chain env).run_always (I := fun t => Orgs.Closed t.org close.orgId)
    (closed_next env) hclosed inputs, ?_, ?_⟩
  · exact (chain env).along_of_invariant (fun t input ht _ => closed_next env t input ht)
      (fun _ input ht _ => onlyUnguarded_of_closed ht input) hclosed
      ((chain env).along_true st' inputs)
  intro hidle
  have hrun := (chain env).run_history_invariant
    (I := fun t log => Orgs.Closed t.org close.orgId ∧ NoWork close.orgId log)
    (fun t log input ht hinput => ⟨closed_next env t input ht.1,
      noWork_next log input ht.1 ht.2 hinput⟩)
    (s := st') ⟨hclosed, List.forall_mem_nil _⟩ hidle
  exact hrun.2

end Closing

section Sample

def sampleEnv : Env Unit (List (Bytes × Bytes)) where
  ext := Orgs.sampleExternals
  crypto := EpochHooks.sampleCrypto
  authority := ascii "gov"
  foreign := fun _ => none
  scopeTagsOf := fun _ => none

def sampleStart : State Unit (List (Bytes × Bytes)) := ⟨{}, {}, {}, {}, {}, (), []⟩

/-- The first org with one more member, who may contribute. -/
def sampleGrown : State Unit (List (Bytes × Bytes)) :=
  (chain sampleEnv).run sampleStart
    [.msg (.org (.registerOrg Orgs.sampleRegister)),
      .msg (.org (.addMember (Orgs.sampleAdd 1))),
      .msg (.org (.setMemberCapabilities
        { signer := Orgs.sampleAddress 0
          orgId := Orgs.formatOrgID 0
          pubkey := formatUint 1
          canContribute := true
          canModerate := false }))]

def sampleClose : Orgs.MsgCloseOrg := ⟨Orgs.sampleAddress 0, Orgs.formatOrgID 0⟩

def sampleClosed : State Unit (List (Bytes × Bytes)) :=
  (deliver sampleEnv sampleGrown (.org (.closeOrg sampleClose))).1

theorem sample_close : ∃ response,
    handle sampleEnv sampleGrown (.org (.closeOrg sampleClose)) = .ok (sampleClosed, response) := by
  have haccepted : (deliver sampleEnv sampleGrown (.org (.closeOrg sampleClose))).2.isOk = true := by
    decide +kernel
  rcases deliver_cases sampleEnv sampleGrown (.org (.closeOrg sampleClose)) with
    ⟨e, he⟩ | ⟨response, -, hok⟩
  · rw [he] at haccepted
    cases haccepted
  · exact ⟨response, hok⟩

/-- A new serving address, a batch from it, a new commitment, and a new leader. -/
def sampleAfterlife : List (Input Unit (List (Bytes × Bytes))) :=
  [.msg (.org (.setServingKey
      { signer := Orgs.sampleAddress 0
        orgId := Orgs.formatOrgID 0
        newServingKey := Orgs.sampleAddress 3 })),
    .msg (.serve (.submitDenialBatch
      { signer := Orgs.sampleAddress 3
        orgId := Orgs.formatOrgID 0
        epoch := 1
        entries :=
          [{ memoryHash := List.replicate 32 1
             serveKeyPubkey := List.replicate 32 1
             serveSig := List.replicate 64 1
             serveFingerprint := List.replicate 32 1 }] })),
    .msg (.memory (.submitCommitment
      { signer := Orgs.sampleAddress 0
        orgId := Orgs.formatOrgID 0
        contentHash := EpochHooks.sampleHash
        contributorId := formatUint 1 })),
    .msg (.org (.transferLeadership Orgs.sampleTransfer))]

/-- The org takes all of it. -/
theorem sample_works_after_close :
    (∃ response, handle sampleEnv sampleGrown (.org (.closeOrg sampleClose)) =
      .ok (sampleClosed, response)) ∧
    ((chain sampleEnv).history sampleClosed sampleAfterlife).map
      (fun entry => entry.map fun e => e.2.isOk) = List.replicate 4 (some true) ∧
    ¬ NoWork (Orgs.formatOrgID 0) ((chain sampleEnv).history sampleClosed sampleAfterlife) :=
  ⟨sample_close, by decide +kernel, by decide +kernel⟩

/-- A transfer by somebody else, a member that the leader wallet adds, and a second org. -/
def sampleStray : List (Input Unit (List (Bytes × Bytes))) :=
  [.msg (.org (.transferLeadership
      { signer := Orgs.sampleAddress 3
        orgId := Orgs.formatOrgID 0
        newLeader := formatUint 1
        newLeaderWallet := Orgs.sampleAddress 3 })),
    .msg (.org (.addMember (Orgs.sampleAdd 2))),
    .msg (.org (.registerOrg Orgs.sampleRegisterSecond))]

theorem sample_stays_closed :
    ((chain sampleEnv).history sampleClosed sampleStray).map
      (fun entry => entry.map fun e => e.2.isOk) = [some false, some false, some true] ∧
    Orgs.Closed ((chain sampleEnv).run sampleClosed sampleStray).org (Orgs.formatOrgID 0) ∧
      NoWork (Orgs.formatOrgID 0) ((chain sampleEnv).history sampleClosed sampleStray) := by
  obtain ⟨response, hclose⟩ := sample_close
  obtain ⟨hclosed, -, hnone⟩ := closed_of_run hclose sampleStray
  refine ⟨by decide +kernel, hclosed, hnone ⟨?_, ?_, ?_, trivial⟩⟩
  all_goals
    intro msg hmsg haccepted hwork
    obtain rfl := Input.msg.inj hmsg
  · exact absurd haccepted (by decide +kernel)
  · exact absurd haccepted (by decide +kernel)
  · cases hwork

end Sample

end WeVibeChain.Application
