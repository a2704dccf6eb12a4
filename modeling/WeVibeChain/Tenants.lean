import WeVibeChain.MemoryLimits
import WeVibeChain.References
import WeVibeChain.Shared.Tables

/-!
# One org by itself

What the leader of an org can do is described here for an org that has the chain to
itself: its record, roster and configuration, its pending and approved memories and
their reports, and its bandwidth override. A request is accepted or refused by what
the org is like and by the settings of x/memory, and changes the org only.

On the chain two more things can refuse a request, which orgs share: the scan behind
the limit of pending commitments, and x/feegrant.
-/

set_option autoImplicit false

namespace WeVibeChain.Orgs

open Bytes

section Acceptance
variable {β γ : Type} (ext : Externals β γ)

def Msg.validate : Msg → Except Error Unit
  | .registerOrg msg => msg.validateBasic
  | .addMember msg => msg.validateBasic
  | .removeMember msg => msg.validateBasic
  | .updateParams msg => msg.params.validate
  | .setOrgConfig msg => msg.validateBasic ext
  | .grantTrialAllowance _ msg => msg.validateBasic
  | .setMemberCapabilities msg => msg.validateBasic
  | .transferLeadership msg => msg.validateBasic ext
  | .closeOrg msg => msg.validateBasic
  | .setServingKey msg => msg.validateBasic
  | .setServingInfo msg => msg.validateBasic ext

/-- The org accepts the message as far as it is up to the org. -/
structure View.Accepts (v : View) (msg : Msg) : Prop where
  valid : msg.validate ext = .ok ()
  signed : v.SignedBy msg.signer
  allowed : msg.Allowed v

/-- x/feegrant gives the allowance that the message asks for. -/
def Granted (feegrant : γ) : Msg → Prop
  | .setServingKey msg =>
    ∃ feegrant', grantServingFeegrant ext feegrant (orgAccountAddress ext msg.orgId)
      msg.newServingKey = .ok feegrant'
  | .transferLeadership msg =>
    ∃ feegrant', grantLeaderFeegrant ext feegrant (orgAccountAddress ext msg.orgId)
      msg.newLeaderWallet = .ok feegrant'
  | .grantTrialAllowance _ _ => False
  | _ => True

variable {ext} {authority : Bytes} {st : State β γ} {s s' : Store} {msg : Msg} {response : Response}
  {orgID : Bytes} {v : View}

theorem Stored.accepts (h : Stored ext authority s msg response s') (hid : msg.orgID = some orgID) :
    ∃ v, view s orgID = some v ∧ v.Accepts ext msg ∧ view s' orgID = some (msg.apply v) := by
  obtain ⟨v, hv, hsigned, hallowed, hv'⟩ := h.view_target hid
  refine ⟨v, hv, ⟨?_, hsigned, hallowed⟩, hv'⟩
  cases h with
  | registerOrg => cases hid
  | updateParams => cases hid
  | addMember msg stored basic | removeMember msg stored member basic
  | setOrgConfig msg stored basic | grantTrialAllowance blockTime msg stored basic
  | setMemberCapabilities msg stored member basic | transferLeadership msg stored member basic
  | closeOrg msg stored basic | setServingKey msg stored basic | setServingInfo msg stored basic =>
    exact basic

theorem requireLeaderWallet_of_signedBy (hv : view s orgID = some v) {signer : Bytes}
    (hsigned : v.SignedBy signer) : requireLeaderWallet s orgID signer = .ok v.record :=
  requireLeaderWallet_ok_iff.mpr ⟨(get_of_view hv).1, hsigned⟩

theorem get_member_of_view (hv : view s orgID = some v) (p : Bytes) :
    s.member.get (memberKey orgID p) = v.roster.get p := by
  rw [← get_roster, (get_of_view hv).2.1]

theorem checkOrg_of_view (hv : view s orgID = some v) {validated : Except Error Unit}
    (hvalid : validated = .ok ()) : checkOrg s validated orgID = .ok () := by
  have hhas : hasOrg s orgID = true := OrderedMap.has_iff.mpr ⟨_, (get_of_view hv).1⟩
  simp [checkOrg, hvalid, hhas]

/-- What the org accepts and x/feegrant does not refuse, the module accepts. -/
theorem handle_of_accepts (hid : msg.orgID = some orgID) (hv : view st.store orgID = some v)
    (h : v.Accepts ext msg) (hgranted : Granted ext st.feegrant msg) :
    ∃ r, handle ext authority st msg = .ok r := by
  obtain ⟨hvalid, hsigned, hallowed⟩ := h
  have hget := (get_of_view hv).1
  have hmember := get_member_of_view hv
  have hwallet := requireLeaderWallet_of_signedBy hv hsigned
  cases msg with
  | registerOrg => cases hid
  | updateParams => cases hid
  | grantTrialAllowance => cases hgranted
  | addMember m =>
    obtain rfl := Option.some.inj hid
    obtain ⟨hactive, hfresh, hrole⟩ := hallowed
    change m.validateBasic = .ok () at hvalid
    dsimp only [Msg.signer] at hwallet
    change OrgStatus.ofCode v.record.status = .active at hactive
    have hnone : st.store.member.has (memberKey m.orgId m.pubkey) = false :=
      OrderedMap.has_eq_false_iff.mpr ((hmember m.pubkey).trans hfresh)
    have hother : ascii "member" ≠ ascii "leader" := by decide
    simp [handle, addMemberMsg, addMember, MsgAddMember.member, hvalid, hwallet, hactive, hrole,
      hother, hget, hnone, Except.map]
  | removeMember m =>
    obtain rfl := Option.some.inj hid
    obtain ⟨hactive, member, hfound, hrole⟩ := hallowed
    change m.validateBasic = .ok () at hvalid
    dsimp only [Msg.signer] at hwallet
    change OrgStatus.ofCode v.record.status = .active at hactive
    simp [handle, removeMemberMsg, removeMember, hvalid, hwallet, hactive, hget, hmember, hfound,
      hrole, Except.map]
  | setOrgConfig m =>
    obtain rfl := Option.some.inj hid
    change m.validateBasic ext = .ok () at hvalid
    dsimp only [Msg.signer] at hwallet
    have hlow : ¬ m.minContributionsPerEpoch > 100 := by
      intro hhigh
      unfold MsgSetOrgConfig.validateBasic at hvalid
      split at hvalid
      · cases hvalid
      · rw [if_pos hhigh] at hvalid
        cases hvalid
    simp [handle, setOrgConfigMsg, hvalid, hwallet, hlow, Except.map]
  | setMemberCapabilities m =>
    obtain rfl := Option.some.inj hid
    have hcheck : checkOrg st.store m.validateBasic m.orgId = .ok () := checkOrg_of_view hv hvalid
    obtain ⟨hactive, member, hfound⟩ := hallowed
    dsimp only [Msg.signer] at hwallet
    change OrgStatus.ofCode v.record.status = .active at hactive
    simp [handle, setMemberCapabilitiesMsg, setMemberCapabilities, getMember,
      hcheck, hwallet, hactive, hmember, hfound, Except.map]
  | transferLeadership m =>
    obtain rfl := Option.some.inj hid
    have hcheck : checkOrg st.store (m.validateBasic ext) m.orgId = .ok () := checkOrg_of_view hv hvalid
    obtain ⟨member, hfound⟩ := hallowed
    obtain ⟨feegrant, hgrant⟩ := hgranted
    dsimp only [Msg.signer] at hwallet
    obtain ⟨hsome, hnonempty⟩ : ext.accAddressFromBech32 m.newLeaderWallet ≠ none ∧
        m.newLeaderWallet ≠ [] := by
      change m.validateBasic ext = .ok () at hvalid
      unfold MsgTransferLeadership.validateBasic at hvalid
      grind
    obtain ⟨address, haddress⟩ := Option.ne_none_iff_exists'.mp hsome
    simp [handle, transferLeadershipMsg, transferLeadership, getMember,
      hcheck, hwallet, hmember, hfound, hgrant, haddress, hnonempty, Except.map]
  | closeOrg m =>
    obtain rfl := Option.some.inj hid
    have hcheck : checkOrg st.store m.validateBasic m.orgId = .ok () := checkOrg_of_view hv hvalid
    dsimp only [Msg.signer] at hwallet
    change OrgStatus.ofCode v.record.status = .active at hallowed
    simp [handle, closeOrgMsg, closeOrg, hcheck, hwallet, hallowed, Except.map]
  | setServingKey m =>
    obtain rfl := Option.some.inj hid
    have hcheck : checkOrg st.store m.validateBasic m.orgId = .ok () := checkOrg_of_view hv hvalid
    obtain ⟨feegrant, hgrant⟩ := hgranted
    dsimp only [Msg.signer] at hwallet
    simp [handle, setServingKeyMsg, setServingKey, hcheck, hwallet, hgrant,
      Except.map]
  | setServingInfo m =>
    obtain rfl := Option.some.inj hid
    have hcheck : checkOrg st.store (m.validateBasic ext) m.orgId = .ok () := checkOrg_of_view hv hvalid
    dsimp only [Msg.signer] at hwallet
    have hendpoints : validateHubEndpoints ext m.hubEndpoints = .ok () := by
      change m.validateBasic ext = .ok () at hvalid
      unfold MsgSetServingInfo.validateBasic at hvalid
      grind
    simp [handle, setServingInfoMsg, setServingInfo, hcheck, hwallet,
      hendpoints, Except.map]

end Acceptance

end WeVibeChain.Orgs

namespace WeVibeChain.Memory

open Bytes

section Acceptance
variable {st : State}

theorem requireLeaderWallet_iff {org : Orgs.Store} {orgID signer : Bytes} {v : Orgs.View}
    (hv : Orgs.view org orgID = some v) :
    requireLeaderWallet org orgID signer = .ok () ↔ v.SignedBy signer := by
  have hget := (Orgs.get_of_view hv).1
  constructor
  · intro h
    obtain ⟨stored, hstored, hsigned⟩ := requireLeaderWallet_ok h
    obtain rfl := Option.some.inj (hget.symm.trans hstored)
    exact hsigned
  · rintro ⟨hsigner, hwallet⟩
    simp [requireLeaderWallet, Orgs.getLeaderWallet, Orgs.getOrg, hget, Except.map,
      Orgs.storedToOrg, ← hwallet, hsigner]

/-- The contributor is on the roster and may contribute. -/
def MayContribute (v : Orgs.View) (contributorID : Bytes) : Prop :=
  ∃ member, v.roster.get contributorID = some member ∧
    (member.role = ascii "leader" ∨ member.canContribute = true)

/-- The key is the one of the leader on the roster. -/
def LeaderKey (v : Orgs.View) (key : Bytes) : Prop :=
  ∃ member, v.roster.get key = some member ∧ member.role = ascii "leader"

theorem isLeader_iff {org : Orgs.Store} {orgID key : Bytes} {v : Orgs.View}
    (hv : Orgs.view org orgID = some v) : Orgs.isLeader org orgID key = true ↔ LeaderKey v key := by
  unfold Orgs.isLeader Orgs.getMember LeaderKey
  rw [Orgs.get_member_of_view hv]
  cases v.roster.get key with
  | none => simp
  | some member => simp

theorem submitCommitmentMsg_ok_iff {msg : MsgSubmitCommitment} {v : Orgs.View}
    (hv : Orgs.view st.org msg.orgId = some v) :
    (∃ st', submitCommitmentMsg st msg = .ok st') ↔
      (msg.validateBasic = .ok () ∧ v.SignedBy msg.signer ∧ MayContribute v msg.contributorId ∧
        msg.commitment.validate = .ok () ∧
        st.store.pending.get (pendingKey msg.orgId msg.contentHash) = none) ∧
      pendingCount st.store msg.orgId < (getParams st.store).maxPendingPerOrg.toNat := by
  have hmember := Orgs.get_member_of_view hv msg.contributorId
  constructor
  · rintro ⟨st', h⟩
    obtain ⟨hbasic, hwallet, hsubmit⟩ := submitCommitmentMsg_ok h
    obtain ⟨hvalid, hfresh, hroom, -⟩ := submitCommitment_eq hsubmit
    refine ⟨⟨hbasic, (requireLeaderWallet_iff hv).mp hwallet, ?_, hvalid, hfresh⟩, hroom⟩
    unfold submitCommitmentMsg Orgs.getMember at h
    rw [hbasic, hwallet, hmember] at h
    cases hget : v.roster.get msg.contributorId with
    | none =>
      rw [hget] at h
      cases h
    | some member =>
      refine ⟨member, hget, ?_⟩
      by_contra hnot
      rw [not_or, Bool.not_eq_true] at hnot
      rw [hget] at h
      dsimp only at h
      rw [if_pos hnot] at h
      cases h
  · rintro ⟨⟨hbasic, hsigned, ⟨member, hget, hmay⟩, hvalid, hfresh⟩, hroom⟩
    have hwallet := (requireLeaderWallet_iff hv).mpr hsigned
    have hhas : Orgs.hasOrg st.org msg.orgId = true :=
      OrderedMap.has_iff.mpr ⟨_, (Orgs.get_of_view hv).1⟩
    have htype : validMemoryType msg.memoryType = true := by
      by_contra hnot
      rw [Bool.not_eq_true] at hnot
      unfold PendingCommitment.validate at hvalid
      simp only [MsgSubmitCommitment.commitment, hnot] at hvalid
      grind
    have hallowed : ¬ (member.role ≠ ascii "leader" ∧ member.canContribute = false) := by
      rintro ⟨hrole, hcannot⟩
      rcases hmay with hleader | hcan
      · exact hrole hleader
      · exact Bool.false_ne_true (hcannot.symm.trans hcan)
    have hsubmit : ∃ st', submitCommitment st msg.commitment = .ok st' := by
      have hnone : st.store.pending.has (pendingKey msg.commitment.orgID msg.commitment.contentHash) =
          false := OrderedMap.has_eq_false_iff.mpr hfresh
      simp only [submitCommitment, hvalid, hnone,
        show Orgs.hasOrg st.org msg.commitment.orgID = true from hhas]
      simp [show ¬ (getParams st.store).maxPendingPerOrg.toNat ≤
        pendingCount st.store msg.commitment.orgID from Nat.not_le.mpr hroom]
    obtain ⟨st', hst'⟩ := hsubmit
    refine ⟨st', ?_⟩
    simp only [submitCommitmentMsg, Orgs.getMember, hbasic, hwallet, hmember, hget, if_neg hallowed,
      htype]
    exact hst'

/-- What an approval is checked for apart from the leader's wallet. -/
structure MayApprove (crypto : Crypto) (v : Orgs.View) (params : Params) (msg : MsgApproveMemory)
    (pending : PendingCommitment) : Prop where
  type : validMemoryType msg.memoryType = true
  verified : verifyApproval crypto msg pending = .ok ()
  leader : LeaderKey v msg.committingLeader
  small : (msg.encryptedBlob.length : Int) ≤ params.maxBlobSizeBytes.toInt64.toInt

theorem approveMemoryMsg_ok_iff {crypto : Crypto} {msg : MsgApproveMemory} {v : Orgs.View}
    (hv : Orgs.view st.org msg.orgId = some v) :
    (∃ st', approveMemoryMsg crypto st msg = .ok st') ↔
      msg.validateBasic = .ok () ∧ v.SignedBy msg.signer ∧
        st.store.approved.get (approvedKey msg.orgId msg.contentHash) = none ∧
        ∃ stored, st.store.pending.get (pendingKey msg.orgId msg.contentHash) = some stored ∧
          MayApprove crypto v (getParams st.store) msg (storedToPending stored) := by
  constructor
  · rintro ⟨st', h⟩
    obtain ⟨hbasic, hwallet, ⟨pending, hpending, hverified⟩, happrove⟩ := approveMemoryMsg_ok h
    obtain ⟨-, -, -, htype, hleader, hfresh, -, -⟩ := approveMemory_eq happrove
    exact ⟨hbasic, (requireLeaderWallet_iff hv).mp hwallet, hfresh, pendingToStored pending,
      getPendingCommitment_ok hpending, htype, hverified, (isLeader_iff hv).mp hleader,
      approveMemory_blob happrove⟩
  · rintro ⟨hbasic, hsigned, hfresh, stored, hstored, htype, hverified, hleader, hsmall⟩
    have hwallet := (requireLeaderWallet_iff hv).mpr hsigned
    have hget := (Orgs.get_of_view hv).1
    have hnone : st.store.approved.has (approvedKey msg.orgId msg.contentHash) = false :=
      OrderedMap.has_eq_false_iff.mpr hfresh
    have hisLeader : Orgs.isLeader st.org msg.orgId msg.committingLeader = true :=
      (isLeader_iff hv).mpr hleader
    have hpending : getPendingCommitment st.store msg.orgId msg.contentHash =
        .ok (storedToPending stored) := by rw [getPendingCommitment, hstored]
    have hfits : ¬ (msg.encryptedBlob.length : Int) >
        (getParams st.store).maxBlobSizeBytes.toInt64.toInt := Int.not_lt.mpr hsmall
    simp [approveMemoryMsg, approveMemory, MsgApproveMemory.approval, hbasic, hwallet, htype,
      hpending, hverified, hisLeader, hfits, hnone, Orgs.incrementOrgCommittedMemories,
      Orgs.setOrgLastActivityEpoch, Orgs.modifyOrgAggregate, hget]

theorem reportMemory_sizes {st' : State} {msg : MsgReportMemory} {epoch : UInt64}
    (h : reportMemory st msg epoch = .ok st') : checkReportSizes msg = .ok () := by
  unfold reportMemory at h
  dsimp only at h
  split at h
  · cases h
  · assumption

theorem reportMemoryMsg_ok_iff {msg : MsgReportMemory} {v : Orgs.View}
    (hv : Orgs.view st.org msg.orgId = some v) :
    (∃ st', reportMemoryMsg st msg = .ok st') ↔
      msg.validateBasic = .ok () ∧ v.SignedBy msg.signer ∧ checkReportSizes msg = .ok () ∧
        st.store.approved.get (approvedKey msg.orgId msg.contentHash) ≠ none ∧
        st.store.report.get (reportKey msg.orgId msg.contentHash msg.reporterPubkey) = none := by
  constructor
  · rintro ⟨st', h⟩
    obtain ⟨hbasic, hwallet, hreport⟩ := reportMemoryMsg_ok h
    obtain ⟨-, hknown, hfresh, -, -⟩ := reportMemory_eq hreport
    obtain ⟨record, hrecord⟩ := OrderedMap.has_iff.mp hknown
    refine ⟨hbasic, (requireLeaderWallet_iff hv).mp hwallet, reportMemory_sizes hreport, ?_, hfresh⟩
    rw [hrecord]
    exact Option.some_ne_none record
  · rintro ⟨hbasic, hsigned, hsizes, hknown, hfresh⟩
    have hwallet := (requireLeaderWallet_iff hv).mpr hsigned
    have hget := (Orgs.get_of_view hv).1
    have hhas : st.store.approved.has (approvedKey msg.orgId msg.contentHash) = true :=
      OrderedMap.has_iff.mpr (Option.ne_none_iff_exists'.mp hknown)
    have hnone : st.store.report.has
        (reportKey msg.orgId msg.contentHash msg.reporterPubkey) = false :=
      OrderedMap.has_eq_false_iff.mpr hfresh
    simp [reportMemoryMsg, reportMemory, hbasic, hwallet, hsizes, hhas, hnone,
      Orgs.incrementOrgUpheldReports, Orgs.modifyOrgAggregate, hget]

end Acceptance

end WeVibeChain.Memory

namespace WeVibeChain.Tenants

open Bytes

section Machine

/-- What the chain keeps about one org: its record, roster and configuration, its memories with their
reports and their number, its override, and the settings and epochs that apply to it. A Merkle root
covers memories of other orgs too, and a quota follows the serves, so neither is part of it.
Memories are told apart by their content hash, the reports of a memory by who reported it. -/
structure Tenant where
  org : Orgs.View
  pending : Bytes → Option Memory.StoredPendingCommitment
  approved : Bytes → Option Memory.StoredMemoryCommitment
  report : Bytes → Bytes → Option Memory.StoredMemoryReport
  count : UInt64
  override : Option Bandwidth.BandwidthOverride
  memoryParams : Memory.Params
  memoryEpoch : UInt64
  orgEpoch : UInt64

/-- What happens to an org: a message for it, or something that happens to all orgs alike. -/
inductive Request where
  | org (msg : Orgs.Msg)
  | memory (msg : Memory.Msg)
  | override (msg : Bandwidth.MsgSetBandwidthOverride)
  | epochEnd (n : Int64)

variable {β γ : Type} (env : Application.Env β γ)

def Tenant.Accepts (t : Tenant) : Request → Prop
  | .org msg => t.org.Accepts env.ext msg
  | .memory (.submitCommitment m) =>
    m.validateBasic = .ok () ∧ t.org.SignedBy m.signer ∧ Memory.MayContribute t.org m.contributorId ∧
      m.commitment.validate = .ok () ∧ t.pending m.contentHash = none
  | .memory (.approveMemory m) =>
    m.validateBasic = .ok () ∧ t.org.SignedBy m.signer ∧ t.approved m.contentHash = none ∧
      ∃ stored, t.pending m.contentHash = some stored ∧
        Memory.MayApprove env.crypto t.org t.memoryParams m (Memory.storedToPending stored)
  | .memory (.reportMemory m) =>
    m.validateBasic = .ok () ∧ t.org.SignedBy m.signer ∧ Memory.checkReportSizes m = .ok () ∧
      t.approved m.contentHash ≠ none ∧ t.report m.contentHash m.reporterPubkey = none
  | .memory (.updateParams m) => m.authority = env.authority ∧ m.authority ≠ []
  | .override m => m.validateBasic = .ok () ∧ Memory.LeaderKey t.org m.signer
  | .epochEnd _ => True

def Tenant.apply (t : Tenant) : Request → Tenant
  | .org msg => { t with org := msg.apply t.org }
  | .memory (.submitCommitment m) =>
    { t with
      pending := Function.update t.pending m.contentHash (some (Memory.pendingToStored m.commitment)) }
  | .memory (.approveMemory m) =>
    match t.pending m.contentHash with
    | none => t
    | some stored =>
      let pending := Memory.storedToPending stored
      { t with
        pending := Function.update t.pending m.contentHash none
        approved := Function.update t.approved m.contentHash (some (Memory.memoryToStored
          (Memory.approvedRecord (m.approval env.crypto) pending t.memoryEpoch)))
        count := t.count + 1
        org := { t.org with record := { t.org.record with
          totalCommittedMemories := t.org.record.totalCommittedMemories + 1
          lastActivityEpoch := pending.epoch } } }
  | .memory (.reportMemory m) =>
    { t with
      report := Function.update t.report m.contentHash
        (Function.update (t.report m.contentHash) m.reporterPubkey (some (m.report 0)))
      org := { t.org with record := { t.org.record with
        totalUpheldReports := t.org.record.totalUpheldReports + 1
        lastActivityEpoch := t.orgEpoch } } }
  | .memory (.updateParams m) => { t with memoryParams := m.params }
  | .override m => { t with override := some ⟨m.orgId, m.memoryCap, m.serveCap⟩ }
  | .epochEnd n => { t with memoryEpoch := n.toUInt64 }

open scoped Classical in
/-- The org alone. The answer says whether a request was accepted. -/
noncomputable def tenant : Machine Tenant Request Bool where
  step t request := if t.Accepts env request then (t.apply env request, true) else (t, false)

variable {env} {t : Tenant} {request : Request}

theorem tenant_accepts (h : t.Accepts env request) :
    (tenant env).next t request = t.apply env request ∧ (tenant env).output t request = true := by
  simp [Machine.next, Machine.output, tenant, h]

theorem tenant_refuses (h : ¬ t.Accepts env request) :
    (tenant env).next t request = t ∧ (tenant env).output t request = false := by
  simp [Machine.next, Machine.output, tenant, h]

end Machine

section Representation
variable {β γ : Type}

/-- The chain holds the org as it is described. -/
structure Shows (orgID : Bytes) (st : Application.State β γ) (t : Tenant) : Prop where
  org : Orgs.view st.org orgID = some t.org
  pending : ∀ hash, st.memory.pending.get (Memory.pendingKey orgID hash) = t.pending hash
  approved : ∀ hash, st.memory.approved.get (Memory.approvedKey orgID hash) = t.approved hash
  report : ∀ hash reporter,
    st.memory.report.get (Memory.reportKey orgID hash reporter) = t.report hash reporter
  count : Memory.getApprovedCount st.memory orgID = t.count
  override : st.bandwidth.override.get (Bandwidth.overrideKey orgID) = t.override
  memoryParams : Memory.getParams st.memory = t.memoryParams
  memoryEpoch : Memory.getCurrentEpoch st.memory = t.memoryEpoch
  orgEpoch : Orgs.getCurrentEpoch st.org = t.orgEpoch

/-- The org as the chain holds it. -/
def tenantOf (orgID : Bytes) (st : Application.State β γ) (v : Orgs.View) : Tenant where
  org := v
  pending hash := st.memory.pending.get (Memory.pendingKey orgID hash)
  approved hash := st.memory.approved.get (Memory.approvedKey orgID hash)
  report hash reporter := st.memory.report.get (Memory.reportKey orgID hash reporter)
  count := Memory.getApprovedCount st.memory orgID
  override := st.bandwidth.override.get (Bandwidth.overrideKey orgID)
  memoryParams := Memory.getParams st.memory
  memoryEpoch := Memory.getCurrentEpoch st.memory
  orgEpoch := Orgs.getCurrentEpoch st.org

theorem shows_tenantOf {orgID : Bytes} {st : Application.State β γ} {v : Orgs.View}
    (hv : Orgs.view st.org orgID = some v) : Shows orgID st (tenantOf orgID st v) :=
  ⟨hv, fun _ => rfl, fun _ => rfl, fun _ _ => rfl, rfl, rfl, rfl, rfl, rfl⟩

end Representation

end WeVibeChain.Tenants
