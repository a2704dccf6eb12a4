import WeVibeChain.OrgMsgServer
import WeVibeChain.Shared.Machine

/-!
# x/org: what an accepted message does

`Stored` lists, message by message, the checks that have been passed and the
store that results. Nothing about the bank or the feegrant state is needed for
it: they can only make a message fail.
-/

set_option autoImplicit false

namespace WeVibeChain.Orgs

open Bytes

section Messages

/-- The org that the message is for. -/
def Msg.orgID : Msg → Option Bytes
  | .registerOrg _ | .updateParams _ => none
  | .addMember msg => some msg.orgId
  | .removeMember msg => some msg.orgId
  | .setOrgConfig msg => some msg.orgId
  | .grantTrialAllowance _ msg => some msg.orgId
  | .setMemberCapabilities msg => some msg.orgId
  | .transferLeadership msg => some msg.orgId
  | .closeOrg msg => some msg.orgId
  | .setServingKey msg => some msg.orgId
  | .setServingInfo msg => some msg.orgId

def Msg.signer : Msg → Bytes
  | .registerOrg msg => msg.signer
  | .addMember msg => msg.signer
  | .removeMember msg => msg.signer
  | .updateParams msg => msg.authority
  | .setOrgConfig msg => msg.signer
  | .grantTrialAllowance _ msg => msg.signer
  | .setMemberCapabilities msg => msg.signer
  | .transferLeadership msg => msg.signer
  | .closeOrg msg => msg.signer
  | .setServingKey msg => msg.signer
  | .setServingInfo msg => msg.signer

end Messages

/-- The signer is the leader wallet in the record of the org. -/
structure Leads (s : Store) (orgID signer : Bytes) (stored : StoredOrg) : Prop where
  found : s.org.get (orgKey orgID) = some stored
  signs : signer ≠ [] ∧ signer = stored.leaderWalletAddress

theorem requireLeaderWallet_ok_iff {s : Store} {orgID signer : Bytes} {stored : StoredOrg} :
    requireLeaderWallet s orgID signer = .ok stored ↔ Leads s orgID signer stored := by
  unfold requireLeaderWallet
  constructor
  · intro h
    split at h
    · cases h
    rename_i found hfound
    split at h
    · cases h
    rename_i hwallet
    obtain rfl := Except.ok.inj h
    rw [not_or, not_not] at hwallet
    exact ⟨hfound, hwallet.2 ▸ hwallet.1, hwallet.2⟩
  · rintro ⟨hfound, hsigner, hwallet⟩
    rw [hfound]
    dsimp only
    rw [if_neg]
    rw [not_or, not_not]
    exact ⟨hwallet ▸ hsigner, hwallet⟩

/-- What an accepted message has been checked for, and what it leaves in the store. -/
inductive Stored {β γ : Type} (ext : Externals β γ) (authority : Bytes) (s : Store) :
    Msg → Response → Store → Prop where
  | registerOrg (msg : MsgRegisterOrg) (basic : msg.validateBasic = .ok ())
      (below : getNextSlot s < (getParams s).slotCap)
      (fresh : s.org.get (orgKey (formatOrgID (getNextSlot s))) = none)
      (unowned : ∀ k stored, s.org.get k = some stored → stored.leader ≠ msg.leader) :
      Stored ext authority s (.registerOrg msg) (.registered (formatOrgID (getNextSlot s)))
        (registeredStore s (msg.org.atSlot ext (getNextSlot s)))
  | addMember (msg : MsgAddMember) (stored : StoredOrg) (basic : msg.validateBasic = .ok ())
      (signed : Leads s msg.orgId msg.signer stored)
      (active : OrgStatus.ofCode stored.status = .active)
      (fresh : s.member.get (memberKey msg.orgId msg.pubkey) = none) :
      Stored ext authority s (.addMember msg) .empty
        { s with
          member := s.member.set (memberKey msg.orgId msg.pubkey) msg.member
          org := s.org.set (orgKey msg.orgId)
            { stored with totalActiveMembers := stored.totalActiveMembers + 1 } }
  | removeMember (msg : MsgRemoveMember) (stored : StoredOrg) (member : MemberRecord)
      (basic : msg.validateBasic = .ok ()) (signed : Leads s msg.orgId msg.signer stored)
      (active : OrgStatus.ofCode stored.status = .active)
      (found : s.member.get (memberKey msg.orgId msg.pubkey) = some member)
      (role : member.role ≠ ascii "leader") :
      Stored ext authority s (.removeMember msg) .empty
        { s with
          member := s.member.delete (memberKey msg.orgId msg.pubkey)
          org := s.org.set (orgKey msg.orgId)
            { stored with
              totalActiveMembers :=
                if stored.totalActiveMembers > 0 then stored.totalActiveMembers - 1
                else stored.totalActiveMembers } }
  | updateParams (msg : MsgUpdateParams) (signed : msg.authority = authority)
      (valid : msg.params.slotCap ≠ 0) :
      Stored ext authority s (.updateParams msg) .empty { s with params := some msg.params }
  | setOrgConfig (msg : MsgSetOrgConfig) (stored : StoredOrg)
      (basic : msg.validateBasic ext = .ok ()) (signed : Leads s msg.orgId msg.signer stored) :
      Stored ext authority s (.setOrgConfig msg) .empty
        { s with orgConfig := s.orgConfig.set (orgConfigKey msg.orgId) msg.config }
  | grantTrialAllowance (blockTime : Int) (msg : MsgGrantTrialAllowance) (stored : StoredOrg)
      (basic : msg.validateBasic = .ok ()) (signed : Leads s msg.orgId msg.signer stored) :
      Stored ext authority s (.grantTrialAllowance blockTime msg) .empty s
  | setMemberCapabilities (msg : MsgSetMemberCapabilities) (stored : StoredOrg)
      (member : MemberRecord) (basic : msg.validateBasic = .ok ())
      (signed : Leads s msg.orgId msg.signer stored)
      (active : OrgStatus.ofCode stored.status = .active)
      (found : s.member.get (memberKey msg.orgId msg.pubkey) = some member) :
      Stored ext authority s (.setMemberCapabilities msg) .empty
        { s with
          member := s.member.set (memberKey msg.orgId msg.pubkey)
            { member with canContribute := msg.canContribute, canModerate := msg.canModerate } }
  | transferLeadership (msg : MsgTransferLeadership) (stored : StoredOrg) (member : MemberRecord)
      (basic : msg.validateBasic ext = .ok ()) (signed : Leads s msg.orgId msg.signer stored)
      (found : s.member.get (memberKey msg.orgId msg.newLeader) = some member) :
      Stored ext authority s (.transferLeadership msg) .empty
        { s with
          member := setRole
            (setRole s.member (memberKey msg.orgId stored.leader) (ascii "member"))
            (memberKey msg.orgId msg.newLeader) (ascii "leader")
          org := s.org.set (orgKey msg.orgId)
            { stored with
              leader := msg.newLeader
              leaderWalletAddress := msg.newLeaderWallet } }
  | closeOrg (msg : MsgCloseOrg) (stored : StoredOrg) (basic : msg.validateBasic = .ok ())
      (signed : Leads s msg.orgId msg.signer stored)
      (active : OrgStatus.ofCode stored.status = .active) :
      Stored ext authority s (.closeOrg msg) .empty
        { s with
          org := s.org.set (orgKey msg.orgId) { stored with status := OrgStatus.closed.code } }
  | setServingKey (msg : MsgSetServingKey) (stored : StoredOrg) (basic : msg.validateBasic = .ok ())
      (signed : Leads s msg.orgId msg.signer stored) :
      Stored ext authority s (.setServingKey msg) .empty
        { s with
          org := s.org.set (orgKey msg.orgId)
            { stored with hubServingAddress := msg.newServingKey } }
  | setServingInfo (msg : MsgSetServingInfo) (stored : StoredOrg)
      (basic : msg.validateBasic ext = .ok ()) (signed : Leads s msg.orgId msg.signer stored) :
      Stored ext authority s (.setServingInfo msg) .empty
        { s with
          org := s.org.set (orgKey msg.orgId)
            { stored with
              hubEndpoints := msg.hubEndpoints
              hubResponsePubkey := msg.hubResponsePubkey } }

section Handlers
variable {β γ : Type} {ext : Externals β γ} {authority : Bytes} {st st' : State β γ}

theorem registerOrg_ok {newOrg org : Org} {creator : Bytes}
    (h : registerOrg ext st newOrg creator = .ok (st', org)) :
    getNextSlot st.store < (getParams st.store).slotCap ∧
      org = newOrg.atSlot ext (getNextSlot st.store) ∧
      st.store.org.get (orgKey org.orgID) = none ∧
      (∀ k stored, st.store.org.get k = some stored → stored.leader ≠ org.leader) ∧
      st'.store = registeredStore st.store org ∧
      chargeSlotPrice ext st.bank creator org.orgID (computeSlotPrice st.store org.slot) =
        .ok st'.bank := by
  unfold registerOrg at h
  dsimp only at h
  split at h
  · cases h
  rename_i hslot
  split at h
  · cases h
  split at h
  · cases h
  rename_i hfresh
  split at h
  · cases h
  rename_i hleaders
  split at h
  · cases h
  rename_i hcharge
  split at h
  · cases h
  split at h
  · cases h
  obtain ⟨rfl, rfl⟩ := Prod.mk.inj (Except.ok.inj h)
  refine ⟨UInt64.not_le.mp hslot, rfl, ?_, ?_, rfl, hcharge⟩
  · exact OrderedMap.has_eq_false_iff.mp (Bool.eq_false_iff.mpr hfresh)
  · intro k stored hget heq
    refine hleaders (List.any_eq_true.mpr ⟨storedToOrg stored, ?_, decide_eq_true heq⟩)
    refine List.mem_map_of_mem ?_
    exact List.mem_map.mpr ⟨(k, stored), OrderedMap.get_eq_some_iff.mp hget, rfl⟩

theorem registerOrgMsg_stored {msg : MsgRegisterOrg} {orgID : Bytes}
    (h : registerOrgMsg ext st msg = .ok (st', orgID)) :
    Stored ext authority st.store (.registerOrg msg) (.registered orgID) st'.store := by
  unfold registerOrgMsg at h
  split at h
  · cases h
  rename_i hbasic
  split at h
  · cases h
  split at h
  · cases h
  rename_i st₁ org hregister
  obtain ⟨rfl, rfl⟩ := Prod.mk.inj (Except.ok.inj h)
  obtain ⟨hbelow, rfl, hfresh, hunowned, hstore, -⟩ := registerOrg_ok hregister
  rw [hstore]
  exact .registerOrg msg hbasic hbelow hfresh hunowned

theorem addMember_ok {s s' : Store} {member : MemberRecord} (h : addMember s member = .ok s') :
    ∃ stored, s.org.get (orgKey member.orgID) = some stored ∧
      OrgStatus.ofCode stored.status = .active ∧
      s.member.get (memberKey member.orgID member.pubkey) = none ∧
      s' = { s with
        member := s.member.set (memberKey member.orgID member.pubkey) member
        org := s.org.set (orgKey member.orgID)
          { stored with totalActiveMembers := stored.totalActiveMembers + 1 } } := by
  unfold addMember at h
  split at h
  · cases h
  split at h
  · cases h
  rename_i stored hstored
  split at h
  · cases h
  rename_i hactive
  split at h
  · cases h
  rename_i hfresh
  exact ⟨stored, hstored, not_not.mp hactive,
    OrderedMap.has_eq_false_iff.mp (Bool.eq_false_iff.mpr hfresh), (Except.ok.inj h).symm⟩

theorem addMemberMsg_stored {msg : MsgAddMember} (h : addMemberMsg st msg = .ok st') :
    Stored ext authority st.store (.addMember msg) .empty st'.store := by
  unfold addMemberMsg at h
  split at h
  · cases h
  rename_i hbasic
  split at h
  · cases h
  rename_i stored hwallet
  split at h
  · cases h
  split at h
  · cases h
  split at h
  · cases h
  rename_i store hadd
  obtain rfl := Except.ok.inj h
  have hsigned := requireLeaderWallet_ok_iff.mp hwallet
  obtain ⟨stored', hget, hactive, hfresh, hstore⟩ := addMember_ok hadd
  obtain rfl : stored = stored' := Option.some.inj (hsigned.found.symm.trans hget)
  dsimp only
  rw [hstore]
  exact .addMember msg stored hbasic hsigned hactive hfresh

theorem MsgAddMember.validateBasic_iff {m : MsgAddMember} :
    m.validateBasic = .ok () ↔
      m.signer ≠ [] ∧ m.orgId ≠ [] ∧ m.pubkey ≠ [] ∧ m.x25519Pubkey ≠ [] ∧
        m.role = ascii "member" := by
  unfold MsgAddMember.validateBasic validateAddressed
  grind

/-- The checks listed for the message are all there are. -/
theorem addMemberMsg_accepts {msg : MsgAddMember} {stored : StoredOrg}
    (basic : msg.validateBasic = .ok ()) (signed : Leads st.store msg.orgId msg.signer stored)
    (active : OrgStatus.ofCode stored.status = .active)
    (fresh : st.store.member.get (memberKey msg.orgId msg.pubkey) = none) :
    addMemberMsg st msg = .ok { st with
      store := { st.store with
        member := st.store.member.set (memberKey msg.orgId msg.pubkey) msg.member
        org := st.store.org.set (orgKey msg.orgId)
          { stored with totalActiveMembers := stored.totalActiveMembers + 1 } } } := by
  have hrole := (MsgAddMember.validateBasic_iff.mp basic).2.2.2.2
  have hnotLeader : msg.role ≠ ascii "leader" := by
    rw [hrole]
    decide
  have hadd : addMember st.store msg.member = .ok { st.store with
      member := st.store.member.set (memberKey msg.orgId msg.pubkey) msg.member
      org := st.store.org.set (orgKey msg.orgId)
        { stored with totalActiveMembers := stored.totalActiveMembers + 1 } } := by
    unfold addMember
    simp only [MsgAddMember.member, hrole, signed.found, active, OrderedMap.has, fresh]
    rfl
  unfold addMemberMsg
  rw [basic, requireLeaderWallet_ok_iff.mpr signed]
  simp only [ne_eq, active, not_true_eq_false, if_false, if_neg hnotLeader, hadd]

theorem removeMember_ok {s s' : Store} {orgID pubkey : Bytes}
    (h : removeMember s orgID pubkey = .ok s') :
    ∃ stored member, s.org.get (orgKey orgID) = some stored ∧
      OrgStatus.ofCode stored.status = .active ∧
      s.member.get (memberKey orgID pubkey) = some member ∧ member.role ≠ ascii "leader" ∧
      s' = { s with
        member := s.member.delete (memberKey orgID pubkey)
        org := s.org.set (orgKey orgID)
          { stored with
            totalActiveMembers :=
              if stored.totalActiveMembers > 0 then stored.totalActiveMembers - 1
              else stored.totalActiveMembers } } := by
  unfold removeMember at h
  split at h
  · cases h
  rename_i member hmember
  split at h
  · cases h
  rename_i hrole
  split at h
  · cases h
  rename_i stored hstored
  split at h
  · cases h
  rename_i hactive
  exact ⟨stored, member, hstored, not_not.mp hactive, hmember, hrole, (Except.ok.inj h).symm⟩

theorem removeMemberMsg_stored {msg : MsgRemoveMember} (h : removeMemberMsg st msg = .ok st') :
    Stored ext authority st.store (.removeMember msg) .empty st'.store := by
  unfold removeMemberMsg at h
  split at h
  · cases h
  rename_i hbasic
  split at h
  · cases h
  rename_i stored hwallet
  split at h
  · cases h
  rename_i store hremove
  obtain rfl := Except.ok.inj h
  have hsigned := requireLeaderWallet_ok_iff.mp hwallet
  obtain ⟨stored', member, hget, hactive, hfound, hrole, hstore⟩ := removeMember_ok hremove
  obtain rfl : stored = stored' := Option.some.inj (hsigned.found.symm.trans hget)
  dsimp only
  rw [hstore]
  exact .removeMember msg stored member hbasic hsigned hactive hfound hrole

theorem updateParamsMsg_stored {msg : MsgUpdateParams}
    (h : updateParamsMsg authority st msg = .ok st') :
    Stored ext authority st.store (.updateParams msg) .empty st'.store := by
  unfold updateParamsMsg at h
  split at h
  · cases h
  rename_i hauthority
  split at h
  · cases h
  rename_i hvalid
  obtain rfl := Except.ok.inj h
  refine .updateParams msg (not_not.mp hauthority) ?_
  intro hzero
  rw [Params.validate, if_pos hzero] at hvalid
  cases hvalid

theorem setOrgConfigMsg_stored {msg : MsgSetOrgConfig} (h : setOrgConfigMsg ext st msg = .ok st') :
    Stored ext authority st.store (.setOrgConfig msg) .empty st'.store := by
  unfold setOrgConfigMsg at h
  split at h
  · cases h
  rename_i hbasic
  split at h
  · cases h
  rename_i stored hwallet
  split at h
  · cases h
  obtain rfl := Except.ok.inj h
  exact .setOrgConfig msg stored hbasic (requireLeaderWallet_ok_iff.mp hwallet)

/-- An accepted grant writes to x/feegrant only. -/
theorem grantTrialAllowanceMsg_ok {blockTime : Int} {msg : MsgGrantTrialAllowance}
    (h : grantTrialAllowanceMsg ext st blockTime msg = .ok st') :
    msg.validateBasic = .ok () ∧ (∃ stored, Leads st.store msg.orgId msg.signer stored) ∧
      ∃ grantAllowance granter grantee feegrant, ext.grantAllowance = some grantAllowance ∧
        ext.accAddressFromBech32 msg.signer = some granter ∧
        ext.accAddressFromBech32 msg.grantee = some grantee ∧
        grantAllowance st.feegrant granter grantee
          (trialAllowance blockTime msg.dailySubmissions msg.trialDays) = some feegrant ∧
        st' = { st with feegrant := feegrant } := by
  unfold grantTrialAllowanceMsg at h
  split at h
  · cases h
  rename_i hbasic
  split at h
  · cases h
  rename_i grantAllowance hconfigured
  split at h
  · cases h
  rename_i stored hwallet
  split at h
  · cases h
  rename_i granter hgranter
  split at h
  · cases h
  rename_i grantee hgrantee
  split at h
  · cases h
  rename_i feegrant hgranted
  refine ⟨hbasic, ⟨stored, requireLeaderWallet_ok_iff.mp hwallet⟩, ?_⟩
  exact ⟨grantAllowance, granter, grantee, feegrant, hconfigured, hgranter, hgrantee, hgranted,
    (Except.ok.inj h).symm⟩

theorem grantTrialAllowanceMsg_stored {blockTime : Int} {msg : MsgGrantTrialAllowance}
    (h : grantTrialAllowanceMsg ext st blockTime msg = .ok st') :
    Stored ext authority st.store (.grantTrialAllowance blockTime msg) .empty st'.store := by
  obtain ⟨hbasic, ⟨stored, hleads⟩, grantAllowance, granter, grantee, feegrant, -, -, -, -, rfl⟩ :=
    grantTrialAllowanceMsg_ok h
  exact .grantTrialAllowance blockTime msg stored hbasic hleads

theorem checkOrg_ok {s : Store} {validated : Except Error Unit} {orgID : Bytes}
    (h : checkOrg s validated orgID = .ok ()) : validated = .ok () := by
  unfold checkOrg at h
  split at h
  · cases h
  · rfl

theorem getMember_ok {s : Store} {orgID pubkey : Bytes} {member : MemberRecord}
    (h : getMember s orgID pubkey = .ok member) :
    s.member.get (memberKey orgID pubkey) = some member := by
  unfold getMember at h
  split at h
  · cases h
  · rename_i hget
    rw [hget, Except.ok.inj h]

theorem setMemberCapabilitiesMsg_stored {msg : MsgSetMemberCapabilities}
    (h : setMemberCapabilitiesMsg st msg = .ok st') :
    Stored ext authority st.store (.setMemberCapabilities msg) .empty st'.store := by
  unfold setMemberCapabilitiesMsg setMemberCapabilities at h
  split at h
  · cases h
  rename_i hcheck
  split at h
  · cases h
  rename_i store hset
  obtain rfl := Except.ok.inj h
  split at hset
  · cases hset
  rename_i stored hwallet
  split at hset
  · cases hset
  rename_i hactive
  split at hset
  · cases hset
  rename_i member hmember
  obtain rfl := Except.ok.inj hset
  exact .setMemberCapabilities msg stored member (checkOrg_ok hcheck)
    (requireLeaderWallet_ok_iff.mp hwallet) (not_not.mp hactive) (getMember_ok hmember)

theorem transferLeadershipMsg_stored {msg : MsgTransferLeadership}
    (h : transferLeadershipMsg ext st msg = .ok st') :
    Stored ext authority st.store (.transferLeadership msg) .empty st'.store := by
  unfold transferLeadershipMsg transferLeadership at h
  split at h
  · cases h
  rename_i hcheck
  split at h
  · cases h
  split at h
  · cases h
  split at h
  · cases h
  rename_i stored hwallet
  split at h
  · cases h
  rename_i member hmember
  split at h
  · cases h
  obtain rfl := Except.ok.inj h
  exact .transferLeadership msg stored member (checkOrg_ok hcheck)
    (requireLeaderWallet_ok_iff.mp hwallet) (getMember_ok hmember)

theorem closeOrgMsg_stored {msg : MsgCloseOrg} (h : closeOrgMsg st msg = .ok st') :
    Stored ext authority st.store (.closeOrg msg) .empty st'.store := by
  unfold closeOrgMsg closeOrg at h
  split at h
  · cases h
  rename_i hcheck
  split at h
  · cases h
  rename_i store hclose
  obtain rfl := Except.ok.inj h
  split at hclose
  · cases hclose
  rename_i stored hwallet
  split at hclose
  · cases hclose
  rename_i hactive
  obtain rfl := Except.ok.inj hclose
  exact .closeOrg msg stored (checkOrg_ok hcheck) (requireLeaderWallet_ok_iff.mp hwallet)
    (not_not.mp hactive)

theorem setServingKeyMsg_stored {msg : MsgSetServingKey}
    (h : setServingKeyMsg ext st msg = .ok st') :
    Stored ext authority st.store (.setServingKey msg) .empty st'.store := by
  unfold setServingKeyMsg setServingKey at h
  split at h
  · cases h
  rename_i hcheck
  split at h
  · cases h
  rename_i stored hwallet
  split at h
  · cases h
  obtain rfl := Except.ok.inj h
  exact .setServingKey msg stored (checkOrg_ok hcheck) (requireLeaderWallet_ok_iff.mp hwallet)

theorem setServingInfoMsg_stored {msg : MsgSetServingInfo}
    (h : setServingInfoMsg ext st msg = .ok st') :
    Stored ext authority st.store (.setServingInfo msg) .empty st'.store := by
  unfold setServingInfoMsg setServingInfo at h
  split at h
  · cases h
  rename_i hcheck
  split at h
  · cases h
  rename_i store hset
  obtain rfl := Except.ok.inj h
  split at hset
  · cases hset
  rename_i stored hwallet
  split at hset
  · cases hset
  obtain rfl := Except.ok.inj hset
  exact .setServingInfo msg stored (checkOrg_ok hcheck) (requireLeaderWallet_ok_iff.mp hwallet)

theorem accepted_empty {x : Except Error (State β γ)} {response : Response}
    (h : (x.map fun st => (st, Response.empty)) = .ok (st', response)) :
    x = .ok st' ∧ response = .empty := by
  obtain ⟨st₁, hok, heq⟩ := Except.map_eq_ok h
  obtain ⟨rfl, rfl⟩ := Prod.mk.inj heq
  exact ⟨hok, rfl⟩

theorem handle_stored {msg : Msg} {response : Response}
    (h : handle ext authority st msg = .ok (st', response)) :
    Stored ext authority st.store msg response st'.store := by
  cases msg with
  | registerOrg msg =>
    obtain ⟨⟨st₁, orgID⟩, hok, heq⟩ := Except.map_eq_ok h
    obtain ⟨rfl, rfl⟩ := Prod.mk.inj heq
    exact registerOrgMsg_stored hok
  | addMember msg =>
    obtain ⟨hok, rfl⟩ := accepted_empty h
    exact addMemberMsg_stored hok
  | removeMember msg =>
    obtain ⟨hok, rfl⟩ := accepted_empty h
    exact removeMemberMsg_stored hok
  | updateParams msg =>
    obtain ⟨hok, rfl⟩ := accepted_empty h
    exact updateParamsMsg_stored hok
  | setOrgConfig msg =>
    obtain ⟨hok, rfl⟩ := accepted_empty h
    exact setOrgConfigMsg_stored hok
  | grantTrialAllowance blockTime msg =>
    obtain ⟨hok, rfl⟩ := accepted_empty h
    exact grantTrialAllowanceMsg_stored hok
  | setMemberCapabilities msg =>
    obtain ⟨hok, rfl⟩ := accepted_empty h
    exact setMemberCapabilitiesMsg_stored hok
  | transferLeadership msg =>
    obtain ⟨hok, rfl⟩ := accepted_empty h
    exact transferLeadershipMsg_stored hok
  | closeOrg msg =>
    obtain ⟨hok, rfl⟩ := accepted_empty h
    exact closeOrgMsg_stored hok
  | setServingKey msg =>
    obtain ⟨hok, rfl⟩ := accepted_empty h
    exact setServingKeyMsg_stored hok
  | setServingInfo msg =>
    obtain ⟨hok, rfl⟩ := accepted_empty h
    exact setServingInfoMsg_stored hok

/-- A message is refused and changes nothing, or is accepted. -/
theorem deliver_cases (ext : Externals β γ) (authority : Bytes) (st : State β γ) (msg : Msg) :
    (∃ e, deliver ext authority st msg = (st, .error e)) ∨
      ∃ response, (deliver ext authority st msg).2 = .ok response ∧
        Stored ext authority st.store msg response (deliver ext authority st msg).1.store := by
  unfold deliver
  split
  · rename_i e _
    exact Or.inl ⟨e, rfl⟩
  · rename_i st' response hhandle
    exact Or.inr ⟨response, rfl, handle_stored hhandle⟩

end Handlers

end WeVibeChain.Orgs
