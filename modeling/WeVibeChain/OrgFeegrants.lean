import WeVibeChain.OrgConsistency
import WeVibeChain.OrgRecords

/-!
# x/org: serving keys and leader wallets that come back

The account of an org pays the fees of its serving key and of its leader wallet,
with an allowance for each. The module takes no allowance back, and x/feegrant
refuses a second one for the same two accounts, which fails the message that asks
for it. A key or a wallet that has an allowance of the org, from whatever role,
is not accepted for a role again.
-/

set_option autoImplicit false

namespace WeVibeChain.Orgs

open Bytes

section Allowances
variable {β γ : Type}

/-- A granter has one allowance for a grantee at most: a second one is refused, the first succeeds
and is recorded. -/
structure GrantsOnce (grantAllowance : γ → Bytes → Bytes → Allowance → Option γ)
    (Granted : γ → Bytes → Bytes → Prop) : Prop where
  again : ∀ feegrant granter grantee allowance, Granted feegrant granter grantee →
    grantAllowance feegrant granter grantee allowance = none
  first : ∀ feegrant granter grantee allowance, ¬ Granted feegrant granter grantee →
    ∃ feegrant', grantAllowance feegrant granter grantee allowance = some feegrant' ∧
      ∀ granter' grantee', Granted feegrant' granter' grantee' ↔
        Granted feegrant granter' grantee' ∨ granter' = granter ∧ grantee' = grantee

/-- The text is the address of the account. -/
def AddressOf (ext : Externals β γ) (text account : Bytes) : Prop :=
  text ≠ [] ∧ ext.accAddressFromBech32 text = some account

variable {ext : Externals β γ} {grantAllowance : γ → Bytes → Bytes → Allowance → Option γ}
  {Granted : γ → Bytes → Bytes → Prop} {granter text account : Bytes}

/-- Either the allowance is there and the call fails, or it is not and is granted. -/
theorem grantFeegrant_cases (hconfigured : ext.grantAllowance = some grantAllowance)
    (hgrants : GrantsOnce grantAllowance Granted) (haddress : AddressOf ext text account)
    (parseError grantError : Error) (allowed : List Bytes) (feegrant : γ) :
    Granted feegrant granter account ∧
        grantFeegrant ext parseError grantError allowed feegrant granter text =
          .error grantError ∨
      ¬ Granted feegrant granter account ∧ ∃ feegrant',
        grantFeegrant ext parseError grantError allowed feegrant granter text = .ok feegrant' := by
  unfold grantFeegrant
  rw [if_neg haddress.1, haddress.2, hconfigured]
  by_cases hgranted : Granted feegrant granter account
  · refine Or.inl ⟨hgranted, ?_⟩
    simp only [hgrants.again feegrant granter account _ hgranted]
  · obtain ⟨feegrant', hgrant, -⟩ :=
      hgrants.first feegrant granter account (.allowedMsg allowed) hgranted
    refine Or.inr ⟨hgranted, feegrant', ?_⟩
    simp only [hgrant]

end Allowances

section Checks
variable {β γ : Type} {ext : Externals β γ} {s : Store} {orgID signer : Bytes} {stored : StoredOrg}

theorem formatOrgID_ne_nil (n : UInt64) : formatOrgID n ≠ [] := by
  simp [formatOrgID, ascii]

theorem Leads.orgID_ne_nil (h : Leads s orgID signer stored) (hs : Registry s) : orgID ≠ [] := by
  obtain ⟨n, -, rfl⟩ := hs.formatted (view_of_get h.found)
  exact formatOrgID_ne_nil n

theorem Leads.addressed (h : Leads s orgID signer stored) (hs : Registry s) :
    validateAddressed signer orgID = .ok () := by
  rw [validateAddressed, if_neg h.signs.1, if_neg (h.orgID_ne_nil hs)]

theorem Leads.checkOrg_eq (h : Leads s orgID signer stored) (validated : Except Error Unit) :
    checkOrg s validated orgID = validated := by
  have hfound : hasOrg s orgID = true := OrderedMap.has_iff.mpr ⟨stored, h.found⟩
  unfold checkOrg
  cases validated with
  | error e => rfl
  | ok u =>
    dsimp only
    rw [hfound, if_neg (by decide)]

/-- The key of a member is not empty. -/
theorem Recorded.pubkey_ne_nil (hs : Recorded s) (hslash : slash ∉ orgID) {pubkey : Bytes}
    {member : MemberRecord} (h : getMember s orgID pubkey = .ok member) : pubkey ≠ [] := by
  obtain ⟨hkey, hnamed, hpubkey⟩ := hs.members _ member (getMember_ok h)
  rw [memberKey_inj hnamed hslash] at hkey
  exact hkey.2 ▸ hpubkey

end Checks

section Messages
variable {β γ : Type} {ext : Externals β γ} {authority : Bytes} {st : State β γ}
  {grantAllowance : γ → Bytes → Bytes → Allowance → Option γ}
  {Granted : γ → Bytes → Bytes → Prop} {stored : StoredOrg} {account : Bytes}

def Accepted (ext : Externals β γ) (authority : Bytes) (st : State β γ) (msg : Msg) : Prop :=
  ∃ response, (deliver ext authority st msg).2 = .ok response

theorem accepted_iff {msg : Msg} {x : Except Error (State β γ)}
    (h : handle ext authority st msg = x.map fun st' => (st', .empty)) :
    Accepted ext authority st msg ↔ ∃ st', x = .ok st' := by
  unfold Accepted deliver
  rw [h]
  cases x with
  | error e => exact ⟨nofun, nofun⟩
  | ok st' => exact ⟨fun _ => ⟨st', rfl⟩, fun _ => ⟨.empty, rfl⟩⟩

/-- What the leader wallet signs for the serving key or for its own place is accepted just if the
account that gets the role has no allowance of the org, and a new leader's key is not the text of
the signer's address. -/
structure RolesByAllowance (ext : Externals β γ) (authority : Bytes)
    (Granted : γ → Bytes → Bytes → Prop) (st : State β γ) : Prop where
  servingKey : ∀ (m : MsgSetServingKey) (stored : StoredOrg) (account : Bytes),
    Leads st.store m.orgId m.signer stored → AddressOf ext m.newServingKey account →
      (Accepted ext authority st (.setServingKey m) ↔
        ¬ Granted st.feegrant (orgAccountAddress ext m.orgId) account)
  leader : ∀ (m : MsgTransferLeadership) (stored : StoredOrg) (member : MemberRecord)
    (account : Bytes), Leads st.store m.orgId m.signer stored →
      getMember st.store m.orgId m.newLeader = .ok member →
      AddressOf ext m.newLeaderWallet account →
      (Accepted ext authority st (.transferLeadership m) ↔
        m.signer ≠ m.newLeader ∧
          ¬ Granted st.feegrant (orgAccountAddress ext m.orgId) account)

variable (hconfigured : ext.grantAllowance = some grantAllowance)
  (hgrants : GrantsOnce grantAllowance Granted)
include hconfigured hgrants

/-- A rotation that the leader wallet signs gets as far as the allowance. -/
theorem setServingKey_accepted_iff (hs : Governed st.store) {m : MsgSetServingKey}
    (hsigned : Leads st.store m.orgId m.signer stored)
    (haddress : AddressOf ext m.newServingKey account) :
    Accepted ext authority st (.setServingKey m) ↔
      ¬ Granted st.feegrant (orgAccountAddress ext m.orgId) account := by
  have hbasic : m.validateBasic = .ok () := by
    unfold MsgSetServingKey.validateBasic
    rw [hsigned.addressed hs.registry]
    exact if_neg haddress.1
  rw [accepted_iff rfl]
  unfold setServingKeyMsg setServingKey grantServingFeegrant
  rw [hsigned.checkOrg_eq, hbasic, requireLeaderWallet_ok_iff.mpr hsigned]
  dsimp only
  rcases grantFeegrant_cases hconfigured hgrants haddress .parseServingAddress
      .grantServingFeegrant servingAllowedMsgTypeURLs st.feegrant with
    ⟨hgranted, hfails⟩ | ⟨hnot, feegrant', hok⟩
  · rw [hfails]
    exact ⟨nofun, fun hnot => absurd hgranted hnot⟩
  · rw [hok]
    exact ⟨fun _ => hnot, fun _ => ⟨_, rfl⟩⟩

/-- So does a transfer to a member, unless the member's key is the text of the signer's address. -/
theorem transferLeadership_accepted_iff (hs : Governed st.store) (hrecorded : Recorded st.store)
    {m : MsgTransferLeadership} {member : MemberRecord}
    (hsigned : Leads st.store m.orgId m.signer stored)
    (hmember : getMember st.store m.orgId m.newLeader = .ok member)
    (haddress : AddressOf ext m.newLeaderWallet account) :
    Accepted ext authority st (.transferLeadership m) ↔
      m.signer ≠ m.newLeader ∧
        ¬ Granted st.feegrant (orgAccountAddress ext m.orgId) account := by
  have hslash := hs.registry.slash_notMem (view_of_get hsigned.found)
  have hbasic : m.validateBasic ext =
      if m.signer = m.newLeader then .error .newLeaderIsSigner else .ok () := by
    unfold MsgTransferLeadership.validateBasic
    rw [hsigned.addressed hs.registry]
    dsimp only
    rw [if_neg (hrecorded.pubkey_ne_nil hslash hmember), if_neg haddress.1, haddress.2,
      if_neg nofun]
  rw [accepted_iff rfl]
  unfold transferLeadershipMsg transferLeadership grantLeaderFeegrant
  rw [hsigned.checkOrg_eq, hbasic]
  by_cases hself : m.signer = m.newLeader
  · rw [if_pos hself]
    exact ⟨nofun, fun h => absurd hself h.1⟩
  rw [if_neg hself, requireLeaderWallet_ok_iff.mpr hsigned, hmember, haddress.2]
  dsimp only
  rw [if_neg haddress.1]
  rcases grantFeegrant_cases hconfigured hgrants haddress .parseLeaderWallet
      .grantLeaderFeegrant leaderAllowedMsgTypeURLs st.feegrant with
    ⟨hgranted, hfails⟩ | ⟨hnot, feegrant', hok⟩
  · rw [hfails]
    exact ⟨nofun, fun h => absurd hgranted h.2⟩
  · rw [hok]
    exact ⟨fun _ => ⟨hself, hnot⟩, fun _ => ⟨_, rfl⟩⟩

theorem rolesByAllowance_run (authority : Bytes) (params : Option Params) (bank : β) (feegrant : γ)
    (inputs : List (Input β γ)) :
    RolesByAllowance ext authority Granted
      ((chain ext authority).run ⟨{ params := params }, bank, feegrant⟩ inputs) := by
  obtain ⟨hs, hrecorded⟩ := recorded_run ext authority params bank feegrant inputs
  constructor
  · intro m stored account hsigned haddress
    exact setServingKey_accepted_iff hconfigured hgrants hs hsigned haddress
  · intro m stored member account hsigned hmember haddress
    exact transferLeadership_accepted_iff hconfigured hgrants hs hrecorded hsigned hmember haddress

end Messages

section Sample

def sampleGrant (grants : List (Bytes × Bytes)) (granter grantee : Bytes) (_ : Allowance) :
    Option (List (Bytes × Bytes)) :=
  if grants.contains (granter, grantee) then none else some ((granter, grantee) :: grants)

def sampleGranted (grants : List (Bytes × Bytes)) (granter grantee : Bytes) : Prop :=
  (granter, grantee) ∈ grants

theorem sampleGrant_configured : sampleExternals.grantAllowance = some sampleGrant := by
  refine congrArg some ?_
  funext grants granter grantee _
  exact if_congr List.contains_iff_mem.symm rfl rfl

theorem sampleGrant_grantsOnce : GrantsOnce sampleGrant sampleGranted where
  again _ _ _ _ h := if_pos (List.contains_iff_mem.mpr h)
  first grants granter grantee _ h := by
    refine ⟨_, if_neg fun hcontains => h (List.contains_iff_mem.mp hcontains), ?_⟩
    intro granter' grantee'
    simp only [sampleGranted, List.mem_cons, Prod.mk.injEq, or_comm]

/-- A rotation of the first org's serving key, signed by its leader wallet. -/
def sampleRotation (n : Nat) : MsgSetServingKey where
  signer := sampleAddress 0
  orgId := formatOrgID 0
  newServingKey := sampleAddress n

/-- The leader's place given to the member with the key, whose wallet is the address. -/
def sampleHandover (signer member wallet : Nat) : MsgTransferLeadership where
  signer := sampleAddress signer
  orgId := formatOrgID 0
  newLeader := formatUint (UInt64.ofNat member)
  newLeaderWallet := sampleAddress wallet

/-- The first org. Its serving key has been address 1 and is now address 2; its leader has been 0,
with wallet 0, and is now 1, with wallet 3. -/
def sampleRoles : State Unit (List (Bytes × Bytes)) :=
  sampleChain.run sampleStart
    [.msg (.registerOrg sampleRegister), .msg (.addMember (sampleAdd 1)),
      .msg (.setServingKey (sampleRotation 1)), .msg (.setServingKey (sampleRotation 2)),
      .msg (.transferLeadership (sampleHandover 0 1 3))]

theorem sampleRoles_evaluated :
    (sampleRoles.store.org.get (orgKey (formatOrgID 0))).map StoredOrg.leaderWalletAddress =
        some (sampleAddress 3) ∧
      getMember sampleRoles.store (formatOrgID 0) (formatUint 0) =
        .ok { orgID := formatOrgID 0, pubkey := formatUint 0, role := ascii "member" } ∧
      (deliver sampleExternals (ascii "gov") sampleRoles
          (.setServingKey { sampleRotation 1 with signer := sampleAddress 3 })).2 =
        .error .grantServingFeegrant ∧
      (deliver sampleExternals (ascii "gov") sampleRoles
          (.transferLeadership (sampleHandover 3 0 0))).2 = .error .grantLeaderFeegrant := by
  decide +kernel

theorem sampleRoles_byAllowance :
    sampleExternals.grantAllowance = some sampleGrant ∧ GrantsOnce sampleGrant sampleGranted ∧
      RolesByAllowance sampleExternals (ascii "gov") sampleGranted sampleRoles :=
  ⟨sampleGrant_configured, sampleGrant_grantsOnce,
    rolesByAllowance_run sampleGrant_configured sampleGrant_grantsOnce (ascii "gov") none () [] _⟩

/-- The leader wallet signs for the serving key that the org had before, and for the leader it had
before: both messages are refused. -/
theorem sampleRoles_refused :
    (∃ stored, Leads sampleRoles.store (formatOrgID 0) (sampleAddress 3) stored) ∧
      AddressOf sampleExternals (sampleAddress 1) (List.replicate 20 2) ∧
      (deliver sampleExternals (ascii "gov") sampleRoles
          (.setServingKey { sampleRotation 1 with signer := sampleAddress 3 })).2 =
        .error .grantServingFeegrant ∧
      (∃ member, getMember sampleRoles.store (formatOrgID 0) (formatUint 0) = .ok member) ∧
      AddressOf sampleExternals (sampleAddress 0) (List.replicate 20 1) ∧
      (deliver sampleExternals (ascii "gov") sampleRoles
          (.transferLeadership (sampleHandover 3 0 0))).2 = .error .grantLeaderFeegrant := by
  obtain ⟨hwallet, hmember, hrotation, hhandover⟩ := sampleRoles_evaluated
  obtain ⟨stored, hget, hleads⟩ := Option.map_eq_some_iff.mp hwallet
  exact ⟨⟨stored, hget, by decide, hleads.symm⟩, ⟨by decide, by decide⟩, hrotation, ⟨_, hmember⟩,
    ⟨by decide, by decide⟩, hhandover⟩

end Sample

end WeVibeChain.Orgs
