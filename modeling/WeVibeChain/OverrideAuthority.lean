import WeVibeChain.ClosedOrgs

/-!
# Who sets an org's quotas

The override of an org's quotas is asked of the leader's member key, where every
other message of a leader is asked of the leader's wallet. The two are separate
entries of the record, and an org is asked for the right one only if its leader
has the same text in both.
-/

set_option autoImplicit false

namespace WeVibeChain.Orgs

open Bytes

section Leaders
variable {s : Store} {orgID signer : Bytes} {record : StoredOrg}

theorem Governed.isLeader_iff (hs : Governed s) (h : s.org.get (orgKey orgID) = some record) :
    isLeader s orgID signer = true ↔ signer = record.leader := by
  obtain ⟨⟨leader, hleader, hleads⟩, hothers⟩ := hs.led orgID _ (view_of_get h)
  dsimp only at hleader hothers
  rw [get_roster] at hleader
  constructor
  · intro h
    unfold isLeader at h
    split at h
    · cases h
    rename_i member hmember
    by_contra hne
    have hrole := hothers signer member (by rw [get_roster]; exact getMember_ok hmember) hne
    rw [hrole] at h
    exact absurd h (by decide)
  · rintro rfl
    simp [isLeader, getMember, hleader, hleads]

end Leaders

end WeVibeChain.Orgs

namespace WeVibeChain.Application

open Bytes

section Override
variable {β γ : Type} {env : Env β γ} {st : State β γ} {msg : Bandwidth.MsgSetBandwidthOverride}

theorem override_accepted_iff (hs : Orgs.Governed st.org) (hbasic : msg.validateBasic = .ok ()) :
    (deliver env st (.bandwidth msg)).2.isOk = true ↔
      ∃ record, st.org.org.get (Orgs.orgKey msg.orgId) = some record ∧
        msg.signer = record.leader := by
  have hresult : (deliver env st (.bandwidth msg)).2.isOk =
      (Orgs.hasOrg st.org msg.orgId && Orgs.isLeader st.org msg.orgId msg.signer) := by
    simp only [deliver, handle, Bandwidth.setBandwidthOverrideMsg, hbasic]
    cases Orgs.hasOrg st.org msg.orgId <;> cases Orgs.isLeader st.org msg.orgId msg.signer <;> rfl
  rw [hresult, Bool.and_eq_true, Orgs.hasOrg, OrderedMap.has]
  cases hget : st.org.org.get (Orgs.orgKey msg.orgId) with
  | none => simp
  | some record => simp [hs.isLeader_iff hget]

theorem leaderOf_iff (hsigner : msg.signer ≠ []) :
    LeaderOf st msg.orgId msg.signer ↔
      ∃ record, st.org.org.get (Orgs.orgKey msg.orgId) = some record ∧
        msg.signer = record.leaderWalletAddress := by
  constructor
  · rintro ⟨record, hfound, -, hwallet⟩
    exact ⟨record, hfound, hwallet⟩
  · rintro ⟨record, hfound, hwallet⟩
    exact ⟨record, hfound, hsigner, hwallet⟩

theorem override_by_leader_wallet_iff (env : Env β γ) (params : Option Orgs.Params)
    (start : State β γ) (inputs : List (Input β γ)) (msg : Bandwidth.MsgSetBandwidthOverride)
    (hbasic : msg.validateBasic = .ok ()) :
    let st := (chain env).run { start with org := { params := params } } inputs
    ((deliver env st (.bandwidth msg)).2.isOk = true ↔ LeaderOf st msg.orgId msg.signer) ↔
      ∀ record, st.org.org.get (Orgs.orgKey msg.orgId) = some record →
        (msg.signer = record.leader ↔ msg.signer = record.leaderWalletAddress) := by
  intro st
  have hs : Orgs.Governed st.org := governed_run env params start inputs
  have hsigner : msg.signer ≠ [] := by
    intro hempty
    rw [Bandwidth.MsgSetBandwidthOverride.validateBasic, if_pos hempty] at hbasic
    cases hbasic
  rw [override_accepted_iff hs hbasic, leaderOf_iff hsigner]
  cases st.org.org.get (Orgs.orgKey msg.orgId) with
  | none => simp
  | some record => simp

end Override

section OverrideSample

/-- The leader of the org has the address of the wallet for its member key. -/
def sampleSameText : List (Input Unit (List (Bytes × Bytes))) :=
  [.msg (.org (.registerOrg { Orgs.sampleRegister with leader := Orgs.sampleAddress 0 }))]

def sampleOverride : Bandwidth.MsgSetBandwidthOverride where
  signer := Orgs.sampleAddress 0
  orgId := Orgs.formatOrgID 0
  memoryCap := 10
  serveCap := 20

theorem sample_override_same_text :
    (deliver sampleEnv ((chain sampleEnv).run sampleStart sampleSameText)
      (.bandwidth sampleOverride)).2.isOk = true ↔
    LeaderOf ((chain sampleEnv).run sampleStart sampleSameText)
      (Orgs.formatOrgID 0) (Orgs.sampleAddress 0) := by
  refine (override_by_leader_wallet_iff sampleEnv none sampleStart sampleSameText sampleOverride
    (by decide)).mpr ?_
  intro record hget
  have htexts : (((chain sampleEnv).run sampleStart sampleSameText).org.org.get
      (Orgs.orgKey (Orgs.formatOrgID 0))).map
        (fun record => (record.leader, record.leaderWalletAddress)) =
      some (Orgs.sampleAddress 0, Orgs.sampleAddress 0) := by decide +kernel
  obtain ⟨record', hget', heq⟩ := Option.map_eq_some_iff.mp htexts
  obtain rfl := Option.some.inj (hget.symm.trans hget')
  obtain ⟨hleader, hwallet⟩ := Prod.mk.inj heq
  rw [hleader, hwallet]

/-- The leader wallet is refused. -/
theorem sample_override_refused :
    sampleOverride.validateBasic = .ok () ∧
    LeaderOf sampleGrown sampleOverride.orgId sampleOverride.signer ∧
    (deliver sampleEnv sampleGrown (.bandwidth sampleOverride)).2.isOk = false := by
  have hwallet : (sampleGrown.org.org.get (Orgs.orgKey (Orgs.formatOrgID 0))).map
      Orgs.StoredOrg.leaderWalletAddress = some (Orgs.sampleAddress 0) := by decide +kernel
  obtain ⟨record, hfound, haddress⟩ := Option.map_eq_some_iff.mp hwallet
  exact ⟨by decide, ⟨record, hfound, by decide, haddress.symm⟩, by decide +kernel⟩

end OverrideSample

end WeVibeChain.Application
