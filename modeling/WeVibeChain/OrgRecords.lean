import WeVibeChain.OrgRegistry

/-!
# x/org: records name their keys

Every record of a run is stored under the key that it names. The records of the
orgs still pass the check they were registered with, and the members have keys
that are not empty.
-/

set_option autoImplicit false

namespace WeVibeChain.Orgs

open Bytes

section Records

structure Recorded (s : Store) : Prop where
  orgs : s.org.Forall fun k stored =>
    orgKey stored.orgId = k ∧ (storedToOrg stored).validate = .ok ()
  members : s.member.Forall fun k member =>
    memberKey member.orgID member.pubkey = k ∧ slash ∉ member.orgID ∧ member.pubkey ≠ []
  configs : s.orgConfig.Forall fun k config => orgConfigKey config.orgID = k

theorem recorded_empty (params : Option Params) : Recorded { params := params } :=
  ⟨OrderedMap.forall_empty, OrderedMap.forall_empty, OrderedMap.forall_empty⟩

theorem Org.validate_withLeader {o : Org} (h : o.validate = .ok ()) {leader : Bytes}
    (hleader : leader ≠ []) (wallet : Bytes) :
    Org.validate { o with leader := leader, leaderWalletAddress := wallet } = .ok () := by
  unfold Org.validate at h ⊢
  split at h
  · cases h
  rename_i horgID
  split at h
  · cases h
  rw [if_neg horgID, if_neg hleader]
  exact h

theorem MsgRegisterOrg.leader_ne_nil {m : MsgRegisterOrg} (h : m.validateBasic = .ok ()) :
    m.leader ≠ [] := by
  unfold MsgRegisterOrg.validateBasic at h
  split at h
  · cases h
  split at h
  · cases h
  assumption

theorem MsgTransferLeadership.newLeader_ne_nil {β γ : Type} {ext : Externals β γ}
    {m : MsgTransferLeadership} (h : m.validateBasic ext = .ok ()) : m.newLeader ≠ [] := by
  unfold MsgTransferLeadership.validateBasic at h
  split at h
  · cases h
  split at h
  · cases h
  assumption

/-- A new role leaves the rest of a record that is there. -/
theorem forall_setRole {P : Bytes → MemberRecord → Prop} {m : OrderedMap Bytes MemberRecord}
    {k : Bytes} {member : MemberRecord} (hm : m.Forall P) (hget : m.get k = some member)
    (role : Bytes) (hrole : P k member → P k { member with role := role }) :
    (setRole m k role).Forall P := by
  unfold setRole
  rw [hget, Option.getD_some]
  exact hm.set (hrole (hm k member hget))

variable {β γ : Type} {ext : Externals β γ} {authority : Bytes} {st : State β γ} {s s' : Store}

theorem registerOrg_validated {newOrg org : Org} {creator : Bytes} {st' : State β γ}
    (h : registerOrg ext st newOrg creator = .ok (st', org)) :
    (newOrg.atSlot ext (getNextSlot st.store)).validate = .ok () := by
  unfold registerOrg at h
  dsimp only at h
  split at h
  · cases h
  split at h
  · cases h
  assumption

theorem deliver_validated {msg : MsgRegisterOrg} {response : Response}
    (h : (deliver ext authority st (.registerOrg msg)).2 = .ok response) :
    (msg.org.atSlot ext (getNextSlot st.store)).validate = .ok () := by
  unfold deliver at h
  split at h
  · cases h
  rename_i st' response' hhandle
  obtain ⟨⟨st₁, orgID⟩, hregister, -⟩ := Except.map_eq_ok hhandle
  unfold registerOrgMsg at hregister
  split at hregister
  · cases hregister
  split at hregister
  · cases hregister
  split at hregister
  · cases hregister
  rename_i hok
  exact registerOrg_validated hok

/-- A change of the record of an org that keeps its id. -/
theorem Recorded.setOrg (hs : Recorded s) {orgID : Bytes} {stored stored' : StoredOrg}
    (hget : s.org.get (orgKey orgID) = some stored) (hid : stored'.orgId = stored.orgId)
    (hvalid : (storedToOrg stored).validate = .ok () → (storedToOrg stored').validate = .ok ()) :
    Recorded { s with org := s.org.set (orgKey orgID) stored' } := by
  obtain ⟨hkey, hvalidated⟩ := hs.orgs _ stored hget
  exact ⟨hs.orgs.set ⟨hid ▸ hkey, hvalid hvalidated⟩, hs.members, hs.configs⟩

theorem Recorded.setMember (hs : Recorded s) {k : Bytes} {member : MemberRecord}
    (hkey : memberKey member.orgID member.pubkey = k) (hslash : slash ∉ member.orgID)
    (hpubkey : member.pubkey ≠ []) :
    Recorded { s with member := s.member.set k member } :=
  ⟨hs.orgs, hs.members.set ⟨hkey, hslash, hpubkey⟩, hs.configs⟩

theorem Recorded.counters (hs : Recorded s) {orgID : Bytes} (h : CountersChanged orgID s s') :
    Recorded s' := by
  obtain ⟨stored, committed, upheld, activity, hget, rfl⟩ := h
  exact hs.setOrg hget rfl id

/-- What an accepted message leaves, where the registered org has been checked. -/
theorem Stored.recorded {msg : Msg} {response : Response} (h : Stored ext authority s msg response s')
    (hs : Recorded s) (hgoverned : Governed s)
    (hregister : ∀ register, msg = .registerOrg register →
      (register.org.atSlot ext (getNextSlot s)).validate = .ok ()) : Recorded s' := by
  have hslash : ∀ {orgID signer stored}, Leads s orgID signer stored → slash ∉ orgID :=
    fun hsigned => hgoverned.registry.slash_notMem (view_of_get hsigned.found)
  cases h with
  | registerOrg msg basic below fresh unowned =>
    have hleader := MsgRegisterOrg.leader_ne_nil basic
    refine ⟨hs.orgs.set ⟨rfl, hregister msg rfl⟩, hs.members.set ⟨rfl, ?_, hleader⟩, hs.configs⟩
    exact slash_notMem_formatOrgID _
  | addMember msg stored basic signed active fresh =>
    have hpubkey := (MsgAddMember.validateBasic_iff.mp basic).2.2.1
    have hmember : Recorded { s with
        member := s.member.set (memberKey msg.orgId msg.pubkey) msg.member } :=
      hs.setMember rfl (hslash signed) hpubkey
    exact hmember.setOrg signed.found rfl id
  | removeMember msg stored member basic signed active found role =>
    have hmember : Recorded { s with member := s.member.delete (memberKey msg.orgId msg.pubkey) } :=
      ⟨hs.orgs, hs.members.delete _, hs.configs⟩
    exact hmember.setOrg signed.found rfl id
  | updateParams msg signed valid => exact ⟨hs.orgs, hs.members, hs.configs⟩
  | setOrgConfig msg stored basic signed => exact ⟨hs.orgs, hs.members, hs.configs.set rfl⟩
  | grantTrialAllowance blockTime msg stored basic signed => exact hs
  | setMemberCapabilities msg stored member basic signed active found =>
    obtain ⟨hkey, hslash, hpubkey⟩ := hs.members _ member found
    exact hs.setMember hkey hslash hpubkey
  | transferLeadership msg stored member basic signed found =>
    obtain ⟨leader, hleader, -⟩ := (hgoverned.led _ _ (view_of_get signed.found)).leader
    rw [get_roster] at hleader
    obtain ⟨promoted, hpromoted⟩ := exists_setRole (k := memberKey msg.orgId stored.leader) found
      (ascii "member")
    have hdemotion := forall_setRole hs.members hleader (ascii "member") id
    have hmember : Recorded { s with
        member := setRole (setRole s.member (memberKey msg.orgId stored.leader) (ascii "member"))
          (memberKey msg.orgId msg.newLeader) (ascii "leader") } :=
      ⟨hs.orgs, forall_setRole hdemotion hpromoted (ascii "leader") id, hs.configs⟩
    refine hmember.setOrg signed.found rfl fun hvalid => ?_
    exact Org.validate_withLeader hvalid (MsgTransferLeadership.newLeader_ne_nil basic) _
  | closeOrg msg stored basic signed active => exact hs.setOrg signed.found rfl id
  | setServingKey msg stored basic signed => exact hs.setOrg signed.found rfl id
  | setServingInfo msg stored basic signed => exact hs.setOrg signed.found rfl id

end Records

section Runs
variable {β γ : Type} {ext : Externals β γ} {authority : Bytes}

theorem Recorded.update {st : State β γ} (hs : Recorded st.store) {x : Except Error Store}
    {orgID : Bytes} (hx : ∀ s', x = .ok s' → CountersChanged orgID st.store s') :
    Recorded (st.update x).store := by
  cases x with
  | error e => exact hs
  | ok s' => exact hs.counters (hx s' rfl)

theorem Recorded.next {st : State β γ} (hs : Recorded st.store) (hgoverned : Governed st.store)
    (input : Input β γ) : Recorded ((chain ext authority).next st input).store := by
  cases input with
  | msg msg =>
    change Recorded (deliver ext authority st msg).1.store
    rcases deliver_cases ext authority st msg with ⟨e, he⟩ | ⟨response, hresponse, hstored⟩
    · rwa [he]
    · apply hstored.recorded hs hgoverned
      rintro register rfl
      exact deliver_validated hresponse
  | committed orgID => exact hs.update fun s' h => incrementOrgCommittedMemories_ok h
  | upheld orgID => exact hs.update fun s' h => incrementOrgUpheldReports_ok h
  | activity orgID epoch => exact hs.update fun s' h => setOrgLastActivityEpoch_ok h
  | others bank feegrant => exact hs

theorem recorded_run (ext : Externals β γ) (authority : Bytes) (params : Option Params) (bank : β)
    (feegrant : γ) (inputs : List (Input β γ)) :
    Governed ((chain ext authority).run ⟨{ params := params }, bank, feegrant⟩ inputs).store ∧
      Recorded ((chain ext authority).run ⟨{ params := params }, bank, feegrant⟩ inputs).store :=
  (chain ext authority).run_always (I := fun st => Governed st.store ∧ Recorded st.store)
    (fun _ input hs => ⟨hs.1.next input, hs.2.next hs.1 input⟩)
    ⟨governed_empty params, recorded_empty params⟩ inputs

end Runs

end WeVibeChain.Orgs
