import WeVibeChain.OrgConsistency
import WeVibeChain.OrgRecords

/-!
# x/org: the members of each org

The members of an org are those that the accepted messages for it have made: its
founding leader, and everybody who was added, as long as they have not been removed
since. A leader who hands over stays a member and can be removed like one. What is
accepted for one org leaves the others as they are.
-/

set_option autoImplicit false

namespace WeVibeChain.Orgs

open Bytes

section Log
variable {β γ : Type} (ext : Externals β γ) (authority : Bytes)

/-- The message with its response, if it is accepted. -/
def acceptedMessage (st : State β γ) : Input β γ → Option (Msg × Response)
  | .msg msg => (deliver ext authority st msg).2.toOption.map fun response => (msg, response)
  | .committed _ | .upheld _ | .activity _ _ | .others _ _ => none

/-- The accepted messages of a run. -/
def acceptedMessages (st : State β γ) (inputs : List (Input β γ)) : List (Msg × Response) :=
  (((chain ext authority).withOutput (acceptedMessage ext authority)).history st inputs).filterMap id

/-- The message founds the org with the leader `p` or adds `p` to it. -/
def Enrols (orgID p : Bytes) : Msg × Response → Prop
  | (.registerOrg msg, .registered founded) => founded = orgID ∧ msg.leader = p
  | (.addMember msg, _) => msg.orgId = orgID ∧ msg.pubkey = p
  | _ => False

def Removes (orgID p : Bytes) : Msg × Response → Prop
  | (.removeMember msg, _) => msg.orgId = orgID ∧ msg.pubkey = p
  | _ => False

/-- The org that the message is for. A registration is for the org that it founds. -/
def Msg.target (s : Store) : Msg → Option Bytes
  | .registerOrg _ => some (formatOrgID (getNextSlot s))
  | msg => msg.orgID

end Log

section Steps
variable {β γ : Type} {ext : Externals β γ} {authority : Bytes} {s s' : Store} {msg : Msg}
  {response : Response} {orgID p : Bytes}

/-- Who is in the org that a message is for, after the message. -/
theorem apply_has_iff {v : View} (hled : v.Led) (hallowed : msg.Allowed v)
    (hid : msg.orgID = some orgID) (response : Response) :
    (msg.apply v).roster.has p = true ↔
      Enrols orgID p (msg, response) ∨ v.roster.has p = true ∧ ¬ Removes orgID p (msg, response) := by
  have hkept : v.roster.has p = true ↔ False ∨ v.roster.has p = true ∧ ¬ False := by simp
  cases msg with
  | registerOrg => cases hid
  | updateParams => cases hid
  | addMember msg =>
    obtain rfl := Option.some.inj hid
    refine OrderedMap.has_set_iff.trans (or_congr ?_ ?_)
    · exact ⟨fun h => ⟨rfl, h.symm⟩, fun h => h.2.symm⟩
    · exact (and_iff_left id).symm
  | removeMember msg =>
    obtain rfl := Option.some.inj hid
    refine OrderedMap.has_delete_iff.trans ?_
    refine Iff.trans ?_ (or_iff_right id).symm
    exact ⟨fun h => ⟨h.2, fun hremoves => h.1 hremoves.2.symm⟩,
      fun h => ⟨fun heq => h.2 ⟨rfl, heq.symm⟩, h.1⟩⟩
  | setMemberCapabilities msg =>
    obtain ⟨-, member, hfound⟩ := hallowed
    unfold Msg.apply
    simp only [hfound]
    rw [OrderedMap.has_set_of_get_some hfound]
    exact hkept
  | transferLeadership msg =>
    obtain ⟨member, hfound⟩ := hallowed
    obtain ⟨leader, hleader, -⟩ := hled.leader
    obtain ⟨record, hrecord⟩ := exists_setRole (k := v.record.leader) hfound (ascii "member")
    change (setRole (setRole v.roster v.record.leader (ascii "member")) msg.newLeader
      (ascii "leader")).has p = true ↔ _
    rw [setRole, OrderedMap.has_set_of_get_some hrecord, setRole,
      OrderedMap.has_set_of_get_some hleader]
    exact hkept
  | setOrgConfig | grantTrialAllowance | closeOrg | setServingKey | setServingInfo => exact hkept

/-- An accepted message leaves every org as it is that it is not for. -/
theorem Stored.sameOrg (h : Stored ext authority s msg response s') (hs : Registry s)
    (hslash : slash ∉ orgID) (htarget : msg.target s ≠ some orgID) : SameOrg orgID s s' := by
  cases hid : msg.orgID with
  | some target =>
    obtain ⟨v, hv, -⟩ := h.view_target hid
    refine (h.confined hid).sameOrg (hs.slash_notMem hv) hslash ?_
    rintro rfl
    cases msg with
    | registerOrg => cases hid
    | _ => exact htarget hid
  | none =>
    cases h with
    | registerOrg register =>
      refine (registeredStore_confined s _).sameOrg (slash_notMem_formatOrgID _) hslash ?_
      rintro rfl
      exact htarget rfl
    | updateParams => exact ⟨rfl, rfl, rfl⟩
    | _ => cases hid

theorem not_enrols_of_target (h : Stored ext authority s msg response s')
    (htarget : msg.target s ≠ some orgID) :
    ¬ Enrols orgID p (msg, response) ∧ ¬ Removes orgID p (msg, response) := by
  cases h with
  | registerOrg => exact ⟨fun henrols => htarget (congrArg some henrols.1), id⟩
  | addMember => exact ⟨fun henrols => htarget (congrArg some henrols.1), id⟩
  | removeMember => exact ⟨id, fun hremoves => htarget (congrArg some hremoves.1)⟩
  | _ => exact ⟨id, id⟩

theorem Stored.has_iff (h : Stored ext authority s msg response s') (hs : Governed s)
    (hslash : slash ∉ orgID) :
    (roster s' orgID).has p = true ↔
      Enrols orgID p (msg, response) ∨
        (roster s orgID).has p = true ∧ ¬ Removes orgID p (msg, response) := by
  by_cases htarget : msg.target s = some orgID
  · cases hid : msg.orgID with
    | some target =>
      obtain ⟨v, hv, -, hallowed, hv'⟩ := h.view_target hid
      have heq : target = orgID := by
        cases msg with
        | registerOrg => cases hid
        | _ => exact Option.some.inj (hid.symm.trans htarget)
      subst heq
      rw [(get_of_view hv).2.1, (get_of_view hv').2.1]
      exact apply_has_iff (hs.led _ _ hv) hallowed hid response
    | none =>
      cases h with
      | registerOrg register _ _ fresh =>
        obtain rfl := Option.some.inj htarget
        have hroster : roster (registeredStore s (register.org.atSlot ext (getNextSlot s)))
            (formatOrgID (getNextSlot s)) = OrderedMap.set ∅ register.leader
              { orgID := formatOrgID (getNextSlot s), pubkey := register.leader,
                role := ascii "leader" } :=
          (get_of_view (hs.registry.view_registered hslash fresh)).2.1
        rw [hroster, hs.registry.roster_eq_empty hslash fresh, OrderedMap.has_set_iff]
        refine or_congr ⟨fun heq => ⟨rfl, heq.symm⟩, fun henrols => henrols.2.symm⟩ ?_
        exact (and_iff_left id).symm
      | updateParams => cases htarget
      | _ => cases hid
  · obtain ⟨henrols, hremoves⟩ := not_enrols_of_target (p := p) h htarget
    rw [(h.sameOrg hs.registry hslash htarget).roster, or_iff_right henrols,
      and_iff_left hremoves]

end Steps

section Runs
variable {β γ : Type} {ext : Externals β γ} {authority : Bytes} {orgID p : Bytes}

/-- The members of every org are those of the accepted messages. -/
def MembersLogged (s : Store) (log : List (Msg × Response)) : Prop :=
  ∀ orgID p, slash ∉ orgID →
    ((roster s orgID).has p = true ↔ EnteredSince (Enrols orgID p) (Removes orgID p) log)

theorem MembersLogged.update {st : State β γ} {log : List (Msg × Response)}
    (h : MembersLogged st.store log) {x : Except Error Store}
    (hx : ∀ s', x = .ok s' → s'.member = st.store.member) :
    MembersLogged (st.update x).store (log ++ []) := by
  rw [List.append_nil]
  cases x with
  | error e => exact h
  | ok s' =>
    intro orgID p hslash
    rw [← h orgID p hslash]
    unfold State.update roster
    rw [hx s' rfl]

theorem CountersChanged.member_eq {s s' : Store} (h : CountersChanged orgID s s') :
    s'.member = s.member := by
  obtain ⟨stored, committed, upheld, activity, -, rfl⟩ := h
  rfl

theorem MembersLogged.next {st : State β γ} {log : List (Msg × Response)}
    (h : MembersLogged st.store log) (hs : Governed st.store) (input : Input β γ) :
    MembersLogged ((chain ext authority).next st input).store
      (log ++ (acceptedMessage ext authority st input).toList) := by
  cases input with
  | msg msg =>
    change MembersLogged (deliver ext authority st msg).1.store (log ++ Option.toList
      ((deliver ext authority st msg).2.toOption.map fun response => (msg, response)))
    rcases deliver_cases ext authority st msg with ⟨e, he⟩ | ⟨response, hresponse, hstored⟩
    · rw [he]
      simpa [Except.toOption] using h
    · rw [hresponse]
      intro orgID p hslash
      change _ ↔ EnteredSince _ _ (log ++ [(msg, response)])
      rw [enteredSince_append_singleton, ← h orgID p hslash]
      exact hstored.has_iff hs hslash
  | committed orgID =>
    exact h.update fun s' hx => (incrementOrgCommittedMemories_ok hx).member_eq
  | upheld orgID =>
    exact h.update fun s' hx => (incrementOrgUpheldReports_ok hx).member_eq
  | activity orgID epoch =>
    exact h.update fun s' hx => (setOrgLastActivityEpoch_ok hx).member_eq
  | others bank feegrant =>
    rw [acceptedMessage, Option.toList_none, List.append_nil]
    exact h

theorem membersLogged_run (ext : Externals β γ) (authority : Bytes) (params : Option Params)
    (bank : β) (feegrant : γ) (inputs : List (Input β γ)) :
    MembersLogged ((chain ext authority).run ⟨{ params := params }, bank, feegrant⟩ inputs).store
      (acceptedMessages ext authority ⟨{ params := params }, bank, feegrant⟩ inputs) := by
  let m := (chain ext authority).withOutput (acceptedMessage ext authority)
  have hall := m.along_true ⟨{ params := params }, bank, feegrant⟩ inputs
  have hstart : MembersLogged { params := params }
      (([] : List (Option (Msg × Response))).filterMap id) :=
    fun orgID p _ => iff_of_false nofun not_enteredSince_nil
  have hrun := m.run_history_invariant (I := fun st log => Governed st.store ∧
    MembersLogged st.store (log.filterMap id)) ?_ ⟨governed_empty params, hstart⟩ hall
  · rw [Machine.run_withOutput] at hrun
    exact hrun.2
  · rintro st log input ⟨hs, hlogged⟩ -
    have hentry : [acceptedMessage ext authority st input].filterMap id =
        (acceptedMessage ext authority st input).toList := by
      cases acceptedMessage ext authority st input with
      | none => rfl
      | some entry => rfl
    rw [Machine.next_withOutput, Machine.output_withOutput, List.filterMap_append, hentry]
    exact ⟨hs.next input, hlogged.next hs input⟩

theorem Recorded.get_roster_names {s : Store} (hs : Recorded s) (hslash : slash ∉ orgID)
    {member : MemberRecord} (hget : (roster s orgID).get p = some member) :
    member.orgID = orgID ∧ member.pubkey = p := by
  rw [get_roster] at hget
  obtain ⟨hkey, hmember, -⟩ := hs.members _ member hget
  exact (memberKey_inj hmember hslash).mp hkey

theorem Recorded.pubkeys_eq {s : Store} (hs : Recorded s) (hslash : slash ∉ orgID) :
    (getAllMembers s orgID).map (·.pubkey) = (roster s orgID).keys := by
  rw [getAllMembers_eq, OrderedMap.values, OrderedMap.keys, List.map_map]
  refine List.map_congr_left fun e he => ?_
  exact (hs.get_roster_names hslash (OrderedMap.get_eq_some_iff.mpr he)).2

/-- What the list of an org's members is, and that it stays as it is under messages for others. -/
structure Isolated (ext : Externals β γ) (authority : Bytes) (st : State β γ)
    (log : List (Msg × Response)) (orgID : Bytes) : Prop where
  /-- Every member is of the org. -/
  ofOrg : ∀ member ∈ getAllMembers st.store orgID, member.orgID = orgID
  /-- Each is there once. -/
  once : ((getAllMembers st.store orgID).map (·.pubkey)).Nodup
  /-- They are the founding leader and whoever was added, and not removed since. -/
  members : ∀ p, p ∈ (getAllMembers st.store orgID).map (·.pubkey) ↔
    EnteredSince (Enrols orgID p) (Removes orgID p) log
  /-- A message that is accepted for another org changes nothing of this one. -/
  frame : ∀ msg response, (deliver ext authority st msg).2 = .ok response →
    msg.target st.store ≠ some orgID →
      SameOrg orgID st.store (deliver ext authority st msg).1.store ∧
        getAllMembers (deliver ext authority st msg).1.store orgID = getAllMembers st.store orgID

/-- In every state that the messages lead to from an empty store, every org has the members that
the accepted messages gave it, and is changed by messages for itself only. -/
theorem orgs_are_isolated (ext : Externals β γ) (authority : Bytes) (params : Option Params)
    (bank : β) (feegrant : γ) (inputs : List (Input β γ)) (orgID : Bytes)
    (horg : hasOrg ((chain ext authority).run ⟨{ params := params }, bank, feegrant⟩
      inputs).store orgID = true) :
    Isolated ext authority
      ((chain ext authority).run ⟨{ params := params }, bank, feegrant⟩ inputs)
      (acceptedMessages ext authority ⟨{ params := params }, bank, feegrant⟩ inputs) orgID := by
  obtain ⟨hs, hrecorded⟩ := recorded_run ext authority params bank feegrant inputs
  have hlogged := membersLogged_run ext authority params bank feegrant inputs
  generalize (chain ext authority).run ⟨{ params := params }, bank, feegrant⟩ inputs = st at *
  have hslash : slash ∉ orgID := by
    obtain ⟨record, hget⟩ := OrderedMap.has_iff.mp horg
    exact hs.registry.slash_notMem (view_of_get hget)
  refine ⟨?_, ?_, ?_, ?_⟩
  · intro member hmember
    rw [getAllMembers_eq, OrderedMap.mem_values_iff] at hmember
    obtain ⟨p, hget⟩ := hmember
    exact (hrecorded.get_roster_names hslash hget).1
  · rw [hrecorded.pubkeys_eq hslash]
    exact OrderedMap.keys_nodup _
  · intro p
    rw [hrecorded.pubkeys_eq hslash, OrderedMap.mem_keys_iff]
    exact hlogged orgID p hslash
  · intro msg response hresponse htarget
    rcases deliver_cases ext authority st msg with ⟨e, he⟩ | ⟨response', -, hstored⟩
    · rw [he] at hresponse
      cases hresponse
    · have hsame := hstored.sameOrg hs.registry hslash htarget
      refine ⟨hsame, ?_⟩
      rw [getAllMembers_eq, getAllMembers_eq, hsame.roster]

end Runs

section Sample

/-- Two orgs, and a member of the second whose key has the id of the first in it. -/
def sampleSlashInputs : List (Input Unit (List (Bytes × Bytes))) :=
  [.msg (.registerOrg sampleRegister), .msg (.registerOrg sampleRegisterSecond),
    .msg (.addMember { sampleAdd 2 with
      signer := sampleAddress 1, orgId := formatOrgID 1, pubkey := ascii "1/wevibe-org-0/2" })]

theorem sample_org_is_isolated :
    (getAllMembers (sampleChain.run sampleStart sampleSlashInputs).store
        (formatOrgID 1)).length = 2 ∧
      hasOrg (sampleChain.run sampleStart sampleSlashInputs).store (formatOrgID 0) = true ∧
      Isolated sampleExternals (ascii "gov") (sampleChain.run sampleStart sampleSlashInputs)
        (acceptedMessages sampleExternals (ascii "gov") sampleStart sampleSlashInputs)
        (formatOrgID 0) := by
  have horg : hasOrg (sampleChain.run sampleStart sampleSlashInputs).store (formatOrgID 0) =
      true := by
    decide +kernel
  exact ⟨by decide +kernel, horg, orgs_are_isolated sampleExternals (ascii "gov") none () []
    sampleSlashInputs (formatOrgID 0) horg⟩

end Sample

end WeVibeChain.Orgs
