import WeVibeChain.OrgConsistency

/-!
# x/org: one org for each leader

A registration looks through all orgs for the leader it names. A transfer does
not: it can make somebody the leader of a second org.
-/

set_option autoImplicit false

namespace WeVibeChain.Orgs

open Bytes

section OneOrgEach
variable {β γ : Type} {ext : Externals β γ} {authority : Bytes} {s s' : Store}

def LeadersDistinct (s : Store) : Prop :=
  ∀ k k' record record', s.org.get k = some record → s.org.get k' = some record' →
    record.leader = record'.leader → k = k'

/-- Every record away from `w` was there before with the same leader. -/
def LeadersKept (w : Option Bytes) (s s' : Store) : Prop :=
  ∀ k record', s'.org.get k = some record' → w ≠ some k →
    ∃ record, s.org.get k = some record ∧ record.leader = record'.leader

theorem LeadersDistinct.kept (hs : LeadersDistinct s) (h : LeadersKept none s s') :
    LeadersDistinct s' := by
  intro k k' record record' hget hget' heq
  obtain ⟨old, hold, hleader⟩ := h k record hget nofun
  obtain ⟨old', hold', hleader'⟩ := h k' record' hget' nofun
  exact hs k k' old old' hold hold' (hleader.trans (heq.trans hleader'.symm))

/-- One record gets a leader whom no other record names. -/
theorem LeadersDistinct.appointed (hs : LeadersDistinct s) (leader : Bytes) {w : Bytes}
    (h : LeadersKept (some w) s s') (hnew : ∀ record, s'.org.get w = some record →
      record.leader = leader)
    (hfree : ∀ k record, k ≠ w → s.org.get k = some record → record.leader ≠ leader) :
    LeadersDistinct s' := by
  have hother : ∀ k record, k ≠ w → s'.org.get k = some record → record.leader ≠ leader := by
    intro k record hk hget heq
    obtain ⟨old, hold, hleader⟩ := h k record hget (by simpa using Ne.symm hk)
    exact hfree k old hk hold (hleader.trans heq)
  intro k k' record record' hget hget' heq
  by_cases hk : k = w <;> by_cases hk' : k' = w
  · rw [hk, hk']
  · exact absurd (heq.symm.trans (hnew record (hk ▸ hget))) (hother k' record' hk' hget')
  · exact absurd (heq.trans (hnew record' (hk' ▸ hget'))) (hother k record hk hget)
  · obtain ⟨old, hold, hleader⟩ := h k record hget (by simpa using Ne.symm hk)
    obtain ⟨old', hold', hleader'⟩ := h k' record' hget' (by simpa using Ne.symm hk')
    exact hs k k' old old' hold hold' (hleader.trans (heq.trans hleader'.symm))

theorem Confined.leadersKept {orgID : Bytes} (h : Confined orgID s s') :
    LeadersKept (some (orgKey orgID)) s s' := by
  intro k record hget hk
  rw [h.org k (by rintro rfl; exact hk rfl)] at hget
  exact ⟨record, hget, rfl⟩

theorem Confined.leadersKept_of_leader {orgID : Bytes} {v v' : View} (h : Confined orgID s s')
    (before : view s orgID = some v) (after : view s' orgID = some v')
    (hleader : v'.record.leader = v.record.leader) : LeadersKept none s s' := by
  intro k record hget _
  by_cases hk : k = orgKey orgID
  · rw [hk, (get_of_view after).1] at hget
    obtain rfl := Option.some.inj hget
    exact ⟨v.record, hk ▸ (get_of_view before).1, hleader.symm⟩
  · exact h.leadersKept k record hget (by simpa using Ne.symm hk)

theorem CountersChanged.leadersKept {orgID : Bytes} (h : CountersChanged orgID s s') :
    LeadersKept none s s' := by
  have hconfined := h.confined
  obtain ⟨stored, committed, upheld, activity, hget, rfl⟩ := h
  exact hconfined.leadersKept_of_leader (view_of_get hget)
    (view_of_get (OrderedMap.get_set_self _ _ _)) rfl

/-- The new leader leads no other org. -/
def MsgTransferLeadership.ToFree (s : Store) (transfer : MsgTransferLeadership) : Prop :=
  ∀ other record, other ≠ transfer.orgId → s.org.get (orgKey other) = some record →
    record.leader ≠ transfer.newLeader

/-- A transfer that is accepted goes to somebody who leads no other org. -/
def TransfersToFree (ext : Externals β γ) (authority : Bytes) (st : State β γ)
    (input : Input β γ) : Prop :=
  ∀ transfer response, input = .msg (.transferLeadership transfer) →
    (deliver ext authority st (.transferLeadership transfer)).2 = .ok response →
      transfer.ToFree st.store

theorem apply_leader {msg : Msg} (v : View) (h : ∀ m, msg ≠ .transferLeadership m) :
    (msg.apply v).record.leader = v.record.leader := by
  cases msg with
  | transferLeadership m => exact absurd rfl (h m)
  | setMemberCapabilities m => rw [apply_setMemberCapabilities_record]
  | _ => rfl

theorem Stored.leadersDistinct {msg : Msg} {response : Response}
    (h : Stored ext authority s msg response s') (hs : LeadersDistinct s) (hregistry : Registry s)
    (hfree : ∀ transfer, msg = .transferLeadership transfer → transfer.ToFree s) :
    LeadersDistinct s' := by
  cases hid : msg.orgID with
  | none =>
    cases h with
    | registerOrg msg basic below fresh unowned =>
      have hconfined := registeredStore_confined s (msg.org.atSlot ext (getNextSlot s))
      refine hs.appointed msg.leader hconfined.leadersKept ?_ ?_
      · intro record hget
        obtain rfl := Option.some.inj ((OrderedMap.get_set_self _ _ _).symm.trans hget)
        rfl
      · intro k record _ hget
        exact unowned k record hget
    | updateParams msg => exact hs
    | _ => cases hid
  | some orgID =>
    obtain ⟨v, hv, -, -, hv'⟩ := h.view_target hid
    have hconfined := h.confined hid
    by_cases htransfer : ∃ m, msg = .transferLeadership m
    · obtain ⟨m, rfl⟩ := htransfer
      obtain rfl := Option.some.inj hid
      refine hs.appointed m.newLeader hconfined.leadersKept ?_ ?_
      · intro record hget
        rw [(get_of_view hv').1] at hget
        exact Option.some.inj hget ▸ rfl
      · intro k record hk hget
        obtain ⟨n, -, rfl, -⟩ := hregistry.named k record hget
        exact hfree m rfl _ record (fun heq => hk (heq ▸ rfl)) hget
    · have hleader := apply_leader v fun m hm => htransfer ⟨m, hm⟩
      exact hs.kept (hconfined.leadersKept_of_leader hv hv' hleader)

theorem leaders_distinct_of_run (ext : Externals β γ) (authority : Bytes) (params : Option Params)
    (bank : β) (feegrant : γ) (inputs : List (Input β γ))
    (hfree : (chain ext authority).Along (TransfersToFree ext authority)
      ⟨{ params := params }, bank, feegrant⟩ inputs) :
    LeadersDistinct
      ((chain ext authority).run ⟨{ params := params }, bank, feegrant⟩ inputs).store := by
  refine ((chain ext authority).run_invariant
    (I := fun st => Governed st.store ∧ LeadersDistinct st.store) ?_ ?_ hfree).2
  · rintro st input ⟨hs, hdistinct⟩ hinput
    refine ⟨hs.next input, ?_⟩
    have hcounters : ∀ {x : Except Error Store} {orgID : Bytes},
        (∀ s', x = .ok s' → CountersChanged orgID st.store s') →
        LeadersDistinct (st.update x).store := by
      intro x orgID hx
      cases x with
      | error e => exact hdistinct
      | ok s' => exact hdistinct.kept (hx s' rfl).leadersKept
    cases input with
    | msg msg =>
      rcases deliver_cases ext authority st msg with ⟨e, he⟩ | ⟨response, haccepted, hstored⟩
      · have hnext : ((chain ext authority).next st (.msg msg)) = st := congrArg Prod.fst he
        rwa [hnext]
      · refine hstored.leadersDistinct hdistinct hs.registry ?_
        rintro transfer rfl
        exact hinput transfer response rfl haccepted
    | committed orgID => exact hcounters fun s' h => incrementOrgCommittedMemories_ok h
    | upheld orgID => exact hcounters fun s' h => incrementOrgUpheldReports_ok h
    | activity orgID epoch => exact hcounters fun s' h => setOrgLastActivityEpoch_ok h
    | others bank feegrant => exact hdistinct
  · exact ⟨governed_empty params, nofun⟩

def sampleTransfer : MsgTransferLeadership where
  signer := sampleAddress 0
  orgId := formatOrgID 0
  newLeader := formatUint 1
  newLeaderWallet := sampleAddress 2

/-- Two orgs with the leaders 0 and 1, and one more member of the first. -/
def sampleTwoOrgs (member : Nat) : List (Input Unit (List (Bytes × Bytes))) :=
  [.msg (.registerOrg sampleRegister),
    .msg (.registerOrg sampleRegisterSecond),
    .msg (.addMember (sampleAdd member))]

/-- The first org is handed to a member who leads no org. -/
theorem sample_leaders_distinct :
    (sampleChain.run sampleStart (sampleTwoOrgs 2 ++ [.msg (.transferLeadership
        { sampleTransfer with newLeader := formatUint 2 })])).store.org.values.map
          StoredOrg.leader = [formatUint 2, formatUint 1] ∧
      LeadersDistinct (sampleChain.run sampleStart (sampleTwoOrgs 2 ++ [.msg (.transferLeadership
        { sampleTransfer with newLeader := formatUint 2 })])).store := by
  refine ⟨by decide +kernel, leaders_distinct_of_run sampleExternals (ascii "gov") none () [] _
    ⟨nofun, nofun, nofun, ?_, trivial⟩⟩
  intro transfer _ hmsg _ other record _ hget hleader
  obtain rfl := Msg.transferLeadership.inj (Input.msg.inj hmsg)
  have hleaders : (sampleChain.run sampleStart (sampleTwoOrgs 2)).store.org.values.map
      StoredOrg.leader = [formatUint 0, formatUint 1] := by decide +kernel
  have hmem := List.mem_map_of_mem (f := StoredOrg.leader)
    (OrderedMap.mem_values_iff.mpr ⟨_, hget⟩)
  rw [hleader] at hmem
  change formatUint 2 ∈ (sampleChain.run sampleStart (sampleTwoOrgs 2)).store.org.values.map
    StoredOrg.leader at hmem
  rw [hleaders] at hmem
  exact absurd hmem (by decide)

/-- When the first org is handed to the leader of the second, both have the same leader. -/
theorem sample_same_leader_twice :
    ¬ LeadersDistinct (sampleChain.run sampleStart
      (sampleTwoOrgs 1 ++ [.msg (.transferLeadership sampleTransfer)])).store := by
  have hfirst : ((sampleChain.run sampleStart
      (sampleTwoOrgs 1 ++ [.msg (.transferLeadership sampleTransfer)])).store.org.get
        (orgKey (formatOrgID 0))).map StoredOrg.leader = some (formatUint 1) := by decide +kernel
  have hsecond : ((sampleChain.run sampleStart
      (sampleTwoOrgs 1 ++ [.msg (.transferLeadership sampleTransfer)])).store.org.get
        (orgKey (formatOrgID 1))).map StoredOrg.leader = some (formatUint 1) := by decide +kernel
  obtain ⟨record, hget, hleader⟩ := Option.map_eq_some_iff.mp hfirst
  obtain ⟨record', hget', hleader'⟩ := Option.map_eq_some_iff.mp hsecond
  intro hdistinct
  have hkeys := hdistinct _ _ record record' hget hget' (hleader.trans hleader'.symm)
  exact absurd hkeys (by decide)

end OneOrgEach

end WeVibeChain.Orgs
