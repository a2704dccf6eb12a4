import WeVibeChain.Application
import WeVibeChain.MemoryEpochs
import WeVibeChain.ReputationProfiles

/-!
# The records of x/memory and the counters beside them

Approving and reporting a memory moves counters in the org's record and in the
profiles of x/reputation. Here x/reputation is followed as well: its messages are
among the inputs, and nothing else changes its store. Of everything that can
happen only an accepted approval and an accepted report touch the records that
are counted; a message of the authority may touch the profiles of contributors.
-/

set_option autoImplicit false

namespace WeVibeChain.Orgs

open Bytes

section Totals
variable {s s' : Store} {orgID : Bytes}

/-- The committed memories and the upheld reports that the org's record counts. An org that is not
there has none. -/
def totals (s : Store) (orgID : Bytes) : UInt64 × UInt64 :=
  ((s.org.get (orgKey orgID)).map fun record =>
    (record.totalCommittedMemories, record.totalUpheldReports)).getD (0, 0)

theorem totals_of_get {record : StoredOrg} (h : s.org.get (orgKey orgID) = some record) :
    totals s orgID = (record.totalCommittedMemories, record.totalUpheldReports) := by
  rw [totals, h, Option.map_some, Option.getD_some]

theorem totals_set (s : Store) (target : Bytes) (record : StoredOrg) (orgID : Bytes) :
    totals { s with org := s.org.set (orgKey target) record } orgID =
      if target = orgID then (record.totalCommittedMemories, record.totalUpheldReports)
      else totals s orgID := by
  by_cases hsame : target = orgID
  · subst hsame
    rw [if_pos rfl]
    exact totals_of_get (OrderedMap.get_set_self _ _ _)
  · rw [if_neg hsame, totals, totals, OrderedMap.get_set_of_ne]
    intro hkey
    exact hsame (orgKey_inj.mp hkey).symm

theorem totals_congr (h : s'.org.get (orgKey orgID) = s.org.get (orgKey orgID)) :
    totals s' orgID = totals s orgID := by
  rw [totals, totals, h]

/-- The messages of the module count neither memories nor reports. -/
theorem apply_totals (v : View) (msg : Msg) :
    (msg.apply v).record.totalCommittedMemories = v.record.totalCommittedMemories ∧
      (msg.apply v).record.totalUpheldReports = v.record.totalUpheldReports := by
  cases msg with
  | setMemberCapabilities msg =>
    rw [apply_setMemberCapabilities_record]
    exact ⟨rfl, rfl⟩
  | _ => exact ⟨rfl, rfl⟩

variable {β γ : Type} {ext : Externals β γ} {authority : Bytes} {msg : Msg} {response : Response}

theorem Stored.totals (h : Stored ext authority s msg response s') (orgID : Bytes) :
    totals s' orgID = totals s orgID := by
  cases hid : msg.orgID with
  | some target =>
    obtain ⟨v, hv, -, -, hv'⟩ := h.view_target hid
    by_cases hsame : orgID = target
    · subst hsame
      rw [totals_of_get (get_of_view hv).1, totals_of_get (get_of_view hv').1,
        (apply_totals v msg).1, (apply_totals v msg).2]
    · apply totals_congr
      apply (h.confined hid).org
      intro hkey
      exact hsame (orgKey_inj.mp hkey)
  | none =>
    cases h with
    | registerOrg m basic below fresh unowned =>
      by_cases hsame : orgID = formatOrgID (getNextSlot s)
      · -- A new org starts with the totals that an org without a record has.
        subst hsame
        rw [totals_of_get (OrderedMap.get_set_self _ _ _), Orgs.totals, fresh]
        rfl
      · apply totals_congr
        apply OrderedMap.get_set_of_ne
        intro hkey
        exact hsame (orgKey_inj.mp hkey)
    | updateParams m => rfl
    | _ => cases hid

end Totals

end WeVibeChain.Orgs

namespace WeVibeChain.Serve

section Profiles
variable {crypto : Crypto} {scopeTagsOf : Bytes → Option (OrderedMap Bytes Bytes)}
  {st st' : State}

theorem recordServeReputation_profiles (memory : Memory.Store) (reputation : Reputation.Store)
    (r : ServeReceipt) :
    Reputation.SameProfiles reputation (recordServeReputation memory reputation r) := by
  unfold recordServeReputation
  split
  · exact .refl reputation
  split
  · exact .refl reputation
  split
  · exact .refl reputation
  · rename_i recorded hrecorded
    exact Reputation.recordServe_profiles hrecorded

theorem submitServeBatch_profiles {m : MsgSubmitServeBatch} {result : BatchResult}
    (h : submitServeBatch crypto scopeTagsOf st m = .ok (st', result)) :
    Reputation.SameProfiles st.reputation st'.reputation := by
  obtain ⟨-, -, bandwidth, -, hserves⟩ := submitServeBatch_ok h
  refine processServes_invariant
    (I := fun t _ => Reputation.SameProfiles st.reputation t.reputation) ?_ ?_ hserves
  rotate_left
  · exact .refl _
  intro t r serve _ t' outcome ht hstep
  rcases processServe_cases hstep with ⟨rfl, -⟩ | ⟨-, rfl, -⟩
  · exact ht
  · exact ht.trans (recordServeReputation_profiles _ _ _)

theorem deliver_profiles (crypto : Crypto)
    (scopeTagsOf : Bytes → Option (OrderedMap Bytes Bytes)) (authority : Bytes) (st : State)
    (msg : Msg) :
    Reputation.SameProfiles st.reputation
      (deliver crypto scopeTagsOf authority st msg).1.reputation := by
  have hdelivered := deliver_delivered crypto scopeTagsOf authority st msg
  generalize (deliver crypto scopeTagsOf authority st msg).1 = st' at hdelivered ⊢
  cases hdelivered with
  | serveBatch hok => exact submitServeBatch_profiles hok
  | denialBatch hok =>
    obtain ⟨-, rfl⟩ := submitDenialBatch_ok hok
    exact .refl _
  | failed | eventBatch | policyVersion | params => exact .refl _

end Profiles

end WeVibeChain.Serve

namespace WeVibeChain.Memory

/-- Without validity metadata nothing expires. -/
theorem checkEpochExpiry_of_validity_empty {s : Store} (h : s.validity = ∅) (epoch : UInt64) :
    (checkEpochExpiry s epoch).1 = s := by
  have hnone : s.validity.entries.filter (fun e => isExpired epoch e.2) = [] := by
    rw [h]
    rfl
  rw [checkEpochExpiry, hnone]
  rfl

/-- Without validity metadata the end of an epoch archives nothing. -/
theorem afterEpochEnd_of_validity_empty (sha256 : Bytes → Bytes)
    (foreign : Entry → Option StoredMemoryCommitment) {s : Store} (h : s.validity = ∅) (n : Int64) :
    ∃ merkle, (afterEpochEnd sha256 foreign s weVibeEpochIdentifier n).1 =
      { s with currentEpoch := some n.toUInt64, merkle := merkle } := by
  obtain ⟨merkle, hframe⟩ := afterEpochEnd_frame sha256 foreign s n
  rw [checkEpochExpiry_of_validity_empty (s := setCurrentEpoch s n.toUInt64) h] at hframe
  exact ⟨merkle, hframe⟩

end WeVibeChain.Memory

namespace WeVibeChain.Counters

open Bytes
open Application (Env State)
open Memory (MsgApproveMemory MsgReportMemory PendingCommitment)

section Runs
variable {β γ : Type} (env : Env β γ)

/-- What can happen: a message of one of the modules, the end of an epoch, or a change of what the
remaining modules keep. -/
inductive Input (β γ : Type) where
  | msg (msg : Application.Msg)
  | reputation (msg : Reputation.Msg)
  | epochEnd (n : Int64)
  | others (bandwidth : Bandwidth.Store) (bank : β) (feegrant : γ)

/-- The same as an input of the chain in which x/reputation may change in any way. -/
def Input.toApplication (st : State β γ) : Input β γ → Application.Input β γ
  | .msg m => .msg m
  | .reputation m =>
    .others st.bandwidth (Reputation.deliver env.authority st.reputation m).1 st.bank st.feegrant
  | .epochEnd n => .epochEnd n
  | .others bandwidth bank feegrant => .others bandwidth st.reputation bank feegrant

abbrev Output := Option (Application.Msg × Except Application.Error Application.Response)

def step (st : State β γ) (input : Input β γ) : State β γ × Output :=
  Application.step env st (input.toApplication env st)

def chain : Machine (State β γ) (Input β γ) Output := ⟨step env⟩

/-- A state in which x/org, x/memory and x/reputation have their parameters and nothing else. -/
def emptied (st : State β γ) : State β γ :=
  { st with
    org := { params := st.org.params }
    memory := { params := st.memory.params }
    reputation := { active := st.reputation.active, params := st.reputation.params } }

/-- The report that an output says was accepted. -/
def reportOf : Output → Option MsgReportMemory
  | some (.memory (.reportMemory msg), .ok _) => some msg
  | _ => none

def acceptedReports (log : List Output) : List MsgReportMemory := log.filterMap reportOf

theorem acceptedReports_snoc (log : List Output) (output : Output) :
    acceptedReports (log ++ [output]) = acceptedReports log ++ (reportOf output).toList := by
  unfold acceptedReports
  rw [List.filterMap_append]
  cases hreport : reportOf output <;> simp [hreport]

theorem next_evolution (st : State β γ) (input : Input β γ) :
    ((chain env).next st input).org = st.org ∨
      Orgs.Evolution st.org ((chain env).next st input).org :=
  Application.next_evolution env st (input.toApplication env st)

end Runs

section Effects
variable {β γ : Type} {env : Env β γ} {st st' : State β γ}

/-- The records that are counted and the counters are the same, but perhaps for the profiles of
contributors. -/
structure SameBooks (st st' : State β γ) : Prop where
  approved : st'.memory.approved = st.memory.approved
  report : st'.memory.report = st.memory.report
  count : st'.memory.count = st.memory.count
  validity : st'.memory.validity = st.memory.validity
  totals : ∀ orgID, Orgs.totals st'.org orgID = Orgs.totals st.org orgID
  moderation : Reputation.SameModeration st.reputation st'.reputation

theorem SameBooks.refl (st : State β γ) : SameBooks st st :=
  ⟨rfl, rfl, rfl, rfl, fun _ => rfl, ⟨rfl, rfl⟩⟩

/-- The state after an accepted approval. -/
def approvedState (env : Env β γ) (st : State β γ) (msg : MsgApproveMemory)
    (pending : PendingCommitment) (record : Orgs.StoredOrg) : State β γ :=
  { st with
    memory := Memory.approvedStore st.memory (msg.approval env.crypto) pending
    org := { st.org with
      org := st.org.org.set (Orgs.orgKey msg.orgId)
        { record with
          totalCommittedMemories := record.totalCommittedMemories + 1
          lastActivityEpoch := pending.epoch } }
    reputation := Reputation.incrementLeaderChainCommit
      (Reputation.incrementContribution st.reputation pending.contributor msg.orgId)
      msg.committingLeader msg.orgId }

/-- The state after an accepted report. -/
def reportedState (st : State β γ) (msg : MsgReportMemory) (record : Orgs.StoredOrg) :
    State β γ :=
  { st with
    memory := { st.memory with
      report := st.memory.report.set
        (Memory.reportKey msg.orgId msg.contentHash msg.reporterPubkey) (msg.report 0) }
    org := { st.org with
      org := st.org.org.set (Orgs.orgKey msg.orgId)
        { record with
          totalUpheldReports := record.totalUpheldReports + 1
          lastActivityEpoch := Orgs.getCurrentEpoch st.org } }
    reputation := Reputation.incrementLeaderUpheldReport
      (msg.approvingModerators.foldl
        (fun r modPubkey => Reputation.incrementModeratorUpheld r modPubkey msg.orgId)
        (Reputation.incrementContribution st.reputation msg.contributorPubkey msg.orgId))
      msg.signer msg.orgId }

/-- The org is there and led by the one who commits, and a memory with the hash is pending and not
approved yet. -/
structure Approvable (st : State β γ) (msg : MsgApproveMemory) (pending : PendingCommitment)
    (record : Orgs.StoredOrg) : Prop where
  found : Memory.getPendingCommitment st.memory msg.orgId msg.contentHash = .ok pending
  fresh : st.memory.approved.get (Memory.approvedKey msg.orgId msg.contentHash) = none
  org : st.org.org.get (Orgs.orgKey msg.orgId) = some record
  leader : Orgs.isLeader st.org msg.orgId msg.committingLeader = true

/-- The org is there and the signer its leader wallet, the memory is approved, and the reporter has
not reported it before. -/
structure Reportable (st : State β γ) (msg : MsgReportMemory) (record : Orgs.StoredOrg) : Prop where
  known : st.memory.approved.has (Memory.approvedKey msg.orgId msg.contentHash) = true
  fresh : st.memory.report.get (Memory.reportKey msg.orgId msg.contentHash msg.reporterPubkey) = none
  org : st.org.org.get (Orgs.orgKey msg.orgId) = some record
  signer : msg.signer ≠ [] ∧ msg.signer = record.leaderWalletAddress

/-- Everything that can happen to the records and the counters. -/
inductive Booked (env : Env β γ) (st : State β γ) (input : Input β γ) : Output → State β γ → Prop
  | same {output : Output} {st' : State β γ} (books : SameBooks st st')
      (silent : reportOf output = none)
      (profile : (∀ msg, input = .reputation msg → msg.signer ≠ env.authority) →
        st'.reputation.profile = st.reputation.profile) :
      Booked env st input output st'
  | approved {output : Output} (msg : MsgApproveMemory) (pending : PendingCommitment)
      (record : Orgs.StoredOrg) (approvable : Approvable st msg pending record)
      (silent : reportOf output = none) :
      Booked env st input output (approvedState env st msg pending record)
  | reported {output : Output} (msg : MsgReportMemory) (record : Orgs.StoredOrg)
      (reportable : Reportable st msg record) (told : reportOf output = some msg) :
      Booked env st input output (reportedState st msg record)

theorem handle_approve {msg : MsgApproveMemory} {response : Application.Response}
    (h : Application.handle env st (.memory (.approveMemory msg)) = .ok (st', response)) :
    ∃ pending record, Approvable st msg pending record ∧
      st' = approvedState env st msg pending record := by
  obtain ⟨memory, hok, rfl⟩ := Application.handle_memory_eq h
  obtain ⟨-, -, -, happrove⟩ := Memory.approveMemoryMsg_ok hok
  obtain ⟨pending, record, hfound, -, hleader, hfresh, horg, rfl⟩ :=
    Memory.approveMemory_eq happrove
  exact ⟨pending, record, ⟨hfound, hfresh, horg, hleader⟩, rfl⟩

theorem handle_report {msg : MsgReportMemory} {response : Application.Response}
    (h : Application.handle env st (.memory (.reportMemory msg)) = .ok (st', response)) :
    ∃ record, Reportable st msg record ∧ st' = reportedState st msg record := by
  obtain ⟨memory, hok, rfl⟩ := Application.handle_memory_eq h
  obtain ⟨-, hwallet, hreport⟩ := Memory.reportMemoryMsg_ok hok
  obtain ⟨record, hknown, hfresh, horg, rfl⟩ := Memory.reportMemory_eq hreport
  obtain ⟨record', horg', hsigner⟩ := Memory.requireLeaderWallet_ok hwallet
  obtain rfl := Option.some.inj (horg.symm.trans horg')
  exact ⟨record, ⟨hknown, hfresh, horg, hsigner⟩, rfl⟩

/-- A well-formed report is accepted whenever that holds. -/
theorem handle_reportable {msg : MsgReportMemory} {record : Orgs.StoredOrg}
    (hbasic : msg.validateBasic = .ok ()) (hsizes : Memory.checkReportSizes msg = .ok ())
    (h : Reportable st msg record) :
    Application.handle env st (.memory (.reportMemory msg)) =
      .ok (reportedState st msg record, .memory) := by
  obtain ⟨hknown, hfresh, horg, hnonempty, hsigner⟩ := h
  have hwallet : Memory.requireLeaderWallet st.org msg.orgId msg.signer = .ok () := by
    simp [Memory.requireLeaderWallet, Orgs.getLeaderWallet, Orgs.getOrg, horg, Except.map,
      Orgs.storedToOrg, ← hsigner, hnonempty]
  have hreport : st.memory.report.has
      (Memory.reportKey msg.orgId msg.contentHash msg.reporterPubkey) = false :=
    OrderedMap.has_eq_false_iff.mpr hfresh
  simp [Application.handle, Application.State.memoryState, Memory.handle, Memory.reportMemoryMsg,
    Memory.reportMemory, hbasic, hsizes, hwallet, hknown, hreport,
    Orgs.incrementOrgUpheldReports, Orgs.modifyOrgAggregate, horg, reportedState]

theorem handle_booked {msg : Application.Msg} {response : Application.Response}
    (h : Application.handle env st msg = .ok (st', response)) :
    Booked env st (.msg msg) (some (msg, .ok response)) st' := by
  cases msg with
  | org msg =>
    obtain ⟨org, orgResponse, -, hstored, rfl⟩ := Application.handle_org_eq h
    exact .same ⟨rfl, rfl, rfl, rfl, hstored.totals, ⟨rfl, rfl⟩⟩ rfl fun _ => rfl
  | memory msg =>
    cases msg with
    | submitCommitment m =>
      obtain ⟨memory, hok, rfl⟩ := Application.handle_memory_eq h
      obtain ⟨-, -, hsubmit⟩ := Memory.submitCommitmentMsg_ok hok
      obtain ⟨-, -, rfl⟩ := Memory.submitCommitment_ok hsubmit
      exact .same ⟨rfl, rfl, rfl, rfl, fun _ => rfl, ⟨rfl, rfl⟩⟩ rfl fun _ => rfl
    | approveMemory m =>
      obtain ⟨pending, record, happrovable, rfl⟩ := handle_approve h
      exact .approved m pending record happrovable rfl
    | reportMemory m =>
      obtain ⟨record, hreportable, rfl⟩ := handle_report h
      exact .reported m record hreportable rfl
    | updateParams m =>
      obtain ⟨memory, hok, rfl⟩ := Application.handle_memory_eq h
      obtain rfl := Memory.updateParamsMsg_ok hok
      exact .same ⟨rfl, rfl, rfl, rfl, fun _ => rfl, ⟨rfl, rfl⟩⟩ rfl fun _ => rfl
  | serve msg =>
    obtain ⟨horg, hmemory, hprofiles⟩ : st'.org = st.org ∧ st'.memory = st.memory ∧
        Reputation.SameProfiles st.reputation st'.reputation := by
      obtain ⟨-, -, -, -, horg, hmemory⟩ := Application.handle_serve h
      refine ⟨horg, hmemory, ?_⟩
      have hkept := Serve.deliver_profiles env.crypto env.scopeTagsOf env.authority st.serveState msg
      unfold Application.handle at h
      dsimp only at h
      split at h
      · cases h
      · rename_i serve serveResponse hok
        obtain ⟨rfl, -⟩ := Prod.mk.inj (Except.ok.inj h)
        rwa [Serve.deliver, hok] at hkept
    refine .same ⟨?_, ?_, ?_, ?_, ?_, hprofiles.toSameModeration⟩ rfl fun _ => hprofiles.profile
    · rw [hmemory]
    · rw [hmemory]
    · rw [hmemory]
    · rw [hmemory]
    · intro orgID
      rw [horg]
  | bandwidth msg =>
    obtain ⟨bandwidth, rfl⟩ := Application.handle_bandwidth h
    exact .same ⟨rfl, rfl, rfl, rfl, fun _ => rfl, ⟨rfl, rfl⟩⟩ rfl fun _ => rfl

/-- As long as there is no validity metadata, one of these happens at each input. -/
theorem next_booked (env : Env β γ) (hvalidity : st.memory.validity = ∅) (input : Input β γ) :
    Booked env st input ((chain env).output st input) ((chain env).next st input) := by
  cases input with
  | msg msg =>
    change Booked env st (.msg msg) (some (msg, (Application.deliver env st msg).2))
      (Application.deliver env st msg).1
    rcases Application.deliver_cases env st msg with ⟨e, he⟩ | ⟨response, hanswer, hok⟩
    · rw [he]
      refine .same (.refl st) ?_ fun _ => rfl
      rcases msg with msg | (msg | msg | msg | msg) | msg | msg <;> rfl
    · rw [hanswer]
      exact handle_booked hok
  | reputation msg =>
    obtain ⟨hmoderation, hprofile⟩ :=
      Reputation.deliver_profiles env.authority st.reputation msg
    exact .same ⟨rfl, rfl, rfl, rfl, fun _ => rfl, hmoderation⟩ rfl
      fun hsigner => hprofile (hsigner msg rfl)
  | epochEnd n =>
    obtain ⟨merkle, hmemory⟩ :=
      Memory.afterEpochEnd_of_validity_empty env.crypto.sha256 env.foreign hvalidity n
    have hnext : (chain env).next st (.epochEnd n) =
        { st with memory := { st.memory with
            currentEpoch := some n.toUInt64
            merkle := merkle } } := by
      rw [← hmemory]
      rfl
    rw [hnext]
    exact .same ⟨rfl, rfl, rfl, rfl, fun _ => rfl, ⟨rfl, rfl⟩⟩ rfl fun _ => rfl
  | others bandwidth bank feegrant =>
    exact .same ⟨rfl, rfl, rfl, rfl, fun _ => rfl, ⟨rfl, rfl⟩⟩ rfl fun _ => rfl

end Effects

section Books
variable {β γ : Type} {env : Env β γ} {st : State β γ}

/-- What holds of the records in every state of a run. -/
structure Books (st : State β γ) : Prop where
  governed : Orgs.Governed st.org
  validity : st.memory.validity = ∅
  keyed : Reputation.Keyed st.reputation
  approved : st.memory.approved.Forall Memory.WellKeyed
  report : st.memory.report.Forall fun _ r =>
    st.memory.approved.has (Memory.approvedKey r.orgId r.contentHash) = true

theorem Books.slash_notMem (h : Books st) {orgID : Bytes} {record : Orgs.StoredOrg}
    (hget : st.org.org.get (Orgs.orgKey orgID) = some record) : slash ∉ orgID :=
  h.governed.registry.slash_notMem (Orgs.view_of_get hget)

theorem books_emptied (st : State β γ) : Books (emptied st) :=
  ⟨Orgs.governed_empty _, rfl, ⟨OrderedMap.forall_empty, OrderedMap.forall_empty⟩,
    OrderedMap.forall_empty, OrderedMap.forall_empty⟩

theorem Books.booked (h : Books st) {input : Input β γ} {output : Output} {st' : State β γ}
    (hgoverned : Orgs.Governed st'.org) (hbooked : Booked env st input output st') : Books st' := by
  cases hbooked with
  | same books silent profile =>
    refine ⟨hgoverned, books.validity.trans h.validity, h.keyed.congr books.moderation, ?_, ?_⟩
    · rw [books.approved]
      exact h.approved
    · rw [books.report, books.approved]
      exact h.report
  | approved msg pending record approvable silent =>
    have horg := h.slash_notMem approvable.org
    have hcontributed := h.keyed.incrementContribution pending.contributor msg.orgId
    refine ⟨hgoverned, h.validity, hcontributed.incrementLeaderChainCommit _ horg,
      h.approved.set rfl, ?_⟩
    intro k r hget
    change ((st.memory.approved.set _ _).has _) = true
    rw [OrderedMap.has_set, h.report k r hget, Bool.or_true]
  | reported msg record reportable told =>
    have horg := h.slash_notMem reportable.org
    have hcontributed := h.keyed.incrementContribution msg.contributorPubkey msg.orgId
    exact ⟨hgoverned, h.validity,
      (hcontributed.foldl_upheld _ horg).incrementLeaderUpheldReport _ horg, h.approved,
      h.report.set reportable.known⟩

theorem Books.next (h : Books st) (env : Env β γ) (input : Input β γ) :
    Books ((chain env).next st input) :=
  h.booked (h.governed.kept (next_evolution env st input)) (next_booked env h.validity input)

theorem books_run (env : Env β γ) (start : State β γ) (inputs : List (Input β γ)) :
    Books ((chain env).run (emptied start) inputs) :=
  (chain env).run_always (I := Books) (fun _ input h => h.next env input) (books_emptied start) inputs

/-- An invariant of a run is one that each booking keeps. -/
theorem run_booked {P : State β γ → Input β γ → Prop} {I : State β γ → Prop}
    (hstep : ∀ st input output st', Books st → P st input → I st →
      Booked env st input output st' → I st') {start : State β γ} (hstart : I (emptied start))
    {inputs : List (Input β γ)} (hP : (chain env).Along P (emptied start) inputs) :
    I ((chain env).run (emptied start) inputs) := by
  refine ((chain env).run_invariant (I := fun st => Books st ∧ I st) ?_
    ⟨books_emptied start, hstart⟩ hP).2
  rintro st input ⟨hbooks, hst⟩ hinput
  exact ⟨hbooks.next env input,
    hstep st input _ _ hbooks hinput hst (next_booked env hbooks.validity input)⟩

/-- The stored reports are the accepted ones, each once. -/
theorem run_reports (env : Env β γ) (start : State β γ) (inputs : List (Input β γ)) :
    ((chain env).run (emptied start) inputs).memory.report.values.Perm
      ((acceptedReports ((chain env).history (emptied start) inputs)).map (·.report 0)) := by
  have hstart : Books (emptied start) ∧ (emptied start).memory.report.values.Perm
      ((acceptedReports []).map (·.report 0)) := ⟨books_emptied start, .nil⟩
  have hrun := (chain env).run_history_invariant
    (I := fun st log => Books st ∧
      st.memory.report.values.Perm ((acceptedReports log).map (·.report 0))) ?_ hstart
    ((chain env).along_true _ inputs)
  · exact hrun.2
  · rintro st log input ⟨hbooks, hlog⟩ _
    refine ⟨hbooks.next env input, ?_⟩
    have hbooked := next_booked env hbooks.validity input
    rw [acceptedReports_snoc]
    generalize (chain env).next st input = st' at hbooked ⊢
    generalize (chain env).output st input = output at hbooked ⊢
    cases hbooked with
    | same books silent profile =>
      rw [books.report, silent, Option.toList_none, List.append_nil]
      exact hlog
    | approved msg pending record approvable silent =>
      rw [silent, Option.toList_none, List.append_nil]
      exact hlog
    | reported msg record reportable told =>
      rw [told, Option.toList_some]
      refine (OrderedMap.values_set_perm_of_get_none reportable.fresh).trans ?_
      rw [List.map_append]
      exact (hlog.cons _).trans (List.perm_append_singleton _ _).symm

/-- A stored report stays. -/
theorem report_kept (env : Env β γ) (h : Books st) {k : Bytes} {r : Memory.StoredMemoryReport}
    (hget : st.memory.report.get k = some r) (later : List (Input β γ)) :
    ((chain env).run st later).memory.report.get k = some r := by
  refine ((chain env).run_always (I := fun t => Books t ∧ t.memory.report.get k = some r) ?_
    ⟨h, hget⟩ later).2
  rintro t input ⟨hbooks, ht⟩
  refine ⟨hbooks.next env input, ?_⟩
  have hbooked := next_booked env hbooks.validity input
  generalize (chain env).next t input = t' at hbooked ⊢
  cases hbooked with
  | same books silent profile =>
    rw [books.report]
    exact ht
  | approved msg pending record approvable silent => exact ht
  | reported msg record reportable told =>
    refine (OrderedMap.get_set_of_ne _ _ ?_).trans ht
    rintro rfl
    rw [reportable.fresh] at ht
    cases ht

end Books

end WeVibeChain.Counters
