import WeVibeChain.ClosedOrgs
import WeVibeChain.Counters

/-!
# The totals of an org's memories

An approval counts in four places: the approved records, the count of x/memory,
the org's record and the profile of the leader who commits it. A report counts
among the reports and in the org's record. The counters are 64-bit words and
agree with the records modulo 2^64, so they are the true numbers until an org has
2^64 approved memories or reports. The sample reaches that many reports.
-/

set_option autoImplicit false

namespace WeVibeChain.Counters

open Bytes
open Application (Env State)
open Memory (MsgReportMemory)

section Totals
variable {β γ : Type} {env : Env β γ} {st st' : State β γ} {orgID : Bytes}

/-- How many approved memories the org has. -/
def approvedOf (s : Memory.Store) (orgID : Bytes) : Nat :=
  s.approved.values.countP fun m => m.orgId = orgID

/-- How many reports the org has. -/
def reportsOf (s : Memory.Store) (orgID : Bytes) : Nat :=
  s.report.values.countP fun r => r.orgId = orgID

/-- The counters of the org are its numbers of records as 64-bit words. The chain commits are
spread over the leaders, so theirs is the true number while it fits in a word. -/
structure Balanced (orgID : Bytes) (st : State β γ) : Prop where
  counted : Memory.getApprovedCount st.memory orgID = UInt64.ofNat (approvedOf st.memory orgID)
  committed : (Orgs.totals st.org orgID).1 = UInt64.ofNat (approvedOf st.memory orgID)
  upheld : (Orgs.totals st.org orgID).2 = UInt64.ofNat (reportsOf st.memory orgID)
  signed : approvedOf st.memory orgID < 2 ^ 64 →
    Reputation.chainCommits st.reputation orgID = approvedOf st.memory orgID

theorem balanced_emptied (orgID : Bytes) (st : State β γ) : Balanced orgID (emptied st) :=
  ⟨rfl, rfl, rfl, fun _ => rfl⟩

theorem approvedOf_approved {msg : Memory.MsgApproveMemory} {pending : Memory.PendingCommitment}
    {record : Orgs.StoredOrg} (h : Approvable st msg pending record) (orgID : Bytes) :
    approvedOf (approvedState env st msg pending record).memory orgID =
      approvedOf st.memory orgID + if msg.orgId = orgID then 1 else 0 := by
  refine (OrderedMap.countP_values_set h.fresh _ _).trans ?_
  simp only [decide_eq_true_eq]
  rfl

theorem reportsOf_reported {msg : MsgReportMemory} {record : Orgs.StoredOrg}
    (h : Reportable st msg record) (orgID : Bytes) :
    reportsOf (reportedState st msg record).memory orgID =
      reportsOf st.memory orgID + if msg.orgId = orgID then 1 else 0 := by
  refine (OrderedMap.countP_values_set h.fresh _ _).trans ?_
  simp only [decide_eq_true_eq]
  rfl

theorem getApprovedCount_approved {msg : Memory.MsgApproveMemory}
    {pending : Memory.PendingCommitment} {record : Orgs.StoredOrg} (orgID : Bytes) :
    Memory.getApprovedCount (approvedState env st msg pending record).memory orgID =
      Memory.getApprovedCount st.memory orgID + if msg.orgId = orgID then 1 else 0 := by
  change ((st.memory.count.set (Memory.countKey msg.orgId) _).get (Memory.countKey orgID)).getD 0 = _
  by_cases hsame : msg.orgId = orgID
  · subst hsame
    rw [OrderedMap.get_set_self, if_pos rfl]
    rfl
  · rw [OrderedMap.get_set_of_ne, if_neg hsame, UInt64.add_zero]
    · rfl
    · intro hkey
      exact hsame (List.append_cancel_left hkey).symm

theorem totals_approved {msg : Memory.MsgApproveMemory} {pending : Memory.PendingCommitment}
    {record : Orgs.StoredOrg} (h : Approvable st msg pending record) (orgID : Bytes) :
    Orgs.totals (approvedState env st msg pending record).org orgID =
      ((Orgs.totals st.org orgID).1 + (if msg.orgId = orgID then 1 else 0),
        (Orgs.totals st.org orgID).2) := by
  refine (Orgs.totals_set st.org msg.orgId _ orgID).trans ?_
  by_cases hsame : msg.orgId = orgID
  · subst hsame
    simp [Orgs.totals_of_get h.org]
  · simp [hsame]

theorem totals_reported {msg : MsgReportMemory} {record : Orgs.StoredOrg}
    (h : Reportable st msg record) (orgID : Bytes) :
    Orgs.totals (reportedState st msg record).org orgID =
      ((Orgs.totals st.org orgID).1,
        (Orgs.totals st.org orgID).2 + (if msg.orgId = orgID then 1 else 0)) := by
  refine (Orgs.totals_set st.org msg.orgId _ orgID).trans ?_
  by_cases hsame : msg.orgId = orgID
  · subst hsame
    simp [Orgs.totals_of_get h.org]
  · simp [hsame]

theorem chainCommits_approved (hbooks : Books st) {msg : Memory.MsgApproveMemory}
    {pending : Memory.PendingCommitment} {record : Orgs.StoredOrg}
    (h : Approvable st msg pending record)
    (hfits : msg.orgId = orgID → Reputation.chainCommits st.reputation msg.orgId + 1 < 2 ^ 64) :
    Reputation.chainCommits (approvedState env st msg pending record).reputation orgID =
      Reputation.chainCommits st.reputation orgID + if msg.orgId = orgID then 1 else 0 := by
  have hkeyed := hbooks.keyed.incrementContribution pending.contributor msg.orgId
  exact hkeyed.chainCommits_commit msg.committingLeader (hbooks.slash_notMem h.org) orgID hfits

theorem chainCommits_reported (hbooks : Books st) {msg : MsgReportMemory}
    {record : Orgs.StoredOrg} (h : Reportable st msg record) :
    Reputation.chainCommits (reportedState st msg record).reputation orgID =
      Reputation.chainCommits st.reputation orgID := by
  have horg := hbooks.slash_notMem h.org
  have hkeyed := hbooks.keyed.incrementContribution msg.contributorPubkey msg.orgId
  refine ((hkeyed.foldl_upheld msg.approvingModerators horg).chainCommits_upheld _ horg
    orgID).trans ?_
  unfold Reputation.chainCommits
  rw [(Reputation.foldl_upheld_frame _ _ _).2]
  rfl

theorem Balanced.approved (h : Balanced orgID st) (hbooks : Books st)
    {msg : Memory.MsgApproveMemory} {pending : Memory.PendingCommitment} {record : Orgs.StoredOrg}
    (happrovable : Approvable st msg pending record) :
    Balanced orgID (approvedState env st msg pending record) := by
  have happroved := @approvedOf_approved _ _ env st msg pending record happrovable orgID
  have htotals := @totals_approved _ _ env st msg pending record happrovable orgID
  refine ⟨?_, ?_, ?_, ?_⟩
  · rw [getApprovedCount_approved, h.counted, happroved, Words.ofNat_add_ite]
  · rw [htotals, h.committed, happroved, Words.ofNat_add_ite]
  · rw [htotals]
    exact h.upheld
  · intro hfits
    rw [happroved] at hfits ⊢
    have hsigned := h.signed (Nat.lt_of_le_of_lt (Nat.le_add_right _ _) hfits)
    rw [chainCommits_approved hbooks happrovable, hsigned]
    intro hsame
    rw [if_pos hsame] at hfits
    rw [hsame, hsigned]
    exact hfits

theorem Balanced.reported (h : Balanced orgID st) (hbooks : Books st) {msg : MsgReportMemory}
    {record : Orgs.StoredOrg} (hreportable : Reportable st msg record) :
    Balanced orgID (reportedState st msg record) := by
  have htotals := totals_reported hreportable orgID
  refine ⟨h.counted, ?_, ?_, ?_⟩
  · rw [htotals]
    exact h.committed
  · rw [htotals, h.upheld, reportsOf_reported hreportable, Words.ofNat_add_ite]
  · intro hfits
    rw [chainCommits_reported hbooks hreportable]
    exact h.signed hfits

theorem Balanced.booked (h : Balanced orgID st) (hbooks : Books st) {input : Input β γ}
    {output : Output} (hbooked : Booked env st input output st') : Balanced orgID st' := by
  cases hbooked with
  | same books silent profile =>
    obtain ⟨hcounted, hcommitted, hupheld, hsigned⟩ := h
    unfold Memory.getApprovedCount approvedOf at hcounted
    unfold approvedOf at hcommitted hsigned
    unfold reportsOf at hupheld
    unfold Reputation.chainCommits at hsigned
    constructor
    · unfold Memory.getApprovedCount approvedOf
      rw [books.count, books.approved]
      exact hcounted
    · unfold approvedOf
      rw [books.totals, books.approved]
      exact hcommitted
    · unfold reportsOf
      rw [books.totals, books.report]
      exact hupheld
    · unfold approvedOf Reputation.chainCommits
      rw [books.approved, books.moderation.leaderProfile]
      exact hsigned
  | approved msg pending record approvable silent => exact h.approved hbooks approvable
  | reported msg record reportable told => exact h.reported hbooks reportable

theorem balanced_run (env : Env β γ) (start : State β γ) (inputs : List (Input β γ))
    (orgID : Bytes) : Balanced orgID ((chain env).run (emptied start) inputs) :=
  run_booked (fun _ _ _ _ hbooks _ h hbooked => h.booked hbooks hbooked)
    (balanced_emptied orgID start) ((chain env).along_true _ _)

/-- Over every run from empty stores: as long as an org has fewer than 2^64 approved memories and
reports, the count of x/memory, the committed memories in its record and the chain commits of all
its leaders are the number of its approved memories; the upheld reports in its record are the number
of its reports; and each report is about an approved memory of the org. -/
theorem memory_totals_agree (env : Env β γ) (start : State β γ) (inputs : List (Input β γ))
    (orgID : Bytes) (record : Orgs.StoredOrg)
    (hrecord : ((chain env).run (emptied start) inputs).org.org.get (Orgs.orgKey orgID) =
      some record)
    (happroved : approvedOf ((chain env).run (emptied start) inputs).memory orgID < 2 ^ 64)
    (hreports : reportsOf ((chain env).run (emptied start) inputs).memory orgID < 2 ^ 64) :
    let st := (chain env).run (emptied start) inputs
    (Memory.getApprovedCount st.memory orgID).toNat = approvedOf st.memory orgID ∧
      record.totalCommittedMemories.toNat = approvedOf st.memory orgID ∧
      Reputation.chainCommits st.reputation orgID = approvedOf st.memory orgID ∧
      record.totalUpheldReports.toNat = reportsOf st.memory orgID ∧
      ∀ r ∈ st.memory.report.values, r.orgId = orgID →
        ∃ memory, Memory.getApprovedMemory st.memory orgID r.contentHash = .ok memory ∧
          memory.orgID = orgID ∧ memory.contentHash = r.contentHash := by
  intro st
  obtain ⟨hcounted, hcommitted, hupheld, hsigned⟩ := balanced_run env start inputs orgID
  rw [Orgs.totals_of_get hrecord] at hcommitted hupheld
  refine ⟨?_, ?_, hsigned happroved, ?_, ?_⟩
  · rw [hcounted, UInt64.toNat_ofNat_of_lt' happroved]
  · exact (congrArg UInt64.toNat hcommitted).trans (UInt64.toNat_ofNat_of_lt' happroved)
  · exact (congrArg UInt64.toNat hupheld).trans (UInt64.toNat_ofNat_of_lt' hreports)
  · rintro r hr rfl
    have hbooks : Books st := books_run env start inputs
    obtain ⟨k, hget⟩ := OrderedMap.mem_values_iff.mp hr
    obtain ⟨stored, hstored⟩ := OrderedMap.has_iff.mp (hbooks.report k r hget)
    obtain ⟨horg, hhash⟩ := Memory.approvedKey_inj.mp (hbooks.approved _ stored hstored)
    refine ⟨Memory.storedToMemory stored, ?_, horg.symm, hhash.symm⟩
    rw [Memory.getApprovedMemory, hstored]

end Totals

section Sample

open EpochHooks (emptyHash sampleApprove sampleContributor sampleCrypto sampleHash sampleKey
  sampleSubmit)
open Orgs (formatOrgID sampleAddress)

/-- The contributor's signature of the submission to the first org. -/
def sampleSignature : Bytes :=
  [184, 139, 228, 81, 147, 236, 10, 3, 155, 78, 24, 210, 92, 142, 109, 184, 246, 67, 98, 10, 84,
    81, 147, 43, 110, 166, 49, 105, 44, 1, 147, 237, 64, 49, 243, 72, 88, 252, 32, 76, 186, 137,
    152, 184, 64, 88, 18, 79, 208, 123, 87, 110, 163, 107, 213, 75, 140, 217, 250, 224, 244, 193,
    197, 3]

def sampleBody : Bytes :=
  Memory.buildSubmitMemoryCanonicalBody sampleHash sampleContributor 0 .memory (formatOrgID 0) [] []
    sampleHash emptyHash

def sampleEnv : Env Unit (List (Bytes × Bytes)) :=
  { Application.sampleEnv with
    crypto := { sampleCrypto with
      ed25519Verify := fun key message signature =>
        key = sampleKey ∧ message = sampleBody ∧ signature = sampleSignature } }

/-- The first org is registered by its leader, who submits a memory and approves it. -/
def sampleApproval : List (Input Unit (List (Bytes × Bytes))) :=
  [.msg (.org (.registerOrg { Orgs.sampleRegister with leader := sampleContributor })),
    .msg (.memory (.submitCommitment
      { sampleSubmit with signer := sampleAddress 0, orgId := formatOrgID 0 })),
    .msg (.memory (.approveMemory
      { sampleApprove with
        signer := sampleAddress 0
        orgId := formatOrgID 0
        contributorSig := sampleSignature }))]

def sampleStart : State Unit (List (Bytes × Bytes)) := emptied Application.sampleStart

def sampleApproved : State Unit (List (Bytes × Bytes)) :=
  (chain sampleEnv).run sampleStart sampleApproval

/-- The parts of that state that matter below. -/
theorem sample_approved :
    sampleApproved.memory.approved.has (Memory.approvedKey (formatOrgID 0) sampleHash) = true ∧
      approvedOf sampleApproved.memory (formatOrgID 0) = 1 ∧ sampleApproved.memory.report = ∅ ∧
      (sampleApproved.org.org.get (Orgs.orgKey (formatOrgID 0))).map
          (fun record => (record.leaderWalletAddress, record.totalUpheldReports)) =
        some (sampleAddress 0, 0) := by
  decide +kernel

theorem sample_totals :
    approvedOf sampleApproved.memory (formatOrgID 0) = 1 ∧
      (Memory.getApprovedCount sampleApproved.memory (formatOrgID 0)).toNat =
        approvedOf sampleApproved.memory (formatOrgID 0) := by
  obtain ⟨-, happroved, hreports, horg⟩ := sample_approved
  obtain ⟨record, hrecord, -⟩ := Option.map_eq_some_iff.mp horg
  have hrun : (chain sampleEnv).run (emptied Application.sampleStart) sampleApproval =
      sampleApproved := rfl
  have hagree := memory_totals_agree sampleEnv Application.sampleStart sampleApproval
    (formatOrgID 0) record
  rw [hrun] at hagree
  refine ⟨happroved, (hagree hrecord ?_ ?_).1⟩
  · exact happroved.trans_lt (Nat.one_lt_two_pow (by decide))
  · rw [reportsOf, hreports]
    exact Nat.two_pow_pos 64

/-- The memory reported by the reporter with the number. -/
def sampleReport (n : Nat) : MsgReportMemory where
  signer := sampleAddress 0
  orgId := formatOrgID 0
  contentHash := sampleHash
  contributorPubkey := sampleContributor
  reporterPubkey := formatUint (UInt64.ofNat n)
  reason := ascii "spam"
  capsule := ascii "c"
  plaintextHash := emptyHash

def sampleReports (n : Nat) : List (Input Unit (List (Bytes × Bytes))) :=
  sampleApproval ++ (List.range n).map fun i => .msg (.memory (.reportMemory (sampleReport i)))

/-- The first org after `n` reports of its memory, by the reporters with the numbers below `n`. -/
structure Reported (n : Nat) (st : State Unit (List (Bytes × Bytes))) : Prop where
  known : st.memory.approved.has (Memory.approvedKey (formatOrgID 0) sampleHash) = true
  record : ∃ record, st.org.org.get (Orgs.orgKey (formatOrgID 0)) = some record ∧
    sampleAddress 0 = record.leaderWalletAddress ∧ record.totalUpheldReports = UInt64.ofNat n
  reports : reportsOf st.memory (formatOrgID 0) = n
  free : ∀ m, n ≤ m → m < 2 ^ 64 →
    st.memory.report.get (Memory.reportKey (formatOrgID 0) sampleHash
      (formatUint (UInt64.ofNat m))) = none

theorem reported_zero : Reported 0 sampleApproved := by
  obtain ⟨hknown, -, hreports, horg⟩ := sample_approved
  obtain ⟨record, hget, heq⟩ := Option.map_eq_some_iff.mp horg
  obtain ⟨hwallet, hupheld⟩ := Prod.mk.inj heq
  refine ⟨hknown, ⟨record, hget, hwallet.symm, hupheld⟩, ?_, ?_⟩
  · rw [reportsOf, hreports]
    rfl
  · intro m _ _
    rw [hreports]
    rfl

theorem reportKey_reporter_inj {o h r r' : Bytes} :
    Memory.reportKey o h r = Memory.reportKey o h r' ↔ r = r' := by
  simp [Memory.reportKey]

theorem sampleReport_validateBasic (n : Nat) : (sampleReport n).validateBasic = .ok () := by
  have hsigner : sampleAddress 0 ≠ [] := by decide
  have horg : formatOrgID 0 ≠ [] := by decide
  have hhash : sampleHash.length = Memory.contentHashLen := by decide
  have hreporter : formatUint (UInt64.ofNat n) ≠ [] := by simp [formatUint]
  have hreason : ascii "spam" ≠ [] := by decide
  simp [MsgReportMemory.validateBasic, sampleReport, hsigner, horg, hhash, hreporter, hreason]

theorem sampleReport_sizes (n : Nat) : Memory.checkReportSizes (sampleReport n) = .ok () := rfl

theorem handle_sampleReport {n : Nat} {st : State Unit (List (Bytes × Bytes))}
    {record : Orgs.StoredOrg} (h : Reportable st (sampleReport n) record) :
    Application.handle sampleEnv st (.memory (.reportMemory (sampleReport n))) =
      .ok (reportedState st (sampleReport n) record, .memory) :=
  handle_reportable (sampleReport_validateBasic n) (sampleReport_sizes n) h

theorem next_sampleReport {n : Nat} {st : State Unit (List (Bytes × Bytes))}
    {record : Orgs.StoredOrg} (h : Reportable st (sampleReport n) record) :
    (chain sampleEnv).next st (.msg (.memory (.reportMemory (sampleReport n)))) =
      reportedState st (sampleReport n) record := by
  change (Application.deliver sampleEnv st _).1 = _
  rw [Application.deliver, handle_sampleReport h]

theorem reported_succ {n : Nat} {st : State Unit (List (Bytes × Bytes))} (h : Reported n st)
    (hn : n < 2 ^ 64) :
    Reported (n + 1) ((chain sampleEnv).next st (.msg (.memory (.reportMemory (sampleReport n))))) := by
  obtain ⟨hknown, ⟨record, hget, hwallet, hupheld⟩, hreports, hfree⟩ := h
  have hsigner : sampleAddress 0 ≠ [] := by decide
  have hreportable : Reportable st (sampleReport n) record :=
    ⟨hknown, hfree n (Nat.le_refl n) hn, hget, hsigner, hwallet⟩
  rw [next_sampleReport hreportable]
  refine ⟨hknown, ⟨_, OrderedMap.get_set_self _ _ _, hwallet, ?_⟩, ?_, ?_⟩
  · change record.totalUpheldReports + 1 = _
    rw [hupheld, UInt64.ofNat_add]
    rfl
  · rw [reportsOf_reported hreportable, hreports]
    exact if_pos rfl ▸ rfl
  · intro m hm hlt
    refine (OrderedMap.get_set_of_ne _ _ ?_).trans (hfree m (Nat.le_of_succ_le hm) hlt)
    intro hkey
    exact Orgs.ofNat_ne_ofNat hlt hn (Nat.ne_of_gt hm)
      (formatUint_inj.mp (reportKey_reporter_inj.mp hkey))

theorem sampleReports_succ (n : Nat) :
    sampleReports (n + 1) =
      sampleReports n ++ [.msg (.memory (.reportMemory (sampleReport n)))] := by
  simp [sampleReports, List.range_succ]

theorem run_sampleReports_zero :
    (chain sampleEnv).run sampleStart (sampleReports 0) = sampleApproved := by
  rw [sampleReports, List.range_zero, List.map_nil, List.append_nil, sampleApproved]

theorem reported (n : Nat) (hn : n ≤ 2 ^ 64) :
    Reported n ((chain sampleEnv).run sampleStart (sampleReports n)) := by
  induction n with
  | zero =>
    rw [run_sampleReports_zero]
    exact reported_zero
  | succ n ih =>
    rw [sampleReports_succ, Machine.run_append]
    exact reported_succ (ih (Nat.le_of_succ_le hn)) hn

/-- With 2^64 reports of the org stored, the number in its record is back at zero. -/
theorem sample_reports_uncounted :
    ∃ record,
      ((chain sampleEnv).run sampleStart (sampleReports (2 ^ 64))).org.org.get
          (Orgs.orgKey (formatOrgID 0)) = some record ∧
        record.totalUpheldReports = 0 ∧
        reportsOf ((chain sampleEnv).run sampleStart (sampleReports (2 ^ 64))).memory
          (formatOrgID 0) = 2 ^ 64 := by
  obtain ⟨-, ⟨record, hget, -, hupheld⟩, hreports, -⟩ := reported (2 ^ 64) (Nat.le_refl _)
  exact ⟨record, hget, hupheld, hreports⟩

end Sample

end WeVibeChain.Counters
