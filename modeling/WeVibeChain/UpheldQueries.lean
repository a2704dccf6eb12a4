import WeVibeChain.ContributorTotals
import WeVibeChain.OverrideAuthority
import WeVibeChain.UpheldReports

/-!
# x/reputation: who is charged with an upheld report

A report names the moderators who approved the memory and is charged to each of
them, and to the signer as the committing leader. The signer is the leader's
wallet, where an approval is charged to the leader's member key. A moderator who
is named twice is charged twice, and the query over the reports finds one report.

A page is cut out of the matching reports with signed 64-bit bounds; bounds out
of range end the query.
-/

set_option autoImplicit false

namespace WeVibeChain.Reputation

open Bytes
open Memory (StoredMemoryReport)

section Queries

/-- The failures of the queries over the reports. -/
inductive ListError where
  | contributorIdRequired
  | moderatorPubkeyRequired
  | leaderPubkeyRequired
  | sliceBounds
  deriving DecidableEq, Repr

/-- The panic of the runtime has no status. -/
def ListError.code : ListError → Option StatusCode
  | contributorIdRequired => some .invalidArgument
  | moderatorPubkeyRequired => some .invalidArgument
  | leaderPubkeyRequired => some .invalidArgument
  | sliceBounds => none

def ListError.text : ListError → String
  | contributorIdRequired => "contributor_id required"
  | moderatorPubkeyRequired => "moderator_pubkey required"
  | leaderPubkeyRequired => "leader_pubkey required"
  | sliceBounds => "slice bounds out of range"

structure UpheldReportEntry where
  orgId : Bytes
  contentHash : Bytes
  contributorPubkey : Bytes
  approvingModerators : List Bytes
  upholdingModerators : List Bytes
  reporterPubkey : Bytes
  reason : Bytes
  upheldAtEpoch : UInt64
  deriving DecidableEq

def upheldReportEntry (report : StoredMemoryReport) : UpheldReportEntry where
  orgId := report.orgId
  contentHash := report.contentHash
  contributorPubkey := report.contributorPubkey
  approvingModerators := report.approvingModerators
  upholdingModerators := report.upholdingModerators
  reporterPubkey := report.reporterPubkey
  reason := report.reason
  upheldAtEpoch := report.upheldAtEpoch

structure PageRequest where
  offset : UInt64 := 0
  limit : UInt64 := 0
  deriving DecidableEq

structure UpheldReportsResponse where
  reports : List UpheldReportEntry
  total : UInt64
  deriving DecidableEq

/-- The part of the reports between the bounds. They are signed 64-bit integers, and their sum
wraps around. -/
def sliceReports (reports : List UpheldReportEntry) (offset limit : Int) :
    Except ListError UpheldReportsResponse :=
  let first := min offset reports.length
  let last := min (Int.bmod (first + limit) (2 ^ 64)) reports.length
  if first < 0 ∨ last < first then .error .sliceBounds
  else .ok ⟨(reports.take last.toNat).drop first.toNat, UInt64.ofNat reports.length⟩

def paginateReports (reports : List UpheldReportEntry) (page : Option PageRequest) :
    Except ListError UpheldReportsResponse :=
  let request := page.getD { limit := 100 }
  sliceReports reports request.offset.toInt64.toInt
    (if request.limit = 0 then 100 else request.limit.toInt64.toInt)

/-- The common shape of the queries: a name is required, and the reports that go with it are
collected in key order. -/
def upheldReports (s : Memory.Store) (required : ListError) (name : Bytes)
    (matching : StoredMemoryReport → Bool) (page : Option PageRequest) :
    Except ListError UpheldReportsResponse :=
  if name = [] then .error required
  else paginateReports ((s.report.values.filter matching).map upheldReportEntry) page

def upheldReportsByContributor (s : Memory.Store) (contributorId : Bytes)
    (page : Option PageRequest) : Except ListError UpheldReportsResponse :=
  upheldReports s .contributorIdRequired contributorId
    (fun report => report.contributorPubkey = contributorId) page

/-- A report is collected once, however often it names the moderator. -/
def upheldReportsByModerator (s : Memory.Store) (moderatorPubkey : Bytes)
    (page : Option PageRequest) : Except ListError UpheldReportsResponse :=
  upheldReports s .moderatorPubkeyRequired moderatorPubkey
    (fun report => report.approvingModerators.contains moderatorPubkey) page

def upheldReportsByLeader (s : Memory.Store) (leaderPubkey : Bytes) (page : Option PageRequest) :
    Except ListError UpheldReportsResponse :=
  upheldReports s .leaderPubkeyRequired leaderPubkey
    (fun report => report.committingLeaderPubkey = leaderPubkey) page

end Queries

section Pages
variable {reports : List UpheldReportEntry} {entry : UpheldReportEntry}

/-- A page only has what is there, with the number of all there is. -/
theorem sliceReports_ok {offset limit : Int} {response : UpheldReportsResponse}
    (h : sliceReports reports offset limit = .ok response) :
    (∀ e ∈ response.reports, e ∈ reports) ∧ response.total = UInt64.ofNat reports.length := by
  unfold sliceReports at h
  dsimp only at h
  split at h
  · cases h
  obtain rfl := Except.ok.inj h
  exact ⟨fun e he => List.mem_of_mem_take (List.mem_of_mem_drop he), rfl⟩

/-- Bounds that do not overflow cut out the part they say. -/
theorem sliceReports_eq (reports : List UpheldReportEntry) {offset limit : Nat}
    (h : offset + limit < 2 ^ 63) :
    sliceReports reports offset limit =
      .ok ⟨(reports.drop offset).take limit, UInt64.ofNat reports.length⟩ := by
  have hsum : Int.bmod (min (offset : Int) reports.length + limit) (2 ^ 64) =
      min (offset : Int) reports.length + limit := by
    apply Int.bmod_eq_of_le <;> omega
  have hbounds : ¬ (min (offset : Int) reports.length < 0 ∨
      min (min (offset : Int) reports.length + limit) reports.length <
        min (offset : Int) reports.length) := by omega
  have hfirst : (min (offset : Int) reports.length).toNat = min offset reports.length := by omega
  have hlast : (min (min (offset : Int) reports.length + limit) reports.length).toNat =
      min (min offset reports.length + limit) reports.length := by omega
  unfold sliceReports
  dsimp only
  rw [hsum, if_neg hbounds, hfirst, hlast, List.drop_take, ← List.drop_eq_drop_min]
  congr 2
  rw [List.take_eq_take_iff, List.length_drop]
  omega

/-- Without a page request the first hundred are returned. -/
theorem paginateReports_none (reports : List UpheldReportEntry) :
    paginateReports reports none = .ok ⟨reports.take 100, UInt64.ofNat reports.length⟩ :=
  @sliceReports_eq reports 0 100 (by decide)

/-- Every report is on some page, as long as a signed bound can point to it. -/
theorem exists_page (hentry : entry ∈ reports) (hlength : reports.length < 2 ^ 63) :
    ∃ page response, paginateReports reports (some page) = .ok response ∧
      entry ∈ response.reports := by
  obtain ⟨i, hi, rfl⟩ := List.mem_iff_getElem.mp hentry
  have hi' : (UInt64.ofNat i).toNat = i := Words.toNat_ofNat_eq_iff.mpr (by omega)
  have hoffset : (UInt64.ofNat i).toInt64.toInt = i := by
    rw [Words.toInt_toInt64_of_lt (by omega), hi']
  have hpage : paginateReports reports (some ⟨UInt64.ofNat i, 1⟩) =
      .ok ⟨(reports.drop i).take 1, UInt64.ofNat reports.length⟩ := by
    change sliceReports reports (UInt64.ofNat i).toInt64.toInt (1 : Nat) = _
    rw [hoffset]
    exact sliceReports_eq reports (by omega)
  refine ⟨_, _, hpage, ?_⟩
  rw [List.drop_eq_getElem_cons hi]
  exact List.mem_cons_self

end Pages

end WeVibeChain.Reputation

namespace WeVibeChain.Counters

open Bytes
open Application (Env State)
open Memory (MsgApproveMemory MsgReportMemory)

section Leaders
variable {β γ : Type} {env : Env β γ} {st st' : State β γ} {record : Orgs.StoredOrg}
  {response : Application.Response}

/-- An approval is charged to the leader that the org's record names. -/
theorem approval_charged (hbooks : Books st) {approve : MsgApproveMemory}
    (haccepted : Application.handle env st (.memory (.approveMemory approve)) = .ok (st', response))
    (hrecord : st.org.org.get (Orgs.orgKey approve.orgId) = some record) :
    (Reputation.getLeaderProfile st'.reputation record.leader
        approve.orgId).totalChainCommitsSigned =
      (Reputation.getLeaderProfile st.reputation record.leader
        approve.orgId).totalChainCommitsSigned + 1 := by
  obtain ⟨pending, record', happrovable, rfl⟩ := handle_approve haccepted
  have hleader := (hbooks.governed.isLeader_iff hrecord).mp happrovable.leader
  have hkeyed := hbooks.keyed.incrementContribution pending.contributor approve.orgId
  have hcharged := hkeyed.totalChainCommitsSigned approve.committingLeader record.leader
    (hbooks.slash_notMem hrecord)
  rw [if_pos hleader.symm] at hcharged
  exact hcharged

/-- A report is charged to the one who signs it. -/
theorem report_charged (hbooks : Books st) {msg : MsgReportMemory} (l : Bytes)
    (hreportable : Reportable st msg record) :
    (Reputation.getLeaderProfile (reportedState st msg record).reputation l
        msg.orgId).totalUpheldReportsCommitted =
      (Reputation.getLeaderProfile st.reputation l msg.orgId).totalUpheldReportsCommitted +
        if l = msg.signer then 1 else 0 := by
  have horg := hbooks.slash_notMem hreportable.org
  have hkeyed := hbooks.keyed.incrementContribution msg.contributorPubkey msg.orgId
  refine ((hkeyed.foldl_upheld msg.approvingModerators horg).totalUpheldReportsCommitted msg.signer
    l horg).trans ?_
  rw [Reputation.getLeaderProfile_congr (Reputation.foldl_upheld_frame _ _ _).2]
  rfl

/-- A stored report is on a page of the query for the leader it carries. -/
theorem mem_upheldReportsByLeader {s : Memory.Store} {k : Bytes} {r : Memory.StoredMemoryReport}
    (hget : s.report.get k = some r) (hleader : r.committingLeaderPubkey ≠ [])
    (hlength : s.report.entries.length < 2 ^ 63) :
    ∃ page result, Reputation.upheldReportsByLeader s r.committingLeaderPubkey (some page) =
        .ok result ∧ Reputation.upheldReportEntry r ∈ result.reports := by
  have hmatching : r ∈ s.report.values.filter fun report =>
      report.committingLeaderPubkey = r.committingLeaderPubkey :=
    List.mem_filter.mpr ⟨OrderedMap.mem_values_iff.mpr ⟨k, hget⟩, decide_eq_true rfl⟩
  obtain ⟨page, result, hpage, hmem⟩ :=
    Reputation.exists_page (List.mem_map_of_mem (f := Reputation.upheldReportEntry) hmatching) (by
      rw [List.length_map]
      refine Nat.lt_of_le_of_lt (List.length_filter_le _ _) ?_
      rwa [OrderedMap.values, List.length_map])
  refine ⟨page, result, ?_, hmem⟩
  rw [Reputation.upheldReportsByLeader, Reputation.upheldReports, if_neg hleader]
  exact hpage

/-- Approvals of an org are charged to the leader its record names. An accepted report is charged to
the same profile, and the query for that leader returns it from then on, if and only if the record
has one text for the leader and for the leader's wallet. -/
theorem report_charged_to_leader_iff (env : Env β γ) (start : State β γ)
    (inputs later : List (Input β γ)) (msg : MsgReportMemory) (st' : State β γ)
    (response : Application.Response) (record : Orgs.StoredOrg)
    (haccepted : Application.handle env ((chain env).run (emptied start) inputs)
      (.memory (.reportMemory msg)) = .ok (st', response))
    (hrecord : ((chain env).run (emptied start) inputs).org.org.get (Orgs.orgKey msg.orgId) =
      some record)
    (hlength : ((chain env).run st' later).memory.report.entries.length < 2 ^ 63) :
    let st := (chain env).run (emptied start) inputs
    (∀ approve approved r, approve.orgId = msg.orgId →
      Application.handle env st (.memory (.approveMemory approve)) = .ok (approved, r) →
      (Reputation.getLeaderProfile approved.reputation record.leader
          msg.orgId).totalChainCommitsSigned =
        (Reputation.getLeaderProfile st.reputation record.leader
          msg.orgId).totalChainCommitsSigned + 1) ∧
    (((Reputation.getLeaderProfile st'.reputation record.leader
          msg.orgId).totalUpheldReportsCommitted =
        (Reputation.getLeaderProfile st.reputation record.leader
          msg.orgId).totalUpheldReportsCommitted + 1 ∧
      ∃ page result, Reputation.upheldReportsByLeader ((chain env).run st' later).memory
          record.leader (some page) = .ok result ∧
        Reputation.upheldReportEntry (msg.report 0) ∈ result.reports) ↔
      record.leader = record.leaderWalletAddress) := by
  intro st
  have hbooks : Books st := books_run env start inputs
  refine ⟨?_, ?_⟩
  · intro approve approved r horg happrove
    rw [← horg] at hrecord ⊢
    exact approval_charged hbooks happrove hrecord
  obtain ⟨record', hreportable, rfl⟩ := handle_report haccepted
  obtain rfl := Option.some.inj (hreportable.org.symm.trans hrecord)
  have hcharged := report_charged hbooks record'.leader hreportable
  obtain ⟨hsigner, hwallet⟩ := hreportable.signer
  rw [hcharged, ← hwallet]
  constructor
  · rintro ⟨hincrement, -⟩
    by_contra hother
    rw [if_neg hother, UInt64.add_zero] at hincrement
    exact Words.add_ne_self (by decide) hincrement.symm
  · intro hsame
    rw [if_pos hsame]
    refine ⟨rfl, ?_⟩
    have hnext : Books (reportedState st msg record') := by
      have hnext := hbooks.next env (.msg (.memory (.reportMemory msg)))
      change Books (Application.deliver env st _).1 at hnext
      rwa [Application.deliver, haccepted] at hnext
    have hstored := report_kept env hnext (OrderedMap.get_set_self _ _ _) later
    rw [hsame]
    exact mem_upheldReportsByLeader hstored hsigner hlength

end Leaders

section LeaderSample

open EpochHooks (sampleApprove sampleContributor sampleSubmit)
open Orgs (formatOrgID sampleAddress)

/-- The leader of the first org has the address of the wallet for a member key, and the contributor
is another member. -/
def sampleSameText : List (Input Unit (List (Bytes × Bytes))) :=
  [.msg (.org (.registerOrg { Orgs.sampleRegister with leader := sampleAddress 0 })),
    .msg (.org (.addMember
      { Orgs.sampleAdd 1 with pubkey := sampleContributor, canContribute := true })),
    .msg (.memory (.submitCommitment
      { sampleSubmit with signer := sampleAddress 0, orgId := formatOrgID 0 })),
    .msg (.memory (.approveMemory
      { sampleApprove with
        signer := sampleAddress 0
        orgId := formatOrgID 0
        committingLeader := sampleAddress 0
        contributorSig := sampleSignature }))]

def sampleLed : State Unit (List (Bytes × Bytes)) := (chain sampleEnv).run sampleStart sampleSameText

def sampleCharged : State Unit (List (Bytes × Bytes)) :=
  (Application.deliver sampleEnv sampleLed (.memory (.reportMemory (sampleReport 0)))).1

theorem sample_led :
    (sampleLed.org.org.get (Orgs.orgKey (formatOrgID 0))).map
        (fun record => (record.leader, record.leaderWalletAddress)) =
      some (sampleAddress 0, sampleAddress 0) ∧
    (Application.deliver sampleEnv sampleLed (.memory (.reportMemory (sampleReport 0)))).2.isOk =
      true ∧
    sampleCharged.memory.report.entries.length = 1 := by
  decide +kernel

theorem sample_leader_charged :
    ∃ page result, Reputation.upheldReportsByLeader sampleCharged.memory (sampleAddress 0)
        (some page) = .ok result ∧
      Reputation.upheldReportEntry ((sampleReport 0).report 0) ∈ result.reports := by
  obtain ⟨horg, haccepted, hreports⟩ := sample_led
  obtain ⟨record, hrecord, htexts⟩ := Option.map_eq_some_iff.mp horg
  obtain ⟨hleader, hwallet⟩ := Prod.mk.inj htexts
  have hrun : (chain sampleEnv).run (emptied Application.sampleStart) sampleSameText =
      sampleLed := rfl
  rcases Application.deliver_cases sampleEnv sampleLed (.memory (.reportMemory (sampleReport 0)))
    with ⟨e, he⟩ | ⟨response, -, hok⟩
  · rw [he] at haccepted
    cases haccepted
  have hiff := report_charged_to_leader_iff sampleEnv Application.sampleStart sampleSameText []
    (sampleReport 0) sampleCharged response record
  rw [hrun, Machine.run_nil] at hiff
  have hlength : sampleCharged.memory.report.entries.length < 2 ^ 63 :=
    hreports.trans_lt (Nat.one_lt_two_pow (by decide))
  have hcharged := ((hiff hok hrecord hlength).2.mpr (hleader.trans hwallet.symm)).2
  rwa [hleader] at hcharged

/-- The report is accepted. The profile of the leader has a commit and no upheld report, and the
query for the leader finds nothing. -/
theorem leader_not_charged :
    (∃ response, Application.handle sampleEnv sampleApproved
      (.memory (.reportMemory (sampleReport 0))) = .ok (sampleReportedOnce, response)) ∧
    (sampleApproved.org.org.get (Orgs.orgKey (formatOrgID 0))).map (fun record => record.leader) =
      some sampleContributor ∧
    (Reputation.getLeaderProfile sampleReportedOnce.reputation sampleContributor
      (formatOrgID 0)).totalChainCommitsSigned = 1 ∧
    (Reputation.getLeaderProfile sampleReportedOnce.reputation sampleContributor
      (formatOrgID 0)).totalUpheldReportsCommitted = 0 ∧
    Reputation.upheldReportsByLeader sampleReportedOnce.memory sampleContributor none =
      .ok ⟨[], 0⟩ := by
  refine ⟨?_, by decide +kernel⟩
  obtain ⟨hknown, ⟨record, hget, hwallet, -⟩, -, hfree⟩ := reported_zero
  have hreportable : Reportable sampleApproved (sampleReport 0) record :=
    ⟨hknown, hfree 0 (Nat.le_refl 0) (Nat.two_pow_pos 64), hget,
      (by decide : sampleAddress 0 ≠ []), hwallet⟩
  have hstate : sampleReportedOnce = reportedState sampleApproved (sampleReport 0) record := by
    rw [sampleReportedOnce, sampleReports_succ, Machine.run_append, run_sampleReports_zero]
    exact next_sampleReport hreportable
  rw [hstate]
  exact ⟨.memory, handle_sampleReport hreportable⟩

end LeaderSample

section Moderators
variable {β γ : Type} {env : Env β γ} {st st' : State β γ}

/-- How many reports list the moderator among those who approved. -/
def reportsListing (s : Memory.Store) (modPubkey : Bytes) : Nat :=
  s.report.values.countP fun r => r.approvingModerators.contains modPubkey

/-- How often all reports together list the moderator. -/
def listings (s : Memory.Store) (modPubkey : Bytes) : Nat :=
  s.report.sumBy fun r => r.approvingModerators.count modPubkey

/-- The moderator is charged once for each time a report lists them. -/
theorem laterUpheld_booked {m : Bytes} (hbooks : Books st)
    (h : listings st.memory m < 2 ^ 64 →
      Reputation.laterUpheld st.reputation m = listings st.memory m)
    {input : Input β γ} {output : Output} (hbooked : Booked env st input output st') :
    listings st'.memory m < 2 ^ 64 →
      Reputation.laterUpheld st'.reputation m = listings st'.memory m := by
  cases hbooked with
  | same books silent profile =>
    unfold listings Reputation.laterUpheld at h ⊢
    rw [books.report, books.moderation.moderatorProfile]
    exact h
  | approved msg pending record approvable silent => exact h
  | reported msg record reportable told =>
    have hlistings : listings (reportedState st msg record).memory m =
        listings st.memory m + msg.approvingModerators.count m := by
      apply OrderedMap.sumBy_set_add
      rw [reportable.fresh]
      exact (Nat.zero_add _).symm
    intro hfits
    rw [hlistings] at hfits ⊢
    have hbefore := h (Nat.lt_of_le_of_lt (Nat.le_add_right _ _) hfits)
    have hkeyed := hbooks.keyed.incrementContribution msg.contributorPubkey msg.orgId
    rw [← hbefore] at hfits ⊢
    exact hkeyed.laterUpheld_foldl msg.approvingModerators m (hbooks.slash_notMem reportable.org)
      hfits

theorem laterUpheld_run (env : Env β γ) (start : State β γ) (inputs : List (Input β γ))
    (m : Bytes) (hfits : listings ((chain env).run (emptied start) inputs).memory m < 2 ^ 64) :
    Reputation.laterUpheld ((chain env).run (emptied start) inputs).reputation m =
      listings ((chain env).run (emptied start) inputs).memory m :=
  run_booked (I := fun st => listings st.memory m < 2 ^ 64 →
      Reputation.laterUpheld st.reputation m = listings st.memory m)
    (fun _ _ _ _ hbooks _ h hbooked => laterUpheld_booked hbooks h hbooked) (fun _ => rfl)
    ((chain env).along_true _ _) hfits

theorem reportsListing_eq (s : Memory.Store) (m : Bytes) :
    reportsListing s m =
      s.report.values.countP fun r => 0 < r.approvingModerators.count m := by
  refine List.countP_congr fun r _ => ?_
  rw [List.contains_iff_mem, decide_eq_true_eq, List.count_pos_iff]

theorem reportsListing_le (s : Memory.Store) (m : Bytes) : reportsListing s m ≤ listings s m := by
  rw [reportsListing_eq]
  exact OrderedMap.countP_le_sumBy s.report

/-- The listings are as many as the reports exactly if every report lists the moderator at most
once. -/
theorem listings_eq_iff (s : Memory.Store) (m : Bytes) :
    listings s m = reportsListing s m ↔
      ∀ r ∈ s.report.values, r.approvingModerators.count m ≤ 1 := by
  rw [reportsListing_eq]
  exact OrderedMap.sumBy_eq_countP_iff s.report

/-- The total of the query is the number of reports that list the moderator. -/
theorem upheldReportsByModerator_total {s : Memory.Store} {m : Bytes}
    (hfits : reportsListing s m < 2 ^ 64) {page : Option Reputation.PageRequest}
    {result : Reputation.UpheldReportsResponse}
    (h : Reputation.upheldReportsByModerator s m page = .ok result) :
    result.total.toNat = reportsListing s m := by
  unfold Reputation.upheldReportsByModerator Reputation.upheldReports at h
  split at h
  · cases h
  rw [(Reputation.sliceReports_ok h).2, List.length_map, ← List.countP_eq_length_filter]
  exact UInt64.toNat_ofNat_of_lt' hfits

theorem upheldReportsByModerator_none_iff (s : Memory.Store) (m : Bytes) :
    (∃ result, Reputation.upheldReportsByModerator s m none = .ok result) ↔ m ≠ [] := by
  unfold Reputation.upheldReportsByModerator Reputation.upheldReports
  by_cases hm : m = []
  · simp [hm]
  · simp [hm, Reputation.paginateReports_none]

/-- How often the accepted reports of a run list the moderator. -/
theorem listings_run (env : Env β γ) (start : State β γ) (inputs : List (Input β γ)) (m : Bytes) :
    listings ((chain env).run (emptied start) inputs).memory m =
      ((acceptedReports ((chain env).history (emptied start) inputs)).map
        fun msg => msg.approvingModerators.count m).sum := by
  rw [listings, OrderedMap.sumBy_eq_sum_values,
    ((run_reports env start inputs).map _).sum_nat, List.map_map]
  rfl

theorem listed_once_iff (env : Env β γ) (start : State β γ) (inputs : List (Input β γ))
    (m : Bytes) :
    (∀ r ∈ ((chain env).run (emptied start) inputs).memory.report.values,
        r.approvingModerators.count m ≤ 1) ↔
      ∀ msg ∈ acceptedReports ((chain env).history (emptied start) inputs),
        msg.approvingModerators.count m ≤ 1 := by
  have hstored := run_reports env start inputs
  constructor
  · intro h msg hmsg
    exact h _ (hstored.mem_iff.mpr (List.mem_map_of_mem hmsg))
  · intro h r hr
    obtain ⟨msg, hmsg, rfl⟩ := List.mem_map.mp (hstored.mem_iff.mp hr)
    exact h msg hmsg

/-- Over every run from empty stores whose accepted reports list a moderator fewer than 2^64 times:
the counts in the moderator's profiles add up to the number of reports that list them, and that is
the total of the query, if and only if the name is not empty and no accepted report lists it twice. -/
theorem moderator_totals_iff (env : Env β γ) (start : State β γ) (inputs : List (Input β γ))
    (m : Bytes)
    (hfits : ((acceptedReports ((chain env).history (emptied start) inputs)).map
      fun msg => msg.approvingModerators.count m).sum < 2 ^ 64) :
    let st := (chain env).run (emptied start) inputs
    (Reputation.laterUpheld st.reputation m = reportsListing st.memory m ∧
      (∃ result, Reputation.upheldReportsByModerator st.memory m none = .ok result) ∧
      ∀ page result, Reputation.upheldReportsByModerator st.memory m page = .ok result →
        result.total.toNat = reportsListing st.memory m) ↔
      m ≠ [] ∧ ∀ msg ∈ acceptedReports ((chain env).history (emptied start) inputs),
        msg.approvingModerators.count m ≤ 1 := by
  intro st
  rw [← listings_run] at hfits
  rw [laterUpheld_run env start inputs m hfits, listings_eq_iff, listed_once_iff,
    upheldReportsByModerator_none_iff]
  constructor
  · rintro ⟨honce, hm, -⟩
    exact ⟨hm, honce⟩
  · rintro ⟨hm, honce⟩
    refine ⟨honce, hm, ?_⟩
    intro page result hok
    exact upheldReportsByModerator_total
      (Nat.lt_of_le_of_lt (reportsListing_le st.memory m) hfits) hok

end Moderators

section ModeratorSample

open EpochHooks (sampleContributor)

/-- One approved memory and a report that lists the moderators given. -/
def sampleModerated (moderators : List Bytes) : List (Input Unit (List (Bytes × Bytes))) :=
  sampleApproval ++
    [.msg (.memory (.reportMemory { sampleReport 0 with approvingModerators := moderators }))]

def sampleListedOnce : State Unit (List (Bytes × Bytes)) :=
  (chain sampleEnv).run sampleStart (sampleModerated [sampleContributor])

def sampleListedTwice : State Unit (List (Bytes × Bytes)) :=
  (chain sampleEnv).run sampleStart (sampleModerated [sampleContributor, sampleContributor])

theorem sample_moderated :
    acceptedReports ((chain sampleEnv).history sampleStart (sampleModerated [sampleContributor])) =
      [{ sampleReport 0 with approvingModerators := [sampleContributor] }] := by
  decide +kernel

theorem sample_moderator_charged :
    Reputation.laterUpheld sampleListedOnce.reputation sampleContributor =
      reportsListing sampleListedOnce.memory sampleContributor := by
  have hiff := moderator_totals_iff sampleEnv Application.sampleStart
    (sampleModerated [sampleContributor]) sampleContributor
  have hrun : (chain sampleEnv).run (emptied Application.sampleStart)
      (sampleModerated [sampleContributor]) = sampleListedOnce := rfl
  have hstart : emptied Application.sampleStart = sampleStart := rfl
  rw [hrun, hstart, sample_moderated] at hiff
  refine ((hiff (by decide)).mpr ⟨by decide, ?_⟩).1
  intro msg hmsg
  rw [List.mem_singleton.mp hmsg]
  decide

/-- The one report lists the moderator twice: two are counted, one is stored and returned. -/
theorem moderator_charged_twice :
    Reputation.laterUpheld sampleListedTwice.reputation sampleContributor = 2 ∧
    reportsListing sampleListedTwice.memory sampleContributor = 1 ∧
    (Reputation.upheldReportsByModerator sampleListedTwice.memory sampleContributor none).map
      (fun result => result.total) = .ok 1 := by
  decide +kernel

end ModeratorSample

end WeVibeChain.Counters
