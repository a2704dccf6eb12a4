import WeVibeChain.MemoryTotals

/-!
# What a contributor's profile counts

An approval adds to the approved memories in the contributor's profile. So does a
report that names the contributor: the counter for upheld reports is moved by a
message of the authority only. The profile agrees with the records exactly as
long as no report names the contributor.
-/

set_option autoImplicit false

namespace WeVibeChain.Counters

open Bytes
open Application (Env State)
open Memory (MsgReportMemory)

section Contributors
variable {β γ : Type} {env : Env β γ} {st st' : State β γ} {c o : Bytes}

/-- How many approved memories of the org the contributor has. -/
def approvedBy (s : Memory.Store) (orgID contributor : Bytes) : Nat :=
  s.approved.values.countP fun m => m.orgId = orgID ∧ m.contributorPubkey = contributor

/-- How many reports of the org name the contributor. -/
def reportsNaming (s : Memory.Store) (orgID contributor : Bytes) : Nat :=
  s.report.values.countP fun r => r.orgId = orgID ∧ r.contributorPubkey = contributor

/-- The profile has approvals and reports together, and no upheld reports. -/
structure Credited (c o : Bytes) (st : State β γ) : Prop where
  approved : (Reputation.getContributorProfile st.reputation c o).totalApprovedMemories =
    UInt64.ofNat (approvedBy st.memory o c + reportsNaming st.memory o c)
  upheld : (Reputation.getContributorProfile st.reputation c o).totalReportsUpheldAgainst = 0

/-- The input is not a message of x/reputation that the authority signs. -/
def Unsigned (env : Env β γ) (input : Input β γ) : Prop :=
  ∀ msg, input = .reputation msg → msg.signer ≠ env.authority

theorem getContributorProfile_congr {s s' : Reputation.Store} (h : s'.profile = s.profile)
    (c o : Bytes) :
    Reputation.getContributorProfile s' c o = Reputation.getContributorProfile s c o := by
  rw [Reputation.getContributorProfile, Reputation.getContributorProfile, h]

theorem Credited.booked (h : Credited c o st) (hbooks : Books st) (ho : slash ∉ o)
    {input : Input β γ} {output : Output} (hunsigned : Unsigned env input)
    (hbooked : Booked env st input output st') : Credited c o st' := by
  cases hbooked with
  | same books silent profile =>
    obtain ⟨happroved, hupheld⟩ := h
    have hprofile := getContributorProfile_congr (profile hunsigned) c o
    refine ⟨?_, hprofile ▸ hupheld⟩
    rw [hprofile, happroved]
    unfold approvedBy reportsNaming
    rw [books.approved, books.report]
  | approved msg pending record approvable silent =>
    have hcounts : approvedBy (approvedState env st msg pending record).memory o c =
        approvedBy st.memory o c +
          if msg.orgId = o ∧ pending.contributor = c then 1 else 0 := by
      refine (OrderedMap.countP_values_set approvable.fresh _ _).trans ?_
      simp only [decide_eq_true_eq]
      rfl
    obtain ⟨hmemories, hreports⟩ := Reputation.incrementContribution_totals st.reputation
      pending.contributor c (hbooks.slash_notMem approvable.org) ho
    refine ⟨?_, hreports.trans h.upheld⟩
    refine hmemories.trans ?_
    rw [h.approved, hcounts, Nat.add_right_comm, Words.ofNat_add_ite]
    simp only [eq_comm, and_comm]
    rfl
  | reported msg record reportable told =>
    have hcounts : reportsNaming (reportedState st msg record).memory o c =
        reportsNaming st.memory o c +
          if msg.orgId = o ∧ msg.contributorPubkey = c then 1 else 0 := by
      refine (OrderedMap.countP_values_set reportable.fresh _ _).trans ?_
      simp only [decide_eq_true_eq]
      rfl
    obtain ⟨hmemories, hreports⟩ := Reputation.incrementContribution_totals st.reputation
      msg.contributorPubkey c (hbooks.slash_notMem reportable.org) ho
    have hframe : (reportedState st msg record).reputation.profile =
        (Reputation.incrementContribution st.reputation msg.contributorPubkey msg.orgId).profile :=
      (Reputation.foldl_upheld_frame _ _ _).1
    have hprofile := getContributorProfile_congr hframe c o
    refine ⟨?_, ?_⟩
    · rw [hprofile, hmemories, h.approved, hcounts, ← Nat.add_assoc, Words.ofNat_add_ite]
      simp only [eq_comm, and_comm]
      rfl
    · rw [hprofile]
      exact hreports.trans h.upheld

theorem credited_run (start : State β γ) {inputs : List (Input β γ)} (c : Bytes) (ho : slash ∉ o)
    (hinputs : ∀ input ∈ inputs, Unsigned env input) :
    Credited c o ((chain env).run (emptied start) inputs) :=
  run_booked (P := fun _ input => Unsigned env input)
    (fun _ _ _ _ hbooks hinput h hbooked => h.booked hbooks ho hinput hbooked)
    (⟨rfl, rfl⟩ : Credited c o (emptied start))
    ((chain env).along_of_forall (fun _ input hinput => hinputs input hinput) _)

/-- The reports that name a contributor are the accepted ones that do. -/
theorem reportsNaming_eq_zero_iff (env : Env β γ) (start : State β γ) (inputs : List (Input β γ))
    (o c : Bytes) :
    reportsNaming ((chain env).run (emptied start) inputs).memory o c = 0 ↔
      ∀ msg ∈ acceptedReports ((chain env).history (emptied start) inputs),
        msg.orgId = o → msg.contributorPubkey ≠ c := by
  unfold reportsNaming
  rw [(run_reports env start inputs).countP_eq, List.countP_eq_zero]
  simp only [List.mem_map, forall_exists_index, and_imp, forall_apply_eq_imp_iff₂,
    decide_eq_true_eq, not_and]
  rfl

/-- Over every run from empty stores in which the authority signs no message of x/reputation, the
profile of a contributor in an org has the numbers of the contributor's approved memories and of
the reports against them if and only if no accepted report of the org names the contributor and the
memories fit in a word. -/
theorem contributor_totals_iff (env : Env β γ) (start : State β γ) (inputs : List (Input β γ))
    (c o : Bytes) (record : Orgs.StoredOrg)
    (hinputs : ∀ msg, .reputation msg ∈ inputs → msg.signer ≠ env.authority)
    (hrecord : ((chain env).run (emptied start) inputs).org.org.get (Orgs.orgKey o) =
      some record) :
    let st := (chain env).run (emptied start) inputs
    ((Reputation.getContributorProfile st.reputation c o).totalApprovedMemories.toNat =
        approvedBy st.memory o c ∧
      (Reputation.getContributorProfile st.reputation c o).totalReportsUpheldAgainst.toNat =
        reportsNaming st.memory o c) ↔
      (∀ msg ∈ acceptedReports ((chain env).history (emptied start) inputs),
        msg.orgId = o → msg.contributorPubkey ≠ c) ∧
        approvedBy st.memory o c < 2 ^ 64 := by
  intro st
  have hbooks : Books st := books_run env start inputs
  obtain ⟨happroved, hupheld⟩ : Credited c o st := by
    apply credited_run start c (hbooks.slash_notMem hrecord)
    rintro input hinput msg rfl
    exact hinputs msg hinput
  rw [happroved, hupheld, ← reportsNaming_eq_zero_iff]
  constructor
  · rintro ⟨hmemories, hreports⟩
    have hnone : reportsNaming st.memory o c = 0 := hreports.symm
    rw [hnone, Nat.add_zero, Words.toNat_ofNat_eq_iff] at hmemories
    exact ⟨hnone, hmemories⟩
  · rintro ⟨hnone, hfits⟩
    change reportsNaming st.memory o c = 0 at hnone
    rw [hnone, Nat.add_zero, Words.toNat_ofNat_eq_iff]
    exact ⟨hfits, rfl⟩

end Contributors

section ContributorSample

open EpochHooks (sampleContributor)
open Orgs (formatOrgID)

theorem sample_contributor_credited :
    (Reputation.getContributorProfile sampleApproved.reputation sampleContributor
        (formatOrgID 0)).totalApprovedMemories.toNat =
      approvedBy sampleApproved.memory (formatOrgID 0) sampleContributor := by
  obtain ⟨-, -, -, horg⟩ := sample_approved
  obtain ⟨record, hrecord, -⟩ := Option.map_eq_some_iff.mp horg
  have hrun : (chain sampleEnv).run (emptied Application.sampleStart) sampleApproval =
      sampleApproved := rfl
  have hiff := contributor_totals_iff sampleEnv Application.sampleStart sampleApproval
    sampleContributor (formatOrgID 0) record
  rw [hrun] at hiff
  refine ((hiff (by simp [sampleApproval]) hrecord).mpr ?_).1
  exact ⟨by decide +kernel, by decide +kernel⟩

def sampleReportedOnce : State Unit (List (Bytes × Bytes)) :=
  (chain sampleEnv).run sampleStart (sampleReports 1)

/-- One memory of the contributor is approved and one report names them. The profile has two
approved memories and no report. -/
theorem report_counted_as_approval :
    (∀ msg, .reputation msg ∉ sampleReports 1) ∧
      approvedBy sampleReportedOnce.memory (formatOrgID 0) sampleContributor = 1 ∧
      reportsNaming sampleReportedOnce.memory (formatOrgID 0) sampleContributor = 1 ∧
      (Reputation.getContributorProfile sampleReportedOnce.reputation sampleContributor
        (formatOrgID 0)).totalApprovedMemories = 2 ∧
      (Reputation.getContributorProfile sampleReportedOnce.reputation sampleContributor
        (formatOrgID 0)).totalReportsUpheldAgainst = 0 := by
  refine ⟨by simp [sampleReports, sampleApproval], ?_⟩
  decide +kernel

end ContributorSample

end WeVibeChain.Counters
