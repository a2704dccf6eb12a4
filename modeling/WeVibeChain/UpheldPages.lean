import WeVibeChain.UpheldQueries
import WeVibeChain.Shared.Words

/-!
# Pages of upheld reports

The bounds of a page come from two unsigned words of the request, read as signed ones and
added. As long as neither is read as a negative number and the sum does not wrap around, the
page is the part of the list the words ask for. Otherwise the bounds of the slice are out of
order, and the query panics.
-/

set_option autoImplicit false

namespace WeVibeChain.Reputation

section Bounds
variable {reports : List UpheldReportEntry} {offset limit : Nat}

def pageOffset (page : Option PageRequest) : UInt64 := (page.getD { limit := 100 }).offset

/-- A limit that is absent or zero stands for a hundred. -/
def pageLimit (page : Option PageRequest) : UInt64 :=
  let request := page.getD { limit := 100 }
  if request.limit = 0 then 100 else request.limit

/-- The reports between the bounds, computed over unbounded integers. -/
def reportsBetween (reports : List UpheldReportEntry) (offset limit : Nat) :
    List UpheldReportEntry :=
  (reports.take (min (offset + limit) reports.length)).drop (min offset reports.length)

/-- The offset is a signed word, and so is the end of the page. -/
def BoundsFit (offset limit length : Nat) : Prop :=
  offset < 2 ^ 63 ∧ min offset length + limit < 2 ^ 63

theorem reportsBetween_eq (reports : List UpheldReportEntry) (offset limit : Nat) :
    reportsBetween reports offset limit = (reports.drop offset).take limit := by
  rw [reportsBetween, ← List.take_eq_take_min, List.drop_take, ← List.drop_eq_drop_min,
    List.take_eq_take_iff, List.length_drop]
  omega

/-- An offset past the end stands for the end. -/
theorem sliceReports_min (reports : List UpheldReportEntry) (offset limit : Int) :
    sliceReports reports (min offset reports.length) limit = sliceReports reports offset limit := by
  unfold sliceReports
  rw [min_assoc, min_self]

theorem sliceReports_of_fit (h : BoundsFit offset limit reports.length) :
    sliceReports reports offset limit =
      .ok ⟨reportsBetween reports offset limit, UInt64.ofNat reports.length⟩ := by
  have hoffset : min (offset : Int) reports.length = (min offset reports.length : Nat) := by omega
  rw [← sliceReports_min, hoffset, sliceReports_eq reports h.2, reportsBetween_eq,
    ← List.drop_eq_drop_min]

/-- Words that are read as negative numbers, or whose sum wraps around, are no bounds. -/
theorem sliceReports_of_not_fit {first count : UInt64}
    (h : ¬ BoundsFit first.toNat count.toNat reports.length) :
    sliceReports reports first.toInt64.toInt count.toInt64.toInt = .error .sliceBounds := by
  have hlt := first.toNat_lt
  unfold sliceReports
  dsimp only
  rw [Words.toInt_toInt64 first]
  by_cases hfirst : first.toNat < 2 ^ 63
  · -- the end is below the start: by a negative limit, or after the sum has wrapped around
    have hend : 2 ^ 63 ≤ min first.toNat reports.length + count.toNat := by
      by_contra hlt
      exact h ⟨hfirst, Nat.lt_of_not_le hlt⟩
    have hcount := count.toNat_lt
    have hwrap : Int.bmod (min (first.toNat : Int) reports.length + count.toInt64.toInt) (2 ^ 64) =
        min (first.toNat : Int) reports.length + count.toNat - 2 ^ 64 := by
      rw [Words.toInt_toInt64, Int.bmod_def]
      split <;> omega
    rw [if_pos hfirst, hwrap, if_pos (Or.inr (by omega))]
  · rw [if_neg hfirst, if_pos (Or.inl (by omega))]

end Bounds

section Pages
variable {reports : List UpheldReportEntry} {page : Option PageRequest}

theorem paginateReports_eq (reports : List UpheldReportEntry) (page : Option PageRequest) :
    paginateReports reports page =
      sliceReports reports (pageOffset page).toInt64.toInt (pageLimit page).toInt64.toInt := by
  unfold paginateReports pageLimit
  dsimp only
  split <;> rfl

theorem paginateReports_of_fit
    (h : BoundsFit (pageOffset page).toNat (pageLimit page).toNat reports.length) :
    paginateReports reports page =
      .ok ⟨reportsBetween reports (pageOffset page).toNat (pageLimit page).toNat,
        UInt64.ofNat reports.length⟩ := by
  have hlimit : (pageLimit page).toNat < 2 ^ 63 := by
    have := h.2
    omega
  rw [paginateReports_eq, Words.toInt_toInt64_of_lt h.1, Words.toInt_toInt64_of_lt hlimit]
  exact sliceReports_of_fit h

theorem paginateReports_of_not_fit
    (h : ¬ BoundsFit (pageOffset page).toNat (pageLimit page).toNat reports.length) :
    paginateReports reports page = .error .sliceBounds := by
  rw [paginateReports_eq]
  exact sliceReports_of_not_fit h

end Pages

section Collected
variable {reports : List UpheldReportEntry} {limit : UInt64} {k count : Nat}

/-- The pages of one size, each from where the one before it ended. -/
def nthPage (limit : UInt64) (k : Nat) : Option PageRequest :=
  some ⟨UInt64.ofNat (k * limit.toNat), limit⟩

/-- What a client has after asking for that many pages. -/
def collectPages (reports : List UpheldReportEntry) (limit : UInt64) :
    Nat → Except ListError (List UpheldReportEntry)
  | 0 => .ok []
  | count + 1 =>
    match collectPages reports limit count with
    | .error e => .error e
    | .ok collected =>
      match paginateReports reports (nthPage limit count) with
      | .error e => .error e
      | .ok response => .ok (collected ++ response.reports)

theorem nthPage_bounds (hlimit : limit ≠ 0) (hoffset : k * limit.toNat < 2 ^ 64) :
    (pageOffset (nthPage limit k)).toNat = k * limit.toNat ∧
      pageLimit (nthPage limit k) = limit :=
  ⟨Words.toNat_ofNat_eq_iff.mpr hoffset, if_neg hlimit⟩

theorem paginateReports_nthPage (hlimit : limit ≠ 0)
    (hfit : BoundsFit (k * limit.toNat) limit.toNat reports.length) :
    paginateReports reports (nthPage limit k) =
      .ok ⟨(reports.drop (k * limit.toNat)).take limit.toNat, UInt64.ofNat reports.length⟩ := by
  obtain ⟨hfirst, hlast⟩ := nthPage_bounds hlimit (hfit.1.trans (by decide))
  rw [paginateReports_of_fit (by rwa [hfirst, hlast]), hfirst, hlast, reportsBetween_eq]

/-- Pages that fit add up to a beginning of the list. -/
theorem collectPages_of_fit (hlimit : limit ≠ 0)
    (hfit : ∀ k < count, BoundsFit (k * limit.toNat) limit.toNat reports.length) :
    collectPages reports limit count = .ok (reports.take (count * limit.toNat)) := by
  induction count with
  | zero => rw [Nat.zero_mul, List.take_zero, collectPages]
  | succ count ih =>
    have hpage := paginateReports_nthPage hlimit (hfit count (Nat.lt_succ_self count))
    have hcollected := ih fun k hk => hfit k (Nat.lt_succ_of_lt hk)
    simp only [collectPages, hcollected, hpage, Nat.succ_mul, List.take_add]

/-- A client that gets all its pages has asked for bounds that fit. -/
theorem fit_of_collectPages {collected : List UpheldReportEntry} (hlimit : limit ≠ 0)
    (hoffset : ∀ k < count, k * limit.toNat < 2 ^ 64)
    (h : collectPages reports limit count = .ok collected) :
    ∀ k < count, BoundsFit (k * limit.toNat) limit.toNat reports.length := by
  induction count generalizing collected with
  | zero => exact fun k hk => absurd hk (Nat.not_lt_zero k)
  | succ count ih =>
    rw [collectPages] at h
    split at h
    · cases h
    · next before hbefore =>
      obtain ⟨hfirst, hlast⟩ := nthPage_bounds hlimit (hoffset count (Nat.lt_succ_self count))
      intro k hk
      rcases Nat.lt_succ_iff_lt_or_eq.mp hk with hk | rfl
      · exact ih (fun k hk => hoffset k (Nat.lt_succ_of_lt hk)) hbefore k hk
      · by_contra hfit
        rw [← hfirst, ← congrArg UInt64.toNat hlast] at hfit
        rw [paginateReports_of_not_fit hfit] at h
        cases h

/-- A page is the part of the list asked for, and pages of one size add up to the whole
list, exactly where the bounds fit into signed words. -/
theorem report_pages_iff (reports : List UpheldReportEntry) :
    (∀ page : Option PageRequest,
      (paginateReports reports page =
          .ok ⟨reportsBetween reports (pageOffset page).toNat (pageLimit page).toNat,
            UInt64.ofNat reports.length⟩ ↔
        BoundsFit (pageOffset page).toNat (pageLimit page).toNat reports.length) ∧
      (¬ BoundsFit (pageOffset page).toNat (pageLimit page).toNat reports.length →
        paginateReports reports page = .error .sliceBounds)) ∧
    ∀ (limit : UInt64) (count : Nat), limit ≠ 0 → (∀ k < count, k * limit.toNat < 2 ^ 64) →
      reports.length ≤ count * limit.toNat →
      (collectPages reports limit count = .ok reports ↔
        ∀ k < count, BoundsFit (k * limit.toNat) limit.toNat reports.length) := by
  refine ⟨fun page => ⟨⟨fun h => ?_, paginateReports_of_fit⟩, paginateReports_of_not_fit⟩,
    fun limit count hlimit hoffset hcount => ⟨fit_of_collectPages hlimit hoffset, fun hfit => ?_⟩⟩
  · by_contra hfit
    rw [paginateReports_of_not_fit hfit] at h
    cases h
  · rw [collectPages_of_fit hlimit hfit, List.take_of_length_le hcount]

def sampleReport (upheldAtEpoch : UInt64) : UpheldReportEntry where
  orgId := [1]
  contentHash := [2]
  contributorPubkey := [3]
  approvingModerators := [[4]]
  upholdingModerators := [[5], [6]]
  reporterPubkey := [7]
  reason := []
  upheldAtEpoch := upheldAtEpoch

def sampleReports : List UpheldReportEntry := [sampleReport 1, sampleReport 2, sampleReport 3]

/-- Two pages of two reports have all three of them. -/
theorem report_pages_sample :
    collectPages sampleReports 2 2 = .ok sampleReports ∧
      paginateReports sampleReports (some { offset := 2 }) = .ok ⟨[sampleReport 3], 3⟩ := by
  refine ⟨((report_pages_iff sampleReports).2 2 2 (by decide) (by decide) (by decide)).mpr ?_,
    ((report_pages_iff sampleReports).1 _).1.mpr ⟨by decide, by decide⟩⟩
  intro k hk
  change k * 2 < 2 ^ 63 ∧ min (k * 2) 3 + 2 < 2 ^ 63
  omega

/-- An offset of 2^63 is read as a negative one, a limit of 2^63 ends the page before its
start, and so does the largest limit with any offset that is not zero. -/
theorem report_page_panics :
    paginateReports sampleReports (some { offset := 2 ^ 63, limit := 1 }) = .error .sliceBounds ∧
      paginateReports sampleReports (some { offset := 0, limit := 2 ^ 63 }) =
        .error .sliceBounds ∧
      paginateReports sampleReports (some { offset := 1, limit := 2 ^ 63 - 1 }) =
        .error .sliceBounds ∧
      upheldReportsByContributor {} [3] (some { offset := 2 ^ 63, limit := 1 }) =
        .error .sliceBounds ∧
      ListError.code .sliceBounds = none := by
  decide +kernel

end Collected

end WeVibeChain.Reputation
