import WeVibeChain.ReputationMsgServer
import WeVibeChain.Shared.Words

/-!
# x/reputation: what the profile counters add up to

A profile has the id of its org at the end of its key, and ids of orgs have no
slash, so the key says whose profile it is. The counters of a profile are 64-bit
words; a total over profiles is followed as long as it fits in a word.
-/

set_option autoImplicit false

namespace WeVibeChain.Reputation

open Bytes

section Keys
variable {a a' o o' : Bytes}

theorem profileKey_inj (tag : Bytes) (ho : slash ∉ o) (ho' : slash ∉ o') :
    tag ++ a ++ slash :: o = tag ++ a' ++ slash :: o' ↔ a = a' ∧ o = o' := by
  rw [append_cons_inj_of_notMem ho ho', List.append_cancel_left_eq]

theorem contributorProfileKey_inj (ho : slash ∉ o) (ho' : slash ∉ o') :
    contributorProfileKey a o = contributorProfileKey a' o' ↔ a = a' ∧ o = o' :=
  profileKey_inj (ascii "profile/") ho ho'

theorem moderatorProfileKey_inj (ho : slash ∉ o) (ho' : slash ∉ o') :
    moderatorProfileKey a o = moderatorProfileKey a' o' ↔ a = a' ∧ o = o' :=
  profileKey_inj (ascii "modprofile//") ho ho'

theorem leaderProfileKey_inj (ho : slash ∉ o) (ho' : slash ∉ o') :
    leaderProfileKey a o = leaderProfileKey a' o' ↔ a = a' ∧ o = o' :=
  profileKey_inj (ascii "leaderprofile//") ho ho'

end Keys

section Frames
variable {s s' s'' : Store}

/-- The profiles of moderators and leaders are the same in the two stores. -/
structure SameModeration (s s' : Store) : Prop where
  moderatorProfile : s'.moderatorProfile = s.moderatorProfile
  leaderProfile : s'.leaderProfile = s.leaderProfile

/-- All profiles are the same in the two stores. -/
structure SameProfiles (s s' : Store) : Prop extends SameModeration s s' where
  profile : s'.profile = s.profile

theorem SameProfiles.refl (s : Store) : SameProfiles s s := ⟨⟨rfl, rfl⟩, rfl⟩

theorem SameProfiles.trans (h : SameProfiles s s') (h' : SameProfiles s' s'') :
    SameProfiles s s'' :=
  ⟨⟨h'.moderatorProfile.trans h.moderatorProfile, h'.leaderProfile.trans h.leaderProfile⟩,
    h'.profile.trans h.profile⟩

theorem recordServe_profiles {wallet orgID : Bytes} {epoch : UInt64} {isSelfServe : Bool}
    (h : recordServe s wallet orgID epoch isSelfServe = .ok s') : SameProfiles s s' := by
  unfold recordServe at h
  split at h
  · cases h
  obtain rfl := Except.ok.inj h
  exact ⟨⟨rfl, rfl⟩, rfl⟩

/-- The messages leave the profiles of moderators and leaders alone, and those of contributors too
unless the authority signs. -/
theorem deliver_profiles (authority : Bytes) (s : Store) (msg : Msg) :
    SameModeration s (deliver authority s msg).1 ∧
      (msg.signer ≠ authority → (deliver authority s msg).1.profile = s.profile) := by
  rcases deliver_cases authority s msg with ⟨-, hsame⟩ | hstored
  · rw [hsame]
    exact ⟨⟨rfl, rfl⟩, fun _ => rfl⟩
  · generalize (deliver authority s msg).1 = s' at hstored ⊢
    cases hstored with
    | update m basic _ updated =>
      obtain ⟨-, stats, -, rfl⟩ := updateReputation_ok updated
      exact ⟨⟨rfl, rfl⟩, fun _ => rfl⟩
    | params m signed => exact ⟨⟨rfl, rfl⟩, fun hsigner => absurd signed hsigner⟩
    | contribution m signed => exact ⟨⟨rfl, rfl⟩, fun hsigner => absurd signed hsigner⟩
    | serve m signed => exact ⟨⟨rfl, rfl⟩, fun hsigner => absurd signed hsigner⟩
    | ban m signed => exact ⟨⟨rfl, rfl⟩, fun hsigner => absurd signed hsigner⟩

end Frames

section Contributors
variable {s : Store} {c o : Bytes}

/-- A contribution is counted in one profile, and reports against the contributor in none. -/
theorem incrementContribution_totals (s : Store) (c c' : Bytes) {o o' : Bytes} (ho : slash ∉ o)
    (ho' : slash ∉ o') :
    (getContributorProfile (incrementContribution s c o) c' o').totalApprovedMemories =
        (getContributorProfile s c' o').totalApprovedMemories +
          (if c' = c ∧ o' = o then 1 else 0) ∧
      (getContributorProfile (incrementContribution s c o) c' o').totalReportsUpheldAgainst =
        (getContributorProfile s c' o').totalReportsUpheldAgainst := by
  unfold getContributorProfile incrementContribution modifyContributorProfile
  simp only [OrderedMap.get_set, contributorProfileKey_inj ho' ho]
  by_cases hsame : c' = c ∧ o' = o
  · obtain ⟨rfl, rfl⟩ := hsame
    cases s.profile.get (contributorProfileKey c' o') with
    | none => simp
    | some p => by_cases hnamed : p.contributorId = [] <;> simp [hnamed]
  · simp [hsame]

end Contributors

section Moderation
variable {s : Store}

/-- The profiles of moderators and leaders are stored under the names they carry, and belong to
orgs whose id has no slash. -/
structure Keyed (s : Store) : Prop where
  moderator : s.moderatorProfile.Forall fun k p =>
    slash ∉ p.orgId ∧ k = moderatorProfileKey p.moderatorPubkey p.orgId
  leader : s.leaderProfile.Forall fun k p =>
    slash ∉ p.orgId ∧ k = leaderProfileKey p.leaderPubkey p.orgId

theorem Keyed.congr {s' : Store} (hs : Keyed s) (h : SameModeration s s') : Keyed s' := by
  constructor
  · rw [h.moderatorProfile]
    exact hs.moderator
  · rw [h.leaderProfile]
    exact hs.leader

theorem Keyed.incrementContribution (hs : Keyed s) (contributor orgID : Bytes) :
    Keyed (incrementContribution s contributor orgID) :=
  hs.congr ⟨rfl, rfl⟩

theorem Keyed.setModeratorProfile (hs : Keyed s) {p : ModeratorProfile} (ho : slash ∉ p.orgId) :
    Keyed (setModeratorProfile s p) :=
  ⟨hs.moderator.set ⟨ho, rfl⟩, hs.leader⟩

theorem Keyed.setLeaderProfile (hs : Keyed s) {p : LeaderProfile} (ho : slash ∉ p.orgId) :
    Keyed (setLeaderProfile s p) :=
  ⟨hs.moderator, hs.leader.set ⟨ho, rfl⟩⟩

/-- The profile that is read carries the names it is asked for by. -/
theorem Keyed.getModeratorProfile_names (hs : Keyed s) (m : Bytes) {o : Bytes} (ho : slash ∉ o) :
    (getModeratorProfile s m o).moderatorPubkey = m ∧ (getModeratorProfile s m o).orgId = o := by
  unfold getModeratorProfile
  cases hget : s.moderatorProfile.get (moderatorProfileKey m o) with
  | none => exact ⟨rfl, rfl⟩
  | some p =>
    obtain ⟨hp, hkey⟩ := hs.moderator _ p hget
    obtain ⟨hm, horg⟩ := (moderatorProfileKey_inj ho hp).mp hkey
    exact ⟨hm.symm, horg.symm⟩

theorem Keyed.getLeaderProfile_names (hs : Keyed s) (l : Bytes) {o : Bytes} (ho : slash ∉ o) :
    (getLeaderProfile s l o).leaderPubkey = l ∧ (getLeaderProfile s l o).orgId = o := by
  unfold getLeaderProfile
  cases hget : s.leaderProfile.get (leaderProfileKey l o) with
  | none => exact ⟨rfl, rfl⟩
  | some p =>
    obtain ⟨hp, hkey⟩ := hs.leader _ p hget
    obtain ⟨hl, horg⟩ := (leaderProfileKey_inj ho hp).mp hkey
    exact ⟨hl.symm, horg.symm⟩

/-- A total over the profiles of moderators, of something a new profile has none of, rises by what
is added to the profile that is written. -/
theorem sumBy_setModeratorProfile {f : ModeratorProfile → Nat} {p : ModeratorProfile} {n : Nat}
    (hnew : f { moderatorPubkey := p.moderatorPubkey, orgId := p.orgId } = 0)
    (hp : f p = f (getModeratorProfile s p.moderatorPubkey p.orgId) + n) :
    (setModeratorProfile s p).moderatorProfile.sumBy f = s.moderatorProfile.sumBy f + n := by
  apply OrderedMap.sumBy_set_add
  rw [hp, ← hnew, Option.getD_map]
  rfl

theorem sumBy_setLeaderProfile {f : LeaderProfile → Nat} {p : LeaderProfile} {n : Nat}
    (hnew : f { leaderPubkey := p.leaderPubkey, orgId := p.orgId } = 0)
    (hp : f p = f (getLeaderProfile s p.leaderPubkey p.orgId) + n) :
    (setLeaderProfile s p).leaderProfile.sumBy f = s.leaderProfile.sumBy f + n := by
  apply OrderedMap.sumBy_set_add
  rw [hp, ← hnew, Option.getD_map]
  rfl

theorem le_sumBy_moderatorProfile {f : ModeratorProfile → Nat} {m o : Bytes}
    (hnew : f { moderatorPubkey := m, orgId := o } = 0) :
    f (getModeratorProfile s m o) ≤ s.moderatorProfile.sumBy f := by
  unfold getModeratorProfile
  cases hget : s.moderatorProfile.get (moderatorProfileKey m o) with
  | none => exact hnew.le.trans (Nat.zero_le _)
  | some p => exact OrderedMap.le_sumBy hget

theorem le_sumBy_leaderProfile {f : LeaderProfile → Nat} {l o : Bytes}
    (hnew : f { leaderPubkey := l, orgId := o } = 0) :
    f (getLeaderProfile s l o) ≤ s.leaderProfile.sumBy f := by
  unfold getLeaderProfile
  cases hget : s.leaderProfile.get (leaderProfileKey l o) with
  | none => exact hnew.le.trans (Nat.zero_le _)
  | some p => exact OrderedMap.le_sumBy hget

end Moderation

section Leaders
variable {s : Store} {l o : Bytes}

/-- The chain commits of all leaders of an org. -/
def chainCommits (s : Store) (orgID : Bytes) : Nat :=
  s.leaderProfile.sumBy fun p => if p.orgId = orgID then p.totalChainCommitsSigned.toNat else 0

theorem Keyed.incrementLeaderChainCommit (hs : Keyed s) (l : Bytes) (ho : slash ∉ o) :
    Keyed (incrementLeaderChainCommit s l o) := by
  apply hs.setLeaderProfile
  rw [(hs.getLeaderProfile_names l ho).2]
  exact ho

theorem Keyed.incrementLeaderUpheldReport (hs : Keyed s) (l : Bytes) (ho : slash ∉ o) :
    Keyed (incrementLeaderUpheldReport s l o) := by
  apply hs.setLeaderProfile
  rw [(hs.getLeaderProfile_names l ho).2]
  exact ho

theorem Keyed.signed_le (hs : Keyed s) (l : Bytes) (ho : slash ∉ o) :
    (getLeaderProfile s l o).totalChainCommitsSigned.toNat ≤ chainCommits s o := by
  have hle := le_sumBy_leaderProfile (s := s) (l := l) (o := o) (f := fun p =>
    if p.orgId = o then p.totalChainCommitsSigned.toNat else 0) (by simp)
  simp only [(hs.getLeaderProfile_names l ho).2, if_true] at hle
  exact hle

theorem Keyed.chainCommits_commit (hs : Keyed s) (l : Bytes) (ho : slash ∉ o) (o' : Bytes)
    (hfits : o = o' → chainCommits s o + 1 < 2 ^ 64) :
    chainCommits (Reputation.incrementLeaderChainCommit s l o) o' =
      chainCommits s o' + if o = o' then 1 else 0 := by
  obtain ⟨hl, horg⟩ := hs.getLeaderProfile_names l ho
  have hle := hs.signed_le l ho
  apply sumBy_setLeaderProfile
  · simp
  · simp only [hl, horg]
    exact Words.ite_toNat_add_one fun hsame =>
      Nat.lt_of_le_of_lt (Nat.add_le_add_right hle 1) (hfits hsame)

theorem Keyed.chainCommits_upheld (hs : Keyed s) (l : Bytes) (ho : slash ∉ o) (o' : Bytes) :
    chainCommits (Reputation.incrementLeaderUpheldReport s l o) o' = chainCommits s o' := by
  obtain ⟨hl, horg⟩ := hs.getLeaderProfile_names l ho
  apply sumBy_setLeaderProfile (n := 0)
  · simp
  · simp only [hl, horg, Nat.add_zero]

/-- A change that keeps the names of a leader's profile is seen in that profile and no other. -/
theorem Keyed.getLeaderProfile_set (hs : Keyed s) (fn : LeaderProfile → LeaderProfile)
    (hfn : ∀ p, (fn p).leaderPubkey = p.leaderPubkey ∧ (fn p).orgId = p.orgId) (l l' : Bytes)
    (ho : slash ∉ o) :
    getLeaderProfile (Reputation.setLeaderProfile s (fn (getLeaderProfile s l o))) l' o =
      if l' = l then fn (getLeaderProfile s l o) else getLeaderProfile s l' o := by
  obtain ⟨hl, horg⟩ := hs.getLeaderProfile_names l ho
  obtain ⟨hfnl, hfnorg⟩ := hfn (getLeaderProfile s l o)
  rw [getLeaderProfile, Reputation.setLeaderProfile, hfnl, hfnorg, hl, horg]
  simp only [OrderedMap.get_set, leaderProfileKey_inj ho ho, and_true]
  split <;> rfl

/-- A commit is counted in the profile of one leader. -/
theorem Keyed.totalChainCommitsSigned (hs : Keyed s) (l l' : Bytes) (ho : slash ∉ o) :
    (getLeaderProfile (Reputation.incrementLeaderChainCommit s l o) l' o).totalChainCommitsSigned =
      (getLeaderProfile s l' o).totalChainCommitsSigned + if l' = l then 1 else 0 := by
  have hset := hs.getLeaderProfile_set
    (fun p => { p with totalChainCommitsSigned := p.totalChainCommitsSigned + 1 })
    (fun p => ⟨rfl, rfl⟩) l l' ho
  refine (congrArg LeaderProfile.totalChainCommitsSigned hset).trans ?_
  by_cases hsame : l' = l
  · rw [if_pos hsame, if_pos hsame, hsame]
  · rw [if_neg hsame, if_neg hsame, UInt64.add_zero]

/-- An upheld report is counted in the profile of one leader. -/
theorem Keyed.totalUpheldReportsCommitted (hs : Keyed s) (l l' : Bytes) (ho : slash ∉ o) :
    (getLeaderProfile (Reputation.incrementLeaderUpheldReport s l o) l'
        o).totalUpheldReportsCommitted =
      (getLeaderProfile s l' o).totalUpheldReportsCommitted + if l' = l then 1 else 0 := by
  have hset := hs.getLeaderProfile_set
    (fun p => { p with totalUpheldReportsCommitted := p.totalUpheldReportsCommitted + 1 })
    (fun p => ⟨rfl, rfl⟩) l l' ho
  refine (congrArg LeaderProfile.totalUpheldReportsCommitted hset).trans ?_
  by_cases hsame : l' = l
  · rw [if_pos hsame, if_pos hsame, hsame]
  · rw [if_neg hsame, if_neg hsame, UInt64.add_zero]

theorem getLeaderProfile_congr {s' : Store} (h : s'.leaderProfile = s.leaderProfile)
    (l o : Bytes) : getLeaderProfile s' l o = getLeaderProfile s l o := by
  rw [getLeaderProfile, getLeaderProfile, h]

end Leaders

section Moderators
variable {s : Store} {o : Bytes}

/-- How often a moderator's approvals were later upheld against, over all orgs. -/
def laterUpheld (s : Store) (modPubkey : Bytes) : Nat :=
  s.moderatorProfile.sumBy fun p =>
    if p.moderatorPubkey = modPubkey then p.approvalsLaterUpheldCount.toNat else 0

theorem Keyed.incrementModeratorUpheld (hs : Keyed s) (m : Bytes) (ho : slash ∉ o) :
    Keyed (incrementModeratorUpheld s m o) := by
  apply hs.setModeratorProfile
  rw [(hs.getModeratorProfile_names m ho).2]
  exact ho

theorem Keyed.upheld_le (hs : Keyed s) (m : Bytes) (ho : slash ∉ o) :
    (getModeratorProfile s m o).approvalsLaterUpheldCount.toNat ≤ laterUpheld s m := by
  have hle := le_sumBy_moderatorProfile (s := s) (m := m) (o := o) (f := fun p =>
    if p.moderatorPubkey = m then p.approvalsLaterUpheldCount.toNat else 0) (by simp)
  simp only [(hs.getModeratorProfile_names m ho).1, if_true] at hle
  exact hle

theorem Keyed.laterUpheld_increment (hs : Keyed s) (m m' : Bytes) (ho : slash ∉ o)
    (hfits : m = m' → laterUpheld s m + 1 < 2 ^ 64) :
    laterUpheld (Reputation.incrementModeratorUpheld s m o) m' =
      laterUpheld s m' + if m = m' then 1 else 0 := by
  obtain ⟨hm, horg⟩ := hs.getModeratorProfile_names m ho
  have hle := hs.upheld_le m ho
  apply sumBy_setModeratorProfile
  · simp
  · simp only [hm, horg]
    exact Words.ite_toNat_add_one fun hsame =>
      Nat.lt_of_le_of_lt (Nat.add_le_add_right hle 1) (hfits hsame)

/-- The loop over the approving moderators of a report keeps all other profiles. -/
theorem foldl_upheld_frame (s : Store) (mods : List Bytes) (o : Bytes) :
    (mods.foldl (fun r m => incrementModeratorUpheld r m o) s).profile = s.profile ∧
      (mods.foldl (fun r m => incrementModeratorUpheld r m o) s).leaderProfile =
        s.leaderProfile := by
  induction mods generalizing s with
  | nil => exact ⟨rfl, rfl⟩
  | cons m mods ih => exact ih (incrementModeratorUpheld s m o)

theorem Keyed.foldl_upheld (hs : Keyed s) (mods : List Bytes) (ho : slash ∉ o) :
    Keyed (mods.foldl (fun r m => Reputation.incrementModeratorUpheld r m o) s) := by
  induction mods generalizing s with
  | nil => exact hs
  | cons m mods ih => exact ih (hs.incrementModeratorUpheld m ho)

/-- A moderator is counted as often as the list names them. -/
theorem Keyed.laterUpheld_foldl (hs : Keyed s) (mods : List Bytes) (m : Bytes) (ho : slash ∉ o)
    (hfits : laterUpheld s m + mods.count m < 2 ^ 64) :
    laterUpheld (mods.foldl (fun r m => Reputation.incrementModeratorUpheld r m o) s) m =
      laterUpheld s m + mods.count m := by
  induction mods generalizing s with
  | nil => rfl
  | cons m' mods ih =>
    simp only [List.count_cons, beq_iff_eq] at hfits ⊢
    have hone : laterUpheld (Reputation.incrementModeratorUpheld s m' o) m =
        laterUpheld s m + if m' = m then 1 else 0 := by
      apply hs.laterUpheld_increment m' m ho
      intro hsame
      rw [if_pos hsame] at hfits
      rw [hsame]
      omega
    rw [List.foldl_cons, ih (hs.incrementModeratorUpheld m' ho), hone]
    · omega
    · rw [hone]
      omega

end Moderators

end WeVibeChain.Reputation
