import WeVibeChain.ReputationRuns
import WeVibeChain.Shared.Words

/-!
# x/reputation: what the serves of a contributor add up to

The counters of serves and the set of orgs are two records, both written by every
serve, and attestations write the first of them in between. They agree with each
other and with the serves that were recorded, as long as the totals fit in a word.
-/

set_option autoImplicit false

namespace WeVibeChain.Reputation

open Bytes OrderedMap

section Serves

/-- What a recorded serve says about the contributor. -/
structure Serve where
  orgID : Bytes
  isSelfServe : Bool
  deriving DecidableEq

def StatsCall.serveOf (d : Bytes) : StatsCall → Option Serve
  | recordServe wallet orgID _ isSelfServe => if wallet = d then some ⟨orgID, isSelfServe⟩ else none
  | _ => none

/-- The serves recorded for the contributor, in order. -/
def servesFor (d : Bytes) (calls : List StatsCall) : List Serve := calls.filterMap (·.serveOf d)

def selfServes (serves : List Serve) : Nat := serves.countP Serve.isSelfServe

/-- What the serves are worth. -/
def serveXPTotal (perServe perSelfServe : UInt64) (serves : List Serve) : Nat :=
  (serves.length - selfServes serves) * perServe.toNat + selfServes serves * perSelfServe.toNat

variable {s s' : Store} {stats : ReputationStats} {orgIds : List Bytes} {serves : List Serve}
  {perServe perSelfServe : UInt64}

theorem selfServes_le (serves : List Serve) : selfServes serves ≤ serves.length :=
  List.countP_le_length

theorem selfServes_append (serves : List Serve) (serve : Serve) :
    selfServes (serves ++ [serve]) = selfServes serves + if serve.isSelfServe then 1 else 0 := by
  rw [selfServes, List.countP_append, List.countP_singleton, selfServes]

/-- A serve adds what it is worth. -/
theorem serveXPTotal_append (serves : List Serve) (serve : Serve) :
    serveXPTotal perServe perSelfServe (serves ++ [serve]) =
      serveXPTotal perServe perSelfServe serves +
        (if serve.isSelfServe then perSelfServe else perServe).toNat := by
  have hle := selfServes_le serves
  unfold serveXPTotal
  rw [selfServes_append, List.length_append, List.length_singleton]
  cases serve.isSelfServe with
  | false =>
    have hothers : serves.length + 1 - (selfServes serves + 0) =
        serves.length - selfServes serves + 1 := by omega
    simp only [Bool.false_eq_true, if_false, hothers, Nat.add_mul]
    omega
  | true =>
    have hothers : serves.length + 1 - (selfServes serves + 1) =
        serves.length - selfServes serves := by omega
    simp only [if_true, hothers, Nat.add_mul]
    omega

/-- The statistics and the org set agree with the serves, in words. -/
structure ServeTally (perServe perSelfServe : UInt64) (stats : ReputationStats)
    (orgIds : List Bytes) (serves : List Serve) : Prop where
  serveCount : stats.serveCount = UInt64.ofNat serves.length
  selfServeCount : stats.selfServeCount = UInt64.ofNat (selfServes serves)
  serveXP : stats.serveXP = UInt64.ofNat (serveXPTotal perServe perSelfServe serves)
  orgBreadth : stats.orgBreadth = UInt64.ofNat orgIds.length
  nodup : orgIds.Nodup
  recorded : ∀ orgID, orgID ∈ orgIds ↔ ∃ serve ∈ serves, serve.orgID = orgID

theorem serveTally_nil (d : Bytes) : ServeTally perServe perSelfServe { developerID := d } [] [] where
  serveCount := rfl
  selfServeCount := rfl
  serveXP := by simp [serveXPTotal, selfServes]
  orgBreadth := rfl
  nodup := List.nodup_nil
  recorded orgID := by simp

/-- Only the counters of serves matter. -/
theorem ServeTally.credit (h : ServeTally perServe perSelfServe stats orgIds serves)
    (memory : AttestedMemory) : ServeTally perServe perSelfServe (credit stats memory) orgIds serves :=
  ⟨h.serveCount, h.selfServeCount, h.serveXP, h.orgBreadth, h.nodup, h.recorded⟩

theorem ServeTally.serve (h : ServeTally perServe perSelfServe stats orgIds serves)
    {params : Params} (hserve : params.serveXpPerServe = perServe)
    (hself : params.selfServeXpPerServe = perSelfServe) (orgID : Bytes) (epoch : UInt64)
    (isSelfServe : Bool) :
    ServeTally perServe perSelfServe
      (countServe params stats epoch isSelfServe (!orgIds.contains orgID))
      (if !orgIds.contains orgID then orgIds ++ [orgID] else orgIds)
      (serves ++ [⟨orgID, isSelfServe⟩]) where
  serveCount := by
    rw [List.length_append, UInt64.ofNat_add, ← h.serveCount]
    rfl
  selfServeCount := by
    rw [selfServes_append, UInt64.ofNat_add, ← h.selfServeCount]
    unfold countServe
    cases isSelfServe with
    | false => exact (UInt64.add_zero _).symm
    | true => rfl
  serveXP := by
    rw [serveXPTotal_append, UInt64.ofNat_add, ← h.serveXP, UInt64.ofNat_toNat, ← hserve, ← hself]
    rfl
  orgBreadth := by
    change (if !orgIds.contains orgID then stats.orgBreadth + 1 else stats.orgBreadth) = _
    split
    · rw [List.length_append, UInt64.ofNat_add, ← h.orgBreadth]
      rfl
    · exact h.orgBreadth
  nodup := by
    split
    · rename_i hnew
      have horg : orgID ∉ orgIds := by simpa using hnew
      exact List.Nodup.append h.nodup (List.nodup_singleton _) (by simpa using horg)
    · exact h.nodup
  recorded org := by
    have hserves : (∃ serve ∈ serves ++ [⟨orgID, isSelfServe⟩], serve.orgID = org) ↔
        org ∈ orgIds ∨ orgID = org := by
      rw [h.recorded]
      simp [or_and_right, exists_or]
    rw [hserves]
    split
    · simp [eq_comm]
    · rename_i hold
      have horg : orgID ∈ orgIds := by simpa using hold
      constructor
      · exact Or.inl
      · rintro (hmem | rfl)
        · exact hmem
        · exact horg

/-- What a serve is worth does not change. -/
def Pays (perServe perSelfServe : UInt64) (params : Params) : Prop :=
  params.serveXpPerServe = perServe ∧ params.selfServeXpPerServe = perSelfServe

theorem contributorOrgSetKey_inj {d d' : Bytes} :
    contributorOrgSetKey d = contributorOrgSetKey d' ↔ d = d' := by
  unfold contributorOrgSetKey
  rw [List.append_cancel_left_eq]

theorem orgIds_servedStore (s : Store) (wallet orgID : Bytes) (epoch : UInt64) (isSelfServe : Bool)
    (d : Bytes) :
    (getContributorOrgSet (servedStore s wallet orgID epoch isSelfServe) d).orgIds =
      if d = wallet then
        if newOrg s wallet orgID then (getContributorOrgSet s wallet).orgIds ++ [orgID]
        else (getContributorOrgSet s wallet).orgIds
      else (getContributorOrgSet s d).orgIds := by
  conv_lhs => unfold getContributorOrgSet servedStore
  rw [get_set]
  simp only [contributorOrgSetKey_inj]
  split
  · rw [Option.getD_some]
    split
    · rfl
    · rfl
  · rfl

theorem Counted.serveTally {call : StatsCall} {out : Option Attestation}
    (h : Counted s call s' out) (hpays : Pays perServe perSelfServe (getParams s)) {d : Bytes}
    (hs : ServeTally perServe perSelfServe (statsOf s d) (getContributorOrgSet s d).orgIds serves) :
    ServeTally perServe perSelfServe (statsOf s' d) (getContributorOrgSet s' d).orgIds
      (serves ++ (call.serveOf d).toList) := by
  cases h with
  | refused developer memory => exact (List.append_nil _).symm ▸ hs
  | attested developer memory =>
    rw [statsOf_set rfl]
    refine (List.append_nil _).symm ▸ ?_
    change ServeTally _ _ _ (getContributorOrgSet s d).orgIds serves
    split
    · rename_i hd
      rw [← hd]
      exact hs.credit memory
    · exact hs
  | served wallet orgID epoch isSelfServe =>
    rw [orgIds_servedStore, statsOf_set rfl]
    by_cases hd : d = wallet
    · subst hd
      have hserve : (StatsCall.recordServe d orgID epoch isSelfServe).serveOf d =
          some ⟨orgID, isSelfServe⟩ := if_pos rfl
      rw [if_pos rfl, if_pos rfl, hserve]
      exact hs.serve hpays.1 hpays.2 orgID epoch isSelfServe
    · have hserve : (StatsCall.recordServe wallet orgID epoch isSelfServe).serveOf d = none :=
        if_neg (Ne.symm hd)
      rw [if_neg hd, if_neg hd, hserve]
      exact (List.append_nil _).symm ▸ hs
  | params params => exact (List.append_nil _).symm ▸ hs

theorem Counted.pays {call : StatsCall} {out : Option Attestation} (h : Counted s call s' out)
    (hpays : Pays perServe perSelfServe (getParams s))
    (hcall : ∀ params, call = .setParams params → Pays perServe perSelfServe params) :
    Pays perServe perSelfServe (getParams s') := by
  cases h with
  | refused developer memory => exact hpays
  | attested developer memory => exact hpays
  | served wallet orgID epoch isSelfServe => exact hpays
  | params params => exact hcall params rfl

/-- The counters of serves and the org set follow the recorded serves. -/
theorem serveTally_run (params : Option Params) (calls : List StatsCall) (d : Bytes)
    (hstart : Pays perServe perSelfServe (params.getD defaultParams))
    (hcalls : ∀ params, StatsCall.setParams params ∈ calls → Pays perServe perSelfServe params) :
    Pays perServe perSelfServe (getParams (counting.run (emptyStore params) calls)) ∧
      ServeTally perServe perSelfServe (statsOf (counting.run (emptyStore params) calls) d)
        (getContributorOrgSet (counting.run (emptyStore params) calls) d).orgIds
        (servesFor d calls) := by
  induction calls using List.reverseRecOn with
  | nil => exact ⟨hstart, serveTally_nil d⟩
  | append_singleton calls call ih =>
    obtain ⟨hpays, htally⟩ := ih fun params hmem => hcalls params (List.mem_append_left _ hmem)
    have hstep := counted_run params calls call
    refine ⟨hstep.pays hpays ?_, ?_⟩
    · intro params' hcall
      exact hcalls params' (List.mem_append_right _ (hcall ▸ List.mem_singleton_self _))
    · have hserves : servesFor d (calls ++ [call]) = servesFor d calls ++ (call.serveOf d).toList := by
        rw [servesFor, List.filterMap_append]
        rfl
      rw [hserves]
      exact hstep.serveTally hpays htally

/-- What the records say about the serves of a contributor. -/
structure ServeTotals (perServe perSelfServe : UInt64) (s : Store) (d : Bytes)
    (serves : List Serve) : Prop where
  serveCount : (statsOf s d).serveCount.toNat = serves.length
  selfServeCount : (statsOf s d).selfServeCount ≤ (statsOf s d).serveCount
  serveXP : (statsOf s d).serveXP.toNat =
    ((statsOf s d).serveCount.toNat - (statsOf s d).selfServeCount.toNat) * perServe.toNat +
      (statsOf s d).selfServeCount.toNat * perSelfServe.toNat
  orgBreadth : (statsOf s d).orgBreadth.toNat = (getContributorOrgSet s d).orgIds.length
  nodup : (getContributorOrgSet s d).orgIds.Nodup
  recorded : ∀ orgID, orgID ∈ (getContributorOrgSet s d).orgIds ↔
    ∃ serve ∈ serves, serve.orgID = orgID

/-- After any calls that leave the worth of a serve as it is, the statistics of a contributor are
the totals of the serves recorded, as long as these fit in a word, and the org set has each org of
a serve once. -/
theorem serve_totals_run (perServe perSelfServe : UInt64) (params : Option Params)
    (calls : List StatsCall) (d : Bytes)
    (hstart : Pays perServe perSelfServe (params.getD defaultParams))
    (hcalls : ∀ params, StatsCall.setParams params ∈ calls → Pays perServe perSelfServe params)
    (hcount : (servesFor d calls).length < 2 ^ 64)
    (hxp : serveXPTotal perServe perSelfServe (servesFor d calls) < 2 ^ 64) :
    ServeTotals perServe perSelfServe (counting.run (emptyStore params) calls) d
      (servesFor d calls) := by
  obtain ⟨-, htally⟩ := serveTally_run params calls d hstart hcalls
  have hle := selfServes_le (servesFor d calls)
  have hserveCount : (statsOf (counting.run (emptyStore params) calls) d).serveCount.toNat =
      (servesFor d calls).length := by
    rw [htally.serveCount]
    exact Words.toNat_ofNat_eq_iff.mpr hcount
  have hself : (statsOf (counting.run (emptyStore params) calls) d).selfServeCount.toNat =
      selfServes (servesFor d calls) := by
    rw [htally.selfServeCount]
    exact Words.toNat_ofNat_eq_iff.mpr (hle.trans_lt hcount)
  -- Every org of the set is that of a serve, so there are no more orgs than serves.
  have horgs : (getContributorOrgSet (counting.run (emptyStore params) calls) d).orgIds.length ≤
      (servesFor d calls).length := by
    have hsub : (getContributorOrgSet (counting.run (emptyStore params) calls) d).orgIds ⊆
        (servesFor d calls).map Serve.orgID := by
      intro orgID horg
      exact List.mem_map.mpr ((htally.recorded orgID).mp horg)
    have hsubperm := List.subperm_of_subset htally.nodup hsub
    rw [← List.length_map (f := Serve.orgID)]
    exact hsubperm.length_le
  refine ⟨hserveCount, ?_, ?_, ?_, htally.nodup, htally.recorded⟩
  · rw [UInt64.le_iff_toNat_le, hserveCount, hself]
    exact hle
  · rw [hserveCount, hself, htally.serveXP]
    exact Words.toNat_ofNat_eq_iff.mpr hxp
  · rw [htally.orgBreadth]
    exact Words.toNat_ofNat_eq_iff.mpr (horgs.trans_lt hcount)

/-- Two serves in one org, one of them of one's own memory, with an attestation between them. -/
def sampleServes : List StatsCall :=
  [.recordServe (ascii "dev") (ascii "org") 1 false,
    .updateReputation (ascii "dev") { sampleMemory with domainTags := [], provenance := [] },
    .recordServe (ascii "dev") (ascii "org") 2 true]

theorem sampleServes_totals :
    ServeTotals 5 2 (counting.run (emptyStore none) sampleServes) (ascii "dev")
      [⟨ascii "org", false⟩, ⟨ascii "org", true⟩] := by
  have hserves : servesFor (ascii "dev") sampleServes =
      [⟨ascii "org", false⟩, ⟨ascii "org", true⟩] := by
    decide +kernel
  rw [← hserves]
  refine serve_totals_run 5 2 none sampleServes (ascii "dev") ⟨rfl, rfl⟩ ?_ ?_ ?_
  · intro params hmem
    simp [sampleServes] at hmem
  · rw [hserves]
    decide
  · rw [hserves]
    decide

end Serves

end WeVibeChain.Reputation
