import WeVibeChain.ReputationRuns
import WeVibeChain.Shared.Sorting

/-!
# x/reputation: the top domains of a developer

The domain tags are a Go map, and a loop collects its entries in any order. Where
there are more of them than the limit they are sorted by count and cut off. Where
there are not, they are returned as the loop has met them.
-/

set_option autoImplicit false

namespace WeVibeChain.Reputation

open Bytes

section Query

/-- To make a slice of negative length is a panic. -/
inductive DomainsError where
  | reputation (e : Error)
  | negativeLength
  deriving DecidableEq

/-- The names to return, from the entries in the order in which they were collected. -/
def topDomains (domains : List (Bytes × UInt64)) (limit : Int) :
    Except DomainsError (List Bytes) :=
  if domains.length ≤ limit then .ok (domains.map Prod.fst)
  else if limit < 0 then .error .negativeLength
  else
    let sorted := Sorting.exchangeSort (fun d => d.2.toNat) domains
    .ok ((sorted.take limit.toNat).map Prod.fst)

/-- The order in which a loop meets the entries is a parameter. -/
def getTopDomains (enumerate : OrderedMap Bytes UInt64 → List (Bytes × UInt64)) (s : Store)
    (developer : Bytes) (limit : Int) : Except DomainsError (List Bytes) :=
  match getReputation s developer with
  | .error e => .error (.reputation e)
  | .ok stats => topDomains (enumerate stats.domainTags) limit

end Query

section Ranking
variable {tags : OrderedMap Bytes UInt64} {domains : List (Bytes × UInt64)} {limit : Nat}
  {result : List Bytes}

/-- As many of the domains as the limit allows, those with the largest counts first. -/
structure TopDomains (tags : OrderedMap Bytes UInt64) (limit : Nat) (result : List Bytes) :
    Prop where
  length : result.length = min limit tags.entries.length
  nodup : result.Nodup
  stored : ∀ d ∈ result, d ∈ tags.keys
  descending : result.Pairwise fun a b => tags.count b ≤ tags.count a
  largest : ∀ d ∈ tags.keys, d ∉ result → ∀ d' ∈ result, tags.count d ≤ tags.count d'

def Descending (domains : List (Bytes × UInt64)) : Prop :=
  domains.Pairwise fun a b => b.2 ≤ a.2

theorem count_of_mem_entries {e : Bytes × UInt64} (h : e ∈ tags.entries) :
    tags.count e.1 = e.2 := by
  rw [OrderedMap.count, OrderedMap.get_eq_some_iff.mpr h, Option.getD_some]

theorem descending_map_fst (h : ∀ e ∈ domains, e ∈ tags.entries) :
    (domains.map Prod.fst).Pairwise (fun a b => tags.count b ≤ tags.count a) ↔
      Descending domains := by
  rw [List.pairwise_map]
  apply List.Pairwise.iff_of_mem
  intro a b ha hb
  rw [count_of_mem_entries (h a ha), count_of_mem_entries (h b hb)]

/-- The beginning of a list of all entries that is in descending order. -/
theorem topDomains_take (hperm : domains.Perm tags.entries) (hdomains : Descending domains) :
    TopDomains tags limit ((domains.take limit).map Prod.fst) where
  length := by rw [List.length_map, List.length_take, hperm.length_eq]
  nodup := by
    have hkeys : (domains.map Prod.fst).Nodup :=
      (hperm.map Prod.fst).nodup_iff.mpr tags.keys_nodup
    exact hkeys.sublist ((List.take_sublist limit domains).map Prod.fst)
  stored := by
    intro d hd
    obtain ⟨e, he, rfl⟩ := List.mem_map.mp hd
    exact List.mem_map_of_mem (hperm.mem_iff.mp (List.mem_of_mem_take he))
  descending := by
    rw [descending_map_fst fun e he => hperm.mem_iff.mp (List.mem_of_mem_take he)]
    exact hdomains.sublist (List.take_sublist limit domains)
  largest := by
    intro d hd hnot d' hd'
    obtain ⟨e, he, rfl⟩ := List.mem_map.mp hd
    obtain ⟨e', he', rfl⟩ := List.mem_map.mp hd'
    rw [count_of_mem_entries he, count_of_mem_entries (hperm.mem_iff.mp (List.mem_of_mem_take he'))]
    -- what is not in the beginning comes after all of it
    have hall := hperm.mem_iff.mpr he
    rw [← List.take_append_drop limit domains] at hall hdomains
    rcases List.mem_append.mp hall with htake | hdrop
    · exact absurd (List.mem_map_of_mem htake) hnot
    · exact (List.pairwise_append.mp hdomains).2.2 e' he' e hdrop

theorem descending_exchangeSort (domains : List (Bytes × UInt64)) :
    Descending (Sorting.exchangeSort (fun d => d.2.toNat) domains) :=
  (Sorting.exchangeSort_pairwise (fun d => d.2.toNat) domains).imp UInt64.le_iff_toNat_le.mpr

theorem topDomains_of_lt (h : limit < domains.length) :
    topDomains domains limit =
      .ok (((Sorting.exchangeSort (fun d => d.2.toNat) domains).take limit).map Prod.fst) := by
  unfold topDomains
  rw [if_neg (by omega), if_neg (by omega)]
  rfl

theorem topDomains_of_le (h : domains.length ≤ limit) :
    topDomains domains limit = .ok (domains.map Prod.fst) :=
  if_pos (by omega)

end Ranking

section Results
variable {s : Store} {developer : Bytes} {stats : ReputationStats}
  {enumerate : OrderedMap Bytes UInt64 → List (Bytes × UInt64)}

/-- The domains with the largest counts come first exactly where some are cut off, or where the
loop happens to have met them in that order. -/
theorem top_domains_iff (hstats : getReputation s developer = .ok stats)
    (henumerate : (enumerate stats.domainTags).Perm stats.domainTags.entries) (limit : Nat) :
    (∃ result, getTopDomains enumerate s developer limit = .ok result ∧
        TopDomains stats.domainTags limit result) ↔
      limit < stats.domainTags.entries.length ∨ Descending (enumerate stats.domainTags) := by
  have hquery : getTopDomains enumerate s developer limit =
      topDomains (enumerate stats.domainTags) limit := by
    rw [getTopDomains, hstats]
  rw [hquery, ← henumerate.length_eq]
  generalize enumerate stats.domainTags = domains at henumerate ⊢
  rcases Nat.lt_or_ge limit domains.length with hlt | hle
  · rw [topDomains_of_lt hlt]
    refine ⟨fun _ => Or.inl hlt, fun _ => ⟨_, rfl, ?_⟩⟩
    exact topDomains_take ((Sorting.exchangeSort_perm _ domains).trans henumerate)
      (descending_exchangeSort domains)
  · rw [topDomains_of_le hle]
    constructor
    · rintro ⟨result, hresult, htop⟩
      obtain rfl := Except.ok.inj hresult
      exact Or.inr ((descending_map_fst fun e => henumerate.mem_iff.mp).mp htop.descending)
    · intro h
      have hdomains := h.resolve_left (Nat.not_lt.mpr hle)
      have htop : TopDomains stats.domainTags limit ((domains.take limit).map Prod.fst) :=
        topDomains_take henumerate hdomains
      rw [List.take_of_length_le hle] at htop
      exact ⟨_, rfl, htop⟩

/-- One memory with two tags, and a second one with the later of them. -/
def sampleTagged : Store :=
  counting.run (emptyStore defaultParams)
    [.updateReputation (ascii "dev") { sampleMemory with domainTags := [ascii "go", ascii "rust"] },
      .updateReputation (ascii "dev")
        { sampleMemory with memoryCID := ascii "cid2", domainTags := [ascii "rust"] }]

def sampleStats : ReputationStats :=
  (sampleTagged.stats.get (statsKey (ascii "dev"))).getD { developerID := [] }

theorem top_domains_cut :
    ∃ result, getTopDomains OrderedMap.entries sampleTagged (ascii "dev") (1 : Nat) = .ok result ∧
      TopDomains sampleStats.domainTags 1 result :=
  (top_domains_iff (by decide +kernel) (List.Perm.refl _) 1).mpr (Or.inl (by decide +kernel))

/-- With the limit of the profile query the domain with one memory comes before the one with
two, if the loop meets it first. -/
theorem top_domains_unsorted :
    getTopDomains OrderedMap.entries sampleTagged (ascii "dev") 10 =
        .ok [ascii "go", ascii "rust"] ∧
      sampleStats.domainTags.count (ascii "go") = 1 ∧
      sampleStats.domainTags.count (ascii "rust") = 2 ∧
      ¬ TopDomains sampleStats.domainTags 10 [ascii "go", ascii "rust"] := by
  refine ⟨by decide +kernel, by decide +kernel, by decide +kernel, fun htop => ?_⟩
  exact absurd htop.descending (by decide +kernel)

end Results

end WeVibeChain.Reputation
