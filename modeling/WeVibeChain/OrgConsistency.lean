import WeVibeChain.OrgRegistry

/-!
# x/org: the registry, the records and the rosters agree

The agreement is for runs in which the number of members of an org stays below
2^64. The counter in the record is a 64-bit word: with one member more it starts
over, which the sample at the end reaches by adding members.
-/

set_option autoImplicit false

namespace WeVibeChain.Orgs

open Bytes

section Consistency
variable {β γ : Type} (ext : Externals β γ) (authority : Bytes)

/-- The registry, the records and the rosters agree with each other. -/
structure Consistent (s : Store) : Prop where
  slots : ∀ n, (∃ record, s.org.get (orgKey (formatOrgID n)) = some record) ↔ n < getNextSlot s
  named : ∀ k record, s.org.get k = some record →
    ∃ n, k = orgKey (formatOrgID n) ∧ record.orgId = formatOrgID n ∧ record.slot = n
  distinct : ∀ k k' record record', s.org.get k = some record → s.org.get k' = some record' →
    record.orgId = record'.orgId ∨ record.slot = record'.slot → k = k'
  cap : getNextSlot s ≤ (getParams s).slotCap
  leader : ∀ orgID record, s.org.get (orgKey orgID) = some record →
    ∃ leader, s.member.get (memberKey orgID record.leader) = some leader ∧
      leader.role = ascii "leader" ∧
      ∀ p member, s.member.get (memberKey orgID p) = some member →
        member.role = ascii "leader" → p = record.leader
  counted : ∀ orgID record, s.org.get (orgKey orgID) = some record →
    record.totalActiveMembers.toNat = (getAllMembers s orgID).length
  recomputed : ∀ orgID record, s.org.get (orgKey orgID) = some record →
    recomputeOrgActiveMembers s orgID = .ok { s with
      org := s.org.set (orgKey orgID) { record with lastActivityEpoch := getCurrentEpoch s } }

theorem Governed.consistent {s : Store} (hs : Governed s)
    (hcap : getNextSlot s ≤ (getParams s).slotCap)
    (hcounted : ∀ orgID v, view s orgID = some v → v.Counted) : Consistent s where
  slots n := by
    constructor
    · rintro ⟨record, hget⟩
      obtain ⟨m, hm, hkey, -⟩ := hs.registry.named _ _ hget
      rwa [formatOrgID_inj.mp (orgKey_inj.mp hkey)]
    · exact hs.registry.filled n
  named k record hget := by
    obtain ⟨n, -, hrest⟩ := hs.registry.named k record hget
    exact ⟨n, hrest⟩
  distinct k k' record record' hget hget' heq := by
    obtain ⟨n, -, rfl, hid, hslot⟩ := hs.registry.named k record hget
    obtain ⟨n', -, rfl, hid', hslot'⟩ := hs.registry.named k' record' hget'
    rw [hid, hid', hslot, hslot', formatOrgID_inj, or_self] at heq
    rw [heq]
  cap := hcap
  leader orgID record hget := by
    have hled := hs.led orgID _ (view_of_get hget)
    obtain ⟨leader, hleader, hrole⟩ := hled.leader
    refine ⟨leader, by rwa [get_roster] at hleader, hrole, ?_⟩
    intro p member hmember hleads
    by_contra hne
    have hother := hled.others p member (by rwa [get_roster]) hne
    rw [hleads] at hother
    exact absurd hother (by decide)
  counted orgID record hget := by
    have hv := hcounted orgID _ (view_of_get hget)
    rw [getAllMembers_eq, OrderedMap.values, List.length_map]
    exact hv
  recomputed orgID record hget :=
    recompute_counted (view_of_get hget) (hs.led orgID _ (view_of_get hget))
      (hcounted orgID _ (view_of_get hget))

/-- The cap on the slots is the same before and after. -/
def SlotCapConstant (st : State β γ) (input : Input β γ) : Prop :=
  (getParams ((chain ext authority).next st input).store).slotCap = (getParams st.store).slotCap

/-- Afterwards no org has more members than a 64-bit counter can hold. -/
def RostersFit (st : State β γ) (input : Input β γ) : Prop :=
  ∀ orgID, (getAllMembers ((chain ext authority).next st input).store orgID).length < 2 ^ 64

theorem consistent_of_run (params : Option Params) (bank : β) (feegrant : γ)
    (inputs : List (Input β γ))
    (hcap : (chain ext authority).Along (SlotCapConstant ext authority)
      ⟨{ params := params }, bank, feegrant⟩ inputs)
    (hfits : (chain ext authority).Along (RostersFit ext authority)
      ⟨{ params := params }, bank, feegrant⟩ inputs) :
    Consistent ((chain ext authority).run ⟨{ params := params }, bank, feegrant⟩ inputs).store := by
  have hrun := (chain ext authority).run_invariant
    (I := fun st => Governed st.store ∧ getNextSlot st.store ≤ (getParams st.store).slotCap ∧
      ∀ orgID v, view st.store orgID = some v → v.Counted) ?_ ?_
    ((chain ext authority).along_and hcap hfits)
  · exact hrun.1.consistent hrun.2.1 hrun.2.2
  · rintro st input ⟨hs, hbelow, hcounted⟩ ⟨hconst, hfit⟩
    refine ⟨hs.next input, ?_⟩
    rcases next_evolution ext authority st input with heq | h
    · rw [heq]
      exact ⟨hbelow, hcounted⟩
    · exact ⟨below_cap_evolution h hconst hbelow,
        fun orgID v hv => counted_evolution hs h hfit hcounted hv⟩
  · refine ⟨governed_empty params, ?_, fun _ _ h => nomatch h⟩
    exact UInt64.le_iff_toNat_le.mpr (Nat.zero_le _)

end Consistency

section Sample

def sampleAddresses : List (Bytes × Bytes) :=
  [(ascii "wevibe1qyqszqgpqyqszqgpqyqszqgpqyqszqgpeur8r0", List.replicate 20 1),
    (ascii "wevibe1qgpqyqszqgpqyqszqgpqyqszqgpqyqszgc9zge", List.replicate 20 2),
    (ascii "wevibe1qvpsxqcrqvpsxqcrqvpsxqcrqvpsxqcrfgyrzc", List.replicate 20 3),
    (ascii "wevibe1qszqgpqyqszqgpqyqszqgpqyqszqgpqyfcrx9y", List.replicate 20 4)]

def sampleAddress (n : Nat) : Bytes := (sampleAddresses[n]?.map Prod.fst).getD []

/-- Accounts that can always pay, four addresses, and one allowance for each pair of addresses. -/
def sampleExternals : Externals Unit (List (Bytes × Bytes)) where
  accAddressFromBech32 text := (sampleAddresses.find? fun a => a.1 = text).map Prod.snd
  accAddressString address := address
  newModuleAddress name := name
  toLower text := text.map fun c => if 65 ≤ c ∧ c ≤ 90 then c + 32 else c
  parseURL _ := none
  sendCoinsFromAccountToModule _ _ _ _ := some ()
  burnCoins _ _ _ := some ()
  sendCoins _ _ _ _ := some ()
  grantAllowance := some fun grants granter grantee _ =>
    if (granter, grantee) ∈ grants then none else some ((granter, grantee) :: grants)

def sampleChain : Machine (State Unit (List (Bytes × Bytes))) (Input Unit (List (Bytes × Bytes)))
    (Option (Except Error Response)) :=
  chain sampleExternals (ascii "gov")

def sampleStart : State Unit (List (Bytes × Bytes)) := ⟨{ params := none }, (), []⟩

/-- The first org: the leader has the key 0. -/
def sampleRegister : MsgRegisterOrg where
  signer := sampleAddress 0
  leader := formatUint 0
  leaderWallet := sampleAddress 0

/-- The second org: the leader has the key 1. -/
def sampleRegisterSecond : MsgRegisterOrg where
  signer := sampleAddress 1
  leader := formatUint 1
  leaderWallet := sampleAddress 1

def sampleAdd (n : Nat) : MsgAddMember where
  signer := sampleAddress 0
  orgId := formatOrgID 0
  pubkey := formatUint (UInt64.ofNat n)
  role := ascii "member"
  x25519Pubkey := ascii "x25519"

def sampleGrowth (n : Nat) : List (Input Unit (List (Bytes × Bytes))) :=
  .msg (.registerOrg sampleRegister) ::
    (List.range n).map fun i => .msg (.addMember (sampleAdd (i + 1)))

theorem length_getAllMembers_le (s : Store) (orgID : Bytes) :
    (getAllMembers s orgID).length ≤ s.member.entries.length := by
  rw [getAllMembers, List.length_map]
  exact List.length_filter_le _ _

theorem sample_consistent :
    Consistent (sampleChain.run sampleStart (sampleGrowth 1)).store := by
  refine consistent_of_run sampleExternals (ascii "gov") none () [] (sampleGrowth 1)
    ⟨?_, ?_, trivial⟩ ⟨?_, ?_, trivial⟩
  · unfold SlotCapConstant
    decide +kernel
  · unfold SlotCapConstant
    decide +kernel
  · exact fun orgID => (length_getAllMembers_le _ orgID).trans_lt (by decide +kernel)
  · exact fun orgID => (length_getAllMembers_le _ orgID).trans_lt (by decide +kernel)

/-- The first org after `n` members have joined it, with the numbers up to `n` for keys. -/
structure Grown (n : Nat) (st : State Unit (List (Bytes × Bytes))) : Prop where
  record : ∃ stored, Leads st.store (formatOrgID 0) (sampleAddress 0) stored ∧
    OrgStatus.ofCode stored.status = .active ∧
    stored.totalActiveMembers = UInt64.ofNat (n + 1)
  length : (roster st.store (formatOrgID 0)).entries.length = n + 1
  free : ∀ m, n < m → m < 2 ^ 64 →
    st.store.member.get (memberKey (formatOrgID 0) (formatUint (UInt64.ofNat m))) = none

theorem ofNat_ne_ofNat {m n : Nat} (hm : m < 2 ^ 64) (hn : n < 2 ^ 64) (h : m ≠ n) :
    UInt64.ofNat m ≠ UInt64.ofNat n := by
  intro heq
  have hnat := congrArg UInt64.toNat heq
  rw [UInt64.toNat_ofNat_of_lt' hm, UInt64.toNat_ofNat_of_lt' hn] at hnat
  exact h hnat

theorem grown_zero : Grown 0 (sampleChain.run sampleStart (sampleGrowth 0)) := by
  refine ⟨?_, by decide +kernel, ?_⟩
  · have hfound : (sampleChain.run sampleStart (sampleGrowth 0)).store.org.get
        (orgKey (formatOrgID 0)) = some
          { orgToStored (sampleRegister.org.atSlot sampleExternals 0) with
            totalActiveMembers := 1 } := by decide +kernel
    exact ⟨_, ⟨hfound, by decide, by decide⟩, by decide, by decide⟩
  · intro m hm hlt
    have hmembers : (sampleChain.run sampleStart (sampleGrowth 0)).store.member =
        (∅ : OrderedMap Bytes MemberRecord).set (memberKey (formatOrgID 0) (formatUint 0))
          { orgID := formatOrgID 0, pubkey := formatUint 0, role := ascii "leader" } := by
      decide +kernel
    rw [hmembers, OrderedMap.get_set_of_ne]
    · rfl
    · intro heq
      rw [memberKey_inj (slash_notMem_formatOrgID 0) (slash_notMem_formatOrgID 0)] at heq
      exact ofNat_ne_ofNat hlt (by decide) (Nat.pos_iff_ne_zero.mp hm) (formatUint_inj.mp heq.2)

theorem sampleAdd_validateBasic (n : Nat) : (sampleAdd n).validateBasic = .ok () := by
  have hsigner : sampleAddress 0 ≠ [] := by decide
  have horg : formatOrgID 0 ≠ [] := by decide
  have hkey : formatUint (UInt64.ofNat n) ≠ [] := by simp [formatUint]
  have hx25519 : ascii "x25519" ≠ [] := by decide
  exact MsgAddMember.validateBasic_iff.mpr ⟨hsigner, horg, hkey, hx25519, rfl⟩

theorem grown_succ {n : Nat} {st : State Unit (List (Bytes × Bytes))} (h : Grown n st)
    (hn : n + 1 < 2 ^ 64) :
    Grown (n + 1) (sampleChain.next st (.msg (.addMember (sampleAdd (n + 1))))) := by
  obtain ⟨⟨stored, hleads, hactive, htotal⟩, hlength, hfree⟩ := h
  have hfresh := hfree (n + 1) (Nat.lt_succ_self n) hn
  have hadd := @addMemberMsg_accepts _ _ st (sampleAdd (n + 1)) stored
    (sampleAdd_validateBasic (n + 1)) hleads hactive hfresh
  have hstore : (sampleChain.next st (.msg (.addMember (sampleAdd (n + 1))))).store =
      { st.store with
        member := st.store.member.set (memberKey (formatOrgID 0) (sampleAdd (n + 1)).pubkey)
          (sampleAdd (n + 1)).member
        org := st.store.org.set (orgKey (formatOrgID 0))
          { stored with totalActiveMembers := stored.totalActiveMembers + 1 } } := by
    simp only [sampleChain, chain, Machine.next, step, deliver, handle, hadd, Except.map]
    rfl
  constructor
  · refine ⟨{ stored with totalActiveMembers := stored.totalActiveMembers + 1 },
      ⟨?_, hleads.signs⟩, hactive, ?_⟩
    · rw [hstore]
      exact OrderedMap.get_set_self _ _ _
    · simp only [htotal, UInt64.ofNat_add]
      rfl
  · rw [hstore, roster, memberKey_eq, OrderedMap.under_set,
      OrderedMap.length_set_of_get_none ?_]
    · exact congrArg (· + 1) hlength
    · rw [OrderedMap.get_under, ← memberKey_eq]
      exact hfresh
  · intro m hm hlt
    rw [hstore, OrderedMap.get_set_of_ne]
    · exact hfree m (Nat.lt_of_succ_lt hm) hlt
    · intro heq
      rw [memberKey_inj (slash_notMem_formatOrgID 0) (slash_notMem_formatOrgID 0)] at heq
      exact ofNat_ne_ofNat hlt hn (Nat.ne_of_gt hm) (formatUint_inj.mp heq.2)

theorem grown (n : Nat) (hn : n < 2 ^ 64) :
    Grown n (sampleChain.run sampleStart (sampleGrowth n)) := by
  induction n with
  | zero => exact grown_zero
  | succ n ih =>
    have hsplit : sampleGrowth (n + 1) =
        sampleGrowth n ++ [.msg (.addMember (sampleAdd (n + 1)))] := by
      simp [sampleGrowth, List.range_succ]
    rw [hsplit, Machine.run_append]
    exact grown_succ (ih (Nat.lt_of_succ_lt hn)) hn

/-- With 2^64 members, the leader included, the counter in the record is back at zero. -/
theorem sample_roster_uncounted :
    (∀ input ∈ sampleGrowth (2 ^ 64 - 1), ∀ msg, input ≠ .msg (.updateParams msg)) ∧
    ∃ record,
      (sampleChain.run sampleStart (sampleGrowth (2 ^ 64 - 1))).store.org.get
          (orgKey (formatOrgID 0)) = some record ∧
        record.totalActiveMembers = 0 ∧
        (getAllMembers (sampleChain.run sampleStart (sampleGrowth (2 ^ 64 - 1))).store
          (formatOrgID 0)).length = 2 ^ 64 := by
  have hgrown := grown (2 ^ 64 - 1) (Nat.sub_lt (Nat.two_pow_pos 64) Nat.one_pos)
  refine ⟨?_, ?_⟩
  · intro input hinput msg
    rcases List.mem_cons.mp hinput with rfl | hinput
    · exact nofun
    · obtain ⟨i, -, rfl⟩ := List.mem_map.mp hinput
      exact nofun
  · obtain ⟨⟨record, hleads, -, htotal⟩, hlength, -⟩ := hgrown
    refine ⟨record, hleads.found, ?_, ?_⟩
    · rw [htotal, Nat.sub_add_cancel (Nat.two_pow_pos 64)]
      rfl
    · rw [getAllMembers_eq, OrderedMap.values, List.length_map, hlength,
        Nat.sub_add_cancel (Nat.two_pow_pos 64)]

end Sample

end WeVibeChain.Orgs
