import WeVibeChain.OrgViews
import WeVibeChain.Shared.Words

/-!
# x/org: slots and leaders along a run

The orgs are those of the slots given out so far, and every member entry belongs
to one of them. What holds of an org when it is founded and is kept by its own
changes then holds of every org: that its one leader is the one its record names,
and that the record has the number of its members.
-/

set_option autoImplicit false

namespace WeVibeChain.Orgs

open Bytes

section Runs
variable {β γ : Type}

/-- A message of the module, an update of an org's counters by x/memory, or any change of the bank
and the allowances. -/
inductive Input (β γ : Type) where
  | msg (msg : Msg)
  | committed (orgID : Bytes)
  | upheld (orgID : Bytes)
  | activity (orgID : Bytes) (epoch : UInt64)
  | others (bank : β) (feegrant : γ)

def State.update (st : State β γ) : Except Error Store → State β γ
  | .error _ => st
  | .ok store => { st with store := store }

def step (ext : Externals β γ) (authority : Bytes) (st : State β γ) :
    Input β γ → State β γ × Option (Except Error Response)
  | .msg msg => ((deliver ext authority st msg).1, some (deliver ext authority st msg).2)
  | .committed orgID => (st.update (incrementOrgCommittedMemories st.store orgID), none)
  | .upheld orgID => (st.update (incrementOrgUpheldReports st.store orgID), none)
  | .activity orgID epoch => (st.update (setOrgLastActivityEpoch st.store orgID epoch), none)
  | .others bank feegrant => (⟨st.store, bank, feegrant⟩, none)

def chain (ext : Externals β γ) (authority : Bytes) :
    Machine (State β γ) (Input β γ) (Option (Except Error Response)) :=
  ⟨step ext authority⟩

variable {ext : Externals β γ} {authority : Bytes}

theorem update_evolution {st : State β γ} {x : Except Error Store}
    (h : ∀ s', x = .ok s' → Evolution st.store s') :
    (st.update x).store = st.store ∨ Evolution st.store (st.update x).store := by
  cases x with
  | error e => exact Or.inl rfl
  | ok s' => exact Or.inr (h s' rfl)

theorem deliver_evolution (ext : Externals β γ) (authority : Bytes) (st : State β γ) (msg : Msg) :
    (deliver ext authority st msg).1.store = st.store ∨
      Evolution st.store (deliver ext authority st msg).1.store := by
  rcases deliver_cases ext authority st msg with ⟨e, he⟩ | ⟨response, -, hstored⟩
  · exact Or.inl (by rw [he])
  · exact Or.inr hstored.evolution

theorem next_evolution (ext : Externals β γ) (authority : Bytes) (st : State β γ)
    (input : Input β γ) :
    ((chain ext authority).next st input).store = st.store ∨
      Evolution st.store ((chain ext authority).next st input).store := by
  cases input with
  | msg msg => exact deliver_evolution ext authority st msg
  | committed orgID =>
    exact update_evolution fun s' h => (incrementOrgCommittedMemories_ok h).evolution
  | upheld orgID => exact update_evolution fun s' h => (incrementOrgUpheldReports_ok h).evolution
  | activity orgID epoch =>
    exact update_evolution fun s' h => (setOrgLastActivityEpoch_ok h).evolution
  | others bank feegrant => exact Or.inl rfl

end Runs

section Slots

/-- The orgs are those of the slots below the next one, and every member belongs to one of them. -/
structure Registry (s : Store) : Prop where
  named : ∀ k record, s.org.get k = some record →
    ∃ n, n < getNextSlot s ∧ k = orgKey (formatOrgID n) ∧ record.orgId = formatOrgID n ∧
      record.slot = n
  filled : ∀ n, n < getNextSlot s → ∃ record, s.org.get (orgKey (formatOrgID n)) = some record
  members : ∀ k member, s.member.get k = some member →
    ∃ n, n < getNextSlot s ∧ memberPrefix (formatOrgID n) <+: k

theorem registry_empty (params : Option Params) : Registry { params := params } := by
  refine ⟨nofun, ?_, nofun⟩
  intro n hn
  exact absurd hn (UInt64.not_lt.mpr (UInt64.le_iff_toNat_le.mpr (Nat.zero_le _)))

variable {s s' : Store}

/-- The id of an org is that of its slot. -/
theorem Registry.formatted (hs : Registry s) {orgID : Bytes} {v : View}
    (h : view s orgID = some v) : ∃ n, n < getNextSlot s ∧ orgID = formatOrgID n := by
  obtain ⟨n, hn, hkey, -⟩ := hs.named _ _ (get_of_view h).1
  exact ⟨n, hn, orgKey_inj.mp hkey⟩

theorem Registry.slash_notMem (hs : Registry s) {orgID : Bytes} {v : View}
    (h : view s orgID = some v) : slash ∉ orgID := by
  obtain ⟨n, -, rfl⟩ := hs.formatted h
  exact slash_notMem_formatOrgID n

theorem Change.identity {v v' : View} (h : Change v v') :
    v'.record.orgId = v.record.orgId ∧ v'.record.slot = v.record.slot := by
  cases h with
  | counters => exact ⟨rfl, rfl⟩
  | message msg =>
    cases msg with
    | setMemberCapabilities msg =>
      rw [apply_setMemberCapabilities_record]
      exact ⟨rfl, rfl⟩
    | _ => exact ⟨rfl, rfl⟩

theorem Registry.evolution (hs : Registry s) (h : Evolution s s') : Registry s' := by
  cases h with
  | params params heq => exact heq ▸ ⟨hs.named, hs.filled, hs.members⟩
  | org orgID v v' confined slots _ before after change =>
    have hnext : getNextSlot s' = getNextSlot s := by rw [getNextSlot, getNextSlot, slots]
    obtain ⟨m, hm, hid⟩ := hs.formatted before
    refine ⟨?_, ?_, ?_⟩
    · intro k record hget
      rw [hnext]
      by_cases hk : k = orgKey orgID
      · rw [hk, (get_of_view after).1] at hget
        obtain rfl := Option.some.inj hget
        rw [hk, change.identity.1, change.identity.2]
        exact hs.named _ _ (get_of_view before).1
      · rw [confined.org k hk] at hget
        exact hs.named k record hget
    · intro n hn
      by_cases hk : orgKey (formatOrgID n) = orgKey orgID
      · exact ⟨v'.record, hk ▸ (get_of_view after).1⟩
      · rw [confined.org _ hk]
        exact hs.filled n (hnext ▸ hn)
    · intro k member hget
      rw [hnext]
      by_cases hk : memberPrefix orgID <+: k
      · exact ⟨m, hm, hid ▸ hk⟩
      · rw [confined.member k hk] at hget
        exact hs.members k member hget
  | registered org slot orgID below fresh heq =>
    subst heq
    have hconfined := registeredStore_confined s org
    have hnext : getNextSlot (registeredStore s org) = getNextSlot s + 1 := by
      rw [← slot]
      rfl
    have hlt : ∀ n, n < getNextSlot s + 1 ↔ n < getNextSlot s ∨ n = getNextSlot s :=
      fun n => Words.lt_add_one_iff_of_lt below
    refine ⟨?_, ?_, ?_⟩
    · intro k record hget
      rw [hnext]
      by_cases hk : k = orgKey org.orgID
      · rw [hk] at hget
        obtain rfl := Option.some.inj ((OrderedMap.get_set_self _ _ _).symm.trans hget)
        exact ⟨org.slot, (hlt _).mpr (Or.inr slot), orgID ▸ hk, orgID, rfl⟩
      · rw [hconfined.org k hk] at hget
        obtain ⟨n, hn, hrest⟩ := hs.named k record hget
        exact ⟨n, (hlt n).mpr (Or.inl hn), hrest⟩
    · intro n hn
      rw [hnext, hlt, ← slot] at hn
      by_cases hk : n = org.slot
      · exact ⟨_, by rw [hk, ← orgID]; exact OrderedMap.get_set_self _ _ _⟩
      · rw [hconfined.org _ (by simpa [orgID] using hk)]
        exact hs.filled n (slot ▸ hn.resolve_right hk)
    · intro k member hget
      rw [hnext]
      by_cases hk : memberPrefix org.orgID <+: k
      · exact ⟨org.slot, (hlt _).mpr (Or.inr slot), orgID ▸ hk⟩
      · rw [hconfined.member k hk] at hget
        obtain ⟨n, hn, hrest⟩ := hs.members k member hget
        exact ⟨n, (hlt n).mpr (Or.inl hn), hrest⟩

/-- An org stays in the store. -/
theorem Evolution.kept (h : Evolution s s') {k : Bytes} {record : StoredOrg}
    (hget : s.org.get k = some record) : ∃ record', s'.org.get k = some record' := by
  cases h with
  | params params heq => exact ⟨record, heq ▸ hget⟩
  | org orgID v v' confined _ _ _ after =>
    by_cases hk : k = orgKey orgID
    · exact ⟨v'.record, hk ▸ (get_of_view after).1⟩
    · exact ⟨record, (confined.org k hk).trans hget⟩
  | registered org _ _ _ fresh heq =>
    subst heq
    refine ⟨record, ((registeredStore_confined s org).org k ?_).trans hget⟩
    rintro rfl
    rw [fresh] at hget
    cases hget

/-- What is an org's changes under its leader wallet, or when the org is registered. -/
theorem Stored.changed_by_leader {β γ : Type} {ext : Externals β γ} {authority orgID : Bytes}
    {msg : Msg} {response : Response} (h : Stored ext authority s msg response s')
    (hs : Registry s) (hslash : slash ∉ orgID) (hchanged : ¬ SameOrg orgID s s') :
    (∃ record, Leads s orgID msg.signer record) ∨
      s.org.get (orgKey orgID) = none ∧ ∃ register, msg = .registerOrg register := by
  cases hid : msg.orgID with
  | some target =>
    obtain ⟨v, hv, hsigned, -⟩ := h.view_target hid
    by_cases htarget : orgID = target
    · subst htarget
      exact Or.inl ⟨v.record, (get_of_view hv).1, hsigned⟩
    · exact absurd ((h.confined hid).sameOrg (hs.slash_notMem hv) hslash htarget) hchanged
  | none =>
    cases h with
    | registerOrg register _ _ fresh =>
      by_cases hnew : orgID = formatOrgID (getNextSlot s)
      · exact Or.inr ⟨hnew ▸ fresh, register, rfl⟩
      · exact absurd ((registeredStore_confined s _).sameOrg (slash_notMem_formatOrgID _) hslash
          hnew) hchanged
    | updateParams => exact absurd ⟨rfl, rfl, rfl⟩ hchanged
    | _ => cases hid

end Slots

section Views
variable {s s' : Store}

/-- An org that has just been registered. -/
def founded (org : Org) (config : Option OrgConfig) : View where
  record := { orgToStored org with totalActiveMembers := 1 }
  roster := (∅ : OrderedMap Bytes MemberRecord).set org.leader
    { orgID := org.orgID, pubkey := org.leader, role := ascii "leader" }
  config := config

theorem Registry.roster_eq_empty (hs : Registry s) {orgID : Bytes} (hid : slash ∉ orgID)
    (h : s.org.get (orgKey orgID) = none) : roster s orgID = ∅ := by
  ext1 p
  rw [get_roster, OrderedMap.get_empty, Option.eq_none_iff_forall_ne_some]
  intro member hget
  obtain ⟨n, hn, hstart⟩ := hs.members _ _ hget
  obtain rfl := eq_of_memberPrefix (slash_notMem_formatOrgID n) hid hstart
  obtain ⟨record, hrecord⟩ := hs.filled n hn
  rw [h] at hrecord
  cases hrecord

theorem Registry.view_registered (hs : Registry s) {org : Org} (hid : slash ∉ org.orgID)
    (h : s.org.get (orgKey org.orgID) = none) :
    view (registeredStore s org) org.orgID =
      some (founded org (s.orgConfig.get (orgConfigKey org.orgID))) := by
  rw [view_of_get (OrderedMap.get_set_self _ _ _)]
  simp only [founded, ← hs.roster_eq_empty hid h]
  simp only [registeredStore, roster, memberKey_eq, OrderedMap.under_set]

/-- What holds of an org when it is founded and is kept by its changes holds of every org. -/
theorem Evolution.views {Q : View → Prop} (hs : Registry s) (h : Evolution s s')
    (hfounded : ∀ org config, Q (founded org config))
    (hchange : ∀ orgID v v', view s' orgID = some v' → Change v v' → Q v → Q v')
    (hQ : ∀ orgID v, view s orgID = some v → Q v) {orgID : Bytes} {v : View}
    (hv : view s' orgID = some v) : Q v := by
  have hid := (hs.evolution h).slash_notMem hv
  cases h with
  | params params heq =>
    subst heq
    exact hQ orgID v hv
  | org other w w' confined _ _ before after change =>
    by_cases hother : orgID = other
    · subst hother
      obtain rfl := Option.some.inj (hv.symm.trans after)
      exact hchange orgID w v hv change (hQ orgID w before)
    · rw [(confined.sameOrg (hs.slash_notMem before) hid hother).view_eq] at hv
      exact hQ orgID v hv
  | registered org slot named below fresh heq =>
    subst heq
    have hnew : slash ∉ org.orgID := named ▸ slash_notMem_formatOrgID org.slot
    by_cases hother : orgID = org.orgID
    · subst hother
      rw [hs.view_registered hnew fresh] at hv
      exact Option.some.inj hv ▸ hfounded org _
    · rw [((registeredStore_confined s org).sameOrg hnew hid hother).view_eq] at hv
      exact hQ orgID v hv

end Views

section Leaders

/-- The leader of the org is the one that its record names, and everybody else is a member. -/
structure View.Led (v : View) : Prop where
  leader : ∃ member, v.roster.get v.record.leader = some member ∧ member.role = ascii "leader"
  others : ∀ p member, v.roster.get p = some member → p ≠ v.record.leader →
    member.role = ascii "member"

theorem founded_led (org : Org) (config : Option OrgConfig) : (founded org config).Led := by
  refine ⟨⟨_, OrderedMap.get_set_self _ _ _, rfl⟩, ?_⟩
  intro p member hget hne
  have hnone := (OrderedMap.get_set_of_ne _ _ hne).symm.trans hget
  cases hnone

theorem get_setRole_self (m : OrderedMap Bytes MemberRecord) (k role : Bytes) :
    ∃ member, (setRole m k role).get k = some member ∧ member.role = role :=
  ⟨_, OrderedMap.get_set_self _ _ _, rfl⟩

theorem get_setRole_of_ne (m : OrderedMap Bytes MemberRecord) {k k' : Bytes} (role : Bytes)
    (h : k' ≠ k) : (setRole m k role).get k' = m.get k' :=
  OrderedMap.get_set_of_ne _ _ h

theorem Change.led {v v' : View} (h : Change v v') (hv : v.Led) : v'.Led := by
  cases h with
  | counters => exact ⟨hv.leader, hv.others⟩
  | message msg allowed =>
    cases msg with
    | addMember msg =>
      obtain ⟨-, hfresh, hrole⟩ := allowed
      obtain ⟨leader, hleader, hleads⟩ := hv.leader
      refine ⟨⟨leader, ?_, hleads⟩, ?_⟩
      · refine (OrderedMap.get_set_of_ne _ _ ?_).trans hleader
        intro (heq : v.record.leader = msg.pubkey)
        rw [heq, hfresh] at hleader
        cases hleader
      · intro p member hget hne
        rcases eq_or_ne p msg.pubkey with rfl | hp
        · obtain rfl := Option.some.inj ((OrderedMap.get_set_self _ _ _).symm.trans hget)
          exact hrole
        · exact hv.others p member ((OrderedMap.get_set_of_ne _ _ hp).symm.trans hget) hne
    | removeMember msg =>
      obtain ⟨-, member, hfound, hrole⟩ := allowed
      obtain ⟨leader, hleader, hleads⟩ := hv.leader
      refine ⟨⟨leader, ?_, hleads⟩, ?_⟩
      · refine (OrderedMap.get_delete _ _ _).trans ((if_neg ?_).trans hleader)
        intro (heq : v.record.leader = msg.pubkey)
        rw [heq, hfound] at hleader
        exact hrole (Option.some.inj hleader ▸ hleads)
      · intro p other hget hne
        refine hv.others p other ?_ hne
        rw [Msg.apply, OrderedMap.get_delete] at hget
        split at hget
        · cases hget
        · exact hget
    | setMemberCapabilities msg =>
      obtain ⟨-, member, hfound⟩ := allowed
      obtain ⟨leader, hleader, hleads⟩ := hv.leader
      unfold Msg.apply
      simp only [hfound]
      refine ⟨?_, ?_⟩
      · rcases eq_or_ne v.record.leader msg.pubkey with heq | hne
        · rw [heq, hfound] at hleader
          obtain rfl := Option.some.inj hleader
          rw [heq]
          exact ⟨_, OrderedMap.get_set_self _ _ _, hleads⟩
        · exact ⟨leader, (OrderedMap.get_set_of_ne _ _ hne).trans hleader, hleads⟩
      · intro p other hget hne
        rcases eq_or_ne p msg.pubkey with rfl | hp
        · obtain rfl := Option.some.inj ((OrderedMap.get_set_self _ _ _).symm.trans hget)
          exact hv.others msg.pubkey member hfound hne
        · exact hv.others p other ((OrderedMap.get_set_of_ne _ _ hp).symm.trans hget) hne
    | transferLeadership msg =>
      refine ⟨get_setRole_self _ _ _, ?_⟩
      intro p member hget hne
      replace hget := (get_setRole_of_ne _ _ hne).symm.trans hget
      rcases eq_or_ne p v.record.leader with rfl | hold
      · obtain ⟨demoted, hdemoted, hrole⟩ := get_setRole_self v.roster v.record.leader
          (ascii "member")
        exact Option.some.inj (hdemoted.symm.trans hget) ▸ hrole
      · exact hv.others p member ((get_setRole_of_ne _ _ hold).symm.trans hget) hold
    | _ => exact ⟨hv.leader, hv.others⟩

/-- The record has the number of members, as long as that is a 64-bit number. -/
def View.Counted (v : View) : Prop := v.record.totalActiveMembers.toNat = v.roster.entries.length

theorem exists_setRole {m : OrderedMap Bytes MemberRecord} {k k' : Bytes} {member : MemberRecord}
    (hget : m.get k' = some member) (role : Bytes) :
    ∃ member', (setRole m k role).get k' = some member' := by
  rcases eq_or_ne k' k with rfl | hne
  · obtain ⟨record, hrecord, -⟩ := get_setRole_self m k' role
    exact ⟨record, hrecord⟩
  · exact ⟨member, (get_setRole_of_ne m role hne).trans hget⟩

theorem length_setRole {m : OrderedMap Bytes MemberRecord} {k : Bytes} {member : MemberRecord}
    (h : m.get k = some member) (role : Bytes) :
    (setRole m k role).entries.length = m.entries.length :=
  OrderedMap.length_set_of_get_some h _

theorem Change.counted {v v' : View} (h : Change v v') (hled : v.Led) (hv : v.Counted)
    (hfits : v'.roster.entries.length < 2 ^ 64) : v'.Counted := by
  unfold View.Counted at hv
  cases h with
  | counters => exact hv
  | message msg allowed =>
    cases msg with
    | addMember msg =>
      obtain ⟨-, hfresh, -⟩ := allowed
      have hlength : (v.roster.set msg.pubkey msg.member).entries.length =
          v.roster.entries.length + 1 := OrderedMap.length_set_of_get_none hfresh _
      have hlt : (v.roster.set msg.pubkey msg.member).entries.length < 2 ^ 64 := hfits
      rw [hlength, ← hv] at hlt
      exact (Words.toNat_add_of_lt hlt).trans (by rw [hv]; exact hlength.symm)
    | removeMember msg =>
      obtain ⟨-, member, hfound, -⟩ := allowed
      have hlength := OrderedMap.length_delete_of_get_some hfound
      have hpos : v.record.totalActiveMembers > 0 := by
        rw [gt_iff_lt, UInt64.lt_iff_toNat_lt, hv, ← hlength]
        exact Nat.succ_pos _
      have hone : (1 : UInt64).toNat ≤ v.record.totalActiveMembers.toNat :=
        UInt64.lt_iff_toNat_lt.mp hpos
      unfold View.Counted Msg.apply
      simp only [if_pos hpos]
      rw [Words.toNat_sub_of_toNat_le hone, hv, ← hlength]
      rfl
    | setMemberCapabilities msg =>
      obtain ⟨-, member, hfound⟩ := allowed
      unfold View.Counted Msg.apply
      simp only [hfound]
      rw [OrderedMap.length_set_of_get_some hfound, hv]
    | transferLeadership msg =>
      obtain ⟨member, hfound⟩ := allowed
      obtain ⟨leader, hleader, -⟩ := hled.leader
      obtain ⟨record, hrecord⟩ := exists_setRole (k := v.record.leader) hfound (ascii "member")
      unfold View.Counted Msg.apply
      simp only [length_setRole hrecord, length_setRole hleader]
      exact hv
    | _ => exact hv

end Leaders

section Invariants
variable {β γ : Type} {ext : Externals β γ} {authority : Bytes} {s s' : Store}

/-- Slots and leaders are in order. -/
structure Governed (s : Store) : Prop where
  registry : Registry s
  led : ∀ orgID v, view s orgID = some v → v.Led

theorem governed_empty (params : Option Params) : Governed { params := params } :=
  ⟨registry_empty params, fun _ _ h => nomatch h⟩

theorem Governed.evolution (hs : Governed s) (h : Evolution s s') : Governed s' :=
  ⟨hs.registry.evolution h, fun _ _ hv =>
    h.views hs.registry founded_led (fun _ _ _ _ hchange hled => hchange.led hled) hs.led hv⟩

theorem Governed.kept (hs : Governed s) (h : s' = s ∨ Evolution s s') : Governed s' := by
  rcases h with rfl | h
  · exact hs
  · exact hs.evolution h

theorem Governed.next {st : State β γ} (hs : Governed st.store) (input : Input β γ) :
    Governed ((chain ext authority).next st input).store :=
  hs.kept (next_evolution ext authority st input)

theorem counted_evolution (hs : Governed s) (h : Evolution s s')
    (hfits : ∀ orgID, (getAllMembers s' orgID).length < 2 ^ 64)
    (hcounted : ∀ orgID v, view s orgID = some v → v.Counted) {orgID : Bytes} {v : View}
    (hv : view s' orgID = some v) : v.Counted := by
  refine (h.views (Q := fun v => v.Led ∧ v.Counted) hs.registry ?_ ?_
    (fun o w hw => ⟨hs.led o w hw, hcounted o w hw⟩) hv).2
  · intro org config
    refine ⟨founded_led org config, ?_⟩
    exact (OrderedMap.length_set_of_get_none (OrderedMap.get_empty _) _).symm
  · rintro o w w' hw' hchange ⟨hled, hw⟩
    refine ⟨hchange.led hled, hchange.counted hled hw ?_⟩
    have hlength := hfits o
    rwa [getAllMembers_eq, (get_of_view hw').2.1, OrderedMap.values, List.length_map] at hlength

theorem below_cap_evolution (h : Evolution s s')
    (hcap : (getParams s').slotCap = (getParams s).slotCap)
    (hs : getNextSlot s ≤ (getParams s).slotCap) : getNextSlot s' ≤ (getParams s').slotCap := by
  rw [hcap]
  cases h with
  | params params heq => exact heq ▸ hs
  | org orgID v v' confined slots => rwa [getNextSlot, slots]
  | registered org slot orgID below fresh heq =>
    have hnext : getNextSlot s' = getNextSlot s + 1 := by
      rw [heq, ← slot]
      rfl
    rw [hnext]
    exact Words.add_one_le_of_lt below

theorem foldl_active (members : List MemberRecord) (count : UInt64)
    (h : ∀ member ∈ members, member.role ≠ ascii "inactive") :
    members.foldl
        (fun count member => if member.role ≠ ascii "inactive" then count + 1 else count) count =
      count + UInt64.ofNat members.length := by
  induction members generalizing count with
  | nil => simp
  | cons member members ih =>
    rw [List.foldl_cons, if_pos (h member List.mem_cons_self),
      ih _ fun m hm => h m (List.mem_cons_of_mem member hm), List.length_cons]
    simp [UInt64.ofNat_add, UInt64.add_assoc, UInt64.add_comm]

theorem View.Led.active {v : View} (hv : v.Led) {member : MemberRecord}
    (h : member ∈ v.roster.values) : member.role ≠ ascii "inactive" := by
  obtain ⟨⟨p, m⟩, hmem, rfl⟩ := List.mem_map.mp h
  have hget := OrderedMap.get_eq_some_iff.mpr hmem
  rcases eq_or_ne p v.record.leader with rfl | hne
  · obtain ⟨leader, hleader, hrole⟩ := hv.leader
    rw [← Option.some.inj (hleader.symm.trans hget), hrole]
    decide
  · rw [hv.others p m hget hne]
    decide

/-- Counting the members anew gives the number that is there. -/
theorem recompute_counted {orgID : Bytes} {v : View} (hview : view s orgID = some v)
    (hled : v.Led) (hv : v.Counted) :
    recomputeOrgActiveMembers s orgID = .ok { s with
      org := s.org.set (orgKey orgID)
        { v.record with lastActivityEpoch := getCurrentEpoch s } } := by
  obtain ⟨hget, hroster, -⟩ := get_of_view hview
  have hmembers : getAllMembers s orgID = v.roster.values := by rw [getAllMembers_eq, hroster]
  have hcount : (0 : UInt64) + UInt64.ofNat v.roster.values.length =
      v.record.totalActiveMembers := by
    rw [OrderedMap.values, List.length_map, ← hv, UInt64.ofNat_toNat, UInt64.zero_add]
  unfold recomputeOrgActiveMembers modifyOrgAggregate
  rw [hget, hmembers, foldl_active _ _ fun member hm => hled.active hm, hcount]

end Invariants

end WeVibeChain.Orgs
