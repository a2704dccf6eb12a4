import WeVibeChain.OrgChanges

/-!
# x/org: one org at a time

The members of all orgs share one key family, told apart by the id that the key
starts with. Ids that are given out have no slash, so the keys of two orgs never
meet, and an org can be looked at by itself: its record, its members by their
keys, and its configuration. `Msg.apply` is what a message does to the one org it
is for; the theorems here say that an accepted message does just that in the
store, and nothing to the other orgs.
-/

set_option autoImplicit false

namespace WeVibeChain.Orgs

open Bytes

section Keys
variable {o o' p p' : Bytes}

@[simp] theorem orgKey_inj : orgKey o = orgKey o' ↔ o = o' := by
  simp [orgKey]

@[simp] theorem orgConfigKey_inj : orgConfigKey o = orgConfigKey o' ↔ o = o' := by
  simp [orgConfigKey]

theorem memberKey_eq (o p : Bytes) : memberKey o p = memberPrefix o ++ p := by
  simp [memberKey, memberPrefix]

theorem memberKey_inj (ho : slash ∉ o) (ho' : slash ∉ o') :
    memberKey o p = memberKey o' p' ↔ o = o' ∧ p = p' := by
  unfold memberKey
  rw [List.append_assoc, List.append_assoc, List.append_cancel_left_eq,
    append_cons_inj_of_notMem_left ho ho']

theorem eq_of_memberPrefix (ho : slash ∉ o) (ho' : slash ∉ o')
    (h : memberPrefix o <+: memberKey o' p) : o = o' := by
  obtain ⟨rest, hrest⟩ := h
  rw [← memberKey_eq] at hrest
  exact ((memberKey_inj ho ho').mp hrest).1

@[simp] theorem formatOrgID_inj {m n : UInt64} : formatOrgID m = formatOrgID n ↔ m = n := by
  simp [formatOrgID]

theorem slash_notMem_formatOrgID (n : UInt64) : slash ∉ formatOrgID n := by
  have hname : slash ∉ ascii "wevibe-org-" := by decide
  simp [formatOrgID, hname, slash_notMem_formatUint n]

end Keys

section Views

def roster (s : Store) (orgID : Bytes) : OrderedMap Bytes MemberRecord :=
  s.member.under (memberPrefix orgID)

theorem getAllMembers_eq (s : Store) (orgID : Bytes) :
    getAllMembers s orgID = (roster s orgID).values :=
  (OrderedMap.values_under _ _).symm

@[simp] theorem get_roster (s : Store) (orgID p : Bytes) :
    (roster s orgID).get p = s.member.get (memberKey orgID p) := by
  rw [roster, OrderedMap.get_under, memberKey_eq]

structure View where
  record : StoredOrg
  roster : OrderedMap Bytes MemberRecord
  config : Option OrgConfig

def view (s : Store) (orgID : Bytes) : Option View :=
  (s.org.get (orgKey orgID)).map fun record =>
    ⟨record, roster s orgID, s.orgConfig.get (orgConfigKey orgID)⟩

theorem view_of_get {s : Store} {orgID : Bytes} {record : StoredOrg}
    (h : s.org.get (orgKey orgID) = some record) :
    view s orgID = some ⟨record, roster s orgID, s.orgConfig.get (orgConfigKey orgID)⟩ := by
  rw [view, h, Option.map_some]

theorem get_of_view {s : Store} {orgID : Bytes} {v : View} (h : view s orgID = some v) :
    s.org.get (orgKey orgID) = some v.record ∧ roster s orgID = v.roster ∧
      s.orgConfig.get (orgConfigKey orgID) = v.config := by
  obtain ⟨record, hget, rfl⟩ := Option.map_eq_some_iff.mp h
  exact ⟨hget, rfl, rfl⟩

/-- The signer is the leader wallet of the org. -/
def View.SignedBy (v : View) (signer : Bytes) : Prop :=
  signer ≠ [] ∧ signer = v.record.leaderWalletAddress

def View.Active (v : View) : Prop := OrgStatus.ofCode v.record.status = .active

/-- What the message does to the org that it is for. -/
def Msg.apply (v : View) : Msg → View
  | .registerOrg _ | .updateParams _ | .grantTrialAllowance _ _ => v
  | .addMember msg =>
    { v with
      roster := v.roster.set msg.pubkey msg.member
      record := { v.record with totalActiveMembers := v.record.totalActiveMembers + 1 } }
  | .removeMember msg =>
    { v with
      roster := v.roster.delete msg.pubkey
      record :=
        { v.record with
          totalActiveMembers :=
            if v.record.totalActiveMembers > 0 then v.record.totalActiveMembers - 1
            else v.record.totalActiveMembers } }
  | .setOrgConfig msg => { v with config := some msg.config }
  | .setMemberCapabilities msg =>
    match v.roster.get msg.pubkey with
    | none => v
    | some member =>
      { v with
        roster := v.roster.set msg.pubkey
          { member with canContribute := msg.canContribute, canModerate := msg.canModerate } }
  | .transferLeadership msg =>
    { v with
      roster := setRole (setRole v.roster v.record.leader (ascii "member")) msg.newLeader
        (ascii "leader")
      record :=
        { v.record with
          leader := msg.newLeader
          leaderWalletAddress := msg.newLeaderWallet } }
  | .closeOrg _ => { v with record := { v.record with status := OrgStatus.closed.code } }
  | .setServingKey msg =>
    { v with record := { v.record with hubServingAddress := msg.newServingKey } }
  | .setServingInfo msg =>
    { v with
      record :=
        { v.record with
          hubEndpoints := msg.hubEndpoints
          hubResponsePubkey := msg.hubResponsePubkey } }

theorem apply_setMemberCapabilities_record (v : View) (msg : MsgSetMemberCapabilities) :
    ((Msg.setMemberCapabilities msg).apply v).record = v.record := by
  unfold Msg.apply
  dsimp only
  split <;> rfl

/-- What the org must be like for the message to be accepted, apart from the signer. -/
def Msg.Allowed (v : View) : Msg → Prop
  | .addMember msg => v.Active ∧ v.roster.get msg.pubkey = none ∧ msg.role = ascii "member"
  | .removeMember msg =>
    v.Active ∧ ∃ member, v.roster.get msg.pubkey = some member ∧ member.role ≠ ascii "leader"
  | .setMemberCapabilities msg => v.Active ∧ ∃ member, v.roster.get msg.pubkey = some member
  | .transferLeadership msg => ∃ member, v.roster.get msg.newLeader = some member
  | .closeOrg _ => v.Active
  | _ => True

theorem setRole_under (m : OrderedMap Bytes MemberRecord) (o p role : Bytes) :
    (setRole m (memberKey o p) role).under (memberPrefix o) =
      setRole (m.under (memberPrefix o)) p role := by
  unfold setRole
  rw [memberKey_eq, OrderedMap.under_set, OrderedMap.get_under]

variable {β γ : Type} {ext : Externals β γ} {authority : Bytes} {s s' : Store} {msg : Msg}
  {response : Response} {orgID : Bytes}

/-- An accepted message for an org is signed by the org's leader wallet and does to the org what
`Msg.apply` says. -/
theorem Stored.view_target (h : Stored ext authority s msg response s')
    (hid : msg.orgID = some orgID) :
    ∃ v, view s orgID = some v ∧ v.SignedBy msg.signer ∧ msg.Allowed v ∧
      view s' orgID = some (msg.apply v) := by
  cases h with
  | registerOrg => cases hid
  | updateParams => cases hid
  | addMember msg stored basic signed active fresh =>
    obtain rfl := Option.some.inj hid
    refine ⟨_, view_of_get signed.found, signed.signs,
      ⟨active, by rwa [get_roster], (MsgAddMember.validateBasic_iff.mp basic).2.2.2.2⟩, ?_⟩
    rw [view_of_get (OrderedMap.get_set_self _ _ _)]
    simp only [Msg.apply, roster, memberKey_eq, OrderedMap.under_set]
  | removeMember msg stored member basic signed active found role =>
    obtain rfl := Option.some.inj hid
    refine ⟨_, view_of_get signed.found, signed.signs,
      ⟨active, member, by rwa [get_roster], role⟩, ?_⟩
    rw [view_of_get (OrderedMap.get_set_self _ _ _)]
    simp only [Msg.apply, roster, memberKey_eq, OrderedMap.under_delete]
  | setOrgConfig msg stored basic signed =>
    obtain rfl := Option.some.inj hid
    refine ⟨_, view_of_get signed.found, signed.signs, trivial, ?_⟩
    refine Eq.trans (view_of_get signed.found) ?_
    simp only [Msg.apply, roster, OrderedMap.get_set_self]
  | grantTrialAllowance blockTime msg stored basic signed =>
    obtain rfl := Option.some.inj hid
    exact ⟨_, view_of_get signed.found, signed.signs, trivial, view_of_get signed.found⟩
  | setMemberCapabilities msg stored member basic signed active found =>
    obtain rfl := Option.some.inj hid
    refine ⟨_, view_of_get signed.found, signed.signs,
      ⟨active, member, by rwa [get_roster]⟩, ?_⟩
    refine Eq.trans (view_of_get signed.found) ?_
    have hroster : (roster s msg.orgId).get msg.pubkey = some member := by rwa [get_roster]
    simp only [Msg.apply, hroster]
    simp only [roster, memberKey_eq, OrderedMap.under_set]
  | transferLeadership msg stored member basic signed found =>
    obtain rfl := Option.some.inj hid
    refine ⟨_, view_of_get signed.found, signed.signs, ⟨member, by rwa [get_roster]⟩, ?_⟩
    rw [view_of_get (OrderedMap.get_set_self _ _ _)]
    simp only [Msg.apply, roster, setRole_under]
  | closeOrg msg stored basic signed active =>
    obtain rfl := Option.some.inj hid
    refine ⟨_, view_of_get signed.found, signed.signs, active, ?_⟩
    rw [view_of_get (OrderedMap.get_set_self _ _ _)]
    rfl
  | setServingKey msg stored basic signed =>
    obtain rfl := Option.some.inj hid
    refine ⟨_, view_of_get signed.found, signed.signs, trivial, ?_⟩
    rw [view_of_get (OrderedMap.get_set_self _ _ _)]
    rfl
  | setServingInfo msg stored basic signed =>
    obtain rfl := Option.some.inj hid
    refine ⟨_, view_of_get signed.found, signed.signs, trivial, ?_⟩
    rw [view_of_get (OrderedMap.get_set_self _ _ _)]
    rfl

end Views

section Confinement

/-- Only entries of one org differ. -/
structure Confined (orgID : Bytes) (s s' : Store) : Prop where
  org : ∀ k, k ≠ orgKey orgID → s'.org.get k = s.org.get k
  member : ∀ k, ¬ memberPrefix orgID <+: k → s'.member.get k = s.member.get k
  config : ∀ k, k ≠ orgConfigKey orgID → s'.orgConfig.get k = s.orgConfig.get k

/-- The two stores hold the same of one org. -/
structure SameOrg (orgID : Bytes) (s s' : Store) : Prop where
  record : s'.org.get (orgKey orgID) = s.org.get (orgKey orgID)
  roster : roster s' orgID = roster s orgID
  config : s'.orgConfig.get (orgConfigKey orgID) = s.orgConfig.get (orgConfigKey orgID)

theorem SameOrg.view_eq {orgID : Bytes} {s s' : Store} (h : SameOrg orgID s s') :
    view s' orgID = view s orgID := by
  rw [view, view, h.record, h.roster, h.config]

theorem Confined.sameOrg {orgID other : Bytes} {s s' : Store} (h : Confined orgID s s')
    (horg : slash ∉ orgID) (hother : slash ∉ other) (hne : other ≠ orgID) :
    SameOrg other s s' := by
  refine ⟨h.org _ (by simpa using hne), ?_, h.config _ (by simpa using hne)⟩
  ext1 p
  rw [get_roster, get_roster]
  apply h.member
  intro hstart
  exact hne (eq_of_memberPrefix horg hother hstart).symm

theorem memberPrefix_memberKey (orgID p : Bytes) : memberPrefix orgID <+: memberKey orgID p :=
  ⟨p, (memberKey_eq orgID p).symm⟩

theorem get_set_member_of_not {m : OrderedMap Bytes MemberRecord} {orgID k : Bytes}
    (h : ¬ memberPrefix orgID <+: k) (p : Bytes) (member : MemberRecord) :
    (m.set (memberKey orgID p) member).get k = m.get k := by
  apply OrderedMap.get_set_of_ne
  rintro rfl
  exact h (memberPrefix_memberKey orgID p)

variable {β γ : Type} {ext : Externals β γ} {authority : Bytes} {s s' : Store} {msg : Msg}
  {response : Response} {orgID : Bytes}

theorem registeredStore_confined (s : Store) (org : Org) :
    Confined org.orgID s (registeredStore s org) where
  org _ hk := OrderedMap.get_set_of_ne _ _ hk
  member _ hk := get_set_member_of_not hk _ _
  config _ _ := rfl

theorem record_confined (s : Store) (orgID : Bytes) (record : StoredOrg) :
    Confined orgID s { s with org := s.org.set (orgKey orgID) record } where
  org _ hk := OrderedMap.get_set_of_ne _ _ hk
  member _ _ := rfl
  config _ _ := rfl

theorem CountersChanged.confined (h : CountersChanged orgID s s') : Confined orgID s s' := by
  obtain ⟨stored, committed, upheld, activity, -, rfl⟩ := h
  exact record_confined s orgID _

/-- An accepted message for an org writes entries of that org only. -/
theorem Stored.confined (h : Stored ext authority s msg response s')
    (hid : msg.orgID = some orgID) : Confined orgID s s' := by
  cases h with
  | registerOrg => cases hid
  | updateParams => cases hid
  | addMember =>
    obtain rfl := Option.some.inj hid
    exact ⟨fun k hk => OrderedMap.get_set_of_ne _ _ hk, fun k hk => get_set_member_of_not hk _ _,
      fun _ _ => rfl⟩
  | removeMember =>
    obtain rfl := Option.some.inj hid
    refine ⟨fun k hk => OrderedMap.get_set_of_ne _ _ hk, ?_, fun _ _ => rfl⟩
    intro k hk
    rw [OrderedMap.get_delete, if_neg]
    rintro rfl
    exact hk (memberPrefix_memberKey _ _)
  | setOrgConfig =>
    obtain rfl := Option.some.inj hid
    exact ⟨fun _ _ => rfl, fun _ _ => rfl, fun k hk => OrderedMap.get_set_of_ne _ _ hk⟩
  | grantTrialAllowance => exact ⟨fun _ _ => rfl, fun _ _ => rfl, fun _ _ => rfl⟩
  | setMemberCapabilities =>
    obtain rfl := Option.some.inj hid
    exact ⟨fun _ _ => rfl, fun k hk => get_set_member_of_not hk _ _, fun _ _ => rfl⟩
  | transferLeadership =>
    obtain rfl := Option.some.inj hid
    refine ⟨fun k hk => OrderedMap.get_set_of_ne _ _ hk, ?_, fun _ _ => rfl⟩
    intro k hk
    exact (get_set_member_of_not hk _ _).trans (get_set_member_of_not hk _ _)
  | closeOrg | setServingKey | setServingInfo =>
    obtain rfl := Option.some.inj hid
    exact record_confined s _ _

theorem Stored.registry_kept (h : Stored ext authority s msg response s')
    (hid : msg.orgID = some orgID) :
    s'.slotRegistry = s.slotRegistry ∧ s'.params = s.params ∧ response = .empty := by
  cases h with
  | registerOrg => cases hid
  | updateParams => cases hid
  | _ => exact ⟨rfl, rfl, rfl⟩

end Confinement

section Evolution

/-- One org changes by a message for it or by the counters that x/memory keeps in its record. -/
inductive Change (v : View) : View → Prop where
  | message (msg : Msg) (allowed : msg.Allowed v) : Change v (msg.apply v)
  | counters (committed upheld activity : UInt64) :
      Change v { v with
        record := { v.record with
          totalCommittedMemories := committed
          totalUpheldReports := upheld
          lastActivityEpoch := activity } }

/-- How the store goes on: one org changes, an org is registered, or the parameters are set. -/
inductive Evolution (s s' : Store) : Prop where
  | org (orgID : Bytes) (v v' : View) (confined : Confined orgID s s')
      (slots : s'.slotRegistry = s.slotRegistry) (params : s'.params = s.params)
      (before : view s orgID = some v) (after : view s' orgID = some v') (change : Change v v')
  | registered (org : Org) (slot : org.slot = getNextSlot s)
      (orgID : org.orgID = formatOrgID org.slot)
      (below : getNextSlot s < (getParams s).slotCap)
      (fresh : s.org.get (orgKey org.orgID) = none) (eq : s' = registeredStore s org)
  | params (params : Params) (eq : s' = { s with params := some params })

variable {β γ : Type} {ext : Externals β γ} {authority : Bytes} {s s' : Store} {msg : Msg}
  {response : Response} {orgID : Bytes}

theorem Stored.evolution (h : Stored ext authority s msg response s') : Evolution s s' := by
  cases hid : msg.orgID with
  | some orgID =>
    obtain ⟨v, hv, -, hallowed, hv'⟩ := h.view_target hid
    obtain ⟨hslots, hparams, -⟩ := h.registry_kept hid
    exact .org orgID v (msg.apply v) (h.confined hid) hslots hparams hv hv' (.message msg hallowed)
  | none =>
    cases h with
    | registerOrg msg _ hbelow hfresh _ => exact .registered _ rfl rfl hbelow hfresh rfl
    | updateParams msg => exact .params msg.params rfl
    | _ => cases hid

theorem CountersChanged.evolution (h : CountersChanged orgID s s') : Evolution s s' := by
  have hconfined := h.confined
  obtain ⟨stored, committed, upheld, activity, hget, rfl⟩ := h
  exact .org orgID _ _ hconfined rfl rfl (view_of_get hget)
    (view_of_get (OrderedMap.get_set_self _ _ _)) (.counters committed upheld activity)

end Evolution

end WeVibeChain.Orgs
