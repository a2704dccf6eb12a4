import WeVibeChain.Tenants

/-!
# Orgs do not see each other

Each org on the chain behaves like one that has the chain to itself: the records that
`Tenant` has of it, and the answers that its leader gets, are those of the machine of
one org on the requests that concern it. Messages for other orgs, serve traffic,
rewards, identities, reputation, trial allowances and whatever the framework does are
not noticed, as long as the two things that orgs share do not refuse a request of this
org.
-/

set_option autoImplicit false

namespace WeVibeChain.Orgs

def Msg.isTrial : Msg → Bool
  | .grantTrialAllowance _ _ => true
  | _ => false

theorem Stored.epoch_kept {β γ : Type} {ext : Externals β γ} {authority : Bytes} {s s' : Store}
    {msg : Msg} {response : Response} (h : Stored ext authority s msg response s') :
    getCurrentEpoch s' = getCurrentEpoch s := by
  cases h <;> rfl

theorem CountersChanged.epoch_kept {s s' : Store} {orgID : Bytes} (h : CountersChanged orgID s s') :
    getCurrentEpoch s' = getCurrentEpoch s := by
  obtain ⟨stored, committed, upheld, activity, -, rfl⟩ := h
  rfl

theorem view_set_record {s : Store} {orgID : Bytes} {v : View} (hv : view s orgID = some v)
    (record : StoredOrg) :
    view { s with org := s.org.set (orgKey orgID) record } orgID = some { v with record := record } := by
  obtain ⟨-, hroster, hconfig⟩ := get_of_view hv
  rw [view_of_get (OrderedMap.get_set_self _ _ _), ← hroster, ← hconfig]
  rfl

/-- A message that is not for the org leaves it alone, and so does a trial allowance of its leader. -/
theorem Stored.view_other {β γ : Type} {ext : Externals β γ} {authority : Bytes} {s s' : Store}
    {msg : Msg} {response : Response} {orgID : Bytes} {v : View}
    (h : Stored ext authority s msg response s') (hs : Registry s) (hv : view s orgID = some v)
    (hother : msg.orgID ≠ some orgID ∨ msg.isTrial = true) : view s' orgID = some v := by
  have horg := hs.slash_notMem hv
  cases hid : msg.orgID with
  | some target =>
    obtain ⟨w, hw, -, -⟩ := h.accepts hid
    by_cases hsame : orgID = target
    · subst hsame
      have htrial := hother.resolve_left fun hne => hne hid
      cases h with
      | grantTrialAllowance => exact hv
      | _ => cases htrial
    · exact ((h.confined hid).sameOrg (hs.slash_notMem hw) horg hsame).view_eq.trans hv
  | none =>
    cases h with
    | registerOrg msg _ _ hfresh _ =>
      have hne : orgID ≠ formatOrgID (getNextSlot s) := by
        rintro rfl
        rw [view, hfresh] at hv
        cases hv
      exact ((registeredStore_confined s _).sameOrg (slash_notMem_formatOrgID _) horg
        hne).view_eq.trans hv
    | updateParams => exact hv
    | _ => cases hid

end WeVibeChain.Orgs

namespace WeVibeChain.Memory

open Bytes

theorem pendingKey_injective (orgID : Bytes) : Function.Injective (pendingKey orgID) :=
  fun _ _ h => (pendingKey_inj.mp h).2

theorem approvedKey_injective (orgID : Bytes) : Function.Injective (approvedKey orgID) :=
  fun _ _ h => (approvedKey_inj.mp h).2

theorem reportKey_inj_of_org {o h h' r r' : Bytes} :
    reportKey o h r = reportKey o h' r' ↔ h = h' ∧ r = r' := by
  unfold reportKey
  rw [List.append_cancel_left_eq, List.cons_inj_right,
    append_cons_inj_of_notMem_left (slash_notMem_hexEncode h) (slash_notMem_hexEncode h')]
  simp

theorem countKey_inj {o o' : Bytes} : countKey o = countKey o' ↔ o = o' := by
  simp [countKey]

/-- A message for another org leaves the org's count and the settings alone. -/
theorem Stored.other {crypto : Crypto} {s s' : Store} {msg : Msg} {orgID target : Bytes}
    {validated : Except Error Unit} (h : Stored crypto s msg s')
    (hrequest : msg.request = some (target, validated)) (hne : target ≠ orgID) :
    getApprovedCount s' orgID = getApprovedCount s orgID ∧ getParams s' = getParams s ∧
      getCurrentEpoch s' = getCurrentEpoch s := by
  cases h with
  | approve m pending =>
    obtain ⟨rfl, -⟩ := Prod.mk.inj (Option.some.inj hrequest)
    refine ⟨congrArg (Option.getD · 0) (OrderedMap.get_set_of_ne _ _ ?_), rfl, rfl⟩
    intro heq
    exact hne (countKey_inj.mp heq).symm
  | params m => cases hrequest
  | _ => exact ⟨rfl, rfl, rfl⟩

end WeVibeChain.Memory

namespace WeVibeChain.Tenants

open Bytes
open Node (Input Output chain)

section Requests
variable {β γ : Type}

/-- What the input is for the org, if it concerns the org. -/
def requestOf (orgID : Bytes) : Input β γ → Option Request
  | .msg (.app (.org msg)) =>
    if msg.orgID = some orgID ∧ msg.isTrial = false then some (.org msg) else none
  | .msg (.app (.memory msg)) =>
    match msg.request with
    | none => some (.memory msg)
    | some (target, _) => if target = orgID then some (.memory msg) else none
  | .msg (.app (.bandwidth msg)) => if msg.orgId = orgID then some (.override msg) else none
  | .epochEnd n => some (.epochEnd n)
  | _ => none

/-- Whether the input was accepted. -/
def answer : Output → Bool
  | some (_, .error _) => false
  | _ => true

/-- The shared limit of pending commitments and x/feegrant do not refuse what the org asks for. -/
structure Unhindered (env : Node.Env β γ) (orgID : Bytes) (st : Node.State β γ) (input : Input β γ) :
    Prop where
  room : ∀ m, requestOf orgID input = some (.memory (.submitCommitment m)) →
    Memory.pendingCount st.app.memory orgID + 1 <
      (Memory.getParams st.app.memory).maxPendingPerOrg.toNat
  granted : ∀ msg, requestOf orgID input = some (.org msg) →
    Orgs.Granted env.ext st.app.feegrant msg

/-- The relation between the chain and the org alone. -/
structure Hosts (orgID : Bytes) (st : Node.State β γ) (t : Tenant) : Prop where
  governed : Orgs.Governed st.app.org
  validity : st.app.memory.validity = ∅
  represents : Shows orgID st.app t

end Requests

section Steps
variable {β γ : Type} {env : Node.Env β γ} {orgID : Bytes} {st : Node.State β γ} {t : Tenant}

theorem Shows.same {st st' : Application.State β γ} (h : Shows orgID st t)
    (horg : Orgs.view st'.org orgID = some t.org)
    (hepoch : Orgs.getCurrentEpoch st'.org = Orgs.getCurrentEpoch st.org)
    (hmemory : st'.memory = st.memory) (hbandwidth : st'.bandwidth.override = st.bandwidth.override) :
    Shows orgID st' t := by
  obtain ⟨-, hpending, happroved, hreport, hcount, hoverride, hparams, hepoch', horgEpoch⟩ := h
  rw [← hmemory] at hpending happroved hreport hcount hparams hepoch'
  exact ⟨horg, hpending, happroved, hreport, hcount, hbandwidth ▸ hoverride, hparams, hepoch',
    hepoch.trans horgEpoch⟩

/-- The chain does to the org what the org alone does, and answers alike. -/
def Follows (env : Node.Env β γ) (orgID : Bytes) (st : Node.State β γ) (t : Tenant)
    (input : Input β γ) (request : Request) : Prop :=
  Shows orgID ((chain env).next st input).app ((tenant env.toEnv).next t request) ∧
    answer ((chain env).output st input) = (tenant env.toEnv).output t request

/-- A message that is accepted when the org accepts it, and then does to the org what it should. -/
theorem follows {msg : Application.Msg} {request : Request}
    (h : Shows orgID st.app t)
    (hiff : (∃ r, Application.handle env.toEnv st.app msg = .ok r) ↔ t.Accepts env.toEnv request)
    (hshows : ∀ app response, Application.handle env.toEnv st.app msg = .ok (app, response) →
      Shows orgID app (t.apply env.toEnv request))
    (hmarker : Node.markerRefuses st.app.memory msg = false := by rfl) :
    Follows env orgID st t (.msg (.app msg)) request := by
  cases happ : Application.handle env.toEnv st.app msg with
  | error e =>
    have hrefuses : ¬ t.Accepts env.toEnv request := by
      rw [← hiff, happ]
      rintro ⟨r, hr⟩
      cases hr
    obtain ⟨hnext, houtput⟩ := tenant_refuses hrefuses
    have hstep : (chain env).step st (.msg (.app msg)) = (st, some (.app msg, .error (.app e))) := by
      simp only [chain, Node.step, Node.deliver, Node.handle, happ]
    rw [Follows, hnext, houtput]
    unfold Machine.next Machine.output
    rw [hstep]
    exact ⟨h, rfl⟩
  | ok r =>
    obtain ⟨app, response⟩ := r
    obtain ⟨hnext, houtput⟩ := tenant_accepts (hiff.mp ⟨_, happ⟩)
    have hstep : (chain env).step st (.msg (.app msg)) =
        ({ st with app := app }, some (.app msg, .ok (.app response))) := by
      simp only [chain, Node.step, Node.deliver, Node.handle, happ, hmarker, Bool.false_eq_true,
        if_false]
    rw [Follows, hnext, houtput]
    unfold Machine.next Machine.output
    rw [hstep]
    exact ⟨hshows app response happ, rfl⟩

theorem follows_org (h : Shows orgID st.app t) {msg : Orgs.Msg} (hid : msg.orgID = some orgID)
    (hgranted : Orgs.Granted env.ext st.app.feegrant msg) :
    Follows env orgID st t (.msg (.app (.org msg))) (.org msg) := by
  refine follows h ⟨?_, ?_⟩ ?_
  · rintro ⟨⟨app, response⟩, hok⟩
    obtain ⟨org, orgResponse, -, hstored, -⟩ := Application.handle_org_eq hok
    obtain ⟨v, hv, haccepts, -⟩ := hstored.accepts hid
    obtain rfl := Option.some.inj (hv.symm.trans h.org)
    exact haccepts
  · intro haccepts
    obtain ⟨r, hr⟩ : ∃ r, Orgs.handle env.ext env.authority st.app.orgState msg = .ok r :=
      Orgs.handle_of_accepts hid h.org haccepts hgranted
    simp only [Application.handle, hr]
    exact ⟨_, rfl⟩
  · intro app response hok
    obtain ⟨org, orgResponse, -, hstored, rfl⟩ := Application.handle_org_eq hok
    obtain ⟨v, hv, -, hv'⟩ := hstored.accepts hid
    obtain rfl := Option.some.inj (hv.symm.trans h.org)
    exact ⟨hv', h.pending, h.approved, h.report, h.count, h.override, h.memoryParams, h.memoryEpoch,
      hstored.epoch_kept.trans h.orgEpoch⟩

theorem follows_override (h : Shows orgID st.app t) {msg : Bandwidth.MsgSetBandwidthOverride}
    (hid : msg.orgId = orgID) :
    Follows env orgID st t (.msg (.app (.bandwidth msg))) (.override msg) := by
  subst hid
  have hhas : Orgs.hasOrg st.app.org msg.orgId = true :=
    OrderedMap.has_iff.mpr ⟨_, (Orgs.get_of_view h.org).1⟩
  refine follows h ⟨?_, ?_⟩ ?_
  · rintro ⟨⟨app, response⟩, hok⟩
    obtain ⟨bandwidth, hset, -⟩ := Application.handle_bandwidth_eq hok
    obtain ⟨-, hleader, -⟩ := Bandwidth.setBandwidthOverrideMsg_ok hset
    refine ⟨?_, (Memory.isLeader_iff h.org).mp hleader⟩
    unfold Bandwidth.setBandwidthOverrideMsg at hset
    split at hset
    · cases hset
    · assumption
  · rintro ⟨hbasic, hleader⟩
    have hisLeader := (Memory.isLeader_iff h.org).mpr hleader
    simp [Application.handle, Bandwidth.setBandwidthOverrideMsg, hbasic, hhas, hisLeader]
  · intro app response hok
    obtain ⟨bandwidth, hset, rfl⟩ := Application.handle_bandwidth_eq hok
    obtain ⟨-, -, rfl⟩ := Bandwidth.setBandwidthOverrideMsg_ok hset
    exact ⟨h.org, h.pending, h.approved, h.report, h.count, OrderedMap.get_set_self _ _ _,
      h.memoryParams, h.memoryEpoch, h.orgEpoch⟩

theorem handle_memory_ok_iff {msg : Memory.Msg} :
    (∃ r, Application.handle env.toEnv st.app (.memory msg) = .ok r) ↔
      ∃ memory, Memory.handle env.crypto env.authority st.app.memoryState msg = .ok memory := by
  constructor
  · rintro ⟨⟨app, response⟩, hok⟩
    obtain ⟨memory, hmemory, -⟩ := Application.handle_memory_eq hok
    exact ⟨memory, hmemory⟩
  · rintro ⟨memory, hmemory⟩
    simp only [Application.handle, hmemory]
    exact ⟨_, rfl⟩

theorem follows_submit (h : Shows orgID st.app t) {msg : Memory.MsgSubmitCommitment}
    (hid : msg.orgId = orgID)
    (hroom : Memory.pendingCount st.app.memory orgID + 1 <
      (Memory.getParams st.app.memory).maxPendingPerOrg.toNat) :
    Follows env orgID st t (.msg (.app (.memory (.submitCommitment msg))))
      (.memory (.submitCommitment msg)) := by
  subst hid
  refine follows h ?_ ?_ (decide_eq_false (Nat.not_le.mpr hroom))
  · rw [handle_memory_ok_iff]
    refine (Memory.submitCommitmentMsg_ok_iff h.org).trans
      ((and_iff_left (Nat.lt_of_succ_lt hroom)).trans ?_)
    change _ ∧ _ ∧ _ ∧ _ ∧ st.app.memory.pending.get _ = none ↔ _
    rw [h.pending]
    rfl
  · intro app response hok
    obtain ⟨memory, hmemory, rfl⟩ := Application.handle_memory_eq hok
    obtain ⟨-, -, hsubmit⟩ := Memory.submitCommitmentMsg_ok hmemory
    obtain ⟨-, -, rfl⟩ := Memory.submitCommitment_ok hsubmit
    exact ⟨h.org, OrderedMap.get_set_eq_update (Memory.pendingKey_injective _) h.pending _ _, h.approved,
      h.report, h.count, h.override, h.memoryParams, h.memoryEpoch, h.orgEpoch⟩

theorem follows_approve (h : Shows orgID st.app t) {msg : Memory.MsgApproveMemory}
    (hid : msg.orgId = orgID) :
    Follows env orgID st t (.msg (.app (.memory (.approveMemory msg))))
      (.memory (.approveMemory msg)) := by
  subst hid
  refine follows h ?_ ?_
  · rw [handle_memory_ok_iff]
    change (∃ memory, Memory.approveMemoryMsg env.crypto st.app.memoryState msg = .ok memory) ↔ _
    rw [Memory.approveMemoryMsg_ok_iff h.org]
    change _ ∧ _ ∧ st.app.memory.approved.get _ = none ∧ (∃ stored, st.app.memory.pending.get _ = _ ∧
      Memory.MayApprove _ _ (Memory.getParams st.app.memory) _ _) ↔ _
    rw [h.pending, h.approved, h.memoryParams]
    rfl
  · intro app response hok
    obtain ⟨memory, hmemory, rfl⟩ := Application.handle_memory_eq hok
    obtain ⟨-, -, -, happrove⟩ := Memory.approveMemoryMsg_ok hmemory
    obtain ⟨pending, record, hpending, -, -, -, hrecord, rfl⟩ := Memory.approveMemory_eq happrove
    have hfound : t.pending msg.contentHash = some (Memory.pendingToStored pending) :=
      (h.pending _).symm.trans (Memory.getPendingCommitment_ok hpending)
    obtain rfl := Option.some.inj (hrecord.symm.trans (Orgs.get_of_view h.org).1)
    simp only [Tenant.apply, hfound]
    refine ⟨?_, OrderedMap.get_delete_eq_update (Memory.pendingKey_injective _) h.pending _, ?_, h.report, ?_,
      h.override, h.memoryParams, h.memoryEpoch, h.orgEpoch⟩
    · exact Orgs.view_set_record h.org _
    · have hstamp : Memory.getCurrentEpoch st.app.memoryState.store = t.memoryEpoch := h.memoryEpoch
      rw [← hstamp]
      exact OrderedMap.get_set_eq_update (Memory.approvedKey_injective _) h.approved _ _
    · exact (congrArg (Option.getD · 0) (OrderedMap.get_set_self _ _ _)).trans
        (congrArg (· + 1) h.count)

theorem follows_report (h : Shows orgID st.app t) {msg : Memory.MsgReportMemory}
    (hid : msg.orgId = orgID) :
    Follows env orgID st t (.msg (.app (.memory (.reportMemory msg))))
      (.memory (.reportMemory msg)) := by
  subst hid
  refine follows h ?_ ?_
  · rw [handle_memory_ok_iff]
    refine (Memory.reportMemoryMsg_ok_iff h.org).trans ?_
    change _ ∧ _ ∧ _ ∧ st.app.memory.approved.get _ ≠ none ∧ st.app.memory.report.get _ = none ↔ _
    rw [h.approved, h.report]
    rfl
  · intro app response hok
    obtain ⟨memory, hmemory, rfl⟩ := Application.handle_memory_eq hok
    obtain ⟨-, -, hreport⟩ := Memory.reportMemoryMsg_ok hmemory
    obtain ⟨record, -, -, hrecord, rfl⟩ := Memory.reportMemory_eq hreport
    obtain rfl := Option.some.inj (hrecord.symm.trans (Orgs.get_of_view h.org).1)
    refine ⟨?_, h.pending, h.approved, ?_, h.count, h.override, h.memoryParams, h.memoryEpoch,
      h.orgEpoch⟩
    · have hepoch : Orgs.getCurrentEpoch st.app.memoryState.org = t.orgEpoch := h.orgEpoch
      rw [hepoch]
      exact Orgs.view_set_record h.org _
    · intro hash reporter
      change OrderedMap.get (OrderedMap.set _ _ _) _ = Function.update t.report msg.contentHash
        (Function.update (t.report msg.contentHash) msg.reporterPubkey _) hash reporter
      rw [OrderedMap.get_set]
      by_cases hhash : hash = msg.contentHash
      · subst hhash
        rw [Function.update_self, Function.update_apply]
        simp only [Memory.reportKey_inj_of_org, true_and, ← h.report]
        rfl
      · rw [Function.update_of_ne hhash, if_neg, ← h.report]
        · rfl
        · intro hkey
          exact hhash (Memory.reportKey_inj_of_org.mp hkey).1

/-- The other orgs hear of it too. -/
theorem follows_memoryParams (h : Shows orgID st.app t) (msg : Memory.MsgUpdateParams) :
    Follows env orgID st t (.msg (.app (.memory (.updateParams msg))))
      (.memory (.updateParams msg)) := by
  refine follows h ?_ ?_
  · rw [handle_memory_ok_iff]
    change (∃ memory, Memory.updateParamsMsg env.authority st.app.memoryState msg = .ok memory) ↔
      msg.authority = env.authority ∧ msg.authority ≠ []
    unfold Memory.updateParamsMsg
    by_cases hsigned : msg.authority = env.authority
    · by_cases hempty : env.authority = []
      · simp [hsigned, hempty]
      · simp [hsigned, hempty]
    · simp [hsigned]
  · intro app response hok
    obtain ⟨memory, hmemory, rfl⟩ := Application.handle_memory_eq hok
    obtain rfl := Memory.updateParamsMsg_ok hmemory
    exact ⟨h.org, h.pending, h.approved, h.report, h.count, h.override, rfl, h.memoryEpoch,
      h.orgEpoch⟩

theorem follows_epochEnd (h : Shows orgID st.app t) (hvalidity : st.app.memory.validity = ∅)
    (n : Int64) :
    Follows env orgID st t (.epochEnd n) (.epochEnd n) := by
  have haccepts : t.Accepts env.toEnv (.epochEnd n) := trivial
  obtain ⟨hnext, houtput⟩ := tenant_accepts haccepts
  obtain ⟨merkle, hmemory⟩ :=
    Memory.afterEpochEnd_of_validity_empty env.crypto.sha256 env.foreign hvalidity n
  have happ : ((chain env).next st (.epochEnd n)).app.memory =
      { st.app.memory with currentEpoch := some n.toUInt64, merkle := merkle } := hmemory
  rw [Follows, hnext, houtput]
  refine ⟨⟨h.org, ?_, ?_, ?_, ?_, h.override, ?_, ?_, h.orgEpoch⟩, rfl⟩
  all_goals rw [happ]
  · exact h.pending
  · exact h.approved
  · exact h.report
  · exact h.count
  · exact h.memoryParams
  · rfl

theorem idle_memory (h : Hosts orgID st t) {msg : Memory.Msg} {target : Bytes}
    {validated : Except Memory.Error Unit} (hrequest : msg.request = some (target, validated))
    (hne : target ≠ orgID) {app : Application.State β γ} {response : Application.Response}
    (hok : Application.handle env.toEnv st.app (.memory msg) = .ok (app, response)) :
    Shows orgID app t := by
  obtain ⟨hgoverned, -, hshows⟩ := h
  have horg := hgoverned.registry.slash_notMem hshows.org
  obtain ⟨memory, hmemory, rfl⟩ := Application.handle_memory_eq hok
  obtain ⟨-, hwallet, hcounters⟩ := Memory.handle_request hmemory hrequest
  obtain ⟨record, hrecord, -⟩ := Memory.requireLeaderWallet_ok hwallet
  have htarget : slash ∉ target := hgoverned.registry.slash_notMem (Orgs.view_of_get hrecord)
  have hentries := Memory.handle_sameEntries hmemory horg fun o v hv => by
    obtain ⟨rfl, -⟩ := Prod.mk.inj (Option.some.inj (hrequest.symm.trans hv))
    exact ⟨hne, htarget⟩
  obtain ⟨hcount, hparams, hepoch⟩ := (Memory.handle_stored hmemory).other hrequest hne
  refine ⟨?_, fun hash => (hentries.pending hash).trans (hshows.pending hash),
    fun hash => (hentries.approved hash).trans (hshows.approved hash),
    fun hash reporter => (hentries.report hash reporter).trans (hshows.report hash reporter),
    hcount.trans hshows.count, hshows.override, hparams.trans hshows.memoryParams,
    hepoch.trans hshows.memoryEpoch, ?_⟩
  · rcases hcounters with hsame | hchanged
    · exact (congrArg (Orgs.view · orgID) hsame).trans hshows.org
    · exact (hchanged.confined.sameOrg htarget horg hne.symm).view_eq.trans hshows.org
  · rcases hcounters with hsame | hchanged
    · exact (congrArg Orgs.getCurrentEpoch hsame).trans hshows.orgEpoch
    · exact hchanged.epoch_kept.trans hshows.orgEpoch

theorem idle (h : Hosts orgID st t) {input : Input β γ} (hnone : requestOf orgID input = none) :
    Shows orgID ((chain env).next st input).app t := by
  have hshows := h.represents
  have hchanged := Node.next_changed env st input
  generalize (chain env).next st input = st' at hchanged ⊢
  cases hchanged with
  | refused => exact hshows
  | app msg app response accepted =>
    cases msg with
    | org msg =>
      obtain ⟨org, orgResponse, -, hstored, rfl⟩ := Application.handle_org_eq accepted
      have hother : msg.orgID ≠ some orgID ∨ msg.isTrial = true := by
        by_contra hboth
        rw [not_or, not_not, Bool.not_eq_true] at hboth
        simp only [requestOf, if_pos hboth] at hnone
        cases hnone
      exact hshows.same (hstored.view_other h.governed.registry hshows.org hother)
        hstored.epoch_kept rfl rfl
    | memory msg =>
      cases hrequest : msg.request with
      | none =>
        simp only [requestOf, hrequest] at hnone
        cases hnone
      | some request =>
        obtain ⟨target, validated⟩ := request
        refine idle_memory h hrequest ?_ accepted
        rintro rfl
        simp only [requestOf, hrequest, if_true] at hnone
        cases hnone
    | serve msg =>
      obtain ⟨serve, serveResponse, hok, rfl⟩ := Application.handle_serve_eq accepted
      refine hshows.same hshows.org rfl rfl ?_
      rcases Serve.handle_consumed hok with hsame | ⟨m, -, -, hconsumed⟩
      · exact congrArg Bandwidth.Store.override hsame
      · obtain ⟨-, state, heq, -⟩ := Bandwidth.consumeServeBandwidth_ok hconsumed
        exact (congrArg Bandwidth.Store.override heq :)
    | bandwidth msg =>
      obtain ⟨bandwidth, hok, rfl⟩ := Application.handle_bandwidth_eq accepted
      obtain ⟨-, -, rfl⟩ := Bandwidth.setBandwidthOverrideMsg_ok hok
      refine ⟨hshows.org, hshows.pending, hshows.approved, hshows.report, hshows.count, ?_,
        hshows.memoryParams, hshows.memoryEpoch, hshows.orgEpoch⟩
      refine (OrderedMap.get_set_of_ne _ _ ?_).trans hshows.override
      intro hkey
      have hid : msg.orgId = orgID := (Bandwidth.overrideKey_injective hkey).symm
      simp only [requestOf, if_pos hid] at hnone
      cases hnone
  | bandwidthParams msg bandwidth accepted =>
    obtain rfl := Bandwidth.updateParamsMsg_ok accepted
    exact hshows.same hshows.org rfl rfl rfl
  | epochEnd => cases hnone
  | _ => exact hshows.same hshows.org rfl rfl rfl

theorem follows_request (h : Hosts orgID st t) {input : Input β γ} {request : Request}
    (hfree : Unhindered env orgID st input) (hsome : requestOf orgID input = some request) :
    Follows env orgID st t input request := by
  obtain ⟨hroom, hgranted⟩ := hfree
  unfold requestOf at hsome
  split at hsome
  case h_1 msg =>
    split at hsome
    · rename_i hid
      obtain rfl := Option.some.inj hsome
      exact follows_org h.represents hid.1 (hgranted msg (if_pos hid))
    · cases hsome
  case h_2 msg =>
    cases msg with
    | updateParams m =>
      obtain rfl := Option.some.inj hsome
      exact follows_memoryParams h.represents m
    | submitCommitment m =>
      obtain ⟨hid, hrequest⟩ := Option.ite_none_right_eq_some.mp hsome
      obtain rfl := Option.some.inj hrequest
      exact follows_submit h.represents hid (hroom m hsome)
    | approveMemory m =>
      obtain ⟨hid, hrequest⟩ := Option.ite_none_right_eq_some.mp hsome
      obtain rfl := Option.some.inj hrequest
      exact follows_approve h.represents hid
    | reportMemory m =>
      obtain ⟨hid, hrequest⟩ := Option.ite_none_right_eq_some.mp hsome
      obtain rfl := Option.some.inj hrequest
      exact follows_report h.represents hid
  case h_3 msg =>
    obtain ⟨hid, hrequest⟩ := Option.ite_none_right_eq_some.mp hsome
    obtain rfl := Option.some.inj hrequest
    exact follows_override h.represents hid
  case h_4 n =>
    obtain rfl := Option.some.inj hsome
    exact follows_epochEnd h.represents h.validity n
  case h_5 => cases hsome

theorem validity_next (h : st.app.memory.validity = ∅) (input : Input β γ) :
    ((chain env).next st input).app.memory.validity = ∅ := by
  rcases Node.next_memory env st input with hsame | ⟨msg, memory, hok, hmemory⟩ | ⟨n, -, hepoch⟩
  · rw [hsame]
    exact h
  · have hstored := Memory.handle_stored hok
    rw [hmemory]
    generalize memory.store = s at hstored ⊢
    cases hstored <;> exact h
  · obtain ⟨merkle, hmemory⟩ :=
      Memory.afterEpochEnd_of_validity_empty env.crypto.sha256 env.foreign h n
    rw [hepoch, hmemory]
    exact h

theorem Hosts.next {t' : Tenant} (h : Hosts orgID st t) {input : Input β γ}
    (hshows : Shows orgID ((chain env).next st input).app t') :
    Hosts orgID ((chain env).next st input) t' :=
  ⟨h.governed.kept (Node.next_evolution env st input), validity_next h.validity input, hshows⟩

end Steps

section Runs
variable {β γ : Type} {orgID : Bytes} {st : Node.State β γ}

/-- Every org that the chain comes to hold is in the relation with what the chain holds of it. -/
theorem hosts_run (env : Node.Env β γ) (hgoverned : Orgs.Governed st.app.org)
    (hvalidity : st.app.memory.validity = ∅) (inputs : List (Input β γ)) {v : Orgs.View}
    (hv : Orgs.view ((chain env).run st inputs).app.org orgID = some v) :
    Hosts orgID ((chain env).run st inputs)
      (tenantOf orgID ((chain env).run st inputs).app v) := by
  obtain ⟨hgoverned', hvalidity'⟩ := (chain env).run_always
    (I := fun s => Orgs.Governed s.app.org ∧ s.app.memory.validity = ∅)
    (fun s input hs => ⟨hs.1.kept (Node.next_evolution env s input), validity_next hs.2 input⟩)
    ⟨hgoverned, hvalidity⟩ inputs
  exact ⟨hgoverned', hvalidity', shows_tenantOf hv⟩

/-- In every run in which the shared limits do not refuse a request of the org, the records of the
org that `Tenant` has and the answers to its requests are what the org alone comes to. -/
theorem org_runs_alone (env : Node.Env β γ) {t : Tenant} (hstart : Hosts orgID st t)
    {inputs : List (Input β γ)} (hfree : (chain env).Along (Unhindered env orgID) st inputs) :
    Shows orgID ((chain env).run st inputs).app
        ((tenant env.toEnv).run t (inputs.filterMap (requestOf orgID))) ∧
      ((chain env).observed (fun input => (requestOf orgID input).isSome) st inputs).map answer =
        (tenant env.toEnv).history t (inputs.filterMap (requestOf orgID)) := by
  have hrefines := Machine.run_refines (n := tenant env.toEnv) (requestOf orgID) answer
    (R := Hosts orgID) ?_ ?_ hstart hfree
  · exact ⟨hrefines.1.represents, hrefines.2⟩
  · intro s u input hs _ hnone
    exact hs.next (idle hs hnone)
  · intro s u input request hs hunhindered hsome
    obtain ⟨hshows, hanswer⟩ := follows_request hs hunhindered hsome
    exact ⟨hs.next hshows, hanswer⟩

end Runs

section Sample

open Node (sampleEnv sampleStart sampleInputs)

/-- Another org registers and submits the same memory before the one of this org is approved. -/
def sampleRequests : List (Input Ledger (List (Bytes × Bytes))) :=
  (sampleInputs.drop 1).take 1 ++
    [.msg (.app (.org (.registerOrg Orgs.sampleRegisterSecond))),
      .msg (.app (.memory (.submitCommitment
        { EpochHooks.sampleSubmit with
          signer := Orgs.sampleAddress 1
          orgId := Orgs.formatOrgID 1
          contributorId := formatUint 1 })))] ++ sampleInputs.drop 2

theorem sample_unhindered :
    (chain sampleEnv).Along (Unhindered sampleEnv (Orgs.formatOrgID 0))
      ((chain sampleEnv).run sampleStart (sampleInputs.take 1)) sampleRequests := by
  refine ⟨⟨fun _ _ => ?_, nofun⟩, ⟨nofun, nofun⟩, ⟨fun _ _ => ?_, nofun⟩, ⟨fun _ _ => ?_, nofun⟩,
    ⟨nofun, nofun⟩, ⟨nofun, nofun⟩, trivial⟩
  all_goals decide +kernel

theorem sample_org_alone :
    ((chain sampleEnv).run sampleStart (sampleInputs.take 1 ++ sampleRequests)).app.memory.pending.has
      (Memory.pendingKey (Orgs.formatOrgID 1) EpochHooks.sampleHash) = true ∧
    ∃ v, (tenant sampleEnv.toEnv).history
        (tenantOf (Orgs.formatOrgID 0)
          ((chain sampleEnv).run sampleStart (sampleInputs.take 1)).app v)
        (sampleRequests.filterMap (requestOf (Orgs.formatOrgID 0))) = [true, true, true, true] := by
  have hsome : (Orgs.view ((chain sampleEnv).run sampleStart (sampleInputs.take 1)).app.org
      (Orgs.formatOrgID 0)).isSome = true := by decide +kernel
  obtain ⟨v, hv⟩ := Option.isSome_iff_exists.mp hsome
  have hstart := hosts_run sampleEnv (Orgs.governed_empty none) rfl (sampleInputs.take 1) hv
  refine ⟨by decide +kernel, v, ?_⟩
  rw [← (org_runs_alone sampleEnv hstart sample_unhindered).2]
  decide +kernel

end Sample

end WeVibeChain.Tenants
