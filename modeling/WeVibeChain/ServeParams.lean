import WeVibeChain.ServeRecords

/-!
# x/serve: what the parameters decide

The handlers read two numbers of the parameters: how many entries a batch may
have and how often a memory may be served in an epoch. Two stores that differ in
their parameters, but not in these numbers, give the same answers in every run
and differ in nothing else afterwards.

How many entries a batch may have shows in the answers, whatever signatures
verify: a batch that is longer is refused before any entry is looked at.
-/

set_option autoImplicit false

namespace WeVibeChain.Serve

open Bytes

section Params
variable (params : Option Params)

def Store.withParams (s : Store) : Store := { s with params := params }

def State.withParams (st : State) : State := { st with store := st.store.withParams params }

theorem countUniqueMemory_withParams (s : Store) (orgID : Bytes) (epoch : UInt64)
    (contentHash : Bytes) :
    countUniqueMemory (s.withParams params) orgID epoch contentHash =
      (countUniqueMemory s orgID epoch contentHash).withParams params := by
  change (if s.memFirst.has _ then s.withParams params else _) = _
  unfold countUniqueMemory
  split
  · rfl
  · rfl

theorem countUniqueServeKey_withParams (s : Store) (orgID : Bytes) (epoch : UInt64)
    (serveKey : Bytes) :
    countUniqueServeKey (s.withParams params) orgID epoch serveKey =
      (countUniqueServeKey s orgID epoch serveKey).withParams params := by
  change (if s.keyFirst.has _ then s.withParams params else _) = _
  unfold countUniqueServeKey
  split
  · rfl
  · rfl

theorem acceptedStore_withParams (s : Store) (r : ServeReceipt) :
    acceptedStore (s.withParams params) r = (acceptedStore s r).withParams params := by
  have hcounted : incrementMemoryServeCount (recordReceipt (s.withParams params) r) r.orgID r.epoch
      r.contentHash = (incrementMemoryServeCount (recordReceipt s r) r.orgID r.epoch
        r.contentHash).withParams params := rfl
  unfold acceptedStore updateEpochStats
  rw [hcounted, countUniqueMemory_withParams, countUniqueServeKey_withParams]
  rfl

end Params

section Batches
variable (crypto : Crypto) (scopeTagsOf : Bytes → Option (OrderedMap Bytes Bytes))
variable (params : Option Params) (orgID : Bytes) (epoch : UInt64)

/-- Of the parameters a turn of the loop reads the cap on serves of a memory only. -/
theorem processServe_withParams {p p' : Params}
    (hcap : p'.maxServesPerMemoryPerEpoch = p.maxServesPerMemoryPerEpoch) (st : State)
    (serve : ServeEntry) :
    processServe crypto scopeTagsOf p' orgID epoch (st.withParams params) serve =
      (processServe crypto scopeTagsOf p orgID epoch st serve).map
        fun r => (r.1.withParams params, r.2) := by
  have haccepted : ∀ r, acceptedState (st.withParams params) r =
      (acceptedState st r).withParams params := by
    intro r
    unfold acceptedState
    rw [State.withParams, acceptedStore_withParams]
    rfl
  have hfingerprint : ∀ fp, hasServeFingerprint (st.withParams params).store fp =
      hasServeFingerprint st.store fp := fun _ => rfl
  have hmemory : (st.withParams params).memory = st.memory := rfl
  have hcount : ∀ o h e, getMemoryServeCount (st.withParams params).store o h e =
      getMemoryServeCount st.store o h e := fun _ _ _ => rfl
  unfold processServe
  simp only [haccepted, hfingerprint, hmemory, hcount, hcap]
  split
  · rfl
  split
  · rfl
  split
  · rfl
  split
  · rfl
  split
  · rfl
  · rfl
  split
  · rfl
  · rfl

theorem processServes_withParams {p p' : Params}
    (hcap : p'.maxServesPerMemoryPerEpoch = p.maxServesPerMemoryPerEpoch) (st : State)
    (result : BatchResult) (serves : List ServeEntry) :
    processServes crypto scopeTagsOf p' orgID epoch (st.withParams params) result serves =
      (processServes crypto scopeTagsOf p orgID epoch st result serves).map
        fun r => (r.1.withParams params, r.2) := by
  induction serves generalizing st result with
  | nil => rfl
  | cons serve serves ih =>
    unfold processServes
    rw [processServe_withParams crypto scopeTagsOf params orgID epoch hcap]
    cases processServe crypto scopeTagsOf p orgID epoch st serve with
    | error e => rfl
    | ok r => exact ih r.1 (result.tally r.2)

theorem processDenial_withParams (memory : Memory.Store) (s : Store) (entry : DenialEntry) :
    processDenial crypto memory orgID epoch (s.withParams params) entry =
      ((processDenial crypto memory orgID epoch s entry).1.withParams params,
        (processDenial crypto memory orgID epoch s entry).2) := by
  have hfingerprint : ∀ fp, hasDenialFingerprint (s.withParams params) fp =
      hasDenialFingerprint s fp := fun _ => rfl
  have hreceipt : ∀ fp, getServeReceiptByFingerprint (s.withParams params) fp =
      getServeReceiptByFingerprint s fp := fun _ => rfl
  have hdenied : ∀ fp receipt, deniedStore (s.withParams params) orgID epoch fp receipt entry =
      (deniedStore s orgID epoch fp receipt entry).withParams params := fun _ _ => rfl
  unfold processDenial
  simp only [hfingerprint, hreceipt, hdenied]
  split
  · rfl
  split
  · rfl
  split
  · rfl
  split
  · rfl
  split
  · rfl
  split
  · rfl
  split
  · rfl
  · rfl

theorem processDenials_withParams (memory : Memory.Store) (s : Store) (result : DenialResult)
    (entries : List DenialEntry) :
    processDenials crypto memory orgID epoch (s.withParams params) result entries =
      ((processDenials crypto memory orgID epoch s result entries).1.withParams params,
        (processDenials crypto memory orgID epoch s result entries).2) := by
  induction entries generalizing s result with
  | nil => rfl
  | cons entry entries ih =>
    unfold processDenials
    rw [processDenial_withParams]
    exact ih _ _

theorem processEvent_withParams (memory : Memory.Store) (s : Store) (entry : EventEntry) :
    processEvent crypto memory orgID epoch (s.withParams params) entry =
      ((processEvent crypto memory orgID epoch s entry).1.withParams params,
        (processEvent crypto memory orgID epoch s entry).2) := by
  have hmarked : (s.withParams params).eventFingerprint = s.eventFingerprint := rfl
  unfold processEvent
  simp only [hmarked]
  split
  · rfl
  split
  · rfl
  split
  · rfl
  split
  · rfl
  · rfl

theorem processEventBatch_withParams (memory : Memory.Store) (s : Store) (result : BatchResult)
    (entries : List EventEntry) :
    processEventBatch crypto memory orgID epoch (s.withParams params) result entries =
      ((processEventBatch crypto memory orgID epoch s result entries).1.withParams params,
        (processEventBatch crypto memory orgID epoch s result entries).2) := by
  induction entries generalizing s result with
  | nil => rfl
  | cons entry entries ih =>
    unfold processEventBatch
    rw [processEvent_withParams]
    exact ih _ _

end Batches

section Messages
variable {crypto : Crypto} {scopeTagsOf : Bytes → Option (OrderedMap Bytes Bytes)}
  {authority : Bytes} {params : Option Params} {st : State}

/-- The numbers that the handlers read. -/
structure SameLimits (p p' : Params) : Prop where
  batch : p'.maxServesPerBatch = p.maxServesPerBatch
  memory : p'.maxServesPerMemoryPerEpoch = p.maxServesPerMemoryPerEpoch

theorem SameLimits.refl (p : Params) : SameLimits p p := ⟨rfl, rfl⟩

theorem getParams_withParams (s : Store) (params : Option Params) :
    getParams (s.withParams params) = params.getD defaultParams := rfl

variable (hlimits : SameLimits (getParams st.store) (params.getD defaultParams))
include hlimits

theorem submitServeBatch_withParams (m : MsgSubmitServeBatch) :
    submitServeBatch crypto scopeTagsOf (st.withParams params) m =
      (submitServeBatch crypto scopeTagsOf st m).map fun r => (r.1.withParams params, r.2) := by
  have horg : (st.withParams params).org = st.org := rfl
  have hbandwidth : (st.withParams params).bandwidth = st.bandwidth := rfl
  have hparams : getParams (st.withParams params).store = params.getD defaultParams := rfl
  unfold submitServeBatch processServeBatch
  simp only [horg, hbandwidth, hparams, hlimits.batch]
  split
  · rfl
  split
  · rfl
  split
  · rfl
  · rename_i bandwidth _
    exact processServes_withParams crypto scopeTagsOf params _ _ hlimits.memory
      { st with bandwidth := bandwidth } {} m.serves

theorem submitDenialBatch_withParams (m : MsgSubmitDenialBatch) :
    submitDenialBatch crypto (st.withParams params) m =
      (submitDenialBatch crypto st m).map fun r => (r.1.withParams params, r.2) := by
  have horg : (st.withParams params).org = st.org := rfl
  have hmemory : (st.withParams params).memory = st.memory := rfl
  have hstore : (st.withParams params).store = st.store.withParams params := rfl
  unfold submitDenialBatch
  simp only [horg, hmemory, hstore, getParams_withParams, hlimits.batch, processDenials_withParams]
  split
  · rfl
  split
  · rfl
  · rfl

theorem submitEventBatch_withParams (m : MsgSubmitEventBatch) :
    submitEventBatch crypto (st.withParams params) m =
      (submitEventBatch crypto st m).map fun r => (r.1.withParams params, r.2) := by
  have horg : (st.withParams params).org = st.org := rfl
  have hmemory : (st.withParams params).memory = st.memory := rfl
  have hstore : (st.withParams params).store = st.store.withParams params := rfl
  unfold submitEventBatch
  simp only [horg, hmemory, hstore, getParams_withParams, hlimits.batch,
    processEventBatch_withParams]
  split
  · rfl
  split
  · rfl
  · rfl

omit hlimits in
theorem anchorPolicyVersion_withParams (height : Int64) (m : MsgAnchorPolicyVersion) :
    anchorPolicyVersion authority (st.withParams params) height m =
      (anchorPolicyVersion authority st height m).map fun r => r.withParams params := by
  have hanchors : (st.withParams params).store.policyAnchor = st.store.policyAnchor := rfl
  unfold anchorPolicyVersion setPolicyAnchor
  simp only [hanchors]
  split
  · rfl
  split
  · rfl
  cases st.store.policyAnchor.get (policyAnchorKey m.policyVersion) with
  | none => rfl
  | some existing =>
    dsimp only
    by_cases hhash : existing.policyHash ≠ m.policyHash
    · rw [if_pos hhash, if_pos hhash]
      rfl
    · rw [if_neg hhash, if_neg hhash]
      rfl

theorem handle_withParams {msg : Msg} (hmsg : ∀ m, msg ≠ .updateParams m) :
    handle crypto scopeTagsOf authority (st.withParams params) msg =
      (handle crypto scopeTagsOf authority st msg).map fun r => (r.1.withParams params, r.2) := by
  unfold handle
  cases msg with
  | submitServeBatch m =>
    dsimp only
    rw [submitServeBatch_withParams hlimits]
    cases submitServeBatch crypto scopeTagsOf st m <;> rfl
  | submitDenialBatch m =>
    dsimp only
    rw [submitDenialBatch_withParams hlimits]
    cases submitDenialBatch crypto st m <;> rfl
  | submitEventBatch m =>
    dsimp only
    rw [submitEventBatch_withParams hlimits]
    cases submitEventBatch crypto st m <;> rfl
  | anchorPolicyVersion height m =>
    dsimp only
    rw [anchorPolicyVersion_withParams]
    cases anchorPolicyVersion authority st height m <;> rfl
  | updateParams m => exact absurd rfl (hmsg m)

end Messages

section Runs
variable {crypto : Crypto} {scopeTagsOf : Bytes → Option (OrderedMap Bytes Bytes)}
  {authority : Bytes}

/-- The states differ in the parameters only, and not in the numbers that are read. -/
def Alike (st st' : State) : Prop :=
  ∃ params, st' = st.withParams params ∧
    SameLimits (getParams st.store) (params.getD defaultParams)

theorem deliver_params {st : State} {msg : Msg} (hmsg : ∀ m, msg ≠ .updateParams m) :
    (deliver crypto scopeTagsOf authority st msg).1.store.params = st.store.params :=
  trace_params hmsg (deliver_changes crypto scopeTagsOf authority st msg).1

theorem Alike.deliver {st st' : State} (h : Alike st st') (msg : Msg) :
    Alike (deliver crypto scopeTagsOf authority st msg).1
        (deliver crypto scopeTagsOf authority st' msg).1 ∧
      (deliver crypto scopeTagsOf authority st' msg).2 =
        (deliver crypto scopeTagsOf authority st msg).2 := by
  obtain ⟨params, rfl, hlimits⟩ := h
  by_cases hmsg : ∃ m, msg = .updateParams m
  · obtain ⟨m, rfl⟩ := hmsg
    have hsame : handle crypto scopeTagsOf authority (st.withParams params) (.updateParams m) =
        handle crypto scopeTagsOf authority st (.updateParams m) := rfl
    unfold Serve.deliver
    rw [hsame]
    cases handle crypto scopeTagsOf authority st (.updateParams m) with
    | error e => exact ⟨⟨params, rfl, hlimits⟩, rfl⟩
    | ok r => exact ⟨⟨r.1.store.params, rfl, SameLimits.refl _⟩, rfl⟩
  · have hother : ∀ m, msg ≠ .updateParams m := fun m hm => hmsg ⟨m, hm⟩
    have hkept : (Serve.deliver crypto scopeTagsOf authority st msg).1.store.params =
        st.store.params := deliver_params hother
    unfold Serve.deliver at hkept ⊢
    rw [handle_withParams hlimits hother]
    cases hhandle : handle crypto scopeTagsOf authority st msg with
    | error e => exact ⟨⟨params, rfl, hlimits⟩, rfl⟩
    | ok r =>
      rw [hhandle] at hkept
      refine ⟨⟨params, rfl, ?_⟩, rfl⟩
      have hparams : getParams r.1.store = getParams st.store := by
        unfold getParams
        rw [← hkept]
      exact hparams ▸ hlimits

theorem Alike.next {st st' : State} (h : Alike st st') (input : Input) :
    Alike ((chain crypto scopeTagsOf authority).next st input)
        ((chain crypto scopeTagsOf authority).next st' input) ∧
      (chain crypto scopeTagsOf authority).output st' input =
        (chain crypto scopeTagsOf authority).output st input := by
  cases input with
  | msg msg =>
    obtain ⟨hnext, hanswer⟩ := h.deliver msg
    exact ⟨hnext, congrArg some hanswer⟩
  | otherModules org memory bandwidth reputation =>
    obtain ⟨params, rfl, hlimits⟩ := h
    exact ⟨⟨params, rfl, hlimits⟩, rfl⟩

theorem Alike.run {st st' : State} (h : Alike st st') (inputs : List Input) :
    Alike ((chain crypto scopeTagsOf authority).run st inputs)
        ((chain crypto scopeTagsOf authority).run st' inputs) ∧
      (chain crypto scopeTagsOf authority).history st' inputs =
        (chain crypto scopeTagsOf authority).history st inputs :=
  (chain crypto scopeTagsOf authority).history_eq_of_related (fun _ _ input h => h.next input) h
    inputs

end Runs

section Probe
variable (crypto : Crypto) (scopeTagsOf : Bytes → Option (OrderedMap Bytes Bytes))
  (authority : Bytes)

def probeOrgs : Orgs.Store where
  org := OrderedMap.set ∅ (Orgs.orgKey (ascii "o"))
    { orgId := ascii "o", leader := [], hubServingAddress := ascii "s" }

def probeEntry : DenialEntry where
  memoryHash := List.replicate 32 0
  serveKeyPubkey := List.replicate 32 0
  serveSig := List.replicate 64 0
  serveFingerprint := List.replicate 32 0

/-- A batch of `n + 1` entries of an org that has just been set up. -/
def probeBatch (n : Nat) : MsgSubmitDenialBatch where
  signer := ascii "s"
  orgId := ascii "o"
  epoch := 0
  entries := List.replicate (n + 1) probeEntry

def probe (n : Nat) : List Input :=
  [.otherModules probeOrgs {} {} {}, .msg (.submitDenialBatch (probeBatch n))]

theorem probeBatch_admitted (n : Nat) :
    admitBatch probeOrgs (probeBatch n).validateBasic (probeBatch n).orgId (probeBatch n).signer =
      .ok () := by
  have hentries : (probeBatch n).entries.forM DenialEntry.validate = .ok () := by
    rw [Except.forM_eq_ok_iff]
    intro entry hentry
    rw [List.eq_of_mem_replicate hentry]
    decide
  have hbasic : (probeBatch n).validateBasic = .ok () := hentries
  rw [hbasic]
  change admitBatch probeOrgs (.ok ()) (ascii "o") (ascii "s") = .ok ()
  decide +kernel

theorem submitDenialBatch_probe (st : State) (n : Nat) (horg : st.org = probeOrgs) :
    submitDenialBatch crypto st (probeBatch n) = .error .batchTooLarge ↔
      (getParams st.store).maxServesPerBatch.toNat < n + 1 := by
  unfold submitDenialBatch
  rw [horg, probeBatch_admitted]
  dsimp only
  have hlength : (probeBatch n).entries.length = n + 1 := List.length_replicate
  rw [hlength]
  constructor
  · intro h
    by_contra hle
    rw [if_neg hle] at h
    cases h
  · intro hlt
    rw [if_pos hlt]

/-- The probe is refused for its length if it is longer than batches may be. -/
theorem history_probe (st : State) (n : Nat) :
    (chain crypto scopeTagsOf authority).history st (probe n) =
        [none, some (.error .batchTooLarge)] ↔
      (getParams st.store).maxServesPerBatch.toNat < n + 1 := by
  have hiff := submitDenialBatch_probe crypto ⟨st.store, probeOrgs, {}, {}, {}⟩ n rfl
  rw [← hiff]
  change [none, some (deliver crypto scopeTagsOf authority ⟨st.store, probeOrgs, {}, {}, {}⟩
    (.submitDenialBatch (probeBatch n))).2] = _ ↔ _
  unfold deliver handle
  dsimp only
  cases submitDenialBatch crypto ⟨st.store, probeOrgs, {}, {}, {}⟩ (probeBatch n) with
  | error e => simp [Except.map]
  | ok r => simp [Except.map]

/-- Where all answers are the same, batches may have the same length. -/
theorem maxServesPerBatch_eq_of_history {st st' : State}
    (h : ∀ inputs, (chain crypto scopeTagsOf authority).history st' inputs =
      (chain crypto scopeTagsOf authority).history st inputs) :
    (getParams st'.store).maxServesPerBatch = (getParams st.store).maxServesPerBatch := by
  have hiff : ∀ n, (getParams st'.store).maxServesPerBatch.toNat < n + 1 ↔
      (getParams st.store).maxServesPerBatch.toNat < n + 1 := by
    intro n
    rw [← history_probe crypto scopeTagsOf authority st' n, h,
      history_probe crypto scopeTagsOf authority st n]
  apply UInt32.toNat_inj.mp
  have hle := (hiff (getParams st.store).maxServesPerBatch.toNat).mpr (Nat.lt_succ_self _)
  have hge := (hiff (getParams st'.store).maxServesPerBatch.toNat).mp (Nat.lt_succ_self _)
  omega

end Probe

end WeVibeChain.Serve
