import Mathlib.Logic.Relation
import WeVibeChain.ServeMsgServer
import WeVibeChain.Shared.Machine

/-!
# x/serve: what a message can change

Whatever a message does to the store of this module is a sequence of single
changes: a serve is accepted, a denial is accepted, or records outside the
receipts and tallies are written. Each change is given with everything the
handler has checked when it makes it, so that an invariant has to be looked at
once for each kind of change.

In a run the other modules may change their own stores in any way between the
messages.
-/

set_option autoImplicit false

namespace WeVibeChain.Serve

open Bytes

section Changes
variable (crypto : Crypto) (scopeTagsOf : Bytes → Option (OrderedMap Bytes Bytes))

/-- What the loop has checked when it accepts an entry of a serve batch. -/
structure Acceptable (memory : Memory.Store) (params : Params) (orgID : Bytes) (epoch : UInt64)
    (s : Store) (serve : ServeEntry) : Prop where
  keyLength : serve.serveKeyPubkey.length = 32
  sigLength : serve.serveSig.length = 64
  signed : signatureValid crypto orgID epoch serve = true
  fresh : hasServeFingerprint s (serveReceipt crypto orgID epoch serve).fingerprint = false
  approved : ∃ mem, Memory.getApprovedMemory memory orgID serve.memoryContentHash = .ok mem
  valid : Memory.isValidInEpoch scopeTagsOf memory orgID (hexEncode serve.memoryContentHash)
    epoch = .ok true
  below : getMemoryServeCount s orgID serve.memoryContentHash epoch <
    params.maxServesPerMemoryPerEpoch.toUInt64

/-- What the loop has checked when it accepts an entry of a denial batch. -/
structure Deniable (memory : Memory.Store) (orgID : Bytes) (epoch : UInt64) (s : Store)
    (entry : DenialEntry) (receipt : StoredServeReceipt) : Prop where
  keyLength : entry.serveKeyPubkey.length = 32
  sigLength : entry.serveSig.length = 64
  signed : denialSignatureValid crypto orgID epoch entry = true
  fresh : hasDenialFingerprint s (computeDenialFingerprint crypto.sha256 orgID entry.memoryHash
    epoch entry.serveKeyPubkey entry.serveFingerprint) = false
  found : getServeReceiptByFingerprint s entry.serveFingerprint = some receipt
  sameHash : entry.memoryHash = receipt.memoryContentHash
  sameKey : entry.serveKeyPubkey = receipt.serveKeyPubkey
  approved : ∃ mem, Memory.getApprovedMemory memory orgID entry.memoryHash = .ok mem

/-- The two stores have the same receipts, denials and tallies. -/
structure SameRecords (s s' : Store) : Prop where
  fingerprint : s'.fingerprint = s.fingerprint
  denyFingerprint : s'.denyFingerprint = s.denyFingerprint
  receipt : s'.receipt = s.receipt
  denial : s'.denial = s.denial
  stats : s'.stats = s.stats
  contributor : s'.contributor = s.contributor
  memCount : s'.memCount = s.memCount
  denialCount : s'.denialCount = s.denialCount
  memFirst : s'.memFirst = s.memFirst
  keyFirst : s'.keyFirst = s.keyFirst

theorem SameRecords.trans {s s' s'' : Store} (h : SameRecords s s') (h' : SameRecords s' s'') :
    SameRecords s s'' :=
  ⟨h'.fingerprint.trans h.fingerprint, h'.denyFingerprint.trans h.denyFingerprint,
    h'.receipt.trans h.receipt, h'.denial.trans h.denial, h'.stats.trans h.stats,
    h'.contributor.trans h.contributor, h'.memCount.trans h.memCount,
    h'.denialCount.trans h.denialCount, h'.memFirst.trans h.memFirst, h'.keyFirst.trans h.keyFirst⟩

/-- One change of the store under a message. -/
inductive Change (memory : Memory.Store) (msg : Msg) : Store → Store → Prop where
  | accept (s : Store) (m : MsgSubmitServeBatch) (serve : ServeEntry)
      (hmsg : msg = .submitServeBatch m) (hserve : serve ∈ m.serves)
      (h : Acceptable crypto scopeTagsOf memory (getParams s) m.orgId m.epoch s serve) :
      Change memory msg s (acceptedStore s (serveReceipt crypto m.orgId m.epoch serve))
  | deny (s : Store) (m : MsgSubmitDenialBatch) (entry : DenialEntry) (receipt : StoredServeReceipt)
      (hmsg : msg = .submitDenialBatch m) (hentry : entry ∈ m.entries)
      (h : Deniable crypto memory m.orgId m.epoch s entry receipt) :
      Change memory msg s (deniedStore s m.orgId m.epoch
        (computeDenialFingerprint crypto.sha256 m.orgId entry.memoryHash m.epoch
          entry.serveKeyPubkey entry.serveFingerprint) receipt entry)
  | other (s s' : Store) (hrecords : SameRecords s s')
      (hparams : s'.params = s.params ∨
        ∃ m, msg = .updateParams m ∧ s'.params = some m.params) :
      Change memory msg s s'

end Changes

section Frames

@[simp] theorem modifyEpochStats_params (s : Store) (orgID : Bytes) (epoch : UInt64)
    (fn : EpochServeStats → EpochServeStats) :
    (modifyEpochStats s orgID epoch fn).params = s.params := rfl

@[simp] theorem countUniqueMemory_params (s : Store) (orgID : Bytes) (epoch : UInt64)
    (contentHash : Bytes) : (countUniqueMemory s orgID epoch contentHash).params = s.params := by
  unfold countUniqueMemory
  split <;> rfl

@[simp] theorem countUniqueServeKey_params (s : Store) (orgID : Bytes) (epoch : UInt64)
    (serveKey : Bytes) : (countUniqueServeKey s orgID epoch serveKey).params = s.params := by
  unfold countUniqueServeKey
  split <;> rfl

@[simp] theorem acceptedStore_params (s : Store) (r : ServeReceipt) :
    (acceptedStore s r).params = s.params := by
  simp [acceptedStore, updateContributorServes, updateEpochStats, incrementMemoryServeCount,
    recordReceipt]

theorem getParams_acceptedStore (s : Store) (r : ServeReceipt) :
    getParams (acceptedStore s r) = getParams s := by
  simp [getParams]

end Frames

section ServeBatch
variable {crypto : Crypto} {scopeTagsOf : Bytes → Option (OrderedMap Bytes Bytes)}
  {params : Params} {orgID : Bytes} {epoch : UInt64} {st st' : State} {serve : ServeEntry}

/-- An entry is accepted after every check, or leaves the state alone. -/
theorem processServe_cases {outcome : ServeOutcome}
    (h : processServe crypto scopeTagsOf params orgID epoch st serve = .ok (st', outcome)) :
    (st' = st ∧ outcome ≠ .accepted) ∨
      (outcome = .accepted ∧ st' = acceptedState st (serveReceipt crypto orgID epoch serve) ∧
        Acceptable crypto scopeTagsOf st.memory params orgID epoch st.store serve) := by
  have hkept : ∀ o, o ≠ .accepted → (.ok (st, o) : Except Error _) = .ok (st', outcome) →
      st' = st ∧ outcome ≠ .accepted := by
    intro o ho heq
    obtain ⟨rfl, rfl⟩ := Prod.mk.inj (Except.ok.inj heq)
    exact ⟨rfl, ho⟩
  unfold processServe at h
  dsimp only at h
  split at h
  · exact Or.inl (hkept _ (by decide) h)
  rename_i hlengths
  split at h
  · exact Or.inl (hkept _ (by decide) h)
  rename_i hsigned
  split at h
  · exact Or.inl (hkept _ (by decide) h)
  rename_i hfresh
  split at h
  · exact Or.inl (hkept _ (by decide) h)
  rename_i mem hmem
  split at h
  · cases h
  · exact Or.inl (hkept _ (by decide) h)
  rename_i hvalid
  split at h
  · exact Or.inl (hkept _ (by decide) h)
  rename_i hbelow
  obtain ⟨rfl, rfl⟩ := Prod.mk.inj (Except.ok.inj h)
  rw [not_or, not_not, not_not] at hlengths
  exact Or.inr ⟨rfl, rfl, hlengths.1, hlengths.2, Bool.not_eq_false _ ▸ hsigned,
    Bool.eq_false_iff.mpr hfresh, ⟨mem, hmem⟩, hvalid, UInt64.not_le.mp hbelow⟩

theorem processServes_cons_ok {serve : ServeEntry} {serves : List ServeEntry}
    {result result' : BatchResult}
    (h : processServes crypto scopeTagsOf params orgID epoch st result (serve :: serves) =
      .ok (st', result')) :
    ∃ st₁ outcome,
      processServe crypto scopeTagsOf params orgID epoch st serve = .ok (st₁, outcome) ∧
      processServes crypto scopeTagsOf params orgID epoch st₁ (result.tally outcome) serves =
        .ok (st', result') := by
  unfold processServes at h
  split at h
  · cases h
  · rename_i st₁ outcome hserve
    exact ⟨st₁, outcome, hserve, h⟩

/-- What every turn of the loop keeps is kept by the loop. -/
theorem processServes_invariant {serves : List ServeEntry} {I : State → BatchResult → Prop}
    (hstep : ∀ st result, ∀ serve ∈ serves, ∀ st' outcome, I st result →
      processServe crypto scopeTagsOf params orgID epoch st serve = .ok (st', outcome) →
      I st' (result.tally outcome))
    {result result' : BatchResult} (hst : I st result)
    (h : processServes crypto scopeTagsOf params orgID epoch st result serves =
      .ok (st', result')) : I st' result' := by
  induction serves generalizing st result with
  | nil =>
    obtain ⟨rfl, rfl⟩ := Prod.mk.inj (Except.ok.inj h)
    exact hst
  | cons serve serves ih =>
    obtain ⟨st₁, outcome, hserve, hrest⟩ := processServes_cons_ok h
    refine ih ?_ (hstep st result serve List.mem_cons_self st₁ outcome hst hserve) hrest
    intro st₂ result₂ serve₂ hmem
    exact hstep st₂ result₂ serve₂ (List.mem_cons_of_mem serve hmem)

end ServeBatch

section DenialBatch
variable {crypto : Crypto} {memory : Memory.Store} {orgID : Bytes} {epoch : UInt64}

theorem processDenial_cases (crypto : Crypto) (memory : Memory.Store) (orgID : Bytes)
    (epoch : UInt64) (s : Store) (entry : DenialEntry) :
    ((processDenial crypto memory orgID epoch s entry).1 = s ∧
      (processDenial crypto memory orgID epoch s entry).2 ≠ .accepted) ∨
    ∃ receipt, Deniable crypto memory orgID epoch s entry receipt ∧
      processDenial crypto memory orgID epoch s entry =
        (deniedStore s orgID epoch (computeDenialFingerprint crypto.sha256 orgID entry.memoryHash
          epoch entry.serveKeyPubkey entry.serveFingerprint) receipt entry, .accepted) := by
  unfold processDenial
  dsimp only
  split
  · exact Or.inl ⟨rfl, nofun⟩
  rename_i hlengths
  split
  · exact Or.inl ⟨rfl, nofun⟩
  rename_i hsigned
  split
  · exact Or.inl ⟨rfl, nofun⟩
  rename_i hfresh
  split
  · exact Or.inl ⟨rfl, nofun⟩
  rename_i receipt hfound
  split
  · exact Or.inl ⟨rfl, nofun⟩
  rename_i hhash
  split
  · exact Or.inl ⟨rfl, nofun⟩
  rename_i hkey
  split
  · exact Or.inl ⟨rfl, nofun⟩
  rename_i mem hmem
  rw [not_or, not_not, not_not] at hlengths
  exact Or.inr ⟨receipt, ⟨hlengths.1, hlengths.2, Bool.not_eq_false _ ▸ hsigned,
    Bool.eq_false_iff.mpr hfresh, hfound, not_not.mp hhash, not_not.mp hkey, mem, hmem⟩, rfl⟩

theorem processDenials_invariant {entries : List DenialEntry} {I : Store → Prop}
    (hstep : ∀ s, ∀ entry ∈ entries, I s → I (processDenial crypto memory orgID epoch s entry).1)
    {s : Store} (hs : I s) (result : DenialResult) :
    I (processDenials crypto memory orgID epoch s result entries).1 := by
  induction entries generalizing s result with
  | nil => exact hs
  | cons entry entries ih =>
    apply ih
    · intro t e he
      exact hstep t e (List.mem_cons_of_mem entry he)
    · exact hstep s entry List.mem_cons_self hs

end DenialBatch

section OtherMessages

theorem sameRecords_frame (s : Store) (event : OrderedMap Bytes StoredEvent)
    (eventFingerprint : OrderedMap Bytes Unit) (anchor : OrderedMap Bytes StoredPolicyAnchor)
    (latest : Option Bytes) (params : Option Params) :
    SameRecords s { s with
      event := event, eventFingerprint := eventFingerprint, policyAnchor := anchor,
      policyAnchorLatest := latest, params := params } :=
  ⟨rfl, rfl, rfl, rfl, rfl, rfl, rfl, rfl, rfl, rfl⟩

/-- An event batch writes events only. -/
theorem processEventBatch_frame (crypto : Crypto) (memory : Memory.Store) (orgID : Bytes)
    (epoch : UInt64) (s : Store) (result : BatchResult) (entries : List EventEntry) :
    ∃ event eventFingerprint,
      (processEventBatch crypto memory orgID epoch s result entries).1 =
        { s with event := event, eventFingerprint := eventFingerprint } := by
  induction entries generalizing s result with
  | nil => exact ⟨s.event, s.eventFingerprint, rfl⟩
  | cons entry entries ih =>
    have hentry : ∃ event eventFingerprint, (processEvent crypto memory orgID epoch s entry).1 =
        { s with event := event, eventFingerprint := eventFingerprint } := by
      unfold processEvent
      split
      · exact ⟨_, _, rfl⟩
      dsimp only
      split
      · exact ⟨_, _, rfl⟩
      split
      · exact ⟨_, _, rfl⟩
      split
      · exact ⟨_, _, rfl⟩
      · exact ⟨_, _, rfl⟩
    obtain ⟨event₁, fp₁, h₁⟩ := hentry
    obtain ⟨event₂, fp₂, h₂⟩ := ih (processEvent crypto memory orgID epoch s entry).1
      (result.tally (processEvent crypto memory orgID epoch s entry).2)
    refine ⟨event₂, fp₂, ?_⟩
    unfold processEventBatch
    rw [h₂, h₁]

theorem setPolicyAnchor_ok {s s' : Store} {height : Int64} {version hash : Bytes}
    (h : setPolicyAnchor s height version hash = .ok s') :
    ∃ anchor latest, s' = { s with policyAnchor := anchor, policyAnchorLatest := latest } := by
  unfold setPolicyAnchor at h
  split at h
  · split at h
    · cases h
    · exact ⟨_, _, (Except.ok.inj h).symm⟩
  · exact ⟨_, _, (Except.ok.inj h).symm⟩

end OtherMessages

section Messages
variable {crypto : Crypto} {scopeTagsOf : Bytes → Option (OrderedMap Bytes Bytes)}
  {authority : Bytes} {st st' : State}

theorem admitBatch_ok {org : Orgs.Store} {validated : Except Error Unit} {orgID signer : Bytes}
    (h : admitBatch org validated orgID signer = .ok ()) :
    validated = .ok () ∧ Orgs.hasOrg org orgID = true ∧
      requireServingKeySigner org orgID signer = .ok () := by
  unfold admitBatch at h
  split at h
  · cases h
  split at h
  · cases h
  · rename_i horg
    exact ⟨rfl, Bool.not_eq_false _ ▸ horg, h⟩

theorem processServeBatch_ok {orgID : Bytes} {epoch : UInt64} {serves : List ServeEntry}
    {result : BatchResult}
    (h : processServeBatch crypto scopeTagsOf st orgID epoch serves = .ok (st', result)) :
    serves.length ≤ (getParams st.store).maxServesPerBatch.toNat ∧
      ∃ bandwidth, Bandwidth.consumeServeBandwidth st.bandwidth orgID epoch
          (UInt64.ofNat serves.length) = .ok bandwidth ∧
        processServes crypto scopeTagsOf (getParams st.store) orgID epoch
          { st with bandwidth := bandwidth } {} serves = .ok (st', result) := by
  unfold processServeBatch at h
  dsimp only at h
  split at h
  · cases h
  rename_i hlength
  split at h
  · cases h
  rename_i bandwidth hbandwidth
  exact ⟨Nat.not_lt.mp hlength, bandwidth, hbandwidth, h⟩

theorem submitServeBatch_ok {m : MsgSubmitServeBatch} {result : BatchResult}
    (h : submitServeBatch crypto scopeTagsOf st m = .ok (st', result)) :
    m.validateBasic = .ok () ∧ m.serves.length ≤ (getParams st.store).maxServesPerBatch.toNat ∧
      ∃ bandwidth, Bandwidth.consumeServeBandwidth st.bandwidth m.orgId m.epoch
          (UInt64.ofNat m.serves.length) = .ok bandwidth ∧
        processServes crypto scopeTagsOf (getParams st.store) m.orgId m.epoch
          { st with bandwidth := bandwidth } {} m.serves = .ok (st', result) := by
  unfold submitServeBatch at h
  split at h
  · cases h
  rename_i hadmit
  exact ⟨(admitBatch_ok hadmit).1, processServeBatch_ok h⟩

theorem submitServeBatch_changes {m : MsgSubmitServeBatch} {result : BatchResult}
    (h : submitServeBatch crypto scopeTagsOf st m = .ok (st', result)) :
    Relation.ReflTransGen (Change crypto scopeTagsOf st.memory (.submitServeBatch m))
        st.store st'.store ∧
      st'.memory = st.memory ∧ st'.org = st.org ∧ getParams st'.store = getParams st.store := by
  obtain ⟨-, -, bandwidth, -, hserves⟩ := submitServeBatch_ok h
  refine processServes_invariant
    (I := fun t _ => Relation.ReflTransGen
        (Change crypto scopeTagsOf st.memory (.submitServeBatch m)) st.store t.store ∧
      t.memory = st.memory ∧ t.org = st.org ∧ getParams t.store = getParams st.store)
    ?_ ?_ hserves
  rotate_left
  · exact ⟨.refl, rfl, rfl, rfl⟩
  intro t r serve hserve t' outcome ht hstep
  obtain ⟨htrace, hmemory, horg, hparams⟩ := ht
  rcases processServe_cases hstep with ⟨rfl, -⟩ | ⟨-, rfl, hok⟩
  · exact ⟨htrace, hmemory, horg, hparams⟩
  · rw [hmemory, ← hparams] at hok
    exact ⟨htrace.tail (.accept t.store m serve rfl hserve hok), hmemory, horg,
      (getParams_acceptedStore _ _).trans hparams⟩

/-- Only the charge at the start of the batch touches the quotas. -/
theorem submitServeBatch_bandwidth {m : MsgSubmitServeBatch} {result : BatchResult}
    (h : submitServeBatch crypto scopeTagsOf st m = .ok (st', result)) :
    Bandwidth.consumeServeBandwidth st.bandwidth m.orgId m.epoch
      (UInt64.ofNat m.serves.length) = .ok st'.bandwidth := by
  obtain ⟨-, -, bandwidth, hconsume, hserves⟩ := submitServeBatch_ok h
  rw [hconsume]
  congr 1
  refine processServes_invariant (I := fun t _ => bandwidth = t.bandwidth) ?_ ?_ hserves
  · intro t r serve _ t' outcome ht hstep
    rcases processServe_cases hstep with ⟨rfl, -⟩ | ⟨-, rfl, -⟩
    · exact ht
    · exact ht
  · rfl

theorem submitDenialBatch_ok {m : MsgSubmitDenialBatch} {result : DenialResult}
    (h : submitDenialBatch crypto st m = .ok (st', result)) :
    m.validateBasic = .ok () ∧
      st' = { st with
        store := (processDenials crypto st.memory m.orgId m.epoch st.store {} m.entries).1 } := by
  unfold submitDenialBatch at h
  split at h
  · cases h
  rename_i hadmit
  split at h
  · cases h
  obtain ⟨rfl, rfl⟩ := Prod.mk.inj (Except.ok.inj h)
  exact ⟨(admitBatch_ok hadmit).1, rfl⟩

variable (scopeTagsOf) in
theorem submitDenialBatch_changes {m : MsgSubmitDenialBatch} {result : DenialResult}
    (h : submitDenialBatch crypto st m = .ok (st', result)) :
    Relation.ReflTransGen (Change crypto scopeTagsOf st.memory (.submitDenialBatch m))
      st.store st'.store := by
  obtain ⟨-, rfl⟩ := submitDenialBatch_ok h
  refine processDenials_invariant
    (I := fun t => Relation.ReflTransGen
      (Change crypto scopeTagsOf st.memory (.submitDenialBatch m)) st.store t) ?_ .refl {}
  intro t entry hentry ht
  rcases processDenial_cases crypto st.memory m.orgId m.epoch t entry with
    ⟨hsame, -⟩ | ⟨receipt, hok, heq⟩
  · rwa [hsame]
  · rw [heq]
    exact ht.tail (.deny t m entry receipt rfl hentry hok)

theorem submitEventBatch_ok {m : MsgSubmitEventBatch} {result : BatchResult}
    (h : submitEventBatch crypto st m = .ok (st', result)) :
    m.validateBasic = .ok () ∧ Orgs.hasOrg st.org m.orgId = true ∧
      st' = { st with
        store := (processEventBatch crypto st.memory m.orgId m.epoch st.store {} m.events).1 } := by
  unfold submitEventBatch at h
  split at h
  · cases h
  rename_i hadmit
  split at h
  · cases h
  obtain ⟨rfl, -⟩ := Prod.mk.inj (Except.ok.inj h)
  exact ⟨(admitBatch_ok hadmit).1, (admitBatch_ok hadmit).2.1, rfl⟩

theorem submitEventBatch_frame {m : MsgSubmitEventBatch} {result : BatchResult}
    (h : submitEventBatch crypto st m = .ok (st', result)) :
    ∃ event eventFingerprint, st' = { st with
      store := { st.store with event := event, eventFingerprint := eventFingerprint } } := by
  obtain ⟨-, -, rfl⟩ := submitEventBatch_ok h
  obtain ⟨event, eventFingerprint, hframe⟩ :=
    processEventBatch_frame crypto st.memory m.orgId m.epoch st.store {} m.events
  exact ⟨event, eventFingerprint, by rw [hframe]⟩

theorem anchorPolicyVersion_ok {m : MsgAnchorPolicyVersion} {height : Int64}
    (h : anchorPolicyVersion authority st height m = .ok st') :
    m.validateBasic = .ok () ∧
      ∃ store, setPolicyAnchor st.store height m.policyVersion m.policyHash = .ok store ∧
        st' = { st with store := store } := by
  unfold anchorPolicyVersion at h
  split at h
  · cases h
  rename_i hbasic
  split at h
  · cases h
  split at h
  · cases h
  rename_i store hstore
  exact ⟨hbasic, store, hstore, (Except.ok.inj h).symm⟩

theorem anchorPolicyVersion_frame {m : MsgAnchorPolicyVersion} {height : Int64}
    (h : anchorPolicyVersion authority st height m = .ok st') :
    ∃ anchor latest, st' = { st with
      store := { st.store with policyAnchor := anchor, policyAnchorLatest := latest } } := by
  obtain ⟨-, store, hstore, rfl⟩ := anchorPolicyVersion_ok h
  obtain ⟨anchor, latest, rfl⟩ := setPolicyAnchor_ok hstore
  exact ⟨anchor, latest, rfl⟩

theorem updateParams_ok {m : MsgUpdateParams} (h : updateParams authority st m = .ok st') :
    st' = { st with store := { st.store with params := some m.params } } := by
  unfold updateParams at h
  split at h
  · cases h
  split at h
  · cases h
  exact (Except.ok.inj h).symm

/-- What accepted serves and denials and new parameters leave alone is changed by event batches
and policy anchors only. -/
theorem handle_frame {γ : Type} {f : Store → γ} (hserve : ∀ s r, f (acceptedStore s r) = f s)
    (hdeny : ∀ s orgID epoch fp receipt entry,
      f (deniedStore s orgID epoch fp receipt entry) = f s)
    (hparams : ∀ s params, f (setParams s params) = f s) {msg : Msg} {response : Response}
    (h : handle crypto scopeTagsOf authority st msg = .ok (st', response))
    (hevent : ∀ m, msg ≠ .submitEventBatch m)
    (hanchor : ∀ height m, msg ≠ .anchorPolicyVersion height m) :
    f st'.store = f st.store := by
  cases msg with
  | submitServeBatch m =>
    obtain ⟨result, hok⟩ := Except.eq_ok_of_map_snd h
    obtain ⟨-, -, bandwidth, -, hserves⟩ := submitServeBatch_ok hok
    refine processServes_invariant (I := fun t _ => f t.store = f st.store) ?_ ?_ hserves
    · intro t result serve _ t' outcome ht hstep
      rcases processServe_cases hstep with ⟨rfl, -⟩ | ⟨-, rfl, -⟩
      · exact ht
      · exact (hserve _ _).trans ht
    · rfl
  | submitDenialBatch m =>
    obtain ⟨result, hok⟩ := Except.eq_ok_of_map_snd h
    obtain ⟨-, rfl⟩ := submitDenialBatch_ok hok
    refine processDenials_invariant (I := fun t => f t = f st.store) ?_ rfl {}
    intro t entry _ ht
    rcases processDenial_cases crypto st.memory m.orgId m.epoch t entry with
      ⟨hsame, -⟩ | ⟨receipt, -, heq⟩
    · rwa [hsame]
    · rw [heq]
      exact (hdeny _ _ _ _ _ _).trans ht
  | submitEventBatch m => exact absurd rfl (hevent m)
  | anchorPolicyVersion height m => exact absurd rfl (hanchor height m)
  | updateParams m =>
    have hok := Except.eq_ok_of_map h
    obtain rfl := updateParams_ok hok
    exact hparams _ _

/-- The states a message can lead to, with what is known of each. -/
inductive Delivered (crypto : Crypto) (scopeTagsOf : Bytes → Option (OrderedMap Bytes Bytes))
    (st : State) : Msg → State → Prop where
  | failed (msg : Msg) : Delivered crypto scopeTagsOf st msg st
  | serveBatch {m : MsgSubmitServeBatch} {st' : State} {result : BatchResult}
      (h : submitServeBatch crypto scopeTagsOf st m = .ok (st', result)) :
      Delivered crypto scopeTagsOf st (.submitServeBatch m) st'
  | denialBatch {m : MsgSubmitDenialBatch} {st' : State} {result : DenialResult}
      (h : submitDenialBatch crypto st m = .ok (st', result)) :
      Delivered crypto scopeTagsOf st (.submitDenialBatch m) st'
  | eventBatch (m : MsgSubmitEventBatch) (event : OrderedMap Bytes StoredEvent)
      (eventFingerprint : OrderedMap Bytes Unit) :
      Delivered crypto scopeTagsOf st (.submitEventBatch m) { st with
        store := { st.store with event := event, eventFingerprint := eventFingerprint } }
  | policyVersion (height : Int64) (m : MsgAnchorPolicyVersion)
      (anchor : OrderedMap Bytes StoredPolicyAnchor) (latest : Option Bytes) :
      Delivered crypto scopeTagsOf st (.anchorPolicyVersion height m) { st with
        store := { st.store with policyAnchor := anchor, policyAnchorLatest := latest } }
  | params (m : MsgUpdateParams) :
      Delivered crypto scopeTagsOf st (.updateParams m) { st with
        store := { st.store with params := some m.params } }

theorem deliver_delivered (crypto : Crypto)
    (scopeTagsOf : Bytes → Option (OrderedMap Bytes Bytes)) (authority : Bytes) (st : State)
    (msg : Msg) :
    Delivered crypto scopeTagsOf st msg (deliver crypto scopeTagsOf authority st msg).1 := by
  unfold deliver
  split
  · exact .failed msg
  rename_i st' response hhandle
  cases msg with
  | submitServeBatch m =>
    obtain ⟨result, hok⟩ := Except.eq_ok_of_map_snd hhandle
    exact .serveBatch hok
  | submitDenialBatch m =>
    obtain ⟨result, hok⟩ := Except.eq_ok_of_map_snd hhandle
    exact .denialBatch hok
  | submitEventBatch m =>
    obtain ⟨result, hok⟩ := Except.eq_ok_of_map_snd hhandle
    obtain ⟨event, eventFingerprint, rfl⟩ := submitEventBatch_frame hok
    exact .eventBatch m event eventFingerprint
  | anchorPolicyVersion height m =>
    have hok := Except.eq_ok_of_map hhandle
    obtain ⟨anchor, latest, rfl⟩ := anchorPolicyVersion_frame hok
    exact .policyVersion height m anchor latest
  | updateParams m =>
    have hok := Except.eq_ok_of_map hhandle
    obtain rfl := updateParams_ok hok
    exact .params m

/-- Whatever a message does to the store is a sequence of changes; the org and memory stores are
only read. -/
theorem deliver_changes (crypto : Crypto) (scopeTagsOf : Bytes → Option (OrderedMap Bytes Bytes))
    (authority : Bytes) (st : State) (msg : Msg) :
    Relation.ReflTransGen (Change crypto scopeTagsOf st.memory msg) st.store
        (deliver crypto scopeTagsOf authority st msg).1.store ∧
      (deliver crypto scopeTagsOf authority st msg).1.memory = st.memory ∧
      (deliver crypto scopeTagsOf authority st msg).1.org = st.org := by
  have hdelivered := deliver_delivered crypto scopeTagsOf authority st msg
  generalize (deliver crypto scopeTagsOf authority st msg).1 = st' at hdelivered ⊢
  cases hdelivered with
  | failed => exact ⟨.refl, rfl, rfl⟩
  | serveBatch hok =>
    obtain ⟨htrace, hmemory, horg, -⟩ := submitServeBatch_changes hok
    exact ⟨htrace, hmemory, horg⟩
  | denialBatch hok =>
    have htrace := submitDenialBatch_changes scopeTagsOf hok
    obtain ⟨-, rfl⟩ := submitDenialBatch_ok hok
    exact ⟨htrace, rfl, rfl⟩
  | eventBatch =>
    exact ⟨.single (.other _ _ (sameRecords_frame _ _ _ _ _ _) (Or.inl rfl)), rfl, rfl⟩
  | policyVersion =>
    exact ⟨.single (.other _ _ (sameRecords_frame _ _ _ _ _ _) (Or.inl rfl)), rfl, rfl⟩
  | params m =>
    exact ⟨.single (.other _ _ (sameRecords_frame _ _ _ _ _ _) (Or.inr ⟨m, rfl, rfl⟩)), rfl, rfl⟩

theorem deliver_bandwidth (crypto : Crypto) (scopeTagsOf : Bytes → Option (OrderedMap Bytes Bytes))
    (authority : Bytes) (st : State) (msg : Msg) :
    (deliver crypto scopeTagsOf authority st msg).1.bandwidth = st.bandwidth ∨
      ∃ m, msg = .submitServeBatch m ∧
        Bandwidth.consumeServeBandwidth st.bandwidth m.orgId m.epoch
            (UInt64.ofNat m.serves.length) =
          .ok (deliver crypto scopeTagsOf authority st msg).1.bandwidth := by
  have hdelivered := deliver_delivered crypto scopeTagsOf authority st msg
  generalize (deliver crypto scopeTagsOf authority st msg).1 = st' at hdelivered ⊢
  cases hdelivered with
  | failed => exact Or.inl rfl
  | serveBatch hok => exact Or.inr ⟨_, rfl, submitServeBatch_bandwidth hok⟩
  | denialBatch hok =>
    obtain ⟨-, rfl⟩ := submitDenialBatch_ok hok
    exact Or.inl rfl
  | eventBatch => exact Or.inl rfl
  | policyVersion => exact Or.inl rfl
  | params => exact Or.inl rfl

end Messages

section Runs
variable (crypto : Crypto) (scopeTagsOf : Bytes → Option (OrderedMap Bytes Bytes))
  (authority : Bytes)

inductive Input where
  | msg (msg : Msg)
  | otherModules (org : Orgs.Store) (memory : Memory.Store) (bandwidth : Bandwidth.Store)
      (reputation : Reputation.Store)
  deriving DecidableEq

def step (st : State) : Input → State × Option (Except Error Response)
  | .msg msg => ((deliver crypto scopeTagsOf authority st msg).1,
      some (deliver crypto scopeTagsOf authority st msg).2)
  | .otherModules org memory bandwidth reputation =>
    (⟨st.store, org, memory, bandwidth, reputation⟩, none)

def chain : Machine State Input (Option (Except Error Response)) :=
  ⟨step crypto scopeTagsOf authority⟩

/-- A state in which the module has stored nothing. -/
def emptyState (org : Orgs.Store) (memory : Memory.Store) (bandwidth : Bandwidth.Store)
    (reputation : Reputation.Store) : State := ⟨{}, org, memory, bandwidth, reputation⟩

variable {crypto scopeTagsOf authority}

/-- What every change under a message keeps is kept by the message. -/
theorem deliver_invariant {I : Store → Prop} {st : State} {msg : Msg}
    (hchange : ∀ s s', Relation.ReflTransGen (Change crypto scopeTagsOf st.memory msg) st.store s →
      I s → Change crypto scopeTagsOf st.memory msg s s' → I s')
    (hs : I st.store) : I (deliver crypto scopeTagsOf authority st msg).1.store := by
  have htrace := (deliver_changes crypto scopeTagsOf authority st msg).1
  generalize (deliver crypto scopeTagsOf authority st msg).1.store = final at htrace ⊢
  induction htrace with
  | refl => exact hs
  | tail hbefore hlast ih => exact hchange _ _ hbefore ih hlast

theorem deliver_of_refused {st : State} {msg : Msg}
    (h : ¬ (deliver crypto scopeTagsOf authority st msg).2.isOk = true) :
    (deliver crypto scopeTagsOf authority st msg).1 = st := by
  unfold deliver at h ⊢
  cases hhandle : handle crypto scopeTagsOf authority st msg with
  | error e => rfl
  | ok r =>
    rw [hhandle] at h
    exact absurd rfl h

/-- An invariant of the store along a run: each accepted message keeps it under the condition `P` of
the run, change by change. -/
theorem run_store_invariant {P : State → Input → Prop} {I : Store → Prop}
    (hchange : ∀ st msg s s', P st (.msg msg) →
      (deliver crypto scopeTagsOf authority st msg).2.isOk = true →
      Relation.ReflTransGen (Change crypto scopeTagsOf st.memory msg) st.store s →
      I s → Change crypto scopeTagsOf st.memory msg s s' → I s')
    {st : State} {inputs : List Input} (hst : I st.store)
    (hP : (chain crypto scopeTagsOf authority).Along P st inputs) :
    I ((chain crypto scopeTagsOf authority).run st inputs).store := by
  refine (chain crypto scopeTagsOf authority).run_invariant (I := fun st => I st.store) ?_ hst hP
  intro t input ht hinput
  cases input with
  | msg msg =>
    change I (deliver crypto scopeTagsOf authority t msg).1.store
    by_cases haccepted : (deliver crypto scopeTagsOf authority t msg).2.isOk = true
    · exact deliver_invariant (fun s s' => hchange t msg s s' hinput haccepted) ht
    · rwa [deliver_of_refused haccepted]
  | otherModules org memory bandwidth reputation => exact ht

end Runs

end WeVibeChain.Serve
