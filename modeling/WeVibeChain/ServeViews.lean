import WeVibeChain.ServeRecords

/-!
# x/serve: what an org can see of the state

Receipts, statistics, memory counts and quotas are kept apart by org. The
fingerprints are not: a serve is a duplicate when any org has reported the same
memory, key and epoch. Two states look the same to an org when its own records
agree and the fingerprints its messages look up do. The org's messages are then
answered alike and keep this agreement; what another org writes elsewhere does
not disturb it.
-/

set_option autoImplicit false

namespace WeVibeChain.Serve

open Bytes

section Stores

/-- The two stores show the org the same: its own records, the fingerprints in `looked` with the
receipts stored under them, and the denial fingerprints in `denied`. -/
structure StoresAgree (orgID : Bytes) (looked denied : Set Bytes) (s s' : Store) : Prop where
  pointers : Pointers s
  pointers' : Pointers s'
  params : s'.params = s.params
  fingerprint : ∀ fp ∈ looked, s'.fingerprint.get (serveFingerprintKey fp) =
    s.fingerprint.get (serveFingerprintKey fp)
  denyFingerprint : ∀ fp ∈ denied, hasDenialFingerprint s' fp = hasDenialFingerprint s fp
  receipt : ∀ o epoch fp, o = orgID ∨ fp ∈ looked →
    s'.receipt.get (receiptKey o epoch fp) = s.receipt.get (receiptKey o epoch fp)
  memCount : ∀ hash epoch, getMemoryServeCount s' orgID hash epoch =
    getMemoryServeCount s orgID hash epoch
  memFirst : ∀ hash epoch, s'.memFirst.has (memFirstKey orgID hash epoch) =
    s.memFirst.has (memFirstKey orgID hash epoch)
  keyFirst : ∀ key epoch, s'.keyFirst.has (keyFirstKey orgID (hexEncode key) epoch) =
    s.keyFirst.has (keyFirstKey orgID (hexEncode key) epoch)
  stats : ∀ epoch, getEpochServeStats s' orgID epoch = getEpochServeStats s orgID epoch

variable {orgID : Bytes} {looked denied : Set Bytes} {s s' : Store}

theorem StoresAgree.refl (h : Pointers s) : StoresAgree orgID looked denied s s :=
  ⟨h, h, rfl, fun _ _ => rfl, fun _ _ => rfl, fun _ _ _ _ => rfl, fun _ _ => rfl, fun _ _ => rfl,
    fun _ _ => rfl, fun _ => rfl⟩

theorem StoresAgree.symm (h : StoresAgree orgID looked denied s s') :
    StoresAgree orgID looked denied s' s where
  pointers := h.pointers'
  pointers' := h.pointers
  params := h.params.symm
  fingerprint := fun fp hfp => (h.fingerprint fp hfp).symm
  denyFingerprint := fun fp hfp => (h.denyFingerprint fp hfp).symm
  receipt := fun o epoch fp hfp => (h.receipt o epoch fp hfp).symm
  memCount := fun hash epoch => (h.memCount hash epoch).symm
  memFirst := fun hash epoch => (h.memFirst hash epoch).symm
  keyFirst := fun key epoch => (h.keyFirst key epoch).symm
  stats := fun epoch => (h.stats epoch).symm

theorem StoresAgree.statsOf_eq (h : StoresAgree orgID looked denied s s') (epoch : UInt64) :
    statsOf s' orgID epoch = statsOf s orgID epoch := by
  unfold statsOf
  rw [h.stats epoch]

theorem StoresAgree.hasServeFingerprint_eq (h : StoresAgree orgID looked denied s s') {fp : Bytes}
    (hfp : fp ∈ looked) : hasServeFingerprint s' fp = hasServeFingerprint s fp := by
  unfold hasServeFingerprint OrderedMap.has
  rw [h.fingerprint fp hfp]

/-- The entry of a fingerprint leads to a receipt stored under that fingerprint. -/
theorem StoresAgree.getServeReceiptByFingerprint_eq (h : StoresAgree orgID looked denied s s')
    {fp : Bytes} (hfp : fp ∈ looked) :
    getServeReceiptByFingerprint s' fp = getServeReceiptByFingerprint s fp := by
  unfold getServeReceiptByFingerprint
  rw [h.fingerprint fp hfp]
  cases hpointer : s.fingerprint.get (serveFingerprintKey fp) with
  | none => rfl
  | some k =>
    obtain ⟨r, hr, hsame⟩ := h.pointers.fingerprint _ k hpointer
    obtain ⟨hkey, -⟩ := h.pointers.receipt k r hr
    rw [serveFingerprintKey_inj] at hsame
    subst hsame
    simp only [hkey, h.receipt r.orgId r.epoch r.fingerprint (Or.inr hfp)]

end Stores

section StatsWrites
variable (s : Store)

theorem getEpochServeStats_modify (orgID : Bytes) (epoch : UInt64)
    (fn : EpochServeStats → EpochServeStats) (o : Bytes) (e : UInt64) :
    getEpochServeStats (modifyEpochStats s orgID epoch fn) o e =
      if o = orgID ∧ e = epoch then some (fn (statsOf s orgID epoch))
      else getEpochServeStats s o e := by
  unfold getEpochServeStats modifyEpochStats
  simp only [OrderedMap.get_set, statsKey_inj]
  split <;> rfl

theorem getEpochServeStats_countUniqueMemory {orgID : Bytes} {epoch : UInt64} {o : Bytes}
    {e : UInt64} (hoe : ¬ (o = orgID ∧ e = epoch)) (contentHash : Bytes) :
    getEpochServeStats (countUniqueMemory s orgID epoch contentHash) o e =
      getEpochServeStats s o e := by
  unfold countUniqueMemory
  split
  · rfl
  · exact (getEpochServeStats_modify _ _ _ _ _ _).trans (if_neg hoe)

theorem getEpochServeStats_countUniqueServeKey {orgID : Bytes} {epoch : UInt64} {o : Bytes}
    {e : UInt64} (hoe : ¬ (o = orgID ∧ e = epoch)) (serveKey : Bytes) :
    getEpochServeStats (countUniqueServeKey s orgID epoch serveKey) o e =
      getEpochServeStats s o e := by
  unfold countUniqueServeKey
  split
  · rfl
  · exact (getEpochServeStats_modify _ _ _ _ _ _).trans (if_neg hoe)

/-- An accepted serve leaves statistics for its org and epoch, and no others are touched. -/
theorem getEpochServeStats_acceptedStore (r : ServeReceipt) (o : Bytes) (e : UInt64) :
    getEpochServeStats (acceptedStore s r) o e =
      if o = r.orgID ∧ e = r.epoch then some (statsOf (acceptedStore s r) o e)
      else getEpochServeStats s o e := by
  have hmodify := getEpochServeStats_modify
    (countUniqueServeKey (countUniqueMemory
      (incrementMemoryServeCount (recordReceipt s r) r.orgID r.epoch r.contentHash)
      r.orgID r.epoch r.contentHash) r.orgID r.epoch r.serveKey)
    r.orgID r.epoch (countServe r.isSelfServe r.modelID) o e
  change getEpochServeStats (acceptedStore s r) o e = _ at hmodify
  split
  · rename_i hoe
    rw [if_pos hoe] at hmodify
    unfold statsOf
    rw [hmodify]
    rfl
  · rename_i hoe
    rw [hmodify, if_neg hoe, getEpochServeStats_countUniqueServeKey _ hoe,
      getEpochServeStats_countUniqueMemory _ hoe]
    rfl

theorem getEpochServeStats_deniedStore (orgID : Bytes) (epoch : UInt64) (fp : Bytes)
    (receipt : StoredServeReceipt) (entry : DenialEntry) (o : Bytes) (e : UInt64) :
    getEpochServeStats (deniedStore s orgID epoch fp receipt entry) o e =
      if o = orgID ∧ e = epoch then
        some { statsOf s orgID epoch with totalDenials := (statsOf s orgID epoch).totalDenials + 1 }
      else getEpochServeStats s o e :=
  getEpochServeStats_modify
    (incrementDenialCount
      { s with denyFingerprint := s.denyFingerprint.set (denialFingerprintKey fp) () }
      orgID epoch receipt.memoryContentHash)
    orgID epoch (fun stats => { stats with totalDenials := stats.totalDenials + 1 }) o e

end StatsWrites

section StoreSteps
variable {orgID : Bytes} {looked denied : Set Bytes} {s s' : Store}

/-- A serve the org has accepted in both stores. -/
theorem StoresAgree.accept (h : StoresAgree orgID looked denied s s') {r : ServeReceipt}
    (horg : r.orgID = orgID) (hkey : r.serveKey = hexEncode r.serveKeyPubkey)
    (hlooked : r.fingerprint ∈ looked)
    (hfresh : hasServeFingerprint s r.fingerprint = false) :
    StoresAgree orgID looked denied (acceptedStore s r) (acceptedStore s' r) := by
  obtain ⟨stats, hframe⟩ := acceptedStore_frame s r
  obtain ⟨stats', hframe'⟩ := acceptedStore_frame s' r
  have hfresh' := (h.hasServeFingerprint_eq hlooked).trans hfresh
  refine ⟨h.pointers.accept hfresh, h.pointers'.accept hfresh', ?_, ?_, ?_, ?_, ?_, ?_, ?_, ?_⟩
  · rw [acceptedStore_params, acceptedStore_params, h.params]
  · intro fp hfp
    rw [hframe, hframe']
    exact OrderedMap.get_set_congr (h.fingerprint fp hfp) _ _
  · rw [hframe, hframe']
    exact h.denyFingerprint
  · intro o epoch fp hfp
    rw [hframe, hframe']
    exact OrderedMap.get_set_congr (h.receipt o epoch fp hfp) _ _
  · intro hash epoch
    rw [getMemoryServeCount_acceptedStore, getMemoryServeCount_acceptedStore, h.memCount]
  · intro hash epoch
    simp only [hframe, hframe', OrderedMap.has_set, h.memFirst]
  · intro key epoch
    simp only [hframe, hframe', OrderedMap.has_set, h.keyFirst]
  · intro epoch
    subst horg
    simp only [getEpochServeStats_acceptedStore, statsOf_acceptedStore, hkey, h.memFirst, h.keyFirst,
      h.statsOf_eq, h.stats]

/-- A serve another org has accepted in one of the stores. -/
theorem StoresAgree.accept_other (h : StoresAgree orgID looked denied s s') {r : ServeReceipt}
    (horg : r.orgID ≠ orgID) (hkey : r.serveKey = hexEncode r.serveKeyPubkey)
    (hlooked : r.fingerprint ∉ looked)
    (hfresh : hasServeFingerprint s r.fingerprint = false) :
    StoresAgree orgID looked denied (acceptedStore s r) s' := by
  obtain ⟨stats, hframe⟩ := acceptedStore_frame s r
  refine ⟨h.pointers.accept hfresh, h.pointers', ?_, ?_, ?_, ?_, ?_, ?_, ?_, ?_⟩
  · rw [acceptedStore_params, h.params]
  · intro fp hfp
    have hne : fp ≠ r.fingerprint := fun hsame => hlooked (hsame ▸ hfp)
    simp only [hframe, OrderedMap.get_set, serveFingerprintKey_inj, if_neg hne, h.fingerprint fp hfp]
  · rw [hframe]
    exact h.denyFingerprint
  · intro o epoch fp hfp
    have hne : ¬ (o = r.orgID ∧ epoch = r.epoch ∧ fp = r.fingerprint) := by
      intro hall
      obtain ⟨rfl, -, rfl⟩ := hall
      exact hfp.elim horg hlooked
    simp only [hframe, OrderedMap.get_set, receiptKey_inj, if_neg hne, h.receipt o epoch fp hfp]
  · intro hash epoch
    rw [getMemoryServeCount_acceptedStore, if_neg (fun hsame => horg hsame.1.symm), h.memCount]
  · intro hash epoch
    simp only [hframe, OrderedMap.has_set, memFirstKey_inj, horg.symm, false_and, decide_false,
      Bool.false_or, h.memFirst]
  · intro key epoch
    simp only [hframe, hkey, OrderedMap.has_set, keyFirstKey_inj, horg.symm, false_and, decide_false,
      Bool.false_or, h.keyFirst]
  · intro epoch
    rw [getEpochServeStats_acceptedStore, if_neg (fun hsame => horg hsame.1.symm), h.stats]

/-- A denial the org has accepted in both stores. -/
theorem StoresAgree.deny (h : StoresAgree orgID looked denied s s') (epoch : UInt64) (fp : Bytes)
    (receipt : StoredServeReceipt) (entry : DenialEntry) :
    StoresAgree orgID looked denied (deniedStore s orgID epoch fp receipt entry)
      (deniedStore s' orgID epoch fp receipt entry) := by
  refine ⟨h.pointers.deny _ _ _ _ _, h.pointers'.deny _ _ _ _ _, h.params, h.fingerprint, ?_,
    h.receipt, h.memCount, h.memFirst, h.keyFirst, ?_⟩
  · intro fp' hfp'
    obtain ⟨stats, hframe⟩ := deniedStore_frame s orgID epoch fp receipt entry
    obtain ⟨stats', hframe'⟩ := deniedStore_frame s' orgID epoch fp receipt entry
    have hsame := h.denyFingerprint fp' hfp'
    simp only [hasDenialFingerprint, hframe, hframe', OrderedMap.has_set] at hsame ⊢
    rw [hsame]
  · intro e
    simp only [getEpochServeStats_deniedStore, h.statsOf_eq, h.stats]

/-- A denial another org has accepted in one of the stores. -/
theorem StoresAgree.deny_other (h : StoresAgree orgID looked denied s s') {other : Bytes}
    (hother : other ≠ orgID) (epoch : UInt64) {fp : Bytes} (hfp : fp ∉ denied)
    (receipt : StoredServeReceipt) (entry : DenialEntry) :
    StoresAgree orgID looked denied (deniedStore s other epoch fp receipt entry) s' := by
  refine ⟨h.pointers.deny _ _ _ _ _, h.pointers', h.params, h.fingerprint, ?_, h.receipt,
    h.memCount, h.memFirst, h.keyFirst, ?_⟩
  · intro fp' hfp'
    have hne : fp' ≠ fp := fun hsame => hfp (hsame ▸ hfp')
    obtain ⟨stats, hframe⟩ := deniedStore_frame s other epoch fp receipt entry
    have hsame := h.denyFingerprint fp' hfp'
    simp only [hasDenialFingerprint, hframe, OrderedMap.has_set, denialFingerprintKey_inj, hne,
      decide_false, Bool.false_or] at hsame ⊢
    exact hsame
  · intro e
    rw [getEpochServeStats_deniedStore, if_neg (fun hsame => hother hsame.1.symm), h.stats]

theorem StoresAgree.congr (h : StoresAgree orgID looked denied s s') {t : Store}
    (hsame : SameRecords s t) (hparams : t.params = s.params) :
    StoresAgree orgID looked denied t s' := by
  refine ⟨h.pointers.congr hsame, h.pointers', h.params.trans hparams.symm, ?_, ?_, ?_, ?_, ?_, ?_,
    ?_⟩
  · rw [hsame.fingerprint]
    exact h.fingerprint
  · unfold hasDenialFingerprint
    rw [hsame.denyFingerprint]
    exact h.denyFingerprint
  · rw [hsame.receipt]
    exact h.receipt
  · unfold getMemoryServeCount
    rw [hsame.memCount]
    exact h.memCount
  · rw [hsame.memFirst]
    exact h.memFirst
  · rw [hsame.keyFirst]
    exact h.keyFirst
  · unfold getEpochServeStats
    rw [hsame.stats]
    exact h.stats

end StoreSteps

section States
variable {crypto : Crypto} {scopeTagsOf : Bytes → Option (OrderedMap Bytes Bytes)}
  {orgID : Bytes} {looked denied : Set Bytes} {st st' : State}

/-- The two memory stores answer the questions this module asks about the org alike. -/
structure MemoryAgrees (scopeTagsOf : Bytes → Option (OrderedMap Bytes Bytes)) (orgID : Bytes)
    (memory memory' : Memory.Store) : Prop where
  approved : ∀ hash, Memory.getApprovedMemory memory' orgID hash =
    Memory.getApprovedMemory memory orgID hash
  valid : ∀ cid epoch, Memory.isValidInEpoch scopeTagsOf memory' orgID cid epoch =
    Memory.isValidInEpoch scopeTagsOf memory orgID cid epoch

/-- Everything the org's messages read is the same in the two states. -/
structure Agree (scopeTagsOf : Bytes → Option (OrderedMap Bytes Bytes)) (orgID : Bytes)
    (looked denied : Set Bytes) (st st' : State) : Prop where
  store : StoresAgree orgID looked denied st.store st'.store
  org : st'.org = st.org
  memory : MemoryAgrees scopeTagsOf orgID st.memory st'.memory
  bandwidth : Bandwidth.SameFor orgID st.bandwidth st'.bandwidth

theorem Agree.refl (h : Pointers st.store) : Agree scopeTagsOf orgID looked denied st st :=
  ⟨.refl h, rfl, ⟨fun _ => rfl, fun _ _ => rfl⟩, .refl orgID st.bandwidth⟩

theorem Agree.symm (h : Agree scopeTagsOf orgID looked denied st st') :
    Agree scopeTagsOf orgID looked denied st' st :=
  ⟨h.store.symm, h.org.symm,
    ⟨fun hash => (h.memory.approved hash).symm, fun cid epoch => (h.memory.valid cid epoch).symm⟩,
    h.bandwidth.symm⟩

/-- Two answers that fail alike, or succeed with the same response and related states. -/
inductive SameAnswer {ρ : Type} (R : State → State → Prop) :
    Except Error (State × ρ) → Except Error (State × ρ) → Prop where
  | error (e : Error) : SameAnswer R (.error e) (.error e)
  | ok {st st' : State} (r : ρ) : R st st' → SameAnswer R (.ok (st, r)) (.ok (st', r))

theorem SameAnswer.map {ρ τ : Type} {R : State → State → Prop}
    {x x' : Except Error (State × ρ)} (h : SameAnswer R x x') (f : ρ → τ) :
    SameAnswer R (x.map fun r => (r.1, f r.2)) (x'.map fun r => (r.1, f r.2)) := by
  cases h with
  | error e => exact .error e
  | ok r hst => exact .ok (f r) hst

theorem getParams_agree (h : Agree scopeTagsOf orgID looked denied st st') :
    getParams st'.store = getParams st.store := by
  unfold getParams
  rw [h.store.params]

theorem processServe_agree (h : Agree scopeTagsOf orgID looked denied st st') (params : Params)
    (epoch : UInt64) (serve : ServeEntry)
    (hlooked : (serveReceipt crypto orgID epoch serve).fingerprint ∈ looked) :
    SameAnswer (Agree scopeTagsOf orgID looked denied)
      (processServe crypto scopeTagsOf params orgID epoch st serve)
      (processServe crypto scopeTagsOf params orgID epoch st' serve) := by
  unfold processServe
  dsimp only
  rw [h.store.hasServeFingerprint_eq hlooked, h.memory.approved, h.memory.valid, h.store.memCount]
  by_cases hlengths : serve.serveKeyPubkey.length ≠ 32 ∨ serve.serveSig.length ≠ 64
  · rw [if_pos hlengths, if_pos hlengths]
    exact .ok _ h
  rw [if_neg hlengths, if_neg hlengths]
  by_cases hsigned : signatureValid crypto orgID epoch serve = false
  · rw [if_pos hsigned, if_pos hsigned]
    exact .ok _ h
  rw [if_neg hsigned, if_neg hsigned]
  by_cases hseen :
      hasServeFingerprint st.store (serveReceipt crypto orgID epoch serve).fingerprint = true
  · rw [if_pos hseen, if_pos hseen]
    exact .ok _ h
  rw [if_neg hseen, if_neg hseen]
  cases Memory.getApprovedMemory st.memory orgID serve.memoryContentHash with
  | error e => exact .ok _ h
  | ok mem =>
    cases Memory.isValidInEpoch scopeTagsOf st.memory orgID (hexEncode serve.memoryContentHash)
      epoch with
    | error e => exact .error _
    | ok valid =>
      cases valid with
      | false => exact .ok _ h
      | true =>
        dsimp only
        split
        · exact .ok _ h
        · exact .ok _ ⟨h.store.accept rfl rfl hlooked (Bool.eq_false_iff.mpr hseen), h.org, h.memory,
            h.bandwidth⟩

theorem processServes_agree (h : Agree scopeTagsOf orgID looked denied st st') (params : Params)
    (epoch : UInt64) (result : BatchResult) (serves : List ServeEntry)
    (hlooked : ∀ serve ∈ serves, (serveReceipt crypto orgID epoch serve).fingerprint ∈ looked) :
    SameAnswer (Agree scopeTagsOf orgID looked denied)
      (processServes crypto scopeTagsOf params orgID epoch st result serves)
      (processServes crypto scopeTagsOf params orgID epoch st' result serves) := by
  induction serves generalizing st st' result with
  | nil => exact .ok result h
  | cons serve serves ih =>
    rw [List.forall_mem_cons] at hlooked
    unfold processServes
    have hserve := processServe_agree h params epoch serve hlooked.1
    generalize processServe crypto scopeTagsOf params orgID epoch st serve = x at hserve ⊢
    generalize processServe crypto scopeTagsOf params orgID epoch st' serve = x' at hserve ⊢
    cases hserve with
    | error e => exact .error e
    | ok outcome hst => exact ih hst (result.tally outcome) hlooked.2

theorem submitServeBatch_agree (h : Agree scopeTagsOf orgID looked denied st st')
    {m : MsgSubmitServeBatch} (horg : m.orgId = orgID)
    (hlooked : ∀ serve ∈ m.serves,
      (serveReceipt crypto m.orgId m.epoch serve).fingerprint ∈ looked) :
    SameAnswer (Agree scopeTagsOf orgID looked denied)
      (submitServeBatch crypto scopeTagsOf st m) (submitServeBatch crypto scopeTagsOf st' m) := by
  subst horg
  unfold submitServeBatch processServeBatch
  rw [h.org, getParams_agree h]
  cases admitBatch st.org m.validateBasic m.orgId m.signer with
  | error e => exact .error e
  | ok _ =>
    dsimp only
    by_cases hlength : m.serves.length > (getParams st.store).maxServesPerBatch.toNat
    · rw [if_pos hlength, if_pos hlength]
      exact .error _
    rw [if_neg hlength, if_neg hlength]
    cases hconsume : Bandwidth.consumeServeBandwidth st.bandwidth m.orgId m.epoch
        (UInt64.ofNat m.serves.length) with
    | error e =>
      have hexceeded := Bandwidth.consumeServeBandwidth_eq_error_iff.mp hconsume
      rw [← h.bandwidth.quota_eq] at hexceeded
      rw [Bandwidth.consumeServeBandwidth_eq_error_iff.mpr hexceeded]
      exact .error _
    | ok bandwidth =>
      obtain ⟨bandwidth', hconsume', hsame⟩ := h.bandwidth.consume hconsume
      rw [hconsume']
      apply processServes_agree _ _ _ _ _ hlooked
      exact ⟨h.store, rfl, h.memory, hsame⟩

/-- One turn of the loop over a denial batch of the org comes to the same in both stores. -/
theorem processDenial_agree {s s' : Store} {memory memory' : Memory.Store}
    (h : StoresAgree orgID looked denied s s') (hmemory : MemoryAgrees scopeTagsOf orgID memory memory')
    (epoch : UInt64) (entry : DenialEntry) (hlooked : entry.serveFingerprint ∈ looked)
    (hdenied : computeDenialFingerprint crypto.sha256 orgID entry.memoryHash epoch
      entry.serveKeyPubkey entry.serveFingerprint ∈ denied) :
    StoresAgree orgID looked denied (processDenial crypto memory orgID epoch s entry).1
        (processDenial crypto memory' orgID epoch s' entry).1 ∧
      (processDenial crypto memory' orgID epoch s' entry).2 =
        (processDenial crypto memory orgID epoch s entry).2 := by
  unfold processDenial
  dsimp only
  rw [h.denyFingerprint _ hdenied, h.getServeReceiptByFingerprint_eq hlooked, hmemory.approved]
  split
  · exact ⟨h, rfl⟩
  split
  · exact ⟨h, rfl⟩
  split
  · exact ⟨h, rfl⟩
  cases getServeReceiptByFingerprint s entry.serveFingerprint with
  | none => exact ⟨h, rfl⟩
  | some receipt =>
    dsimp only
    split
    · exact ⟨h, rfl⟩
    split
    · exact ⟨h, rfl⟩
    cases Memory.getApprovedMemory memory orgID entry.memoryHash with
    | error e => exact ⟨h, rfl⟩
    | ok mem => exact ⟨h.deny _ _ _ _, rfl⟩

theorem processDenials_agree {s s' : Store} {memory memory' : Memory.Store}
    (h : StoresAgree orgID looked denied s s') (hmemory : MemoryAgrees scopeTagsOf orgID memory memory')
    (epoch : UInt64) (result : DenialResult) (entries : List DenialEntry)
    (hentries : ∀ entry ∈ entries, entry.serveFingerprint ∈ looked ∧
      computeDenialFingerprint crypto.sha256 orgID entry.memoryHash epoch entry.serveKeyPubkey
        entry.serveFingerprint ∈ denied) :
    StoresAgree orgID looked denied (processDenials crypto memory orgID epoch s result entries).1
        (processDenials crypto memory' orgID epoch s' result entries).1 ∧
      (processDenials crypto memory' orgID epoch s' result entries).2 =
        (processDenials crypto memory orgID epoch s result entries).2 := by
  induction entries generalizing s s' result with
  | nil => exact ⟨h, rfl⟩
  | cons entry entries ih =>
    rw [List.forall_mem_cons] at hentries
    obtain ⟨hstore, houtcome⟩ :=
      processDenial_agree h hmemory epoch entry hentries.1.1 hentries.1.2
    unfold processDenials
    dsimp only
    rw [houtcome]
    exact ih hstore _ hentries.2

theorem submitDenialBatch_agree (h : Agree scopeTagsOf orgID looked denied st st')
    {m : MsgSubmitDenialBatch} (horg : m.orgId = orgID)
    (hentries : ∀ entry ∈ m.entries, entry.serveFingerprint ∈ looked ∧
      computeDenialFingerprint crypto.sha256 m.orgId entry.memoryHash m.epoch entry.serveKeyPubkey
        entry.serveFingerprint ∈ denied) :
    SameAnswer (Agree scopeTagsOf orgID looked denied)
      (submitDenialBatch crypto st m) (submitDenialBatch crypto st' m) := by
  subst horg
  obtain ⟨hstore, hresult⟩ :=
    processDenials_agree h.store h.memory m.epoch {} m.entries hentries
  unfold submitDenialBatch
  rw [h.org, getParams_agree h]
  cases admitBatch st.org m.validateBasic m.orgId m.signer with
  | error e => exact .error e
  | ok _ =>
    dsimp only
    split
    · exact .error _
    · rw [hresult]
      exact .ok _ ⟨hstore, rfl, h.memory, h.bandwidth⟩

theorem updateParams_agree (h : Agree scopeTagsOf orgID looked denied st st') (authority : Bytes)
    (m : MsgUpdateParams) :
    SameAnswer (Agree scopeTagsOf orgID looked denied)
      ((updateParams authority st m).map fun t => (t, Response.empty))
      ((updateParams authority st' m).map fun t => (t, Response.empty)) := by
  unfold updateParams
  cases m.validateBasic with
  | error e => exact .error e
  | ok _ =>
    dsimp only
    split
    · exact .error _
    · have hstore : StoresAgree orgID looked denied (setParams st.store m.params)
          (setParams st'.store m.params) :=
        { h.store with
          pointers := h.store.pointers.congr (sameRecords_frame _ _ _ _ _ _)
          pointers' := h.store.pointers'.congr (sameRecords_frame _ _ _ _ _ _)
          params := rfl }
      exact .ok _ ⟨hstore, h.org, h.memory, h.bandwidth⟩

end States

end WeVibeChain.Serve
