import WeVibeChain.ServeAttribution
import WeVibeChain.ServeGenesis

/-!
# x/serve: the receipts of an org and an epoch

The receipts of an org and an epoch are read with an iterator that begins at
their prefix and has no end. Behind the prefix lie the receipts of the orgs and
epochs whose text sorts later, and then the statistics, which are skipped unless
they decode as a receipt.

What is stored as receipts is what was accepted, each once. The list is therefore
exact where no later receipt was accepted and no statistics decode.
-/

set_option autoImplicit false

namespace WeVibeChain.Serve

open Bytes OrderedMap Wire
open Memory (genesisInitMarkerKey parse_genesisInitMarkerValue)

section Reading

def receiptPrefix (orgID : Bytes) (epoch : UInt64) : Bytes :=
  ascii "receipt/" ++ (orgID ++ slash :: (formatUint epoch ++ [slash]))

/-- What an iterator without an end meets in a store that has the genesis marker or not. -/
def iterateFrom (marked : Bool) (s : Store) (lo : Bytes) : List (Bytes × Entry) :=
  s.iteratorFrom lo ++
    if marked ∧ lo ≤ genesisInitMarkerKey then [(genesisInitMarkerKey, .mark)] else []

def getServeReceipts (marked : Bool) (s : Store) (orgID : Bytes) (epoch : UInt64) :
    List ServeReceipt :=
  ((iterateFrom marked s (receiptPrefix orgID epoch)).filterMap fun e => decodeReceipt e.2).map
    storedToServeReceipt

theorem decodeReceipt_mark : decodeReceipt .mark = none := by
  change (parse Memory.genesisInitMarkerValue).bind (readInto readReceiptField zeroReceipt) = none
  rw [parse_genesisInitMarkerValue]
  rfl

/-- Whether statistics are read as a receipt. -/
def ReadAsReceipt (es : StoredEpochServeStats) : Prop :=
  es.epoch = 0 ∧ es.uniqueMemoriesServed = 0 ∧ es.modelBreakdown.entries = [] ∧ es.totalDenials = 0

theorem decodeReceipt_stats (es : StoredEpochServeStats) :
    decodeReceipt (.stats es) =
      if es.epoch = 0 ∧ es.uniqueMemoriesServed = 0 ∧ es.modelBreakdown.entries = [] ∧
          es.totalDenials = 0 then
        some { zeroReceipt with orgId := es.orgId, epoch := es.uniqueServeKeys }
      else none := by
  simp only [ite_and]
  change readInto readReceiptField zeroReceipt (statsFields es) = _
  unfold statsFields
  refine readInto_bytesField ?_
  refine readInto_varintField_refused ?_
  refine readInto_varintField ?_
  refine readInto_varintField_refused ?_
  refine readInto_varintField ?_
  refine readInto_varintField ?_
  refine Eq.trans (readInto_repeatedField_refused rfl) ?_
  refine if_congr List.map_eq_nil_iff ?_ rfl
  exact readInto_varintField_refused rfl

theorem decodeReceipt_stats_eq_none_iff (es : StoredEpochServeStats) :
    decodeReceipt (.stats es) = none ↔ ¬ ReadAsReceipt es := by
  rw [decodeReceipt_stats]
  unfold ReadAsReceipt
  split
  · rename_i hread
    exact iff_of_false (fun h => by cases h) (not_not_intro hread)
  · rename_i hread
    exact iff_of_true rfl hread

end Reading

section Keys
variable {crypto : Crypto} {scopeTagsOf : Bytes → Option (OrderedMap Bytes Bytes)}
  {authority : Bytes} {s s' : Store} {orgID : Bytes} {epoch : UInt64}

/-- The key lies behind all receipts. -/
def BehindReceipts (k : Bytes) : Prop := ∀ rest, ascii "receipt/" ++ rest ≤ k

theorem stats_modifyEpochStats (h : s.stats.Forall fun k _ => BehindReceipts k) (orgID : Bytes)
    (epoch : UInt64) (fn : EpochServeStats → EpochServeStats) :
    (modifyEpochStats s orgID epoch fn).stats.Forall fun k _ => BehindReceipts k :=
  Forall.set h fun _ => cons_le_cons_of_lt (by decide) _ _

theorem stats_countUniqueMemory (h : s.stats.Forall fun k _ => BehindReceipts k)
    (contentHash : Bytes) :
    (countUniqueMemory s orgID epoch contentHash).stats.Forall fun k _ => BehindReceipts k := by
  unfold countUniqueMemory
  split
  · exact h
  · apply stats_modifyEpochStats
    exact h

theorem stats_countUniqueServeKey (h : s.stats.Forall fun k _ => BehindReceipts k)
    (serveKey : Bytes) :
    (countUniqueServeKey s orgID epoch serveKey).stats.Forall fun k _ => BehindReceipts k := by
  unfold countUniqueServeKey
  split
  · exact h
  · apply stats_modifyEpochStats
    exact h

theorem stats_acceptedStore (h : s.stats.Forall fun k _ => BehindReceipts k) (r : ServeReceipt) :
    (acceptedStore s r).stats.Forall fun k _ => BehindReceipts k := by
  unfold acceptedStore updateContributorServes updateEpochStats
  apply stats_modifyEpochStats
  apply stats_countUniqueServeKey
  apply stats_countUniqueMemory
  exact h

/-- The families of serves and denials lie before the receipts and the statistics behind. -/
structure Shelved (s : Store) : Prop where
  contributor : s.contributor.Forall fun k _ => k < ascii "receipt/"
  denial : s.denial.Forall fun k _ => k < ascii "receipt/"
  denialCount : s.denialCount.Forall fun k _ => k < ascii "receipt/"
  denyFingerprint : s.denyFingerprint.Forall fun k _ => k < ascii "receipt/"
  fingerprint : s.fingerprint.Forall fun k _ => k < ascii "receipt/"
  keyFirst : s.keyFirst.Forall fun k _ => k < ascii "receipt/"
  memCount : s.memCount.Forall fun k _ => k < ascii "receipt/"
  memFirst : s.memFirst.Forall fun k _ => k < ascii "receipt/"
  stats : s.stats.Forall fun k _ => BehindReceipts k

theorem shelved_empty : Shelved {} :=
  ⟨forall_empty, forall_empty, forall_empty, forall_empty, forall_empty, forall_empty, forall_empty,
    forall_empty, forall_empty⟩

theorem Shelved.change {memory : Memory.Store} {msg : Msg} (h : Shelved s)
    (hchange : Change crypto scopeTagsOf memory msg s s') : Shelved s' := by
  cases hchange with
  | accept m serve hmsg hserve hok =>
    have hstats := stats_acceptedStore h.stats (serveReceipt crypto m.orgId m.epoch serve)
    obtain ⟨stats, hframe⟩ := acceptedStore_frame s (serveReceipt crypto m.orgId m.epoch serve)
    rw [hframe] at hstats ⊢
    exact { h with
      fingerprint := h.fingerprint.set (cons_lt_cons_of_lt (by decide) _ _)
      memCount := h.memCount.set (cons_lt_cons_of_lt (by decide) _ _)
      memFirst := h.memFirst.set (cons_lt_cons_of_lt (by decide) _ _)
      keyFirst := h.keyFirst.set (cons_lt_cons_of_lt (by decide) _ _)
      contributor := h.contributor.set (cons_lt_cons_of_lt (by decide) _ _)
      stats := hstats }
  | deny m entry receipt hmsg hentry hok =>
    exact { h with
      denyFingerprint := h.denyFingerprint.set (cons_lt_cons_of_lt (by decide) _ _)
      denialCount := h.denialCount.set (cons_lt_cons_of_lt (by decide) _ _)
      denial := h.denial.set (cons_lt_cons_of_lt (by decide) _ _)
      stats := h.stats.set fun _ => cons_le_cons_of_lt (by decide) _ _ }
  | other _ hsame hparams =>
    refine ⟨?_, ?_, ?_, ?_, ?_, ?_, ?_, ?_, ?_⟩
    · exact hsame.contributor ▸ h.contributor
    · exact hsame.denial ▸ h.denial
    · exact hsame.denialCount ▸ h.denialCount
    · exact hsame.denyFingerprint ▸ h.denyFingerprint
    · exact hsame.fingerprint ▸ h.fingerprint
    · exact hsame.keyFirst ▸ h.keyFirst
    · exact hsame.memCount ▸ h.memCount
    · exact hsame.memFirst ▸ h.memFirst
    · exact hsame.stats ▸ h.stats

theorem shelved_run {st : State} (hst : st.store = {}) (inputs : List Input) :
    Shelved ((chain crypto scopeTagsOf authority).run st inputs).store := by
  refine run_store_invariant ?_ (by rw [hst]; exact shelved_empty)
    ((chain crypto scopeTagsOf authority).along_true st _)
  intro t msg s s' _ _ _ hs hchange
  exact hs.change hchange

/-- A scan from a receipt key meets receipts and all the statistics. -/
theorem iteratorFrom_receipt (hs : Shelved s) (hf : Filed s) (rest : Bytes) :
    s.iteratorFrom (ascii "receipt/" ++ rest) =
      ((s.receipt.entries.map fun e => (e.1, Entry.receipt e.2)).filter
          fun e => ascii "receipt/" ++ rest ≤ e.1) ++
        s.stats.entries.map fun e => (e.1, Entry.stats e.2) := by
  have hbefore : ∀ {V : Type} {family : OrderedMap Bytes V},
      (family.Forall fun k _ => k < ascii "receipt/") →
        family.Forall fun k _ => k < ascii "receipt/" ++ rest :=
    fun h k v hget => lt_of_lt_of_le (h k v hget) (le_append _ _)
  obtain ⟨hevent, hmark, hanchor⟩ :=
    hf.lt_cons (by decide : (112 : UInt8) < 114) (ascii "eceipt/")
  have hparams : ascii "params" < ascii "receipt/" ++ rest := cons_lt_cons_of_lt (by decide) _ _
  have hlatest : ascii "policy_anchor_latest" < ascii "receipt/" ++ rest :=
    cons_lt_cons_of_lt (by decide) _ _
  have hstats : s.stats.Forall fun k _ => ascii "receipt/" ++ rest ≤ k :=
    fun k es hget => hs.stats k es hget rest
  rw [Store.iteratorFrom, Store.entries, List.filter_flatten]
  simp only [List.map_cons, List.map_nil]
  rw [scan_eq_nil (hbefore hs.contributor), scan_eq_nil (hbefore hs.denial),
    scan_eq_nil (hbefore hs.denialCount),
    scan_eq_nil (g := fun _ => Entry.mark) (hbefore hs.denyFingerprint), scan_eq_nil (hbefore hevent),
    scan_eq_nil (g := fun _ => Entry.mark) (hbefore hmark), scan_eq_nil (hbefore hs.fingerprint),
    scan_eq_nil (g := fun _ => Entry.mark) (hbefore hs.keyFirst),
    scan_eq_nil (hbefore hs.memCount), scan_eq_nil (g := fun _ => Entry.mark) (hbefore hs.memFirst),
    scan_entry_eq_nil _ hparams, scan_eq_nil (hbefore hanchor), scan_entry_eq_nil _ hlatest,
    scan_eq_self hstats]
  simp only [List.flatten_cons, List.flatten_nil, List.nil_append, List.append_nil]

end Keys

section Accepted
variable (crypto : Crypto) (scopeTagsOf : Bytes → Option (OrderedMap Bytes Bytes))
  (authority : Bytes)

/-- The receipts of the entries that an input has accepted. -/
def acceptedReceipts (st : State) : Input → List ServeReceipt
  | .msg (.submitServeBatch m) =>
    match submitServeBatch crypto scopeTagsOf st m with
    | .error _ => []
    | .ok _ => (batchTurns crypto scopeTagsOf st m.orgId m.epoch m.serves).map fun turn =>
        serveReceipt crypto m.orgId m.epoch turn.serve
  | _ => []

/-- The receipts that were accepted in a run, in order. -/
def receiptLog (st : State) (inputs : List Input) : List ServeReceipt :=
  (((chain crypto scopeTagsOf authority).withOutput (acceptedReceipts crypto scopeTagsOf)).history st
    inputs).flatten

/-- The receipts that are stored. -/
def storedReceipts (s : Store) : List ServeReceipt := s.receipt.values.map storedToServeReceipt

variable {crypto scopeTagsOf authority} {st st' : State}

/-- The loop stores the receipts of its accepted turns. -/
theorem receipts_processServes {params : Params} {orgID : Bytes} {epoch : UInt64}
    {serves : List ServeEntry} {result result' : BatchResult} (hp : Pointers st.store)
    (h : processServes crypto scopeTagsOf params orgID epoch st result serves = .ok (st', result')) :
    (storedReceipts st'.store).Perm
      (((acceptedTurns crypto scopeTagsOf params orgID epoch st serves).map fun turn =>
        serveReceipt crypto orgID epoch turn.serve) ++ storedReceipts st.store) := by
  induction serves generalizing st result with
  | nil =>
    obtain ⟨rfl, rfl⟩ := Prod.mk.inj (Except.ok.inj h)
    exact List.Perm.refl _
  | cons serve serves ih =>
    obtain ⟨st₁, outcome, hserve, hrest⟩ := processServes_cons_ok h
    rw [acceptedTurns, hserve]
    rcases processServe_cases hserve with ⟨rfl, hne⟩ | ⟨rfl, hst₁, hok⟩
    · cases outcome with
      | accepted => exact absurd rfl hne
      | duplicate => exact ih hp hrest
      | invalid => exact ih hp hrest
    · have hstore : st₁.store = acceptedStore st.store (serveReceipt crypto orgID epoch serve) := by
        rw [hst₁]
        rfl
      have hpointers : Pointers st₁.store := hstore ▸ hp.accept hok.fresh
      have hadded : (storedReceipts st₁.store).Perm
          (serveReceipt crypto orgID epoch serve :: storedReceipts st.store) := by
        rw [hstore]
        exact (hp.receipts_accept hok.fresh).map storedToServeReceipt
      refine (ih hpointers hrest).trans ?_
      exact (hadded.append_left _).trans List.perm_middle

/-- An input adds the receipts that it has accepted to the stored ones. -/
theorem receipts_next (hp : Pointers st.store) (input : Input) :
    (storedReceipts ((chain crypto scopeTagsOf authority).next st input).store).Perm
      (acceptedReceipts crypto scopeTagsOf st input ++ storedReceipts st.store) := by
  have hsame : ∀ msg : Msg, (∀ m, msg ≠ .submitServeBatch m) →
      (deliver crypto scopeTagsOf authority st msg).1.store.receipt = st.store.receipt := by
    intro msg hmsg
    refine deliver_invariant (I := fun s => s.receipt = st.store.receipt) ?_ rfl
    intro s s' _ hs hchange
    cases hchange with
    | accept m serve hbatch => exact absurd hbatch (hmsg m)
    | deny => exact hs
    | other _ hrecords => exact hrecords.receipt.trans hs
  have hkept : ∀ s : Store, s.receipt = st.store.receipt →
      (storedReceipts s).Perm ([] ++ storedReceipts st.store) := by
    intro s hs
    unfold storedReceipts
    rw [hs]
    exact List.Perm.refl _
  cases input with
  | otherModules org memory bandwidth reputation => exact hkept _ rfl
  | msg msg =>
    cases msg with
    | submitServeBatch m =>
      change (storedReceipts (deliver crypto scopeTagsOf authority st (.submitServeBatch m)).1.store
        ).Perm _
      simp only [deliver, handle, acceptedReceipts]
      cases hbatch : submitServeBatch crypto scopeTagsOf st m with
      | error e => exact hkept _ rfl
      | ok r =>
        obtain ⟨-, hlength, bandwidth, hconsume, hserves⟩ := submitServeBatch_ok hbatch
        unfold batchTurns
        rw [if_neg (Nat.not_lt.mpr hlength), hconsume]
        exact receipts_processServes hp hserves
    | submitDenialBatch m => exact hkept _ (hsame _ (fun _ h => by cases h))
    | submitEventBatch m => exact hkept _ (hsame _ (fun _ h => by cases h))
    | anchorPolicyVersion height m => exact hkept _ (hsame _ (fun _ h => by cases h))
    | updateParams m => exact hkept _ (hsame _ (fun _ h => by cases h))

/-- The stored receipts are the accepted ones. -/
theorem receipts_run (hst : st.store = {}) (inputs : List Input) :
    (storedReceipts ((chain crypto scopeTagsOf authority).run st inputs).store).Perm
      (receiptLog crypto scopeTagsOf authority st inputs) := by
  induction inputs using List.reverseRecOn with
  | nil =>
    rw [Machine.run_nil, hst]
    exact List.Perm.refl _
  | append_singleton inputs input ih =>
    have hpointers : Pointers ((chain crypto scopeTagsOf authority).run st inputs).store :=
      (consistent_run (hst ▸ consistent_empty) inputs).pointers
    rw [Machine.run_append, receiptLog, Machine.history_append, List.flatten_append,
      Machine.run_withOutput]
    refine (receipts_next hpointers input).trans ?_
    refine (List.perm_append_comm).trans (ih.append ?_)
    exact List.Perm.of_eq (List.append_nil _).symm

end Accepted

section Exactness
variable {s : Store} {orgID : Bytes} {epoch : UInt64}

/-- What the scan of the org and the epoch returns. -/
theorem getServeReceipts_eq (hs : Shelved s) (hf : Filed s) (hp : Pointers s) (marked : Bool) :
    getServeReceipts marked s orgID epoch =
      ((storedReceipts s).filter fun r =>
          receiptPrefix orgID epoch ≤ receiptKey r.orgID r.epoch r.fingerprint) ++
        (s.stats.values.filterMap fun es => decodeReceipt (.stats es)).map storedToServeReceipt := by
  have hkeyed : s.receipt.Forall fun k r => receiptKey r.orgId r.epoch r.fingerprint = k :=
    fun k r hget => (hp.receipt k r hget).1.symm
  have hmarker : (if marked ∧ receiptPrefix orgID epoch ≤ genesisInitMarkerKey then
      [(genesisInitMarkerKey, Entry.mark)] else []).filterMap (fun e => decodeReceipt e.2) = [] := by
    split
    · simp [decodeReceipt_mark]
    · rfl
  have hstats : (s.stats.entries.map fun e => (e.1, Entry.stats e.2)).filterMap
      (fun e => decodeReceipt e.2) = s.stats.values.filterMap fun es => decodeReceipt (.stats es) := by
    rw [OrderedMap.values, List.filterMap_map, List.filterMap_map]
    rfl
  have hreceipts : (s.receipt.values.filter fun r =>
      receiptPrefix orgID epoch ≤ receiptKey r.orgId r.epoch r.fingerprint).filterMap
        (fun r => decodeReceipt (.receipt r)) =
          s.receipt.values.filter fun r =>
            receiptPrefix orgID epoch ≤ receiptKey r.orgId r.epoch r.fingerprint :=
    List.filterMap_some
  unfold getServeReceipts iterateFrom
  rw [List.filterMap_append, hmarker, List.append_nil, receiptPrefix, iteratorFrom_receipt hs hf,
    List.filterMap_append, scan_decode hkeyed, hstats, ← receiptPrefix, hreceipts, List.map_append,
    storedReceipts, List.filter_map]
  rfl

/-- In every run of messages from an empty store, the list of an org and an epoch has the receipts
that were accepted for them if and only if no receipt was accepted whose key lies behind theirs, and
no statistics are read as a receipt. -/
theorem serve_receipts_exact_iff (crypto : Crypto)
    (scopeTagsOf : Bytes → Option (OrderedMap Bytes Bytes)) (authority : Bytes) (marked : Bool)
    (org : Orgs.Store) (memory : Memory.Store) (bandwidth : Bandwidth.Store)
    (reputation : Reputation.Store) (inputs : List Input) (orgID : Bytes) (epoch : UInt64) :
    (getServeReceipts marked ((chain crypto scopeTagsOf authority).run
          (emptyState org memory bandwidth reputation) inputs).store orgID epoch).Perm
        ((receiptLog crypto scopeTagsOf authority (emptyState org memory bandwidth reputation)
          inputs).filter fun r => r.orgID = orgID ∧ r.epoch = epoch) ↔
      (∀ r ∈ receiptLog crypto scopeTagsOf authority (emptyState org memory bandwidth reputation)
          inputs,
        receiptPrefix orgID epoch ≤ receiptKey r.orgID r.epoch r.fingerprint →
          r.orgID = orgID ∧ r.epoch = epoch) ∧
        ∀ es ∈ ((chain crypto scopeTagsOf authority).run
            (emptyState org memory bandwidth reputation) inputs).store.stats.values,
          ¬ ReadAsReceipt es := by
  have hlog : (storedReceipts ((chain crypto scopeTagsOf authority).run
      (emptyState org memory bandwidth reputation) inputs).store).Perm
        (receiptLog crypto scopeTagsOf authority (emptyState org memory bandwidth reputation) inputs) :=
    receipts_run rfl inputs
  have hs : Shelved ((chain crypto scopeTagsOf authority).run
      (emptyState org memory bandwidth reputation) inputs).store := shelved_run rfl inputs
  have hf : Filed ((chain crypto scopeTagsOf authority).run
      (emptyState org memory bandwidth reputation) inputs).store := filed_run rfl inputs
  have hp : Pointers ((chain crypto scopeTagsOf authority).run
      (emptyState org memory bandwidth reputation) inputs).store :=
    (consistent_run consistent_empty inputs).pointers
  generalize ((chain crypto scopeTagsOf authority).run
    (emptyState org memory bandwidth reputation) inputs).store = s at hlog hs hf hp ⊢
  generalize receiptLog crypto scopeTagsOf authority (emptyState org memory bandwidth reputation)
    inputs = log at hlog ⊢
  have hown : ∀ r : ServeReceipt, r.orgID = orgID ∧ r.epoch = epoch →
      receiptPrefix orgID epoch ≤ receiptKey r.orgID r.epoch r.fingerprint := by
    rintro r ⟨rfl, rfl⟩
    have happend : receiptKey r.orgID r.epoch r.fingerprint =
        receiptPrefix r.orgID r.epoch ++ hexEncode r.fingerprint := by
      simp [receiptKey, pathKey, receiptPrefix]
    rw [happend]
    exact le_append _ _
  have hnone : (log.filter fun r => (r.orgID = orgID ∧ r.epoch = epoch) ∧
      ¬ receiptPrefix orgID epoch ≤ receiptKey r.orgID r.epoch r.fingerprint) = [] := by
    rw [List.filter_eq_nil_iff]
    rintro r - hr
    obtain ⟨hwanted, hbefore⟩ := of_decide_eq_true hr
    exact hbefore (hown r hwanted)
  have hkept := (hlog.filter fun r =>
    decide (receiptPrefix orgID epoch ≤ receiptKey r.orgID r.epoch r.fingerprint)).append_right
      ((s.stats.values.filterMap fun es => decodeReceipt (.stats es)).map storedToServeReceipt)
  rw [getServeReceipts_eq hs hf hp, hkept.congr_left, filter_append_perm_filter_iff, hnone,
    List.perm_nil, List.map_eq_nil_iff, List.filterMap_eq_nil_iff]
  refine and_congr_right fun _ => forall₂_congr fun es _ => ?_
  exact decodeReceipt_stats_eq_none_iff es

/-- The one receipt of the sample, of epoch 1, is also returned for epoch 0. -/
theorem receipt_of_later_epoch_returned :
    sampleState.store = {} ∧
      (getServeReceipts false sampleServed.store (ascii "a") 0).map (fun r => (r.orgID, r.epoch)) =
        [(ascii "a", 1)] := by
  decide +kernel

end Exactness

end WeVibeChain.Serve
