import Mathlib.Algebra.Order.BigOperators.Group.List
import Mathlib.Algebra.Order.Group.Nat
import WeVibeChain.ServeTallies
import WeVibeChain.Shared.Words

/-!
# x/serve: the tallies agree with the stored receipts

A receipt has a fresh fingerprint when it is stored and a denial a fresh denial
fingerprint, so each adds one entry to its key family, whatever the hash function
does. Over a run the tallies are therefore those of the stored receipts and
denials; they are exact when receipts, denials and turns stay below `2^64`.
-/

set_option autoImplicit false

namespace WeVibeChain.Serve

open Bytes

section Consistency
variable {crypto : Crypto} {scopeTagsOf : Bytes → Option (OrderedMap Bytes Bytes)}
  {authority : Bytes} {s s' : Store}

/-- Fingerprint entries and receipts point at each other, and a denial is stored under a denial
fingerprint that is marked as used. -/
structure Pointers (s : Store) : Prop where
  receipt : s.receipt.Forall fun k r => k = receiptKey r.orgId r.epoch r.fingerprint ∧
    s.fingerprint.get (serveFingerprintKey r.fingerprint) = some k
  fingerprint : s.fingerprint.Forall fun fk k =>
    ∃ r, s.receipt.get k = some r ∧ fk = serveFingerprintKey r.fingerprint
  denial : s.denial.Forall fun k d => ∃ fp, k = denialReceiptKey d.orgId d.epoch fp ∧
    hasDenialFingerprint s fp = true

theorem Pointers.receipt_fresh (h : Pointers s) {fp : Bytes}
    (hfresh : hasServeFingerprint s fp = false) (orgID : Bytes) (epoch : UInt64) :
    s.receipt.get (receiptKey orgID epoch fp) = none := by
  by_contra hsome
  obtain ⟨r, hr⟩ := Option.ne_none_iff_exists'.mp hsome
  obtain ⟨hkey, hpointer⟩ := h.receipt _ _ hr
  obtain ⟨-, -, rfl⟩ := receiptKey_inj.mp hkey
  have hused : hasServeFingerprint s r.fingerprint = true := OrderedMap.has_iff.mpr ⟨_, hpointer⟩
  rw [hfresh] at hused
  cases hused

theorem Pointers.denial_fresh (h : Pointers s) {fp : Bytes}
    (hfresh : hasDenialFingerprint s fp = false) (orgID : Bytes) (epoch : UInt64) :
    s.denial.get (denialReceiptKey orgID epoch fp) = none := by
  by_contra hsome
  obtain ⟨d, hd⟩ := Option.ne_none_iff_exists'.mp hsome
  obtain ⟨fp', hkey, hused⟩ := h.denial _ _ hd
  obtain ⟨-, -, rfl⟩ := denialReceiptKey_inj.mp hkey
  rw [hfresh] at hused
  cases hused

theorem Pointers.accept (h : Pointers s) {r : ServeReceipt}
    (hfresh : hasServeFingerprint s r.fingerprint = false) : Pointers (acceptedStore s r) := by
  have hnone := OrderedMap.has_eq_false_iff.mp hfresh
  have hnew := h.receipt_fresh hfresh r.orgID r.epoch
  obtain ⟨stats, hframe⟩ := acceptedStore_frame s r
  rw [hframe]
  refine ⟨?_, ?_, h.denial⟩
  · apply OrderedMap.Forall.set
    · intro k r' hr'
      obtain ⟨hkey, hpointer⟩ := h.receipt k r' hr'
      refine ⟨hkey, ?_⟩
      rw [← hpointer]
      apply OrderedMap.get_set_of_ne
      intro hsame
      rw [hsame, hnone] at hpointer
      cases hpointer
    · exact ⟨rfl, OrderedMap.get_set_self _ _ _⟩
  · apply OrderedMap.Forall.set
    · intro fk k hk
      obtain ⟨r', hr', hfk⟩ := h.fingerprint fk k hk
      refine ⟨r', ?_, hfk⟩
      rw [← hr']
      apply OrderedMap.get_set_of_ne
      intro hsame
      rw [hsame, hnew] at hr'
      cases hr'
    · exact ⟨_, OrderedMap.get_set_self _ _ _, rfl⟩

/-- An accepted serve adds its receipt to the stored ones. -/
theorem Pointers.receipts_accept (h : Pointers s) {r : ServeReceipt}
    (hfresh : hasServeFingerprint s r.fingerprint = false) :
    (acceptedStore s r).receipt.values.Perm (serveReceiptToStored r :: s.receipt.values) := by
  obtain ⟨stats, hframe⟩ := acceptedStore_frame s r
  rw [hframe]
  exact OrderedMap.values_set_perm_of_get_none (h.receipt_fresh hfresh r.orgID r.epoch)

theorem Pointers.deny (h : Pointers s) (orgID : Bytes) (epoch : UInt64) (fp : Bytes)
    (receipt : StoredServeReceipt) (entry : DenialEntry) :
    Pointers (deniedStore s orgID epoch fp receipt entry) := by
  obtain ⟨stats, hframe⟩ := deniedStore_frame s orgID epoch fp receipt entry
  rw [hframe]
  refine ⟨h.receipt, h.fingerprint, ?_⟩
  apply OrderedMap.Forall.set
  · intro k d hd
    obtain ⟨fp', hkey, hused⟩ := h.denial k d hd
    refine ⟨fp', hkey, ?_⟩
    simp only [hasDenialFingerprint, OrderedMap.has_set, Bool.or_eq_true] at hused ⊢
    exact Or.inr hused
  · exact ⟨fp, rfl, by simp [hasDenialFingerprint, OrderedMap.has_set]⟩

theorem Pointers.congr (h : Pointers s) (hsame : SameRecords s s') : Pointers s' where
  receipt := by
    rw [hsame.receipt, hsame.fingerprint]
    exact h.receipt
  fingerprint := by
    rw [hsame.receipt, hsame.fingerprint]
    exact h.fingerprint
  denial := by
    simp only [hasDenialFingerprint, hsame.denial, hsame.denyFingerprint]
    exact h.denial

theorem Pointers.change {memory : Memory.Store} {msg : Msg} (h : Pointers s)
    (hchange : Change crypto scopeTagsOf memory msg s s') : Pointers s' := by
  cases hchange with
  | accept m serve hmsg hserve hok => exact h.accept hok.fresh
  | deny m entry receipt hmsg hentry hok => exact h.deny _ _ _ _ _
  | other _ hsame hparams => exact h.congr hsame

/-- The receipts and denials are well kept and every tally is theirs. -/
structure Consistent (s : Store) : Prop where
  pointers : Pointers s
  tallies : Tallies s s.receipt.values s.denial.values

theorem consistent_empty : Consistent {} where
  pointers := ⟨OrderedMap.forall_empty, OrderedMap.forall_empty, OrderedMap.forall_empty⟩
  tallies := tallies_empty

/-- Each change keeps the tallies in step with the records. -/
theorem Consistent.change {memory : Memory.Store} {msg : Msg} (h : Consistent s)
    (hchange : Change crypto scopeTagsOf memory msg s s') : Consistent s' := by
  refine ⟨h.pointers.change hchange, ?_⟩
  cases hchange with
  | accept m serve hmsg hserve hok =>
    have htallies := h.tallies.accept (serveReceipt crypto m.orgId m.epoch serve) rfl
    obtain ⟨stats, hframe⟩ := acceptedStore_frame s (serveReceipt crypto m.orgId m.epoch serve)
    apply htallies.perm (h.pointers.receipts_accept hok.fresh).symm
    rw [hframe]
  | deny m entry receipt hmsg hentry hok =>
    have htallies := h.tallies.deny m.orgId m.epoch (computeDenialFingerprint crypto.sha256 m.orgId
      entry.memoryHash m.epoch entry.serveKeyPubkey entry.serveFingerprint) hok.sameHash
    apply htallies.perm (List.Perm.refl _)
    exact (OrderedMap.values_set_perm_of_get_none
      (h.pointers.denial_fresh hok.fresh m.orgId m.epoch)).symm
  | other _ hsame hparams =>
    rw [hsame.receipt, hsame.denial]
    exact h.tallies.congr hsame

theorem consistent_run {st : State} (hst : Consistent st.store) (inputs : List Input) :
    Consistent ((chain crypto scopeTagsOf authority).run st inputs).store := by
  refine run_store_invariant ?_ hst
    ((chain crypto scopeTagsOf authority).along_true st _)
  intro t msg s s' _ _ _ hs hchange
  exact hs.change hchange

end Consistency

section Exact
variable {crypto : Crypto} {scopeTagsOf : Bytes → Option (OrderedMap Bytes Bytes)}
  {authority : Bytes} {s : Store}

/-- The statistics of an org and epoch as numbers. -/
structure ExactStats (es : EpochServeStats) (rs : List StoredServeReceipt)
    (ds : List StoredDenialReceipt) : Prop where
  totalServes : es.totalServes.toNat = rs.length
  totalDenials : es.totalDenials.toNat = ds.length
  uniqueMemories : es.uniqueMemoriesServed.toNat =
    (rs.map StoredServeReceipt.memoryContentHash).dedup.length
  uniqueKeys : es.uniqueServeKeys.toNat = (rs.map StoredServeReceipt.serveKeyPubkey).dedup.length
  selfServes : es.selfServes.toNat = rs.countP StoredServeReceipt.isSelfServe
  models : ∀ m, m ≠ [] → (es.modelBreakdown.count m).toNat = rs.countP fun r => r.modelId = m

/-- The record of a contributor in an epoch as numbers. -/
structure ExactContributor (cs : ContributorEpochServes) (rs : List StoredServeReceipt) :
    Prop where
  serveCount : cs.serveCount.toNat = rs.length
  selfServeCount : cs.selfServeCount.toNat = rs.countP StoredServeReceipt.isSelfServe
  totalTurns : cs.totalTurns.toNat = (rs.map fun r => r.turnCount.toNat).sum
  orgsNodup : cs.orgIDs.Nodup
  orgs : ∀ o, o ∈ cs.orgIDs ↔ ∃ r ∈ rs, r.orgId = o

/-- Every tally of the store equals what it counts among the stored receipts and denials. -/
structure ExactTallies (s : Store) : Prop where
  memCount : ∀ o h e, (getMemoryServeCount s o h e).toNat =
    s.receipt.values.countP fun r => r.orgId = o ∧ r.memoryContentHash = h ∧ r.epoch = e
  denialCount : ∀ o h e, (getMemoryDenialCount s o h e).toNat =
    s.denial.values.countP fun d => d.orgId = o ∧ d.memoryHash = h ∧ d.epoch = e
  stats : ∀ o e, ExactStats (statsOf s o e) (receiptsOf s.receipt.values o e)
    (denialsOf s.denial.values o e)
  contributor : ∀ c e, ExactContributor (contributorOf s c e) (receiptsNaming s.receipt.values c e)

theorem toNat_eq_of_le {x : UInt64} {n bound : Nat} (h : x = UInt64.ofNat n) (hn : n ≤ bound)
    (hbound : bound < 2 ^ 64) : x.toNat = n := by
  rw [h]
  exact UInt64.toNat_ofNat_of_lt' (Nat.lt_of_le_of_lt hn hbound)

theorem StatsCount.exact {es : EpochServeStats} {rs : List StoredServeReceipt}
    {ds : List StoredDenialReceipt} (h : StatsCount es rs ds) (hr : rs.length < 2 ^ 64)
    (hd : ds.length < 2 ^ 64) : ExactStats es rs ds where
  totalServes := toNat_eq_of_le h.totalServes (Nat.le_refl _) hr
  totalDenials := toNat_eq_of_le h.totalDenials (Nat.le_refl _) hd
  uniqueMemories := by
    apply toNat_eq_of_le h.uniqueMemories _ hr
    simpa using (List.dedup_sublist (rs.map StoredServeReceipt.memoryContentHash)).length_le
  uniqueKeys := by
    apply toNat_eq_of_le h.uniqueKeys _ hr
    simpa using (List.dedup_sublist (rs.map StoredServeReceipt.serveKeyPubkey)).length_le
  selfServes := toNat_eq_of_le h.selfServes List.countP_le_length hr
  models := by
    intro m hm
    have hmodel : ∀ r : StoredServeReceipt, modelOf r = some m ↔ r.modelId = m := by
      intro r
      unfold modelOf
      split
      · rename_i hempty
        simp [hempty, hm.symm]
      · simp
    rw [toNat_eq_of_le (h.models m) List.countP_le_length hr]
    simp only [hmodel]

theorem ContributorCount.exact {cs : ContributorEpochServes} {rs : List StoredServeReceipt}
    (h : ContributorCount cs rs) (hr : rs.length < 2 ^ 64)
    (hturns : (rs.map fun r => r.turnCount.toNat).sum < 2 ^ 64) : ExactContributor cs rs where
  serveCount := toNat_eq_of_le h.serveCount (Nat.le_refl _) hr
  selfServeCount := toNat_eq_of_le h.selfServeCount List.countP_le_length hr
  totalTurns := toNat_eq_of_le h.totalTurns (Nat.le_refl _) hturns
  orgsNodup := h.orgsNodup
  orgs := h.orgs

theorem Consistent.exact (h : Consistent s) (hr : s.receipt.values.length < 2 ^ 64)
    (hd : s.denial.values.length < 2 ^ 64)
    (hturns : (s.receipt.values.map fun r => r.turnCount.toNat).sum < 2 ^ 64) :
    ExactTallies s where
  memCount := by
    intro o hash e
    have hcount := h.tallies.memCount (memCountKey o hash e)
    simp only [Option.some.injEq, memCountKey_inj] at hcount
    exact toNat_eq_of_le hcount List.countP_le_length hr
  denialCount := by
    intro o hash e
    have hcount := h.tallies.denialCount (denialCountKey o hash e)
    simp only [Option.some.injEq, denialCountKey_inj] at hcount
    exact toNat_eq_of_le hcount List.countP_le_length hd
  stats := fun o e => (h.tallies.stats o e).exact
    (Nat.lt_of_le_of_lt (List.length_filter_le _ _) hr)
    (Nat.lt_of_le_of_lt (List.length_filter_le _ _) hd)
  contributor := fun c e => (h.tallies.contributor c e).exact
    (Nat.lt_of_le_of_lt (List.length_filter_le _ _) hr)
    (Nat.lt_of_le_of_lt ((List.filter_sublist.map _).sum_le_sum fun _ _ => Nat.zero_le _) hturns)

end Exact

section Limit
variable {crypto : Crypto} {scopeTagsOf : Bytes → Option (OrderedMap Bytes Bytes)}
  {authority : Bytes}

/-- Only a parameter update changes the parameters. -/
theorem trace_params {memory : Memory.Store} {msg : Msg} {s s' : Store}
    (hmsg : ∀ m, msg ≠ .updateParams m)
    (htrace : Relation.ReflTransGen (Change crypto scopeTagsOf memory msg) s s') :
    s'.params = s.params := by
  induction htrace with
  | refl => rfl
  | tail _ hlast ih =>
    cases hlast with
    | accept => rw [acceptedStore_params, ih]
    | deny => exact ih
    | other _ _ hparams =>
      rcases hparams with hsame | ⟨m, rfl, -⟩
      · rw [hsame, ih]
      · exact absurd rfl (hmsg m)

/-- The input leaves the limit on serves of one memory in one epoch as it was. -/
def LimitUnchanged (crypto : Crypto) (scopeTagsOf : Bytes → Option (OrderedMap Bytes Bytes))
    (authority : Bytes) (st : State) (input : Input) : Prop :=
  (getParams ((chain crypto scopeTagsOf authority).next st input).store).maxServesPerMemoryPerEpoch =
    (getParams st.store).maxServesPerMemoryPerEpoch

/-- No memory has been served more often than the limit allows. -/
structure Capped (limit : UInt32) (st : State) : Prop where
  current : (getParams st.store).maxServesPerMemoryPerEpoch = limit
  within : ∀ o h e, getMemoryServeCount st.store o h e ≤ limit.toUInt64

theorem getMemoryServeCount_acceptedStore (s : Store) (r : ServeReceipt) (o h : Bytes)
    (e : UInt64) :
    getMemoryServeCount (acceptedStore s r) o h e =
      if o = r.orgID ∧ h = r.contentHash ∧ e = r.epoch then getMemoryServeCount s o h e + 1
      else getMemoryServeCount s o h e := by
  obtain ⟨stats, hframe⟩ := acceptedStore_frame s r
  rw [hframe]
  simp only [getMemoryServeCount, OrderedMap.count_bump, memCountKey_inj]

theorem capped_step {limit : UInt32} (st : State) (input : Input) (h : Capped limit st)
    (hkept : LimitUnchanged crypto scopeTagsOf authority st input) :
    Capped limit ((chain crypto scopeTagsOf authority).next st input) := by
  refine ⟨hkept.trans h.current, ?_⟩
  cases input with
  | otherModules org memory bandwidth reputation => exact h.within
  | msg msg =>
    refine deliver_invariant (I := fun s => ∀ o h e, getMemoryServeCount s o h e ≤ limit.toUInt64)
      ?_ h.within
    intro s s' htrace hs hchange o hash e
    cases hchange with
    | accept m serve hmsg hserve hok =>
      have hparams : getParams s = getParams st.store := by
        unfold getParams
        rw [trace_params (by simp [hmsg]) htrace]
      have hbelow := hok.below
      rw [hparams, h.current] at hbelow
      rw [getMemoryServeCount_acceptedStore]
      split
      · rename_i hsame
        obtain ⟨rfl, rfl, rfl⟩ := hsame
        exact Words.add_one_le_of_lt hbelow
      · exact hs o hash e
    | deny => exact hs o hash e
    | other _ hsame _ =>
      have hcount : getMemoryServeCount s' o hash e = getMemoryServeCount s o hash e := by
        simp only [getMemoryServeCount, hsame.memCount]
      rw [hcount]
      exact hs o hash e

end Limit

section Records
variable (crypto : Crypto) (scopeTagsOf : Bytes → Option (OrderedMap Bytes Bytes))
  (authority : Bytes)

/-- After every run from an empty store the fingerprint index and the receipts match, and every
tally is that of the stored receipts and denials. While the limit is the one the run started
with, no memory count exceeds it. -/
theorem serve_records_agree {st : State} (hempty : st.store = {}) (inputs : List Input)
    (hreceipts : ((chain crypto scopeTagsOf authority).run st inputs).store.receipt.values.length <
      2 ^ 64)
    (hdenials : ((chain crypto scopeTagsOf authority).run st inputs).store.denial.values.length <
      2 ^ 64)
    (hturns : (((chain crypto scopeTagsOf authority).run st inputs).store.receipt.values.map
      fun r => r.turnCount.toNat).sum < 2 ^ 64) :
    Pointers ((chain crypto scopeTagsOf authority).run st inputs).store ∧
      ExactTallies ((chain crypto scopeTagsOf authority).run st inputs).store ∧
      ((chain crypto scopeTagsOf authority).Along (LimitUnchanged crypto scopeTagsOf authority) st
        inputs → ∀ o h e,
        getMemoryServeCount ((chain crypto scopeTagsOf authority).run st inputs).store o h e ≤
          (getParams st.store).maxServesPerMemoryPerEpoch.toUInt64) := by
  have hconsistent : Consistent ((chain crypto scopeTagsOf authority).run st inputs).store := by
    apply consistent_run
    rw [hempty]
    exact consistent_empty
  refine ⟨hconsistent.pointers, hconsistent.exact hreceipts hdenials hturns, ?_⟩
  intro hlimit
  have hstart : Capped (getParams st.store).maxServesPerMemoryPerEpoch st := by
    refine ⟨rfl, ?_⟩
    intro o h e
    rw [hempty]
    exact UInt64.zero_le
  exact ((chain crypto scopeTagsOf authority).run_invariant capped_step hstart hlimit).within

end Records

section Sample

/-- A serving key. -/
def sampleKey : Bytes :=
  [3, 161, 7, 191, 243, 206, 16, 190, 29, 112, 221, 24, 231, 75, 192, 153, 103, 228, 214, 48,
    155, 165, 13, 95, 29, 220, 134, 100, 18, 85, 49, 184]

/-- The content hash of a memory, the SHA-256 hash of the text `m`. -/
def sampleHash : Bytes :=
  [98, 198, 106, 122, 93, 215, 12, 49, 70, 97, 128, 99, 195, 68, 229, 49, 230, 212, 181, 158, 55,
    152, 8, 68, 60, 233, 98, 179, 171, 214, 60, 90]

/-- The SHA-256 hash of the memory, the key and epoch 1. -/
def sampleFingerprint : Bytes :=
  [18, 137, 74, 21, 248, 134, 57, 98, 8, 13, 107, 76, 107, 220, 106, 61, 248, 230, 60, 202, 9,
    66, 114, 44, 141, 125, 241, 210, 253, 108, 156, 3]

/-- The SHA-256 hash of the memory, the key and epoch 2. -/
def sampleFingerprint2 : Bytes :=
  [17, 131, 213, 202, 116, 146, 195, 59, 15, 100, 58, 157, 238, 200, 4, 190, 161, 42, 108, 61,
    208, 158, 232, 216, 100, 203, 115, 210, 185, 232, 168, 7]

/-- The key's signature of a serve of the memory by org `a` in epoch 1. -/
def sampleSignature : Bytes :=
  [133, 208, 181, 122, 174, 38, 90, 106, 39, 223, 122, 89, 40, 227, 173, 24, 180, 93, 12, 45,
    228, 48, 36, 87, 3, 19, 103, 149, 200, 233, 48, 178, 94, 240, 126, 46, 252, 109, 255, 5, 124,
    69, 129, 139, 154, 96, 187, 189, 227, 68, 185, 64, 72, 36, 123, 118, 127, 229, 30, 202, 238,
    90, 80, 0]

/-- The key's signature of a serve of the memory by org `a` in epoch 2. -/
def sampleSignature2 : Bytes :=
  [172, 166, 228, 171, 3, 95, 1, 21, 164, 131, 123, 85, 187, 242, 115, 29, 94, 121, 216, 15, 152,
    148, 208, 178, 106, 239, 178, 72, 217, 236, 147, 31, 161, 57, 167, 211, 205, 107, 191, 113,
    170, 216, 229, 39, 84, 75, 195, 154, 81, 66, 147, 20, 12, 199, 28, 202, 74, 146, 224, 136,
    167, 154, 101, 10]

/-- The key's signature of a serve of the memory by org `b` in epoch 1. -/
def sampleSignatureB : Bytes :=
  [28, 57, 200, 106, 183, 96, 52, 234, 132, 174, 99, 244, 213, 133, 85, 3, 238, 114, 166, 114,
    97, 129, 21, 229, 199, 136, 156, 16, 114, 107, 237, 165, 204, 178, 29, 155, 98, 248, 121, 68,
    145, 79, 34, 159, 209, 46, 136, 242, 28, 228, 8, 179, 232, 105, 69, 216, 169, 167, 217, 208,
    163, 102, 59, 4]

/-- The key's signature of a denial of the first serve by org `a` in epoch 1. -/
def sampleDenialSignature : Bytes :=
  [108, 40, 254, 37, 27, 239, 172, 116, 168, 212, 202, 9, 88, 208, 156, 132, 214, 72, 202, 90,
    133, 56, 206, 175, 96, 246, 66, 122, 201, 222, 107, 165, 77, 77, 94, 242, 236, 109, 243, 59,
    234, 253, 31, 174, 89, 117, 50, 254, 166, 178, 128, 220, 182, 48, 25, 160, 64, 123, 58, 198,
    249, 133, 243, 8]

/-- The key's signature of a denial of the first serve by org `b` in epoch 1. -/
def sampleDenialSignatureB : Bytes :=
  [252, 52, 56, 182, 21, 51, 112, 225, 145, 27, 231, 78, 251, 229, 248, 38, 184, 139, 236, 95,
    27, 117, 190, 21, 148, 132, 115, 96, 127, 169, 90, 121, 4, 231, 192, 199, 211, 21, 19, 249,
    23, 9, 76, 170, 33, 177, 123, 243, 148, 100, 209, 204, 170, 175, 167, 217, 74, 156, 115, 33,
    85, 133, 29, 7]

/-- The SHA-256 hash of the denial by org `a`. -/
def sampleDenialFingerprint : Bytes :=
  [125, 135, 16, 208, 135, 189, 15, 68, 101, 112, 163, 134, 155, 171, 145, 215, 127, 94, 69, 19,
    215, 192, 19, 63, 121, 62, 7, 109, 79, 80, 5, 7]

/-- The SHA-256 hash of the denial by org `b`. -/
def sampleDenialFingerprintB : Bytes :=
  [191, 149, 186, 35, 14, 245, 70, 170, 2, 166, 16, 113, 217, 238, 37, 117, 191, 71, 139, 240,
    108, 219, 38, 21, 127, 9, 21, 232, 191, 32, 211, 204]

def sampleDenialBody (orgID : Bytes) : Bytes :=
  canonicalDenialBody orgID sampleHash 1 sampleKey sampleFingerprint []

/-- The hash and the signature check on the inputs that occur in the samples. -/
def sampleCrypto : Crypto where
  sha256 b :=
    if b = sampleHash ++ sampleKey ++ bigEndian64 1 then sampleFingerprint
    else if b = sampleHash ++ sampleKey ++ bigEndian64 2 then sampleFingerprint2
    else if b = sampleDenialBody (ascii "a") then sampleDenialFingerprint
    else if b = sampleDenialBody (ascii "b") then sampleDenialFingerprintB
    else []
  ed25519Verify key message signature :=
    key = sampleKey ∧
      ((signature = sampleSignature ∧
          message = canonicalServeBody (ascii "a") sampleHash 1 sampleKey [] (ascii "e")) ∨
        (signature = sampleSignature2 ∧
          message = canonicalServeBody (ascii "a") sampleHash 2 sampleKey [] (ascii "e")) ∨
        (signature = sampleSignatureB ∧
          message = canonicalServeBody (ascii "b") sampleHash 1 sampleKey [] (ascii "e")) ∨
        (signature = sampleDenialSignature ∧ message = sampleDenialBody (ascii "a")) ∨
        (signature = sampleDenialSignatureB ∧ message = sampleDenialBody (ascii "b")))

/-- Orgs `a` and `b` with serving addresses `sa` and `sb`. -/
def sampleOrgs : Orgs.Store where
  org := (OrderedMap.set ∅ (Orgs.orgKey (ascii "a"))
    { orgId := ascii "a", leader := [], hubServingAddress := ascii "sa" }).set
      (Orgs.orgKey (ascii "b"))
      { orgId := ascii "b", leader := [], hubServingAddress := ascii "sb" }

/-- The memory is approved in both orgs, contributed by `c`. -/
def sampleMemory : Memory.Store :=
  Memory.initGenesis {}
    { memoryCommitments :=
        [{ orgID := ascii "a", contentHash := sampleHash, contributor := ascii "c",
           state := .committed },
          { orgID := ascii "b", contentHash := sampleHash, contributor := ascii "c",
            state := .committed }] }

def sampleState : State := ⟨{}, sampleOrgs, sampleMemory, {}, {}⟩

def sampleServe : ServeEntry where
  memoryContentHash := sampleHash
  contributorId := ascii "c"
  serveKeyPubkey := sampleKey
  serveSig := sampleSignature
  episodeRef := ascii "e"

/-- Org `a` reports one serve in epoch 1. -/
def sampleBatch : MsgSubmitServeBatch where
  signer := ascii "sa"
  orgId := ascii "a"
  epoch := 1
  serves := [sampleServe]

theorem sample_records_agree :
    getMemoryServeCount
        ((chain sampleCrypto (fun _ => none) []).run sampleState
          [.msg (.submitServeBatch sampleBatch)]).store (ascii "a") sampleHash 1 = 1 ∧
      ExactTallies ((chain sampleCrypto (fun _ => none) []).run sampleState
        [.msg (.submitServeBatch sampleBatch)]).store :=
  ⟨by decide +kernel,
    (serve_records_agree sampleCrypto (fun _ => none) [] rfl [.msg (.submitServeBatch sampleBatch)]
      (by decide +kernel) (by decide +kernel) (by decide +kernel)).2.1⟩

end Sample

end WeVibeChain.Serve
