import WeVibeChain.ServeRecords

/-!
# x/serve: denials and the receipts they name

A denial names its serve by fingerprint. The handler compares the memory and the
serving key with those of the receipt, but not the org and not the epoch, and its
duplicate check covers the org and the epoch of the batch. Where every denial is
submitted under the org and epoch of its receipt, each denial belongs to a serve
of its own org and no serve is denied twice. Otherwise both can fail.
-/

set_option autoImplicit false

namespace WeVibeChain.Serve

open Bytes

section Links
variable {crypto : Crypto} {scopeTagsOf : Bytes → Option (OrderedMap Bytes Bytes)}
  {authority : Bytes} {s s' : Store}

/-- The denial names a stored receipt of its own org, memory and serving key. -/
def LinkedTo (s : Store) (d : StoredDenialReceipt) (r : StoredServeReceipt) : Prop :=
  getServeReceiptByFingerprint s d.serveFingerprint = some r ∧ r.orgId = d.orgId ∧
    r.memoryContentHash = d.memoryHash ∧ r.serveKeyPubkey = d.serveKeyPubkey

def EveryDenialLinked (s : Store) : Prop :=
  ∀ k d, s.denial.get k = some d → ∃ r, LinkedTo s d r

/-- No receipt is named by two denials. -/
def DeniedOnce (s : Store) : Prop :=
  ∀ k k' d d', s.denial.get k = some d → s.denial.get k' = some d' →
    d.serveFingerprint = d'.serveFingerprint → k = k'

/-- A denial that carries the epoch of its receipt too is stored under a key the receipt
determines. -/
def Settled (crypto : Crypto) (s : Store) (k : Bytes) (d : StoredDenialReceipt) : Prop :=
  (∃ r, LinkedTo s d r ∧ r.epoch = d.epoch) ∧
    k = denialReceiptKey d.orgId d.epoch (computeDenialFingerprint crypto.sha256 d.orgId
      d.memoryHash d.epoch d.serveKeyPubkey d.serveFingerprint)

theorem everyDenialLinked_of_settled (h : s.denial.Forall (Settled crypto s)) :
    EveryDenialLinked s := by
  intro k d hd
  obtain ⟨⟨r, hlink, -⟩, -⟩ := h k d hd
  exact ⟨r, hlink⟩

theorem deniedOnce_of_settled (h : s.denial.Forall (Settled crypto s)) : DeniedOnce s := by
  intro k k' d d' hd hd' hsame
  obtain ⟨⟨r, ⟨hfound, horg, hhash, hkey⟩, hepoch⟩, hk⟩ := h k d hd
  obtain ⟨⟨r', ⟨hfound', horg', hhash', hkey'⟩, hepoch'⟩, hk'⟩ := h k' d' hd'
  rw [hsame, hfound'] at hfound
  obtain rfl := Option.some.inj hfound
  rw [hk, hk', ← horg, ← horg', ← hepoch, ← hepoch', ← hhash, ← hhash', ← hkey, ← hkey', hsame]

/-- A receipt that can be found stays where it is when another serve is accepted. -/
theorem getServeReceiptByFingerprint_accept (h : Pointers s) {r : ServeReceipt} {fp : Bytes}
    {found : StoredServeReceipt} (hfresh : hasServeFingerprint s r.fingerprint = false)
    (hfound : getServeReceiptByFingerprint s fp = some found) :
    getServeReceiptByFingerprint (acceptedStore s r) fp = some found := by
  obtain ⟨stats, hframe⟩ := acceptedStore_frame s r
  have hnew := h.receipt_fresh hfresh r.orgID r.epoch
  unfold getServeReceiptByFingerprint at hfound ⊢
  rw [hframe]
  split at hfound
  · cases hfound
  rename_i receiptStoreKey hpointer
  have hother : serveFingerprintKey fp ≠ serveFingerprintKey r.fingerprint := by
    intro hsame
    rw [hsame, OrderedMap.has_eq_false_iff.mp hfresh] at hpointer
    cases hpointer
  simp only [OrderedMap.get_set_of_ne _ _ hother, hpointer]
  split at hfound
  · cases hfound
  rename_i hlength
  rw [if_neg hlength, OrderedMap.get_set_of_ne]
  · exact hfound
  · intro heq
    subst heq
    rw [hnew] at hfound
    cases hfound

/-- A denial batch leaves the receipts alone and only adds denial fingerprints. -/
theorem denialTrace_frame {memory : Memory.Store} {m : MsgSubmitDenialBatch}
    (htrace : Relation.ReflTransGen
      (Change crypto scopeTagsOf memory (.submitDenialBatch m)) s s') :
    s'.receipt = s.receipt ∧ s'.fingerprint = s.fingerprint ∧
      ∀ fp, hasDenialFingerprint s' fp = false → hasDenialFingerprint s fp = false := by
  induction htrace with
  | refl => exact ⟨rfl, rfl, fun _ h => h⟩
  | tail _ hlast ih =>
    obtain ⟨hreceipt, hfingerprint, hdeny⟩ := ih
    cases hlast with
    | accept m' serve hmsg => cases hmsg
    | deny m' entry receipt =>
      refine ⟨hreceipt, hfingerprint, ?_⟩
      intro fp hfp
      apply hdeny
      obtain ⟨stats, hframe⟩ := deniedStore_frame _ m'.orgId m'.epoch _ receipt entry
      rw [hframe] at hfp
      simp only [hasDenialFingerprint, OrderedMap.has_set, Bool.or_eq_false_iff] at hfp
      exact hfp.2
    | other s'' hsame =>
      refine ⟨hsame.receipt.trans hreceipt, hsame.fingerprint.trans hfingerprint, ?_⟩
      intro fp hfp
      apply hdeny
      simpa only [hasDenialFingerprint, hsame.denyFingerprint] using hfp

/-- Every entry of an accepted denial batch that passes the handler's checks is submitted under the
org and the epoch of the receipt it names. -/
def DeniesOwnServes (crypto : Crypto) (scopeTagsOf : Bytes → Option (OrderedMap Bytes Bytes))
    (authority : Bytes) (st : State) : Input → Prop
  | .msg (.submitDenialBatch m) =>
    (deliver crypto scopeTagsOf authority st (.submitDenialBatch m)).2.isOk = true →
      ∀ entry ∈ m.entries, ∀ receipt,
        Deniable crypto st.memory m.orgId m.epoch st.store entry receipt →
          receipt.orgId = m.orgId ∧ receipt.epoch = m.epoch
  | _ => True

theorem getServeReceiptByFingerprint_congr (hreceipt : s'.receipt = s.receipt)
    (hfingerprint : s'.fingerprint = s.fingerprint) (fp : Bytes) :
    getServeReceiptByFingerprint s' fp = getServeReceiptByFingerprint s fp := by
  unfold getServeReceiptByFingerprint
  rw [hreceipt, hfingerprint]

/-- An entry the loop accepts had passed the checks before the batch began. -/
theorem Deniable.of_trace {memory : Memory.Store} {m : MsgSubmitDenialBatch} {entry : DenialEntry}
    {receipt : StoredServeReceipt}
    (htrace : Relation.ReflTransGen
      (Change crypto scopeTagsOf memory (.submitDenialBatch m)) s s')
    (h : Deniable crypto memory m.orgId m.epoch s' entry receipt) :
    Deniable crypto memory m.orgId m.epoch s entry receipt := by
  obtain ⟨hreceipt, hfingerprint, hdeny⟩ := denialTrace_frame htrace
  exact { h with
    fresh := hdeny _ h.fresh
    found := (getServeReceiptByFingerprint_congr hreceipt hfingerprint _).symm.trans h.found }

/-- The receipts are well kept and every denial is settled. -/
structure Linked (crypto : Crypto) (s : Store) : Prop where
  pointers : Pointers s
  settled : s.denial.Forall (Settled crypto s)

theorem Settled.mono (hfound : ∀ fp r, getServeReceiptByFingerprint s fp = some r →
    getServeReceiptByFingerprint s' fp = some r) {k : Bytes} {d : StoredDenialReceipt}
    (h : Settled crypto s k d) : Settled crypto s' k d := by
  obtain ⟨⟨r, ⟨hr, hfields⟩, hepoch⟩, hk⟩ := h
  exact ⟨⟨r, ⟨hfound _ _ hr, hfields⟩, hepoch⟩, hk⟩

theorem Linked.accept (h : Linked crypto s) {r : ServeReceipt}
    (hfresh : hasServeFingerprint s r.fingerprint = false) :
    Linked crypto (acceptedStore s r) := by
  refine ⟨h.pointers.accept hfresh, ?_⟩
  intro k d hd
  obtain ⟨stats, hframe⟩ := acceptedStore_frame s r
  rw [hframe] at hd
  exact (h.settled k d hd).mono fun fp found =>
    getServeReceiptByFingerprint_accept h.pointers hfresh

theorem Linked.deny (h : Linked crypto s) {memory : Memory.Store} {orgID : Bytes} {epoch : UInt64}
    {entry : DenialEntry} {receipt : StoredServeReceipt}
    (hok : Deniable crypto memory orgID epoch s entry receipt)
    (howner : receipt.orgId = orgID ∧ receipt.epoch = epoch) :
    Linked crypto (deniedStore s orgID epoch (computeDenialFingerprint crypto.sha256 orgID
      entry.memoryHash epoch entry.serveKeyPubkey entry.serveFingerprint) receipt entry) := by
  refine ⟨h.pointers.deny _ _ _ _ _, ?_⟩
  have hkeeps : ∀ k d, Settled crypto s k d → Settled crypto (deniedStore s orgID epoch
      (computeDenialFingerprint crypto.sha256 orgID entry.memoryHash epoch entry.serveKeyPubkey
        entry.serveFingerprint) receipt entry) k d := by
    intro k d hd
    exact hd.mono fun fp r hr => (getServeReceiptByFingerprint_congr rfl rfl fp).trans hr
  apply OrderedMap.Forall.set
  · intro k d hd
    exact hkeeps k d (h.settled k d hd)
  · apply hkeeps
    exact ⟨⟨receipt, ⟨hok.found, howner.1, hok.sameHash.symm, hok.sameKey.symm⟩, howner.2⟩, rfl⟩

theorem Linked.congr (h : Linked crypto s) (hsame : SameRecords s s') : Linked crypto s' := by
  refine ⟨h.pointers.congr hsame, ?_⟩
  rw [hsame.denial]
  intro k d hd
  exact (h.settled k d hd).mono fun fp r hr =>
    (getServeReceiptByFingerprint_congr hsame.receipt hsame.fingerprint fp).trans hr

variable (crypto scopeTagsOf authority) in
/-- In every run from an empty store in which denials are submitted under the org and epoch of
the serve they deny, each denial is linked to a receipt of its org and no receipt has two. -/
theorem denials_linked_of_own_serves {st : State} (hempty : st.store = {}) (inputs : List Input)
    (hown : (chain crypto scopeTagsOf authority).Along
      (DeniesOwnServes crypto scopeTagsOf authority) st inputs) :
    EveryDenialLinked ((chain crypto scopeTagsOf authority).run st inputs).store ∧
      DeniedOnce ((chain crypto scopeTagsOf authority).run st inputs).store := by
  have hlinked : Linked crypto ((chain crypto scopeTagsOf authority).run st inputs).store := by
    refine run_store_invariant ?_ ?_ hown
    · intro t msg s s' ht haccepted htrace hs hchange
      cases hchange with
      | accept m serve hmsg hserve hok => exact hs.accept hok.fresh
      | deny m entry receipt hmsg hentry hok =>
        subst hmsg
        exact hs.deny hok (ht haccepted entry hentry receipt (hok.of_trace htrace))
      | other _ hsame _ => exact hs.congr hsame
    · rw [hempty]
      exact ⟨consistent_empty.pointers, OrderedMap.forall_empty⟩
  exact ⟨everyDenialLinked_of_settled hlinked.settled, deniedOnce_of_settled hlinked.settled⟩

end Links

section Sample

def sampleDenialEntry (signature : Bytes) : DenialEntry where
  memoryHash := sampleHash
  serveKeyPubkey := sampleKey
  serveSig := signature
  serveFingerprint := sampleFingerprint

/-- Org `a` denies its serve of the memory. -/
def sampleDenial : MsgSubmitDenialBatch where
  signer := ascii "sa"
  orgId := ascii "a"
  epoch := 1
  entries := [sampleDenialEntry sampleDenialSignature]

/-- Org `b` denies the same serve. -/
def sampleDenialB : MsgSubmitDenialBatch where
  signer := ascii "sb"
  orgId := ascii "b"
  epoch := 1
  entries := [sampleDenialEntry sampleDenialSignatureB]

def sampleDeniedState : State :=
  (chain sampleCrypto (fun _ => none) []).run sampleState
    [.msg (.submitServeBatch sampleBatch), .msg (.submitDenialBatch sampleDenial)]

theorem sample_denial_linked :
    sampleDeniedState.store.denial.values.length = 1 ∧
      EveryDenialLinked sampleDeniedState.store := by
  refine ⟨by decide +kernel, (denials_linked_of_own_serves sampleCrypto (fun _ => none) [] rfl
    [.msg (.submitServeBatch sampleBatch), .msg (.submitDenialBatch sampleDenial)]
    ⟨trivial, ?_, trivial⟩).1⟩
  intro _ entry hentry receipt hok
  have hfound := hok.found
  rw [List.mem_singleton.mp hentry] at hfound
  have hreceipt : (getServeReceiptByFingerprint ((chain sampleCrypto (fun _ => none) []).next
      sampleState (.msg (.submitServeBatch sampleBatch))).store sampleFingerprint).map
        (fun r => (r.orgId, r.epoch)) = some (ascii "a", 1) := by
    decide +kernel
  rw [sampleDenialEntry] at hfound
  rw [hfound] at hreceipt
  exact Prod.mk.inj (Option.some.inj hreceipt)

def sampleDeniedTwice : State :=
  (chain sampleCrypto (fun _ => none) []).next sampleDeniedState
    (.msg (.submitDenialBatch sampleDenialB))

/-- Org `b` denies the serve of org `a` a second time: the new denial names a receipt of another
org, and the receipt has two denials. -/
theorem denied_by_other_org :
    ¬ EveryDenialLinked sampleDeniedTwice.store ∧ ¬ DeniedOnce sampleDeniedTwice.store := by
  have hfirst : sampleDeniedTwice.store.denial.get
      (denialReceiptKey (ascii "a") 1 sampleDenialFingerprint) =
        some (denialReceipt (ascii "a") 1 (sampleDenialEntry sampleDenialSignature)) := by
    decide +kernel
  have hsecond : sampleDeniedTwice.store.denial.get
      (denialReceiptKey (ascii "b") 1 sampleDenialFingerprintB) =
        some (denialReceipt (ascii "b") 1 (sampleDenialEntry sampleDenialSignatureB)) := by
    decide +kernel
  constructor
  · intro hlinked
    obtain ⟨r, hfound, horg, -, -⟩ := hlinked _ _ hsecond
    have howner : (getServeReceiptByFingerprint sampleDeniedTwice.store sampleFingerprint).map
        StoredServeReceipt.orgId = some (ascii "a") := by
      decide +kernel
    change getServeReceiptByFingerprint _ sampleFingerprint = _ at hfound
    rw [hfound, Option.map_some, horg] at howner
    exact absurd howner (by decide)
  · intro honce
    exact absurd (honce _ _ _ _ hfirst hsecond rfl) (by decide)

end Sample

end WeVibeChain.Serve
