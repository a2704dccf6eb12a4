import WeVibeChain.ServeRecords

/-!
# x/serve: the caps over an interval of the chain

A serve batch is charged to the quota of the epoch number it carries, and a
memory is counted under that number too. The number is the caller's: nothing
compares it with the epoch the chain is in. Over an interval in which the caps do
not change they bound what an org can have accepted if all its batches carry one
number. With two numbers the caps are spent twice.
-/

set_option autoImplicit false

namespace WeVibeChain.Serve

open Bytes

section Meters

/-- What has been served since a reading of a meter is paid for by what has been charged to it,
and charges stop at the cap. -/
structure Metered (cap served₀ used₀ served used : Nat) : Prop where
  paid : served + used₀ ≤ served₀ + used
  within : used = used₀ ∨ used ≤ cap

theorem Metered.start (cap served₀ used₀ : Nat) : Metered cap served₀ used₀ served₀ used₀ :=
  ⟨Nat.le_refl _, Or.inl rfl⟩

variable {cap served₀ used₀ served used : Nat}

theorem Metered.charge (h : Metered cap served₀ used₀ served used) {served' k : Nat}
    (hserved : served' ≤ served + k) (hk : used + k ≤ cap) :
    Metered cap served₀ used₀ served' (used + k) := by
  obtain ⟨hpaid, -⟩ := h
  exact ⟨by omega, Or.inr hk⟩

theorem Metered.served_le (h : Metered cap served₀ used₀ served used) : served ≤ served₀ + cap := by
  obtain ⟨hpaid, hsame | hcap⟩ := h
  · omega
  · omega

end Meters

section Served
variable {crypto : Crypto} {scopeTagsOf : Bytes → Option (OrderedMap Bytes Bytes)}
  {s : Store} {st st' : State}

/-- How many serves of the org have been accepted. -/
def servedFor (s : Store) (orgID : Bytes) : Nat :=
  s.receipt.values.countP fun r => r.orgId = orgID

/-- How many serves of one of the org's memories have been accepted. -/
def servedOf (s : Store) (orgID hash : Bytes) : Nat :=
  s.receipt.values.countP fun r => r.orgId = orgID ∧ r.memoryContentHash = hash

theorem servedFor_accept (h : Pointers s) {r : ServeReceipt}
    (hfresh : hasServeFingerprint s r.fingerprint = false) (orgID : Bytes) :
    servedFor (acceptedStore s r) orgID =
      servedFor s orgID + if r.orgID = orgID then 1 else 0 := by
  unfold servedFor
  rw [(h.receipts_accept hfresh).countP_eq, List.countP_cons]
  simp only [decide_eq_true_eq]
  rfl

theorem servedOf_accept (h : Pointers s) {r : ServeReceipt}
    (hfresh : hasServeFingerprint s r.fingerprint = false) (orgID hash : Bytes) :
    servedOf (acceptedStore s r) orgID hash =
      servedOf s orgID hash + if r.orgID = orgID ∧ r.contentHash = hash then 1 else 0 := by
  unfold servedOf
  rw [(h.receipts_accept hfresh).countP_eq, List.countP_cons]
  simp only [decide_eq_true_eq]
  rfl

/-- A batch has no more serves accepted than it has entries. -/
theorem processServes_servedFor {params : Params} {orgID : Bytes} {epoch : UInt64}
    {serves : List ServeEntry} {result result' : BatchResult} (hst : Pointers st.store)
    (h : processServes crypto scopeTagsOf params orgID epoch st result serves =
      .ok (st', result')) :
    servedFor st'.store orgID ≤ servedFor st.store orgID + serves.length := by
  induction serves generalizing st result with
  | nil =>
    obtain ⟨rfl, rfl⟩ := Prod.mk.inj (Except.ok.inj h)
    exact Nat.le_refl _
  | cons serve serves ih =>
    obtain ⟨st₁, outcome, hserve, hlater⟩ := processServes_cons_ok h
    rw [List.length_cons]
    rcases processServe_cases hserve with ⟨rfl, -⟩ | ⟨-, rfl, hok⟩
    · have hrest := ih hst hlater
      omega
    · have hrest := ih (hst.accept hok.fresh) hlater
      have hone := servedFor_accept hst hok.fresh orgID
      have hself : (serveReceipt crypto orgID epoch serve).orgID = orgID := rfl
      rw [if_pos hself] at hone
      change servedFor st'.store orgID ≤ servedFor (acceptedStore st.store _) orgID + _ at hrest
      omega

end Served

section Intervals
variable {crypto : Crypto} {scopeTagsOf : Bytes → Option (OrderedMap Bytes Bytes)}
  {authority : Bytes} {orgID hash : Bytes} {epoch : UInt64} {st : State}

/-- The caps of the org and the parameters stay as they are, and the other modules leave the serve
quotas alone. -/
def CapsUnchanged (crypto : Crypto) (scopeTagsOf : Bytes → Option (OrderedMap Bytes Bytes))
    (authority orgID : Bytes) (st : State) : Input → Prop
  | .msg msg => getParams (deliver crypto scopeTagsOf authority st msg).1.store = getParams st.store
  | .otherModules _ _ bandwidth _ => Bandwidth.SameServeQuota orgID st.bandwidth bandwidth

variable (crypto scopeTagsOf authority orgID st) in
/-- Among the messages only a parameter update can fail this. -/
theorem capsUnchanged_msg {msg : Msg} (hmsg : ∀ m, msg ≠ .updateParams m) :
    CapsUnchanged crypto scopeTagsOf authority orgID st (.msg msg) := by
  have htrace := (deliver_changes crypto scopeTagsOf authority st msg).1
  change getParams _ = getParams _
  unfold getParams
  rw [trace_params hmsg htrace]

variable (crypto scopeTagsOf authority) in
/-- An accepted serve batch of the org carries the epoch number. -/
def OneEpochNumber (orgID : Bytes) (epoch : UInt64) (st : State) : Input → Prop
  | .msg (.submitServeBatch m) => m.orgId = orgID →
      (deliver crypto scopeTagsOf authority st (.submitServeBatch m)).2.isOk = true →
        m.epoch = epoch
  | _ => True

variable (crypto scopeTagsOf authority) in
/-- The quota that an accepted serve batch of the org is charged to counts it without overflow. -/
def ChargeFits (orgID : Bytes) (st : State) : Input → Prop
  | .msg (.submitServeBatch m) => m.orgId = orgID →
      (deliver crypto scopeTagsOf authority st (.submitServeBatch m)).2.isOk = true →
        (Bandwidth.quota st.bandwidth orgID m.epoch).serveUsed.toNat + m.serves.length < 2 ^ 64
  | _ => True

/-- The org's serves since a reading of its quota for the epoch number are within the cap of that
number. -/
structure OrgWithin (orgID : Bytes) (epoch cap : UInt64) (served₀ used₀ : Nat) (st : State) :
    Prop where
  pointers : Pointers st.store
  serveCap : (Bandwidth.quota st.bandwidth orgID epoch).serveCap = cap
  metered : Metered cap.toNat served₀ used₀ (servedFor st.store orgID)
    (Bandwidth.quota st.bandwidth orgID epoch).serveUsed.toNat

variable (crypto scopeTagsOf authority) in
theorem pointers_deliver (h : Pointers st.store) (msg : Msg) :
    Pointers (deliver crypto scopeTagsOf authority st msg).1.store :=
  deliver_invariant (fun _ _ _ hs hchange => hs.change hchange) h

/-- Messages that are not serve batches of the org add no serves of it and are not charged to
it. -/
theorem deliver_servedFor_other (h : Pointers st.store) {msg : Msg}
    (hother : ∀ m, msg = .submitServeBatch m → m.orgId ≠ orgID) :
    servedFor (deliver crypto scopeTagsOf authority st msg).1.store orgID =
        servedFor st.store orgID ∧
      Bandwidth.quota (deliver crypto scopeTagsOf authority st msg).1.bandwidth orgID epoch =
        Bandwidth.quota st.bandwidth orgID epoch := by
  constructor
  · refine (deliver_invariant
      (I := fun s => Pointers s ∧ servedFor s orgID = servedFor st.store orgID) ?_ ⟨h, rfl⟩).2
    intro s s' _ hall hchange
    obtain ⟨hs, hserved⟩ := hall
    refine ⟨hs.change hchange, ?_⟩
    cases hchange with
    | accept m serve hmsg hserve hok =>
      have hne : (serveReceipt crypto m.orgId m.epoch serve).orgID ≠ orgID := hother m hmsg
      rw [servedFor_accept hs hok.fresh, if_neg hne]
      exact hserved
    | deny m entry receipt hmsg hentry hok => exact hserved
    | other _ hsame _ =>
      unfold servedFor at hserved ⊢
      rw [hsame.receipt]
      exact hserved
  · rcases deliver_bandwidth crypto scopeTagsOf authority st msg with hsame | ⟨m, hmsg, hconsume⟩
    · rw [hsame]
    · have hsame := (Bandwidth.SameFor.refl orgID st.bandwidth).consume_other (hother m hmsg)
        hconsume
      exact (hsame.quota_eq epoch).symm

/-- A serve batch of the org is charged in full for what it has accepted. -/
theorem OrgWithin.serveBatch {cap : UInt64} {served₀ used₀ : Nat}
    (h : OrgWithin orgID epoch cap served₀ used₀ st) {m : MsgSubmitServeBatch}
    (horg : m.orgId = orgID) (hepoch : m.epoch = epoch)
    (hfits : (Bandwidth.quota st.bandwidth orgID epoch).serveUsed.toNat + m.serves.length < 2 ^ 64)
    {st' : State} {result : BatchResult}
    (hok : submitServeBatch crypto scopeTagsOf st m = .ok (st', result))
    (hpointers : Pointers st'.store) : OrgWithin orgID epoch cap served₀ used₀ st' := by
  subst horg hepoch
  obtain ⟨-, -, bandwidth, hconsume, hserves⟩ := submitServeBatch_ok hok
  have hcharged := submitServeBatch_bandwidth hok
  have hquota := Bandwidth.quota_consume hcharged
  have hstart : Pointers ({ st with bandwidth := bandwidth } : State).store := h.pointers
  have hserved := processServes_servedFor hstart hserves
  have hused := Words.toNat_add_ofNat_of_lt hfits
  have hle := (Bandwidth.consumeServeBandwidth_ok hcharged).1
  rw [UInt64.le_iff_toNat_le, h.serveCap, hused] at hle
  refine ⟨hpointers, ?_, ?_⟩
  · rw [hquota]
    exact h.serveCap
  · rw [hquota]
    change Metered _ _ _ _ ((Bandwidth.quota st.bandwidth m.orgId m.epoch).serveUsed +
      UInt64.ofNat m.serves.length).toNat
    rw [hused]
    exact h.metered.charge hserved hle

theorem orgWithin_step {cap : UInt64} {served₀ used₀ : Nat} (st : State) (input : Input)
    (h : OrgWithin orgID epoch cap served₀ used₀ st)
    (hinput : CapsUnchanged crypto scopeTagsOf authority orgID st input ∧
      OneEpochNumber crypto scopeTagsOf authority orgID epoch st input ∧
      ChargeFits crypto scopeTagsOf authority orgID st input) :
    OrgWithin orgID epoch cap served₀ used₀ ((chain crypto scopeTagsOf authority).next st input) := by
  cases input with
  | otherModules org memory bandwidth reputation =>
    obtain ⟨hused, hcap⟩ := hinput.1.2 epoch
    refine ⟨h.pointers, hcap.trans h.serveCap, ?_⟩
    change Metered _ _ _ _ (Bandwidth.quota bandwidth orgID epoch).serveUsed.toNat
    rw [hused]
    exact h.metered
  | msg msg =>
    change OrgWithin _ _ _ _ _ (deliver crypto scopeTagsOf authority st msg).1
    by_cases haccepted : (deliver crypto scopeTagsOf authority st msg).2.isOk = true
    case neg => rwa [deliver_of_refused haccepted]
    have hpointers := pointers_deliver crypto scopeTagsOf authority h.pointers msg
    by_cases hown : ∃ m, msg = .submitServeBatch m ∧ m.orgId = orgID
    · obtain ⟨m, rfl, horg⟩ := hown
      have hepoch := hinput.2.1 horg haccepted
      have hfits := hinput.2.2 horg haccepted
      have hdelivered := deliver_delivered crypto scopeTagsOf authority st (.submitServeBatch m)
      generalize (deliver crypto scopeTagsOf authority st _).1 = st' at hdelivered hpointers ⊢
      cases hdelivered with
      | failed => exact h
      | serveBatch hok => exact h.serveBatch horg hepoch (hepoch ▸ hfits) hok hpointers
    · have hother : ∀ m, msg = .submitServeBatch m → m.orgId ≠ orgID :=
        fun m hmsg horg => hown ⟨m, hmsg, horg⟩
      obtain ⟨hserved, hquota⟩ := deliver_servedFor_other h.pointers hother
      refine ⟨hpointers, ?_, ?_⟩
      · exact (congrArg Bandwidth.BandwidthState.serveCap hquota).trans h.serveCap
      · have hmetered := h.metered
        rw [← hserved, ← hquota] at hmetered
        exact hmetered

/-- The serves of one memory since a reading of its count are within the limit. -/
structure MemoryWithin (orgID hash : Bytes) (epoch : UInt64) (limit : UInt32)
    (served₀ used₀ : Nat) (st : State) : Prop where
  pointers : Pointers st.store
  current : (getParams st.store).maxServesPerMemoryPerEpoch = limit
  metered : Metered limit.toNat served₀ used₀ (servedOf st.store orgID hash)
    (getMemoryServeCount st.store orgID hash epoch).toNat

/-- A change under a message whose serves for the org carry the epoch number. -/
theorem metered_change {memory : Memory.Store} {msg : Msg} {limit : UInt32} {served₀ used₀ : Nat}
    {s s' : Store} (hpointers : Pointers s)
    (hlimit : ∀ m, msg = .submitServeBatch m →
      (getParams s).maxServesPerMemoryPerEpoch = limit)
    (h : Metered limit.toNat served₀ used₀ (servedOf s orgID hash)
      (getMemoryServeCount s orgID hash epoch).toNat)
    (hepoch : ∀ m, msg = .submitServeBatch m → m.orgId = orgID → m.epoch = epoch)
    (hchange : Change crypto scopeTagsOf memory msg s s') :
    Metered limit.toNat served₀ used₀ (servedOf s' orgID hash)
      (getMemoryServeCount s' orgID hash epoch).toNat := by
  cases hchange with
  | accept m serve hmsg hserve hok =>
    rw [servedOf_accept hpointers hok.fresh, getMemoryServeCount_acceptedStore]
    change Metered _ _ _ (_ + if m.orgId = orgID ∧ serve.memoryContentHash = hash then 1 else 0)
      (UInt64.toNat
        (if orgID = m.orgId ∧ hash = serve.memoryContentHash ∧ epoch = m.epoch then _ else _))
    by_cases hsame : m.orgId = orgID ∧ serve.memoryContentHash = hash
    · obtain ⟨rfl, rfl⟩ := hsame
      obtain rfl := hepoch m hmsg rfl
      have hbelow := hok.below
      rw [hlimit m hmsg, UInt64.lt_iff_toNat_lt, UInt32.toNat_toUInt64] at hbelow
      have hsucc : (getMemoryServeCount s m.orgId serve.memoryContentHash m.epoch + 1).toNat =
          (getMemoryServeCount s m.orgId serve.memoryContentHash m.epoch).toNat + 1 := by
        apply Words.toNat_add_of_lt
        have hbound := limit.toNat_lt
        change _ + 1 < 2 ^ 64
        omega
      rw [if_pos ⟨rfl, rfl⟩, if_pos ⟨rfl, rfl, rfl⟩, hsucc]
      exact h.charge (Nat.le_refl _) hbelow
    · have hother : ¬ (orgID = m.orgId ∧ hash = serve.memoryContentHash ∧ epoch = m.epoch) :=
        fun hall => hsame ⟨hall.1.symm, hall.2.1.symm⟩
      rw [if_neg hsame, if_neg hother]
      exact h
  | deny m entry receipt hmsg hentry hok => exact h
  | other _ hsame _ =>
    unfold servedOf getMemoryServeCount at h ⊢
    rw [hsame.receipt, hsame.memCount]
    exact h

theorem memoryWithin_step {limit : UInt32} {served₀ used₀ : Nat} (st : State) (input : Input)
    (h : MemoryWithin orgID hash epoch limit served₀ used₀ st)
    (hinput : CapsUnchanged crypto scopeTagsOf authority orgID st input ∧
      OneEpochNumber crypto scopeTagsOf authority orgID epoch st input) :
    MemoryWithin orgID hash epoch limit served₀ used₀
      ((chain crypto scopeTagsOf authority).next st input) := by
  cases input with
  | otherModules org memory bandwidth reputation => exact ⟨h.pointers, h.current, h.metered⟩
  | msg msg =>
    change MemoryWithin _ _ _ _ _ _ (deliver crypto scopeTagsOf authority st msg).1
    by_cases haccepted : (deliver crypto scopeTagsOf authority st msg).2.isOk = true
    case neg => rwa [deliver_of_refused haccepted]
    have hparams : getParams (deliver crypto scopeTagsOf authority st msg).1.store =
        getParams st.store := hinput.1
    have hepoch : ∀ m, msg = .submitServeBatch m → m.orgId = orgID → m.epoch = epoch := by
      intro m heq horg
      subst heq
      exact hinput.2 horg haccepted
    refine ⟨pointers_deliver crypto scopeTagsOf authority h.pointers msg,
      (congrArg Params.maxServesPerMemoryPerEpoch hparams).trans h.current, ?_⟩
    refine (deliver_invariant
      (I := fun s => Pointers s ∧ Metered limit.toNat served₀ used₀ (servedOf s orgID hash)
        (getMemoryServeCount s orgID hash epoch).toNat) ?_ ⟨h.pointers, h.metered⟩).2
    intro s s' htrace hall hchange
    obtain ⟨hs, hmetered⟩ := hall
    refine ⟨hs.change hchange, metered_change hs ?_ hmetered hepoch hchange⟩
    intro m heq
    subst heq
    rw [← h.current]
    unfold getParams
    rw [trace_params (fun _ => Msg.noConfusion) htrace]

variable (crypto scopeTagsOf authority) in
/-- Over an interval in which all accepted serve batches of the org carry one epoch number, each of
its memories has at most the limit of serves accepted. If the cap of that number is no larger than
the current one and the quota does not overflow, the org has at most its cap accepted. -/
theorem serves_within_caps {st : State} (hst : Pointers st.store) (orgID : Bytes) (epoch : UInt64)
    (inputs : List Input)
    (hcaps : (chain crypto scopeTagsOf authority).Along
      (CapsUnchanged crypto scopeTagsOf authority orgID) st inputs)
    (hone : (chain crypto scopeTagsOf authority).Along
      (OneEpochNumber crypto scopeTagsOf authority orgID epoch) st inputs) :
    ((chain crypto scopeTagsOf authority).Along
        (ChargeFits crypto scopeTagsOf authority orgID) st inputs →
      (Bandwidth.quota st.bandwidth orgID epoch).serveCap ≤
        (Bandwidth.currentCaps st.bandwidth orgID).2 →
      servedFor ((chain crypto scopeTagsOf authority).run st inputs).store orgID ≤
        servedFor st.store orgID + (Bandwidth.currentCaps st.bandwidth orgID).2.toNat) ∧
      ∀ hash, servedOf ((chain crypto scopeTagsOf authority).run st inputs).store orgID hash ≤
        servedOf st.store orgID hash + (getParams st.store).maxServesPerMemoryPerEpoch.toNat := by
  constructor
  · intro hfits hcap
    have hend := (chain crypto scopeTagsOf authority).run_invariant orgWithin_step
      ⟨hst, rfl, .start _ _ _⟩ ((chain crypto scopeTagsOf authority).along_and hcaps
        ((chain crypto scopeTagsOf authority).along_and hone hfits))
    have hserved := hend.metered.served_le
    rw [UInt64.le_iff_toNat_le] at hcap
    omega
  · intro hash
    have hend := (chain crypto scopeTagsOf authority).run_invariant memoryWithin_step
      (⟨hst, rfl, .start _ _ _⟩ : MemoryWithin orgID hash epoch _ _ _ st)
      ((chain crypto scopeTagsOf authority).along_and hcaps hone)
    exact hend.metered.served_le

end Intervals

section Sample

/-- Org `a` reports a serve of the memory by the key in the epoch. -/
def sampleBatchAt (epoch : UInt64) (signature : Bytes) : MsgSubmitServeBatch where
  signer := ascii "sa"
  orgId := ascii "a"
  epoch := epoch
  serves := [{ sampleServe with serveSig := signature }]

/-- An org that may have one serve accepted in an epoch, and one of each memory. -/
def sampleCapped : State :=
  { sampleState with
    store := { params := some { defaultParams with maxServesPerMemoryPerEpoch := 1 } }
    bandwidth := Bandwidth.setBandwidthOverride {} (ascii "a") 1 1 }

theorem sample_within_caps :
    servedFor ((chain sampleCrypto (fun _ => none) []).run sampleCapped
      [.msg (.submitServeBatch (sampleBatchAt 1 sampleSignature))]).store (ascii "a") ≤ 1 :=
  (serves_within_caps sampleCrypto (fun _ => none) [] (consistent_empty.pointers.congr
      (sameRecords_frame _ _ _ _ _ _) : Pointers sampleCapped.store)
    (ascii "a") 1 [.msg (.submitServeBatch (sampleBatchAt 1 sampleSignature))]
    ⟨capsUnchanged_msg _ _ _ _ _ nofun, trivial⟩ ⟨fun _ _ => rfl, trivial⟩).1
    ⟨fun _ _ => by decide +kernel, trivial⟩ (by decide +kernel)

/-- The same serve under two epoch numbers, with the caps unchanged: two serves are accepted for
the org and for the memory where the caps are one. -/
theorem caps_spent_twice :
    (chain sampleCrypto (fun _ => none) []).Along
        (CapsUnchanged sampleCrypto (fun _ => none) [] (ascii "a")) sampleCapped
        [.msg (.submitServeBatch (sampleBatchAt 1 sampleSignature)),
          .msg (.submitServeBatch (sampleBatchAt 2 sampleSignature2))] ∧
      (Bandwidth.currentCaps sampleCapped.bandwidth (ascii "a")).2 = 1 ∧
      (getParams sampleCapped.store).maxServesPerMemoryPerEpoch = 1 ∧
      servedFor ((chain sampleCrypto (fun _ => none) []).run sampleCapped
        [.msg (.submitServeBatch (sampleBatchAt 1 sampleSignature)),
          .msg (.submitServeBatch (sampleBatchAt 2 sampleSignature2))]).store (ascii "a") = 2 ∧
      servedOf ((chain sampleCrypto (fun _ => none) []).run sampleCapped
        [.msg (.submitServeBatch (sampleBatchAt 1 sampleSignature)),
          .msg (.submitServeBatch (sampleBatchAt 2 sampleSignature2))]).store (ascii "a")
            sampleHash = 2 :=
  ⟨⟨capsUnchanged_msg _ _ _ _ _ nofun, capsUnchanged_msg _ _ _ _ _ nofun, trivial⟩,
    by decide +kernel, by decide +kernel, by decide +kernel, by decide +kernel⟩

end Sample

end WeVibeChain.Serve
