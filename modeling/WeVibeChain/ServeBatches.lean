import WeVibeChain.ServeRecords

/-!
# Batches that are sent again or split

The loop over a batch decides entry by entry, against the state that the entries
before have left. An entry that has had its turn is refused from then on: an
accepted one by its fingerprint, a rejected one for the reason it was rejected for,
since fingerprints stay and the count of a memory does not fall. The quota is
charged before the loop and not read in it, so a batch can be cut anywhere.
-/

set_option autoImplicit false

namespace WeVibeChain.Serve

open Bytes

section Refusal
variable (crypto : Crypto) (scopeTagsOf : Bytes → Option (OrderedMap Bytes Bytes))

/-- Why the loop refuses an entry in a state. -/
inductive Refused (params : Params) (orgID : Bytes) (epoch : UInt64) (st : State)
    (serve : ServeEntry) : Prop where
  | malformed (h : serve.serveKeyPubkey.length ≠ 32 ∨ serve.serveSig.length ≠ 64)
  | unsigned (h : signatureValid crypto orgID epoch serve = false)
  | known (h : hasServeFingerprint st.store (serveReceipt crypto orgID epoch serve).fingerprint)
  | unapproved (e : Memory.Error)
      (h : Memory.getApprovedMemory st.memory orgID serve.memoryContentHash = .error e)
  | outOfEpoch (h : Memory.isValidInEpoch scopeTagsOf st.memory orgID
      (hexEncode serve.memoryContentHash) epoch = .ok false)
  | capped
      (hvalid : Memory.isValidInEpoch scopeTagsOf st.memory orgID
        (hexEncode serve.memoryContentHash) epoch = .ok true)
      (h : params.maxServesPerMemoryPerEpoch.toUInt64 ≤
        getMemoryServeCount st.store orgID serve.memoryContentHash epoch)

variable {crypto scopeTagsOf} {params : Params} {orgID : Bytes} {epoch : UInt64} {st st' : State}
  {serve other : ServeEntry} {outcome : ServeOutcome}

theorem processServe_of_refused (h : Refused crypto scopeTagsOf params orgID epoch st serve) :
    ∃ outcome, outcome ≠ .accepted ∧
      processServe crypto scopeTagsOf params orgID epoch st serve = .ok (st, outcome) := by
  unfold processServe
  dsimp only
  split
  · exact ⟨.invalid, nofun, rfl⟩
  rename_i hlengths
  split
  · exact ⟨.invalid, nofun, rfl⟩
  rename_i hsigned
  split
  · exact ⟨.duplicate, nofun, rfl⟩
  rename_i hfresh
  split
  · exact ⟨.invalid, nofun, rfl⟩
  rename_i mem hmem
  cases h with
  | malformed h => exact absurd h hlengths
  | unsigned h => exact absurd h hsigned
  | known h => exact absurd h hfresh
  | unapproved e h =>
    rw [hmem] at h
    cases h
  | outOfEpoch h =>
    rw [h]
    exact ⟨.invalid, nofun, rfl⟩
  | capped hvalid h =>
    rw [hvalid]
    exact ⟨.invalid, nofun, if_pos h⟩

theorem hasServeFingerprint_accepted (s : Store) (r : ServeReceipt) {fp : Bytes}
    (h : fp = r.fingerprint ∨ hasServeFingerprint s fp) :
    hasServeFingerprint (acceptedStore s r) fp := by
  obtain ⟨stats, hframe⟩ := acceptedStore_frame s r
  unfold hasServeFingerprint at h ⊢
  rw [hframe, OrderedMap.has_set]
  rcases h with rfl | h
  · simp
  · simp [h]

/-- An entry that has had its turn is refused. -/
theorem refused_of_processServe
    (h : processServe crypto scopeTagsOf params orgID epoch st serve = .ok (st', outcome)) :
    Refused crypto scopeTagsOf params orgID epoch st' serve := by
  have hkept : ∀ o, Refused crypto scopeTagsOf params orgID epoch st serve →
      (.ok (st, o) : Except Error _) = .ok (st', outcome) →
      Refused crypto scopeTagsOf params orgID epoch st' serve := by
    intro o hrefused heq
    obtain ⟨rfl, -⟩ := Prod.mk.inj (Except.ok.inj heq)
    exact hrefused
  unfold processServe at h
  dsimp only at h
  split at h
  · exact hkept _ (.malformed ‹_›) h
  split at h
  · exact hkept _ (.unsigned ‹_›) h
  split at h
  · exact hkept _ (.known ‹_›) h
  split at h
  · rename_i e hmem
    exact hkept _ (.unapproved e hmem) h
  split at h
  · cases h
  · exact hkept _ (.outOfEpoch ‹_›) h
  rename_i hvalid
  split at h
  · exact hkept _ (.capped hvalid ‹_›) h
  obtain ⟨rfl, -⟩ := Prod.mk.inj (Except.ok.inj h)
  exact .known (hasServeFingerprint_accepted st.store _ (Or.inl rfl))

/-- The count of a memory only grows: one below a cap of 32 bits does not wrap. -/
theorem getMemoryServeCount_le_accepted {s : Store} {r : ServeReceipt} {cap : UInt32}
    (hbelow : getMemoryServeCount s r.orgID r.contentHash r.epoch < cap.toUInt64)
    (orgID hash : Bytes) (epoch : UInt64) :
    getMemoryServeCount s orgID hash epoch ≤
      getMemoryServeCount (acceptedStore s r) orgID hash epoch := by
  obtain ⟨stats, hframe⟩ := acceptedStore_frame s r
  unfold getMemoryServeCount at hbelow ⊢
  rw [hframe, OrderedMap.count_bump]
  split
  · rename_i hkey
    rw [hkey]
    have hlt := UInt64.lt_iff_toNat_lt.mp hbelow
    have hcap : cap.toUInt64.toNat < 2 ^ 32 := cap.toNat_lt
    rw [UInt64.le_iff_toNat_le, Words.toNat_add_of_lt (show _ + 1 < _ by omega)]
    exact Nat.le_add_right _ _
  · exact UInt64.le_refl _

theorem Refused.accept (h : Refused crypto scopeTagsOf params orgID epoch st serve)
    (hother : Acceptable crypto scopeTagsOf st.memory params orgID epoch st.store other) :
    Refused crypto scopeTagsOf params orgID epoch
      (acceptedState st (serveReceipt crypto orgID epoch other)) serve := by
  cases h with
  | malformed h => exact .malformed h
  | unsigned h => exact .unsigned h
  | known h => exact .known (hasServeFingerprint_accepted _ _ (Or.inr h))
  | unapproved e h => exact .unapproved e h
  | outOfEpoch h => exact .outOfEpoch h
  | capped hvalid h =>
    have hbelow : getMemoryServeCount st.store (serveReceipt crypto orgID epoch other).orgID
        (serveReceipt crypto orgID epoch other).contentHash
        (serveReceipt crypto orgID epoch other).epoch <
          params.maxServesPerMemoryPerEpoch.toUInt64 := hother.below
    exact .capped hvalid (UInt64.le_trans h (getMemoryServeCount_le_accepted hbelow _ _ _))

theorem Refused.kept (h : Refused crypto scopeTagsOf params orgID epoch st serve)
    (hother : processServe crypto scopeTagsOf params orgID epoch st other = .ok (st', outcome)) :
    Refused crypto scopeTagsOf params orgID epoch st' serve := by
  rcases processServe_cases hother with ⟨rfl, -⟩ | ⟨-, rfl, hok⟩
  · exact h
  · exact h.accept hok

variable {serves : List ServeEntry} {result result' : BatchResult}

/-- After the loop every entry of the batch is refused. -/
theorem refused_of_processServes
    (h : processServes crypto scopeTagsOf params orgID epoch st result serves = .ok (st', result'))
    (hserve : serve ∈ serves ∨ Refused crypto scopeTagsOf params orgID epoch st serve) :
    Refused crypto scopeTagsOf params orgID epoch st' serve := by
  induction serves generalizing st result with
  | nil =>
    obtain ⟨rfl, -⟩ := Prod.mk.inj (Except.ok.inj h)
    exact hserve.resolve_left List.not_mem_nil
  | cons first serves ih =>
    obtain ⟨st₁, outcome, hfirst, hrest⟩ := processServes_cons_ok h
    apply ih hrest
    rcases hserve with hmem | hrefused
    · rcases List.mem_cons.mp hmem with rfl | hlater
      · exact Or.inr (refused_of_processServe hfirst)
      · exact Or.inl hlater
    · exact Or.inr (hrefused.kept hfirst)

/-- A batch of refused entries changes nothing. -/
theorem processServes_of_refused
    (h : ∀ serve ∈ serves, Refused crypto scopeTagsOf params orgID epoch st serve)
    (result : BatchResult) :
    ∃ result', processServes crypto scopeTagsOf params orgID epoch st result serves =
        .ok (st, result') ∧ result'.accepted = result.accepted := by
  induction serves generalizing result with
  | nil => exact ⟨result, rfl, rfl⟩
  | cons serve serves ih =>
    rw [List.forall_mem_cons] at h
    obtain ⟨outcome, hne, hserve⟩ := processServe_of_refused h.1
    obtain ⟨result', hrest, haccepted⟩ := ih h.2 (result.tally outcome)
    refine ⟨result', ?_, ?_⟩
    · rw [processServes, hserve]
      exact hrest
    · rw [haccepted]
      cases outcome with
      | accepted => exact absurd rfl hne
      | duplicate => rfl
      | invalid => rfl

end Refusal

section Counts

/-- The entries that a batch has been counted for. -/
def BatchResult.total (result : BatchResult) : Nat :=
  result.accepted.toNat + result.rejectedDuplicate.toNat + result.rejectedInvalid.toNat

theorem BatchResult.total_tally {result : BatchResult} (h : result.total + 1 < 2 ^ 64)
    (outcome : ServeOutcome) : (result.tally outcome).total = result.total + 1 := by
  have hone : (1 : UInt64).toNat = 1 := rfl
  unfold BatchResult.total at h ⊢
  cases outcome with
  | accepted =>
    simp only [BatchResult.tally]
    rw [Words.toNat_add_of_lt (by omega)]
    omega
  | duplicate =>
    simp only [BatchResult.tally]
    rw [Words.toNat_add_of_lt (by omega)]
    omega
  | invalid =>
    simp only [BatchResult.tally]
    rw [Words.toNat_add_of_lt (by omega)]
    omega

variable {crypto : Crypto} {scopeTagsOf : Bytes → Option (OrderedMap Bytes Bytes)}
  {params : Params} {orgID : Bytes} {epoch : UInt64} {st st' : State} {serves : List ServeEntry}
  {result result' : BatchResult}

theorem total_processServes
    (h : processServes crypto scopeTagsOf params orgID epoch st result serves = .ok (st', result'))
    (hfits : result.total + serves.length < 2 ^ 64) :
    result'.total = result.total + serves.length := by
  induction serves generalizing st result with
  | nil =>
    obtain ⟨-, rfl⟩ := Prod.mk.inj (Except.ok.inj h)
    rfl
  | cons serve serves ih =>
    rw [List.length_cons] at hfits ⊢
    obtain ⟨st₁, outcome, -, hlater⟩ := processServes_cons_ok h
    have htally := BatchResult.total_tally (show result.total + 1 < 2 ^ 64 by omega) outcome
    have hrest := ih hlater (by omega)
    omega

theorem total_processServeBatch
    (h : processServeBatch crypto scopeTagsOf st orgID epoch serves = .ok (st', result)) :
    result.total = serves.length := by
  obtain ⟨hlength, bandwidth, -, hserves⟩ := processServeBatch_ok h
  have hmax := (getParams st.store).maxServesPerBatch.toNat_lt
  have htotal := total_processServes hserves (show 0 + serves.length < 2 ^ 64 by omega)
  exact htotal.trans (Nat.zero_add _)

end Counts

section Charge
variable (crypto : Crypto) (scopeTagsOf : Bytes → Option (OrderedMap Bytes Bytes))
  (params : Params) (orgID : Bytes) (epoch : UInt64)

/-- A turn of the loop does not look at the quota. -/
theorem processServe_bandwidth (st : State) (bandwidth : Bandwidth.Store) (serve : ServeEntry) :
    processServe crypto scopeTagsOf params orgID epoch { st with bandwidth := bandwidth } serve =
      (processServe crypto scopeTagsOf params orgID epoch st serve).map
        fun r => ({ r.1 with bandwidth := bandwidth }, r.2) := by
  unfold processServe
  dsimp only
  split
  · rfl
  split
  · rfl
  split
  · rfl
  split
  · rfl
  split
  · rfl
  · rfl
  split
  · rfl
  · rfl

theorem processServes_bandwidth (st : State) (bandwidth : Bandwidth.Store) (result : BatchResult)
    (serves : List ServeEntry) :
    processServes crypto scopeTagsOf params orgID epoch { st with bandwidth := bandwidth } result
        serves =
      (processServes crypto scopeTagsOf params orgID epoch st result serves).map
        fun r => ({ r.1 with bandwidth := bandwidth }, r.2) := by
  induction serves generalizing st result with
  | nil => rfl
  | cons serve serves ih =>
    unfold processServes
    rw [processServe_bandwidth]
    cases processServe crypto scopeTagsOf params orgID epoch st serve with
    | error e => rfl
    | ok r => exact ih r.1 (result.tally r.2)

variable {crypto scopeTagsOf orgID epoch} {st st' : State} {result : BatchResult}

/-- A batch is a charge and a loop, independent of each other. -/
theorem processServeBatch_of_loop {serves : List ServeEntry} {bandwidth charged : Bandwidth.Store}
    (hlength : serves.length ≤ (getParams st.store).maxServesPerBatch.toNat)
    (hcharge : Bandwidth.consumeServeBandwidth bandwidth orgID epoch
      (UInt64.ofNat serves.length) = .ok charged)
    (hloop : processServes crypto scopeTagsOf (getParams st.store) orgID epoch st {} serves =
      .ok (st', result)) :
    processServeBatch crypto scopeTagsOf { st with bandwidth := bandwidth } orgID epoch serves =
      .ok ({ st' with bandwidth := charged }, result) := by
  unfold processServeBatch
  dsimp only
  rw [if_neg (Nat.not_lt.mpr hlength), hcharge]
  dsimp only
  rw [processServes_bandwidth, hloop]
  rfl

end Charge

section Again
variable {crypto : Crypto} {scopeTagsOf : Bytes → Option (OrderedMap Bytes Bytes)}
  {orgID : Bytes} {epoch : UInt64} {st st' : State} {serves : List ServeEntry} {result : BatchResult}

theorem getParams_processServes {params : Params} {result' : BatchResult}
    (h : processServes crypto scopeTagsOf params orgID epoch st result serves = .ok (st', result')) :
    getParams st'.store = getParams st.store := by
  refine processServes_invariant (I := fun t _ => getParams t.store = getParams st.store) ?_ rfl h
  intro t r serve _ t' outcome ht hstep
  rcases processServe_cases hstep with ⟨rfl, -⟩ | ⟨-, rfl, -⟩
  · exact ht
  · exact (getParams_acceptedStore _ _).trans ht

/-- The counts of a batch add up to its length. Sent again, it lacks the bandwidth or has nothing
accepted and writes nothing outside the quota. -/
theorem batch_sent_again_refused
    (h : processServeBatch crypto scopeTagsOf st orgID epoch serves = .ok (st', result)) :
    result.accepted.toNat + result.rejectedDuplicate.toNat + result.rejectedInvalid.toNat =
        serves.length ∧
      (processServeBatch crypto scopeTagsOf st' orgID epoch serves =
          .error (.bandwidth .serveBandwidthExhausted) ∨
        ∃ st'' result'', processServeBatch crypto scopeTagsOf st' orgID epoch serves =
            .ok (st'', result'') ∧ result''.accepted = 0 ∧
          st''.store = st'.store ∧ st''.memory = st'.memory ∧ st''.reputation = st'.reputation) := by
  refine ⟨total_processServeBatch h, ?_⟩
  obtain ⟨hlength, bandwidth, -, hserves⟩ := processServeBatch_ok h
  have hparams : getParams st'.store = getParams st.store :=
    (getParams_processServes hserves).trans rfl
  cases hconsume : Bandwidth.consumeServeBandwidth st'.bandwidth orgID epoch
      (UInt64.ofNat serves.length) with
  | error e =>
    left
    unfold processServeBatch
    dsimp only
    rw [hparams, if_neg (Nat.not_lt.mpr hlength), hconsume,
      (Bandwidth.consumeServeBandwidth_eq_error_iff.mp hconsume).2]
  | ok charged =>
    right
    obtain ⟨result'', hloop, haccepted⟩ := processServes_of_refused
      (fun serve hserve => refused_of_processServes hserves (Or.inl hserve)) {}
    rw [← hparams] at hlength hloop
    exact ⟨_, result'', processServeBatch_of_loop hlength hconsume hloop, haccepted, rfl, rfl, rfl⟩

/-- A serve, the same again and one without a signature. -/
def sampleServes : List ServeEntry :=
  [sampleServe, sampleServe, { sampleServe with serveSig := [] }]

theorem batch_sent_again_sample :
    ∃ st', processServeBatch sampleCrypto (fun _ => none) sampleState (ascii "a") 1 sampleServes =
        .ok (st', ⟨1, 1, 1⟩) ∧
      (processServeBatch sampleCrypto (fun _ => none) st' (ascii "a") 1 sampleServes =
          .error (.bandwidth .serveBandwidthExhausted) ∨
        ∃ st'' result'', processServeBatch sampleCrypto (fun _ => none) st' (ascii "a") 1
            sampleServes = .ok (st'', result'') ∧ result''.accepted = 0 ∧
          st''.store = st'.store ∧ st''.memory = st'.memory ∧ st''.reputation = st'.reputation) := by
  have hcounts : (processServeBatch sampleCrypto (fun _ => none) sampleState (ascii "a") 1
      sampleServes).map Prod.snd = .ok ⟨1, 1, 1⟩ := by decide +kernel
  obtain ⟨⟨st', result⟩, hbatch, rfl⟩ := Except.map_eq_ok hcounts
  exact ⟨st', hbatch, (batch_sent_again_refused hbatch).2⟩

end Again

section Split
variable (crypto : Crypto) (scopeTagsOf : Bytes → Option (OrderedMap Bytes Bytes))
  (params : Params) (orgID : Bytes) (epoch : UInt64)

def BatchResult.add (a b : BatchResult) : BatchResult where
  accepted := a.accepted + b.accepted
  rejectedDuplicate := a.rejectedDuplicate + b.rejectedDuplicate
  rejectedInvalid := a.rejectedInvalid + b.rejectedInvalid

theorem BatchResult.add_empty (a : BatchResult) : a.add {} = a := by
  simp [BatchResult.add]

theorem BatchResult.tally_add (a b : BatchResult) (outcome : ServeOutcome) :
    (a.tally outcome).add b = a.add ((({} : BatchResult).tally outcome).add b) := by
  cases outcome with
  | accepted => simp [BatchResult.add, BatchResult.tally, UInt64.add_assoc]
  | duplicate => simp [BatchResult.add, BatchResult.tally, UInt64.add_assoc]
  | invalid => simp [BatchResult.add, BatchResult.tally, UInt64.add_assoc]

/-- The counts so far are only added to. -/
theorem processServes_from (st : State) (result : BatchResult) (serves : List ServeEntry) :
    processServes crypto scopeTagsOf params orgID epoch st result serves =
      (processServes crypto scopeTagsOf params orgID epoch st {} serves).map
        fun r => (r.1, result.add r.2) := by
  induction serves generalizing st result with
  | nil =>
    change Except.ok (st, result) = Except.ok (st, result.add {})
    rw [BatchResult.add_empty]
  | cons serve serves ih =>
    unfold processServes
    cases processServe crypto scopeTagsOf params orgID epoch st serve with
    | error e => rfl
    | ok r =>
      dsimp only
      rw [ih r.1 (result.tally r.2), ih r.1 (({} : BatchResult).tally r.2)]
      cases processServes crypto scopeTagsOf params orgID epoch r.1 {} serves with
      | error e => rfl
      | ok final => exact congrArg (fun x => Except.ok (final.1, x)) (BatchResult.tally_add _ _ _)

theorem processServes_append (st : State) (result : BatchResult) (xs ys : List ServeEntry) :
    processServes crypto scopeTagsOf params orgID epoch st result (xs ++ ys) =
      (processServes crypto scopeTagsOf params orgID epoch st result xs).bind fun r =>
        processServes crypto scopeTagsOf params orgID epoch r.1 r.2 ys := by
  induction xs generalizing st result with
  | nil => rfl
  | cons serve xs ih =>
    rw [List.cons_append, processServes, processServes]
    cases processServe crypto scopeTagsOf params orgID epoch st serve with
    | error e => rfl
    | ok r => exact ih r.1 (result.tally r.2)

variable {crypto scopeTagsOf params orgID epoch} {st st' : State} {xs ys : List ServeEntry}
  {result : BatchResult}

/-- The loop over two lists is the loop over the second from where the first has led. -/
theorem processServes_append_ok
    (h : processServes crypto scopeTagsOf params orgID epoch st {} (xs ++ ys) = .ok (st', result)) :
    ∃ st₁ first second,
      processServes crypto scopeTagsOf params orgID epoch st {} xs = .ok (st₁, first) ∧
      processServes crypto scopeTagsOf params orgID epoch st₁ {} ys = .ok (st', second) ∧
      result = first.add second := by
  rw [processServes_append] at h
  cases hxs : processServes crypto scopeTagsOf params orgID epoch st {} xs with
  | error e =>
    rw [hxs] at h
    cases h
  | ok r =>
    obtain ⟨st₁, first⟩ := r
    rw [hxs] at h
    change processServes crypto scopeTagsOf params orgID epoch st₁ first ys = _ at h
    rw [processServes_from] at h
    obtain ⟨⟨st₂, second⟩, hys, heq⟩ := Except.map_eq_ok h
    obtain ⟨rfl, rfl⟩ := Prod.mk.inj heq
    exact ⟨st₁, first, second, rfl, hys, rfl⟩

theorem BatchResult.toNat_add {a b : BatchResult} (h : a.total + b.total < 2 ^ 64) :
    (a.add b).accepted.toNat = a.accepted.toNat + b.accepted.toNat ∧
      (a.add b).rejectedDuplicate.toNat =
        a.rejectedDuplicate.toNat + b.rejectedDuplicate.toNat ∧
      (a.add b).rejectedInvalid.toNat = a.rejectedInvalid.toNat + b.rejectedInvalid.toNat := by
  unfold BatchResult.total at h
  exact ⟨Words.toNat_add_of_lt (by omega), Words.toNat_add_of_lt (by omega),
    Words.toNat_add_of_lt (by omega)⟩

/-- A batch that goes through also does in two parts, with the same outcome. -/
theorem batch_split_same
    (hfits : (Bandwidth.quota st.bandwidth orgID epoch).serveUsed.toNat +
      (xs.length + ys.length) < 2 ^ 64)
    (h : processServeBatch crypto scopeTagsOf st orgID epoch (xs ++ ys) = .ok (st', result)) :
    ∃ st₁ first second,
      processServeBatch crypto scopeTagsOf st orgID epoch xs = .ok (st₁, first) ∧
      processServeBatch crypto scopeTagsOf st₁ orgID epoch ys = .ok (st', second) ∧
      result.accepted.toNat = first.accepted.toNat + second.accepted.toNat ∧
      result.rejectedDuplicate.toNat =
        first.rejectedDuplicate.toNat + second.rejectedDuplicate.toNat ∧
      result.rejectedInvalid.toNat =
        first.rejectedInvalid.toNat + second.rejectedInvalid.toNat := by
  obtain ⟨hlength, bandwidth, hconsume, hserves⟩ := processServeBatch_ok h
  rw [List.length_append] at hlength hconsume
  obtain ⟨charged, hfirst, hsecond⟩ := Bandwidth.consumeServeBandwidth_split hfits hconsume
  rw [processServes_bandwidth] at hserves
  obtain ⟨⟨st₂, result₂⟩, hloop, heq⟩ := Except.map_eq_ok hserves
  obtain ⟨rfl, rfl⟩ := Prod.mk.inj heq
  obtain ⟨st₁, first, second, hxs, hys, rfl⟩ := processServes_append_ok hloop
  have hparams := getParams_processServes hxs
  have hbatch₁ := processServeBatch_of_loop (show xs.length ≤ _ by omega) hfirst hxs
  rw [← hparams] at hlength hys
  have hbatch₂ := processServeBatch_of_loop (show ys.length ≤ _ by omega) hsecond hys
  have htotal₁ := total_processServeBatch hbatch₁
  have htotal₂ := total_processServeBatch hbatch₂
  refine ⟨_, first, second, hbatch₁, hbatch₂, ?_⟩
  exact BatchResult.toNat_add (by omega)

theorem batch_split_sample :
    ∃ st' st₁ first second,
      processServeBatch sampleCrypto (fun _ => none) sampleState (ascii "a") 1 sampleServes =
        .ok (st', ⟨1, 1, 1⟩) ∧
      processServeBatch sampleCrypto (fun _ => none) sampleState (ascii "a") 1 [sampleServe] =
        .ok (st₁, first) ∧
      processServeBatch sampleCrypto (fun _ => none) st₁ (ascii "a") 1
        [sampleServe, { sampleServe with serveSig := [] }] = .ok (st', second) := by
  have hcounts : (processServeBatch sampleCrypto (fun _ => none) sampleState (ascii "a") 1
      sampleServes).map Prod.snd = .ok ⟨1, 1, 1⟩ := by decide +kernel
  obtain ⟨⟨st', result⟩, hbatch, rfl⟩ := Except.map_eq_ok hcounts
  have hsplit : processServeBatch sampleCrypto (fun _ => none) sampleState (ascii "a") 1
      ([sampleServe] ++ [sampleServe, { sampleServe with serveSig := [] }]) = _ := hbatch
  obtain ⟨st₁, first, second, hxs, hys, _⟩ := batch_split_same (by decide +kernel) hsplit
  exact ⟨st', st₁, first, second, hbatch, hxs, hys⟩

end Split

end WeVibeChain.Serve
