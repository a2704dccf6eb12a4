import WeVibeChain.EventLog
import WeVibeChain.Node
import WeVibeChain.Preimages

/-!
# Signed texts are accepted once

Serves, denials, events, submitted memories and identity migrations are signed off
the chain, and anyone who holds a signed text can send it again. Each module has its
own mark for what it has accepted: three kinds of fingerprint, the key of an approved
memory and the flag of an alias. Here they are read as one mark on statements, and the
accepted statements of all modules as one log. No text is in the log twice.

A batch is a run of its own: each entry is accepted or rejected in the state that the
entries before it have left.
-/

set_option autoImplicit false

namespace WeVibeChain.Preimages

open Bytes

/-- The key that a statement has to be signed with. -/
def Statement.signer : Statement → Option Bytes
  | serve _ _ _ serveKeyPubkey _ _ => some serveKeyPubkey
  | denial _ _ _ serveKeyPubkey _ _ => some serveKeyPubkey
  | event _ _ _ _ signerPubkey _ _ => some signerPubkey
  | submitMemory _ contributorPubkey _ _ _ _ _ _ _ => hexDecode contributorPubkey
  | migrateIdentity passkeyPubkey _ _ => hexDecode passkeyPubkey

/-- There is a signature of the statement's text by the key that the statement names. -/
def Statement.Signed (crypto : Crypto) (t : Statement) : Prop :=
  ∃ text key signature, t.text = .ok text ∧ t.signer = some key ∧
    crypto.ed25519Verify key text signature = true

/-- Different well-formed statements with a text have different texts. -/
theorem nodup_texts {log : List Statement}
    (hlog : ∀ t ∈ log, t.WellFormed ∧ ∃ text, t.text = .ok text) (hnodup : log.Nodup) :
    (log.map Statement.text).Nodup := by
  refine hnodup.map_on ?_
  intro t ht t' ht' heq
  obtain ⟨hwell, text, htext⟩ := hlog t ht
  obtain ⟨hwell', text', htext'⟩ := hlog t' ht'
  obtain rfl : text = text' := Except.ok.inj (htext.symm.trans (heq.trans htext'))
  obtain ⟨lines, hlines, rfl⟩ := lines_of_text htext
  obtain ⟨lines', hlines', hjoin⟩ := lines_of_text htext'
  exact hlines.inj_of_join hlines' hwell hwell' hjoin

end WeVibeChain.Preimages

namespace WeVibeChain.Serve

open Bytes
open Preimages (Statement)

section Marks
variable (crypto : Crypto)

/-- The statement that the signature of an entry is for. -/
def serveStatement (orgID : Bytes) (epoch : UInt64) (serve : ServeEntry) : Statement :=
  .serve orgID serve.memoryContentHash epoch serve.serveKeyPubkey serve.nonce serve.episodeRef

def denialStatement (orgID : Bytes) (epoch : UInt64) (entry : DenialEntry) : Statement :=
  .denial orgID entry.memoryHash epoch entry.serveKeyPubkey entry.serveFingerprint entry.nonce

def eventStatement (orgID : Bytes) (epoch : UInt64) (entry : EventEntry) : Statement :=
  .event entry.eventType orgID entry.memoryContentHash epoch entry.signerPubkey entry.nonce
    entry.body

/-- The store has a fingerprint for the statement. Neither the nonce of a serve or a denial nor
the episode of a serve is part of its fingerprint. -/
def Marked (s : Store) : Statement → Prop
  | .serve _ memoryHash epoch serveKeyPubkey _ _ =>
    hasServeFingerprint s
      (computeServeFingerprint crypto.sha256 memoryHash serveKeyPubkey epoch) = true
  | .denial orgID memoryHash epoch serveKeyPubkey serveFingerprint _ =>
    hasDenialFingerprint s (computeDenialFingerprint crypto.sha256 orgID memoryHash epoch
      serveKeyPubkey serveFingerprint) = true
  | .event eventType orgID memoryHash epoch signerPubkey nonce body =>
    ∃ text, canonicalEventBody orgID epoch
        ⟨eventType, memoryHash, signerPubkey, nonce, [], body⟩ = .ok text ∧
      s.eventFingerprint.has
        (eventFingerprintKey (computeEventFingerprint crypto.sha256 text)) = true
  | _ => False

/-- No fingerprint is lost. -/
structure Grows (s s' : Store) : Prop where
  fingerprint : ∀ k, s.fingerprint.has k = true → s'.fingerprint.has k = true
  denyFingerprint : ∀ k, s.denyFingerprint.has k = true → s'.denyFingerprint.has k = true
  eventFingerprint : ∀ k, s.eventFingerprint.has k = true → s'.eventFingerprint.has k = true

variable {crypto} {s s' : Store}

theorem Grows.refl (s : Store) : Grows s s := ⟨fun _ h => h, fun _ h => h, fun _ h => h⟩

theorem Grows.trans {s'' : Store} (h : Grows s s') (h' : Grows s' s'') : Grows s s'' :=
  ⟨fun k hk => h'.fingerprint k (h.fingerprint k hk),
    fun k hk => h'.denyFingerprint k (h.denyFingerprint k hk),
    fun k hk => h'.eventFingerprint k (h.eventFingerprint k hk)⟩

theorem Grows.marked (h : Grows s s') {t : Statement} (ht : Marked crypto s t) :
    Marked crypto s' t := by
  cases t with
  | serve => exact h.fingerprint _ ht
  | denial => exact h.denyFingerprint _ ht
  | event =>
    obtain ⟨text, htext, hmark⟩ := ht
    exact ⟨text, htext, h.eventFingerprint _ hmark⟩
  | submitMemory | migrateIdentity => exact ht

theorem grows_accept (s : Store) (r : ServeReceipt) :
    Grows s (acceptedStore s r) ∧ hasServeFingerprint (acceptedStore s r) r.fingerprint = true := by
  obtain ⟨stats, hframe⟩ := acceptedStore_frame s r
  rw [hframe]
  refine ⟨⟨fun k hk => ?_, fun _ h => h, fun _ h => h⟩, ?_⟩
  · exact OrderedMap.has_set_iff.mpr (Or.inr hk)
  · exact OrderedMap.has_set_iff.mpr (Or.inl rfl)

theorem grows_deny (s : Store) (orgID : Bytes) (epoch : UInt64) (fp : Bytes)
    (receipt : StoredServeReceipt) (entry : DenialEntry) :
    Grows s (deniedStore s orgID epoch fp receipt entry) ∧
      hasDenialFingerprint (deniedStore s orgID epoch fp receipt entry) fp = true :=
  ⟨⟨fun _ h => h, fun _ hk => OrderedMap.has_set_iff.mpr (Or.inr hk), fun _ h => h⟩,
    OrderedMap.has_set_iff.mpr (Or.inl rfl)⟩

theorem grows_record (s : Store) (e : StoredEvent) :
    Grows s (recordEvent s e) ∧
      (recordEvent s e).eventFingerprint.has (eventFingerprintKey e.fingerprint) = true :=
  ⟨⟨fun _ h => h, fun _ h => h, fun _ hk => OrderedMap.has_set_iff.mpr (Or.inr hk)⟩,
    OrderedMap.has_set_iff.mpr (Or.inl rfl)⟩

end Marks

section Loops
variable (crypto : Crypto) (scopeTagsOf : Bytes → Option (OrderedMap Bytes Bytes))
  (orgID : Bytes) (epoch : UInt64)

/-- The loop over a serve batch, with the statements it accepts. A failed entry ends the batch, and
with it the message; the state after it does not matter. -/
def serveLoop (params : Params) : Machine State ServeEntry (List Statement) where
  step st serve :=
    match processServe crypto scopeTagsOf params orgID epoch st serve with
    | .error _ => (st, [])
    | .ok (st', outcome) =>
      (st', if outcome = .accepted then [serveStatement orgID epoch serve] else [])

def denialLoop (memory : Memory.Store) : Machine Store DenialEntry (List Statement) where
  step s entry :=
    let (s', outcome) := processDenial crypto memory orgID epoch s entry
    (s', if outcome = .accepted then [denialStatement orgID epoch entry] else [])

def eventLoop (memory : Memory.Store) : Machine Store EventEntry (List Statement) where
  step s entry :=
    let (s', outcome) := processEvent crypto memory orgID epoch s entry
    (s', if outcome = .accepted then [eventStatement orgID epoch entry] else [])

variable {crypto scopeTagsOf orgID epoch} {params : Params} {memory : Memory.Store} {st st' : State}

theorem processServes_run {serves : List ServeEntry} {result result' : BatchResult}
    (h : processServes crypto scopeTagsOf params orgID epoch st result serves =
      .ok (st', result')) :
    st' = (serveLoop crypto scopeTagsOf orgID epoch params).run st serves := by
  induction serves generalizing st result with
  | nil => exact (Prod.mk.inj (Except.ok.inj h)).1.symm
  | cons serve serves ih =>
    obtain ⟨st₁, outcome, hserve, hrest⟩ := processServes_cons_ok h
    have hnext : (serveLoop crypto scopeTagsOf orgID epoch params).next st serve = st₁ := by
      simp only [Machine.next, serveLoop, hserve]
    rw [Machine.run_cons, hnext]
    exact ih hrest

theorem processDenials_run (s : Store) (result : DenialResult) (entries : List DenialEntry) :
    (processDenials crypto memory orgID epoch s result entries).1 =
      (denialLoop crypto orgID epoch memory).run s entries := by
  induction entries generalizing s result with
  | nil => rfl
  | cons entry entries ih => exact ih _ _

theorem processEventBatch_run (s : Store) (result : BatchResult) (entries : List EventEntry) :
    (processEventBatch crypto memory orgID epoch s result entries).1 =
      (eventLoop crypto orgID epoch memory).run s entries := by
  induction entries generalizing s result with
  | nil => rfl
  | cons entry entries ih => exact ih _ _

/-- One turn of a loop: nothing is accepted and no fingerprint is lost, or one statement is, which is
signed, had no fingerprint, and has one now. -/
structure Turned (crypto : Crypto) (s s' : Store) (accepted : List Statement) : Prop where
  grows : Grows s s'
  once : accepted.Nodup
  spends : ∀ t ∈ accepted, ¬ Marked crypto s t ∧ Marked crypto s' t
  signed : ∀ t ∈ accepted, t.Signed crypto

theorem turned_none (crypto : Crypto) (s : Store) : Turned crypto s s [] :=
  ⟨.refl s, List.nodup_nil, List.forall_mem_nil _, List.forall_mem_nil _⟩

theorem turned_one {s s' : Store} {t : Statement} (hgrows : Grows s s') (hfresh : ¬ Marked crypto s t)
    (hmarked : Marked crypto s' t) (hsigned : t.Signed crypto) : Turned crypto s s' [t] := by
  refine ⟨hgrows, List.nodup_singleton t, ?_, ?_⟩
  · rintro t' ht'
    obtain rfl := List.mem_singleton.mp ht'
    exact ⟨hfresh, hmarked⟩
  · rintro t' ht'
    obtain rfl := List.mem_singleton.mp ht'
    exact hsigned

theorem serveLoop_turned (st : State) (serve : ServeEntry) :
    Turned crypto st.store
      ((serveLoop crypto scopeTagsOf orgID epoch params).next st serve).store
      ((serveLoop crypto scopeTagsOf orgID epoch params).output st serve) := by
  unfold Machine.next Machine.output serveLoop
  dsimp only
  split
  · exact turned_none crypto st.store
  rename_i st' outcome hserve
  rcases processServe_cases hserve with ⟨rfl, hne⟩ | ⟨rfl, rfl, hok⟩
  · rw [if_neg hne]
    exact turned_none crypto st'.store
  · rw [if_pos rfl]
    obtain ⟨hgrows, hmark⟩ := grows_accept st.store (serveReceipt crypto orgID epoch serve)
    refine turned_one hgrows ?_ hmark ⟨_, _, serve.serveSig, rfl, rfl, hok.signed⟩
    intro hmarked
    exact Bool.false_ne_true (hok.fresh.symm.trans hmarked)

theorem denialLoop_turned (s : Store) (entry : DenialEntry) :
    Turned crypto s ((denialLoop crypto orgID epoch memory).next s entry)
      ((denialLoop crypto orgID epoch memory).output s entry) := by
  unfold Machine.next Machine.output denialLoop
  dsimp only
  rcases processDenial_cases crypto memory orgID epoch s entry with
    ⟨hsame, hne⟩ | ⟨receipt, hok, heq⟩
  · rw [hsame, if_neg hne]
    exact turned_none crypto s
  · rw [heq, if_pos rfl]
    obtain ⟨hgrows, hmark⟩ := grows_deny s orgID epoch (computeDenialFingerprint crypto.sha256 orgID
      entry.memoryHash epoch entry.serveKeyPubkey entry.serveFingerprint) receipt entry
    refine turned_one hgrows ?_ hmark ⟨_, _, entry.serveSig, rfl, rfl, hok.signed⟩
    intro hmarked
    exact Bool.false_ne_true (hok.fresh.symm.trans hmarked)

theorem eventLoop_turned (s : Store) (entry : EventEntry) :
    Turned crypto s ((eventLoop crypto orgID epoch memory).next s entry)
      ((eventLoop crypto orgID epoch memory).output s entry) := by
  unfold Machine.next Machine.output eventLoop
  dsimp only
  rcases processEvent_cases crypto memory orgID epoch s entry with
    ⟨hsame, hne⟩ | ⟨e, haccepted, ⟨text, htext, hfingerprint, hsigned⟩, hfresh, heq⟩
  · rw [hsame, if_neg hne]
    exact turned_none crypto s
  · rw [heq, if_pos rfl]
    obtain ⟨rfl, rfl, rfl⟩ := AcceptedEvent.mk.inj haccepted
    obtain ⟨hgrows, hmark⟩ := grows_record s e
    rw [← hfingerprint] at hfresh hmark
    refine turned_one hgrows ?_ ⟨text, htext, hmark⟩ ⟨text, _, e.signature, htext, rfl, hsigned⟩
    rintro ⟨text', htext', hmarked⟩
    obtain rfl := Except.ok.inj (htext'.symm.trans htext)
    exact Bool.false_ne_true ((OrderedMap.has_eq_false_iff.mpr hfresh).symm.trans hmarked)

/-- What the turns of a loop do, the loop does. -/
theorem turned_run {σ α : Type} {m : Machine σ α (List Statement)} (store : σ → Store)
    (hturn : ∀ s a, Turned crypto (store s) (store (m.next s a)) (m.output s a)) (s : σ)
    (as : List α) : Turned crypto (store s) (store (m.run s as)) (m.history s as).flatten := by
  obtain ⟨hnodup, hspends⟩ := Machine.history_spends_once (m := m) (I := fun _ => True)
    (P := fun s t => Marked crypto (store s) t) (fun _ _ _ => trivial)
    (fun s a _ => ⟨(hturn s a).once, (hturn s a).spends⟩)
    (fun s a t _ ht => (hturn s a).grows.marked ht) trivial as (s := s)
  refine ⟨?_, hnodup, hspends, ?_⟩
  · refine m.run_always (I := fun u => Grows (store s) (store u)) ?_ (.refl _) as
    intro u a hu
    exact hu.trans (hturn u a).grows
  · exact Machine.forall_mem_flatten_history (I := fun _ => True) (fun _ _ _ => trivial)
      (fun s a _ => (hturn s a).signed) trivial as

end Loops

section Batches
variable (crypto : Crypto) (scopeTagsOf : Bytes → Option (OrderedMap Bytes Bytes))

/-- The statements that a message gets accepted, in order. -/
def acceptedStatements (st : State) : Msg → List Statement
  | .submitServeBatch m =>
    match submitServeBatch crypto scopeTagsOf st m with
    | .error _ => []
    | .ok (st', _) =>
      ((serveLoop crypto scopeTagsOf m.orgId m.epoch (getParams st.store)).history
        { st with bandwidth := st'.bandwidth } m.serves).flatten
  | .submitDenialBatch m =>
    match submitDenialBatch crypto st m with
    | .error _ => []
    | .ok _ =>
      ((denialLoop crypto m.orgId m.epoch st.memory).history st.store m.entries).flatten
  | .submitEventBatch m =>
    match submitEventBatch crypto st m with
    | .error _ => []
    | .ok _ => ((eventLoop crypto m.orgId m.epoch st.memory).history st.store m.events).flatten
  | _ => []

variable {crypto scopeTagsOf} {authority : Bytes} {st st' : State} {msg : Msg} {response : Response}

theorem submitServeBatch_hasOrg {m : MsgSubmitServeBatch} {r : State × BatchResult}
    (h : submitServeBatch crypto scopeTagsOf st m = .ok r) :
    Orgs.hasOrg st.org m.orgId = true := by
  unfold submitServeBatch at h
  split at h
  · cases h
  · rename_i hadmit
    exact (admitBatch_ok hadmit).2.1

theorem submitDenialBatch_hasOrg {m : MsgSubmitDenialBatch} {r : State × DenialResult}
    (h : submitDenialBatch crypto st m = .ok r) : Orgs.hasOrg st.org m.orgId = true := by
  unfold submitDenialBatch at h
  split at h
  · cases h
  · rename_i hadmit
    exact (admitBatch_ok hadmit).2.1

/-- What an accepted message leads to, and the statements it gets accepted: its loop runs over its
batch, or the policy anchors or the parameters change. -/
inductive Looped (crypto : Crypto) (scopeTagsOf : Bytes → Option (OrderedMap Bytes Bytes))
    (st : State) : Msg → State → List Statement → Prop
  | serves (m : MsgSubmitServeBatch) (bandwidth : Bandwidth.Store)
      (known : Orgs.hasOrg st.org m.orgId = true)
      (consumed : Bandwidth.consumeServeBandwidth st.bandwidth m.orgId m.epoch
        (UInt64.ofNat m.serves.length) = .ok bandwidth) :
      Looped crypto scopeTagsOf st (.submitServeBatch m)
        ((serveLoop crypto scopeTagsOf m.orgId m.epoch (getParams st.store)).run
          { st with bandwidth := bandwidth } m.serves)
        ((serveLoop crypto scopeTagsOf m.orgId m.epoch (getParams st.store)).history
          { st with bandwidth := bandwidth } m.serves).flatten
  | denials (m : MsgSubmitDenialBatch) (known : Orgs.hasOrg st.org m.orgId = true) :
      Looped crypto scopeTagsOf st (.submitDenialBatch m)
        { st with store := (denialLoop crypto m.orgId m.epoch st.memory).run st.store m.entries }
        ((denialLoop crypto m.orgId m.epoch st.memory).history st.store m.entries).flatten
  | events (m : MsgSubmitEventBatch) (known : Orgs.hasOrg st.org m.orgId = true) :
      Looped crypto scopeTagsOf st (.submitEventBatch m)
        { st with store := (eventLoop crypto m.orgId m.epoch st.memory).run st.store m.events }
        ((eventLoop crypto m.orgId m.epoch st.memory).history st.store m.events).flatten
  | settings (msg : Msg) (anchor : OrderedMap Bytes StoredPolicyAnchor) (latest : Option Bytes)
      (params : Option Params) :
      Looped crypto scopeTagsOf st msg
        { st with store := { st.store with
            policyAnchor := anchor, policyAnchorLatest := latest, params := params } } []

theorem handle_looped (h : handle crypto scopeTagsOf authority st msg = .ok (st', response)) :
    Looped crypto scopeTagsOf st msg st' (acceptedStatements crypto scopeTagsOf st msg) := by
  cases msg with
  | submitServeBatch m =>
    obtain ⟨result, hok⟩ := Except.eq_ok_of_map_snd h
    obtain ⟨-, -, bandwidth, hconsume, hserves⟩ := submitServeBatch_ok hok
    obtain rfl : st'.bandwidth = bandwidth :=
      Except.ok.inj ((submitServeBatch_bandwidth hok).symm.trans hconsume)
    simp only [acceptedStatements, hok]
    generalize st'.bandwidth = bandwidth at hconsume hserves ⊢
    obtain rfl := processServes_run hserves
    exact .serves m bandwidth (submitServeBatch_hasOrg hok) hconsume
  | submitDenialBatch m =>
    obtain ⟨result, hok⟩ := Except.eq_ok_of_map_snd h
    obtain ⟨-, hst⟩ := submitDenialBatch_ok hok
    simp only [acceptedStatements, hok]
    rw [hst, processDenials_run]
    exact .denials m (submitDenialBatch_hasOrg hok)
  | submitEventBatch m =>
    obtain ⟨result, hok⟩ := Except.eq_ok_of_map_snd h
    obtain ⟨-, horg, hst⟩ := submitEventBatch_ok hok
    simp only [acceptedStatements, hok]
    rw [hst, processEventBatch_run]
    exact .events m horg
  | anchorPolicyVersion height m =>
    have hok := Except.eq_ok_of_map h
    obtain ⟨anchor, latest, rfl⟩ := anchorPolicyVersion_frame hok
    exact .settings _ anchor latest st.store.params
  | updateParams m =>
    have hok := Except.eq_ok_of_map h
    obtain rfl := updateParams_ok hok
    exact .settings _ st.store.policyAnchor st.store.policyAnchorLatest (some m.params)

theorem handle_turned (h : handle crypto scopeTagsOf authority st msg = .ok (st', response)) :
    Turned crypto st.store st'.store (acceptedStatements crypto scopeTagsOf st msg) := by
  have hlooped := handle_looped h
  generalize acceptedStatements crypto scopeTagsOf st msg = accepted at hlooped ⊢
  cases hlooped with
  | serves m bandwidth =>
    exact turned_run State.store serveLoop_turned { st with bandwidth } m.serves
  | denials m => exact turned_run id denialLoop_turned st.store m.entries
  | events m => exact turned_run id eventLoop_turned st.store m.events
  | settings anchor latest params =>
    exact ⟨⟨fun _ h => h, fun _ h => h, fun _ h => h⟩, List.nodup_nil, List.forall_mem_nil _,
      List.forall_mem_nil _⟩

/-- A message that gets statements accepted is accepted. -/
theorem acceptedStatements_of_error {e : Error}
    (h : handle crypto scopeTagsOf authority st msg = .error e) :
    acceptedStatements crypto scopeTagsOf st msg = [] := by
  cases msg with
  | submitServeBatch m =>
    cases hbatch : submitServeBatch crypto scopeTagsOf st m with
    | error e => simp only [acceptedStatements, hbatch]
    | ok r =>
      rw [handle, hbatch] at h
      cases h
  | submitDenialBatch m =>
    cases hbatch : submitDenialBatch crypto st m with
    | error e => simp only [acceptedStatements, hbatch]
    | ok r =>
      rw [handle, hbatch] at h
      cases h
  | submitEventBatch m =>
    cases hbatch : submitEventBatch crypto st m with
    | error e => simp only [acceptedStatements, hbatch]
    | ok r =>
      rw [handle, hbatch] at h
      cases h
  | anchorPolicyVersion | updateParams => rfl

theorem forall_mem_ite_singleton {P : Statement → Prop} {t : Statement} (h : P t) (c : Prop)
    [Decidable c] : ∀ t' ∈ (if c then [t] else []), P t' := by
  split
  · exact List.forall_mem_singleton.mpr h
  · exact List.forall_mem_nil _

/-- The accepted statements are about orgs that exist. -/
theorem handle_wellFormed (h : handle crypto scopeTagsOf authority st msg = .ok (st', response))
    (hids : ∀ orgID, Orgs.hasOrg st.org orgID = true → newline ∉ orgID) :
    ∀ t ∈ acceptedStatements crypto scopeTagsOf st msg, t.WellFormed := by
  have hlooped := handle_looped h
  generalize acceptedStatements crypto scopeTagsOf st msg = accepted at hlooped ⊢
  cases hlooped with
  | serves m bandwidth known =>
    refine Machine.forall_mem_flatten_history (I := fun _ => True) (fun _ _ _ => trivial) ?_
      trivial m.serves
    intro t serve _
    unfold Machine.output serveLoop
    dsimp only
    split
    · exact List.forall_mem_nil _
    · exact forall_mem_ite_singleton (t := serveStatement m.orgId m.epoch serve) (hids _ known) _
  | denials m known =>
    refine Machine.forall_mem_flatten_history (I := fun _ => True) (fun _ _ _ => trivial) ?_
      trivial m.entries
    intro t entry _
    exact forall_mem_ite_singleton (t := denialStatement m.orgId m.epoch entry) (hids _ known) _
  | events m known =>
    refine Machine.forall_mem_flatten_history (I := fun _ => True) (fun _ _ _ => trivial) ?_
      trivial m.events
    intro t entry _
    exact forall_mem_ite_singleton (t := eventStatement m.orgId m.epoch entry) (hids _ known) _
  | settings => exact List.forall_mem_nil _

end Batches

end WeVibeChain.Serve

namespace WeVibeChain.Memory

open Bytes
open Preimages (Statement)

/-- The statement that the contributor's signature of an approval is for. -/
def approvalStatement (crypto : Crypto) (msg : MsgApproveMemory) (pending : PendingCommitment) :
    Statement :=
  .submitMemory msg.ciphertextHash pending.contributor pending.epoch msg.memoryType msg.orgId
    msg.plaintextHash msg.salt (crypto.sha256 (msg.encryptedBlob ++ msg.wrappedDekEnc))
    (crypto.sha256 msg.wrappedDekEnc)

/-- An approved memory stays approved when an epoch ends. -/
theorem approved_has_afterEpochEnd {sha256 : Bytes → Bytes}
    {foreign : Entry → Option StoredMemoryCommitment} {s : Store} {k : Bytes}
    (h : s.approved.has k = true) (n : Int64) :
    (afterEpochEnd sha256 foreign s weVibeEpochIdentifier n).1.approved.has k = true := by
  refine afterEpochEnd_invariant (I := fun t => t.approved.has k = true) (fun _ ht => ht) ?_
    (fun _ _ ht => ht) h weVibeEpochIdentifier
  intro e t t' ht hexpire
  obtain ⟨memory, approved, -, rfl, rfl | rfl⟩ := expireEntry_ok hexpire
  · exact ht
  · exact OrderedMap.has_set_iff.mpr (Or.inr ht)

end WeVibeChain.Memory

namespace WeVibeChain.Orgs

open Bytes

theorem newline_notMem_formatOrgID (slot : UInt64) : newline ∉ formatOrgID slot := by
  have hname : newline ∉ ascii "wevibe-org-" := by decide
  exact Preimages.newline_notMem_append hname (newline_notMem_formatUint slot)

theorem Governed.newline_notMem {s : Store} (h : Governed s) {orgID : Bytes}
    (hhas : hasOrg s orgID = true) : newline ∉ orgID := by
  obtain ⟨record, hget⟩ := OrderedMap.has_iff.mp hhas
  obtain ⟨n, -, rfl⟩ := h.registry.formatted (view_of_get hget)
  exact newline_notMem_formatOrgID n

end WeVibeChain.Orgs

namespace WeVibeChain.Node

open Bytes
open Preimages (Statement)

section Statements
variable {β γ : Type} (env : Env β γ)

/-- The signed statements that an input gets accepted, in order. -/
def acceptedStatements (st : State β γ) : Input β γ → List Statement
  | .msg (.app (.serve msg)) =>
    Serve.acceptedStatements env.crypto env.scopeTagsOf st.app.serveState msg
  | .msg (.app (.memory (.approveMemory msg))) =>
    match Memory.approveMemoryMsg env.crypto st.app.memoryState msg,
      Memory.getPendingCommitment st.app.memory msg.orgId msg.contentHash with
    | .ok _, .ok pending => [Memory.approvalStatement env.crypto msg pending]
    | _, _ => []
  | .msg (.migrateIdentity blockHeight msg) =>
    match Identity.migrateIdentity env.crypto.ed25519Verify env.ext.accAddressFromBech32 blockHeight
        st.identity msg with
    | .ok _ => [.migrateIdentity msg.passkeyPubkey msg.signer msg.nonce]
    | .error _ => []
  | _ => []

/-- The chain with the statements that each input gets accepted as its answer. -/
def signedChain : Machine (State β γ) (Input β γ) (List Statement) :=
  (chain env).withOutput (acceptedStatements env)

/-- A mark of the statement is on the chain. -/
def Spent (st : State β γ) : Statement → Prop
  | .submitMemory _ _ _ _ orgID _ _ submissionHash _ =>
    st.app.memory.approved.has (Memory.approvedKey orgID submissionHash) = true
  | .migrateIdentity passkeyPubkey _ _ =>
    ∃ a, Identity.getAlias st.identity passkeyPubkey = some a ∧ a.isMigrated = true
  | t => Serve.Marked env.crypto st.app.serve t

/-- No mark is lost. -/
structure KeepsMarks (st st' : State β γ) : Prop where
  serve : Serve.Grows st.app.serve st'.app.serve
  approved : ∀ k, st.app.memory.approved.has k = true → st'.app.memory.approved.has k = true
  migrated : ∀ passkey a, Identity.getAlias st.identity passkey = some a → a.isMigrated = true →
    ∃ a', Identity.getAlias st'.identity passkey = some a' ∧ a'.isMigrated = true

/-- What an input does to the marks, with the statements that it gets accepted. -/
structure Spends (st st' : State β γ) (accepted : List Statement) : Prop where
  kept : KeepsMarks st st'
  once : accepted.Nodup
  spends : ∀ t ∈ accepted, ¬ Spent env st t ∧ Spent env st' t
  signed : ∀ t ∈ accepted, t.Signed env.crypto
  wellFormed : ∀ t ∈ accepted, t.WellFormed

/-- What the source of the addresses guarantees: a text with a newline is not an address. -/
def SingleLineAddresses : Prop :=
  ∀ text, (env.ext.accAddressFromBech32 text).isSome = true → newline ∉ text

variable {env} {st st' : State β γ}

theorem KeepsMarks.refl (st : State β γ) : KeepsMarks st st :=
  ⟨.refl _, fun _ h => h, fun _ a h hmigrated => ⟨a, h, hmigrated⟩⟩

theorem KeepsMarks.congr (hserve : st'.app.serve = st.app.serve)
    (hmemory : st'.app.memory = st.app.memory) (hidentity : st'.identity = st.identity) :
    KeepsMarks st st' := by
  refine ⟨?_, ?_, ?_⟩
  · rw [hserve]
    exact .refl _
  · intro k hk
    rwa [hmemory]
  · intro passkey a ha hmigrated
    rw [hidentity]
    exact ⟨a, ha, hmigrated⟩

theorem KeepsMarks.spent (h : KeepsMarks st st') {t : Statement} (ht : Spent env st t) :
    Spent env st' t := by
  cases t with
  | serve orgID hash epoch key nonce episode =>
    exact h.serve.marked (t := .serve orgID hash epoch key nonce episode) ht
  | denial orgID hash epoch key fp nonce =>
    exact h.serve.marked (t := .denial orgID hash epoch key fp nonce) ht
  | event eventType orgID hash epoch key nonce body =>
    exact h.serve.marked (t := .event eventType orgID hash epoch key nonce body) ht
  | submitMemory => exact h.approved _ ht
  | migrateIdentity =>
    obtain ⟨a, ha, hmigrated⟩ := ht
    exact h.migrated _ a ha hmigrated

theorem KeepsMarks.silent (h : KeepsMarks st st') : Spends env st st' [] :=
  ⟨h, List.nodup_nil, List.forall_mem_nil _, List.forall_mem_nil _, List.forall_mem_nil _⟩

theorem KeepsMarks.spendsOne (h : KeepsMarks st st') {t : Statement} (hfresh : ¬ Spent env st t)
    (hspent : Spent env st' t) (hsigned : t.Signed env.crypto) (hwell : t.WellFormed) :
    Spends env st st' [t] :=
  ⟨h, List.nodup_singleton t, List.forall_mem_singleton.mpr ⟨hfresh, hspent⟩,
    List.forall_mem_singleton.mpr hsigned, List.forall_mem_singleton.mpr hwell⟩

/-- On the statements that x/serve accepts, the marks are its fingerprints. -/
theorem spent_iff_marked {s : Serve.Store} {t : Statement} (h : Serve.Marked env.crypto s t)
    (st : State β γ) : Spent env st t ↔ Serve.Marked env.crypto st.app.serve t := by
  cases t with
  | submitMemory | migrateIdentity => cases h
  | _ => exact Iff.rfl

theorem acceptedStatements_of_refused {msg : Msg} {e : Error}
    (h : handle env st msg = .error e) : acceptedStatements env st (.msg msg) = [] := by
  cases msg with
  | app msg =>
    cases msg with
    | serve msg =>
      cases hserve : Serve.handle env.crypto env.scopeTagsOf env.authority st.app.serveState msg with
      | error e => exact Serve.acceptedStatements_of_error hserve
      | ok r =>
        simp only [handle, Application.handle, hserve, markerRefuses] at h
        cases h
    | memory msg =>
      cases msg with
      | approveMemory msg =>
        cases happrove : Memory.approveMemoryMsg env.crypto st.app.memoryState msg with
        | error e => simp only [acceptedStatements, happrove]
        | ok r =>
          simp only [handle, Application.handle, Memory.handle, happrove, markerRefuses] at h
          cases h
      | _ => rfl
    | org | bandwidth => rfl
  | migrateIdentity blockHeight msg =>
    cases hmigrate : Identity.migrateIdentity env.crypto.ed25519Verify env.ext.accAddressFromBech32
        blockHeight st.identity msg with
    | error e => simp only [acceptedStatements, hmigrate]
    | ok r =>
      simp only [handle, hmigrate] at h
      cases h
  | _ => rfl

theorem acceptedStatements_approve {msg : Memory.MsgApproveMemory} {memory : Memory.State}
    {pending : Memory.PendingCommitment}
    (h : Memory.approveMemoryMsg env.crypto st.app.memoryState msg = .ok memory)
    (hpending : Memory.getPendingCommitment st.app.memory msg.orgId msg.contentHash = .ok pending) :
    acceptedStatements env st (.msg (.app (.memory (.approveMemory msg)))) =
      [Memory.approvalStatement env.crypto msg pending] := by
  simp only [acceptedStatements, h, hpending]

theorem acceptedStatements_migrate {blockHeight : UInt64} {msg : Identity.MsgMigrateIdentity}
    {identity : Identity.Store}
    (h : Identity.migrateIdentity env.crypto.ed25519Verify env.ext.accAddressFromBech32 blockHeight
      st.identity msg = .ok identity) :
    acceptedStatements env st (.msg (.migrateIdentity blockHeight msg)) =
      [.migrateIdentity msg.passkeyPubkey msg.signer msg.nonce] := by
  simp only [acceptedStatements, h]

theorem spends_serve (horg : Orgs.Governed st.app.org) {msg : Serve.Msg}
    {app : Application.State β γ} {response : Application.Response}
    (h : Application.handle env.toEnv st.app (.serve msg) = .ok (app, response)) :
    Spends env st { st with app := app } (acceptedStatements env st (.msg (.app (.serve msg)))) := by
  obtain ⟨serve, serveResponse, hok, rfl⟩ := Application.handle_serve_eq h
  have hturned := Serve.handle_turned hok
  refine ⟨⟨hturned.grows, fun _ hk => hk, fun _ a ha hmigrated => ⟨a, ha, hmigrated⟩⟩, hturned.once,
    ?_, hturned.signed, Serve.handle_wellFormed hok fun _ => horg.newline_notMem⟩
  intro t ht
  obtain ⟨hfresh, hmarked⟩ := hturned.spends t ht
  rw [spent_iff_marked hmarked, spent_iff_marked hmarked]
  exact ⟨hfresh, hmarked⟩

theorem spends_memory (horg : Orgs.Governed st.app.org) {msg : Memory.Msg}
    {app : Application.State β γ} {response : Application.Response}
    (h : Application.handle env.toEnv st.app (.memory msg) = .ok (app, response)) :
    Spends env st { st with app := app } (acceptedStatements env st (.msg (.app (.memory msg)))) := by
  obtain ⟨memory, hok, rfl⟩ := Application.handle_memory_eq h
  cases msg with
  | approveMemory m =>
    obtain ⟨-, -, ⟨pending, hpending, hverified⟩, happrove⟩ := Memory.approveMemoryMsg_ok hok
    obtain ⟨pending', record, hpending', htype, -, hfresh, hrecord, rfl⟩ :=
      Memory.approveMemory_eq happrove
    obtain rfl := Except.ok.inj (hpending.symm.trans hpending')
    obtain ⟨key, hkey, -, hsigned, -, hhash⟩ := Memory.verifyApproval_ok hverified
    rw [acceptedStatements_approve hok hpending]
    refine KeepsMarks.spendsOne ?_ (t := Memory.approvalStatement env.crypto m pending) ?_ ?_
      ⟨Memory.approvalBody env.crypto m pending, key, m.contributorSig, rfl, hkey, hsigned⟩ ?_
    · exact ⟨.refl _, fun _ hk => OrderedMap.has_set_iff.mpr (Or.inr hk),
        fun _ a ha hmigrated => ⟨a, ha, hmigrated⟩⟩
    · change ¬ st.app.memory.approved.has (Memory.approvedKey m.orgId _) = true
      rw [← hhash, Bool.not_eq_true]
      exact OrderedMap.has_eq_false_iff.mpr hfresh
    · change OrderedMap.has _ (Memory.approvedKey m.orgId _) = true
      rw [← hhash]
      exact OrderedMap.has_set_iff.mpr (Or.inl rfl)
    · exact ⟨horg.newline_notMem (OrderedMap.has_iff.mpr ⟨record, hrecord⟩),
        hexText_of_hexDecode hkey, htype⟩
  | submitCommitment m | reportMemory m | updateParams m =>
    have hstored := Memory.handle_stored hok
    generalize memory.store = s at hstored ⊢
    cases hstored
    exact KeepsMarks.silent ⟨.refl _, fun _ hk => hk, fun _ a ha hmigrated => ⟨a, ha, hmigrated⟩⟩

theorem spends_migration (haddresses : SingleLineAddresses env) {blockHeight : UInt64}
    {msg : Identity.MsgMigrateIdentity} {identity : Identity.Store}
    (h : Identity.migrateIdentity env.crypto.ed25519Verify env.ext.accAddressFromBech32 blockHeight
      st.identity msg = .ok identity) :
    Spends env st { st with identity := identity }
      (acceptedStatements env st (.msg (.migrateIdentity blockHeight msg))) := by
  rw [acceptedStatements_migrate h]
  obtain ⟨hchecked, hfresh, rfl⟩ := Identity.migrateIdentity_ok h
  obtain ⟨key, signature, hkey, -, hsigned⟩ := hchecked.signed
  obtain ⟨hdecode, -⟩ := Option.filter_eq_some_iff.mp hkey
  refine KeepsMarks.spendsOne ?_
    (t := .migrateIdentity msg.passkeyPubkey msg.signer msg.nonce) ?_ ?_
    ⟨msg.canonicalBody, key, signature, rfl, hdecode, hsigned⟩
    ⟨hexText_of_hexDecode hdecode, haddresses _ hchecked.wallet⟩
  · refine ⟨.refl _, fun _ hk => hk, ?_⟩
    intro passkey a ha hmigrated
    by_cases hsame : passkey = msg.passkeyPubkey
    · subst hsame
      exact ⟨_, OrderedMap.get_set_self _ _ _, rfl⟩
    · refine ⟨a, (OrderedMap.get_set_of_ne _ _ ?_).trans ha, hmigrated⟩
      intro hkeys
      exact hsame (List.append_cancel_left hkeys)
  · rintro ⟨a, ha, hmigrated⟩
    exact Bool.false_ne_true ((hfresh a ha).symm.trans hmigrated)
  · exact ⟨_, OrderedMap.get_set_self _ _ _, rfl⟩

theorem next_spends (haddresses : SingleLineAddresses env) (horg : Orgs.Governed st.app.org)
    (input : Input β γ) :
    Spends env st ((chain env).next st input) (acceptedStatements env st input) := by
  have hchanged := next_changed env st input
  generalize (chain env).next st input = st' at hchanged ⊢
  cases hchanged with
  | refused msg e failed =>
    rw [acceptedStatements_of_refused failed]
    exact (KeepsMarks.refl st).silent
  | app msg app response accepted =>
    cases msg with
    | org msg =>
      obtain ⟨-, -, -, hmemory, hserve⟩ := Application.handle_org accepted
      exact KeepsMarks.silent (.congr hserve hmemory rfl)
    | memory msg => exact spends_memory horg accepted
    | serve msg => exact spends_serve horg accepted
    | bandwidth msg =>
      obtain ⟨bandwidth, rfl⟩ := Application.handle_bandwidth accepted
      exact KeepsMarks.silent (.congr rfl rfl rfl)
  | migrated blockHeight msg identity accepted => exact spends_migration haddresses accepted
  | epochEnd n =>
    refine KeepsMarks.silent ⟨.refl _, fun k hk => ?_, fun _ a ha hmigrated => ⟨a, ha, hmigrated⟩⟩
    exact Memory.approved_has_afterEpochEnd hk n
  | _ => exact KeepsMarks.silent (.congr rfl rfl rfl)

variable (env)

/-- In every run, whatever the messages and however they are batched, no text is accepted twice, of
whichever module; and every accepted text is signed with the key that it names. A text whose mark
is on the chain already is not accepted at all. -/
theorem signed_texts_accepted_once (haddresses : SingleLineAddresses env)
    (horg : Orgs.Governed st.app.org) (inputs : List (Input β γ)) :
    ((((signedChain env).history st inputs).flatten).map Statement.text).Nodup ∧
      ∀ t ∈ ((signedChain env).history st inputs).flatten,
        t.Signed env.crypto ∧ ¬ Spent env st t ∧ Spent env ((chain env).run st inputs) t := by
  have hgoverned : ∀ (t : State β γ) input, Orgs.Governed t.app.org →
      Orgs.Governed ((signedChain env).next t input).app.org :=
    fun t input ht => ht.kept (next_evolution env t input)
  have hspends : ∀ (t : State β γ) input, Orgs.Governed t.app.org →
      Spends env t ((signedChain env).next t input) ((signedChain env).output t input) :=
    fun t input ht => next_spends haddresses ht input
  obtain ⟨hnodup, honce⟩ := Machine.history_spends_once (m := signedChain env)
    (I := fun t => Orgs.Governed t.app.org) (P := Spent env) hgoverned
    (fun t input ht => ⟨(hspends t input ht).once, (hspends t input ht).spends⟩)
    (fun t input x ht hx => (hspends t input ht).kept.spent hx) horg inputs
  have hwell := Machine.forall_mem_flatten_history (m := signedChain env)
    (I := fun t => Orgs.Governed t.app.org) (Q := fun x => x.WellFormed ∧ x.Signed env.crypto)
    hgoverned (fun t input ht x hx =>
      ⟨(hspends t input ht).wellFormed x hx, (hspends t input ht).signed x hx⟩) horg inputs
  rw [signedChain, Machine.run_withOutput] at honce
  refine ⟨?_, fun t ht => ⟨(hwell t ht).2, honce t ht⟩⟩
  refine Preimages.nodup_texts (fun t ht => ⟨(hwell t ht).1, ?_⟩) hnodup
  obtain ⟨text, -, -, htext, -⟩ := (hwell t ht).2
  exact ⟨text, htext⟩

end Statements

section Sample

theorem sample_addresses : SingleLineAddresses sampleEnv := by
  intro text hsome
  obtain ⟨address, hfound⟩ := Option.isSome_iff_exists.mp hsome
  obtain ⟨entry, hentry, -⟩ := Option.map_eq_some_iff.mp hfound
  have hlines : ∀ a ∈ Orgs.sampleAddresses, newline ∉ a.1 := by decide +kernel
  have htext := List.find?_some hentry
  rw [← of_decide_eq_true htext]
  exact hlines entry (List.mem_of_find?_eq_some hentry)

/-- The memory is submitted and approved a second time with the same text. -/
theorem sample_texts_once :
    ((signedChain sampleEnv).history sampleStart
        (sampleInputs ++ (sampleInputs.drop 1).take 2)).flatten.map Statement.kind =
      [.submitMemory] ∧
    (((signedChain sampleEnv).history sampleStart
        (sampleInputs ++ (sampleInputs.drop 1).take 2)).flatten.map Statement.text).Nodup :=
  ⟨by decide +kernel, (signed_texts_accepted_once sampleEnv sample_addresses
    (Orgs.governed_empty none) (sampleInputs ++ (sampleInputs.drop 1).take 2)).1⟩

end Sample

end WeVibeChain.Node
