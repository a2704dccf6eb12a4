import WeVibeChain.ServeRecords
import WeVibeChain.SignedTexts

/-!
# The records of the chain are the accepted statements

A receipt, a denial, an event, an approved memory and an alias each hold the fields
of the statement that was signed for it, apart from the nonce of a serve, a denial or
a migration. From empty stores, the statements read off the records are those of the
log, each once: nothing is recorded for a key without a signature of that key, nothing
accepted is lost or overwritten, and no signature makes two records.
-/

set_option autoImplicit false

namespace WeVibeChain.Preimages

/-- The statement without the nonce that no record keeps. -/
def Statement.recorded : Statement → Statement
  | serve orgID memoryHash epoch serveKeyPubkey _ episodeRef =>
    serve orgID memoryHash epoch serveKeyPubkey [] episodeRef
  | denial orgID memoryHash epoch serveKeyPubkey serveFingerprint _ =>
    denial orgID memoryHash epoch serveKeyPubkey serveFingerprint []
  | migrateIdentity passkeyPubkey wallet _ => migrateIdentity passkeyPubkey wallet 0
  | t => t

end WeVibeChain.Preimages

namespace WeVibeChain.Orgs

theorem Registry.slash_notMem_of_hasOrg {s : Store} (h : Registry s) {orgID : Bytes}
    (hhas : hasOrg s orgID = true) : Bytes.slash ∉ orgID := by
  obtain ⟨record, hget⟩ := OrderedMap.has_iff.mp hhas
  exact h.slash_notMem (view_of_get hget)

end WeVibeChain.Orgs

namespace WeVibeChain.Serve

open Bytes
open Preimages (Statement)

section Records

/-- What the record says was signed. -/
def StoredServeReceipt.statement (r : StoredServeReceipt) : Statement :=
  .serve r.orgId r.memoryContentHash r.epoch r.serveKeyPubkey [] r.episodeRef

def StoredDenialReceipt.statement (d : StoredDenialReceipt) : Statement :=
  .denial d.orgId d.memoryHash d.epoch d.serveKeyPubkey d.serveFingerprint []

def StoredEvent.statement (e : StoredEvent) : Statement := eventStatement e.orgId e.epoch e.entry

/-- The statements that the store has records of. -/
def statements (s : Store) : List Statement :=
  s.receipt.values.map StoredServeReceipt.statement ++
    (s.denial.values.map StoredDenialReceipt.statement ++
      s.event.values.map StoredEvent.statement)

/-- Records and fingerprints belong together. -/
structure Paired (crypto : Crypto) (s : Store) : Prop where
  pointers : Pointers s
  events : EventLog crypto s

/-- The store stays so and has one more record for each of the statements. -/
structure AddsRecords (crypto : Crypto) (s s' : Store) (accepted : List Statement) : Prop where
  paired : Paired crypto s'
  statements : (statements s').Perm (statements s ++ accepted.map Statement.recorded)

variable {crypto : Crypto} {s s' : Store}

theorem paired_empty (crypto : Crypto) : Paired crypto {} :=
  ⟨consistent_empty.pointers, eventLog_empty crypto⟩

theorem Paired.idle (h : Paired crypto s) : AddsRecords crypto s s [] :=
  ⟨h, by rw [List.map_nil, List.append_nil]⟩

theorem Paired.accept (h : Paired crypto s) {r : ServeReceipt}
    (hfresh : hasServeFingerprint s r.fingerprint = false) :
    Paired crypto (acceptedStore s r) ∧
      (statements (acceptedStore s r)).Perm ((serveReceiptToStored r).statement :: statements s) := by
  have hreceipts := h.pointers.receipts_accept hfresh
  have hpointers := h.pointers.accept hfresh
  obtain ⟨stats, hframe⟩ := acceptedStore_frame s r
  refine ⟨⟨hpointers, ?_⟩, ?_⟩
  · rw [hframe]
    exact h.events.congr rfl rfl
  · have hothers : (acceptedStore s r).denial = s.denial ∧ (acceptedStore s r).event = s.event := by
      rw [hframe]
      exact ⟨rfl, rfl⟩
    unfold statements
    rw [hothers.1, hothers.2]
    exact (hreceipts.map _).append_right _

theorem Paired.deny (h : Paired crypto s) (orgID : Bytes) (epoch : UInt64) {fp : Bytes}
    (receipt : StoredServeReceipt) (entry : DenialEntry)
    (hfresh : hasDenialFingerprint s fp = false) :
    Paired crypto (deniedStore s orgID epoch fp receipt entry) ∧
      (statements (deniedStore s orgID epoch fp receipt entry)).Perm
        ((denialReceipt orgID epoch entry).statement :: statements s) := by
  refine ⟨⟨h.pointers.deny orgID epoch fp receipt entry, h.events.congr rfl rfl⟩, ?_⟩
  have hdenials := (OrderedMap.values_set_perm_of_get_none (v := denialReceipt orgID epoch entry)
    (h.pointers.denial_fresh hfresh orgID epoch)).map StoredDenialReceipt.statement
  exact ((hdenials.append_right _).append_left _).trans List.perm_middle

theorem Paired.record (h : Paired crypto s) {e : StoredEvent} (horg : slash ∉ e.orgId)
    (hverified : Verified crypto e)
    (hfresh : s.eventFingerprint.get (eventFingerprintKey e.fingerprint) = none) :
    Paired crypto (recordEvent s e) ∧
      (statements (recordEvent s e)).Perm (e.statement :: statements s) := by
  refine ⟨⟨h.pointers.congr ⟨rfl, rfl, rfl, rfl, rfl, rfl, rfl, rfl, rfl, rfl⟩,
    h.events.record horg hverified hfresh⟩, ?_⟩
  have hevents := (OrderedMap.values_set_perm_of_get_none (v := e)
    (h.events.fresh hfresh e.orgId e.epoch)).map StoredEvent.statement
  have hothers := (hevents.append_left (s.denial.values.map StoredDenialReceipt.statement)).trans
    List.perm_middle
  exact (hothers.append_left _).trans List.perm_middle

theorem addsRecords_one {t : Statement} (hpaired : Paired crypto s')
    (hstatements : (statements s').Perm (t.recorded :: statements s)) : AddsRecords crypto s s' [t] :=
  ⟨hpaired, hstatements.trans (List.perm_append_singleton _ _).symm⟩

end Records

section Loops
variable {crypto : Crypto} {scopeTagsOf : Bytes → Option (OrderedMap Bytes Bytes)} {orgID : Bytes}
  {epoch : UInt64} {params : Params} {memory : Memory.Store}

theorem serveLoop_addsRecords (st : State) (serve : ServeEntry) (h : Paired crypto st.store) :
    AddsRecords crypto st.store
      ((serveLoop crypto scopeTagsOf orgID epoch params).next st serve).store
      ((serveLoop crypto scopeTagsOf orgID epoch params).output st serve) := by
  unfold Machine.next Machine.output serveLoop
  dsimp only
  split
  · exact h.idle
  rename_i st' outcome hserve
  rcases processServe_cases hserve with ⟨rfl, hne⟩ | ⟨rfl, rfl, hok⟩
  · rw [if_neg hne]
    exact h.idle
  · rw [if_pos rfl]
    obtain ⟨hpaired, hstatements⟩ := h.accept hok.fresh
    exact addsRecords_one hpaired hstatements

theorem denialLoop_addsRecords (s : Store) (entry : DenialEntry) (h : Paired crypto s) :
    AddsRecords crypto s ((denialLoop crypto orgID epoch memory).next s entry)
      ((denialLoop crypto orgID epoch memory).output s entry) := by
  unfold Machine.next Machine.output denialLoop
  dsimp only
  rcases processDenial_cases crypto memory orgID epoch s entry with
    ⟨hsame, hne⟩ | ⟨receipt, hok, heq⟩
  · rw [hsame, if_neg hne]
    exact h.idle
  · rw [heq, if_pos rfl]
    obtain ⟨hpaired, hstatements⟩ := h.deny orgID epoch receipt entry hok.fresh
    exact addsRecords_one hpaired hstatements

theorem eventLoop_addsRecords (horg : slash ∉ orgID) (s : Store) (entry : EventEntry)
    (h : Paired crypto s) :
    AddsRecords crypto s ((eventLoop crypto orgID epoch memory).next s entry)
      ((eventLoop crypto orgID epoch memory).output s entry) := by
  unfold Machine.next Machine.output eventLoop
  dsimp only
  rcases processEvent_cases crypto memory orgID epoch s entry with
    ⟨hsame, hne⟩ | ⟨e, haccepted, hverified, hfresh, heq⟩
  · rw [hsame, if_neg hne]
    exact h.idle
  · rw [heq, if_pos rfl]
    obtain ⟨rfl, rfl, rfl⟩ := AcceptedEvent.mk.inj haccepted
    obtain ⟨hpaired, hstatements⟩ := h.record horg hverified hfresh
    exact addsRecords_one hpaired hstatements

/-- What the turns of a loop record, the loop records. -/
theorem addsRecords_run {σ α : Type} {m : Machine σ α (List Statement)} (store : σ → Store)
    (hturn : ∀ s a, Paired crypto (store s) →
      AddsRecords crypto (store s) (store (m.next s a)) (m.output s a))
    {s : σ} (h : Paired crypto (store s)) (as : List α) :
    AddsRecords crypto (store s) (store (m.run s as)) (m.history s as).flatten := by
  induction as generalizing s with
  | nil => exact h.idle
  | cons a as ih =>
    obtain ⟨hpaired, hfirst⟩ := hturn s a h
    obtain ⟨hfinal, hrest⟩ := ih hpaired
    refine ⟨hfinal, hrest.trans ?_⟩
    rw [Machine.history_cons, List.flatten_cons, List.map_append, ← List.append_assoc]
    exact hfirst.append_right _

end Loops

section Batches
variable {crypto : Crypto} {scopeTagsOf : Bytes → Option (OrderedMap Bytes Bytes)}
  {authority : Bytes} {st st' : State} {msg : Msg} {response : Response}

theorem handle_addsRecords (h : handle crypto scopeTagsOf authority st msg = .ok (st', response))
    (hids : ∀ orgID, Orgs.hasOrg st.org orgID = true → slash ∉ orgID)
    (hpaired : Paired crypto st.store) :
    AddsRecords crypto st.store st'.store (acceptedStatements crypto scopeTagsOf st msg) := by
  have hlooped := handle_looped h
  generalize acceptedStatements crypto scopeTagsOf st msg = accepted at hlooped ⊢
  cases hlooped with
  | serves m bandwidth =>
    exact addsRecords_run State.store (s := { st with bandwidth }) serveLoop_addsRecords
      hpaired m.serves
  | denials m => exact addsRecords_run id denialLoop_addsRecords hpaired m.entries
  | events m known =>
    exact addsRecords_run id (eventLoop_addsRecords (hids _ known)) hpaired m.events
  | settings anchor latest params =>
    exact ⟨⟨hpaired.pointers.congr (sameRecords_frame _ _ _ _ _ _), hpaired.events.congr rfl rfl⟩,
      hpaired.idle.statements⟩

end Batches

end WeVibeChain.Serve

namespace WeVibeChain.Memory

/-- What the record says its contributor signed. -/
def StoredMemoryCommitment.statement (r : StoredMemoryCommitment) : Preimages.Statement :=
  .submitMemory r.ciphertextHash r.contributorPubkey r.epoch r.memoryType r.orgId r.plaintextHash
    r.salt r.contentHash r.wrappedDekHash

end WeVibeChain.Memory

namespace WeVibeChain.Identity

def StoredIdentityAlias.statement (a : StoredIdentityAlias) : Preimages.Statement :=
  .migrateIdentity a.passkeyPubkey a.walletAddress 0

end WeVibeChain.Identity

namespace WeVibeChain.Node

open Bytes
open Preimages (Statement)

section Records
variable {β γ : Type} {env : Env β γ} {st st' : State β γ}

/-- The statements that the chain has records of. -/
def recordedStatements (st : State β γ) : List Statement :=
  Serve.statements st.app.serve ++
    (st.app.memory.approved.values.map Memory.StoredMemoryCommitment.statement ++
      st.identity.aliases.values.map Identity.StoredIdentityAlias.statement)

/-- What holds of the records in every state of a run. -/
structure Kept (env : Env β γ) (st : State β γ) : Prop where
  governed : Orgs.Governed st.app.org
  paired : Serve.Paired env.crypto st.app.serve
  validity : st.app.memory.validity = ∅
  migrated : st.identity.aliases.Forall fun _ a => a.isMigrated = true

/-- The records are kept, with one more for each of the statements. -/
structure Records (env : Env β γ) (st st' : State β γ) (accepted : List Statement) : Prop where
  paired : Serve.Paired env.crypto st'.app.serve
  validity : st'.app.memory.validity = ∅
  migrated : st'.identity.aliases.Forall fun _ a => a.isMigrated = true
  statements : (recordedStatements st').Perm
    (recordedStatements st ++ accepted.map Statement.recorded)

theorem Kept.unchanged (h : Kept env st) (hserve : st'.app.serve = st.app.serve)
    (happroved : st'.app.memory.approved = st.app.memory.approved)
    (hvalidity : st'.app.memory.validity = st.app.memory.validity)
    (hidentity : st'.identity = st.identity) : Records env st st' [] := by
  refine ⟨hserve ▸ h.paired, hvalidity.trans h.validity, hidentity ▸ h.migrated, ?_⟩
  rw [List.map_nil, List.append_nil, recordedStatements, recordedStatements, hserve, happroved,
    hidentity]

theorem Kept.serve (h : Kept env st) {msg : Serve.Msg} {app : Application.State β γ}
    {response : Application.Response}
    (hok : Application.handle env.toEnv st.app (.serve msg) = .ok (app, response)) :
    Records env st { st with app := app } (acceptedStatements env st (.msg (.app (.serve msg)))) := by
  obtain ⟨serve, serveResponse, hhandle, rfl⟩ := Application.handle_serve_eq hok
  obtain ⟨hpaired, hstatements⟩ := Serve.handle_addsRecords hhandle
    (fun _ hhas => h.governed.registry.slash_notMem_of_hasOrg hhas) h.paired
  refine ⟨hpaired, h.validity, h.migrated, (hstatements.append_right _).trans ?_⟩
  rw [List.append_assoc, recordedStatements, List.append_assoc]
  exact List.perm_append_comm.append_left _

theorem Kept.memory (h : Kept env st) {msg : Memory.Msg} {app : Application.State β γ}
    {response : Application.Response}
    (hok : Application.handle env.toEnv st.app (.memory msg) = .ok (app, response)) :
    Records env st { st with app := app } (acceptedStatements env st (.msg (.app (.memory msg)))) := by
  obtain ⟨memory, hhandle, rfl⟩ := Application.handle_memory_eq hok
  cases msg with
  | approveMemory m =>
    obtain ⟨-, -, ⟨pending, hpending, hverified⟩, happrove⟩ := Memory.approveMemoryMsg_ok hhandle
    obtain ⟨pending', record, hpending', -, -, hfresh, -, rfl⟩ := Memory.approveMemory_eq happrove
    obtain rfl := Except.ok.inj (hpending.symm.trans hpending')
    obtain ⟨-, -, -, -, -, hhash⟩ := Memory.verifyApproval_ok hverified
    rw [acceptedStatements_approve hhandle hpending]
    refine ⟨h.paired, h.validity, h.migrated, ?_⟩
    have happroved := (OrderedMap.values_set_perm_of_get_none
      (v := Memory.memoryToStored (Memory.approvedRecord (m.approval env.crypto) pending
        (Memory.getCurrentEpoch st.app.memory))) hfresh).map Memory.StoredMemoryCommitment.statement
    have hstatement : (Memory.memoryToStored (Memory.approvedRecord (m.approval env.crypto) pending
        (Memory.getCurrentEpoch st.app.memory))).statement =
          Memory.approvalStatement env.crypto m pending := by
      change Statement.submitMemory _ _ _ _ _ _ _ m.contentHash _ = _
      rw [hhash]
      rfl
    rw [List.map_cons, hstatement] at happroved
    refine ((happroved.append_right _).append_left _).trans ?_
    exact List.perm_middle.trans (List.perm_append_singleton _ _).symm
  | submitCommitment m | reportMemory m | updateParams m =>
    have hstored := Memory.handle_stored hhandle
    generalize memory.store = s at hstored ⊢
    cases hstored
    exact h.unchanged rfl rfl rfl rfl

theorem Kept.migration (h : Kept env st) {blockHeight : UInt64} {msg : Identity.MsgMigrateIdentity}
    {identity : Identity.Store}
    (hok : Identity.migrateIdentity env.crypto.ed25519Verify env.ext.accAddressFromBech32 blockHeight
      st.identity msg = .ok identity) :
    Records env st { st with identity := identity }
      (acceptedStatements env st (.msg (.migrateIdentity blockHeight msg))) := by
  rw [acceptedStatements_migrate hok]
  obtain ⟨-, hfresh, rfl⟩ := Identity.migrateIdentity_ok hok
  have hnone : st.identity.aliases.get (Identity.aliasKey msg.passkeyPubkey) = none := by
    cases hget : st.identity.aliases.get (Identity.aliasKey msg.passkeyPubkey) with
    | none => rfl
    | some a => exact absurd ((hfresh a hget).symm.trans (h.migrated _ a hget)) Bool.false_ne_true
  refine ⟨h.paired, h.validity, h.migrated.set rfl, ?_⟩
  have haliases := (OrderedMap.values_set_perm_of_get_none
    (v := ⟨msg.passkeyPubkey, msg.signer, true, blockHeight⟩) hnone).map
      Identity.StoredIdentityAlias.statement
  refine ((haliases.append_left _).append_left _).trans ?_
  rw [List.map_cons]
  refine (List.perm_middle.append_left _).trans ?_
  exact List.perm_middle.trans (List.perm_append_singleton _ _).symm

theorem Kept.next (h : Kept env st) (input : Input β γ) :
    Records env st ((chain env).next st input) (acceptedStatements env st input) := by
  have hchanged := next_changed env st input
  generalize (chain env).next st input = st' at hchanged ⊢
  cases hchanged with
  | refused msg e failed =>
    rw [acceptedStatements_of_refused failed]
    exact h.unchanged rfl rfl rfl rfl
  | app msg app response accepted =>
    cases msg with
    | org msg =>
      obtain ⟨org, orgResponse, -, -, rfl⟩ := Application.handle_org_eq accepted
      exact h.unchanged rfl rfl rfl rfl
    | memory msg => exact h.memory accepted
    | serve msg => exact h.serve accepted
    | bandwidth msg =>
      obtain ⟨bandwidth, rfl⟩ := Application.handle_bandwidth accepted
      exact h.unchanged rfl rfl rfl rfl
  | migrated blockHeight msg identity accepted => exact h.migration accepted
  | epochEnd n =>
    obtain ⟨merkle, hmemory⟩ :=
      Memory.afterEpochEnd_of_validity_empty env.crypto.sha256 env.foreign h.validity n
    have happ : (epochEnd env st n).app.memory =
        { st.app.memory with currentEpoch := some n.toUInt64, merkle := merkle } := hmemory
    refine h.unchanged rfl ?_ ?_ rfl
    · rw [happ]
    · rw [happ]
  | _ => exact h.unchanged rfl rfl rfl rfl

theorem Kept.kept (h : Kept env st) (input : Input β γ) : Kept env ((chain env).next st input) :=
  ⟨h.governed.kept (next_evolution env st input), (h.next input).paired, (h.next input).validity,
    (h.next input).migrated⟩

/-- The stores that hold the records are empty, and there are no orgs. -/
structure NoRecords (st : State β γ) : Prop where
  org : ∃ params, st.app.org = { params := params }
  serve : st.app.serve = {}
  memory : st.app.memory = {}
  identity : st.identity = {}

theorem NoRecords.kept (h : NoRecords st) (env : Env β γ) : Kept env st := by
  refine ⟨?_, ?_, ?_, ?_⟩
  · obtain ⟨params, horg⟩ := h.org
    rw [horg]
    exact Orgs.governed_empty params
  · rw [h.serve]
    exact Serve.paired_empty env.crypto
  · rw [h.memory]
  · rw [h.identity]
    exact OrderedMap.forall_empty

/-- In every state of a run from empty stores, the statements that the records hold are the accepted
ones, each once. -/
theorem records_are_accepted_statements (env : Env β γ) (hstart : NoRecords st)
    (inputs : List (Input β γ)) :
    (recordedStatements ((chain env).run st inputs)).Perm
      (((signedChain env).history st inputs).flatten.map Statement.recorded) := by
  have hnone : recordedStatements st = ([] : List (List Statement)).flatten.map
      Statement.recorded := by
    rw [recordedStatements, hstart.serve, hstart.memory, hstart.identity]
    rfl
  have hrun := (signedChain env).run_history_invariant
    (I := fun t log => Kept env t ∧
      (recordedStatements t).Perm (log.flatten.map Statement.recorded)) ?_
    ⟨hstart.kept env, .of_eq hnone⟩
    ((signedChain env).along_true st inputs)
  · rw [signedChain, Machine.run_withOutput] at hrun
    exact hrun.2
  · rintro t log input ⟨ht, hlog⟩ _
    refine ⟨ht.kept input, (ht.next input).statements.trans ?_⟩
    rw [List.flatten_append, List.flatten_singleton, List.map_append]
    exact hlog.append_right _

theorem sample_records_accepted :
    NoRecords sampleStart ∧
      (recordedStatements ((chain sampleEnv).run sampleStart sampleSigned)).map Statement.kind =
        [.submitMemory, .migrateIdentity] ∧
      (recordedStatements ((chain sampleEnv).run sampleStart sampleSigned)).Perm
        (((signedChain sampleEnv).history sampleStart sampleSigned).flatten.map
          Statement.recorded) :=
  ⟨⟨⟨none, rfl⟩, rfl, rfl, rfl⟩, by decide +kernel, records_are_accepted_statements sampleEnv
    ⟨⟨none, rfl⟩, rfl, rfl, rfl⟩ sampleSigned⟩

end Records

end WeVibeChain.Node
