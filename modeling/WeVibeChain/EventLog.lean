import WeVibeChain.Application

/-!
# x/serve: the event log

An accepted event is stored once, under its org, its epoch and the hash of the
text that was signed, and the hash is marked. Everything the text was made from is
stored with it, so the text can be rebuilt and checked. Events of an epoch are
found by a scan over keys that start with the org and the epoch; org ids have no
slash, so no other org's keys are among them.
-/

set_option autoImplicit false

namespace WeVibeChain.Serve

open Bytes

section Records

/-- An entry with the org and the epoch it was accepted for. -/
structure AcceptedEvent where
  orgID : Bytes
  epoch : UInt64
  entry : EventEntry
  deriving DecidableEq

/-- The entry that the fields of a stored event make up. -/
def StoredEvent.entry (e : StoredEvent) : EventEntry :=
  ⟨e.eventType, e.memoryContentHash, e.signerPubkey, e.nonce, e.signature, e.body⟩

def StoredEvent.accepted (e : StoredEvent) : AcceptedEvent := ⟨e.orgId, e.epoch, e.entry⟩

/-- The text rebuilt from the stored fields hashes to the fingerprint, and the signature is one of
the signer's for it. -/
def Verified (crypto : Crypto) (e : StoredEvent) : Prop :=
  ∃ body, canonicalEventBody e.orgId e.epoch e.entry = .ok body ∧
    computeEventFingerprint crypto.sha256 body = e.fingerprint ∧
    crypto.ed25519Verify e.signerPubkey body e.signature = true

def recordEvent (s : Store) (e : StoredEvent) : Store :=
  { s with
    event := s.event.set (eventKey e.orgId e.epoch e.fingerprint) e
    eventFingerprint := s.eventFingerprint.set (eventFingerprintKey e.fingerprint) () }

variable {crypto : Crypto} {memory : Memory.Store} {orgID : Bytes} {epoch : UInt64} {s : Store}

/-- An entry is rejected and nothing happens, or it is new and is recorded. -/
theorem processEvent_cases (crypto : Crypto) (memory : Memory.Store) (orgID : Bytes)
    (epoch : UInt64) (s : Store) (entry : EventEntry) :
    ((processEvent crypto memory orgID epoch s entry).1 = s ∧
      (processEvent crypto memory orgID epoch s entry).2 ≠ .accepted) ∨
    ∃ e : StoredEvent, e.accepted = ⟨orgID, epoch, entry⟩ ∧ Verified crypto e ∧
      s.eventFingerprint.get (eventFingerprintKey e.fingerprint) = none ∧
      processEvent crypto memory orgID epoch s entry = (recordEvent s e, .accepted) := by
  unfold processEvent
  split
  · exact Or.inl ⟨rfl, nofun⟩
  rename_i body hbody
  dsimp only
  split
  · exact Or.inl ⟨rfl, nofun⟩
  rename_i hsignature
  split
  · exact Or.inl ⟨rfl, nofun⟩
  rename_i hfresh
  split
  · exact Or.inl ⟨rfl, nofun⟩
  refine Or.inr ⟨storedEventFromEntry orgID epoch entry
    (computeEventFingerprint crypto.sha256 body), rfl, ⟨body, hbody, rfl, ?_⟩, ?_, rfl⟩
  · exact Bool.not_eq_false _ ▸ hsignature
  · exact OrderedMap.has_eq_false_iff.mp (Bool.eq_false_iff.mpr hfresh)

/-- What the batch accepts of its entries, in order. -/
def acceptedEntries (crypto : Crypto) (memory : Memory.Store) (orgID : Bytes) (epoch : UInt64) :
    Store → List EventEntry → List AcceptedEvent
  | _, [] => []
  | s, entry :: entries =>
    let (s', outcome) := processEvent crypto memory orgID epoch s entry
    if outcome = .accepted then
      ⟨orgID, epoch, entry⟩ :: acceptedEntries crypto memory orgID epoch s' entries
    else acceptedEntries crypto memory orgID epoch s' entries

end Records

section Log
variable {crypto : Crypto} {memory : Memory.Store} {orgID : Bytes} {epoch : UInt64} {s : Store}

/-- The stored events are verified, stand under the keys of their own fields, and their fingerprints
are those that are marked. -/
structure EventLog (crypto : Crypto) (s : Store) : Prop where
  stored : s.event.Forall fun k e =>
    k = eventKey e.orgId e.epoch e.fingerprint ∧ slash ∉ e.orgId ∧ Verified crypto e
  marked : (s.event.values.map fun e => eventFingerprintKey e.fingerprint).Perm
    s.eventFingerprint.keys

theorem eventLog_empty (crypto : Crypto) : EventLog crypto {} :=
  ⟨OrderedMap.forall_empty, .nil⟩

/-- A fingerprint that is not marked has no event. -/
theorem EventLog.fresh (h : EventLog crypto s) {fp : Bytes}
    (hfp : s.eventFingerprint.get (eventFingerprintKey fp) = none) (orgID : Bytes)
    (epoch : UInt64) : s.event.get (eventKey orgID epoch fp) = none := by
  cases hget : s.event.get (eventKey orgID epoch fp) with
  | none => rfl
  | some e =>
    exfalso
    obtain ⟨-, -, rfl⟩ := eventKey_inj.mp (h.stored _ e hget).1
    have hmem : eventFingerprintKey e.fingerprint ∈ s.eventFingerprint.keys :=
      h.marked.mem_iff.mp (List.mem_map.mpr ⟨e, OrderedMap.mem_values_iff.mpr ⟨_, hget⟩, rfl⟩)
    obtain ⟨⟨k, u⟩, hentry, rfl⟩ := List.mem_map.mp hmem
    exact OrderedMap.get_eq_none_iff.mp hfp u hentry

theorem EventLog.record (h : EventLog crypto s) {e : StoredEvent} (horg : slash ∉ e.orgId)
    (hverified : Verified crypto e)
    (hfp : s.eventFingerprint.get (eventFingerprintKey e.fingerprint) = none) :
    EventLog crypto (recordEvent s e) := by
  refine ⟨OrderedMap.Forall.set h.stored ⟨rfl, horg, hverified⟩, ?_⟩
  have hvalues := (OrderedMap.values_set_perm_of_get_none (v := e)
    (h.fresh hfp e.orgId e.epoch)).map
      fun e => eventFingerprintKey e.fingerprint
  have hkeys := (OrderedMap.entries_set_perm_of_get_none (v := ()) hfp).map Prod.fst
  exact hvalues.trans ((h.marked.cons _).trans hkeys.symm)

/-- What is recorded afterwards does not touch the events that are there. -/
theorem EventLog.record_keeps (h : EventLog crypto s) {e stored : StoredEvent} {k : Bytes}
    (hfp : s.eventFingerprint.get (eventFingerprintKey e.fingerprint) = none)
    (hget : s.event.get k = some stored) : (recordEvent s e).event.get k = some stored := by
  refine (OrderedMap.get_set_of_ne s.event e ?_).trans hget
  rintro rfl
  rw [h.fresh hfp e.orgId e.epoch] at hget
  cases hget

/-- The stored events are those of the list, each as often as it occurs there. -/
def Logged (s : Store) (log : List AcceptedEvent) : Prop :=
  (s.event.values.map StoredEvent.accepted).Perm log

theorem Logged.record {log : List AcceptedEvent} (hlog : Logged s log) (h : EventLog crypto s)
    {e : StoredEvent} (hfp : s.eventFingerprint.get (eventFingerprintKey e.fingerprint) = none) :
    Logged (recordEvent s e) (log ++ [e.accepted]) := by
  have hvalues := (OrderedMap.values_set_perm_of_get_none (v := e)
    (h.fresh hfp e.orgId e.epoch)).map StoredEvent.accepted
  exact hvalues.trans ((hlog.cons _).trans (List.perm_append_singleton _ _).symm)

/-- Every event of the first store is in the second as it was. -/
def Keeps (s s' : Store) : Prop := ∀ k e, s.event.get k = some e → s'.event.get k = some e

/-- A batch for an org without a slash adds what it accepts to the log and keeps what is there. -/
theorem processEventBatch_log (horg : slash ∉ orgID) (h : EventLog crypto s)
    {log : List AcceptedEvent} (hlog : Logged s log) (result : BatchResult)
    (entries : List EventEntry) :
    EventLog crypto (processEventBatch crypto memory orgID epoch s result entries).1 ∧
      Logged (processEventBatch crypto memory orgID epoch s result entries).1
        (log ++ acceptedEntries crypto memory orgID epoch s entries) ∧
      Keeps s (processEventBatch crypto memory orgID epoch s result entries).1 := by
  induction entries generalizing s log result with
  | nil => exact ⟨h, (List.append_nil log).symm ▸ hlog, fun k e hget => hget⟩
  | cons entry entries ih =>
    unfold processEventBatch acceptedEntries
    rcases processEvent_cases crypto memory orgID epoch s entry with
      ⟨hsame, hrejected⟩ | ⟨e, haccepted, hverified, hfp, heq⟩
    · dsimp only
      rw [hsame, if_neg hrejected]
      exact ih h hlog _
    · have hid : e.orgId = orgID := congrArg AcceptedEvent.orgID haccepted
      obtain ⟨hnext, hnextLog, hkept⟩ := ih (h.record (hid ▸ horg) hverified hfp)
        (hlog.record h hfp) (result.tally .accepted)
      rw [heq]
      dsimp only
      rw [if_pos rfl, ← haccepted, List.append_cons]
      exact ⟨hnext, hnextLog, fun k stored hget => hkept k stored (h.record_keeps hfp hget)⟩

end Log

section Scan
variable {crypto : Crypto} {s : Store}

/-- The prefix of an org and an epoch is that of their events and of no others, as long as the org of
the event has no slash. -/
theorem eventPrefix_prefix_iff {org org' fp : Bytes} {n n' : UInt64} (h : slash ∉ org) :
    eventPrefix org' n' <+: eventKey org n fp ↔ org = org' ∧ n = n' := by
  constructor
  · rintro ⟨rest, heq⟩
    simp only [eventPrefix, eventKey, pathKey, List.append_assoc, List.cons_append,
      List.nil_append, List.append_cancel_left_eq] at heq
    -- Both sides have as many slashes, so the queried org has none.
    have hcount := congrArg (List.count slash) heq
    simp only [List.count_append, List.count_cons_self,
      List.count_eq_zero_of_not_mem (slash_notMem_formatUint _),
      List.count_eq_zero_of_not_mem (slash_notMem_hexEncode _),
      List.count_eq_zero_of_not_mem h] at hcount
    have horg' : slash ∉ org' := List.count_eq_zero.mp (by omega)
    obtain ⟨rfl, htail⟩ := (append_cons_inj_of_notMem_left horg' h).mp heq
    obtain ⟨hepoch, -⟩ := (append_cons_inj_of_notMem_left (slash_notMem_formatUint _)
      (slash_notMem_formatUint _)).mp htail
    exact ⟨rfl, (formatUint_injective hepoch).symm⟩
  · rintro ⟨rfl, rfl⟩
    refine ⟨hexEncode fp, ?_⟩
    simp [eventPrefix, eventKey, pathKey]

/-- The scan finds the events of the org and the epoch. -/
theorem EventLog.getEventsForEpoch_eq (h : EventLog crypto s) (orgID : Bytes) (epoch : UInt64) :
    getEventsForEpoch s orgID epoch =
      s.event.values.filter fun e => e.orgId = orgID ∧ e.epoch = epoch := by
  unfold getEventsForEpoch OrderedMap.values
  rw [← OrderedMap.values, OrderedMap.values_under, List.filter_map]
  congr 1
  apply List.filter_congr
  intro entry hentry
  obtain ⟨hkey, horg, -⟩ := h.stored entry.1 entry.2 (OrderedMap.get_eq_some_iff.mpr hentry)
  rw [hkey, Bool.eq_iff_iff, List.isPrefixOf_iff_prefix, eventPrefix_prefix_iff horg]
  simp

theorem EventLog.values_nodup (h : EventLog crypto s) : s.event.values.Nodup :=
  (h.marked.nodup_iff.mpr s.eventFingerprint.keys_nodup).of_map

end Scan

section Messages
variable {crypto : Crypto} {scopeTagsOf : Bytes → Option (OrderedMap Bytes Bytes)}
  {authority : Bytes} {st st' : State} {msg : Msg} {response : Response}

/-- The events that a message adds to the log. -/
def acceptedBy (crypto : Crypto) (st : State) : Msg → List AcceptedEvent
  | .submitEventBatch m =>
    match submitEventBatch crypto st m with
    | .error _ => []
    | .ok _ => acceptedEntries crypto st.memory m.orgId m.epoch st.store m.events
  | _ => []

theorem submitEventBatch_validated {m : MsgSubmitEventBatch} {result : BatchResult}
    (h : submitEventBatch crypto st m = .ok (st', result)) :
    ∀ entry ∈ m.events, validateEventEntry entry = .ok () := by
  obtain ⟨hbasic, -, -⟩ := submitEventBatch_ok h
  unfold MsgSubmitEventBatch.validateBasic validateBatch at hbasic
  split at hbasic
  · cases hbasic
  split at hbasic
  · cases hbasic
  split at hbasic
  · cases hbasic
  · exact Except.forM_eq_ok_iff.mp hbasic

/-- Messages other than event batches leave the events alone. -/
theorem handle_events (h : handle crypto scopeTagsOf authority st msg = .ok (st', response))
    (hmsg : ∀ m, msg ≠ .submitEventBatch m) :
    st'.store.event = st.store.event ∧
      st'.store.eventFingerprint = st.store.eventFingerprint := by
  by_cases hanchor : ∃ height m, msg = .anchorPolicyVersion height m
  · obtain ⟨height, m, rfl⟩ := hanchor
    have hok := Except.eq_ok_of_map h
    obtain ⟨anchor, latest, rfl⟩ := anchorPolicyVersion_frame hok
    exact ⟨rfl, rfl⟩
  · have hframe := handle_frame (f := fun s => (s.event, s.eventFingerprint)) ?_
      (fun _ _ _ _ _ _ => rfl) (fun _ _ => rfl) h hmsg fun height m hm => hanchor ⟨height, m, hm⟩
    · exact Prod.mk.inj hframe
    · intro s r
      obtain ⟨stats, hframe⟩ := acceptedStore_frame s r
      rw [hframe]

/-- A message that adds events is accepted. -/
theorem acceptedBy_eq_nil (h : ∀ r, handle crypto scopeTagsOf authority st msg ≠ .ok r) :
    acceptedBy crypto st msg = [] := by
  cases msg with
  | submitEventBatch m =>
    cases hbatch : submitEventBatch crypto st m with
    | error e => rw [acceptedBy, hbatch]
    | ok r => exact absurd (congrArg (Except.map _) hbatch) (h (r.1, .eventBatch r.2))
  | _ => rfl

theorem EventLog.congr {s s' : Store} (h : EventLog crypto s) (hevent : s'.event = s.event)
    (hmarked : s'.eventFingerprint = s.eventFingerprint) : EventLog crypto s' :=
  ⟨hevent ▸ h.stored, by rw [hevent, hmarked]; exact h.marked⟩

/-- An accepted message keeps the log and adds the events it accepts. -/
theorem handle_log (h : handle crypto scopeTagsOf authority st msg = .ok (st', response))
    (hids : ∀ orgID, Orgs.hasOrg st.org orgID = true → slash ∉ orgID)
    (hs : EventLog crypto st.store) {log : List AcceptedEvent} (hlog : Logged st.store log) :
    EventLog crypto st'.store ∧ Logged st'.store (log ++ acceptedBy crypto st msg) ∧
      Keeps st.store st'.store := by
  by_cases hmsg : ∃ m, msg = .submitEventBatch m
  · obtain ⟨m, rfl⟩ := hmsg
    obtain ⟨result, hok⟩ := Except.eq_ok_of_map_snd h
    obtain ⟨-, horg, hst⟩ := submitEventBatch_ok hok
    rw [acceptedBy, hok, hst]
    exact processEventBatch_log (hids _ horg) hs hlog {} m.events
  · have hother : ∀ m, msg ≠ .submitEventBatch m := fun m hm => hmsg ⟨m, hm⟩
    obtain ⟨hevent, hmarked⟩ := handle_events h hother
    have hnone : acceptedBy crypto st msg = [] := by
      cases msg with
      | submitEventBatch m => exact absurd rfl (hother m)
      | _ => rfl
    refine ⟨hs.congr hevent hmarked, ?_, ?_⟩
    · rw [hnone, List.append_nil, Logged, hevent]
      exact hlog
    · intro k e hget
      rw [hevent]
      exact hget

end Messages

end WeVibeChain.Serve

namespace WeVibeChain.Application

open Bytes

section Runs
variable {β γ : Type} {env : Env β γ}

/-- The events that an input adds to the log. -/
def acceptedEvents (env : Env β γ) (st : State β γ) : Input β γ → List Serve.AcceptedEvent
  | .msg (.serve msg) => Serve.acceptedBy env.crypto st.serveState msg
  | _ => []

/-- The chain with the events that each input adds as its answer. -/
def eventChain (env : Env β γ) : Machine (State β γ) (Input β γ) (List Serve.AcceptedEvent) :=
  (chain env).withOutput (acceptedEvents env)

/-- An input keeps the log and adds the events it accepts. -/
theorem next_log {st : State β γ} (horg : Orgs.Governed st.org)
    (hs : Serve.EventLog env.crypto st.serve) {log : List Serve.AcceptedEvent}
    (hlog : Serve.Logged st.serve log) (input : Input β γ) :
    Serve.EventLog env.crypto ((chain env).next st input).serve ∧
      Serve.Logged ((chain env).next st input).serve (log ++ acceptedEvents env st input) ∧
      Serve.Keeps st.serve ((chain env).next st input).serve := by
  have hunchanged : ∀ st' : State β γ, st'.serve = st.serve → Serve.EventLog env.crypto st'.serve ∧
      Serve.Logged st'.serve (log ++ []) ∧ Serve.Keeps st.serve st'.serve := by
    intro st' hserve
    rw [hserve, List.append_nil]
    exact ⟨hs, hlog, fun k e hget => hget⟩
  cases input with
  | msg msg =>
    change Serve.EventLog env.crypto (deliver env st msg).1.serve ∧
      Serve.Logged (deliver env st msg).1.serve (log ++ acceptedEvents env st (.msg msg)) ∧
      Serve.Keeps st.serve (deliver env st msg).1.serve
    rcases deliver_cases env st msg with ⟨e, he⟩ | ⟨response, -, hok⟩
    · have hnone : acceptedEvents env st (.msg msg) = [] := by
        cases msg with
        | serve msg =>
          refine @Serve.acceptedBy_eq_nil _ env.scopeTagsOf env.authority _ _ ?_
          intro r hok
          rw [deliver, handle, hok] at he
          cases (Prod.mk.inj he).2
        | _ => rfl
      rw [hnone]
      exact hunchanged _ (congrArg (fun r => r.1.serve) he)
    · cases msg with
      | org msg =>
        obtain ⟨orgResponse, -, -, -, hserve⟩ := handle_org hok
        exact hunchanged _ hserve
      | memory msg =>
        obtain ⟨memory, -, -, -, hserve⟩ := handle_memory hok
        exact hunchanged _ hserve
      | serve msg =>
        obtain ⟨serve, serveResponse, hhandle, hserve, -⟩ := handle_serve hok
        rw [hserve]
        refine Serve.handle_log hhandle ?_ hs hlog
        intro orgID hhas
        obtain ⟨record, hget⟩ := OrderedMap.has_iff.mp hhas
        exact horg.registry.slash_notMem (Orgs.view_of_get hget)
      | bandwidth msg =>
        obtain ⟨bandwidth, heq⟩ := handle_bandwidth hok
        exact hunchanged _ (by rw [heq])
  | epochEnd n => exact hunchanged _ rfl
  | others bandwidth reputation bank feegrant => exact hunchanged _ rfl

/-- A state without orgs and with an empty store of x/serve. -/
def eventStart (params : Option Orgs.Params) (start : State β γ) : State β γ :=
  { start with org := { params := params }, serve := {} }

theorem run_log (env : Env β γ) (params : Option Orgs.Params) (start : State β γ)
    (inputs : List (Input β γ)) :
    Serve.EventLog env.crypto ((chain env).run (eventStart params start) inputs).serve ∧
      Serve.Logged ((chain env).run (eventStart params start) inputs).serve
        ((eventChain env).history (eventStart params start) inputs).flatten := by
  have hstart : Orgs.Governed (eventStart params start).org ∧
      Serve.EventLog env.crypto (eventStart params start).serve ∧
      Serve.Logged (eventStart params start).serve ([] : List (List Serve.AcceptedEvent)).flatten :=
    ⟨Orgs.governed_empty params, Serve.eventLog_empty env.crypto, .nil⟩
  have hrun := (eventChain env).run_history_invariant
    (I := fun st log => Orgs.Governed st.org ∧ Serve.EventLog env.crypto st.serve ∧
      Serve.Logged st.serve log.flatten) ?_ hstart
    ((eventChain env).along_true _ inputs)
  · rw [List.nil_append, eventChain, Machine.run_withOutput] at hrun
    exact hrun.2
  · rintro st log input ⟨horg, hs, hlog⟩ _
    obtain ⟨hnext, hnextLog, -⟩ := next_log horg hs hlog input
    refine ⟨horg.kept (next_evolution env st input), hnext, ?_⟩
    rw [List.flatten_append, List.flatten_singleton]
    exact hnextLog

theorem run_keeps (env : Env β γ) (params : Option Orgs.Params) (start : State β γ)
    (inputs later : List (Input β γ)) :
    Serve.Keeps ((chain env).run (eventStart params start) inputs).serve
      ((chain env).run (eventStart params start) (inputs ++ later)).serve := by
  rw [Machine.run_append]
  generalize hst : (chain env).run (eventStart params start) inputs = st
  have hs : Orgs.Governed st.org ∧ Serve.EventLog env.crypto st.serve := by
    rw [← hst]
    exact ⟨governed_run env params { start with serve := {} } inputs, (run_log env params start inputs).1⟩
  refine ((chain env).run_always (I := fun t => (Orgs.Governed t.org ∧
    Serve.EventLog env.crypto t.serve) ∧ Serve.Keeps st.serve t.serve) ?_
    ⟨hs, fun k e hget => hget⟩ later).2
  rintro t input ⟨ht, hkept⟩
  obtain ⟨hnext, -, hnextKept⟩ := next_log ht.1 ht.2 (.refl _) input
  exact ⟨⟨ht.1.kept (next_evolution env t input), hnext⟩,
    fun k e hget => hnextKept k e (hkept k e hget)⟩

/-- In every run from empty stores of x/org and x/serve, the events are kept by whatever follows;
their fingerprints are those that are marked, each once; every event is verified by its own fields;
and the scan for an org and an epoch returns the events accepted for them, each once. -/
theorem event_log_sound (env : Env β γ) (params : Option Orgs.Params) (start : State β γ)
    (inputs later : List (Input β γ)) :
    Serve.Keeps ((chain env).run (eventStart params start) inputs).serve
        ((chain env).run (eventStart params start) (inputs ++ later)).serve ∧
      (((chain env).run (eventStart params start) inputs).serve.event.values.map
          fun e => Serve.eventFingerprintKey e.fingerprint).Perm
        ((chain env).run (eventStart params start) inputs).serve.eventFingerprint.keys ∧
      (∀ e ∈ ((chain env).run (eventStart params start) inputs).serve.event.values,
        Serve.Verified env.crypto e) ∧
      ∀ orgID epoch,
        (Serve.getEventsForEpoch ((chain env).run (eventStart params start) inputs).serve orgID
          epoch).Nodup ∧
        ((Serve.getEventsForEpoch ((chain env).run (eventStart params start) inputs).serve orgID
          epoch).map Serve.StoredEvent.accepted).Perm
          (((eventChain env).history (eventStart params start) inputs).flatten.filter
            fun a => a.orgID = orgID ∧ a.epoch = epoch) := by
  obtain ⟨hs, hlog⟩ := run_log env params start inputs
  refine ⟨run_keeps env params start inputs later, hs.marked, ?_, ?_⟩
  · intro e he
    obtain ⟨k, hget⟩ := OrderedMap.mem_values_iff.mp he
    exact (hs.stored k e hget).2.2
  · intro orgID epoch
    rw [hs.getEventsForEpoch_eq]
    refine ⟨hs.values_nodup.filter _, ?_⟩
    have hfiltered := hlog.filter fun a => a.orgID = orgID ∧ a.epoch = epoch
    rwa [List.filter_map] at hfiltered

end Runs

end WeVibeChain.Application
