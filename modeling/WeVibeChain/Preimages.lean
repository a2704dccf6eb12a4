import WeVibeChain.IdentityKeeper
import WeVibeChain.MemoryMsgServer
import WeVibeChain.ServeTypes

/-!
# The texts that are signed

Five kinds of statement are signed off the chain: serves, denials, events,
submitted memories and identity migrations. Each is a list of lines, the first of
which names the kind. No line holds a newline, so the lines can be read back from
the text, and each line determines the field it was made from.
-/

set_option autoImplicit false

namespace WeVibeChain.Preimages

open Bytes Serve

/-- A statement with the fields that its text is made from. -/
inductive Statement where
  | serve (orgID memoryHash : Bytes) (epoch : UInt64) (serveKeyPubkey nonce episodeRef : Bytes)
  | denial (orgID memoryHash : Bytes) (epoch : UInt64)
      (serveKeyPubkey serveFingerprint nonce : Bytes)
  | event (eventType : EventType) (orgID memoryHash : Bytes) (epoch : UInt64)
      (signerPubkey nonce : Bytes) (body : Option EventBody)
  | submitMemory (ciphertextHash contributorPubkey : Bytes) (epochID : UInt64)
      (memoryType : Memory.MemoryType)
      (orgID plaintextHash salt submissionHash wrappedDekHash : Bytes)
  | migrateIdentity (passkeyPubkey wallet : Bytes) (nonce : UInt64)
  deriving DecidableEq

/-- The text of a statement, by the encoder of its kind. -/
def Statement.text : Statement → Except Serve.Error Bytes
  | serve orgID memoryHash epoch serveKeyPubkey nonce episodeRef =>
    .ok (canonicalServeBody orgID memoryHash epoch serveKeyPubkey nonce episodeRef)
  | denial orgID memoryHash epoch serveKeyPubkey serveFingerprint nonce =>
    .ok (canonicalDenialBody orgID memoryHash epoch serveKeyPubkey serveFingerprint nonce)
  | event eventType orgID memoryHash epoch signerPubkey nonce body =>
    canonicalEventBody orgID epoch ⟨eventType, memoryHash, signerPubkey, nonce, [], body⟩
  | submitMemory ciphertextHash contributorPubkey epochID memoryType orgID plaintextHash salt
      submissionHash wrappedDekHash =>
    .ok (Memory.buildSubmitMemoryCanonicalBody ciphertextHash contributorPubkey epochID memoryType
      orgID plaintextHash salt submissionHash wrappedDekHash)
  | migrateIdentity passkeyPubkey wallet nonce =>
    .ok (Identity.MsgMigrateIdentity.canonicalBody ⟨wallet, passkeyPubkey, [], nonce⟩)

/-- Org ids and wallets are single lines, contributors and passkeys are hexadecimal, and the type of
a memory is valid. Nothing is asked of the other fields. -/
def Statement.WellFormed : Statement → Prop
  | serve orgID _ _ _ _ _ => newline ∉ orgID
  | denial orgID _ _ _ _ _ => newline ∉ orgID
  | event _ orgID _ _ _ _ _ => newline ∉ orgID
  | submitMemory _ contributorPubkey _ memoryType orgID _ _ _ _ =>
    newline ∉ orgID ∧ HexText contributorPubkey ∧ Memory.validMemoryType memoryType = true
  | migrateIdentity passkeyPubkey wallet _ => HexText passkeyPubkey ∧ newline ∉ wallet

section Events
variable {entry : EventEntry} {eventType : EventType} {token : Bytes} {specific : List Bytes}

/-- What each type of event adds to the text, in the cases where the encoder succeeds. -/
inductive Specific : EventType → Option EventBody → Bytes → List Bytes → Prop where
  | outcome (body : OutcomeEventBody) (resolution source : Bytes)
      (resolved : outcomeResolutionToken body.resolution = .ok resolution)
      (sourced : outcomeSourceToken body.source = .ok source) :
      Specific .outcome (some (.outcome body)) (ascii "outcome")
        [hexEncode body.episodeRef, hexEncode body.evidenceRef, hexEncode body.serveRef,
          ascii "resolution=" ++ resolution, ascii "source=" ++ source]
  | validityPredicate (body : ValidityPredicateEventBody) (result : Bytes)
      (resulted : predicateResultToken body.result = .ok result) :
      Specific .validityPredicate (some (.validityPredicate body)) (ascii "validity_predicate")
        [hexEncode body.predicateId, ascii "result=" ++ result, hexEncode body.evidenceRef]
  | costToDiscover (body : CostToDiscoverEventBody) :
      Specific .costToDiscover (some (.costToDiscover body)) (ascii "cost_to_discover")
        [ascii "cycles=" ++ formatUint body.cycles,
          ascii "tool_calls=" ++ formatUint body.toolCalls,
          ascii "attempts_to_green=" ++ formatUint body.attemptsToGreen.toUInt64,
          hexEncode body.evidenceRef]
  | convergence (body : ConvergenceEventBody) :
      Specific .convergence (some (.convergence body)) (ascii "convergence")
        [hexEncode body.convergenceRef]

theorem specific_of_ok (h : canonicalEventSpecificLines eventType entry = .ok (token, specific)) :
    Specific eventType entry.body token specific := by
  unfold canonicalEventSpecificLines at h
  split at h
  · split at h
    · rename_i body hbody
      cases hresolution : outcomeResolutionToken body.resolution with
      | error e =>
        rw [hresolution] at h
        cases h
      | ok resolution =>
        cases hsource : outcomeSourceToken body.source with
        | error e =>
          rw [hresolution, hsource] at h
          cases h
        | ok source =>
          rw [hresolution, hsource] at h
          obtain ⟨rfl, rfl⟩ := Prod.mk.inj (Except.ok.inj h)
          rw [hbody]
          exact .outcome body resolution source hresolution hsource
    · cases h
  · split at h
    · rename_i body hbody
      cases hresult : predicateResultToken body.result with
      | error e =>
        rw [hresult] at h
        cases h
      | ok result =>
        rw [hresult] at h
        obtain ⟨rfl, rfl⟩ := Prod.mk.inj (Except.ok.inj h)
        rw [hbody]
        exact .validityPredicate body result hresult
    · cases h
  · split at h
    · rename_i body hbody
      obtain ⟨rfl, rfl⟩ := Prod.mk.inj (Except.ok.inj h)
      rw [hbody]
      exact .costToDiscover body
    · cases h
  · split at h
    · rename_i body hbody
      obtain ⟨rfl, rfl⟩ := Prod.mk.inj (Except.ok.inj h)
      rw [hbody]
      exact .convergence body
    · cases h
  · cases h

/-- Each token can be read back; the last one is what is left when it is none of the others. -/
theorem outcomeResolutionToken_inj {r r' : OutcomeResolution}
    (h : outcomeResolutionToken r = .ok token) (h' : outcomeResolutionToken r' = .ok token) :
    r = r' := by
  have hread : ∀ r, outcomeResolutionToken r = .ok token →
      r = if token = ascii "worked" then .worked
        else if token = ascii "didnt_work" then .didntWork else .unobserved := by
    intro r hr
    cases r <;> cases hr <;> decide
  rw [hread r h, hread r' h']

theorem outcomeSourceToken_inj {r r' : OutcomeSource} (h : outcomeSourceToken r = .ok token)
    (h' : outcomeSourceToken r' = .ok token) : r = r' := by
  have hread : ∀ r, outcomeSourceToken r = .ok token →
      r = if token = ascii "harvested" then .harvested else .user := by
    intro r hr
    cases r <;> cases hr <;> decide
  rw [hread r h, hread r' h']

theorem predicateResultToken_inj {r r' : PredicateResult} (h : predicateResultToken r = .ok token)
    (h' : predicateResultToken r' = .ok token) : r = r' := by
  have hread : ∀ r, predicateResultToken r = .ok token →
      r = if token = ascii "pass" then .pass
        else if token = ascii "fail" then .fail else .absent := by
    intro r hr
    cases r <;> cases hr <;> decide
  rw [hread r h, hread r' h']

theorem newline_notMem_resolution {r : OutcomeResolution}
    (h : outcomeResolutionToken r = .ok token) : newline ∉ token := by
  cases r <;> cases h <;> decide

theorem newline_notMem_source {r : OutcomeSource} (h : outcomeSourceToken r = .ok token) :
    newline ∉ token := by
  cases r <;> cases h <;> decide

theorem newline_notMem_result {r : PredicateResult} (h : predicateResultToken r = .ok token) :
    newline ∉ token := by
  cases r <;> cases h <;> decide

/-- A label in front of a line without a newline. -/
theorem newline_notMem_append {a b : Bytes} (ha : newline ∉ a) (hb : newline ∉ b) :
    newline ∉ a ++ b := by
  rw [List.mem_append, not_or]
  exact ⟨ha, hb⟩

theorem Specific.newline_notMem {body : Option EventBody}
    (h : Specific eventType body token specific) :
    newline ∉ token ∧ ∀ line ∈ specific, newline ∉ line := by
  cases h with
  | outcome body resolution source hresolution hsource =>
    refine ⟨by decide, ?_⟩
    simp only [List.forall_mem_cons, newline_notMem_hexEncode, not_false_eq_true, true_and]
    exact ⟨newline_notMem_append (by decide) (newline_notMem_resolution hresolution),
      newline_notMem_append (by decide) (newline_notMem_source hsource), nofun⟩
  | validityPredicate body result hresult =>
    refine ⟨by decide, ?_⟩
    simp only [List.forall_mem_cons, newline_notMem_hexEncode, not_false_eq_true, true_and]
    exact ⟨newline_notMem_append (by decide) (newline_notMem_result hresult), nofun⟩
  | costToDiscover body =>
    have hlabelled : ∀ (label : String) (n : UInt64), newline ∉ ascii label →
        newline ∉ ascii label ++ formatUint n :=
      fun label n hlabel => newline_notMem_append hlabel (newline_notMem_formatUint n)
    refine ⟨by decide, ?_⟩
    simp only [List.forall_mem_cons, newline_notMem_hexEncode, not_false_eq_true, true_and]
    exact ⟨hlabelled _ _ (by decide), hlabelled _ _ (by decide), hlabelled _ _ (by decide), nofun⟩
  | convergence body =>
    refine ⟨by decide, ?_⟩
    simp only [List.forall_mem_cons, newline_notMem_hexEncode, not_false_eq_true, true_and]
    exact nofun

theorem Specific.eventType_eq {body : Option EventBody}
    (h : Specific eventType body token specific) :
    eventType = if token = ascii "outcome" then .outcome
      else if token = ascii "validity_predicate" then .validityPredicate
      else if token = ascii "cost_to_discover" then .costToDiscover else .convergence := by
  cases h <;> decide

/-- The token gives the type, and the lines give the fields of a body of that type. -/
theorem Specific.inj {eventType' : EventType} {body body' : Option EventBody} {token' : Bytes}
    {specific' : List Bytes} (h : Specific eventType body token specific)
    (h' : Specific eventType' body' token' specific') (htoken : token = token')
    (hspecific : specific = specific') : eventType = eventType' ∧ body = body' := by
  obtain rfl : eventType = eventType' := by
    rw [h.eventType_eq, h'.eventType_eq, htoken]
  refine ⟨rfl, ?_⟩
  cases h with
  | outcome body resolution source hresolution hsource =>
    cases h' with
    | outcome body' resolution' source' hresolution' hsource' =>
      simp only [List.cons.injEq, hexEncode_inj, List.append_cancel_left_eq, and_true] at hspecific
      obtain ⟨hepisode, hevidence, hserve, rfl, rfl⟩ := hspecific
      have hr := outcomeResolutionToken_inj hresolution hresolution'
      have hs := outcomeSourceToken_inj hsource hsource'
      cases body
      cases body'
      simp_all
  | validityPredicate body result hresult =>
    cases h' with
    | validityPredicate body' result' hresult' =>
      simp only [List.cons.injEq, hexEncode_inj, List.append_cancel_left_eq, and_true] at hspecific
      obtain ⟨hid, rfl, hevidence⟩ := hspecific
      have hr := predicateResultToken_inj hresult hresult'
      cases body
      cases body'
      simp_all
  | costToDiscover body =>
    cases h' with
    | costToDiscover body' =>
      simp only [List.cons.injEq, hexEncode_inj, List.append_cancel_left_eq, formatUint_inj,
        and_true] at hspecific
      obtain ⟨hcycles, hcalls, hattempts, hevidence⟩ := hspecific
      have ha : body.attemptsToGreen = body'.attemptsToGreen := by
        simpa using congrArg UInt64.toUInt32 hattempts
      cases body
      cases body'
      simp_all
  | convergence body =>
    cases h' with
    | convergence body' =>
      simp only [List.cons.injEq, hexEncode_inj, and_true] at hspecific
      cases body
      cases body'
      simp_all

end Events

section Statements
variable {s s' : Statement} {lines lines' : List Bytes}

/-- The lines that the text of a statement is joined from. -/
inductive Lines : Statement → List Bytes → Prop where
  | serve (orgID memoryHash : Bytes) (epoch : UInt64) (serveKeyPubkey nonce episodeRef : Bytes) :
      Lines (.serve orgID memoryHash epoch serveKeyPubkey nonce episodeRef)
        [ascii "wevibe-serve-v3", orgID, hexEncode memoryHash, formatUint epoch,
          hexEncode serveKeyPubkey, hexEncode nonce, hexEncode episodeRef]
  | denial (orgID memoryHash : Bytes) (epoch : UInt64)
      (serveKeyPubkey serveFingerprint nonce : Bytes) :
      Lines (.denial orgID memoryHash epoch serveKeyPubkey serveFingerprint nonce)
        [ascii "wevibe-denial-v1", orgID, hexEncode memoryHash, formatUint epoch,
          hexEncode serveKeyPubkey, hexEncode serveFingerprint, hexEncode nonce]
  | event (eventType : EventType) (orgID memoryHash : Bytes) (epoch : UInt64)
      (signerPubkey nonce : Bytes) (body : Option EventBody) (token : Bytes)
      (specific : List Bytes) (added : Specific eventType body token specific) :
      Lines (.event eventType orgID memoryHash epoch signerPubkey nonce body)
        ([ascii "wevibe-event-v1", token, orgID, hexEncode memoryHash, formatUint epoch,
          hexEncode signerPubkey] ++ specific ++ [hexEncode nonce])
  | submitMemory (ciphertextHash contributorPubkey : Bytes) (epochID : UInt64)
      (memoryType : Memory.MemoryType)
      (orgID plaintextHash salt submissionHash wrappedDekHash : Bytes) :
      Lines (.submitMemory ciphertextHash contributorPubkey epochID memoryType orgID plaintextHash
          salt submissionHash wrappedDekHash)
        [ascii "wevibe.submit_memory.v1", ascii "ciphertext_hash:" ++ hexEncode ciphertextHash,
          ascii "contributor_pubkey:" ++ contributorPubkey, ascii "epoch_id:" ++ formatUint epochID,
          ascii "memory_type:" ++ Memory.canonicalMemoryType memoryType, ascii "org_id:" ++ orgID,
          ascii "plaintext_hash:" ++ hexEncode plaintextHash, ascii "salt:" ++ hexEncode salt,
          ascii "submission_hash:" ++ hexEncode submissionHash,
          ascii "wrapped_dek_hash:" ++ hexEncode wrappedDekHash]
  | migrateIdentity (passkeyPubkey wallet : Bytes) (nonce : UInt64) :
      Lines (.migrateIdentity passkeyPubkey wallet nonce)
        [ascii "wevibe.migrate_identity.v1", ascii "passkey_pubkey:" ++ passkeyPubkey,
          ascii "wallet:" ++ wallet, ascii "nonce:" ++ formatUint nonce]

theorem lines_of_text {text : Bytes} (h : s.text = .ok text) :
    ∃ lines, Lines s lines ∧ text = join newline lines := by
  cases s with
  | serve orgID memoryHash epoch serveKeyPubkey nonce episodeRef =>
    exact ⟨_, .serve .., (Except.ok.inj h).symm⟩
  | denial orgID memoryHash epoch serveKeyPubkey serveFingerprint nonce =>
    exact ⟨_, .denial .., (Except.ok.inj h).symm⟩
  | event eventType orgID memoryHash epoch signerPubkey nonce body =>
    unfold Statement.text canonicalEventBody at h
    cases hspecific : canonicalEventSpecificLines eventType
        ⟨eventType, memoryHash, signerPubkey, nonce, [], body⟩ with
    | error e =>
      simp only [hspecific] at h
      cases h
    | ok lines =>
      simp only [hspecific] at h
      exact ⟨_, .event _ _ _ _ _ _ _ _ _ (specific_of_ok hspecific), (Except.ok.inj h).symm⟩
  | submitMemory ciphertextHash contributorPubkey epochID memoryType orgID plaintextHash salt
      submissionHash wrappedDekHash =>
    exact ⟨_, .submitMemory .., (Except.ok.inj h).symm⟩
  | migrateIdentity passkeyPubkey wallet nonce =>
    exact ⟨_, .migrateIdentity .., (Except.ok.inj h).symm⟩

theorem Lines.newline_notMem (h : Lines s lines) (hs : s.WellFormed) :
    ∀ line ∈ lines, newline ∉ line := by
  have hhex : ∀ b, newline ∉ hexEncode b := newline_notMem_hexEncode
  have hnumber : ∀ n, newline ∉ formatUint n := newline_notMem_formatUint
  cases h with
  | serve orgID memoryHash epoch serveKeyPubkey nonce episodeRef =>
    have htag : newline ∉ ascii "wevibe-serve-v3" := by decide
    simp only [List.forall_mem_cons]
    exact ⟨htag, hs, hhex _, hnumber _, hhex _, hhex _, hhex _, nofun⟩
  | denial orgID memoryHash epoch serveKeyPubkey serveFingerprint nonce =>
    have htag : newline ∉ ascii "wevibe-denial-v1" := by decide
    simp only [List.forall_mem_cons]
    exact ⟨htag, hs, hhex _, hnumber _, hhex _, hhex _, hhex _, nofun⟩
  | event eventType orgID memoryHash epoch signerPubkey nonce body token specific hspecific =>
    have htag : newline ∉ ascii "wevibe-event-v1" := by decide
    obtain ⟨htoken, hlines⟩ := hspecific.newline_notMem
    simp only [List.forall_mem_append, List.forall_mem_cons]
    exact ⟨⟨⟨htag, htoken, hs, hhex _, hnumber _, hhex _, nofun⟩, hlines⟩, hhex _, nofun⟩
  | submitMemory ciphertextHash contributorPubkey epochID memoryType orgID plaintextHash salt
      submissionHash wrappedDekHash =>
    have htag : newline ∉ ascii "wevibe.submit_memory.v1" := by decide
    obtain ⟨horg, hcontributor, htype⟩ := hs
    obtain rfl : memoryType = .memory := of_decide_eq_true htype
    simp only [List.forall_mem_cons]
    exact ⟨htag, newline_notMem_append (by decide) (hhex _),
      newline_notMem_append (by decide) hcontributor.newline_notMem,
      newline_notMem_append (by decide) (hnumber _), by decide,
      newline_notMem_append (by decide) horg, newline_notMem_append (by decide) (hhex _),
      newline_notMem_append (by decide) (hhex _), newline_notMem_append (by decide) (hhex _),
      newline_notMem_append (by decide) (hhex _), nofun⟩
  | migrateIdentity passkeyPubkey wallet nonce =>
    have htag : newline ∉ ascii "wevibe.migrate_identity.v1" := by decide
    simp only [List.forall_mem_cons]
    exact ⟨htag, newline_notMem_append (by decide) hs.1.newline_notMem,
      newline_notMem_append (by decide) hs.2, newline_notMem_append (by decide) (hnumber _), nofun⟩

inductive Kind where
  | serve
  | denial
  | event
  | submitMemory
  | migrateIdentity
  deriving DecidableEq

def Kind.tag : Kind → Bytes
  | serve => ascii "wevibe-serve-v3"
  | denial => ascii "wevibe-denial-v1"
  | event => ascii "wevibe-event-v1"
  | submitMemory => ascii "wevibe.submit_memory.v1"
  | migrateIdentity => ascii "wevibe.migrate_identity.v1"

theorem Kind.tag_inj {k k' : Kind} (h : k.tag = k'.tag) : k = k' := by
  cases k <;> cases k' <;> first | rfl | exact absurd h (by decide)

def Statement.kind : Statement → Kind
  | serve .. => .serve
  | denial .. => .denial
  | event .. => .event
  | submitMemory .. => .submitMemory
  | migrateIdentity .. => .migrateIdentity

theorem Lines.head (h : Lines s lines) : lines.head? = some s.kind.tag := by
  cases h <;> rfl

theorem Lines.ne_nil (h : Lines s lines) : lines ≠ [] := by
  cases h <;> exact nofun

/-- Statements with the same lines are the same. -/
theorem Lines.inj (h : Lines s lines) (h' : Lines s' lines') (hs : s.WellFormed)
    (hs' : s'.WellFormed) (hlines : lines = lines') : s = s' := by
  have hkind : s.kind = s'.kind := by
    apply Kind.tag_inj
    rw [← Option.some_inj, ← h.head, ← h'.head, hlines]
  cases h <;> cases h' <;> cases hkind
  case serve.serve =>
    simp only [List.cons.injEq, hexEncode_inj, formatUint_inj, true_and, and_true] at hlines
    obtain ⟨rfl, rfl, rfl, rfl, rfl, rfl⟩ := hlines
    rfl
  case denial.denial =>
    simp only [List.cons.injEq, hexEncode_inj, formatUint_inj, true_and, and_true] at hlines
    obtain ⟨rfl, rfl, rfl, rfl, rfl, rfl⟩ := hlines
    rfl
  case event.event hspecific _ _ _ _ _ _ _ _ _ hspecific' =>
    obtain ⟨hstart, hnonce⟩ := List.append_inj' hlines rfl
    simp only [List.cons_append, List.nil_append, List.cons.injEq, hexEncode_inj, formatUint_inj,
      true_and, and_true] at hstart hnonce
    obtain ⟨htoken, rfl, rfl, rfl, rfl, hadded⟩ := hstart
    obtain ⟨rfl, rfl⟩ := hspecific.inj hspecific' htoken hadded
    rw [hnonce]
  case submitMemory.submitMemory =>
    simp only [List.cons.injEq, hexEncode_inj, formatUint_inj, List.append_cancel_left_eq, true_and,
      and_true] at hlines
    obtain ⟨rfl, rfl, rfl, -, rfl, rfl, rfl, rfl, rfl⟩ := hlines
    rw [of_decide_eq_true hs.2.2, of_decide_eq_true hs'.2.2]
  case migrateIdentity.migrateIdentity =>
    simp only [List.cons.injEq, formatUint_inj, List.append_cancel_left_eq, true_and,
      and_true] at hlines
    obtain ⟨rfl, rfl, rfl⟩ := hlines
    rfl

theorem Lines.inj_of_join (h : Lines s lines) (h' : Lines s' lines') (hs : s.WellFormed)
    (hs' : s'.WellFormed) (hjoin : join newline lines = join newline lines') : s = s' :=
  h.inj h' hs hs'
    (join_inj (h.newline_notMem hs) (h'.newline_notMem hs') h.ne_nil h'.ne_nil hjoin)

/-- Two statements with one text are the same statement, of the same kind and with the same
fields. -/
theorem text_injective {text : Bytes} (hs : s.WellFormed) (hs' : s'.WellFormed)
    (h : s.text = .ok text) (h' : s'.text = .ok text) : s = s' := by
  obtain ⟨lines, hlines, rfl⟩ := lines_of_text h
  obtain ⟨lines', hlines', hjoin⟩ := lines_of_text h'
  exact hlines.inj_of_join hlines' hs hs' hjoin

def sampleEvent : Statement :=
  .event .outcome (ascii "wevibe-org-0") [1] 7 [2] [3]
    (some (.outcome ⟨[4], [5], [6], .worked, .user⟩))

/-- The text of the sample is that of no other statement. -/
theorem sample_event_only :
    ∃ text, sampleEvent.text = .ok text ∧
      ∀ s : Statement, s.WellFormed → s.text = .ok text → s = sampleEvent := by
  refine ⟨_, rfl, ?_⟩
  intro s hs htext
  have hsample : sampleEvent.WellFormed := show newline ∉ ascii "wevibe-org-0" by decide
  exact text_injective hs hsample htext rfl

end Statements

end WeVibeChain.Preimages
