import WeVibeChain.EpochHooks
import WeVibeChain.MemoryDecoding

/-!
# x/memory: what every run keeps

A run of the module takes memory messages, epoch ends and changes that other
modules make to the org and reputation stores. An approved memory stays as it was
approved but for its state, which expiry moves from committed to archived.

Submission looks at the pending commitments only. A memory that is submitted again
after its approval is then both pending and approved, and stays so: its second
approval is refused.
-/

set_option autoImplicit false

namespace WeVibeChain.Memory

open Bytes

inductive Input where
  | msg (msg : Msg)
  | otherModules (org : Orgs.Store) (reputation : Reputation.Store)
  | epochEnd (n : Int64)

section Chain
variable (crypto : Crypto) (authority : Bytes) (foreign : Entry → Option StoredMemoryCommitment)

/-- The output of a message is whether it was accepted. -/
def step (st : State) : Input → State × Except Error Unit
  | .msg msg =>
    (deliver crypto authority st msg, (handle crypto authority st msg).map fun _ => ())
  | .otherModules org reputation => ({ st with org := org, reputation := reputation }, .ok ())
  | .epochEnd n =>
    ({ st with
      store := (afterEpochEnd crypto.sha256 foreign st.store weVibeEpochIdentifier n).1 }, .ok ())

def chain : Machine State Input (Except Error Unit) := ⟨step crypto authority foreign⟩

variable {crypto authority foreign}

theorem next_msg {st st' : State} {msg : Msg} (h : handle crypto authority st msg = .ok st') :
    (chain crypto authority foreign).next st (.msg msg) = st' := by
  change deliver crypto authority st msg = st'
  rw [deliver, h]

end Chain

section Records
variable {crypto : Crypto} {authority : Bytes} {foreign : Entry → Option StoredMemoryCommitment}
  {s s' s'' : Store} {st : State}

/-- The text a contributor signs, from the fields of the approved record. -/
def recordBody (record : StoredMemoryCommitment) : Bytes :=
  buildSubmitMemoryCanonicalBody record.ciphertextHash record.contributorPubkey record.epoch
    record.memoryType record.orgId record.plaintextHash record.salt record.contentHash
    record.wrappedDekHash

/-- The hashes and the signature of a record fit its own fields. -/
structure Genuine (crypto : Crypto) (record : StoredMemoryCommitment) : Prop where
  contentHash : record.contentHash = crypto.sha256 (record.encryptedBlob ++ record.wrappedDekEnc)
  ciphertextHash : record.ciphertextHash = crypto.sha256 record.encryptedBlob
  wrappedDekHash : record.wrappedDekHash = crypto.sha256 record.wrappedDekEnc
  signature : ∃ key, hexDecode record.contributorPubkey = some key ∧ key.length = 32 ∧
    crypto.ed25519Verify key (recordBody record) record.contributorSig = true

structure SoundRecord (crypto : Crypto) (k : Bytes) (record : StoredMemoryCommitment) : Prop where
  wellKeyed : WellKeyed k record
  genuine : Genuine crypto record
  state : record.state = .committed ∨ record.state = .archived

theorem soundRecord_archiving : KeptByArchiving (SoundRecord crypto) := by
  intro k record h
  exact ⟨rfl, ⟨h.genuine.contentHash, h.genuine.ciphertextHash, h.genuine.wrappedDekHash,
    h.genuine.signature⟩, Or.inr rfl⟩

theorem soundRecord_approved {msg : MsgApproveMemory} {pending : PendingCommitment}
    (hverified : verifyApproval crypto msg pending = .ok ()) (epoch : UInt64) :
    SoundRecord crypto (approvedKey msg.orgId msg.contentHash)
      (memoryToStored (approvedRecord (msg.approval crypto) pending epoch)) := by
  obtain ⟨key, hkey, hlength, hsignature, hcipher, hcontent⟩ := verifyApproval_ok hverified
  refine ⟨rfl, ⟨hcontent, hcipher, rfl, key, hkey, hlength, ?_⟩, Or.inl rfl⟩
  -- the body is signed over the submission hash, which the content hash has just been compared to
  rw [← hsignature, approvalBody, ← hcontent]
  rfl

theorem soundRecord_deliver (hs : st.store.approved.Forall (SoundRecord crypto)) (msg : Msg) :
    (deliver crypto authority st msg).store.approved.Forall (SoundRecord crypto) := by
  rcases deliver_cases crypto authority st msg with
    ⟨happroved, -, -⟩ | ⟨approve, pending, -, hok, hpending, -, hstore⟩
  · rwa [happroved]
  · obtain ⟨-, -, ⟨pending', hpending', hverified⟩, -⟩ := approveMemoryMsg_ok hok
    obtain rfl : pending' = pending := Except.ok.inj (hpending'.symm.trans hpending)
    rw [hstore]
    exact hs.set (soundRecord_approved hverified _)

theorem soundRecord_next (st : State) (input : Input)
    (hs : st.store.approved.Forall (SoundRecord crypto)) :
    ((chain crypto authority foreign).next st input).store.approved.Forall (SoundRecord crypto) := by
  cases input with
  | msg msg => exact soundRecord_deliver hs msg
  | otherModules org reputation => exact hs
  | epochEnd n => exact approved_afterEpochEnd soundRecord_archiving hs n

theorem wellKeyed_next (st : State) (input : Input) (hs : st.store.approved.Forall WellKeyed) :
    ((chain crypto authority foreign).next st input).store.approved.Forall WellKeyed := by
  cases input with
  | msg msg => exact wellKeyed_deliver hs
  | otherModules org reputation => exact hs
  | epochEnd n => exact approved_afterEpochEnd wellKeyed_archiving hs n

/-- No approved memory goes away, and nothing of it changes but its state, to archived. -/
def Keeps (s s' : Store) : Prop :=
  ∀ k record, s.approved.get k = some record →
    s'.approved.get k = some record ∨ s'.approved.get k = some { record with state := .archived }

theorem Keeps.refl (s : Store) : Keeps s s := fun _ _ h => Or.inl h

theorem Keeps.trans (h : Keeps s s') (h' : Keeps s' s'') : Keeps s s'' := by
  intro k record hget
  rcases h k record hget with hsame | harchived
  · exact h' k record hsame
  · rcases h' k _ harchived with hsame | hagain
    · exact Or.inr hsame
    · exact Or.inr hagain

theorem keeps_expireEntry {e : Bytes × StoredValidityMetadata}
    (hs : s.approved.Forall WellKeyed) (h : expireEntry s e = .ok s') : Keeps s s' := by
  obtain ⟨memory, approved, hmemory, rfl, happroved⟩ := expireEntry_ok h
  rcases happroved with rfl | rfl
  · exact Keeps.refl s
  · intro k record hget
    obtain ⟨contentHash, -, hstored⟩ := loadMemoryByCID_ok hmemory
    simp only [OrderedMap.get_set]
    split
    · rename_i hkey
      -- the memory is rewritten where it was found, because it is stored under its own key
      obtain rfl : approvedKey e.2.orgId contentHash = k := (hs _ _ hstored).trans hkey.symm
      obtain rfl : memoryToStored memory = record := Option.some.inj (hstored.symm.trans hget)
      exact Or.inr rfl
    · exact Or.inl hget

theorem keeps_afterEpochEnd (hs : s.approved.Forall WellKeyed) (n : Int64) :
    Keeps s (afterEpochEnd crypto.sha256 foreign s weVibeEpochIdentifier n).1 := by
  have hentry : ∀ e t t', t.approved.Forall WellKeyed ∧ Keeps s t → expireEntry t e = .ok t' →
      t'.approved.Forall WellKeyed ∧ Keeps s t' := by
    intro e t t' ht hexpire
    exact ⟨approved_expireEntry wellKeyed_archiving ht.1 hexpire,
      ht.2.trans (keeps_expireEntry ht.1 hexpire)⟩
  exact (afterEpochEnd_invariant (fun _ ht => ht) hentry (fun _ _ ht => ht) ⟨hs, Keeps.refl s⟩
    weVibeEpochIdentifier).2

theorem keeps_deliver (msg : Msg) : Keeps st.store (deliver crypto authority st msg).store := by
  rcases deliver_cases crypto authority st msg with
    ⟨happroved, -, -⟩ | ⟨approve, pending, -, -, -, hfresh, hstore⟩
  · intro k record hget
    rw [happroved]
    exact Or.inl hget
  · intro k record hget
    left
    rw [hstore]
    refine (OrderedMap.get_set_of_ne _ _ ?_).trans hget
    rintro rfl
    have hsome : st.store.approved.get (approvedKey approve.orgId approve.contentHash) = some record :=
      hget
    rw [hfresh] at hsome
    cases hsome

theorem keeps_next (st : State) (input : Input) (hs : st.store.approved.Forall WellKeyed) :
    Keeps st.store ((chain crypto authority foreign).next st input).store := by
  cases input with
  | msg msg => exact keeps_deliver msg
  | otherModules org reputation => exact Keeps.refl st.store
  | epochEnd n => exact keeps_afterEpochEnd hs n

theorem keeps_run (inputs : List Input) (hs : st.store.approved.Forall WellKeyed) :
    Keeps st.store ((chain crypto authority foreign).run st inputs).store := by
  have hnext : ∀ t input, t.store.approved.Forall WellKeyed ∧ Keeps st.store t.store →
      ((chain crypto authority foreign).next t input).store.approved.Forall WellKeyed ∧
        Keeps st.store ((chain crypto authority foreign).next t input).store := by
    intro t input ht
    exact ⟨wellKeyed_next t input ht.1, ht.2.trans (keeps_next t input ht.1)⟩
  exact ((chain crypto authority foreign).run_always hnext ⟨hs, Keeps.refl st.store⟩ inputs).2

variable (crypto authority foreign)

/-- Wherever a run from an empty memory store has got to, every approved record is stored under its
own key and is genuine. However the run goes on, the record stays, and nothing of it changes but
its state, once, from committed to archived. -/
theorem approved_memory_genuine_and_kept (org : Orgs.Store) (reputation : Reputation.Store)
    (inputs later : List Input) :
    ((chain crypto authority foreign).run ⟨{}, org, reputation⟩ inputs).store.approved.Forall
      fun k record => WellKeyed k record ∧ Genuine crypto record ∧
        (((chain crypto authority foreign).run ⟨{}, org, reputation⟩
            (inputs ++ later)).store.approved.get k = some record ∨
          record.state = .committed ∧
            ((chain crypto authority foreign).run ⟨{}, org, reputation⟩
              (inputs ++ later)).store.approved.get k =
                some { record with state := .archived }) := by
  have hsound : ((chain crypto authority foreign).run ⟨{}, org, reputation⟩
      inputs).store.approved.Forall (SoundRecord crypto) :=
    (chain crypto authority foreign).run_always soundRecord_next OrderedMap.forall_empty inputs
  intro k record hget
  obtain ⟨hkeyed, hgenuine, hstate⟩ := hsound k record hget
  refine ⟨hkeyed, hgenuine, ?_⟩
  rw [Machine.run_append]
  have hkeys : ((chain crypto authority foreign).run ⟨{}, org, reputation⟩
      inputs).store.approved.Forall WellKeyed := fun k record hget => (hsound k record hget).wellKeyed
  rcases keeps_run later hkeys k record hget with hsame | harchived
  · exact Or.inl hsame
  · rcases hstate with hcommitted | hdone
    · exact Or.inr ⟨hcommitted, harchived⟩
    · left
      rw [harchived, ← hdone]

end Records

section Resubmission
variable {crypto : Crypto} {authority : Bytes} {foreign : Entry → Option StoredMemoryCommitment}
  {s : Store} {org contentHash : Bytes}

/-- The hook archives memories in place. -/
theorem approved_get_none_afterEpochEnd (sha256 : Bytes → Bytes)
    (foreign : Entry → Option StoredMemoryCommitment) (hs : s.approved.Forall WellKeyed) (n : Int64)
    (k : Bytes) :
    (afterEpochEnd sha256 foreign s weVibeEpochIdentifier n).1.approved.get k = none ↔
      s.approved.get k = none := by
  obtain ⟨merkle, hframe⟩ := afterEpochEnd_frame sha256 foreign s n
  rw [hframe]
  have hexpiry := checkEpochExpiry_invariant
    (I := fun t => t.approved.Forall WellKeyed ∧
      (t.approved.get k = none ↔ s.approved.get k = none))
    (s := setCurrentEpoch s n.toUInt64) ?_ n.toUInt64 ⟨hs, Iff.rfl⟩
  · exact hexpiry.2
  rintro e t t' ⟨hkeyed, hnone⟩ hexpire
  refine ⟨approved_expireEntry wellKeyed_archiving hkeyed hexpire, ?_⟩
  obtain ⟨memory, approved, hmemory, rfl, happroved⟩ := expireEntry_ok hexpire
  rcases happroved with rfl | rfl
  · exact hnone
  · obtain ⟨hash, -, hget⟩ := loadMemoryByCID_ok hmemory
    simp only [OrderedMap.get_set]
    split
    · rename_i hkey
      have hfound : t.approved.get k = some (memoryToStored memory) := by
        rw [hkey, ← hget]
        exact congrArg t.approved.get (hkeyed _ _ hget).symm
      rw [hfound] at hnone
      simpa using hnone
    · exact hnone

/-- The hash waits as a pending commitment of the org and is an approved memory of it as well. -/
def PendingAndApproved (org contentHash : Bytes) (st : State) : Prop :=
  st.store.pending.get (pendingKey org contentHash) ≠ none ∧
    st.store.approved.get (approvedKey org contentHash) ≠ none

/-- The input is a submission of a hash that the org has approved already, and it is accepted. -/
def Resubmission (org contentHash : Bytes) (st : State) (input : Input) : Prop :=
  st.store.approved.get (approvedKey org contentHash) ≠ none ∧
    ∃ msg, input = .msg (.submitCommitment msg) ∧ msg.orgId = org ∧
      msg.contentHash = contentHash ∧ (submitCommitmentMsg st msg).isOk

theorem pendingAndApproved_submit {st st' : State} {msg : MsgSubmitCommitment}
    (h : submitCommitmentMsg st msg = .ok st') :
    PendingAndApproved org contentHash st' ↔ PendingAndApproved org contentHash st ∨
      Resubmission org contentHash st (.msg (.submitCommitment msg)) := by
  have hok : (submitCommitmentMsg st msg).isOk := by
    rw [h]
    rfl
  obtain ⟨-, -, hsubmit⟩ := submitCommitmentMsg_ok h
  obtain ⟨-, hfresh, rfl⟩ := submitCommitment_ok hsubmit
  by_cases hkey : org = msg.orgId ∧ contentHash = msg.contentHash
  · obtain ⟨rfl, rfl⟩ := hkey
    have hnone : st.store.pending.get (pendingKey msg.orgId msg.contentHash) = none := hfresh
    simp [PendingAndApproved, Resubmission, MsgSubmitCommitment.commitment, hnone, hok]
  · have hother : pendingKey org contentHash ≠ pendingKey msg.orgId msg.contentHash :=
      fun heq => hkey (pendingKey_inj.mp heq)
    have hresubmit : ¬ Resubmission org contentHash st (.msg (.submitCommitment msg)) := by
      rintro ⟨-, m, hm, horg, hhash, -⟩
      cases hm
      exact hkey ⟨horg.symm, hhash.symm⟩
    simp [PendingAndApproved, MsgSubmitCommitment.commitment, OrderedMap.get_set_of_ne _ _ hother,
      hresubmit]

theorem pendingAndApproved_approve {st st' : State} {msg : MsgApproveMemory}
    (h : approveMemoryMsg crypto st msg = .ok st') :
    PendingAndApproved org contentHash st' ↔ PendingAndApproved org contentHash st := by
  obtain ⟨-, -, -, happrove⟩ := approveMemoryMsg_ok h
  obtain ⟨pending, -, -, -, hfresh, hstore, -⟩ := approveMemory_ok happrove
  unfold PendingAndApproved
  rw [hstore]
  by_cases hkey : org = msg.orgId ∧ contentHash = msg.contentHash
  · obtain ⟨rfl, rfl⟩ := hkey
    have hnone : st.store.approved.get (approvedKey msg.orgId msg.contentHash) = none := hfresh
    simp [approvedStore, MsgApproveMemory.approval, OrderedMap.get_delete, hnone]
  · have hpending : pendingKey org contentHash ≠ pendingKey msg.orgId msg.contentHash :=
      fun heq => hkey (pendingKey_inj.mp heq)
    have happroved : approvedKey org contentHash ≠ approvedKey msg.orgId msg.contentHash :=
      fun heq => hkey (approvedKey_inj.mp heq)
    simp [approvedStore, MsgApproveMemory.approval, OrderedMap.get_delete, hpending,
      OrderedMap.get_set_of_ne _ _ happroved]

theorem pendingAndApproved_next (st : State) (input : Input)
    (hs : st.store.approved.Forall WellKeyed) :
    PendingAndApproved org contentHash ((chain crypto authority foreign).next st input) ↔
      PendingAndApproved org contentHash st ∨ Resubmission org contentHash st input := by
  cases input with
  | otherModules org' reputation =>
    simp [Machine.next, chain, step, PendingAndApproved, Resubmission]
  | epochEnd n =>
    have hpending := pending_afterEpochEnd crypto.sha256 foreign st.store n
    have happroved := approved_get_none_afterEpochEnd crypto.sha256 foreign hs n
      (approvedKey org contentHash)
    simp [Machine.next, chain, step, PendingAndApproved, Resubmission, hpending, happroved]
  | msg msg =>
    change PendingAndApproved org contentHash (deliver crypto authority st msg) ↔ _
    unfold deliver
    cases hresult : handle crypto authority st msg with
    | error e =>
      have hresubmit : ¬ Resubmission org contentHash st (.msg msg) := by
        rintro ⟨-, m, hm, -, -, hok⟩
        cases hm
        have herror : submitCommitmentMsg st m = .error e := hresult
        rw [herror] at hok
        cases hok
      simp [hresubmit]
    | ok st' =>
      cases msg with
      | submitCommitment m => exact pendingAndApproved_submit hresult
      | approveMemory m =>
        rw [pendingAndApproved_approve hresult]
        simp [Resubmission]
      | reportMemory m =>
        obtain ⟨-, -, hreport⟩ := reportMemoryMsg_ok hresult
        obtain ⟨-, hstore, -⟩ := reportMemory_ok hreport
        simp [PendingAndApproved, Resubmission, hstore]
      | updateParams m =>
        obtain rfl := updateParamsMsg_ok hresult
        simp [PendingAndApproved, Resubmission]

/-- After a run from an empty memory store an org has a hash both pending and approved exactly if
the hash was submitted again after its approval. -/
theorem pending_and_approved_iff_resubmitted (crypto : Crypto) (authority : Bytes)
    (foreign : Entry → Option StoredMemoryCommitment) (orgs : Orgs.Store)
    (reputation : Reputation.Store) (inputs : List Input) (org contentHash : Bytes) :
    PendingAndApproved org contentHash
        ((chain crypto authority foreign).run ⟨{}, orgs, reputation⟩ inputs) ↔
      ∃ before input after, inputs = before ++ input :: after ∧
        Resubmission org contentHash
          ((chain crypto authority foreign).run ⟨{}, orgs, reputation⟩ before) input := by
  have hstart : ¬ PendingAndApproved org contentHash ⟨{}, orgs, reputation⟩ := fun h => h.1 rfl
  rw [(chain crypto authority foreign).run_iff_event wellKeyed_next pendingAndApproved_next
    OrderedMap.forall_empty inputs]
  simp only [hstart, false_or]

open EpochHooks (sampleApprove sampleCrypto sampleHash sampleOrgs sampleSubmit) in
/-- Submitted, approved and submitted again. -/
theorem sample_pending_and_approved :
    PendingAndApproved (ascii "o") sampleHash
      ((chain sampleCrypto [] decodeForeign).run ⟨{}, {}, {}⟩
        [.otherModules sampleOrgs {}, .msg (.submitCommitment sampleSubmit),
          .msg (.approveMemory sampleApprove), .msg (.submitCommitment sampleSubmit)]) := by
  unfold PendingAndApproved
  decide +kernel

end Resubmission

end WeVibeChain.Memory
