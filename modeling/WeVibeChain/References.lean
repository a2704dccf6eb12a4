import WeVibeChain.BandwidthGenesis
import WeVibeChain.ServeDenials
import WeVibeChain.SignedRecords

/-!
# No dangling references

Records name records of other modules: a memory its org, a report, a receipt, a denial
and an event their memory, a denial the receipt it is about, a quota, an override and
the profile of a leader or moderator their org. The modules check a name when they
write it. Orgs and approved memories stay, so in every state of a run each name still
leads to a record.
-/

set_option autoImplicit false

namespace WeVibeChain.Orgs

open Bytes

/-- An org that is there stays. -/
theorem hasOrg_kept {s s' : Store} (h : s' = s ∨ Evolution s s') {orgID : Bytes}
    (hhas : hasOrg s orgID = true) : hasOrg s' orgID = true := by
  rcases h with rfl | h
  · exact hhas
  · obtain ⟨record, hget⟩ := OrderedMap.has_iff.mp hhas
    exact OrderedMap.has_iff.mpr (h.kept hget)

end WeVibeChain.Orgs

namespace WeVibeChain.Memory

open Bytes

section References
variable {org org' : Orgs.Store} {s : Store}

/-- The records stand under the names they carry. A report is about a memory on record; everything
else is about an org on record. -/
structure Refers (org : Orgs.Store) (s : Store) : Prop where
  pending : s.pending.Forall fun k p =>
    k = pendingKey p.orgId p.contentHash ∧ Orgs.hasOrg org p.orgId = true
  approved : s.approved.Forall fun k r => WellKeyed k r ∧ Orgs.hasOrg org r.orgId = true
  report : s.report.Forall fun k r => k = reportKey r.orgId r.contentHash r.reporterPubkey ∧
    s.approved.has (approvedKey r.orgId r.contentHash) = true
  merkle : s.merkle.Forall fun k r => k = merkleKey r.orgId r.epoch ∧ Orgs.hasOrg org r.orgId = true
  count : s.count.Forall fun k _ => ∃ orgID, k = countKey orgID ∧ Orgs.hasOrg org orgID = true

theorem refers_empty (org : Orgs.Store) : Refers org {} :=
  ⟨OrderedMap.forall_empty, OrderedMap.forall_empty, OrderedMap.forall_empty,
    OrderedMap.forall_empty, OrderedMap.forall_empty⟩

theorem Refers.mono (h : Refers org s)
    (hkept : ∀ orgID, Orgs.hasOrg org orgID = true → Orgs.hasOrg org' orgID = true) :
    Refers org' s where
  pending := h.pending.imp fun _ _ hp => ⟨hp.1, hkept _ hp.2⟩
  approved := h.approved.imp fun _ _ hr => ⟨hr.1, hkept _ hr.2⟩
  report := h.report
  merkle := h.merkle.imp fun _ _ hr => ⟨hr.1, hkept _ hr.2⟩
  count := h.count.imp fun _ _ hc => hc.imp fun orgID ho => ⟨ho.1, hkept orgID ho.2⟩

theorem submitCommitment_hasOrg {st st' : State} {commitment : PendingCommitment}
    (h : submitCommitment st commitment = .ok st') :
    Orgs.hasOrg st.org commitment.orgID = true := by
  unfold submitCommitment at h
  split at h
  · cases h
  split at h
  · cases h
  · rename_i hhas
    exact Bool.not_eq_false _ ▸ hhas

theorem Refers.handle {crypto : Crypto} {authority : Bytes} {st st' : State} {msg : Msg}
    (h : Refers st.org st.store) (hok : handle crypto authority st msg = .ok st') :
    Refers st.org st'.store := by
  cases msg with
  | submitCommitment m =>
    obtain ⟨-, -, hsubmit⟩ := submitCommitmentMsg_ok hok
    have hhas := submitCommitment_hasOrg hsubmit
    obtain ⟨-, -, rfl⟩ := submitCommitment_ok hsubmit
    exact ⟨h.pending.set ⟨rfl, hhas⟩, h.approved, h.report, h.merkle, h.count⟩
  | approveMemory m =>
    obtain ⟨-, -, -, happrove⟩ := approveMemoryMsg_ok hok
    obtain ⟨pending, record, -, -, -, -, horg, rfl⟩ := approveMemory_eq happrove
    have hhas : Orgs.hasOrg st.org m.orgId = true := OrderedMap.has_iff.mpr ⟨record, horg⟩
    refine ⟨h.pending.delete _, h.approved.set ⟨rfl, hhas⟩, h.report.imp ?_, h.merkle,
      h.count.set ⟨m.orgId, rfl, hhas⟩⟩
    rintro k r ⟨hkey, hknown⟩
    exact ⟨hkey, OrderedMap.has_set_iff.mpr (Or.inr hknown)⟩
  | reportMemory m =>
    obtain ⟨-, -, hreport⟩ := reportMemoryMsg_ok hok
    obtain ⟨record, hknown, -, -, rfl⟩ := reportMemory_eq hreport
    exact ⟨h.pending, h.approved, h.report.set ⟨rfl, hknown⟩, h.merkle, h.count⟩
  | updateParams m =>
    have hstored := handle_stored hok
    generalize st'.store = s' at hstored ⊢
    cases hstored
    exact ⟨h.pending, h.approved, h.report, h.merkle, h.count⟩

end References

section Roots
variable {org : Orgs.Store} {s : Store}

/-- What is cut out of the key of an approved memory is the org, if its id has no slash. -/
theorem takeWhile_approvedKey {orgID : Bytes} (horg : slash ∉ orgID) (contentHash : Bytes) :
    ((approvedKey orgID contentHash).drop (ascii "approved/").length).takeWhile
      (fun b => b ≠ slash) = orgID := by
  have hpass : ∀ b ∈ orgID, decide (b ≠ slash) = true := by
    intro b hb
    exact decide_eq_true fun heq => horg (heq ▸ hb)
  rw [approvedKey, List.append_assoc, List.drop_left, List.takeWhile_append_of_pos hpass,
    List.takeWhile_cons_of_neg (by simp), List.append_nil]

/-- The orgs that get a Merkle root are on record. -/
theorem Refers.hasOrg_of_root (h : Refers org s)
    (hids : ∀ orgID, Orgs.hasOrg org orgID = true → slash ∉ orgID) {orgID : Bytes}
    (hmem : orgID ∈ getAllOrgsWithMemories s) : Orgs.hasOrg org orgID = true := by
  unfold getAllOrgsWithMemories at hmem
  dsimp only at hmem
  generalize hnames : (s.approved.keys.map fun key => (key.drop (ascii "approved/").length).takeWhile
    fun b => b ≠ slash).filter (fun org => org ≠ []) = names at hmem
  -- The map is used as a set: its keys are the names that were put in.
  have hkeys : (names.foldl (fun m org => m.set org ()) (∅ : OrderedMap Bytes Unit)).Forall
      fun k _ => k ∈ names := OrderedMap.forall_empty.foldl_set fun _ hx => hx
  obtain ⟨_, hget⟩ := OrderedMap.has_iff.mp (OrderedMap.mem_keys_iff.mp hmem)
  have hname := hkeys _ _ hget
  rw [← hnames] at hname
  obtain ⟨key, hkey, rfl⟩ := List.mem_map.mp (List.mem_filter.mp hname).1
  obtain ⟨record, hrecord⟩ := OrderedMap.has_iff.mp (OrderedMap.mem_keys_iff.mp hkey)
  obtain ⟨hnamed, hhas⟩ := h.approved key record hrecord
  rw [show key = approvedKey record.orgId record.contentHash from hnamed,
    takeWhile_approvedKey (hids _ hhas)]
  exact hhas

theorem computeMerkleRoots_refers (sha256 : Bytes → Bytes)
    (foreign : Entry → Option StoredMemoryCommitment) (epoch : UInt64) (h : Refers org s)
    {orgs : List Bytes} (horgs : ∀ orgID ∈ orgs, Orgs.hasOrg org orgID = true) :
    Refers org (orgs.foldl
      (fun s orgID => computeAndStoreEpochMerkleRoot sha256 foreign s orgID epoch) s) := by
  induction orgs generalizing s with
  | nil => exact h
  | cons orgID orgs ih =>
    obtain ⟨hhas, hrest⟩ := List.forall_mem_cons.mp horgs
    exact ih ⟨h.pending, h.approved, h.report, h.merkle.set ⟨rfl, hhas⟩, h.count⟩ hrest

theorem Refers.afterEpochEnd (h : Refers org s) (sha256 : Bytes → Bytes)
    (foreign : Entry → Option StoredMemoryCommitment) (hvalidity : s.validity = ∅)
    (hids : ∀ orgID, Orgs.hasOrg org orgID = true → slash ∉ orgID) (n : Int64) :
    Refers org (afterEpochEnd sha256 foreign s weVibeEpochIdentifier n).1 := by
  have hset : Refers org (setCurrentEpoch s n.toUInt64) :=
    ⟨h.pending, h.approved, h.report, h.merkle, h.count⟩
  rw [Memory.afterEpochEnd, if_neg (not_not.mpr rfl)]
  dsimp only
  rw [checkEpochExpiry_of_validity_empty (s := setCurrentEpoch s n.toUInt64) hvalidity]
  exact computeMerkleRoots_refers sha256 foreign _ hset fun _ hmem => hset.hasOrg_of_root hids hmem

end Roots

end WeVibeChain.Memory

namespace WeVibeChain.Serve

open Bytes

section References
variable {crypto : Crypto} {memory memory' : Memory.Store} {s : Store}

/-- The key of a denial has the fingerprint of its statement. -/
def denialKeyOf (crypto : Crypto) (d : StoredDenialReceipt) : Bytes :=
  denialReceiptKey d.orgId d.epoch (computeDenialFingerprint crypto.sha256 d.orgId d.memoryHash
    d.epoch d.serveKeyPubkey d.serveFingerprint)

/-- Receipts, denials and events stand under the names they carry and are about approved memories,
and a denial is about a receipt of the same memory and the same serve key. -/
structure Refers (crypto : Crypto) (memory : Memory.Store) (s : Store) : Prop where
  receipt : s.receipt.Forall fun k r => k = receiptKey r.orgId r.epoch r.fingerprint ∧
    memory.approved.has (Memory.approvedKey r.orgId r.memoryContentHash) = true
  denial : s.denial.Forall fun k d => k = denialKeyOf crypto d ∧
    memory.approved.has (Memory.approvedKey d.orgId d.memoryHash) = true ∧
      ∃ r, getServeReceiptByFingerprint s d.serveFingerprint = some r ∧
        r.memoryContentHash = d.memoryHash ∧ r.serveKeyPubkey = d.serveKeyPubkey
  event : s.event.Forall fun k e => k = eventKey e.orgId e.epoch e.fingerprint ∧
    memory.approved.has (Memory.approvedKey e.orgId e.memoryContentHash) = true

theorem refers_empty (crypto : Crypto) (memory : Memory.Store) : Refers crypto memory {} :=
  ⟨OrderedMap.forall_empty, OrderedMap.forall_empty, OrderedMap.forall_empty⟩

theorem Refers.mono (h : Refers crypto memory s)
    (hkept : ∀ k, memory.approved.has k = true → memory'.approved.has k = true) :
    Refers crypto memory' s where
  receipt := h.receipt.imp fun _ _ hr => ⟨hr.1, hkept _ hr.2⟩
  denial := h.denial.imp fun _ _ hd => ⟨hd.1, hkept _ hd.2.1, hd.2.2⟩
  event := h.event.imp fun _ _ he => ⟨he.1, hkept _ he.2⟩

theorem has_of_getApprovedMemory {orgID contentHash : Bytes}
    (h : ∃ mem, Memory.getApprovedMemory memory orgID contentHash = .ok mem) :
    memory.approved.has (Memory.approvedKey orgID contentHash) = true := by
  obtain ⟨mem, hmem⟩ := h
  unfold Memory.getApprovedMemory at hmem
  split at hmem
  · cases hmem
  · rename_i stored hget
    exact OrderedMap.has_iff.mpr ⟨stored, hget⟩

theorem Refers.accept (h : Refers crypto memory s) (hpointers : Pointers s) {r : ServeReceipt}
    (hfresh : hasServeFingerprint s r.fingerprint = false)
    (happroved : memory.approved.has (Memory.approvedKey r.orgID r.contentHash) = true) :
    Refers crypto memory (acceptedStore s r) := by
  obtain ⟨stats, hframe⟩ := acceptedStore_frame s r
  refine ⟨?_, ?_, ?_⟩
  · rw [hframe]
    exact h.receipt.set ⟨rfl, happroved⟩
  · have hdenials : (acceptedStore s r).denial = s.denial := by rw [hframe]
    rw [hdenials]
    refine h.denial.imp ?_
    rintro k d ⟨hkey, hknown, receipt, hfound, hsame⟩
    exact ⟨hkey, hknown, receipt, getServeReceiptByFingerprint_accept hpointers hfresh hfound, hsame⟩
  · rw [hframe]
    exact h.event

theorem Refers.deny (h : Refers crypto memory s) {orgID : Bytes} {epoch : UInt64}
    {entry : DenialEntry} {receipt : StoredServeReceipt}
    (hok : Deniable crypto memory orgID epoch s entry receipt) :
    Refers crypto memory (deniedStore s orgID epoch (computeDenialFingerprint crypto.sha256 orgID
      entry.memoryHash epoch entry.serveKeyPubkey entry.serveFingerprint) receipt entry) := by
  generalize hfp : computeDenialFingerprint crypto.sha256 orgID entry.memoryHash epoch
    entry.serveKeyPubkey entry.serveFingerprint = fp
  have hfinds : ∀ fp', getServeReceiptByFingerprint (deniedStore s orgID epoch fp receipt entry) fp' =
      getServeReceiptByFingerprint s fp' := getServeReceiptByFingerprint_congr rfl rfl
  refine ⟨h.receipt, ?_, h.event⟩
  simp only [hfinds]
  exact h.denial.set ⟨hfp ▸ rfl, has_of_getApprovedMemory hok.approved, receipt, hok.found,
    hok.sameHash.symm, hok.sameKey.symm⟩

theorem Refers.record (h : Refers crypto memory s) {e : StoredEvent}
    (happroved : memory.approved.has (Memory.approvedKey e.orgId e.memoryContentHash) = true) :
    Refers crypto memory (recordEvent s e) where
  receipt := h.receipt
  denial := h.denial
  event := h.event.set ⟨rfl, happroved⟩

theorem processEvent_approved {orgID : Bytes} {epoch : UInt64} {entry : EventEntry}
    (h : (processEvent crypto memory orgID epoch s entry).2 = .accepted) :
    ∃ mem, Memory.getApprovedMemory memory orgID entry.memoryContentHash = .ok mem := by
  unfold processEvent at h
  split at h
  · cases h
  dsimp only at h
  split at h
  · cases h
  split at h
  · cases h
  split at h
  · cases h
  · rename_i mem hmem
    exact ⟨mem, hmem⟩

end References

section Loops
variable {crypto : Crypto} {scopeTagsOf : Bytes → Option (OrderedMap Bytes Bytes)} {orgID : Bytes}
  {epoch : UInt64} {params : Params} {memory : Memory.Store}

/-- What the loop over serves keeps. Its state has the memories in it. -/
structure Serving (crypto : Crypto) (memory : Memory.Store) (st : State) : Prop where
  held : st.memory = memory
  paired : Paired crypto st.store
  refers : Refers crypto memory st.store

theorem serveLoop_serving (st : State) (serve : ServeEntry) (h : Serving crypto memory st) :
    Serving crypto memory ((serveLoop crypto scopeTagsOf orgID epoch params).next st serve) := by
  obtain ⟨rfl, hpaired, hrefers⟩ := h
  refine ⟨?_, (serveLoop_addsRecords st serve hpaired).paired, ?_⟩ <;>
    unfold Machine.next serveLoop <;> dsimp only <;> split
  · rfl
  · rename_i st' outcome hserve
    rcases processServe_cases hserve with ⟨rfl, -⟩ | ⟨-, rfl, -⟩
    · rfl
    · rfl
  · exact hrefers
  · rename_i st' outcome hserve
    rcases processServe_cases hserve with ⟨rfl, -⟩ | ⟨-, rfl, hok⟩
    · exact hrefers
    · exact hrefers.accept hpaired.pointers hok.fresh (has_of_getApprovedMemory hok.approved)

theorem denialLoop_refers (s : Store) (entry : DenialEntry) (h : Refers crypto memory s) :
    Refers crypto memory ((denialLoop crypto orgID epoch memory).next s entry) := by
  unfold Machine.next denialLoop
  dsimp only
  rcases processDenial_cases crypto memory orgID epoch s entry with
    ⟨hsame, -⟩ | ⟨receipt, hok, heq⟩
  · rw [hsame]
    exact h
  · rw [heq]
    exact h.deny hok

theorem eventLoop_refers (s : Store) (entry : EventEntry) (h : Refers crypto memory s) :
    Refers crypto memory ((eventLoop crypto orgID epoch memory).next s entry) := by
  unfold Machine.next eventLoop
  dsimp only
  rcases processEvent_cases crypto memory orgID epoch s entry with
    ⟨hsame, -⟩ | ⟨e, haccepted, -, -, heq⟩
  · rw [hsame]
    exact h
  · have happroved := has_of_getApprovedMemory (processEvent_approved (congrArg Prod.snd heq))
    obtain ⟨rfl, rfl, rfl⟩ := AcceptedEvent.mk.inj haccepted
    rw [heq]
    exact h.record happroved

theorem Refers.handle {authority : Bytes} {st st' : State} {msg : Msg} {response : Response}
    (h : Refers crypto st.memory st.store) (hpaired : Paired crypto st.store)
    (hok : handle crypto scopeTagsOf authority st msg = .ok (st', response)) :
    Refers crypto st.memory st'.store := by
  have hlooped := handle_looped hok
  generalize acceptedStatements crypto scopeTagsOf st msg = accepted at hlooped
  cases hlooped with
  | serves m bandwidth =>
    have hstart : Serving crypto st.memory { st with bandwidth := bandwidth } := ⟨rfl, hpaired, h⟩
    exact (Machine.run_always _ serveLoop_serving hstart m.serves).refers
  | denials m => exact Machine.run_always _ denialLoop_refers h m.entries
  | events m => exact Machine.run_always _ eventLoop_refers h m.events
  | settings => exact ⟨h.receipt, h.denial, h.event⟩

/-- A serve batch, and no other message, uses up bandwidth, and it is the bandwidth of an org on
record. -/
theorem handle_consumed {authority : Bytes} {st st' : State} {msg : Msg} {response : Response}
    (hok : handle crypto scopeTagsOf authority st msg = .ok (st', response)) :
    st'.bandwidth = st.bandwidth ∨ ∃ m, msg = .submitServeBatch m ∧
      Orgs.hasOrg st.org m.orgId = true ∧
        Bandwidth.consumeServeBandwidth st.bandwidth m.orgId m.epoch
          (UInt64.ofNat m.serves.length) = .ok st'.bandwidth := by
  cases msg with
  | submitServeBatch m =>
    obtain ⟨result, hbatch⟩ := Except.eq_ok_of_map_snd hok
    exact Or.inr ⟨m, rfl, submitServeBatch_hasOrg hbatch, submitServeBatch_bandwidth hbatch⟩
  | _ =>
    have hlooped := handle_looped hok
    generalize acceptedStatements crypto scopeTagsOf st _ = accepted at hlooped
    cases hlooped
    all_goals exact Or.inl rfl

end Loops

end WeVibeChain.Serve

namespace WeVibeChain.Bandwidth

section References
variable {org org' : Orgs.Store} {s s' : Store}

/-- Quotas and overrides stand under the names they carry, and belong to orgs on record. -/
structure Refers (org : Orgs.Store) (s : Store) : Prop where
  state : s.state.Forall fun k b => k = stateKey b.orgID b.epoch ∧ Orgs.hasOrg org b.orgID = true
  override : s.override.Forall fun k o => k = overrideKey o.orgID ∧ Orgs.hasOrg org o.orgID = true

theorem refers_empty (org : Orgs.Store) (params : Option Params) : Refers org { params := params } :=
  ⟨OrderedMap.forall_empty, OrderedMap.forall_empty⟩

theorem Refers.mono (h : Refers org s)
    (hkept : ∀ orgID, Orgs.hasOrg org orgID = true → Orgs.hasOrg org' orgID = true) :
    Refers org' s where
  state := h.state.imp fun _ _ hb => ⟨hb.1, hkept _ hb.2⟩
  override := h.override.imp fun _ _ ho => ⟨ho.1, hkept _ ho.2⟩

theorem Refers.keyed (h : Refers org s) : Keyed s :=
  ⟨h.state.imp fun _ _ hb => hb.1.symm, h.override.imp fun _ _ ho => ho.1.symm⟩

theorem Refers.consume (h : Refers org s) {orgID : Bytes} {epoch count : UInt64}
    (hhas : Orgs.hasOrg org orgID = true)
    (hok : consumeServeBandwidth s orgID epoch count = .ok s') : Refers org s' := by
  obtain ⟨-, state, rfl, hself, hother⟩ := consumeServeBandwidth_ok hok
  obtain ⟨horg, hepoch⟩ := quota_named h.keyed orgID epoch
  refine ⟨?_, h.override⟩
  intro k b hget
  by_cases hk : k = stateKey orgID epoch
  · subst hk
    obtain rfl := Option.some.inj (hself.symm.trans hget)
    dsimp only
    rw [horg, hepoch]
    exact ⟨rfl, hhas⟩
  · exact h.state k b ((hother k hk).symm.trans hget)

theorem setBandwidthOverrideMsg_ok {msg : MsgSetBandwidthOverride}
    (h : setBandwidthOverrideMsg org s msg = .ok s') :
    Orgs.hasOrg org msg.orgId = true ∧ Orgs.isLeader org msg.orgId msg.signer = true ∧
      s' = setBandwidthOverride s msg.orgId msg.memoryCap msg.serveCap := by
  unfold setBandwidthOverrideMsg at h
  split at h
  · cases h
  split at h
  · cases h
  rename_i hhas
  split at h
  · cases h
  rename_i hleader
  exact ⟨Bool.not_eq_false _ ▸ hhas, Bool.not_eq_false _ ▸ hleader, (Except.ok.inj h).symm⟩

end References

end WeVibeChain.Bandwidth

namespace WeVibeChain.Reputation

open Bytes

section References
variable {org org' : Orgs.Store} {s s' : Store}

/-- The profiles of moderators and leaders stand under the names they carry and belong to orgs on
record. -/
structure Refers (org : Orgs.Store) (s : Store) : Prop where
  moderator : s.moderatorProfile.Forall fun k p =>
    k = moderatorProfileKey p.moderatorPubkey p.orgId ∧ Orgs.hasOrg org p.orgId = true
  leader : s.leaderProfile.Forall fun k p =>
    k = leaderProfileKey p.leaderPubkey p.orgId ∧ Orgs.hasOrg org p.orgId = true

theorem Refers.mono (h : Refers org s)
    (hkept : ∀ orgID, Orgs.hasOrg org orgID = true → Orgs.hasOrg org' orgID = true) :
    Refers org' s where
  moderator := h.moderator.imp fun _ _ hp => ⟨hp.1, hkept _ hp.2⟩
  leader := h.leader.imp fun _ _ hp => ⟨hp.1, hkept _ hp.2⟩

theorem Refers.congr (h : Refers org s) (hsame : SameModeration s s') : Refers org s' := by
  refine ⟨?_, ?_⟩
  · rw [hsame.moderatorProfile]
    exact h.moderator
  · rw [hsame.leaderProfile]
    exact h.leader

theorem Refers.setLeaderProfile (h : Refers org s) {p : LeaderProfile}
    (hhas : Orgs.hasOrg org p.orgId = true) : Refers org (setLeaderProfile s p) :=
  ⟨h.moderator, h.leader.set ⟨rfl, hhas⟩⟩

theorem Refers.setModeratorProfile (h : Refers org s) {p : ModeratorProfile}
    (hhas : Orgs.hasOrg org p.orgId = true) : Refers org (setModeratorProfile s p) :=
  ⟨h.moderator.set ⟨rfl, hhas⟩, h.leader⟩

variable {o : Bytes} (ho : slash ∉ o) (hhas : Orgs.hasOrg org o = true)
include ho hhas

theorem Refers.incrementLeaderChainCommit (h : Refers org s) (hs : Keyed s) (l : Bytes) :
    Refers org (incrementLeaderChainCommit s l o) := by
  apply h.setLeaderProfile
  rw [(hs.getLeaderProfile_names l ho).2]
  exact hhas

theorem Refers.incrementLeaderUpheldReport (h : Refers org s) (hs : Keyed s) (l : Bytes) :
    Refers org (incrementLeaderUpheldReport s l o) := by
  apply h.setLeaderProfile
  rw [(hs.getLeaderProfile_names l ho).2]
  exact hhas

theorem Refers.foldl_upheld (h : Refers org s) (hs : Keyed s) (mods : List Bytes) :
    Refers org (mods.foldl (fun r m => incrementModeratorUpheld r m o) s) := by
  induction mods generalizing s with
  | nil => exact h
  | cons m mods ih =>
    refine ih (h.setModeratorProfile ?_) (hs.incrementModeratorUpheld m ho)
    rw [(hs.getModeratorProfile_names m ho).2]
    exact hhas

end References

end WeVibeChain.Reputation

namespace WeVibeChain.Counters

open Application (Env State)

variable {β γ : Type} {env : Env β γ} {st st' : State β γ} {input : Input β γ} {output : Output}

theorem Booked.refers (h : Booked env st input output st') (hbooks : Books st)
    (hrefers : Reputation.Refers st.org st.reputation)
    (hkept : ∀ orgID, Orgs.hasOrg st.org orgID = true → Orgs.hasOrg st'.org orgID = true) :
    Reputation.Refers st'.org st'.reputation := by
  cases h with
  | same books silent profile => exact (hrefers.congr books.moderation).mono hkept
  | approved msg pending record approvable silent =>
    have hcontributed := hbooks.keyed.incrementContribution pending.contributor msg.orgId
    have hsame : Reputation.Refers st.org
      (Reputation.incrementContribution st.reputation pending.contributor msg.orgId) :=
        hrefers.congr ⟨rfl, rfl⟩
    have hhas : Orgs.hasOrg st.org msg.orgId = true :=
      OrderedMap.has_iff.mpr ⟨record, approvable.org⟩
    exact (hsame.incrementLeaderChainCommit (hbooks.slash_notMem approvable.org) hhas hcontributed
      msg.committingLeader).mono hkept
  | reported msg record reportable told =>
    have horg := hbooks.slash_notMem reportable.org
    have hcontributed := hbooks.keyed.incrementContribution msg.contributorPubkey msg.orgId
    have hsame : Reputation.Refers st.org
      (Reputation.incrementContribution st.reputation msg.contributorPubkey msg.orgId) :=
        hrefers.congr ⟨rfl, rfl⟩
    have hhas : Orgs.hasOrg st.org msg.orgId = true :=
      OrderedMap.has_iff.mpr ⟨record, reportable.org⟩
    have hmoderators := hsame.foldl_upheld horg hhas hcontributed msg.approvingModerators
    exact (hmoderators.incrementLeaderUpheldReport horg hhas
      (hcontributed.foldl_upheld msg.approvingModerators horg) msg.signer).mono hkept

end WeVibeChain.Counters

namespace WeVibeChain.Node

open Bytes

section References
variable {β γ : Type} {env : Env β γ} {st st' : State β γ}

/-- Every name in a record leads to a record. -/
structure Resolved (env : Env β γ) (st : State β γ) : Prop where
  memory : Memory.Refers st.app.org st.app.memory
  serve : Serve.Refers env.crypto st.app.memory st.app.serve
  bandwidth : Bandwidth.Refers st.app.org st.app.bandwidth
  reputation : Reputation.Refers st.app.org st.app.reputation

theorem hasOrg_next (env : Env β γ) (st : State β γ) (input : Input β γ) {orgID : Bytes}
    (h : Orgs.hasOrg st.app.org orgID = true) :
    Orgs.hasOrg ((chain env).next st input).app.org orgID = true :=
  Orgs.hasOrg_kept (next_evolution env st input) h

theorem approved_next (env : Env β γ) (st : State β γ) (input : Input β γ) {k : Bytes}
    (h : st.app.memory.approved.has k = true) :
    ((chain env).next st input).app.memory.approved.has k = true := by
  rcases next_memory env st input with hsame | ⟨msg, memory, hok, hmemory⟩ | ⟨n, -, hepoch⟩
  · rw [hsame]
    exact h
  · have hstored := Memory.handle_stored hok
    rw [hmemory]
    generalize memory.store = s at hstored ⊢
    cases hstored with
    | approve => exact OrderedMap.has_set_iff.mpr (Or.inr h)
    | _ => exact h
  · rw [hepoch]
    exact Memory.approved_has_afterEpochEnd h n

theorem books_next (h : Counters.Books st.app) (env : Env β γ) (input : Input β γ) :
    Counters.Books ((chain env).next st input).app := by
  rw [next_app]
  exact Machine.run_always _ (I := Counters.Books) (fun _ i hbooks => hbooks.next env.toEnv i) h _

theorem refers_memory_next (h : Memory.Refers st.app.org st.app.memory) (hkept : Kept env st)
    (input : Input β γ) : Memory.Refers st.app.org ((chain env).next st input).app.memory := by
  rcases next_memory env st input with hsame | ⟨msg, memory, hok, hmemory⟩ | ⟨n, -, hepoch⟩
  · rw [hsame]
    exact h
  · have hbefore : Memory.Refers st.app.memoryState.org st.app.memoryState.store := h
    rw [hmemory]
    exact hbefore.handle hok
  · rw [hepoch]
    exact h.afterEpochEnd env.crypto.sha256 env.foreign hkept.validity
      (fun _ hhas => hkept.governed.registry.slash_notMem_of_hasOrg hhas) n

theorem refers_serve_next (h : Serve.Refers env.crypto st.app.memory st.app.serve)
    (hkept : Kept env st) (input : Input β γ) :
    Serve.Refers env.crypto st.app.memory ((chain env).next st input).app.serve := by
  rcases next_serve env st input with ⟨msg, serve, response, -, hok, hserve, -⟩ | ⟨hsame, -⟩
  · have hbefore : Serve.Refers env.crypto st.app.serveState.memory st.app.serveState.store := h
    rw [hserve]
    exact hbefore.handle hkept.paired hok
  · rw [hsame]
    exact h

theorem refers_bandwidth_next (h : Bandwidth.Refers st.app.org st.app.bandwidth)
    (input : Input β γ) : Bandwidth.Refers st.app.org ((chain env).next st input).app.bandwidth := by
  rcases next_serve env st input with ⟨msg, serve, response, -, hok, -, hserve⟩ |
    ⟨-, hsame | ⟨msg, hset⟩ | ⟨msg, hupdate⟩⟩
  · rw [hserve]
    rcases Serve.handle_consumed hok with hsame | ⟨m, -, hhas, hconsumed⟩
    · rw [hsame]
      exact h
    · exact Bandwidth.Refers.consume h hhas hconsumed
  · rw [hsame]
    exact h
  · obtain ⟨hhas, -, hset⟩ := Bandwidth.setBandwidthOverrideMsg_ok hset
    rw [hset]
    exact ⟨h.state, h.override.set ⟨rfl, hhas⟩⟩
  · rw [Bandwidth.updateParamsMsg_ok hupdate]
    exact ⟨h.state, h.override⟩

theorem refers_reputation_next (h : Reputation.Refers st.app.org st.app.reputation)
    (hbooks : Counters.Books st.app) (env : Env β γ) (input : Input β γ) :
    Reputation.Refers ((chain env).next st input).app.org
      ((chain env).next st input).app.reputation := by
  rw [next_app]
  refine (Machine.run_always _
    (I := fun t => Counters.Books t ∧ Reputation.Refers t.org t.reputation) ?_ ⟨hbooks, h⟩ _).2
  rintro t i ⟨ht, hrefers⟩
  refine ⟨ht.next env.toEnv i, (Counters.next_booked env.toEnv ht.validity i).refers ht hrefers ?_⟩
  intro orgID hhas
  exact Orgs.hasOrg_kept (Counters.next_evolution env.toEnv t i) hhas

theorem Resolved.next (h : Resolved env st) (hkept : Kept env st) (hbooks : Counters.Books st.app)
    (input : Input β γ) : Resolved env ((chain env).next st input) where
  memory := (refers_memory_next h.memory hkept input).mono fun _ => hasOrg_next env st input
  serve := (refers_serve_next h.serve hkept input).mono fun _ => approved_next env st input
  bandwidth := (refers_bandwidth_next h.bandwidth input).mono fun _ => hasOrg_next env st input
  reputation := refers_reputation_next h.reputation hbooks env input

/-- A chain that starts without any of the records. -/
structure Unused (st : State β γ) : Prop extends NoRecords st where
  bandwidth : ∃ params, st.app.bandwidth = { params := params }
  moderator : st.app.reputation.moderatorProfile = ∅
  leader : st.app.reputation.leaderProfile = ∅

theorem Unused.books (h : Unused st) : Counters.Books st.app := by
  obtain ⟨params, horg⟩ := h.org
  refine ⟨horg ▸ Orgs.governed_empty params, ?_, ⟨?_, ?_⟩, ?_, ?_⟩
  · rw [h.memory]
  · rw [h.moderator]
    exact OrderedMap.forall_empty
  · rw [h.leader]
    exact OrderedMap.forall_empty
  · rw [h.memory]
    exact OrderedMap.forall_empty
  · rw [h.memory]
    exact OrderedMap.forall_empty

theorem Unused.resolved (h : Unused st) : Resolved env st := by
  refine ⟨?_, ?_, ?_, ⟨?_, ?_⟩⟩
  · rw [h.memory]
    exact Memory.refers_empty _
  · rw [h.serve]
    exact Serve.refers_empty _ _
  · obtain ⟨params, hbandwidth⟩ := h.bandwidth
    rw [hbandwidth]
    exact Bandwidth.refers_empty _ params
  · rw [h.moderator]
    exact OrderedMap.forall_empty
  · rw [h.leader]
    exact OrderedMap.forall_empty

/-- In every state of a run from empty stores no record names anything that is not there, and each
stands under its own names. -/
theorem references_resolve (env : Env β γ) (hstart : Unused st) (inputs : List (Input β γ)) :
    Resolved env ((chain env).run st inputs) := by
  refine ((chain env).run_always
    (I := fun t => Kept env t ∧ Counters.Books t.app ∧ Resolved env t) ?_
    ⟨hstart.kept env, hstart.books, hstart.resolved⟩ inputs).2.2
  rintro t input ⟨hkept, hbooks, hresolved⟩
  exact ⟨hkept.kept input, books_next hbooks env input, hresolved.next hkept hbooks input⟩

theorem sample_references_resolve :
    Unused sampleStart ∧ Resolved sampleEnv ((chain sampleEnv).run sampleStart sampleInputs) :=
  have hunused : Unused sampleStart := ⟨⟨⟨none, rfl⟩, rfl, rfl, rfl⟩, ⟨none, rfl⟩, rfl, rfl⟩
  ⟨hunused, references_resolve sampleEnv hunused sampleInputs⟩

end References

end WeVibeChain.Node
