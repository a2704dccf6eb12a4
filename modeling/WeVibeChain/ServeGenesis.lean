import WeVibeChain.EventLog
import WeVibeChain.ServeDecoding
import WeVibeChain.ServeParams
import WeVibeChain.Shared.Tables

/-!
# x/serve: genesis export and import

Receipts, denials, events, policy anchors, statistics and contributor records are
exported, the counts of the memories, the marks of what has been counted before
and the parameters are not. The import counts the denials again and leaves the
counts of serves at zero, so a store that has accepted a serve is not restored.

A store that has not holds events, policy anchors and parameters. They are
restored unless the scans read one of them as a record of another kind, or the
anchor that was made last is not the last one in key order.
-/

set_option autoImplicit false

namespace WeVibeChain.Serve

open Bytes Wire OrderedMap
open Memory (enumWord)

section Genesis
variable (sha256 : Bytes → Bytes)

structure GenesisState where
  serveReceipts : List ServeReceipt := []
  denialReceipts : List StoredDenialReceipt := []
  events : List StoredEvent := []
  policyAnchors : List StoredPolicyAnchor := []
  epochStats : List EpochServeStats := []
  contributorServes : List ContributorEpochServes := []
  deriving DecidableEq

def importDenial (s : Store) (d : StoredDenialReceipt) : Store :=
  let denialFingerprint := computeDenialFingerprint sha256 d.orgId d.memoryHash d.epoch
    d.serveKeyPubkey d.serveFingerprint
  let stored := { s with
    denyFingerprint := s.denyFingerprint.set (denialFingerprintKey denialFingerprint) ()
    denial := s.denial.set (denialReceiptKey d.orgId d.epoch denialFingerprint) d }
  updateEpochDenialStats (incrementDenialCount stored d.orgId d.epoch d.memoryHash) d.orgId d.epoch

/-- The exported statistics are written over those that the denials have left. -/
def initGenesis (s : Store) (g : GenesisState) : Store :=
  let denied := g.denialReceipts.foldl (importDenial sha256) s
  { denied with
    receipt := g.serveReceipts.foldl
      (fun m r => m.set (receiptKey r.orgID r.epoch r.fingerprint) (serveReceiptToStored r))
      s.receipt
    fingerprint := g.serveReceipts.foldl
      (fun m r => m.set (serveFingerprintKey r.fingerprint)
        (receiptKey r.orgID r.epoch r.fingerprint))
      s.fingerprint
    event := g.events.foldl (fun m e => m.set (eventKey e.orgId e.epoch e.fingerprint) e) s.event
    eventFingerprint := g.events.foldl (fun m e => m.set (eventFingerprintKey e.fingerprint) ())
      s.eventFingerprint
    policyAnchor := g.policyAnchors.foldl (fun m a => m.set (policyAnchorKey a.policyVersion) a)
      s.policyAnchor
    policyAnchorLatest := g.policyAnchors.foldl (fun _ a => some a.policyVersion)
      s.policyAnchorLatest
    stats := g.epochStats.foldl
      (fun m es => m.set (statsKey es.orgID es.epoch) (epochServeStatsToStored es)) denied.stats
    contributor := g.contributorServes.foldl
      (fun m cs => m.set (contributorKey cs.contributorID cs.epoch)
        (contributorEpochServesToStored cs))
      s.contributor }

def exportGenesis (s : Store) : GenesisState where
  serveReceipts := (s.iteratorFrom (ascii "receipt/")).filterMap
    fun e => (decodeReceipt e.2).map storedToServeReceipt
  denialReceipts := (s.iteratorFrom (ascii "denial/")).filterMap fun e => decodeDenial e.2
  events := (s.iteratorFrom (ascii "event/")).filterMap fun e => decodeEvent e.2
  policyAnchors := (s.iteratorFrom (ascii "policy_anchor/")).filterMap fun e => decodeAnchor e.2
  epochStats := (s.iteratorFrom (ascii "stats/")).filterMap
    fun e => (decodeStats e.2).map storedToEpochServeStats
  contributorServes := (s.iteratorFrom (ascii "contributor/")).filterMap
    fun e => (decodeContributor e.2).map storedToContributorEpochServes

end Genesis

section Serves
variable {crypto : Crypto} {scopeTagsOf : Bytes → Option (OrderedMap Bytes Bytes)}
  {authority : Bytes}

/-- A serve has been accepted, and a memory has been counted. -/
def Served (s : Store) : Prop :=
  s.receipt ≠ ∅ ∧ ∃ o h e, getMemoryServeCount s o h e ≠ 0

/-- No serve has been accepted, and so no denial. -/
def Unserved (s : Store) : Prop := SameRecords {} s

theorem Served.accept {s : Store} {memory : Memory.Store} {orgID : Bytes} {epoch : UInt64}
    {serve : ServeEntry}
    (h : Acceptable crypto scopeTagsOf memory (getParams s) orgID epoch s serve) :
    Served (acceptedStore s (serveReceipt crypto orgID epoch serve)) := by
  constructor
  · obtain ⟨stats, hframe⟩ := acceptedStore_frame s (serveReceipt crypto orgID epoch serve)
    rw [hframe]
    exact set_ne_empty _ _ _
  · refine ⟨orgID, serve.memoryContentHash, epoch, ?_⟩
    -- a count below a 32-bit limit does not wrap
    rw [getMemoryServeCount_acceptedStore, if_pos ⟨rfl, rfl, rfl⟩]
    intro hzero
    have hbelow := UInt64.lt_iff_toNat_lt.mp h.below
    have hwrapped := congrArg UInt64.toNat hzero
    have hlimit := (getParams s).maxServesPerMemoryPerEpoch.toNat_lt
    rw [UInt64.toNat_add] at hwrapped
    simp only [UInt32.toNat_toUInt64, UInt64.reduceToNat] at hbelow hwrapped
    omega

theorem unserved_or_served_run (st : State) (hst : st.store = {}) (inputs : List Input) :
    Unserved ((chain crypto scopeTagsOf authority).run st inputs).store ∨
      Served ((chain crypto scopeTagsOf authority).run st inputs).store := by
  refine run_store_invariant (I := fun s => Unserved s ∨ Served s) ?_ ?_
    ((chain crypto scopeTagsOf authority).along_true st _)
  · intro t msg s s' _ _ _ hs hchange
    cases hchange with
    | accept m serve hmsg hserve hok => exact Or.inr (Served.accept hok)
    | deny m entry receipt hmsg hentry hok =>
      rcases hs with hs | hs
      · -- without receipts there is nothing to deny
        have hfound := hok.found
        rw [getServeReceiptByFingerprint, hs.fingerprint] at hfound
        cases hfound
      · exact Or.inr hs
    | other _ hsame hparams =>
      rcases hs with hs | ⟨hreceipt, o, h, e, hcount⟩
      · exact Or.inl (hs.trans hsame)
      · right
        refine ⟨by rwa [hsame.receipt], o, h, e, ?_⟩
        rwa [getMemoryServeCount, hsame.memCount]
  · rw [hst]
    exact Or.inl ⟨rfl, rfl, rfl, rfl, rfl, rfl, rfl, rfl, rfl, rfl⟩

end Serves

section Filed
variable {crypto : Crypto} {scopeTagsOf : Bytes → Option (OrderedMap Bytes Bytes)}
  {authority : Bytes} {s s' : Store}

/-- What the checks of the messages leave of an event. -/
structure ValidEvent (e : StoredEvent) : Prop where
  eventType : enumWord e.eventType.code ≠ 0
  memoryContentHash : e.memoryContentHash.length = 32
  signerPubkey : e.signerPubkey.length = 32
  signature : e.signature.length = 64

theorem ValidEvent.memoryContentHash_ne_nil {e : StoredEvent} (h : ValidEvent e) :
    e.memoryContentHash ≠ [] := by
  intro hnil
  have hlength := h.memoryContentHash
  rw [hnil] at hlength
  cases hlength

structure ValidAnchor (a : StoredPolicyAnchor) : Prop where
  policyVersion : a.policyVersion ≠ []
  length : a.policyVersion.length ≤ 128
  policyHash : a.policyHash.length = 32
  anchoredAtEpoch : a.anchoredAtEpoch = 0

theorem ValidAnchor.policyHash_ne_nil {a : StoredPolicyAnchor} (h : ValidAnchor a) :
    a.policyHash ≠ [] := by
  intro hnil
  have hlength := h.policyHash
  rw [hnil] at hlength
  cases hlength

/-- Every event and every anchor is stored under the key that it names, the marked fingerprints are
those of the events, and the latest anchor is one of the anchors. -/
structure Filed (s : Store) : Prop where
  events : s.event.Forall fun k e => eventKey e.orgId e.epoch e.fingerprint = k ∧ ValidEvent e
  marked : ∀ k, s.eventFingerprint.has k = true ↔
    ∃ key e, s.event.get key = some e ∧ eventFingerprintKey e.fingerprint = k
  anchors : s.policyAnchor.Forall fun k a => policyAnchorKey a.policyVersion = k ∧ ValidAnchor a
  latest : ∀ v, s.policyAnchorLatest = some v →
    ∃ a, s.policyAnchor.get (policyAnchorKey v) = some a
  unanchored : s.policyAnchorLatest = none → s.policyAnchor = ∅

theorem filed_empty : Filed {} where
  events := forall_empty
  marked k := ⟨fun h => (by cases h), fun ⟨_, _, h, _⟩ => (by cases h)⟩
  anchors := forall_empty
  latest v h := by cases h
  unanchored _ := rfl

/-- The part of the store that event batches and policy anchors write. -/
def Store.log (s : Store) : OrderedMap Bytes StoredEvent × OrderedMap Bytes Unit ×
    OrderedMap Bytes StoredPolicyAnchor × Option Bytes :=
  (s.event, s.eventFingerprint, s.policyAnchor, s.policyAnchorLatest)

theorem Filed.congr (h : Filed s) (hsame : s'.log = s.log) : Filed s' := by
  obtain ⟨hevent, hrest⟩ := Prod.mk.inj hsame
  obtain ⟨hmarked, hrest⟩ := Prod.mk.inj hrest
  obtain ⟨hanchor, hlatest⟩ := Prod.mk.inj hrest
  refine ⟨?_, ?_, ?_, ?_, ?_⟩
  · rw [hevent]
    exact h.events
  · rw [hevent, hmarked]
    exact h.marked
  · rw [hanchor]
    exact h.anchors
  · rw [hlatest, hanchor]
    exact h.latest
  · rw [hlatest, hanchor]
    exact h.unanchored

theorem code_ne_zero {eventType : EventType} (h : validateEventType eventType = .ok ()) :
    enumWord eventType.code ≠ 0 := by
  cases eventType with
  | outcome => decide
  | validityPredicate => decide
  | costToDiscover => decide
  | convergence => decide
  | _ => cases h

theorem validEvent_of_validate {e : StoredEvent} (h : validateEventEntry e.entry = .ok ()) :
    ValidEvent e := by
  unfold validateEventEntry at h
  split at h
  · cases h
  rename_i htype
  split at h
  · cases h
  rename_i hhash
  split at h
  · cases h
  rename_i hsigner
  split at h
  · cases h
  rename_i hsignature
  exact ⟨code_ne_zero htype, not_not.mp hhash, not_not.mp hsigner, not_not.mp hsignature⟩

theorem Filed.record (h : Filed s) {e : StoredEvent} (he : ValidEvent e) :
    Filed (recordEvent s e) := by
  refine ⟨h.events.set ⟨rfl, he⟩, ?_, h.anchors, h.latest, h.unanchored⟩
  intro k
  change (s.eventFingerprint.set (eventFingerprintKey e.fingerprint) ()).has k = true ↔
    ∃ key e', (s.event.set (eventKey e.orgId e.epoch e.fingerprint) e).get key = some e' ∧
      eventFingerprintKey e'.fingerprint = k
  simp only [has_set, Bool.or_eq_true, decide_eq_true_eq, h.marked]
  constructor
  · rintro (rfl | ⟨key, e', hget, hfp⟩)
    · exact ⟨_, e, get_set_self _ _ _, rfl⟩
    · rcases eq_or_ne key (eventKey e.orgId e.epoch e.fingerprint) with rfl | hne
      · -- the key of an event holds its fingerprint
        obtain ⟨-, -, hsame⟩ := eventKey_inj.mp (h.events _ e' hget).1
        exact ⟨_, e, get_set_self _ _ _, by rw [← hfp, hsame]⟩
      · exact ⟨key, e', (get_set_of_ne _ _ hne).trans hget, hfp⟩
  · rintro ⟨key, e', hget, rfl⟩
    rw [get_set] at hget
    split at hget
    · obtain rfl := Option.some.inj hget
      exact Or.inl rfl
    · exact Or.inr ⟨key, e', hget, rfl⟩

theorem Filed.eventBatch (h : Filed s) (memory : Memory.Store) (orgID : Bytes) (epoch : UInt64)
    (result : BatchResult) {entries : List EventEntry}
    (hvalid : ∀ entry ∈ entries, validateEventEntry entry = .ok ()) :
    Filed (processEventBatch crypto memory orgID epoch s result entries).1 := by
  induction entries generalizing s result with
  | nil => exact h
  | cons entry entries ih =>
    rw [List.forall_mem_cons] at hvalid
    unfold processEventBatch
    rcases processEvent_cases crypto memory orgID epoch s entry with
      ⟨hsame, -⟩ | ⟨e, haccepted, -, -, heq⟩
    · dsimp only
      rw [hsame]
      exact ih h _ hvalid.2
    · rw [heq]
      have hentry : e.entry = entry := congrArg AcceptedEvent.entry haccepted
      exact ih (h.record (validEvent_of_validate (hentry ▸ hvalid.1))) _ hvalid.2

theorem Filed.setPolicyAnchor (h : Filed s) {height : Int64} {m : MsgAnchorPolicyVersion}
    (hvalid : m.validateBasic = .ok ())
    (hset : setPolicyAnchor s height m.policyVersion m.policyHash = .ok s') : Filed s' := by
  unfold Serve.setPolicyAnchor at hset
  split at hset
  · split at hset
    · cases hset
    · obtain rfl := Except.ok.inj hset
      exact h
  · obtain rfl := Except.ok.inj hset
    have hanchor : ValidAnchor ⟨m.policyVersion, m.policyHash, 0, height⟩ := by
      unfold MsgAnchorPolicyVersion.validateBasic at hvalid
      split at hvalid
      · cases hvalid
      split at hvalid
      · cases hvalid
      rename_i hversion
      split at hvalid
      · cases hvalid
      rename_i hlength
      split at hvalid
      · cases hvalid
      rename_i hhash
      exact ⟨hversion, Nat.not_lt.mp hlength, not_not.mp hhash, rfl⟩
    refine ⟨h.events, h.marked, h.anchors.set ⟨rfl, hanchor⟩, ?_, nofun⟩
    intro v hv
    obtain rfl := Option.some.inj hv
    exact ⟨_, get_set_self _ _ _⟩

theorem Filed.handle {st st' : State} {msg : Msg} {response : Response} (h : Filed st.store)
    (hok : handle crypto scopeTagsOf authority st msg = .ok (st', response)) :
    Filed st'.store := by
  by_cases hevent : ∃ m, msg = .submitEventBatch m
  · obtain ⟨m, rfl⟩ := hevent
    obtain ⟨result, hbatch⟩ := Except.eq_ok_of_map_snd hok
    have hvalidated := submitEventBatch_validated hbatch
    obtain ⟨-, -, rfl⟩ := submitEventBatch_ok hbatch
    exact h.eventBatch _ _ _ _ hvalidated
  by_cases hanchor : ∃ height m, msg = .anchorPolicyVersion height m
  · obtain ⟨height, m, rfl⟩ := hanchor
    have hset := Except.eq_ok_of_map hok
    obtain ⟨hbasic, store, hstore, rfl⟩ := anchorPolicyVersion_ok hset
    exact h.setPolicyAnchor hbasic hstore
  · refine h.congr (handle_frame (f := Store.log) ?_ (fun _ _ _ _ _ _ => rfl) (fun _ _ => rfl) hok
      (fun m hm => hevent ⟨m, hm⟩) fun height m hm => hanchor ⟨height, m, hm⟩)
    intro s r
    obtain ⟨stats, hframe⟩ := acceptedStore_frame s r
    rw [hframe]
    rfl

theorem Filed.next {st : State} (h : Filed st.store) (input : Input) :
    Filed ((chain crypto scopeTagsOf authority).next st input).store := by
  cases input with
  | otherModules org memory bandwidth reputation => exact h
  | msg msg =>
    change Filed (deliver crypto scopeTagsOf authority st msg).1.store
    unfold deliver
    split
    · exact h
    · rename_i hok
      exact h.handle hok

theorem filed_run {st : State} (hst : st.store = {}) (inputs : List Input) :
    Filed ((chain crypto scopeTagsOf authority).run st inputs).store := by
  refine (chain crypto scopeTagsOf authority).run_always (I := fun st => Filed st.store)
    (fun _ input h => h.next input) ?_ inputs
  rw [hst]
  exact filed_empty

end Filed

section Scans
variable {s : Store}

/-- The keys of a store without serves. -/
theorem entries_eq (hu : Unserved s) :
    s.entries =
      [s.event.entries.map fun e => (e.1, .event e.2),
        s.eventFingerprint.entries.map fun e => (e.1, .mark),
        s.params.toList.map fun p => (ascii "params", .params p),
        s.policyAnchor.entries.map fun e => (e.1, .anchor e.2),
        s.policyAnchorLatest.toList.map fun v =>
          (ascii "policy_anchor_latest", .text v)].flatten := by
  unfold Store.entries
  rw [hu.contributor, hu.denial, hu.denialCount, hu.denyFingerprint, hu.fingerprint, hu.keyFirst,
    hu.memCount, hu.memFirst, hu.receipt, hu.stats]
  rfl

theorem Filed.event_key (hs : Filed s) :
    s.event.Forall fun k _ => ∃ tail, k = ascii "event/" ++ tail := by
  intro k e hget
  rw [← (hs.events k e hget).1, eventKey, pathKey, List.append_assoc]
  exact ⟨_, rfl⟩

theorem Filed.mark_key (hs : Filed s) :
    s.eventFingerprint.Forall fun k _ => ∃ tail, k = ascii "eventfp/" ++ tail := by
  intro k u hget
  obtain ⟨key, e, -, rfl⟩ := (hs.marked k).mp (has_iff.mpr ⟨u, hget⟩)
  exact ⟨_, rfl⟩

theorem Filed.anchor_key (hs : Filed s) :
    s.policyAnchor.Forall fun k _ => ∃ tail, k = ascii "policy_anchor/" ++ tail := by
  intro k a hget
  rw [← (hs.anchors k a hget).1]
  exact ⟨_, rfl⟩

/-- The scans of the contributors, the denials and the events meet everything. -/
theorem iteratorFrom_event (hs : Filed s) (hu : Unserved s) {lo : Bytes}
    (hlo : lo ≤ ascii "event/") : s.iteratorFrom lo = s.entries := by
  have hevent : s.event.Forall fun k _ => lo ≤ k := by
    intro k e hget
    obtain ⟨tail, rfl⟩ := hs.event_key k e hget
    exact hlo.trans (le_append _ _)
  have hmark : s.eventFingerprint.Forall fun k _ => lo ≤ k := by
    intro k u hget
    obtain ⟨tail, rfl⟩ := hs.mark_key k u hget
    exact (hlo.trans (by decide : ascii "event/" ≤ ascii "eventfp/")).trans (le_append _ _)
  have hanchor : s.policyAnchor.Forall fun k _ => lo ≤ k := by
    intro k a hget
    obtain ⟨tail, rfl⟩ := hs.anchor_key k a hget
    exact (hlo.trans (by decide : ascii "event/" ≤ ascii "policy_anchor/")).trans (le_append _ _)
  have hparams : lo ≤ ascii "params" := hlo.trans (by decide)
  have hlatest : lo ≤ ascii "policy_anchor_latest" := hlo.trans (by decide)
  rw [Store.iteratorFrom, entries_eq hu, List.filter_flatten]
  simp only [List.map_cons, List.map_nil]
  rw [scan_eq_self hevent, scan_eq_self (g := fun _ => Entry.mark) hmark,
    scan_entry_eq_self _ hparams,
    scan_eq_self hanchor, scan_entry_eq_self _ hlatest]

/-- That of the anchors meets the pointer to the latest of them. -/
theorem iteratorFrom_anchor (hs : Filed s) (hu : Unserved s) :
    s.iteratorFrom (ascii "policy_anchor/") =
      s.policyAnchor.entries.map (fun e => (e.1, .anchor e.2)) ++
        s.policyAnchorLatest.toList.map fun v => (ascii "policy_anchor_latest", .text v) := by
  have hevent : s.event.Forall fun k _ => k < ascii "policy_anchor/" := by
    intro k e hget
    obtain ⟨tail, rfl⟩ := hs.event_key k e hget
    exact cons_lt_cons_of_lt (by decide) _ _
  have hmark : s.eventFingerprint.Forall fun k _ => k < ascii "policy_anchor/" := by
    intro k u hget
    obtain ⟨tail, rfl⟩ := hs.mark_key k u hget
    exact cons_lt_cons_of_lt (by decide) _ _
  have hanchor : s.policyAnchor.Forall fun k _ => ascii "policy_anchor/" ≤ k := by
    intro k a hget
    obtain ⟨tail, rfl⟩ := hs.anchor_key k a hget
    exact le_append _ _
  have hparams : ascii "params" < ascii "policy_anchor/" := by decide
  have hlatest : ascii "policy_anchor/" ≤ ascii "policy_anchor_latest" := by decide
  rw [Store.iteratorFrom, entries_eq hu, List.filter_flatten]
  simp only [List.map_cons, List.map_nil]
  rw [scan_eq_nil hevent, scan_eq_nil (g := fun _ => Entry.mark) hmark, scan_entry_eq_nil _ hparams,
    scan_eq_self hanchor, scan_entry_eq_self _ hlatest]
  simp only [List.flatten_cons, List.flatten_nil, List.nil_append, List.append_nil]

/-- Events, their marks and anchors lie before every key with a later first byte. -/
theorem Filed.lt_cons (hs : Filed s) {c : UInt8} (hc : 112 < c) (tail : Bytes) :
    (s.event.Forall fun k _ => k < c :: tail) ∧
      (s.eventFingerprint.Forall fun k _ => k < c :: tail) ∧
      s.policyAnchor.Forall fun k _ => k < c :: tail := by
  refine ⟨?_, ?_, ?_⟩
  · intro k e hget
    obtain ⟨rest, rfl⟩ := hs.event_key k e hget
    exact cons_lt_cons_of_lt (UInt8.lt_trans (by decide) hc) _ _
  · intro k u hget
    obtain ⟨rest, rfl⟩ := hs.mark_key k u hget
    exact cons_lt_cons_of_lt (UInt8.lt_trans (by decide) hc) _ _
  · intro k a hget
    obtain ⟨rest, rfl⟩ := hs.anchor_key k a hget
    exact cons_lt_cons_of_lt hc _ _

/-- Behind them there is nothing. -/
theorem iteratorFrom_eq_nil (hs : Filed s) (hu : Unserved s) {c : UInt8} (hc : 112 < c)
    (tail : Bytes) : s.iteratorFrom (c :: tail) = [] := by
  obtain ⟨hevent, hmark, hanchor⟩ := hs.lt_cons hc tail
  have hparams : ascii "params" < c :: tail := cons_lt_cons_of_lt hc _ _
  have hlatest : ascii "policy_anchor_latest" < c :: tail := cons_lt_cons_of_lt hc _ _
  rw [Store.iteratorFrom, entries_eq hu, List.filter_flatten]
  simp only [List.map_cons, List.map_nil]
  rw [scan_eq_nil hevent, scan_eq_nil (g := fun _ => Entry.mark) hmark, scan_entry_eq_nil _ hparams,
    scan_eq_nil hanchor, scan_entry_eq_nil _ hlatest]
  rfl

/-- What a decoder makes of all the values. -/
theorem entries_filterMap {ρ : Type} (decode : Entry → Option ρ) (hu : Unserved s)
    (hbatch : (getParams s).maxServesPerBatch ≠ 0) (hmark : decode .mark = none)
    (hparams : ∀ p : Params, p.maxServesPerBatch ≠ 0 → decode (.params p) = none) :
    s.entries.filterMap (fun e => decode e.2) =
      s.event.values.filterMap (fun e => decode (.event e)) ++
        (s.policyAnchor.values.filterMap (fun a => decode (.anchor a)) ++
          s.policyAnchorLatest.toList.filterMap fun v => decode (.text v)) := by
  have hmarks : (s.eventFingerprint.entries.map fun e => (e.1, Entry.mark)).filterMap
      (fun e => decode e.2) = [] := by
    rw [List.filterMap_map, List.filterMap_eq_nil_iff]
    intro e _
    exact hmark
  have hnone : (s.params.toList.map fun p => (ascii "params", Entry.params p)).filterMap
      (fun e => decode e.2) = [] := by
    rw [List.filterMap_map, List.filterMap_eq_nil_iff]
    intro p hp
    rw [Option.mem_toList] at hp
    apply hparams p
    rwa [getParams, hp] at hbatch
  rw [entries_eq hu]
  simp only [List.flatten_cons, List.flatten_nil, List.filterMap_append, hmarks, hnone,
    List.nil_append, List.append_nil, values, List.filterMap_map]
  rfl

theorem Filed.events_filterMap (hs : Filed s) {ρ : Type} {decode : StoredEvent → Option ρ}
    (h : ∀ e, ValidEvent e → decode e = none) : s.event.values.filterMap decode = [] := by
  rw [List.filterMap_eq_nil_iff]
  intro e he
  obtain ⟨k, hget⟩ := mem_values_iff.mp he
  exact h e (hs.events k e hget).2

theorem Filed.anchors_filterMap (hs : Filed s) {ρ : Type} {decode : StoredPolicyAnchor → Option ρ}
    (h : ∀ a, ValidAnchor a → decode a = none) : s.policyAnchor.values.filterMap decode = [] := by
  rw [List.filterMap_eq_nil_iff]
  intro a ha
  obtain ⟨k, hget⟩ := mem_values_iff.mp ha
  exact h a (hs.anchors k a hget).2

end Scans

section Exported
variable {s : Store} (hs : Filed s) (hu : Unserved s)
include hs hu

theorem exported_receipts : (exportGenesis s).serveReceipts = [] := by
  have hscan : s.iteratorFrom (ascii "receipt/") = [] :=
    iteratorFrom_eq_nil hs hu (by decide : (112 : UInt8) < 114) _
  rw [exportGenesis, hscan]
  rfl

theorem exported_stats : (exportGenesis s).epochStats = [] := by
  have hscan : s.iteratorFrom (ascii "stats/") = [] :=
    iteratorFrom_eq_nil hs hu (by decide : (112 : UInt8) < 115) _
  rw [exportGenesis, hscan]
  rfl

/-- The pointer may be read as one more anchor. -/
theorem exported_anchors :
    (exportGenesis s).policyAnchors =
      s.policyAnchor.values ++
        s.policyAnchorLatest.toList.filterMap fun v => decodeAnchor (.text v) := by
  have hself : (fun a => decodeAnchor (.anchor a)) = some := rfl
  change (s.iteratorFrom (ascii "policy_anchor/")).filterMap _ = _
  rw [iteratorFrom_anchor hs hu, List.filterMap_append, List.filterMap_map, List.filterMap_map,
    values, ← List.filterMap_some (l := s.policyAnchor.entries.map _), List.filterMap_map, ← hself]
  rfl

variable (hbatch : (getParams s).maxServesPerBatch ≠ 0)
include hbatch

theorem exported_denials :
    (exportGenesis s).denialReceipts =
      s.policyAnchor.values.filterMap (fun a => decodeDenial (.anchor a)) ++
        s.policyAnchorLatest.toList.filterMap fun v => decodeDenial (.text v) := by
  have hevents : s.event.values.filterMap (fun e => decodeDenial (.event e)) = [] :=
    hs.events_filterMap fun e he => decodeDenial_event he.eventType
  change (s.iteratorFrom (ascii "denial/")).filterMap _ = _
  rw [iteratorFrom_event hs hu (by decide), entries_filterMap decodeDenial hu hbatch rfl
    fun _ => decodeDenial_params, hevents]
  rfl

theorem exported_events :
    (exportGenesis s).events =
      s.event.values ++ s.policyAnchorLatest.toList.filterMap fun v => decodeEvent (.text v) := by
  have hself : s.event.values.filterMap (fun e => decodeEvent (.event e)) = s.event.values :=
    List.filterMap_some
  have hanchors : s.policyAnchor.values.filterMap (fun a => decodeEvent (.anchor a)) = [] :=
    hs.anchors_filterMap fun a ha => decodeEvent_anchor ha.policyHash_ne_nil
  change (s.iteratorFrom (ascii "event/")).filterMap _ = _
  rw [iteratorFrom_event hs hu le_rfl, entries_filterMap decodeEvent hu hbatch rfl
    fun _ => decodeEvent_params, hself, hanchors]
  rfl

theorem exported_contributors :
    (exportGenesis s).contributorServes =
      s.policyAnchorLatest.toList.filterMap fun v =>
        (decodeContributor (.text v)).map storedToContributorEpochServes := by
  have hevents : s.event.values.filterMap (fun e =>
      (decodeContributor (.event e)).map storedToContributorEpochServes) = [] := by
    refine hs.events_filterMap fun e he => ?_
    rw [decodeContributor_event he.memoryContentHash_ne_nil]
    rfl
  have hanchors : s.policyAnchor.values.filterMap (fun a =>
      (decodeContributor (.anchor a)).map storedToContributorEpochServes) = [] := by
    refine hs.anchors_filterMap fun a ha => ?_
    rw [decodeContributor_anchor ha.policyHash_ne_nil]
    rfl
  have hparams : ∀ p : Params, p.maxServesPerBatch ≠ 0 →
      (decodeContributor (.params p)).map storedToContributorEpochServes = none := by
    intro p hp
    rw [decodeContributor_params hp]
    rfl
  have hscan := entries_filterMap
    (fun e => (decodeContributor e).map storedToContributorEpochServes) hu hbatch rfl hparams
  change (s.iteratorFrom (ascii "contributor/")).filterMap _ = _
  rw [iteratorFrom_event hs hu (by decide), hscan, hevents, hanchors]
  rfl

end Exported

section RoundTrip
variable {sha256 : Bytes → Bytes} {s s' : Store}

def roundTrip (sha256 : Bytes → Bytes) (s : Store) : Store :=
  initGenesis sha256 {} (exportGenesis s)

/-- The records, the counts, and how often a memory may be served. -/
structure Restored (s s' : Store) : Prop where
  receipts : s'.receipt = s.receipt
  denials : s'.denial = s.denial
  events : s'.event = s.event
  anchors : s'.policyAnchor = s.policyAnchor
  latestAnchor : getLatestPolicyAnchor s' = getLatestPolicyAnchor s
  stats : s'.stats = s.stats
  contributors : s'.contributor = s.contributor
  serveCounts : ∀ orgID contentHash epoch,
    getMemoryServeCount s' orgID contentHash epoch = getMemoryServeCount s orgID contentHash epoch
  denialCounts : ∀ orgID contentHash epoch,
    getMemoryDenialCount s' orgID contentHash epoch =
      getMemoryDenialCount s orgID contentHash epoch
  caps : (getParams s').maxServesPerMemoryPerEpoch = (getParams s).maxServesPerMemoryPerEpoch

/-- A text that no scan takes for a record. -/
structure Unreadable (v : Bytes) : Prop where
  denial : decodeDenial (.text v) = none
  event : decodeEvent (.text v) = none
  anchor : decodeAnchor (.text v) = none
  contributor : decodeContributor (.text v) = none

/-- No serve has been accepted, the limits are the default ones, no policy was anchored at height
zero, and the latest version is the last in key order and not readable as a record. -/
structure Exportable (s : Store) : Prop where
  unserved : s.receipt = ∅
  batch : (getParams s).maxServesPerBatch = defaultParams.maxServesPerBatch
  memory : (getParams s).maxServesPerMemoryPerEpoch = defaultParams.maxServesPerMemoryPerEpoch
  heights : s.policyAnchor.Forall fun _ a => a.anchoredAtHeight ≠ 0
  latest : s.policyAnchorLatest =
    s.policyAnchor.values.getLast?.map StoredPolicyAnchor.policyVersion
  unreadable : ∀ v, s.policyAnchorLatest = some v → Unreadable v

theorem importDenials_frame (ds : List StoredDenialReceipt) (s : Store) :
    (ds.foldl (importDenial sha256) s).memCount = s.memCount ∧
      (ds.foldl (importDenial sha256) s).params = s.params := by
  induction ds generalizing s with
  | nil => exact ⟨rfl, rfl⟩
  | cons d ds ih => exact ih (importDenial sha256 s d)

theorem denial_importDenials (ds : List StoredDenialReceipt) (s : Store) :
    (ds.foldl (importDenial sha256) s).denial =
      ds.foldl (fun m d => m.set (denialReceiptKey d.orgId d.epoch (computeDenialFingerprint sha256
        d.orgId d.memoryHash d.epoch d.serveKeyPubkey d.serveFingerprint)) d) s.denial := by
  induction ds generalizing s with
  | nil => rfl
  | cons d ds ih => exact ih (importDenial sha256 s d)

theorem getMemoryServeCount_roundTrip (orgID contentHash : Bytes) (epoch : UInt64) :
    getMemoryServeCount (roundTrip sha256 s) orgID contentHash epoch = 0 := by
  have hcounts : (roundTrip sha256 s).memCount = ∅ := (importDenials_frame _ _).1
  rw [getMemoryServeCount, hcounts]
  rfl

theorem getParams_roundTrip : getParams (roundTrip sha256 s) = defaultParams := by
  have hparams : (roundTrip sha256 s).params = none := (importDenials_frame _ _).2
  rw [getParams, hparams]
  rfl

/-- The last of the exported anchors becomes the latest one. -/
theorem getLatestPolicyAnchor_roundTrip {a : StoredPolicyAnchor}
    (h : (exportGenesis s).policyAnchors.getLast? = some a) :
    getLatestPolicyAnchor (roundTrip sha256 s) = if a.policyVersion = [] then none else some a := by
  obtain ⟨before, hanchors⟩ := List.getLast?_eq_some_iff.mp h
  have hlatest : (roundTrip sha256 s).policyAnchorLatest = some a.policyVersion := by
    change (exportGenesis s).policyAnchors.foldl _ none = _
    rw [foldl_some_eq_getLast?, h]
    rfl
  have hget : getPolicyAnchor (roundTrip sha256 s) a.policyVersion = some a := by
    have hloaded : (roundTrip sha256 s).policyAnchor = (exportGenesis s).policyAnchors.foldl
      (fun m a => m.set (policyAnchorKey a.policyVersion) a) ∅ := rfl
    rw [getPolicyAnchor, hloaded, hanchors, List.foldl_append]
    exact get_set_self _ _ _
  unfold getLatestPolicyAnchor
  rw [hlatest]
  dsimp only
  rw [hget]
  exact if_congr List.length_eq_zero_iff rfl rfl

theorem Filed.latest_valid (hs : Filed s) {v : Bytes} (hv : s.policyAnchorLatest = some v) :
    ∃ a, getLatestPolicyAnchor s = some a ∧ ValidAnchor a ∧ a.policyVersion = v := by
  obtain ⟨a, hget⟩ := hs.latest v hv
  obtain ⟨hkey, hvalid⟩ := hs.anchors _ a hget
  have hversion : a.policyVersion = v := List.append_cancel_left hkey
  refine ⟨a, ?_, hvalid, hversion⟩
  unfold getLatestPolicyAnchor
  rw [hv]
  dsimp only
  rw [if_neg, getPolicyAnchor, hget]
  rw [← hversion]
  exact fun h => hvalid.policyVersion (List.length_eq_zero_iff.mp h)

theorem Filed.load_marks (hs : Filed s) :
    s.event.values.foldl (fun m e => m.set (eventFingerprintKey e.fingerprint) ())
      (∅ : OrderedMap Bytes Unit) = s.eventFingerprint := by
  ext1 k
  cases hget : s.eventFingerprint.get k with
  | none =>
    refine get_load_of_notMem fun e he hkey => ?_
    obtain ⟨key, hevent⟩ := mem_values_iff.mp he
    obtain ⟨u, hu⟩ := has_iff.mp ((hs.marked k).mpr ⟨key, e, hevent, hkey⟩)
    rw [hu] at hget
    cases hget
  | some u =>
    obtain ⟨key, e, hevent, rfl⟩ := (hs.marked k).mp (has_iff.mpr ⟨u, hget⟩)
    exact get_load_of_mem (mem_values_iff.mpr ⟨key, hevent⟩) fun _ _ _ => rfl

theorem Unserved.eq_log (hu : Unserved s) :
    s.withParams none =
      { event := s.event
        eventFingerprint := s.eventFingerprint
        policyAnchor := s.policyAnchor
        policyAnchorLatest := s.policyAnchorLatest } := by
  obtain ⟨⟩ := s
  obtain ⟨rfl, rfl, rfl, rfl, rfl, rfl, rfl, rfl, rfl, rfl⟩ := hu
  rfl

theorem exportGenesis_eq (hs : Filed s) (hu : Unserved s) (h : Exportable s) :
    exportGenesis s = { events := s.event.values, policyAnchors := s.policyAnchor.values } := by
  have hbatch : (getParams s).maxServesPerBatch ≠ 0 := by
    rw [h.batch]
    decide
  have hnone : ∀ {ρ : Type} (decode : Bytes → Option ρ),
      (∀ v, Unreadable v → decode v = none) → s.policyAnchorLatest.toList.filterMap decode = [] := by
    intro ρ decode hdecode
    rw [List.filterMap_eq_nil_iff]
    intro v hv
    exact hdecode v (h.unreadable v (Option.mem_toList.mp hv))
  have hheights : s.policyAnchor.values.filterMap (fun a => decodeDenial (.anchor a)) = [] := by
    rw [List.filterMap_eq_nil_iff]
    intro a ha
    obtain ⟨k, hget⟩ := mem_values_iff.mp ha
    rw [decodeDenial_anchor, if_neg]
    rintro ⟨-, hheight⟩
    exact h.heights k a hget (congrArg Int64.ofUInt64 hheight)
  have hreceipts := exported_receipts hs hu
  have hdenials := exported_denials hs hu hbatch
  have hevents := exported_events hs hu hbatch
  have hanchors := exported_anchors hs hu
  have hstats := exported_stats hs hu
  have hcontributors := exported_contributors hs hu hbatch
  rw [hheights, hnone _ fun _ hv => hv.denial] at hdenials
  rw [hnone _ fun _ hv => hv.event, List.append_nil] at hevents
  rw [hnone _ fun _ hv => hv.anchor, List.append_nil] at hanchors
  rw [hnone _ fun _ hv => (by rw [hv.contributor]; rfl)] at hcontributors
  generalize exportGenesis s = g at *
  obtain ⟨⟩ := g
  obtain rfl := hreceipts
  obtain rfl := hdenials
  obtain rfl := hevents
  obtain rfl := hanchors
  obtain rfl := hstats
  obtain rfl := hcontributors
  rfl

/-- The parameters are lost, and nothing else. -/
theorem roundTrip_eq (hs : Filed s) (hu : Unserved s) (h : Exportable s) :
    roundTrip sha256 s = s.withParams none := by
  have hevents : s.event.values.foldl (fun m e => m.set (eventKey e.orgId e.epoch e.fingerprint) e)
      (∅ : OrderedMap Bytes StoredEvent) = s.event :=
    load_values fun k e hget => (hs.events k e hget).1
  have hanchors : s.policyAnchor.values.foldl
      (fun m a => m.set (policyAnchorKey a.policyVersion) a)
      (∅ : OrderedMap Bytes StoredPolicyAnchor) = s.policyAnchor :=
    load_values fun k a hget => (hs.anchors k a hget).1
  have hlatest : s.policyAnchor.values.foldl (fun _ a => some a.policyVersion) none =
      s.policyAnchorLatest := by
    rw [h.latest]
    exact foldl_some_eq_getLast? StoredPolicyAnchor.policyVersion _
  rw [roundTrip, exportGenesis_eq hs hu h, hu.eq_log]
  unfold initGenesis
  dsimp only
  rw [hevents, hs.load_marks, hanchors, hlatest]
  rfl

end RoundTrip

section Necessary
variable {sha256 : Bytes → Bytes} {s : Store} {v : Bytes}
variable (hs : Filed s) (hu : Unserved s) (h : Restored s (roundTrip sha256 s))
include hu h

theorem exported_denials_eq_nil : (exportGenesis s).denialReceipts = [] := by
  have hloaded : (roundTrip sha256 s).denial = ∅ := h.denials.trans hu.denial
  exact load_eq_empty_iff.mp ((denial_importDenials _ _).symm.trans hloaded)

theorem exported_contributors_eq_nil : (exportGenesis s).contributorServes = [] := by
  have hloaded : (roundTrip sha256 s).contributor = ∅ := h.contributors.trans hu.contributor
  exact load_eq_empty_iff.mp hloaded

include hs

/-- A version is too short to be read as an event of the store. -/
theorem decodeEvent_latest (hbatch : (getParams s).maxServesPerBatch ≠ 0)
    (hv : s.policyAnchorLatest = some v) : decodeEvent (.text v) = none := by
  cases hdecode : decodeEvent (.text v) with
  | none => rfl
  | some e =>
    have hexported := exported_events hs hu hbatch
    simp only [hv, Option.toList_some, List.filterMap_cons, hdecode, List.filterMap_nil]
      at hexported
    have hloaded : (roundTrip sha256 s).event = (exportGenesis s).events.foldl
      (fun m e => m.set (eventKey e.orgId e.epoch e.fingerprint) e) ∅ := rfl
    have hget : s.event.get (eventKey e.orgId e.epoch e.fingerprint) = some e := by
      rw [← h.events, hloaded, hexported, List.foldl_append]
      exact get_set_self _ _ _
    have hvalid := (hs.events _ e hget).2
    have hsize : e.size = 128 := by
      rw [StoredEvent.size, hvalid.memoryContentHash, hvalid.signerPubkey, hvalid.signature]
    obtain ⟨a, -, ha, hversion⟩ := hs.latest_valid hv
    have hlength := ha.length
    have hlonger := decodeEvent_text_size hdecode (by omega)
    rw [hversion] at hlength
    omega

theorem decodeAnchor_latest (hv : s.policyAnchorLatest = some v) :
    decodeAnchor (.text v) = none := by
  cases hdecode : decodeAnchor (.text v) with
  | none => rfl
  | some a' =>
    have hexported := exported_anchors hs hu
    simp only [hv, Option.toList_some, List.filterMap_cons, hdecode, List.filterMap_nil]
      at hexported
    have hlast : (exportGenesis s).policyAnchors.getLast? = some a' := by
      rw [hexported, List.getLast?_append]
      rfl
    obtain ⟨a, hlatest, hvalid, hversion⟩ := hs.latest_valid hv
    have hsame := (getLatestPolicyAnchor_roundTrip hlast).symm.trans (h.latestAnchor.trans hlatest)
    split at hsame
    · cases hsame
    · obtain rfl := Option.some.inj hsame
      exact absurd hversion (decodeAnchor_text_ne hdecode (hversion ▸ hvalid.policyVersion))

theorem latest_eq_getLast? :
    s.policyAnchorLatest =
      s.policyAnchor.values.getLast?.map StoredPolicyAnchor.policyVersion := by
  cases hv : s.policyAnchorLatest with
  | none =>
    rw [hs.unanchored hv]
    rfl
  | some v =>
    have hexported := exported_anchors hs hu
    have hnone := decodeAnchor_latest hs hu h hv
    simp only [hv, Option.toList_some, List.filterMap_cons, hnone, List.filterMap_nil,
      List.append_nil] at hexported
    obtain ⟨a, hlatest, -, hversion⟩ := hs.latest_valid hv
    cases hlast : s.policyAnchor.values.getLast? with
    | none =>
      obtain ⟨a, hget⟩ := hs.latest v hv
      have hmem := mem_values_iff.mpr ⟨_, hget⟩
      rw [List.getLast?_eq_none_iff.mp hlast] at hmem
      cases hmem
    | some b =>
      rw [← hexported] at hlast
      have hsame := (getLatestPolicyAnchor_roundTrip hlast).symm.trans
        (h.latestAnchor.trans hlatest)
      split at hsame
      · cases hsame
      · obtain rfl := Option.some.inj hsame
        exact congrArg some hversion.symm

theorem exportable_of_restored
    (hbatch : (getParams s).maxServesPerBatch = defaultParams.maxServesPerBatch) :
    Exportable s := by
  have hpos : (getParams s).maxServesPerBatch ≠ 0 := by
    rw [hbatch]
    decide
  have hdenials := exported_denials hs hu hpos
  rw [exported_denials_eq_nil hu h, eq_comm, List.append_eq_nil_iff, List.filterMap_eq_nil_iff,
    List.filterMap_eq_nil_iff] at hdenials
  have hcontributors := exported_contributors hs hu hpos
  rw [exported_contributors_eq_nil hu h, eq_comm, List.filterMap_eq_nil_iff] at hcontributors
  refine ⟨hu.receipt, hbatch, ?_, ?_, latest_eq_getLast? hs hu h, fun v hv => ?_⟩
  · rw [← h.caps, getParams_roundTrip]
  · intro k a hget hheight
    have hread := hdenials.1 a (mem_values_iff.mpr ⟨k, hget⟩)
    rw [decodeDenial_anchor, if_pos ⟨(hs.anchors k a hget).2.anchoredAtEpoch, by
      rw [hheight]
      rfl⟩] at hread
    cases hread
  · have hmem : v ∈ s.policyAnchorLatest.toList := Option.mem_toList.mpr hv
    exact ⟨hdenials.2 v hmem, decodeEvent_latest hs hu h hpos hv, decodeAnchor_latest hs hu h hv,
      Option.map_eq_none_iff.mp (hcontributors v hmem)⟩

end Necessary

section Later
variable (crypto : Crypto) (scopeTagsOf : Bytes → Option (OrderedMap Bytes Bytes))
  (authority : Bytes)

/-- With the imported store in the place of the original one every later batch and other message
has the same answer, and leaves the same records, counts and caps. -/
def SameLater (st : State) (s' : Store) : Prop :=
  ∀ later : List Input,
    (chain crypto scopeTagsOf authority).history { st with store := s' } later =
        (chain crypto scopeTagsOf authority).history st later ∧
      Restored ((chain crypto scopeTagsOf authority).run st later).store
        ((chain crypto scopeTagsOf authority).run { st with store := s' } later).store

theorem Alike.restored {st st' : State} (h : Alike st st') : Restored st.store st'.store := by
  obtain ⟨params, rfl, hlimits⟩ := h
  exact ⟨rfl, rfl, rfl, rfl, rfl, rfl, rfl, fun _ _ _ => rfl, fun _ _ _ => rfl, hlimits.memory⟩

theorem alike_roundTrip {st : State} (hs : Filed st.store) (hu : Unserved st.store)
    (h : Exportable st.store) :
    Alike st { st with store := roundTrip crypto.sha256 st.store } := by
  rw [roundTrip_eq hs hu h]
  exact ⟨none, rfl, h.batch.symm, h.memory.symm⟩

theorem restored_iff {st : State} (hs : Filed st.store)
    (hserves : Unserved st.store ∨ Served st.store) :
    (Restored st.store (roundTrip crypto.sha256 st.store) ∧
        SameLater crypto scopeTagsOf authority st (roundTrip crypto.sha256 st.store)) ↔
      Exportable st.store := by
  rcases hserves with hu | ⟨hreceipt, o, h, e, hcount⟩
  · constructor
    · rintro ⟨hrestored, hlater⟩
      apply exportable_of_restored hs hu hrestored
      have hbatch := maxServesPerBatch_eq_of_history crypto scopeTagsOf authority
        fun inputs => (hlater inputs).1
      exact hbatch.symm.trans (congrArg Params.maxServesPerBatch getParams_roundTrip)
    · intro hexportable
      have halike := alike_roundTrip crypto hs hu hexportable
      refine ⟨halike.restored, fun later => ?_⟩
      obtain ⟨hrun, hhistory⟩ := halike.run later
      exact ⟨hhistory, hrun.restored⟩
  · constructor
    · rintro ⟨hrestored, -⟩
      have hlost := hrestored.serveCounts o h e
      rw [getMemoryServeCount_roundTrip] at hlost
      exact absurd hlost.symm hcount
    · intro hexportable
      exact absurd hexportable.unserved hreceipt

theorem serves_restored_iff (org : Orgs.Store) (memory : Memory.Store) (bandwidth : Bandwidth.Store)
    (reputation : Reputation.Store) (inputs : List Input) :
    (Restored
          ((chain crypto scopeTagsOf authority).run ⟨{}, org, memory, bandwidth, reputation⟩
            inputs).store
          (roundTrip crypto.sha256 ((chain crypto scopeTagsOf authority).run
            ⟨{}, org, memory, bandwidth, reputation⟩ inputs).store) ∧
        SameLater crypto scopeTagsOf authority
          ((chain crypto scopeTagsOf authority).run ⟨{}, org, memory, bandwidth, reputation⟩ inputs)
          (roundTrip crypto.sha256 ((chain crypto scopeTagsOf authority).run
            ⟨{}, org, memory, bandwidth, reputation⟩ inputs).store)) ↔
      Exportable ((chain crypto scopeTagsOf authority).run
        ⟨{}, org, memory, bandwidth, reputation⟩ inputs).store :=
  restored_iff crypto scopeTagsOf authority (filed_run rfl inputs)
    (unserved_or_served_run _ rfl inputs)

end Later

section Sample

/-- Org `a` has reported one serve. -/
def sampleServed : State :=
  (chain sampleCrypto (fun _ => none) []).run sampleState [.msg (.submitServeBatch sampleBatch)]

def sampleImported : Store := roundTrip sampleCrypto.sha256 sampleServed.store

/-- After the round trip the receipt is there, and the memory has not been served. -/
theorem sampleServed_not_restored :
    sampleImported.receipt = sampleServed.store.receipt ∧
      getMemoryServeCount sampleServed.store (ascii "a") sampleHash 1 = 1 ∧
      getMemoryServeCount sampleImported (ascii "a") sampleHash 1 = 0 ∧
      ¬ Restored sampleServed.store sampleImported := by
  have hbefore : getMemoryServeCount sampleServed.store (ascii "a") sampleHash 1 = 1 := by
    decide +kernel
  have hafter : getMemoryServeCount sampleImported (ascii "a") sampleHash 1 = 0 :=
    getMemoryServeCount_roundTrip _ _ _
  refine ⟨by decide +kernel, hbefore, hafter, fun h => ?_⟩
  have hcount := h.serveCounts (ascii "a") sampleHash 1
  rw [hbefore, hafter] at hcount
  cases hcount

end Sample

end WeVibeChain.Serve
