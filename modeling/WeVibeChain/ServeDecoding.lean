import WeVibeChain.MemoryDecoding
import WeVibeChain.ServeKeeper

/-!
# x/serve: records of other families read as records of this one

The scans of the export begin at a prefix and have no end. Whatever follows is
decoded as a record of the scanned family and kept if that succeeds. Beside the
records the store holds marks of one byte, counts of eight bytes and pointers,
which are raw text: the key of a receipt, and the version of the latest policy
anchor, which the authority chooses freely.
-/

set_option autoImplicit false

namespace WeVibeChain.Serve

open Bytes Wire
open Memory (boolWord enumOfWord enumWord)

section Codes

def EventType.code : EventType → Int32
  | .unspecified => 0
  | .serve => 1
  | .block => 2
  | .outcome => 3
  | .contest => 4
  | .sponsorship => 5
  | .validityPredicate => 6
  | .costToDiscover => 7
  | .convergence => 8
  | .other code => code

def EventType.ofCode (code : Int32) : EventType :=
  if code = 0 then .unspecified
  else if code = 1 then .serve
  else if code = 2 then .block
  else if code = 3 then .outcome
  else if code = 4 then .contest
  else if code = 5 then .sponsorship
  else if code = 6 then .validityPredicate
  else if code = 7 then .costToDiscover
  else if code = 8 then .convergence
  else .other code

def PredicateResult.code : PredicateResult → Int32
  | .unspecified => 0
  | .pass => 1
  | .fail => 2
  | .absent => 3
  | .other code => code

def PredicateResult.ofCode (code : Int32) : PredicateResult :=
  if code = 0 then .unspecified
  else if code = 1 then .pass
  else if code = 2 then .fail
  else if code = 3 then .absent
  else .other code

def OutcomeResolution.code : OutcomeResolution → Int32
  | .unspecified => 0
  | .worked => 1
  | .didntWork => 2
  | .unobserved => 3
  | .other code => code

def OutcomeResolution.ofCode (code : Int32) : OutcomeResolution :=
  if code = 0 then .unspecified
  else if code = 1 then .worked
  else if code = 2 then .didntWork
  else if code = 3 then .unobserved
  else .other code

def OutcomeSource.code : OutcomeSource → Int32
  | .unspecified => 0
  | .harvested => 1
  | .user => 2
  | .other code => code

def OutcomeSource.ofCode (code : Int32) : OutcomeSource :=
  if code = 0 then .unspecified
  else if code = 1 then .harvested
  else if code = 2 then .user
  else .other code

end Codes

section Fields

def contributorFields (c : StoredContributorEpochServes) : List Field :=
  bytesField 1 c.contributorId ++ (varintField 2 c.epoch ++ (varintField 3 c.serveCount ++
    (varintField 4 c.selfServeCount ++ (repeatedField 5 c.orgIds ++
    (varintField 6 c.totalTurns ++ [])))))

def denialFields (d : StoredDenialReceipt) : List Field :=
  bytesField 1 d.orgId ++ (bytesField 2 d.memoryHash ++ (bytesField 3 d.denyKey ++
    (bytesField 4 d.reason ++ (varintField 5 d.epoch ++ (bytesField 7 d.serveFingerprint ++
    (bytesField 8 d.serveKeyPubkey ++ (bytesField 9 d.negAnchor ++ [])))))))

def bodyFields : EventBody → List Field
  | .outcome b =>
    bytesField 1 b.episodeRef ++ (bytesField 3 b.evidenceRef ++ (bytesField 4 b.serveRef ++
      (varintField 5 (enumWord b.resolution.code) ++ (varintField 6 (enumWord b.source.code) ++ []))))
  | .validityPredicate b =>
    bytesField 1 b.predicateId ++ (varintField 2 (enumWord b.result.code) ++
      (bytesField 3 b.evidenceRef ++ []))
  | .costToDiscover b =>
    varintField 1 b.cycles ++ (varintField 2 b.toolCalls ++
      (varintField 3 b.attemptsToGreen.toUInt64 ++ (bytesField 4 b.evidenceRef ++ [])))
  | .convergence b => bytesField 1 b.convergenceRef

def EventBody.number : EventBody → Nat
  | .outcome _ => 10
  | .validityPredicate _ => 11
  | .costToDiscover _ => 12
  | .convergence _ => 13

/-- The body is a record in the record. It is written even when it has no fields. -/
def eventFields (e : StoredEvent) : List Field :=
  bytesField 1 e.orgId ++ (varintField 2 e.epoch ++ (varintField 3 (enumWord e.eventType.code) ++
    (bytesField 4 e.memoryContentHash ++ (bytesField 5 e.signerPubkey ++ (bytesField 6 e.nonce ++
    (bytesField 7 e.signature ++ (bytesField 8 e.fingerprint ++
    e.body.toList.map fun body => ⟨body.number, .bytes (write (bodyFields body))⟩)))))))

def paramsFields (p : Params) : List Field :=
  varintField 1 p.maxServesPerBatch.toUInt64 ++
    (varintField 2 p.selfServeDiscountPercent.toUInt64 ++
    (varintField 3 p.maxServesPerMemoryPerEpoch.toUInt64 ++ (varintField 4 p.minOrgAgeEpochs ++
    (varintField 5 p.diminishingReturnsThreshold ++ []))))

def anchorFields (a : StoredPolicyAnchor) : List Field :=
  bytesField 1 a.policyVersion ++ (bytesField 2 a.policyHash ++ (varintField 3 a.anchoredAtEpoch ++
    (varintField 4 a.anchoredAtHeight.toUInt64 ++ [])))

def receiptFields (r : StoredServeReceipt) : List Field :=
  bytesField 1 r.orgId ++ (bytesField 2 r.memoryContentHash ++ (bytesField 4 r.contributorId ++
    (varintField 5 r.epoch ++ (varintField 7 (boolWord r.isSelfServe) ++ (bytesField 8 r.modelId ++
    (varintField 9 r.turnCount.toUInt64 ++ (bytesField 11 r.serveKeyPubkey ++
    (bytesField 12 r.fingerprint ++ (bytesField 13 r.episodeRef ++ [])))))))))

/-- Every entry of the map is a record of its key and its value. -/
def statsFields (es : StoredEpochServeStats) : List Field :=
  bytesField 1 es.orgId ++ (varintField 2 es.epoch ++ (varintField 3 es.totalServes ++
    (varintField 4 es.uniqueMemoriesServed ++ (varintField 5 es.uniqueServeKeys ++
    (varintField 6 es.selfServes ++
    (repeatedField 7 (es.modelBreakdown.entries.map fun e =>
      write [⟨1, .bytes e.1⟩, ⟨2, .varint e.2⟩]) ++
    (varintField 8 es.totalDenials ++ [])))))))

end Fields

section Reading

def zeroContributor : StoredContributorEpochServes := ⟨[], 0, 0, 0, [], 0⟩

/-- A field of the record's type must have the right form, and any other field is skipped. -/
def readContributorField (c : StoredContributorEpochServes) :
    Field → Option StoredContributorEpochServes
  | ⟨1, .bytes b⟩ => some { c with contributorId := b }
  | ⟨2, .varint n⟩ => some { c with epoch := n }
  | ⟨3, .varint n⟩ => some { c with serveCount := n }
  | ⟨4, .varint n⟩ => some { c with selfServeCount := n }
  | ⟨5, .bytes b⟩ => some { c with orgIds := c.orgIds ++ [b] }
  | ⟨6, .varint n⟩ => some { c with totalTurns := n }
  | ⟨number, _⟩ => if number ∈ [1, 2, 3, 4, 5, 6] then none else some c

def zeroDenial : StoredDenialReceipt := ⟨[], [], [], [], 0, [], [], []⟩

def readDenialField (d : StoredDenialReceipt) : Field → Option StoredDenialReceipt
  | ⟨1, .bytes b⟩ => some { d with orgId := b }
  | ⟨2, .bytes b⟩ => some { d with memoryHash := b }
  | ⟨3, .bytes b⟩ => some { d with denyKey := b }
  | ⟨4, .bytes b⟩ => some { d with reason := b }
  | ⟨5, .varint n⟩ => some { d with epoch := n }
  | ⟨7, .bytes b⟩ => some { d with serveFingerprint := b }
  | ⟨8, .bytes b⟩ => some { d with serveKeyPubkey := b }
  | ⟨9, .bytes b⟩ => some { d with negAnchor := b }
  | ⟨number, _⟩ => if number ∈ [1, 2, 3, 4, 5, 7, 8, 9] then none else some d

def readOutcomeField (b : OutcomeEventBody) : Field → Option OutcomeEventBody
  | ⟨1, .bytes bs⟩ => some { b with episodeRef := bs }
  | ⟨3, .bytes bs⟩ => some { b with evidenceRef := bs }
  | ⟨4, .bytes bs⟩ => some { b with serveRef := bs }
  | ⟨5, .varint n⟩ => some { b with resolution := .ofCode (enumOfWord n) }
  | ⟨6, .varint n⟩ => some { b with source := .ofCode (enumOfWord n) }
  | ⟨number, _⟩ => if number ∈ [1, 3, 4, 5, 6] then none else some b

def readValidityPredicateField (b : ValidityPredicateEventBody) :
    Field → Option ValidityPredicateEventBody
  | ⟨1, .bytes bs⟩ => some { b with predicateId := bs }
  | ⟨2, .varint n⟩ => some { b with result := .ofCode (enumOfWord n) }
  | ⟨3, .bytes bs⟩ => some { b with evidenceRef := bs }
  | ⟨number, _⟩ => if number ∈ [1, 2, 3] then none else some b

def readCostToDiscoverField (b : CostToDiscoverEventBody) : Field → Option CostToDiscoverEventBody
  | ⟨1, .varint n⟩ => some { b with cycles := n }
  | ⟨2, .varint n⟩ => some { b with toolCalls := n }
  | ⟨3, .varint n⟩ => some { b with attemptsToGreen := n.toUInt32 }
  | ⟨4, .bytes bs⟩ => some { b with evidenceRef := bs }
  | ⟨number, _⟩ => if number ∈ [1, 2, 3, 4] then none else some b

def readConvergenceField (b : ConvergenceEventBody) : Field → Option ConvergenceEventBody
  | ⟨1, .bytes bs⟩ => some { b with convergenceRef := bs }
  | ⟨number, _⟩ => if number = 1 then none else some b

/-- The body that stands under a field number of its own. -/
def bodyOfBytes (number : Nat) (bs : Bytes) : Option EventBody :=
  (parse bs).bind fun fields =>
    match number with
    | 10 =>
      (readInto readOutcomeField ⟨[], [], [], .unspecified, .unspecified⟩ fields).map .outcome
    | 11 =>
      (readInto readValidityPredicateField ⟨[], .unspecified, []⟩ fields).map .validityPredicate
    | 12 => (readInto readCostToDiscoverField ⟨0, 0, 0, []⟩ fields).map .costToDiscover
    | _ => (readInto readConvergenceField ⟨[]⟩ fields).map .convergence

def zeroEvent : StoredEvent := ⟨[], 0, .unspecified, [], [], [], [], [], none⟩

def readEventField (e : StoredEvent) : Field → Option StoredEvent
  | ⟨1, .bytes b⟩ => some { e with orgId := b }
  | ⟨2, .varint n⟩ => some { e with epoch := n }
  | ⟨3, .varint n⟩ => some { e with eventType := .ofCode (enumOfWord n) }
  | ⟨4, .bytes b⟩ => some { e with memoryContentHash := b }
  | ⟨5, .bytes b⟩ => some { e with signerPubkey := b }
  | ⟨6, .bytes b⟩ => some { e with nonce := b }
  | ⟨7, .bytes b⟩ => some { e with signature := b }
  | ⟨8, .bytes b⟩ => some { e with fingerprint := b }
  | ⟨number, .bytes b⟩ =>
    if number ∈ [10, 11, 12, 13] then
      (bodyOfBytes number b).map fun body => { e with body := some body }
    else if number ∈ [2, 3] then none
    else some e
  | ⟨number, _⟩ => if number ∈ [1, 2, 3, 4, 5, 6, 7, 8, 10, 11, 12, 13] then none else some e

def zeroAnchor : StoredPolicyAnchor := ⟨[], [], 0, 0⟩

def readAnchorField (a : StoredPolicyAnchor) : Field → Option StoredPolicyAnchor
  | ⟨1, .bytes b⟩ => some { a with policyVersion := b }
  | ⟨2, .bytes b⟩ => some { a with policyHash := b }
  | ⟨3, .varint n⟩ => some { a with anchoredAtEpoch := n }
  | ⟨4, .varint n⟩ => some { a with anchoredAtHeight := n.toInt64 }
  | ⟨number, _⟩ => if number ∈ [1, 2, 3, 4] then none else some a

def zeroReceipt : StoredServeReceipt := ⟨[], [], [], 0, false, [], 0, [], [], []⟩

def readReceiptField (r : StoredServeReceipt) : Field → Option StoredServeReceipt
  | ⟨1, .bytes b⟩ => some { r with orgId := b }
  | ⟨2, .bytes b⟩ => some { r with memoryContentHash := b }
  | ⟨4, .bytes b⟩ => some { r with contributorId := b }
  | ⟨5, .varint n⟩ => some { r with epoch := n }
  | ⟨7, .varint n⟩ => some { r with isSelfServe := n ≠ 0 }
  | ⟨8, .bytes b⟩ => some { r with modelId := b }
  | ⟨9, .varint n⟩ => some { r with turnCount := n.toUInt32 }
  | ⟨11, .bytes b⟩ => some { r with serveKeyPubkey := b }
  | ⟨12, .bytes b⟩ => some { r with fingerprint := b }
  | ⟨13, .bytes b⟩ => some { r with episodeRef := b }
  | ⟨number, _⟩ => if number ∈ [1, 2, 4, 5, 7, 8, 9, 11, 12, 13] then none else some r

end Reading

section Entries

/-- A value of any key family. -/
inductive Entry where
  | contributor (value : StoredContributorEpochServes)
  | denial (value : StoredDenialReceipt)
  | event (value : StoredEvent)
  | params (value : Params)
  | anchor (value : StoredPolicyAnchor)
  | receipt (value : StoredServeReceipt)
  | stats (value : StoredEpochServeStats)
  | count (value : UInt64)
  | mark
  | text (value : Bytes)
  deriving DecidableEq

def Entry.bytes : Entry → Bytes
  | .contributor c => write (contributorFields c)
  | .denial d => write (denialFields d)
  | .event e => write (eventFields e)
  | .params p => write (paramsFields p)
  | .anchor a => write (anchorFields a)
  | .receipt r => write (receiptFields r)
  | .stats es => write (statsFields es)
  | .count n => bigEndian64 n
  | .mark => [1]
  | .text b => b

/-- The fields in the bytes of a value. -/
def Entry.fields : Entry → Option (List Field)
  | .contributor c => some (contributorFields c)
  | .denial d => some (denialFields d)
  | .event e => some (eventFields e)
  | .params p => some (paramsFields p)
  | .anchor a => some (anchorFields a)
  | .receipt r => some (receiptFields r)
  | .stats es => some (statsFields es)
  | .count n => parse (bigEndian64 n)
  | .mark => parse [1]
  | .text b => parse b

def decodeContributor : Entry → Option StoredContributorEpochServes
  | .contributor c => some c
  | entry => entry.fields.bind (readInto readContributorField zeroContributor)

def decodeDenial : Entry → Option StoredDenialReceipt
  | .denial d => some d
  | entry => entry.fields.bind (readInto readDenialField zeroDenial)

def decodeEvent : Entry → Option StoredEvent
  | .event e => some e
  | entry => entry.fields.bind (readInto readEventField zeroEvent)

def decodeAnchor : Entry → Option StoredPolicyAnchor
  | .anchor a => some a
  | entry => entry.fields.bind (readInto readAnchorField zeroAnchor)

def decodeReceipt : Entry → Option StoredServeReceipt
  | .receipt r => some r
  | entry => entry.fields.bind (readInto readReceiptField zeroReceipt)

/-- Nothing but statistics is stored from `stats/` on. -/
def decodeStats : Entry → Option StoredEpochServeStats
  | .stats es => some es
  | _ => none

/-- In key order. -/
def Store.entries (s : Store) : List (Bytes × Entry) :=
  [s.contributor.entries.map fun e => (e.1, .contributor e.2),
    s.denial.entries.map fun e => (e.1, .denial e.2),
    s.denialCount.entries.map fun e => (e.1, .count e.2),
    s.denyFingerprint.entries.map fun e => (e.1, .mark),
    s.event.entries.map fun e => (e.1, .event e.2),
    s.eventFingerprint.entries.map fun e => (e.1, .mark),
    s.fingerprint.entries.map fun e => (e.1, .text e.2),
    s.keyFirst.entries.map fun e => (e.1, .mark),
    s.memCount.entries.map fun e => (e.1, .count e.2),
    s.memFirst.entries.map fun e => (e.1, .mark),
    s.params.toList.map fun p => (ascii "params", .params p),
    s.policyAnchor.entries.map fun e => (e.1, .anchor e.2),
    s.policyAnchorLatest.toList.map fun v => (ascii "policy_anchor_latest", .text v),
    s.receipt.entries.map fun e => (e.1, .receipt e.2),
    s.stats.entries.map fun e => (e.1, .stats e.2)].flatten

/-- An iterator that starts at `lo` and has no end. -/
def Store.iteratorFrom (s : Store) (lo : Bytes) : List (Bytes × Entry) :=
  s.entries.filter fun e => lo ≤ e.1

end Entries

section Decoded

theorem plain_eventFields (e : StoredEvent) : Plain (eventFields e) := by
  unfold eventFields
  cases e.body with
  | none => simp
  | some body =>
    have hnumber : 0 < body.number ∧ body.number < 2 ^ 29 := by
      cases body <;> simp [EventBody.number]
    have hbody : Field.Plain ⟨body.number, .bytes (write (bodyFields body))⟩ :=
      ⟨hnumber.1, hnumber.2, trivial⟩
    simp [hbody]

/-- The fields of a value are those of its bytes, as long as no string in it is too long for a
length of 64 bits. -/
theorem Entry.parse_bytes (entry : Entry)
    (hlength : ∀ fields, entry.fields = some fields → ∀ f ∈ fields, f.value.weight < 2 ^ 64) :
    parse entry.bytes = entry.fields := by
  cases entry with
  | contributor c => exact parse_write (by simp [contributorFields]) (hlength _ rfl)
  | denial d => exact parse_write (by simp [denialFields]) (hlength _ rfl)
  | event e => exact parse_write (plain_eventFields e) (hlength _ rfl)
  | params p => exact parse_write (by simp [paramsFields]) (hlength _ rfl)
  | anchor a => exact parse_write (by simp [anchorFields]) (hlength _ rfl)
  | receipt r => exact parse_write (by simp [receiptFields]) (hlength _ rfl)
  | stats es => exact parse_write (by simp [statsFields]) (hlength _ rfl)
  | count n => rfl
  | mark => rfl
  | text b => rfl

section Params
variable {p : Params} (h : p.maxServesPerBatch ≠ 0)
include h

/-- The first number of the parameters stands where the records have a name. -/
theorem decode_params_refused {ρ : Type} {read : ρ → Field → Option ρ} {m : ρ}
    (hread : ∀ n, read m ⟨1, .varint n⟩ = none) :
    (Entry.params p).fields.bind (readInto read m) = none := by
  have hword : p.maxServesPerBatch.toUInt64 ≠ 0 := by
    intro hzero
    exact h (UInt32.toUInt64_inj.mp hzero)
  change readInto read m (paramsFields p) = none
  unfold paramsFields
  rw [readInto_varintField_refused rfl hread, if_neg hword]

theorem decodeContributor_params : decodeContributor (.params p) = none :=
  decode_params_refused h fun _ => rfl

theorem decodeDenial_params : decodeDenial (.params p) = none :=
  decode_params_refused h fun _ => rfl

theorem decodeEvent_params : decodeEvent (.params p) = none :=
  decode_params_refused h fun _ => rfl

end Params

/-- An anchor is read as a denial when it was made at height zero, of the org that has the name of
the version. -/
theorem decodeDenial_anchor (a : StoredPolicyAnchor) :
    decodeDenial (.anchor a) =
      if a.anchoredAtEpoch = 0 ∧ a.anchoredAtHeight.toUInt64 = 0 then
        some { zeroDenial with orgId := a.policyVersion, memoryHash := a.policyHash }
      else none := by
  rw [ite_and]
  change readInto readDenialField zeroDenial (anchorFields a) = _
  unfold anchorFields
  refine readInto_bytesField ?_
  refine readInto_bytesField ?_
  refine readInto_varintField_refused ?_
  exact readInto_varintField_refused rfl

section Anchors
variable {a : StoredPolicyAnchor} (h : a.policyHash ≠ [])
include h

theorem decodeEvent_anchor : decodeEvent (.anchor a) = none := by
  change readInto readEventField zeroEvent (anchorFields a) = none
  unfold anchorFields
  refine readInto_bytesField ?_
  rw [readInto_bytesField_refused rfl (fun _ => rfl), if_neg h]

theorem decodeContributor_anchor : decodeContributor (.anchor a) = none := by
  change readInto readContributorField zeroContributor (anchorFields a) = none
  unfold anchorFields
  refine readInto_bytesField ?_
  rw [readInto_bytesField_refused rfl (fun _ => rfl), if_neg h]

end Anchors

/-- The type of an event stands where a denial has its key. -/
theorem decodeDenial_event {e : StoredEvent} (h : enumWord e.eventType.code ≠ 0) :
    decodeDenial (.event e) = none := by
  change readInto readDenialField zeroDenial (eventFields e) = none
  unfold eventFields
  refine readInto_bytesField ?_
  rw [readInto_varintField_refused (readInto_varintField_refused rfl), if_neg h, ite_self]

theorem decodeContributor_event {e : StoredEvent} (h : e.memoryContentHash ≠ []) :
    decodeContributor (.event e) = none := by
  change readInto readContributorField zeroContributor (eventFields e) = none
  unfold eventFields
  refine readInto_bytesField ?_
  refine readInto_varintField ?_
  refine readInto_varintField ?_
  rw [readInto_bytesField_refused rfl (fun _ => rfl), if_neg h]

/-- A pointer to an anchor is long enough for a record: its first byte announces eight more bytes
of a field that no record has. -/
example : decodeDenial (.text (ascii "1.0.0-rc1")) = some zeroDenial ∧
    decodeAnchor (.text (ascii "1.0.0-rc1")) = some zeroAnchor := by decide

end Decoded

section Sizes

/-- The lengths of the byte strings that every event has. -/
def StoredEvent.size (e : StoredEvent) : Nat :=
  e.memoryContentHash.length + e.signerPubkey.length + e.signature.length

theorem readEventField_size (e : StoredEvent) (f : Field) (e' : StoredEvent)
    (h : readEventField e f = some e') : e'.size ≤ e.size + f.value.weight := by
  unfold readEventField at h
  split at h
  case h_9 =>
    -- a body, or a field that events do not have
    split at h
    · obtain ⟨body, -, rfl⟩ := Option.map_eq_some_iff.mp h
      exact Nat.le_add_right _ _
    split at h
    · cases h
    · obtain rfl := Option.some.inj h
      exact Nat.le_add_right _ _
  case h_10 =>
    split at h
    · cases h
    · obtain rfl := Option.some.inj h
      exact Nat.le_add_right _ _
  all_goals
    obtain rfl := Option.some.inj h
    dsimp only [StoredEvent.size, Value.weight]
    omega

theorem readAnchorField_size (a : StoredPolicyAnchor) (f : Field) (a' : StoredPolicyAnchor)
    (h : readAnchorField a f = some a') :
    a'.policyVersion.length ≤ a.policyVersion.length + f.value.weight := by
  unfold readAnchorField at h
  split at h
  case h_1 =>
    obtain rfl := Option.some.inj h
    exact Nat.le_add_left _ _
  case h_5 =>
    split at h
    · cases h
    · obtain rfl := Option.some.inj h
      exact Nat.le_add_right _ _
  all_goals
    obtain rfl := Option.some.inj h
    exact Nat.le_add_right _ _

theorem decodeEvent_text_size {v : Bytes} {e : StoredEvent} (h : decodeEvent (.text v) = some e)
    (hpos : 0 < e.size) : e.size < v.length :=
  lt_of_readInto_parse StoredEvent.size readEventField_size rfl h hpos

/-- The version that is read from a version is another one. -/
theorem decodeAnchor_text_ne {v : Bytes} {a : StoredPolicyAnchor}
    (h : decodeAnchor (.text v) = some a) (hv : v ≠ []) : a.policyVersion ≠ v := by
  intro heq
  have hpos : 0 < a.policyVersion.length := by
    rw [heq]
    exact List.length_pos_iff.mpr hv
  have hlt := lt_of_readInto_parse (fun a => a.policyVersion.length) readAnchorField_size rfl h hpos
  rw [heq] at hlt
  exact Nat.lt_irrefl _ hlt

end Sizes

end WeVibeChain.Serve
