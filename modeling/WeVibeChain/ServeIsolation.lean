import WeVibeChain.ServeViews

/-!
# x/serve: what one org's batches do to another's

Two runs that differ in the serve batches of other orgs look the same to an org
as long as none of those batches holds a fingerprint the org's own messages look
up. Where one does, the org's serve can be a duplicate in one run and accepted in
the other.
-/

set_option autoImplicit false

namespace WeVibeChain.Serve

open Bytes

section Runs
variable {crypto : Crypto} {scopeTagsOf : Bytes → Option (OrderedMap Bytes Bytes)}
  {authority : Bytes} {orgID : Bytes} {looked denied : Set Bytes} {st st' : State}

/-- The org's messages look up only what is in the two sets, and no batch of another org writes
anything there. -/
def Apart (crypto : Crypto) (orgID : Bytes) (looked denied : Set Bytes) : Msg → Prop
  | .submitServeBatch m => ∀ serve ∈ m.serves,
      (serveReceipt crypto m.orgId m.epoch serve).fingerprint ∈ looked ↔ m.orgId = orgID
  | .submitDenialBatch m => ∀ entry ∈ m.entries,
      (m.orgId = orgID → entry.serveFingerprint ∈ looked) ∧
        (computeDenialFingerprint crypto.sha256 m.orgId entry.memoryHash m.epoch
          entry.serveKeyPubkey entry.serveFingerprint ∈ denied ↔ m.orgId = orgID)
  | _ => True

/-- The messages that change nothing the org can see. -/
def Elsewhere (orgID : Bytes) : Msg → Prop
  | .submitServeBatch m => m.orgId ≠ orgID
  | .submitDenialBatch m => m.orgId ≠ orgID
  | .submitEventBatch _ => True
  | .anchorPolicyVersion _ _ => True
  | .updateParams _ => False

/-- A message elsewhere in one of the runs. -/
theorem Agree.deliver_elsewhere (h : Agree scopeTagsOf orgID looked denied st st') {msg : Msg}
    (hapart : Apart crypto orgID looked denied msg) (helsewhere : Elsewhere orgID msg) :
    Agree scopeTagsOf orgID looked denied (deliver crypto scopeTagsOf authority st msg).1 st' := by
  obtain ⟨-, hmemory, horg⟩ := deliver_changes crypto scopeTagsOf authority st msg
  refine ⟨?_, ?_, ?_, ?_⟩
  · refine deliver_invariant (I := fun s => StoresAgree orgID looked denied s st'.store) ?_ h.store
    intro s s' _ hs hchange
    cases hchange with
    | accept m serve hmsg hserve hok =>
      subst hmsg
      have hother : (serveReceipt crypto m.orgId m.epoch serve).orgID ≠ orgID := helsewhere
      apply hs.accept_other hother rfl _ hok.fresh
      intro hlooked
      exact helsewhere ((hapart serve hserve).mp hlooked)
    | deny m entry receipt hmsg hentry hok =>
      subst hmsg
      apply hs.deny_other helsewhere
      intro hdenied
      exact helsewhere ((hapart entry hentry).2.mp hdenied)
    | other _ hsame hparams =>
      rcases hparams with hparams | ⟨m, rfl, -⟩
      · exact hs.congr hsame hparams
      · exact helsewhere.elim
  · rw [horg]
    exact h.org
  · rw [hmemory]
    exact h.memory
  · rcases deliver_bandwidth crypto scopeTagsOf authority st msg with hsame | ⟨m, rfl, hconsume⟩
    · rw [hsame]
      exact h.bandwidth
    · exact h.bandwidth.consume_other helsewhere hconsume

/-- Any other message is answered alike in the two runs. -/
theorem handle_agree (h : Agree scopeTagsOf orgID looked denied st st') {msg : Msg}
    (hapart : Apart crypto orgID looked denied msg) (hhere : ¬ Elsewhere orgID msg) :
    SameAnswer (Agree scopeTagsOf orgID looked denied)
      (handle crypto scopeTagsOf authority st msg) (handle crypto scopeTagsOf authority st' msg) := by
  cases msg with
  | submitServeBatch m =>
    have horg : m.orgId = orgID := not_not.mp hhere
    exact (submitServeBatch_agree h horg fun serve hserve => (hapart serve hserve).mpr horg).map _
  | submitDenialBatch m =>
    have horg : m.orgId = orgID := not_not.mp hhere
    exact (submitDenialBatch_agree h horg fun entry hentry =>
      ⟨(hapart entry hentry).1 horg, (hapart entry hentry).2.mpr horg⟩).map _
  | submitEventBatch m => exact absurd trivial hhere
  | anchorPolicyVersion height m => exact absurd trivial hhere
  | updateParams m => exact updateParams_agree h authority m

variable (authority) in
theorem Agree.deliver_here (h : Agree scopeTagsOf orgID looked denied st st') {msg : Msg}
    (hapart : Apart crypto orgID looked denied msg) (hhere : ¬ Elsewhere orgID msg) :
    Agree scopeTagsOf orgID looked denied (deliver crypto scopeTagsOf authority st msg).1
        (deliver crypto scopeTagsOf authority st' msg).1 ∧
      (deliver crypto scopeTagsOf authority st' msg).2 =
        (deliver crypto scopeTagsOf authority st msg).2 := by
  have hanswer : SameAnswer (Agree scopeTagsOf orgID looked denied)
    (handle crypto scopeTagsOf authority st msg)
    (handle crypto scopeTagsOf authority st' msg) := handle_agree h hapart hhere
  unfold deliver
  generalize handle crypto scopeTagsOf authority st msg = x at hanswer ⊢
  generalize handle crypto scopeTagsOf authority st' msg = x' at hanswer ⊢
  cases hanswer with
  | error e => exact ⟨h, rfl⟩
  | ok response hst => exact ⟨hst, rfl⟩

/-- The same message in both runs; between messages the other modules hold the same for the
org. -/
def SameInput (scopeTagsOf : Bytes → Option (OrderedMap Bytes Bytes)) (orgID : Bytes) :
    Input → Input → Prop
  | .msg msg, .msg msg' => msg' = msg
  | .otherModules org memory bandwidth _, .otherModules org' memory' bandwidth' _ =>
    org' = org ∧ MemoryAgrees scopeTagsOf orgID memory memory' ∧
      Bandwidth.SameFor orgID bandwidth bandwidth'
  | _, _ => False

/-- A serve batch of another org. -/
def OtherServes (orgID : Bytes) : Input → Prop
  | .msg (.submitServeBatch m) => m.orgId ≠ orgID
  | _ => False

/-- A serve batch of the org. -/
def ownServes (orgID : Bytes) : Input → Bool
  | .msg (.submitServeBatch m) => m.orgId = orgID
  | _ => false

def InputApart (crypto : Crypto) (orgID : Bytes) (looked denied : Set Bytes) : Input → Prop
  | .msg msg => Apart crypto orgID looked denied msg
  | .otherModules _ _ _ _ => True

theorem agree_step {a a' : Input} (h : Agree scopeTagsOf orgID looked denied st st')
    (hapart : InputApart crypto orgID looked denied a) (hsame : SameInput scopeTagsOf orgID a a') :
    Agree scopeTagsOf orgID looked denied ((chain crypto scopeTagsOf authority).next st a)
        ((chain crypto scopeTagsOf authority).next st' a') ∧
      ownServes orgID a' = ownServes orgID a ∧
      (ownServes orgID a = true → (chain crypto scopeTagsOf authority).output st' a' =
        (chain crypto scopeTagsOf authority).output st a) := by
  cases a with
  | msg msg =>
    cases a' with
    | otherModules => exact hsame.elim
    | msg msg' =>
      obtain rfl : msg' = msg := hsame
      by_cases helsewhere : Elsewhere orgID msg'
      · refine ⟨?_, rfl, ?_⟩
        · exact ((h.deliver_elsewhere hapart helsewhere).symm.deliver_elsewhere hapart
            helsewhere).symm
        · intro hown
          cases msg' with
          | submitServeBatch m => exact absurd (of_decide_eq_true hown) helsewhere
          | submitDenialBatch m => cases hown
          | submitEventBatch m => cases hown
          | anchorPolicyVersion height m => cases hown
          | updateParams m => cases hown
      · obtain ⟨hnext, hresponse⟩ := h.deliver_here authority hapart helsewhere
        exact ⟨hnext, rfl, fun _ => congrArg some hresponse⟩
  | otherModules org memory bandwidth reputation =>
    cases a' with
    | msg msg' => exact hsame.elim
    | otherModules org' memory' bandwidth' reputation' =>
      obtain ⟨horg, hmemory, hbandwidth⟩ := hsame
      exact ⟨⟨h.store, horg, hmemory, hbandwidth⟩, rfl, fun hown => by cases hown⟩

theorem agree_skip {a : Input} (h : Agree scopeTagsOf orgID looked denied st st')
    (hapart : InputApart crypto orgID looked denied a) (hother : OtherServes orgID a) :
    Agree scopeTagsOf orgID looked denied ((chain crypto scopeTagsOf authority).next st a) st' ∧
      ownServes orgID a = false := by
  cases a with
  | otherModules => exact hother.elim
  | msg msg =>
    cases msg with
    | submitServeBatch m =>
      have helsewhere : Elsewhere orgID (.submitServeBatch m) := hother
      exact ⟨h.deliver_elsewhere hapart helsewhere, decide_eq_false hother⟩
    | submitDenialBatch m => exact hother.elim
    | submitEventBatch m => exact hother.elim
    | anchorPolicyVersion height m => exact hother.elim
    | updateParams m => exact hother.elim

end Runs

section Isolation
variable (crypto : Crypto) (scopeTagsOf : Bytes → Option (OrderedMap Bytes Bytes))
  (authority : Bytes)

/-- The org a batch is for. -/
def Msg.batchOrg : Msg → Option Bytes
  | .submitServeBatch m => some m.orgId
  | .submitDenialBatch m => some m.orgId
  | .submitEventBatch m => some m.orgId
  | _ => none

/-- The fingerprints of the serves in a batch. -/
def Msg.serveFingerprints : Msg → List Bytes
  | .submitServeBatch m =>
    m.serves.map fun serve => (serveReceipt crypto m.orgId m.epoch serve).fingerprint
  | _ => []

/-- The serve fingerprints a batch looks up: those of its serves, or those its denials name. -/
def Msg.lookups : Msg → List Bytes
  | .submitDenialBatch m => m.entries.map DenialEntry.serveFingerprint
  | msg => msg.serveFingerprints crypto

def Msg.denialFingerprints : Msg → List Bytes
  | .submitDenialBatch m => m.entries.map fun entry =>
      computeDenialFingerprint crypto.sha256 m.orgId entry.memoryHash m.epoch entry.serveKeyPubkey
        entry.serveFingerprint
  | _ => []

/-- No serve in a batch of another org has a fingerprint that a batch of the org looks up, and no
denial of another org has the denial fingerprint of a denial of the org. -/
def Separate (orgID : Bytes) (inputs : List Input) : Prop :=
  ∀ own other, .msg own ∈ inputs → .msg other ∈ inputs → own.batchOrg = some orgID →
    other.batchOrg ≠ some orgID →
      (∀ fp ∈ own.lookups crypto, fp ∉ other.serveFingerprints crypto) ∧
        ∀ fp ∈ own.denialFingerprints crypto, fp ∉ other.denialFingerprints crypto

variable {crypto} in
theorem inputApart_of_separate {orgID : Bytes} {inputs : List Input}
    (h : Separate crypto orgID inputs) {input : Input} (hinput : input ∈ inputs) :
    InputApart crypto orgID
      {fp | ∃ own, .msg own ∈ inputs ∧ own.batchOrg = some orgID ∧ fp ∈ own.lookups crypto}
      {fp | ∃ own, .msg own ∈ inputs ∧ own.batchOrg = some orgID ∧
        fp ∈ own.denialFingerprints crypto} input := by
  cases input with
  | otherModules => trivial
  | msg msg =>
    cases msg with
    | submitServeBatch m =>
      intro serve hserve
      have hfp : (serveReceipt crypto m.orgId m.epoch serve).fingerprint ∈
          Msg.serveFingerprints crypto (.submitServeBatch m) := List.mem_map.mpr ⟨serve, hserve, rfl⟩
      constructor
      · intro hall
        obtain ⟨own, hown, horg, hlooked⟩ := hall
        by_contra hother
        have hnotOrg : (Msg.submitServeBatch m).batchOrg ≠ some orgID :=
          fun hsame => hother (Option.some.inj hsame)
        exact (h own _ hown hinput horg hnotOrg).1 _ hlooked hfp
      · intro heq
        subst heq
        exact ⟨_, hinput, rfl, hfp⟩
    | submitDenialBatch m =>
      intro entry hentry
      refine ⟨?_, ?_, ?_⟩
      · intro heq
        subst heq
        exact ⟨_, hinput, rfl, List.mem_map.mpr ⟨entry, hentry, rfl⟩⟩
      · intro hall
        obtain ⟨own, hown, horg, hdenied⟩ := hall
        by_contra hother
        have hnotOrg : (Msg.submitDenialBatch m).batchOrg ≠ some orgID :=
          fun hsame => hother (Option.some.inj hsame)
        exact (h own _ hown hinput horg hnotOrg).2 _ hdenied (List.mem_map.mpr ⟨entry, hentry, rfl⟩)
      · intro heq
        subst heq
        exact ⟨_, hinput, rfl, List.mem_map.mpr ⟨entry, hentry, rfl⟩⟩
    | submitEventBatch m => trivial
    | anchorPolicyVersion height m => trivial
    | updateParams m => trivial

/-- The two stores hold the same receipts, statistics and memory counts of the org. -/
structure SameForOrg (orgID : Bytes) (s s' : Store) : Prop where
  receipts : ∀ epoch fp, s'.receipt.get (receiptKey orgID epoch fp) =
    s.receipt.get (receiptKey orgID epoch fp)
  stats : ∀ epoch, getEpochServeStats s' orgID epoch = getEpochServeStats s orgID epoch
  memCount : ∀ hash epoch, getMemoryServeCount s' orgID hash epoch =
    getMemoryServeCount s orgID hash epoch

/-- Two runs from one state that differ in the serve batches of other orgs answer every serve
batch of the org alike and leave it with the same records, provided that the other orgs' batches
are separate from the org's. -/
theorem org_results_independent (orgID : Bytes) {st : State} (hst : Pointers st.store)
    {inputs inputs' : List Input}
    (haligned : Machine.Aligned (SameInput scopeTagsOf orgID) (OtherServes orgID) inputs inputs')
    (hseparate : Separate crypto orgID (inputs ++ inputs')) :
    (chain crypto scopeTagsOf authority).observed (ownServes orgID) st inputs' =
        (chain crypto scopeTagsOf authority).observed (ownServes orgID) st inputs ∧
      SameForOrg orgID ((chain crypto scopeTagsOf authority).run st inputs).store
        ((chain crypto scopeTagsOf authority).run st inputs').store := by
  have hruns := (chain crypto scopeTagsOf authority).aligned_runs (ownServes orgID)
    (fun _ _ h => h.symm)
    (fun _ _ _ _ h hapart _ hsame => agree_step h hapart hsame)
    (fun _ _ _ h hapart hother => agree_skip h hapart hother) haligned
    (fun input hinput => inputApart_of_separate hseparate (List.mem_append_left _ hinput))
    (fun input hinput => inputApart_of_separate hseparate (List.mem_append_right _ hinput))
    (Agree.refl hst)
  obtain ⟨hagree, hobserved⟩ := hruns
  refine ⟨hobserved, ?_, hagree.store.stats, hagree.store.memCount⟩
  intro epoch fp
  exact hagree.store.receipt orgID epoch fp (Or.inl rfl)

end Isolation

section Sample

/-- Org `b` reports a serve of the memory by the key in epoch 1. -/
def sampleBatchB : MsgSubmitServeBatch where
  signer := ascii "sb"
  orgId := ascii "b"
  epoch := 1
  serves := [{ sampleServe with serveSig := sampleSignatureB }]

/-- Org `a` reports a serve of the memory by the key in epoch 2. -/
def sampleBatch2 : MsgSubmitServeBatch where
  signer := ascii "sa"
  orgId := ascii "a"
  epoch := 2
  serves := [{ sampleServe with serveSig := sampleSignature2 }]

/-- What the serve batches of org `b` are answered. -/
def answersB (inputs : List Input) : List (Option Response) :=
  ((chain sampleCrypto (fun _ => none) []).observed (ownServes (ascii "b")) sampleState inputs).map
    fun answer => answer.bind Except.toOption

theorem sample_results_independent :
    answersB [.msg (.submitServeBatch sampleBatchB)] = [some (.serveBatch { accepted := 1 })] ∧
      (chain sampleCrypto (fun _ => none) []).observed (ownServes (ascii "b")) sampleState
          [.msg (.submitServeBatch sampleBatchB)] =
        (chain sampleCrypto (fun _ => none) []).observed (ownServes (ascii "b")) sampleState
          [.msg (.submitServeBatch sampleBatch2), .msg (.submitServeBatch sampleBatchB)] := by
  have haligned : Machine.Aligned (SameInput (fun _ => none) (ascii "b")) (OtherServes (ascii "b"))
      [.msg (.submitServeBatch sampleBatch2), .msg (.submitServeBatch sampleBatchB)]
      [.msg (.submitServeBatch sampleBatchB)] :=
    .left (by decide : ascii "a" ≠ ascii "b") (.both rfl .nil)
  have hseparate : Separate sampleCrypto (ascii "b")
      ([.msg (.submitServeBatch sampleBatch2), .msg (.submitServeBatch sampleBatchB)] ++
        [.msg (.submitServeBatch sampleBatchB)]) := by
    intro own other hown hother horg hnotOrg
    simp only [List.cons_append, List.nil_append, List.mem_cons, List.not_mem_nil, or_false,
      Input.msg.injEq, or_self] at hown hother
    rcases hown with rfl | rfl
    · exact absurd horg (by decide)
    rcases hother with rfl | rfl
    · exact ⟨by decide +kernel, by decide +kernel⟩
    · exact absurd rfl hnotOrg
  exact ⟨by decide +kernel, (org_results_independent sampleCrypto (fun _ => none) [] (ascii "b")
    consistent_empty.pointers haligned hseparate).1⟩

/-- Org `a` reports the serve first, and the serve of org `b` is a duplicate. -/
theorem other_org_makes_duplicate :
    Machine.Aligned (SameInput (fun _ => none) (ascii "b")) (OtherServes (ascii "b"))
        [.msg (.submitServeBatch sampleBatch), .msg (.submitServeBatch sampleBatchB)]
        [.msg (.submitServeBatch sampleBatchB)] ∧
      answersB [.msg (.submitServeBatch sampleBatchB)] = [some (.serveBatch { accepted := 1 })] ∧
      answersB [.msg (.submitServeBatch sampleBatch), .msg (.submitServeBatch sampleBatchB)] =
        [some (.serveBatch { rejectedDuplicate := 1 })] :=
  ⟨.left (by decide : ascii "a" ≠ ascii "b") (.both rfl .nil), by decide +kernel,
    by decide +kernel⟩

end Sample

end WeVibeChain.Serve
