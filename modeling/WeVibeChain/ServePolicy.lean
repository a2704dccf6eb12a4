import WeVibeChain.ServeTallies
import WeVibeChain.Shared.Tables

/-!
# x/serve: policy anchors

A policy version is anchored once. A second message for it is refused if it has
another hash and does nothing if it has the same one, so the anchor of a version is
that of its first message, and the pointer to the latest anchor moves only when a
version is new. The pointer has a key of its own that no version can take.
-/

set_option autoImplicit false

namespace WeVibeChain.Serve

open Bytes OrderedMap

section Anchoring
variable {crypto : Crypto} {scopeTagsOf : Bytes → Option (OrderedMap Bytes Bytes)}
  {authority : Bytes} {st : State}

/-- The anchor that a message asks for in a block. -/
def MsgAnchorPolicyVersion.anchor (m : MsgAnchorPolicyVersion) (blockHeight : Int64) :
    StoredPolicyAnchor where
  policyVersion := m.policyVersion
  policyHash := m.policyHash
  anchoredAtEpoch := 0
  anchoredAtHeight := blockHeight

def State.withAnchor (st : State) (a : StoredPolicyAnchor) : State :=
  { st with
    store := { st.store with
      policyAnchor := st.store.policyAnchor.set (policyAnchorKey a.policyVersion) a
      policyAnchorLatest := some a.policyVersion } }

/-- The states that an accepted message can lead to. -/
inductive Anchored (st : State) (a : StoredPolicyAnchor) : State → Prop where
  | again (existing : StoredPolicyAnchor)
      (found : getPolicyAnchor st.store a.policyVersion = some existing)
      (same : existing.policyHash = a.policyHash) : Anchored st a st
  | first (new : getPolicyAnchor st.store a.policyVersion = none) (named : a.policyVersion ≠ []) :
      Anchored st a (st.withAnchor a)

theorem anchorPolicyVersion_anchored {st' : State} {height : Int64} {m : MsgAnchorPolicyVersion}
    (h : anchorPolicyVersion authority st height m = .ok st') :
    Anchored st (m.anchor height) st' := by
  obtain ⟨hvalid, store, hstore, rfl⟩ := anchorPolicyVersion_ok h
  have hnamed : m.policyVersion ≠ [] := by
    unfold MsgAnchorPolicyVersion.validateBasic at hvalid
    split at hvalid
    · cases hvalid
    split at hvalid
    · cases hvalid
    · assumption
  unfold setPolicyAnchor at hstore
  split at hstore
  · rename_i existing hfound
    split at hstore
    · cases hstore
    rename_i hsame
    obtain rfl := Except.ok.inj hstore
    exact .again existing hfound (not_not.mp hsame)
  · rename_i hnew
    obtain rfl := Except.ok.inj hstore
    exact .first hnew hnamed

end Anchoring

section Runs
variable (crypto : Crypto) (scopeTagsOf : Bytes → Option (OrderedMap Bytes Bytes))
  (authority : Bytes)

/-- The anchor that an input asks for, if it is accepted. -/
def accepted (st : State) : Input → Option StoredPolicyAnchor
  | .msg (.anchorPolicyVersion height m) =>
    match anchorPolicyVersion authority st height m with
    | .error _ => none
    | .ok _ => some (m.anchor height)
  | _ => none

/-- The anchors that were asked for and accepted in a run, in order. -/
def anchorings (st : State) (inputs : List Input) : List StoredPolicyAnchor :=
  (((chain crypto scopeTagsOf authority).withOutput (accepted authority)).history st inputs).filterMap id

variable {crypto scopeTagsOf authority}

/-- What an input does to the anchors. -/
inductive Registered (st st' : State) : Option StoredPolicyAnchor → Prop where
  | other (anchors : st'.store.policyAnchor = st.store.policyAnchor)
      (latest : st'.store.policyAnchorLatest = st.store.policyAnchorLatest) : Registered st st' none
  | anchored (a : StoredPolicyAnchor) (anchored : Anchored st a st') : Registered st st' (some a)

theorem handle_anchors {st st' : State} {msg : Msg} {response : Response}
    (h : handle crypto scopeTagsOf authority st msg = .ok (st', response))
    (hanchor : ∀ height m, msg ≠ .anchorPolicyVersion height m) :
    (st'.store.policyAnchor, st'.store.policyAnchorLatest) =
      (st.store.policyAnchor, st.store.policyAnchorLatest) := by
  by_cases hevent : ∃ m, msg = .submitEventBatch m
  · obtain ⟨m, rfl⟩ := hevent
    obtain ⟨result, hbatch⟩ := Except.eq_ok_of_map_snd h
    obtain ⟨event, eventFingerprint, rfl⟩ := submitEventBatch_frame hbatch
    rfl
  · refine handle_frame (f := fun s => (s.policyAnchor, s.policyAnchorLatest)) ?_
      (fun _ _ _ _ _ _ => rfl) (fun _ _ => rfl) h (fun m hm => hevent ⟨m, hm⟩) hanchor
    intro s r
    obtain ⟨stats, hframe⟩ := acceptedStore_frame s r
    rw [hframe]

theorem registered_next (st : State) (input : Input) :
    Registered st ((chain crypto scopeTagsOf authority).next st input)
      (accepted authority st input) := by
  cases input with
  | otherModules org memory bandwidth reputation => exact .other rfl rfl
  | msg msg =>
    change Registered st (deliver crypto scopeTagsOf authority st msg).1 _
    unfold deliver
    by_cases hanchor : ∃ height m, msg = .anchorPolicyVersion height m
    · obtain ⟨height, m, rfl⟩ := hanchor
      simp only [handle, accepted]
      cases h : anchorPolicyVersion authority st height m with
      | error e => exact .other rfl rfl
      | ok st' => exact .anchored _ (anchorPolicyVersion_anchored h)
    · have hnone : accepted authority st (.msg msg) = none := by
        unfold accepted
        split
        · rename_i height m heq
          exact absurd ⟨height, m, Input.msg.inj heq⟩ hanchor
        · rfl
      rw [hnone]
      split
      · exact .other rfl rfl
      · rename_i st' response hhandle
        obtain ⟨hanchors, hlatest⟩ := Prod.mk.inj
          (handle_anchors hhandle fun height m hm => hanchor ⟨height, m, hm⟩)
        exact .other hanchors hlatest

/-- The anchors are those of the first message for each version, and the latest is the last of
these. -/
structure FirstAnchors (s : Store) (log : List StoredPolicyAnchor) : Prop where
  anchors : ∀ version, getPolicyAnchor s version = log.find? fun a => a.policyVersion = version
  latest : getLatestPolicyAnchor s =
    (firstSeen StoredPolicyAnchor.policyVersion [] log).getLast?

theorem policyAnchorKey_inj {v v' : Bytes} : policyAnchorKey v = policyAnchorKey v' ↔ v = v' := by
  simp [policyAnchorKey]

theorem getPolicyAnchor_withAnchor (st : State) (a : StoredPolicyAnchor) (version : Bytes) :
    getPolicyAnchor (st.withAnchor a).store version =
      if version = a.policyVersion then some a else getPolicyAnchor st.store version := by
  change (st.store.policyAnchor.set (policyAnchorKey a.policyVersion) a).get _ = _
  rw [get_set]
  simp only [policyAnchorKey_inj]
  rfl

theorem Anchored.firstAnchors {st st' : State} {a : StoredPolicyAnchor} (h : Anchored st a st')
    {log : List StoredPolicyAnchor} (hst : FirstAnchors st.store log) :
    FirstAnchors st'.store (log ++ [a]) := by
  have hseen : (∃ b ∈ log, b.policyVersion = a.policyVersion) ↔
      getPolicyAnchor st.store a.policyVersion ≠ none := by
    rw [hst.anchors, Ne, List.find?_eq_none]
    simp
  cases h with
  | again existing found same =>
    have hfound : log.find? (fun b => b.policyVersion = a.policyVersion) = some existing := by
      rw [← hst.anchors, found]
    have hold : ∃ b ∈ log, b.policyVersion = a.policyVersion := by
      rw [hseen, found]
      exact nofun
    constructor
    · intro version
      rw [hst.anchors, List.find?_append]
      by_cases hversion : a.policyVersion = version
      · rw [← hversion, hfound]
        rfl
      · simp [hversion]
    · rw [hst.latest, firstSeen_append_singleton, if_pos (Or.inr hold), List.append_nil]
  | first new named =>
    have hnew : ¬ (a.policyVersion ∈ ([] : List Bytes) ∨
        ∃ b ∈ log, b.policyVersion = a.policyVersion) := by
      rw [hseen, new]
      simp
    have hgets := getPolicyAnchor_withAnchor st a
    constructor
    · intro version
      rw [hgets, List.find?_append]
      by_cases hversion : version = a.policyVersion
      · rw [if_pos hversion, hversion, ← hst.anchors, new]
        simp
      · rw [if_neg hversion, hst.anchors]
        simp [Ne.symm hversion]
    · rw [firstSeen_append_singleton, if_neg hnew, List.getLast?_concat]
      have hlength : a.policyVersion.length ≠ 0 := by simpa using named
      change (if a.policyVersion.length = 0 then none
        else getPolicyAnchor (st.withAnchor a).store a.policyVersion) = some a
      rw [if_neg hlength, hgets, if_pos rfl]

theorem Registered.firstAnchors {st st' : State} {out : Option StoredPolicyAnchor}
    (h : Registered st st' out) {log : List StoredPolicyAnchor} (hst : FirstAnchors st.store log) :
    FirstAnchors st'.store (log ++ out.toList) := by
  cases h with
  | other anchors latest =>
    have hgets : ∀ version, getPolicyAnchor st'.store version = getPolicyAnchor st.store version := by
      intro version
      rw [getPolicyAnchor, anchors, getPolicyAnchor]
    rw [Option.toList_none, List.append_nil]
    constructor
    · intro version
      rw [hgets, hst.anchors]
    · rw [← hst.latest, getLatestPolicyAnchor, latest, getLatestPolicyAnchor]
      simp only [hgets]
  | anchored a anchored => exact anchored.firstAnchors hst

/-- What is anchored stays as it is. -/
theorem Registered.kept {st st' : State} {out : Option StoredPolicyAnchor}
    (h : Registered st st' out) {version : Bytes} {a : StoredPolicyAnchor}
    (ha : getPolicyAnchor st.store version = some a) :
    getPolicyAnchor st'.store version = some a := by
  cases h with
  | other anchors latest =>
    rw [getPolicyAnchor, anchors]
    exact ha
  | anchored b anchored =>
    cases anchored with
    | again existing found same => exact ha
    | first new named =>
      have hversion : version ≠ b.policyVersion := by
        rintro rfl
        rw [new] at ha
        cases ha
      rw [getPolicyAnchor_withAnchor, if_neg hversion]
      exact ha

variable (crypto scopeTagsOf authority) (org : Orgs.Store) (memory : Memory.Store)
  (bandwidth : Bandwidth.Store) (reputation : Reputation.Store) (inputs : List Input)

theorem firstAnchors_run :
    FirstAnchors
      ((chain crypto scopeTagsOf authority).run (emptyState org memory bandwidth reputation) inputs).store
      (anchorings crypto scopeTagsOf authority (emptyState org memory bandwidth reputation) inputs) := by
  induction inputs using List.reverseRecOn with
  | nil => exact ⟨fun _ => rfl, rfl⟩
  | append_singleton inputs input ih =>
    rw [Machine.run_append, anchorings, Machine.history_append, List.filterMap_append,
      Machine.run_withOutput]
    have hnext : ∀ st, Registered st ((chain crypto scopeTagsOf authority).next st input)
        (accepted authority st input) := fun st => registered_next st input
    exact (hnext _).firstAnchors ih

/-- A message for a version that is anchored. -/
theorem deliver_anchored_again {st : State} {height : Int64} {m : MsgAnchorPolicyVersion}
    {a : StoredPolicyAnchor} (ha : getPolicyAnchor st.store m.policyVersion = some a) :
    (deliver crypto scopeTagsOf authority st (.anchorPolicyVersion height m)).1 = st ∧
      (m.policyHash ≠ a.policyHash →
        ∃ e, deliver crypto scopeTagsOf authority st (.anchorPolicyVersion height m) =
          (st, .error e)) := by
  simp only [deliver, handle]
  cases h : anchorPolicyVersion authority st height m with
  | error e => exact ⟨rfl, fun _ => ⟨e, rfl⟩⟩
  | ok st' =>
    cases anchorPolicyVersion_anchored h with
    | again existing found same =>
      refine ⟨rfl, ?_⟩
      intro hne
      rw [MsgAnchorPolicyVersion.anchor, ha] at found
      exact absurd (Option.some.inj found ▸ same) (Ne.symm hne)
    | first new named =>
      rw [MsgAnchorPolicyVersion.anchor, ha] at new
      cases new

/-- In every run from an empty store: an anchor never changes; a message for a version that is
anchored changes nothing and fails if its hash is another; each anchor is that of the first accepted
message for its version; and the latest anchor is the one whose first message came last. -/
theorem policy_anchors_immutable :
    (∀ before after, inputs = before ++ after → ∀ version a,
      getPolicyAnchor ((chain crypto scopeTagsOf authority).run
          (emptyState org memory bandwidth reputation) before).store version = some a →
        getPolicyAnchor ((chain crypto scopeTagsOf authority).run
          (emptyState org memory bandwidth reputation) inputs).store version = some a) ∧
    (∀ height m a,
      getPolicyAnchor ((chain crypto scopeTagsOf authority).run
          (emptyState org memory bandwidth reputation) inputs).store m.policyVersion = some a →
        (deliver crypto scopeTagsOf authority ((chain crypto scopeTagsOf authority).run
            (emptyState org memory bandwidth reputation) inputs) (.anchorPolicyVersion height m)).1 =
          (chain crypto scopeTagsOf authority).run (emptyState org memory bandwidth reputation) inputs ∧
        (m.policyHash ≠ a.policyHash →
          ∃ e, deliver crypto scopeTagsOf authority ((chain crypto scopeTagsOf authority).run
              (emptyState org memory bandwidth reputation) inputs) (.anchorPolicyVersion height m) =
            ((chain crypto scopeTagsOf authority).run
              (emptyState org memory bandwidth reputation) inputs, .error e))) ∧
    (∀ version,
      getPolicyAnchor ((chain crypto scopeTagsOf authority).run
          (emptyState org memory bandwidth reputation) inputs).store version =
        (anchorings crypto scopeTagsOf authority (emptyState org memory bandwidth reputation)
          inputs).find? fun a => a.policyVersion = version) ∧
    getLatestPolicyAnchor ((chain crypto scopeTagsOf authority).run
        (emptyState org memory bandwidth reputation) inputs).store =
      (firstSeen StoredPolicyAnchor.policyVersion []
        (anchorings crypto scopeTagsOf authority (emptyState org memory bandwidth reputation)
          inputs)).getLast? ∧
    ∀ version, policyAnchorKey version ≠ ascii "policy_anchor_latest" := by
  have hfirst := firstAnchors_run crypto scopeTagsOf authority org memory bandwidth reputation inputs
  refine ⟨?_, ?_, hfirst.anchors, hfirst.latest, ?_⟩
  · rintro before after rfl version a ha
    rw [Machine.run_append]
    exact (chain crypto scopeTagsOf authority).run_always
      (I := fun st => getPolicyAnchor st.store version = some a)
      (fun st input hst => (registered_next st input).kept hst) ha after
  · intro height m a ha
    exact deliver_anchored_again crypto scopeTagsOf authority ha
  · -- the separator of the versions and the underscore of the pointer differ
    intro version heq
    have hbyte := congrArg (fun key => key[13]?) heq
    simp [policyAnchorKey, ascii] at hbyte

end Runs

end WeVibeChain.Serve
