import WeVibeChain.Application

/-!
# Who can change what belongs to an org

An org's record, roster and configuration and its memories change under messages
of its leader wallet, and its serve entries under batches of its serving address.
The serving address is the one that the last accepted registration or rotation
set, so an address that has been rotated out can do nothing any more.
-/

set_option autoImplicit false

namespace WeVibeChain.Application

open Bytes

def Msg.signer : Msg → Bytes
  | .org msg => msg.signer
  | .memory msg => msg.signer
  | .serve msg => msg.signer
  | .bandwidth msg => msg.signer

section Owners
variable {β γ : Type}

def Registered (st : State β γ) (orgID : Bytes) : Prop :=
  ∃ record, st.org.org.get (Orgs.orgKey orgID) = some record

/-- The address is the leader wallet of the org. -/
def LeaderOf (st : State β γ) (orgID address : Bytes) : Prop :=
  ∃ record, Orgs.Leads st.org orgID address record

/-- The address is the serving address of the org. -/
def ServingOf (st : State β γ) (orgID address : Bytes) : Prop :=
  ∃ record, st.org.org.get (Orgs.orgKey orgID) = some record ∧ address = record.hubServingAddress

/-- The org's record, roster, configuration, pending commitments, approved memories and reports
are the same in both states. -/
structure Unchanged (orgID : Bytes) (st st' : State β γ) : Prop where
  org : Orgs.SameOrg orgID st.org st'.org
  memory : Memory.SameEntries orgID st.memory st'.memory

theorem Unchanged.refl (orgID : Bytes) (st : State β γ) : Unchanged orgID st st :=
  ⟨⟨rfl, rfl, rfl⟩, .refl orgID st.memory⟩

/-- The serving address that the message gives the org, if it is accepted with this result. -/
def servingSet (orgID : Bytes) : Option (Msg × Except Error Response) → Option Bytes
  | some (.org (.registerOrg msg), .ok (.org (.registered registered))) =>
    if registered = orgID then some msg.hubServingKey else none
  | some (.org (.setServingKey msg), .ok _) =>
    if msg.orgId = orgID then some msg.newServingKey else none
  | _ => none

/-- The serving address that was set last. -/
def latestServing (orgID : Bytes) (log : List (Option (Msg × Except Error Response))) :
    Option Bytes :=
  log.reverse.findSome? (servingSet orgID)

theorem latestServing_append (orgID : Bytes) (log : List (Option (Msg × Except Error Response)))
    (entry : Option (Msg × Except Error Response)) :
    latestServing orgID (log ++ [entry]) =
      (servingSet orgID entry).or (latestServing orgID log) := by
  unfold latestServing
  rw [List.reverse_append, List.reverse_singleton, List.singleton_append, List.findSome?_cons]
  cases servingSet orgID entry with
  | none => rfl
  | some address => rfl

end Owners

section Leaders
variable {β γ : Type} {env : Env β γ} {st st' : State β γ} {msg : Msg} {response : Response}
  {orgID : Bytes}

theorem memory_changed_by_leader {msg : Memory.Msg} (hs : Orgs.Governed st.org)
    (h : handle env st (.memory msg) = .ok (st', response)) (hslash : slash ∉ orgID)
    (hchanged : ¬ Unchanged orgID st st') : LeaderOf st orgID msg.signer := by
  obtain ⟨memory, hok, hmemory, horg, -⟩ := handle_memory h
  by_contra hleader
  -- The message is for another org, or for none.
  have hother : ∀ o validated, msg.request = some (o, validated) → o ≠ orgID ∧ slash ∉ o := by
    intro o validated hrequest
    obtain ⟨-, hwallet, -⟩ := Memory.handle_request hok hrequest
    obtain ⟨record, hrecord, hsigned⟩ := Memory.requireLeaderWallet_ok hwallet
    refine ⟨?_, hs.registry.slash_notMem (Orgs.view_of_get hrecord)⟩
    rintro rfl
    exact hleader ⟨record, hrecord, hsigned⟩
  refine hchanged ⟨?_, hmemory ▸ Memory.handle_sameEntries hok hslash hother⟩
  rw [horg]
  cases hrequest : msg.request with
  | none => exact Memory.handle_org hok hrequest ▸ ⟨rfl, rfl, rfl⟩
  | some request =>
    obtain ⟨hne, hfree⟩ := hother _ _ hrequest
    obtain ⟨-, -, hsame | hcounters⟩ := Memory.handle_request hok hrequest
    · exact hsame ▸ ⟨rfl, rfl, rfl⟩
    · exact hcounters.confined.sameOrg hfree hslash hne.symm

/-- What is an org's in x/org and x/memory changes under its leader wallet, or when the org is
registered. -/
theorem changed_by_leader (hs : Orgs.Governed st.org)
    (h : handle env st msg = .ok (st', response)) (horg : Registered st' orgID)
    (hchanged : ¬ Unchanged orgID st st') :
    LeaderOf st orgID msg.signer ∨
      ¬ Registered st orgID ∧ ∃ register, msg = .org (.registerOrg register) := by
  have hs' : Orgs.Governed st'.org := hs.kept (handle_evolution h)
  obtain ⟨record', hrecord'⟩ := horg
  have hslash : slash ∉ orgID := hs'.registry.slash_notMem (Orgs.view_of_get hrecord')
  cases msg with
  | org msg =>
    obtain ⟨orgResponse, -, hstored, hmemory, -⟩ := handle_org h
    have hdiffers : ¬ Orgs.SameOrg orgID st.org st'.org :=
      fun hsame => hchanged ⟨hsame, hmemory ▸ .refl orgID st.memory⟩
    rcases hstored.changed_by_leader hs.registry hslash hdiffers with
      hleader | ⟨hnone, register, rfl⟩
    · exact Or.inl hleader
    · refine Or.inr ⟨?_, register, rfl⟩
      rintro ⟨record, hrecord⟩
      rw [hnone] at hrecord
      cases hrecord
  | memory msg => exact Or.inl (memory_changed_by_leader hs h hslash hchanged)
  | serve msg =>
    obtain ⟨serve, serveResponse, -, -, horg, hmemory⟩ := handle_serve h
    exact absurd ⟨horg ▸ ⟨rfl, rfl, rfl⟩, hmemory ▸ .refl orgID st.memory⟩ hchanged
  | bandwidth msg =>
    obtain ⟨bandwidth, rfl⟩ := handle_bandwidth h
    exact absurd ⟨⟨rfl, rfl, rfl⟩, .refl orgID st.memory⟩ hchanged

/-- An org's receipts, denials and events change under its serving address. -/
theorem entries_by_serving (h : handle env st msg = .ok (st', response))
    (hchanged : ¬ Serve.SameEntries orgID st.serve st'.serve) : ServingOf st orgID msg.signer := by
  cases msg with
  | org msg =>
    obtain ⟨-, -, -, -, hserve⟩ := handle_org h
    exact absurd (hserve ▸ .refl orgID st.serve) hchanged
  | memory msg =>
    obtain ⟨-, -, -, -, hserve⟩ := handle_memory h
    exact absurd (hserve ▸ .refl orgID st.serve) hchanged
  | bandwidth msg =>
    obtain ⟨bandwidth, rfl⟩ := handle_bandwidth h
    exact absurd (.refl orgID st.serve) hchanged
  | serve msg =>
    obtain ⟨serve, serveResponse, hok, hserve, -⟩ := handle_serve h
    rw [hserve] at hchanged
    by_contra hnot
    refine hchanged (Serve.handle_sameEntries hok ?_)
    rintro o validated hbatch rfl
    obtain ⟨-, hsigner⟩ := Serve.handle_batch hok hbatch
    obtain ⟨record, hrecord, -, haddress⟩ := Serve.requireServingKeySigner_ok hsigner
    exact hnot ⟨record, hrecord, haddress⟩

end Leaders

section Rotation
variable {β γ : Type} {env : Env β γ} {ext : Orgs.Externals β γ} {authority orgID : Bytes}
  {s s' : Orgs.Store}

def servingAddress (s : Orgs.Store) (orgID : Bytes) : Option Bytes :=
  (s.org.get (Orgs.orgKey orgID)).map Orgs.StoredOrg.hubServingAddress

theorem servingAddress_of_confined {other : Bytes} (h : Orgs.Confined other s s')
    (hne : orgID ≠ other) : servingAddress s' orgID = servingAddress s orgID := by
  rw [servingAddress, servingAddress, h.org _ (by simpa using hne)]

theorem servingAddress_counters {other : Bytes} (h : Orgs.CountersChanged other s s') :
    servingAddress s' orgID = servingAddress s orgID := by
  by_cases hne : orgID = other
  · subst hne
    obtain ⟨record, committed, upheld, activity, hget, rfl⟩ := h
    simp only [servingAddress, OrderedMap.get_set_self, hget, Option.map_some]
  · exact servingAddress_of_confined h.confined hne

theorem apply_serving {msg : Orgs.Msg} (v : Orgs.View)
    (hid : msg.orgID = some orgID) (response : Orgs.Response) :
    some (msg.apply v).record.hubServingAddress =
      (servingSet orgID (some (.org msg, .ok (.org response)))).or
        (some v.record.hubServingAddress) := by
  cases msg with
  | registerOrg | updateParams => cases hid
  | setServingKey msg =>
    obtain rfl := Option.some.inj hid
    simp [servingSet, Orgs.Msg.apply]
  | setMemberCapabilities msg =>
    rw [Orgs.apply_setMemberCapabilities_record]
    rfl
  | _ => rfl

theorem servingSet_of_ne {msg : Orgs.Msg} {response : Orgs.Response}
    (hid : msg.orgID ≠ some orgID) (hnew : response ≠ .registered orgID) :
    servingSet orgID (some (.org msg, .ok (.org response))) = none := by
  cases msg with
  | registerOrg msg =>
    cases response with
    | empty => rfl
    | registered registered =>
      have hne : registered ≠ orgID := by
        rintro rfl
        exact hnew rfl
      simp [servingSet, hne]
  | setServingKey msg =>
    have hne : msg.orgId ≠ orgID := by
      rintro rfl
      exact hid rfl
    simp [servingSet, hne]
  | _ => rfl

theorem servingAddress_stored {msg : Orgs.Msg} {response : Orgs.Response}
    (h : Orgs.Stored ext authority s msg response s') (orgID : Bytes) :
    servingAddress s' orgID =
      (servingSet orgID (some (.org msg, .ok (.org response)))).or (servingAddress s orgID) := by
  cases hid : msg.orgID with
  | some target =>
    by_cases htarget : orgID = target
    · subst htarget
      obtain ⟨v, hv, -, -, hv'⟩ := h.view_target hid
      rw [servingAddress, servingAddress, (Orgs.get_of_view hv).1, (Orgs.get_of_view hv').1]
      exact apply_serving v hid response
    · rw [servingAddress_of_confined (h.confined hid) htarget, servingSet_of_ne, Option.none_or]
      · rw [hid]
        exact fun heq => htarget (Option.some.inj heq).symm
      · rw [(h.registry_kept hid).2.2]
        exact nofun
  | none =>
    cases h with
    | registerOrg msg _ _ _ _ =>
      by_cases hnew : orgID = Orgs.formatOrgID (Orgs.getNextSlot s)
      · subst hnew
        rw [servingAddress, servingSet, if_pos rfl]
        exact congrArg _ (OrderedMap.get_set_self _ _ _)
      · rw [servingAddress_of_confined (Orgs.registeredStore_confined s _) hnew, servingSet,
          if_neg (Ne.symm hnew), Option.none_or]
    | updateParams msg => rfl
    | _ => cases hid

/-- The record of an org has the serving address that was set last. -/
theorem servingAddress_next (st : State β γ) (log : List (Option (Msg × Except Error Response)))
    (input : Input β γ) (h : ∀ orgID, servingAddress st.org orgID = latestServing orgID log)
    (orgID : Bytes) :
    servingAddress ((chain env).next st input).org orgID =
      latestServing orgID (log ++ [(chain env).output st input]) := by
  rw [latestServing_append, ← h orgID]
  cases input with
  | epochEnd n => rfl
  | others bandwidth reputation bank feegrant => rfl
  | msg msg =>
    have hnext : (chain env).next st (.msg msg) = (deliver env st msg).1 := rfl
    have houtput : (chain env).output st (.msg msg) = some (msg, (deliver env st msg).2) := rfl
    rw [hnext, houtput]
    rcases deliver_cases env st msg with ⟨e, he⟩ | ⟨response, hresult, hok⟩
    · rw [he]
      cases msg with
      | org msg => cases msg <;> rfl
      | _ => rfl
    · rw [hresult]
      cases msg with
      | org msg =>
        obtain ⟨orgResponse, rfl, hstored, -⟩ := handle_org hok
        exact servingAddress_stored hstored orgID
      | memory msg =>
        change servingAddress (deliver env st (.memory msg)).1.org orgID = _
        rcases handle_memory_org hok with hsame | ⟨other, hcounters⟩
        · rw [hsame]
          rfl
        · exact servingAddress_counters hcounters
      | serve msg =>
        obtain ⟨serve, serveResponse, -, -, horg, -⟩ := handle_serve hok
        change servingAddress (deliver env st (.serve msg)).1.org orgID = _
        rw [horg]
        rfl
      | bandwidth msg =>
        obtain ⟨bandwidth, hst⟩ := handle_bandwidth hok
        change servingAddress (deliver env st (.bandwidth msg)).1.org orgID = _
        rw [hst]
        rfl

end Rotation

section Confinement
variable {β γ : Type}

theorem authority_confined (env : Env β γ) (params : Option Orgs.Params) (start : State β γ)
    (inputs : List (Input β γ)) (msg : Msg) (orgID : Bytes) :
    let first := { start with org := { params := params } }
    let st := (chain env).run first inputs
    let log := (chain env).history first inputs
    let st' := (deliver env st msg).1
    (servingAddress st.org orgID = latestServing orgID log) ∧
    (Registered st' orgID → ¬ Unchanged orgID st st' →
      LeaderOf st orgID msg.signer ∨
        ¬ Registered st orgID ∧ ∃ register, msg = .org (.registerOrg register)) ∧
    (¬ Serve.SameEntries orgID st.serve st'.serve →
      latestServing orgID log = some msg.signer) ∧
    (Registered st orgID → ServingOf st orgID msg.signer → ¬ LeaderOf st orgID msg.signer →
      Unchanged orgID st st') ∧
    (∀ address, latestServing orgID log = some address → msg.signer ≠ address →
      Serve.SameEntries orgID st.serve st'.serve) := by
  intro first st log st'
  have hgoverned : Orgs.Governed st.org := governed_run env params start inputs
  have hserving : ∀ orgID, servingAddress st.org orgID = latestServing orgID log := by
    refine @Machine.run_history_invariant _ _ _ (chain env) (fun _ _ => True)
      (fun st log => ∀ orgID, servingAddress st.org orgID = latestServing orgID log)
      ?_ first [] inputs (fun _ => rfl) ((chain env).along_true first _)
    intro t log input ht _
    exact servingAddress_next t log input ht
  have hchanged : Registered st' orgID → ¬ Unchanged orgID st st' →
      LeaderOf st orgID msg.signer ∨
        ¬ Registered st orgID ∧ ∃ register, msg = .org (.registerOrg register) := by
    intro horg hdiffers
    rcases deliver_cases env st msg with ⟨e, he⟩ | ⟨response, -, hok⟩
    · have hsame : st' = st := congrArg Prod.fst he
      exact absurd (hsame ▸ .refl orgID st) hdiffers
    · exact changed_by_leader hgoverned hok horg hdiffers
  have hentries : ¬ Serve.SameEntries orgID st.serve st'.serve →
      latestServing orgID log = some msg.signer := by
    intro hdiffers
    rcases deliver_cases env st msg with ⟨e, he⟩ | ⟨response, -, hok⟩
    · have hsame : st' = st := congrArg Prod.fst he
      exact absurd (hsame ▸ .refl orgID st.serve) hdiffers
    · obtain ⟨record, hrecord, haddress⟩ := entries_by_serving hok hdiffers
      rw [← hserving orgID, servingAddress, hrecord, haddress, Option.map_some]
  refine ⟨hserving orgID, hchanged, hentries, ?_, ?_⟩
  · rintro ⟨record, hrecord⟩ _ hleader
    by_contra hdiffers
    have hkept : Registered st' orgID := by
      rcases next_evolution env st (.msg msg) with heq | hevolution
      · exact ⟨record, heq ▸ hrecord⟩
      · exact hevolution.kept hrecord
    rcases hchanged hkept hdiffers with hleads | ⟨hnot, -⟩
    · exact hleader hleads
    · exact hnot ⟨record, hrecord⟩
  · intro address haddress hne
    by_contra hdiffers
    rw [hentries hdiffers] at haddress
    exact hne (Option.some.inj haddress)

end Confinement

end WeVibeChain.Application
