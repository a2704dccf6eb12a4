import WeVibeChain.ReputationKeeper
import WeVibeChain.Shared.Machine

/-!
# x/reputation: messages

Four of the five messages are for the module authority. `MsgUpdateReputation`
names a signer, and its handler compares the signer with nothing.
-/

set_option autoImplicit false

namespace WeVibeChain.Reputation

open Bytes

section Messages

structure MsgUpdateReputation where
  signer : Bytes
  developer : Bytes
  memoryCid : Bytes
  difficulty : UInt32
  quality : UInt32
  domainTags : List Bytes := []
  provenance : Bytes := []
  deriving DecidableEq

def MsgUpdateReputation.validateBasic (m : MsgUpdateReputation) : Except Error Unit :=
  if m.signer = [] then .error .signerEmpty
  else if m.developer = [] then .error .invalidDeveloper
  else if m.memoryCid = [] then .error .invalidMemory
  else if m.difficulty > 10 then .error .invalidDifficulty
  else if m.quality > 10 then .error .invalidQuality
  else .ok ()

def MsgUpdateReputation.memory (m : MsgUpdateReputation) : AttestedMemory where
  developer := m.developer
  memoryCID := m.memoryCid
  difficulty := m.difficulty.toUInt8
  quality := m.quality.toUInt8
  domainTags := m.domainTags
  provenance := m.provenance

structure MsgUpdateParams where
  authority : Bytes
  params : Params
  deriving DecidableEq

/-- The checks of the messages that count for one contributor. -/
def validateContributor (authority contributorId : Bytes) : Except Error Unit :=
  if authority = [] then .error .authorityEmpty
  else if contributorId = [] then .error .contributorIdEmpty
  else .ok ()

structure MsgIncrementContribution where
  authority : Bytes
  contributorId : Bytes
  orgId : Bytes
  memoryCid : Bytes := []
  deriving DecidableEq

def MsgIncrementContribution.validateBasic (m : MsgIncrementContribution) : Except Error Unit :=
  validateContributor m.authority m.contributorId

structure MsgIncrementServe where
  authority : Bytes
  contributorId : Bytes
  orgId : Bytes
  memoryCid : Bytes := []
  serveCount : UInt64
  deriving DecidableEq

def MsgIncrementServe.validateBasic (m : MsgIncrementServe) : Except Error Unit :=
  validateContributor m.authority m.contributorId

structure MsgRecordBan where
  authority : Bytes
  contributorId : Bytes
  orgId : Bytes
  memoryCid : Bytes := []
  deriving DecidableEq

def MsgRecordBan.validateBasic (m : MsgRecordBan) : Except Error Unit :=
  validateContributor m.authority m.contributorId

end Messages

section Handlers
variable (authority : Bytes)

/-- The answer is the developer's XP after the update. -/
def updateReputationMsg (s : Store) (msg : MsgUpdateReputation) : Except Error (Store × UInt64) :=
  match msg.validateBasic with
  | .error e => .error e
  | .ok () =>
    match updateReputation s msg.developer msg.memory with
    | .error e => .error e
    | .ok s' =>
      match getXP s' msg.developer with
      | .error e => .error e
      | .ok xp => .ok (s', xp)

def updateParamsMsg (s : Store) (msg : MsgUpdateParams) : Except Error Store :=
  if msg.authority ≠ authority then .error .unauthorized
  else
    match msg.params.validate with
    | .error e => .error e
    | .ok () => .ok (setParams s msg.params)

/-- The common shape of the messages that count for one contributor. -/
def countForContributor (validated : Except Error Unit) (msgAuthority : Bytes) (counted : Store) :
    Except Error Store :=
  match validated with
  | .error e => .error e
  | .ok () => if msgAuthority ≠ authority then .error .unauthorized else .ok counted

def incrementContributionMsg (s : Store) (msg : MsgIncrementContribution) : Except Error Store :=
  countForContributor authority msg.validateBasic msg.authority
    (incrementContribution s msg.contributorId msg.orgId)

def incrementServeMsg (s : Store) (msg : MsgIncrementServe) : Except Error Store :=
  countForContributor authority msg.validateBasic msg.authority
    (incrementServe s msg.contributorId msg.orgId msg.serveCount)

def recordBanMsg (s : Store) (msg : MsgRecordBan) : Except Error Store :=
  countForContributor authority msg.validateBasic msg.authority
    (recordBan s msg.contributorId msg.orgId)

/-- The messages of the module. -/
inductive Msg where
  | updateReputation (msg : MsgUpdateReputation)
  | updateParams (msg : MsgUpdateParams)
  | incrementContribution (msg : MsgIncrementContribution)
  | incrementServe (msg : MsgIncrementServe)
  | recordBan (msg : MsgRecordBan)
  deriving DecidableEq

inductive Response where
  | xp (xp : UInt64)
  | empty
  deriving DecidableEq

/-- The signer of a message, or the authority that it declares. -/
def Msg.signer : Msg → Bytes
  | .updateReputation msg => msg.signer
  | .updateParams msg => msg.authority
  | .incrementContribution msg => msg.authority
  | .incrementServe msg => msg.authority
  | .recordBan msg => msg.authority

def handle (s : Store) : Msg → Except Error (Store × Response)
  | .updateReputation msg => (updateReputationMsg s msg).map fun r => (r.1, .xp r.2)
  | .updateParams msg => (updateParamsMsg authority s msg).map fun s' => (s', .empty)
  | .incrementContribution msg =>
    (incrementContributionMsg authority s msg).map fun s' => (s', .empty)
  | .incrementServe msg => (incrementServeMsg authority s msg).map fun s' => (s', .empty)
  | .recordBan msg => (recordBanMsg authority s msg).map fun s' => (s', .empty)

/-- A failed message leaves the store as it was. -/
def deliver (s : Store) (msg : Msg) : Store × Except Error Response :=
  match handle authority s msg with
  | .error e => (s, .error e)
  | .ok (s', response) => (s', .ok response)

end Handlers

section Effects
variable {authority : Bytes} {s s' : Store} {response : Response}

theorem updateReputation_ok {developer : Bytes} {memory : AttestedMemory}
    (h : updateReputation s developer memory = .ok s') :
    isActive s = true ∧ ∃ stats, addMemoryOf s developer memory = .ok stats ∧
      s' = { s with
        stats := s.stats.set (statsKey developer) stats
        memory := s.memory.set (memoryKey developer memory.memoryCID)
          (attestedMemoryToStored memory) } := by
  unfold updateReputation at h
  split at h
  · cases h
  rename_i hactive
  split at h
  · cases h
  split at h
  · cases h
  rename_i stats hstats
  exact ⟨Bool.not_eq_false _ ▸ hactive, stats, hstats, (Except.ok.inj h).symm⟩

theorem updateReputationMsg_ok {msg : MsgUpdateReputation} {xp : UInt64}
    (h : updateReputationMsg s msg = .ok (s', xp)) :
    msg.validateBasic = .ok () ∧ updateReputation s msg.developer msg.memory = .ok s' := by
  unfold updateReputationMsg at h
  split at h
  · cases h
  rename_i hbasic
  split at h
  · cases h
  rename_i updated hupdated
  split at h
  · cases h
  obtain ⟨rfl, -⟩ := Prod.mk.inj (Except.ok.inj h)
  exact ⟨hbasic, hupdated⟩

theorem updateParamsMsg_ok {msg : MsgUpdateParams} (h : updateParamsMsg authority s msg = .ok s') :
    msg.authority = authority ∧ s' = setParams s msg.params := by
  unfold updateParamsMsg at h
  split at h
  · cases h
  rename_i hauthority
  split at h
  · cases h
  exact ⟨not_not.mp hauthority, (Except.ok.inj h).symm⟩

theorem countForContributor_ok {validated : Except Error Unit} {msgAuthority : Bytes}
    {counted : Store} (h : countForContributor authority validated msgAuthority counted = .ok s') :
    msgAuthority = authority ∧ s' = counted := by
  unfold countForContributor at h
  split at h
  · cases h
  split at h
  · cases h
  rename_i hauthority
  exact ⟨not_not.mp hauthority, (Except.ok.inj h).symm⟩

/-- Everything an accepted message can do to the store. -/
inductive Stored (authority : Bytes) (s : Store) : Msg → Store → Prop where
  | update (msg : MsgUpdateReputation) (basic : msg.validateBasic = .ok ()) (s' : Store)
      (updated : updateReputation s msg.developer msg.memory = .ok s') :
      Stored authority s (.updateReputation msg) s'
  | params (msg : MsgUpdateParams) (signed : msg.authority = authority) :
      Stored authority s (.updateParams msg) (setParams s msg.params)
  | contribution (msg : MsgIncrementContribution) (signed : msg.authority = authority) :
      Stored authority s (.incrementContribution msg)
        (incrementContribution s msg.contributorId msg.orgId)
  | serve (msg : MsgIncrementServe) (signed : msg.authority = authority) :
      Stored authority s (.incrementServe msg)
        (incrementServe s msg.contributorId msg.orgId msg.serveCount)
  | ban (msg : MsgRecordBan) (signed : msg.authority = authority) :
      Stored authority s (.recordBan msg) (recordBan s msg.contributorId msg.orgId)

theorem handle_stored {msg : Msg} (h : handle authority s msg = .ok (s', response)) :
    Stored authority s msg s' := by
  cases msg with
  | updateReputation m =>
    obtain ⟨xp, hr⟩ := Except.eq_ok_of_map_snd h
    obtain ⟨hbasic, hupdated⟩ := updateReputationMsg_ok hr
    exact .update m hbasic s' hupdated
  | updateParams m =>
    have hr := Except.eq_ok_of_map h
    obtain ⟨hsigned, rfl⟩ := updateParamsMsg_ok hr
    exact .params m hsigned
  | incrementContribution m =>
    have hr := Except.eq_ok_of_map h
    obtain ⟨hsigned, rfl⟩ := countForContributor_ok hr
    exact .contribution m hsigned
  | incrementServe m =>
    have hr := Except.eq_ok_of_map h
    obtain ⟨hsigned, rfl⟩ := countForContributor_ok hr
    exact .serve m hsigned
  | recordBan m =>
    have hr := Except.eq_ok_of_map h
    obtain ⟨hsigned, rfl⟩ := countForContributor_ok hr
    exact .ban m hsigned

/-- A message is refused and changes nothing, or is accepted. -/
theorem deliver_cases (authority : Bytes) (s : Store) (msg : Msg) :
    ((∃ e, handle authority s msg = .error e) ∧ (deliver authority s msg).1 = s) ∨
      Stored authority s msg (deliver authority s msg).1 := by
  unfold deliver
  cases hresult : handle authority s msg with
  | error e => exact Or.inl ⟨⟨e, rfl⟩, rfl⟩
  | ok r => exact Or.inr (handle_stored hresult)

end Effects

end WeVibeChain.Reputation
