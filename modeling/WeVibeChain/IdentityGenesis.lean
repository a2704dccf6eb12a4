import WeVibeChain.IdentityAliases
import WeVibeChain.Shared.Tables

/-!
# x/identity: export and import of the aliases

The import checks every alias of the file and refuses a passkey that occurs twice.
Everything that a message can store passes: the message was checked for the same
size of key, its signer is the wallet, and the text of the passkey is the key of
the record. The records are loaded under the keys that they had.
-/

set_option autoImplicit false

namespace WeVibeChain.Identity

open Bytes

section Genesis

structure Params where
  active : Bool
  deriving DecidableEq, Repr

def defaultParams : Params := ⟨true⟩

/-- The store of the module: the aliases, and the parameters under a key of their own. -/
structure State where
  store : Store := {}
  params : Option Params := none
  deriving DecidableEq

def getParams (st : State) : Params := st.params.getD defaultParams

/-- An alias in the file can be null. -/
structure GenesisState where
  aliases : List (Option StoredIdentityAlias)
  params : Params
  deriving DecidableEq

def defaultGenesis : GenesisState := ⟨[], defaultParams⟩

inductive GenesisError where
  | aliasNil (index : Nat)
  | invalid (error : Error)
  | duplicatePasskey (passkeyPubkey : Bytes)
  deriving DecidableEq, Repr

/-- The loop of `GenesisState.Validate` from the given index on, with the passkeys before it. -/
def validateAliases : Nat → List Bytes → List (Option StoredIdentityAlias) →
    Except GenesisError Unit
  | _, _, [] => .ok ()
  | index, _, none :: _ => .error (.aliasNil index)
  | index, seen, some a :: aliases =>
    if a.passkeyPubkey = [] then .error (.invalid .invalidPasskeyPubkey)
    else if (decodeSized 32 a.passkeyPubkey).isNone then .error (.invalid .invalidPasskeyPubkey)
    else if a.walletAddress = [] then .error (.invalid .invalidWalletAddress)
    else if a.passkeyPubkey ∈ seen then .error (.duplicatePasskey a.passkeyPubkey)
    else validateAliases (index + 1) (a.passkeyPubkey :: seen) aliases

/-- The parameters pass always. -/
def GenesisState.validate (g : GenesisState) : Except GenesisError Unit :=
  validateAliases 0 [] g.aliases

/-- An error stops the chain. -/
def initGenesisState (st : State) (g : GenesisState) : Except GenesisError State :=
  match g.validate with
  | .error e => .error e
  | .ok () =>
    .ok
      { store := g.aliases.foldl (fun s entry => (entry.map (setAlias s)).getD s) st.store
        params := some g.params }

/-- The aliases in the order of their keys. -/
def exportGenesisState (st : State) : GenesisState where
  aliases := (st.store.aliases.under (ascii "alias/")).values.map some
  params := getParams st

end Genesis

section Validation
variable {a : StoredIdentityAlias} {as : List StoredIdentityAlias} {seen : List Bytes}

/-- What the import asks of one alias. -/
structure Importable (a : StoredIdentityAlias) : Prop where
  passkey : a.passkeyPubkey ≠ []
  decoded : (decodeSized 32 a.passkeyPubkey).isSome = true
  wallet : a.walletAddress ≠ []

/-- Aliases with different passkeys, none of them seen before, pass the loop if each one does. -/
theorem validateAliases_ok (index : Nat) (hall : ∀ a ∈ as, Importable a)
    (hnodup : (as.map (·.passkeyPubkey)).Nodup) (hnew : ∀ a ∈ as, a.passkeyPubkey ∉ seen) :
    validateAliases index seen (as.map some) = .ok () := by
  induction as generalizing index seen with
  | nil => rfl
  | cons a as ih =>
    rw [List.forall_mem_cons] at hall hnew
    rw [List.map_cons, List.nodup_cons] at hnodup
    have hdecoded : ¬ (decodeSized 32 a.passkeyPubkey).isNone = true := by
      rw [Option.isNone_iff_eq_none, ← Option.not_isSome_iff_eq_none, not_not]
      exact hall.1.decoded
    rw [List.map_cons, validateAliases, if_neg hall.1.passkey, if_neg hdecoded,
      if_neg hall.1.wallet, if_neg hnew.1]
    refine ih (index + 1) hall.2 hnodup.2 fun b hb hseen => ?_
    rcases List.mem_cons.mp hseen with hsame | hseen
    · exact hnodup.1 (hsame ▸ List.mem_map_of_mem hb)
    · exact hnew.2 b hb hseen

end Validation

section RoundTrip
variable {ed25519Verify : Bytes → Bytes → Bytes → Bool}
  {accAddressFromBech32 : Bytes → Option Bytes} {inputs : List Input} {st : State}

theorem Checked.importable {input : Input}
    (h : Checked ed25519Verify accAddressFromBech32 input.msg) : Importable input.stored := by
  obtain ⟨key, signature, hkey, -, -⟩ := h.signed
  have hbasic := h.basic
  unfold MsgMigrateIdentity.validateBasic at hbasic
  split at hbasic
  · cases hbasic
  rename_i hsigner
  split at hbasic
  · cases hbasic
  rename_i hpasskey
  exact ⟨hpasskey, Option.isSome_iff_exists.mpr ⟨key, hkey⟩, hsigner⟩

/-- The scan meets every alias. -/
theorem Witnessed.exported {s : Store}
    (h : Witnessed ed25519Verify accAddressFromBech32 inputs s) :
    (s.aliases.under (ascii "alias/")).values = s.aliases.values := by
  apply OrderedMap.values_under_of_forall
  intro e he
  rw [(h e.1 e.2 (OrderedMap.get_eq_some_iff.mpr he)).1]
  exact List.prefix_append _ _

theorem Witnessed.passkeys_nodup {s : Store}
    (h : Witnessed ed25519Verify accAddressFromBech32 inputs s) :
    (s.aliases.values.map (·.passkeyPubkey)).Nodup := by
  have hkeys : s.aliases.keys = (s.aliases.values.map (·.passkeyPubkey)).map aliasKey := by
    rw [OrderedMap.keys, OrderedMap.values, List.map_map, List.map_map]
    refine List.map_congr_left fun e he => ?_
    exact (h e.1 e.2 (OrderedMap.get_eq_some_iff.mpr he)).1
  have hnodup := s.aliases.keys_nodup
  rw [hkeys] at hnodup
  exact hnodup.of_map

theorem Witnessed.validate {s : Store} (params : Option Params)
    (h : Witnessed ed25519Verify accAddressFromBech32 inputs s) :
    (exportGenesisState ⟨s, params⟩).validate = .ok () := by
  unfold GenesisState.validate exportGenesisState
  rw [h.exported]
  refine validateAliases_ok 0 (fun a ha => ?_) h.passkeys_nodup fun _ _ => List.not_mem_nil
  obtain ⟨k, hget⟩ := OrderedMap.mem_values_iff.mp ha
  obtain ⟨-, input, -, hchecked, rfl⟩ := h k a hget
  exact hchecked.importable

/-- What the aliases of an export load. -/
theorem foldl_setAlias (as : List StoredIdentityAlias) (s : Store) :
    ((as.map some).foldl (fun s entry => (entry.map (setAlias s)).getD s) s).aliases =
      as.foldl (fun m a => m.set (aliasKey a.passkeyPubkey) a) s.aliases := by
  induction as generalizing s with
  | nil => rfl
  | cons a as ih => exact ih (setAlias s a)

theorem Witnessed.imported {s : Store} (params : Option Params)
    (h : Witnessed ed25519Verify accAddressFromBech32 inputs s) :
    initGenesisState {} (exportGenesisState ⟨s, params⟩) =
      .ok ⟨s, some (getParams ⟨s, params⟩)⟩ := by
  have hload : (s.aliases.values.map some).foldl
      (fun s entry => (entry.map (setAlias s)).getD s) ({} : Store) = s := by
    have haliases := foldl_setAlias s.aliases.values {}
    rw [OrderedMap.load_values fun k a hget => (h k a hget).1.symm] at haliases
    cases s
    exact congrArg Store.mk haliases
  unfold initGenesisState
  rw [h.validate params]
  simp only [exportGenesisState, h.exported, hload]

end RoundTrip

section Runs
variable (ed25519Verify : Bytes → Bytes → Bytes → Bool)
  (accAddressFromBech32 : Bytes → Option Bytes)

/-- The messages leave the parameters alone. -/
def stateStep (st : State) (input : Input) : State × Except Error Unit :=
  let result := step ed25519Verify accAddressFromBech32 st.store input
  (⟨result.1, st.params⟩, result.2)

def stateChain : Machine State Input (Except Error Unit) :=
  ⟨stateStep ed25519Verify accAddressFromBech32⟩

theorem stateChain_run (st : State) (inputs : List Input) :
    (stateChain ed25519Verify accAddressFromBech32).run st inputs =
      ⟨(chain ed25519Verify accAddressFromBech32).run st.store inputs, st.params⟩ := by
  induction inputs generalizing st with
  | nil => rfl
  | cons input inputs ih => exact ih _

/-- The state that the chain starts with. -/
def genesisStart : State := ⟨{}, some defaultParams⟩

/-- The export of any chain that started with the default genesis passes the import's check, and
the import gives back the state. -/
theorem exported_identity_is_imported (inputs : List Input) :
    initGenesisState {} defaultGenesis = .ok genesisStart ∧
      (exportGenesisState ((stateChain ed25519Verify accAddressFromBech32).run genesisStart
        inputs)).validate = .ok () ∧
      ∃ imported, initGenesisState {} (exportGenesisState
          ((stateChain ed25519Verify accAddressFromBech32).run genesisStart inputs)) =
            .ok imported ∧
        imported.store.aliases =
          ((stateChain ed25519Verify accAddressFromBech32).run genesisStart inputs).store.aliases ∧
        ∀ passkey, resolveIdentity imported.store passkey =
          resolveIdentity ((stateChain ed25519Verify accAddressFromBech32).run genesisStart
            inputs).store passkey := by
  have hrun := @witnessed_run ed25519Verify accAddressFromBech32 inputs
  rw [stateChain_run]
  exact ⟨rfl, hrun.validate _, _, hrun.imported _, rfl, fun _ => rfl⟩

example : (exportGenesisState ((stateChain sampleVerify sampleAccAddress).run genesisStart
    [⟨1, sampleMigration⟩, ⟨2, sampleSecondMigration⟩])).aliases =
      [some (Input.stored ⟨2, sampleSecondMigration⟩), some (Input.stored ⟨1, sampleMigration⟩)] := by
  decide +kernel

end Runs

end WeVibeChain.Identity
