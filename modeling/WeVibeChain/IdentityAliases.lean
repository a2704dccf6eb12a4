import WeVibeChain.IdentityKeeper
import WeVibeChain.Shared.Machine

/-!
# x/identity: one wallet for each passkey

An alias is stored under the text of the passkey, and the signature is checked
with the key that the text decodes to. The same key can be written with upper-case
and with lower-case digits, so its holder can bind it once for each way of
writing it. Each record by itself is never changed.
-/

set_option autoImplicit false

namespace WeVibeChain.Identity

open Bytes

section Chain
variable (ed25519Verify : Bytes → Bytes → Bytes → Bool)
  (accAddressFromBech32 : Bytes → Option Bytes)

structure Input where
  blockHeight : UInt64
  msg : MsgMigrateIdentity
  deriving DecidableEq

/-- A failed message leaves the store as it was. -/
def step (s : Store) (input : Input) : Store × Except Error Unit :=
  match migrateIdentity ed25519Verify accAddressFromBech32 input.blockHeight s input.msg with
  | .error e => (s, .error e)
  | .ok s' => (s', .ok ())

def chain : Machine Store Input (Except Error Unit) := ⟨step ed25519Verify accAddressFromBech32⟩

/-- The message if it is accepted. -/
def acceptedAt (s : Store) (input : Input) : List Input :=
  if (step ed25519Verify accAddressFromBech32 s input).2.isOk then [input] else []

/-- The accepted messages of a run from an empty store. -/
def accepted (inputs : List Input) : List Input :=
  (((chain ed25519Verify accAddressFromBech32).withOutput
    (acceptedAt ed25519Verify accAddressFromBech32)).history {} inputs).flatten

/-- What a message has to satisfy whatever the store holds. -/
structure Checked (msg : MsgMigrateIdentity) : Prop where
  basic : msg.validateBasic = .ok ()
  wallet : (accAddressFromBech32 msg.signer).isSome = true
  signed : ∃ key signature, decodeSized 32 msg.passkeyPubkey = some key ∧
    decodeSized 64 msg.passkeySignature = some signature ∧
    ed25519Verify key msg.canonicalBody signature = true

/-- The alias that an accepted message stores. -/
def Input.stored (input : Input) : StoredIdentityAlias :=
  ⟨input.msg.passkeyPubkey, input.msg.signer, true, input.blockHeight⟩

/-- Some record whose passkey decodes to the key names the wallet. -/
def Bound (s : Store) (key wallet : Bytes) : Prop :=
  ∃ k a, s.aliases.get k = some a ∧ decodeSized 32 a.passkeyPubkey = some key ∧
    a.walletAddress = wallet

/-- Two of the messages for one key write it alike or name one wallet. -/
def Agreeing (inputs : List Input) : Prop :=
  ∀ i ∈ inputs, ∀ j ∈ inputs,
    decodeSized 32 i.msg.passkeyPubkey = decodeSized 32 j.msg.passkeyPubkey →
    i.msg.passkeyPubkey = j.msg.passkeyPubkey ∨ i.msg.signer = j.msg.signer

end Chain

section Runs
variable {ed25519Verify : Bytes → Bytes → Bytes → Bool}
  {accAddressFromBech32 : Bytes → Option Bytes} {s s' : Store} {input : Input}

theorem migrateIdentity_ok {blockHeight : UInt64} {msg : MsgMigrateIdentity}
    (h : migrateIdentity ed25519Verify accAddressFromBech32 blockHeight s msg = .ok s') :
    Checked ed25519Verify accAddressFromBech32 msg ∧
      (∀ existing, getAlias s msg.passkeyPubkey = some existing → existing.isMigrated = false) ∧
      s' = setAlias s ⟨msg.passkeyPubkey, msg.signer, true, blockHeight⟩ := by
  simp only [migrateIdentity, bind, Except.bind, pure, Except.pure, throw, throwThe,
    MonadExceptOf.throw] at h
  split at h
  · cases h
  rename_i hbasic
  split at h
  · cases h
  rename_i hwallet
  split at h
  · cases h
  · cases h
  rename_i key signature hkey hsignature
  split at h
  · cases h
  rename_i hverified
  have hchecked : Checked ed25519Verify accAddressFromBech32 msg :=
    ⟨hbasic, by simpa [Option.isSome_iff_ne_none] using hwallet, key, signature, hkey, hsignature,
      Bool.not_eq_false _ ▸ hverified⟩
  split at h
  · rename_i existing halias
    split at h
    · cases h
    rename_i hmigrated
    refine ⟨hchecked, ?_, (Except.ok.inj h).symm⟩
    intro other hother
    rw [← Option.some.inj (halias.symm.trans hother)]
    exact Bool.eq_false_iff.mpr hmigrated
  · rename_i halias
    refine ⟨hchecked, ?_, (Except.ok.inj h).symm⟩
    rw [halias]
    exact nofun

theorem next_cases (s : Store) (input : Input) :
    (chain ed25519Verify accAddressFromBech32).next s input = s ∨
      (Checked ed25519Verify accAddressFromBech32 input.msg ∧
        (∀ existing, getAlias s input.msg.passkeyPubkey = some existing →
          existing.isMigrated = false) ∧
        (chain ed25519Verify accAddressFromBech32).next s input = setAlias s input.stored ∧
        acceptedAt ed25519Verify accAddressFromBech32 s input = [input]) := by
  unfold acceptedAt
  change (step ed25519Verify accAddressFromBech32 s input).1 = s ∨ _ ∧ _ ∧
    (step ed25519Verify accAddressFromBech32 s input).1 = setAlias s input.stored ∧ _
  unfold step
  split
  · exact Or.inl rfl
  · rename_i s' hok
    obtain ⟨hchecked, hfree, hset⟩ := migrateIdentity_ok hok
    exact Or.inr ⟨hchecked, hfree, hset, rfl⟩

/-- Every record is under the key of its own text and was stored for one of the messages. -/
def Witnessed (ed25519Verify : Bytes → Bytes → Bytes → Bool)
    (accAddressFromBech32 : Bytes → Option Bytes) (inputs : List Input) (s : Store) : Prop :=
  s.aliases.Forall fun k a => k = aliasKey a.passkeyPubkey ∧
    ∃ input ∈ inputs, Checked ed25519Verify accAddressFromBech32 input.msg ∧ a = input.stored

theorem Witnessed.append {before after : List Input}
    (h : Witnessed ed25519Verify accAddressFromBech32 before s) :
    Witnessed ed25519Verify accAddressFromBech32 (before ++ after) s := by
  intro k a hget
  obtain ⟨hkey, input, hinput, hstored⟩ := h k a hget
  exact ⟨hkey, input, List.mem_append_left after hinput, hstored⟩

theorem Witnessed.next {inputs : List Input}
    (h : Witnessed ed25519Verify accAddressFromBech32 inputs s) (input : Input) :
    Witnessed ed25519Verify accAddressFromBech32
      (inputs ++ acceptedAt ed25519Verify accAddressFromBech32 s input)
      ((chain ed25519Verify accAddressFromBech32).next s input) := by
  rcases next_cases s input with hsame | ⟨hchecked, -, hset, haccepted⟩
  · rw [hsame]
    exact h.append
  · rw [hset, haccepted]
    exact OrderedMap.Forall.set h.append
      ⟨rfl, input, List.mem_append_right inputs (List.mem_singleton_self input), hchecked, rfl⟩

theorem witnessed_run (inputs : List Input) :
    Witnessed ed25519Verify accAddressFromBech32
      (accepted ed25519Verify accAddressFromBech32 inputs)
      ((chain ed25519Verify accAddressFromBech32).run {} inputs) := by
  have hstart : Witnessed ed25519Verify accAddressFromBech32 ([] : List (List Input)).flatten {} :=
    OrderedMap.forall_empty
  have hrun := ((chain ed25519Verify accAddressFromBech32).withOutput
    (acceptedAt ed25519Verify accAddressFromBech32)).run_history_invariant
      (I := fun t log => Witnessed ed25519Verify accAddressFromBech32 log.flatten t) ?_ hstart
      (Machine.along_true _ _ inputs)
  · rwa [Machine.run_withOutput] at hrun
  · intro t log input ht _
    rw [List.flatten_append, List.flatten_singleton]
    exact ht.next input

/-- A record that was stored as migrated is not written again. -/
theorem next_keeps {inputs : List Input} (h : Witnessed ed25519Verify accAddressFromBech32 inputs s)
    {k : Bytes} {a : StoredIdentityAlias} (hget : s.aliases.get k = some a) (input : Input) :
    ((chain ed25519Verify accAddressFromBech32).next s input).aliases.get k = some a := by
  obtain ⟨rfl, stored, -, -, rfl⟩ := h k a hget
  rcases next_cases s input with hsame | ⟨-, hfree, hset, -⟩
  · rw [hsame]
    exact hget
  · rw [hset]
    refine (OrderedMap.get_set_of_ne s.aliases input.stored ?_).trans hget
    intro hkey
    -- The record under the key of the message would be migrated.
    have hmigrated := hfree stored.stored (by rw [← hget, hkey]; rfl)
    cases hmigrated

/-- A key that is bound stays bound to the wallet. -/
theorem Bound.next {inputs : List Input} {key wallet : Bytes}
    (hs : Witnessed ed25519Verify accAddressFromBech32 inputs s) (h : Bound s key wallet)
    (input : Input) :
    Bound ((chain ed25519Verify accAddressFromBech32).next s input) key wallet := by
  obtain ⟨k, a, hget, hkey, hwallet⟩ := h
  exact ⟨k, a, next_keeps hs hget input, hkey, hwallet⟩

/-- Records witnessed by agreeing inputs bind each key to one wallet. -/
theorem Witnessed.wallet_unique {inputs : List Input} {key wallet wallet' : Bytes}
    (hs : Witnessed ed25519Verify accAddressFromBech32 inputs s)
    (hagree : Agreeing inputs) (h : Bound s key wallet) (h' : Bound s key wallet') :
    wallet' = wallet := by
  obtain ⟨k, a, hget, hkey, rfl⟩ := h
  obtain ⟨k', a', hget', hkey', rfl⟩ := h'
  obtain ⟨rfl, i, hi, -, rfl⟩ := hs k a hget
  obtain ⟨rfl, j, hj, -, rfl⟩ := hs k' a' hget'
  rcases hagree j hj i hi (hkey'.trans hkey.symm) with htext | hsigner
  · have hkeys : aliasKey j.stored.passkeyPubkey = aliasKey i.stored.passkeyPubkey :=
      congrArg aliasKey htext
    rw [hkeys, hget] at hget'
    rw [Option.some.inj hget']
  · exact hsigner

/-- While the accepted messages agree on how a key is written or on its wallet, a key that is bound
to a wallet is bound to it alone, then and after whatever follows. -/
theorem one_wallet_for_each_passkey (before after : List Input)
    (h : Agreeing (accepted ed25519Verify accAddressFromBech32 (before ++ after)))
    {key wallet : Bytes}
    (hbound : Bound ((chain ed25519Verify accAddressFromBech32).run {} before) key wallet)
    (wallet' : Bytes) :
    Bound ((chain ed25519Verify accAddressFromBech32).run {} (before ++ after)) key wallet' ↔
      wallet' = wallet := by
  have hkept : Bound ((chain ed25519Verify accAddressFromBech32).run {} (before ++ after)) key
      wallet := by
    rw [Machine.run_append]
    refine ((chain ed25519Verify accAddressFromBech32).run_always
      (I := fun t => (∃ stored, Witnessed ed25519Verify accAddressFromBech32 stored t) ∧
        Bound t key wallet) ?_ ⟨⟨_, witnessed_run before⟩, hbound⟩ after).2
    rintro t input ⟨⟨stored, ht⟩, hkey⟩
    exact ⟨⟨_, ht.next input⟩, hkey.next ht input⟩
  constructor
  · exact (witnessed_run (before ++ after)).wallet_unique h hkept
  · rintro rfl
    exact hkept

end Runs

section Samples

def samplePasskey : Bytes :=
  [3, 161, 7, 191, 243, 206, 16, 190, 29, 112, 221, 24, 231, 75, 192, 153, 103, 228, 214, 48, 155,
    165, 13, 95, 29, 220, 134, 100, 18, 85, 49, 184]

def upperCase (text : Bytes) : Bytes := text.map fun c => if 97 ≤ c then c - 32 else c

def sampleWallet : Bytes := ascii "wevibe1qyqszqgpqyqszqgpqyqszqgpqyqszqgpeur8r0"

def sampleSecondWallet : Bytes := ascii "wevibe1qgpqyqszqgpqyqszqgpqyqszqgpqyqszgc9zge"

def sampleSignature : Bytes :=
  [145, 171, 69, 148, 144, 52, 86, 48, 62, 123, 237, 44, 239, 243, 70, 39, 212, 47, 76, 231, 183,
    179, 43, 113, 147, 47, 154, 246, 196, 219, 247, 9, 49, 155, 180, 8, 140, 59, 62, 63, 18, 160,
    197, 85, 202, 218, 6, 45, 41, 29, 222, 89, 64, 44, 212, 151, 241, 132, 10, 94, 195, 231, 221, 7]

def sampleSecondSignature : Bytes :=
  [190, 247, 182, 119, 131, 195, 98, 52, 253, 8, 159, 255, 53, 226, 219, 135, 227, 152, 253, 156,
    157, 157, 135, 186, 183, 190, 40, 89, 251, 105, 238, 3, 88, 231, 92, 30, 67, 115, 178, 54, 242,
    95, 42, 94, 199, 29, 91, 115, 145, 213, 247, 162, 210, 229, 224, 69, 172, 202, 162, 89, 17, 85,
    123, 6]

/-- The key in lower case, for the first wallet. -/
def sampleMigration : MsgMigrateIdentity where
  signer := sampleWallet
  passkeyPubkey := hexEncode samplePasskey
  passkeySignature := hexEncode sampleSignature
  nonce := 1

/-- The same key in upper case, for the second wallet. -/
def sampleSecondMigration : MsgMigrateIdentity where
  signer := sampleSecondWallet
  passkeyPubkey := upperCase (hexEncode samplePasskey)
  passkeySignature := hexEncode sampleSecondSignature
  nonce := 2

def sampleAccAddress (text : Bytes) : Option Bytes :=
  if text ∈ [sampleWallet, sampleSecondWallet] then some text else none

/-- The key has signed the texts of the two messages. -/
def sampleVerify (key body signature : Bytes) : Bool :=
  key = samplePasskey ∧
    (signature = sampleSignature ∧ body = sampleMigration.canonicalBody ∨
      signature = sampleSecondSignature ∧ body = sampleSecondMigration.canonicalBody)

theorem sample_migrated :
    (chain sampleVerify sampleAccAddress).run {} [⟨1, sampleMigration⟩] =
      setAlias {} (Input.stored ⟨1, sampleMigration⟩) := by
  decide +kernel

theorem sample_migrated_again :
    (chain sampleVerify sampleAccAddress).next (setAlias {} (Input.stored ⟨1, sampleMigration⟩))
      ⟨2, sampleSecondMigration⟩ =
        setAlias (setAlias {} (Input.stored ⟨1, sampleMigration⟩))
          (Input.stored ⟨2, sampleSecondMigration⟩) := by
  decide +kernel

theorem sample_texts_differ :
    aliasKey sampleMigration.passkeyPubkey ≠ aliasKey sampleSecondMigration.passkeyPubkey ∧
      sampleMigration.signer ≠ sampleSecondMigration.signer := by
  decide +kernel

theorem sample_decoded :
    decodeSized 32 sampleMigration.passkeyPubkey = some samplePasskey ∧
      decodeSized 32 sampleSecondMigration.passkeyPubkey = some samplePasskey := by
  decide +kernel

theorem sample_bound :
    Bound ((chain sampleVerify sampleAccAddress).run {} [⟨1, sampleMigration⟩]) samplePasskey
      sampleMigration.signer := by
  rw [sample_migrated]
  exact ⟨_, _, OrderedMap.get_set_self _ _ _, sample_decoded.1, rfl⟩

theorem passkey_bound_twice :
    Bound ((chain sampleVerify sampleAccAddress).run {}
        [⟨1, sampleMigration⟩, ⟨2, sampleSecondMigration⟩]) samplePasskey sampleMigration.signer ∧
      Bound ((chain sampleVerify sampleAccAddress).run {}
        [⟨1, sampleMigration⟩, ⟨2, sampleSecondMigration⟩]) samplePasskey
          sampleSecondMigration.signer ∧
      sampleMigration.signer ≠ sampleSecondMigration.signer := by
  have hrun : (chain sampleVerify sampleAccAddress).run {}
      [⟨1, sampleMigration⟩, ⟨2, sampleSecondMigration⟩] =
        setAlias (setAlias {} (Input.stored ⟨1, sampleMigration⟩))
          (Input.stored ⟨2, sampleSecondMigration⟩) := by
    rw [← sample_migrated_again, ← sample_migrated]
    rfl
  rw [hrun]
  refine ⟨⟨aliasKey sampleMigration.passkeyPubkey, Input.stored ⟨1, sampleMigration⟩, ?_,
      sample_decoded.1, rfl⟩,
    ⟨_, _, OrderedMap.get_set_self _ _ _, sample_decoded.2, rfl⟩, sample_texts_differ.2⟩
  exact (OrderedMap.get_set_of_ne _ _ sample_texts_differ.1).trans (OrderedMap.get_set_self _ _ _)

theorem passkey_bound_once :
    Bound ((chain sampleVerify sampleAccAddress).run {} [⟨1, sampleMigration⟩]) samplePasskey
        sampleMigration.signer ∧
      ¬ Bound ((chain sampleVerify sampleAccAddress).run {}
        ([⟨1, sampleMigration⟩] ++ [⟨2, sampleMigration⟩])) samplePasskey
          sampleSecondMigration.signer := by
  have haccepted : accepted sampleVerify sampleAccAddress
      ([⟨1, sampleMigration⟩] ++ [⟨2, sampleMigration⟩]) = [⟨1, sampleMigration⟩] := by
    decide +kernel
  have hagree : Agreeing (accepted sampleVerify sampleAccAddress
      ([⟨1, sampleMigration⟩] ++ [⟨2, sampleMigration⟩])) := by
    rw [haccepted]
    intro i hi j hj _
    rw [List.mem_singleton.mp hi, List.mem_singleton.mp hj]
    exact Or.inl rfl
  refine ⟨sample_bound, ?_⟩
  rw [one_wallet_for_each_passkey [⟨1, sampleMigration⟩] [⟨2, sampleMigration⟩] hagree sample_bound]
  exact sample_texts_differ.2.symm

end Samples

end WeVibeChain.Identity
