import WeVibeChain.Shared.Bytes
import WeVibeChain.Shared.OrderedMap

/-!
# x/identity: passkey aliases

The alias of a passkey names the wallet it is bound to. `migrateIdentity` is the
only message that writes one. Signature checking and address decoding are
parameters.
-/

set_option autoImplicit false

namespace WeVibeChain.Identity

open Bytes

inductive Error where
  | aliasAlreadyMigrated
  | invalidPasskeySignature
  | invalidWalletAddress
  | invalidPasskeyPubkey
  | signerEmpty
  deriving DecidableEq, Repr

def Error.text : Error → String
  | aliasAlreadyMigrated => "alias already migrated"
  | invalidPasskeySignature => "invalid passkey signature"
  | invalidWalletAddress => "invalid wallet address"
  | invalidPasskeyPubkey => "invalid passkey pubkey"
  | signerEmpty => "signer cannot be empty"

structure StoredIdentityAlias where
  passkeyPubkey : Bytes
  walletAddress : Bytes
  isMigrated : Bool
  migratedAtEpoch : UInt64
  deriving DecidableEq, Repr

def aliasKey (passkeyPubkey : Bytes) : Bytes := ascii "alias/" ++ passkeyPubkey

structure Store where
  aliases : OrderedMap Bytes StoredIdentityAlias := ∅
  deriving DecidableEq

def setAlias (s : Store) (a : StoredIdentityAlias) : Store :=
  { s with aliases := s.aliases.set (aliasKey a.passkeyPubkey) a }

def getAlias (s : Store) (passkeyPubkey : Bytes) : Option StoredIdentityAlias :=
  s.aliases.get (aliasKey passkeyPubkey)

/-- The wallet and the migrated flag; `none` when the passkey has no alias. -/
def resolveIdentity (s : Store) (passkeyPubkey : Bytes) : Option (Bytes × Bool) :=
  (getAlias s passkeyPubkey).map fun a => (a.walletAddress, a.isMigrated)

structure MsgMigrateIdentity where
  signer : Bytes
  passkeyPubkey : Bytes
  passkeySignature : Bytes
  nonce : UInt64
  deriving DecidableEq, Repr

/-- Decode a hex text of exactly `size` bytes. -/
def decodeSized (size : Nat) (text : Bytes) : Option Bytes :=
  (hexDecode text).filter fun b => b.length = size

def MsgMigrateIdentity.validateBasic (m : MsgMigrateIdentity) : Except Error Unit :=
  if m.signer = [] then .error .signerEmpty
  else if m.passkeyPubkey = [] then .error .invalidPasskeyPubkey
  else if m.passkeySignature = [] then .error .invalidPasskeySignature
  else if (decodeSized 32 m.passkeyPubkey).isNone then .error .invalidPasskeyPubkey
  else if (decodeSized 64 m.passkeySignature).isNone then .error .invalidPasskeySignature
  else .ok ()

def MsgMigrateIdentity.canonicalBody (m : MsgMigrateIdentity) : Bytes :=
  join newline [ascii "wevibe.migrate_identity.v1",
    ascii "passkey_pubkey:" ++ m.passkeyPubkey, ascii "wallet:" ++ m.signer,
    ascii "nonce:" ++ formatUint m.nonce]

/-- `blockHeight` is stamped on the alias as its migration epoch. -/
def migrateIdentity (ed25519Verify : Bytes → Bytes → Bytes → Bool)
    (accAddressFromBech32 : Bytes → Option Bytes) (blockHeight : UInt64) (s : Store)
    (msg : MsgMigrateIdentity) : Except Error Store := do
  msg.validateBasic
  if (accAddressFromBech32 msg.signer).isNone then throw .invalidWalletAddress
  match decodeSized 32 msg.passkeyPubkey, decodeSized 64 msg.passkeySignature with
  | none, _ => throw .invalidPasskeyPubkey
  | some _, none => throw .invalidPasskeySignature
  | some key, some signature =>
    if ed25519Verify key msg.canonicalBody signature = false then throw .invalidPasskeySignature
    match getAlias s msg.passkeyPubkey with
    | some existing => if existing.isMigrated then throw .aliasAlreadyMigrated
    | none => pure ()
    pure (setAlias s ⟨msg.passkeyPubkey, msg.signer, true, blockHeight⟩)

end WeVibeChain.Identity
