import LesserHost.Lib.Abi
import LesserHost.TipRegistry.Texts

set_option autoImplicit false

/-! # Asking for the rotation of a wallet

`handlers_soul_rotation.go`: a rotation is begun for a new wallet, with the wallet and the nonce that the
registry has for the agent, and both wallets are asked to sign the digest of its typed data. The confirmation
recovers both signers and makes the call for the registry's owner.

The Ethereum library is a parameter (`Libraries`); what the code relies on is in `Libraries.Documented`. -/

namespace LesserHost.SoulRotation

open LesserHost.Go LesserHost.Solidity
open LesserHost.ControlPlane (AppTheoryError newAppTheoryError)
open LesserHost.Soul (hexAddress)
open LesserHost.TipRegistry (M check hexData hashHex)

structure Libraries (Key : Type) extends Soul.Geth Key where
  keccak : EIP712.Hash
  IsHexAddress : String → Bool
  HexToAddress : String → Address
  /-- `hexutil.Decode` -/
  Decode : String → Option Bytes
  /-- `crypto.SigToPub`, then `crypto.PubkeyToAddress` -/
  SigToAddress : Bytes → Bytes → Option Address

structure Libraries.Documented {Key : Type} (lib : Libraries Key) : Prop where
  geth : lib.toGeth.Documented lib.keccak
  Hex_trimmed : ∀ a, TrimSpace (lib.Hex a) = lib.Hex a
  HexToAddress : ∀ text a, ToLower text = hexAddress a → lib.HexToAddress text = a
  Decode : ∀ data, lib.Decode (hexData data) = some data

structure Config where
  SoulChainID : Int
  SoulRegistryContractAddress : String
  SoulAdminSafeAddress : String
  SoulTxMode : String

structure SoulWalletRotationRequest where
  AgentID : String
  Username : String
  CurrentWallet : String
  NewWallet : String
  Nonce : String
  Deadline : Nat
  DigestHex : String
  Spent : Bool
  ExpiresAt : Nat

structure safeTxPayload where
  SafeAddress : String
  To : String
  Value : String
  Data : String

/-- What a request meets: the clock in nanoseconds since 1970, the answers of the registry, the wallets that
    are refused, and whether the row is written. -/
structure Env where
  now : Nat
  agentWallet : Option Address
  agentNonce : Option Nat
  isReservedWalletAddress : String → Bool
  validateNotPrivilegedWalletAddress : String → M Unit
  stored : Bool

def required {α : Type} (x : Option α) (code message : String) : M α :=
  match x with
  | some a => .ok a
  | none => .error (newAppTheoryError code message)

section Handlers

variable {Key : Type} (lib : Libraries Key) (cfg : Config) (env : Env)

/-! ## Typed data -/

def walletRotationProposalType : List EIP712.Field :=
  [("agentId", .uint256), ("currentWallet", .address), ("newWallet", .address), ("nonce", .uint256),
    ("deadline", .uint256)]

/-- The typed data that `soulRotationTypedData` hashes. -/
def soulRotationTypedData (chainID : Int) (verifyingContract : String) (agentID : Int)
    (currentWallet newWallet : String) (nonce deadline : Int) : Soul.TypedData where
  Types := [("EIP712Domain", Soul.domainType), ("WalletRotationProposal", walletRotationProposalType)]
  PrimaryType := "WalletRotationProposal"
  Domain :=
    { Name := "LesserSoul"
      Version := "1"
      ChainId := chainID
      VerifyingContract := ToLower (TrimSpace verifyingContract) }
  Message := [("agentId", bytes (Itoa agentID)),
    ("currentWallet", bytes (ToLower (TrimSpace currentWallet))),
    ("newWallet", bytes (ToLower (TrimSpace newWallet))), ("nonce", bytes (Itoa nonce)),
    ("deadline", bytes (Itoa deadline))]

/-! ## Begin -/

def normalizeSoulWalletAddress (addr : String) : M String := do
  let addr := TrimSpace addr
  check (addr ≠ "") "app.bad_request" "wallet_address is required"
  check (lib.IsHexAddress addr = true) "app.bad_request" "invalid wallet_address"
  let addr := ToLower addr
  check (env.isReservedWalletAddress addr = false) "app.bad_request" "wallet_address is reserved"
  env.validateNotPrivilegedWalletAddress addr
  return addr

def normalizeSoulRotateWalletBeginNewWallet (identityWallet newWalletAddress : String) : M String := do
  let newWallet ← normalizeSoulWalletAddress lib env newWalletAddress
  check (EqualFold newWallet (TrimSpace identityWallet) = false) "app.bad_request"
    "new_wallet_address must differ from current wallet"
  return newWallet

/-- The registry's contract, and how its address is written in transactions. -/
def soulRegistryContractAddress : M (Address × String) := do
  let contractAddrRaw := TrimSpace cfg.SoulRegistryContractAddress
  check (lib.IsHexAddress contractAddrRaw = true) "app.conflict" "soul registry is not configured"
  return (lib.HexToAddress contractAddrRaw, ToLower (lib.Hex (lib.HexToAddress contractAddrRaw)))

def requireSoulAgentWalletInSync (expectedWallet : String) : M Address := do
  let onChainWallet ← required env.agentWallet "app.internal" "failed to read agent wallet"
  check (onChainWallet ≠ 0) "app.conflict" "agent is not minted"
  check (EqualFold (lib.Hex onChainWallet) (TrimSpace expectedWallet) = true) "app.conflict"
    "agent wallet is out of sync; record operation execution first"
  return onChainWallet

/-- The row that a begin request without a pending rotation writes. -/
def createSoulWalletRotation (agentIDHex username : String) (agentInt : Nat)
    (identityWallet newWallet : String) : M SoulWalletRotationRequest := do
  let (_, verifyingContract) ← soulRegistryContractAddress lib cfg
  let onChainWallet ← requireSoulAgentWalletInSync lib env (TrimSpace identityWallet)
  let nonce ← required env.agentNonce "app.internal" "failed to read agent nonce"
  let expiresAt : Nat := env.now + 1800 * 10 ^ 9
  let deadline : Nat := expiresAt / 10 ^ 9
  let digest ← required
    (lib.TypedDataAndHash (soulRotationTypedData cfg.SoulChainID verifyingContract agentInt
      (lib.Hex onChainWallet) newWallet nonce deadline))
    "app.internal" "failed to build rotation digest"
  check (env.stored = true) "app.internal" "failed to create rotation request"
  return {
    AgentID := agentIDHex
    Username := TrimSpace username
    CurrentWallet := ToLower (lib.Hex onChainWallet)
    NewWallet := newWallet
    Nonce := Itoa nonce
    Deadline := deadline
    DigestHex := ToLower (hashHex digest)
    Spent := false
    ExpiresAt := expiresAt }

/-- A begin request that writes a new row. -/
def beginRotation (agentIDHex username : String) (agentInt : Nat) (identityWallet newWalletAddress : String) :
    M SoulWalletRotationRequest := do
  let newWallet ← normalizeSoulRotateWalletBeginNewWallet lib env identityWallet newWalletAddress
  createSoulWalletRotation lib cfg env agentIDHex username agentInt identityWallet newWallet

/-! ## Signatures -/

/-- The library recovers with a recovery id from 0. -/
def recoveryForm (raw : Bytes) : Bytes := raw.modify 64 fun v => if v = 27 ∨ v = 28 then v - 27 else v

/-- Solidity expects a recovery id of 27 or 28. -/
def contractForm (raw : Bytes) : Bytes := raw.modify 64 fun v => if v = 0 ∨ v = 1 then v + 27 else v

def decodeEthSignature (signatureHex : String) : M (Bytes × Bytes) := do
  let raw ← required (lib.Decode signatureHex) "app.bad_request" "invalid signature"
  check (raw.length = 65) "app.bad_request" "invalid signature"
  return (recoveryForm raw, contractForm raw)

def recoverAddressFromDigest (digest sigRecovery : Bytes) (message : String) : M Address := do
  check (digest.length = 32) "app.bad_request" message
  check (sigRecovery.length = 65) "app.bad_request" message
  required (lib.SigToAddress digest sigRecovery) "app.bad_request" message

/-- `new(big.Int).SetString(s, 10)`. -/
def SetString (s : String) : Option Int :=
  if (bytes s).head? = some 0x2d then (parseDigits ((bytes s).drop 1)).map fun n => -(n : Int)
  else if (bytes s).head? = some 0x2b then (parseDigits ((bytes s).drop 1)).map Int.ofNat
  else (parseDigits (bytes s)).map Int.ofNat

structure Validated where
  nonceInt : Int
  deadlineInt : Int
  currentSigContract : Bytes
  newSigContract : Bytes

def validateSoulWalletRotationSignatures (rot : SoulWalletRotationRequest)
    (currentSigHex newSigHex : String) : M Validated := do
  let digestBytes ← required (lib.Decode (TrimSpace rot.DigestHex)) "app.internal"
    "rotation request is invalid"
  check (digestBytes.length = 32) "app.internal" "rotation request is invalid"
  let (currentSigRecovery, currentSigContract) ← decodeEthSignature lib currentSigHex
  let (newSigRecovery, newSigContract) ← decodeEthSignature lib newSigHex
  let recoveredCurrent ← recoverAddressFromDigest lib digestBytes currentSigRecovery
    "invalid current_signature"
  let recoveredNew ← recoverAddressFromDigest lib digestBytes newSigRecovery "invalid new_signature"
  check (EqualFold (lib.Hex recoveredCurrent) (TrimSpace rot.CurrentWallet) = true) "app.bad_request"
    "current_signature does not match current wallet"
  check (EqualFold (lib.Hex recoveredNew) (TrimSpace rot.NewWallet) = true) "app.bad_request"
    "new_signature does not match new wallet"
  let nonceInt ← required (SetString (TrimSpace rot.Nonce)) "app.internal" "rotation request is invalid"
  return { nonceInt, deadlineInt := rot.Deadline, currentSigContract, newSigContract }

/-! ## Confirm -/

def parseSoulRotateWalletConfirmRequest (currentSignature newSignature : String) : M (String × String) := do
  let currentSigHex := TrimSpace currentSignature
  let newSigHex := TrimSpace newSignature
  check (currentSigHex ≠ "" ∧ newSigHex ≠ "") "app.bad_request" "signatures are required"
  return (currentSigHex, newSigHex)

def validateSoulWalletRotationConfirmRequest (rot : SoulWalletRotationRequest) : M Unit := do
  check (rot.Spent = false) "app.conflict" "rotation already confirmed"
  check (env.now ≤ rot.ExpiresAt) "app.bad_request" "rotation request expired"

def verifySoulWalletRotationOnChainState (rot : SoulWalletRotationRequest) (nonceInt : Int) : M Unit := do
  let onChainWallet ← required env.agentWallet "app.internal" "failed to read agent wallet"
  check (EqualFold (lib.Hex onChainWallet) (TrimSpace rot.CurrentWallet) = true) "app.conflict"
    "agent wallet changed; begin rotation again"
  let onChainNonce ← required env.agentNonce "app.internal" "failed to read agent nonce"
  check ((onChainNonce : Int) = nonceInt) "app.conflict" "agent nonce changed; begin rotation again"

def selector (signature : String) : Bytes := (EIP712.word (lib.keccak (bytes signature))).take 4

def rotateWalletSignature : String := "rotateWallet(uint256,address,uint256,uint256,bytes,bytes)"

/-- `math.U256Bytes` takes a number as one of 256 bits. -/
def u256 (n : Int) : Nat := (n % 2 ^ 256).toNat

def EncodeRotateWalletCall (agentID : Int) (newWallet : Address) (nonce deadline : Int)
    (currentSig newSig : Bytes) : Bytes :=
  selector lib rotateWalletSignature ++ Abi.encode
    [.word (u256 agentID), .word newWallet, .word (u256 nonce), .word (u256 deadline), .bytes currentSig,
      .bytes newSig]

def tipTxModeSafe : String := "safe"

def soulRegistrySafeAddress : M String := do
  let safeAddr := ToLower (TrimSpace cfg.SoulAdminSafeAddress)
  check (¬ (ToLower (TrimSpace cfg.SoulTxMode) = tipTxModeSafe ∧ lib.IsHexAddress safeAddr = false))
    "app.conflict" "soul registry safe is not configured"
  return safeAddr

def rotationPayload (txTo safeAddr : String) (agentInt : Nat) (rot : SoulWalletRotationRequest)
    (v : Validated) : safeTxPayload where
  SafeAddress := if ToLower (TrimSpace cfg.SoulTxMode) = tipTxModeSafe then safeAddr else ""
  To := txTo
  Value := "0"
  Data := hexData (EncodeRotateWalletCall lib agentInt (lib.HexToAddress (TrimSpace rot.NewWallet)) v.nonceInt
    v.deadlineInt v.currentSigContract v.newSigContract)

/-- The transaction that a confirmed rotation is. -/
def confirmRotation (agentInt : Nat) (rot : SoulWalletRotationRequest)
    (currentSignature newSignature : String) : M safeTxPayload := do
  let (currentSigHex, newSigHex) ← parseSoulRotateWalletConfirmRequest currentSignature newSignature
  validateSoulWalletRotationConfirmRequest env rot
  let v ← validateSoulWalletRotationSignatures lib rot currentSigHex newSigHex
  let (_, txTo) ← soulRegistryContractAddress lib cfg
  verifySoulWalletRotationOnChainState lib env rot v.nonceInt
  let safeAddr ← soulRegistrySafeAddress lib cfg
  return rotationPayload lib cfg txTo safeAddr agentInt rot v

end Handlers

end LesserHost.SoulRotation
