import Mathlib
import LesserHost.Lib.CallStack
import LesserHost.Solidity.ERC721

set_option autoImplicit false

/-! # The SoulRegistry contract

The external functions of `SoulRegistry.sol` as transitions of one state. The inherited ERC-721
storage is a parameter; the inherited functions that reach the overridden `_update` are written out
here because they are where ownership moves: `_mint` and `_requireOwned` from inside the contract,
`transferFrom` and `safeTransferFrom` from outside, the latter two with the caller as `auth`.

Two functions hand control to foreign code: `safeTransferFrom` asks a receiver with code, and
`withdrawFees` sends ETH. Signature checks are static calls and answer from the state. The events a
contract emits carry the time of their block. -/

namespace LesserHost.SoulRegistry

open LesserHost.Solidity CallStack

abbrev Bytes := List UInt8

/-! ## Data -/

/-- The typed data of the three EIP-712 messages. -/
inductive TypedData where
  | walletRotationProposal (agentId : Nat) (currentWallet newWallet : Address)
      (nonce deadline : Nat)
  | mintPermit (dest : Address) (agentId : Nat) (metaURI : Bytes) (avatarStyle : Fin 256)
      (deadline : Nat)
  | selfMintAttestation (dest : Address) (agentId : Nat) (metaURI : Bytes) (avatarStyle : Fin 256)
      (principal : Address) (deadline : Nat) (submitter : Address)
  deriving DecidableEq

inductive Event where
  | soulMinted (agentId : Nat) (dest : Address) (metaURI : Bytes)
  | metaURISet (agentId : Nat) (metaURI : Bytes)
  | walletRotated (agentId : Nat) (oldWallet newWallet : Address) (nonce : Nat)
  | soulBurned (agentId : Nat) (lastWallet : Address)
  | soulTransferred (agentId transferCount timestamp : Nat)
  | avatarStyleChanged (agentId : Nat) (style : Fin 256)
  | rendererUpdated (styleId : Fin 256) (renderer : Address)
  | mintSignerUpdated (signer : Address)
  | mintFeeUpdated (fee : Nat)
  | principalDeclared (agentId : Nat) (principal : Address)
  | attestorAdded (attestor : Address)
  | attestorRemoved (attestor : Address)
  deriving DecidableEq

/-- What does not change over the life of a contract: its address, its immutable claim window, its
    base contract, and the hash and recovery functions with the contract's own domain. -/
structure Config (σ : Type) where
  self : Address
  claimWindowSeconds : Nat
  erc721 : ERC721 σ
  _hashTypedDataV4 : TypedData → Bytes32
  recover : Bytes32 → Bytes → Option Address

/-- What the contract can see of the chain. -/
structure Chain where
  balance : Nat
  timestamp : Nat
  codeLength : Address → Nat
  isValidSignatureNow : Address → Bytes32 → Bytes → Bool

structure State (σ : Type) extends Chain where
  base : σ
  /- Ownable2Step, Pausable -/
  owner : Address
  pendingOwner : Address
  paused : Bool
  /- storage -/
  _agentWallet : Nat → Address
  _metaURI : Nat → Bytes
  _mintedAt : Nat → Nat
  _everMinted : Nat → Bool
  agentNonces : Nat → Nat
  transferCount : Nat → Nat
  lastTransferredAt : Nat → Nat
  _renderers : Fin 256 → Address
  _avatarStyle : Nat → Fin 256
  _principals : Nat → Address
  _attestors : Address → Bool
  mintSigner : Address
  mintFee : Nat
  accumulatedFees : Nat
  _usedPermits : Bytes32 → Bool
  _usedSelfMintAttestations : Bytes32 → Bool
  logs : List (Nat × Event)

/-- No transaction comes from the zero address. -/
structure Msg where
  sender : Address
  value : Nat
  sender_ne : sender ≠ 0

/-- What is left to do while a call-out is open: nothing but to see that it has not failed. -/
inductive Pending where
  | onERC721Received (tokenId : Nat)
  | withdrawFees (recipient : Address) (amount : Nat)

variable {σ : Type}

def emit (s : State σ) (e : Event) : State σ := { s with logs := s.logs ++ [(s.timestamp, e)] }

def onlyOwner (s : State σ) (msg : Msg) : Exec Unit :=
  require (msg.sender = s.owner) (.custom "OwnableUnauthorizedAccount")

def whenNotPaused (s : State σ) : Exec Unit :=
  require (s.paused = false) (.custom "EnforcedPause")

/-! ## Reading -/

def _ownerOf (cfg : Config σ) (s : State σ) (tokenId : Nat) : Address :=
  cfg.erc721.ownerOf s.base tokenId

def _requireOwned (cfg : Config σ) (s : State σ) (tokenId : Nat) : Exec Address := do
  require (_ownerOf cfg s tokenId ≠ 0) (.custom "ERC721NonexistentToken")
  return _ownerOf cfg s tokenId

def getAgentWallet (s : State σ) (agentId : Nat) : Address := s._agentWallet agentId

/-! ## Soulbound enforcement -/

/-- Normal transfers are blocked after the claim window. -/
def checkSoulbound (cfg : Config σ) (s : State σ) (source dest : Address) (tokenId : Nat)
    (auth : Address) : Exec Unit :=
  if source ≠ 0 ∧ dest ≠ 0 ∧ auth ≠ 0 then
    if s._mintedAt tokenId = 0 then
      .error (.reason "SoulRegistry: soulbound")
    else do
      let windowEnd ← checkedAdd (s._mintedAt tokenId) cfg.claimWindowSeconds
      require (s.timestamp < windowEnd) (.reason "SoulRegistry: soulbound")
  else
    pure ()

/-- Count a transfer between two wallets. -/
def trackTransfer (s : State σ) (source dest : Address) (tokenId : Nat) : Exec (State σ) :=
  if source ≠ 0 ∧ dest ≠ 0 then do
    let counts ← addAt s.transferCount tokenId 1
    return emit { s with
        transferCount := counts
        lastTransferredAt := Function.update s.lastTransferredAt tokenId s.timestamp }
      (.soulTransferred tokenId (counts tokenId) s.timestamp)
  else
    pure s

def _update (cfg : Config σ) (s : State σ) (dest : Address) (tokenId : Nat) (auth : Address) :
    Exec (State σ × Address) := do
  require (s.paused = false) (.reason "SoulRegistry: paused")
  let source := _ownerOf cfg s tokenId
  checkSoulbound cfg s source dest tokenId auth
  let (base, prev) ← cfg.erc721.update s.base dest tokenId auth
  let s ← trackTransfer { s with base } source dest tokenId
  let wallet := if dest = 0 then 0 else dest
  return ({ s with _agentWallet := Function.update s._agentWallet tokenId wallet }, prev)

/-! ## Inherited functions that move tokens -/

/-- `ERC721._mint`. -/
def _mint (cfg : Config σ) (s : State σ) (dest : Address) (tokenId : Nat) : Exec (State σ) := do
  require (dest ≠ 0) (.custom "ERC721InvalidReceiver")
  let (s, prev) ← _update cfg s dest tokenId 0
  require (prev = 0) (.custom "ERC721InvalidSender")
  return s

/-- `ERC721.transferFrom`. -/
def transferFrom (cfg : Config σ) (s : State σ) (msg : Msg) (source dest : Address)
    (tokenId : Nat) : Exec (State σ) := do
  require (dest ≠ 0) (.custom "ERC721InvalidReceiver")
  let (s, prev) ← _update cfg s dest tokenId msg.sender
  require (prev = source) (.custom "ERC721IncorrectOwner")
  return s

/-- `ERC721.safeTransferFrom`: a receiver with code is asked. -/
def safeTransferFrom (cfg : Config σ) (s : State σ) (msg : Msg) (source dest : Address)
    (tokenId : Nat) : Exec (Outcome (State σ) Pending) := do
  let s ← transferFrom cfg s msg source dest tokenId
  return if 0 < s.codeLength dest then .callOut s (.onERC721Received tokenId) else .done s

def approve (cfg : Config σ) (s : State σ) (msg : Msg) (dest : Address) (tokenId : Nat) :
    Exec (State σ) := do
  let base ← cfg.erc721.approve s.base msg.sender dest tokenId
  return { s with base }

def setApprovalForAll (cfg : Config σ) (s : State σ) (msg : Msg) (operator : Address)
    (approved : Bool) : Exec (State σ) := do
  let base ← cfg.erc721.setApprovalForAll s.base msg.sender operator approved
  return { s with base }

/-! ## Minting and burning -/

/-- The principal is declared if there is one. -/
def declarePrincipal (s : State σ) (agentId : Nat) (principal : Address) : State σ :=
  if principal ≠ 0 then
    emit { s with _principals := Function.update s._principals agentId principal }
      (.principalDeclared agentId principal)
  else
    s

def _mintSoulInternal (cfg : Config σ) (s : State σ) (dest : Address) (agentId : Nat)
    (metaURI : Bytes) (avatarStyle : Fin 256) (principal : Address) : Exec (State σ) := do
  require (dest ≠ 0) (.custom "ERC721InvalidReceiver")
  require (metaURI.length ≠ 0) (.reason "SoulRegistry: metaURI required")
  require (¬ (_ownerOf cfg s agentId ≠ 0 ∨ s._everMinted agentId = true))
    (.reason "SoulRegistry: already minted")
  let s := { s with
    _everMinted := Function.update s._everMinted agentId true
    _mintedAt := Function.update s._mintedAt agentId s.timestamp
    _metaURI := Function.update s._metaURI agentId metaURI
    _avatarStyle := Function.update s._avatarStyle agentId avatarStyle }
  let s := declarePrincipal s agentId principal
  let s ← _mint cfg s dest agentId
  return emit s (.soulMinted agentId dest metaURI)

def mintSoul (cfg : Config σ) (s : State σ) (msg : Msg) (dest : Address) (agentId : Nat)
    (metaURI : Bytes) (avatarStyle : Fin 256) (deadline : Nat) (permit : Bytes) :
    Exec (State σ) := do
  whenNotPaused s
  require (msg.value = s.mintFee) (.reason "SoulRegistry: incorrect fee")
  require (s.timestamp ≤ deadline) (.reason "SoulRegistry: expired")
  require (s.mintSigner ≠ 0) (.reason "SoulRegistry: no mint signer")
  let digest := cfg._hashTypedDataV4 (.mintPermit dest agentId metaURI avatarStyle deadline)
  require (s._usedPermits digest = false) (.reason "SoulRegistry: permit reused")
  let s := { s with _usedPermits := Function.update s._usedPermits digest true }
  require (s.isValidSignatureNow s.mintSigner digest permit = true)
    (.reason "SoulRegistry: invalid permit")
  let fees ← checkedAdd s.accumulatedFees msg.value
  _mintSoulInternal cfg { s with accumulatedFees := fees } dest agentId metaURI avatarStyle 0

def mintSoulOwner (cfg : Config σ) (s : State σ) (msg : Msg) (dest : Address) (agentId : Nat)
    (metaURI : Bytes) (avatarStyle : Fin 256) : Exec (State σ) := do
  onlyOwner s msg
  whenNotPaused s
  _mintSoulInternal cfg s dest agentId metaURI avatarStyle 0

def selfMintSoul (cfg : Config σ) (s : State σ) (msg : Msg) (dest : Address) (agentId : Nat)
    (metaURI : Bytes) (avatarStyle : Fin 256) (principal : Address) (deadline : Nat)
    (attestationSig : Bytes) : Exec (State σ) := do
  whenNotPaused s
  require (msg.value = s.mintFee) (.reason "SoulRegistry: incorrect fee")
  require (s.timestamp ≤ deadline) (.reason "SoulRegistry: expired")
  require (principal ≠ 0) (.reason "SoulRegistry: principal required")
  let digest := cfg._hashTypedDataV4
    (.selfMintAttestation dest agentId metaURI avatarStyle principal deadline msg.sender)
  require (s._usedSelfMintAttestations digest = false) (.reason "SoulRegistry: attestation reused")
  let s := { s with
    _usedSelfMintAttestations := Function.update s._usedSelfMintAttestations digest true }
  match cfg.recover digest attestationSig with
  | none => .error (.custom "ECDSAInvalidSignature")
  | some signer => do
      require (s._attestors signer = true) (.reason "SoulRegistry: invalid attestation")
      let fees ← checkedAdd s.accumulatedFees msg.value
      _mintSoulInternal cfg { s with accumulatedFees := fees } dest agentId metaURI avatarStyle
        principal

def burnSoul (cfg : Config σ) (s : State σ) (msg : Msg) (agentId : Nat) : Exec (State σ) := do
  onlyOwner s msg
  whenNotPaused s
  let lastWallet := s._agentWallet agentId
  let _ ← _requireOwned cfg s agentId
  let (s, _) ← _update cfg s 0 agentId 0
  return emit s (.soulBurned agentId lastWallet)

/-! ## Metadata, attestors, avatars -/

def setMetaURI (cfg : Config σ) (s : State σ) (msg : Msg) (agentId : Nat) (metaURI : Bytes) :
    Exec (State σ) := do
  onlyOwner s msg
  whenNotPaused s
  let _ ← _requireOwned cfg s agentId
  require (metaURI.length ≠ 0) (.reason "SoulRegistry: metaURI required")
  return emit { s with _metaURI := Function.update s._metaURI agentId metaURI }
    (.metaURISet agentId metaURI)

def addAttestor (s : State σ) (msg : Msg) (attestor : Address) : Exec (State σ) := do
  onlyOwner s msg
  require (attestor ≠ 0) (.reason "SoulRegistry: zero attestor")
  require (s._attestors attestor = false) (.reason "SoulRegistry: already attestor")
  return emit { s with _attestors := Function.update s._attestors attestor true }
    (.attestorAdded attestor)

def removeAttestor (s : State σ) (msg : Msg) (attestor : Address) : Exec (State σ) := do
  onlyOwner s msg
  require (attestor ≠ 0) (.reason "SoulRegistry: zero attestor")
  require (s._attestors attestor = true) (.reason "SoulRegistry: not attestor")
  return emit { s with _attestors := Function.update s._attestors attestor false }
    (.attestorRemoved attestor)

def setRenderer (s : State σ) (msg : Msg) (styleId : Fin 256) (renderer : Address) :
    Exec (State σ) := do
  onlyOwner s msg
  return emit { s with _renderers := Function.update s._renderers styleId renderer }
    (.rendererUpdated styleId renderer)

def setAvatarStyle (cfg : Config σ) (s : State σ) (msg : Msg) (tokenId : Nat) (style : Fin 256) :
    Exec (State σ) := do
  whenNotPaused s
  let holder ← _requireOwned cfg s tokenId
  require (holder = msg.sender) (.reason "SoulRegistry: not token holder")
  return emit { s with _avatarStyle := Function.update s._avatarStyle tokenId style }
    (.avatarStyleChanged tokenId style)

/-! ## Wallet rotation -/

def rotateWallet (cfg : Config σ) (s : State σ) (msg : Msg) (agentId : Nat) (newWallet : Address)
    (nonce deadline : Nat) (currentSig newSig : Bytes) : Exec (State σ) := do
  onlyOwner s msg
  whenNotPaused s
  let currentWallet := s._agentWallet agentId
  require (¬ (currentWallet = 0 ∨ _ownerOf cfg s agentId = 0))
    (.reason "SoulRegistry: agent missing")
  require (newWallet ≠ 0) (.reason "SoulRegistry: invalid new wallet")
  require (newWallet ≠ currentWallet) (.reason "SoulRegistry: no-op")
  require (s.timestamp ≤ deadline) (.reason "SoulRegistry: expired")
  require (nonce = s.agentNonces agentId) (.reason "SoulRegistry: bad nonce")
  let digest := cfg._hashTypedDataV4
    (.walletRotationProposal agentId currentWallet newWallet nonce deadline)
  require (s.isValidSignatureNow currentWallet digest currentSig = true)
    (.reason "SoulRegistry: invalid current sig")
  require (s.isValidSignatureNow newWallet digest newSig = true)
    (.reason "SoulRegistry: invalid new sig")
  let next ← checkedAdd nonce 1
  let s := { s with agentNonces := Function.update s.agentNonces agentId next }
  let (s, _) ← _update cfg s newWallet agentId 0
  return emit s (.walletRotated agentId currentWallet newWallet nonce)

/-! ## Admin -/

def setMintSigner (s : State σ) (msg : Msg) (signer : Address) : Exec (State σ) := do
  onlyOwner s msg
  require (signer ≠ 0) (.reason "SoulRegistry: zero signer")
  return emit { s with mintSigner := signer } (.mintSignerUpdated signer)

def setMintFee (s : State σ) (msg : Msg) (fee : Nat) : Exec (State σ) := do
  onlyOwner s msg
  return emit { s with mintFee := fee } (.mintFeeUpdated fee)

def withdrawFees (cfg : Config σ) (s : State σ) (msg : Msg) (recipient : Address) :
    Exec (Outcome (State σ) Pending) := do
  onlyOwner s msg
  require (recipient ≠ 0) (.reason "SoulRegistry: zero recipient")
  require (s.accumulatedFees ≠ 0) (.reason "SoulRegistry: no fees")
  let amount := if s.balance < s.accumulatedFees then s.balance else s.accumulatedFees
  let fees ← checkedSub s.accumulatedFees amount
  -- the contract has no `receive` function, so a transfer to itself fails
  require (recipient ≠ cfg.self) (.reason "SoulRegistry: transfer failed")
  return .callOut { s with accumulatedFees := fees, balance := s.balance - amount }
    (.withdrawFees recipient amount)

def pause (s : State σ) (msg : Msg) : Exec (State σ) := do
  onlyOwner s msg
  whenNotPaused s
  return { s with paused := true }

def unpause (s : State σ) (msg : Msg) : Exec (State σ) := do
  onlyOwner s msg
  require (s.paused = true) (.custom "ExpectedPause")
  return { s with paused := false }

def transferOwnership (s : State σ) (msg : Msg) (newOwner : Address) : Exec (State σ) := do
  onlyOwner s msg
  return { s with pendingOwner := newOwner }

def acceptOwnership (s : State σ) (msg : Msg) : Exec (State σ) := do
  require (msg.sender = s.pendingOwner) (.custom "OwnableUnauthorizedAccount")
  return { s with owner := msg.sender, pendingOwner := 0 }

def renounceOwnership (s : State σ) (msg : Msg) : Exec (State σ) := do
  onlyOwner s msg
  return { s with owner := 0, pendingOwner := 0 }

/-! ## The contract as a whole -/

inductive Call where
  | mintSoul (dest : Address) (agentId : Nat) (metaURI : Bytes) (avatarStyle : Fin 256)
      (deadline : Nat) (permit : Bytes)
  | mintSoulOwner (dest : Address) (agentId : Nat) (metaURI : Bytes) (avatarStyle : Fin 256)
  | selfMintSoul (dest : Address) (agentId : Nat) (metaURI : Bytes) (avatarStyle : Fin 256)
      (principal : Address) (deadline : Nat) (attestationSig : Bytes)
  | burnSoul (agentId : Nat)
  | setMetaURI (agentId : Nat) (metaURI : Bytes)
  | addAttestor (attestor : Address)
  | removeAttestor (attestor : Address)
  | setRenderer (styleId : Fin 256) (renderer : Address)
  | setAvatarStyle (tokenId : Nat) (style : Fin 256)
  | rotateWallet (agentId : Nat) (newWallet : Address) (nonce deadline : Nat)
      (currentSig newSig : Bytes)
  | setMintSigner (signer : Address)
  | setMintFee (fee : Nat)
  | withdrawFees (recipient : Address)
  | pause
  | unpause
  | transferOwnership (newOwner : Address)
  | acceptOwnership
  | renounceOwnership
  | approve (dest : Address) (tokenId : Nat)
  | setApprovalForAll (operator : Address) (approved : Bool)
  | transferFrom (source dest : Address) (tokenId : Nat)
  | safeTransferFrom (source dest : Address) (tokenId : Nat)
  deriving DecidableEq

def finish (x : Exec (State σ)) : Exec (Outcome (State σ) Pending) := do
  let s ← x
  return .done s

/-- The check in front of every function that is not `payable`. -/
def nonPayable {α : Type} (msg : Msg) (x : Exec α) : Exec α := do
  require (msg.value = 0) .failedCall
  x

def receiveValue (s : State σ) (msg : Msg) : State σ := { s with balance := s.balance + msg.value }

def call (cfg : Config σ) (s : State σ) : Msg × Call → Exec (Outcome (State σ) Pending)
  | (msg, .mintSoul dest agentId metaURI avatarStyle deadline permit) =>
      finish (mintSoul cfg (receiveValue s msg) msg dest agentId metaURI avatarStyle deadline permit)
  | (msg, .selfMintSoul dest agentId metaURI avatarStyle principal deadline attestationSig) =>
      finish (selfMintSoul cfg (receiveValue s msg) msg dest agentId metaURI avatarStyle principal
        deadline attestationSig)
  | (msg, .mintSoulOwner dest agentId metaURI avatarStyle) =>
      nonPayable msg (finish (mintSoulOwner cfg s msg dest agentId metaURI avatarStyle))
  | (msg, .burnSoul agentId) => nonPayable msg (finish (burnSoul cfg s msg agentId))
  | (msg, .setMetaURI agentId metaURI) =>
      nonPayable msg (finish (setMetaURI cfg s msg agentId metaURI))
  | (msg, .addAttestor attestor) => nonPayable msg (finish (addAttestor s msg attestor))
  | (msg, .removeAttestor attestor) => nonPayable msg (finish (removeAttestor s msg attestor))
  | (msg, .setRenderer styleId renderer) =>
      nonPayable msg (finish (setRenderer s msg styleId renderer))
  | (msg, .setAvatarStyle tokenId style) =>
      nonPayable msg (finish (setAvatarStyle cfg s msg tokenId style))
  | (msg, .rotateWallet agentId newWallet nonce deadline currentSig newSig) =>
      nonPayable msg
        (finish (rotateWallet cfg s msg agentId newWallet nonce deadline currentSig newSig))
  | (msg, .setMintSigner signer) => nonPayable msg (finish (setMintSigner s msg signer))
  | (msg, .setMintFee fee) => nonPayable msg (finish (setMintFee s msg fee))
  | (msg, .withdrawFees recipient) => nonPayable msg (withdrawFees cfg s msg recipient)
  | (msg, .pause) => nonPayable msg (finish (pause s msg))
  | (msg, .unpause) => nonPayable msg (finish (unpause s msg))
  | (msg, .transferOwnership newOwner) => nonPayable msg (finish (transferOwnership s msg newOwner))
  | (msg, .acceptOwnership) => nonPayable msg (finish (acceptOwnership s msg))
  | (msg, .renounceOwnership) => nonPayable msg (finish (renounceOwnership s msg))
  | (msg, .approve dest tokenId) => nonPayable msg (finish (approve cfg s msg dest tokenId))
  | (msg, .setApprovalForAll operator approved) =>
      nonPayable msg (finish (setApprovalForAll cfg s msg operator approved))
  | (msg, .transferFrom source dest tokenId) =>
      nonPayable msg (finish (transferFrom cfg s msg source dest tokenId))
  | (msg, .safeTransferFrom source dest tokenId) =>
      nonPayable msg (safeTransferFrom cfg s msg source dest tokenId)

/-- What a call does when its call-out has returned as it should. -/
def resume (s : State σ) (_ : Pending) : Exec (Outcome (State σ) Pending) := .ok (.done s)

inductive Move where
  | forceETH (amount : Nat)
  | setCode (account : Address) (length : Nat)
  /-- other contracts and keys: which signatures count as valid from now on -/
  | setSignatures (isValidSignatureNow : Address → Bytes32 → Bytes → Bool)
  /-- the next block -/
  | tick (seconds : Nat)

def env (s : State σ) : Move → State σ
  | .forceETH amount => { s with balance := s.balance + amount }
  | .setCode account length => { s with codeLength := Function.update s.codeLength account length }
  | .setSignatures isValidSignatureNow => { s with isValidSignatureNow }
  | .tick seconds => { s with timestamp := s.timestamp + seconds }

/-- The time of a block does not change inside a transaction. -/
def Move.quiet : Move → Bool
  | .tick _ => true
  | _ => false

def contract (cfg : Config σ) : Contract (State σ) (Msg × Call) Pending Move Revert where
  call := call cfg
  resume := resume
  env := env
  quiet := Move.quiet

def deploy (cfg : Config σ) (chain : Chain) (initialOwner : Address) : Exec (State σ) := do
  require (initialOwner ≠ 0) (.custom "OwnableInvalidOwner")
  return {
    toChain := chain
    base := cfg.erc721.init
    owner := initialOwner
    pendingOwner := 0
    paused := false
    _agentWallet := fun _ => 0
    _metaURI := fun _ => []
    _mintedAt := fun _ => 0
    _everMinted := fun _ => false
    agentNonces := fun _ => 0
    transferCount := fun _ => 0
    lastTransferredAt := fun _ => 0
    _renderers := fun _ => 0
    _avatarStyle := fun _ => 0
    _principals := fun _ => 0
    _attestors := fun _ => false
    mintSigner := 0
    mintFee := 0
    accumulatedFees := 0
    _usedPermits := fun _ => false
    _usedSelfMintAttestations := fun _ => false
    logs := [] }

end LesserHost.SoulRegistry
