import LesserHost.Lib.CallStack
import LesserHost.Lib.Escrow
import LesserHost.Solidity.Basic

set_option autoImplicit false

/-! # The TipSplitter contract

The external functions of `TipSplitter.sol` as transitions of one flat state. The state holds the
contract's storage, the part of the chain the contract can observe (its own ETH balance, its balance
of every token, code sizes, the answers of identity registries), the events it has emitted, and two
history fields that say who was credited and who was paid how much ETH.

The low-level ETH calls and the token transfers are call-outs: they hand control to foreign code, and
`resume` is what the contract does when that code returns. `balanceOf` and `getAgentWallet` are
static calls and answer from the state. -/

namespace LesserHost.TipSplitter

open LesserHost.Solidity CallStack

/-! ## Constants and data -/

def LESSER_FEE_BPS : Nat := 100
def MAX_HOST_FEE_BPS : Nat := 500
def BPS_DENOMINATOR : Nat := 10000
def MIN_TIP_AMOUNT : Nat := 10000

structure HostConfig where
  wallet : Address
  feeBps : Nat
  isActive : Bool
  deriving DecidableEq

inductive Event where
  | tipSent (hostId : Bytes32) (token tipper actor : Address)
      (amount lesserShare hostShare actorShare : Nat) (contentHash : Bytes32)
  | withdrawal (token recipient : Address) (amount : Nat)
  | hostRegistered (hostId : Bytes32) (wallet : Address) (feeBps : Nat)
  | hostUpdated (hostId : Bytes32) (wallet : Address) (feeBps : Nat)
  | hostActiveSet (hostId : Bytes32) (isActive : Bool)
  | tokenAllowedSet (token : Address) (allowed : Bool)
  | lesserWalletUpdated (oldWallet newWallet : Address)
  | maxTipAmountSet (token : Address) (amount : Nat)
  | minTipAmountSet (token : Address) (oldAmount newAmount : Nat)
  | withdrawalsPausedSet (paused : Bool)
  | straySwept (token destination : Address) (amount : Nat)
  | agentIdentityRegistryUpdated (oldRegistry newRegistry : Address)
  | agentTipSent (hostId : Bytes32) (agentId : Nat) (token tipper agentWallet : Address)
      (amount : Nat) (contentHash : Bytes32)
  deriving DecidableEq

/-- What the contract can see of the chain. `agentWallet reg id` is what the registry at `reg`
    answers to `getAgentWallet(id)`; `none` means that the call fails. -/
structure Chain where
  balance : Nat
  tokenBalance : Address → Nat
  codeLength : Address → Nat
  agentWallet : Address → Nat → Option Address

/-- A chain without tokens, registries or ETH. -/
def Chain.empty : Chain := ⟨0, fun _ => 0, fun _ => 0, fun _ _ => none⟩

structure State extends Chain where
  /- Ownable2Step, Pausable, ReentrancyGuard -/
  owner : Address
  pendingOwner : Address
  paused : Bool
  entered : Bool
  /- storage -/
  lesserWallet : Address
  agentIdentityRegistry : Address
  withdrawalsPaused : Bool
  hosts : Bytes32 → HostConfig
  pendingETH : Address → Nat
  pendingToken : Address → Address → Nat
  totalPendingETH : Nat
  totalPendingToken : Address → Nat
  allowedTokens : Address → Bool
  allowedTokenList : List Address
  _tokenIndex : Address → Nat
  _hostWalletRefCount : Address → Nat
  maxTipAmount : Address → Nat
  minTipAmount : Address → Nat
  hasCustomMinTipAmount : Address → Bool
  /- events, and the history of ETH claims and payments -/
  logs : List Event
  creditedETH : Address → Nat
  withdrawnETH : Address → Nat

structure Msg where
  sender : Address
  value : Nat
  deriving DecidableEq

structure Tip where
  actor : Address
  amount : Nat
  contentHash : Bytes32
  deriving DecidableEq

/-- What is left to do while a call-out is open. -/
inductive Pending where
  /-- `safeTransferFrom` of a token tip or batch; `after` is emitted once the tips are credited -/
  | pullTokens (token : Address) (hostId : Bytes32) (tips : List Tip) (total balBefore : Nat)
      (tipper : Address) (after : List Event)
  | withdrawETH (recipient : Address) (amount : Nat)
  | withdrawToken (token recipient : Address) (amount : Nat)
  | sweepETH (amount : Nat)
  | sweepToken (token : Address) (amount : Nat)
  deriving DecidableEq

def emit (s : State) (e : Event) : State := { s with logs := s.logs ++ [e] }

/-! ## Modifiers and external accounts -/

def onlyOwner (s : State) (msg : Msg) : Exec Unit :=
  require (msg.sender = s.owner) (.custom "OwnableUnauthorizedAccount")

def whenNotPaused (s : State) : Exec Unit :=
  require (s.paused = false) (.custom "EnforcedPause")

def guardFree (s : State) : Exec Unit :=
  require (s.entered = false) (.custom "ReentrancyGuardReentrantCall")

/-- `nonReentrant` around a body without call-outs. -/
def nonReentrant (s : State) (body : State → Exec State) : Exec State := do
  guardFree s
  let s ← body { s with entered := true }
  return { s with entered := false }

/-- The check in front of every function that is not `payable`. -/
def nonPayable (msg : Msg) : Exec Unit := require (msg.value = 0) .failedCall

/-- `dest.call{value: amount}("")`. The contract's own `receive` always reverts. -/
def sendETH (self : Address) (s : State) (dest : Address) (amount : Nat) (e : Revert) :
    Exec State := do
  require (amount ≤ s.balance ∧ dest ≠ self) e
  return { s with balance := s.balance - amount }

/-- `IERC20(token).balanceOf(address(this))`. -/
def balanceOf (s : State) (token : Address) : Exec Nat := do
  require (0 < s.codeLength token) .failedCall
  return s.tokenBalance token

/-- `IERC20(token).safeTransfer(dest, amount)`, up to the moment the token has moved the amount. -/
def safeTransfer (self : Address) (s : State) (token dest : Address) (amount : Nat) :
    Exec State := do
  require (0 < s.codeLength token ∧ amount ≤ s.tokenBalance token) .failedCall
  return if dest = self then s else
    { s with tokenBalance := Function.update s.tokenBalance token (s.tokenBalance token - amount) }

def _resolveAgentWallet (s : State) (agentId : Nat) : Exec Address := do
  let reg := s.agentIdentityRegistry
  require (reg ≠ 0) (.reason "TipSplitter: agent registry not set")
  match s.agentWallet reg agentId with
  | none => .error .failedCall
  | some wallet => do
      require (wallet ≠ 0) (.reason "TipSplitter: agent wallet not set")
      return wallet

/-! ## Helpers -/

def _effectiveMinTipAmount (s : State) (token : Address) : Nat :=
  if s.hasCustomMinTipAmount token then s.minTipAmount token else MIN_TIP_AMOUNT

structure Shares where
  lesserShare : Nat
  hostShare : Nat
  actorShare : Nat
  deriving DecidableEq

def _split (hostFeeBps amount : Nat) : Exec Shares := do
  let lesserProduct ← checkedMul amount LESSER_FEE_BPS
  let lesserShare := lesserProduct / BPS_DENOMINATOR
  require (0 < lesserShare) (.reason "TipSplitter: amount too small for split")
  let hostProduct ← checkedMul amount hostFeeBps
  let hostShare := hostProduct / BPS_DENOMINATOR
  let rest ← checkedSub amount lesserShare
  let actorShare ← checkedSub rest hostShare
  return { lesserShare, hostShare, actorShare }

def _creditPendingToken (s : State) (token recipient : Address) (amount : Nat) : Exec State :=
  if amount = 0 then
    pure s
  else do
    let pending ← addAt (s.pendingToken token) recipient amount
    let total ← addAt s.totalPendingToken token amount
    return { s with
      pendingToken := Function.update s.pendingToken token pending
      totalPendingToken := total }

/-! ## Tips -/

def _tipETH (s : State) (msg : Msg) (hostId : Bytes32) (tip : Tip) : Exec State := do
  require (_effectiveMinTipAmount s 0 ≤ tip.amount) (.reason "TipSplitter: amount below minimum")
  require (tip.actor ≠ 0) (.reason "TipSplitter: invalid actor")
  require (tip.actor ≠ msg.sender) (.reason "TipSplitter: cannot tip yourself")
  let cap := s.maxTipAmount 0
  require (cap = 0 ∨ tip.amount ≤ cap) (.reason "TipSplitter: amount exceeds max")
  let host := s.hosts hostId
  require (host.wallet ≠ 0 ∧ host.isActive = true) (.reason "TipSplitter: host not active")
  let shares ← _split host.feeBps tip.amount
  let p₁ ← addAt s.pendingETH s.lesserWallet shares.lesserShare
  let p₂ ← addAt p₁ host.wallet shares.hostShare
  let p₃ ← addAt p₂ tip.actor shares.actorShare
  let total ← checkedAdd s.totalPendingETH tip.amount
  let s := { s with
    pendingETH := p₃
    totalPendingETH := total
    creditedETH := Escrow.creditAll s.creditedETH
      [(s.lesserWallet, shares.lesserShare), (host.wallet, shares.hostShare),
        (tip.actor, shares.actorShare)] }
  return emit s (.tipSent hostId 0 msg.sender tip.actor tip.amount shares.lesserShare
    shares.hostShare shares.actorShare tip.contentHash)

def tipETH (s : State) (msg : Msg) (hostId : Bytes32) (actor : Address) (contentHash : Bytes32) :
    Exec State :=
  nonReentrant s fun s => do
    whenNotPaused s
    _tipETH s msg hostId ⟨actor, msg.value, contentHash⟩

/-- `total += amounts[i]` over the whole array. -/
def sumAmounts (amounts : List Nat) : Exec Nat := amounts.foldlM checkedAdd 0

/-- The three arrays of a batch, element by element. -/
def tipsOf : List Address → List Nat → List Bytes32 → List Tip
  | a :: as, n :: ns, h :: hs => ⟨a, n, h⟩ :: tipsOf as ns hs
  | _, _, _ => []

def checkBatch (actors : List Address) (amounts : List Nat) (contentHashes : List Bytes32) :
    Exec Unit := do
  let n := actors.length
  require (0 < n ∧ n ≤ 20) (.reason "TipSplitter: invalid batch size")
  require (amounts.length = n ∧ contentHashes.length = n)
    (.reason "TipSplitter: array length mismatch")

def batchTipETH (s : State) (msg : Msg) (hostId : Bytes32) (actors : List Address)
    (amounts : List Nat) (contentHashes : List Bytes32) : Exec State :=
  nonReentrant s fun s => do
    whenNotPaused s
    checkBatch actors amounts contentHashes
    let total ← sumAmounts amounts
    require (msg.value = total) (.reason "TipSplitter: incorrect total")
    (tipsOf actors amounts contentHashes).foldlM (fun s t => _tipETH s msg hostId t) s

def _creditToken (s : State) (hostId : Bytes32) (token : Address) (tip : Tip) (tipper : Address) :
    Exec State := do
  require (tip.actor ≠ 0) (.reason "TipSplitter: invalid actor")
  require (tip.actor ≠ tipper) (.reason "TipSplitter: cannot tip yourself")
  require (_effectiveMinTipAmount s token ≤ tip.amount)
    (.reason "TipSplitter: amount below minimum")
  let cap := s.maxTipAmount token
  require (cap = 0 ∨ tip.amount ≤ cap) (.reason "TipSplitter: amount exceeds max")
  let host := s.hosts hostId
  require (host.wallet ≠ 0 ∧ host.isActive = true) (.reason "TipSplitter: host not active")
  let shares ← _split host.feeBps tip.amount
  let s₁ ← _creditPendingToken s token s.lesserWallet shares.lesserShare
  let s₂ ← _creditPendingToken s₁ token host.wallet shares.hostShare
  let s₃ ← _creditPendingToken s₂ token tip.actor shares.actorShare
  return emit s₃ (.tipSent hostId token tipper tip.actor tip.amount shares.lesserShare
    shares.hostShare shares.actorShare tip.contentHash)

/-- Measure the balance and ask the token for `total`. -/
def startPull (s : State) (token : Address) (hostId : Bytes32) (tips : List Tip) (total : Nat)
    (tipper : Address) (after : List Event) : Exec (Outcome State Pending) := do
  let balBefore ← balanceOf s token
  return .callOut s (.pullTokens token hostId tips total balBefore tipper after)

def _tipToken (s : State) (msg : Msg) (token : Address) (hostId : Bytes32) (tip : Tip)
    (after : List Event) : Exec (Outcome State Pending) := do
  require (token ≠ 0) (.reason "TipSplitter: token required")
  require (s.allowedTokens token = true) (.reason "TipSplitter: token not allowed")
  require (0 < tip.amount) (.reason "TipSplitter: amount must be > 0")
  startPull s token hostId [tip] tip.amount msg.sender after

def tipToken (s : State) (msg : Msg) (token : Address) (hostId : Bytes32) (tip : Tip) :
    Exec (Outcome State Pending) := do
  guardFree s
  whenNotPaused s
  _tipToken { s with entered := true } msg token hostId tip []

def batchTipToken (s : State) (msg : Msg) (token : Address) (hostId : Bytes32)
    (actors : List Address) (amounts : List Nat) (contentHashes : List Bytes32) :
    Exec (Outcome State Pending) := do
  guardFree s
  whenNotPaused s
  checkBatch actors amounts contentHashes
  require (token ≠ 0) (.reason "TipSplitter: token required")
  require (s.allowedTokens token = true) (.reason "TipSplitter: token not allowed")
  let total ← sumAmounts amounts
  require (0 < total) (.reason "TipSplitter: total must be > 0")
  startPull { s with entered := true } token hostId (tipsOf actors amounts contentHashes) total
    msg.sender []

def tipAgentETH (s : State) (msg : Msg) (hostId : Bytes32) (agentId : Nat)
    (contentHash : Bytes32) : Exec State :=
  nonReentrant s fun s => do
    whenNotPaused s
    let actor ← _resolveAgentWallet s agentId
    let s ← _tipETH s msg hostId ⟨actor, msg.value, contentHash⟩
    return emit s (.agentTipSent hostId agentId 0 msg.sender actor msg.value contentHash)

def tipAgentToken (s : State) (msg : Msg) (token : Address) (hostId : Bytes32) (agentId amount : Nat)
    (contentHash : Bytes32) : Exec (Outcome State Pending) := do
  guardFree s
  whenNotPaused s
  let actor ← _resolveAgentWallet s agentId
  _tipToken { s with entered := true } msg token hostId ⟨actor, amount, contentHash⟩
    [.agentTipSent hostId agentId token msg.sender actor amount contentHash]

/-! ## Withdrawals -/

def withdraw (self : Address) (s : State) (msg : Msg) (token : Address) :
    Exec (Outcome State Pending) := do
  guardFree s
  whenNotPaused s
  require (s.withdrawalsPaused = false) (.reason "TipSplitter: withdrawals paused")
  if token = 0 then do
    let ethAmount := s.pendingETH msg.sender
    require (0 < ethAmount) (.reason "TipSplitter: no pending")
    let total ← checkedSub s.totalPendingETH ethAmount
    let s := { s with
      entered := true
      pendingETH := Function.update s.pendingETH msg.sender 0
      totalPendingETH := total
      withdrawnETH := Escrow.creditOne s.withdrawnETH msg.sender ethAmount }
    let s ← sendETH self s msg.sender ethAmount (.reason "TipSplitter: withdrawal failed")
    return .callOut s (.withdrawETH msg.sender ethAmount)
  else do
    let tokenAmount := s.pendingToken token msg.sender
    require (0 < tokenAmount) (.reason "TipSplitter: no pending")
    let total ← subAt s.totalPendingToken token tokenAmount
    let s := { s with
      entered := true
      pendingToken := Function.update s.pendingToken token
        (Function.update (s.pendingToken token) msg.sender 0)
      totalPendingToken := total }
    let s ← safeTransfer self s token msg.sender tokenAmount
    return .callOut s (.withdrawToken token msg.sender tokenAmount)

/-! ## Host registry -/

def registerHost (s : State) (msg : Msg) (hostId : Bytes32) (wallet : Address) (feeBps : Nat) :
    Exec State := do
  onlyOwner s msg
  require (wallet ≠ 0) (.reason "TipSplitter: invalid wallet")
  require (wallet ≠ s.lesserWallet) (.reason "TipSplitter: wallet cannot be lesser wallet")
  require (feeBps ≤ MAX_HOST_FEE_BPS) (.reason "TipSplitter: fee too high")
  require ((s.hosts hostId).wallet = 0) (.reason "TipSplitter: host exists")
  let refs ← addAt s._hostWalletRefCount wallet 1
  let s := { s with
    _hostWalletRefCount := refs
    hosts := Function.update s.hosts hostId { wallet, feeBps, isActive := true } }
  return emit s (.hostRegistered hostId wallet feeBps)

/-- One host less uses `oldWallet` and one more uses `wallet`, unless they are the same. -/
def moveHostRef (refs : Address → Nat) (oldWallet wallet : Address) : Exec (Address → Nat) :=
  if oldWallet ≠ wallet then do
    let refs ← subAt refs oldWallet 1
    addAt refs wallet 1
  else
    pure refs

def updateHost (s : State) (msg : Msg) (hostId : Bytes32) (wallet : Address) (feeBps : Nat) :
    Exec State := do
  onlyOwner s msg
  require ((s.hosts hostId).wallet ≠ 0) (.reason "TipSplitter: host missing")
  require (wallet ≠ 0) (.reason "TipSplitter: invalid wallet")
  require (wallet ≠ s.lesserWallet) (.reason "TipSplitter: wallet cannot be lesser wallet")
  require (feeBps ≤ MAX_HOST_FEE_BPS) (.reason "TipSplitter: fee too high")
  let refs ← moveHostRef s._hostWalletRefCount (s.hosts hostId).wallet wallet
  let s := { s with
    _hostWalletRefCount := refs
    hosts := Function.update s.hosts hostId { s.hosts hostId with wallet, feeBps } }
  return emit s (.hostUpdated hostId wallet feeBps)

def setHostActive (s : State) (msg : Msg) (hostId : Bytes32) (active : Bool) : Exec State := do
  onlyOwner s msg
  require ((s.hosts hostId).wallet ≠ 0) (.reason "TipSplitter: host missing")
  let s := { s with
    hosts := Function.update s.hosts hostId { s.hosts hostId with isActive := active } }
  return emit s (.hostActiveSet hostId active)

/-! ## Token allowlist -/

/-- Move the last entry of the list to position `idx`, unless it is there already. -/
def moveLastTo (s : State) (idx last : Nat) : Exec State :=
  if idx ≠ last then
    match s.allowedTokenList[last]? with
    | none => .error .panic
    | some lastToken => do
        require (idx < s.allowedTokenList.length) .panic
        return { s with
          allowedTokenList := s.allowedTokenList.set idx lastToken
          _tokenIndex := Function.update s._tokenIndex lastToken (idx + 1) }
  else
    pure s

/-- Swap-and-pop of `token`. -/
def removeAllowed (s : State) (token : Address) : Exec State := do
  let idx ← checkedSub (s._tokenIndex token) 1
  let last ← checkedSub s.allowedTokenList.length 1
  let s ← moveLastTo s idx last
  require (s.allowedTokenList ≠ []) .panic
  return { s with
    allowedTokenList := s.allowedTokenList.dropLast
    _tokenIndex := Function.update s._tokenIndex token 0 }

/-- The list and its index follow a change of `allowedTokens[token]`. -/
def listAllowed (s : State) (token : Address) (allowed : Bool) : Exec State :=
  if allowed = true ∧ s.allowedTokens token = false then
    pure { s with
      allowedTokenList := s.allowedTokenList ++ [token]
      _tokenIndex := Function.update s._tokenIndex token (s.allowedTokenList.length + 1) }
  else if allowed = false ∧ s.allowedTokens token = true then
    removeAllowed s token
  else
    pure s

def setTokenAllowed (s : State) (msg : Msg) (token : Address) (allowed : Bool) : Exec State := do
  onlyOwner s msg
  require (token ≠ 0) (.reason "TipSplitter: token required")
  require (allowed = true → 0 < s.codeLength token) (.reason "TipSplitter: token has no code")
  let s ← listAllowed s token allowed
  let s := { s with allowedTokens := Function.update s.allowedTokens token allowed }
  return emit s (.tokenAllowedSet token allowed)

/-! ## Admin -/

def setLesserWallet (s : State) (msg : Msg) (newWallet : Address) : Exec State := do
  onlyOwner s msg
  require (newWallet ≠ 0) (.reason "TipSplitter: invalid wallet")
  require (newWallet ≠ s.lesserWallet) (.reason "TipSplitter: no-op")
  require (s._hostWalletRefCount newWallet = 0) (.reason "TipSplitter: wallet is a host wallet")
  return emit { s with lesserWallet := newWallet } (.lesserWalletUpdated s.lesserWallet newWallet)

def setAgentIdentityRegistry (s : State) (msg : Msg) (registry : Address) : Exec State := do
  onlyOwner s msg
  require (registry ≠ 0 → 0 < s.codeLength registry) (.reason "TipSplitter: invalid agent registry")
  return emit { s with agentIdentityRegistry := registry }
    (.agentIdentityRegistryUpdated s.agentIdentityRegistry registry)

def pause (s : State) (msg : Msg) : Exec State := do
  onlyOwner s msg
  whenNotPaused s
  return { s with paused := true }

def unpause (s : State) (msg : Msg) : Exec State := do
  onlyOwner s msg
  require (s.paused = true) (.custom "ExpectedPause")
  return { s with paused := false }

def setWithdrawalsPaused (s : State) (msg : Msg) (paused : Bool) : Exec State := do
  onlyOwner s msg
  return emit { s with withdrawalsPaused := paused } (.withdrawalsPausedSet paused)

def setMaxTipAmount (s : State) (msg : Msg) (token : Address) (amount : Nat) : Exec State := do
  onlyOwner s msg
  require (0 < amount → _effectiveMinTipAmount s token ≤ amount)
    (.reason "TipSplitter: max below min")
  return emit { s with maxTipAmount := Function.update s.maxTipAmount token amount }
    (.maxTipAmountSet token amount)

def setMinTipAmount (s : State) (msg : Msg) (token : Address) (amount : Nat) : Exec State := do
  onlyOwner s msg
  require (100 ≤ amount) (.reason "TipSplitter: min amount too low")
  let cap := s.maxTipAmount token
  require (0 < cap → amount ≤ cap) (.reason "TipSplitter: min exceeds max")
  return emit { s with
      minTipAmount := Function.update s.minTipAmount token amount
      hasCustomMinTipAmount := Function.update s.hasCustomMinTipAmount token true }
    (.minTipAmountSet token (s.minTipAmount token) amount)

def transferOwnership (s : State) (msg : Msg) (newOwner : Address) : Exec State := do
  onlyOwner s msg
  return { s with pendingOwner := newOwner }

def acceptOwnership (s : State) (msg : Msg) : Exec State := do
  require (msg.sender = s.pendingOwner) (.custom "OwnableUnauthorizedAccount")
  return { s with owner := msg.sender, pendingOwner := 0 }

def renounceOwnership (s : State) (msg : Msg) : Exec State := do
  onlyOwner s msg
  return { s with owner := 0, pendingOwner := 0 }

/-! ## Emergency -/

def sweepStrayETH (self : Address) (s : State) (msg : Msg) : Exec (Outcome State Pending) := do
  onlyOwner s msg
  guardFree s
  require (s.paused = true) (.reason "TipSplitter: must be paused")
  require (s.withdrawalsPaused = true) (.reason "TipSplitter: withdrawals must be paused")
  let bal := s.balance
  let accounted := s.totalPendingETH
  require (accounted < bal) (.reason "TipSplitter: no stray")
  let amount ← checkedSub bal accounted
  let s ← sendETH self { s with entered := true } s.lesserWallet amount
    (.reason "TipSplitter: sweep failed")
  return .callOut s (.sweepETH amount)

def sweepStrayToken (self : Address) (s : State) (msg : Msg) (token : Address) :
    Exec (Outcome State Pending) := do
  onlyOwner s msg
  guardFree s
  require (s.paused = true) (.reason "TipSplitter: must be paused")
  require (s.withdrawalsPaused = true) (.reason "TipSplitter: withdrawals must be paused")
  require (token ≠ 0) (.reason "TipSplitter: token required")
  let bal ← balanceOf s token
  let accounted := s.totalPendingToken token
  require (accounted < bal) (.reason "TipSplitter: no stray")
  let amount ← checkedSub bal accounted
  let s ← safeTransfer self { s with entered := true } token s.lesserWallet amount
  return .callOut s (.sweepToken token amount)

/-! ## The contract as a whole -/

inductive Call where
  | receive
  | tipETH (hostId : Bytes32) (actor : Address) (contentHash : Bytes32)
  | batchTipETH (hostId : Bytes32) (actors : List Address) (amounts : List Nat)
      (contentHashes : List Bytes32)
  | tipToken (token : Address) (hostId : Bytes32) (actor : Address) (amount : Nat)
      (contentHash : Bytes32)
  | batchTipToken (token : Address) (hostId : Bytes32) (actors : List Address)
      (amounts : List Nat) (contentHashes : List Bytes32)
  | tipAgentETH (hostId : Bytes32) (agentId : Nat) (contentHash : Bytes32)
  | tipAgentToken (token : Address) (hostId : Bytes32) (agentId amount : Nat)
      (contentHash : Bytes32)
  | withdraw (token : Address)
  | registerHost (hostId : Bytes32) (wallet : Address) (feeBps : Nat)
  | updateHost (hostId : Bytes32) (wallet : Address) (feeBps : Nat)
  | setHostActive (hostId : Bytes32) (active : Bool)
  | setTokenAllowed (token : Address) (allowed : Bool)
  | setLesserWallet (newWallet : Address)
  | setAgentIdentityRegistry (registry : Address)
  | pause
  | unpause
  | setWithdrawalsPaused (paused : Bool)
  | setMaxTipAmount (token : Address) (amount : Nat)
  | setMinTipAmount (token : Address) (amount : Nat)
  | transferOwnership (newOwner : Address)
  | acceptOwnership
  | renounceOwnership
  | sweepStrayETH
  | sweepStrayToken (token : Address)
  deriving DecidableEq

/-- A function without call-outs. -/
def finish (x : Exec State) : Exec (Outcome State Pending) := do
  let s ← x
  return .done s

/-- A function that takes no ETH and has no call-outs. -/
def finishNonPayable (msg : Msg) (x : Exec State) : Exec (Outcome State Pending) := do
  nonPayable msg
  finish x

/-- A function that takes no ETH. -/
def outNonPayable (msg : Msg) (x : Exec (Outcome State Pending)) : Exec (Outcome State Pending) := do
  nonPayable msg
  x

/-- The value of a payable call is in the balance before the function runs. -/
def receiveValue (s : State) (msg : Msg) : State := { s with balance := s.balance + msg.value }

def call (self : Address) (s : State) : Msg × Call → Exec (Outcome State Pending)
  | (_, .receive) => .error (.reason "TipSplitter: use tipETH")
  | (msg, .tipETH hostId actor contentHash) =>
      finish (tipETH (receiveValue s msg) msg hostId actor contentHash)
  | (msg, .batchTipETH hostId actors amounts contentHashes) =>
      finish (batchTipETH (receiveValue s msg) msg hostId actors amounts contentHashes)
  | (msg, .tipAgentETH hostId agentId contentHash) =>
      finish (tipAgentETH (receiveValue s msg) msg hostId agentId contentHash)
  | (msg, .tipToken token hostId actor amount contentHash) =>
      outNonPayable msg (tipToken s msg token hostId ⟨actor, amount, contentHash⟩)
  | (msg, .batchTipToken token hostId actors amounts contentHashes) =>
      outNonPayable msg (batchTipToken s msg token hostId actors amounts contentHashes)
  | (msg, .tipAgentToken token hostId agentId amount contentHash) =>
      outNonPayable msg (tipAgentToken s msg token hostId agentId amount contentHash)
  | (msg, .withdraw token) => outNonPayable msg (withdraw self s msg token)
  | (msg, .registerHost hostId wallet feeBps) =>
      finishNonPayable msg (registerHost s msg hostId wallet feeBps)
  | (msg, .updateHost hostId wallet feeBps) =>
      finishNonPayable msg (updateHost s msg hostId wallet feeBps)
  | (msg, .setHostActive hostId active) => finishNonPayable msg (setHostActive s msg hostId active)
  | (msg, .setTokenAllowed token allowed) =>
      finishNonPayable msg (setTokenAllowed s msg token allowed)
  | (msg, .setLesserWallet newWallet) => finishNonPayable msg (setLesserWallet s msg newWallet)
  | (msg, .setAgentIdentityRegistry registry) =>
      finishNonPayable msg (setAgentIdentityRegistry s msg registry)
  | (msg, .pause) => finishNonPayable msg (pause s msg)
  | (msg, .unpause) => finishNonPayable msg (unpause s msg)
  | (msg, .setWithdrawalsPaused paused) => finishNonPayable msg (setWithdrawalsPaused s msg paused)
  | (msg, .setMaxTipAmount token amount) =>
      finishNonPayable msg (setMaxTipAmount s msg token amount)
  | (msg, .setMinTipAmount token amount) =>
      finishNonPayable msg (setMinTipAmount s msg token amount)
  | (msg, .transferOwnership newOwner) => finishNonPayable msg (transferOwnership s msg newOwner)
  | (msg, .acceptOwnership) => finishNonPayable msg (acceptOwnership s msg)
  | (msg, .renounceOwnership) => finishNonPayable msg (renounceOwnership s msg)
  | (msg, .sweepStrayETH) => outNonPayable msg (sweepStrayETH self s msg)
  | (msg, .sweepStrayToken token) => outNonPayable msg (sweepStrayToken self s msg token)

/-- What the contract does when a call-out has returned without failing. -/
def resume (s : State) : Pending → Exec (Outcome State Pending)
  | .pullTokens token hostId tips total balBefore tipper after => do
      let balAfter ← balanceOf s token
      let received ← checkedSub balAfter balBefore
      require (received = total) (.reason "TipSplitter: fee-on-transfer tokens not supported")
      let s ← tips.foldlM (fun s t => _creditToken s hostId token t tipper) s
      return .done { after.foldl emit s with entered := false }
  | .withdrawETH recipient amount =>
      return .done { emit s (.withdrawal 0 recipient amount) with entered := false }
  | .withdrawToken token recipient amount =>
      return .done { emit s (.withdrawal token recipient amount) with entered := false }
  | .sweepETH amount =>
      return .done { emit s (.straySwept 0 s.lesserWallet amount) with entered := false }
  | .sweepToken token amount =>
      return .done { emit s (.straySwept token s.lesserWallet amount) with entered := false }

/-- What the rest of the chain can do to the contract's surroundings at any moment. -/
inductive Move where
  /-- ETH that arrives without a call -/
  | forceETH (amount : Nat)
  /-- a token credits the contract by its own `transfer` or `transferFrom` -/
  | tokenIn (token : Address) (amount : Nat)
  /-- a token sets the contract's balance in any other way -/
  | rebase (token : Address) (balance : Nat)
  | setCode (account : Address) (length : Nat)
  | setAgentWallet (registry : Address) (agentId : Nat) (wallet : Option Address)

def env (s : State) : Move → State
  | .forceETH amount => { s with balance := s.balance + amount }
  | .tokenIn token amount =>
      { s with tokenBalance := Function.update s.tokenBalance token (s.tokenBalance token + amount) }
  | .rebase token balance =>
      { s with tokenBalance := Function.update s.tokenBalance token balance }
  | .setCode account length => { s with codeLength := Function.update s.codeLength account length }
  | .setAgentWallet registry agentId wallet =>
      { s with
        agentWallet := Function.update s.agentWallet registry
          (Function.update (s.agentWallet registry) agentId wallet) }

def contract (self : Address) : Contract State (Msg × Call) Pending Move Revert where
  call := call self
  resume := resume
  env := env
  quiet _ := false

/-- The constructor, run on fresh storage at an address that may already hold ETH and tokens. -/
def deploy (chain : Chain) (lesserWallet initialOwner agentIdentityRegistry : Address) :
    Exec State := do
  require (initialOwner ≠ 0) (.custom "OwnableInvalidOwner")
  require (lesserWallet ≠ 0) (.reason "TipSplitter: invalid lesser wallet")
  require (agentIdentityRegistry ≠ 0 → 0 < chain.codeLength agentIdentityRegistry)
    (.reason "TipSplitter: invalid agent registry")
  return {
    toChain := chain
    owner := initialOwner
    pendingOwner := 0
    paused := false
    entered := false
    lesserWallet
    agentIdentityRegistry
    withdrawalsPaused := false
    hosts := fun _ => ⟨0, 0, false⟩
    pendingETH := fun _ => 0
    pendingToken := fun _ _ => 0
    totalPendingETH := 0
    totalPendingToken := fun _ => 0
    allowedTokens := fun _ => false
    allowedTokenList := []
    _tokenIndex := fun _ => 0
    _hostWalletRefCount := fun _ => 0
    maxTipAmount := fun _ => 0
    minTipAmount := fun _ => 0
    hasCustomMinTipAmount := fun _ => false
    logs := []
    creditedETH := fun _ => 0
    withdrawnETH := fun _ => 0 }

end LesserHost.TipSplitter
