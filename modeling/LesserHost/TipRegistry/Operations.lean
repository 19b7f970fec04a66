import LesserHost.ControlPlane.Store
import LesserHost.Go.Text
import LesserHost.Soul.MintPermit
import LesserHost.TipSplitter.Basic

set_option autoImplicit false

/-! # Tip registry operations

The proposals and the execution record of `handlers_tip_registry.go` and `tip_registry_auto_ops.go`. A
proposal makes an operation whose identifier is a hash of its parameters and creates it unless it exists; an
execution is recorded from the receipt of whatever transaction the caller names.

A request is run as a whole. What it finds outside the store is part of its `Env`: the contract's host, the
privileged wallets, the receipt, and the faults of the store. -/

namespace LesserHost.TipRegistry

open LesserHost.Go LesserHost.Solidity
open LesserHost.ControlPlane (AppTheoryError newAppTheoryError)
open LesserHost.Soul (hexAddress)
open LesserHost.TipSplitter (HostConfig)

/-! ## Data -/

def StatusProposed : String := "proposed"
def StatusExecuted : String := "executed"
def StatusFailed : String := "failed"

def KindRegisterHost : String := "register_host"
def KindUpdateHost : String := "update_host"
def KindSetHostActive : String := "set_host_active"
def KindSetToken : String := "set_token_allowed"

def tipTxModeSafe : String := "safe"

structure TipRegistryOperation where
  GSI1PK : String := ""
  ID : String
  Kind : String
  ChainID : Int
  ContractAddress : String
  TxMode : String
  SafeAddress : String
  DomainRaw : String := ""
  DomainNormalized : String := ""
  HostIDHex : String := ""
  WalletAddr : String := ""
  HostFeeBps : Int := 0
  Active : Option Bool := none
  TokenAddress : String := ""
  TokenAllowed : Option Bool := none
  TxTo : String
  TxData : String
  TxValue : String
  ExecTxHash : String := ""
  ExecBlockNumber : Int := 0
  ExecSuccess : Option Bool := none
  ReceiptJSON : String := ""
  SnapshotJSON : String := ""
  Status : String
  CreatedAt : Int
  UpdatedAt : Int
  ProposedAt : Int
  ExecutedAt : Int := 0

/-- `updateGSI1`, as far as the operations are listed by it. -/
def statusIndex (status : String) : String :=
  let status := ToLower (TrimSpace status)
  if status = "" then "" else "TIPREG_OP_STATUS#" ++ status

def TipRegistryOperation.UpdateKeys (o : TipRegistryOperation) : TipRegistryOperation :=
  { o with
    ID := TrimSpace o.ID
    Kind := ToLower (TrimSpace o.Kind)
    ContractAddress := ToLower (TrimSpace o.ContractAddress)
    TxMode := ToLower (TrimSpace o.TxMode)
    SafeAddress := ToLower (TrimSpace o.SafeAddress)
    DomainRaw := TrimSpace o.DomainRaw
    DomainNormalized := ToLower (TrimSpace o.DomainNormalized)
    HostIDHex := ToLower (TrimSpace o.HostIDHex)
    WalletAddr := ToLower (TrimSpace o.WalletAddr)
    TokenAddress := ToLower (TrimSpace o.TokenAddress)
    TxTo := ToLower (TrimSpace o.TxTo)
    TxData := TrimSpace o.TxData
    TxValue := TrimSpace o.TxValue
    ExecTxHash := ToLower (TrimSpace o.ExecTxHash)
    ReceiptJSON := TrimSpace o.ReceiptJSON
    SnapshotJSON := TrimSpace o.SnapshotJSON
    Status := ToLower (TrimSpace o.Status)
    GSI1PK := statusIndex (ToLower (TrimSpace o.Status)) }

structure safeTxPayload where
  SafeAddress : String
  To : String
  Value : String
  Data : String

/-- The members of a registration that an operation is made from. -/
structure TipHostRegistration where
  Kind : String
  DomainRaw : String
  DomainNormalized : String
  HostIDHex : String
  WalletAddr : String
  HostFeeBps : Int

structure Config where
  TipEnabled : Bool
  TipChainID : Int
  TipContractAddress : String
  TipTxMode : String
  TipAdminSafeAddress : String
  TipDefaultHostWalletAddress : String
  TipDefaultHostFeeBps : UInt16
  TipRPCURL : String

structure Receipt where
  Status : Nat
  BlockNumber : Option Int
  GasUsed : Nat

/-- The Ethereum library, the hashes, and the functions of other packages that only decide whether a request
    is refused. -/
structure Libraries where
  keccak : EIP712.Hash
  sha256 : Sha256
  IsHexAddress : String → Bool
  HexToAddress : String → Address
  /-- `Address.Hex`, with its checksum -/
  Hex : Address → String
  HexToHash : String → Bytes32
  NormalizeDomain : String → Except String String
  isReservedWalletAddress : String → Bool
  /-- whether an update of named fields also writes the index keys of the row -/
  updateWritesIndex : Bool
  receiptJSON : String → Receipt → String

/-- What a read of the contract's host yields. -/
inductive HostAnswer where
  | unreachable
  | unreadable
  | host (h : HostConfig)

inductive Fault where
  | none
  /-- the write was not carried out -/
  | lost
  /-- the write was carried out and its answer was lost -/
  | unacknowledged
  deriving DecidableEq

/-- What a request finds outside the rows. -/
structure Env where
  now : Int
  host : HostAnswer
  /-- what `validateNotPrivilegedWalletAddress` says -/
  privileged : Option AppTheoryError
  /-- the client that `dialEthClient` yields, with its answer for a receipt -/
  receipt : Except String (Option Receipt)
  snapshotJSON : String
  writeFault : Fault
  readFault : Bool

/-- The operations by their identifiers. -/
abbrev Store := String → Option TipRegistryOperation

abbrev M := Except AppTheoryError

def check (c : Prop) [Decidable c] (code message : String) : M Unit :=
  if c then .ok () else .error (newAppTheoryError code message)

/-! ## Call data -/

section Encoding

variable (keccak : EIP712.Hash)

/-- `abi.Pack`: the selector of the function, then its arguments as words. -/
def pack (signature : String) (args : List Nat) : List UInt8 :=
  (EIP712.word (keccak (bytes signature))).take 4 ++ args.flatMap EIP712.word

def EncodeRegisterHostCall (hostID : Bytes32) (wallet : Address) (feeBps : Nat) : List UInt8 :=
  pack keccak "registerHost(bytes32,address,uint16)" [hostID, wallet, feeBps]

def EncodeUpdateHostCall (hostID : Bytes32) (wallet : Address) (feeBps : Nat) : List UInt8 :=
  pack keccak "updateHost(bytes32,address,uint16)" [hostID, wallet, feeBps]

def EncodeSetHostActiveCall (hostID : Bytes32) (active : Bool) : List UInt8 :=
  pack keccak "setHostActive(bytes32,bool)" [hostID, active.toNat]

def EncodeSetTokenAllowedCall (token : Address) (allowed : Bool) : List UInt8 :=
  pack keccak "setTokenAllowed(address,bool)" [token, allowed.toNat]

/-- `"0x" + hex.EncodeToString(data)`. -/
def hexData (data : List UInt8) : String := String.ofList ('0' :: 'x' :: hexEncode data)

/-- `common.Hash.Hex`. -/
def hashHex (h : Bytes32) : String := hexData (EIP712.word h)

def HostIDFromDomain (normalizedDomain : String) : Bytes32 :=
  keccak (bytes (ToLower (TrimSpace normalizedDomain)))

end Encoding

/-! ## Identifiers -/

def flagText (label : String) : Option Bool → String
  | none => ""
  | some true => label ++ "1"
  | some false => label ++ "0"

/-- The text that `tipRegistryOpID` hashes. -/
def opText (kind : String) (chainID : Int) (contractTo hostIDHex walletAddr : String) (feeBps : Int)
    (tokenAddr : String) (active tokenAllowed : Option Bool) : String :=
  ToLower (TrimSpace kind) ++ "|" ++ Itoa chainID ++ "|" ++ ToLower (TrimSpace contractTo) ++ "|" ++
    ToLower (TrimSpace hostIDHex) ++ "|" ++ ToLower (TrimSpace walletAddr) ++ "|" ++ Itoa feeBps ++ "|" ++
    ToLower (TrimSpace tokenAddr) ++ flagText "|active=" active ++ flagText "|allowed=" tokenAllowed

/-- The identifier of the operation with this text. -/
def opIDOf (sha256 : Sha256) (text : String) : String :=
  "tipop_" ++ String.ofList (hexEncode ((sha256 (bytes text)).toList.take 16))

def tipRegistryOpID (sha256 : Sha256) (kind : String) (chainID : Int)
    (contractTo hostIDHex walletAddr : String) (feeBps : Int) (tokenAddr : String)
    (active tokenAllowed : Option Bool) : String :=
  opIDOf sha256
    (opText kind chainID contractTo hostIDHex walletAddr feeBps tokenAddr active tokenAllowed)

/-! ## The operation of a proposal -/

section Proposals

variable (lib : Libraries) (cfg : Config) (env : Env)

def requireTipRegistryConfigured : M Unit := do
  check (cfg.TipEnabled = true) "app.conflict" "tip registry is not configured"
  check (0 < cfg.TipChainID ∧ TrimSpace cfg.TipContractAddress ≠ "") "app.conflict"
    "tip registry is not configured"

def requireTipRPCConfigured : M Unit :=
  check (TrimSpace cfg.TipRPCURL ≠ "") "app.conflict" "tip rpc not configured"

def requireTipSafeConfigured : M Unit :=
  check (TrimSpace cfg.TipTxMode = tipTxModeSafe → lib.IsHexAddress (TrimSpace cfg.TipAdminSafeAddress) = true)
    "app.conflict" "tip registry safe is not configured"

/-- `strings.ToLower(contractAddr.Hex())`. -/
def contractText : String := ToLower (lib.Hex (lib.HexToAddress (TrimSpace cfg.TipContractAddress)))

def tipRegistryContractAddress : M String := do
  check (lib.IsHexAddress (TrimSpace cfg.TipContractAddress) = true) "app.conflict"
    "tip registry is not configured"
  return contractText lib cfg

def validateTipHostFeeBps (hostFeeBps : Int) : M Nat := do
  check (0 ≤ hostFeeBps ∧ hostFeeBps ≤ 500) "app.bad_request"
    "host_fee_bps must be between 0 and 500"
  return hostFeeBps.toNat

def validateNotPrivilegedWalletAddress : M Unit :=
  match env.privileged with
  | some e => .error e
  | none => .ok ()

def tipRegistryWalletFromRegistration (reg : TipHostRegistration) : M Address := do
  let walletAddrRaw := TrimSpace reg.WalletAddr
  check (lib.IsHexAddress walletAddrRaw = true) "app.bad_request" "invalid wallet address"
  check (lib.isReservedWalletAddress walletAddrRaw = false) "app.bad_request" "wallet_address is reserved"
  validateNotPrivilegedWalletAddress env
  return lib.HexToAddress walletAddrRaw

def tipRegistrySafeAddress : M String := do
  let safeAddr := ToLower (TrimSpace cfg.TipAdminSafeAddress)
  check (cfg.TipTxMode = tipTxModeSafe → lib.IsHexAddress safeAddr = true) "app.conflict"
    "tip registry safe is not configured"
  return safeAddr

def encodeTipRegistryOperationData (kind : String) (hostID : Bytes32) (wallet : Address) (fee : Nat) :
    M (List UInt8 × String) :=
  let kind := ToLower (TrimSpace kind)
  if kind = KindRegisterHost then .ok (EncodeRegisterHostCall lib.keccak hostID wallet fee, kind)
  else if kind = KindUpdateHost then .ok (EncodeUpdateHostCall lib.keccak hostID wallet fee, kind)
  else .error (newAppTheoryError "app.bad_request" "invalid kind")

/-- An operation with the transaction that is returned along with it. -/
abbrev Proposal := TipRegistryOperation × safeTxPayload

/-- The operation of `createTipRegistryOperationForRegistration`. -/
def operationForRegistration (reg : TipHostRegistration) : M Proposal := do
  let txTo ← tipRegistryContractAddress lib cfg
  let hostID := lib.HexToHash (TrimSpace reg.HostIDHex)
  let fee ← validateTipHostFeeBps reg.HostFeeBps
  let walletAddr ← tipRegistryWalletFromRegistration lib env reg
  let walletAddrLower := ToLower (lib.Hex walletAddr)
  let (data, kind) ← encodeTipRegistryOperationData lib reg.Kind hostID walletAddr fee
  let safeAddr ← tipRegistrySafeAddress lib cfg
  let op : TipRegistryOperation :=
    { ID := tipRegistryOpID lib.sha256 kind cfg.TipChainID txTo (hashHex hostID) walletAddrLower
        reg.HostFeeBps "" none none
      Kind := kind
      ChainID := cfg.TipChainID
      ContractAddress := txTo
      TxMode := cfg.TipTxMode
      SafeAddress := safeAddr
      DomainRaw := reg.DomainRaw
      DomainNormalized := reg.DomainNormalized
      HostIDHex := ToLower (hashHex hostID)
      WalletAddr := walletAddrLower
      HostFeeBps := reg.HostFeeBps
      TxTo := txTo
      TxData := hexData data
      TxValue := "0"
      Status := StatusProposed
      CreatedAt := env.now
      UpdatedAt := env.now
      ProposedAt := env.now }
  return (op.UpdateKeys, ⟨safeAddr, txTo, "0", hexData data⟩)

def requireTipRegistryHostRegistered : M Unit := do
  requireTipRPCConfigured cfg
  check (lib.IsHexAddress (TrimSpace cfg.TipContractAddress) = true) "app.conflict"
    "tip registry is not configured"
  match env.host with
  | .unreachable => .error (newAppTheoryError "app.internal" "failed to connect to rpc")
  | .unreadable => .error (newAppTheoryError "app.internal" "failed to read host state")
  | .host h => check (h.wallet ≠ 0) "app.bad_request" "host is not registered"

def normalizeDomain (domain : String) : M String :=
  match lib.NormalizeDomain domain with
  | .error e => .error (newAppTheoryError "app.bad_request" e)
  | .ok d => .ok d

/-- The operation of `handleSetTipRegistryHostActive`. -/
def operationSetHostActive (domain : String) (active : Bool) : M Proposal := do
  requireTipRegistryConfigured cfg
  requireTipSafeConfigured lib cfg
  let domainNormalized ← normalizeDomain lib domain
  let hostID := HostIDFromDomain lib.keccak domainNormalized
  requireTipRegistryHostRegistered lib cfg env
  let data := EncodeSetHostActiveCall lib.keccak hostID active
  let txTo := contractText lib cfg
  let op : TipRegistryOperation :=
    { ID := tipRegistryOpID lib.sha256 KindSetHostActive cfg.TipChainID txTo (hashHex hostID) "" 0 ""
        (some active) none
      Kind := KindSetHostActive
      ChainID := cfg.TipChainID
      ContractAddress := txTo
      TxMode := cfg.TipTxMode
      SafeAddress := ToLower (TrimSpace cfg.TipAdminSafeAddress)
      DomainNormalized := domainNormalized
      HostIDHex := ToLower (hashHex hostID)
      Active := some active
      TxTo := txTo
      TxData := hexData data
      TxValue := "0"
      Status := StatusProposed
      CreatedAt := env.now
      UpdatedAt := env.now
      ProposedAt := env.now }
  return (op.UpdateKeys, ⟨ToLower (TrimSpace cfg.TipAdminSafeAddress), txTo, "0", hexData data⟩)

/-- The operation of `handleSetTipRegistryTokenAllowed`. -/
def operationSetTokenAllowed (tokenAddress : String) (allowed : Bool) : M Proposal := do
  requireTipRegistryConfigured cfg
  requireTipSafeConfigured lib cfg
  let tokenAddr := TrimSpace tokenAddress
  check (lib.IsHexAddress tokenAddr = true ∧
    EqualFold tokenAddr "0x0000000000000000000000000000000000000000" = false) "app.bad_request"
    "invalid token_address"
  let token := lib.HexToAddress tokenAddr
  let data := EncodeSetTokenAllowedCall lib.keccak token allowed
  let txTo := contractText lib cfg
  let op : TipRegistryOperation :=
    { ID := tipRegistryOpID lib.sha256 KindSetToken cfg.TipChainID txTo "" "" 0 (lib.Hex token) none
        (some allowed)
      Kind := KindSetToken
      ChainID := cfg.TipChainID
      ContractAddress := txTo
      TxMode := cfg.TipTxMode
      SafeAddress := ToLower (TrimSpace cfg.TipAdminSafeAddress)
      TokenAddress := ToLower (lib.Hex token)
      TokenAllowed := some allowed
      TxTo := txTo
      TxData := hexData data
      TxValue := "0"
      Status := StatusProposed
      CreatedAt := env.now
      UpdatedAt := env.now
      ProposedAt := env.now }
  return (op.UpdateKeys, ⟨ToLower (TrimSpace cfg.TipAdminSafeAddress), txTo, "0", hexData data⟩)

def validateTipRegistryConfigForAutoOps : M Unit := do
  check (0 < cfg.TipChainID ∧ TrimSpace cfg.TipContractAddress ≠ "") "app.conflict"
    "tip registry is not configured"
  check (cfg.TipTxMode = tipTxModeSafe → lib.IsHexAddress (TrimSpace cfg.TipAdminSafeAddress) = true)
    "app.conflict" "tip registry safe is not configured"
  check (lib.IsHexAddress (TrimSpace cfg.TipDefaultHostWalletAddress) = true) "app.conflict"
    "tip default host wallet is not configured"
  check (lib.isReservedWalletAddress cfg.TipDefaultHostWalletAddress = false) "app.conflict"
    "tip default host wallet is reserved"
  check (cfg.TipDefaultHostFeeBps ≤ 500) "app.conflict" "tip default host fee is not configured"

/-- The empty kind says that there is nothing to do. -/
def determineAutoTipRegistryOpKind (desiredWallet : Address) (desiredFee : UInt16) : String :=
  if TrimSpace cfg.TipRPCURL = "" then KindRegisterHost
  else
    match env.host with
    | .unreachable => KindRegisterHost
    | .unreadable => KindRegisterHost
    | .host h =>
        if h.wallet = 0 then KindRegisterHost
        else if h.wallet = desiredWallet ∧ h.feeBps = desiredFee.toNat ∧ h.isActive = true then ""
        else if h.wallet ≠ desiredWallet ∨ h.feeBps ≠ desiredFee.toNat then KindUpdateHost
        else KindSetHostActive

/-- The call data, with the wallet, the fee and the flag that the operation is made from. -/
def encodeAutoTipRegistryTx (opKind : String) (hostID : Bytes32) (desiredWallet : Address)
    (desiredFee : UInt16) : M (String × String × Int × Option Bool) :=
  if opKind = KindRegisterHost then
    .ok (hexData (EncodeRegisterHostCall lib.keccak hostID desiredWallet desiredFee.toNat),
      ToLower (lib.Hex desiredWallet), desiredFee.toNat, none)
  else if opKind = KindUpdateHost then
    .ok (hexData (EncodeUpdateHostCall lib.keccak hostID desiredWallet desiredFee.toNat),
      ToLower (lib.Hex desiredWallet), desiredFee.toNat, none)
  else if opKind = KindSetHostActive then
    .ok (hexData (EncodeSetHostActiveCall lib.keccak hostID true), "", 0, some true)
  else .error (newAppTheoryError "app.internal" "failed to encode transaction")

/-- An operation without a wallet has none to validate. -/
def validateAutoWallet (walletAddr : String) : M Unit :=
  if walletAddr ≠ "" then validateNotPrivilegedWalletAddress env else .ok ()

/-- The operation of `ensureTipRegistryHostOperation` for the kind that the host needs. -/
def operationEnsureKind (opKind domainNormalized domainRaw : String) : M Proposal := do
  let desiredWallet := lib.HexToAddress (TrimSpace cfg.TipDefaultHostWalletAddress)
  let hostID := HostIDFromDomain lib.keccak domainNormalized
  let (txData, walletAddr, hostFeeBps, active) ← encodeAutoTipRegistryTx lib opKind hostID desiredWallet
    cfg.TipDefaultHostFeeBps
  validateAutoWallet env walletAddr
  let txTo := contractText lib cfg
  let safeAddr := ToLower (TrimSpace cfg.TipAdminSafeAddress)
  let op : TipRegistryOperation :=
    { ID := tipRegistryOpID lib.sha256 opKind cfg.TipChainID txTo (hashHex hostID) walletAddr hostFeeBps ""
        active none
      Kind := opKind
      ChainID := cfg.TipChainID
      ContractAddress := txTo
      TxMode := cfg.TipTxMode
      SafeAddress := safeAddr
      DomainRaw := TrimSpace domainRaw
      DomainNormalized := domainNormalized
      HostIDHex := ToLower (hashHex hostID)
      WalletAddr := walletAddr
      HostFeeBps := hostFeeBps
      Active := active
      TxTo := txTo
      TxData := txData
      TxValue := "0"
      Status := StatusProposed
      CreatedAt := env.now
      UpdatedAt := env.now
      ProposedAt := env.now }
  return (op.UpdateKeys, ⟨safeAddr, txTo, "0", txData⟩)

/-- The operation of `ensureTipRegistryHostOperation`; `none` where the host is as it should be. -/
def operationEnsureHost (domainNormalized domainRaw : String) : M (Option Proposal) := do
  check (cfg.TipEnabled = true) "app.conflict" "tip registry is not configured"
  validateTipRegistryConfigForAutoOps lib cfg
  check (0 < cfg.TipChainID ∧ TrimSpace cfg.TipContractAddress ≠ "") "app.conflict"
    "tip registry is not configured"
  let desiredWallet := lib.HexToAddress (TrimSpace cfg.TipDefaultHostWalletAddress)
  let opKind := determineAutoTipRegistryOpKind cfg env desiredWallet cfg.TipDefaultHostFeeBps
  if opKind = "" then .ok none
  else some <$> operationEnsureKind lib cfg env opKind (TrimSpace domainNormalized) domainRaw

end Proposals

/-! ## The rows -/

inductive GetError where
  | notFound
  | other

def getTipRegistryOperation (s : Store) (env : Env) (id : String) :
    Except GetError TipRegistryOperation :=
  let id := TrimSpace id
  if id = "" ∨ env.readFault = true then .error .other
  else
    match s id with
    | none => .error .notFound
    | some op => .ok op

/-- `Create` under the condition that there is no row yet. -/
def Store.createAbsent (s : Store) (op : TipRegistryOperation) : Store :=
  match s op.ID with
  | none => Function.update s op.ID (some op)
  | some _ => s

/-- The proposals end in this; three of the handlers have a copy of their own. -/
def createOrLoadTipRegistryOperation (s : Store) (env : Env) (op : TipRegistryOperation) :
    M TipRegistryOperation × Store :=
  match env.writeFault with
  | .lost => (.error (newAppTheoryError "app.internal" "failed to create operation"), s)
  | .unacknowledged =>
      (.error (newAppTheoryError "app.internal" "failed to create operation"), s.createAbsent op)
  | .none =>
      match s op.ID with
      | none => (.ok op, s.createAbsent op)
      | some _ =>
          -- the row is there already, whatever has become of it
          match getTipRegistryOperation s env op.ID with
          | .ok existing => (.ok existing, s)
          | .error _ => (.ok op, s)

/-! ## The execution record -/

def isHexChar (c : Char) : Bool :=
  isLowerHexChar c || (decide ('A' ≤ c) && decide (c ≤ 'F'))

def isHexHash32 (value : String) : Bool :=
  let value := TrimPrefix (TrimSpace value) "0x"
  decide (len value = 64) && value.toList.all isHexChar

def tipRegistryBlockNumber (receipt : Receipt) : Int :=
  match receipt.BlockNumber with
  | none => 0
  | some n => if n < 0 ∨ 2 ^ 63 ≤ n then 0 else n

section Record

variable (lib : Libraries)

/-- The record that the receipt of `txHash` makes of an operation. -/
def executionUpdate (env : Env) (op : TipRegistryOperation) (txHash : String) (receipt : Receipt) :
    TipRegistryOperation :=
  ({ op with
      ExecTxHash := ToLower txHash
      ExecBlockNumber := tipRegistryBlockNumber receipt
      ExecSuccess := some (decide (receipt.Status = 1))
      ReceiptJSON := lib.receiptJSON txHash receipt
      SnapshotJSON := env.snapshotJSON
      Status := if receipt.Status = 1 then StatusExecuted else StatusFailed
      UpdatedAt := env.now
      ExecutedAt := env.now } : TipRegistryOperation).UpdateKeys

/-- `Update` of the named fields. -/
def Store.updateExecution (s : Store) (u : TipRegistryOperation) : Store :=
  Function.update s u.ID ((s u.ID).map fun row =>
    { row with
      GSI1PK := if lib.updateWritesIndex then u.GSI1PK else row.GSI1PK
      ExecTxHash := u.ExecTxHash
      ExecBlockNumber := u.ExecBlockNumber
      ExecSuccess := u.ExecSuccess
      ReceiptJSON := u.ReceiptJSON
      SnapshotJSON := u.SnapshotJSON
      Status := u.Status
      UpdatedAt := u.UpdatedAt
      ExecutedAt := u.ExecutedAt })

/-- `handleRecordTipRegistryOperationExecution` up to its write: the record and the hash it is from. -/
def executionRecord (cfg : Config) (s : Store) (env : Env) (id execTxHash : String) :
    M TipRegistryOperation := do
  requireTipRegistryConfigured cfg
  requireTipRPCConfigured cfg
  let id := TrimSpace id
  check (id ≠ "") "app.bad_request" "id is required"
  let txHash := TrimSpace execTxHash
  check (isHexHash32 txHash = true) "app.bad_request" "exec_tx_hash is required"
  match getTipRegistryOperation s env id with
  | .error .notFound => .error (newAppTheoryError "app.not_found" "operation not found")
  | .error .other => .error (newAppTheoryError "app.internal" "internal error")
  | .ok op =>
      match env.receipt with
      | .error _ => .error (newAppTheoryError "app.internal" "failed to connect to rpc")
      | .ok none => .error (newAppTheoryError "app.bad_request" "receipt not found")
      | .ok (some receipt) => .ok (executionUpdate lib env op txHash receipt)

def handleRecordTipRegistryOperationExecution (cfg : Config) (s : Store) (env : Env)
    (id execTxHash : String) : M TipRegistryOperation × Store :=
  match executionRecord lib cfg s env id execTxHash with
  | .error e => (.error e, s)
  | .ok update =>
      if (s update.ID).isNone then
        (.error (newAppTheoryError "app.internal" "failed to update operation"), s)
      else
        match env.writeFault with
        | .none => (.ok update, s.updateExecution lib update)
        | .lost => (.error (newAppTheoryError "app.internal" "failed to update operation"), s)
        | .unacknowledged => (.error (newAppTheoryError "app.internal" "failed to update operation"),
            s.updateExecution lib update)

/-! ## Requests -/

inductive Proposed where
  | registration (reg : TipHostRegistration)
  | setHostActive (domain : String) (active : Bool)
  | setTokenAllowed (tokenAddress : String) (allowed : Bool)
  | ensureHost (domainNormalized domainRaw : String)

inductive Request where
  | propose (cfg : Config) (env : Env) (p : Proposed)
  | recordExecution (cfg : Config) (env : Env) (id execTxHash : String)

inductive Response where
  | proposed (op : TipRegistryOperation) (safeTx : safeTxPayload)
  | noop
  | recorded (op : TipRegistryOperation)

/-- The operation of a proposal, before it is stored. -/
def Proposed.operation (cfg : Config) (env : Env) : Proposed → M (Option Proposal)
  | .registration reg => some <$> operationForRegistration lib cfg env reg
  | .setHostActive domain active => some <$> operationSetHostActive lib cfg env domain active
  | .setTokenAllowed tokenAddress allowed =>
      some <$> operationSetTokenAllowed lib cfg env tokenAddress allowed
  | .ensureHost domainNormalized domainRaw =>
      operationEnsureHost lib cfg env domainNormalized domainRaw

def handle (s : Store) : Request → M Response × Store
  | .propose cfg env p =>
      match p.operation lib cfg env with
      | .error e => (.error e, s)
      | .ok none => (.ok .noop, s)
      | .ok (some (op, safeTx)) =>
          let (r, s) := createOrLoadTipRegistryOperation s env op
          (r.map fun op => .proposed op safeTx, s)
  | .recordExecution cfg env id execTxHash =>
      let (r, s) := handleRecordTipRegistryOperationExecution lib cfg s env id execTxHash
      (r.map .recorded, s)

def step (s : Store) (r : Request) : Store := (handle lib s r).2

end Record

/-- The operations that a listing of a status shows. -/
def Listed (s : Store) (status : String) (op : TipRegistryOperation) : Prop :=
  ∃ id, s id = some op ∧ op.GSI1PK = "TIPREG_OP_STATUS#" ++ status

end LesserHost.TipRegistry
