import LesserHost.Go.Basic
import LesserHost.Lib.TypedData
import LesserHost.TipSplitter.AgentTips

set_option autoImplicit false

/-! # Counting agent tips from the logs of the chain

`fetchAgentTipCounts` of the reputation worker asks an Ethereum node for the `AgentTipSent` logs of
the TipSplitter contract, one window of blocks after the other, and counts them by their third
topic. The node is a parameter; `Documented` is the meaning of a filter query. A `History` is what
happened on the chain: transactions of the contract from its deployment on, and logs of others.

The start of a window is a `uint64` that wraps around. The windows tile the range exactly when it
does not (`agent_tip_counts`). -/

namespace LesserHost.SoulReputation

open LesserHost.Solidity CallStack TipSplitter

/-! ## Logs -/

structure Log where
  Address : Solidity.Address
  Topics : List Bytes32
  BlockNumber : UInt64
  deriving DecidableEq

structure FilterQuery where
  FromBlock : Nat
  ToBlock : Nat
  Addresses : List Address
  Topics : List (List Bytes32)
  deriving DecidableEq

/-- Each position of the filter names the topics it takes; an empty position takes every topic. -/
def topicsMatch : List (List Bytes32) → List Bytes32 → Bool
  | [], _ => true
  | _ :: _, [] => false
  | wanted :: filters, topic :: topics =>
      (wanted.isEmpty || wanted.contains topic) && topicsMatch filters topics

def FilterQuery.Matches (q : FilterQuery) (lg : Log) : Bool :=
  decide (q.FromBlock ≤ lg.BlockNumber.toNat) && decide (lg.BlockNumber.toNat ≤ q.ToBlock) &&
    (q.Addresses.isEmpty || q.Addresses.contains lg.Address) && topicsMatch q.Topics lg.Topics

structure TipLogClient where
  FilterLogs : FilterQuery → Except String (List Log)

/-- What a node answers that knows `logs`: the matching ones of the blocks that are asked for. -/
def TipLogClient.Documented (client : TipLogClient) (logs : List Log) : Prop :=
  ∀ q found, q.FromBlock ≤ q.ToBlock → client.FilterLogs q = .ok found →
    found.Perm (logs.filter q.Matches)

/-! ## The worker -/

section Worker

variable (keccak : EIP712.Hash)

def agentTipSentTopic0 : Bytes32 :=
  keccak (Go.bytes "AgentTipSent(bytes32,uint256,address,address,address,uint256,bytes32)")

def agentID (topic : Bytes32) : String :=
  String.ofList ('0' :: 'x' :: Go.hexEncode (EIP712.word topic))

abbrev Counts := String → Nat

def countLog (counts : Counts) (lg : Log) : Counts :=
  match lg.Topics[2]? with
  | none => counts
  | some topic => Function.update counts (agentID topic) (counts (agentID topic) + 1)

/-- The last block of the window that begins at `start`. -/
def windowEnd (start toBlock chunkSize : UInt64) : UInt64 :=
  let last := start + chunkSize - 1
  if toBlock < last then toBlock else last

def windowQuery (contract : Address) (start toBlock chunkSize : UInt64) : FilterQuery where
  FromBlock := start.toNat
  ToBlock := (windowEnd start toBlock chunkSize).toNat
  Addresses := [contract]
  Topics := [[agentTipSentTopic0 keccak]]

/-- The loop of `fetchAgentTipCounts`, for a number of passes. -/
def fetchFrom (client : TipLogClient) (contract : Address) (toBlock chunkSize : UInt64) :
    Nat → UInt64 → Counts → Option (Except String Counts)
  | 0, _, _ => none
  | passes + 1, start, counts =>
      if start ≤ toBlock then
        match client.FilterLogs (windowQuery keccak contract start toBlock chunkSize) with
        | .error e => some (.error e)
        | .ok logs => fetchFrom client contract toBlock chunkSize passes (start + chunkSize)
            (logs.foldl countLog counts)
      else some (.ok counts)

def chunkOrDefault (chunkSize : UInt64) : UInt64 := if chunkSize = 0 then 5000 else chunkSize

def fetchAgentTipCounts (client : Option TipLogClient) (contract : Address)
    (fromBlock toBlock chunkSize : UInt64) (passes : Nat) : Option (Except String Counts) :=
  match client with
  | none => some (.error "evm client is required")
  | some client =>
      if toBlock < fromBlock then some (.ok fun _ => 0)
      else fetchFrom keccak client contract toBlock (chunkOrDefault chunkSize) passes fromBlock
        fun _ => 0

end Worker

/-! ## The events of the contract as logs -/

def signature : Event → String
  | .tipSent .. =>
      "TipSent(bytes32,address,address,address,uint256,uint256,uint256,uint256,bytes32)"
  | .withdrawal .. => "Withdrawal(address,address,uint256)"
  | .hostRegistered .. => "HostRegistered(bytes32,address,uint16)"
  | .hostUpdated .. => "HostUpdated(bytes32,address,uint16)"
  | .hostActiveSet .. => "HostActiveSet(bytes32,bool)"
  | .tokenAllowedSet .. => "TokenAllowedSet(address,bool)"
  | .lesserWalletUpdated .. => "LesserWalletUpdated(address,address)"
  | .maxTipAmountSet .. => "MaxTipAmountSet(address,uint256)"
  | .minTipAmountSet .. => "MinTipAmountSet(address,uint256,uint256)"
  | .withdrawalsPausedSet .. => "WithdrawalsPausedSet(bool)"
  | .straySwept .. => "StraySwept(address,address,uint256)"
  | .agentIdentityRegistryUpdated .. => "AgentIdentityRegistryUpdated(address,address)"
  | .agentTipSent .. => "AgentTipSent(bytes32,uint256,address,address,address,uint256,bytes32)"

def addressTopic (a : Address) : Bytes32 := word a

/-- The indexed parameters. -/
def indexed : Event → List Bytes32
  | .tipSent hostId token tipper .. => [hostId, addressTopic token, addressTopic tipper]
  | .withdrawal token recipient _ => [addressTopic token, addressTopic recipient]
  | .hostRegistered hostId wallet _ => [hostId, addressTopic wallet]
  | .hostUpdated hostId wallet _ => [hostId, addressTopic wallet]
  | .hostActiveSet hostId _ => [hostId]
  | .tokenAllowedSet token _ => [addressTopic token]
  | .lesserWalletUpdated oldWallet newWallet => [addressTopic oldWallet, addressTopic newWallet]
  | .maxTipAmountSet token _ => [addressTopic token]
  | .minTipAmountSet token _ _ => [addressTopic token]
  | .withdrawalsPausedSet _ => []
  | .straySwept token destination _ => [addressTopic token, addressTopic destination]
  | .agentIdentityRegistryUpdated oldRegistry newRegistry =>
      [addressTopic oldRegistry, addressTopic newRegistry]
  | .agentTipSent hostId agentId token .. => [hostId, word agentId, addressTopic token]

/-- The events of the contracts it inherits from. -/
def inheritedSignatures : List String :=
  ["OwnershipTransferStarted(address,address)", "OwnershipTransferred(address,address)",
    "Paused(address)", "Unpaused(address)"]

/-- The texts whose hashes stand in the first topic of the contract's logs. -/
def signatureTexts : Set (List UInt8) :=
  {text | (∃ e, text = Go.bytes (signature e)) ∨ ∃ sig ∈ inheritedSignatures, text = Go.bytes sig}

section Chain

variable (keccak : EIP712.Hash) (addr : Address)

def toLog (block : UInt64) (e : Event) : Log :=
  ⟨addr, keccak (Go.bytes (signature e)) :: indexed e, block⟩

/-- A transaction: everything that happens at the contract, with what it writes down. -/
structure Tx where
  block : UInt64
  actions : List (Action (Msg × Call) Move)

def Tx.run (tx : Tx) (s : State) : Machine (State × List Bytes32) Pending :=
  CallStack.run ((contract addr).noting agentNote) ⟨(s, []), []⟩ tx.actions

/-- Every call is answered within its transaction. -/
def Complete : State → List Tx → Prop
  | _, [] => True
  | s, tx :: txs => (tx.run addr s).stack = [] ∧ Complete (tx.run addr s).state.1 txs

def contractLogs : State → List Tx → List Log
  | _, [] => []
  | s, tx :: txs =>
      ((tx.run addr s).state.1.logs.drop s.logs.length).map (toLog keccak addr tx.block) ++
        contractLogs (tx.run addr s).state.1 txs

/-- The successful agent tips, with their blocks. -/
def successfulTips : State → List Tx → List (UInt64 × Bytes32)
  | _, [] => []
  | s, tx :: txs =>
      (tx.run addr s).state.2.map (tx.block, ·) ++ successfulTips (tx.run addr s).state.1 txs

structure History where
  chain : Chain
  lesserWallet : Address
  owner : Address
  registry : Address
  deployed : State
  deployment : deploy chain lesserWallet owner registry = .ok deployed
  txs : List Tx
  complete : Complete addr deployed txs
  /-- the logs of other contracts and of the inherited ones -/
  others : List Log
  foreign : ∀ lg ∈ others, lg.Address = addr →
    ∃ sig ∈ inheritedSignatures, lg.Topics.head? = some (keccak (Go.bytes sig))

end Chain

def History.logs {keccak : EIP712.Hash} {addr : Address} (h : History keccak addr) : List Log :=
  contractLogs keccak addr h.deployed h.txs ++ h.others

def History.tips {keccak : EIP712.Hash} {addr : Address} (h : History keccak addr) :
    List (UInt64 × Bytes32) :=
  successfulTips addr h.deployed h.txs

/-- The tips of an agent in the blocks from `a` to `b`. -/
def tipsIn (tips : List (UInt64 × Bytes32)) (agent : Bytes32) (a b : Nat) : Nat :=
  tips.countP fun t => decide (a ≤ t.1.toNat) && decide (t.1.toNat ≤ b) && t.2 == agent

end LesserHost.SoulReputation
