import LesserHost.Lib.Abi
import LesserHost.ControlPlane.Server
import LesserHost.Go.Bytes
import LesserHost.Go.JSONText
import LesserHost.SoulContacts.Sync

set_option autoImplicit false

/-! # Answers of the ENS gateway

`handlers_ens_gateway.go`: a resolver call for a name is answered from the records of the name and of its
agent, through a cache. A call for the address under a coin type is answered for Ethereum, whose number is
60; but the number is compared by its low 64 bits. -/

namespace LesserHost.Ens

open LesserHost.Go
open LesserHost.ControlPlane (AppTheoryError newAppTheoryError ValidateManagedHandle)
open LesserHost.SoulContacts (TrimSuffix normalizeSoulENSName)

/-! ## Names and addresses -/

def ManagedENSRootName : String := "lessersoul.eth"

def normalizeENSName (name : String) : String := TrimSuffix (ToLower (TrimSpace name)) "."

def IsLegacyBareManagedENSName (name : String) : Bool :=
  match Split (TrimSuffix (ToLower (TrimSpace name)) ".") '.' with
  | [handle, second, third] =>
      Join [second, third] "." == ManagedENSRootName && (ValidateManagedHandle handle).toBool
  | _ => false

/-- The digits of a hexadecimal text behind its optional prefix. -/
def hexDigits (s : String) : List Char :=
  if HasPrefix s "0x" || HasPrefix s "0X" then s.toList.drop 2 else s.toList

/-- `common.IsHexAddress` -/
def IsHexAddress (s : String) : Bool :=
  (hexDigits s).length == 40 && (hexDigits s).all fun c => (JSONText.hexValue c).isSome

/-- Two digits make a byte. -/
def bytesOfHex : List Char → Bytes
  | high :: low :: rest =>
      UInt8.ofNat (16 * (JSONText.hexValue high).getD 0 + (JSONText.hexValue low).getD 0) :: bytesOfHex rest
  | _ => []

/-- `common.HexToAddress(s).Bytes()`, for the texts that `IsHexAddress` accepts. -/
def HexToAddress (s : String) : Bytes := bytesOfHex (hexDigits s)

theorem length_bytesOfHex (l : List Char) : (bytesOfHex l).length = l.length / 2 := by
  induction l using bytesOfHex.induct with
  | case1 high low rest ih =>
      rw [bytesOfHex, List.length_cons, ih, List.length_cons, List.length_cons]
      omega
  | case2 l hshort =>
      rcases l with _ | ⟨c, _ | ⟨d, rest⟩⟩
      · rfl
      · simp [bytesOfHex]
      · exact absurd rfl (hshort c d rest)

theorem length_HexToAddress {s : String} (h : IsHexAddress s = true) : (HexToAddress s).length = 20 := by
  rw [IsHexAddress, Bool.and_eq_true, beq_iff_eq] at h
  rw [HexToAddress, length_bytesOfHex, h.1]

/-! ## Records -/

structure SoulAgentENSResolution where
  AgentID : String
  SoulRegistrationURI : String
  MCPEndpoint : String
  ActivityPubURI : String
  Email : String
  Phone : String
  Description : String
  Status : String

structure SoulAgentIdentity where
  Wallet : String
  Status : String
  LifecycleStatus : String
  SuccessorAgentID : String

structure SoulAgentChannel where
  Identifier : String

structure ensGatewayMaterial where
  ENSName : String
  AgentID : String
  Wallet : String
  Status : String
  SuccessorAgentID : String
  RegistrationURI : String
  MCPEndpoint : String
  ActivityPubURI : String
  Email : String
  Phone : String
  Description : String
  SuccessorENSName : String
  SuccessorENSOK : Bool

def noMaterial : ensGatewayMaterial := ⟨"", "", "", "", "", "", "", "", "", "", "", "", false⟩

/-- What a read of a row can give. -/
inductive Read (Row : Type) where
  | row (r : Row)
  | notFound
  | failed

/-- The rows by partition key; each kind has one sort key. -/
structure DB where
  resolution : String → Read SoulAgentENSResolution
  identity : String → Read SoulAgentIdentity
  ensChannel : String → Read SoulAgentChannel

structure ensGatewayCacheEntry where
  material : ensGatewayMaterial
  ok : Bool
  expiresAt : Time

abbrev ensGatewayCache := List (String × ensGatewayCacheEntry)

def ensGatewayCacheMaxEntries : Nat := 512

def ensGatewayCacheEntry.expired (entry : ensGatewayCacheEntry) (now : Time) : Bool :=
  !entry.expiresAt.IsZero && !now.Before entry.expiresAt

structure Server where
  db : DB
  ensCache : Option ensGatewayCache
  ENSGatewaySignatureTTLSeconds : Int

/-! ## The cache -/

def ensGatewayCache.get (c : ensGatewayCache) (key : String) (now : Time) :
    Option (ensGatewayMaterial × Bool) × ensGatewayCache :=
  match c.lookup key with
  | none => (none, c)
  | some entry =>
      if entry.expired now then (none, c.filter fun item => item.1 != key)
      else (some (entry.material, entry.ok), c)

def ensGatewayCache.put (c : ensGatewayCache) (now : Time) (key : String) (entry : ensGatewayCacheEntry) :
    ensGatewayCache :=
  let live := c.filter fun item => !item.2.expired now
  if ensGatewayCacheMaxEntries ≤ live.length then live
  else (key, entry) :: live.filter fun item => item.1 != key

def cacheENSGatewayMaterial (s : Server) (ensName : String) (material : ensGatewayMaterial) (ok : Bool)
    (now : Time) : Server :=
  let ttlSeconds :=
    if 0 < s.ENSGatewaySignatureTTLSeconds ∧ s.ENSGatewaySignatureTTLSeconds < 30 then
      s.ENSGatewaySignatureTTLSeconds
    else 30
  { s with ensCache := s.ensCache.map fun c =>
      c.put now ensName ⟨material, ok, now.Add (ttlSeconds * Second)⟩ }

/-- A cached answer, or that a name of the old form has none. -/
def cachedENSGatewayMaterialOrLegacyMiss (s : Server) (ensName : String) (now : Time) :
    Option (ensGatewayMaterial × Bool) × Server :=
  if IsLegacyBareManagedENSName ensName then
    (some (noMaterial, false), cacheENSGatewayMaterial s ensName noMaterial false now)
  else
    match s.ensCache with
    | none => (none, s)
    | some c => ((c.get ensName now).1, { s with ensCache := some (c.get ensName now).2 })

/-! ## Loading -/

def bestEffortSuccessorENSName (db : DB) (successorAgentID : String) : String × Bool :=
  let successorAgentID := ToLower (TrimSpace successorAgentID)
  if successorAgentID = "" then ("", false)
  else
    match db.ensChannel ("SOUL#AGENT#" ++ successorAgentID) with
    | .notFound | .failed => ("", false)
    | .row ch =>
        let name := normalizeENSName (TrimSpace ch.Identifier)
        if name = "" then ("", false) else (name, true)

def firstNonEmpty (texts : List String) : String := ((texts.map TrimSpace).find? (· ≠ "")).getD ""

def materialOf (db : DB) (ensName agentID : String) (res : SoulAgentENSResolution)
    (identity : SoulAgentIdentity) : ensGatewayMaterial :=
  let successor :=
    if TrimSpace identity.SuccessorAgentID = "" then ("", false)
    else bestEffortSuccessorENSName db (TrimSpace identity.SuccessorAgentID)
  { ENSName := ensName
    AgentID := agentID
    Wallet := TrimSpace identity.Wallet
    Status := firstNonEmpty [identity.LifecycleStatus, identity.Status, res.Status]
    SuccessorAgentID := TrimSpace identity.SuccessorAgentID
    RegistrationURI := TrimSpace res.SoulRegistrationURI
    MCPEndpoint := TrimSpace res.MCPEndpoint
    ActivityPubURI := TrimSpace res.ActivityPubURI
    Email := TrimSpace res.Email
    Phone := TrimSpace res.Phone
    Description := TrimSpace res.Description
    SuccessorENSName := successor.1
    SuccessorENSOK := successor.2 }

/-- The material of a name, with whether there is any; `none` where a read failed. -/
def loadENSGatewayMaterial (s : Server) (now : Time) (ensName : String) :
    Option (ensGatewayMaterial × Bool) × Server :=
  let ensName := normalizeENSName ensName
  if ensName = "" then (some (noMaterial, false), s)
  else
    match cachedENSGatewayMaterialOrLegacyMiss s ensName now with
    | (some hit, s) => (some hit, s)
    | (none, s) =>
        let miss := (some (noMaterial, false), cacheENSGatewayMaterial s ensName noMaterial false now)
        match s.db.resolution ("ENS#NAME#" ++ normalizeSoulENSName ensName) with
        | .notFound => miss
        | .failed => (none, s)
        | .row res =>
            let agentID := TrimSpace res.AgentID
            if agentID = "" then miss
            else
              match s.db.identity ("SOUL#AGENT#" ++ agentID) with
              | .notFound => miss
              | .failed => (none, s)
              | .row identity =>
                  let material := materialOf s.db ensName agentID res identity
                  (some (material, true), cacheENSGatewayMaterial s ensName material true now)

/-! ## Answers -/

def badRequest (message : String) : AppTheoryError := ⟨"ccip.bad_request", message⟩

/-- `ensBytesOutputs.Pack` -/
def packENSBytes (value : Bytes) : Bytes := Abi.encode [.bytes value]

/-- The low 64 bits. -/
def Uint64 (n : Nat) : Nat := n % 2 ^ 64

def answerENSAddrCoinQuery (s : Server) (now : Time) (ensName : String) (node : Nat) (args : Bytes) :
    Except AppTheoryError Bytes × Server :=
  match Abi.decode args [.word, .word] with
  | some [.word qNode, .word coinType] =>
      if qNode ≠ node then (.error (badRequest "node mismatch"), s)
      else if Uint64 coinType ≠ 60 then (.ok (packENSBytes []), s)
      else
        match loadENSGatewayMaterial s now ensName with
        | (none, s) => (.error (newAppTheoryError "app.internal" "internal error"), s)
        | (some (material, ok), s) =>
            if ok = false ∨ IsHexAddress material.Wallet = false then (.ok (packENSBytes []), s)
            else (.ok (packENSBytes (HexToAddress material.Wallet)), s)
  | _ => (.error (badRequest "invalid addr query"), s)

theorem length_packENSBytes (value : Bytes) :
    (packENSBytes value).length = 64 + value.length + (32 - value.length % 32) % 32 := by
  simp only [packENSBytes, Abi.encode, Abi.encodeFrom, Abi.tailOf, Abi.padded, List.append_nil,
    List.length_append, EIP712.length_word, List.length_replicate]
  omega

theorem packENSBytes_address {wallet : String} (h : IsHexAddress wallet = true) :
    packENSBytes (HexToAddress wallet) ≠ packENSBytes [] := by
  intro heq
  have hlength := congrArg List.length heq
  rw [length_packENSBytes, length_packENSBytes, length_HexToAddress h, List.length_nil] at hlength
  omega

/-- No address is known for the name: it has no material, or the wallet there is not an address. -/
def NoWallet (s : Server) (now : Time) (ensName : String) : Prop :=
  ∃ material ok, (loadENSGatewayMaterial s now ensName).1 = some (material, ok) ∧
    (ok = false ∨ IsHexAddress material.Wallet = false)

section Answer

variable {s : Server} {now : Time} {ensName : String} {node coinType : Nat} {args : Bytes}

theorem answer_other (hargs : Abi.decode args [.word, .word] = some [.word node, .word coinType])
    (hcoin : coinType % 2 ^ 64 ≠ 60) :
    (answerENSAddrCoinQuery s now ensName node args).1 = .ok (packENSBytes []) := by
  simp only [answerENSAddrCoinQuery, hargs]
  rw [if_neg (not_not.2 rfl), if_pos (by exact hcoin)]

theorem answer_ethereum (hargs : Abi.decode args [.word, .word] = some [.word node, .word coinType])
    (hcoin : coinType % 2 ^ 64 = 60) :
    (answerENSAddrCoinQuery s now ensName node args).1 = .ok (packENSBytes []) ↔ NoWallet s now ensName := by
  simp only [answerENSAddrCoinQuery, hargs, NoWallet]
  rw [if_neg (not_not.2 rfl), if_neg (by exact not_not.2 hcoin)]
  rcases hload : loadENSGatewayMaterial s now ensName with ⟨_ | ⟨material, ok⟩, s'⟩
  · simp only [reduceCtorEq, false_and, exists_false]
  · dsimp only
    split_ifs with hnone
    · exact iff_of_true rfl ⟨material, ok, rfl, hnone⟩
    · rw [not_or, Bool.not_eq_false, Bool.not_eq_false] at hnone
      refine iff_of_false (fun h => packENSBytes_address hnone.2 (Except.ok.inj h)) ?_
      rintro ⟨m, o, heq, h⟩
      cases heq
      simp only [hnone.1, hnone.2, Bool.true_eq_false, or_self] at h

/-- **Other coins.** The answer for a coin type other than 60 is empty, unless the number has the low 64 bits
of 60 and the name has a wallet. -/
theorem other_coins_empty (hargs : Abi.decode args [.word, .word] = some [.word node, .word coinType]) :
    (coinType ≠ 60 → (answerENSAddrCoinQuery s now ensName node args).1 = .ok (packENSBytes [])) ↔
      coinType = 60 ∨ coinType % 2 ^ 64 ≠ 60 ∨ NoWallet s now ensName := by
  by_cases hcoin : coinType % 2 ^ 64 = 60
  · rw [answer_ethereum hargs hcoin]
    simp only [hcoin, ne_eq, not_true_eq_false, false_or]
    exact or_iff_not_imp_left.symm
  · exact iff_of_true (fun _ => answer_other hargs hcoin) (.inr (.inl hcoin))

end Answer

/-- An agent with a wallet under every name. -/
def walletServer : Server where
  db :=
    { resolution := fun _ => .row ⟨"0x01", "", "", "", "", "", "", ""⟩
      identity := fun _ => .row ⟨"0x00000000000000000000000000000000000000aa", "active", "", ""⟩
      ensChannel := fun _ => .notFound }
  ensCache := none
  ENSGatewaySignatureTTLSeconds := 300

theorem walletServer_load : ((loadENSGatewayMaterial walletServer ⟨0, .utc⟩ "a").1.map fun found =>
    (IsHexAddress found.1.Wallet, found.2)) = some (true, true) := by decide +kernel

theorem walletServer_wallet : ¬ NoWallet walletServer ⟨0, .utc⟩ "a" := by
  rintro ⟨material, ok, hload, hnone⟩
  have h := walletServer_load
  rw [hload, Option.map_some, Option.some.injEq, Prod.mk.injEq] at h
  obtain ⟨hwallet, hok⟩ : IsHexAddress material.Wallet = true ∧ ok = true := h
  simp only [hwallet, hok, Bool.true_eq_false, or_self] at hnone

/-- `60 + 2^64` is answered as Ethereum. -/
theorem not_other_coins_empty :
    ¬ ∀ (s : Server) (now : Time) (ensName : String) (node coinType : Nat) (args : Bytes),
      Abi.decode args [.word, .word] = some [.word node, .word coinType] → coinType ≠ 60 →
        (answerENSAddrCoinQuery s now ensName node args).1 = .ok (packENSBytes []) := by
  intro h
  have hargs : Abi.decode (Abi.encode [.word 0, .word (60 + 2 ^ 64)]) [.word, .word] =
      some [.word 0, .word (60 + 2 ^ 64)] := by decide +kernel
  exact walletServer_wallet ((answer_ethereum hargs (by decide)).1
    (h walletServer ⟨0, .utc⟩ "a" 0 _ _ hargs (by decide)))

theorem other_coins_empty_two :
    (2 ≠ 60 → (answerENSAddrCoinQuery walletServer ⟨0, .utc⟩ "a" 0
        (Abi.encode [.word 0, .word 2])).1 = .ok (packENSBytes [])) ↔
      2 = 60 ∨ 2 % 2 ^ 64 ≠ 60 ∨ NoWallet walletServer ⟨0, .utc⟩ "a" :=
  other_coins_empty (by decide +kernel)

end LesserHost.Ens
