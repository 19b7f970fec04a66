import LesserHost.Lib.Keyed
import LesserHost.Soul.Capabilities
import LesserHost.SoulContacts.Owners
import LesserHost.SoulLifecycle.Status

set_option autoImplicit false

/-! # Index rows of agents

The rows that lead from a wallet, a domain or a capability to an agent (`soul_agent_index_items.go`), and
what maintains them: a publish of a registration, a recorded wallet rotation and a recorded burn. No store
call fails here. The resolution of the agent's ENS name, which a rotation also writes, is left out, and so
are the checks of a published document; a publish that they refuse changes nothing. -/

namespace LesserHost.SoulIndexes

open LesserHost.Go
open LesserHost.ControlPlane (AppTheoryError newAppTheoryError)
open LesserHost.Soul (normalizeSoulCapabilitiesLoose rowLevel)
open LesserHost.SoulContacts (AgentIDHex TrimSuffix)
open LesserHost.SoulLifecycle (readRepair effectiveStatus activated SoulAgentStatusActive
  shouldPersistSoulIdentityActivationOnRegistrationPublish)

/-! ## Rows -/

def SoulAgentStatusBurned : String := "burned"

def normalizeSoulLocalID (raw : String) : String :=
  ToLower (TrimSuffix (TrimPrefix (TrimSpace raw) "@") "/")

structure SoulAgentIdentity extends SoulLifecycle.SoulAgentIdentity where
  LocalID : String
  Capabilities : List String

/-- Partition key and sort key. -/
abbrev Key := String × String

structure SoulWalletAgentIndex where
  Wallet : String
  AgentID : AgentIDHex

structure SoulDomainAgentIndex where
  Domain : String
  LocalID : String
  AgentID : AgentIDHex

structure SoulCapabilityAgentIndex where
  Capability : String
  ClaimLevel : String
  Domain : String
  LocalID : String
  AgentID : AgentIDHex

def SoulWalletAgentIndex.UpdateKeys (i : SoulWalletAgentIndex) : SoulWalletAgentIndex :=
  { i with Wallet := ToLower (TrimSpace i.Wallet) }

def SoulWalletAgentIndex.key (i : SoulWalletAgentIndex) : Key :=
  ("SOUL#WALLET#" ++ i.Wallet, "AGENT#" ++ i.AgentID.text)

def SoulDomainAgentIndex.UpdateKeys (i : SoulDomainAgentIndex) : SoulDomainAgentIndex :=
  { i with
    Domain := ToLower (TrimSpace i.Domain)
    LocalID := normalizeSoulLocalID i.LocalID }

def SoulDomainAgentIndex.key (i : SoulDomainAgentIndex) : Key :=
  ("SOUL#DOMAIN#" ++ i.Domain, "LOCAL#" ++ i.LocalID ++ "#AGENT#" ++ i.AgentID.text)

def SoulCapabilityAgentIndex.UpdateKeys (i : SoulCapabilityAgentIndex) : SoulCapabilityAgentIndex :=
  { i with
    Capability := ToLower (TrimSpace i.Capability)
    ClaimLevel := ToLower (TrimSpace i.ClaimLevel)
    Domain := ToLower (TrimSpace i.Domain)
    LocalID := normalizeSoulLocalID i.LocalID }

def SoulCapabilityAgentIndex.key (i : SoulCapabilityAgentIndex) : Key :=
  ("SOUL#CAP#" ++ i.Capability,
    "DOMAIN#" ++ i.Domain ++ "#LOCAL#" ++ i.LocalID ++ "#AGENT#" ++ i.AgentID.text)

structure Store where
  identities : AgentIDHex → Option SoulAgentIdentity
  wallets : Key → Option SoulWalletAgentIndex
  domains : Key → Option SoulDomainAgentIndex
  capabilities : Key → Option SoulCapabilityAgentIndex

/-! ## Store calls -/

/-- `Update` of the fields that `f` changes, if the row exists. -/
def Store.updateIdentity (s : Store) (agentID : AgentIDHex) (f : SoulAgentIdentity → SoulAgentIdentity) :
    Store :=
  { s with identities := Function.update s.identities agentID ((s.identities agentID).map f) }

@[simp] theorem updateIdentity_wallets (s : Store) (a : AgentIDHex)
    (f : SoulAgentIdentity → SoulAgentIdentity) : (s.updateIdentity a f).wallets = s.wallets := rfl

@[simp] theorem updateIdentity_domains (s : Store) (a : AgentIDHex)
    (f : SoulAgentIdentity → SoulAgentIdentity) : (s.updateIdentity a f).domains = s.domains := rfl

@[simp] theorem updateIdentity_capabilities (s : Store) (a : AgentIDHex)
    (f : SoulAgentIdentity → SoulAgentIdentity) : (s.updateIdentity a f).capabilities = s.capabilities := rfl

def Store.putWallet (s : Store) (i : SoulWalletAgentIndex) : Store :=
  { s with wallets := Keyed.put SoulWalletAgentIndex.key s.wallets i.UpdateKeys }

def Store.deleteWallet (s : Store) (i : SoulWalletAgentIndex) : Store :=
  { s with wallets := Keyed.delete SoulWalletAgentIndex.key s.wallets i.UpdateKeys }

def Store.deleteDomain (s : Store) (i : SoulDomainAgentIndex) : Store :=
  { s with domains := Keyed.delete SoulDomainAgentIndex.key s.domains i.UpdateKeys }

def Store.putCapabilities (s : Store) (is : List SoulCapabilityAgentIndex) : Store :=
  { s with
    capabilities := (is.map SoulCapabilityAgentIndex.UpdateKeys).foldl
      (Keyed.put SoulCapabilityAgentIndex.key) s.capabilities }

def Store.deleteCapabilities (s : Store) (is : List SoulCapabilityAgentIndex) : Store :=
  { s with
    capabilities := (is.map SoulCapabilityAgentIndex.UpdateKeys).foldl
      (Keyed.delete SoulCapabilityAgentIndex.key) s.capabilities }

def getSoulAgentIdentity (s : Store) (agentID : AgentIDHex) : Option SoulAgentIdentity :=
  (s.identities agentID).map fun row => { row with toSoulAgentIdentity := readRepair row.toSoulAgentIdentity }

/-! ## Publishing -/

def updateSoulAgentCapabilities (s : Store) (agentID : AgentIDHex) (identity : SoulAgentIdentity)
    (capsNorm : List String) (claimLevels : String → Option String) : Store :=
  let oldCaps := normalizeSoulCapabilitiesLoose identity.Capabilities
  let newCaps := normalizeSoulCapabilitiesLoose capsNorm
  -- the keys of the identity are updated before the index rows are built
  let Domain := ToLower (TrimSpace identity.Domain)
  let LocalID := normalizeSoulLocalID identity.LocalID
  ((s.updateIdentity agentID fun row => { row with Capabilities := newCaps }).deleteCapabilities
    ((oldCaps.filter fun c => c ∉ newCaps).map fun c => ⟨c, "", Domain, LocalID, agentID⟩)).putCapabilities
      (newCaps.map fun c => ⟨c, rowLevel claimLevels c, Domain, LocalID, agentID⟩)

/-- The activation that ends a publish of a typed registration. -/
def activate (s : Store) (agentID : AgentIDHex) (identity : SoulAgentIdentity) : Store :=
  s.updateIdentity agentID fun row =>
    { row with
      toSoulAgentIdentity := activated row.toSoulAgentIdentity
        (shouldPersistSoulIdentityActivationOnRegistrationPublish identity.toSoulAgentIdentity true) }

/-- A publish of an accepted document; `typed` for the versions 2 and 3. -/
def publishSoulUpdateRegistration (s : Store) (agentID : AgentIDHex) (capsNorm : List String)
    (claimLevels : String → Option String) (typed : Bool) : Except AppTheoryError Store :=
  match getSoulAgentIdentity s agentID with
  | none => .error (newAppTheoryError "app.not_found" "agent not found")
  | some identity =>
      if effectiveStatus identity.toSoulAgentIdentity ≠ SoulAgentStatusActive then
        .error (newAppTheoryError "app.conflict" "agent is not active")
      else
        let published := updateSoulAgentCapabilities s agentID identity capsNorm claimLevels
        .ok (if typed then activate published agentID identity else published)

/-! ## Executed operations -/

/-- The wallet that the contract shows, in lower case; none for the zero address. -/
def applySoulOperationRotateWalletSideEffects (s : Store) (agentID : AgentIDHex)
    (onChainWallet : Option AgentIDHex) : Store :=
  match onChainWallet, getSoulAgentIdentity s agentID with
  | some wallet, some identity =>
      let oldWallet := ToLower (TrimSpace identity.Wallet)
      let newWallet := wallet.text
      let s := s.updateIdentity agentID fun row => { row with Wallet := newWallet }
      let s := if oldWallet ≠ "" ∧ EqualFold oldWallet newWallet = false then
        s.deleteWallet ⟨oldWallet, agentID⟩ else s
      if newWallet ≠ "" then s.putWallet ⟨newWallet, agentID⟩ else s
  | _, _ => s

def applySoulOperationBurnSideEffects (s : Store) (agentID : AgentIDHex) : Store :=
  match getSoulAgentIdentity s agentID with
  | none => s
  | some identity =>
      let oldWallet := ToLower (TrimSpace identity.Wallet)
      let s := s.updateIdentity agentID fun row =>
        { row with
          Status := SoulAgentStatusBurned
          LifecycleStatus := SoulAgentStatusBurned
          Wallet := "" }
      let s := if oldWallet ≠ "" then s.deleteWallet ⟨oldWallet, agentID⟩ else s
      let domain := TrimSpace identity.Domain
      -- the key of the row is built without the local id
      let s := if domain ≠ "" then s.deleteDomain ⟨domain, "", agentID⟩ else s
      s.deleteCapabilities (((identity.Capabilities.map TrimSpace).filter fun cap => cap ≠ "").map
        fun cap => ⟨cap, "", "", "", agentID⟩)

end LesserHost.SoulIndexes
