import LesserHost.SoulLifecycle.Table

set_option autoImplicit false

/-! # Contact channels and their indexes

`syncSoulV3StateFromRegistration` and the functions under it in `handlers_soul_update_registration.go`.
An agent has one channel of each type. A row of an index leads from an identifier to the agent that has
it. The index that searches by domain and the contact preferences, which nothing here reads, are left
out. -/

namespace LesserHost.SoulContacts

open LesserHost.Go
open LesserHost.ControlPlane (AppTheoryError StoreError newAppTheoryError)
open LesserHost.SoulLifecycle (Fault found)

/-! ## Identifiers -/

inductive ChannelType where
  | ens
  | email
  | phone
  deriving DecidableEq

def TrimSuffix (s suffix : String) : String :=
  if suffix.toList.isSuffixOf s.toList then
    String.ofList (s.toList.take (s.toList.length - suffix.toList.length))
  else s

def normalizeSoulEmail (raw : String) : String := ToLower (TrimSpace raw)

def normalizeSoulENSName (raw : String) : String := TrimSuffix (ToLower (TrimSpace raw)) "."

def normalizeSoulPhoneE164 (raw : String) : String :=
  [" ", "-", "(", ")", "."].foldl (fun raw old => ReplaceAll raw old "") (TrimSpace raw)

/-- The identifier of a channel as `UpdateKeys` leaves it. -/
def ChannelType.normalize : ChannelType → String → String
  | .ens => normalizeSoulENSName
  | .email => normalizeSoulEmail
  | .phone => normalizeSoulPhoneE164

/-- An agent identifier, as `parseSoulAgentIDHex` returns it. -/
structure AgentIDHex where
  text : String
  hex : ∀ c ∈ text.toList, isLowerHexChar c = true ∨ c = 'x'

instance : DecidableEq AgentIDHex := fun a b =>
  decidable_of_iff (a.text = b.text) ⟨fun h => by cases a; cases b; cases h; rfl, fun h => by rw [h]⟩

/-! ## Rows -/

structure SoulAgentChannel where
  AgentID : AgentIDHex
  ChannelType : ChannelType
  Identifier : String
  Provider : String
  Verified : Bool
  VerifiedAt : Time
  ProvisionedAt : Time
  DeprovisionedAt : Time
  Status : String
  SecretRef : String

/-- `UpdateKeys`. -/
def SoulAgentChannel.UpdateKeys (c : SoulAgentChannel) : SoulAgentChannel :=
  { c with
    Provider := ToLower (TrimSpace c.Provider)
    Status := ToLower (TrimSpace c.Status)
    SecretRef := TrimSpace c.SecretRef
    Identifier := c.ChannelType.normalize c.Identifier }

def SoulChannelStatusActive : String := "active"
def commDeliveryProviderMigadu : String := "migadu"

structure SoulEmailLegacyAliasIndex where
  AliasEmail : String
  CanonicalEmail : String
  AgentID : AgentIDHex

structure Table where
  channels : AgentIDHex × ChannelType → Option SoulAgentChannel
  /-- the agent of an index row -/
  index : ChannelType × String → Option AgentIDHex
  aliases : String → Option SoulEmailLegacyAliasIndex

/-! ## Operations -/

inductive Op where
  /-- the stored channel; `desired` is what the synchronisation is to put in its place -/
  | getChannel (agentID : AgentIDHex) (type : ChannelType) (desired : Option SoulAgentChannel)
  /-- `CreateOrUpdate` -/
  | putChannel (channel : SoulAgentChannel)
  | deleteChannel (agentID : AgentIDHex) (type : ChannelType)
  | getIndex (key : ChannelType × String)
  /-- `Create`, if the row does not exist -/
  | createIndex (key : ChannelType × String) (agentID : AgentIDHex)
  /-- `CreateOrUpdate` -/
  | putIndex (key : ChannelType × String) (agentID : AgentIDHex)
  | deleteIndex (key : ChannelType × String)
  | getAlias (aliasEmail : String)
  | createAlias (row : SoulEmailLegacyAliasIndex)
  | putAlias (row : SoulEmailLegacyAliasIndex)
  /-- `resolveSoulProvisionEmailAddress`: the canonical address of an agent -/
  | resolveAddress (agentID : AgentIDHex)

abbrev Op.Res : Op → Type
  | .getChannel _ _ _ => Except StoreError SoulAgentChannel
  | .getIndex _ => Except StoreError AgentIDHex
  | .getAlias _ => Except StoreError SoulEmailLegacyAliasIndex
  | .resolveAddress _ => Except AppTheoryError String
  | _ => Except StoreError Unit

/-- What the world decides at one operation. -/
structure Choice where
  fault : Fault
  address : Except AppTheoryError String

/-- The answer under a fault. -/
def Choice.attempt {α : Type} (c : Choice) (t : Table) (r : Except StoreError α × Table) :
    Except StoreError α × Table :=
  match c.fault with
  | .none => r
  | .lost => (.error .other, t)
  | .unacknowledged => (.error .other, r.2)

def Table.handle : (o : Op) → Choice → Table → o.Res × Table
  | .getChannel agentID type _, c, t => c.attempt t (found (t.channels (agentID, type)), t)
  | .putChannel channel, c, t => c.attempt t
      (.ok (), { t with
        channels := Function.update t.channels (channel.AgentID, channel.ChannelType) (some channel) })
  | .deleteChannel agentID type, c, t => c.attempt t
      (.ok (), { t with channels := Function.update t.channels (agentID, type) none })
  | .getIndex key, c, t => c.attempt t (found (t.index key), t)
  | .createIndex key agentID, c, t => c.attempt t
      (if (t.index key).isNone then
        (.ok (), { t with index := Function.update t.index key (some agentID) })
      else (.error .conditionFailed, t))
  | .putIndex key agentID, c, t => c.attempt t
      (.ok (), { t with index := Function.update t.index key (some agentID) })
  | .deleteIndex key, c, t => c.attempt t
      (.ok (), { t with index := Function.update t.index key none })
  | .getAlias aliasEmail, c, t => c.attempt t (found (t.aliases aliasEmail), t)
  | .createAlias row, c, t => c.attempt t
      (if (t.aliases row.AliasEmail).isNone then
        (.ok (), { t with aliases := Function.update t.aliases row.AliasEmail (some row) })
      else (.error .conditionFailed, t))
  | .putAlias row, c, t => c.attempt t
      (.ok (), { t with aliases := Function.update t.aliases row.AliasEmail (some row) })
  | .resolveAddress _, c, t => (c.address, t)

def tableEnv : Prog.Env Op Op.Res Table Choice := ⟨Table.handle⟩

abbrev Handler (α : Type) := Prog Op Op.Res AppTheoryError α

/-! ## Tests -/

/-- The owner of a row, compared as the code does. -/
def sameAgent (a b : AgentIDHex) : Bool := EqualFold (TrimSpace a.text) (TrimSpace b.text)

def trustedManagedSoulChannelForIndex : Option SoulAgentChannel → Bool
  | none => false
  | some ch =>
      let ch := ch.UpdateKeys
      if ch.Verified = false ∨ ch.ProvisionedAt.IsZero ∨ ch.DeprovisionedAt.IsZero = false ∨
          ch.Status ≠ SoulChannelStatusActive then false
      else match ch.ChannelType with
      | .email => ch.Provider == "migadu"
      | .phone => ch.Provider == "telnyx"
      | .ens => false

def soulChannelsSameIdentifier : Option SoulAgentChannel → Option SoulAgentChannel → Bool
  | none, none => true
  | some existing, some desired =>
      decide (existing.ChannelType = desired.ChannelType) &&
        EqualFold (TrimSpace existing.UpdateKeys.Identifier) (TrimSpace desired.UpdateKeys.Identifier)
  | _, _ => false

def hostManagedSoulEmailChannel : Option SoulAgentChannel → Bool
  | none => false
  | some ch => decide (ch.ChannelType = .email) && ch.UpdateKeys.Provider == commDeliveryProviderMigadu

def preserveHostManagedSoulEmailOmission (existing desired : Option SoulAgentChannel) : Bool :=
  desired.isNone && hostManagedSoulEmailChannel existing

def preserveManagedSoulChannelProvisioningMetadata (desired existing : SoulAgentChannel) :
    SoulAgentChannel :=
  { desired with
    Provider := if TrimSpace desired.Provider = "" then TrimSpace existing.Provider else desired.Provider
    SecretRef :=
      if TrimSpace desired.SecretRef = "" then TrimSpace existing.SecretRef else desired.SecretRef
    ProvisionedAt :=
      if desired.ProvisionedAt.IsZero && !existing.ProvisionedAt.IsZero then existing.ProvisionedAt
      else desired.ProvisionedAt
    DeprovisionedAt :=
      if desired.DeprovisionedAt.IsZero && !existing.DeprovisionedAt.IsZero then existing.DeprovisionedAt
      else desired.DeprovisionedAt
    Verified := desired.Verified || existing.Verified
    VerifiedAt :=
      if existing.Verified && (desired.VerifiedAt.IsZero && !existing.VerifiedAt.IsZero) then
        existing.VerifiedAt
      else desired.VerifiedAt }

/-! ## Index rows -/

/-- `deleteSoulEmailAgentIndexIfOwned` and its siblings. -/
def deleteIndexIfOwned (key : ChannelType × String) (agentID : AgentIDHex)
    (failure : String) : Handler Unit := do
  match ← Prog.perform (.getIndex key : Op) with
  | .error .notFound => return ()
  | .error _ => .fail (newAppTheoryError "app.internal" failure)
  | .ok owner =>
      if sameAgent owner agentID = false then return ()
      else match ← Prog.perform (.deleteIndex key : Op) with
      | .ok () => return ()
      | .error _ => .fail (newAppTheoryError "app.internal" failure)

structure IndexErrors where
  invalid : String
  conflict : String
  validate : String
  update : String

def createIndex (key : ChannelType × String) (agentID : AgentIDHex) (errors : IndexErrors) :
    Handler Unit := do
  match ← Prog.perform (.createIndex key agentID : Op) with
  | .ok () => return ()
  | .error .conditionFailed => .fail (newAppTheoryError "app.conflict" errors.conflict)
  | .error _ => .fail (newAppTheoryError "app.internal" errors.update)

/-- `ensureSoulContactAgentIndex`. -/
def ensureSoulContactAgentIndex (key : ChannelType × String) (agentID : AgentIDHex)
    (errors : IndexErrors) : Handler Unit := do
  if TrimSpace key.2 = "" ∨ TrimSpace agentID.text = "" then
    .fail (newAppTheoryError "app.bad_request" errors.invalid)
  else match ← Prog.perform (.getIndex key : Op) with
  | .ok owner =>
      if sameAgent owner agentID then return ()
      else .fail (newAppTheoryError "app.conflict" errors.conflict)
  | .error .notFound => createIndex key agentID errors
  | .error _ => .fail (newAppTheoryError "app.internal" errors.validate)

def emailIndexErrors : IndexErrors :=
  ⟨"email index is invalid", "email address is already provisioned", "failed to validate email mapping",
    "failed to update email index"⟩

def phoneIndexErrors : IndexErrors :=
  ⟨"phone index is invalid", "phone number is already provisioned", "failed to validate phone mapping",
    "failed to update phone index"⟩

def ensResolutionErrors : IndexErrors :=
  ⟨"ens resolution is invalid", "ens name is already provisioned", "failed to validate ens resolution",
    "failed to update ens resolution"⟩

/-- `ensureSoulENSResolution`. -/
def ensureSoulENSResolution (key : ChannelType × String) (agentID : AgentIDHex) : Handler Unit := do
  if TrimSpace key.2 = "" ∨ TrimSpace agentID.text = "" then
    .fail (newAppTheoryError "app.bad_request" ensResolutionErrors.invalid)
  else match ← Prog.perform (.getIndex key : Op) with
  | .ok owner =>
      if sameAgent owner agentID then do
        match ← Prog.perform (.putIndex key agentID : Op) with
        | .ok () => return ()
        | .error _ => .fail (newAppTheoryError "app.internal" ensResolutionErrors.update)
      else .fail (newAppTheoryError "app.conflict" ensResolutionErrors.conflict)
  | .error .notFound => createIndex key agentID ensResolutionErrors
  | .error _ => .fail (newAppTheoryError "app.internal" ensResolutionErrors.validate)

/-- `preflightSoulENSResolutionAssignable`. -/
def preflightSoulENSResolutionAssignable (key : ChannelType × String) (agentID : AgentIDHex) :
    Handler Unit := do
  if TrimSpace key.2 = "" ∨ TrimSpace agentID.text = "" then
    .fail (newAppTheoryError "app.bad_request" ensResolutionErrors.invalid)
  else match ← Prog.perform (.getIndex key : Op) with
  | .ok owner =>
      if sameAgent owner agentID then return ()
      else .fail (newAppTheoryError "app.conflict" ensResolutionErrors.conflict)
  | .error .notFound => return ()
  | .error _ => .fail (newAppTheoryError "app.internal" ensResolutionErrors.validate)

/-! ## Legacy aliases -/

/-- The alias row of a managed email that moves from its bare address to the canonical one. `bareAlias`
    is `expectedLegacyBareSoulEmailAlias` of the identity. -/
def buildLegacyEmailAliasForManagedMigration (bareAlias : Option String)
    (existing desired : Option SoulAgentChannel) (type : ChannelType) :
    Handler (Option SoulEmailLegacyAliasIndex) :=
  match existing, desired with
  | some existing, some desired =>
      if type ≠ .email ∨ trustedManagedSoulChannelForIndex existing = false ∨
          soulChannelsSameIdentifier existing desired = true then return none
      else if existing.UpdateKeys.Provider ≠ commDeliveryProviderMigadu ∨ desired.ChannelType ≠ .email then
        return none
      else match bareAlias with
      | none => return none
      | some bareAlias =>
          if EqualFold (ToLower (TrimSpace existing.UpdateKeys.Identifier)) bareAlias = false then
            return none
          else do
            match ← Prog.perform (.resolveAddress desired.AgentID : Op) with
            | .error e => .fail e
            | .ok expected =>
                if EqualFold (TrimSpace desired.UpdateKeys.Identifier) expected = false then return none
                else return some ⟨existing.UpdateKeys.Identifier, desired.UpdateKeys.Identifier,
                  desired.AgentID⟩
  | _, _ => return none

/-- `ensureSoulEmailLegacyAliasIndex`. -/
def ensureSoulEmailLegacyAliasIndex (idx : SoulEmailLegacyAliasIndex) : Handler Unit := do
  let conflict := newAppTheoryError "app.conflict" "legacy email alias is already assigned"
  let failed := newAppTheoryError "app.internal" "failed to update legacy email alias"
  if TrimSpace idx.AliasEmail = "" ∨ TrimSpace idx.CanonicalEmail = "" then
    .fail (newAppTheoryError "app.bad_request" "legacy email alias is invalid")
  else match ← Prog.perform (.getAlias idx.AliasEmail : Op) with
  | .ok existing =>
      if sameAgent existing.AgentID idx.AgentID = true ∧
          EqualFold (TrimSpace existing.CanonicalEmail) (TrimSpace idx.CanonicalEmail) = true then do
        match ← Prog.perform (.putAlias idx : Op) with
        | .ok () => return ()
        | .error _ => .fail failed
      else .fail conflict
  | .error .notFound => do
      match ← Prog.perform (.createAlias idx : Op) with
      | .ok () => return ()
      | .error .conditionFailed => .fail conflict
      | .error _ => .fail failed
  | .error _ => .fail (newAppTheoryError "app.internal" "failed to validate legacy email alias")

/-! ## A channel -/

/-- `cleanupSoulV3ChannelIndexes`. -/
def cleanupSoulV3ChannelIndexes (agentID : AgentIDHex) (type : ChannelType)
    (existing desired : Option SoulAgentChannel) : Handler Unit :=
  match existing with
  | none => .ret ()
  | some existing =>
      if TrimSpace existing.Identifier = "" ∨ desired.any (fun desired =>
          EqualFold (TrimSpace existing.Identifier) (TrimSpace desired.Identifier)) = true then .ret ()
      else deleteIndexIfOwned (type, type.normalize existing.Identifier) agentID
        (match type with
          | .email => "failed to delete email index"
          | .phone => "failed to delete phone index"
          | .ens => "failed to delete ens resolution")

/-- `deleteSoulV3Channel`. -/
def deleteSoulV3Channel (agentID : AgentIDHex) (type : ChannelType) (existing : Option SoulAgentChannel) :
    Handler Unit :=
  match existing with
  | none => .ret ()
  | some _ => do
      let _ ← Prog.perform (.deleteChannel agentID type : Op)
      return ()

/-- `upsertSoulV3ChannelIndexes`. -/
def upsertSoulV3ChannelIndexes (agentID : AgentIDHex) (type : ChannelType) (desired : SoulAgentChannel)
    (key : ChannelType × String) : Handler Unit :=
  match type with
  | .ens => ensureSoulENSResolution key agentID
  | .email =>
      if trustedManagedSoulChannelForIndex desired then
        ensureSoulContactAgentIndex key agentID emailIndexErrors
      else .ret ()
  | .phone =>
      if trustedManagedSoulChannelForIndex desired then
        ensureSoulContactAgentIndex key agentID phoneIndexErrors
      else .ret ()

/-- `upsertSoulV3Channel`. -/
def upsertSoulV3Channel (agentID : AgentIDHex) (type : ChannelType) (desired : SoulAgentChannel)
    (key : ChannelType × String) : Handler Unit := do
  match ← Prog.perform (.putChannel desired.UpdateKeys : Op) with
  | .error _ => .fail (newAppTheoryError "app.internal" "failed to update channel")
  | .ok () => upsertSoulV3ChannelIndexes agentID type desired.UpdateKeys key

/-- The desired channel with what is preserved of the stored one. -/
def preserveManagedMetadata (existing : Option SoulAgentChannel) (legacyEmailAlias : Bool)
    (desired : SoulAgentChannel) : SoulAgentChannel :=
  match existing with
  | none => desired
  | some existing =>
      if legacyEmailAlias || soulChannelsSameIdentifier existing desired then
        preserveManagedSoulChannelProvisioningMetadata desired existing
      else desired

/-- The last part of `syncSoulV3Channel`: preflight, cleanup, and the channel itself. -/
def moveSoulV3Channel (agentID : AgentIDHex) (type : ChannelType) (existing : Option SoulAgentChannel) :
    Option SoulAgentChannel → Handler Unit
  | none => do
      cleanupSoulV3ChannelIndexes agentID type existing none
      deleteSoulV3Channel agentID type existing
  | some desired => do
      let key := (type, type.normalize desired.Identifier)
      if type = .ens then preflightSoulENSResolutionAssignable key agentID
      cleanupSoulV3ChannelIndexes agentID type existing (some desired)
      upsertSoulV3Channel agentID type desired key

/-- What `syncSoulV3Channel` does once it has read the channel and its alias. -/
def replaceSoulV3Channel (agentID : AgentIDHex) (type : ChannelType)
    (existing desired : Option SoulAgentChannel) (legacyEmailAlias : Option SoulEmailLegacyAliasIndex) :
    Handler Unit :=
  if trustedManagedSoulChannelForIndex existing = true ∧
      soulChannelsSameIdentifier existing desired = false ∧ legacyEmailAlias.isNone = true then
    .fail (newAppTheoryError "app.conflict" "managed channel must be deprovisioned before changing identifier")
  else
    let desired := desired.map (preserveManagedMetadata existing legacyEmailAlias.isSome)
    match legacyEmailAlias with
    | none => moveSoulV3Channel agentID type existing desired
    | some idx => do
        ensureSoulEmailLegacyAliasIndex idx
        moveSoulV3Channel agentID type existing desired

def syncSoulV3Channel (bareAlias : Option String) (agentID : AgentIDHex) (type : ChannelType)
    (desired : Option SoulAgentChannel) : Handler Unit := do
  match ← Prog.perform (.getChannel agentID type desired : Op) with
  | .error .notFound => replaceSoulV3Channel agentID type none desired none
  | .error _ => .fail (newAppTheoryError "app.internal" "failed to read channel")
  | .ok existing =>
      if preserveHostManagedSoulEmailOmission existing desired then return ()
      else do
        let legacyEmailAlias ← buildLegacyEmailAliasForManagedMigration bareAlias existing desired type
        replaceSoulV3Channel agentID type existing desired legacyEmailAlias

/-! ## A registration -/

structure ENSChannelV3 where
  Name : String

structure EmailChannelV3 where
  Address : String
  Verified : Bool
  VerifiedAt : Time

structure PhoneChannelV3 where
  Number : String
  Provider : String
  Verified : Bool
  VerifiedAt : Time

/-- The channels of a registration. -/
structure ChannelsV3 where
  ENS : Option ENSChannelV3
  Email : Option EmailChannelV3
  Phone : Option PhoneChannelV3

def zeroTime : Time := ⟨0, .utc⟩

def buildSoulV3ENSSync (agentID : AgentIDHex) (channels : ChannelsV3) : Option SoulAgentChannel :=
  channels.ENS.map fun ens =>
    { AgentID := agentID
      ChannelType := .ens
      Identifier := TrimSpace ens.Name
      Provider := ""
      Verified := false
      VerifiedAt := zeroTime
      ProvisionedAt := zeroTime
      DeprovisionedAt := zeroTime
      Status := SoulChannelStatusActive
      SecretRef := "" }

def buildSoulV3EmailSync (agentID : AgentIDHex) (channels : ChannelsV3) : Option SoulAgentChannel :=
  channels.Email.map fun email =>
    { AgentID := agentID
      ChannelType := .email
      Identifier := TrimSpace email.Address
      Provider := ""
      Verified := email.Verified
      VerifiedAt := email.VerifiedAt
      ProvisionedAt := zeroTime
      DeprovisionedAt := zeroTime
      Status := SoulChannelStatusActive
      SecretRef := "" }

def buildSoulV3PhoneSync (agentID : AgentIDHex) (channels : ChannelsV3) : Option SoulAgentChannel :=
  channels.Phone.map fun phone =>
    { AgentID := agentID
      ChannelType := .phone
      Identifier := TrimSpace phone.Number
      Provider := TrimSpace phone.Provider
      Verified := phone.Verified
      VerifiedAt := phone.VerifiedAt
      ProvisionedAt := zeroTime
      DeprovisionedAt := zeroTime
      Status := SoulChannelStatusActive
      SecretRef := "" }

def syncSoulV3StateFromRegistration (bareAlias : Option String) (agentID : AgentIDHex)
    (channels : ChannelsV3) : Handler Unit := do
  syncSoulV3Channel bareAlias agentID .ens (buildSoulV3ENSSync agentID channels)
  syncSoulV3Channel bareAlias agentID .email (buildSoulV3EmailSync agentID channels)
  syncSoulV3Channel bareAlias agentID .phone (buildSoulV3PhoneSync agentID channels)

/-- The registrations of one agent, one after another. -/
def syncAll (bareAlias : Option String) (agentID : AgentIDHex) : List ChannelsV3 → Handler Unit
  | [] => .ret ()
  | channels :: rest => do
      let _ ← (syncSoulV3StateFromRegistration bareAlias agentID channels).attempt
      syncAll bareAlias agentID rest

end LesserHost.SoulContacts
