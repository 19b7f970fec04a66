import LesserHost.Go.Bytes
import LesserHost.Go.Strings
import LesserHost.Lib.TypedData
import LesserHost.Solidity.Basic

set_option autoImplicit false

/-! # Signing mints

`internal/soul/mint_permit.go` and `self_mint_attestation.go`: the host builds the typed data of a mint
permit or of a self-mint attestation, whose values are texts, and signs its digest.

The Ethereum library is a parameter (`Geth`). What the code relies on is in `Geth.Documented`: an
address is printed in hexadecimal, and typed data with values of its types is hashed as EIP-712 says. -/

namespace LesserHost.Soul

open LesserHost.Go LesserHost.Solidity

/-! ## Typed data -/

structure TypedDataDomain where
  Name : String
  Version : String
  ChainId : Int
  VerifyingContract : String

structure TypedData where
  Types : List (String × List EIP712.Field)
  PrimaryType : String
  Domain : TypedDataDomain
  Message : List (String × Bytes)

def TypedDataDomain.Map (domain : TypedDataDomain) : List (String × Bytes) :=
  [("name", bytes domain.Name), ("version", bytes domain.Version),
    ("chainId", bytes (Itoa domain.ChainId)), ("verifyingContract", bytes domain.VerifyingContract)]

/-- `strings.ToLower(address.Hex())`. -/
def hexAddress (a : Address) : String :=
  String.ofList ('0' :: 'x' :: (EIP712.digits 16 40 a).map hexDigit)

/-- The texts the values of the types are written as. -/
inductive Written : EIP712.FieldType → Bytes → Prop
  | string (text : Bytes) : Written .string text
  | address (a : Address) : Written .address (bytes (hexAddress a))
  | uint8 (n : Int) : Written .uint8 (bytes (Itoa n))
  | uint256 (n : Int) : Written .uint256 (bytes (Itoa n))

def hexValue (b : UInt8) : Nat := if isDigit b then b.toNat - 48 else b.toNat - 87

def readNumber (bits : Nat) (text : Bytes) : Option EIP712.Value :=
  ((parseDigits text).filter fun n => n < 2 ^ bits).map EIP712.Value.atom

/-- The value a text is written for, unless the number does not fit. -/
def readValue (text : Bytes) : EIP712.FieldType → Option EIP712.Value
  | .string => some (.string text)
  | .address => some (.atom (EIP712.ofDigits 16 ((text.drop 2).map hexValue)))
  | .uint8 => readNumber 8 text
  | .uint256 => readNumber 256 text

/-- The values of the members, given in the order of the type. -/
def readValues : List EIP712.Field → List (String × Bytes) → Option (List EIP712.Value)
  | [], [] => some []
  | field :: fields, entry :: data =>
      if field.1 = entry.1 then do
        let value ← readValue entry.2 field.2
        let values ← readValues fields data
        return value :: values
      else none
  | _, _ => none

/-- The digest of the standard, unless a number does not fit its type. -/
def TypedData.digest (keccak : EIP712.Hash) (td : TypedData) : Option Bytes32 := do
  let domainFields ← td.Types.lookup "EIP712Domain"
  let fields ← td.Types.lookup td.PrimaryType
  let domain ← readValues domainFields td.Domain.Map
  let message ← readValues fields td.Message
  return EIP712.digest keccak
    (EIP712.hashStruct keccak (bytes (EIP712.encodeType "EIP712Domain" domainFields)) domain)
    (EIP712.hashStruct keccak (bytes (EIP712.encodeType td.PrimaryType fields)) message)

/-- The data has the members of its types, each written as a value of its type. -/
def Members (fields : List EIP712.Field) (data : List (String × Bytes)) : Prop :=
  List.Forall₂ (fun field entry => field.1 = entry.1 ∧ Written field.2 entry.2) fields data

structure TypedData.WellTyped (td : TypedData) (domainFields fields : List EIP712.Field) : Prop where
  domainType : td.Types.lookup "EIP712Domain" = some domainFields
  type : td.Types.lookup td.PrimaryType = some fields
  domain : Members domainFields td.Domain.Map
  message : Members fields td.Message

/-! ## The Ethereum library -/

structure Geth (Key : Type) where
  Hex : Address → String
  HexToECDSA : String → Except String Key
  TypedDataAndHash : TypedData → Option Bytes32
  Sign : Bytes32 → Key → Except String Bytes

structure Geth.Documented {Key : Type} (geth : Geth Key) (keccak : EIP712.Hash) : Prop where
  Hex : ∀ a, ToLower (geth.Hex a) = hexAddress a
  TypedDataAndHash : ∀ td domainFields fields, td.WellTyped domainFields fields →
    geth.TypedDataAndHash td = td.digest keccak

/-! ## Signing -/

section Sign

variable {Key : Type} (geth : Geth Key)

/-- Solidity expects a recovery id of 27 or 28. -/
def adjustV (sig : Bytes) : Bytes := sig.modify 64 fun v => if v < 27 then v + 27 else v

/-- What both functions do with their typed data; `what` begins the texts of the errors. -/
def signTypedData (what privateKeyHex : String) (td : TypedData) : Except String Bytes :=
  let privateKeyHex := TrimPrefix (TrimSpace privateKeyHex) "0x"
  if privateKeyHex = "" then .error (what ++ ": empty private key")
  else match geth.HexToECDSA privateKeyHex with
  | .error err => .error (what ++ ": invalid private key: " ++ err)
  | .ok key =>
  match geth.TypedDataAndHash td with
  | none => .error (what ++ ": typed data hash failed")
  | some digest =>
  match geth.Sign digest key with
  | .error err => .error (what ++ ": sign failed: " ++ err)
  | .ok sig => .ok (adjustV sig)

def domainType : List EIP712.Field :=
  [("name", .string), ("version", .string), ("chainId", .uint256), ("verifyingContract", .address)]

def soulDomain (chainID : Int) (contractAddress : Address) : TypedDataDomain where
  Name := "LesserSoul"
  Version := "1"
  ChainId := chainID
  VerifyingContract := ToLower (geth.Hex contractAddress)

def mintPermitType : List EIP712.Field :=
  [("to", .address), ("agentId", .uint256), ("metaURI", .string), ("avatarStyle", .uint8),
    ("deadline", .uint256)]

def mintPermitTypedData (chainID : Int) (contractAddress dest : Address) (agentID : Int)
    (metaURI : Bytes) (avatarStyle : Fin 256) (deadline : Int) : TypedData where
  Types := [("EIP712Domain", domainType), ("MintPermit", mintPermitType)]
  PrimaryType := "MintPermit"
  Domain := soulDomain geth chainID contractAddress
  Message := [("to", bytes (ToLower (geth.Hex dest))), ("agentId", bytes (Itoa agentID)),
    ("metaURI", metaURI), ("avatarStyle", bytes (Itoa avatarStyle.val)),
    ("deadline", bytes (Itoa deadline))]

def SignMintPermit (privateKeyHex : String) (chainID : Int) (contractAddress dest : Address)
    (agentID : Option Int) (metaURI : Bytes) (avatarStyle : Fin 256) (deadline : Option Int) :
    Except String Bytes :=
  signTypedData geth "mint permit" privateKeyHex
    (mintPermitTypedData geth chainID contractAddress dest (agentID.getD 0) metaURI avatarStyle
      (deadline.getD 0))

def selfMintAttestationType : List EIP712.Field :=
  [("to", .address), ("agentId", .uint256), ("metaURI", .string), ("avatarStyle", .uint8),
    ("principal", .address), ("deadline", .uint256), ("submitter", .address)]

def selfMintAttestationTypedData (chainID : Int) (contractAddress dest : Address) (agentID : Int)
    (metaURI : Bytes) (avatarStyle : Fin 256) (principal : Address) (deadline : Int)
    (submitter : Address) : TypedData where
  Types := [("EIP712Domain", domainType), ("SelfMintAttestation", selfMintAttestationType)]
  PrimaryType := "SelfMintAttestation"
  Domain := soulDomain geth chainID contractAddress
  Message := [("to", bytes (ToLower (geth.Hex dest))), ("agentId", bytes (Itoa agentID)),
    ("metaURI", metaURI), ("avatarStyle", bytes (Itoa avatarStyle.val)),
    ("principal", bytes (ToLower (geth.Hex principal))), ("deadline", bytes (Itoa deadline)),
    ("submitter", bytes (ToLower (geth.Hex submitter)))]

def SignSelfMintAttestation (privateKeyHex : String) (chainID : Int)
    (contractAddress dest : Address) (agentID : Option Int) (metaURI : Bytes) (avatarStyle : Fin 256)
    (principal : Address) (deadline : Option Int) (submitter : Address) : Except String Bytes :=
  signTypedData geth "self mint attestation" privateKeyHex
    (selfMintAttestationTypedData geth chainID contractAddress dest (agentID.getD 0) metaURI
      avatarStyle principal (deadline.getD 0) submitter)

end Sign

/-! ## Reading the texts -/

theorem readNumber_Itoa {bits n : Nat} {v : EIP712.Value} :
    readNumber bits (bytes (Itoa n)) = some v ↔ n < 2 ^ bits ∧ v = .atom n := by
  rw [readNumber, parseDigits_Itoa, Option.filter_some]
  by_cases h : n < 2 ^ bits
  · simp [h, eq_comm]
  · simp [h]

theorem hexDigit_ascii {d : Nat} (h : d < 16) :
    String.utf8EncodeChar (hexDigit d) = [UInt8.ofNat (hexDigit d).toNat] ∧
      hexValue (UInt8.ofNat (hexDigit d).toNat) = d := by
  have hall : ∀ d : Fin 16, (hexDigit d).toNat < 128 ∧ hexValue (UInt8.ofNat (hexDigit d).toNat) = d := by
    decide
  obtain ⟨hascii, hvalue⟩ := hall ⟨d, h⟩
  exact ⟨utf8EncodeChar_ascii hascii, hvalue⟩

theorem bytes_hexAddress (a : Address) :
    bytes (hexAddress a)
      = 0x30 :: 0x78 :: (EIP712.digits 16 40 a).map fun d => UInt8.ofNat (hexDigit d).toNat := by
  have hdigits : ∀ ds : List Nat, (∀ d ∈ ds, d < 16) →
      (ds.map hexDigit).flatMap String.utf8EncodeChar = ds.map fun d => UInt8.ofNat (hexDigit d).toNat := by
    intro ds hds
    induction ds with
    | nil => rfl
    | cons d ds ih =>
        rw [List.map_cons, List.flatMap_cons, (hexDigit_ascii (hds d List.mem_cons_self)).1,
          ih fun e he => hds e (List.mem_cons_of_mem d he)]
        rfl
  rw [hexAddress, bytes_ofList, List.flatMap_cons, List.flatMap_cons,
    hdigits _ fun d hd => EIP712.digit_lt (by decide) hd, utf8EncodeChar_ascii (by decide),
    utf8EncodeChar_ascii (by decide)]
  rfl

theorem readValue_address {a : Address} {v : EIP712.Value} :
    readValue (bytes (hexAddress a)) .address = some v ↔ v = .atom a := by
  have hvalues : ((EIP712.digits 16 40 a).map fun d => UInt8.ofNat (hexDigit d).toNat).map hexValue
      = EIP712.digits 16 40 a := by
    rw [List.map_map]
    refine (List.map_congr_left fun d hd => ?_).trans (List.map_id _)
    exact (hexDigit_ascii (EIP712.digit_lt (by decide) hd)).2
  have hrange : (a : Nat) < 16 ^ 40 := by
    have hpow : (16 : Nat) ^ 40 = 2 ^ 160 := by decide
    rw [hpow]
    exact a.isLt
  rw [readValue, bytes_hexAddress, List.drop_succ_cons, List.drop_succ_cons, List.drop_zero, hvalues,
    EIP712.ofDigits_digits hrange, Option.some.injEq, eq_comm]

theorem readValues_cons {name : String} {type : EIP712.FieldType} {text : Bytes}
    {fields : List EIP712.Field} {data : List (String × Bytes)} {values : List EIP712.Value} :
    readValues ((name, type) :: fields) ((name, text) :: data) = some values ↔
      ∃ value rest, readValue text type = some value ∧ readValues fields data = some rest ∧
        values = value :: rest := by
  rw [readValues, if_pos rfl]
  simp only [Option.bind_eq_bind, Option.bind_eq_some_iff, Option.pure_def, Option.some.injEq]
  constructor
  · rintro ⟨value, hvalue, rest, hrest, rfl⟩
    exact ⟨value, rest, hvalue, hrest, rfl⟩
  · rintro ⟨value, rest, hvalue, hrest, rfl⟩
    exact ⟨value, hvalue, rest, hrest, rfl⟩

theorem readValue_string {text : Bytes} {v : EIP712.Value} :
    readValue text .string = some v ↔ v = .string text := by
  rw [readValue, Option.some.injEq, eq_comm]

theorem readValue_uint8 {n : Nat} {v : EIP712.Value} :
    readValue (bytes (Itoa n)) .uint8 = some v ↔ n < 2 ^ 8 ∧ v = .atom n := readNumber_Itoa

theorem readValue_uint256 {n : Nat} {v : EIP712.Value} :
    readValue (bytes (Itoa n)) .uint256 = some v ↔ n < 2 ^ 256 ∧ v = .atom n := readNumber_Itoa

theorem readValues_nil {values : List EIP712.Value} :
    readValues [] [] = some values ↔ values = [] := by
  rw [readValues, Option.some.injEq, eq_comm]

/-! ## The digests -/

section Digests

variable {Key : Type} {geth : Geth Key} {keccak : EIP712.Hash}

/-- The hash of the domain of the contract at an address of a chain. -/
def domainSeparator (keccak : EIP712.Hash) (chainID : Nat) (contractAddress : Address) : Bytes32 :=
  EIP712.hashStruct keccak (bytes (EIP712.encodeType "EIP712Domain" domainType))
    [.string (bytes "LesserSoul"), .string (bytes "1"), .atom chainID, .atom contractAddress]

theorem soulDomain_members (hgeth : geth.Documented keccak) (chainID : Int)
    (contractAddress : Address) : Members domainType (soulDomain geth chainID contractAddress).Map := by
  simp only [Members, soulDomain, TypedDataDomain.Map, domainType, hgeth.Hex, List.forall₂_cons,
    true_and, List.Forall₂.nil, and_true]
  exact ⟨.string _, .string _, .uint256 _, .address _⟩

theorem soulDomain_values (hgeth : geth.Documented keccak) {chainID : Nat} {contractAddress : Address}
    {values : List EIP712.Value} :
    readValues domainType (soulDomain geth chainID contractAddress).Map = some values ↔
      chainID < 2 ^ 256 ∧ values = [.string (bytes "LesserSoul"), .string (bytes "1"), .atom chainID,
        .atom contractAddress] := by
  simp only [soulDomain, TypedDataDomain.Map, domainType, hgeth.Hex, readValues_cons, readValues_nil,
    readValue_string, readValue_uint256, readValue_address]
  constructor
  · rintro ⟨_, _, rfl, ⟨_, _, rfl, ⟨_, _, ⟨hchain, rfl⟩, ⟨_, _, rfl, rfl, rfl⟩, rfl⟩, rfl⟩, rfl⟩
    exact ⟨hchain, rfl⟩
  · rintro ⟨hchain, rfl⟩
    exact ⟨_, _, rfl, ⟨_, _, rfl, ⟨_, _, ⟨hchain, rfl⟩, ⟨_, _, rfl, rfl, rfl⟩, rfl⟩, rfl⟩, rfl⟩

/-- The digest of typed data for the registry, if all numbers fit. -/
theorem TypedDataAndHash_iff (hgeth : geth.Documented keccak) {td : TypedData}
    {fields : List EIP712.Field} {chainID : Nat} {contractAddress : Address} {digest : Bytes32}
    (hdomain : td.Domain = soulDomain geth chainID contractAddress)
    (hdomainType : td.Types.lookup "EIP712Domain" = some domainType)
    (htype : td.Types.lookup td.PrimaryType = some fields) (hmembers : Members fields td.Message) :
    geth.TypedDataAndHash td = some digest ↔ chainID < 2 ^ 256 ∧
      ∃ values, readValues fields td.Message = some values ∧
        digest = EIP712.digest keccak (domainSeparator keccak chainID contractAddress)
          (EIP712.hashStruct keccak (bytes (EIP712.encodeType td.PrimaryType fields)) values) := by
  rw [hgeth.TypedDataAndHash td domainType fields ⟨hdomainType, htype, ?_, hmembers⟩]
  · rw [TypedData.digest, hdomainType, htype, hdomain]
    simp only [Option.bind_eq_bind, Option.bind_some, Option.bind_eq_some_iff, Option.pure_def,
      Option.some.injEq, soulDomain_values hgeth]
    constructor
    · rintro ⟨_, ⟨hchain, rfl⟩, values, hvalues, rfl⟩
      exact ⟨hchain, values, hvalues, rfl⟩
    · rintro ⟨hchain, values, hvalues, rfl⟩
      exact ⟨_, ⟨hchain, rfl⟩, values, hvalues, rfl⟩
  · rw [hdomain]
    exact soulDomain_members hgeth _ _

theorem mintPermit_digest (hgeth : geth.Documented keccak) {chainID agentID deadline : Nat}
    {contractAddress dest : Address} {metaURI : Bytes} {avatarStyle : Fin 256} {digest : Bytes32} :
    geth.TypedDataAndHash (mintPermitTypedData geth chainID contractAddress dest agentID metaURI
        avatarStyle deadline) = some digest ↔
      chainID < 2 ^ 256 ∧ agentID < 2 ^ 256 ∧ deadline < 2 ^ 256 ∧
        digest = EIP712.digest keccak (domainSeparator keccak chainID contractAddress)
          (EIP712.hashStruct keccak (bytes (EIP712.encodeType "MintPermit" mintPermitType))
            [.atom dest, .atom agentID, .string metaURI, .atom avatarStyle, .atom deadline]) := by
  have htype : (mintPermitTypedData geth chainID contractAddress dest agentID metaURI avatarStyle
      deadline).Types.lookup "MintPermit" = some mintPermitType := by
    simp [mintPermitTypedData, List.lookup_cons]
  rw [TypedDataAndHash_iff hgeth rfl (by simp [mintPermitTypedData]) htype]
  · simp only [mintPermitTypedData, mintPermitType, hgeth.Hex, readValues_cons, readValues_nil,
      readValue_string, readValue_uint8, readValue_uint256, readValue_address]
    constructor
    · rintro ⟨hchain, _, ⟨_, _, rfl, ⟨_, _, ⟨hagent, rfl⟩, ⟨_, _, rfl, ⟨_, _, ⟨-, rfl⟩, ⟨_, _, ⟨hdeadline,
        rfl⟩, rfl, rfl⟩, rfl⟩, rfl⟩, rfl⟩, rfl⟩, hdigest⟩
      exact ⟨hchain, hagent, hdeadline, hdigest⟩
    · rintro ⟨hchain, hagent, hdeadline, hdigest⟩
      exact ⟨hchain, _, ⟨_, _, rfl, ⟨_, _, ⟨hagent, rfl⟩, ⟨_, _, rfl, ⟨_, _, ⟨avatarStyle.isLt, rfl⟩,
        ⟨_, _, ⟨hdeadline, rfl⟩, rfl, rfl⟩, rfl⟩, rfl⟩, rfl⟩, rfl⟩, hdigest⟩
  · simp only [mintPermitTypedData, mintPermitType, Members, hgeth.Hex, List.forall₂_cons, true_and,
      List.Forall₂.nil, and_true]
    exact ⟨.address _, .uint256 _, .string _, .uint8 _, .uint256 _⟩

theorem selfMintAttestation_digest (hgeth : geth.Documented keccak) {chainID agentID deadline : Nat}
    {contractAddress dest principal submitter : Address} {metaURI : Bytes} {avatarStyle : Fin 256}
    {digest : Bytes32} :
    geth.TypedDataAndHash (selfMintAttestationTypedData geth chainID contractAddress dest agentID
        metaURI avatarStyle principal deadline submitter) = some digest ↔
      chainID < 2 ^ 256 ∧ agentID < 2 ^ 256 ∧ deadline < 2 ^ 256 ∧
        digest = EIP712.digest keccak (domainSeparator keccak chainID contractAddress)
          (EIP712.hashStruct keccak
            (bytes (EIP712.encodeType "SelfMintAttestation" selfMintAttestationType))
            [.atom dest, .atom agentID, .string metaURI, .atom avatarStyle, .atom principal,
              .atom deadline, .atom submitter]) := by
  have htype : (selfMintAttestationTypedData geth chainID contractAddress dest agentID metaURI
      avatarStyle principal deadline submitter).Types.lookup "SelfMintAttestation"
      = some selfMintAttestationType := by
    simp [selfMintAttestationTypedData, List.lookup_cons]
  rw [TypedDataAndHash_iff hgeth rfl (by simp [selfMintAttestationTypedData]) htype]
  · simp only [selfMintAttestationTypedData, selfMintAttestationType, hgeth.Hex, readValues_cons,
      readValues_nil, readValue_string, readValue_uint8, readValue_uint256, readValue_address]
    constructor
    · rintro ⟨hchain, _, ⟨_, _, rfl, ⟨_, _, ⟨hagent, rfl⟩, ⟨_, _, rfl, ⟨_, _, ⟨-, rfl⟩, ⟨_, _, rfl,
        ⟨_, _, ⟨hdeadline, rfl⟩, ⟨_, _, rfl, rfl, rfl⟩, rfl⟩, rfl⟩, rfl⟩, rfl⟩, rfl⟩, rfl⟩, hdigest⟩
      exact ⟨hchain, hagent, hdeadline, hdigest⟩
    · rintro ⟨hchain, hagent, hdeadline, hdigest⟩
      exact ⟨hchain, _, ⟨_, _, rfl, ⟨_, _, ⟨hagent, rfl⟩, ⟨_, _, rfl, ⟨_, _, ⟨avatarStyle.isLt, rfl⟩,
        ⟨_, _, rfl, ⟨_, _, ⟨hdeadline, rfl⟩, ⟨_, _, rfl, rfl, rfl⟩, rfl⟩, rfl⟩, rfl⟩, rfl⟩, rfl⟩, rfl⟩,
        hdigest⟩
  · simp only [selfMintAttestationTypedData, selfMintAttestationType, Members, hgeth.Hex,
      List.forall₂_cons, true_and, List.Forall₂.nil, and_true]
    exact ⟨.address _, .uint256 _, .string _, .uint8 _, .address _, .uint256 _, .address _⟩

/-- What has been signed when a signature is handed out. -/
theorem signTypedData_ok {what privateKeyHex : String} {td : TypedData} {sig : Bytes}
    (h : signTypedData geth what privateKeyHex td = .ok sig) :
    ∃ key digest raw, geth.TypedDataAndHash td = some digest ∧ geth.Sign digest key = .ok raw ∧
      sig = adjustV raw := by
  unfold signTypedData at h
  dsimp only at h
  split_ifs at h
  split at h
  · cases h
  · next key _ =>
      split at h
      · cases h
      · next digest hdigest =>
          split at h
          · cases h
          · next raw hsign => exact ⟨key, digest, raw, hdigest, hsign, (Except.ok.inj h).symm⟩

end Digests

end LesserHost.Soul
