import LesserHost.Soul.MintPermit
import LesserHost.SoulRegistry.Steps

set_option autoImplicit false

/-! # Mint permits and self-mint attestations

The registry rebuilds the digest the host has signed from the arguments of a call. Both sides write the
same bytes, so as long as keccak does not collide on what they hash, a signature is accepted for the
tuple it was made for on its own chain and contract, until its deadline, and for one mint.

`_hashTypedDataV4` of OpenZeppelin is a parameter that hashes a struct for the domain of the contract
(`HashesForDomain`). That nobody forges a signature is `Unforgeable`. -/

namespace LesserHost.SoulRegistry

open LesserHost.Solidity CallStack
open LesserHost.Go (bytes)

/-! ## The digest of the contract -/

def rotationTypeText : String :=
  "WalletRotationProposal(uint256 agentId,address currentWallet,address newWallet,uint256 nonce,uint256 deadline)"

def mintPermitTypeText : String :=
  "MintPermit(address to,uint256 agentId,string metaURI,uint8 avatarStyle,uint256 deadline)"

def selfMintAttestationTypeText : String :=
  "SelfMintAttestation(address to,uint256 agentId,string metaURI,uint8 avatarStyle,address principal,uint256 deadline,address submitter)"

/-- `abi.encode` of values of one word each. -/
def abiEncode (words : List Nat) : Bytes := words.flatMap EIP712.word

section Digest

variable (keccak : EIP712.Hash)

def _ROTATION_TYPEHASH : Bytes32 := keccak (bytes rotationTypeText)
def _MINT_PERMIT_TYPEHASH : Bytes32 := keccak (bytes mintPermitTypeText)
def _SELF_MINT_ATTESTATION_TYPEHASH : Bytes32 := keccak (bytes selfMintAttestationTypeText)

def structHash : TypedData → Bytes32
  | .walletRotationProposal agentId currentWallet newWallet nonce deadline =>
      keccak (abiEncode [_ROTATION_TYPEHASH keccak, agentId, currentWallet, newWallet, nonce, deadline])
  | .mintPermit dest agentId metaURI avatarStyle deadline =>
      keccak (abiEncode [_MINT_PERMIT_TYPEHASH keccak, dest, agentId, keccak metaURI, avatarStyle,
        deadline])
  | .selfMintAttestation dest agentId metaURI avatarStyle principal deadline submitter =>
      keccak (abiEncode [_SELF_MINT_ATTESTATION_TYPEHASH keccak, dest, agentId, keccak metaURI,
        avatarStyle, principal, deadline, submitter])

/-- The chain and the address of a contract. -/
structure Domain where
  chainId : Nat
  verifyingContract : Address
  deriving DecidableEq

def domainTypeText : String :=
  "EIP712Domain(string name,string version,uint256 chainId,address verifyingContract)"

def domainValues (d : Domain) : List EIP712.Value :=
  [.string (bytes "LesserSoul"), .string (bytes "1"), .atom d.chainId, .atom d.verifyingContract]

/-- OpenZeppelin's `EIP712("LesserSoul", "1")` in the contract of the domain. -/
def HashesForDomain (d : Domain) (_hashTypedDataV4 : Bytes32 → Bytes32) : Prop :=
  ∀ hash, _hashTypedDataV4 hash
    = EIP712.digest keccak (EIP712.hashStruct keccak (bytes domainTypeText) (domainValues d)) hash

/-- The contract that hashes its typed data as the source does. -/
def Config.withDigest {σ : Type} (cfg : Config σ) (_hashTypedDataV4 : Bytes32 → Bytes32) : Config σ :=
  { cfg with _hashTypedDataV4 := fun data => _hashTypedDataV4 (structHash keccak data) }

def digestOf (d : Domain) (data : TypedData) : Bytes32 :=
  EIP712.digest keccak (EIP712.hashStruct keccak (bytes domainTypeText) (domainValues d))
    (structHash keccak data)

end Digest

/-! ## Types and members -/

def TypedData.type : TypedData → Bytes
  | .walletRotationProposal .. => bytes rotationTypeText
  | .mintPermit .. => bytes mintPermitTypeText
  | .selfMintAttestation .. => bytes selfMintAttestationTypeText

def TypedData.members : TypedData → List EIP712.Value
  | .walletRotationProposal agentId currentWallet newWallet nonce deadline =>
      [.atom agentId, .atom currentWallet, .atom newWallet, .atom nonce, .atom deadline]
  | .mintPermit dest agentId metaURI avatarStyle deadline =>
      [.atom dest, .atom agentId, .string metaURI, .atom avatarStyle, .atom deadline]
  | .selfMintAttestation dest agentId metaURI avatarStyle principal deadline submitter =>
      [.atom dest, .atom agentId, .string metaURI, .atom avatarStyle, .atom principal, .atom deadline,
        .atom submitter]

theorem structHash_eq (keccak : EIP712.Hash) (data : TypedData) :
    structHash keccak data = EIP712.hashStruct keccak data.type data.members := by
  cases data <;> rfl

/-- The numbers of the data are numbers of 256 bits. -/
def TypedData.InRange (data : TypedData) : Prop := ∀ v ∈ data.members, v.InRange

theorem address_lt (a : Address) : (a : Nat) < 2 ^ 256 := a.isLt.trans (by decide)

theorem style_lt (style : Fin 256) : (style : Nat) < 2 ^ 256 := style.isLt.trans (by decide)

/-- The texts that are hashed on the way to a digest. -/
def hashedTexts (keccak : EIP712.Hash) (d : Domain) (data : TypedData) : Set Bytes :=
  EIP712.structTexts keccak (bytes domainTypeText) (domainValues d) ∪
    EIP712.structTexts keccak data.type data.members ∪
      {EIP712.signedBytes (EIP712.hashStruct keccak (bytes domainTypeText) (domainValues d))
        (EIP712.hashStruct keccak data.type data.members)}

theorem type_injective {data data' : TypedData} (h : data.type = data'.type) :
    data.members.map (fun v => v matches .string _) = data'.members.map (fun v => v matches .string _) ∧
      (data.members = data'.members → data = data') := by
  have h12 : bytes rotationTypeText ≠ bytes mintPermitTypeText :=
    LesserHost.Go.bytes_injective.ne (by decide)
  have h13 : bytes rotationTypeText ≠ bytes selfMintAttestationTypeText :=
    LesserHost.Go.bytes_injective.ne (by decide +kernel)
  have h23 : bytes mintPermitTypeText ≠ bytes selfMintAttestationTypeText :=
    LesserHost.Go.bytes_injective.ne (by decide +kernel)
  cases data with
  | walletRotationProposal agentId currentWallet newWallet nonce deadline =>
      cases data' with
      | walletRotationProposal agentId' currentWallet' newWallet' nonce' deadline' =>
          refine ⟨rfl, fun hmembers => ?_⟩
          simp [TypedData.members] at hmembers
          simp [Fin.ext_iff, hmembers]
      | mintPermit dest' agentId' metaURI' avatarStyle' deadline' => exact absurd h h12
      | selfMintAttestation dest' agentId' metaURI' avatarStyle' principal' deadline' submitter' =>
          exact absurd h h13
  | mintPermit dest agentId metaURI avatarStyle deadline =>
      cases data' with
      | walletRotationProposal agentId' currentWallet' newWallet' nonce' deadline' =>
          exact absurd h.symm h12
      | mintPermit dest' agentId' metaURI' avatarStyle' deadline' =>
          refine ⟨rfl, fun hmembers => ?_⟩
          simp [TypedData.members] at hmembers
          simp [Fin.ext_iff, hmembers]
      | selfMintAttestation dest' agentId' metaURI' avatarStyle' principal' deadline' submitter' =>
          exact absurd h h23
  | selfMintAttestation dest agentId metaURI avatarStyle principal deadline submitter =>
      cases data' with
      | walletRotationProposal agentId' currentWallet' newWallet' nonce' deadline' =>
          exact absurd h.symm h13
      | mintPermit dest' agentId' metaURI' avatarStyle' deadline' => exact absurd h.symm h23
      | selfMintAttestation dest' agentId' metaURI' avatarStyle' principal' deadline' submitter' =>
          refine ⟨rfl, fun hmembers => ?_⟩
          simp [TypedData.members] at hmembers
          simp [Fin.ext_iff, hmembers]

/-- **A digest is about one tuple in one domain.** -/
theorem digestOf_injective {keccak : EIP712.Hash} {hashed : Set Bytes}
    (hkeccak : Set.InjOn keccak hashed) {d d' : Domain} {data data' : TypedData}
    (hhashed : hashedTexts keccak d data ⊆ hashed) (hhashed' : hashedTexts keccak d' data' ⊆ hashed)
    (hd : d.chainId < 2 ^ 256) (hd' : d'.chainId < 2 ^ 256) (hdata : data.InRange)
    (hdata' : data'.InRange) (h : digestOf keccak d data = digestOf keccak d' data') :
    d = d' ∧ data = data' := by
  have hdomain : ∀ e : Domain, e.chainId < 2 ^ 256 → ∀ v ∈ domainValues e, v.InRange := by
    intro e he v hv
    simp only [domainValues, List.mem_cons, List.not_mem_nil, or_false] at hv
    rcases hv with rfl | rfl | rfl | rfl
    · trivial
    · trivial
    · exact he
    · exact address_lt _
  simp only [hashedTexts, Set.union_subset_iff, Set.singleton_subset_iff] at hhashed hhashed'
  obtain ⟨⟨hdom, hstruct⟩, hsigned⟩ := hhashed
  obtain ⟨⟨hdom', hstruct'⟩, hsigned'⟩ := hhashed'
  rw [digestOf, digestOf, structHash_eq, structHash_eq] at h
  obtain ⟨hseparator, hhash⟩ := EIP712.digest_injective hkeccak hsigned hsigned' h
  have hvalues := (EIP712.hashStruct_injective hkeccak hdom hdom' (hdomain d hd) (hdomain d' hd')
    hseparator).2 rfl
  obtain ⟨htype, hmembers⟩ := EIP712.hashStruct_injective hkeccak hstruct hstruct' hdata hdata' hhash
  obtain ⟨hshape, heq⟩ := type_injective htype
  refine ⟨?_, heq (hmembers hshape)⟩
  obtain ⟨chainId, verifyingContract⟩ := d
  obtain ⟨chainId', verifyingContract'⟩ := d'
  simp [domainValues] at hvalues
  simp [Fin.ext_iff, hvalues]

/-! ## The digest of the host -/

theorem domainType_text : EIP712.encodeType "EIP712Domain" Soul.domainType = domainTypeText := by
  decide

theorem mintPermitType_text : EIP712.encodeType "MintPermit" Soul.mintPermitType = mintPermitTypeText := by
  decide

theorem selfMintAttestationType_text :
    EIP712.encodeType "SelfMintAttestation" Soul.selfMintAttestationType = selfMintAttestationTypeText := by
  decide +kernel

section Host

variable {Key : Type} {geth : Soul.Geth Key} {keccak : EIP712.Hash}

/-- The typed data the host hashes for a mint. -/
def hostTypedData (geth : Soul.Geth Key) (d : Domain) : TypedData → Option Soul.TypedData
  | .mintPermit dest agentId metaURI avatarStyle deadline =>
      some (Soul.mintPermitTypedData geth d.chainId d.verifyingContract dest agentId metaURI avatarStyle
        deadline)
  | .selfMintAttestation dest agentId metaURI avatarStyle principal deadline submitter =>
      some (Soul.selfMintAttestationTypedData geth d.chainId d.verifyingContract dest agentId metaURI
        avatarStyle principal deadline submitter)
  | .walletRotationProposal .. => none

/-- **Both sides compute one digest**, for all values that fit their types, and the host computes none
    for others. -/
theorem hostDigest_iff (hgeth : geth.Documented keccak) {d : Domain} {data : TypedData}
    {td : Soul.TypedData} (htd : hostTypedData geth d data = some td) (digest : Bytes32) :
    geth.TypedDataAndHash td = some digest ↔
      d.chainId < 2 ^ 256 ∧ data.InRange ∧ digest = digestOf keccak d data := by
  have hseparator : EIP712.hashStruct keccak (bytes domainTypeText) (domainValues d)
      = Soul.domainSeparator keccak d.chainId d.verifyingContract := by
    rw [Soul.domainSeparator, domainType_text, domainValues]
  cases data with
  | walletRotationProposal => cases htd
  | mintPermit dest agentId metaURI avatarStyle deadline =>
      obtain rfl := Option.some.inj htd
      rw [Soul.mintPermit_digest hgeth, digestOf, structHash_eq, hseparator, mintPermitType_text]
      have hrange : (TypedData.mintPermit dest agentId metaURI avatarStyle deadline).InRange ↔
          agentId < 2 ^ 256 ∧ deadline < 2 ^ 256 := by
        simp only [TypedData.InRange, TypedData.members, List.forall_mem_cons, EIP712.Value.InRange,
          address_lt, style_lt, true_and, List.not_mem_nil, false_imp_iff,
          implies_true, and_true]
      rw [hrange, and_assoc]
      rfl
  | selfMintAttestation dest agentId metaURI avatarStyle principal deadline submitter =>
      obtain rfl := Option.some.inj htd
      rw [Soul.selfMintAttestation_digest hgeth, digestOf, structHash_eq, hseparator,
        selfMintAttestationType_text]
      have hrange : (TypedData.selfMintAttestation dest agentId metaURI avatarStyle principal deadline
          submitter).InRange ↔ agentId < 2 ^ 256 ∧ deadline < 2 ^ 256 := by
        simp only [TypedData.InRange, TypedData.members, List.forall_mem_cons, EIP712.Value.InRange,
          address_lt, style_lt, true_and, List.not_mem_nil, false_imp_iff,
          implies_true, and_true]
      rw [hrange, and_assoc]
      rfl

/-- The host has handed out the signature for the mint. -/
def HostSigned (geth : Soul.Geth Key) (d : Domain) (sig : Bytes) : TypedData → Prop
  | .mintPermit dest agentId metaURI avatarStyle deadline =>
      ∃ privateKeyHex, Soul.SignMintPermit geth privateKeyHex d.chainId d.verifyingContract dest
        (some agentId) metaURI avatarStyle (some deadline) = .ok sig
  | .selfMintAttestation dest agentId metaURI avatarStyle principal deadline submitter =>
      ∃ privateKeyHex, Soul.SignSelfMintAttestation geth privateKeyHex d.chainId d.verifyingContract
        dest (some agentId) metaURI avatarStyle principal (some deadline) submitter = .ok sig
  | .walletRotationProposal .. => False

theorem HostSigned.digest (hgeth : geth.Documented keccak) {d : Domain} {sig : Bytes}
    {data : TypedData} (h : HostSigned geth d sig data) :
    d.chainId < 2 ^ 256 ∧ data.InRange ∧ ∃ key raw,
      geth.Sign (digestOf keccak d data) key = .ok raw ∧ sig = Soul.adjustV raw := by
  obtain ⟨td, htd, what, privateKeyHex, hsigned⟩ : ∃ td, hostTypedData geth d data = some td ∧
      ∃ what privateKeyHex, Soul.signTypedData geth what privateKeyHex td = .ok sig := by
    cases data with
    | walletRotationProposal => exact h.elim
    | mintPermit =>
        obtain ⟨privateKeyHex, hsigned⟩ := h
        exact ⟨_, rfl, _, privateKeyHex, hsigned⟩
    | selfMintAttestation =>
        obtain ⟨privateKeyHex, hsigned⟩ := h
        exact ⟨_, rfl, _, privateKeyHex, hsigned⟩
  obtain ⟨key, digest, raw, hdigest, hsign, rfl⟩ := Soul.signTypedData_ok hsigned
  obtain ⟨hchain, hrange, rfl⟩ := (hostDigest_iff hgeth htd digest).1 hdigest
  exact ⟨hchain, hrange, key, raw, hsign, rfl⟩

end Host

/-! ## Spent digests -/

section Spent

variable {σ : Type} {cfg : Config σ} {s s' : State σ} {msg : Msg} {dest : Address} {id : Nat}

/-- The digests that have been used for a mint. -/
def used (s : State σ) : (Bytes32 → Bool) × (Bytes32 → Bool) :=
  (s._usedPermits, s._usedSelfMintAttestations)

theorem _update_used {auth prev : Address} (h : _update cfg s dest id auth = .ok (s', prev)) :
    used s' = used s := by
  obtain ⟨_, _, _, _, _, rfl⟩ := _update_writes h
  rfl

theorem _mintSoulInternal_used {metaURI : Bytes} {avatarStyle : Fin 256} {principal : Address}
    (h : _mintSoulInternal cfg s dest id metaURI avatarStyle principal = .ok s') :
    used s' = used s := by
  obtain ⟨_, _, _, _, _, _, _, _, _, _, rfl⟩ := _mintSoulInternal_writes h
  rfl

theorem transferFrom_used {source : Address} (h : transferFrom cfg s msg source dest id = .ok s') :
    used s' = used s := by
  obtain ⟨_, _, _, _, _, rfl⟩ := transferFrom_writes h
  rfl

/-- The typed data of a mint, and the signature that comes with it. -/
def mintData (msg : Msg) : Call → Option (TypedData × Bytes)
  | .mintSoul dest agentId metaURI avatarStyle deadline permit =>
      some (.mintPermit dest agentId metaURI avatarStyle deadline, permit)
  | .selfMintSoul dest agentId metaURI avatarStyle principal deadline attestationSig =>
      some (.selfMintAttestation dest agentId metaURI avatarStyle principal deadline msg.sender,
        attestationSig)
  | _ => none

def TypedData.deadline : TypedData → Nat
  | .walletRotationProposal _ _ _ _ deadline => deadline
  | .mintPermit _ _ _ _ deadline => deadline
  | .selfMintAttestation _ _ _ _ _ deadline _ => deadline

/-- The digest of the data has been used for a mint of its kind. -/
def Spent (cfg : Config σ) (u : (Bytes32 → Bool) × (Bytes32 → Bool)) (data : TypedData) : Prop :=
  match data with
  | .walletRotationProposal .. => False
  | .mintPermit .. => u.1 (cfg._hashTypedDataV4 data) = true
  | .selfMintAttestation .. => u.2 (cfg._hashTypedDataV4 data) = true

def spend (cfg : Config σ) (u : (Bytes32 → Bool) × (Bytes32 → Bool)) (data : TypedData) :
    (Bytes32 → Bool) × (Bytes32 → Bool) :=
  match data with
  | .walletRotationProposal .. => u
  | .mintPermit .. => (Function.update u.1 (cfg._hashTypedDataV4 data) true, u.2)
  | .selfMintAttestation .. => (u.1, Function.update u.2 (cfg._hashTypedDataV4 data) true)

/-- The signature is valid for the mint signer, or recovers to an attestor. -/
def Accepts (cfg : Config σ) (s : State σ) (digest : Bytes32) (sig : Bytes) : Prop :=
  s.isValidSignatureNow s.mintSigner digest sig = true ∨
    ∃ signer, s._attestors signer = true ∧ cfg.recover digest sig = some signer

/-- What a mint with a signature has checked, and the digest it uses up. -/
structure MintsWith (cfg : Config σ) (s : State σ) (data : TypedData) (sig : Bytes) (s' : State σ) :
    Prop where
  inTime : s.timestamp ≤ data.deadline
  accepted : Accepts cfg s (cfg._hashTypedDataV4 data) sig
  fresh : ¬ Spent cfg (used s) data
  spent : used s' = spend cfg (used s) data

theorem mintSoul_mints {metaURI permit : Bytes} {avatarStyle : Fin 256} {deadline : Nat}
    (h : mintSoul cfg s msg dest id metaURI avatarStyle deadline permit = .ok s') :
    MintsWith cfg s (.mintPermit dest id metaURI avatarStyle deadline) permit s' := by
  simp only [mintSoul, bind_ok, require_ok] at h
  obtain ⟨-, -, -, -, -, htime, -, -, -, hfresh, -, hvalid, fees, -, h⟩ := h
  refine ⟨htime, Or.inl hvalid, ?_, _mintSoulInternal_used h⟩
  simp only [Spent, used, hfresh]
  decide

theorem selfMintSoul_mints {metaURI sig : Bytes} {avatarStyle : Fin 256} {principal : Address}
    {deadline : Nat}
    (h : selfMintSoul cfg s msg dest id metaURI avatarStyle principal deadline sig = .ok s') :
    MintsWith cfg s (.selfMintAttestation dest id metaURI avatarStyle principal deadline msg.sender)
      sig s' := by
  simp only [selfMintSoul, bind_ok, require_ok] at h
  obtain ⟨-, -, -, -, -, htime, -, -, -, hfresh, h⟩ := h
  split at h
  · cases h
  · next signer hsigner =>
      simp only [bind_ok, require_ok] at h
      obtain ⟨-, hattestor, fees, -, h⟩ := h
      refine ⟨htime, Or.inr ⟨signer, hattestor, hsigner⟩, ?_, _mintSoulInternal_used h⟩
      simp only [Spent, used, hfresh]
      decide

/-- **What a call does to the spent digests.** -/
theorem call_used {c : Call} {o : Outcome (State σ) Pending} (h : call cfg s (msg, c) = .ok o) :
    (mintData msg c = none ∧ used o.state = used s) ∨
      ∃ data sig, mintData msg c = some (data, sig) ∧ MintsWith cfg s data sig o.state := by
  cases c with
  | mintSoul dest id metaURI avatarStyle deadline permit =>
      obtain ⟨htime, haccepted, hfresh, hspent⟩ := mintSoul_mints (finish_ok h)
      exact Or.inr ⟨_, _, rfl, htime, haccepted, hfresh, hspent⟩
  | selfMintSoul dest id metaURI avatarStyle principal deadline sig =>
      obtain ⟨htime, haccepted, hfresh, hspent⟩ := selfMintSoul_mints (finish_ok h)
      exact Or.inr ⟨_, _, rfl, htime, haccepted, hfresh, hspent⟩
  | mintSoulOwner dest id metaURI avatarStyle =>
      have hs := finish_ok (nonPayable_ok h)
      simp only [mintSoulOwner, bind_ok] at hs
      obtain ⟨-, -, -, -, hs⟩ := hs
      exact Or.inl ⟨rfl, _mintSoulInternal_used hs⟩
  | burnSoul id =>
      have hs := finish_ok (nonPayable_ok h)
      simp only [burnSoul, bind_ok, pure_ok, Prod.exists] at hs
      obtain ⟨-, -, -, -, -, -, t, prev, ht, hs⟩ := hs
      have hused := _update_used ht
      exact Or.inl ⟨rfl, (congrArg used hs).symm.trans hused⟩
  | rotateWallet id newWallet nonce deadline currentSig newSig =>
      have hs := finish_ok (nonPayable_ok h)
      simp only [rotateWallet, bind_ok, pure_ok, Prod.exists] at hs
      obtain ⟨-, -, -, -, -, -, -, -, -, -, -, -, -, -, -, -, -, -, next, -, t, prev, ht, hs⟩ := hs
      have hused := _update_used ht
      exact Or.inl ⟨rfl, (congrArg used hs).symm.trans hused⟩
  | transferFrom source dest id =>
      exact Or.inl ⟨rfl, transferFrom_used (finish_ok (nonPayable_ok h))⟩
  | safeTransferFrom source dest id =>
      have hs := nonPayable_ok h
      simp only [safeTransferFrom, bind_ok, pure_ok] at hs
      obtain ⟨t, ht, rfl⟩ := hs
      refine Or.inl ⟨rfl, ?_⟩
      split_ifs <;> exact transferFrom_used ht
  | approve dest id =>
      have hs := finish_ok (nonPayable_ok h)
      simp only [approve, bind_ok, pure_ok] at hs
      obtain ⟨base, -, hs⟩ := hs
      exact Or.inl ⟨rfl, (congrArg used hs).symm⟩
  | setApprovalForAll operator approved =>
      have hs := finish_ok (nonPayable_ok h)
      simp only [setApprovalForAll, bind_ok, pure_ok] at hs
      obtain ⟨base, -, hs⟩ := hs
      exact Or.inl ⟨rfl, (congrArg used hs).symm⟩
  | setMetaURI id metaURI =>
      have hs := finish_ok (nonPayable_ok h)
      simp only [setMetaURI, bind_ok, pure_ok] at hs
      obtain ⟨-, -, -, -, -, -, -, -, hs⟩ := hs
      exact Or.inl ⟨rfl, (congrArg used hs).symm⟩
  | setAvatarStyle id style =>
      have hs := finish_ok (nonPayable_ok h)
      simp only [setAvatarStyle, bind_ok, pure_ok] at hs
      obtain ⟨-, -, -, -, -, -, hs⟩ := hs
      exact Or.inl ⟨rfl, (congrArg used hs).symm⟩
  | addAttestor attestor =>
      have hs := finish_ok (nonPayable_ok h)
      simp only [addAttestor, bind_ok, pure_ok] at hs
      obtain ⟨-, -, -, -, -, -, hs⟩ := hs
      exact Or.inl ⟨rfl, (congrArg used hs).symm⟩
  | removeAttestor attestor =>
      have hs := finish_ok (nonPayable_ok h)
      simp only [removeAttestor, bind_ok, pure_ok] at hs
      obtain ⟨-, -, -, -, -, -, hs⟩ := hs
      exact Or.inl ⟨rfl, (congrArg used hs).symm⟩
  | setRenderer styleId renderer =>
      have hs := finish_ok (nonPayable_ok h)
      simp only [setRenderer, bind_ok, pure_ok] at hs
      obtain ⟨-, -, hs⟩ := hs
      exact Or.inl ⟨rfl, (congrArg used hs).symm⟩
  | setMintSigner signer =>
      have hs := finish_ok (nonPayable_ok h)
      simp only [setMintSigner, bind_ok, pure_ok] at hs
      obtain ⟨-, -, -, -, hs⟩ := hs
      exact Or.inl ⟨rfl, (congrArg used hs).symm⟩
  | setMintFee fee =>
      have hs := finish_ok (nonPayable_ok h)
      simp only [setMintFee, bind_ok, pure_ok] at hs
      obtain ⟨-, -, hs⟩ := hs
      exact Or.inl ⟨rfl, (congrArg used hs).symm⟩
  | withdrawFees recipient =>
      have hs := nonPayable_ok h
      simp only [withdrawFees, bind_ok, pure_ok] at hs
      obtain ⟨-, -, -, -, -, -, fees, -, -, -, rfl⟩ := hs
      exact Or.inl ⟨rfl, rfl⟩
  | pause =>
      have hs := finish_ok (nonPayable_ok h)
      simp only [pause, bind_ok, pure_ok] at hs
      obtain ⟨-, -, -, -, hs⟩ := hs
      exact Or.inl ⟨rfl, (congrArg used hs).symm⟩
  | unpause =>
      have hs := finish_ok (nonPayable_ok h)
      simp only [unpause, bind_ok, pure_ok] at hs
      obtain ⟨-, -, -, -, hs⟩ := hs
      exact Or.inl ⟨rfl, (congrArg used hs).symm⟩
  | transferOwnership newOwner =>
      have hs := finish_ok (nonPayable_ok h)
      simp only [transferOwnership, bind_ok, pure_ok] at hs
      obtain ⟨-, -, hs⟩ := hs
      exact Or.inl ⟨rfl, (congrArg used hs).symm⟩
  | acceptOwnership =>
      have hs := finish_ok (nonPayable_ok h)
      simp only [acceptOwnership, bind_ok, pure_ok] at hs
      obtain ⟨-, -, hs⟩ := hs
      exact Or.inl ⟨rfl, (congrArg used hs).symm⟩
  | renounceOwnership =>
      have hs := finish_ok (nonPayable_ok h)
      simp only [renounceOwnership, bind_ok, pure_ok] at hs
      obtain ⟨-, -, hs⟩ := hs
      exact Or.inl ⟨rfl, (congrArg used hs).symm⟩

theorem spent_spend {u : (Bytes32 → Bool) × (Bytes32 → Bool)} {data data' : TypedData}
    (h : Spent cfg u data') : Spent cfg (spend cfg u data) data' := by
  have hupdate : ∀ (f : Bytes32 → Bool) (a b : Bytes32), f b = true → Function.update f a true b = true := by
    intro f a b hb
    by_cases hab : b = a
    · rw [hab, Function.update_self]
    · rw [Function.update_of_ne hab, hb]
  cases data with
  | walletRotationProposal => exact h
  | mintPermit =>
      cases data' with
      | walletRotationProposal => exact h
      | mintPermit => exact hupdate _ _ _ h
      | selfMintAttestation => exact h
  | selfMintAttestation =>
      cases data' with
      | walletRotationProposal => exact h
      | mintPermit => exact h
      | selfMintAttestation => exact hupdate _ _ _ h

theorem spent_self {c : Call} {data : TypedData} {sig : Bytes} (h : mintData msg c = some (data, sig))
    (u : (Bytes32 → Bool) × (Bytes32 → Bool)) : Spent cfg (spend cfg u data) data := by
  cases c <;> simp only [mintData, Option.some.injEq, Prod.mk.injEq, reduceCtorEq] at h
  · obtain ⟨rfl, -⟩ := h
    exact Function.update_self _ _ _
  · obtain ⟨rfl, -⟩ := h
    exact Function.update_self _ _ _

end Spent

/-! ## Runs -/

section Runs

variable {σ : Type}

/-- What is written down of a call: the data of a mint with a signature. -/
def mintNote (c : Msg × Call) : List TypedData := ((mintData c.1 c.2).map Prod.fst).toList

/-- The digests of the mints of a run are spent, and no mint has happened twice. -/
def mintsProtocol (cfg : Config σ) :
    Protocol ((contract cfg).noting mintNote) (fun _ => True) :=
  Protocol.ofInv _ _ (fun s => (∀ data ∈ s.2, Spent cfg (used s.1) data) ∧ s.2.Nodup)
    (fun s c o _ hs h => by
      obtain ⟨o', hcall, hstate⟩ := noting_call h
      rw [hstate]
      rcases call_used hcall with ⟨hnone, hused⟩ | ⟨data, sig, hdata, hmints⟩
      · rw [mintNote, hnone]
        simpa [hused] using hs
      · have hnote : mintNote c = [data] := by
          rw [mintNote, hdata]
          rfl
        refine ⟨?_, ?_⟩
        · intro data' hmem
          rw [hmints.spent]
          rw [hnote, List.mem_append, List.mem_singleton] at hmem
          rcases hmem with hmem | rfl
          · exact spent_spend (hs.1 data' hmem)
          · exact spent_self hdata _
        · rw [hnote]
          refine hs.2.append (List.nodup_singleton _) ?_
          rw [List.disjoint_singleton]
          exact fun hmem => hmints.fresh (hs.1 data hmem))
    (fun s p o hs h => by
      obtain ⟨o', hresume, hstate⟩ := noting_resume h
      obtain rfl := Except.ok.inj hresume
      rw [hstate]
      exact hs)
    (fun s m _ hs => by
      cases m <;> exact hs)

/-- A signature the host has made for one digest is accepted for no other. -/
def Unforgeable {Key : Type} (geth : Soul.Geth Key) (cfg : Config σ) (s : State σ) : Prop :=
  ∀ key digest raw digest', geth.Sign digest key = .ok raw →
    Accepts cfg s digest' (Soul.adjustV raw) → digest' = digest

/-- **Mint signatures.** Host and registry compute one digest. In every run a signature the host has
    handed out is accepted for its own tuple, chain and contract only, until the deadline, and each
    digest is good for one mint. -/
theorem mint_signatures {Key : Type} (keccak : EIP712.Hash) (hashed : Set Bytes)
    (hkeccak : Set.InjOn keccak hashed) (geth : Soul.Geth Key) (hgeth : geth.Documented keccak)
    (cfg : Config σ) (chainId : Nat) (hchain : chainId < 2 ^ 256)
    (_hashTypedDataV4 : Bytes32 → Bytes32)
    (hhash : HashesForDomain keccak ⟨chainId, cfg.self⟩ _hashTypedDataV4) (s₀ : State σ) :
    let registry := cfg.withDigest keccak _hashTypedDataV4
    (∀ data td digest, hostTypedData geth ⟨chainId, cfg.self⟩ data = some td →
      (geth.TypedDataAndHash td = some digest ↔
        data.InRange ∧ digest = registry._hashTypedDataV4 data)) ∧
    ∀ acts, let m := run ((contract registry).noting mintNote) ⟨(s₀, []), []⟩ acts
      m.forget = run (contract registry) ⟨s₀, []⟩ acts ∧
      (∀ msg c o data sig d data', call registry m.state.1 (msg, c) = .ok o →
        mintData msg c = some (data, sig) → data.InRange → Unforgeable geth registry m.state.1 →
        HostSigned geth d sig data' → hashedTexts keccak ⟨chainId, cfg.self⟩ data ⊆ hashed →
        hashedTexts keccak d data' ⊆ hashed →
        d = ⟨chainId, cfg.self⟩ ∧ data' = data ∧ m.state.1.timestamp ≤ data.deadline) ∧
      ((∀ data ∈ m.state.2, data.InRange ∧ hashedTexts keccak ⟨chainId, cfg.self⟩ data ⊆ hashed) →
        (m.state.2.map registry._hashTypedDataV4).Nodup) := by
  intro registry
  have hdigest : ∀ data, registry._hashTypedDataV4 data = digestOf keccak ⟨chainId, cfg.self⟩ data :=
    fun data => hhash _
  refine ⟨?_, fun acts => ⟨run_noting _ _ _ _, ?_, ?_⟩⟩
  · intro data td digest htd
    rw [hostDigest_iff hgeth htd, hdigest]
    exact and_iff_right hchain
  · intro msg c o data sig d data' hcall hdata hrange hunforgeable hsigned hhashed hhashed'
    obtain ⟨hd, hrange', key, raw, hsign, rfl⟩ := hsigned.digest hgeth
    rcases call_used hcall with ⟨hnone, -⟩ | ⟨data₁, sig₁, hdata₁, hmints⟩
    · rw [hdata] at hnone
      cases hnone
    · obtain ⟨rfl, rfl⟩ : data₁ = data ∧ sig₁ = Soul.adjustV raw := by
        rw [hdata, Option.some.injEq, Prod.mk.injEq] at hdata₁
        exact ⟨hdata₁.1.symm, hdata₁.2.symm⟩
      have hsame := hunforgeable key _ raw _ hsign hmints.accepted
      rw [hdigest] at hsame
      obtain ⟨hdomain, htuple⟩ := digestOf_injective hkeccak hhashed' hhashed hd hchain hrange' hrange
        hsame.symm
      exact ⟨hdomain, htuple, hmints.inTime⟩
  · intro hminted
    have hnodup := ((mintsProtocol registry).run_inv (s₀, []) acts (fun _ _ => trivial)
      ⟨fun _ h => (by cases h), List.nodup_nil⟩).2
    refine List.Nodup.map_on (fun data hmem data' hmem' heq => ?_) hnodup
    obtain ⟨hrange, hhashed⟩ := hminted data hmem
    obtain ⟨hrange', hhashed'⟩ := hminted data' hmem'
    rw [hdigest, hdigest] at heq
    exact (digestOf_injective hkeccak hhashed hhashed' hchain hchain hrange hrange' heq).2

end Runs

/-! ## A permit that is used -/

/-- Reads a text as a number. -/
def sampleHash : EIP712.Hash := fun text =>
  Fin.ofNat (2 ^ 256) (text.foldl (fun h b => 257 * h + b.toNat + 1) 0)

/-- Writes the digest into the signature. -/
def sampleGeth : Soul.Geth Unit where
  Hex := Soul.hexAddress
  HexToECDSA _ := .ok ()
  TypedDataAndHash td := td.digest sampleHash
  Sign digest _ := .ok (EIP712.word digest ++ List.replicate 32 0 ++ [0])

theorem sampleGeth_documented : sampleGeth.Documented sampleHash where
  Hex a := by
    have hdigit : ∀ d : Fin 16, Go.toLowerChar (Go.hexDigit d) = Go.hexDigit d := by decide
    have hdigits : ((EIP712.digits 16 40 a).map Go.hexDigit).map Go.toLowerChar
        = (EIP712.digits 16 40 a).map Go.hexDigit := by
      rw [List.map_map]
      refine List.map_congr_left fun d hd => ?_
      exact hdigit ⟨d, EIP712.digit_lt (by decide) hd⟩
    show Go.ToLower (Soul.hexAddress a) = Soul.hexAddress a
    rw [Soul.hexAddress, Go.ToLower, String.toList_ofList, List.map_cons, List.map_cons, hdigits]
    rfl
  TypedDataAndHash _ _ _ _ := rfl

def sampleDomain : Domain := ⟨1, 9⟩

def samplePermit : TypedData := .mintPermit 7 3 [1] 0 2000

def sampleConfig : Config BasicStore where
  self := 9
  claimWindowSeconds := 3600
  erc721 := ERC721.basic
  _hashTypedDataV4 _ := 0
  recover _ _ := none

def sampleSeparator : Bytes32 :=
  EIP712.hashStruct sampleHash (bytes domainTypeText) (domainValues sampleDomain)

/-- The registry with the digests of `sampleHash`. -/
def sampleRegistry : Config BasicStore :=
  sampleConfig.withDigest sampleHash (EIP712.digest sampleHash sampleSeparator)

def sampleTexts : List Bytes :=
  [bytes domainTypeText,
    EIP712.structBytes sampleHash (bytes domainTypeText) (domainValues sampleDomain),
    bytes "LesserSoul", bytes "1", samplePermit.type,
    EIP712.structBytes sampleHash samplePermit.type samplePermit.members, [1],
    EIP712.signedBytes sampleSeparator
      (EIP712.hashStruct sampleHash samplePermit.type samplePermit.members)]

/-- The signer recognises what `sampleGeth` has signed. -/
def sampleState : State BasicStore where
  balance := 0
  timestamp := 1000
  codeLength _ := 0
  isValidSignatureNow signer digest sig :=
    signer = 5 ∧ sig = EIP712.word digest ++ List.replicate 32 0 ++ [27]
  base := ERC721.basic.init
  owner := 2
  pendingOwner := 0
  paused := false
  _agentWallet _ := 0
  _metaURI _ := []
  _mintedAt _ := 0
  _everMinted _ := false
  agentNonces _ := 0
  transferCount _ := 0
  lastTransferredAt _ := 0
  _renderers _ := 0
  _avatarStyle _ := 0
  _principals _ := 0
  _attestors _ := false
  mintSigner := 5
  mintFee := 0
  accumulatedFees := 0
  _usedPermits _ := false
  _usedSelfMintAttestations _ := false
  logs := []

theorem sampleHash_injOn : Set.InjOn sampleHash (hashedTexts sampleHash sampleDomain samplePermit) := by
  have hinj : ∀ x ∈ sampleTexts, ∀ y ∈ sampleTexts, sampleHash x = sampleHash y → x = y := by
    decide +kernel
  have hmem : ∀ x ∈ hashedTexts sampleHash sampleDomain samplePermit, x ∈ sampleTexts := by
    intro x hx
    simp only [hashedTexts, EIP712.structTexts, Set.mem_union, Set.mem_ofPred_eq, domainValues,
      samplePermit, TypedData.members, TypedData.type, Set.mem_singleton_iff, List.mem_cons,
      reduceCtorEq, EIP712.Value.string.injEq, List.not_mem_nil, or_false, false_or, or_assoc] at hx
    simp only [sampleTexts, List.mem_cons, List.not_mem_nil, or_false]
    exact hx
  exact fun x hx y hy => hinj x (hmem x hx) y (hmem y hy)

/-- The recovery id is the last of 65 bytes. -/
theorem adjustV_zero {l : Bytes} (h : l.length = 64) : Soul.adjustV (l ++ [0]) = l ++ [27] := by
  have hlt : 64 < (l ++ [(0 : UInt8)]).length := by simp [h]
  rw [Soul.adjustV, List.modify_eq_take_cons_drop hlt, List.take_left' h,
    List.drop_of_length_le (by simp [h])]
  simp [h]

theorem sample_unforgeable : Unforgeable sampleGeth sampleRegistry sampleState := by
  intro key digest raw digest' hsign haccepts
  obtain rfl := Except.ok.inj hsign
  rw [adjustV_zero (by simp)] at haccepts
  rcases haccepts with hvalid | ⟨signer, hattestor, -⟩
  · simp only [sampleState, decide_eq_true_eq, List.append_left_inj, true_and] at hvalid
    exact Fin.ext (EIP712.word_injective digest'.isLt digest.isLt hvalid.symm)
  · cases hattestor

/-- The signature of the host for the permit. -/
def samplePermitSig : Bytes :=
  EIP712.word (digestOf sampleHash sampleDomain samplePermit) ++ List.replicate 32 0 ++ [27]

def sampleMint : Msg × Call := (⟨7, 0, by decide⟩, .mintSoul 7 3 [1] 0 2000 samplePermitSig)

/-- A permit is good for the one mint it was signed for. -/
theorem mint_signatures_minted :
    ∃ o, call sampleRegistry sampleState sampleMint = .ok o ∧
    ∀ d data', HostSigned sampleGeth d samplePermitSig data' →
      hashedTexts sampleHash d data' ⊆ hashedTexts sampleHash sampleDomain samplePermit →
      d = sampleDomain ∧ data' = samplePermit := by
  obtain ⟨o, ho⟩ : ∃ o, call sampleRegistry sampleState sampleMint = .ok o := by
    have hok : (call sampleRegistry sampleState sampleMint).isOk = true := by decide +kernel
    revert hok
    cases call sampleRegistry sampleState sampleMint with
    | error e => intro h; cases h
    | ok o => intro; exact ⟨o, rfl⟩
  have h := mint_signatures sampleHash _ sampleHash_injOn sampleGeth sampleGeth_documented
    sampleConfig 1 (by decide) (EIP712.digest sampleHash sampleSeparator) (fun _ => rfl) sampleState
  refine ⟨o, ho, fun d data' hsigned hsub => ?_⟩
  have hrange : samplePermit.InRange := by
    simp [TypedData.InRange, samplePermit, TypedData.members, EIP712.Value.InRange]
  have hone := (h.2 []).2.1 sampleMint.1 sampleMint.2 o samplePermit samplePermitSig d data' ho rfl
    hrange sample_unforgeable hsigned (Set.Subset.refl _) hsub
  exact ⟨hone.1, hone.2.1⟩

end LesserHost.SoulRegistry
