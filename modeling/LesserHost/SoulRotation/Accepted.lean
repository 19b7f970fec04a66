import LesserHost.SoulRotation.Handlers

set_option autoImplicit false

/-! # What an accepted confirmation says

A wallet that is compared under case folding is the wallet (`EqualFold_address`), and both digests are of the
same data (`rotation_digest`). From these `confirmRotation_ok`: an accepted confirmation of a begun rotation
carries two signatures of the digest, which recover to the wallet that the registry had when the rotation was
begun and to the wallet it moves to. -/

namespace LesserHost.SoulRotation

open LesserHost.Go LesserHost.Solidity
open LesserHost.Soul (hexAddress)
open LesserHost.TipRegistry (M check hexData hashHex bind_okM pure_okM)

/-! ## Case folding -/

/-- The characters of a prefixed hexadecimal text in lower case. -/
def addressChars : List Char := 'x' :: "0123456789abcdef".toList

theorem mem_addressChars {c : Char} (h : isLowerHexChar c = true) : c ∈ addressChars := by
  simp only [isLowerHexChar, Bool.or_eq_true, Bool.and_eq_true, decide_eq_true_eq, Char.le_def,
    UInt32.le_iff_toNat_le] at h
  have hall : ∀ n : Fin 128, ((48 ≤ n.val ∧ n.val ≤ 57) ∨ (97 ≤ n.val ∧ n.val ≤ 102)) →
      Char.ofNat n.val ∈ addressChars := by
    decide
  have hbounds : (48 ≤ c.toNat ∧ c.toNat ≤ 57) ∨ (97 ≤ c.toNat ∧ c.toNat ≤ 102) := h
  have hmem := hall ⟨c.toNat, by omega⟩ hbounds
  rwa [Char.ofNat_toNat] at hmem

/-- Of these characters none is met by one of the exceptions. -/
theorem foldExceptions_apart : ∀ e ∈ foldExceptions, ∀ d ∈ addressChars,
    e.2 ≠ d.toNat ∧ lowerCode e.1 ≠ d.toNat := by
  have hall : (foldExceptions.all fun e => addressChars.all fun d =>
      decide (e.2 ≠ d.toNat ∧ lowerCode e.1 ≠ d.toNat)) = true := by
    decide
  intro e he d hd
  exact of_decide_eq_true (List.all_eq_true.1 (List.all_eq_true.1 hall e he) d hd)

theorem foldCode_address {c d : Char} (hd : d ∈ addressChars) :
    foldCode c.toNat = d.toNat ↔ toLowerChar c = d := by
  have hlower : lowerCode c.toNat = d.toNat ↔ toLowerChar c = d := by
    rw [← toNat_toLowerChar]
    exact ⟨fun h => Char.toNat_inj.1 h, congrArg Char.toNat⟩
  rw [foldCode]
  cases h : foldExceptions.lookup c.toNat with
  | none => exact hlower
  | some v =>
      have hmem : (c.toNat, v) ∈ foldExceptions := by
        obtain ⟨l, m, hsplit, -⟩ := List.lookup_eq_some_iff.1 h
        rw [hsplit]
        simp
      obtain ⟨hvalue, hcode⟩ := foldExceptions_apart _ hmem d hd
      rw [← hlower]
      exact ⟨fun hv => absurd hv hvalue, fun hc => absurd hc hcode⟩

theorem foldCode_self {d : Char} (hd : d ∈ addressChars) : foldCode d.toNat = d.toNat := by
  have hall : (addressChars.all fun d => decide (toLowerChar d = d)) = true := by decide
  exact (foldCode_address hd).2 (of_decide_eq_true (List.all_eq_true.1 hall d hd))

/-- A text is folded to a text of these characters by its lower case. -/
theorem fold_iff {l m : List Char} (hm : ∀ d ∈ m, d ∈ addressChars) :
    (l.map (fun c => foldCode c.toNat) = m.map fun c => foldCode c.toNat) ↔ l.map toLowerChar = m := by
  induction l generalizing m with
  | nil => cases m <;> simp
  | cons c l ih =>
      cases m with
      | nil => simp
      | cons d m =>
          have hd : d ∈ addressChars := hm d List.mem_cons_self
          simp only [List.map_cons, List.cons.injEq, foldCode_self hd, foldCode_address hd,
            ih fun e he => hm e (List.mem_cons_of_mem d he)]

theorem mem_hexAddress (a : Address) : ∀ c ∈ (hexAddress a).toList, c ∈ addressChars := by
  intro c hc
  rw [hexAddress, String.toList_ofList, List.mem_cons, List.mem_cons] at hc
  rcases hc with rfl | rfl | hc
  · decide
  · decide
  · exact mem_addressChars (TipRegistry.digit_hexAddress a c hc)

theorem EqualFold_hexAddress {s : String} {a : Address} :
    EqualFold s (hexAddress a) = true ↔ ToLower s = hexAddress a := by
  rw [EqualFold, beq_iff_eq, fold_iff (mem_hexAddress a), ToLower, ← String.toList_inj, String.toList_ofList]

theorem EqualFold_comm (s t : String) : EqualFold s t = EqualFold t s := by
  simp only [EqualFold]
  exact Bool.beq_comm

theorem EqualFold_trans {s t u : String} (hst : EqualFold s t = true) (htu : EqualFold t u = true) :
    EqualFold s u = true := by
  rw [EqualFold, beq_iff_eq] at hst htu ⊢
  exact hst.trans htu

section Wallets

variable {Key : Type} {lib : Libraries Key}

/-- **A wallet that is compared under case folding is the wallet.** -/
theorem EqualFold_address (hlib : lib.Documented) {a : Address} {s : String} :
    EqualFold (lib.Hex a) s = true ↔ ToLower s = hexAddress a := by
  have hhex : EqualFold (lib.Hex a) (hexAddress a) = true := EqualFold_hexAddress.2 (hlib.geth.Hex a)
  rw [← EqualFold_hexAddress]
  constructor
  · intro h
    rw [EqualFold_comm] at h
    exact EqualFold_trans h hhex
  · intro h
    rw [EqualFold_comm] at h
    exact EqualFold_trans hhex h

/-! ## The digest -/

/-- A text that stands for a wallet. -/
def Spells (text : String) (a : Address) : Prop := ToLower (TrimSpace text) = hexAddress a

theorem spells_hexAddress (a : Address) : Spells (hexAddress a) a := TipRegistry.normal_hexAddress a

theorem rotation_digest (hlib : lib.Documented) {chainID agentID nonce deadline : Nat}
    {contract current new : Address} {verifyingContract currentWallet newWallet : String}
    (hcontract : Spells verifyingContract contract) (hcurrent : Spells currentWallet current)
    (hnew : Spells newWallet new) {digest : Bytes32} :
    lib.TypedDataAndHash (soulRotationTypedData chainID verifyingContract agentID currentWallet newWallet nonce
        deadline) = some digest ↔
      chainID < 2 ^ 256 ∧ agentID < 2 ^ 256 ∧ nonce < 2 ^ 256 ∧ deadline < 2 ^ 256 ∧
        digest = EIP712.digest lib.keccak (Soul.domainSeparator lib.keccak chainID contract)
          (EIP712.hashStruct lib.keccak
            (bytes (EIP712.encodeType "WalletRotationProposal" walletRotationProposalType))
            [.atom agentID, .atom current, .atom new, .atom nonce, .atom deadline]) := by
  have htype : (soulRotationTypedData chainID verifyingContract agentID currentWallet newWallet nonce
      deadline).Types.lookup "WalletRotationProposal" = some walletRotationProposalType := by
    simp [soulRotationTypedData, List.lookup_cons]
  have hdomain : (soulRotationTypedData chainID verifyingContract agentID currentWallet newWallet nonce
      deadline).Domain = Soul.soulDomain lib.toGeth chainID contract := by
    simp only [soulRotationTypedData, Soul.soulDomain, hlib.geth.Hex]
    rw [hcontract]
  rw [Soul.TypedDataAndHash_iff hlib.geth hdomain (by simp [soulRotationTypedData]) htype]
  · simp only [soulRotationTypedData, walletRotationProposalType, show ToLower (TrimSpace currentWallet) = _
      from hcurrent, show ToLower (TrimSpace newWallet) = _ from hnew, Soul.readValues_cons,
      Soul.readValues_nil, Soul.readValue_uint256, Soul.readValue_address]
    constructor
    · rintro ⟨hchain, _, ⟨_, _, ⟨hagent, rfl⟩, ⟨_, _, rfl, ⟨_, _, rfl, ⟨_, _, ⟨hnonce, rfl⟩, ⟨_, _, ⟨hdeadline,
        rfl⟩, rfl, rfl⟩, rfl⟩, rfl⟩, rfl⟩, rfl⟩, hdigest⟩
      exact ⟨hchain, hagent, hnonce, hdeadline, hdigest⟩
    · rintro ⟨hchain, hagent, hnonce, hdeadline, hdigest⟩
      exact ⟨hchain, _, ⟨_, _, ⟨hagent, rfl⟩, ⟨_, _, rfl, ⟨_, _, rfl, ⟨_, _, ⟨hnonce, rfl⟩, ⟨_, _, ⟨hdeadline,
        rfl⟩, rfl, rfl⟩, rfl⟩, rfl⟩, rfl⟩, rfl⟩, hdigest⟩
  · simp only [soulRotationTypedData, walletRotationProposalType, Soul.Members, show ToLower (TrimSpace
      currentWallet) = _ from hcurrent, show ToLower (TrimSpace newWallet) = _ from hnew, List.forall₂_cons,
      true_and, List.Forall₂.nil, and_true]
    exact ⟨.uint256 _, .address _, .address _, .uint256 _, .uint256 _⟩

end Wallets

/-! ## Requests that are accepted -/

theorem check_ok {c : Prop} [Decidable c] {code message : String} {u : Unit} :
    check c code message = .ok u ↔ c := by
  unfold check
  split <;> simp_all

theorem required_ok {α : Type} {x : Option α} {code message : String} {a : α} :
    required x code message = .ok a ↔ x = some a := by
  cases x <;> simp [required]

theorem isTrimmed_Itoa (n : Nat) : IsTrimmed (Itoa n) := by
  have hpos : ¬ (n : Int) < 0 := by omega
  rw [IsTrimmed, Itoa, if_neg hpos, String.toList_ofList]
  refine Trimmed.of_forall fun c hc => ?_
  have hdigit : c.isDigit = true := Nat.isDigit_of_mem_toDigits (by decide) (by decide) hc
  refine isSpace_of_hex ?_
  obtain ⟨hlow, hhigh⟩ := Char.isDigit_bounds hdigit
  simp only [isLowerHexChar, Bool.or_eq_true, Bool.and_eq_true, decide_eq_true_eq, Char.le_def,
    UInt32.le_iff_toNat_le]
  exact Or.inl ⟨hlow, hhigh⟩

theorem SetString_Itoa (n : Nat) : SetString (TrimSpace (Itoa n)) = some (n : Int) := by
  rw [(isTrimmed_Itoa n).TrimSpace_eq]
  have hhead : ∀ b, (bytes (Itoa n)).head? = some b → isDigit b = true :=
    fun b hb => mem_bytes_Itoa (List.mem_of_mem_head? hb)
  have hminus : (bytes (Itoa n)).head? ≠ some 0x2d := fun h => absurd (hhead _ h) (by decide)
  have hplus : (bytes (Itoa n)).head? ≠ some 0x2b := fun h => absurd (hhead _ h) (by decide)
  rw [SetString, if_neg hminus, if_neg hplus, parseDigits_Itoa]
  rfl

section Requests

variable {Key : Type} {lib : Libraries Key} {cfg : Config} {env : Env}

/-- The contract that the configuration names. -/
def contractOf (lib : Libraries Key) (cfg : Config) : Address :=
  lib.HexToAddress (TrimSpace cfg.SoulRegistryContractAddress)

/-- A row that a begin request has written: with the wallet and the nonce of the registry, and the digest
    that the wallets are asked to sign. -/
structure Begun (lib : Libraries Key) (cfg : Config) (agentInt : Nat) (rot : SoulWalletRotationRequest)
    (current : Address) (nonce : Nat) (digest : Bytes32) : Prop where
  current_ne : current ≠ 0
  CurrentWallet : rot.CurrentWallet = hexAddress current
  NewWallet : TrimSpace rot.NewWallet = rot.NewWallet
  differs : ToLower rot.NewWallet ≠ hexAddress current
  Nonce : rot.Nonce = Itoa nonce
  DigestHex : rot.DigestHex = hashHex digest
  digest : lib.TypedDataAndHash (soulRotationTypedData cfg.SoulChainID
    (ToLower (lib.Hex (contractOf lib cfg))) agentInt (lib.Hex current) rot.NewWallet nonce rot.Deadline)
      = some digest

theorem beginRotation_ok (hlib : lib.Documented) {agentIDHex username identityWallet newWalletAddress : String}
    {agentInt : Nat} {rot : SoulWalletRotationRequest}
    (h : beginRotation lib cfg env agentIDHex username agentInt identityWallet newWalletAddress = .ok rot) :
    ∃ current nonce digest, env.agentWallet = some current ∧ env.agentNonce = some nonce ∧
      Begun lib cfg agentInt rot current nonce digest := by
  simp only [beginRotation, normalizeSoulRotateWalletBeginNewWallet, normalizeSoulWalletAddress,
    createSoulWalletRotation, soulRegistryContractAddress, requireSoulAgentWalletInSync, bind_okM, pure_okM,
    check_ok, required_ok] at h
  obtain ⟨newWallet, ⟨_, ⟨-, -, -, -, -, -, -, -, rfl⟩, -, hdiffers, rfl⟩, ⟨_, _⟩, ⟨-, -, hcontract⟩, current,
    ⟨_, hwallet, -, hne, -, hsync, rfl⟩, nonce, hnonce, digest, hdigest, -, -, rfl⟩ := h
  obtain ⟨rfl, rfl⟩ := Prod.mk.inj hcontract
  refine ⟨_, nonce, digest, hwallet, hnonce, hne, hlib.geth.Hex _, ?_, ?_, rfl,
    TipRegistry.ToLower_hashHex digest, hdigest⟩
  · exact (isTrimmed_TrimSpace newWalletAddress).ToLower.TrimSpace_eq
  · intro hsame
    -- the new wallet and the known wallet would both fold to the wallet on chain
    have hnew := (EqualFold_address hlib).2 hsame
    rw [EqualFold_comm] at hnew
    rw [(isTrimmed_TrimSpace identityWallet).TrimSpace_eq] at hsync
    rw [EqualFold_trans hnew hsync] at hdiffers
    cases hdiffers

theorem decodeEthSignature_ok {signatureHex : String} {sigs : Bytes × Bytes} :
    decodeEthSignature lib signatureHex = .ok sigs ↔
      ∃ raw, lib.Decode signatureHex = some raw ∧ raw.length = 65 ∧
        sigs = (recoveryForm raw, contractForm raw) := by
  simp only [decodeEthSignature, bind_okM, pure_okM, check_ok, required_ok]
  constructor
  · rintro ⟨raw, hraw, -, hlength, rfl⟩
    exact ⟨raw, hraw, hlength, rfl⟩
  · rintro ⟨raw, hraw, hlength, rfl⟩
    exact ⟨raw, hraw, (), hlength, rfl⟩

/-- A signature that the confirmation takes for a wallet. -/
structure Signed (lib : Libraries Key) (signature : String) (digest : Bytes32) (wallet : Address)
    (raw : Bytes) : Prop where
  decoded : lib.Decode (TrimSpace signature) = some raw
  length : raw.length = 65
  recovered : lib.SigToAddress (EIP712.word digest) (recoveryForm raw) = some wallet

/-- The call that the confirmation makes. -/
def rotateWalletData (lib : Libraries Key) (agentInt : Nat) (new : Address) (nonce deadline : Nat)
    (rawCurrent rawNew : Bytes) : Bytes :=
  EncodeRotateWalletCall lib agentInt new nonce deadline (contractForm rawCurrent) (contractForm rawNew)

/-- **What an accepted confirmation says.** -/
theorem confirmRotation_ok (hlib : lib.Documented) {agentInt : Nat} {rot : SoulWalletRotationRequest}
    {current : Address} {nonce : Nat} {digest : Bytes32} (hrot : Begun lib cfg agentInt rot current nonce digest)
    {currentSignature newSignature : String} {payload : safeTxPayload}
    (h : confirmRotation lib cfg env agentInt rot currentSignature newSignature = .ok payload) :
    ∃ new rawCurrent rawNew, Spells rot.NewWallet new ∧ new ≠ current ∧
      Signed lib currentSignature digest current rawCurrent ∧ Signed lib newSignature digest new rawNew ∧
      payload.To = hexAddress (contractOf lib cfg) ∧
      payload.Data = hexData (rotateWalletData lib agentInt new nonce rot.Deadline rawCurrent rawNew) := by
  simp only [confirmRotation, parseSoulRotateWalletConfirmRequest, validateSoulWalletRotationConfirmRequest,
    validateSoulWalletRotationSignatures, recoverAddressFromDigest, soulRegistryContractAddress,
    verifySoulWalletRotationOnChainState, bind_okM, pure_okM, check_ok, required_ok, decodeEthSignature_ok,
    hrot.CurrentWallet, hrot.Nonce, hrot.DigestHex, TipRegistry.TrimSpace_hexData, hlib.Decode,
    SetString_Itoa, hashHex, Option.some.injEq] at h
  obtain ⟨⟨_, _⟩, ⟨-, -, hsigs⟩, -, -, v, ⟨_, rfl, -, -, ⟨_, _⟩, ⟨rawCurrent, hdecCurrent, hlenCurrent, hforms⟩,
    ⟨_, _⟩, ⟨rawNew, hdecNew, hlenNew, hforms'⟩, recoveredCurrent, ⟨-, -, -, -, hcurrent⟩, recoveredNew,
    ⟨-, -, -, -, hnew⟩, -, hfoldCurrent, -, hfoldNew, _, rfl, rfl⟩, ⟨_, _⟩, ⟨-, -, hcontract⟩, -, -, safeAddr, -,
    rfl⟩ := h
  obtain ⟨rfl, rfl⟩ := Prod.mk.inj hsigs
  obtain ⟨rfl, rfl⟩ := Prod.mk.inj hforms
  obtain ⟨rfl, rfl⟩ := Prod.mk.inj hforms'
  obtain ⟨rfl, rfl⟩ := Prod.mk.inj hcontract
  have hsame : recoveredCurrent = current := by
    rw [EqualFold_address hlib, spells_hexAddress current] at hfoldCurrent
    exact (TipRegistry.hexAddress_injective hfoldCurrent).symm
  have hlower := (EqualFold_address hlib).1 hfoldNew
  rw [hrot.NewWallet] at hlower
  have haddr : lib.HexToAddress (TrimSpace rot.NewWallet) = recoveredNew := by
    rw [hrot.NewWallet]
    exact hlib.HexToAddress _ _ hlower
  refine ⟨recoveredNew, rawCurrent, rawNew, ?_, ?_, ⟨hdecCurrent, hlenCurrent, hsame ▸ hcurrent⟩,
    ⟨hdecNew, hlenNew, hnew⟩, hlib.geth.Hex _, ?_⟩
  · rw [Spells, hrot.NewWallet, hlower]
  · rintro rfl
    exact hrot.differs hlower
  · simp only [rotationPayload, haddr, rotateWalletData]

/-- Two such signatures are confirmed, as long as the row is open and the registry has not moved on. -/
theorem confirmRotation_some (hlib : lib.Documented) {agentInt : Nat} {rot : SoulWalletRotationRequest}
    {current new : Address} {nonce : Nat} {digest : Bytes32} (hrot : Begun lib cfg agentInt rot current nonce digest)
    {currentSignature newSignature : String} {rawCurrent rawNew : Bytes}
    (hcurrent : Signed lib currentSignature digest current rawCurrent)
    (hnew : Signed lib newSignature digest new rawNew) (hspells : ToLower rot.NewWallet = hexAddress new)
    (hgiven : TrimSpace currentSignature ≠ "" ∧ TrimSpace newSignature ≠ "") (hspent : rot.Spent = false)
    (htime : env.now ≤ rot.ExpiresAt) (hwallet : env.agentWallet = some current)
    (hnonce : env.agentNonce = some nonce)
    (hcontract : lib.IsHexAddress (TrimSpace cfg.SoulRegistryContractAddress) = true)
    (hmode : ToLower (TrimSpace cfg.SoulTxMode) ≠ tipTxModeSafe) :
    ∃ payload, confirmRotation lib cfg env agentInt rot currentSignature newSignature = .ok payload := by
  have hlength : ∀ raw : Bytes, (recoveryForm raw).length = raw.length := fun raw => List.length_modify ..
  have hfoldCurrent : EqualFold (lib.Hex current) (TrimSpace (hexAddress current)) = true :=
    (EqualFold_address hlib).2 (spells_hexAddress current)
  have hfoldNew : EqualFold (lib.Hex new) (TrimSpace rot.NewWallet) = true := by
    rw [hrot.NewWallet]
    exact (EqualFold_address hlib).2 hspells
  simp only [confirmRotation, parseSoulRotateWalletConfirmRequest, validateSoulWalletRotationConfirmRequest,
    validateSoulWalletRotationSignatures, recoverAddressFromDigest, soulRegistryContractAddress,
    verifySoulWalletRotationOnChainState, soulRegistrySafeAddress, bind_okM, pure_okM, check_ok, required_ok,
    decodeEthSignature_ok, hrot.CurrentWallet, hrot.Nonce, hrot.DigestHex, TipRegistry.TrimSpace_hexData,
    hlib.Decode, SetString_Itoa, hashHex, Option.some.injEq]
  refine ⟨_, _, ⟨(), hgiven, rfl⟩, (), ⟨(), hspent, htime⟩, _, ⟨_, rfl, (), EIP712.length_word _, _,
    ⟨rawCurrent, hcurrent.decoded, hcurrent.length, rfl⟩, _, ⟨rawNew, hnew.decoded, hnew.length, rfl⟩, current,
    ⟨(), EIP712.length_word _, (), (hlength _).trans hcurrent.length, hcurrent.recovered⟩, new,
    ⟨(), EIP712.length_word _, (), (hlength _).trans hnew.length, hnew.recovered⟩, (), hfoldCurrent, (), hfoldNew,
    _, rfl, rfl⟩, _, ⟨(), hcontract, rfl⟩, (), ⟨current, hwallet, (), hfoldCurrent, nonce, hnonce, rfl⟩, _,
    ⟨(), fun h => hmode h.1, rfl⟩, rfl⟩

end Requests

end LesserHost.SoulRotation
