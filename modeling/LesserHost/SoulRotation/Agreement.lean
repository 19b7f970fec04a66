import LesserHost.SoulRegistry.Binding
import LesserHost.SoulRegistry.Permits
import LesserHost.SoulRotation.Accepted

set_option autoImplicit false

/-! # Rotations on chain

A confirmed rotation is a call of `SoulRegistry.rotateWallet`. The registry rebuilds the digest that the
wallets have signed (`rotation_digest_registry`), but it does not take every signature that the host takes:
the host recovers signers from signatures with a large `s` and with the recovery ids 2 and 3, which
OpenZeppelin refuses, and it asks no wallet with code. `rotation_moves` says exactly which confirmed rotations
the registry executes.

The recovery of a signer is a parameter (`Recovery`); both libraries are documented in terms of it. -/

namespace LesserHost.SoulRotation

open LesserHost.Go LesserHost.Solidity CallStack
open LesserHost.Soul (hexAddress)
open LesserHost.TipRegistry (hexData)
open LesserHost.SoulRegistry (HashesForDomain digestOf Msg Call Move)

/-! ## Signatures -/

/-- The address of the key that made a signature: from the digest, `r`, `s` and a recovery id below 4. -/
abbrev Recovery := Bytes32 → Nat → Nat → Nat → Option Address

def partR (sig : Bytes) : Nat := Abi.ofWord (sig.take 32)
def partS (sig : Bytes) : Nat := Abi.ofWord ((sig.drop 32).take 32)
def partV (sig : Bytes) : UInt8 := sig.getD 64 0

section Recovery

variable (ecdsa : Recovery)

/-- go-ethereum's `crypto.SigToPub`, then `crypto.PubkeyToAddress`. -/
def sigToAddress (digest : Bytes32) (sig : Bytes) : Option Address :=
  if sig.length = 65 ∧ partV sig < 4 then ecdsa digest (partR sig) (partS sig) (partV sig).toNat else none

/-- The precompiled contract at address 1. -/
def ecrecover (hash : Bytes32) (v : UInt8) (r s : Nat) : Address :=
  if v = 27 ∨ v = 28 then (ecdsa hash r s (v.toNat - 27)).getD 0 else 0

/-- Half of the order of the curve. -/
def halfOrder : Nat := 0x7FFFFFFFFFFFFFFFFFFFFFFFFFFFFFFF5D576E7357A4501DDFE92F46681B20A0

/-- OpenZeppelin's `ECDSA.tryRecover`. -/
def tryRecover (hash : Bytes32) (sig : Bytes) : Option Address :=
  let signer := ecrecover ecdsa hash (partV sig) (partR sig) (partS sig)
  if sig.length = 65 ∧ partS sig ≤ halfOrder ∧ signer ≠ 0 then some signer else none

/-- What the host's library documents, and that no key has the zero address. -/
structure Libraries.Recovers {Key : Type} (lib : Libraries Key) : Prop where
  SigToAddress : ∀ (digest : Bytes32) (sig : Bytes), lib.SigToAddress (EIP712.word digest) sig = sigToAddress ecdsa digest sig
  ne_zero : ∀ (digest : Bytes32) (r s v : Nat), ecdsa digest r s v ≠ some 0

variable {σ : Type}

/-- OpenZeppelin's `SignatureChecker.isValidSignatureNow`: a wallet with code is asked itself. -/
def ChecksSignatures (erc1271 : Address → Bytes32 → Bytes → Bool) (s : SoulRegistry.State σ) : Prop :=
  ∀ signer hash sig, s.isValidSignatureNow signer hash sig
    = if s.codeLength signer = 0 then decide (tryRecover ecdsa hash sig = some signer)
      else erc1271 signer hash sig

end Recovery

/-- What the registry takes, of the signatures that recover to a wallet: of a wallet without code those with a
    small `s` and a plain recovery id, of a wallet with code those that it takes itself. -/
def Usable {σ : Type} (erc1271 : Address → Bytes32 → Bytes → Bool) (s : SoulRegistry.State σ)
    (wallet : Address) (digest : Bytes32) (raw : Bytes) : Prop :=
  if s.codeLength wallet = 0 then partV raw ∈ [0, 1, 27, 28] ∧ partS raw ≤ halfOrder
  else erc1271 wallet digest (contractForm raw) = true

section Forms

variable {raw : Bytes} {f : UInt8 → UInt8}

theorem getElem?_modify_other {i : Nat} (h : i ≠ 64) : (raw.modify 64 f)[i]? = raw[i]? := by
  rw [List.getElem?_modify]
  simp [Ne.symm h]

theorem partR_modify : partR (raw.modify 64 f) = partR raw := by
  have htake : (raw.modify 64 f).take 32 = raw.take 32 := by
    apply List.ext_getElem?
    intro i
    by_cases hi : i < 32
    · simp only [List.getElem?_take, hi, if_true, getElem?_modify_other (show i ≠ 64 by omega)]
    · simp only [List.getElem?_take, hi, if_false]
  rw [partR, partR, htake]

theorem partS_modify : partS (raw.modify 64 f) = partS raw := by
  have htake : ((raw.modify 64 f).drop 32).take 32 = (raw.drop 32).take 32 := by
    apply List.ext_getElem?
    intro i
    by_cases hi : i < 32
    · simp only [List.getElem?_take, hi, if_true, List.getElem?_drop,
        getElem?_modify_other (show 32 + i ≠ 64 by omega)]
    · simp only [List.getElem?_take, hi, if_false]
  rw [partS, partS, htake]

theorem partV_modify (h : raw.length = 65) : partV (raw.modify 64 f) = f (partV raw) := by
  have hlt : 64 < raw.length := by omega
  simp [partV, List.getD_eq_getElem?_getD, hlt]

/-- **Which signatures of a wallet the registry takes.** -/
theorem tryRecover_iff {ecdsa : Recovery} {digest : Bytes32} {wallet : Address} (hlength : raw.length = 65)
    (hwallet : wallet ≠ 0) (h : sigToAddress ecdsa digest (recoveryForm raw) = some wallet) :
    tryRecover ecdsa digest (contractForm raw) = some wallet ↔
      partV raw ∈ [0, 1, 27, 28] ∧ partS raw ≤ halfOrder := by
  rw [sigToAddress] at h
  split at h
  · next hcond =>
      simp only [recoveryForm, partR_modify, partS_modify, partV_modify hlength] at h hcond
      have hid : (partV raw = 0 ∨ partV raw = 1 ∨ partV raw = 27 ∨ partV raw = 28) ∨
          (partV raw = 2 ∨ partV raw = 3) := by
        have hlt := hcond.2
        by_cases hplain : partV raw = 27 ∨ partV raw = 28
        · exact Or.inl (Or.inr (Or.inr hplain))
        · rw [if_neg hplain, UInt8.lt_iff_toNat_lt] at hlt
          have hfour : (4 : UInt8).toNat = 4 := rfl
          simp only [← UInt8.toNat_inj, hfour] at hlt ⊢
          simp only [UInt8.reduceToNat]
          omega
      simp only [tryRecover, contractForm, partR_modify, partS_modify, partV_modify hlength,
        List.length_modify, hlength, true_and]
      rcases hid with hid | hid
      · -- both sides recover with one recovery id
        have hsigner : ecrecover ecdsa digest
            (if partV raw = 0 ∨ partV raw = 1 then partV raw + 27 else partV raw) (partR raw) (partS raw)
              = wallet := by
          rcases hid with hv | hv | hv | hv <;> (rw [hv] at h ⊢; simp [ecrecover] at h ⊢; simp [h])
        rw [hsigner]
        have hmem : partV raw ∈ [0, 1, 27, 28] := by simpa using hid
        simp [hmem, hwallet]
      · have hsigner : ecrecover ecdsa digest
            (if partV raw = 0 ∨ partV raw = 1 then partV raw + 27 else partV raw) (partR raw) (partS raw)
              = 0 := by
          rcases hid with hv | hv <;> (rw [hv]; simp [ecrecover])
        rw [hsigner]
        have hmem : partV raw ∉ [0, 1, 27, 28] := by
          rcases hid with hv | hv <;> (rw [hv]; decide)
        simp [hmem]
  · cases h

end Forms

/-! ## Call data -/

def rotateWalletKinds : List Abi.Kind := [.word, .word, .word, .word, .bytes, .bytes]

/-- The dispatcher of the registry at `rotateWallet`. -/
def decodeRotateWallet (keccak : EIP712.Hash) (data : Bytes) : Option Call :=
  if data.take 4 = (EIP712.word (keccak (bytes rotateWalletSignature))).take 4 then
    match Abi.decode (data.drop 4) rotateWalletKinds with
    | some [.word agentId, .word newWallet, .word nonce, .word deadline, .bytes currentSig, .bytes newSig] =>
        if h : newWallet < 2 ^ 160 then
          some (.rotateWallet agentId ⟨newWallet, h⟩ nonce deadline currentSig newSig)
        else none
    | _ => none
  else none

theorem u256_ofNat {n : Nat} (h : n < 2 ^ 256) : u256 (n : Int) = n := by
  rw [u256]
  have hmod : (n : Int) % 2 ^ 256 = n := Int.emod_eq_of_lt (by omega) (by exact_mod_cast h)
  rw [hmod, Int.toNat_natCast]

theorem length_contractForm (raw : Bytes) : (contractForm raw).length = raw.length := by
  rw [contractForm, List.length_modify]

/-- The dispatcher reads the call that the host has made. -/
theorem decodeRotateWallet_data {Key : Type} (lib : Libraries Key) {agentInt nonce deadline : Nat} (new : Address)
    {rawCurrent rawNew : Bytes} (hagent : agentInt < 2 ^ 256) (hnonce : nonce < 2 ^ 256)
    (hdeadline : deadline < 2 ^ 256) (hcurrent : rawCurrent.length = 65) (hnew : rawNew.length = 65) :
    decodeRotateWallet lib.keccak (rotateWalletData lib agentInt new nonce deadline rawCurrent rawNew)
      = some (.rotateWallet agentInt new nonce deadline (contractForm rawCurrent) (contractForm rawNew)) := by
  let args : List Abi.Arg := [.word agentInt, .word new, .word nonce, .word deadline,
    .bytes (contractForm rawCurrent), .bytes (contractForm rawNew)]
  have hselector : (selector lib rotateWalletSignature).length = 4 := by
    rw [selector, List.length_take, EIP712.length_word]
    rfl
  have hdata : rotateWalletData lib agentInt new nonce deadline rawCurrent rawNew
      = selector lib rotateWalletSignature ++ Abi.encode args := by
    simp only [rotateWalletData, EncodeRotateWalletCall, u256_ofNat hagent, u256_ofNat hnonce,
      u256_ofNat hdeadline, args]
  have hargs : ∀ arg ∈ args, arg.InRange := by
    simp only [args, List.forall_mem_cons, Abi.Arg.InRange]
    exact ⟨hagent, SoulRegistry.address_lt new, hnonce, hdeadline, trivial, trivial, by simp⟩
  have hsize : (Abi.encode args).length < 2 ^ 256 := by
    simp only [Abi.encode, Abi.encodeFrom, args, Abi.tailOf, Abi.padded, List.length_append,
      EIP712.length_word, List.length_replicate, length_contractForm, hcurrent, hnew, List.length_nil]
    omega
  have hdecode : Abi.decode (Abi.encode args) rotateWalletKinds = some args := Abi.decode_encode hargs hsize
  have htake : (selector lib rotateWalletSignature ++ Abi.encode args).take 4
      = selector lib rotateWalletSignature := List.take_left' hselector
  have hdrop : (selector lib rotateWalletSignature ++ Abi.encode args).drop 4 = Abi.encode args :=
    List.drop_left' hselector
  rw [decodeRotateWallet, hdata, htake, hdrop, hdecode]
  simp only [selector, if_true, args]
  exact dif_pos new.isLt

/-! ## The call -/

section Registry

variable {σ : Type} {cfg : SoulRegistry.Config σ} {s : SoulRegistry.State σ} {msg : Msg} {id : Nat}
  {new : Address}

/-- OpenZeppelin's `_update` checks nothing when it is called without an `auth`. -/
def UpdatesUnchecked (erc : ERC721 σ) : Prop := ∀ b dest id, ∃ r, erc.update b dest id 0 = .ok r

theorem trackTransfer_iff {source : Address} (hsource : source ≠ 0) (hnew : new ≠ 0) :
    (∃ t, SoulRegistry.trackTransfer s source new id = .ok t) ↔ s.transferCount id + 1 < 2 ^ 256 := by
  rw [SoulRegistry.trackTransfer, if_pos ⟨hsource, hnew⟩]
  simp only [bind_ok, addAt_ok, pure_ok]
  constructor
  · rintro ⟨t, counts, ⟨hroom, -⟩, -⟩
    exact hroom
  · intro hroom
    exact ⟨_, _, ⟨hroom, rfl⟩, rfl⟩

/-- Giving a token to another wallet fails when the registry is paused and when the count of its transfers is
    full. -/
theorem _update_iff (hbase : UpdatesUnchecked cfg.erc721) (howner : SoulRegistry._ownerOf cfg s id ≠ 0)
    (hnew : new ≠ 0) : (∃ r, SoulRegistry._update cfg s new id 0 = .ok r) ↔
      s.paused = false ∧ s.transferCount id + 1 < 2 ^ 256 := by
  obtain ⟨⟨base, prev⟩, hupdate⟩ := hbase s.base new id
  have htrack : (∃ t, SoulRegistry.trackTransfer { s with base } (SoulRegistry._ownerOf cfg s id) new id = .ok t) ↔
      s.transferCount id + 1 < 2 ^ 256 := trackTransfer_iff howner hnew
  have hsoulbound : SoulRegistry.checkSoulbound cfg s (SoulRegistry._ownerOf cfg s id) new id 0 = .ok () := by
    rw [SoulRegistry.checkSoulbound, if_neg (fun h => h.2.2 rfl)]
    rfl
  simp only [SoulRegistry._update, bind_ok, require_ok, hsoulbound, hupdate, Except.ok.injEq]
  constructor
  · rintro ⟨r, -, hpaused, -, -, _, rfl, t, ht, -⟩
    exact ⟨hpaused, htrack.1 ⟨t, ht⟩⟩
  · rintro ⟨hpaused, hroom⟩
    obtain ⟨t, ht⟩ := htrack.2 hroom
    exact ⟨_, (), hpaused, (), trivial, _, rfl, t, ht, rfl⟩

/-- What the registry still decides once the call is made by the owner, in time, for the agent's wallet and
    nonce. -/
theorem rotateWallet_iff (hbase : UpdatesUnchecked cfg.erc721) {nonce deadline : Nat} {currentSig newSig : Bytes}
    (hsender : msg.sender = s.owner) (hwallet : s._agentWallet id ≠ 0)
    (howner : SoulRegistry._ownerOf cfg s id ≠ 0) (hnew : new ≠ 0) (hdiffers : new ≠ s._agentWallet id)
    (htime : s.timestamp ≤ deadline) (hnonce : s.agentNonces id = nonce) {digest : Bytes32}
    (hdigest : digest = cfg._hashTypedDataV4
      (.walletRotationProposal id (s._agentWallet id) new nonce deadline)) :
    (∃ s', SoulRegistry.rotateWallet cfg s msg id new nonce deadline currentSig newSig = .ok s') ↔
      s.paused = false ∧ nonce + 1 < 2 ^ 256 ∧ s.transferCount id + 1 < 2 ^ 256 ∧
        s.isValidSignatureNow (s._agentWallet id) digest currentSig = true ∧
        s.isValidSignatureNow new digest newSig = true := by
  subst hdigest
  let t : SoulRegistry.State σ :=
    { s with agentNonces := Function.update s.agentNonces id (nonce + 1) }
  have hupdate : (∃ r, SoulRegistry._update cfg t new id 0 = .ok r) ↔
      s.paused = false ∧ s.transferCount id + 1 < 2 ^ 256 := _update_iff hbase howner hnew
  simp only [SoulRegistry.rotateWallet, SoulRegistry.onlyOwner, SoulRegistry.whenNotPaused, bind_ok, require_ok,
    checkedAdd_ok, pure_ok]
  constructor
  · rintro ⟨s', -, -, -, hpaused, -, -, -, -, -, -, -, -, -, -, -, hcurrent, -, hnewSig, next, ⟨hroom, rfl⟩, r,
      hr, -⟩
    exact ⟨hpaused, hroom, (hupdate.1 ⟨r, hr⟩).2, hcurrent, hnewSig⟩
  · rintro ⟨hpaused, hroom, hcount, hcurrent, hnewSig⟩
    obtain ⟨r, hr⟩ := hupdate.2 ⟨hpaused, hcount⟩
    exact ⟨_, (), hsender, (), hpaused, (), not_or.2 ⟨hwallet, howner⟩, (), hnew, (), hdiffers, (), htime, (),
      hnonce.symm, (), hcurrent, (), hnewSig, nonce + 1, ⟨hroom, rfl⟩, r, hr, rfl⟩

/-- The transaction moves the agent to the wallet. -/
def Moves (keccak : EIP712.Hash) (cfg : SoulRegistry.Config σ) (s : SoulRegistry.State σ) (msg : Msg)
    (payload : safeTxPayload) (agentId : Nat) (new : Address) : Prop :=
  ∃ data c s', payload.Data = hexData data ∧ decodeRotateWallet keccak data = some c ∧
    SoulRegistry.call cfg s (msg, c) = .ok (.done s') ∧ s'._agentWallet agentId = new

/-- The state after some run of the registry from its deployment. -/
def Reachable (cfg : SoulRegistry.Config σ) (s : SoulRegistry.State σ) : Prop :=
  ∃ chain initialOwner s₀ acts, SoulRegistry.deploy cfg chain initialOwner = .ok s₀ ∧
    s = (run (SoulRegistry.contract cfg) ⟨s₀, []⟩ acts).state

theorem Reachable.owner_eq (laws : cfg.erc721.Lawful) (h : Reachable cfg s) (id : Nat) :
    SoulRegistry._ownerOf cfg s id = s._agentWallet id := by
  obtain ⟨chain, initialOwner, s₀, acts, hdeploy, rfl⟩ := h
  obtain ⟨a, ha⟩ := SoulRegistry.run_souls laws hdeploy acts
  have hbound : (SoulRegistry.view cfg _).wallet = (SoulRegistry.view cfg _).owner := ha ▸ a.bound
  exact (congrFun hbound id).symm

theorem call_rotateWallet {s' : SoulRegistry.State σ} {nonce deadline : Nat} {currentSig newSig : Bytes}
    (hvalue : msg.value = 0) :
    SoulRegistry.call cfg s (msg, .rotateWallet id new nonce deadline currentSig newSig) = .ok (.done s') ↔
      SoulRegistry.rotateWallet cfg s msg id new nonce deadline currentSig newSig = .ok s' := by
  rw [SoulRegistry.call]
  generalize SoulRegistry.rotateWallet cfg s msg id new nonce deadline currentSig newSig = x
  simp only [SoulRegistry.nonPayable, SoulRegistry.finish, hvalue, bind_ok, require_ok, pure_ok, true_and,
    exists_const, Outcome.done.injEq, exists_eq_right]

/-- **Which confirmed rotations the registry executes**, the call being made by the owner, in time, for the
    agent's wallet and nonce. -/
theorem moves_iff {Key : Type} {lib : Libraries Key} {ecdsa : Recovery} (hrecovers : lib.Recovers ecdsa)
    (laws : cfg.erc721.Lawful) (hbase : UpdatesUnchecked cfg.erc721) {nonce deadline : Nat}
    {current : Address} {digest : Bytes32} {currentSignature newSignature : String} {rawCurrent rawNew : Bytes}
    {payload : safeTxPayload} {erc1271 : Address → Bytes32 → Bytes → Bool}
    (hdigest : digest = cfg._hashTypedDataV4 (.walletRotationProposal id current new nonce deadline))
    (hid : id < 2 ^ 256) (hnonceLt : nonce < 2 ^ 256) (hdeadline : deadline < 2 ^ 256)
    (hcurrent : Signed lib currentSignature digest current rawCurrent)
    (hnew : Signed lib newSignature digest new rawNew) (hdiffers : new ≠ current)
    (hdata : payload.Data = hexData (rotateWalletData lib id new nonce deadline rawCurrent rawNew))
    (hreach : Reachable cfg s) (hchecks : ChecksSignatures ecdsa erc1271 s) (hsender : msg.sender = s.owner)
    (hvalue : msg.value = 0) (htime : s.timestamp ≤ deadline) (hwallet : s._agentWallet id = current)
    (hnonce : s.agentNonces id = nonce) :
    Moves lib.keccak cfg s msg payload id new ↔ s.paused = false ∧ nonce + 1 < 2 ^ 256 ∧
      s.transferCount id + 1 < 2 ^ 256 ∧ Usable erc1271 s current digest rawCurrent ∧
      Usable erc1271 s new digest rawNew := by
  have hsig : ∀ {signature : String} {wallet : Address} {raw : Bytes}, Signed lib signature digest wallet raw →
      wallet ≠ 0 ∧ (s.isValidSignatureNow wallet digest (contractForm raw) = true ↔
        Usable erc1271 s wallet digest raw) := by
    intro signature wallet raw hsigned
    have hrecovered := hsigned.recovered
    rw [hrecovers.SigToAddress] at hrecovered
    have hne : wallet ≠ 0 := by
      rintro rfl
      rw [sigToAddress] at hrecovered
      split at hrecovered
      · exact hrecovers.ne_zero _ _ _ _ hrecovered
      · cases hrecovered
    refine ⟨hne, ?_⟩
    rw [hchecks, Usable]
    split
    · rw [decide_eq_true_iff]
      exact tryRecover_iff hsigned.length hne hrecovered
    · exact Iff.rfl
  obtain ⟨hcurrentNe, hcurrentIff⟩ := hsig hcurrent
  obtain ⟨hnewNe, hnewIff⟩ := hsig hnew
  subst hwallet
  have hexists : SoulRegistry._ownerOf cfg s id ≠ 0 := by
    rw [hreach.owner_eq laws]
    exact hcurrentNe
  have hcall : (∃ s', SoulRegistry.rotateWallet cfg s msg id new nonce deadline (contractForm rawCurrent)
      (contractForm rawNew) = .ok s') ↔ _ :=
    rotateWallet_iff hbase hsender hcurrentNe hexists hnewNe hdiffers htime hnonce hdigest
  rw [hcurrentIff, hnewIff] at hcall
  rw [← hcall]
  have hdecode := decodeRotateWallet_data lib new hid hnonceLt hdeadline hcurrent.length hnew.length
  constructor
  · rintro ⟨data, c, s', hpayload, hc, hok, -⟩
    have hsame := TipRegistry.hexData_injective (hpayload.symm.trans hdata)
    rw [hsame, hdecode, Option.some.injEq] at hc
    rw [← hc, call_rotateWallet hvalue] at hok
    exact ⟨s', hok⟩
  · rintro ⟨s', hs'⟩
    refine ⟨_, _, s', hdata, hdecode, (call_rotateWallet hvalue).2 hs', ?_⟩
    · obtain ⟨-, -, -, hview⟩ := SoulRegistry.rotateWallet_step laws hs'
      have hwallets := congrFun (congrArg SoulRegistry.View.wallet hview) id
      exact hwallets.trans (Function.update_self _ _ _)

end Registry

/-! ## One digest -/

theorem rotationType_text : EIP712.encodeType "WalletRotationProposal" walletRotationProposalType
    = SoulRegistry.rotationTypeText := by
  decide

/-- **Both sides compute one digest**, for all values that fit their types, and the host computes none for
    others. -/
theorem rotation_digest_registry {Key : Type} {lib : Libraries Key} (hlib : lib.Documented)
    {chainId agentId nonce deadline : Nat} {contract current new : Address}
    {verifyingContract currentWallet newWallet : String} (hcontract : Spells verifyingContract contract)
    (hcurrent : Spells currentWallet current) (hnew : Spells newWallet new) {data : SoulRegistry.TypedData}
    (hdata : data = .walletRotationProposal agentId current new nonce deadline) (digest : Bytes32) :
    lib.TypedDataAndHash (soulRotationTypedData chainId verifyingContract agentId currentWallet newWallet nonce
        deadline) = some digest ↔
      chainId < 2 ^ 256 ∧ data.InRange ∧ digest = digestOf lib.keccak ⟨chainId, contract⟩ data := by
  subst hdata
  have hseparator : EIP712.hashStruct lib.keccak (bytes SoulRegistry.domainTypeText)
      (SoulRegistry.domainValues ⟨chainId, contract⟩) = Soul.domainSeparator lib.keccak chainId contract := by
    rw [Soul.domainSeparator, SoulRegistry.domainType_text, SoulRegistry.domainValues]
  have hrange : (SoulRegistry.TypedData.walletRotationProposal agentId current new nonce deadline).InRange ↔
      agentId < 2 ^ 256 ∧ nonce < 2 ^ 256 ∧ deadline < 2 ^ 256 := by
    simp only [SoulRegistry.TypedData.InRange, SoulRegistry.TypedData.members, List.forall_mem_cons,
      EIP712.Value.InRange, SoulRegistry.address_lt, true_and, List.not_mem_nil, false_imp_iff, implies_true,
      and_true]
  rw [rotation_digest hlib hcontract hcurrent hnew, digestOf, SoulRegistry.structHash_eq, hseparator,
    rotationType_text, hrange, and_assoc, and_assoc]
  rfl

/-! ## Rotations -/

/-- **What becomes of a confirmed rotation.** -/
theorem confirmed_moves_iff {Key σ : Type} {lib : Libraries Key} (hlib : lib.Documented) {ecdsa : Recovery}
    (hrecovers : lib.Recovers ecdsa) (registry : SoulRegistry.Config σ) (laws : registry.erc721.Lawful)
    (hbase : UpdatesUnchecked registry.erc721) {chainId : Nat}
    (hdigestOf : ∀ data, registry._hashTypedDataV4 data = digestOf lib.keccak ⟨chainId, registry.self⟩ data)
    {cfg : Config} {env env' : Env} {agentIDHex username identityWallet newWalletAddress : String} {agentInt : Nat}
    {rot : SoulWalletRotationRequest} {currentSignature newSignature : String} {payload : safeTxPayload}
    (hchainID : cfg.SoulChainID = (chainId : Int)) (hself : contractOf lib cfg = registry.self)
    (hbegin : beginRotation lib cfg env agentIDHex username agentInt identityWallet newWalletAddress = .ok rot)
    (hconfirm : confirmRotation lib cfg env' agentInt rot currentSignature newSignature = .ok payload) :
    ∃ current new nonce rawCurrent rawNew, env.agentWallet = some current ∧ env.agentNonce = some nonce ∧
      Spells rot.NewWallet new ∧ lib.Decode (TrimSpace currentSignature) = some rawCurrent ∧
      lib.Decode (TrimSpace newSignature) = some rawNew ∧ payload.To = hexAddress registry.self ∧
      ∀ erc1271 s msg, Reachable registry s → ChecksSignatures ecdsa erc1271 s → msg.sender = s.owner →
        msg.value = 0 → s.timestamp ≤ rot.Deadline → s._agentWallet agentInt = current →
        s.agentNonces agentInt = nonce →
        let digest := registry._hashTypedDataV4 (.walletRotationProposal agentInt current new nonce rot.Deadline)
        (Moves lib.keccak registry s msg payload agentInt new ↔ s.paused = false ∧ nonce + 1 < 2 ^ 256 ∧
          s.transferCount agentInt + 1 < 2 ^ 256 ∧ Usable erc1271 s current digest rawCurrent ∧
          Usable erc1271 s new digest rawNew) := by
  obtain ⟨current, nonce, digest, hwallet, hnonce, hbegun⟩ := beginRotation_ok hlib hbegin
  obtain ⟨new, rawCurrent, rawNew, hspells, hdiffers, hcurrent, hnew, hto, hdata⟩ :=
    confirmRotation_ok hlib hbegun hconfirm
  have hdigest := hbegun.digest
  rw [hself, hchainID, hlib.geth.Hex] at hdigest
  have hcurrentSpells : Spells (lib.Hex current) current := by
    rw [Spells, hlib.Hex_trimmed, hlib.geth.Hex]
  rw [rotation_digest_registry hlib (spells_hexAddress _) hcurrentSpells hspells rfl, ← hdigestOf] at hdigest
  obtain ⟨-, hrange, hdigest⟩ := hdigest
  simp only [SoulRegistry.TypedData.InRange, SoulRegistry.TypedData.members, List.forall_mem_cons,
    EIP712.Value.InRange] at hrange
  obtain ⟨hagent, -, -, hnonceLt, hdeadline, -⟩ := hrange
  refine ⟨current, new, nonce, rawCurrent, rawNew, hwallet, hnonce, hspells, hcurrent.decoded, hnew.decoded,
    hself ▸ hto, ?_⟩
  intro erc1271 s msg hreach hchecks hsender hvalue htime hwalletNow hnonceNow digest'
  have hmoves := moves_iff hrecovers laws hbase hdigest hagent hnonceLt hdeadline hcurrent hnew
    hdiffers hdata hreach hchecks hsender hvalue htime hwalletNow hnonceNow
  rw [hdigest] at hmoves
  exact hmoves

/-- **Rotation of a wallet.** Host and registry compute one digest. A confirmed rotation that the registry's
    owner submits in time, while the agent has the wallet and the nonce it was begun for, moves the agent to
    the new wallet if and only if the registry is not paused, no counter is full, and each signature is one
    that the registry takes. -/
theorem rotation_moves {Key σ : Type} (lib : Libraries Key) (hlib : lib.Documented) (ecdsa : Recovery)
    (hrecovers : lib.Recovers ecdsa) (contract : SoulRegistry.Config σ) (laws : contract.erc721.Lawful)
    (hbase : UpdatesUnchecked contract.erc721) (chainId : Nat) (hchain : chainId < 2 ^ 256)
    (_hashTypedDataV4 : Bytes32 → Bytes32)
    (hhash : HashesForDomain lib.keccak ⟨chainId, contract.self⟩ _hashTypedDataV4) :
    let registry := contract.withDigest lib.keccak _hashTypedDataV4
    (∀ agentId nonce deadline current new verifyingContract currentWallet newWallet digest,
      Spells verifyingContract contract.self → Spells currentWallet current → Spells newWallet new →
      let data : SoulRegistry.TypedData := .walletRotationProposal agentId current new nonce deadline
      (lib.TypedDataAndHash (soulRotationTypedData chainId verifyingContract agentId currentWallet newWallet
        nonce deadline) = some digest ↔ data.InRange ∧ digest = registry._hashTypedDataV4 data)) ∧
    ∀ (cfg : Config) env env' agentIDHex username identityWallet newWalletAddress agentInt rot currentSignature
      newSignature payload, cfg.SoulChainID = (chainId : Int) → contractOf lib cfg = contract.self →
      beginRotation lib cfg env agentIDHex username agentInt identityWallet newWalletAddress = .ok rot →
      confirmRotation lib cfg env' agentInt rot currentSignature newSignature = .ok payload →
      ∃ current new nonce rawCurrent rawNew, env.agentWallet = some current ∧ env.agentNonce = some nonce ∧
        Spells rot.NewWallet new ∧ lib.Decode (TrimSpace currentSignature) = some rawCurrent ∧
        lib.Decode (TrimSpace newSignature) = some rawNew ∧ payload.To = hexAddress contract.self ∧
        ∀ erc1271 s msg, Reachable registry s → ChecksSignatures ecdsa erc1271 s → msg.sender = s.owner →
          msg.value = 0 → s.timestamp ≤ rot.Deadline → s._agentWallet agentInt = current →
          s.agentNonces agentInt = nonce →
          let digest := registry._hashTypedDataV4
            (.walletRotationProposal agentInt current new nonce rot.Deadline)
          (Moves lib.keccak registry s msg payload agentInt new ↔ s.paused = false ∧ nonce + 1 < 2 ^ 256 ∧
            s.transferCount agentInt + 1 < 2 ^ 256 ∧ Usable erc1271 s current digest rawCurrent ∧
            Usable erc1271 s new digest rawNew) := by
  intro registry
  have hdigestOf : ∀ data, registry._hashTypedDataV4 data = digestOf lib.keccak ⟨chainId, contract.self⟩ data :=
    fun data => hhash _
  refine ⟨?_, ?_⟩
  · intro agentId nonce deadline current new verifyingContract currentWallet newWallet digest hcontract hcurrent
      hnew data
    rw [rotation_digest_registry hlib hcontract hcurrent hnew rfl, hdigestOf]
    exact and_iff_right hchain
  · intro cfg env env' agentIDHex username identityWallet newWalletAddress agentInt rot currentSignature
      newSignature payload hchainID hself hbegin hconfirm
    exact confirmed_moves_iff hlib hrecovers registry laws hbase hdigestOf hchainID hself hbegin hconfirm

/-! ## A signature that the registry refuses -/

/-- That a confirmed rotation moves the agent whenever the owner submits it in time to a registry at work, for
    the agent's wallet and nonce and for wallets without code. -/
def ConfirmedMoves {Key σ : Type} (lib : Libraries Key) (ecdsa : Recovery) (registry : SoulRegistry.Config σ) :
    Prop :=
  ∀ cfg env env' agentIDHex username identityWallet newWalletAddress agentInt rot currentSignature newSignature
    payload current new nonce, contractOf lib cfg = registry.self →
    beginRotation lib cfg env agentIDHex username agentInt identityWallet newWalletAddress = .ok rot →
    confirmRotation lib cfg env' agentInt rot currentSignature newSignature = .ok payload →
    env.agentWallet = some current → env.agentNonce = some nonce → Spells rot.NewWallet new →
    ∀ erc1271 s msg, Reachable registry s → ChecksSignatures ecdsa erc1271 s → (∀ a, s.codeLength a = 0) →
      s.paused = false → msg.sender = s.owner → msg.value = 0 → s.timestamp ≤ rot.Deadline →
      s._agentWallet agentInt = current → s.agentNonces agentInt = nonce →
      Moves lib.keccak registry s msg payload agentInt new

/-- The key with the address `r` has made the signature. -/
def sampleEcdsa : Recovery := fun _ r _ _ => if Fin.ofNat (2 ^ 160) r = 0 then none else some (Fin.ofNat _ r)

def hexDigitValue (c : Char) : Nat := if c.toNat < 58 then c.toNat - 48 else c.toNat - 87

def decodeHex : List Char → Option Bytes
  | [] => some []
  | [_] => none
  | a :: b :: rest =>
      (decodeHex rest).map fun bs => UInt8.ofNat (16 * hexDigitValue a + hexDigitValue b) :: bs

theorem decodeHex_hexEncode (bs : Bytes) : decodeHex (hexEncode bs) = some bs := by
  have hvalue : ∀ n : Fin 16, hexDigitValue (hexDigit n) = n := by decide
  induction bs with
  | nil => rfl
  | cons b bs ih =>
      have hcons : hexEncode (b :: bs)
          = hexDigit (b.toNat / 16) :: hexDigit (b.toNat % 16) :: hexEncode bs := rfl
      have hb : b.toNat < 256 := b.toNat_lt
      have hhigh := hvalue ⟨b.toNat / 16, by omega⟩
      have hlow := hvalue ⟨b.toNat % 16, by omega⟩
      have hbyte : UInt8.ofNat (16 * (b.toNat / 16) + b.toNat % 16) = b := by
        rw [← UInt8.toNat_inj, UInt8.toNat_ofNat']
        omega
      rw [hcons, decodeHex, ih, Option.map_some, hhigh, hlow, hbyte]

def sampleLib : Libraries Unit where
  toGeth := SoulRegistry.sampleGeth
  keccak := SoulRegistry.sampleHash
  IsHexAddress _ := true
  HexToAddress text :=
    match Soul.readValue (bytes (ToLower text)) .address with
    | some (.atom n) => Fin.ofNat (2 ^ 160) n
    | _ => 0
  Decode text :=
    match text.toList with
    | '0' :: 'x' :: rest => decodeHex rest
    | _ => none
  SigToAddress digest sig := sigToAddress sampleEcdsa (Fin.ofNat (2 ^ 256) (Abi.ofWord digest)) sig

theorem sampleLib_documented : sampleLib.Documented where
  geth := SoulRegistry.sampleGeth_documented
  Hex_trimmed a := TipRegistry.TrimSpace_prefixed (TipRegistry.digit_hexAddress a)
  HexToAddress text a h := by
    have hread := (Soul.readValue_address (a := a) (v := .atom a)).2 rfl
    simp only [sampleLib, h, hread]
    exact Fin.ext (Nat.mod_eq_of_lt a.isLt)
  Decode data := by
    have hlist : (hexData data).toList = '0' :: 'x' :: hexEncode data := by
      rw [hexData, String.toList_ofList]
    simp only [sampleLib, hlist]
    exact decodeHex_hexEncode data

theorem sampleLib_recovers : sampleLib.Recovers sampleEcdsa where
  SigToAddress digest sig := by
    have hread : Fin.ofNat (2 ^ 256) (Abi.ofWord (EIP712.word digest)) = digest := by
      rw [Abi.ofWord_word digest.isLt]
      exact Fin.ext (Nat.mod_eq_of_lt digest.isLt)
    show sigToAddress sampleEcdsa (Fin.ofNat (2 ^ 256) (Abi.ofWord (EIP712.word digest))) sig = _
    rw [hread]
  ne_zero digest r s v h := by
    rw [sampleEcdsa] at h
    split at h
    · cases h
    · next hne => exact hne (Option.some.inj h)

/-- A signature of the wallet. -/
def sampleSig (wallet : Address) (s : Nat) : Bytes := EIP712.word wallet ++ EIP712.word s ++ [27]

theorem length_sampleSig (wallet : Address) (s : Nat) : (sampleSig wallet s).length = 65 := by
  simp [sampleSig]

theorem partS_sampleSig (wallet : Address) {s : Nat} (h : s < 2 ^ 256) : partS (sampleSig wallet s) = s := by
  have hdrop : (sampleSig wallet s).drop 32 = EIP712.word s ++ [27] := by
    rw [sampleSig, List.append_assoc]
    exact List.drop_left' (EIP712.length_word _)
  rw [partS, hdrop, List.take_left' (EIP712.length_word _), Abi.ofWord_word h]

theorem partV_sampleSig (wallet : Address) (s : Nat) : partV (sampleSig wallet s) = 27 := by
  have hlength : (EIP712.word wallet ++ EIP712.word s).length = 64 := by simp
  rw [partV, sampleSig, List.getD_eq_getElem?_getD, List.getElem?_append_right (by omega), hlength]
  rfl

theorem sampleSig_signed {wallet : Address} (hne : wallet ≠ 0) (s : Nat) (digest : Bytes32) :
    Signed sampleLib (hexData (sampleSig wallet s)) digest wallet (sampleSig wallet s) where
  decoded := by
    rw [TipRegistry.TrimSpace_hexData]
    exact sampleLib_documented.Decode _
  length := length_sampleSig wallet s
  recovered := by
    have hr : partR (sampleSig wallet s) = wallet := by
      rw [partR, sampleSig, List.append_assoc, List.take_left' (EIP712.length_word _),
        Abi.ofWord_word (SoulRegistry.address_lt wallet)]
    have hwallet : Fin.ofNat (2 ^ 160) (wallet : Nat) = wallet := Fin.ext (Nat.mod_eq_of_lt wallet.isLt)
    rw [sampleLib_recovers.SigToAddress, sigToAddress, recoveryForm, partR_modify, partS_modify,
      partV_modify (length_sampleSig wallet s), partV_sampleSig, hr, List.length_modify,
      length_sampleSig, if_pos (by decide), sampleEcdsa, hwallet, if_neg hne]

/-- The registry of the domain, in a state where agent 3 has been minted to wallet 7. -/
theorem sample_reachable : ∃ s, Reachable SoulRegistry.sampleRegistry s ∧
    ChecksSignatures sampleEcdsa (fun _ _ _ => false) s ∧ (∀ a, s.codeLength a = 0) ∧ s.paused = false ∧
    s.owner = 2 ∧ s.timestamp = 1000 ∧ s._agentWallet 3 = 7 ∧ s.agentNonces 3 = 0 ∧ s.transferCount 3 = 0 := by
  refine ⟨_, ⟨⟨0, 1000, fun _ => 0, fun signer hash sig => tryRecover sampleEcdsa hash sig = some signer⟩, 2, _,
    [.call (⟨2, 0, by decide⟩, .mintSoulOwner 7 3 [1] 0)], rfl, rfl⟩, ?_, ?_, ?_, ?_, ?_, ?_, ?_, ?_⟩
  · intro signer hash sig
    rfl
  · intro a
    rfl
  all_goals rfl

def sampleCfg : Config := ⟨1, hexAddress 9, "", ""⟩

def sampleEnv : Env := ⟨0, some 7, some 0, fun _ => false, fun _ => .ok (), true⟩

theorem sample_contract : contractOf sampleLib sampleCfg = 9 := by
  refine sampleLib_documented.HexToAddress _ _ ?_
  exact spells_hexAddress 9

/-- A rotation of the agent to wallet 8 is begun. -/
theorem sample_begun : ∃ rot, beginRotation sampleLib sampleCfg sampleEnv "" "" 3 (hexAddress 7) (hexAddress 8)
      = .ok rot ∧ rot.NewWallet = hexAddress 8 ∧ rot.Spent = false ∧ rot.ExpiresAt = 1800 * 10 ^ 9 ∧
    rot.Deadline = 1800 := by
  have hlower : ∀ a, ToLower (hexAddress a) = hexAddress a := sampleLib_documented.geth.Hex
  have htrim : ∀ a, TrimSpace (hexAddress a) = hexAddress a := sampleLib_documented.Hex_trimmed
  have hgiven : hexAddress 8 ≠ "" := by
    intro hempty
    have hlist := congrArg String.toList hempty
    rw [hexAddress, String.toList_ofList] at hlist
    cases hlist
  have hdiffers : EqualFold (hexAddress 8) (hexAddress 7) = false := by
    rw [← Bool.not_eq_true, EqualFold_hexAddress, hlower]
    intro hsame
    have haddr := TipRegistry.hexAddress_injective hsame
    revert haddr
    decide
  have hsync : EqualFold (sampleLib.Hex 7) (hexAddress 7) = true :=
    (EqualFold_address sampleLib_documented).2 (hlower 7)
  obtain ⟨digest, hdigest⟩ : ∃ digest, sampleLib.TypedDataAndHash (soulRotationTypedData (1 : Nat)
      (ToLower (sampleLib.Hex (contractOf sampleLib sampleCfg))) (3 : Nat) (sampleLib.Hex 7) (hexAddress 8)
        (0 : Nat) (1800 : Nat)) = some digest := by
    have hcontract : Spells (ToLower (sampleLib.Hex (contractOf sampleLib sampleCfg))) 9 := by
      rw [sample_contract, sampleLib_documented.geth.Hex]
      exact spells_hexAddress 9
    refine ⟨_, (rotation_digest_registry sampleLib_documented hcontract (spells_hexAddress 7)
      (spells_hexAddress 8) rfl _).2 ⟨by decide, ?_, rfl⟩⟩
    simp [SoulRegistry.TypedData.InRange, SoulRegistry.TypedData.members, EIP712.Value.InRange]
  simp only [beginRotation, normalizeSoulRotateWalletBeginNewWallet, normalizeSoulWalletAddress,
    createSoulWalletRotation, soulRegistryContractAddress, requireSoulAgentWalletInSync,
    TipRegistry.bind_okM, TipRegistry.pure_okM, check_ok, required_ok, htrim, hlower]
  exact ⟨_, ⟨_, ⟨_, ⟨(), hgiven, (), rfl, (), rfl, (), rfl, rfl⟩, (), hdiffers, rfl⟩, _, ⟨(), rfl, rfl⟩, 7,
    ⟨7, rfl, (), by decide, (), hsync, rfl⟩, 0, rfl, digest, hdigest, (), rfl, rfl⟩, rfl, rfl, rfl, rfl⟩

/-- The confirmation of a rotation with two signatures. -/
theorem sample_confirmed {rot : SoulWalletRotationRequest} (hbegin : beginRotation sampleLib sampleCfg sampleEnv ""
      "" 3 (hexAddress 7) (hexAddress 8) = .ok rot) (hnew : rot.NewWallet = hexAddress 8)
    (hspent : rot.Spent = false) (htime : rot.ExpiresAt = 1800 * 10 ^ 9) (s₁ s₂ : Nat) :
    ∃ payload, confirmRotation sampleLib sampleCfg sampleEnv 3 rot (hexData (sampleSig 7 s₁))
      (hexData (sampleSig 8 s₂)) = .ok payload := by
  have hgiven : ∀ data : Bytes, TrimSpace (hexData data) ≠ "" := by
    intro data hempty
    have hlist := congrArg String.toList hempty
    rw [TipRegistry.TrimSpace_hexData, hexData, String.toList_ofList] at hlist
    cases hlist
  obtain ⟨current, nonce, digest, hwallet, hnonce, hbegun⟩ := beginRotation_ok sampleLib_documented hbegin
  obtain rfl := Option.some.inj hwallet
  refine confirmRotation_some sampleLib_documented hbegun (sampleSig_signed (by decide) s₁ digest)
    (@sampleSig_signed 8 (by decide) s₂ digest) ?_ ⟨hgiven _, hgiven _⟩ hspent ?_ rfl hnonce rfl
    (by decide)
  · rw [hnew]
    exact sampleLib_documented.geth.Hex 8
  · rw [htime]
    exact Nat.zero_le _

/-- **Not every confirmed rotation is executed.** The current wallet's signature has a large `s`: the host
    recovers the wallet from it, the registry refuses it. -/
theorem not_rotation_moves : ¬ ConfirmedMoves sampleLib sampleEcdsa SoulRegistry.sampleRegistry := by
  intro h
  obtain ⟨rot, hbegin, hnew, hspent, hexpires, hdeadline⟩ := sample_begun
  obtain ⟨payload, hconfirm⟩ := sample_confirmed hbegin hnew hspent hexpires (halfOrder + 1) 1
  obtain ⟨s, hreach, hchecks, hcode, hpaused, howner, htime, hwallet, hnonce, hcount⟩ := sample_reachable
  have hbase : UpdatesUnchecked ERC721.basic := fun b dest id => ⟨_, rfl⟩
  have hdigestOf : ∀ data, SoulRegistry.sampleRegistry._hashTypedDataV4 data
      = digestOf sampleLib.keccak ⟨1, SoulRegistry.sampleRegistry.self⟩ data := fun _ => rfl
  obtain ⟨current, new, nonce, rawCurrent, rawNew, hcurrent, hnonce', hspells, hrawCurrent, -, -, hmoves⟩ :=
    confirmed_moves_iff sampleLib_documented sampleLib_recovers SoulRegistry.sampleRegistry ERC721.basic_lawful hbase
      hdigestOf rfl sample_contract hbegin hconfirm
  obtain rfl := Option.some.inj hcurrent
  obtain rfl := Option.some.inj hnonce'
  rw [TipRegistry.TrimSpace_hexData, sampleLib_documented.Decode, Option.some.injEq] at hrawCurrent
  subst hrawCurrent
  have htime' : s.timestamp ≤ rot.Deadline := by
    rw [htime, hdeadline]
    decide
  have hmoved := h sampleCfg sampleEnv sampleEnv "" "" _ _ 3 rot _ _ payload _ new _ sample_contract hbegin hconfirm
    hcurrent hnonce' hspells _ s ⟨2, 0, by decide⟩ hreach hchecks hcode hpaused howner.symm rfl htime' hwallet hnonce
  obtain ⟨-, -, -, husable, -⟩ := (hmoves _ s ⟨2, 0, by decide⟩ hreach hchecks howner.symm rfl htime' hwallet
    hnonce).1 hmoved
  rw [Usable, if_pos (hcode _), partS_sampleSig _ (by decide)] at husable
  exact absurd husable.2 (by decide)

/-- With two plain signatures the agent moves. -/
theorem rotation_moves_sample : ∃ rot payload s msg,
    beginRotation sampleLib sampleCfg sampleEnv "" "" 3 (hexAddress 7) (hexAddress 8) = .ok rot ∧
    confirmRotation sampleLib sampleCfg sampleEnv 3 rot (hexData (sampleSig 7 1)) (hexData (sampleSig 8 1))
      = .ok payload ∧ Reachable SoulRegistry.sampleRegistry s ∧ s._agentWallet 3 = 7 ∧
    Moves sampleLib.keccak SoulRegistry.sampleRegistry s msg payload 3 8 := by
  obtain ⟨rot, hbegin, hnew, hspent, hexpires, hdeadline⟩ := sample_begun
  obtain ⟨payload, hconfirm⟩ := sample_confirmed hbegin hnew hspent hexpires 1 1
  obtain ⟨s, hreach, hchecks, hcode, hpaused, howner, htime, hwallet, hnonce, hcount⟩ := sample_reachable
  have hbase : UpdatesUnchecked ERC721.basic := fun b dest id => ⟨_, rfl⟩
  obtain ⟨-, hrotations⟩ := rotation_moves sampleLib sampleLib_documented sampleEcdsa sampleLib_recovers
    SoulRegistry.sampleConfig ERC721.basic_lawful hbase 1 (by decide)
    (EIP712.digest SoulRegistry.sampleHash SoulRegistry.sampleSeparator) (fun _ => rfl)
  obtain ⟨current, new, nonce, rawCurrent, rawNew, hcurrent, hnonce', hspells, hrawCurrent, hrawNew, -, hmoves⟩ :=
    hrotations sampleCfg sampleEnv sampleEnv "" "" _ _ 3 rot _ _ payload rfl sample_contract hbegin hconfirm
  obtain rfl := Option.some.inj hcurrent
  obtain rfl := Option.some.inj hnonce'
  rw [TipRegistry.TrimSpace_hexData, sampleLib_documented.Decode, Option.some.injEq] at hrawCurrent hrawNew
  subst hrawCurrent hrawNew
  have height : (8 : Address) = new := by
    rw [Spells, hnew, spells_hexAddress 8] at hspells
    exact TipRegistry.hexAddress_injective hspells
  subst height
  have htime' : s.timestamp ≤ rot.Deadline := by
    rw [htime, hdeadline]
    decide
  have husable : ∀ (wallet : Address) (digest : Bytes32),
      Usable (fun _ _ _ => false) s wallet digest (sampleSig wallet 1) := by
    intro wallet digest
    rw [Usable, if_pos (hcode wallet), partS_sampleSig _ (by decide), partV_sampleSig]
    exact ⟨by decide, by decide⟩
  refine ⟨rot, payload, s, ⟨2, 0, by decide⟩, hbegin, hconfirm, hreach, hwallet, ?_⟩
  exact (hmoves _ s _ hreach hchecks howner.symm rfl htime' hwallet hnonce).2
    ⟨hpaused, by decide, by rw [hcount]; decide, husable 7 _, husable 8 _⟩

end LesserHost.SoulRotation
