import LesserHost.TipRegistry.Operations

set_option autoImplicit false

/-! # What the identifier of an operation says

An operation is named after the text of its parameters. `text_injective`: the text determines the call that
the operation asks for, so operations with one identifier have the same call data as long as the hash does
not collide. `operation_built` is what the four ways to propose an operation have in common. -/

namespace LesserHost.TipRegistry

open LesserHost.Go LesserHost.Solidity
open LesserHost.ControlPlane (AppTheoryError newAppTheoryError)
open LesserHost.Soul (hexAddress)

/-! ## Calls -/

inductive TipCall where
  | registerHost (hostID : Bytes32) (wallet : Address) (feeBps : Nat)
  | updateHost (hostID : Bytes32) (wallet : Address) (feeBps : Nat)
  | setHostActive (hostID : Bytes32) (active : Bool)
  | setTokenAllowed (token : Address) (allowed : Bool)
  deriving DecidableEq

def TipCall.encode (keccak : EIP712.Hash) : TipCall → List UInt8
  | .registerHost hostID wallet feeBps => EncodeRegisterHostCall keccak hostID wallet feeBps
  | .updateHost hostID wallet feeBps => EncodeUpdateHostCall keccak hostID wallet feeBps
  | .setHostActive hostID active => EncodeSetHostActiveCall keccak hostID active
  | .setTokenAllowed token allowed => EncodeSetTokenAllowedCall keccak token allowed

def TipCall.kind : TipCall → String
  | .registerHost .. => KindRegisterHost
  | .updateHost .. => KindUpdateHost
  | .setHostActive .. => KindSetHostActive
  | .setTokenAllowed .. => KindSetToken

def TipCall.hostText : TipCall → String
  | .registerHost hostID _ _ => hashHex hostID
  | .updateHost hostID _ _ => hashHex hostID
  | .setHostActive hostID _ => hashHex hostID
  | .setTokenAllowed _ _ => ""

def TipCall.walletText : TipCall → String
  | .registerHost _ wallet _ => hexAddress wallet
  | .updateHost _ wallet _ => hexAddress wallet
  | _ => ""

def TipCall.fee : TipCall → Nat
  | .registerHost _ _ feeBps => feeBps
  | .updateHost _ _ feeBps => feeBps
  | _ => 0

def TipCall.tokenText : TipCall → String
  | .setTokenAllowed token _ => hexAddress token
  | _ => ""

def TipCall.active : TipCall → Option Bool
  | .setHostActive _ active => some active
  | _ => none

def TipCall.allowed : TipCall → Option Bool
  | .setTokenAllowed _ allowed => some allowed
  | _ => none

/-- The text that the operation for a call at a contract is named after. -/
def TipCall.text (c : TipCall) (chainID : Int) (contract : Address) : String :=
  opText c.kind chainID (hexAddress contract) c.hostText c.walletText c.fee c.tokenText c.active c.allowed

/-! ## Hexadecimal texts -/

theorem digit_hexAddress (a : Address) :
    ∀ c ∈ (EIP712.digits 16 40 a).map hexDigit, isLowerHexChar c = true := by
  intro c hc
  obtain ⟨d, hd, rfl⟩ := List.mem_map.1 hc
  exact isLowerHexChar_hexDigit (EIP712.digit_lt (by decide) hd)

theorem TrimSpace_prefixed {l : List Char} (h : ∀ c ∈ l, isLowerHexChar c = true) :
    TrimSpace (String.ofList ('0' :: 'x' :: l)) = String.ofList ('0' :: 'x' :: l) := by
  refine IsTrimmed.TrimSpace_eq ?_
  rw [IsTrimmed, String.toList_ofList]
  refine Trimmed.of_forall fun c hc => ?_
  rcases List.mem_cons.1 hc with rfl | hc
  · decide
  · rcases List.mem_cons.1 hc with rfl | hc
    · decide
    · exact isSpace_of_hex (h c hc)

theorem ToLower_prefixed {l : List Char} (h : ∀ c ∈ l, isLowerHexChar c = true) :
    ToLower (String.ofList ('0' :: 'x' :: l)) = String.ofList ('0' :: 'x' :: l) := by
  have hx : toLowerChar 'x' = 'x' := by decide
  have hzero : toLowerChar '0' = '0' := by decide
  rw [ToLower, String.toList_ofList, List.map_cons, List.map_cons, hx, hzero,
    List.map_congr_left fun c hc => toLowerChar_of_hex (h c hc), List.map_id']

/-- Prefixed hexadecimal digits are written as they are. -/
theorem normal_prefixed {l : List Char} (h : ∀ c ∈ l, isLowerHexChar c = true) :
    ToLower (TrimSpace (String.ofList ('0' :: 'x' :: l))) = String.ofList ('0' :: 'x' :: l) := by
  rw [TrimSpace_prefixed h, ToLower_prefixed h]

theorem TrimSpace_hexData (data : List UInt8) : TrimSpace (hexData data) = hexData data :=
  TrimSpace_prefixed (hexEncode_hex data)

theorem normal_hashHex (h : Bytes32) : ToLower (TrimSpace (hashHex h)) = hashHex h :=
  normal_prefixed (hexEncode_hex _)

theorem ToLower_hashHex (h : Bytes32) : ToLower (hashHex h) = hashHex h :=
  ToLower_prefixed (hexEncode_hex _)

theorem normal_hexAddress (a : Address) : ToLower (TrimSpace (hexAddress a)) = hexAddress a :=
  normal_prefixed (digit_hexAddress a)

theorem normal_empty : ToLower (TrimSpace "") = "" := by decide

theorem hexData_injective {a b : List UInt8} (h : hexData a = hexData b) : a = b := by
  have hlist := congrArg String.toList h
  simp only [hexData, String.toList_ofList] at hlist
  exact hexEncode_injective (List.cons.inj (List.cons.inj hlist).2).2

theorem hashHex_injective {a b : Bytes32} (h : hashHex a = hashHex b) : a = b :=
  Fin.ext (EIP712.word_injective a.isLt b.isLt (hexData_injective h))

theorem hexAddress_injective {a b : Address} (h : hexAddress a = hexAddress b) : a = b := by
  have hread := (Soul.readValue_address (v := .atom b)).2 rfl
  rw [← h, Soul.readValue_address] at hread
  exact Fin.ext (EIP712.Value.atom.inj hread).symm

/-! ## The separator -/

theorem bar_prefixed {l : List Char} (h : ∀ c ∈ l, isLowerHexChar c = true) :
    '|' ∉ (String.ofList ('0' :: 'x' :: l)).toList := by
  rw [String.toList_ofList]
  simp only [List.mem_cons, not_or]
  refine ⟨by decide, by decide, fun hmem => ?_⟩
  exact absurd (h _ hmem) (by decide)

theorem bar_Itoa (n : Int) : '|' ∉ (Itoa n).toList := by
  have hdigits : '|' ∉ (String.ofList (Nat.toDigits 10 n.natAbs)).toList := by
    rw [String.toList_ofList]
    intro hmem
    exact absurd (Nat.isDigit_of_mem_toDigits (by decide) (by decide) hmem) (by decide)
  unfold Itoa
  split
  · rw [String.toList_append, List.mem_append, not_or]
    exact ⟨by decide, hdigits⟩
  · exact hdigits

theorem Itoa_injective {m n : Nat} (h : Itoa m = Itoa n) : m = n := by
  rw [← digitsValue_Itoa m, ← digitsValue_Itoa n, h]

def kinds : List String := [KindRegisterHost, KindUpdateHost, KindSetHostActive, KindSetToken]

theorem kind_mem (c : TipCall) : c.kind ∈ kinds := by
  cases c <;> simp [TipCall.kind, kinds]

theorem bar_kind (c : TipCall) : '|' ∉ c.kind.toList := by
  have hall : ∀ k ∈ kinds, '|' ∉ k.toList := by decide
  exact hall _ (kind_mem c)

theorem normal_kind (c : TipCall) : ToLower (TrimSpace c.kind) = c.kind := by
  have hall : ∀ k ∈ kinds, ToLower (TrimSpace k) = k := by decide
  exact hall _ (kind_mem c)

theorem bar_empty : '|' ∉ "".toList := by decide

/-- The texts before and after the first separator. -/
theorem cut {α : Type} {x : α} {l l' r r' : List α} (hl : x ∉ l) (hl' : x ∉ l')
    (h : l ++ x :: r = l' ++ x :: r') : l = l' ∧ r = r' := by
  induction l generalizing l' with
  | nil =>
      cases l' with
      | nil => exact ⟨rfl, (List.cons.inj h).2⟩
      | cons y l' => exact absurd ((List.cons.inj h).1 ▸ List.mem_cons_self) hl'
  | cons y l ih =>
      cases l' with
      | nil => exact absurd ((List.cons.inj h).1 ▸ List.mem_cons_self) hl
      | cons z l' =>
          obtain ⟨hyz, hrest⟩ := List.cons.inj h
          obtain ⟨hll, hr⟩ := ih (fun hm => hl (List.mem_cons_of_mem _ hm))
            (fun hm => hl' (List.mem_cons_of_mem _ hm)) hrest
          exact ⟨by rw [hyz, hll], hr⟩

theorem bar_hostText (c : TipCall) : '|' ∉ c.hostText.toList := by
  cases c with
  | setTokenAllowed token allowed => exact bar_empty
  | _ => exact bar_prefixed (hexEncode_hex _)

theorem bar_walletText (c : TipCall) : '|' ∉ c.walletText.toList := by
  cases c with
  | setHostActive hostID active => exact bar_empty
  | setTokenAllowed token allowed => exact bar_empty
  | _ => exact bar_prefixed (digit_hexAddress _)

theorem normal_hostText (c : TipCall) : ToLower (TrimSpace c.hostText) = c.hostText := by
  cases c with
  | setTokenAllowed token allowed => exact normal_empty
  | _ => exact normal_hashHex _

theorem normal_walletText (c : TipCall) : ToLower (TrimSpace c.walletText) = c.walletText := by
  cases c with
  | setHostActive hostID active => exact normal_empty
  | setTokenAllowed token allowed => exact normal_empty
  | _ => exact normal_hexAddress _

theorem normal_tokenText (c : TipCall) : ToLower (TrimSpace c.tokenText) = c.tokenText := by
  cases c with
  | setTokenAllowed token allowed => exact normal_hexAddress _
  | _ => exact normal_empty

/-- What stands after the last separator. -/
def TipCall.tail (c : TipCall) : List Char :=
  c.tokenText.toList ++ (flagText "|active=" c.active).toList ++ (flagText "|allowed=" c.allowed).toList

theorem toList_text (c : TipCall) (chainID : Int) (contract : Address) :
    (c.text chainID contract).toList = c.kind.toList ++ '|' :: ((Itoa chainID).toList ++ '|' ::
      ((hexAddress contract).toList ++ '|' :: (c.hostText.toList ++ '|' :: (c.walletText.toList ++ '|' ::
        ((Itoa c.fee).toList ++ '|' :: c.tail))))) := by
  have hbar : "|".toList = ['|'] := rfl
  rw [TipCall.text, opText, normal_kind, normal_hostText, normal_walletText, normal_tokenText,
    normal_hexAddress]
  simp only [String.toList_append, TipCall.tail, List.append_assoc, hbar, List.cons_append,
    List.nil_append]

/-- **The text of an operation determines its call.** -/
theorem text_injective {c c' : TipCall} {chainID chainID' : Int} {contract contract' : Address}
    (h : c.text chainID contract = c'.text chainID' contract') : c = c' := by
  have hlist := congrArg String.toList h
  rw [toList_text, toList_text] at hlist
  obtain ⟨hkind, hlist⟩ := cut (bar_kind c) (bar_kind c') hlist
  obtain ⟨-, hlist⟩ := cut (bar_Itoa _) (bar_Itoa _) hlist
  obtain ⟨-, hlist⟩ := cut (bar_prefixed (digit_hexAddress _)) (bar_prefixed (digit_hexAddress _)) hlist
  obtain ⟨hhost, hlist⟩ := cut (bar_hostText c) (bar_hostText c') hlist
  obtain ⟨hwallet, hlist⟩ := cut (bar_walletText c) (bar_walletText c') hlist
  obtain ⟨hfee, htail⟩ := cut (bar_Itoa _) (bar_Itoa _) hlist
  have hkind := String.toList_inj.1 hkind
  have hhost := String.toList_inj.1 hhost
  have hwallet := String.toList_inj.1 hwallet
  have hfee := Itoa_injective (String.toList_inj.1 hfee)
  have hkinds : KindRegisterHost ≠ KindUpdateHost ∧ KindRegisterHost ≠ KindSetHostActive ∧
      KindRegisterHost ≠ KindSetToken ∧ KindUpdateHost ≠ KindSetHostActive ∧
      KindUpdateHost ≠ KindSetToken ∧ KindSetHostActive ≠ KindSetToken := by decide
  cases c with
  | registerHost hostID wallet feeBps =>
      cases c' with
      | registerHost hostID' wallet' feeBps' =>
          obtain rfl := hashHex_injective hhost
          obtain rfl := hexAddress_injective hwallet
          obtain rfl : feeBps = feeBps' := hfee
          rfl
      | updateHost _ _ _ => exact absurd hkind hkinds.1
      | setHostActive _ _ => exact absurd hkind hkinds.2.1
      | setTokenAllowed _ _ => exact absurd hkind hkinds.2.2.1
  | updateHost hostID wallet feeBps =>
      cases c' with
      | registerHost _ _ _ => exact absurd hkind.symm hkinds.1
      | updateHost hostID' wallet' feeBps' =>
          obtain rfl := hashHex_injective hhost
          obtain rfl := hexAddress_injective hwallet
          obtain rfl : feeBps = feeBps' := hfee
          rfl
      | setHostActive _ _ => exact absurd hkind hkinds.2.2.2.1
      | setTokenAllowed _ _ => exact absurd hkind hkinds.2.2.2.2.1
  | setHostActive hostID active =>
      cases c' with
      | registerHost _ _ _ => exact absurd hkind.symm hkinds.2.1
      | updateHost _ _ _ => exact absurd hkind.symm hkinds.2.2.2.1
      | setHostActive hostID' active' =>
          obtain rfl := hashHex_injective hhost
          have hflag : ∀ b b', (flagText "|active=" (some b)).toList = (flagText "|active=" (some b')).toList →
              b = b' := by decide
          rw [hflag active active' (by simpa [TipCall.tail, TipCall.tokenText, TipCall.active,
            TipCall.allowed, flagText] using htail)]
      | setTokenAllowed _ _ => exact absurd hkind hkinds.2.2.2.2.2
  | setTokenAllowed token allowed =>
      cases c' with
      | registerHost _ _ _ => exact absurd hkind.symm hkinds.2.2.1
      | updateHost _ _ _ => exact absurd hkind.symm hkinds.2.2.2.2.1
      | setHostActive _ _ => exact absurd hkind.symm hkinds.2.2.2.2.2
      | setTokenAllowed token' allowed' =>
          have hflag : ∀ b, (flagText "|allowed=" (some b)).toList
              = '|' :: (flagText "allowed=" (some b)).toList := by decide
          have htail' : (hexAddress token).toList ++ '|' :: (flagText "allowed=" (some allowed)).toList
              = (hexAddress token').toList ++ '|' :: (flagText "allowed=" (some allowed')).toList := by
            rw [← hflag, ← hflag]
            simpa [TipCall.tail, TipCall.tokenText, TipCall.active, TipCall.allowed, flagText] using htail
          obtain ⟨htoken, hallowed⟩ := cut (bar_prefixed (digit_hexAddress _))
            (bar_prefixed (digit_hexAddress _)) htail'
          have hinj : ∀ b b', (flagText "allowed=" (some b)).toList = (flagText "allowed=" (some b')).toList →
              b = b' := by decide
          rw [hexAddress_injective (String.toList_inj.1 htoken), hinj _ _ hallowed]

/-! ## The operation of a proposal -/

structure Libraries.Documented (lib : Libraries) : Prop where
  Hex_lower : ∀ a, ToLower (lib.Hex a) = hexAddress a
  Hex_trimmed : ∀ a, TrimSpace (lib.Hex a) = lib.Hex a
  HexToHash_lower : ∀ s, lib.HexToHash (ToLower s) = lib.HexToHash s

/-- The text of the operation's own members. -/
def TipRegistryOperation.text (o : TipRegistryOperation) : String :=
  opText o.Kind o.ChainID o.ContractAddress o.HostIDHex o.WalletAddr o.HostFeeBps o.TokenAddress o.Active
    o.TokenAllowed

/-- What every operation is when it is proposed: named after its members, with the call data of the call
    they tell of. -/
structure Built (lib : Libraries) (pr : Proposal) : Prop where
  id : pr.1.ID = opIDOf lib.sha256 pr.1.text
  call : ∃ c chainID contract, pr.1.text = TipCall.text c chainID contract ∧
    pr.1.TxData = hexData (c.encode lib.keccak)
  data : pr.2.Data = pr.1.TxData
  status : pr.1.Status = StatusProposed
  listed : pr.1.GSI1PK = "TIPREG_OP_STATUS#" ++ StatusProposed

theorem TrimSpace_opIDOf (sha256 : Sha256) (text : String) :
    TrimSpace (opIDOf sha256 text) = opIDOf sha256 text := by
  refine IsTrimmed.TrimSpace_eq ?_
  rw [IsTrimmed, opIDOf, String.toList_append, String.toList_ofList]
  refine Trimmed.of_forall fun c hc => ?_
  rcases List.mem_append.1 hc with hc | hc
  · have hall : ∀ c ∈ "tipop_".toList, isSpace c = false := by
      rw [← List.forall_iff_forall_mem]
      decide
    exact hall c hc
  · rw [String.toList_ofList] at hc
    exact isSpace_of_hex (hexEncode_hex _ c hc)

section Built

variable {lib : Libraries} {cfg : Config} {env : Env}

/-- The members that the text and the transaction of an operation depend on. -/
structure Tells (op : TipRegistryOperation) (c : TipCall) (contract : Address) : Prop where
  Kind : op.Kind = c.kind
  ContractAddress : op.ContractAddress = hexAddress contract
  HostIDHex : op.HostIDHex = c.hostText
  WalletAddr : op.WalletAddr = c.walletText
  HostFeeBps : op.HostFeeBps = c.fee
  TokenAddress : op.TokenAddress = c.tokenText
  Active : op.Active = c.active
  TokenAllowed : op.TokenAllowed = c.allowed

theorem normal_proposed : ToLower (TrimSpace StatusProposed) = StatusProposed := by decide

theorem statusIndex_proposed : statusIndex StatusProposed = "TIPREG_OP_STATUS#" ++ StatusProposed := by
  rw [statusIndex, normal_proposed]
  decide

theorem Tells.text {op : TipRegistryOperation} {c : TipCall} {contract : Address}
    (tells : Tells op c contract) : op.UpdateKeys.text = c.text op.ChainID contract := by
  simp only [TipRegistryOperation.text, TipRegistryOperation.UpdateKeys, tells.Kind,
    tells.ContractAddress, tells.HostIDHex, tells.WalletAddr, tells.HostFeeBps, tells.TokenAddress,
    tells.Active, tells.TokenAllowed, normal_kind, normal_hexAddress, normal_hostText,
    normal_walletText, normal_tokenText]
  rfl

/-- What the four proposals have in common. -/
theorem built_of {op : TipRegistryOperation} {safeTx : safeTxPayload} {c : TipCall} (contract : Address)
    (tells : Tells op c contract) (hid : op.ID = opIDOf lib.sha256 (c.text op.ChainID contract))
    (hdata : op.TxData = hexData (c.encode lib.keccak)) (hsafe : safeTx.Data = op.TxData)
    (hstatus : op.Status = StatusProposed) : Built lib (op.UpdateKeys, safeTx) := by
  have htext := tells.text
  have htxData : op.UpdateKeys.TxData = op.TxData := by
    simp only [TipRegistryOperation.UpdateKeys, hdata, TrimSpace_hexData]
  refine ⟨?_, ⟨c, op.ChainID, contract, htext, htxData.trans hdata⟩, hsafe.trans htxData.symm, ?_, ?_⟩
  · rw [htext]
    simp only [TipRegistryOperation.UpdateKeys, hid, TrimSpace_opIDOf]
  · simp only [TipRegistryOperation.UpdateKeys, hstatus, normal_proposed]
  · simp only [TipRegistryOperation.UpdateKeys, hstatus, normal_proposed, statusIndex_proposed]

theorem bind_okM {α β : Type} {x : M α} {f : α → M β} {b : β} :
    (x >>= f) = .ok b ↔ ∃ a, x = .ok a ∧ f a = .ok b := by
  cases x with
  | error e => simp [bind, Except.bind]
  | ok a => simp [bind, Except.bind]

theorem pure_okM {α : Type} {a b : α} : (pure a : M α) = .ok b ↔ a = b := by
  simp [pure, Except.pure]

theorem contractText_eq (hlib : lib.Documented) : contractText lib cfg
    = hexAddress (lib.HexToAddress (TrimSpace cfg.TipContractAddress)) := hlib.Hex_lower _

theorem operationForRegistration_built (hlib : lib.Documented) {reg : TipHostRegistration} {pr : Proposal}
    (h : operationForRegistration lib cfg env reg = .ok pr) : Built lib pr := by
  simp only [operationForRegistration, tipRegistryContractAddress, validateTipHostFeeBps, bind_okM,
    pure_okM] at h
  obtain ⟨_, ⟨-, -, rfl⟩, fee, ⟨_, hfee, rfl⟩, wallet, -, ⟨data, kind⟩, hencode, safeAddr, -, rfl⟩ := h
  have hnonneg : ((reg.HostFeeBps.toNat : Nat) : Int) = reg.HostFeeBps := by
    unfold check at hfee
    split at hfee
    · next hrange => exact Int.toNat_of_nonneg hrange.1
    · cases hfee
  simp only [encodeTipRegistryOperationData] at hencode
  split_ifs at hencode with hregister hupdate
  · obtain ⟨rfl, rfl⟩ := Prod.mk.inj (Except.ok.inj hencode)
    refine built_of (c := .registerHost _ wallet reg.HostFeeBps.toNat)
      (lib.HexToAddress (TrimSpace cfg.TipContractAddress))
      ⟨hregister, contractText_eq hlib, ToLower_hashHex _, hlib.Hex_lower _, hnonneg.symm, rfl, rfl, rfl⟩
      ?_ rfl rfl rfl
    simp only [tipRegistryOpID, TipCall.text, TipCall.kind, TipCall.hostText, TipCall.walletText,
      TipCall.fee, TipCall.tokenText, TipCall.active, TipCall.allowed, contractText_eq hlib,
      hlib.Hex_lower, hregister, hnonneg]
  · obtain ⟨rfl, rfl⟩ := Prod.mk.inj (Except.ok.inj hencode)
    refine built_of (c := .updateHost _ wallet reg.HostFeeBps.toNat)
      (lib.HexToAddress (TrimSpace cfg.TipContractAddress))
      ⟨hupdate, contractText_eq hlib, ToLower_hashHex _, hlib.Hex_lower _, hnonneg.symm, rfl, rfl, rfl⟩
      ?_ rfl rfl rfl
    simp only [tipRegistryOpID, TipCall.text, TipCall.kind, TipCall.hostText, TipCall.walletText,
      TipCall.fee, TipCall.tokenText, TipCall.active, TipCall.allowed, contractText_eq hlib,
      hlib.Hex_lower, hupdate, hnonneg]

theorem operationSetHostActive_built (hlib : lib.Documented) {domain : String} {active : Bool}
    {pr : Proposal} (h : operationSetHostActive lib cfg env domain active = .ok pr) : Built lib pr := by
  simp only [operationSetHostActive, bind_okM, pure_okM] at h
  obtain ⟨-, -, -, -, domainNormalized, -, -, -, rfl⟩ := h
  refine built_of (c := .setHostActive _ active)
    (lib.HexToAddress (TrimSpace cfg.TipContractAddress))
    ⟨rfl, contractText_eq hlib, ToLower_hashHex _, rfl, rfl, rfl, rfl, rfl⟩ ?_ rfl rfl rfl
  simp only [tipRegistryOpID, TipCall.text, TipCall.kind, TipCall.hostText, TipCall.walletText,
    TipCall.fee, TipCall.tokenText, TipCall.active, TipCall.allowed, contractText_eq hlib]
  rfl

theorem operationSetTokenAllowed_built (hlib : lib.Documented) {tokenAddress : String} {allowed : Bool}
    {pr : Proposal} (h : operationSetTokenAllowed lib cfg env tokenAddress allowed = .ok pr) :
    Built lib pr := by
  simp only [operationSetTokenAllowed, bind_okM, pure_okM] at h
  obtain ⟨-, -, -, -, -, -, rfl⟩ := h
  refine built_of (c := .setTokenAllowed (lib.HexToAddress (TrimSpace tokenAddress)) allowed)
    (lib.HexToAddress (TrimSpace cfg.TipContractAddress))
    ⟨rfl, contractText_eq hlib, rfl, rfl, rfl, hlib.Hex_lower _, rfl, rfl⟩ ?_ rfl rfl rfl
  simp only [tipRegistryOpID, opText, TipCall.text, TipCall.kind, TipCall.hostText, TipCall.walletText,
    TipCall.fee, TipCall.tokenText, TipCall.active, TipCall.allowed, contractText_eq hlib,
    hlib.Hex_lower, hlib.Hex_trimmed, normal_hexAddress]
  rfl

/-- The members of the operation that allows or forbids a token. -/
theorem operationSetTokenAllowed_tells (hlib : lib.Documented) {tokenAddress : String} {allowed : Bool}
    {pr : Proposal} (h : operationSetTokenAllowed lib cfg env tokenAddress allowed = .ok pr) :
    let c := TipCall.setTokenAllowed (lib.HexToAddress (TrimSpace tokenAddress)) allowed
    let contract := lib.HexToAddress (TrimSpace cfg.TipContractAddress)
    pr.1.text = c.text cfg.TipChainID contract ∧ pr.1.TxTo = hexAddress contract ∧
      pr.1.TxData = hexData (c.encode lib.keccak) := by
  simp only [operationSetTokenAllowed, bind_okM, pure_okM] at h
  obtain ⟨-, -, -, -, -, -, rfl⟩ := h
  refine ⟨Tells.text ⟨rfl, contractText_eq hlib, rfl, rfl, rfl, hlib.Hex_lower _, rfl, rfl⟩, ?_,
    TrimSpace_hexData _⟩
  simp only [TipRegistryOperation.UpdateKeys, contractText_eq hlib, normal_hexAddress]

theorem operationEnsureKind_built (hlib : lib.Documented) {opKind domainNormalized domainRaw : String}
    {pr : Proposal} (h : operationEnsureKind lib cfg env opKind domainNormalized domainRaw = .ok pr) :
    Built lib pr := by
  simp only [operationEnsureKind, bind_okM, pure_okM] at h
  obtain ⟨⟨txData, walletAddr, hostFeeBps, active⟩, hencode, -, -, rfl⟩ := h
  simp only [encodeAutoTipRegistryTx] at hencode
  split_ifs at hencode with hregister hupdate hactive
  · simp only [Except.ok.injEq, Prod.mk.injEq] at hencode
    obtain ⟨rfl, rfl, rfl, rfl⟩ := hencode
    refine built_of (c := .registerHost _ _ cfg.TipDefaultHostFeeBps.toNat)
      (lib.HexToAddress (TrimSpace cfg.TipContractAddress))
      ⟨hregister, contractText_eq hlib, ToLower_hashHex _, hlib.Hex_lower _, rfl, rfl, rfl, rfl⟩
      ?_ rfl rfl rfl
    simp only [tipRegistryOpID, TipCall.text, TipCall.kind, TipCall.hostText, TipCall.walletText,
      TipCall.fee, TipCall.tokenText, TipCall.active, TipCall.allowed, contractText_eq hlib,
      hlib.Hex_lower, hregister]
  · simp only [Except.ok.injEq, Prod.mk.injEq] at hencode
    obtain ⟨rfl, rfl, rfl, rfl⟩ := hencode
    refine built_of (c := .updateHost _ _ cfg.TipDefaultHostFeeBps.toNat)
      (lib.HexToAddress (TrimSpace cfg.TipContractAddress))
      ⟨hupdate, contractText_eq hlib, ToLower_hashHex _, hlib.Hex_lower _, rfl, rfl, rfl, rfl⟩
      ?_ rfl rfl rfl
    simp only [tipRegistryOpID, TipCall.text, TipCall.kind, TipCall.hostText, TipCall.walletText,
      TipCall.fee, TipCall.tokenText, TipCall.active, TipCall.allowed, contractText_eq hlib,
      hlib.Hex_lower, hupdate]
  · simp only [Except.ok.injEq, Prod.mk.injEq] at hencode
    obtain ⟨rfl, rfl, rfl, rfl⟩ := hencode
    refine built_of (c := .setHostActive _ true)
      (lib.HexToAddress (TrimSpace cfg.TipContractAddress))
      ⟨hactive, contractText_eq hlib, ToLower_hashHex _, rfl, rfl, rfl, rfl, rfl⟩ ?_ rfl rfl rfl
    simp only [tipRegistryOpID, TipCall.text, TipCall.kind, TipCall.hostText, TipCall.walletText,
      TipCall.fee, TipCall.tokenText, TipCall.active, TipCall.allowed, contractText_eq hlib, hactive]
    rfl

theorem map_some_okM {α : Type} {x : M α} {b : α} : some <$> x = .ok (some b) ↔ x = .ok b := by
  cases x with
  | error e => simp [Functor.map, Except.map]
  | ok a => simp [Functor.map, Except.map]

/-- **What is proposed.** -/
theorem operation_built (hlib : lib.Documented) {p : Proposed} {pr : Proposal}
    (h : p.operation lib cfg env = .ok (some pr)) : Built lib pr := by
  cases p with
  | registration reg => exact operationForRegistration_built hlib (map_some_okM.1 h)
  | setHostActive domain active => exact operationSetHostActive_built hlib (map_some_okM.1 h)
  | setTokenAllowed tokenAddress allowed => exact operationSetTokenAllowed_built hlib (map_some_okM.1 h)
  | ensureHost domainNormalized domainRaw =>
      simp only [Proposed.operation, operationEnsureHost, bind_okM] at h
      obtain ⟨-, -, -, -, -, -, h⟩ := h
      split_ifs at h
      · cases Except.ok.inj h
      · exact operationEnsureKind_built hlib (map_some_okM.1 h)

end Built

end LesserHost.TipRegistry
