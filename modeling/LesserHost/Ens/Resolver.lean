import LesserHost.SoulRotation.Agreement

set_option autoImplicit false

/-! # The resolver on chain

`OffchainResolver.sol` answers no query itself. It sends the client to the gateway, and `resolveWithProof` takes
the gateway's answer where it is signed for this resolver and this request by the signer or by the one before,
and has not expired. Which keys these are after a run of the owner's calls is `accepted_keys`. -/

namespace LesserHost.Ens

open LesserHost.Go LesserHost.Solidity
open LesserHost.SoulRotation (Recovery ecrecover halfOrder partR partS partV)
open EIP712 (Hash word)

/-- `SignatureVerifier.makeSignatureHash`. `abi.encodePacked` writes an address with 20 bytes and a `uint64`
with eight. -/
def makeSignatureHash (keccak : Hash) (target : Address) (expires : Nat) (request result : Bytes) : Bytes32 :=
  keccak ([0x19, 0x00] ++ (word target).drop 12 ++ (word expires).drop 24 ++ word (keccak request)
    ++ word (keccak result))

/-! ## The contract -/

inductive ResolverEvent where
  | gatewayUrlUpdated (url : Bytes)
  | signerUpdated (signer previousSigner : Address)
  | ownershipTransferStarted (previousOwner newOwner : Address)
  | ownershipTransferred (previousOwner newOwner : Address)
  deriving DecidableEq

structure OffchainResolver where
  owner : Address
  pendingOwner : Address
  gatewayUrl : Bytes
  signer : Address
  previousSigner : Address
  logs : List ResolverEvent
  deriving DecidableEq

namespace OffchainResolver

def emit (c : OffchainResolver) (e : ResolverEvent) : OffchainResolver := { c with logs := c.logs ++ [e] }

/-- The constructor. -/
def deploy (initialOwner : Address) (url : Bytes) (signer_ : Address) : Exec OffchainResolver := do
  require (initialOwner ≠ 0) (.custom "OwnableInvalidOwner")
  require (url.length ≠ 0) (.reason "OffchainResolver: empty url")
  require (signer_ ≠ 0) (.reason "OffchainResolver: zero signer")
  return {
    owner := initialOwner
    pendingOwner := 0
    gatewayUrl := url
    signer := signer_
    previousSigner := 0
    logs := [.ownershipTransferred 0 initialOwner] }

def onlyOwner (c : OffchainResolver) (sender : Address) : Exec Unit :=
  require (sender = c.owner) (.custom "OwnableUnauthorizedAccount")

def setGatewayUrl (c : OffchainResolver) (sender : Address) (url : Bytes) : Exec OffchainResolver := do
  c.onlyOwner sender
  require (url.length ≠ 0) (.reason "OffchainResolver: empty url")
  return { c with gatewayUrl := url }.emit (.gatewayUrlUpdated url)

def setSigner (c : OffchainResolver) (sender signer_ : Address) : Exec OffchainResolver := do
  c.onlyOwner sender
  require (signer_ ≠ 0) (.reason "OffchainResolver: zero signer")
  if signer_ = c.signer then
    if c.previousSigner ≠ 0 then
      return { c with previousSigner := 0 }.emit (.signerUpdated signer_ 0)
    else return c
  else
    return { c with previousSigner := c.signer, signer := signer_ }.emit (.signerUpdated signer_ c.signer)

def transferOwnership (c : OffchainResolver) (sender newOwner : Address) : Exec OffchainResolver := do
  c.onlyOwner sender
  return { c with pendingOwner := newOwner }.emit (.ownershipTransferStarted c.owner newOwner)

def acceptOwnership (c : OffchainResolver) (sender : Address) : Exec OffchainResolver := do
  require (sender = c.pendingOwner) (.custom "OwnableUnauthorizedAccount")
  return { c with owner := sender, pendingOwner := 0 }.emit (.ownershipTransferred c.owner sender)

def renounceOwnership (c : OffchainResolver) (sender : Address) : Exec OffchainResolver := do
  c.onlyOwner sender
  return { c with owner := 0, pendingOwner := 0 }.emit (.ownershipTransferred c.owner 0)

/-- The functions that write. -/
inductive Call where
  | setGatewayUrl (url : Bytes)
  | setSigner (signer_ : Address)
  | transferOwnership (newOwner : Address)
  | acceptOwnership
  | renounceOwnership
  deriving DecidableEq

def call (c : OffchainResolver) (sender : Address) : Call → Exec OffchainResolver
  | .setGatewayUrl url => c.setGatewayUrl sender url
  | .setSigner signer_ => c.setSigner sender signer_
  | .transferOwnership newOwner => c.transferOwnership sender newOwner
  | .acceptOwnership => c.acceptOwnership sender
  | .renounceOwnership => c.renounceOwnership sender

section View

variable (keccak : Hash) (ecdsa : Recovery) (this : Address)

/-- A revert without data: the decoder of the ABI gives no reason. -/
def malformed : Revert := .reason ""

/-- `abi.decode(extraData, (bytes, address))` -/
def decodeRequest (extraData : Bytes) : Exec (Bytes × Address) :=
  match Abi.decode extraData [.bytes, .word] with
  | some [.bytes callData, .word sender] =>
      if h : sender < 2 ^ 160 then .ok (callData, ⟨sender, h⟩) else .error malformed
  | _ => .error malformed

/-- `abi.decode(response, (bytes, uint64, bytes))` -/
def decodeResponse (response : Bytes) : Exec (Bytes × Nat × Bytes) :=
  match Abi.decode response [.bytes, .word, .bytes] with
  | some [.bytes result, .word expires, .bytes sig] =>
      if expires < 2 ^ 64 then .ok (result, expires, sig) else .error malformed
  | _ => .error malformed

/-- `ECDSA.recover(hash, v, r, s)` of OpenZeppelin. -/
def recoverVRS (hash : Bytes32) (v : UInt8) (r s : Nat) : Exec Address :=
  if halfOrder < s then .error (.custom "ECDSAInvalidSignatureS")
  else if ecrecover ecdsa hash v r s = 0 then .error (.custom "ECDSAInvalidSignature")
  else .ok (ecrecover ecdsa hash v r s)

/-- `ECDSA.recover(hash, r, vs)`: the parity is the top bit of `vs`. -/
def recoverCompact (hash : Bytes32) (r vs : Nat) : Exec Address :=
  recoverVRS ecdsa hash (UInt8.ofNat (vs / 2 ^ 255 + 27)) r (vs % 2 ^ 255)

/-- The recovery in `SignatureVerifier.verify`, by the length of the signature. -/
def recoverSigner (hash : Bytes32) (sig : Bytes) : Exec Address :=
  if sig.length = 65 then recoverVRS ecdsa hash (partV sig) (partR sig) (partS sig)
  else if sig.length = 64 then recoverCompact ecdsa hash (Abi.ofWord (sig.take 32)) (Abi.ofWord (sig.drop 32))
  else .error (.reason "SignatureVerifier: invalid signature length")

/-- `SignatureVerifier.verify` -/
def verify (timestamp : Nat) (request response : Bytes) : Exec (Address × Bytes) := do
  let (result, expires, sig) ← decodeResponse response
  let (callData, sender) ← decodeRequest request
  let hash := makeSignatureHash keccak sender expires callData result
  let recovered ← recoverSigner ecdsa hash sig
  require (timestamp ≤ expires) (.reason "SignatureVerifier: Signature expired")
  return (recovered, result)

def resolveWithProof (c : OffchainResolver) (timestamp : Nat) (response extraData : Bytes) : Exec Bytes := do
  let (_, sender) ← decodeRequest extraData
  require (sender = this) (.reason "OffchainResolver: target mismatch")
  let (recovered, result) ← verify keccak ecdsa timestamp extraData response
  require (recovered = c.signer ∨ recovered = c.previousSigner) (.reason "OffchainResolver: invalid signature")
  return result

end View

/-! ## The callback -/

section Callback

variable {keccak : Hash} {ecdsa : Recovery} {this : Address} {c : OffchainResolver} {timestamp : Nat}
  {response extraData result : Bytes}

theorem resolveWithProof_iff : c.resolveWithProof keccak ecdsa this timestamp response extraData = .ok result ↔
    ∃ callData expires sig recovered, decodeRequest extraData = .ok (callData, this) ∧
      decodeResponse response = .ok (result, expires, sig) ∧
      recoverSigner ecdsa (makeSignatureHash keccak this expires callData result) sig = .ok recovered ∧
      timestamp ≤ expires ∧ (recovered = c.signer ∨ recovered = c.previousSigner) := by
  simp only [resolveWithProof, verify, bind_ok, require_ok, pure_ok]
  constructor
  · rintro ⟨⟨callData, sender⟩, hrequest, -, hsender, ⟨recovered, out⟩,
      ⟨⟨result', expires, sig⟩, hresponse, ⟨callData', sender'⟩, hrequest', recovered', hrecover, -, htime, hpair⟩,
      -, hsigner, hresult⟩
    obtain rfl : sender = this := hsender
    rw [hrequest] at hrequest'
    cases hrequest'
    obtain ⟨rfl, rfl⟩ : recovered' = recovered ∧ result' = out := Prod.mk.inj hpair
    obtain rfl : result' = result := hresult
    exact ⟨callData, expires, sig, recovered', hrequest, hresponse, hrecover, htime, hsigner⟩
  · rintro ⟨callData, expires, sig, recovered, hrequest, hresponse, hrecover, htime, hsigner⟩
    exact ⟨(callData, this), hrequest, (), rfl, (recovered, result),
      ⟨(result, expires, sig), hresponse, (callData, this), hrequest, recovered, hrecover, (), htime, rfl⟩,
      (), hsigner, rfl⟩

/-- The zero address is never recovered: a previous signer that has been cleared accepts nothing. -/
theorem recoverSigner_ne_zero {hash : Bytes32} {sig : Bytes} {a : Address}
    (h : recoverSigner ecdsa hash sig = .ok a) : a ≠ 0 := by
  have hrecovered : ∀ v r s, recoverVRS ecdsa hash v r s = .ok a → a ≠ 0 := by
    intro v r s hv
    rw [recoverVRS] at hv
    split_ifs at hv with hhigh hzero
    exact Except.ok.inj hv ▸ hzero
  rw [recoverSigner] at h
  split_ifs at h with hlong hshort
  · exact hrecovered _ _ _ h
  · exact hrecovered _ _ _ h

end Callback

/-! ## Whose signature is taken -/

/-- A call that reverts changes nothing. -/
def step (c : OffchainResolver) (m : Address × Call) : OffchainResolver :=
  match c.call m.1 m.2 with
  | .ok c' => c'
  | .error _ => c

def run (c : OffchainResolver) (ms : List (Address × Call)) : OffchainResolver := ms.foldl step c

/-- The signer that a call sets. -/
def signerSet (c : OffchainResolver) (m : Address × Call) : List Address :=
  match m.2, c.call m.1 m.2 with
  | .setSigner signer_, .ok _ => [signer_]
  | _, _ => []

/-- The signers that a run sets, in order. -/
def signersSet : OffchainResolver → List (Address × Call) → List Address
  | _, [] => []
  | c, m :: ms => c.signerSet m ++ signersSet (c.step m) ms

/-- The signer and the one before, as the setting of a signer moves them. -/
def rotate (w : Address × Address) (signer_ : Address) : Address × Address :=
  (signer_, if signer_ = w.1 then 0 else w.1)

section Runs

variable {c c' : OffchainResolver}

theorem setSigner_ok {sender signer_ : Address} (h : c.setSigner sender signer_ = .ok c') :
    sender = c.owner ∧ signer_ ≠ 0 ∧ (c'.signer, c'.previousSigner) = rotate (c.signer, c.previousSigner) signer_ := by
  simp only [setSigner, onlyOwner, bind_ok, require_ok] at h
  obtain ⟨-, howner, -, hzero, h⟩ := h
  refine ⟨howner, hzero, ?_⟩
  split_ifs at h with hsame hprevious
  · obtain rfl := pure_ok.1 h
    rw [rotate, if_pos hsame, hsame]
    rfl
  · obtain rfl := pure_ok.1 h
    rw [rotate, if_pos hsame, hsame, not_not.1 hprevious]
  · obtain rfl := pure_ok.1 h
    rw [rotate, if_neg hsame]
    rfl

/-- Only `setSigner` touches the signers. -/
theorem call_signers {sender : Address} {m : Call} (h : c.call sender m = .ok c')
    (hm : ∀ signer_, m ≠ .setSigner signer_) : c'.signer = c.signer ∧ c'.previousSigner = c.previousSigner := by
  cases m with
  | setSigner signer_ => exact absurd rfl (hm signer_)
  | setGatewayUrl url =>
      simp only [call, setGatewayUrl, bind_ok, pure_ok] at h
      obtain ⟨-, -, -, -, rfl⟩ := h
      exact ⟨rfl, rfl⟩
  | transferOwnership newOwner =>
      simp only [call, transferOwnership, bind_ok, pure_ok] at h
      obtain ⟨-, -, rfl⟩ := h
      exact ⟨rfl, rfl⟩
  | acceptOwnership =>
      simp only [call, acceptOwnership, bind_ok, pure_ok] at h
      obtain ⟨-, -, rfl⟩ := h
      exact ⟨rfl, rfl⟩
  | renounceOwnership =>
      simp only [call, renounceOwnership, bind_ok, pure_ok] at h
      obtain ⟨-, -, rfl⟩ := h
      exact ⟨rfl, rfl⟩

/-- What one call does to the signers. -/
theorem step_signers (m : Address × Call) : ((c.step m).signer, (c.step m).previousSigner) =
    (c.signerSet m).foldl rotate (c.signer, c.previousSigner) := by
  obtain ⟨sender, m⟩ := m
  by_cases hm : ∃ signer_, m = .setSigner signer_
  · obtain ⟨signer_, rfl⟩ := hm
    rw [step, signerSet]
    cases h : c.call sender (.setSigner signer_) with
    | error e => rfl
    | ok c' => exact (setSigner_ok h).2.2
  · rw [not_exists] at hm
    have hnone : c.signerSet (sender, m) = [] := by
      rw [signerSet]
      split
      · next signer_ _ heq _ => exact absurd heq (hm signer_)
      · rfl
    rw [hnone, step]
    cases h : c.call sender m with
    | error e => rfl
    | ok c' =>
        obtain ⟨hsigner, hprevious⟩ := call_signers h hm
        exact Prod.ext hsigner hprevious

theorem run_signers (ms : List (Address × Call)) : ((c.run ms).signer, (c.run ms).previousSigner) =
    (c.signersSet ms).foldl rotate (c.signer, c.previousSigner) := by
  induction ms generalizing c with
  | nil => rfl
  | cons m ms ih =>
      rw [signersSet, List.foldl_append, ← step_signers m, ← ih]
      rfl

/-- The nonzero keys of the two are the last two that were set. -/
theorem foldl_rotate_mem {key : Address} (hne : key ≠ 0) (signers : List Address) (first : Address) :
    (key = (signers.foldl rotate (first, 0)).1 ∨ key = (signers.foldl rotate (first, 0)).2) ↔
      key ∈ (first :: signers).reverse.take 2 := by
  have hlast : ∀ l : List Address, ∃ before, first :: l = before ++ [(l.foldl rotate (first, 0)).1] := by
    intro l
    induction l using List.reverseRecOn with
    | nil => exact ⟨[], rfl⟩
    | append_singleton l x _ =>
        rw [List.foldl_append]
        exact ⟨first :: l, rfl⟩
  induction signers using List.reverseRecOn with
  | nil => simp [hne]
  | append_singleton init last _ =>
      obtain ⟨before, hinit⟩ := hlast init
      rw [← List.cons_append, hinit, List.foldl_append]
      simp only [List.foldl_cons, List.foldl_nil, rotate]
      split_ifs with hsame
      · simp [hne, hsame]
      · simp

theorem deploy_ok {initialOwner signer_ : Address} {url : Bytes} (h : deploy initialOwner url signer_ = .ok c) :
    signer_ ≠ 0 ∧ c.signer = signer_ ∧ c.previousSigner = 0 := by
  simp only [deploy, bind_ok, require_ok, pure_ok] at h
  obtain ⟨-, -, -, -, -, hsigner, rfl⟩ := h
  exact ⟨hsigner, rfl, rfl⟩

/-- **Rotation of the key.** After any calls since the construction, a response is taken exactly if it answers
this request for this resolver, has not expired and is signed with one of the last two keys that the owner has
set, the constructor's being the first. -/
theorem accepted_keys {keccak : Hash} {ecdsa : Recovery} {this initialOwner first : Address} {url : Bytes}
    (hdeploy : deploy initialOwner url first = .ok c) (ms : List (Address × Call)) (timestamp : Nat)
    (response extraData result : Bytes) :
    (c.run ms).resolveWithProof keccak ecdsa this timestamp response extraData = .ok result ↔
      ∃ callData expires sig key, decodeRequest extraData = .ok (callData, this) ∧
        decodeResponse response = .ok (result, expires, sig) ∧
        recoverSigner ecdsa (makeSignatureHash keccak this expires callData result) sig = .ok key ∧
        timestamp ≤ expires ∧ key ∈ (first :: c.signersSet ms).reverse.take 2 := by
  obtain ⟨-, hsigner, hprevious⟩ := deploy_ok hdeploy
  have hrun := run_signers (c := c) ms
  rw [hsigner, hprevious] at hrun
  rw [resolveWithProof_iff]
  refine exists_congr fun callData => exists_congr fun expires => exists_congr fun sig => exists_congr fun key => ?_
  refine and_congr_right fun _ => and_congr_right fun _ => and_congr_right fun hkey => and_congr_right fun _ => ?_
  rw [← foldl_rotate_mem (recoverSigner_ne_zero hkey), ← hrun]

end Runs

def sampleResolver : OffchainResolver := ⟨1, 0, [0x75], 7, 0, [.ownershipTransferred 0 1]⟩

def lengthHash : Hash := fun b => Fin.ofNat (2 ^ 256) b.length

/-- Of the first signer 7 nothing is taken after 8 and 6; what an address sets that is not the owner does not
count. -/
theorem accepted_keys_third :
    (sampleResolver.run [(1, .setSigner 8), (2, .setSigner 7), (1, .setSigner 6)]).resolveWithProof lengthHash
        SoulRotation.sampleEcdsa 9 0 (Abi.encode [.bytes [], .word 300, .bytes (word 7 ++ word 1)])
        (Abi.encode [.bytes [], .word (9 : Address)]) = .ok [] ↔
      ∃ callData expires sig key,
        decodeRequest (Abi.encode [.bytes [], .word (9 : Address)]) = .ok (callData, 9) ∧
        decodeResponse (Abi.encode [.bytes [], .word 300, .bytes (word 7 ++ word 1)])
          = .ok ([], expires, sig) ∧
        recoverSigner SoulRotation.sampleEcdsa (makeSignatureHash lengthHash 9 expires callData []) sig
          = .ok key ∧
        0 ≤ expires ∧ key ∈ ([6, 8] : List Address) :=
  accepted_keys (show deploy 1 [0x75] 7 = .ok sampleResolver from rfl)
    [(1, .setSigner 8), (2, .setSigner 7), (1, .setSigner 6)] 0 _ _ _

end OffchainResolver

end LesserHost.Ens
