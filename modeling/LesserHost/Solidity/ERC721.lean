import LesserHost.Solidity.Basic

set_option autoImplicit false

/-! # The ERC-721 base contract

OpenZeppelin's `ERC721` is not part of the repository. A contract that inherits from it uses four
entry points of its storage: reading an owner, the internal `_update`, and the two approval
functions. `Lawful` says what the library documents about them; every result about an inheriting
contract takes it as a hypothesis. `ERC721.basic` is a concrete base contract with these laws. -/

namespace LesserHost.Solidity

/-- A base contract with storage `σ`. `update b dest tokenId auth` is the library's own
    `_update(to, tokenId, auth)` and returns the previous owner; the zero address is "no owner" and,
    as `auth`, "no check". -/
structure ERC721 (σ : Type) where
  init : σ
  ownerOf : σ → Nat → Address
  update : σ → Address → Nat → Address → Exec (σ × Address)
  approve : σ → Address → Address → Nat → Exec σ
  setApprovalForAll : σ → Address → Address → Bool → Exec σ

/-- What the library documents. -/
structure ERC721.Lawful {σ : Type} (erc : ERC721 σ) : Prop where
  /-- no token exists before it is minted -/
  init_owner : ∀ id, erc.ownerOf erc.init id = 0
  /-- `_update` gives the token to `dest`, touches no other token and returns the previous owner -/
  update_owner : ∀ b dest id auth b' prev, erc.update b dest id auth = .ok (b', prev) →
    prev = erc.ownerOf b id ∧ erc.ownerOf b' = Function.update (erc.ownerOf b) id dest
  /-- nobody is authorised for a token that does not exist -/
  update_auth : ∀ b dest id auth b' prev, erc.update b dest id auth = .ok (b', prev) →
    auth ≠ 0 → erc.ownerOf b id ≠ 0
  approve_owner : ∀ b sender dest id b', erc.approve b sender dest id = .ok b' →
    erc.ownerOf b' = erc.ownerOf b
  setApprovalForAll_owner : ∀ b sender operator approved b',
    erc.setApprovalForAll b sender operator approved = .ok b' → erc.ownerOf b' = erc.ownerOf b

/-! ## A base contract with these laws -/

/-- Owners, the approved address of a token, and the operators of an owner. -/
structure BasicStore where
  owners : Nat → Address
  tokenApprovals : Nat → Address
  operatorApprovals : Address → Address → Bool

namespace BasicStore

def isAuthorized (b : BasicStore) (spender : Address) (id : Nat) : Prop :=
  b.owners id ≠ 0 ∧ (b.owners id = spender ∨ b.operatorApprovals (b.owners id) spender = true ∨
    b.tokenApprovals id = spender)

instance (b : BasicStore) (spender : Address) (id : Nat) : Decidable (b.isAuthorized spender id) :=
  inferInstanceAs (Decidable (_ ∧ _))

def update (b : BasicStore) (dest : Address) (id : Nat) (auth : Address) :
    Exec (BasicStore × Address) := do
  require (auth ≠ 0 → b.isAuthorized auth id) (.custom "ERC721InsufficientApproval")
  return ({ b with
    owners := Function.update b.owners id dest
    tokenApprovals := Function.update b.tokenApprovals id 0 }, b.owners id)

def approve (b : BasicStore) (sender dest : Address) (id : Nat) : Exec BasicStore := do
  require (b.owners id ≠ 0 ∧ (b.owners id = sender ∨ b.operatorApprovals (b.owners id) sender = true))
    (.custom "ERC721InvalidApprover")
  return { b with tokenApprovals := Function.update b.tokenApprovals id dest }

def setApprovalForAll (b : BasicStore) (sender operator : Address) (approved : Bool) :
    Exec BasicStore := do
  require (operator ≠ 0) (.custom "ERC721InvalidOperator")
  return { b with
    operatorApprovals := Function.update b.operatorApprovals sender
      (Function.update (b.operatorApprovals sender) operator approved) }

end BasicStore

def ERC721.basic : ERC721 BasicStore where
  init := ⟨fun _ => 0, fun _ => 0, fun _ _ => false⟩
  ownerOf := BasicStore.owners
  update := BasicStore.update
  approve := BasicStore.approve
  setApprovalForAll := BasicStore.setApprovalForAll

theorem ERC721.basic_lawful : ERC721.basic.Lawful where
  init_owner _ := rfl
  update_owner b dest id auth b' prev h := by
    simp only [basic, BasicStore.update, bind_ok, require_ok, pure_ok, Prod.mk.injEq] at h
    obtain ⟨-, -, rfl, rfl⟩ := h
    exact ⟨rfl, rfl⟩
  update_auth b dest id auth b' prev h hauth := by
    simp only [basic, BasicStore.update, bind_ok, require_ok] at h
    obtain ⟨-, hauthorized, -⟩ := h
    exact (hauthorized hauth).1
  approve_owner b sender dest id b' h := by
    simp only [basic, BasicStore.approve, bind_ok, pure_ok] at h
    obtain ⟨-, -, rfl⟩ := h
    rfl
  setApprovalForAll_owner b sender operator approved b' h := by
    simp only [basic, BasicStore.setApprovalForAll, bind_ok, pure_ok] at h
    obtain ⟨-, -, rfl⟩ := h
    rfl

end LesserHost.Solidity
