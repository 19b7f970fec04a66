import LesserHost.SoulRegistry.Basic

set_option autoImplicit false

/-! # What a call of the SoulRegistry does to the souls

`view` keeps what ownership is about: owners, bound wallets, mint times, rotation nonces, and the two
logs of mints and rotations. `call_step` says once, for all external functions, that a call leaves
the view as it is or mints, transfers, burns or rotates one soul, and what it has checked before. -/

namespace LesserHost.SoulRegistry

open LesserHost.Solidity CallStack

/-! ## The view -/

structure View where
  owner : Nat → Address
  wallet : Nat → Address
  mintedAt : Nat → Nat
  everMinted : Nat → Bool
  nonce : Nat → Nat
  /-- ids and times of all mints -/
  mintLog : List (Nat × Nat)
  /-- ids and nonces of all rotations -/
  rotationLog : List (Nat × Nat)

namespace View

def move (v : View) (id : Nat) (dest : Address) : View :=
  { v with owner := Function.update v.owner id dest, wallet := Function.update v.wallet id dest }

def mint (v : View) (id : Nat) (dest : Address) (now : Nat) : View :=
  { v.move id dest with
    mintedAt := Function.update v.mintedAt id now
    everMinted := Function.update v.everMinted id true
    mintLog := v.mintLog ++ [(id, now)] }

def rotate (v : View) (id : Nat) (dest : Address) : View :=
  { v.move id dest with
    nonce := Function.update v.nonce id (v.nonce id + 1)
    rotationLog := v.rotationLog ++ [(id, v.nonce id)] }

end View

def Event.mintedId : Event → Option Nat
  | .soulMinted agentId _ _ => some agentId
  | _ => none

def Event.rotation : Event → Option (Nat × Nat)
  | .walletRotated agentId _ _ nonce => some (agentId, nonce)
  | _ => none

def mintLog (logs : List (Nat × Event)) : List (Nat × Nat) :=
  logs.filterMap fun e => e.2.mintedId.map fun id => (id, e.1)

def rotationLog (logs : List (Nat × Event)) : List (Nat × Nat) :=
  logs.filterMap fun e => e.2.rotation

variable {σ : Type} {cfg : Config σ}

def view (cfg : Config σ) (s : State σ) : View where
  owner := _ownerOf cfg s
  wallet := s._agentWallet
  mintedAt := s._mintedAt
  everMinted := s._everMinted
  nonce := s.agentNonces
  mintLog := mintLog s.logs
  rotationLog := rotationLog s.logs

/-- The events that are neither a mint nor a rotation do not show. -/
theorem view_emit (s : State σ) {e : Event} (hm : e.mintedId = none) (hr : e.rotation = none) :
    view cfg (emit s e) = view cfg s := by
  have hmint : mintLog (s.logs ++ [(s.timestamp, e)]) = mintLog s.logs := by
    simp [mintLog, hm]
  have hrotation : rotationLog (s.logs ++ [(s.timestamp, e)]) = rotationLog s.logs := by
    simp [rotationLog, hr]
  simp only [view, emit, hmint, hrotation]
  rfl

theorem view_emit_minted (s : State σ) (id : Nat) (dest : Address) (uri : Bytes) :
    view cfg (emit s (.soulMinted id dest uri))
      = { view cfg s with mintLog := (view cfg s).mintLog ++ [(id, s.timestamp)] } := by
  have hmint : mintLog (s.logs ++ [(s.timestamp, .soulMinted id dest uri)])
      = mintLog s.logs ++ [(id, s.timestamp)] := by
    simp [mintLog, Event.mintedId]
  have hrotation : rotationLog (s.logs ++ [(s.timestamp, .soulMinted id dest uri)])
      = rotationLog s.logs := by
    simp [rotationLog, Event.rotation]
  simp only [view, emit, hmint, hrotation]
  rfl

theorem view_emit_rotated (s : State σ) (id n : Nat) (old new : Address) :
    view cfg (emit s (.walletRotated id old new n))
      = { view cfg s with rotationLog := (view cfg s).rotationLog ++ [(id, n)] } := by
  have hmint : mintLog (s.logs ++ [(s.timestamp, .walletRotated id old new n)])
      = mintLog s.logs := by
    simp [mintLog, Event.mintedId]
  have hrotation : rotationLog (s.logs ++ [(s.timestamp, .walletRotated id old new n)])
      = rotationLog s.logs ++ [(id, n)] := by
    simp [rotationLog, Event.rotation]
  simp only [view, emit, hmint, hrotation]
  rfl

theorem view_congr {s s' : State σ} (base : s'.base = s.base)
    (wallet : s'._agentWallet = s._agentWallet) (mintedAt : s'._mintedAt = s._mintedAt)
    (everMinted : s'._everMinted = s._everMinted) (nonce : s'.agentNonces = s.agentNonces)
    (logs : s'.logs = s.logs) : view cfg s' = view cfg s := by
  have howner : _ownerOf cfg s' = _ownerOf cfg s := by
    funext id
    rw [_ownerOf, _ownerOf, base]
  simp only [view, howner, wallet, mintedAt, everMinted, nonce, logs]

/-- Storage of the base contract shows through its owners only. -/
theorem view_base (s : State σ) {base : σ}
    (h : cfg.erc721.ownerOf base = cfg.erc721.ownerOf s.base) :
    view cfg { s with base } = view cfg s := by
  have howner : _ownerOf cfg { s with base } = _ownerOf cfg s := h
  simp only [view, howner]

/-! ## The overridden `_update` -/

section Update

variable {s s' : State σ} {dest source auth prev : Address} {id : Nat}

/-- The transfer still falls into the claim window of its token. -/
structure InWindow (cfg : Config σ) (s : State σ) (id : Nat) : Prop where
  minted : s._mintedAt id ≠ 0
  early : s.timestamp < s._mintedAt id + cfg.claimWindowSeconds

theorem checkSoulbound_ok {u : Unit} (h : checkSoulbound cfg s source dest id auth = .ok u)
    (hs : source ≠ 0) (hd : dest ≠ 0) (ha : auth ≠ 0) : InWindow cfg s id := by
  unfold checkSoulbound at h
  rw [if_pos ⟨hs, hd, ha⟩] at h
  split_ifs at h with hminted
  · simp only [bind_ok, checkedAdd_ok, require_ok] at h
    obtain ⟨_, ⟨-, rfl⟩, hearly⟩ := h
    exact ⟨hminted, hearly⟩

theorem trackTransfer_ok (cfg : Config σ) (h : trackTransfer s source dest id = .ok s') :
    view cfg s' = view cfg s ∧ s'.timestamp = s.timestamp := by
  unfold trackTransfer at h
  split_ifs at h
  · simp only [bind_ok, addAt_ok, pure_ok] at h
    obtain ⟨counts, ⟨-, rfl⟩, rfl⟩ := h
    exact ⟨view_emit _ rfl rfl, rfl⟩
  · obtain rfl := pure_ok.1 h
    exact ⟨rfl, rfl⟩

/-- **The only way a soul changes hands.** The bound wallet follows the owner; a caller-authorised
    update needs an existing token inside its claim window, unless it burns. -/
theorem _update_ok (laws : cfg.erc721.Lawful) (h : _update cfg s dest id auth = .ok (s', prev)) :
    view cfg s' = (view cfg s).move id dest ∧ s'.timestamp = s.timestamp ∧
      (auth ≠ 0 → dest ≠ 0 → _ownerOf cfg s id ≠ 0 ∧ InWindow cfg s id) := by
  simp only [_update, bind_ok, require_ok, pure_ok, Prod.exists, Prod.mk.injEq] at h
  obtain ⟨-, -, _, hsoulbound, base, prev', hbase, t, ht, rfl, rfl⟩ := h
  obtain ⟨-, howner⟩ := laws.update_owner _ _ _ _ _ _ hbase
  obtain ⟨hview, htime⟩ := trackTransfer_ok cfg ht
  refine ⟨?_, htime, ?_⟩
  · have hwallet : (if dest = 0 then 0 else dest) = dest := by
      split_ifs with hd
      · exact hd.symm
      · rfl
    have ht_owner : _ownerOf cfg t = Function.update (_ownerOf cfg s) id dest :=
      (congrArg View.owner hview).trans howner
    have ht_wallet : t._agentWallet = s._agentWallet := congrArg View.wallet hview
    have ht_minted : t._mintedAt = s._mintedAt := congrArg View.mintedAt hview
    have ht_ever : t._everMinted = s._everMinted := congrArg View.everMinted hview
    have ht_nonce : t.agentNonces = s.agentNonces := congrArg View.nonce hview
    have ht_mints : mintLog t.logs = mintLog s.logs := congrArg View.mintLog hview
    have ht_rotations : rotationLog t.logs = rotationLog s.logs := congrArg View.rotationLog hview
    show View.mk (_ownerOf cfg t) _ _ _ _ _ _ = View.mk _ _ _ _ _ _ _
    rw [ht_owner, hwallet, ht_wallet, ht_minted, ht_ever, ht_nonce, ht_mints, ht_rotations]
    rfl
  · intro ha hd
    have hexists := laws.update_auth _ _ _ _ _ _ hbase ha
    exact ⟨hexists, checkSoulbound_ok hsoulbound hexists hd ha⟩

/-- `_update` writes ownership, the transfer counters and the log. -/
theorem _update_writes (h : _update cfg s dest id auth = .ok (s', prev)) :
    ∃ base _agentWallet transferCount lastTransferredAt logs,
      s' = { s with base, _agentWallet, transferCount, lastTransferredAt, logs } := by
  simp only [_update, trackTransfer, bind_ok, require_ok, pure_ok, Prod.exists, Prod.mk.injEq] at h
  obtain ⟨-, -, -, -, base, prev', -, t, ht, rfl, rfl⟩ := h
  split_ifs at ht
  · simp only [bind_ok, pure_ok] at ht
    obtain ⟨counts, -, rfl⟩ := ht
    exact ⟨_, _, _, _, _, rfl⟩
  · obtain rfl := pure_ok.1 ht
    exact ⟨_, _, _, _, _, rfl⟩

end Update

/-! ## The effect of every call -/

/-- Both wallets have signed the rotation with the nonce that is due, and it has not expired. -/
structure RotationSigned (cfg : Config σ) (s : State σ) (id : Nat) (newWallet : Address)
    (deadline : Nat) (currentSig newSig : Bytes) : Prop where
  inTime : s.timestamp ≤ deadline
  current : s.isValidSignatureNow (s._agentWallet id)
    (cfg._hashTypedDataV4 (.walletRotationProposal id (s._agentWallet id) newWallet
      (s.agentNonces id) deadline)) currentSig = true
  new : s.isValidSignatureNow newWallet
    (cfg._hashTypedDataV4 (.walletRotationProposal id (s._agentWallet id) newWallet
      (s.agentNonces id) deadline)) newSig = true

/-- A soul that never existed is minted. -/
structure Mints (cfg : Config σ) (s : State σ) (id : Nat) (dest : Address) (s' : State σ) :
    Prop where
  free : (view cfg s).owner id = 0
  fresh : (view cfg s).everMinted id = false
  view_eq : view cfg s' = (view cfg s).mint id dest s.timestamp

theorem Mints.of_view {s t s' : State σ} {id : Nat} {dest : Address} (h : Mints cfg t id dest s')
    (hv : view cfg t = view cfg s) (ht : t.timestamp = s.timestamp) : Mints cfg s id dest s' := by
  obtain ⟨hfree, hfresh, hview⟩ := h
  rw [hv] at hfree hfresh hview
  rw [ht] at hview
  exact ⟨hfree, hfresh, hview⟩

/-- What a successful call does to the souls. -/
inductive SoulStep (cfg : Config σ) (s : State σ) (msg : Msg) : Call → State σ → Prop
  | same {c : Call} {s' : State σ} (h : view cfg s' = view cfg s) : SoulStep cfg s msg c s'
  | mint {c : Call} {s' : State σ} {id : Nat} {dest : Address} (h : Mints cfg s id dest s') :
      SoulStep cfg s msg c s'
  | transfer {c : Call} {s' : State σ} {id : Nat} {dest : Address}
      (held : _ownerOf cfg s id ≠ 0) (window : InWindow cfg s id)
      (h : view cfg s' = (view cfg s).move id dest) : SoulStep cfg s msg c s'
  | burn {s' : State σ} {id : Nat} (owner : msg.sender = s.owner)
      (h : view cfg s' = (view cfg s).move id 0) : SoulStep cfg s msg (.burnSoul id) s'
  | rotate {s' : State σ} {id : Nat} {newWallet : Address} {deadline : Nat}
      {currentSig newSig : Bytes} (owner : msg.sender = s.owner)
      (signed : RotationSigned cfg s id newWallet deadline currentSig newSig)
      (h : view cfg s' = (view cfg s).rotate id newWallet) :
      SoulStep cfg s msg
        (.rotateWallet id newWallet (s.agentNonces id) deadline currentSig newSig) s'

section Functions

variable {s s' : State σ} {msg : Msg} {dest : Address} {id : Nat}

theorem _mint_ok (laws : cfg.erc721.Lawful) (h : _mint cfg s dest id = .ok s') :
    view cfg s' = (view cfg s).move id dest ∧ s'.timestamp = s.timestamp := by
  simp only [_mint, bind_ok, pure_ok, Prod.exists] at h
  obtain ⟨-, -, t, prev, ht, -, -, rfl⟩ := h
  obtain ⟨hview, htime, -⟩ := _update_ok laws ht
  exact ⟨hview, htime⟩

theorem declarePrincipal_view (cfg : Config σ) (s : State σ) (id : Nat) (principal : Address) :
    view cfg (declarePrincipal s id principal) = view cfg s ∧
      (declarePrincipal s id principal).timestamp = s.timestamp := by
  unfold declarePrincipal
  split_ifs
  · exact ⟨view_emit _ rfl rfl, rfl⟩
  · exact ⟨rfl, rfl⟩

theorem _mintSoulInternal_ok (laws : cfg.erc721.Lawful) {metaURI : Bytes} {avatarStyle : Fin 256}
    {principal : Address}
    (h : _mintSoulInternal cfg s dest id metaURI avatarStyle principal = .ok s') :
    Mints cfg s id dest s' := by
  simp only [_mintSoulInternal, bind_ok, require_ok, pure_ok] at h
  obtain ⟨-, -, -, -, -, hfree, t, ht, rfl⟩ := h
  rw [not_or, not_not, Bool.not_eq_true] at hfree
  obtain ⟨hview, htime⟩ := _mint_ok laws ht
  obtain ⟨hview', htime'⟩ := declarePrincipal_view cfg { s with
    _everMinted := Function.update s._everMinted id true
    _mintedAt := Function.update s._mintedAt id s.timestamp
    _metaURI := Function.update s._metaURI id metaURI
    _avatarStyle := Function.update s._avatarStyle id avatarStyle } id principal
  have hnow : t.timestamp = s.timestamp := htime.trans htime'
  refine ⟨hfree.1, hfree.2, ?_⟩
  rw [view_emit_minted, hview, hview', hnow]
  rfl

/-- A mint writes what an update writes, and the data of its soul. -/
theorem _mintSoulInternal_writes {metaURI : Bytes} {avatarStyle : Fin 256} {principal : Address}
    (h : _mintSoulInternal cfg s dest id metaURI avatarStyle principal = .ok s') :
    ∃ base _agentWallet transferCount lastTransferredAt logs _everMinted _mintedAt _metaURI _avatarStyle
        _principals,
      s' = { s with
        base, _agentWallet, transferCount, lastTransferredAt, logs, _everMinted, _mintedAt, _metaURI,
        _avatarStyle, _principals } := by
  simp only [_mintSoulInternal, _mint, declarePrincipal, bind_ok, pure_ok, Prod.exists] at h
  obtain ⟨-, -, -, -, -, -, t, ⟨-, -, t', prev, ht, -, -, rfl⟩, rfl⟩ := h
  obtain ⟨_, _, _, _, _, rfl⟩ := _update_writes ht
  split_ifs
  · exact ⟨_, _, _, _, _, _, _, _, _, _, rfl⟩
  · exact ⟨_, _, _, _, _, _, _, _, _, _, rfl⟩

theorem transferFrom_writes {source : Address} (h : transferFrom cfg s msg source dest id = .ok s') :
    ∃ base _agentWallet transferCount lastTransferredAt logs,
      s' = { s with base, _agentWallet, transferCount, lastTransferredAt, logs } := by
  simp only [transferFrom, bind_ok, pure_ok, Prod.exists] at h
  obtain ⟨-, -, t, prev, ht, -, -, rfl⟩ := h
  exact _update_writes ht

theorem mintSoul_step (laws : cfg.erc721.Lawful) {metaURI permit : Bytes}
    {avatarStyle : Fin 256} {deadline : Nat}
    (h : mintSoul cfg s msg dest id metaURI avatarStyle deadline permit = .ok s') :
    Mints cfg s id dest s' := by
  simp only [mintSoul, bind_ok, require_ok] at h
  obtain ⟨-, -, -, -, -, -, -, -, -, -, -, -, fees, -, h⟩ := h
  exact (_mintSoulInternal_ok laws h).of_view (view_congr rfl rfl rfl rfl rfl rfl) rfl

theorem selfMintSoul_step (laws : cfg.erc721.Lawful) {metaURI sig : Bytes}
    {avatarStyle : Fin 256} {principal : Address} {deadline : Nat}
    (h : selfMintSoul cfg s msg dest id metaURI avatarStyle principal deadline sig = .ok s') :
    Mints cfg s id dest s' := by
  simp only [selfMintSoul, bind_ok, require_ok] at h
  obtain ⟨-, -, -, -, -, -, -, -, -, -, h⟩ := h
  split at h
  · cases h
  · simp only [bind_ok, require_ok] at h
    obtain ⟨-, -, fees, -, h⟩ := h
    exact (_mintSoulInternal_ok laws h).of_view (view_congr rfl rfl rfl rfl rfl rfl) rfl

theorem burnSoul_step (laws : cfg.erc721.Lawful) (h : burnSoul cfg s msg id = .ok s') :
    msg.sender = s.owner ∧ view cfg s' = (view cfg s).move id 0 := by
  simp only [burnSoul, onlyOwner, bind_ok, require_ok, pure_ok, Prod.exists] at h
  obtain ⟨-, howner, -, -, -, -, t, prev, ht, rfl⟩ := h
  obtain ⟨hview, -, -⟩ := _update_ok laws ht
  exact ⟨howner, (view_emit t rfl rfl).trans hview⟩

theorem rotateWallet_step (laws : cfg.erc721.Lawful) {newWallet : Address} {nonce deadline : Nat}
    {currentSig newSig : Bytes}
    (h : rotateWallet cfg s msg id newWallet nonce deadline currentSig newSig = .ok s') :
    msg.sender = s.owner ∧ nonce = s.agentNonces id ∧
      RotationSigned cfg s id newWallet deadline currentSig newSig ∧
      view cfg s' = (view cfg s).rotate id newWallet := by
  simp only [rotateWallet, onlyOwner, bind_ok, require_ok, checkedAdd_ok, pure_ok,
    Prod.exists] at h
  obtain ⟨-, howner, -, -, -, -, -, -, -, -, -, htime, -, rfl, -, hcurrent, -, hnew, next,
    ⟨-, rfl⟩, t, prev, ht, rfl⟩ := h
  obtain ⟨hview, -, -⟩ := _update_ok laws ht
  refine ⟨howner, rfl, ⟨htime, hcurrent, hnew⟩, ?_⟩
  rw [view_emit_rotated, hview]
  rfl

/-- A transfer by a caller finds the soul held and inside its window. -/
theorem transferFrom_step (laws : cfg.erc721.Lawful) {source : Address}
    (h : transferFrom cfg s msg source dest id = .ok s') :
    _ownerOf cfg s id ≠ 0 ∧ InWindow cfg s id ∧ view cfg s' = (view cfg s).move id dest := by
  simp only [transferFrom, bind_ok, require_ok, pure_ok, Prod.exists] at h
  obtain ⟨-, hdest, t, prev, ht, -, -, rfl⟩ := h
  obtain ⟨hview, -, hauth⟩ := _update_ok laws ht
  obtain ⟨hheld, hwindow⟩ := hauth msg.sender_ne hdest
  exact ⟨hheld, hwindow, hview⟩

theorem safeTransferFrom_step (laws : cfg.erc721.Lawful) {source : Address}
    {o : Outcome (State σ) Pending} (h : safeTransferFrom cfg s msg source dest id = .ok o) :
    _ownerOf cfg s id ≠ 0 ∧ InWindow cfg s id ∧
      view cfg o.state = (view cfg s).move id dest := by
  simp only [safeTransferFrom, bind_ok, pure_ok] at h
  obtain ⟨t, ht, rfl⟩ := h
  have hstate : (if 0 < t.codeLength dest then Outcome.callOut t (Pending.onERC721Received id)
      else .done t).state = t := by
    split_ifs <;> rfl
  rw [hstate]
  exact transferFrom_step laws ht

theorem approve_step (laws : cfg.erc721.Lawful) (h : approve cfg s msg dest id = .ok s') :
    view cfg s' = view cfg s := by
  simp only [approve, bind_ok, pure_ok] at h
  obtain ⟨base, hbase, rfl⟩ := h
  exact view_base s (laws.approve_owner _ _ _ _ _ hbase)

theorem setApprovalForAll_step (laws : cfg.erc721.Lawful) {operator : Address} {approved : Bool}
    (h : setApprovalForAll cfg s msg operator approved = .ok s') : view cfg s' = view cfg s := by
  simp only [setApprovalForAll, bind_ok, pure_ok] at h
  obtain ⟨base, hbase, rfl⟩ := h
  exact view_base s (laws.setApprovalForAll_owner _ _ _ _ _ hbase)

theorem finish_ok {x : Exec (State σ)} {o : Outcome (State σ) Pending} (h : finish x = .ok o) :
    x = .ok o.state := by
  simp only [finish, bind_ok, pure_ok] at h
  obtain ⟨s', hs, rfl⟩ := h
  exact hs

theorem nonPayable_ok {α : Type} {x : Exec α} {a : α} (h : nonPayable msg x = .ok a) :
    x = .ok a := by
  simp only [nonPayable, bind_ok] at h
  obtain ⟨-, -, h⟩ := h
  exact h

/-- **The effect of every call.** -/
theorem call_step (laws : cfg.erc721.Lawful) {c : Call} {o : Outcome (State σ) Pending}
    (h : call cfg s (msg, c) = .ok o) : SoulStep cfg s msg c o.state := by
  cases c with
  | mintSoul dest id metaURI avatarStyle deadline permit =>
      have hs := mintSoul_step laws (finish_ok h)
      exact .mint (hs.of_view (view_congr rfl rfl rfl rfl rfl rfl) rfl)
  | mintSoulOwner dest id metaURI avatarStyle =>
      have hs := finish_ok (nonPayable_ok h)
      simp only [mintSoulOwner, bind_ok] at hs
      obtain ⟨-, -, -, -, hs⟩ := hs
      exact .mint (_mintSoulInternal_ok laws hs)
  | selfMintSoul dest id metaURI avatarStyle principal deadline sig =>
      have hs := selfMintSoul_step laws (finish_ok h)
      exact .mint (hs.of_view (view_congr rfl rfl rfl rfl rfl rfl) rfl)
  | burnSoul id =>
      obtain ⟨howner, hview⟩ := burnSoul_step laws (finish_ok (nonPayable_ok h))
      exact .burn howner hview
  | rotateWallet id newWallet nonce deadline currentSig newSig =>
      obtain ⟨howner, rfl, hsigned, hview⟩ := rotateWallet_step laws (finish_ok (nonPayable_ok h))
      exact .rotate howner hsigned hview
  | transferFrom source dest id =>
      obtain ⟨hheld, hwindow, hview⟩ := transferFrom_step laws (finish_ok (nonPayable_ok h))
      exact .transfer hheld hwindow hview
  | safeTransferFrom source dest id =>
      obtain ⟨hheld, hwindow, hview⟩ := safeTransferFrom_step laws (nonPayable_ok h)
      exact .transfer hheld hwindow hview
  | approve dest id => exact .same (approve_step laws (finish_ok (nonPayable_ok h)))
  | setApprovalForAll operator approved =>
      exact .same (setApprovalForAll_step laws (finish_ok (nonPayable_ok h)))
  | setMetaURI id metaURI =>
      have hs := finish_ok (nonPayable_ok h)
      simp only [setMetaURI, bind_ok, pure_ok] at hs
      obtain ⟨-, -, -, -, -, -, -, -, hs⟩ := hs
      exact .same (hs ▸ view_emit _ rfl rfl)
  | setAvatarStyle id style =>
      have hs := finish_ok (nonPayable_ok h)
      simp only [setAvatarStyle, bind_ok, pure_ok] at hs
      obtain ⟨-, -, -, -, -, -, hs⟩ := hs
      exact .same (hs ▸ view_emit _ rfl rfl)
  | addAttestor attestor =>
      have hs := finish_ok (nonPayable_ok h)
      simp only [addAttestor, bind_ok, pure_ok] at hs
      obtain ⟨-, -, -, -, -, -, hs⟩ := hs
      exact .same (hs ▸ view_emit _ rfl rfl)
  | removeAttestor attestor =>
      have hs := finish_ok (nonPayable_ok h)
      simp only [removeAttestor, bind_ok, pure_ok] at hs
      obtain ⟨-, -, -, -, -, -, hs⟩ := hs
      exact .same (hs ▸ view_emit _ rfl rfl)
  | setRenderer styleId renderer =>
      have hs := finish_ok (nonPayable_ok h)
      simp only [setRenderer, bind_ok, pure_ok] at hs
      obtain ⟨-, -, hs⟩ := hs
      exact .same (hs ▸ view_emit _ rfl rfl)
  | setMintSigner signer =>
      have hs := finish_ok (nonPayable_ok h)
      simp only [setMintSigner, bind_ok, pure_ok] at hs
      obtain ⟨-, -, -, -, hs⟩ := hs
      exact .same (hs ▸ view_emit _ rfl rfl)
  | setMintFee fee =>
      have hs := finish_ok (nonPayable_ok h)
      simp only [setMintFee, bind_ok, pure_ok] at hs
      obtain ⟨-, -, hs⟩ := hs
      exact .same (hs ▸ view_emit _ rfl rfl)
  | withdrawFees recipient =>
      have hs := nonPayable_ok h
      simp only [withdrawFees, bind_ok, pure_ok] at hs
      obtain ⟨-, -, -, -, -, -, fees, -, -, -, rfl⟩ := hs
      exact .same rfl
  | pause =>
      have hs := finish_ok (nonPayable_ok h)
      simp only [pause, bind_ok, pure_ok] at hs
      obtain ⟨-, -, -, -, hs⟩ := hs
      exact .same (hs ▸ rfl)
  | unpause =>
      have hs := finish_ok (nonPayable_ok h)
      simp only [unpause, bind_ok, pure_ok] at hs
      obtain ⟨-, -, -, -, hs⟩ := hs
      exact .same (hs ▸ rfl)
  | transferOwnership newOwner =>
      have hs := finish_ok (nonPayable_ok h)
      simp only [transferOwnership, bind_ok, pure_ok] at hs
      obtain ⟨-, -, hs⟩ := hs
      exact .same (hs ▸ rfl)
  | acceptOwnership =>
      have hs := finish_ok (nonPayable_ok h)
      simp only [acceptOwnership, bind_ok, pure_ok] at hs
      obtain ⟨-, -, hs⟩ := hs
      exact .same (hs ▸ rfl)
  | renounceOwnership =>
      have hs := finish_ok (nonPayable_ok h)
      simp only [renounceOwnership, bind_ok, pure_ok] at hs
      obtain ⟨-, -, hs⟩ := hs
      exact .same (hs ▸ rfl)

end Functions

end LesserHost.SoulRegistry
