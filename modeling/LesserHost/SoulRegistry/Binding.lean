import LesserHost.SoulRegistry.Steps

set_option autoImplicit false

/-! # Wallet binding and soulbound safety

`Souls` is what the registry is for: every soul has one holder, the bound wallet is that holder, an
id is minted once, and a rotation nonce is spent once. The four facts are fields, so every operation
on `Souls` is the proof that it keeps them, and every call of the contract refines one operation. -/

namespace LesserHost.SoulRegistry

open LesserHost.Solidity CallStack

/-! ## Souls -/

structure Souls extends View where
  bound : wallet = owner
  minted : ∀ id t, (id, t) ∈ mintLog → everMinted id = true ∧ mintedAt id = t
  once : (mintLog.map Prod.fst).Nodup
  used : ∀ id n, (id, n) ∈ rotationLog → n < nonce id
  oneShot : rotationLog.Nodup

namespace Souls

def empty : Souls where
  owner _ := 0
  wallet _ := 0
  mintedAt _ := 0
  everMinted _ := false
  nonce _ := 0
  mintLog := []
  rotationLog := []
  bound := rfl
  minted _ _ h := by cases h
  once := List.nodup_nil
  used _ _ h := by cases h
  oneShot := List.nodup_nil

/-- A transfer or a burn. -/
def move (a : Souls) (id : Nat) (dest : Address) : Souls where
  toView := a.toView.move id dest
  bound := by simp only [View.move, a.bound]
  minted := a.minted
  once := a.once
  used := a.used
  oneShot := a.oneShot

def mint (a : Souls) (id : Nat) (dest : Address) (now : Nat) (fresh : a.everMinted id = false) :
    Souls where
  toView := a.toView.mint id dest now
  bound := by simp only [View.mint, View.move, a.bound]
  minted j t h := by
    simp only [View.mint] at h ⊢
    rcases List.mem_append.1 h with h | h
    · obtain ⟨hever, htime⟩ := a.minted j t h
      have hne : j ≠ id := by
        rintro rfl
        rw [fresh] at hever
        cases hever
      rw [Function.update_of_ne hne, Function.update_of_ne hne]
      exact ⟨hever, htime⟩
    · obtain ⟨rfl, rfl⟩ : j = id ∧ t = now := by simpa using h
      rw [Function.update_self, Function.update_self]
      exact ⟨rfl, rfl⟩
  once := by
    have hnew : id ∉ a.mintLog.map Prod.fst := by
      intro h
      obtain ⟨⟨j, t⟩, hmem, rfl⟩ := List.mem_map.1 h
      have hever := (a.minted j t hmem).1
      rw [fresh] at hever
      cases hever
    simp only [View.mint, View.move, List.map_append, List.map_cons, List.map_nil]
    exact List.nodup_append.2 ⟨a.once, List.nodup_singleton id, by
      intro j hj k hk hjk
      rw [List.mem_singleton.1 hk] at hjk
      exact hnew (hjk ▸ hj)⟩
  used := a.used
  oneShot := a.oneShot

def rotate (a : Souls) (id : Nat) (dest : Address) : Souls where
  toView := a.toView.rotate id dest
  bound := by simp only [View.rotate, View.move, a.bound]
  minted := a.minted
  once := a.once
  used j n h := by
    simp only [View.rotate] at h ⊢
    by_cases hj : j = id
    · subst hj
      rw [Function.update_self]
      rcases List.mem_append.1 h with h | h
      · have := a.used j n h
        omega
      · obtain rfl : n = a.nonce j := by simpa using h
        exact Nat.lt_succ_self _
    · rw [Function.update_of_ne hj]
      rcases List.mem_append.1 h with h | h
      · exact a.used j n h
      · obtain ⟨hid, -⟩ : j = id ∧ n = a.nonce id := by simpa using h
        exact absurd hid hj
  oneShot := by
    simp only [View.rotate, View.move]
    refine List.nodup_append.2 ⟨a.oneShot, List.nodup_singleton _, ?_⟩
    -- the nonce that is due has not been spent, because spent nonces are smaller
    intro p hp q hq hpq
    rw [List.mem_singleton.1 hq] at hpq
    rw [hpq] at hp
    exact absurd (a.used _ _ hp) (lt_irrefl _)

end Souls

/-! ## The contract refines it -/

variable {σ : Type} {cfg : Config σ} {s s' : State σ} {msg : Msg} {c : Call}

def SoulsOk (cfg : Config σ) (s : State σ) : Prop := ∃ a : Souls, a.toView = view cfg s

theorem SoulsOk.of_view (h : SoulsOk cfg s) (hv : view cfg s' = view cfg s) : SoulsOk cfg s' := by
  obtain ⟨a, ha⟩ := h
  exact ⟨a, ha.trans hv.symm⟩

theorem call_souls (h : SoulsOk cfg s) (hc : SoulStep cfg s msg c s') : SoulsOk cfg s' := by
  obtain ⟨a, ha⟩ := h
  cases hc with
  | same hv => exact ⟨a, ha.trans hv.symm⟩
  | @mint _ _ id dest hm =>
      have hfresh : a.everMinted id = false := by
        rw [ha]
        exact hm.fresh
      refine ⟨a.mint id dest s.timestamp hfresh, ?_⟩
      show a.toView.mint id dest s.timestamp = _
      rw [ha, hm.view_eq]
  | @transfer _ _ id dest _ _ hv =>
      refine ⟨a.move id dest, ?_⟩
      show a.toView.move id dest = _
      rw [ha, hv]
  | @burn _ id _ hv =>
      refine ⟨a.move id 0, ?_⟩
      show a.toView.move id 0 = _
      rw [ha, hv]
  | @rotate _ id newWallet _ _ _ _ _ hv =>
      refine ⟨a.rotate id newWallet, ?_⟩
      show a.toView.rotate id newWallet = _
      rw [ha, hv]

/-- No nonce is smaller in `s'`. -/
def NoncesLe (n n' : Nat → Nat) : Prop := ∀ id, n id ≤ n' id

theorem call_nonces (hc : SoulStep cfg s msg c s') : NoncesLe s.agentNonces s'.agentNonces := by
  intro id
  show (view cfg s).nonce id ≤ (view cfg s').nonce id
  cases hc with
  | same hv => rw [hv]
  | mint hm => rw [hm.view_eq]; exact le_rfl
  | transfer _ _ hv => rw [hv]; exact le_rfl
  | burn _ hv => rw [hv]; exact le_rfl
  | @rotate _ j _ _ _ _ _ _ hv =>
      rw [hv]
      show _ ≤ Function.update (view cfg s).nonce j _ id
      by_cases hid : id = j
      · subst hid
        rw [Function.update_self]
        exact Nat.le_succ _
      · rw [Function.update_of_ne hid]

theorem env_view (cfg : Config σ) (s : State σ) (m : Move) : view cfg (env s m) = view cfg s := by
  cases m <;> exact view_congr rfl rfl rfl rfl rfl rfl

theorem resume_eq {p : Pending} {o : Outcome (State σ) Pending} (h : resume s p = .ok o) :
    o.state = s := by
  cases h
  rfl

/-- The souls are in order at every call-out and at the end of every call, and no nonce falls below
    where the run started. -/
def soulsProtocol (laws : cfg.erc721.Lawful) (start : Nat → Nat) :
    Protocol (contract cfg) (fun _ => True) :=
  Protocol.ofInv (contract cfg) _ (fun s => SoulsOk cfg s ∧ NoncesLe start s.agentNonces)
    (fun _ c _ _ h hc => by
      have hstep := call_step laws (c := c.2) hc
      exact ⟨call_souls h.1 hstep, fun id => (h.2 id).trans (call_nonces hstep id)⟩)
    (fun _ p _ h hr => by
      rw [resume_eq (p := p) hr]
      exact h)
    (fun s m _ h => by
      refine ⟨h.1.of_view (env_view cfg s m), ?_⟩
      cases m <;> exact h.2)

theorem deploy_souls (laws : cfg.erc721.Lawful) {chain : Chain} {initialOwner : Address}
    (h : deploy cfg chain initialOwner = .ok s) : SoulsOk cfg s := by
  simp only [deploy, bind_ok, pure_ok] at h
  obtain ⟨-, -, rfl⟩ := h
  refine ⟨Souls.empty, ?_⟩
  have howner : cfg.erc721.ownerOf cfg.erc721.init = fun _ => 0 := funext laws.init_owner
  show Souls.empty.toView = View.mk (cfg.erc721.ownerOf cfg.erc721.init) _ _ _ _ _ _
  rw [howner]
  rfl

theorem run_souls (laws : cfg.erc721.Lawful) {chain : Chain} {initialOwner : Address}
    (h : deploy cfg chain initialOwner = .ok s) (acts : List (Action (Msg × Call) Move)) :
    SoulsOk cfg (run (contract cfg) ⟨s, []⟩ acts).state :=
  ((soulsProtocol laws s.agentNonces).run_inv s acts (fun _ _ => trivial)
    ⟨deploy_souls laws h, fun _ => le_rfl⟩).1

/-! ## Wallet binding -/

/-- One action lowers no nonce, unless it undoes a failed call. -/
theorem step_nonces (laws : cfg.erc721.Lawful) (m : Machine (State σ) Pending)
    (a : Action (Msg × Call) Move) (hroll : ¬ RolledBack m (step (contract cfg) m a)) :
    NoncesLe m.state.agentNonces (step (contract cfg) m a).state.agentNonces := by
  rcases step_state (contract cfg) m a with h | ⟨c, o, -, hc, h⟩ | ⟨e, -, h⟩ |
    ⟨f, rest, p, o, -, -, hr, h⟩ | h
  · rw [h]; exact fun _ => le_rfl
  · rw [h]
    exact call_nonces (call_step laws (c := c.2) hc)
  · rw [h]
    intro id
    exact (congrFun (congrArg View.nonce (env_view cfg m.state e)) id).ge
  · rw [h, resume_eq (p := p) hr]
    exact fun _ => le_rfl
  · exact absurd h hroll

/-- **Wallet binding and one-shot identity.** After any run from deployment, with calls made from
    inside a receiver's callback or a fee payment, the bound wallet of every id is its owner, no id
    has been minted twice, and rotation nonces only grow: by every action that does not undo a
    failed call, and over every further run that starts outside of all calls. -/
theorem wallet_bound (cfg : Config σ) (laws : cfg.erc721.Lawful) (chain : Chain)
    (initialOwner : Address) (s₀ : State σ) (h : deploy cfg chain initialOwner = .ok s₀)
    (acts : List (Action (Msg × Call) Move)) :
    let m := run (contract cfg) ⟨s₀, []⟩ acts
    (∀ agentId, getAgentWallet m.state agentId = _ownerOf cfg m.state agentId) ∧
    ((mintLog m.state.logs).map Prod.fst).Nodup ∧
    (∀ a, ¬ RolledBack m (step (contract cfg) m a) → ∀ agentId,
      m.state.agentNonces agentId ≤ (step (contract cfg) m a).state.agentNonces agentId) ∧
    (m.stack = [] → ∀ more agentId,
      m.state.agentNonces agentId ≤ (run (contract cfg) m more).state.agentNonces agentId) := by
  intro m
  have hsouls : SoulsOk cfg m.state := run_souls laws h acts
  obtain ⟨a, ha⟩ := hsouls
  refine ⟨?_, ?_, fun a hroll => step_nonces laws m a hroll, ?_⟩
  · intro agentId
    have hbound : (view cfg m.state).wallet = (view cfg m.state).owner := ha ▸ a.bound
    exact congrFun hbound agentId
  · have honce : ((view cfg m.state).mintLog.map Prod.fst).Nodup := ha ▸ a.once
    exact honce
  · intro hstack more agentId
    have hm : m = ⟨m.state, []⟩ := by rw [← hstack]
    rw [hm]
    exact ((soulsProtocol laws m.state.agentNonces).run_inv m.state more (fun _ _ => trivial)
      ⟨⟨a, ha⟩, fun _ => le_rfl⟩).2 agentId

/-- A registry with a window of an hour over the basic ERC-721 contract. -/
def basicConfig : Config BasicStore where
  self := 9
  claimWindowSeconds := 3600
  erc721 := ERC721.basic
  _hashTypedDataV4 data := if data = .walletRotationProposal 7 5 6 0 9000 then 1 else 0
  recover _ _ := none

/-- A soul is minted, transferred in its window, and burned. -/
theorem wallet_bound_transferred : ∃ s₀, deploy basicConfig ⟨0, 1000, fun _ => 0, fun _ _ _ => false⟩ 2 =
      .ok s₀ ∧
    let m := run (contract basicConfig) ⟨s₀, []⟩
      [.call (⟨2, 0, by decide⟩, .mintSoulOwner 5 7 [1] 0),
        .call (⟨5, 0, by decide⟩, .transferFrom 5 6 7), .call (⟨2, 0, by decide⟩, .burnSoul 7)]
    getAgentWallet m.state 7 = _ownerOf basicConfig m.state 7 ∧
      ((mintLog m.state.logs).map Prod.fst).Nodup := by
  refine ⟨_, rfl, ?_⟩
  have h := wallet_bound basicConfig ERC721.basic_lawful ⟨0, 1000, fun _ => 0, fun _ _ _ => false⟩ 2
    _ rfl [.call (⟨2, 0, by decide⟩, .mintSoulOwner 5 7 [1] 0),
      .call (⟨5, 0, by decide⟩, .transferFrom 5 6 7), .call (⟨2, 0, by decide⟩, .burnSoul 7)]
  exact ⟨h.1 7, h.2.1⟩

/-! ## Soulbound safety -/

/-- A call that moves a soul whose window is over is a burn or a signed rotation by the owner. -/
theorem call_soulbound {a : Souls} (ha : a.toView = view cfg s) {id t : Nat}
    (hminted : (id, t) ∈ mintLog s.logs) (hlate : t + cfg.claimWindowSeconds ≤ s.timestamp)
    (hmoved : _ownerOf cfg s' id ≠ _ownerOf cfg s id) (hc : SoulStep cfg s msg c s') :
    msg.sender = s.owner ∧ (c = .burnSoul id ∨ ∃ newWallet deadline currentSig newSig,
      c = .rotateWallet id newWallet (s.agentNonces id) deadline currentSig newSig ∧
      RotationSigned cfg s id newWallet deadline currentSig newSig) := by
  have hlogged : (id, t) ∈ a.mintLog := by rw [ha]; exact hminted
  obtain ⟨hever, htime⟩ := a.minted id t hlogged
  -- the owner of an id that is not the one that moves stays
  have hother : ∀ j dest, (view cfg s').owner = Function.update (view cfg s).owner j dest →
      j = id := by
    intro j dest hj
    by_contra hne
    exact hmoved ((congrFun hj id).trans (Function.update_of_ne (Ne.symm hne) _ _))
  cases hc with
  | same hv => exact absurd (congrFun (congrArg View.owner hv) id) hmoved
  | @mint _ _ j dest hm =>
      obtain rfl := hother j dest (congrArg View.owner hm.view_eq)
      have hfresh := hm.fresh
      rw [← ha, hever] at hfresh
      cases hfresh
  | @transfer _ _ j dest _ window hv =>
      obtain rfl := hother j dest (congrArg View.owner hv)
      have hearly := window.early
      rw [ha] at htime
      have : s._mintedAt j = t := htime
      omega
  | @burn _ j owner hv =>
      obtain rfl := hother j 0 (congrArg View.owner hv)
      exact ⟨owner, Or.inl rfl⟩
  | @rotate _ j newWallet deadline currentSig newSig owner signed hv =>
      obtain rfl := hother j newWallet (congrArg View.owner hv)
      exact ⟨owner, Or.inr ⟨newWallet, deadline, currentSig, newSig, rfl, signed⟩⟩

theorem mem_mintLog {logs : List (Nat × Event)} {t id : Nat} {dest : Address} {uri : Bytes}
    (h : (t, .soulMinted id dest uri) ∈ logs) : (id, t) ∈ mintLog logs :=
  List.mem_filterMap.2 ⟨_, h, rfl⟩

/-- **Soulbound safety.** After any run from deployment, once the claim window of a soul is over, an
    action that gives it another owner (and does not undo a failed call) is `burnSoul` by the
    contract owner, or `rotateWallet` by the contract owner with signatures of both wallets that are
    valid now, over the nonce that is due, before the deadline. No nonce is spent twice. -/
theorem soulbound_safe (cfg : Config σ) (laws : cfg.erc721.Lawful) (chain : Chain)
    (initialOwner : Address) (s₀ : State σ) (h : deploy cfg chain initialOwner = .ok s₀)
    (acts : List (Action (Msg × Call) Move)) :
    let m := run (contract cfg) ⟨s₀, []⟩ acts
    (∀ agentId t dest uri a, (t, .soulMinted agentId dest uri) ∈ m.state.logs →
      t + cfg.claimWindowSeconds ≤ m.state.timestamp →
      ¬ RolledBack m (step (contract cfg) m a) →
      _ownerOf cfg (step (contract cfg) m a).state agentId ≠ _ownerOf cfg m.state agentId →
      ∃ msg : Msg, msg.sender = m.state.owner ∧
        (a = .call (msg, .burnSoul agentId) ∨
        ∃ newWallet deadline currentSig newSig,
          a = .call (msg, .rotateWallet agentId newWallet (m.state.agentNonces agentId) deadline
            currentSig newSig) ∧
          RotationSigned cfg m.state agentId newWallet deadline currentSig newSig)) ∧
    (rotationLog m.state.logs).Nodup := by
  intro m
  have hsouls : SoulsOk cfg m.state := run_souls laws h acts
  obtain ⟨a, ha⟩ := hsouls
  refine ⟨?_, ?_⟩
  · intro agentId t dest uri act hminted hlate hroll hmoved
    rcases step_state (contract cfg) m act with hs | ⟨c, o, rfl, hc, hs⟩ | ⟨e, -, hs⟩ |
      ⟨f, rest, p, o, -, -, hr, hs⟩ | hs
    · rw [hs] at hmoved
      exact absurd rfl hmoved
    · rw [hs] at hmoved
      obtain ⟨howner, hcall⟩ := call_soulbound ha (mem_mintLog hminted) hlate hmoved
        (call_step laws (c := c.2) hc)
      refine ⟨c.1, howner, ?_⟩
      rcases hcall with hburn | ⟨newWallet, deadline, currentSig, newSig, hrotate, hsigned⟩
      · exact Or.inl (by rw [← hburn])
      · exact Or.inr ⟨newWallet, deadline, currentSig, newSig, by rw [← hrotate], hsigned⟩
    · rw [hs] at hmoved
      exact absurd (congrFun (congrArg View.owner (env_view cfg m.state e)) agentId) hmoved
    · rw [hs, resume_eq (p := p) hr] at hmoved
      exact absurd rfl hmoved
    · exact absurd hs hroll
  · have honce : (view cfg m.state).rotationLog.Nodup := ha ▸ a.oneShot
    exact honce

/-- A soul is rotated when its window has been over for a while. -/
theorem soulbound_safe_rotated : ∃ s₀, deploy basicConfig
      ⟨0, 1000, fun _ => 0, fun _ digest _ => digest = 1⟩ 2 = .ok s₀ ∧
    let m := run (contract basicConfig) ⟨s₀, []⟩
      [.call (⟨2, 0, by decide⟩, .mintSoulOwner 5 7 [1] 0), .env (.tick 7200)]
    RotationSigned basicConfig m.state 7 6 9000 [] [] := by
  refine ⟨_, rfl, ?_⟩
  have h := soulbound_safe basicConfig ERC721.basic_lawful
    ⟨0, 1000, fun _ => 0, fun _ digest _ => digest = 1⟩ 2 _ rfl
    [.call (⟨2, 0, by decide⟩, .mintSoulOwner 5 7 [1] 0), .env (.tick 7200)]
  obtain ⟨msg, -, hburn | ⟨newWallet, deadline, currentSig, newSig, hrotate, hsigned⟩⟩ :=
    h.1 7 1000 5 [1] (.call (⟨2, 0, by decide⟩, .rotateWallet 7 6 0 9000 [] [])) (by decide)
      (by decide) (by rintro ⟨f, rest, hf, -⟩; cases hf) (by decide)
  · cases hburn
  · cases hrotate
    exact hsigned

end LesserHost.SoulRegistry
