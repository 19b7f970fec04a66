import LesserHost.Lib.Trace
import LesserHost.SoulIndexes.Rows

set_option autoImplicit false

/-! # Index rows and identities

A recorded burn builds the key of the domain row without the local id of the agent, and the keys of the
capability rows without its domain as well, so that it misses the rows that registration and publish have
written. Everything else keeps the rows of an agent in step with its identity. -/

namespace LesserHost.SoulIndexes

open LesserHost.Go
open LesserHost.ControlPlane (AppTheoryError)
open LesserHost.Soul (normalizeSoulCapabilitiesLoose rowLevel)
open LesserHost.SoulContacts (AgentIDHex)
open LesserHost.SoulLifecycle (readRepair effectiveStatus activated SoulAgentStatusActive)

/-! ## The rows of an identity -/

/-- The status of an identity, which is its lifecycle status where it has none. -/
def burned (row : SoulAgentIdentity) : Bool :=
  let status := ToLower (TrimSpace row.Status)
  (if status = "" then ToLower (TrimSpace row.LifecycleStatus) else status) == SoulAgentStatusBurned

/-- The agent is not burned. -/
def Present (t : AgentIDHex → Option SoulAgentIdentity) (a : AgentIDHex) (row : SoulAgentIdentity) : Prop :=
  t a = some row ∧ burned row = false

def OwnWallet (t : AgentIDHex → Option SoulAgentIdentity) (i : SoulWalletAgentIndex) : Prop :=
  ∃ row, Present t i.AgentID row ∧ i.Wallet = ToLower (TrimSpace row.Wallet) ∧ i.Wallet ≠ ""

def OwnDomain (t : AgentIDHex → Option SoulAgentIdentity) (i : SoulDomainAgentIndex) : Prop :=
  ∃ row, Present t i.AgentID row ∧ i.Domain = ToLower (TrimSpace row.Domain) ∧
    i.LocalID = normalizeSoulLocalID row.LocalID

def OwnCapability (t : AgentIDHex → Option SoulAgentIdentity) (level : AgentIDHex → String → String)
    (i : SoulCapabilityAgentIndex) : Prop :=
  ∃ row, Present t i.AgentID row ∧ i.Capability ∈ normalizeSoulCapabilitiesLoose row.Capabilities ∧
    i.ClaimLevel = level i.AgentID i.Capability ∧ i.Domain = ToLower (TrimSpace row.Domain) ∧
    i.LocalID = normalizeSoulLocalID row.LocalID

/-- An identity as registration writes it. -/
structure Formed (row : SoulAgentIdentity) : Prop where
  localID : normalizeSoulLocalID row.LocalID = row.LocalID
  wallet : ∀ c ∈ (ToLower (TrimSpace row.Wallet)).toList, isLowerHexChar c = true ∨ c = 'x'

/-- Each agent that is not burned has its own rows, and there are no others. -/
structure Indexed (s : Store) : Prop where
  formed : ∀ a row, s.identities a = some row → Formed row
  wallets : Keyed.Holds SoulWalletAgentIndex.key s.wallets (OwnWallet s.identities)
  domains : Keyed.Holds SoulDomainAgentIndex.key s.domains (OwnDomain s.identities)
  capabilities : ∃ level, Keyed.Holds SoulCapabilityAgentIndex.key s.capabilities (OwnCapability s.identities level)

/-- What the rows say of the identities. -/
structure Mirrors (s : Store) : Prop where
  wallets : ∀ w a, (∃ k i, s.wallets k = some i ∧ i.Wallet = w ∧ i.AgentID = a) ↔
    w ≠ "" ∧ ∃ row, Present s.identities a row ∧ ToLower (TrimSpace row.Wallet) = w
  domain : ∀ a row, Present s.identities a row → ∃! k, ∃ i, s.domains k = some i ∧ i.AgentID = a
  noDomain : ∀ a, (∀ row, ¬ Present s.identities a row) → ∀ k i, s.domains k = some i → i.AgentID ≠ a
  capabilities : ∀ c a, (∃ k i, s.capabilities k = some i ∧ i.Capability = c ∧ i.AgentID = a) ↔
    ∃ row, Present s.identities a row ∧ c ∈ normalizeSoulCapabilitiesLoose row.Capabilities

theorem Indexed.mirrors {s : Store} (h : Indexed s) : Mirrors s := by
  obtain ⟨level, hcapabilities⟩ := h.capabilities
  refine ⟨fun w a => ⟨?_, ?_⟩, fun a row hrow => ?_, fun a hnone k i hi => ?_, fun c a => ⟨?_, ?_⟩⟩
  · rintro ⟨k, i, hi, rfl, rfl⟩
    obtain ⟨-, row, hrow, hwallet, hne⟩ := (h.wallets k i).1 hi
    exact ⟨hne, row, hrow, hwallet.symm⟩
  · rintro ⟨hne, row, hrow, rfl⟩
    let own : SoulWalletAgentIndex := ⟨ToLower (TrimSpace row.Wallet), a⟩
    exact ⟨own.key, own, h.wallets.row ⟨row, hrow, rfl, hne⟩, rfl, rfl⟩
  · let own : SoulDomainAgentIndex :=
      ⟨ToLower (TrimSpace row.Domain), normalizeSoulLocalID row.LocalID, a⟩
    refine ⟨own.key, ⟨own, h.domains.row ⟨row, hrow, rfl, rfl⟩, rfl⟩, ?_⟩
    rintro k ⟨⟨domain, localID, a'⟩, hi, rfl⟩
    obtain ⟨rfl, row', hrow', hdomain, hlocal⟩ := (h.domains k _).1 hi
    have hsame : row' = row := Option.some.inj (hrow'.1.symm.trans hrow.1)
    subst hsame
    dsimp only at hdomain hlocal
    subst hdomain hlocal
    rfl
  · rintro rfl
    obtain ⟨-, row, hrow, -⟩ := (h.domains k i).1 hi
    exact hnone row hrow
  · rintro ⟨k, i, hi, rfl, rfl⟩
    obtain ⟨-, row, hrow, hmem, -⟩ := (hcapabilities k i).1 hi
    exact ⟨row, hrow, hmem⟩
  · rintro ⟨row, hrow, hmem⟩
    let own : SoulCapabilityAgentIndex :=
      ⟨c, level a c, ToLower (TrimSpace row.Domain), normalizeSoulLocalID row.LocalID, a⟩
    exact ⟨own.key, own, hcapabilities.row ⟨row, hrow, hmem, rfl, rfl, rfl⟩, rfl, rfl⟩

/-! ## Keys -/

theorem AgentIDHex_ext {a b : AgentIDHex} (h : a.text = b.text) : a = b := by
  cases a
  cases b
  cases h
  rfl

theorem append_left_cancel {s t u : String} (h : s ++ t = s ++ u) : t = u := by
  have hlist := congrArg String.toList h
  rw [String.toList_append, String.toList_append] at hlist
  exact String.toList_inj.1 (List.append_cancel_left hlist)

theorem append_separator_cancel {α : Type} {x : α} {l l' r r' : List α} (hr : x ∉ r) (hr' : x ∉ r')
    (h : l ++ [x] ++ r = l' ++ [x] ++ r') : l = l' ∧ r = r' := by
  -- what the longer tail has more than the other ends in the separator
  have hlonger : ∀ {l l' r r' u : List α}, x ∉ r → l' ++ [x] = l ++ [x] ++ u → r = u ++ r' → u = [] := by
    intro l l' r r' u hr hl hu
    rcases List.eq_nil_or_concat u with rfl | ⟨v, y, rfl⟩
    · rfl
    · have hlast := congrArg List.getLast? hl
      rw [List.concat_eq_append, ← List.append_assoc, List.getLast?_concat, List.getLast?_concat] at hlast
      refine absurd ?_ hr
      rw [hu, Option.some.inj hlast]
      simp
  rcases List.append_eq_append_iff.1 h with ⟨u, hl, hu⟩ | ⟨u, hl, hu⟩
  · obtain rfl := hlonger hr hl hu
    rw [List.append_nil] at hl
    exact ⟨(List.append_cancel_right hl).symm, hu⟩
  · obtain rfl := hlonger hr' hl hu
    rw [List.append_nil] at hl
    exact ⟨List.append_cancel_right hl, hu.symm⟩

theorem separator_notMem (a : AgentIDHex) : '#' ∉ a.text.toList := by
  intro hmem
  rcases a.hex _ hmem with h | h <;> exact absurd h (by decide)

/-- The text after the last separator of a sort key is the agent. -/
theorem agent_of_sortKey {s t : String} {a b : AgentIDHex}
    (h : s ++ "#AGENT#" ++ a.text = t ++ "#AGENT#" ++ b.text) : s = t ∧ a = b := by
  have hsep : ∀ (s : String) (a : AgentIDHex), (s ++ "#AGENT#" ++ a.text).toList
      = (s.toList ++ "#AGENT".toList) ++ ['#'] ++ a.text.toList := by
    intro s a
    rw [String.toList_append, String.toList_append]
    simp only [List.append_assoc]
    rfl
  have hlist := congrArg String.toList h
  rw [hsep, hsep] at hlist
  obtain ⟨hfront, htext⟩ := append_separator_cancel (separator_notMem a) (separator_notMem b) hlist
  exact ⟨String.toList_inj.1 (List.append_cancel_right hfront), AgentIDHex_ext (String.toList_inj.1 htext)⟩

theorem walletKey_inj {i j : SoulWalletAgentIndex} (h : i.key = j.key) : i = j := by
  obtain ⟨wallet, a⟩ := i
  obtain ⟨wallet', b⟩ := j
  obtain ⟨hwallet, hagent⟩ := Prod.mk.inj h
  obtain rfl : wallet = wallet' := append_left_cancel hwallet
  obtain rfl : a = b := AgentIDHex_ext (append_left_cancel hagent)
  rfl

theorem domainKey_agent {i j : SoulDomainAgentIndex} (h : i.key = j.key) : i.AgentID = j.AgentID :=
  (agent_of_sortKey (Prod.mk.inj h).2).2

theorem capabilityKey_agent {i j : SoulCapabilityAgentIndex} (h : i.key = j.key) :
    i.Capability = j.Capability ∧ i.AgentID = j.AgentID :=
  ⟨append_left_cancel (Prod.mk.inj h).1, (agent_of_sortKey (Prod.mk.inj h).2).2⟩

/-! ## An identity that changes -/

section Update

variable {s : Store} {a b : AgentIDHex} {row : SoulAgentIdentity} {f : SoulAgentIdentity → SoulAgentIdentity}

theorem present_other (h : b ≠ a) : Present (s.updateIdentity a f).identities b row ↔ Present s.identities b row := by
  unfold Present Store.updateIdentity
  dsimp only
  rw [Function.update_of_ne h]

theorem present_self (hrow : s.identities a = some row) {r : SoulAgentIdentity} :
    Present (s.updateIdentity a f).identities a r ↔ r = f row ∧ burned (f row) = false := by
  unfold Present Store.updateIdentity
  dsimp only
  rw [Function.update_self, hrow, Option.map_some]
  constructor
  · rintro ⟨hsame, hburned⟩
    obtain rfl := Option.some.inj hsame
    exact ⟨rfl, hburned⟩
  · rintro ⟨rfl, hburned⟩
    exact ⟨rfl, hburned⟩

theorem formed_update (h : ∀ b row, s.identities b = some row → Formed row)
    (hf : ∀ row, Formed row → Formed (f row)) :
    ∀ b row, (s.updateIdentity a f).identities b = some row → Formed row := by
  intro b r hr
  unfold Store.updateIdentity at hr
  dsimp only at hr
  by_cases hb : b = a
  · subst hb
    rw [Function.update_self] at hr
    cases hrow : s.identities b with
    | none =>
        rw [hrow] at hr
        cases hr
    | some row =>
        rw [hrow] at hr
        obtain rfl := Option.some.inj hr
        exact hf row (h b row hrow)
  · rw [Function.update_of_ne hb] at hr
    exact h b r hr

theorem present_unique {r : SoulAgentIdentity} (hrow : s.identities a = some row) (h : Present s.identities a r) :
    r = row ∧ burned row = false := by
  obtain ⟨hr, hburned⟩ := h
  obtain rfl := Option.some.inj (hr.symm.trans hrow)
  exact ⟨rfl, hburned⟩

variable {Q : SoulAgentIdentity → Prop}

theorem exists_present_other (h : b ≠ a) :
    (∃ r, Present s.identities b r ∧ Q r) ↔ ∃ r, Present (s.updateIdentity a f).identities b r ∧ Q r :=
  exists_congr fun _ => and_congr_left fun _ => (present_other h).symm

/-- A change that `Q` does not see. -/
theorem exists_present_same (hrow : s.identities a = some row) (hburned : burned (f row) = burned row)
    (hQ : Q (f row) ↔ Q row) (b : AgentIDHex) :
    (∃ r, Present s.identities b r ∧ Q r) ↔ ∃ r, Present (s.updateIdentity a f).identities b r ∧ Q r := by
  by_cases hb : b = a
  · subst hb
    constructor
    · rintro ⟨r, hr, hq⟩
      obtain ⟨rfl, hpresent⟩ := present_unique hrow hr
      exact ⟨f r, (present_self hrow).2 ⟨rfl, hburned.trans hpresent⟩, hQ.2 hq⟩
    · rintro ⟨r, hr, hq⟩
      obtain ⟨rfl, hpresent⟩ := (present_self hrow).1 hr
      exact ⟨row, ⟨hrow, hburned.symm.trans hpresent⟩, hQ.1 hq⟩
  · exact exists_present_other hb

/-- The agent is burned afterwards. -/
theorem exists_present_burned (hrow : s.identities a = some row) (hburned : burned (f row) = true)
    (b : AgentIDHex) :
    (∃ r, Present s.identities b r ∧ Q r) ∧ b ≠ a ↔ ∃ r, Present (s.updateIdentity a f).identities b r ∧ Q r := by
  by_cases hb : b = a
  · subst hb
    constructor
    · rintro ⟨-, hne⟩
      exact absurd rfl hne
    · rintro ⟨r, hr, -⟩
      rw [((present_self hrow).1 hr).2] at hburned
      cases hburned
  · rw [and_iff_left hb]
    exact exists_present_other hb

end Update

/-! ## The operations -/

theorem getSoulAgentIdentity_some {s : Store} {a : AgentIDHex} {identity : SoulAgentIdentity}
    (h : getSoulAgentIdentity s a = some identity) :
    ∃ row, s.identities a = some row ∧ identity.Wallet = row.Wallet ∧ identity.Domain = row.Domain ∧
      identity.LocalID = row.LocalID ∧ identity.Capabilities = row.Capabilities ∧
      identity.toSoulAgentIdentity = readRepair row.toSoulAgentIdentity := by
  unfold getSoulAgentIdentity at h
  cases hrow : s.identities a with
  | none =>
      rw [hrow] at h
      cases h
  | some row =>
      rw [hrow] at h
      obtain rfl := Option.some.inj h
      have hrepair : (readRepair row.toSoulAgentIdentity).Wallet = row.Wallet ∧
          (readRepair row.toSoulAgentIdentity).Domain = row.Domain := by
        rcases SoulLifecycle.readRepair_cases row.toSoulAgentIdentity with hr | hr | ⟨hr, -⟩ <;>
          exact ⟨by rw [hr], by rw [hr]⟩
      refine ⟨row, rfl, hrepair.1, hrepair.2, rfl, rfl, ?_⟩
      dsimp only

/-- A hexadecimal text is its own key. -/
theorem normal_hex (a : AgentIDHex) : ToLower (TrimSpace a.text) = a.text := by
  rw [a.TrimSpace_text, ← String.toList_inj, toList_ToLower]
  conv_rhs => rw [← List.map_id a.text.toList]
  refine List.map_congr_left fun c hc => ?_
  rcases a.hex c hc with h | rfl
  · exact toLowerChar_of_hex h
  · decide

section Rotate

variable {s : Store} {a wallet : AgentIDHex} {row : SoulAgentIdentity}

/-- The row of the wallet of an identity. -/
def walletRow (a : AgentIDHex) (row : SoulAgentIdentity) : SoulWalletAgentIndex :=
  ⟨ToLower (TrimSpace row.Wallet), a⟩

def rotated (wallet : AgentIDHex) (row : SoulAgentIdentity) : SoulAgentIdentity :=
  { row with Wallet := wallet.text }

theorem burned_rotated : burned (rotated wallet row) = burned row := by
  unfold burned rotated
  dsimp only

theorem ownWallet_rotated (hrow : s.identities a = some row) (hlive : burned row = false)
    (i : SoulWalletAgentIndex) :
    (i = ⟨wallet.text, a⟩ ∧ wallet.text ≠ "") ∨ (OwnWallet s.identities i ∧ i ≠ walletRow a row) ↔
      OwnWallet (s.updateIdentity a (rotated wallet)).identities i := by
  obtain ⟨w, b⟩ := i
  by_cases hb : b = a
  · subst hb
    constructor
    · rintro (⟨hi, hne⟩ | ⟨⟨r, hr, hw, -⟩, hi⟩)
      · cases hi
        exact ⟨rotated wallet row, (present_self hrow).2 ⟨rfl, burned_rotated.trans hlive⟩,
          (normal_hex wallet).symm, hne⟩
      · obtain ⟨rfl, -⟩ := present_unique hrow hr
        dsimp only at hw
        exact absurd (by rw [hw]; rfl) hi
    · rintro ⟨r, hr, hw, hne⟩
      obtain ⟨rfl, -⟩ := (present_self hrow).1 hr
      have hw : w = wallet.text := hw.trans (normal_hex wallet)
      subst hw
      exact Or.inl ⟨rfl, hne⟩
  · have hother : ∀ w', (⟨w, b⟩ : SoulWalletAgentIndex) ≠ ⟨w', a⟩ :=
      fun w' h => hb (congrArg SoulWalletAgentIndex.AgentID h)
    constructor
    · rintro (⟨hi, -⟩ | ⟨hown, -⟩)
      · exact absurd hi (hother _)
      · exact (exists_present_other hb).1 hown
    · intro hown
      exact Or.inr ⟨(exists_present_other hb).2 hown, hother _⟩

/-- The identity has another wallet, and the wallet rows are those of the identities. -/
theorem Indexed.withWallets (h : Indexed s) (hrow : s.identities a = some row)
    {wallets : Key → Option SoulWalletAgentIndex}
    (hwallets : Keyed.Holds SoulWalletAgentIndex.key wallets
      (OwnWallet (s.updateIdentity a (rotated wallet)).identities)) :
    Indexed { s.updateIdentity a (rotated wallet) with wallets := wallets } := by
  obtain ⟨level, hcapabilities⟩ := h.capabilities
  refine ⟨?_, hwallets, ?_, level, ?_⟩
  · refine formed_update h.formed fun r hr => ⟨hr.localID, ?_⟩
    show ∀ c ∈ (ToLower (TrimSpace wallet.text)).toList, _
    rw [normal_hex]
    exact wallet.hex
  · refine h.domains.congr fun i => exists_present_same hrow burned_rotated ?_ i.AgentID
    unfold rotated
    dsimp only
    exact Iff.rfl
  · refine hcapabilities.congr fun i => exists_present_same hrow burned_rotated ?_ i.AgentID
    unfold rotated
    dsimp only
    exact Iff.rfl

/-- A rotation of the wallet of an agent that is not burned. -/
theorem Indexed.rotate (h : Indexed s) (hlive : ∀ row, s.identities a = some row → burned row = false) :
    Indexed (applySoulOperationRotateWalletSideEffects s a (some wallet)) := by
  unfold applySoulOperationRotateWalletSideEffects
  cases hget : getSoulAgentIdentity s a with
  | none => exact h
  | some identity =>
      obtain ⟨row, hrow, hwallet, -⟩ := getSoulAgentIdentity_some hget
      have hown := @ownWallet_rotated s a wallet row hrow (hlive row hrow)
      have hnew : (⟨wallet.text, a⟩ : SoulWalletAgentIndex).UpdateKeys = ⟨wallet.text, a⟩ := by
        unfold SoulWalletAgentIndex.UpdateKeys
        dsimp only
        rw [normal_hex]
      have hold : (walletRow a row).UpdateKeys = walletRow a row := by
        unfold walletRow SoulWalletAgentIndex.UpdateKeys
        dsimp only
        rw [TrimSpace_ToLower_TrimSpace, ToLower_idem]
      have hkey : ∀ i j : SoulWalletAgentIndex, i.key ≠ j.key ↔ i ≠ j :=
        fun i j => ⟨fun hne hij => hne (by rw [hij]), fun hne hij => hne (walletKey_inj hij)⟩
      have hdeleted := h.wallets.delete (walletRow a row)
      have hempty : ∀ i, OwnWallet s.identities i → ToLower (TrimSpace row.Wallet) = "" → i ≠ walletRow a row := by
        rintro i ⟨r, -, -, hne⟩ hnone rfl
        exact hne hnone
      dsimp only
      rw [hwallet]
      by_cases hdelete : ToLower (TrimSpace row.Wallet) ≠ "" ∧
          EqualFold (ToLower (TrimSpace row.Wallet)) wallet.text = false
      · rw [if_pos hdelete]
        by_cases hput : wallet.text ≠ ""
        · rw [if_pos hput]
          show Indexed { s.updateIdentity a (rotated wallet) with
            wallets := Keyed.put SoulWalletAgentIndex.key (Keyed.delete SoulWalletAgentIndex.key s.wallets
              (walletRow a row).UpdateKeys) (SoulWalletAgentIndex.mk wallet.text a).UpdateKeys }
          rw [hnew, hold]
          refine h.withWallets hrow ((hdeleted.put ⟨wallet.text, a⟩).congr fun i => (Iff.trans ?_ (hown i)))
          rw [hkey, hkey]
          by_cases hi : i = ⟨wallet.text, a⟩
          · simp [hi, hput]
          · simp [hi]
        · rw [if_neg hput]
          show Indexed { s.updateIdentity a (rotated wallet) with
            wallets := Keyed.delete SoulWalletAgentIndex.key s.wallets (walletRow a row).UpdateKeys }
          rw [hold]
          refine h.withWallets hrow (hdeleted.congr fun i => (Iff.trans ?_ (hown i)))
          rw [hkey]
          simp [hput]
      · rw [if_neg hdelete]
        -- nothing was there, or the row is written again
        have hsame : ToLower (TrimSpace row.Wallet) = "" ∨ ToLower (TrimSpace row.Wallet) = wallet.text := by
          by_cases hnone : ToLower (TrimSpace row.Wallet) = ""
          · exact Or.inl hnone
          · refine Or.inr ((SoulContacts.EqualFold_hex (h.formed a row hrow).wallet wallet.hex).1 ?_)
            by_contra hfold
            exact hdelete ⟨hnone, by simpa using hfold⟩
        by_cases hput : wallet.text ≠ ""
        · rw [if_pos hput]
          show Indexed { s.updateIdentity a (rotated wallet) with
            wallets := Keyed.put SoulWalletAgentIndex.key s.wallets
              (SoulWalletAgentIndex.mk wallet.text a).UpdateKeys }
          rw [hnew]
          refine h.withWallets hrow ((h.wallets.put ⟨wallet.text, a⟩).congr fun i => (Iff.trans ?_ (hown i)))
          rw [hkey]
          rcases hsame with hnone | hsame
          · by_cases hi : i = ⟨wallet.text, a⟩
            · simp [hi, hput]
            · simp only [hi, false_and, false_or, ne_eq, not_false_eq_true, and_true]
              exact ⟨fun hown => ⟨hown, hempty i hown hnone⟩, fun hown => hown.1⟩
          · have hrow' : walletRow a row = ⟨wallet.text, a⟩ := by rw [walletRow, hsame]
            rw [hrow', and_iff_left hput]
        · rw [if_neg hput]
          show Indexed { s.updateIdentity a (rotated wallet) with wallets := s.wallets }
          refine h.withWallets hrow (h.wallets.congr fun i => (Iff.trans ?_ (hown i)))
          have hnone : ToLower (TrimSpace row.Wallet) = "" := by
            rcases hsame with hnone | hsame
            · exact hnone
            · rw [hsame]
              exact not_not.1 hput
          simp only [hput, and_false, false_or]
          exact ⟨fun hown => ⟨hown, hempty i hown hnone⟩, fun hown => hown.1⟩

end Rotate

section Burn

variable {s : Store} {a : AgentIDHex} {row : SoulAgentIdentity}

def burnt (row : SoulAgentIdentity) : SoulAgentIdentity :=
  { row with
    Status := SoulAgentStatusBurned
    LifecycleStatus := SoulAgentStatusBurned
    Wallet := "" }

theorem burned_burnt (row : SoulAgentIdentity) : burned (burnt row) = true := by
  have hstatus : ToLower (TrimSpace SoulAgentStatusBurned) = SoulAgentStatusBurned := by decide
  unfold burned burnt
  dsimp only
  rw [hstatus]
  decide

theorem formed_burnt (h : Formed row) : Formed (burnt row) := by
  have hempty : (ToLower (TrimSpace "")).toList = [] := by decide
  unfold burnt
  refine ⟨h.localID, ?_⟩
  dsimp only
  rw [hempty]
  exact fun c hc => absurd hc List.not_mem_nil

/-- The keys that a burn builds are those of the rows: the agent has a domain, no local id and no
    capabilities. -/
structure Reachable (row : SoulAgentIdentity) : Prop where
  domain : TrimSpace row.Domain ≠ ""
  localID : row.LocalID = ""
  capabilities : normalizeSoulCapabilitiesLoose row.Capabilities = []

theorem ite_deleteWallet (c : Prop) [Decidable c] (s : Store) (i : SoulWalletAgentIndex) :
    (if c then s.deleteWallet i else s) = { s with
      wallets := (if c then [i.UpdateKeys] else []).foldl (Keyed.delete SoulWalletAgentIndex.key)
        s.wallets } := by
  by_cases hc : c
  · rw [if_pos hc, if_pos hc]
    rfl
  · rw [if_neg hc, if_neg hc]
    rfl

theorem ite_deleteDomain (c : Prop) [Decidable c] (s : Store) (i : SoulDomainAgentIndex) :
    (if c then s.deleteDomain i else s) = { s with
      domains := (if c then [i.UpdateKeys] else []).foldl (Keyed.delete SoulDomainAgentIndex.key)
        s.domains } := by
  by_cases hc : c
  · rw [if_pos hc, if_pos hc]
    rfl
  · rw [if_neg hc, if_neg hc]
    rfl

theorem exists_present_burnt (hrow : s.identities a = some row) (Q : SoulAgentIdentity → Prop)
    (b : AgentIDHex) :
    (∃ r, Present s.identities b r ∧ Q r) ∧ b ≠ a ↔ ∃ r, Present (s.updateIdentity a burnt).identities b r ∧ Q r :=
  exists_present_burned hrow (burned_burnt row) b

/-- The wallet row of the agent goes. -/
theorem burn_wallets (h : Indexed s) (hrow : s.identities a = some row) :
    Keyed.Holds SoulWalletAgentIndex.key
      ((if ToLower (TrimSpace row.Wallet) ≠ "" then
        [(SoulWalletAgentIndex.mk (ToLower (TrimSpace row.Wallet)) a).UpdateKeys] else []).foldl
          (Keyed.delete SoulWalletAgentIndex.key) s.wallets)
      (OwnWallet (s.updateIdentity a burnt).identities) := by
  have hdeleted := h.wallets.deleteOwned SoulWalletAgentIndex.AgentID a
    (if ToLower (TrimSpace row.Wallet) ≠ "" then
      [(SoulWalletAgentIndex.mk (ToLower (TrimSpace row.Wallet)) a).UpdateKeys] else [])
    (fun i j hij => congrArg SoulWalletAgentIndex.AgentID (walletKey_inj hij)) (fun i hi => ?_)
    fun i hown hi => ?_
  · exact hdeleted.congr fun i => exists_present_burnt hrow _ i.AgentID
  · split_ifs at hi
    · rw [List.mem_singleton.1 hi]
      unfold SoulWalletAgentIndex.UpdateKeys
      rfl
    · cases hi
  · obtain ⟨w, b⟩ := i
    obtain rfl : b = a := hi
    obtain ⟨r, hr, hw, hne⟩ := hown
    obtain ⟨rfl, -⟩ := present_unique hrow hr
    have hw : w = ToLower (TrimSpace r.Wallet) := hw
    have hne : w ≠ "" := hne
    rw [← hw, if_pos hne]
    refine ⟨_, List.mem_singleton.2 rfl, ?_⟩
    unfold SoulWalletAgentIndex.UpdateKeys
    dsimp only
    rw [hw, TrimSpace_ToLower_TrimSpace, ToLower_idem]

/-- The domain row goes if its key has been built as it was written. -/
theorem burn_domains (h : Indexed s) (hrow : s.identities a = some row)
    (hclean : burned row = false → Reachable row) :
    Keyed.Holds SoulDomainAgentIndex.key
      ((if TrimSpace row.Domain ≠ "" then
        [(SoulDomainAgentIndex.mk (TrimSpace row.Domain) "" a).UpdateKeys] else []).foldl
          (Keyed.delete SoulDomainAgentIndex.key) s.domains)
      (OwnDomain (s.updateIdentity a burnt).identities) := by
  have hdeleted := h.domains.deleteOwned SoulDomainAgentIndex.AgentID a
    (if TrimSpace row.Domain ≠ "" then
      [(SoulDomainAgentIndex.mk (TrimSpace row.Domain) "" a).UpdateKeys] else [])
    (fun i j => domainKey_agent) (fun i hi => ?_) fun i hown hi => ?_
  · exact hdeleted.congr fun i => exists_present_burnt hrow _ i.AgentID
  · split_ifs at hi
    · rw [List.mem_singleton.1 hi]
      unfold SoulDomainAgentIndex.UpdateKeys
      rfl
    · cases hi
  · obtain ⟨d, l, b⟩ := i
    obtain rfl : b = a := hi
    obtain ⟨r, hr, hd, hl⟩ := hown
    obtain ⟨rfl, hlive⟩ := present_unique hrow hr
    have hd : d = ToLower (TrimSpace r.Domain) := hd
    have hl : l = normalizeSoulLocalID r.LocalID := hl
    rw [(hclean hlive).localID] at hl
    rw [if_pos (hclean hlive).domain]
    refine ⟨_, List.mem_singleton.2 rfl, ?_⟩
    unfold SoulDomainAgentIndex.UpdateKeys
    dsimp only
    rw [hd, hl, TrimSpace_idem]

theorem burn_capabilities (h : Indexed s) (hrow : s.identities a = some row)
    (hclean : burned row = false → Reachable row) (caps : List String) :
    ∃ level, Keyed.Holds SoulCapabilityAgentIndex.key
      (((caps.map fun cap => SoulCapabilityAgentIndex.mk cap "" "" "" a).map
        SoulCapabilityAgentIndex.UpdateKeys).foldl (Keyed.delete SoulCapabilityAgentIndex.key)
          s.capabilities)
      (OwnCapability (s.updateIdentity a burnt).identities level) := by
  obtain ⟨level, hcapabilities⟩ := h.capabilities
  have hdeleted := hcapabilities.deleteOwned SoulCapabilityAgentIndex.AgentID a
    ((caps.map fun cap => SoulCapabilityAgentIndex.mk cap "" "" "" a).map
      SoulCapabilityAgentIndex.UpdateKeys)
    (fun i j hij => (capabilityKey_agent hij).2) (fun i hi => ?_) fun i hown hi => ?_
  · exact ⟨level, hdeleted.congr fun i => exists_present_burnt hrow _ i.AgentID⟩
  · obtain ⟨j, hj, rfl⟩ := List.mem_map.1 hi
    obtain ⟨cap, -, rfl⟩ := List.mem_map.1 hj
    unfold SoulCapabilityAgentIndex.UpdateKeys
    rfl
  · obtain ⟨r, hr, hmem, -⟩ := hown
    rw [hi] at hr
    obtain ⟨rfl, hlive⟩ := present_unique hrow hr
    rw [(hclean hlive).capabilities] at hmem
    cases hmem

/-- A burn of such an agent, or of one that is burned already. -/
theorem Indexed.burn (h : Indexed s)
    (hclean : ∀ row, s.identities a = some row → burned row = false → Reachable row) :
    Indexed (applySoulOperationBurnSideEffects s a) := by
  unfold applySoulOperationBurnSideEffects
  cases hget : getSoulAgentIdentity s a with
  | none => exact h
  | some identity =>
      obtain ⟨row, hrow, hwallet, hdomain, -, -⟩ := getSoulAgentIdentity_some hget
      dsimp only
      rw [hwallet, hdomain, ite_deleteWallet, ite_deleteDomain]
      have hformed : ∀ b r, (s.updateIdentity a burnt).identities b = some r → Formed r :=
        formed_update h.formed fun _ => formed_burnt
      unfold Store.deleteCapabilities
      refine ⟨hformed, ?_, ?_, ?_⟩
      · dsimp only [updateIdentity_wallets]
        exact burn_wallets h hrow
      · dsimp only [updateIdentity_domains]
        exact burn_domains h hrow (hclean row hrow)
      · dsimp only [updateIdentity_capabilities]
        exact burn_capabilities h hrow (hclean row hrow) _

end Burn

section Publish

variable {s : Store} {a : AgentIDHex} {row : SoulAgentIdentity}

theorem lower_effectiveStatus (item : SoulLifecycle.SoulAgentIdentity) :
    ToLower (effectiveStatus item) = if ToLower (TrimSpace item.LifecycleStatus) = "" then
      ToLower (TrimSpace item.Status) else ToLower (TrimSpace item.LifecycleStatus) := by
  have hempty : ToLower "" = "" := by decide
  unfold effectiveStatus
  by_cases hblank : TrimSpace item.LifecycleStatus = ""
  · rw [if_pos hblank, if_pos (by rw [hblank, hempty])]
  · rw [if_neg hblank, if_neg fun h => hblank (Soul.ToLower_eq_empty h)]

/-- The status that a request goes by is the one that tells whether the agent is burned. -/
theorem lower_effectiveStatus_readRepair (item : SoulLifecycle.SoulAgentIdentity) :
    ToLower (effectiveStatus (readRepair item)) = if ToLower (TrimSpace item.Status) = "" then
      ToLower (TrimSpace item.LifecycleStatus) else ToLower (TrimSpace item.Status) := by
  rw [lower_effectiveStatus]
  unfold readRepair
  dsimp only
  by_cases hstatus : ToLower (TrimSpace item.Status) = ""
  · by_cases hlifecycle : ToLower (TrimSpace item.LifecycleStatus) = ""
    · simp [hstatus, hlifecycle]
    · simp [hstatus, hlifecycle]
  · by_cases hlifecycle : ToLower (TrimSpace item.LifecycleStatus) = ""
    · simp [hstatus, hlifecycle]
    · by_cases hsame : ToLower (TrimSpace item.Status) = ToLower (TrimSpace item.LifecycleStatus)
      · simp [hlifecycle, hsame]
      · simp [hstatus, hlifecycle, hsame]

theorem live_of_active
    (h : effectiveStatus (readRepair row.toSoulAgentIdentity) = SoulAgentStatusActive) :
    burned row = false := by
  have hstatus := lower_effectiveStatus_readRepair row.toSoulAgentIdentity
  rw [h] at hstatus
  unfold burned
  dsimp only
  rw [← hstatus]
  decide

/-- What a publish writes of the identity. -/
def withCapabilities (caps : List String) (row : SoulAgentIdentity) : SoulAgentIdentity :=
  { row with Capabilities := caps }

theorem formed_withCapabilities (caps : List String) (h : Formed row) : Formed (withCapabilities caps row) := by
  unfold withCapabilities
  exact ⟨h.localID, h.wallet⟩

theorem burned_withCapabilities (caps : List String) (row : SoulAgentIdentity) :
    burned (withCapabilities caps row) = burned row := by
  unfold burned withCapabilities
  dsimp only

theorem ownWallet_withCapabilities (hrow : s.identities a = some row) (caps : List String)
    (i : SoulWalletAgentIndex) :
    OwnWallet s.identities i ↔ OwnWallet (s.updateIdentity a (withCapabilities caps)).identities i := by
  refine exists_present_same hrow (burned_withCapabilities caps row) ?_ i.AgentID
  unfold withCapabilities
  exact Iff.rfl

theorem ownDomain_withCapabilities (hrow : s.identities a = some row) (caps : List String)
    (i : SoulDomainAgentIndex) :
    OwnDomain s.identities i ↔ OwnDomain (s.updateIdentity a (withCapabilities caps)).identities i := by
  refine exists_present_same hrow (burned_withCapabilities caps row) ?_ i.AgentID
  unfold withCapabilities
  exact Iff.rfl

/-- The row of a capability. -/
def capabilityRow (a : AgentIDHex) (row : SoulAgentIdentity) (level : String → String) (c : String) :
    SoulCapabilityAgentIndex :=
  ⟨c, level c, ToLower (TrimSpace row.Domain), normalizeSoulLocalID row.LocalID, a⟩

theorem capabilityRow_UpdateKeys (hformed : Formed row) {level : String → String} {c : String}
    (hc : ToLower (TrimSpace c) = c) (hlevel : ToLower (TrimSpace (level c)) = level c) :
    (capabilityRow a row level c).UpdateKeys = capabilityRow a row level c := by
  unfold capabilityRow SoulCapabilityAgentIndex.UpdateKeys
  dsimp only
  rw [hc, hlevel, TrimSpace_ToLower_TrimSpace, ToLower_idem,
    hformed.localID, hformed.localID]

theorem mem_normalize_again {caps : List String} {c : String} :
    c ∈ normalizeSoulCapabilitiesLoose (normalizeSoulCapabilitiesLoose caps)
      ↔ c ∈ normalizeSoulCapabilitiesLoose caps := by
  constructor
  · intro hc
    obtain ⟨-, raw, hraw, rfl⟩ := Soul.mem_normalizeSoulCapabilitiesLoose.1 hc
    rw [Soul.normalizeSoulCapabilitiesLoose_normal hraw]
    exact hraw
  · exact Soul.mem_normalize_twice

/-- The capability rows after a publish. -/
theorem publish_capabilities (h : Indexed s) (hrow : s.identities a = some row) (hlive : burned row = false)
    (capsNorm : List String) (claimLevels : String → Option String) :
    let oldCaps := normalizeSoulCapabilitiesLoose row.Capabilities
    let newCaps := normalizeSoulCapabilitiesLoose capsNorm
    ∃ level, Keyed.Holds SoulCapabilityAgentIndex.key
      ((newCaps.map (capabilityRow a row (rowLevel claimLevels))).foldl
        (Keyed.put SoulCapabilityAgentIndex.key)
        (((oldCaps.filter fun c => c ∉ newCaps).map (capabilityRow a row fun _ => "")).foldl
          (Keyed.delete SoulCapabilityAgentIndex.key) s.capabilities))
      (OwnCapability (s.updateIdentity a (withCapabilities newCaps)).identities level) := by
  intro oldCaps newCaps
  obtain ⟨level, hcapabilities⟩ := h.capabilities
  have hkey : ∀ (level level' : String → String) (c : String),
      (capabilityRow a row level c).key = (capabilityRow a row level' c).key := fun _ _ _ => rfl
  have hdistinct : ∀ i ∈ newCaps.map (capabilityRow a row (rowLevel claimLevels)),
      ∀ j ∈ newCaps.map (capabilityRow a row (rowLevel claimLevels)), i.key = j.key → i = j := by
    intro i hi j hj hij
    obtain ⟨c, -, rfl⟩ := List.mem_map.1 hi
    obtain ⟨c', -, rfl⟩ := List.mem_map.1 hj
    have hcap : c = c' := (capabilityKey_agent hij).1
    rw [hcap]
  refine ⟨fun b c => if b = a then rowLevel claimLevels c else level b c,
    ((hcapabilities.deleteAll _).putAll hdistinct).congr fun i => ?_⟩
  obtain ⟨c, cl, d, l, b⟩ := i
  by_cases hb : b = a
  · subst hb
    constructor
    · rintro (hput | ⟨⟨⟨r, hr, hmem, -, hd, hl⟩, hdel⟩, hput⟩)
      · obtain ⟨c', hc', hi⟩ := List.mem_map.1 hput
        cases hi
        refine ⟨_, (present_self hrow).2 ⟨rfl, (burned_withCapabilities _ _).trans hlive⟩,
          mem_normalize_again.2 hc', ?_, rfl, rfl⟩
        exact (if_pos rfl).symm
      · -- a row of the agent is deleted or written again
        obtain ⟨rfl, -⟩ := present_unique hrow hr
        have hown : (SoulCapabilityAgentIndex.mk c cl d l b).key
            = (capabilityRow b r (fun _ => "") c).key := by
          have hd : d = ToLower (TrimSpace r.Domain) := hd
          have hl : l = normalizeSoulLocalID r.LocalID := hl
          subst hd hl
          rfl
        by_cases hnew : c ∈ newCaps
        · exact absurd (hown.trans (hkey _ _ c)) (hput _ (List.mem_map_of_mem hnew))
        · refine absurd hown (hdel _ (List.mem_map_of_mem (List.mem_filter.2 ⟨hmem, ?_⟩)))
          simpa using hnew
    · rintro ⟨r, hr, hmem, hcl, hd, hl⟩
      obtain ⟨rfl, -⟩ := (present_self hrow).1 hr
      refine Or.inl (List.mem_map.2 ⟨c, mem_normalize_again.1 hmem, ?_⟩)
      have hcl : cl = rowLevel claimLevels c := hcl.trans (if_pos rfl)
      have hd : d = ToLower (TrimSpace row.Domain) := hd
      have hl : l = normalizeSoulLocalID row.LocalID := hl
      subst hcl hd hl
      rfl
  · have hother : ∀ (level : String → String) (caps : List String),
        ∀ i ∈ caps.map (capabilityRow a row level), (SoulCapabilityAgentIndex.mk c cl d l b).key ≠ i.key := by
      intro level caps i hi hij
      obtain ⟨c', -, rfl⟩ := List.mem_map.1 hi
      exact hb (capabilityKey_agent hij).2
    have hkept : OwnCapability s.identities level ⟨c, cl, d, l, b⟩ ↔
        OwnCapability (s.updateIdentity a (withCapabilities newCaps)).identities
          (fun b c => if b = a then rowLevel claimLevels c else level b c) ⟨c, cl, d, l, b⟩ := by
      unfold OwnCapability
      dsimp only
      rw [if_neg hb]
      exact exists_present_other hb
    constructor
    · rintro (hput | ⟨⟨hown, -⟩, -⟩)
      · exact absurd rfl (hother _ _ _ hput)
      · exact hkept.1 hown
    · intro hown
      exact Or.inr ⟨⟨hkept.2 hown, hother _ _⟩, hother _ _⟩

/-- A change of an identity that no row sees. -/
theorem Indexed.identity_updated (h : Indexed s) (hrow : s.identities a = some row)
    {f : SoulAgentIdentity → SoulAgentIdentity} (hburned : burned (f row) = burned row)
    (hf : ∀ r, (f r).Wallet = r.Wallet ∧ (f r).Domain = r.Domain ∧ (f r).LocalID = r.LocalID ∧
      (f r).Capabilities = r.Capabilities) : Indexed (s.updateIdentity a f) := by
  obtain ⟨level, hcapabilities⟩ := h.capabilities
  obtain ⟨hwallet, hdomain, hlocal, hcaps⟩ := hf row
  refine ⟨formed_update h.formed fun r hr => ⟨?_, ?_⟩, ?_, ?_, level, ?_⟩
  · rw [(hf r).2.2.1]
    exact hr.localID
  · rw [(hf r).1]
    exact hr.wallet
  · refine h.wallets.congr fun i => exists_present_same hrow hburned ?_ i.AgentID
    rw [hwallet]
  · refine h.domains.congr fun i => exists_present_same hrow hburned ?_ i.AgentID
    rw [hdomain, hlocal]
  · refine hcapabilities.congr fun i => exists_present_same hrow hburned ?_ i.AgentID
    rw [hdomain, hlocal, hcaps]

/-- A publish. -/
theorem Indexed.capabilities_updated (h : Indexed s) {identity : SoulAgentIdentity}
    (hrow : s.identities a = some row) (hlive : burned row = false)
    (hcaps : identity.Capabilities = row.Capabilities) (hdomain : identity.Domain = row.Domain)
    (hlocal : identity.LocalID = row.LocalID) (capsNorm : List String) (claimLevels : String → Option String) :
    Indexed (updateSoulAgentCapabilities s a identity capsNorm claimLevels) := by
  have hrows : ∀ level : String → String, (∀ c, ToLower (TrimSpace (level c)) = level c) →
      ∀ caps : List String, (∀ c ∈ caps, ToLower (TrimSpace c) = c) →
      (caps.map fun c => SoulCapabilityAgentIndex.mk c (level c) (ToLower (TrimSpace row.Domain))
        (normalizeSoulLocalID row.LocalID) a).map SoulCapabilityAgentIndex.UpdateKeys
        = caps.map (capabilityRow a row level) := by
    intro level hlevel caps hcaps
    rw [List.map_map]
    exact List.map_congr_left fun c hc =>
      capabilityRow_UpdateKeys (h.formed a row hrow) (hcaps c hc) (hlevel c)
  have hnormal : ∀ (caps : List String), ∀ c ∈ normalizeSoulCapabilitiesLoose caps,
      ToLower (TrimSpace c) = c := fun _ _ => Soul.normalizeSoulCapabilitiesLoose_normal
  have hempty : ToLower (TrimSpace "") = "" := by decide
  unfold updateSoulAgentCapabilities Store.putCapabilities Store.deleteCapabilities
  dsimp only
  rw [hcaps, hdomain, hlocal, updateIdentity_capabilities,
    hrows (fun _ => "") (fun _ => hempty) _ fun c hc => hnormal _ c (List.mem_of_mem_filter hc),
    hrows (rowLevel claimLevels) (fun c => ?_) _ (hnormal capsNorm)]
  · refine ⟨?_, ?_, ?_, ?_⟩
    · exact formed_update (f := withCapabilities _) h.formed fun r => formed_withCapabilities _
    · dsimp only [updateIdentity_wallets]
      exact h.wallets.congr (ownWallet_withCapabilities hrow _)
    · dsimp only [updateIdentity_domains]
      exact h.domains.congr (ownDomain_withCapabilities hrow _)
    · exact publish_capabilities h hrow hlive capsNorm claimLevels
  · unfold rowLevel
    dsimp only
    rw [TrimSpace_ToLower_TrimSpace, ToLower_idem]

/-- The activation leaves an agent that is active as it is. -/
theorem Indexed.activation (h : Indexed s) {identity : SoulAgentIdentity} (hrow : s.identities a = some row)
    (hlive : burned row = false) : Indexed (activate s a identity) := by
  unfold activate
  generalize SoulLifecycle.shouldPersistSoulIdentityActivationOnRegistrationPublish
    identity.toSoulAgentIdentity true = activation
  refine h.identity_updated hrow ?_ fun r => ?_
  · cases activation with
    | true =>
        rw [hlive]
        unfold burned activated
        simp only [if_true]
        decide
    | false =>
        unfold burned activated
        dsimp only
        rfl
  · unfold activated
    exact ⟨rfl, rfl, rfl, rfl⟩

theorem Indexed.publish (h : Indexed s) (capsNorm : List String) (claimLevels : String → Option String)
    (typed : Bool) {s' : Store} (hs' : publishSoulUpdateRegistration s a capsNorm claimLevels typed = .ok s') :
    Indexed s' := by
  unfold publishSoulUpdateRegistration at hs'
  cases hget : getSoulAgentIdentity s a with
  | none =>
      rw [hget] at hs'
      cases hs'
  | some identity =>
      rw [hget] at hs'
      dsimp only at hs'
      obtain ⟨row, hrow, -, hdomain, hlocal, hcaps, hrepair⟩ := getSoulAgentIdentity_some hget
      by_cases hstatus : effectiveStatus identity.toSoulAgentIdentity = SoulAgentStatusActive
      · rw [if_neg (not_not.2 hstatus)] at hs'
        have hlive : burned row = false := live_of_active (hrepair ▸ hstatus)
        have hupdated := h.capabilities_updated hrow hlive hcaps hdomain hlocal capsNorm claimLevels
        have hrow' : (updateSoulAgentCapabilities s a identity capsNorm claimLevels).identities a
            = some (withCapabilities (normalizeSoulCapabilitiesLoose capsNorm) row) := by
          show Function.update s.identities a _ a = _
          rw [Function.update_self, hrow]
          rfl
        obtain rfl := Except.ok.inj hs'
        cases typed with
        | true => exact hupdated.activation hrow' ((burned_withCapabilities _ _).trans hlive)
        | false => exact hupdated
      · rw [if_pos hstatus] at hs'
        cases hs'

end Publish

/-! ## Sequences of operations -/

inductive Move where
  | publish (agentID : AgentIDHex) (capsNorm : List String) (claimLevels : String → Option String)
      (typed : Bool)
  | rotateWallet (agentID : AgentIDHex) (onChainWallet : Option AgentIDHex)
  | burn (agentID : AgentIDHex)

/-- A publish that is refused changes nothing. -/
def step (s : Store) : Move → Store
  | .publish agentID capsNorm claimLevels typed =>
      match publishSoulUpdateRegistration s agentID capsNorm claimLevels typed with
      | .ok s' => s'
      | .error _ => s
  | .rotateWallet agentID onChainWallet => applySoulOperationRotateWalletSideEffects s agentID onChainWallet
  | .burn agentID => applySoulOperationBurnSideEffects s agentID

/-- A burn reaches the rows of its agent, and the contract shows no wallet for an agent that is burned. -/
def Reaches (s : Store) : Move → Prop
  | .publish .. => True
  | .rotateWallet agentID onChainWallet =>
      ∀ row, s.identities agentID = some row → burned row = true → onChainWallet = none
  | .burn agentID => ∀ row, s.identities agentID = some row → burned row = false → Reachable row

theorem Indexed.step {s : Store} (h : Indexed s) {m : Move} (hm : Reaches s m) : Indexed (step s m) := by
  cases m with
  | publish a capsNorm claimLevels typed =>
      unfold SoulIndexes.step
      dsimp only
      cases hs' : publishSoulUpdateRegistration s a capsNorm claimLevels typed with
      | ok s' => exact h.publish capsNorm claimLevels typed hs'
      | error e => exact h
  | rotateWallet a onChainWallet =>
      cases onChainWallet with
      | none => exact h
      | some wallet =>
          refine h.rotate fun row hrow => ?_
          by_contra hburned
          exact absurd (hm row hrow (Bool.not_eq_false _ ▸ hburned)) (by simp)
  | burn a => exact h.burn hm

/-- **Index rows mirror identities** as long as every burn reaches the rows of its agent. -/
theorem index_rows_mirror {s : Store} (h : Indexed s) {moves : List Move}
    (hmoves : Along step Reaches s moves) :
    Along step (fun s m => Mirrors (step s m)) s moves ∧ Mirrors (moves.foldl step s) := by
  induction moves generalizing s with
  | nil => exact ⟨trivial, h.mirrors⟩
  | cons m moves ih =>
      have hnext := h.step hmoves.1
      obtain ⟨halong, hlast⟩ := ih hnext hmoves.2
      exact ⟨⟨hnext.mirrors, halong⟩, hlast⟩

/-! ## One agent -/

theorem sampleAgent_hex : ∀ c ∈ "0xa".toList, isLowerHexChar c = true ∨ c = 'x' := by
  rw [← List.forall_iff_forall_mem]
  decide

def sampleAgent : AgentIDHex := ⟨"0xa", sampleAgent_hex⟩

def sampleIdentity (localID : String) : SoulAgentIdentity where
  Domain := "d"
  Wallet := "0xb"
  SelfDescriptionVersion := 0
  LifecycleStatus := SoulAgentStatusActive
  LifecycleReason := ""
  SuccessorAgentID := ""
  PredecessorAgentID := ""
  Status := SoulAgentStatusActive
  LocalID := localID
  Capabilities := []

def sampleWallet : SoulWalletAgentIndex := ⟨"0xb", sampleAgent⟩

def sampleDomain (localID : String) : SoulDomainAgentIndex := ⟨"d", localID, sampleAgent⟩

/-- The agent and its rows. -/
def sampleStore (localID : String) : Store where
  identities b := if b = sampleAgent then some (sampleIdentity localID) else none
  wallets k := if k = sampleWallet.key then some sampleWallet else none
  domains k := if k = (sampleDomain localID).key then some (sampleDomain localID) else none
  capabilities _ := none

theorem sample_present {localID : String} {b : AgentIDHex} {row : SoulAgentIdentity}
    (h : (sampleStore localID).identities b = some row) : b = sampleAgent ∧ row = sampleIdentity localID := by
  unfold sampleStore at h
  dsimp only at h
  split_ifs at h with hb
  exact ⟨hb, (Option.some.inj h).symm⟩

theorem sample_live (localID : String) :
    Present (sampleStore localID).identities sampleAgent (sampleIdentity localID) := by
  have hactive : ToLower (TrimSpace SoulAgentStatusActive) = SoulAgentStatusActive := by decide
  constructor
  · unfold sampleStore
    dsimp only
    rw [if_pos rfl]
  · unfold burned sampleIdentity
    dsimp only
    rw [hactive]
    decide

theorem sampleStore_indexed {localID : String} (hlocal : normalizeSoulLocalID localID = localID) :
    Indexed (sampleStore localID) := by
  have htexts : ToLower (TrimSpace "0xb") = "0xb" ∧ ToLower (TrimSpace "d") = "d" := by decide
  have hrow : ∀ (K R : Type) [DecidableEq K] (key : R → K) (own : R) (P : R → Prop),
      (∀ r, P r ↔ r = own) → Keyed.Holds key (fun k => if k = key own then some own else none) P := by
    intro K R _ key own P hP k r
    rw [hP]
    constructor
    · intro h
      dsimp only at h
      split_ifs at h with hk
      obtain rfl := Option.some.inj h
      exact ⟨hk, rfl⟩
    · rintro ⟨rfl, rfl⟩
      exact if_pos rfl
  refine ⟨fun b row h => ?_, hrow _ _ _ _ _ fun i => ?_, hrow _ _ _ _ _ fun i => ?_, fun _ _ => "", fun k i => ?_⟩
  · obtain ⟨-, rfl⟩ := sample_present h
    refine ⟨hlocal, ?_⟩
    unfold sampleIdentity
    dsimp only
    rw [htexts.1, ← List.forall_iff_forall_mem]
    decide
  · constructor
    · rintro ⟨row, hlive, hwallet, -⟩
      obtain ⟨w, b⟩ := i
      obtain ⟨rfl, rfl⟩ := sample_present hlive.1
      obtain rfl : w = "0xb" := hwallet.trans htexts.1
      rfl
    · rintro rfl
      exact ⟨_, sample_live localID, htexts.1.symm, by decide⟩
  · constructor
    · rintro ⟨row, hlive, hdomain, hlocal'⟩
      obtain ⟨d, l, b⟩ := i
      obtain ⟨rfl, rfl⟩ := sample_present hlive.1
      obtain rfl : d = "d" := hdomain.trans htexts.2
      obtain rfl : l = localID := hlocal'.trans hlocal
      rfl
    · rintro rfl
      exact ⟨_, sample_live localID, htexts.2.symm, hlocal.symm⟩
  · constructor
    · intro h
      cases h
    · rintro ⟨-, row, hlive, hmem, -⟩
      obtain ⟨-, rfl⟩ := sample_present hlive.1
      have hnone : normalizeSoulCapabilitiesLoose [] = [] := by decide
      have hmem : i.Capability ∈ normalizeSoulCapabilitiesLoose [] := hmem
      rw [hnone] at hmem
      cases hmem

/-- The agent has no local id. -/
theorem index_rows_mirror_sample : Mirrors ([Move.burn sampleAgent].foldl step (sampleStore "")) := by
  have hindexed : Indexed (sampleStore "") := sampleStore_indexed (by decide)
  have hreaches : Along step Reaches (sampleStore "") [Move.burn sampleAgent] := by
    refine ⟨fun row hrow _ => ?_, trivial⟩
    obtain ⟨-, rfl⟩ := sample_present hrow
    exact ⟨by decide, rfl, by decide⟩
  exact (index_rows_mirror hindexed hreaches).2

theorem burnt_domain :
    ((step (sampleStore "bob") (.burn sampleAgent)).domains (sampleDomain "bob").key).any
        (fun i => decide (i.AgentID = sampleAgent)) = true ∧
      ((step (sampleStore "bob") (.burn sampleAgent)).identities sampleAgent).all burned = true := by
  decide

theorem not_index_rows_mirror :
    ¬ ∀ s : Store, Indexed s → ∀ moves : List Move, Mirrors (moves.foldl step s) := by
  intro h
  have hindexed : Indexed (sampleStore "bob") := sampleStore_indexed (by decide)
  have hmirrors : Mirrors (step (sampleStore "bob") (.burn sampleAgent)) :=
    h _ hindexed [.burn sampleAgent]
  obtain ⟨hrow, hburned⟩ := burnt_domain
  -- the row of the burned agent is still there
  obtain ⟨i, hi, hagent⟩ := (Option.any_eq_true _ _).1 hrow
  refine hmirrors.noDomain sampleAgent (fun row hlive => ?_) _ i hi (of_decide_eq_true hagent)
  rw [hlive.1, Option.all_some, hlive.2] at hburned
  cases hburned

end LesserHost.SoulIndexes
