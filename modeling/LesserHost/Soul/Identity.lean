import LesserHost.Ens.Names
import LesserHost.Mailbox.List
import LesserHost.SoulComm.Message

set_option autoImplicit false

/-! # Ids and names of agents

`internal/soul/agent_id.go`, `internal/domains/normalize.go` and `internal/soul/managed_identity.go`: an
agent is identified by the hash of its domain and its local id, joined with a slash, and a managed
agent has an ENS name put together from its handle and the slug of its instance. The domain, the
local id, the handle and the slug each have a grammar of lower case letters, digits and a few signs,
so that the separators tell the parts apart again (`DeriveAgentIDHex_injective`,
`ManagedENSName_injective`) and a second normalisation finds nothing to change. -/

namespace LesserHost.Soul

open LesserHost.Go
open LesserHost.ControlPlane (isHandleEnd isHandleChar managedHandleRE ValidateManagedHandle
  ValidateManagedHandle_eq)
open LesserHost.Ens (ManagedENSRootName IsLegacyBareManagedENSName TrimSuffix_of_not TrimSuffix_dot
  getLast?_intercalate not_mem_of_mem_splitOn)
open LesserHost.SoulContacts (TrimSuffix)
open LesserHost.Mailbox (Contains)

/-! ## Normal forms -/

def isLocalChar (c : Char) : Bool := isHandleChar c || c == '_' || c == '.'

/-- `^[a-z0-9][a-z0-9_.-]{1,62}[a-z0-9]$` -/
def localAgentIDRE (s : String) : Bool :=
  let cs := s.toList
  decide (3 ≤ cs.length) && decide (cs.length ≤ 64) && cs.all isLocalChar
    && cs.head?.any isHandleEnd && cs.getLast?.any isHandleEnd

def NormalizeLocalAgentID (raw : String) : Except String String :=
  let local_ := ToLower (TrimSuffix (TrimPrefix (TrimSpace raw) "@") "/")
  if local_ = "" then .error "local_id is required"
  else if ContainsAny local_ "/:@" then .error "local_id must not contain /, :, or @"
  else if len local_ < 3 ∨ 64 < len local_ then
    .error "local_id must be between 3 and 64 characters"
  else if localAgentIDRE local_ = false then .error "invalid local_id"
  else .ok local_

/-- `idna.Lookup.ToASCII` and `net.ParseIP`; none is their error. -/
structure NetLib where
  ToASCII : String → Option String
  ParseIP : String → Option Bytes

/-- What is relied on of the lookup profile: its results are in lower case and without white space,
it finds nothing more to do in them, and a dot at the end, before the empty label of the root, does
not matter to the labels before it. -/
structure NetLib.Documented (lib : NetLib) : Prop where
  idempotent : ∀ {s ascii}, lib.ToASCII s = some ascii → lib.ToASCII ascii = some ascii
  lower : ∀ {s ascii}, lib.ToASCII s = some ascii → ToLower ascii = ascii
  trimmed : ∀ {s ascii}, lib.ToASCII s = some ascii → IsTrimmed ascii
  root : ∀ {s ascii}, lib.ToASCII (s ++ ".") = some (ascii ++ ".") → lib.ToASCII s = some ascii

/-- `^[a-z0-9](?:[a-z0-9-]{0,61}[a-z0-9])?$` -/
def dnsLabelRE (label : String) : Bool :=
  let cs := label.toList
  decide (cs.length ≤ 63) && cs.all isHandleChar && cs.head?.any isHandleEnd
    && cs.getLast?.any isHandleEnd

/-- What `NormalizeDomain` asks of the name in ASCII. -/
def checkASCIIDomain (lib : NetLib) (ascii : String) : Except String String :=
  if ascii = "" then .error "invalid domain"
  else if 253 < len ascii then .error "domain is too long"
  else if (lib.ParseIP ascii).isSome then .error "invalid domain"
  else if (Split ascii '.').length < 2 then .error "domain must include a public suffix"
  else if ¬ ∀ label ∈ Split ascii '.', dnsLabelRE label = true then .error "invalid domain"
  else .ok ascii

def NormalizeDomain (lib : NetLib) (raw : String) : Except String String :=
  let raw := TrimSpace raw
  if raw = "" then .error "domain is required"
  else
    let raw := ToLower (TrimSuffix raw ".")
    if Contains raw "://" then .error "domain must not include scheme"
    else if ContainsAny raw "/:@" then
      .error "domain must not include path, port, or credentials"
    else if Contains raw "*" then .error "wildcards are not allowed"
    else
      match lib.ToASCII raw with
      | none => .error "invalid domain"
      | some ascii => checkASCIIDomain lib (TrimSuffix (ToLower (TrimSpace ascii)) ".")

def DeriveAgentIDHex (keccak256 : Bytes → Vector UInt8 32) (normalizedDomain : String)
    (normalizedLocalAgentID : String) : Except String String :=
  let normalizedDomain := ToLower (TrimSpace normalizedDomain)
  let normalizedLocalAgentID := ToLower (TrimSpace normalizedLocalAgentID)
  if normalizedDomain = "" then .error "normalizedDomain is required"
  else if normalizedLocalAgentID = "" then .error "normalizedLocalAgentID is required"
  else
    let sum := keccak256 (bytes (normalizedDomain ++ "/" ++ normalizedLocalAgentID))
    .ok ("0x" ++ String.ofList (hexEncode sum.toList))

/-- `^[a-z0-9](?:[a-z0-9-]{1,61}[a-z0-9])?$`: one character, or three and more. -/
def managedInstanceSlugRE (s : String) : Bool :=
  let cs := s.toList
  (decide (cs.length = 1) || decide (3 ≤ cs.length) && decide (cs.length ≤ 63))
    && cs.all isHandleChar && cs.head?.any isHandleEnd && cs.getLast?.any isHandleEnd

def ValidateManagedInstanceSlug (raw : String) : Except String String :=
  let slug := ToLower (TrimSpace raw)
  if slug = "" then .error "managed instance slug is required"
  else if managedInstanceSlugRE slug = false then
    .error ("managed instance slug must be lowercase letters, digits, or hyphens and start/end "
      ++ "with a letter or digit")
  else .ok slug

def ManagedENSName (name instanceSlug : String) : Except String String :=
  match ValidateManagedHandle name with
  | .error e => .error e
  | .ok handle =>
      match ValidateManagedInstanceSlug instanceSlug with
      | .error e => .error e
      | .ok slug => .ok (handle ++ "." ++ slug ++ "." ++ ManagedENSRootName)

/-! ## The characters of the grammars -/

theorem toNat_lt_of_isLocalChar {c : Char} (h : isLocalChar c = true) : c.toNat < 128 := by
  have hle : ∀ {d : Char}, c ≤ d → c.toNat ≤ d.toNat := fun hd => hd
  simp only [isLocalChar, isHandleChar, isHandleEnd, Bool.or_eq_true, Bool.and_eq_true,
    decide_eq_true_eq, beq_iff_eq] at h
  rcases h with (((⟨-, h⟩ | ⟨-, h⟩) | h) | h) | h
  · exact lt_of_le_of_lt (hle h) (by decide)
  · exact lt_of_le_of_lt (hle h) (by decide)
  · rw [h]
    decide
  · rw [h]
    decide
  · rw [h]
    decide

/-- No character of a local id, and so none of a label, is white space, has another lower case or
is one of the signs that are refused. -/
theorem plain_of_isLocalChar {c : Char} (h : isLocalChar c = true) :
    isSpace c = false ∧ toLowerChar c = c ∧ c ∉ ['/', ':', '@', '*'] := by
  have hall : ∀ n < 128, isLocalChar (Char.ofNat n) = true → isSpace (Char.ofNat n) = false ∧
      toLowerChar (Char.ofNat n) = Char.ofNat n ∧ Char.ofNat n ∉ ['/', ':', '@', '*'] := by
    decide +kernel
  have hc := hall c.toNat (toNat_lt_of_isLocalChar h)
  rw [Char.ofNat_toNat] at hc
  exact hc h

theorem isLocalChar_of_isHandleChar {c : Char} (h : isHandleChar c = true) :
    isLocalChar c = true := by
  rw [isLocalChar, h]
  rfl

theorem ne_dot_of_isHandleChar {c : Char} (h : isHandleChar c = true) : c ≠ '.' := by
  rintro rfl
  revert h
  decide

/-- A text of such characters only. -/
def Plain (s : String) : Prop := ∀ c ∈ s.toList, isLocalChar c = true

section Plain

variable {s : String}

theorem Plain.isTrimmed (h : Plain s) : IsTrimmed s :=
  Trimmed.of_forall fun c hc => (plain_of_isLocalChar (h c hc)).1

theorem Plain.ToLower_eq (h : Plain s) : ToLower s = s := by
  rw [← String.toList_inj, toList_ToLower]
  exact (List.map_congr_left fun c hc => (plain_of_isLocalChar (h c hc)).2.1).trans
    (List.map_id' _)

theorem Plain.not_mem (h : Plain s) {c : Char} (hc : c ∈ ['/', ':', '@', '*']) : c ∉ s.toList :=
  fun hmem => (plain_of_isLocalChar (h c hmem)).2.2 hc

theorem Plain.not_ContainsAny (h : Plain s) : ContainsAny s "/:@" = false := by
  rw [ContainsAny, List.any_eq_false]
  intro c hc hany
  have hmem : c ∈ ['/', ':', '@'] := by simpa using hany
  exact (plain_of_isLocalChar (h c hc)).2.2 (List.mem_append_left ['*'] hmem)

theorem Plain.not_Contains (h : Plain s) {c : Char} {substr : String} (hsub : c ∈ substr.toList)
    (hc : c ∈ ['/', ':', '@', '*']) : Contains s substr = false := by
  refine decide_eq_false fun hpart => ?_
  exact h.not_mem hc (hpart.subset hsub)

theorem Plain.TrimPrefix_eq (h : Plain s) : TrimPrefix s "@" = s := by
  refine if_neg fun hpre => ?_
  obtain ⟨rest, hrest⟩ := List.isPrefixOf_iff_prefix.1 hpre
  refine h.not_mem (c := '@') (by decide) ?_
  rw [← hrest]
  exact List.mem_append_left _ (by decide)

theorem Plain.TrimSuffix_eq (h : Plain s) : TrimSuffix s "/" = s := by
  refine if_neg fun hsuf => ?_
  obtain ⟨rest, hrest⟩ := List.isSuffixOf_iff_suffix.1 hsuf
  refine h.not_mem (c := '/') (by decide) ?_
  rw [← hrest]
  exact List.mem_append_right _ (by decide)

end Plain

/-! ## Local ids -/

theorem plain_of_localAgentIDRE {s : String} (h : localAgentIDRE s = true) : Plain s := by
  simp only [localAgentIDRE, Bool.and_eq_true, List.all_eq_true] at h
  exact h.1.1.2

/-- What is accepted as a local id, accepted as it is. -/
theorem NormalizeLocalAgentID_ok {raw id : String} (h : NormalizeLocalAgentID raw = .ok id) :
    Plain id ∧ id ≠ "" ∧ NormalizeLocalAgentID id = .ok id := by
  simp only [NormalizeLocalAgentID] at h
  split_ifs at h with hempty hany hlen hre
  have hid := Except.ok.inj h
  rw [hid] at hempty hany hlen hre
  rw [Bool.not_eq_false] at hre
  have hplain := plain_of_localAgentIDRE hre
  refine ⟨hplain, hempty, ?_⟩
  have hsame : ToLower (TrimSuffix (TrimPrefix (TrimSpace id) "@") "/") = id := by
    rw [hplain.isTrimmed.TrimSpace_eq, hplain.TrimPrefix_eq, hplain.TrimSuffix_eq,
      hplain.ToLower_eq]
  simp only [NormalizeLocalAgentID, hsame]
  rw [if_neg hempty, if_neg hany, if_neg hlen, if_neg (by simp [hre])]

/-! ## Domains -/

theorem dnsLabelRE_ok {label : String} (h : dnsLabelRE label = true) :
    (∀ c ∈ label.toList, isHandleChar c = true) ∧ label.toList ≠ [] := by
  simp only [dnsLabelRE, Bool.and_eq_true, List.all_eq_true] at h
  refine ⟨h.1.1.2, fun hnil => ?_⟩
  have hhead := h.1.2
  rw [hnil] at hhead
  exact absurd hhead (by decide)

theorem Join_Split (s : String) : Join (Split s '.') "." = s := by
  rw [← String.toList_inj, Join, String.toList_intercalate, Split, List.map_map]
  have hid : String.toList ∘ String.ofList = id := funext fun l => String.toList_ofList
  rw [hid, List.map_id]
  exact List.intercalate_splitOn '.'

/-- A domain of proper labels has no sign but dots between them, and none at its end. -/
theorem plain_of_labels {ascii : String}
    (h : ∀ label ∈ Split ascii '.', dnsLabelRE label = true) :
    Plain ascii ∧ ascii.toList.getLast? ≠ some '.' := by
  constructor
  · intro c hc
    rw [← Join_Split ascii] at hc
    rcases SoulComm.mem_Join hc with hdot | ⟨label, hlabel, hc⟩
    · obtain rfl := List.mem_singleton.1 hdot
      decide
    · exact isLocalChar_of_isHandleChar ((dnsLabelRE_ok (h label hlabel)).1 c hc)
  · have hpieces : ∀ piece ∈ ascii.toList.splitOn '.', piece ≠ [] := by
      intro piece hpiece
      have hok := (dnsLabelRE_ok (h _ (List.mem_map_of_mem hpiece))).2
      rwa [String.toList_ofList] at hok
    have hlast := getLast?_intercalate hpieces fun piece hpiece => not_mem_of_mem_splitOn hpiece
    rwa [List.intercalate_splitOn] at hlast

theorem checkASCIIDomain_ok {lib : NetLib} {ascii d : String}
    (h : checkASCIIDomain lib ascii = .ok d) :
    d = ascii ∧ Plain d ∧ d ≠ "" ∧ d.toList.getLast? ≠ some '.' := by
  unfold checkASCIIDomain at h
  split_ifs at h with hempty hlen hip hparts hlabels
  have hd : ascii = d := Except.ok.inj h
  obtain ⟨hplain, hlast⟩ := plain_of_labels hlabels
  rw [← hd]
  exact ⟨rfl, hplain, hempty, hlast⟩

/-- The name in ASCII is what the domain is looked up under, with or without the dot at its end. -/
theorem ToASCII_of_TrimSuffix {lib : NetLib} (hlib : lib.Documented) {s ascii : String}
    (h : lib.ToASCII s = some ascii) :
    lib.ToASCII (TrimSuffix ascii ".") = some (TrimSuffix ascii ".") := by
  have hidem := hlib.idempotent h
  by_cases hdot : ascii.toList.getLast? = some '.'
  · obtain ⟨l, hl⟩ := List.getLast?_eq_some_iff.1 hdot
    have hascii : ascii = String.ofList l ++ "." := by
      rw [← String.toList_inj, String.toList_append, String.toList_ofList]
      exact hl
    have htrim : TrimSuffix ascii "." = String.ofList l := by
      rw [← TrimSuffix_dot l, ← hl, String.ofList_toList]
    rw [htrim]
    rw [hascii] at hidem
    exact hlib.root hidem
  · rw [TrimSuffix_of_not hdot]
    exact hidem

/-- What is accepted as a domain, accepted as it is. -/
theorem NormalizeDomain_ok {lib : NetLib} (hlib : lib.Documented) {raw d : String}
    (h : NormalizeDomain lib raw = .ok d) : Plain d ∧ d ≠ "" ∧ NormalizeDomain lib d = .ok d := by
  simp only [NormalizeDomain] at h
  split_ifs at h
  cases hascii : lib.ToASCII (ToLower (TrimSuffix (TrimSpace raw) ".")) with
  | none =>
      rw [hascii] at h
      exact absurd h (by simp)
  | some ascii =>
      rw [hascii] at h
      have hcheck : checkASCIIDomain lib (TrimSuffix (ToLower (TrimSpace ascii)) ".") = .ok d := h
      rw [(hlib.trimmed hascii).TrimSpace_eq, hlib.lower hascii] at hcheck
      obtain ⟨hd, hplain, hne, hlast⟩ := checkASCIIDomain_ok hcheck
      refine ⟨hplain, hne, ?_⟩
      have hagain : lib.ToASCII d = some d := by
        rw [hd]
        exact ToASCII_of_TrimSuffix hlib hascii
      have hslash : Contains d "://" = false := hplain.not_Contains (c := '/') (by decide) (by decide)
      have hstar : Contains d "*" = false := hplain.not_Contains (c := '*') (by decide) (by decide)
      simp only [NormalizeDomain, hplain.isTrimmed.TrimSpace_eq, TrimSuffix_of_not hlast,
        hplain.ToLower_eq, hslash, hstar, hplain.not_ContainsAny, hagain]
      rw [if_neg hne]
      rw [← hd] at hcheck
      exact hcheck

/-! ## Agent ids -/

theorem append_sep_inj {α : Type} {sep : α} {l l' r r' : List α} (hl : sep ∉ l) (hl' : sep ∉ l')
    (h : l ++ sep :: r = l' ++ sep :: r') : l = l' ∧ r = r' := by
  induction l generalizing l' with
  | nil =>
      cases l' with
      | nil => exact ⟨rfl, (List.cons.inj h).2⟩
      | cons a l' => exact absurd ((List.cons.inj h).1 ▸ List.mem_cons_self) hl'
  | cons a l ih =>
      cases l' with
      | nil => exact absurd ((List.cons.inj h).1 ▸ List.mem_cons_self) hl
      | cons b l' =>
          obtain ⟨hab, hrest⟩ := List.cons.inj h
          obtain ⟨hl₂, hr⟩ := ih (fun hm => hl (List.mem_cons_of_mem _ hm))
            (fun hm => hl' (List.mem_cons_of_mem _ hm)) hrest
          rw [hab, hl₂]
          exact ⟨rfl, hr⟩

/-- The text an agent id is the hash of. -/
def agentIDText (domain localID : String) : String := domain ++ "/" ++ localID

theorem agentIDText_injective {d d' l l' : String} (hd : Plain d) (hd' : Plain d')
    (h : agentIDText d l = agentIDText d' l') : d = d' ∧ l = l' := by
  have hlist := congrArg String.toList h
  simp only [agentIDText, String.toList_append, List.append_assoc] at hlist
  obtain ⟨hdom, hloc⟩ := append_sep_inj (hd.not_mem (by decide))
    (hd'.not_mem (by decide)) hlist
  exact ⟨String.toList_inj.1 hdom, String.toList_inj.1 hloc⟩

theorem DeriveAgentIDHex_eq {keccak256 : Bytes → Vector UInt8 32} {d l : String} (hd : Plain d)
    (hl : Plain l) (hd₀ : d ≠ "") (hl₀ : l ≠ "") : DeriveAgentIDHex keccak256 d l =
      .ok ("0x" ++ String.ofList (hexEncode (keccak256 (bytes (agentIDText d l))).toList)) := by
  simp only [DeriveAgentIDHex, hd.isTrimmed.TrimSpace_eq, hl.isTrimmed.TrimSpace_eq, hd.ToLower_eq,
    hl.ToLower_eq]
  rw [if_neg hd₀, if_neg hl₀, agentIDText]

/-- Agents of different domains or local ids have different ids, as far as the hash tells the texts
apart. -/
theorem DeriveAgentIDHex_injective {keccak256 : Bytes → Vector UInt8 32} {hashed : Set Bytes}
    (hkeccak : Set.InjOn keccak256 hashed) {d d' l l' : String} (hd : Plain d) (hd' : Plain d')
    (hl : Plain l) (hl' : Plain l') (hd₀ : d ≠ "") (hd₀' : d' ≠ "") (hl₀ : l ≠ "") (hl₀' : l' ≠ "")
    (hmem : bytes (agentIDText d l) ∈ hashed) (hmem' : bytes (agentIDText d' l') ∈ hashed)
    (h : DeriveAgentIDHex keccak256 d l = DeriveAgentIDHex keccak256 d' l') : d = d' ∧ l = l' := by
  rw [DeriveAgentIDHex_eq hd hl hd₀ hl₀, DeriveAgentIDHex_eq hd' hl' hd₀' hl₀'] at h
  have htext := congrArg String.toList (Except.ok.inj h)
  simp only [String.toList_append, String.toList_ofList] at htext
  have hhash := Vector.toList_inj.1 (hexEncode_injective (List.append_cancel_left htext))
  exact agentIDText_injective hd hd' (bytes_injective (hkeccak hmem hmem' hhash))

/-! ## Managed names -/

theorem handle_ok {name handle : String} (h : ValidateManagedHandle name = .ok handle) :
    handle = name ∧ (∀ c ∈ handle.toList, isHandleChar c = true) ∧ handle.toList ≠ [] := by
  have hname := ValidateManagedHandle_eq h
  simp only [ValidateManagedHandle] at h
  split_ifs at h with hempty htrim hre
  have hh := Except.ok.inj h
  rw [hh, Bool.not_eq_false] at hre
  simp only [managedHandleRE, Bool.and_eq_true, List.all_eq_true, decide_eq_true_eq] at hre
  refine ⟨hname, hre.1.1.2, fun hnil => ?_⟩
  have hlen := hre.1.1.1.1
  rw [hnil] at hlen
  exact absurd hlen (by decide)

theorem slug_ok {raw slug : String} (h : ValidateManagedInstanceSlug raw = .ok slug) :
    (∀ c ∈ slug.toList, isHandleChar c = true) ∧ slug.toList ≠ [] := by
  simp only [ValidateManagedInstanceSlug] at h
  split_ifs at h with hempty hre
  have hs := Except.ok.inj h
  rw [hs] at hempty hre
  rw [Bool.not_eq_false] at hre
  simp only [managedInstanceSlugRE, Bool.and_eq_true, List.all_eq_true] at hre
  exact ⟨hre.1.1.2, fun hnil => hempty (String.toList_inj.1 (hnil.trans String.toList_empty.symm))⟩

theorem not_mem_dot {s : String} (h : ∀ c ∈ s.toList, isHandleChar c = true) : '.' ∉ s.toList :=
  fun hmem => ne_dot_of_isHandleChar (h '.' hmem) rfl

theorem ManagedENSName_ok {name instanceSlug ens : String}
    (h : ManagedENSName name instanceSlug = .ok ens) :
    ∃ slug, ValidateManagedHandle name = .ok name ∧
      ValidateManagedInstanceSlug instanceSlug = .ok slug ∧
      ens = name ++ "." ++ slug ++ "." ++ ManagedENSRootName := by
  unfold ManagedENSName at h
  cases hhandle : ValidateManagedHandle name with
  | error e =>
      rw [hhandle] at h
      cases h
  | ok handle =>
      rw [hhandle] at h
      cases hslug : ValidateManagedInstanceSlug instanceSlug with
      | error e =>
          rw [hslug] at h
          cases h
      | ok slug =>
          rw [hslug] at h
          have hname := (handle_ok hhandle).1
          refine ⟨slug, by rw [hname], rfl, ?_⟩
          rw [← hname]
          exact (Except.ok.inj h).symm

theorem ManagedENSName_injective {name name' instanceSlug instanceSlug' ens : String}
    (h : ManagedENSName name instanceSlug = .ok ens)
    (h' : ManagedENSName name' instanceSlug' = .ok ens) :
    name = name' ∧
      ValidateManagedInstanceSlug instanceSlug = ValidateManagedInstanceSlug instanceSlug' := by
  obtain ⟨slug, hhandle, hslug, hens⟩ := ManagedENSName_ok h
  obtain ⟨slug', hhandle', hslug', hens'⟩ := ManagedENSName_ok h'
  have hlist := congrArg String.toList (hens.symm.trans hens')
  simp only [String.toList_append, List.append_assoc] at hlist
  obtain ⟨hname, hrest⟩ := append_sep_inj (not_mem_dot (handle_ok hhandle).2.1)
    (not_mem_dot (handle_ok hhandle').2.1) hlist
  obtain ⟨hs, -⟩ := append_sep_inj (not_mem_dot (slug_ok hslug).1)
    (not_mem_dot (slug_ok hslug').1) hrest
  rw [hslug, hslug', String.toList_inj.1 hs]
  exact ⟨String.toList_inj.1 hname, rfl⟩

/-- The labels of a managed name are four, those of a name without an instance three. -/
theorem Split_managed {name slug : String} (hname : ∀ c ∈ name.toList, isHandleChar c = true)
    (hslug : ∀ c ∈ slug.toList, isHandleChar c = true) :
    Split (name ++ "." ++ slug ++ "." ++ ManagedENSRootName) '.' =
      [name, slug, "lessersoul", "eth"] := by
  have hjoin : (name ++ "." ++ slug ++ "." ++ ManagedENSRootName).toList =
      ['.'].intercalate [name.toList, slug.toList, "lessersoul".toList, "eth".toList] := by
    simp [ManagedENSRootName, List.intercalate, List.intersperse]
  have hdots : ∀ l ∈ [name.toList, slug.toList, "lessersoul".toList, "eth".toList], '.' ∉ l := by
    intro l hl
    simp only [List.mem_cons, List.not_mem_nil, or_false] at hl
    rcases hl with rfl | rfl | rfl | rfl
    · exact not_mem_dot hname
    · exact not_mem_dot hslug
    · decide
    · decide
  rw [Split, hjoin, List.splitOn_intercalate '.' hdots (List.cons_ne_nil _ _)]
  simp

theorem ManagedENSName_not_legacy {name instanceSlug ens : String}
    (h : ManagedENSName name instanceSlug = .ok ens) : IsLegacyBareManagedENSName ens = false := by
  obtain ⟨slug, hhandle, hslug, hens⟩ := ManagedENSName_ok h
  have hname := (handle_ok hhandle).2.1
  have hs := (slug_ok hslug).1
  have hplain : Plain ens := by
    intro c hc
    simp only [hens, String.toList_append, List.mem_append] at hc
    rcases hc with (((hc | hc) | hc) | hc) | hc
    · exact isLocalChar_of_isHandleChar (hname c hc)
    · obtain rfl := List.mem_singleton.1 hc
      decide
    · exact isLocalChar_of_isHandleChar (hs c hc)
    · obtain rfl := List.mem_singleton.1 hc
      decide
    · have hall : ManagedENSRootName.toList.all isLocalChar = true := by decide
      exact List.all_eq_true.1 hall c hc
  have hlast : ens.toList.getLast? ≠ some '.' := by
    have hroot : ManagedENSRootName.toList.getLast? = some 'h' := by decide
    rw [hens, getLast?_append hroot]
    decide
  unfold IsLegacyBareManagedENSName
  rw [hplain.isTrimmed.TrimSpace_eq, hplain.ToLower_eq, TrimSuffix_of_not hlast, hens,
    Split_managed hname hs]

/-! ## Identities -/

/-- Accepted domains, local ids and names are normal and tell agents apart: the second normalisation
of a domain or a local id returns it, the id of an agent belongs to one domain and local id, and a
managed name belongs to one handle and slug and is no name of the time before slugs. -/
theorem identities_canonical {lib : NetLib} (hlib : lib.Documented)
    {keccak256 : Bytes → Vector UInt8 32} {hashed : Set Bytes}
    (hkeccak : Set.InjOn keccak256 hashed) :
    (∀ raw d, NormalizeDomain lib raw = .ok d → NormalizeDomain lib d = .ok d) ∧
    (∀ raw l, NormalizeLocalAgentID raw = .ok l → NormalizeLocalAgentID l = .ok l) ∧
    (∀ rawDomain rawDomain' rawLocal rawLocal' d d' l l',
      NormalizeDomain lib rawDomain = .ok d → NormalizeDomain lib rawDomain' = .ok d' →
      NormalizeLocalAgentID rawLocal = .ok l → NormalizeLocalAgentID rawLocal' = .ok l' →
      bytes (agentIDText d l) ∈ hashed → bytes (agentIDText d' l') ∈ hashed →
      DeriveAgentIDHex keccak256 d l = DeriveAgentIDHex keccak256 d' l' → d = d' ∧ l = l') ∧
    (∀ name name' instanceSlug instanceSlug' ens,
      ManagedENSName name instanceSlug = .ok ens → ManagedENSName name' instanceSlug' = .ok ens →
      ValidateManagedHandle name = ValidateManagedHandle name' ∧
        ValidateManagedInstanceSlug instanceSlug = ValidateManagedInstanceSlug instanceSlug') ∧
    (∀ name instanceSlug ens, ManagedENSName name instanceSlug = .ok ens →
      IsLegacyBareManagedENSName ens = false) := by
  refine ⟨?_, ?_, ?_, ?_, ?_⟩
  · intro raw d h
    exact (NormalizeDomain_ok hlib h).2.2
  · intro raw l h
    exact (NormalizeLocalAgentID_ok h).2.2
  · intro rawDomain rawDomain' rawLocal rawLocal' d d' l l' hd hd' hl hl' hmem hmem' heq
    obtain ⟨hplain, hne, -⟩ := NormalizeDomain_ok hlib hd
    obtain ⟨hplain', hne', -⟩ := NormalizeDomain_ok hlib hd'
    obtain ⟨hlplain, hlne, -⟩ := NormalizeLocalAgentID_ok hl
    obtain ⟨hlplain', hlne', -⟩ := NormalizeLocalAgentID_ok hl'
    exact DeriveAgentIDHex_injective hkeccak hplain hplain' hlplain hlplain' hne hne' hlne hlne'
      hmem hmem' heq
  · intro name name' instanceSlug instanceSlug' ens h h'
    obtain ⟨hname, hslug⟩ := ManagedENSName_injective h h'
    rw [hname]
    exact ⟨rfl, hslug⟩
  · intro name instanceSlug ens h
    exact ManagedENSName_not_legacy h

/-- A lookup profile that takes names of lower case letters, digits and hyphens only. -/
def sampleNetLib : NetLib where
  ToASCII s := if s.toList.all isLocalChar then some s else none
  ParseIP _ := none

theorem sampleNetLib_ToASCII {s ascii : String} (h : sampleNetLib.ToASCII s = some ascii) :
    s = ascii ∧ s.toList.all isLocalChar = true := by
  have h' : (if s.toList.all isLocalChar then some s else none) = some ascii := h
  split_ifs at h' with hall
  exact ⟨Option.some.inj h', hall⟩

theorem sampleNetLib_documented : sampleNetLib.Documented where
  idempotent h := by
    obtain ⟨hs, -⟩ := sampleNetLib_ToASCII h
    rw [← hs]
    rwa [← hs] at h
  lower h := by
    obtain ⟨hs, hall⟩ := sampleNetLib_ToASCII h
    rw [← hs]
    exact Plain.ToLower_eq (List.all_eq_true.1 hall)
  trimmed h := by
    obtain ⟨hs, hall⟩ := sampleNetLib_ToASCII h
    rw [← hs]
    exact Plain.isTrimmed (List.all_eq_true.1 hall)
  root {s ascii} h := by
    obtain ⟨hs, hall⟩ := sampleNetLib_ToASCII h
    have hname : s.toList = ascii.toList := by
      have hlist := congrArg String.toList hs
      rw [String.toList_append, String.toList_append] at hlist
      exact List.append_cancel_right hlist
    rw [String.toList_append, List.all_append, Bool.and_eq_true] at hall
    exact (if_pos hall.1).trans (congrArg some (String.toList_inj.1 hname))

/-- A hash that keeps the first 32 bytes. -/
def firstBytes (text : Bytes) : Vector UInt8 32 := Vector.ofFn fun i => text.getD i 0

/-- The two texts `a.io/bob` and `a.io/eve`. -/
def sampleTexts : Set Bytes := fun text =>
  text = bytes (agentIDText "a.io" "bob") ∨ text = bytes (agentIDText "a.io" "eve")

theorem firstBytes_injOn : Set.InjOn firstBytes sampleTexts := by
  have hne : firstBytes (bytes (agentIDText "a.io" "bob")) ≠
      firstBytes (bytes (agentIDText "a.io" "eve")) := by decide +kernel
  rintro x (hx | hx) y (hy | hy) h
  · rw [hx, hy]
  · rw [hx, hy] at h
    exact absurd h hne
  · rw [hx, hy] at h
    exact absurd h.symm hne
  · rw [hx, hy]

theorem identities_canonical_sample :
    NormalizeDomain sampleNetLib "a.io" = .ok "a.io" ∧
    DeriveAgentIDHex firstBytes "a.io" "bob" ≠ DeriveAgentIDHex firstBytes "a.io" "eve" ∧
    IsLegacyBareManagedENSName "bob.a1b.lessersoul.eth" = false := by
  obtain ⟨hdomain, -, hid, -, hlegacy⟩ :=
    identities_canonical sampleNetLib_documented firstBytes_injOn
  have hraw : NormalizeDomain sampleNetLib " A.io. " = .ok "a.io" := by decide +kernel
  refine ⟨hdomain _ _ hraw, fun heq => ?_, hlegacy "bob" "A1b" _ (by decide +kernel)⟩
  have hsame := hid " A.io. " " A.io. " "@Bob" "eve/" "a.io" "a.io" "bob" "eve" hraw hraw
    (by decide +kernel) (by decide +kernel) (Or.inl rfl) (Or.inr rfl) heq
  exact absurd hsame.2 (by decide)

end LesserHost.Soul
