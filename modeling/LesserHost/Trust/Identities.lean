import LesserHost.SoulComm.Message

set_option autoImplicit false

/-! # Ids of jobs and keys of cached answers

`linkSafetyBasicJobID` and `linkSafetyBasicLinksHash` of `internal/trust/link_safety_basic.go` and `CacheKey`
of `internal/ai/contract.go` hash the trimmed fields of a request joined with bars, and its sorted
links joined with line breaks. Nothing keeps a bar or a line break out of a field, so that two
requests can have the same text. They do so only where the separators stand in different fields:
requests with one id agree if and only if their fields have equally many of them
(`identities_agree`). -/

namespace LesserHost.Trust

open LesserHost.Go
open LesserHost.SoulComm (sortStrings)

/-! ## Joined fields -/

section Joined

variable {α : Type} [DecidableEq α] {sep : α}

/-- A field is told apart from what follows it by the number of separators in it. -/
theorem append_sep_inj_of_count {l l' r r' : List α} (hcount : l.count sep = l'.count sep)
    (h : l ++ sep :: r = l' ++ sep :: r') : l = l' ∧ r = r' := by
  rcases List.append_eq_append_iff.1 h with ⟨m, hl', hr⟩ | ⟨m, hl, hr⟩
  · cases m with
    | nil =>
        rw [List.append_nil] at hl'
        exact ⟨hl'.symm, (List.cons.inj hr).2⟩
    | cons a m =>
        rw [hl', ← (List.cons.inj hr).1, List.count_append, List.count_cons_self] at hcount
        omega
  · cases m with
    | nil =>
        rw [List.append_nil] at hl
        exact ⟨hl, (List.cons.inj hr).2.symm⟩
    | cons a m =>
        rw [hl, ← (List.cons.inj hr).1, List.count_append, List.count_cons_self] at hcount
        omega

/-- Joined fields with equally many separators in each place are the same fields. -/
theorem intercalate_inj_of_count {fields fields' : List (List α)}
    (hcount : fields.map (List.count sep) = fields'.map (List.count sep))
    (h : [sep].intercalate fields = [sep].intercalate fields') : fields = fields' := by
  induction fields generalizing fields' with
  | nil =>
      cases fields' with
      | nil => rfl
      | cons f' rest' => cases hcount
  | cons f rest ih =>
      cases fields' with
      | nil => cases hcount
      | cons f' rest' =>
          rw [List.map_cons, List.map_cons] at hcount
          obtain ⟨hhead, htail⟩ := List.cons.inj hcount
          cases rest with
          | nil =>
              cases rest' with
              | nil => rw [List.intercalate_singleton, List.intercalate_singleton] at h; rw [h]
              | cons g' rest' => cases htail
          | cons g rest =>
              cases rest' with
              | nil => cases htail
              | cons g' rest' =>
                  rw [List.intercalate_cons_cons, List.intercalate_cons_cons, List.append_assoc,
                    List.append_assoc] at h
                  obtain ⟨hf, hrest⟩ := append_sep_inj_of_count hhead h
                  rw [hf, ih htail hrest]

end Joined

/-- How many of the separators stand in each field. -/
def separators (sep : Char) (fields : List String) : List Nat :=
  fields.map fun field => field.toList.count sep

theorem Join_inj_of_separators (sep : Char) {fields fields' : List String}
    (hcount : separators sep fields = separators sep fields')
    (h : Join fields (String.singleton sep) = Join fields' (String.singleton sep)) :
    fields = fields' := by
  have hlist := congrArg String.toList h
  rw [Join, Join, String.toList_intercalate, String.toList_intercalate] at hlist
  have hsep : (String.singleton sep).toList = [sep] := String.toList_singleton sep
  rw [hsep] at hlist
  have hmap := intercalate_inj_of_count (by
    rw [List.map_map, List.map_map]
    exact hcount) hlist
  exact List.map_injective_iff.2 (fun s t hst => String.toList_inj.1 hst) hmap

/-! ## Link safety jobs -/

/-- What a job is asked for; the links are the normalised ones. -/
structure LinkSafetyRequest where
  InstanceSlug : String
  ActorURI : String
  ObjectURI : String
  ContentHash : String
  Links : List String

def linkSafetyBasicPolicyVersion : String := "v1"

/-- The links that count, in the order in which they are hashed. -/
def linkParts (normalized : List String) : List String :=
  sortStrings ((normalized.map TrimSpace).filter fun s => s ≠ "")

def hashText (sha256 : Sha256) (text : String) : String :=
  String.ofList (hexEncode (sha256 (bytes text)).toList)

def linkSafetyBasicLinksHash (sha256 : Sha256) (normalized : List String) : String :=
  hashText sha256 (Join (linkParts normalized) "\n")

def linkSafetyBasicFields (instanceSlug actorURI objectURI contentHash linksHash : String) :
    List String :=
  ["link_safety_basic", linkSafetyBasicPolicyVersion, ToLower (TrimSpace instanceSlug),
    TrimSpace actorURI, TrimSpace objectURI, TrimSpace contentHash, TrimSpace linksHash]

def linkSafetyBasicJobID (sha256 : Sha256)
    (instanceSlug actorURI objectURI contentHash linksHash : String) : String :=
  hashText sha256
    (Join (linkSafetyBasicFields instanceSlug actorURI objectURI contentHash linksHash) "|")

namespace LinkSafetyRequest

variable (r : LinkSafetyRequest) (sha256 : Sha256)

def linksHash : String := linkSafetyBasicLinksHash sha256 r.Links

def jobID : String :=
  linkSafetyBasicJobID sha256 r.InstanceSlug r.ActorURI r.ObjectURI r.ContentHash
    (r.linksHash sha256)

/-- Instance, actor, object and content hash as they are told apart. -/
def subject : List String :=
  [ToLower (TrimSpace r.InstanceSlug), TrimSpace r.ActorURI, TrimSpace r.ObjectURI,
    TrimSpace r.ContentHash]

/-- The fields that are joined for the job id. -/
def fields : List String :=
  linkSafetyBasicFields r.InstanceSlug r.ActorURI r.ObjectURI r.ContentHash (r.linksHash sha256)

/-- The texts that are hashed for the job id. -/
def texts : List String := [Join (linkParts r.Links) "\n", Join (r.fields sha256) "|"]

/-- The same subject and the same links, in whatever order. -/
def Agrees (r r' : LinkSafetyRequest) : Prop :=
  r.subject = r'.subject ∧
    ((r.Links.map TrimSpace).filter fun s => s ≠ "").Perm
      ((r'.Links.map TrimSpace).filter fun s => s ≠ "")

/-- The bars in each part of the subject, and the line breaks in each of the sorted links. -/
def shape : List Nat × List Nat :=
  (separators '|' r.subject, separators '\n' (linkParts r.Links))

end LinkSafetyRequest

/-! ## Cached answers -/

structure CacheInput where
  scope : String
  scopeKey : String
  module : String
  policyVersion : String
  modelSet : String
  inputsHash : String

def CacheScopeInstance : String := "instance"
def CacheScopeGlobal : String := "global"

/-- The inputs the key is derived from: scope, key of the scope, module, policy version, model set
and hash of the inputs, as they are hashed. -/
def CacheInput.fields (k : CacheInput) : Except String (List String) :=
  let module := ToLower (TrimSpace k.module)
  let policyVersion := TrimSpace k.policyVersion
  let modelSet := TrimSpace k.modelSet
  let inputsHash := TrimSpace k.inputsHash
  if module = "" ∨ policyVersion = "" ∨ modelSet = "" ∨ inputsHash = "" then
    .error "invalid cache key fields"
  else
    let scope := ToLower (TrimSpace k.scope)
    if scope = CacheScopeGlobal then
      .ok [scope, "", module, policyVersion, modelSet, inputsHash]
    else if scope = CacheScopeInstance then
      if TrimSpace k.scopeKey = "" then .error "scopeKey is required for instance scope"
      else .ok [scope, TrimSpace k.scopeKey, module, policyVersion, modelSet, inputsHash]
    else .error ("unsupported cache scope " ++ Quote scope)

/-- The text that is hashed for the key. -/
def cacheText (fields : List String) : String := Join ("airesult" :: fields) "|"

def CacheKey (sha256 : Sha256) (k : CacheInput) : Except String String :=
  k.fields.map fun fields => hashText sha256 (cacheText fields)

/-! ## Ids and what they stand for -/

section Ids

variable {sha256 : Sha256} {hashed : Set Bytes}

theorem hashText_inj (hsha : Set.InjOn sha256 hashed) {s t : String} (hs : bytes s ∈ hashed)
    (ht : bytes t ∈ hashed) (h : hashText sha256 s = hashText sha256 t) : s = t := by
  have hlist := congrArg String.toList h
  rw [hashText, hashText, String.toList_ofList, String.toList_ofList] at hlist
  exact bytes_injective (hsha hs ht (Vector.toList_inj.1 (hexEncode_injective hlist)))

theorem isLowerHexChar_plain {c : Char} (h : isLowerHexChar c = true) :
    isSpace c = false ∧ c ≠ '|' := by
  have hlt : c.toNat < 128 := by
    have hle : ∀ {d : Char}, c ≤ d → c.toNat ≤ d.toNat := fun hd => hd
    simp only [isLowerHexChar, Bool.or_eq_true, Bool.and_eq_true, decide_eq_true_eq] at h
    rcases h with ⟨-, h⟩ | ⟨-, h⟩
    · exact lt_of_le_of_lt (hle h) (by decide)
    · exact lt_of_le_of_lt (hle h) (by decide)
  have hall : ∀ n < 128, isLowerHexChar (Char.ofNat n) = true →
      isSpace (Char.ofNat n) = false ∧ Char.ofNat n ≠ '|' := by decide
  have hc := hall c.toNat hlt
  rw [Char.ofNat_toNat] at hc
  exact hc h

theorem TrimSpace_hashText (text : String) :
    TrimSpace (hashText sha256 text) = hashText sha256 text := by
  refine IsTrimmed.TrimSpace_eq (Trimmed.of_forall fun c hc => ?_)
  rw [hashText, String.toList_ofList] at hc
  exact (isLowerHexChar_plain (hexEncode_hex _ c hc)).1

theorem count_bar_hashText (text : String) : (hashText sha256 text).toList.count '|' = 0 := by
  rw [hashText, String.toList_ofList, List.count_eq_zero]
  intro hmem
  exact (isLowerHexChar_plain (hexEncode_hex _ _ hmem)).2 rfl

theorem sortStrings_eq_iff {l l' : List String} : sortStrings l = sortStrings l' ↔ l.Perm l' := by
  constructor
  · intro h
    have hperm : (sortStrings l).Perm l := List.mergeSort_perm _ _
    exact hperm.symm.trans (h ▸ List.mergeSort_perm l' _)
  · intro h
    have hperm : (sortStrings l).Perm (sortStrings l') :=
      (List.mergeSort_perm l _).trans (h.trans (List.mergeSort_perm l' _).symm)
    exact hperm.eq_of_pairwise (fun a b _ _ hab hba => String.le_antisymm hab hba)
      (SoulComm.sortStrings_sorted l) (SoulComm.sortStrings_sorted l')

/-- Requests with one job id have one text in the end, and one text of their links. -/
theorem texts_eq_of_jobID (hsha : Set.InjOn sha256 hashed) {r r' : LinkSafetyRequest}
    (hmem : ∀ t ∈ r.texts sha256, bytes t ∈ hashed) (hmem' : ∀ t ∈ r'.texts sha256, bytes t ∈ hashed)
    (h : r.jobID sha256 = r'.jobID sha256) :
    Join (r.fields sha256) "|" = Join (r'.fields sha256) "|" :=
  hashText_inj hsha (hmem _ (List.mem_cons_of_mem _ List.mem_cons_self))
    (hmem' _ (List.mem_cons_of_mem _ List.mem_cons_self)) h

theorem separators_fields (r : LinkSafetyRequest) : separators '|' (r.fields sha256) =
    [0, 0] ++ separators '|' r.subject ++ [0] := by
  have hhash : (TrimSpace (r.linksHash sha256)).toList.count '|' = 0 := by
    rw [LinkSafetyRequest.linksHash, linkSafetyBasicLinksHash, TrimSpace_hashText,
      count_bar_hashText]
  have hname : "link_safety_basic".toList.count '|' = 0 := by decide
  have hversion : linkSafetyBasicPolicyVersion.toList.count '|' = 0 := by decide
  simp only [separators, LinkSafetyRequest.fields, linkSafetyBasicFields, List.map_cons,
    List.map_nil, hhash, hname, hversion, LinkSafetyRequest.subject, List.cons_append,
    List.nil_append]

/-- **Jobs.** Requests with one job id agree if and only if the separators stand in the same fields. -/
theorem jobID_agrees (hsha : Set.InjOn sha256 hashed) {r r' : LinkSafetyRequest}
    (hmem : ∀ t ∈ r.texts sha256, bytes t ∈ hashed) (hmem' : ∀ t ∈ r'.texts sha256, bytes t ∈ hashed)
    (h : r.jobID sha256 = r'.jobID sha256) : r.Agrees r' ↔ r.shape = r'.shape := by
  constructor
  · rintro ⟨hsubject, hlinks⟩
    rw [LinkSafetyRequest.shape, LinkSafetyRequest.shape, hsubject, linkParts, linkParts,
      sortStrings_eq_iff.2 hlinks]
  · intro hshape
    obtain ⟨hbars, hbreaks⟩ := Prod.mk.inj hshape
    have htext := texts_eq_of_jobID hsha hmem hmem' h
    have hfields : r.fields sha256 = r'.fields sha256 := by
      refine Join_inj_of_separators '|' ?_ htext
      rw [separators_fields, separators_fields, hbars]
    simp only [LinkSafetyRequest.fields, linkSafetyBasicFields, List.cons.injEq, true_and,
      and_true] at hfields
    obtain ⟨hinstance, hactor, hobject, hcontent, hhash⟩ := hfields
    refine ⟨?_, ?_⟩
    · rw [LinkSafetyRequest.subject, LinkSafetyRequest.subject, hinstance, hactor, hobject, hcontent]
    · simp only [LinkSafetyRequest.linksHash, linkSafetyBasicLinksHash, TrimSpace_hashText] at hhash
      have hlinks := hashText_inj hsha (hmem _ List.mem_cons_self) (hmem' _ List.mem_cons_self) hhash
      exact sortStrings_eq_iff.1 (Join_inj_of_separators '\n' hbreaks hlinks)

/-- **Cache keys.** Inputs with one key are the same if and only if the bars stand in the same fields. -/
theorem cacheKey_agrees (hsha : Set.InjOn sha256 hashed) {k k' : CacheInput} {key : String}
    {fields fields' : List String} (hk : k.fields = .ok fields) (hk' : k'.fields = .ok fields')
    (hmem : bytes (cacheText fields) ∈ hashed) (hmem' : bytes (cacheText fields') ∈ hashed)
    (h : CacheKey sha256 k = .ok key) (h' : CacheKey sha256 k' = .ok key) :
    fields = fields' ↔ separators '|' fields = separators '|' fields' := by
  constructor
  · intro hfields
    rw [hfields]
  · intro hbars
    rw [CacheKey, hk] at h
    rw [CacheKey, hk'] at h'
    have hhash : hashText sha256 (cacheText fields) = hashText sha256 (cacheText fields') :=
      (Except.ok.inj h).trans (Except.ok.inj h').symm
    have htext := hashText_inj hsha hmem hmem' hhash
    have hall : "airesult" :: fields = "airesult" :: fields' := by
      refine Join_inj_of_separators '|' ?_ htext
      rw [separators, separators, List.map_cons, List.map_cons]
      exact congrArg _ hbars
    exact (List.cons.inj hall).2

end Ids

/-- Requests that share a job agree, and inputs that share a cached answer are the same, exactly
where corresponding fields have equally many separators. -/
theorem identities_agree {sha256 : Sha256} {hashed : Set Bytes} (hsha : Set.InjOn sha256 hashed) :
    (∀ r r' : LinkSafetyRequest, (∀ t ∈ r.texts sha256, bytes t ∈ hashed) →
      (∀ t ∈ r'.texts sha256, bytes t ∈ hashed) → r.jobID sha256 = r'.jobID sha256 →
      (r.Agrees r' ↔ r.shape = r'.shape)) ∧
    (∀ (k k' : CacheInput) key fields fields', k.fields = .ok fields → k'.fields = .ok fields' →
      bytes (cacheText fields) ∈ hashed → bytes (cacheText fields') ∈ hashed →
      CacheKey sha256 k = .ok key → CacheKey sha256 k' = .ok key →
      (fields = fields' ↔ separators '|' fields = separators '|' fields')) := by
  refine ⟨?_, ?_⟩
  · intro r r' hmem hmem' h
    exact jobID_agrees hsha hmem hmem' h
  · intro k k' key fields fields' hk hk' hmem hmem' h h'
    exact cacheKey_agrees hsha hk hk' hmem hmem' h h'

/-- Keeps the first 32 bytes. -/
def sampleSha256 : Sha256 := fun text => Vector.ofFn fun i => text.getD i 0

def sampleRequest : LinkSafetyRequest := ⟨"inst", "https://a", "https://b", "h", ["u"]⟩

/-- The same request, with texts that are not trimmed and a blank link. -/
def sampleRequest' : LinkSafetyRequest := ⟨" Inst", "https://a ", "https://b", "h", ["u ", ""]⟩

theorem linkParts_of_sorted {l : List String} (parts : List String)
    (h : (l.map TrimSpace).filter (fun s => s ≠ "") = parts)
    (hsorted : parts.Pairwise fun s t => decide (s ≤ t) = true) : linkParts l = parts := by
  rw [linkParts, h, sortStrings, List.mergeSort_of_pairwise hsorted]

theorem sampleRequest_texts : sampleRequest.texts sampleSha256 =
    ["u", Join (linkSafetyBasicFields "inst" "https://a" "https://b" "h" (hashText sampleSha256 "u"))
      "|"] := by
  have hparts : linkParts ["u"] = ["u"] := linkParts_of_sorted _ (by decide) (by simp)
  simp only [LinkSafetyRequest.texts, LinkSafetyRequest.fields, LinkSafetyRequest.linksHash,
    linkSafetyBasicLinksHash, sampleRequest, hparts]
  rfl

theorem sampleRequest'_texts : sampleRequest'.texts sampleSha256 = sampleRequest.texts sampleSha256 := by
  have hparts : linkParts ["u ", ""] = ["u"] := linkParts_of_sorted _ (by decide) (by simp)
  have hfields : ∀ hash, linkSafetyBasicFields " Inst" "https://a " "https://b" "h" hash =
      linkSafetyBasicFields "inst" "https://a" "https://b" "h" hash := fun hash => by
    have hinstance : ToLower (TrimSpace " Inst") = ToLower (TrimSpace "inst") := by decide
    have hactor : TrimSpace "https://a " = TrimSpace "https://a" := by decide
    rw [linkSafetyBasicFields, linkSafetyBasicFields, hinstance, hactor]
  rw [sampleRequest_texts]
  simp only [LinkSafetyRequest.texts, LinkSafetyRequest.fields, LinkSafetyRequest.linksHash,
    linkSafetyBasicLinksHash, sampleRequest', hparts, hfields]
  rfl

def sampleTexts : Set Bytes := fun text => ∃ t ∈ sampleRequest.texts sampleSha256, bytes t = text

theorem sampleSha256_injOn : Set.InjOn sampleSha256 sampleTexts := by
  rintro x ⟨s, hs, hx⟩ y ⟨t, ht, hy⟩ h
  rw [sampleRequest_texts] at hs ht
  have hall : ∀ s ∈ ["u", Join (linkSafetyBasicFields "inst" "https://a" "https://b" "h"
        (hashText sampleSha256 "u")) "|"],
      ∀ t ∈ ["u", Join (linkSafetyBasicFields "inst" "https://a" "https://b" "h"
        (hashText sampleSha256 "u")) "|"],
      (sampleSha256 (bytes s)).toList.head? = (sampleSha256 (bytes t)).toList.head? → s = t := by
    decide
  rw [← hx, ← hy] at h ⊢
  rw [hall s hs t ht (by rw [h])]

theorem identities_agree_sample : sampleRequest.Agrees sampleRequest' := by
  have hparts : linkParts ["u"] = ["u"] := linkParts_of_sorted _ (by decide) (by simp)
  have hparts' : linkParts ["u ", ""] = ["u"] := linkParts_of_sorted _ (by decide) (by simp)
  refine ((identities_agree sampleSha256_injOn).1 sampleRequest sampleRequest' ?_ ?_ ?_).2 ?_
  · exact fun t ht => ⟨t, ht, rfl⟩
  · intro t ht
    rw [sampleRequest'_texts] at ht
    exact ⟨t, ht, rfl⟩
  · have htext := (List.cons.inj (List.cons.inj sampleRequest'_texts).2).1
    exact (congrArg (hashText sampleSha256) htext).symm
  · rw [LinkSafetyRequest.shape, LinkSafetyRequest.shape]
    refine Prod.ext (by decide) ?_
    exact congrArg (separators '\n') (hparts.trans hparts'.symm)

/-- A bar in the actor of one request and in the object of the other, a line break in the link of
one that stands between the two links of the other, and a bar in the policy version of one input
and in the model set of the other. -/
theorem not_identities_separate :
    (∃ r r' : LinkSafetyRequest, (∀ sha256, r.jobID sha256 = r'.jobID sha256) ∧ r.subject ≠ r'.subject) ∧
    (∃ r r' : LinkSafetyRequest, (∀ sha256, r.jobID sha256 = r'.jobID sha256) ∧
      r.Links.length ≠ r'.Links.length ∧ ¬ r.Agrees r') ∧
    (∃ k k' : CacheInput, (∀ sha256, CacheKey sha256 k = CacheKey sha256 k') ∧
      k.fields.toOption.isSome ∧ k.fields ≠ k'.fields) := by
  refine ⟨⟨⟨"inst", "a|b", "c", "h", []⟩, ⟨"inst", "a", "b|c", "h", []⟩, ?_, by decide⟩,
    ⟨⟨"inst", "a", "b", "h", ["x", "y"]⟩, ⟨"inst", "a", "b", "h", ["x\ny"]⟩, ?_, by decide, ?_⟩,
    ⟨⟨"instance", "inst", "m", "p|q", "r", "h"⟩, ⟨"instance", "inst", "m", "p", "q|r", "h"⟩, ?_,
      by decide, by decide +kernel⟩⟩
  · intro sha256
    have hfields : ∀ hash : String,
        Join (linkSafetyBasicFields "inst" "a|b" "c" "h" hash) "|" =
          Join (linkSafetyBasicFields "inst" "a" "b|c" "h" hash) "|" := by
      intro hash
      have hfront : ∀ fields : List String, fields ≠ [] →
          Join (fields ++ [TrimSpace hash]) "|" = Join fields "|" ++ "|" ++ TrimSpace hash := by
        intro fields hne
        rw [Join, String.intercalate_append_of_ne_nil hne (List.cons_ne_nil _ _),
          String.intercalate_singleton]
        rfl
      have hleft := hfront ["link_safety_basic", "v1", "inst", "a|b", "c", "h"] (by decide)
      have hright := hfront ["link_safety_basic", "v1", "inst", "a", "b|c", "h"] (by decide)
      have hsame : Join ["link_safety_basic", "v1", "inst", "a|b", "c", "h"] "|" =
          Join ["link_safety_basic", "v1", "inst", "a", "b|c", "h"] "|" := by decide
      rw [hsame, ← hright] at hleft
      exact hleft
    exact congrArg (hashText sha256) (hfields _)
  · intro sha256
    have hlinks : Join (linkParts ["x", "y"]) "\n" = Join (linkParts ["x\ny"]) "\n" := by
      rw [linkParts_of_sorted ["x", "y"] (by decide) (by decide +kernel),
        linkParts_of_sorted ["x\ny"] (by decide) (by simp)]
      decide
    have hhash : linkSafetyBasicLinksHash sha256 ["x", "y"] =
        linkSafetyBasicLinksHash sha256 ["x\ny"] := by
      rw [linkSafetyBasicLinksHash, linkSafetyBasicLinksHash, hlinks]
    exact congrArg (linkSafetyBasicJobID sha256 "inst" "a" "b" "h") hhash
  · rintro ⟨-, hperm⟩
    have hlength := hperm.length_eq
    revert hlength
    decide
  · intro sha256
    have hleft : (CacheInput.mk "instance" "inst" "m" "p|q" "r" "h").fields =
        .ok ["instance", "inst", "m", "p|q", "r", "h"] := by decide
    have hright : (CacheInput.mk "instance" "inst" "m" "p" "q|r" "h").fields =
        .ok ["instance", "inst", "m", "p", "q|r", "h"] := by decide
    have htext : cacheText ["instance", "inst", "m", "p|q", "r", "h"] =
        cacheText ["instance", "inst", "m", "p", "q|r", "h"] := by decide
    rw [CacheKey, CacheKey, hleft, hright]
    exact congrArg (fun text => Except.ok (hashText sha256 text)) htext

end LesserHost.Trust
