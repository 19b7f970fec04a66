import LesserHost.Go.Basic

set_option autoImplicit false

/-! # Checkpoint references

`checkpoint_ref.go`: a checkpoint reference is a prefix, a kind and sixteen hexadecimal digits of a
hash. `NormalizeCheckpointRef` turns any other text into one; what it returns it leaves alone. -/

namespace LesserHost.HostedGenesis

open LesserHost.Go

def checkpointRefPrefix : String := "checkpoint://hosted-genesis/"

def checkpointKindInput : String := "input"
def checkpointKindAssistant : String := "assistant"
def checkpointKindDeclaration : String := "declaration"
def checkpointKindVMActor : String := "vm-actor"
def checkpointKindRef : String := "ref"

def checkpointKinds : List String :=
  [checkpointKindInput, checkpointKindAssistant, checkpointKindDeclaration, checkpointKindVMActor,
    checkpointKindRef]

def isCheckpointKind (kind : String) : Bool := checkpointKinds.contains kind

def normalizeCheckpointKind (kind : String) : String :=
  let kind := ToLower (TrimSpace kind)
  if isCheckpointKind kind then kind else checkpointKindRef

def isLowerHex (value : String) (n : Nat) : Bool :=
  len value == n && value.toList.all isLowerHexChar

/-- The first sixteen hexadecimal digits of the hash of a kind and its parts. -/
def checkpointDigest (sha256 : Sha256) (kind : String) (parts : List String) : List Char :=
  let input := bytes kind ++ parts.flatMap fun part => 0 :: bytes (TrimSpace part)
  (hexEncode (sha256 input).toList).take 16

def CheckpointRef (sha256 : Sha256) (kind : String) (parts : List String) : String :=
  let kind := normalizeCheckpointKind kind
  checkpointRefPrefix ++ kind ++ "/" ++ String.ofList (checkpointDigest sha256 kind parts)

/-- The kind a part of a legacy reference names, if it names one. -/
def legacyKind (part : String) : Option String :=
  let normalized := ToLower (TrimSpace part)
  if isCheckpointKind normalized then some normalized
  else if HasPrefix normalized "input" then some checkpointKindInput
  else if HasPrefix normalized "assistant" then some checkpointKindAssistant
  else if HasPrefix normalized "declaration" || HasPrefix normalized "decl" then
    some checkpointKindDeclaration
  else none

def checkpointKindFromLegacyParts (parts : List String) : String :=
  (parts.findSome? legacyKind).getD checkpointKindRef

/-- A kind and sixteen digits. -/
def isCompact : List String → Bool
  | [kind, digest] => isCheckpointKind kind && isLowerHex digest 16
  | _ => false

def NormalizeCheckpointRef (sha256 : Sha256) (ref : String) : String :=
  let ref := TrimSpace ref
  if ref = "" then "" else
  let rest := TrimPrefix ref checkpointRefPrefix
  if rest = ref then CheckpointRef sha256 "ref" [ref]
  else
    let parts := Split rest '/'
    if isCompact parts then ref
    else CheckpointRef sha256 (checkpointKindFromLegacyParts parts) [ref]

/-! ## What is normalised stays as it is -/

variable (sha256 : Sha256)

/-- The sixteen digits of a reference. -/
structure IsDigest (digest : List Char) : Prop where
  length : digest.length = 16
  hex : ∀ c ∈ digest, isLowerHexChar c = true

theorem checkpointDigest_isDigest (kind : String) (parts : List String) :
    IsDigest (checkpointDigest sha256 kind parts) := by
  refine ⟨?_, ?_⟩
  · rw [checkpointDigest, List.length_take, hexEncode_length, Vector.length_toList]
    rfl
  · intro c hc
    exact hexEncode_hex _ c (List.mem_of_mem_take hc)

theorem isLowerHex_ofList {digest : List Char} (h : IsDigest digest) :
    isLowerHex (String.ofList digest) 16 = true := by
  simp only [isLowerHex, len, String.toList_ofList, sum_utf8Size_of_hex h.hex, h.length, beq_self_eq_true,
    Bool.true_and, List.all_eq_true]
  exact h.hex

theorem isCheckpointKind_normalize (kind : String) :
    isCheckpointKind (normalizeCheckpointKind kind) = true := by
  simp only [normalizeCheckpointKind]
  split_ifs with h
  · exact h
  · decide

/-- A reference of one of the five kinds is compact: trimming, cutting the prefix off and splitting
    take it apart into exactly its kind and its digits. -/
theorem NormalizeCheckpointRef_compact {kind : String} (hkind : isCheckpointKind kind = true)
    {digest : List Char} (hdigest : IsDigest digest) :
    NormalizeCheckpointRef sha256
        (checkpointRefPrefix ++ kind ++ "/" ++ String.ofList digest)
      = checkpointRefPrefix ++ kind ++ "/" ++ String.ofList digest := by
  generalize href : checkpointRefPrefix ++ kind ++ "/" ++ String.ofList digest = ref
  have hlist : ref.toList
      = checkpointRefPrefix.toList ++ (kind.toList ++ '/' :: digest) := by
    rw [← href]
    simp only [String.toList_append, String.toList_ofList, List.append_assoc]
    rfl
  have htrim : TrimSpace ref = ref := by
    refine IsTrimmed.TrimSpace_eq ⟨?_, ?_⟩
    · intro c hc
      rw [hlist] at hc
      obtain rfl : 'c' = c := by simpa [checkpointRefPrefix] using hc
      decide
    · intro c hc
      have hne : digest ≠ [] := by
        intro hnil
        have hlength := hdigest.length
        rw [hnil] at hlength
        cases hlength
      rw [hlist, ← List.singleton_append, ← List.append_assoc, ← List.append_assoc,
        List.getLast?_append_of_ne_nil _ hne] at hc
      exact isSpace_of_hex (hdigest.hex c (List.mem_of_getLast? hc))
  have hnonempty : ref ≠ "" := by
    intro hnil
    rw [hnil] at hlist
    simp [checkpointRefPrefix] at hlist
  have hrest : TrimPrefix ref checkpointRefPrefix = String.ofList (kind.toList ++ '/' :: digest) := by
    have hpre : HasPrefix ref checkpointRefPrefix = true := by
      rw [HasPrefix, hlist, List.isPrefixOf_iff_prefix]
      exact List.prefix_append _ _
    rw [TrimPrefix, if_pos hpre, hlist, List.drop_left]
  have hshort : String.ofList (kind.toList ++ '/' :: digest) ≠ ref := by
    intro heq
    have hlen := congrArg (fun s : String => s.toList.length) heq
    simp only [String.toList_ofList, hlist, List.length_append] at hlen
    have hpos : 0 < checkpointRefPrefix.toList.length := by decide
    omega
  have hslash : ∀ k ∈ checkpointKinds, '/' ∉ k.toList := by decide
  have hkindSlash : '/' ∉ kind.toList := hslash kind (List.contains_iff_mem.1 hkind)
  have hdigestSlash : '/' ∉ digest := by
    intro hmem
    have := hdigest.hex '/' hmem
    revert this
    decide
  have hsplit : Split (String.ofList (kind.toList ++ '/' :: digest)) '/'
      = [kind, String.ofList digest] := by
    rw [Split, String.toList_ofList, List.splitOn_append_cons_self,
      List.splitOn_eq_singleton hkindSlash, List.splitOn_eq_singleton hdigestSlash]
    simp only [List.singleton_append, List.map_cons, List.map_nil, String.ofList_toList]
  have hcompact : isCompact [kind, String.ofList digest] = true := by
    simp only [isCompact, hkind, isLowerHex_ofList hdigest, Bool.and_self]
  simp only [NormalizeCheckpointRef, htrim, if_neg hnonempty, hrest, if_neg hshort, hsplit,
    hcompact, if_true]

theorem NormalizeCheckpointRef_CheckpointRef (kind : String) (parts : List String) :
    NormalizeCheckpointRef sha256 (CheckpointRef sha256 kind parts)
      = CheckpointRef sha256 kind parts :=
  NormalizeCheckpointRef_compact sha256 (isCheckpointKind_normalize kind)
    (checkpointDigest_isDigest sha256 _ parts)

theorem NormalizeCheckpointRef_empty : NormalizeCheckpointRef sha256 "" = "" := by
  have hnil : TrimSpace "" = "" := by decide
  simp only [NormalizeCheckpointRef, hnil, if_true]

/-- **Normalising a reference twice is normalising it once.** -/
@[simp] theorem NormalizeCheckpointRef_idem (ref : String) :
    NormalizeCheckpointRef sha256 (NormalizeCheckpointRef sha256 ref)
      = NormalizeCheckpointRef sha256 ref := by
  have hfix : ∀ r, NormalizeCheckpointRef sha256 (TrimSpace r)
      = NormalizeCheckpointRef sha256 r := by
    intro r
    simp only [NormalizeCheckpointRef, TrimSpace_idem]
  generalize hout : NormalizeCheckpointRef sha256 ref = out
  have hcases := hout
  simp only [NormalizeCheckpointRef] at hcases
  split_ifs at hcases with hempty hrest hcompact
  · rw [← hcases]
    exact NormalizeCheckpointRef_empty sha256
  · rw [← hcases]
    exact NormalizeCheckpointRef_CheckpointRef sha256 _ _
  · -- a reference that is compact already is only trimmed
    rw [← hcases, hfix, hout]
    exact hcases.symm
  · rw [← hcases]
    exact NormalizeCheckpointRef_CheckpointRef sha256 _ _

end LesserHost.HostedGenesis
