import LesserHost.Lib.TypedData
import Mathlib.Data.Set.Function

set_option autoImplicit false

/-! # Names as lists of labels

A name is a list of labels. On the wire each label stands behind its length, and a zero ends the name. The
hash of a name is folded over its labels from the last one on; different names have different hashes where
`keccak` sends no two of the texts hashed on the way to one value, and none to zero. -/

namespace NameHash

open EIP712 (Bytes Hash word length_word)

/-! ## Labels on the wire -/

def wireLabel (label : Bytes) : Bytes := UInt8.ofNat label.length :: label

def wire (labels : List Bytes) : Bytes := labels.flatMap wireLabel ++ [0]

/-- Labels that can be written: their lengths leave the two high bits free. -/
def Writable (labels : List Bytes) : Prop := ∀ label ∈ labels, label ≠ [] ∧ label.length ≤ 63

theorem writable_nil : Writable [] := fun _ h => absurd h List.not_mem_nil

/-! ## The hash of a name -/

variable (keccak : Hash)

def step (label : Bytes) (node : Fin (2 ^ 256)) : Fin (2 ^ 256) :=
  keccak (word node ++ word (keccak label))

def namehash (labels : List Bytes) : Fin (2 ^ 256) := labels.foldr (step keccak) 0

/-- The texts that are hashed for a name. -/
def hashed : List Bytes → Set Bytes
  | [] => ∅
  | label :: rest => {label, word (namehash keccak rest) ++ word (keccak label)} ∪ hashed rest

structure CollisionFree (texts : Set Bytes) : Prop where
  injOn : Set.InjOn keccak texts
  ne_zero : ∀ text ∈ texts, keccak text ≠ 0

variable {keccak}

theorem CollisionFree.mono {texts more : Set Bytes} (h : CollisionFree keccak more) (hsub : texts ⊆ more) :
    CollisionFree keccak texts :=
  ⟨h.injOn.mono hsub, fun text htext => h.ne_zero text (hsub htext)⟩

theorem label_mem_hashed (label : Bytes) (rest : List Bytes) : label ∈ hashed keccak (label :: rest) :=
  Or.inl (Or.inl rfl)

theorem node_mem_hashed (label : Bytes) (rest : List Bytes) :
    word (namehash keccak rest) ++ word (keccak label) ∈ hashed keccak (label :: rest) :=
  Or.inl (Or.inr rfl)

variable (keccak) in
theorem hashed_rest_subset (label : Bytes) (rest : List Bytes) :
    hashed keccak rest ⊆ hashed keccak (label :: rest) := Set.subset_union_right

/-- The node of a label and of what follows it gives both back. -/
theorem word_append_inj {a b c d : Fin (2 ^ 256)} (h : word a ++ word b = word c ++ word d) :
    a = c ∧ b = d := by
  have hlen : (word a).length = (word c).length := by rw [length_word, length_word]
  obtain ⟨hac, hbd⟩ := List.append_inj h hlen
  exact ⟨Fin.ext (EIP712.word_injective a.isLt c.isLt hac), Fin.ext (EIP712.word_injective b.isLt d.isLt hbd)⟩

/-- **Different names have different hashes.** -/
theorem namehash_injective {a b : List Bytes} (h : CollisionFree keccak (hashed keccak a ∪ hashed keccak b))
    (heq : namehash keccak a = namehash keccak b) : a = b := by
  induction a generalizing b with
  | nil =>
      cases b with
      | nil => rfl
      | cons label rest => exact absurd heq.symm (h.ne_zero _ (Or.inr (node_mem_hashed label rest)))
  | cons label rest ih =>
      cases b with
      | nil => exact absurd heq (h.ne_zero _ (Or.inl (node_mem_hashed label rest)))
      | cons label' rest' =>
          have hnode := h.injOn (Or.inl (node_mem_hashed label rest)) (Or.inr (node_mem_hashed label' rest'))
            heq
          obtain ⟨hrest, hlabel⟩ := word_append_inj hnode
          have hlabels := h.injOn (Or.inl (label_mem_hashed label rest))
            (Or.inr (label_mem_hashed label' rest')) hlabel
          have hsub := Set.union_subset_union (hashed_rest_subset keccak label rest)
            (hashed_rest_subset keccak label' rest')
          rw [hlabels, ih (h.mono hsub) hrest]

end NameHash
