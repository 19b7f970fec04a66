import Mathlib.Algebra.Order.Ring.Int
import Mathlib.Data.Set.Function

set_option autoImplicit false

/-! # Hashing typed structured data

A struct is hashed as the hash of a sequence of 32-byte words: the hash of its type, and a word for
each member, which for a text is its hash. What is signed is the hash of two such hashes, of the
domain and of the message.

`keccak` is any function to 256 bits. It is not injective, so what follows from equal digests is said
under the condition that it does not map two of the texts hashed on the way to the same value. -/

namespace EIP712

abbrev Bytes := List UInt8

abbrev Hash := Bytes → Fin (2 ^ 256)

/-! ## Numbers of fixed width -/

/-- The last `k` digits of `n`, the most significant one first. -/
def digits (b : Nat) : Nat → Nat → List Nat
  | 0, _ => []
  | k + 1, n => digits b k (n / b) ++ [n % b]

def ofDigits (b : Nat) (ds : List Nat) : Nat := ds.foldl (fun v d => b * v + d) 0

@[simp] theorem ofDigits_concat (b : Nat) (ds : List Nat) (d : Nat) :
    ofDigits b (ds ++ [d]) = b * ofDigits b ds + d := by
  simp [ofDigits]

@[simp] theorem length_digits (b k n : Nat) : (digits b k n).length = k := by
  induction k generalizing n with
  | zero => rfl
  | succ k ih => simp [digits, ih]

theorem digit_lt {b : Nat} (hb : 0 < b) {k n d : Nat} (h : d ∈ digits b k n) : d < b := by
  induction k generalizing n with
  | zero => cases h
  | succ k ih =>
      rw [digits, List.mem_append, List.mem_singleton] at h
      rcases h with h | rfl
      · exact ih h
      · exact Nat.mod_lt n hb

theorem ofDigits_digits {b k n : Nat} (h : n < b ^ k) : ofDigits b (digits b k n) = n := by
  induction k generalizing n with
  | zero =>
      have hzero : n = 0 := by simpa using h
      rw [hzero]
      rfl
  | succ k ih =>
      have hdiv : n / b < b ^ k := by
        refine Nat.div_lt_of_lt_mul ?_
        rw [Nat.pow_succ, Nat.mul_comm] at h
        exact h
      rw [digits, ofDigits_concat, ih hdiv]
      exact Nat.div_add_mod n b

/-- A number as 32 bytes. -/
def word (n : Nat) : Bytes := (digits 256 32 n).map UInt8.ofNat

@[simp] theorem length_word (n : Nat) : (word n).length = 32 := by simp [word]

theorem word_injective {m n : Nat} (hm : m < 2 ^ 256) (hn : n < 2 ^ 256) (h : word m = word n) :
    m = n := by
  have hvalues : ∀ k, ((digits 256 32 k).map UInt8.ofNat).map UInt8.toNat = digits 256 32 k := by
    intro k
    rw [List.map_map]
    refine (List.map_congr_left fun d hd => ?_).trans (List.map_id _)
    have hlt := digit_lt (by decide) hd
    simp only [Function.comp_apply, UInt8.toNat_ofNat', id_eq]
    omega
  have hdigits : digits 256 32 m = digits 256 32 n := by
    rw [← hvalues m, ← hvalues n]
    exact congrArg (List.map UInt8.toNat) h
  have hbound : (256 : Nat) ^ 32 = 2 ^ 256 := by decide
  rw [← hbound] at hm hn
  calc m = ofDigits 256 (digits 256 32 m) := (ofDigits_digits hm).symm
    _ = ofDigits 256 (digits 256 32 n) := by rw [hdigits]
    _ = n := ofDigits_digits hn

/-- Words one after the other can be told apart. -/
theorem words_injective {ms ns : List Nat} (hm : ∀ m ∈ ms, m < 2 ^ 256) (hn : ∀ n ∈ ns, n < 2 ^ 256)
    (h : ms.flatMap word = ns.flatMap word) : ms = ns := by
  induction ms generalizing ns with
  | nil =>
      cases ns with
      | nil => rfl
      | cons n ns =>
          have hlength := congrArg List.length h
          simp at hlength
          omega
  | cons m ms ih =>
      cases ns with
      | nil =>
          have hlength := congrArg List.length h
          simp at hlength
      | cons n ns =>
          rw [List.flatMap_cons, List.flatMap_cons] at h
          obtain ⟨hhead, htail⟩ := List.append_inj h (by simp)
          have hfirst := word_injective (hm m List.mem_cons_self) (hn n List.mem_cons_self) hhead
          rw [hfirst, ih (fun k hk => hm k (List.mem_cons_of_mem m hk))
            (fun k hk => hn k (List.mem_cons_of_mem n hk)) htail]

/-! ## Structs -/

/-- The types of members considered. -/
inductive FieldType where
  | string
  | address
  | uint8
  | uint256
  deriving DecidableEq

def FieldType.text : FieldType → String
  | .string => "string"
  | .address => "address"
  | .uint8 => "uint8"
  | .uint256 => "uint256"

/-- A member of a struct type: its name and its type. -/
abbrev Field := String × FieldType

/-- A struct type without members of struct type, as it is written. -/
def encodeType (name : String) (fields : List Field) : String :=
  name ++ "(" ++ ",".intercalate (fields.map fun field => field.2.text ++ " " ++ field.1) ++ ")"

inductive Value where
  /-- a number or an address -/
  | atom (n : Nat)
  | string (s : Bytes)
  deriving DecidableEq

def Value.InRange : Value → Prop
  | .atom n => n < 2 ^ 256
  | .string _ => True

/-- The word of a member. -/
def Value.encode (keccak : Hash) : Value → Nat
  | .atom n => n
  | .string s => keccak s

theorem Value.encode_lt (keccak : Hash) {v : Value} (h : v.InRange) : v.encode keccak < 2 ^ 256 := by
  cases v with
  | atom n => exact h
  | string s => exact (keccak s).isLt

/-- What is hashed for a struct. -/
def structBytes (keccak : Hash) (type : Bytes) (values : List Value) : Bytes :=
  ((keccak type : Nat) :: values.map (Value.encode keccak)).flatMap word

def hashStruct (keccak : Hash) (type : Bytes) (values : List Value) : Fin (2 ^ 256) :=
  keccak (structBytes keccak type values)

/-- What is signed: the hash of the domain and of the message. -/
def signedBytes (domainSeparator structHash : Fin (2 ^ 256)) : Bytes :=
  [0x19, 0x01] ++ word domainSeparator ++ word structHash

def digest (keccak : Hash) (domainSeparator structHash : Fin (2 ^ 256)) : Fin (2 ^ 256) :=
  keccak (signedBytes domainSeparator structHash)

/-! ## Equal digests -/

/-- The texts that are hashed for a struct. -/
def structTexts (keccak : Hash) (type : Bytes) (values : List Value) : Set Bytes :=
  {text | text = type ∨ text = structBytes keccak type values ∨ .string text ∈ values}

section Injective

variable {keccak : Hash} {hashed : Set Bytes}

theorem encode_injective (hkeccak : Set.InjOn keccak hashed) {vs ws : List Value}
    (hvs : ∀ s, .string s ∈ vs → s ∈ hashed) (hws : ∀ s, .string s ∈ ws → s ∈ hashed)
    (hshape : vs.map (fun v => v matches .string _) = ws.map (fun v => v matches .string _))
    (h : vs.map (Value.encode keccak) = ws.map (Value.encode keccak)) : vs = ws := by
  induction vs generalizing ws with
  | nil =>
      cases ws with
      | nil => rfl
      | cons w ws => cases h
  | cons v vs ih =>
      cases ws with
      | nil => cases h
      | cons w ws =>
          simp only [List.map_cons, List.cons.injEq] at h hshape
          have hrest := ih (fun s hs => hvs s (List.mem_cons_of_mem v hs))
            (fun s hs => hws s (List.mem_cons_of_mem w hs)) hshape.2 h.2
          rw [hrest]
          cases v with
          | atom m =>
              cases w with
              | atom n => rw [show m = n from h.1]
              | string t => cases hshape.1
          | string s =>
              cases w with
              | atom n => cases hshape.1
              | string t =>
                  have hst : s = t := hkeccak (hvs s List.mem_cons_self) (hws t List.mem_cons_self)
                    (Fin.ext h.1)
                  rw [hst]

/-- Structs of one shape with the same hash have the same type and the same members. -/
theorem hashStruct_injective (hkeccak : Set.InjOn keccak hashed) {type type' : Bytes}
    {vs ws : List Value} (hvs : structTexts keccak type vs ⊆ hashed)
    (hws : structTexts keccak type' ws ⊆ hashed) (hv : ∀ v ∈ vs, v.InRange) (hw : ∀ w ∈ ws, w.InRange)
    (h : hashStruct keccak type vs = hashStruct keccak type' ws) :
    type = type' ∧ (vs.map (fun v => v matches .string _) = ws.map (fun v => v matches .string _) →
      vs = ws) := by
  have hbytes := hkeccak (hvs (Or.inr (Or.inl rfl))) (hws (Or.inr (Or.inl rfl))) h
  have hlt : ∀ {t : Bytes} {us : List Value}, (∀ u ∈ us, u.InRange) →
      ∀ n ∈ (keccak t : Nat) :: us.map (Value.encode keccak), n < 2 ^ 256 := by
    intro t us hus n hn
    rcases List.mem_cons.1 hn with rfl | hn
    · exact (keccak t).isLt
    · obtain ⟨u, hu, rfl⟩ := List.mem_map.1 hn
      exact Value.encode_lt keccak (hus u hu)
  have hwords := words_injective (hlt hv) (hlt hw) hbytes
  rw [List.cons.injEq] at hwords
  refine ⟨hkeccak (hvs (Or.inl rfl)) (hws (Or.inl rfl)) (Fin.ext hwords.1), fun hshape => ?_⟩
  exact encode_injective hkeccak (fun s hs => hvs (Or.inr (Or.inr hs)))
    (fun s hs => hws (Or.inr (Or.inr hs))) hshape hwords.2

/-- Equal digests are of equal hashes. -/
theorem digest_injective (hkeccak : Set.InjOn keccak hashed) {d d' s s' : Fin (2 ^ 256)}
    (hd : signedBytes d s ∈ hashed) (hd' : signedBytes d' s' ∈ hashed)
    (h : digest keccak d s = digest keccak d' s') : d = d' ∧ s = s' := by
  have hbytes := hkeccak hd hd' h
  obtain ⟨hfront, hstruct⟩ := List.append_inj hbytes (by simp)
  obtain ⟨-, hdomain⟩ := List.append_inj hfront rfl
  exact ⟨Fin.ext (word_injective d.isLt d'.isLt hdomain),
    Fin.ext (word_injective s.isLt s'.isLt hstruct)⟩

end Injective

end EIP712
