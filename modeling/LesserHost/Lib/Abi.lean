import LesserHost.Lib.TypedData

set_option autoImplicit false

/-! # Encoding of call data

The arguments of a call are a head of one word each and a tail. The word of a number is the number, the word
of a byte string is the place of its length in the tail, counted from the start of the head. The reader
follows these places, so it also reads encodings that the writer never makes; `decode_encode` says that it
reads back what the writer wrote. -/

namespace Abi

open EIP712 (Bytes digits ofDigits ofDigits_digits word length_word digit_lt)

inductive Kind where
  | word
  | bytes
  deriving DecidableEq

inductive Arg where
  | word (n : Nat)
  | bytes (b : Bytes)
  deriving DecidableEq

def Arg.kind : Arg → Kind
  | .word _ => .word
  | .bytes _ => .bytes

def Arg.InRange : Arg → Prop
  | .word n => n < 2 ^ 256
  | .bytes _ => True

/-! ## Writing -/

/-- Byte strings are filled up to whole words. -/
def padded (b : Bytes) : Bytes := b ++ List.replicate ((32 - b.length % 32) % 32) 0

def tailOf (b : Bytes) : Bytes := word b.length ++ padded b

/-- Head and tail of the arguments, the tail beginning at `offset`. -/
def encodeFrom : Nat → List Arg → Bytes × Bytes
  | _, [] => ([], [])
  | offset, .word n :: rest => (word n ++ (encodeFrom offset rest).1, (encodeFrom offset rest).2)
  | offset, .bytes b :: rest =>
      (word offset ++ (encodeFrom (offset + (tailOf b).length) rest).1,
        tailOf b ++ (encodeFrom (offset + (tailOf b).length) rest).2)

def encode (args : List Arg) : Bytes :=
  (encodeFrom (32 * args.length) args).1 ++ (encodeFrom (32 * args.length) args).2

/-! ## Reading -/

def ofWord (b : Bytes) : Nat := ofDigits 256 (b.map UInt8.toNat)

/-- `n` bytes at a place, unless the data ends before. -/
def slice (data : Bytes) (pos n : Nat) : Option Bytes :=
  if pos + n ≤ data.length then some ((data.drop pos).take n) else none

def readWord (data : Bytes) (pos : Nat) : Option Nat := (slice data pos 32).map ofWord

def readArg (data : Bytes) (pos : Nat) : Kind → Option Arg
  | .word => (readWord data pos).map .word
  | .bytes => do
      let start ← readWord data pos
      let length ← readWord data start
      let b ← slice data (start + 32) length
      return .bytes b

def decodeFrom (data : Bytes) : Nat → List Kind → Option (List Arg)
  | _, [] => some []
  | pos, kind :: kinds => do
      let arg ← readArg data pos kind
      let args ← decodeFrom data (pos + 32) kinds
      return arg :: args

def decode (data : Bytes) (kinds : List Kind) : Option (List Arg) := decodeFrom data 0 kinds

/-! ## Round trip -/

theorem ofWord_word {n : Nat} (h : n < 2 ^ 256) : ofWord (word n) = n := by
  have hvalues : ((digits 256 32 n).map UInt8.ofNat).map UInt8.toNat = digits 256 32 n := by
    rw [List.map_map]
    refine (List.map_congr_left fun d hd => ?_).trans (List.map_id _)
    have hlt := digit_lt (by decide) hd
    simp only [Function.comp_apply, UInt8.toNat_ofNat', id_eq]
    omega
  have hbound : (256 : Nat) ^ 32 = 2 ^ 256 := by decide
  rw [ofWord, word, hvalues]
  exact ofDigits_digits (hbound ▸ h)

theorem slice_middle (a b c : Bytes) : slice (a ++ b ++ c) a.length b.length = some b := by
  rw [slice, if_pos (by simp), List.append_assoc, List.drop_left, List.take_left]

theorem readWord_middle (a c : Bytes) {n : Nat} (h : n < 2 ^ 256) :
    readWord (a ++ word n ++ c) a.length = some n := by
  have hslice := slice_middle a (word n) c
  rw [length_word] at hslice
  rw [readWord, hslice, Option.map_some, ofWord_word h]

/-- A byte string whose length stands at `start`. -/
theorem readArg_bytes {data a c : Bytes} {pos : Nat} {b : Bytes} (hstart : readWord data pos = some a.length)
    (hdata : data = a ++ tailOf b ++ c) (hb : b.length < 2 ^ 256) :
    readArg data pos .bytes = some (.bytes b) := by
  have hlength : readWord data a.length = some b.length := by
    rw [hdata, tailOf, ← List.append_assoc, List.append_assoc]
    exact readWord_middle a _ hb
  have hslice : slice data (a.length + 32) b.length = some b := by
    have hplace := slice_middle (a ++ word b.length) b
      (List.replicate ((32 - b.length % 32) % 32) 0 ++ c)
    rw [List.length_append, length_word] at hplace
    rw [← hplace, hdata, tailOf, padded]
    simp only [List.append_assoc]
  simp only [readArg, hstart, hlength, hslice, Option.bind_eq_bind, Option.bind_some, Option.pure_def]

/-- The reader at a place in the head, the arguments before it read. -/
theorem decodeFrom_encodeFrom {args : List Arg} (hargs : ∀ arg ∈ args, arg.InRange) :
    ∀ (offset : Nat) (data pre mid post : Bytes),
      data = pre ++ (encodeFrom offset args).1 ++ mid ++ (encodeFrom offset args).2 ++ post →
      offset = (pre ++ (encodeFrom offset args).1 ++ mid).length → data.length < 2 ^ 256 →
      decodeFrom data pre.length (args.map Arg.kind) = some args := by
  induction args with
  | nil => intros; rfl
  | cons arg rest ih =>
      intro offset data pre mid post hdata hoffset hsize
      have hrest : ∀ arg ∈ rest, arg.InRange := fun a ha => hargs a (List.mem_cons_of_mem arg ha)
      cases arg with
      | word n =>
          simp only [encodeFrom] at hdata hoffset
          have hread : readWord data pre.length = some n := by
            rw [hdata]
            simp only [List.append_assoc]
            rw [← List.append_assoc]
            exact readWord_middle pre _ (hargs _ List.mem_cons_self)
          have hnext := ih hrest offset data (pre ++ word n) mid post
            (by rw [hdata]; simp only [List.append_assoc])
            (by simp only [List.length_append] at hoffset ⊢; omega) hsize
          rw [List.length_append, length_word] at hnext
          simp only [List.map_cons, Arg.kind, decodeFrom, readArg, hread, Option.map_some,
            Option.bind_eq_bind, Option.bind_some, hnext, Option.pure_def]
      | bytes b =>
          simp only [encodeFrom] at hdata hoffset
          generalize hparts : encodeFrom (offset + (tailOf b).length) rest = parts at hdata hoffset
          have hlength : offset + (tailOf b).length ≤ data.length := by
            have htotal := congrArg List.length hdata
            simp only [List.length_append] at htotal hoffset
            omega
          have hread : readWord data pre.length = some offset := by
            rw [hdata]
            simp only [List.append_assoc]
            rw [← List.append_assoc]
            exact readWord_middle pre _ (by omega)
          have harg : readArg data pre.length .bytes = some (.bytes b) := by
            have hplace : data = (pre ++ (word offset ++ parts.1) ++ mid) ++ tailOf b ++ (parts.2 ++ post) := by
              rw [hdata]
              simp only [List.append_assoc]
            refine readArg_bytes (hread.trans (congrArg some hoffset)) hplace ?_
            have hb : b.length ≤ (tailOf b).length := by
              simp only [tailOf, padded, List.length_append]
              omega
            omega
          have hnext := ih hrest (offset + (tailOf b).length) data (pre ++ word offset) (mid ++ tailOf b) post
            (by rw [hdata, hparts]; simp only [List.append_assoc])
            (by
              rw [hparts]
              simp only [List.length_append] at hoffset ⊢
              omega) hsize
          rw [List.length_append, length_word] at hnext
          simp only [List.map_cons, Arg.kind, decodeFrom, harg, Option.bind_eq_bind, Option.bind_some,
            hnext, Option.pure_def]

theorem length_encodeFrom_fst (offset : Nat) (args : List Arg) :
    (encodeFrom offset args).1.length = 32 * args.length := by
  induction args generalizing offset with
  | nil => rfl
  | cons arg rest ih =>
      cases arg with
      | word n =>
          simp only [encodeFrom, List.length_append, length_word, ih, List.length_cons]
          omega
      | bytes b =>
          simp only [encodeFrom, List.length_append, length_word, ih, List.length_cons]
          omega

/-- **What is written is read.** -/
theorem decode_encode {args : List Arg} (hargs : ∀ arg ∈ args, arg.InRange)
    (hsize : (encode args).length < 2 ^ 256) : decode (encode args) (args.map Arg.kind) = some args := by
  refine decodeFrom_encodeFrom hargs (32 * args.length) (encode args) [] [] [] ?_ ?_ hsize
  · simp only [encode, List.nil_append, List.append_nil]
  · simp only [List.nil_append, List.append_nil, length_encodeFrom_fst]

end Abi
