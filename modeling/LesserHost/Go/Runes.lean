import LesserHost.Go.Bytes
import LesserHost.Go.Text

set_option autoImplicit false

/-! # The runes of a byte string

A byte string is cut into the bytes of its runes; a byte that belongs to no rune stands alone and is read as
U+FFFD. What walks over the runes of a text (`strings.TrimSpace`, `strings.Map`) sees this reading. -/

namespace LesserHost.Go.Bytes

/-- `utf8.DecodeRune`, for a valid encoding. -/
def firstRune (s : Bytes) : Option Char := ByteArray.utf8DecodeChar? s.toByteArray 0

def readRune (s : Bytes) : Char := (firstRune s).getD (Char.ofNat 0xfffd)

/-- The runes with their bytes, `skip` bytes of the current one still to go. -/
def runesFrom : Nat → Bytes → List Bytes
  | _, [] => []
  | skip + 1, _ :: s => runesFrom skip s
  | 0, b :: s =>
      let width := ((firstRune (b :: s)).map Char.utf8Size).getD 1
      (b :: s).take width :: runesFrom (width - 1) s

def runes (s : Bytes) : List Bytes := runesFrom 0 s

/-- `string([]rune(s))` -/
def runeText (s : Bytes) : String := String.ofList ((runes s).map readRune)

/-- `strings.TrimSpace` on any bytes. -/
def TrimSpaceBytes (s : Bytes) : Bytes := (trimFunc (fun r => isSpace (readRune r)) (runes s)).flatten

theorem firstRune_utf8EncodeChar (c : Char) (s : Bytes) :
    firstRune (String.utf8EncodeChar c ++ s) = some c := by
  rw [firstRune, List.toByteArray_append]
  exact ByteArray.utf8DecodeChar?_utf8EncodeChar_append

theorem readRune_utf8EncodeChar (c : Char) : readRune (String.utf8EncodeChar c) = c := by
  have h := firstRune_utf8EncodeChar c []
  rw [List.append_nil] at h
  rw [readRune, h]
  rfl

theorem runesFrom_skip (s t : Bytes) : runesFrom s.length (s ++ t) = runesFrom 0 t := by
  induction s with
  | nil => rfl
  | cons b s ih => exact ih

theorem runesFrom_utf8EncodeChar (c : Char) (s : Bytes) :
    runesFrom 0 (String.utf8EncodeChar c ++ s) = String.utf8EncodeChar c :: runesFrom 0 s := by
  have hfirst := firstRune_utf8EncodeChar c s
  have hlen := String.length_utf8EncodeChar c
  have hpos := Char.utf8Size_pos c
  cases hcode : String.utf8EncodeChar c with
  | nil =>
      rw [hcode, List.length_nil] at hlen
      omega
  | cons b t =>
      rw [hcode, List.length_cons] at hlen
      rw [hcode, List.cons_append] at hfirst
      rw [List.cons_append, runesFrom, hfirst]
      have ht : c.utf8Size - 1 = t.length := by omega
      dsimp only [Option.map_some, Option.getD_some]
      rw [ht, runesFrom_skip, ← List.cons_append, ← hlen, ← List.length_cons (a := b), List.take_left]

/-- The runes of a text are the encodings of its characters. -/
theorem runes_bytes (s : String) : runes (bytes s) = s.toList.map String.utf8EncodeChar := by
  rw [runes, bytes_eq]
  induction s.toList with
  | nil => rfl
  | cons c l ih => rw [List.flatMap_cons, runesFrom_utf8EncodeChar, ih, List.map_cons]

@[simp] theorem runeText_bytes (s : String) : runeText (bytes s) = s := by
  have hid : (readRune ∘ String.utf8EncodeChar) = id := funext readRune_utf8EncodeChar
  rw [runeText, runes_bytes, List.map_map, hid, List.map_id, String.ofList_toList]

theorem trimFunc_map {α β : Type} (p : β → Bool) (f : α → β) (l : List α) :
    trimFunc p (l.map f) = (trimFunc (fun a => p (f a)) l).map f := by
  rw [trimFunc, trimFunc, List.dropWhile_map, List.rdropWhile, List.rdropWhile, ← List.map_reverse,
    List.dropWhile_map, List.map_reverse]
  rfl

@[simp] theorem TrimSpaceBytes_bytes (s : String) : TrimSpaceBytes (bytes s) = bytes (TrimSpace s) := by
  have hread : (fun c => isSpace (readRune (String.utf8EncodeChar c))) = isSpace := by
    funext c
    rw [readRune_utf8EncodeChar]
  rw [TrimSpaceBytes, runes_bytes, trimFunc_map, hread, bytes_eq, toList_TrimSpace, List.flatMap]

/-- `utf8.Valid`: reading the runes and writing them again changes nothing. -/
def Valid (s : Bytes) : Prop := bytes (runeText s) = s

instance (s : Bytes) : Decidable (Valid s) := inferInstanceAs (Decidable (_ = _))

theorem valid_bytes (s : String) : Valid (bytes s) := by rw [Valid, runeText_bytes]

end LesserHost.Go.Bytes

namespace LesserHost.Go

/-! ## Pieces of a text -/

/-- A piece has characters of the text, and no separators. -/
theorem mem_piece {p : Char → Bool} {l piece : List Char} {c : Char} (h : piece ∈ l.splitOnP p)
    (hc : c ∈ piece) : c ∈ l ∧ p c = false := by
  induction l generalizing piece with
  | nil =>
      rw [List.splitOnP_nil, List.mem_singleton] at h
      rw [h] at hc
      exact absurd hc List.not_mem_nil
  | cons d l ih =>
      rw [List.splitOnP_cons_eq_if_modifyHead] at h
      split_ifs at h with hsep
      · rcases List.mem_cons.1 h with rfl | h
        · exact absurd hc List.not_mem_nil
        · exact (ih h hc).imp_left (List.mem_cons_of_mem d)
      · -- the character goes in front of the first piece
        cases hsplit : l.splitOnP p with
        | nil => exact absurd hsplit (List.splitOnP_ne_nil p l)
        | cons first pieces =>
            rw [hsplit] at h ih
            rcases List.mem_cons.1 h with rfl | h
            · rcases List.mem_cons.1 hc with rfl | hc
              · exact ⟨List.mem_cons_self, Bool.not_eq_true _ ▸ hsep⟩
              · exact (ih List.mem_cons_self hc).imp_left (List.mem_cons_of_mem d)
            · exact (ih (List.mem_cons_of_mem _ h) hc).imp_left (List.mem_cons_of_mem d)

end LesserHost.Go
