import Mathlib.Data.List.Basic

set_option autoImplicit false

/-! # Messages with a header block

A message is a block of header lines, each ended by CR and LF, an empty line and the rest. A line is a name,
a colon, a space and a value. A reader that knows only the line ends gets back the fields that were written,
if no name contains a colon and neither names nor values contain a CR. -/

namespace HeaderBlock

abbrev Bytes := List UInt8

def crlf : Bytes := [0x0d, 0x0a]

/-- The lines up to the first empty one, `line` read so far, and what follows the empty line. -/
def headerLines (line : Bytes) : Bytes → Option (List Bytes × Bytes)
  | b :: c :: rest =>
      if b = 0x0d ∧ c = 0x0a then
        if line = [] then some ([], rest)
        else (headerLines [] rest).map fun r => (line :: r.1, r.2)
      else headerLines (line ++ [b]) (c :: rest)
  | _ => none

/-- A line is cut at its first colon. -/
def readField (line : Bytes) : Bytes × Bytes :=
  (line.takeWhile (· != 0x3a), (line.dropWhile (· != 0x3a)).drop 2)

def readMessage (raw : Bytes) : Option (List (Bytes × Bytes) × Bytes) :=
  (headerLines [] raw).map fun r => (r.1.map readField, r.2)

def writeField (field : Bytes × Bytes) : Bytes := field.1 ++ (0x3a :: 0x20 :: field.2)

def writeMessage (fields : List (Bytes × Bytes)) (rest : Bytes) : Bytes :=
  fields.flatMap (fun field => writeField field ++ crlf) ++ (crlf ++ rest)

/-- What may be written: no colon in the name, and no CR. -/
def Writable (field : Bytes × Bytes) : Prop :=
  (0x3a : UInt8) ∉ field.1 ∧ (0x0d : UInt8) ∉ field.1 ∧ (0x0d : UInt8) ∉ field.2

theorem headerLines_end (line rest : Bytes) :
    headerLines line (crlf ++ rest) =
      if line = [] then some ([], rest) else (headerLines [] rest).map fun r => (line :: r.1, r.2) := by
  rw [crlf, List.cons_append, List.singleton_append, headerLines]
  exact if_pos ⟨rfl, rfl⟩

/-- A line without a CR is read up to its end. -/
theorem headerLines_append {text : Bytes} (h : (0x0d : UInt8) ∉ text) (line rest : Bytes) :
    headerLines line (text ++ (crlf ++ rest)) = headerLines (line ++ text) (crlf ++ rest) := by
  induction text generalizing line with
  | nil => rw [List.nil_append, List.append_nil]
  | cons b text ih =>
      rw [List.mem_cons, not_or] at h
      have hne : ¬ b = 0x0d := fun hb => h.1 hb.symm
      have hstep : headerLines line (b :: (text ++ (crlf ++ rest)))
          = headerLines (line ++ [b]) (text ++ (crlf ++ rest)) := by
        cases htext : text ++ (crlf ++ rest) with
        | nil => simp [crlf] at htext
        | cons c tail =>
            rw [headerLines]
            exact if_neg fun hbc => hne hbc.1
      rw [List.cons_append, hstep, ih h.2, List.append_assoc, List.singleton_append]

theorem readField_writeField {field : Bytes × Bytes} (h : (0x3a : UInt8) ∉ field.1) :
    readField (writeField field) = field := by
  have hname : ∀ b ∈ field.1, (b != 0x3a) = true := by
    intro b hb
    rw [bne_iff_ne]
    rintro rfl
    exact h hb
  rw [readField, writeField, List.takeWhile_append_of_pos hname, List.dropWhile_append_of_pos hname]
  simp

theorem headerLines_write {fields : List (Bytes × Bytes)} (h : ∀ field ∈ fields, Writable field)
    (rest : Bytes) : headerLines [] (writeMessage fields rest) = some (fields.map writeField, rest) := by
  induction fields with
  | nil => exact (headerLines_end [] rest).trans (if_pos rfl)
  | cons field fields ih =>
      obtain ⟨⟨-, hname, hvalue⟩, hfields⟩ := List.forall_mem_cons.1 h
      have hline : (0x0d : UInt8) ∉ writeField field := by
        rw [writeField, List.mem_append, List.mem_cons, List.mem_cons]
        rintro (hmem | hmem | hmem | hmem)
        · exact hname hmem
        · exact absurd hmem (by decide)
        · exact absurd hmem (by decide)
        · exact hvalue hmem
      have hne : writeField field ≠ [] := by
        rw [writeField, ne_eq, List.append_eq_nil_iff]
        exact fun hnil => List.cons_ne_nil _ _ hnil.2
      have hwrite : writeMessage (field :: fields) rest
          = writeField field ++ (crlf ++ writeMessage fields rest) := by
        rw [writeMessage, List.flatMap_cons, List.append_assoc, List.append_assoc]
        rfl
      rw [hwrite, headerLines_append hline, List.nil_append, headerLines_end, if_neg hne, ih hfields]
      rfl

/-- **What was written is read back.** -/
theorem readMessage_writeMessage {fields : List (Bytes × Bytes)} (h : ∀ field ∈ fields, Writable field)
    (rest : Bytes) : readMessage (writeMessage fields rest) = some (fields, rest) := by
  have hback : ∀ field ∈ fields, (readField ∘ writeField) field = id field :=
    fun field hfield => readField_writeField (h field hfield).1
  rw [readMessage, headerLines_write h, Option.map_some, List.map_map, List.map_congr_left hback,
    List.map_id]

end HeaderBlock
