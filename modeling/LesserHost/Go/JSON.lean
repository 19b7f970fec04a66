import LesserHost.Go.Bytes

set_option autoImplicit false

/-! # JSON text

What `json.Marshal` prints: strings with the characters of HTML and the two line separators escaped,
numbers, arrays, and objects whose fields stand in the order of the struct. A value of type `any` is
carried as the text it prints. -/

namespace LesserHost.Go.JSON

def hexByte (n : Nat) : UInt8 := UInt8.ofNat (hexDigit n).toNat

/-- A byte below 128 as it stands in a JSON string. -/
def escapeByte (b : UInt8) : Bytes :=
  if b = 0x22 ∨ b = 0x5c then [0x5c, b]
  else if b = 0x08 then [0x5c, 0x62]
  else if b = 0x0c then [0x5c, 0x66]
  else if b = 0x0a then [0x5c, 0x6e]
  else if b = 0x0d then [0x5c, 0x72]
  else if b = 0x09 then [0x5c, 0x74]
  else if b < 0x20 ∨ b = 0x3c ∨ b = 0x3e ∨ b = 0x26 then
    [0x5c, 0x75, 0x30, 0x30, hexByte (b.toNat / 16), hexByte (b.toNat % 16)]
  else [b]

/-- Escape the bytes of a string, `skip` of them still to be left out. -/
def escapeFrom : Nat → Bytes → Bytes
  | _, [] => []
  | skip + 1, _ :: s => escapeFrom skip s
  | 0, b :: s =>
      -- the line and the paragraph separator
      if b = 0xe2 ∧ s.take 2 = [0x80, 0xa8] then
        [0x5c, 0x75, 0x32, 0x30, 0x32, 0x38] ++ escapeFrom 2 s
      else if b = 0xe2 ∧ s.take 2 = [0x80, 0xa9] then
        [0x5c, 0x75, 0x32, 0x30, 0x32, 0x39] ++ escapeFrom 2 s
      else escapeByte b ++ escapeFrom 0 s

def string (s : String) : Bytes := 0x22 :: escapeFrom 0 (bytes s) ++ [0x22]

def int (n : Int) : Bytes := bytes (Itoa n)

/-- The parts with a comma between each two. -/
def commas : List Bytes → Bytes
  | [] => []
  | [p] => p
  | p :: q :: ps => p ++ 0x2c :: commas (q :: ps)

def array (items : List Bytes) : Bytes := 0x5b :: commas items ++ [0x5d]

def object (fields : List (String × Bytes)) : Bytes :=
  0x7b :: commas (fields.map fun f => string f.1 ++ 0x3a :: f.2) ++ [0x7d]

/-- A string field that is left out when it is empty. -/
def omitEmpty (name value : String) : List (String × Bytes) :=
  if value = "" then [] else [(name, string value)]

/-- A list of strings that is left out when it is empty. -/
def omitNone (name : String) (values : List String) : List (String × Bytes) :=
  if values = [] then [] else [(name, array (values.map string))]

example : object [("a", string "<\n"), ("b", array [int 0, int (-7)])]
    = bytes "\x7b\"a\":\"\\u003c\\n\",\"b\":[0,-7]\x7d" := by decide +kernel

end LesserHost.Go.JSON
