import LesserHost.Go.Basic

set_option autoImplicit false

/-! # Reading JSON

`json.Unmarshal` on text: the grammar of values, with strings as Go decodes them (a surrogate that stands
alone becomes the replacement character) and a bound on the nesting; and the strings `json.Marshal`
prints. What is read back from a printed string is the string (`scanString_quote`). -/

namespace LesserHost.Go.JSONText

open LesserHost.Go

/-! ## Printing a string -/

/-- The letter of an escape of two characters. -/
def shortEscape (c : Char) : Option Char :=
  if c = '"' then some '"'
  else if c = '\\' then some '\\'
  else if c = '\x08' then some 'b'
  else if c = '\x0c' then some 'f'
  else if c = '\n' then some 'n'
  else if c = '\r' then some 'r'
  else if c = '\t' then some 't'
  else none

/-- The other characters `json.Marshal` escapes: control characters, those of HTML, and the line and the
    paragraph separator. -/
def longEscape (c : Char) : Bool :=
  c.toNat < 32 || c == '<' || c == '>' || c == '&' || c.toNat == 0x2028 || c.toNat == 0x2029

def escapeChar (c : Char) : List Char :=
  match shortEscape c with
  | some e => ['\\', e]
  | none =>
      if longEscape c then
        ['\\', 'u', hexDigit (c.toNat / 4096), hexDigit (c.toNat / 256 % 16),
          hexDigit (c.toNat / 16 % 16), hexDigit (c.toNat % 16)]
      else [c]

def quote (s : String) : List Char := '"' :: (s.toList.flatMap escapeChar ++ ['"'])

/-! ## Reading a string -/

def hexValue (c : Char) : Option Nat :=
  let n := c.toNat
  if 48 ≤ n ∧ n ≤ 57 then some (n - 48)
  else if 97 ≤ n ∧ n ≤ 102 then some (n - 87)
  else if 65 ≤ n ∧ n ≤ 70 then some (n - 55)
  else none

/-- `getu4` after the backslash and the `u`. -/
def hex4 (a b c d : Char) : Option Nat := do
  return 4096 * (← hexValue a) + 256 * (← hexValue b) + 16 * (← hexValue c) + (← hexValue d)

def shortUnescape (c : Char) : Option Char :=
  if c = '"' ∨ c = '\\' ∨ c = '/' then some c
  else if c = 'b' then some '\x08'
  else if c = 'f' then some '\x0c'
  else if c = 'n' then some '\n'
  else if c = 'r' then some '\r'
  else if c = 't' then some '\t'
  else none

def isHighSurrogate (n : Nat) : Bool := 0xd800 ≤ n && n < 0xdc00
def isLowSurrogate (n : Nat) : Bool := 0xdc00 ≤ n && n < 0xe000

/-- The character of the code `n` read from `\uXXXX`, and what follows it. A pair of surrogates is one
    character. -/
def codeChar (n : Nat) (rest : List Char) : Char × List Char :=
  if isHighSurrogate n then
    match rest with
    | '\\' :: 'u' :: a :: b :: c :: d :: rest' =>
        match hex4 a b c d with
        | some low =>
            if isLowSurrogate low then
              (Char.ofNat (0x10000 + (n - 0xd800) * 1024 + (low - 0xdc00)), rest')
            else ('\uFFFD', rest)
        | none => ('\uFFFD', rest)
    | _ => ('\uFFFD', rest)
  else if isLowSurrogate n then ('\uFFFD', rest)
  else (Char.ofNat n, rest)

/-- One character of a string, which is not its end. -/
def scanChar : List Char → Option (Char × List Char)
  | [] => none
  | '\\' :: 'u' :: a :: b :: c :: d :: rest => do return codeChar (← hex4 a b c d) rest
  | '\\' :: e :: rest => do return (← shortUnescape e, rest)
  | c :: rest => if c.toNat < 32 ∨ c = '\\' then none else some (c, rest)

/-- The rest of a string after its opening quotation mark. -/
def scanString : Nat → List Char → Option (List Char × List Char)
  | 0, _ => none
  | _ + 1, '"' :: rest => some ([], rest)
  | fuel + 1, s => do
      let (c, rest) ← scanChar s
      let (cs, rest) ← scanString fuel rest
      return (c :: cs, rest)

/-! ## Values -/

inductive Value where
  | null
  | bool (b : Bool)
  | number (text : List Char)
  | string (s : String)
  | array
  | object (members : List (String × Value))

def isWhite (c : Char) : Bool := c == ' ' || c == '\t' || c == '\r' || c == '\n'

def skipWhite (s : List Char) : List Char := s.dropWhile isWhite

def takeDigits (s : List Char) : Option (List Char) :=
  match s with
  | c :: rest => if c.isDigit then some (rest.dropWhile Char.isDigit) else none
  | [] => none

/-- What follows a number. -/
def scanNumber (s : List Char) : Option (List Char) := do
  let s := match s with
    | '-' :: rest => rest
    | _ => s
  let s ← match s with
    | '0' :: rest => some rest
    | _ => takeDigits s
  let s ← match s with
    | '.' :: rest => takeDigits rest
    | _ => some s
  match s with
  | e :: rest =>
      if e = 'e' ∨ e = 'E' then
        match rest with
        | sign :: rest' => if sign = '+' ∨ sign = '-' then takeDigits rest' else takeDigits rest
        | [] => none
      else some s
  | [] => some s

def scanWord (word s : List Char) : Option (List Char) :=
  if word.isPrefixOf s then some (s.drop word.length) else none

/-- The deepest nesting `json.Unmarshal` reads. -/
def maxNestingDepth : Nat := 10000

mutual

/-- A value that starts at the first character, `depth` levels down. -/
def parseValue : Nat → Nat → List Char → Option (Value × List Char)
  | 0, _, _ => none
  | fuel + 1, depth, s =>
      match s with
      | '"' :: rest => do
          let (cs, rest) ← scanString (rest.length + 1) rest
          return (.string (String.ofList cs), rest)
      | '\x7b' :: rest =>
          if depth ≥ maxNestingDepth then none
          else match skipWhite rest with
          | '\x7d' :: rest => some (.object [], rest)
          | rest => do
              let (members, rest) ← parseMembers fuel (depth + 1) rest
              return (.object members, rest)
      | '[' :: rest =>
          if depth ≥ maxNestingDepth then none
          else match skipWhite rest with
          | ']' :: rest => some (.array, rest)
          | rest => do return (.array, ← parseElements fuel (depth + 1) rest)
      | 'n' :: _ => do return (.null, ← scanWord "null".toList s)
      | 't' :: _ => do return (.bool true, ← scanWord "true".toList s)
      | 'f' :: _ => do return (.bool false, ← scanWord "false".toList s)
      | _ => do
          let rest ← scanNumber s
          return (.number (s.take (s.length - rest.length)), rest)

/-- The members of an object and its closing brace. -/
def parseMembers : Nat → Nat → List Char → Option (List (String × Value) × List Char)
  | 0, _, _ => none
  | fuel + 1, depth, s =>
      match s with
      | '"' :: rest => do
          let (key, rest) ← scanString (rest.length + 1) rest
          match skipWhite rest with
          | ':' :: rest => do
              let (value, rest) ← parseValue fuel depth (skipWhite rest)
              match skipWhite rest with
              | '\x7d' :: rest => return ([(String.ofList key, value)], rest)
              | ',' :: rest => do
                  let (members, rest) ← parseMembers fuel depth (skipWhite rest)
                  return ((String.ofList key, value) :: members, rest)
              | _ => none
          | _ => none
      | _ => none

/-- The elements of an array and its closing bracket. -/
def parseElements : Nat → Nat → List Char → Option (List Char)
  | 0, _, _ => none
  | fuel + 1, depth, s => do
      let (_, rest) ← parseValue fuel depth s
      match skipWhite rest with
      | ']' :: rest => return rest
      | ',' :: rest => parseElements fuel depth (skipWhite rest)
      | _ => none

end

/-- The value of a whole text. -/
def parse (text : String) : Option Value := do
  let s := skipWhite text.toList
  let (value, rest) ← parseValue (s.length + 1) 0 s
  if skipWhite rest = [] then return value else none

/-! ## Reading a printed string -/

theorem hexValue_hexDigit {n : Nat} (h : n < 16) : hexValue (hexDigit n) = some n := by
  have hall : ∀ n : Fin 16, hexValue (hexDigit n) = some n.val := by decide
  exact hall ⟨n, h⟩

theorem hex4_code {n : Nat} (h : n < 65536) :
    hex4 (hexDigit (n / 4096)) (hexDigit (n / 256 % 16)) (hexDigit (n / 16 % 16)) (hexDigit (n % 16))
      = some n := by
  have hsum : 4096 * (n / 4096) + 256 * (n / 256 % 16) + 16 * (n / 16 % 16) + n % 16 = n := by omega
  simp only [hex4, hexValue_hexDigit (n := n / 4096) (by omega),
    hexValue_hexDigit (n := n / 256 % 16) (by omega), hexValue_hexDigit (n := n / 16 % 16) (by omega),
    hexValue_hexDigit (n := n % 16) (by omega), Option.bind_eq_bind, Option.bind_some, Option.pure_def,
    hsum]

theorem shortUnescape_shortEscape {c e : Char} (h : shortEscape c = some e) :
    shortUnescape e = some c ∧ e ≠ 'u' := by
  unfold shortEscape at h
  split_ifs at h with h₁ h₂ h₃ h₄ h₅ h₆ h₇
  all_goals
    obtain rfl := Option.some.inj h
    subst c
    decide

theorem longEscape_code {c : Char} (h : longEscape c = true) :
    c.toNat < 65536 ∧ isHighSurrogate c.toNat = false ∧ isLowSurrogate c.toNat = false := by
  have hle : c.toNat < 0xd800 := by
    simp only [longEscape, Bool.or_eq_true, decide_eq_true_eq, beq_iff_eq] at h
    rcases h with ((((h | h) | h) | h) | h) | h
    · omega
    · subst h; decide
    · subst h; decide
    · subst h; decide
    · omega
    · omega
  refine ⟨by omega, ?_, ?_⟩
  · simp only [isHighSurrogate, Bool.and_eq_false_iff, decide_eq_false_iff_not]
    omega
  · simp only [isLowSurrogate, Bool.and_eq_false_iff, decide_eq_false_iff_not]
    omega

/-- One character back. -/
theorem scanChar_escapeChar (c : Char) (rest : List Char) :
    scanChar (escapeChar c ++ rest) = some (c, rest) ∧ ∀ t, escapeChar c ++ rest ≠ '"' :: t := by
  unfold escapeChar
  cases hshort : shortEscape c with
  | some e =>
      obtain ⟨hback, hne⟩ := shortUnescape_shortEscape hshort
      refine ⟨?_, fun t ht => by simp at ht⟩
      simp only [List.cons_append, List.nil_append]
      unfold scanChar
      split
      · next heq => cases heq
      · next heq =>
          obtain ⟨-, heq⟩ := List.cons.inj heq
          exact absurd (List.cons.inj heq).1 hne
      · next heq =>
          obtain ⟨-, heq⟩ := List.cons.inj heq
          obtain ⟨rfl, rfl⟩ := List.cons.inj heq
          simp [hback]
      · next hnot heq =>
          obtain ⟨rfl, rfl⟩ := List.cons.inj heq
          exact absurd rfl (hnot e rest rfl)
  | none =>
      by_cases hlong : longEscape c = true
      · obtain ⟨hlt, hhigh, hlow⟩ := longEscape_code hlong
        simp only [hlong, if_true]
        refine ⟨?_, fun t ht => by simp at ht⟩
        simp [scanChar, hex4_code hlt, codeChar, hhigh, hlow, Char.ofNat_toNat]
      · rw [if_neg hlong]
        have hquote : c ≠ '"' ∧ c ≠ '\\' := by
          unfold shortEscape at hshort
          split_ifs at hshort with h₁ h₂
          exact ⟨h₁, h₂⟩
        have hcontrol : ¬ c.toNat < 32 := by
          simp only [longEscape, Bool.not_eq_true, Bool.or_eq_false_iff, decide_eq_false_iff_not] at hlong
          exact hlong.1.1.1.1.1
        refine ⟨?_, fun t ht => hquote.1 (List.cons.inj ht).1⟩
        simp only [List.cons_append, List.nil_append]
        unfold scanChar
        split
        · next heq => cases heq
        · next heq => exact absurd (List.cons.inj heq).1 hquote.2
        · next heq => exact absurd (List.cons.inj heq).1 hquote.2
        · next heq =>
            obtain ⟨rfl, rfl⟩ := List.cons.inj heq
            rw [if_neg (fun h => h.elim hcontrol hquote.2)]

/-- The whole string back. -/
theorem scanString_escape (l : List Char) (rest : List Char) {fuel : Nat} (hfuel : l.length < fuel) :
    scanString fuel (l.flatMap escapeChar ++ '"' :: rest) = some (l, rest) := by
  induction l generalizing fuel with
  | nil =>
      cases fuel with
      | zero => exact absurd hfuel (Nat.not_lt_zero _)
      | succ fuel => rfl
  | cons c l ih =>
      cases fuel with
      | zero => exact absurd hfuel (Nat.not_lt_zero _)
      | succ fuel =>
          rw [List.flatMap_cons, List.append_assoc]
          obtain ⟨hchar, hquote⟩ := scanChar_escapeChar c (l.flatMap escapeChar ++ '"' :: rest)
          unfold scanString
          split
          · next heq => cases heq
          · next heq => exact absurd heq (hquote _)
          · next hfuel' _ =>
              obtain rfl := Nat.succ.inj hfuel'
              simp only [hchar, ih (Nat.lt_of_succ_lt_succ hfuel), Option.bind_eq_bind, Option.bind_some,
                Option.pure_def]

theorem length_le_escape (l : List Char) : l.length ≤ (l.flatMap escapeChar).length := by
  have hone : ∀ c, 1 ≤ (escapeChar c).length := by
    intro c
    unfold escapeChar
    split
    · simp
    · split_ifs <;> simp
  induction l with
  | nil => simp
  | cons c l ih =>
      rw [List.flatMap_cons, List.length_append, List.length_cons]
      have := hone c
      omega

/-- A printed string, wherever it stands. -/
theorem scanString_quote (s : String) (rest : List Char) :
    ∃ tail, quote s ++ rest = '"' :: tail ∧ scanString (tail.length + 1) tail = some (s.toList, rest) := by
  refine ⟨s.toList.flatMap escapeChar ++ '"' :: rest, by simp [quote], ?_⟩
  refine scanString_escape s.toList rest ?_
  have := length_le_escape s.toList
  simp only [List.length_append]
  omega

/-! ## Reading a printed object -/

theorem skipWhite_cons {c : Char} (t : List Char) (hc : isWhite c = false) : skipWhite (c :: t) = c :: t := by
  rw [skipWhite, List.dropWhile_cons_of_neg (by rw [hc]; exact Bool.false_ne_true)]

/-- What follows a member of an object, read on. -/
theorem parseMembers_value {fuel depth : Nat} {key : String} {value : Value} {text rest rest' : List Char}
    {members : List (String × Value)} (hwhite : skipWhite (text ++ rest) = text ++ rest)
    (hvalue : parseValue (fuel + 1) depth (text ++ rest) = some (value, rest))
    (hnext : (rest = '\x7d' :: rest' ∧ members = []) ∨
      ∃ tail, rest = ',' :: '"' :: tail ∧
        parseMembers (fuel + 1) depth ('"' :: tail) = some (members, rest')) :
    parseMembers (fuel + 2) depth (quote key ++ ':' :: (text ++ rest))
      = some ((key, value) :: members, rest') := by
  obtain ⟨keyTail, hkey, hscanKey⟩ := scanString_quote key (':' :: (text ++ rest))
  rw [hkey, parseMembers]
  simp only [hscanKey, Option.bind_eq_bind, Option.bind_some]
  rw [skipWhite_cons _ (by decide)]
  simp only [hwhite, hvalue, Option.bind_some]
  rcases hnext with ⟨rfl, rfl⟩ | ⟨tail, rfl, hmembers⟩
  · rw [skipWhite_cons _ (by decide)]
    simp only [String.ofList_toList, Option.pure_def]
  · rw [skipWhite_cons _ (by decide)]
    simp only [skipWhite_cons tail (by decide : isWhite '"' = false), hmembers, Option.bind_some,
      String.ofList_toList, Option.pure_def]

theorem parseMembers_string {fuel depth : Nat} {key value : String} {rest rest' : List Char}
    {members : List (String × Value)}
    (hnext : (rest = '\x7d' :: rest' ∧ members = []) ∨
      ∃ tail, rest = ',' :: '"' :: tail ∧
        parseMembers (fuel + 1) depth ('"' :: tail) = some (members, rest')) :
    parseMembers (fuel + 2) depth (quote key ++ ':' :: (quote value ++ rest))
      = some ((key, .string value) :: members, rest') := by
  obtain ⟨tail, hquote, hscan⟩ := scanString_quote value rest
  refine parseMembers_value ?_ ?_ hnext
  · rw [hquote]
    exact skipWhite_cons tail (by decide)
  · rw [hquote]
    simp [parseValue, hscan]

/-- An object, from its members. -/
theorem parse_object {tail : List Char} {members : List (String × Value)}
    (h : ∀ fuel, 2 ≤ fuel → parseMembers (fuel + 1) 1 ('"' :: tail) = some (members, []))
    (hlong : 1 ≤ tail.length) :
    parse (String.ofList ('\x7b' :: '"' :: tail)) = some (.object members) := by
  have hskip : skipWhite ('\x7b' :: '"' :: tail) = '\x7b' :: '"' :: tail := by
    rw [skipWhite, List.dropWhile_cons_of_neg (by decide)]
  have hopen : skipWhite ('"' :: tail) = '"' :: tail := by
    rw [skipWhite, List.dropWhile_cons_of_neg (by decide)]
  have hmembers := h (tail.length + 1) (by omega)
  have hvalue : parseValue (tail.length + 3) 0 ('\x7b' :: '"' :: tail)
      = some (.object members, []) := by
    rw [parseValue, if_neg (by decide), hopen]
    split
    · next heq => exact absurd (List.cons.inj heq).1 (by decide)
    · simp only [Nat.zero_add, hmembers, Option.bind_eq_bind, Option.bind_some, Option.pure_def]
  have hend : skipWhite [] = [] := rfl
  simp only [parse, String.toList_ofList, hskip, List.length_cons, hvalue, Option.bind_eq_bind,
    Option.bind_some, hend, if_true, Option.pure_def]

end LesserHost.Go.JSONText
