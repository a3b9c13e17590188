import ContractLowering.Json.Value

/-! # Tokens of a document

A document is a sequence of tokens with blanks between them. Tokens are read from the left,
each as far as it goes; texts are decoded and numerals are turned into numbers on the way.
-/

namespace ContractLowering

inductive Token where
  | openObject
  | closeObject
  | openArray
  | closeArray
  | colon
  | comma
  | null
  | boolean (value : Bool)
  | number (value : Number)
  | text (value : String)
  deriving DecidableEq

namespace Token

/-- Space, tab, line feed and carriage return separate tokens; nothing else does. -/
def isBlank (c : Char) : Bool :=
  c = ' ' ∨ c = '\t' ∨ c = '\n' ∨ c = '\r'

def hexDigit? (c : Char) : Option Nat :=
  if '0' ≤ c ∧ c ≤ '9' then some (c.toNat - '0'.toNat)
  else if 'a' ≤ c ∧ c ≤ 'f' then some (c.toNat - 'a'.toNat + 10)
  else if 'A' ≤ c ∧ c ≤ 'F' then some (c.toNat - 'A'.toNat + 10)
  else none

/-- A unit of four hexadecimal digits. -/
def readUnit : List Char → Option (Nat × List Char)
  | a :: b :: c :: d :: rest => do
    let high := (← hexDigit? a) * 16 + (← hexDigit? b)
    let value := (high * 16 + (← hexDigit? c)) * 16 + (← hexDigit? d)
    return (value, rest)
  | _ => none

/-- The escape of a low surrogate. -/
def readLowSurrogate : List Char → Option (Nat × List Char)
  | '\\' :: 'u' :: rest =>
    (readUnit rest).filter fun (low, _) => 0xDC00 ≤ low ∧ low ≤ 0xDFFF
  | _ => none

/-- The character that a numeric escape stands for, read after its `u`. A high surrogate has
to be followed by the escape of a low one; a low one cannot stand alone. -/
def readNumericEscape (cs : List Char) : Option (Char × List Char) := do
  let (high, rest) ← readUnit cs
  if 0xDC00 ≤ high ∧ high ≤ 0xDFFF then
    none
  else if 0xD800 ≤ high ∧ high ≤ 0xDBFF then
    let (low, rest) ← readLowSurrogate rest
    return (Char.ofNat (0x10000 + (high - 0xD800) * 0x400 + (low - 0xDC00)), rest)
  else
    return (Char.ofNat high, rest)

/-- The character that a short escape stands for. -/
def shortEscape? (c : Char) : Option Char :=
  if c = '"' ∨ c = '\\' ∨ c = '/' then some c
  else if c = 'b' then some '\x08'
  else if c = 'f' then some '\x0c'
  else if c = 'n' then some '\n'
  else if c = 'r' then some '\r'
  else if c = 't' then some '\t'
  else none

/-- An escape, read after its backslash. -/
def readEscape : List Char → Option (Char × List Char)
  | [] => none
  | 'u' :: rest => readNumericEscape rest
  | c :: rest => (shortEscape? c).map fun value => (value, rest)

theorem readUnit_length {cs rest : List Char} {value : Nat} (h : readUnit cs = some (value, rest)) :
    rest.length < cs.length := by
  match cs, h with
  | a :: b :: c :: d :: r, h =>
    simp only [readUnit, Option.bind_eq_bind, Option.bind_eq_some_iff, Option.pure_def,
      Option.some.injEq, Prod.mk.injEq] at h
    obtain ⟨_, _, _, _, _, _, _, _, _, h⟩ := h
    simp [← h]; omega

theorem readLowSurrogate_length {cs rest : List Char} {low : Nat}
    (h : readLowSurrogate cs = some (low, rest)) : rest.length < cs.length := by
  unfold readLowSurrogate at h
  split at h
  · have := readUnit_length (Option.filter_eq_some_iff.1 h).1
    simp only [List.length_cons]
    omega
  · simp at h

theorem readNumericEscape_length {cs rest : List Char} {c : Char}
    (h : readNumericEscape cs = some (c, rest)) : rest.length < cs.length := by
  simp only [readNumericEscape, Option.bind_eq_bind, Option.bind_eq_some_iff] at h
  obtain ⟨⟨high, tail⟩, hunit, h⟩ := h
  have hlen := readUnit_length hunit
  split at h
  · simp at h
  · split at h
    · simp only [Option.bind_eq_some_iff, Option.pure_def, Option.some.injEq, Prod.mk.injEq] at h
      obtain ⟨⟨low, tail'⟩, hlow, _, h⟩ := h
      rw [← h]
      exact Nat.lt_trans (readLowSurrogate_length hlow) hlen
    · simp only [Option.pure_def, Option.some.injEq, Prod.mk.injEq] at h
      rw [← h.2]
      exact hlen

theorem readEscape_length {cs rest : List Char} {c : Char} (h : readEscape cs = some (c, rest)) :
    rest.length < cs.length := by
  unfold readEscape at h
  split at h
  · simp at h
  · have := readNumericEscape_length h
    simp only [List.length_cons]
    omega
  · simp only [Option.map_eq_some_iff, Prod.mk.injEq] at h
    obtain ⟨_, _, _, h⟩ := h
    simp [h]

/-- The characters of a text, read after its opening quote, up to the closing one. -/
def readText (cs : List Char) : Option (List Char × List Char) :=
  match cs with
  | [] => none
  | c :: tail =>
    if c = '"' then
      some ([], tail)
    else if c = '\\' then
      match h : readEscape tail with
      | none => none
      | some (value, rest) =>
        have : rest.length < tail.length := readEscape_length h
        (readText rest).map fun (chars, rest) => (value :: chars, rest)
    else if c.toNat < 0x20 then
      none
    else
      (readText tail).map fun (chars, rest) => (c :: chars, rest)
termination_by cs.length

def isDigit (c : Char) : Bool :=
  '0' ≤ c ∧ c ≤ '9'

def digits (cs : List Char) : List Nat :=
  (cs.takeWhile isDigit).map fun c => c.toNat - '0'.toNat

def dropDigits (cs : List Char) : List Char :=
  cs.dropWhile isDigit

/-- The digits after a point, if there is one; at least one has to follow it. -/
def readFraction : List Char → Option (Option (List Nat) × List Char)
  | '.' :: cs => if (digits cs).isEmpty then none else some (some (digits cs), dropDigits cs)
  | cs => some (none, cs)

/-- The exponent, if there is one; at least one digit has to follow the mark and its sign. -/
def readExponent (cs : List Char) : Option (Option Int × List Char) :=
  match cs with
  | [] => some (none, [])
  | mark :: tail =>
    if mark = 'e' ∨ mark = 'E' then
      let negative := tail.head? = some '-'
      let tail := if tail.head? = some '-' ∨ tail.head? = some '+' then tail.drop 1 else tail
      if (digits tail).isEmpty then
        none
      else
        let value : Nat := (digits tail).foldl (fun n digit => n * 10 + digit) 0
        some (some (if negative then -(value : Int) else value), dropDigits tail)
    else
      some (none, mark :: tail)

/-- A numeral. A zero in front stands alone before the point. -/
def readNumeral (cs : List Char) : Option (Numeral × List Char) := do
  let negative := cs.head? = some '-'
  let cs := if negative then cs.drop 1 else cs
  let whole := if cs.head? = some '0' then [0] else digits cs
  let cs := if cs.head? = some '0' then cs.drop 1 else dropDigits cs
  if whole.isEmpty then
    none
  else
    let (fraction, cs) ← readFraction cs
    let (exponent, cs) ← readExponent cs
    return (⟨negative, whole, fraction, exponent⟩, cs)

/-- The rest after a given word in front. -/
def afterWord? : List Char → List Char → Option (List Char)
  | [], cs => some cs
  | w :: word, c :: cs => if w = c then afterWord? word cs else none
  | _ :: _, [] => none

/-- The token in front and what follows it. -/
def read : List Char → Option (Token × List Char)
  | [] => none
  | '{' :: cs => some (openObject, cs)
  | '}' :: cs => some (closeObject, cs)
  | '[' :: cs => some (openArray, cs)
  | ']' :: cs => some (closeArray, cs)
  | ':' :: cs => some (colon, cs)
  | ',' :: cs => some (comma, cs)
  | 'n' :: cs => (afterWord? ['u', 'l', 'l'] cs).map fun rest => (null, rest)
  | 't' :: cs => (afterWord? ['r', 'u', 'e'] cs).map fun rest => (boolean true, rest)
  | 'f' :: cs => (afterWord? ['a', 'l', 's', 'e'] cs).map fun rest => (boolean false, rest)
  | '"' :: cs => (readText cs).map fun (chars, rest) => (text (String.ofList chars), rest)
  | cs => do
    let (numeral, rest) ← readNumeral cs
    return (number (← numeral.toNumber?), rest)

/-- All tokens; `fuel` bounds the number of characters. -/
def readAllWithin : Nat → List Char → Option (List Token)
  | 0, _ => none
  | fuel + 1, cs =>
    match cs.dropWhile isBlank with
    | [] => some []
    | c :: tail => do
      let (token, rest) ← read (c :: tail)
      return token :: (← readAllWithin fuel rest)

/-- The tokens of a text. -/
def readAll (cs : List Char) : Option (List Token) :=
  readAllWithin (cs.length + 1) cs

end Token

end ContractLowering
