import ContractLowering.Proofs.Json.Numeral
import ContractLowering.Proofs.Json.Written
import Mathlib.Data.List.Chain

/-! # Spellings

A document spells the tokens of a value with blanks between them. Every character of a text can be
spelt as it is, by a short escape if it has one, or by its code in one or two units of 16 bits;
numerals are plain decimals that 64 bits hold. Whatever is spelt is read back, so all spellings of
a value are read as one.
-/

namespace ContractLowering

namespace Token

/-- Hexadecimal digits are written in lower or upper case. -/
def SpellsDigit (n : ℕ) (c : Char) : Prop :=
  n < 16 ∧ (c = n.digitChar ∨ c = n.digitChar.toUpper)

instance (n : ℕ) (c : Char) : Decidable (SpellsDigit n c) :=
  inferInstanceAs (Decidable (_ ∧ _))

/-- Four digits spell a unit of 16 bits. -/
inductive SpellsUnit : ℕ → List Char → Prop
  | digits {a b c d : ℕ} {first second third fourth : Char} (ha : SpellsDigit a first)
      (hb : SpellsDigit b second) (hc : SpellsDigit c third) (hd : SpellsDigit d fourth) :
      SpellsUnit (((a * 16 + b) * 16 + c) * 16 + d) [first, second, third, fourth]

/-- The letters of short escapes and what they stand for. -/
def shortEscapes : List (Char × Char) :=
  [('"', '"'), ('\\', '\\'), ('/', '/'), ('b', '\x08'), ('f', '\x0c'), ('n', '\n'), ('r', '\r'),
    ('t', '\t')]

/-- A character beyond the first 65536 is split into two surrogates. -/
inductive SpellsChar : Char → List Char → Prop
  | raw {c : Char} (quote : c ≠ '"') (backslash : c ≠ '\\') (control : 0x20 ≤ c.toNat) :
      SpellsChar c [c]
  | short {letter c : Char} (h : (letter, c) ∈ shortEscapes) : SpellsChar c ['\\', letter]
  | unit {c : Char} {chars : List Char} (h : SpellsUnit c.toNat chars) :
      SpellsChar c ('\\' :: 'u' :: chars)
  | surrogates {c : Char} {high low : ℕ} {first second : List Char}
      (hfirst : SpellsUnit (0xD800 + high) first) (hsecond : SpellsUnit (0xDC00 + low) second)
      (high_lt : high < 0x400) (low_lt : low < 0x400)
      (code : c.toNat = 0x10000 + high * 0x400 + low) :
      SpellsChar c ('\\' :: 'u' :: first ++ '\\' :: 'u' :: second)

inductive SpellsText : List Char → List Char → Prop
  | nil : SpellsText [] []
  | cons {c : Char} {text spelt chars : List Char} (hc : SpellsChar c spelt)
      (htext : SpellsText text chars) : SpellsText (c :: text) (spelt ++ chars)

/-- How a token is written. There is one plain decimal for each integer, and none for a double. -/
inductive Spells : Token → List Char → Prop
  | openObject : Spells openObject ['{']
  | closeObject : Spells closeObject ['}']
  | openArray : Spells openArray ['[']
  | closeArray : Spells closeArray [']']
  | colon : Spells colon [':']
  | comma : Spells comma [',']
  | null : Spells null ['n', 'u', 'l', 'l']
  | booleanTrue : Spells (boolean true) ['t', 'r', 'u', 'e']
  | booleanFalse : Spells (boolean false) ['f', 'a', 'l', 's', 'e']
  | natural {n : ℕ} (h : n < 2 ^ 64) : Spells (number (.integer n)) (Nat.toDigits 10 n)
  | negative {n : ℕ} (pos : 0 < n) (h : n ≤ 2 ^ 63) :
      Spells (number (.integer (-n))) ('-' :: Nat.toDigits 10 n)
  | text {s : String} {chars : List Char} (h : SpellsText s.toList chars) :
      Spells (text s) ('"' :: chars ++ ['"'])

/-- Any number of blanks may stand before each token and at the end. -/
inductive SpellsAll : List Token → List Char → Prop
  | nil {blanks : List Char} (hblanks : ∀ c ∈ blanks, c ∈ [' ', '\t', '\n', '\r']) :
      SpellsAll [] blanks
  | cons {token : Token} {tokens : List Token} {blanks spelt chars : List Char}
      (hblanks : ∀ c ∈ blanks, c ∈ [' ', '\t', '\n', '\r']) (htoken : Spells token spelt)
      (htokens : SpellsAll tokens chars) : SpellsAll (token :: tokens) (blanks ++ (spelt ++ chars))

section Rules

variable {token : Token} {tokens : List Token} {spelt chars : List Char}

theorem SpellsAll.next (htoken : Spells token spelt) (htokens : SpellsAll tokens chars) :
    SpellsAll (token :: tokens) (spelt ++ chars) :=
  .cons (List.forall_mem_nil _) htoken htokens

theorem SpellsAll.blank {c : Char} (hc : c ∈ [' ', '\t', '\n', '\r'])
    (htokens : SpellsAll tokens chars) : SpellsAll tokens (c :: chars) := by
  cases htokens with
  | nil hblanks => exact .nil (List.forall_mem_cons.mpr ⟨hc, hblanks⟩)
  | cons hblanks htoken hlater => exact .cons (List.forall_mem_cons.mpr ⟨hc, hblanks⟩) htoken hlater

/-- Whether a character needs no escape. -/
def isRaw (c : Char) : Bool :=
  c ≠ '"' ∧ c ≠ '\\' ∧ 0x20 ≤ c.toNat

theorem spellsText_self (h : chars.all isRaw = true) : SpellsText chars chars := by
  induction chars with
  | nil => exact .nil
  | cons c chars ih =>
    rw [List.all_cons, Bool.and_eq_true, isRaw, decide_eq_true_eq] at h
    obtain ⟨⟨hquote, hbackslash, hcontrol⟩, hlater⟩ := h
    exact .cons (.raw hquote hbackslash hcontrol) (ih hlater)

end Rules

section Units

variable {n : ℕ} {chars : List Char} (rest : List Char)

theorem SpellsDigit.hexDigit? {c : Char} (h : SpellsDigit n c) : hexDigit? c = some n := by
  have hdigits : ∀ n < 16, Token.hexDigit? n.digitChar = some n ∧
      Token.hexDigit? n.digitChar.toUpper = some n := by decide
  obtain ⟨hn, rfl | rfl⟩ := h
  · exact (hdigits n hn).1
  · exact (hdigits n hn).2

theorem SpellsUnit.readUnit (h : SpellsUnit n chars) :
    readUnit (chars ++ rest) = some (n, rest) := by
  cases h with
  | digits ha hb hc hd =>
    simp [Token.readUnit, ha.hexDigit?, hb.hexDigit?, hc.hexDigit?, hd.hexDigit?]

end Units

section Texts

variable {c : Char} {spelt chars : List Char} (rest : List Char)

theorem readEscape_short {letter : Char} (h : (letter, c) ∈ shortEscapes) :
    readEscape (letter :: rest) = some (c, rest) := by
  simp only [shortEscapes, List.mem_cons, Prod.mk.injEq, List.not_mem_nil, or_false] at h
  rcases h with ⟨rfl, rfl⟩ | ⟨rfl, rfl⟩ | ⟨rfl, rfl⟩ | ⟨rfl, rfl⟩ | ⟨rfl, rfl⟩ | ⟨rfl, rfl⟩ |
    ⟨rfl, rfl⟩ | ⟨rfl, rfl⟩ <;> rfl

/-- A character is no surrogate, so one unit stands for it alone. -/
theorem readEscape_unit (h : SpellsUnit c.toNat chars) :
    readEscape ('u' :: (chars ++ rest)) = some (c, rest) := by
  have hvalid : c.toNat < 0xD800 ∨ 0xDFFF < c.toNat ∧ c.toNat < 0x110000 := c.valid
  have hlow : ¬ (0xDC00 ≤ c.toNat ∧ c.toNat ≤ 0xDFFF) := by omega
  have hhigh : ¬ (0xD800 ≤ c.toNat ∧ c.toNat ≤ 0xDBFF) := by omega
  simp only [readEscape, readNumericEscape, h.readUnit, Option.bind_eq_bind, Option.bind_some,
    if_neg hlow, if_neg hhigh, Char.ofNat_toNat, Option.pure_def]

theorem readEscape_surrogates {high low : ℕ} {first second : List Char}
    (hfirst : SpellsUnit (0xD800 + high) first) (hsecond : SpellsUnit (0xDC00 + low) second)
    (hhigh : high < 0x400) (hlow : low < 0x400)
    (hc : c.toNat = 0x10000 + high * 0x400 + low) :
    readEscape ('u' :: (first ++ '\\' :: 'u' :: (second ++ rest))) = some (c, rest) := by
  have hnotLow : ¬ (0xDC00 ≤ 0xD800 + high ∧ 0xD800 + high ≤ 0xDFFF) := by omega
  have hisHigh : 0xD800 ≤ 0xD800 + high ∧ 0xD800 + high ≤ 0xDBFF := by omega
  have hisLow : 0xDC00 ≤ 0xDC00 + low ∧ 0xDC00 + low ≤ 0xDFFF := by omega
  have hcode : 0x10000 + (0xD800 + high - 0xD800) * 0x400 + (0xDC00 + low - 0xDC00) = c.toNat := by
    omega
  have hsecond : readLowSurrogate ('\\' :: 'u' :: (second ++ rest)) =
      some (0xDC00 + low, rest) := by
    simp only [readLowSurrogate, hsecond.readUnit, Option.filter_some, hisLow, decide_true,
      and_self, if_true]
  simp only [readEscape, readNumericEscape, hfirst.readUnit, Option.bind_eq_bind, Option.bind_some,
    if_neg hnotLow, if_pos hisHigh, hsecond, hcode, Char.ofNat_toNat, Option.pure_def]

theorem SpellsChar.readText (h : SpellsChar c spelt) :
    readText (spelt ++ rest) = (readText rest).map fun read => (c :: read.1, read.2) := by
  cases h with
  | raw hquote hback hcontrol => exact readText_raw rest hquote hback (by omega)
  | short h => exact readText_escaped (readEscape_short rest h)
  | unit h => exact readText_escaped (readEscape_unit rest h)
  | surrogates hfirst hsecond hhigh hlow hc =>
    have hread := readText_escaped (readEscape_surrogates rest hfirst hsecond hhigh hlow hc)
    simpa using hread

theorem SpellsText.readText {text : List Char} (h : SpellsText text chars) :
    readText (chars ++ '"' :: rest) = some (text, rest) := by
  induction h with
  | nil => rw [List.nil_append, Token.readText, if_pos rfl]
  | cons hc _ ih => rw [List.append_assoc, hc.readText, ih, Option.map_some]

end Texts

section Tokens

/-- A token that can come right after a value. -/
def Follows (token : Token) : Prop :=
  token = comma ∨ token = closeArray ∨ token = closeObject

def isNumber : Token → Bool
  | number _ => true
  | _ => false

/-- In a document every numeral is followed by a mark, or by nothing. -/
def Separated (tokens : List Token) : Prop :=
  tokens.IsChain fun first later => first.isNumber = true → Follows later

variable {token : Token} {tokens : List Token} {spelt chars rest : List Char}

theorem Spells.read (h : Spells token spelt)
    (hrest : token.isNumber = true → EndsNumeral rest) :
    read (spelt ++ rest) = some (token, rest) := by
  cases h with
  | natural h =>
    exact read_toDigits _ false (toNumber?_natural _ h) (hrest rfl)
  | negative hpos h =>
    exact read_toDigits _ true (toNumber?_negative _ hpos h) (hrest rfl)
  | text h =>
    rw [List.cons_append, List.cons_append, List.append_assoc, List.singleton_append]
    simp only [Token.read, h.readText, Option.map_some, String.ofList_toList]
  | _ => rfl

/-- No token starts with a blank. -/
theorem Spells.exists_cons (h : Spells token spelt) :
    ∃ c cs, spelt = c :: cs ∧ isBlank c = false := by
  cases h with
  | @natural n h =>
    obtain ⟨c, cs, hdigits, hc⟩ := exists_toDigits_eq_cons n
    refine ⟨c, cs, hdigits, Bool.eq_false_iff.mpr fun hblank => ?_⟩
    rcases of_decide_eq_true hblank with rfl | rfl | rfl | rfl <;> exact nomatch hc
  | _ => exact ⟨_, _, rfl, rfl⟩

theorem isBlank_of_mem {c : Char} (h : c ∈ [' ', '\t', '\n', '\r']) : isBlank c = true := by
  simpa [isBlank] using h

theorem endsNumeral_cons {c : Char} (h : c ∈ [' ', '\t', '\n', '\r', ',', ']', '}']) :
    EndsNumeral (c :: rest) := by
  rintro _ ⟨⟩
  simp only [List.mem_cons, List.not_mem_nil, or_false] at h
  rcases h with rfl | rfl | rfl | rfl | rfl | rfl | rfl <;> decide

/-- A numeral ends where nothing or a mark is spelt. -/
theorem SpellsAll.endsNumeral (h : SpellsAll tokens chars)
    (hnext : ∀ next ∈ tokens.head?, Follows next) : EndsNumeral chars := by
  have hblanks {blanks rest : List Char} (h : ∀ c ∈ blanks, c ∈ [' ', '\t', '\n', '\r'])
      (hrest : EndsNumeral rest) : EndsNumeral (blanks ++ rest) := by
    cases blanks with
    | nil => exact hrest
    | cons c blanks =>
      have hc := h c (by simp)
      exact endsNumeral_cons (List.mem_append_left [',', ']', '}'] hc)
  cases h with
  | nil h =>
    have hend : EndsNumeral (_ ++ []) := hblanks h nofun
    rwa [List.append_nil] at hend
  | cons h htoken htokens =>
    refine hblanks h ?_
    rcases hnext _ rfl with rfl | rfl | rfl <;> cases htoken <;> exact endsNumeral_cons (by decide)

theorem SpellsAll.readAll (h : SpellsAll tokens chars) (hseparated : Separated tokens) :
    readAll chars = some tokens := by
  induction h with
  | nil hblanks =>
    have hend : Token.readAll (_ ++ []) = some [] :=
      readAll_blanks (fun c hc => isBlank_of_mem (hblanks c hc)) rfl
    rwa [List.append_nil] at hend
  | @cons token tokens blanks spelt chars hblanks htoken htokens ih =>
    obtain ⟨hnext, hlater⟩ := List.isChain_cons.mp hseparated
    refine readAll_blanks (fun c hc => isBlank_of_mem (hblanks c hc)) ?_
    have hread := htoken.read fun hnumber =>
      htokens.endsNumeral fun next hmem => hnext next hmem hnumber
    obtain ⟨c, cs, rfl, hc⟩ := htoken.exists_cons
    exact readAll_token hc hread (by simp) (ih hlater)

end Tokens

theorem separated_cons {token : Token} {tokens : List Token} (htoken : token.isNumber = false)
    (h : Separated tokens) : Separated (token :: tokens) :=
  List.isChain_cons.mpr ⟨fun _ _ hnumber => absurd hnumber (by simp [htoken]), h⟩

end Token

namespace Json

open Token (Follows Separated SpellsAll separated_cons)

/-- The value is spelt by a text, with its members in their order. -/
def Spells (value : Json) (source : String) : Prop :=
  SpellsAll value.tokens source.toList

mutual

/-- The numerals of a value are separated from each other and from what follows the value. -/
theorem separated_tokens (value : Json) {later : List Token} (hlater : Separated later)
    (hnext : ∀ next ∈ later.head?, Follows next) : Separated (value.tokens ++ later) := by
  match value with
  | .null => exact separated_cons rfl hlater
  | .boolean _ => exact separated_cons rfl hlater
  | .number _ => exact List.isChain_cons.mpr ⟨fun next hmem _ => hnext next hmem, hlater⟩
  | .text _ => exact separated_cons rfl hlater
  | .array [] => exact separated_cons rfl (separated_cons rfl hlater)
  | .array (item :: items) =>
    have hclose : Separated (.closeArray :: later) := separated_cons rfl hlater
    obtain ⟨hitems, hfirst⟩ := separated_laterItems items hclose
      (by rintro _ ⟨⟩; exact .inr (.inl rfl))
    have hitem := separated_tokens item hitems hfirst
    simpa [tokens] using separated_cons rfl hitem
  | .object [] => exact separated_cons rfl (separated_cons rfl hlater)
  | .object ((name, value) :: members) =>
    have hclose : Separated (.closeObject :: later) := separated_cons rfl hlater
    obtain ⟨hmembers, hfirst⟩ := separated_laterMembers members hclose
      (by rintro _ ⟨⟩; exact .inr (.inr rfl))
    have hvalue := separated_tokens value hmembers hfirst
    simpa [tokens] using
      separated_cons rfl (separated_cons rfl (separated_cons rfl hvalue))

theorem separated_laterItems (items : List Json) {later : List Token} (hlater : Separated later)
    (hnext : ∀ next ∈ later.head?, Follows next) :
    Separated (laterItems items ++ later) ∧
      ∀ next ∈ (laterItems items ++ later).head?, Follows next := by
  match items with
  | [] => exact ⟨hlater, hnext⟩
  | item :: items =>
    obtain ⟨hitems, hfirst⟩ := separated_laterItems items hlater hnext
    have hitem := separated_tokens item hitems hfirst
    refine ⟨by simpa [laterItems] using separated_cons rfl hitem, ?_⟩
    rintro _ ⟨⟩
    exact .inl rfl

theorem separated_laterMembers (members : List (String × Json)) {later : List Token}
    (hlater : Separated later) (hnext : ∀ next ∈ later.head?, Follows next) :
    Separated (laterMembers members ++ later) ∧
      ∀ next ∈ (laterMembers members ++ later).head?, Follows next := by
  match members with
  | [] => exact ⟨hlater, hnext⟩
  | (name, value) :: members =>
    obtain ⟨hmembers, hfirst⟩ := separated_laterMembers members hlater hnext
    have hvalue := separated_tokens value hmembers hfirst
    refine ⟨by simpa [laterMembers] using
      separated_cons rfl (separated_cons rfl (separated_cons rfl hvalue)), ?_⟩
    rintro _ ⟨⟩
    exact .inl rfl

end

/-- Every spelling of a value is read as the value, with its members sorted. -/
theorem Spells.parse? {value : Json} {source : String} (h : value.Spells source)
    (hdepth : value.depth ≤ Reading.maxDepth) : parse? source = some value.sorted := by
  have hseparated : Separated value.tokens := by
    simpa using value.separated_tokens List.isChain_nil (by simp)
  rw [Json.parse?, SpellsAll.readAll h hseparated, Option.bind_some, ofTokens?_tokens value hdepth]

end Json

end ContractLowering
