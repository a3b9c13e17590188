import ContractLowering.Json.Token
import ContractLowering.Proofs.Decimal.Value

/-! # Plain decimals

The digits of a natural number, with a minus in front or without, are read as the integer that they
stand for, as long as 64 bits hold it and the text does not go on like a numeral.
-/

namespace ContractLowering.Token

/-- Whatever numeral stands in front of it, it does not go on in this text. -/
def EndsNumeral (rest : List Char) : Prop :=
  ∀ c ∈ rest.head?, isDigit c = false ∧ c ≠ '.' ∧ c ≠ 'e' ∧ c ≠ 'E'

/-- The value of a decimal digit. -/
def digitValue (c : Char) : ℕ :=
  c.toNat - '0'.toNat

variable {rest : List Char} (n : ℕ)

theorem isDigit_of_mem_toDigits {c : Char} (h : c ∈ Nat.toDigits 10 n) : isDigit c = true := by
  have hdigit := Nat.isDigit_of_mem_toDigits (by decide) (by decide) h
  simp only [Char.isDigit, ge_iff_le, Bool.and_eq_true, decide_eq_true_eq] at hdigit
  simpa [isDigit, Char.le_def] using hdigit

theorem exists_toDigits_eq_cons : ∃ c cs, Nat.toDigits 10 n = c :: cs ∧ isDigit c = true := by
  obtain ⟨c, cs, hdigits⟩ := List.exists_cons_of_ne_nil (Nat.toDigits_ne_nil (b := 10) (n := n))
  exact ⟨c, cs, hdigits, isDigit_of_mem_toDigits n (by simp [hdigits])⟩

theorem EndsNumeral.takeWhile (h : EndsNumeral rest) : rest.takeWhile isDigit = [] := by
  cases rest with
  | nil => rfl
  | cons c rest => simp [(h c rfl).1]

theorem EndsNumeral.dropWhile (h : EndsNumeral rest) : rest.dropWhile isDigit = rest := by
  cases rest with
  | nil => rfl
  | cons c rest => simp [(h c rfl).1]

theorem digits_toDigits (h : EndsNumeral rest) :
    digits (Nat.toDigits 10 n ++ rest) = (Nat.toDigits 10 n).map digitValue := by
  rw [digits, List.takeWhile_append_of_pos fun c => isDigit_of_mem_toDigits n, h.takeWhile,
    List.append_nil]
  rfl

theorem dropDigits_toDigits (h : EndsNumeral rest) :
    dropDigits (Nat.toDigits 10 n ++ rest) = rest := by
  rw [dropDigits, List.dropWhile_append_of_pos fun c => isDigit_of_mem_toDigits n, h.dropWhile]

theorem EndsNumeral.readFraction (h : EndsNumeral rest) :
    readFraction rest = some (none, rest) := by
  unfold Token.readFraction
  split
  · exact absurd rfl (h _ rfl).2.1
  · rfl

theorem EndsNumeral.readExponent (h : EndsNumeral rest) :
    readExponent rest = some (none, rest) := by
  cases rest with
  | nil => rfl
  | cons c rest =>
    have hmark : ¬ (c = 'e' ∨ c = 'E') := not_or.mpr (h c rfl).2.2
    rw [Token.readExponent, if_neg hmark]

theorem foldl_digitValue :
    ((Nat.toDigits 10 n).map digitValue).foldl (fun n digit => n * 10 + digit) 0 = n := by
  have hvalue := Nat.ofDigitChars_ten_toDigits (n := n)
  rw [Nat.ofDigitChars] at hvalue
  simpa [List.foldl_map, digitValue, Nat.mul_comm] using hvalue

/-- A zero in front stands alone, and no numeral but that of zero has one. -/
theorem readNumeral_toDigits (negative : Bool) (h : EndsNumeral rest) :
    readNumeral ((if negative then ['-'] else []) ++ (Nat.toDigits 10 n ++ rest)) =
      some (⟨negative, (Nat.toDigits 10 n).map digitValue, none, none⟩, rest) := by
  have hparts : ∀ cs, cs = Nat.toDigits 10 n ++ rest →
      (if cs.head? = some '0' then [0] else digits cs) = (Nat.toDigits 10 n).map digitValue ∧
        (if cs.head? = some '0' then cs.drop 1 else dropDigits cs) = rest := by
    rintro _ rfl
    by_cases hn : n = 0
    · subst hn
      exact ⟨rfl, rfl⟩
    · have hhead : ¬ (Nat.toDigits 10 n ++ rest).head? = some '0' := fun hzero =>
        hn (head?_toDigits (by rwa [List.head?_append_of_ne_nil _ Nat.toDigits_ne_nil] at hzero))
      rw [if_neg hhead, if_neg hhead]
      exact ⟨digits_toDigits n h, dropDigits_toDigits n h⟩
  obtain ⟨hwhole, hrest⟩ := hparts _ rfl
  obtain ⟨c, cs, hdigits, hc⟩ := exists_toDigits_eq_cons n
  have hsign : ¬ (Nat.toDigits 10 n ++ rest).head? = some '-' := by
    rw [hdigits]
    rintro ⟨⟩
    exact absurd hc (by decide)
  have hne : ((Nat.toDigits 10 n).map digitValue).isEmpty = false := by simp [hdigits]
  cases negative with
  | false =>
    simp only [readNumeral, Bool.false_eq_true, if_false, List.nil_append, hsign, decide_false,
      hwhole, hrest, hne, h.readFraction, h.readExponent, Option.bind_eq_bind, Option.bind_some,
      Option.pure_def]
  | true =>
    simp only [readNumeral, if_true, List.cons_append, List.nil_append, List.head?_cons,
      decide_true, List.drop_succ_cons, List.drop_zero, hwhole, hrest, hne, Bool.false_eq_true,
      if_false, h.readFraction, h.readExponent, Option.bind_eq_bind, Option.bind_some,
      Option.pure_def]

/-- What starts like a numeral is read as one. -/
theorem read_eq_readNumeral {c : Char} (cs : List Char) (hc : isDigit c = true ∨ c = '-') :
    read (c :: cs) = (readNumeral (c :: cs)).bind fun numeral =>
      numeral.1.toNumber?.map fun value => (number value, numeral.2) := by
  have hmark (mark : Char) (h : isDigit mark = false ∧ mark ≠ '-') : c ≠ mark := by
    rintro rfl
    rcases hc with hdigit | rfl
    · rw [h.1] at hdigit
      exact nomatch hdigit
    · exact h.2 rfl
  unfold read
  split
  case h_12 =>
    cases readNumeral (c :: cs) with
    | none => rfl
    | some numeral => cases h : numeral.1.toNumber? <;> simp [h]
  case h_1 heq => exact nomatch heq
  all_goals
    rename_i heq
    exact absurd (List.cons.inj heq).1 (hmark _ (by decide))

theorem read_toDigits (negative : Bool) {value : Number}
    (hvalue : Numeral.toNumber? ⟨negative, (Nat.toDigits 10 n).map digitValue, none, none⟩ =
      some value) (h : EndsNumeral rest) :
    read ((if negative then ['-'] else []) ++ (Nat.toDigits 10 n ++ rest)) =
      some (number value, rest) := by
  have hnumeral := readNumeral_toDigits n negative h
  obtain ⟨c, cs, hcs, hc⟩ : ∃ c cs, (if negative then ['-'] else []) ++
      (Nat.toDigits 10 n ++ rest) = c :: cs ∧ (isDigit c = true ∨ c = '-') := by
    cases negative with
    | false =>
      obtain ⟨c, cs, hdigits, hc⟩ := exists_toDigits_eq_cons n
      exact ⟨c, cs ++ rest, by simp [hdigits], .inl hc⟩
    | true => exact ⟨'-', _, rfl, .inr rfl⟩
  rw [hcs] at hnumeral ⊢
  rw [read_eq_readNumeral cs hc, hnumeral, Option.bind_some, hvalue, Option.map_some]

theorem toNumber?_natural (hn : n < 2 ^ 64) :
    Numeral.toNumber? ⟨false, (Nat.toDigits 10 n).map digitValue, none, none⟩ =
      some (.integer n) := by
  have hint : Numeral.toInt? ⟨false, (Nat.toDigits 10 n).map digitValue, none, none⟩ =
      some (n : ℤ) := by
    simp only [Numeral.toInt?, foldl_digitValue]
    exact if_pos hn
  rw [Numeral.toNumber?, hint]

theorem toNumber?_negative (hpos : 0 < n) (hn : n ≤ 2 ^ 63) :
    Numeral.toNumber? ⟨true, (Nat.toDigits 10 n).map digitValue, none, none⟩ =
      some (.integer (-n)) := by
  have hint : Numeral.toInt? ⟨true, (Nat.toDigits 10 n).map digitValue, none, none⟩ =
      some (-n : ℤ) := by
    simp only [Numeral.toInt?, foldl_digitValue, Option.isSome_none]
    rw [if_neg (by decide), if_pos trivial]
    exact if_pos ⟨hpos, hn⟩
  rw [Numeral.toNumber?, hint]

end ContractLowering.Token
