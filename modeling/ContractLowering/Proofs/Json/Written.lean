import ContractLowering.Json.Printer
import ContractLowering.Proofs.Json.Tree

/-! # Reading written documents

An indented document without numbers is read as the tokens of its value, whatever blanks stand
between them, and so as the value itself with sorted members. Quoted texts are read back
character by character.
-/

namespace ContractLowering

namespace Token

open Text (escape quote hexDigit)

section Tokens

variable {cs rest : List Char} {tokens : List Token}

theorem readAllWithin_mono {fuel more : Nat} (h : readAllWithin fuel cs = some tokens)
    (hle : fuel ≤ more) : readAllWithin more cs = some tokens := by
  induction fuel generalizing cs tokens more with
  | zero => simp [readAllWithin] at h
  | succ fuel ih =>
    obtain ⟨more, rfl⟩ : ∃ n, more = n + 1 := ⟨more - 1, by omega⟩
    rw [readAllWithin] at h ⊢
    cases hdrop : cs.dropWhile isBlank with
    | nil => simpa [hdrop] using h
    | cons c tail =>
      simp only [hdrop, Option.bind_eq_bind, Option.bind_eq_some_iff] at h ⊢
      obtain ⟨⟨token, after⟩, hread, later, hlater, hcons⟩ := h
      exact ⟨_, hread, later, ih hlater (by omega), hcons⟩

theorem readAll_blank {c : Char} (hc : isBlank c = true) (h : readAll cs = some tokens) :
    readAll (c :: cs) = some tokens := by
  have hmore : readAllWithin ((c :: cs).length + 1) cs = some tokens :=
    readAllWithin_mono h (by simp)
  rw [readAllWithin] at hmore
  rw [readAll, readAllWithin, List.dropWhile_cons_of_pos hc]
  exact hmore

theorem readAll_token {c : Char} {token : Token} (hc : isBlank c = false)
    (hread : read (c :: cs) = some (token, rest)) (hlength : rest.length ≤ cs.length)
    (h : readAll rest = some tokens) : readAll (c :: cs) = some (token :: tokens) := by
  have hlater : readAllWithin (c :: cs).length rest = some tokens :=
    readAllWithin_mono h (by simp only [List.length_cons]; omega)
  rw [readAll, readAllWithin, List.dropWhile_cons_of_neg (by simp [hc])]
  simp only [hread, Option.bind_eq_bind, Option.bind_some, hlater]
  rfl

/-- A token of a single character. -/
theorem readAll_mark (c : Char) {token : Token} (hc : isBlank c = false)
    (hread : ∀ cs, read (c :: cs) = some (token, cs)) (h : readAll cs = some tokens) :
    readAll (c :: cs) = some (token :: tokens) :=
  readAll_token hc (hread cs) (Nat.le_refl _) h

theorem readAll_blanks {blanks : List Char} (hblanks : ∀ c ∈ blanks, isBlank c = true)
    (h : readAll cs = some tokens) : readAll (blanks ++ cs) = some tokens := by
  induction blanks with
  | nil => exact h
  | cons c blanks ih =>
    exact readAll_blank (hblanks c (by simp)) (ih fun c hc => hblanks c (by simp [hc]))

theorem readAll_space (h : readAll cs = some tokens) : readAll (' ' :: cs) = some tokens :=
  readAll_blank rfl h

theorem readAll_newline (depth : Nat) (h : readAll cs = some tokens) :
    readAll (Json.newline depth ++ cs) = some tokens := by
  refine readAll_blanks (fun c hc => ?_) h
  rcases List.mem_cons.mp hc with rfl | hspace
  · rfl
  · rw [List.eq_of_mem_replicate hspace]
    rfl

end Tokens

section Texts

theorem readText_escaped {c : Char} {tail rest : List Char}
    (h : readEscape tail = some (c, rest)) :
    readText ('\\' :: tail) = (readText rest).map fun read => (c :: read.1, read.2) := by
  rw [readText]
  simp only [if_true, if_false, Char.reduceEq]
  split <;> simp_all

theorem readText_raw {c : Char} (tail : List Char) (hquote : c ≠ '"') (hback : c ≠ '\\')
    (hcontrol : ¬ c.toNat < 0x20) :
    readText (c :: tail) = (readText tail).map fun read => (c :: read.1, read.2) := by
  rw [readText, if_neg hquote, if_neg hback, if_neg hcontrol]

theorem hexDigit?_hexDigit : ∀ n < 16, hexDigit? (hexDigit n) = some n := by
  decide

/-- The escape of a control is read as its code. -/
theorem readEscape_control (c : Char) (rest : List Char) (hc : c.toNat < 0x20) :
    readEscape ('u' :: '0' :: '0' :: hexDigit (c.toNat / 16) :: hexDigit (c.toNat % 16) :: rest) =
      some (c, rest) := by
  have hhigh := hexDigit?_hexDigit (c.toNat / 16) (by omega)
  have hlow := hexDigit?_hexDigit (c.toNat % 16) (by omega)
  have hzero : hexDigit? '0' = some 0 := rfl
  have hunit : readUnit ('0' :: '0' :: hexDigit (c.toNat / 16) :: hexDigit (c.toNat % 16) :: rest) =
      some (c.toNat, rest) := by
    simp only [readUnit, hzero, hhigh, hlow, Option.bind_eq_bind, Option.bind_some,
      Option.pure_def, Option.some.injEq, Prod.mk.injEq, and_true]
    omega
  have hsmall : ¬ (0xDC00 ≤ c.toNat ∧ c.toNat ≤ 0xDFFF) := by omega
  have hlow : ¬ (0xD800 ≤ c.toNat ∧ c.toNat ≤ 0xDBFF) := by omega
  simp only [readEscape, readNumericEscape, hunit, Option.bind_eq_bind, Option.bind_some,
    if_neg hsmall, if_neg hlow, Char.ofNat_toNat, Option.pure_def]

theorem readText_escape (c : Char) (rest : List Char) :
    readText (escape c ++ rest) = (readText rest).map fun read => (c :: read.1, read.2) := by
  unfold escape
  split_ifs with h1 h2 h3 h4 h5 h6 h7 h8
  · exact readText_escaped (by subst h1; rfl)
  · exact readText_escaped (by subst h2; rfl)
  · exact readText_escaped (by subst h3; rfl)
  · exact readText_escaped (by subst h4; rfl)
  · exact readText_escaped (by subst h5; rfl)
  · exact readText_escaped (by subst h6; rfl)
  · exact readText_escaped (by subst h7; rfl)
  · exact readText_escaped (readEscape_control c rest h8)
  · exact readText_raw rest h1 h2 h8

theorem readText_flatMap_escape (chars rest : List Char) :
    readText (chars.flatMap escape ++ '"' :: rest) = some (chars, rest) := by
  induction chars with
  | nil => rw [List.flatMap_nil, List.nil_append, readText, if_pos rfl]
  | cons c chars ih =>
    rw [List.flatMap_cons, List.append_assoc, readText_escape, ih]
    rfl

theorem readAll_quote (s : String) {rest : List Char} {tokens : List Token}
    (h : readAll rest = some tokens) :
    readAll (quote s ++ rest) = some (text s :: tokens) := by
  have hquote : quote s ++ rest = '"' :: (s.toList.flatMap escape ++ '"' :: rest) := by
    simp [quote]
  have hread : read ('"' :: (s.toList.flatMap escape ++ '"' :: rest)) = some (text s, rest) := by
    simp only [read, readText_flatMap_escape, Option.map_some, String.ofList_toList]
  rw [hquote]
  refine readAll_token rfl hread ?_ h
  simp only [List.length_append, List.length_cons]
  omega

end Texts

end Token

namespace Json

open Token (readAll readAll_mark readAll_space readAll_token readAll_newline readAll_quote)

/-- A value without numbers whose objects name each member once and whose containers are nested
at most this deep. -/
def Plain : Nat → Json → Prop
  | _, null => True
  | _, boolean _ => True
  | _, number _ => False
  | _, text _ => True
  | 0, array _ => False
  | room + 1, array items => ∀ item ∈ items, Plain room item
  | 0, object _ => False
  | room + 1, object members =>
    (members.map Prod.fst).Nodup ∧ ∀ member ∈ members, Plain room member.2

theorem itemsDepth_le {items : List Json} {room : Nat} (h : ∀ item ∈ items, item.depth ≤ room) :
    itemsDepth items ≤ room := by
  induction items with
  | nil => exact Nat.zero_le room
  | cons item items ih =>
    exact Nat.max_le.mpr ⟨h item (by simp), ih fun item hitem => h item (by simp [hitem])⟩

theorem membersDepth_le {members : Members} {room : Nat}
    (h : ∀ member ∈ members, member.2.depth ≤ room) : membersDepth members ≤ room := by
  induction members with
  | nil => exact Nat.zero_le room
  | cons member members ih =>
    exact Nat.max_le.mpr ⟨h member (by simp), ih fun member hm => h member (by simp [hm])⟩

theorem Plain.depth_le {room : Nat} {value : Json} (h : value.Plain room) :
    value.depth ≤ room := by
  induction room generalizing value with
  | zero => cases value <;> simp_all [Plain, depth]
  | succ room ih =>
    cases value with
    | array items => exact Nat.succ_le_succ (itemsDepth_le fun item hitem => ih (h item hitem))
    | object members =>
      exact Nat.succ_le_succ (membersDepth_le fun member hmember => ih (h.2 member hmember))
    | _ => exact Nat.zero_le _

/-- An indented value in front of a text is read as its tokens. -/
def ReadsBack (value : Json) : Prop :=
  ∀ (depth : Nat) {rest : List Char} {tokens : List Token}, readAll rest = some tokens →
    readAll (value.indentedChars depth ++ rest) = some (value.tokens ++ tokens)

section Later

variable {rest : List Char} {tokens : List Token} (depth : Nat)

theorem readAll_indentedItems {items : List Json} (h : ∀ item ∈ items, item.ReadsBack)
    (hrest : readAll rest = some tokens) :
    readAll (indentedItems depth items ++ rest) = some (laterItems items ++ tokens) := by
  induction items with
  | nil => exact hrest
  | cons item items ih =>
    have hlater := ih fun item hitem => h item (by simp [hitem])
    have hitem := readAll_newline depth (h item (by simp) depth hlater)
    simp only [indentedItems, laterItems, List.append_assoc, List.cons_append]
    exact readAll_mark ',' rfl (fun _ => rfl) hitem

theorem readAll_indentedMembers {members : Members} (h : ∀ member ∈ members, member.2.ReadsBack)
    (hrest : readAll rest = some tokens) :
    readAll (indentedMembers depth members ++ rest) = some (laterMembers members ++ tokens) := by
  induction members with
  | nil => exact hrest
  | cons member members ih =>
    obtain ⟨name, value⟩ := member
    have hlater := ih fun member hmember => h member (by simp [hmember])
    have hvalue := readAll_space (h (name, value) (by simp) depth hlater)
    have hname := readAll_quote name (readAll_mark ':' rfl (fun _ => rfl) hvalue)
    simp only [indentedMembers, laterMembers, List.append_assoc, List.cons_append]
    exact readAll_mark ',' rfl (fun _ => rfl) (readAll_newline depth hname)

end Later

/-- Without any room a plain value is no container, and one token spells it. -/
theorem Plain.readsBack_zero {value : Json} (h : value.Plain 0) : value.ReadsBack := by
  intro depth rest tokens hrest
  have hlength (word : List Char) : rest.length ≤ (word ++ rest).length := by
    rw [List.length_append]
    omega
  cases value with
  | null => exact readAll_token rfl rfl (hlength ['u', 'l', 'l']) hrest
  | boolean value =>
    cases value with
    | false => exact readAll_token rfl rfl (hlength ['a', 'l', 's', 'e']) hrest
    | true => exact readAll_token rfl rfl (hlength ['r', 'u', 'e']) hrest
  | number value => exact h.elim
  | text value => exact readAll_quote value hrest
  | array items => exact h.elim
  | object members => exact h.elim

theorem array_readsBack {items : List Json} (h : ∀ item ∈ items, item.ReadsBack) :
    (array items).ReadsBack := by
  intro depth rest tokens hrest
  cases items with
  | nil =>
    have hclose := readAll_mark ']' rfl (fun _ => rfl) hrest
    exact readAll_mark '[' rfl (fun _ => rfl) hclose
  | cons item items =>
    have hclose := readAll_newline depth (readAll_mark ']' rfl (fun _ => rfl) hrest)
    have hlater := readAll_indentedItems (depth + 1)
      (fun item hitem => h item (List.mem_cons_of_mem _ hitem)) hclose
    have hitem := readAll_newline (depth + 1) (h item (by simp) (depth + 1) hlater)
    simp only [indentedChars, Json.tokens, List.append_assoc, List.cons_append]
    exact readAll_mark '[' rfl (fun _ => rfl) hitem

theorem object_readsBack {members : Members} (h : ∀ member ∈ members, member.2.ReadsBack) :
    (object members).ReadsBack := by
  intro depth rest tokens hrest
  rcases members with _ | ⟨⟨name, value⟩, members⟩
  · have hclose := readAll_mark '}' rfl (fun _ => rfl) hrest
    exact readAll_mark '{' rfl (fun _ => rfl) hclose
  · have hclose := readAll_newline depth (readAll_mark '}' rfl (fun _ => rfl) hrest)
    have hlater := readAll_indentedMembers (depth + 1)
      (fun member hmember => h member (List.mem_cons_of_mem _ hmember)) hclose
    have hvalue := readAll_space (h (name, value) (by simp) (depth + 1) hlater)
    have hname := readAll_quote name (readAll_mark ':' rfl (fun _ => rfl) hvalue)
    simp only [indentedChars, Json.tokens, List.append_assoc, List.cons_append]
    exact readAll_mark '{' rfl (fun _ => rfl) (readAll_newline (depth + 1) hname)

theorem Plain.readsBack {room : Nat} {value : Json} (h : value.Plain room) :
    value.ReadsBack := by
  -- on the room and not on the value: what a container holds is plain within one level less
  induction room generalizing value with
  | zero => exact h.readsBack_zero
  | succ room ih =>
    cases value with
    | array items => exact array_readsBack fun item hitem => ih (h item hitem)
    | object members => exact object_readsBack fun member hmember => ih (h.2 member hmember)
    | _ => exact Plain.readsBack_zero h

theorem getLast?_object_indentedChars (depth : Nat) (members : Members) :
    ((object members).indentedChars depth).getLast? = some '}' := by
  rcases members with _ | ⟨⟨name, value⟩, members⟩
  · rfl
  · rw [indentedChars, List.getLast?_concat]

/-- An indented document is read as the value it was written from. -/
theorem Plain.parse?_indented {value : Json} (h : value.Plain Reading.maxDepth) {blanks : String}
    (hblanks : ∀ c ∈ blanks.toList, Token.isBlank c = true) :
    parse? (value.indented ++ blanks) = some value.sorted := by
  have hend : readAll (blanks.toList ++ []) = some [] := Token.readAll_blanks hblanks rfl
  rw [List.append_nil] at hend
  rw [parse?, indented, String.toList_append, String.toList_ofList,
    h.readsBack 0 hend, List.append_nil]
  exact ofTokens?_tokens value h.depth_le

end Json

end ContractLowering
