import KernelMonitor.Monitor.Parse
import KernelMonitor.Text.Hex
import Mathlib.Tactic.IntervalCases
import Mathlib.Data.List.TakeWhile

/-! # Reading hexadecimal numbers

`parseHex` folds its digits into a word that wraps at every step; it agrees with strtol in base
16, which reduces the value of the digits modulo `2 ^ 32` once. So every hexadecimal rendering of
a word reads back as that word.
-/

namespace KernelMonitor

open Text

section Numeral

/-- The value of a hexadecimal digit as a natural number; zero for any other character. -/
def digitValue (c : Char) : Nat := ((hexValue? c).map UInt32.toNat).getD 0

/-- Adds one digit to the right of a numeral of value `n`. -/
def numeralStep (n : Nat) (c : Char) : Nat := 16 * n + digitValue c

/-- The natural-number value of a hexadecimal numeral, most significant digit first. -/
def hexNumeral (ds : List Char) : Nat := ds.foldl numeralStep 0

theorem hexNumeral_append_digit (ds : List Char) (c : Char) :
    hexNumeral (ds ++ [c]) = 16 * hexNumeral ds + digitValue c := by
  rw [hexNumeral, List.foldl_append]
  rfl

theorem foldl_numeralStep_mod (ds : List Char) (n : Nat) :
    ds.foldl numeralStep (n % 4294967296) % 4294967296 = ds.foldl numeralStep n % 4294967296 := by
  induction ds generalizing n with
  | nil => exact Nat.mod_mod _ _
  | cons c ds ih =>
    have hstep : numeralStep (n % 4294967296) c % 4294967296 =
        numeralStep n c % 4294967296 := by
      unfold numeralStep
      omega
    rw [List.foldl_cons, List.foldl_cons, ← ih, hstep, ih]

theorem digitValue_of_hexValue? {c : Char} {d : UInt32} (h : hexValue? c = some d) :
    digitValue c = d.toNat := by
  rw [digitValue, h]
  rfl

theorem isHexDigit_of_hexValue? {c : Char} {d : UInt32} (h : hexValue? c = some d) :
    isHexDigit c = true := by
  rw [isHexDigit, h]
  rfl

theorem not_isHexDigit_of_hexValue? {c : Char} (h : hexValue? c = none) :
    isHexDigit c = false := by
  rw [isHexDigit, h]
  rfl

theorem digitsValue_toNat (acc : UInt32) (cs : List Char) :
    (digitsValue acc cs).toNat = (cs.takeWhile isHexDigit).foldl numeralStep acc.toNat % 4294967296 := by
  induction cs generalizing acc with
  | nil =>
    rw [digitsValue, List.takeWhile_nil, List.foldl_nil]
    exact (Nat.mod_eq_of_lt acc.toNat_lt).symm
  | cons c cs ih =>
    rcases hc : hexValue? c with _ | d
    · rw [digitsValue, hc, List.takeWhile_cons_of_neg (by simp [not_isHexDigit_of_hexValue? hc]),
        List.foldl_nil]
      exact (Nat.mod_eq_of_lt acc.toNat_lt).symm
    · -- one step of the word fold is one step of the exact fold, reduced
      have hword : (acc * 16 + d).toNat = numeralStep acc.toNat c % 4294967296 := by
        rw [numeralStep, digitValue_of_hexValue? hc, UInt32.toNat_add, UInt32.toNat_mul]
        change (acc.toNat * 16 % 4294967296 + d.toNat) % 4294967296 = _
        omega
      rw [digitsValue, hc, List.takeWhile_cons_of_pos (isHexDigit_of_hexValue? hc),
        List.foldl_cons]
      dsimp only
      rw [ih, hword, foldl_numeralStep_mod]

end Numeral

section Reference

/-- Whether a character may stand before a number: a blank or a tab. -/
def isNumberBlank (c : Char) : Bool := c = ' ' || c = '\t'

/-- The digits of the number at the front of `cs`, a sign already taken: the longest run of
hexadecimal digits, past a `0x` or `0X` only when a digit follows it. -/
def numeralDigits (cs : List Char) : List Char :=
  match cs with
  | '0' :: x :: r =>
    if (x = 'x' ∨ x = 'X') ∧ r.takeWhile isHexDigit ≠ [] then r.takeWhile isHexDigit
    else cs.takeWhile isHexDigit
  | _ => cs.takeWhile isHexDigit

/-- The value strtol reads from `s` in base 16, as a word: after blanks and tabs, one optional
sign, then the digits of `numeralDigits`, whose natural-number value is taken modulo `2 ^ 32`
and negated modulo `2 ^ 32` after a minus sign. -/
def strtolHex (s : String) : Nat :=
  match s.toList.dropWhile isNumberBlank with
  | '-' :: r => (4294967296 - hexNumeral (numeralDigits r) % 4294967296) % 4294967296
  | '+' :: r => hexNumeral (numeralDigits r) % 4294967296
  | r => hexNumeral (numeralDigits r) % 4294967296

variable {s : String} {r : List Char}

theorem strtolHex_of_minus (h : s.toList.dropWhile isNumberBlank = '-' :: r) :
    strtolHex s = (4294967296 - hexNumeral (numeralDigits r) % 4294967296) % 4294967296 := by
  rw [strtolHex, h]
  rfl

theorem strtolHex_of_plus (h : s.toList.dropWhile isNumberBlank = '+' :: r) :
    strtolHex s = hexNumeral (numeralDigits r) % 4294967296 := by
  rw [strtolHex, h]
  rfl

theorem strtolHex_of_unsigned (h : s.toList.dropWhile isNumberBlank = r)
    (hm : ∀ r', r ≠ '-' :: r') (hp : ∀ r', r ≠ '+' :: r') :
    strtolHex s = hexNumeral (numeralDigits r) % 4294967296 := by
  rw [strtolHex, h]
  split
  · exact absurd rfl (hm _)
  · exact absurd rfl (hp _)
  · rfl

end Reference

section Agreement

theorem takeWhile_dropHexPrefix (cs : List Char) :
    (dropHexPrefix cs).takeWhile isHexDigit = numeralDigits cs := by
  rcases cs with _ | ⟨c, _ | ⟨x, _ | ⟨d, r⟩⟩⟩
  · rfl
  · simp [dropHexPrefix, numeralDigits]
  · by_cases hc : c = '0'
    · subst hc
      simp [dropHexPrefix, numeralDigits]
    · simp [dropHexPrefix, numeralDigits, hc]
  · by_cases hc : c = '0'
    · subst hc
      by_cases hd : isHexDigit d = true
      · by_cases hx : x = 'x' ∨ x = 'X'
        · have hx' : (x = 'x' || x = 'X') = true := by simpa using hx
          simp [dropHexPrefix, numeralDigits, hx, hx', hd]
        · have hx' : (x = 'x' || x = 'X') = false := by simpa using hx
          simp [dropHexPrefix, numeralDigits, hx, hx']
      · simp [dropHexPrefix, numeralDigits, hd]
    · simp [dropHexPrefix, numeralDigits, hc]

theorem hexBody_toNat (r : List Char) :
    (digitsValue 0 (dropHexPrefix r)).toNat = hexNumeral (numeralDigits r) % 4294967296 := by
  rw [digitsValue_toNat, takeWhile_dropHexPrefix]
  rfl

/-- `parseHex` is strtol in base 16 on words: the wrapping fold gives the natural-number value
of the digits modulo `2 ^ 32`, negated modulo `2 ^ 32` after a minus sign. -/
theorem parseHex_toNat (s : String) : (parseHex s).toNat = strtolHex s := by
  have hblank : (fun c => c = ' ' || c = '\t') = isNumberBlank := rfl
  unfold parseHex
  dsimp only
  rw [hblank]
  -- each sign `parseHex` tells apart is the same branch of the reference
  split
  · rename_i r h
    rw [strtolHex_of_minus h, UInt32.toNat_sub, hexBody_toNat]
    rfl
  · rename_i r h
    rw [strtolHex_of_plus h, hexBody_toNat]
  · rename_i r hm hp
    rw [strtolHex_of_unsigned rfl (fun r' h => hm r' h) (fun r' h => hp r' h), hexBody_toNat]

end Agreement

section Renderings

theorem hexNumeral_zero_cons (ds : List Char) : hexNumeral ('0' :: ds) = hexNumeral ds := rfl

theorem hexNumeral_replicate_zero (k : Nat) (ds : List Char) :
    hexNumeral (List.replicate k '0' ++ ds) = hexNumeral ds := by
  induction k with
  | zero => rfl
  | succ k ih => rw [List.replicate_succ, List.cons_append, hexNumeral_zero_cons, ih]

theorem digitValue_hexDigit {d : Nat} (h : d < 16) : digitValue (hexDigit d) = d := by
  interval_cases d <;> decide

theorem isHexDigit_hexDigit {d : Nat} (h : d < 16) : isHexDigit (hexDigit d) = true := by
  interval_cases d <;> decide

theorem hexNumeral_hexCharsUpTo (bound n : Nat) (h : n < 16 ^ (bound + 1)) :
    hexNumeral (hexCharsUpTo bound n) = n ∧ ∀ c ∈ hexCharsUpTo bound n, isHexDigit c = true := by
  induction bound generalizing n with
  | zero =>
    have hn : n < 16 := by simpa using h
    simp [hexCharsUpTo, hexNumeral, numeralStep, digitValue_hexDigit hn, isHexDigit_hexDigit hn]
  | succ bound ih =>
    rw [hexCharsUpTo]
    split
    · rename_i hn
      simp [hexNumeral, numeralStep, digitValue_hexDigit hn, isHexDigit_hexDigit hn]
    · -- the digits of `n / 16`, then the last digit
      have hq : n / 16 < 16 ^ (bound + 1) := by
        rw [Nat.div_lt_iff_lt_mul (by decide), ← Nat.pow_succ]
        exact h
      obtain ⟨hv, hd⟩ := ih (n / 16) hq
      have hr : n % 16 < 16 := Nat.mod_lt _ (by decide)
      refine ⟨?_, ?_⟩
      · rw [hexNumeral_append_digit, hv, digitValue_hexDigit hr]
        omega
      · intro c hc
        rcases List.mem_append.mp hc with hc | hc
        · exact hd c hc
        · rw [List.mem_singleton.mp hc]
          exact isHexDigit_hexDigit hr

theorem hexNumeral_hexChars (n : Nat) :
    hexNumeral (hexChars n) = n ∧ ∀ c ∈ hexChars n, isHexDigit c = true :=
  hexNumeral_hexCharsUpTo n n (Nat.lt_of_lt_of_le (Nat.lt_pow_self (by decide))
    (Nat.pow_le_pow_right (by decide) (Nat.le_succ n)))

theorem hexNumeral_numeralDigits {radix ds : List Char}
    (hr : radix = [] ∨ radix = ['0', 'x'] ∨ radix = ['0', 'X'])
    (hd : ∀ c ∈ ds, isHexDigit c = true) :
    hexNumeral (numeralDigits (radix ++ ds)) = hexNumeral ds := by
  have hall : ds.takeWhile isHexDigit = ds := List.takeWhile_eq_self_iff.mpr hd
  rcases hr with rfl | rfl | rfl
  · -- no prefix: a digit never reads as the `x` of one
    rw [List.nil_append]
    unfold numeralDigits
    split
    · rename_i x r
      have hx : isHexDigit x = true := hd x (by simp)
      have hnx : ¬((x = 'x' ∨ x = 'X') ∧ r.takeWhile isHexDigit ≠ []) := by
        rintro ⟨rfl | rfl, -⟩ <;> exact absurd hx (by decide)
      rw [if_neg hnx, hall]
    · rw [hall]
  all_goals
    rcases ds with _ | ⟨d, ds⟩
    · rfl
    · have hne : (d :: ds).takeWhile isHexDigit ≠ [] := by rw [hall]; simp
      simp only [List.cons_append, List.nil_append, numeralDigits]
      rw [if_pos ⟨by simp, hne⟩, hall]

theorem dropWhile_isNumberBlank {blanks rest : List Char}
    (hb : ∀ c ∈ blanks, isNumberBlank c = true) (hrest : ∀ c ∈ rest.head?, isNumberBlank c = false) :
    (blanks ++ rest).dropWhile isNumberBlank = rest := by
  rw [List.dropWhile_append_of_pos hb]
  rcases rest with _ | ⟨c, rest⟩
  · rfl
  · exact List.dropWhile_cons_of_neg (by simp [hrest c rfl])

theorem isNumberBlank_of_isHexDigit {c : Char} (h : isHexDigit c = true) :
    isNumberBlank c = false := by
  by_cases hs : c = ' '
  · subst hs
    exact absurd h (by decide)
  · by_cases ht : c = '\t'
    · subst ht
      exact absurd h (by decide)
    · simp [isNumberBlank, hs, ht]

/-- Every rendering of a word in hexadecimal reads back as the word: blanks and tabs, an
optional plus sign, an optional `0x` or `0X`, then digits of either case, leading zeros
included, whose value is the word. A minus sign in place of the plus sign negates the word
modulo `2 ^ 32`. -/
theorem parseHex_rendering (v : UInt32) (blanks sign radix ds : List Char)
    (hb : ∀ c ∈ blanks, isNumberBlank c = true) (hs : sign = [] ∨ sign = ['+'])
    (hr : radix = [] ∨ radix = ['0', 'x'] ∨ radix = ['0', 'X'])
    (hd : ∀ c ∈ ds, isHexDigit c = true) (hv : hexNumeral ds = v.toNat) :
    parseHex (String.ofList (blanks ++ sign ++ radix ++ ds)) = v ∧
      (parseHex (String.ofList (blanks ++ '-' :: radix ++ ds))).toNat =
        (4294967296 - v.toNat) % 4294967296 := by
  have hval : hexNumeral (numeralDigits (radix ++ ds)) % 4294967296 = v.toNat := by
    rw [hexNumeral_numeralDigits hr hd, hv]
    exact Nat.mod_eq_of_lt v.toNat_lt
  -- what follows the blanks starts with a sign, the zero of a prefix or a digit
  have hhead : ∀ c ∈ (radix ++ ds).head?, isNumberBlank c = false := by
    intro c hc
    rcases hr with rfl | rfl | rfl
    · exact isNumberBlank_of_isHexDigit (hd c (List.mem_of_mem_head? hc))
    all_goals
      cases hc
      rfl
  constructor
  · apply UInt32.toNat_inj.mp
    rw [parseHex_toNat, ← hval]
    rcases hs with rfl | rfl
    · -- without a sign the text starts with a digit or the zero of a prefix
      have hnot : ∀ r, radix ++ ds ≠ '-' :: r ∧ radix ++ ds ≠ '+' :: r := by
        intro r
        rcases hr with rfl | rfl | rfl
        · constructor <;> intro h <;> rw [List.nil_append] at h <;> subst h <;>
            exact absurd (hd _ (List.mem_cons_self ..)) (by decide)
        all_goals
          constructor <;> intro h <;> cases h
      apply strtolHex_of_unsigned _ (fun r => (hnot r).1) (fun r => (hnot r).2)
      rw [String.toList_ofList, List.append_nil, List.append_assoc]
      exact dropWhile_isNumberBlank hb hhead
    · apply strtolHex_of_plus
      rw [String.toList_ofList, List.append_assoc, List.append_assoc]
      exact dropWhile_isNumberBlank hb (by intro c hc; cases hc; rfl)
  · rw [parseHex_toNat, strtolHex_of_minus, hval]
    rw [String.toList_ofList, List.append_assoc]
    exact dropWhile_isNumberBlank hb (by intro c hc; cases hc; rfl)

theorem join_hex8 (v : UInt32) :
    String.join (hex8 v) =
      String.ofList (List.replicate (8 - (hex v.toNat).length) '0' ++ hexChars v.toNat) := by
  apply String.ext
  simp only [hex8, zeroPadded, String.toList_join, List.flatMap_append, List.flatMap_replicate,
    String.toList_ofList]
  rw [show "0".toList = ['0'] from rfl, List.flatten_replicate_singleton]
  simp [hex]

theorem parseHex_digits {v : UInt32} {ds : List Char} (hd : ∀ c ∈ ds, isHexDigit c = true)
    (hv : hexNumeral ds = v.toNat) :
    parseHex (String.ofList ds) = v ∧ parseHex (String.ofList ('0' :: 'x' :: ds)) = v := by
  have hnone : ∀ c ∈ ([] : List Char), isNumberBlank c = true := by simp
  have hbare := (parseHex_rendering v [] [] [] ds hnone (.inl rfl) (.inl rfl) hd hv).1
  have hprefixed := (parseHex_rendering v [] [] ['0', 'x'] ds hnone (.inl rfl) (.inr (.inl rfl)) hd hv).1
  simp only [List.nil_append, List.cons_append] at hbare hprefixed
  exact ⟨hbare, hprefixed⟩

theorem parseHex_monitor_renderings (v : UInt32) :
    parseHex (hex v.toNat) = v ∧ parseHex (String.join (hex8 v)) = v ∧
      parseHex (hexPrefixed v.toNat) = v := by
  obtain ⟨hv, hd⟩ := hexNumeral_hexChars v.toNat
  refine ⟨(parseHex_digits hd hv).1, ?_, ?_⟩
  · -- the padding zeros are leading zeros of the numeral
    have hzd : ∀ c ∈ List.replicate (8 - (hex v.toNat).length) '0' ++ hexChars v.toNat,
        isHexDigit c = true := by
      intro c hc
      rcases List.mem_append.mp hc with hc | hc
      · rw [List.eq_of_mem_replicate hc]
        rfl
      · exact hd c hc
    rw [join_hex8]
    exact (parseHex_digits hzd (by rw [hexNumeral_replicate_zero, hv])).1
  · have hp : hexPrefixed v.toNat = String.ofList ('0' :: 'x' :: hexChars v.toNat) := by
      apply String.ext
      simp [hexPrefixed, hex]
    rw [hp]
    exact (parseHex_digits hd hv).2

end Renderings

/-- `parseHex` reads as strtol reads in base 16: blanks and tabs, one optional sign, a `0x` or
`0X` only where a digit follows, then the longest run of digits, whose natural-number value it
takes modulo `2 ^ 32` and negates modulo `2 ^ 32` after a minus sign. So the word the monitor
prints in any of its forms reads back as itself, and so does every rendering of a word: blanks,
an optional plus sign, an optional `0x` or `0X`, and digits of either case with any number of
leading zeros. A minus sign in place of the plus sign gives `2 ^ 32 - v` modulo `2 ^ 32`. -/
theorem parseHex_reads_as_strtol :
    (∀ s, (parseHex s).toNat = strtolHex s) ∧
    (∀ v : UInt32, parseHex (hex v.toNat) = v ∧ parseHex (String.join (hex8 v)) = v ∧
      parseHex (hexPrefixed v.toNat) = v) ∧
    ∀ (v : UInt32) (blanks sign radix ds : List Char), (∀ c ∈ blanks, isNumberBlank c = true) →
      (sign = [] ∨ sign = ['+']) → (radix = [] ∨ radix = ['0', 'x'] ∨ radix = ['0', 'X']) →
      (∀ c ∈ ds, isHexDigit c = true) → hexNumeral ds = v.toNat →
      parseHex (String.ofList (blanks ++ sign ++ radix ++ ds)) = v ∧
        (parseHex (String.ofList (blanks ++ '-' :: radix ++ ds))).toNat =
          (4294967296 - v.toNat) % 4294967296 :=
  ⟨parseHex_toNat, parseHex_monitor_renderings, parseHex_rendering⟩

/-- A blank and a tab, a plus sign, `0X` and upper-case digits with two leading zeros: the
reading of `f0100000`, and after a minus sign its negation `0ff00000`. -/
theorem parseHex_reads_padded_upper_case :
    let ds := ['0', '0', 'F', '0', '1', '0', '0', '0', '0', '0']
    hexNumeral ds = (0xf0100000 : UInt32).toNat ∧
      parseHex (String.ofList ([' ', '\t'] ++ ['+'] ++ ['0', 'X'] ++ ds)) = 0xf0100000 ∧
      (parseHex (String.ofList ([' ', '\t'] ++ '-' :: ['0', 'X'] ++ ds))).toNat = 0x0ff00000 := by
  intro ds
  have hv : hexNumeral ds = (0xf0100000 : UInt32).toNat := by decide
  have h := parseHex_reads_as_strtol.2.2 0xf0100000 [' ', '\t'] ['+'] ['0', 'X'] ds
    (by simp [isNumberBlank]) (.inr rfl) (.inr (.inr rfl)) (by simp [ds, isHexDigit, hexValue?]) hv
  exact ⟨hv, h.1, h.2⟩

/-- A minus sign takes the place of the plus sign: `+1` reads as 1, but `-` followed by `+1`
reads as 0, since strtol takes one sign only. -/
theorem parseHex_minus_then_plus_reads_zero : parseHex "+1" = 1 ∧ parseHex "-+1" = 0 := by
  decide

end KernelMonitor
