import Mathlib
import TextTemplate.Number.Numeral

/-!
# Plain numerals

A sign and digits denote the number that the digits denote, with the sign, and are refused only for
their length. So the numeral of a whole number that can be written reads back as that number.
-/

namespace TextTemplate

/-! ## Digits -/

theorem isDigit_bounds {c : Char} (h : c.isDigit) : 48 ≤ c.toNat ∧ c.toNat ≤ 57 := by
  simp only [Char.isDigit, Bool.and_eq_true, decide_eq_true_eq, ge_iff_le,
    UInt32.le_iff_toNat_le] at h
  exact h

theorem ofDecimalDigits_lt {digits : List Char} (h : digits.all Char.isDigit) :
    ofDecimalDigits digits < 10 ^ digits.length := by
  induction digits with
  | nil => simp [ofDecimalDigits]
  | cons c rest ih =>
    simp only [List.all_cons, Bool.and_eq_true] at h
    have hrest : Nat.ofDigitChars 10 rest 0 < 10 ^ rest.length := ih h.2
    have hc := isDigit_bounds h.1
    have hstep : ofDecimalDigits (c :: rest) =
        10 ^ rest.length * (c.toNat - '0'.toNat) + Nat.ofDigitChars 10 rest 0 := by
      show Nat.ofDigitChars 10 (c :: rest) 0 = _
      rw [Nat.ofDigitChars_cons, Nat.ofDigitChars_eq_ofDigitChars_zero]
      simp
    have hdigit : c.toNat - '0'.toNat ≤ 9 := by
      show c.toNat - 48 ≤ 9
      omega
    have hle := Nat.mul_le_mul_left (10 ^ rest.length) hdigit
    rw [hstep, List.length_cons, Nat.pow_succ]
    omega

theorem ofDecimalDigits_decimalDigits (n : Nat) : ofDecimalDigits (decimalDigits n) = n :=
  Nat.ofDigitChars_ten_toDigits

theorem decimalDigits_ne_nil (n : Nat) : decimalDigits n ≠ [] := Nat.toDigits_ne_nil

theorem all_isDigit_decimalDigits (n : Nat) : (decimalDigits n).all Char.isDigit := by
  simp only [List.all_eq_true]
  exact fun c hc => Nat.isDigit_of_mem_toDigits (by decide) (by decide) hc

/-- Writing a number takes no more digits than some run of digits that denotes it. -/
theorem length_decimalDigits_le {digits : List Char} (h : digits.all Char.isDigit)
    (hne : digits ≠ []) : (decimalDigits (ofDecimalDigits digits)).length ≤ digits.length :=
  (Nat.length_toDigits_le_iff (by decide) (List.length_pos_iff.mpr hne)).mpr (ofDecimalDigits_lt h)

namespace Numeral

/-! ## Reading a sign and digits -/

variable {sign digits : List Char}

theorem isPlainBlank_of_isDigit {c : Char} (h : c.isDigit) : isPlainBlank c = false := by
  have hc := isDigit_bounds h
  have hspace : c ≠ ' ' := by rintro rfl; revert hc; decide
  have hcontrol : ¬ c ≤ '\r' := by
    intro hle
    have : c.toNat ≤ 13 := hle
    omega
  simp [isPlainBlank, hspace, hcontrol]

theorem plainChars_digits (hd : digits.all Char.isDigit)
    (hs : sign = [] ∨ sign = ['+'] ∨ sign = ['-']) :
    plainChars (sign ++ digits) = sign ++ digits := by
  have hplain : digits.all fun c => decide (c.toNat < 0x80) := by
    simp only [List.all_eq_true, decide_eq_true_eq] at hd ⊢
    intro c hc
    have := isDigit_bounds (hd c hc)
    omega
  rcases hs with rfl | rfl | rfl <;> simp [plainChars, hplain]

theorem digitsFrom?_digits (due : Bool) (hd : digits.all Char.isDigit) (hne : due → digits ≠ []) :
    digitsFrom? due digits = some digits := by
  induction digits generalizing due with
  | nil => cases due <;> simp_all [digitsFrom?]
  | cons c rest ih =>
    simp only [List.all_cons, Bool.and_eq_true] at hd
    have hc : (c == '_') = false := by
      rw [beq_eq_false_iff_ne]
      rintro rfl
      exact absurd hd.1 (by decide)
    simp [digitsFrom?, hc, ih false hd.2 (by simp)]

/-- A sign and digits are refused only for their length. -/
theorem wholeOfChars_digits (hd : digits.all Char.isDigit) (hne : digits ≠ [])
    (hs : sign = [] ∨ sign = ['+'] ∨ sign = ['-']) :
    wholeOfChars (sign ++ digits) =
      if digits.length > digitLimit then .error (.tooLong digits.length)
      else .ok (if sign = ['-'] then -(ofDecimalDigits digits) else ofDecimalDigits digits) := by
  have hrun : ∀ c ∈ digits, inRun c := by
    intro c hc
    simp [inRun, List.all_eq_true.mp hd c hc]
  have hhead : (digits.dropWhile isPlainBlank) = digits := by
    obtain ⟨c, rest, rfl⟩ := List.exists_cons_of_ne_nil hne
    simp only [List.all_cons, Bool.and_eq_true] at hd
    simp [isPlainBlank_of_isDigit hd.1]
  have hsign : Numeral.scanSign ((plainChars (sign ++ digits)).dropWhile isPlainBlank) =
      (decide (sign = ['-']), digits) := by
    rw [plainChars_digits hd hs]
    rcases hs with rfl | rfl | rfl
    · obtain ⟨c, rest, rfl⟩ := List.exists_cons_of_ne_nil hne
      simp only [List.all_cons, Bool.and_eq_true] at hd
      simp only [List.nil_append, hhead]
      unfold Numeral.scanSign
      split
      · exact absurd hd.1 (by simp_all)
      · exact absurd hd.1 (by simp_all)
      · simp
    · simp [isPlainBlank, Numeral.scanSign]
    · simp [isPlainBlank, Numeral.scanSign]
  have htake : digits.takeWhile inRun = digits := by
    rw [← List.append_nil digits, List.takeWhile_append_of_pos hrun]
    rfl
  have hdrop : digits.dropWhile inRun = [] := by
    rw [← List.append_nil digits, List.dropWhile_append_of_pos hrun]
    rfl
  simp only [wholeOfChars, hsign, htake, hdrop, runDigits?,
    digitsFrom?_digits true hd (fun _ => hne)]
  by_cases hlong : digits.length > digitLimit <;> simp [hlong]

/-- The numeral of a whole number that can be written reads back as that number. -/
theorem wholeOfChars_integerChars {i : Int} (h : (decimalDigits i.natAbs).length ≤ digitLimit) :
    wholeOfChars (integerChars i) = .ok i := by
  have hd := all_isDigit_decimalDigits i.natAbs
  have hne := decimalDigits_ne_nil i.natAbs
  have hlong : ¬ (decimalDigits i.natAbs).length > digitLimit := by omega
  unfold integerChars
  by_cases hneg : i < 0
  · rw [if_pos hneg, ← List.singleton_append, wholeOfChars_digits hd hne (.inr (.inr rfl))]
    simp only [hlong, ↓reduceIte, ofDecimalDigits_decimalDigits, Except.ok.injEq]
    omega
  · rw [if_neg hneg, ← List.nil_append (decimalDigits i.natAbs),
      wholeOfChars_digits hd hne (.inl rfl)]
    simp only [hlong, ↓reduceIte, ofDecimalDigits_decimalDigits, List.nil_eq, List.cons_ne_nil,
      Except.ok.injEq]
    omega

/-- What a sign and digits denote can be written. -/
theorem length_decimalDigits_of_wholeOfChars {i : Int} (hd : digits.all Char.isDigit)
    (hne : digits ≠ []) (hs : sign = [] ∨ sign = ['+'] ∨ sign = ['-'])
    (h : wholeOfChars (sign ++ digits) = .ok i) :
    (decimalDigits i.natAbs).length ≤ digitLimit := by
  rw [wholeOfChars_digits hd hne hs] at h
  by_cases hlong : digits.length > digitLimit
  · simp [hlong] at h
  · simp only [hlong, ↓reduceIte, Except.ok.injEq] at h
    have habs : i.natAbs = ofDecimalDigits digits := by
      subst h
      split <;> omega
    have := length_decimalDigits_le hd hne
    rw [habs]
    omega

end Numeral

end TextTemplate
