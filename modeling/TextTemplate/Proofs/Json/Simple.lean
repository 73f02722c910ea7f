import TextTemplate.Json.Reader
import TextTemplate.Proofs.Number.Numeral

/-!
# Words and numbers in documents

The numeral of a whole number that can be written reads back as that number, as long as nothing
stands behind it that would go on with it.
-/

namespace TextTemplate

/-- No numeral starts with a zero but that of zero itself. -/
theorem exists_decimalDigits_cons (n : Nat) :
    ∃ d ds, decimalDigits n = d :: ds ∧ d.isDigit ∧ (n ≠ 0 → d ≠ '0') := by
  obtain ⟨d, ds, hdigits⟩ := List.exists_cons_of_ne_nil (decimalDigits_ne_nil n)
  have hall := all_isDigit_decimalDigits n
  rw [hdigits, List.all_cons, Bool.and_eq_true] at hall
  refine ⟨d, ds, hdigits, hall.1, ?_⟩
  rintro hn rfl
  have hvalue : ofDecimalDigits ds = n := by
    rw [← ofDecimalDigits_decimalDigits n, hdigits]
    rfl
  have hds : ds ≠ [] := by
    rintro rfl
    exact hn hvalue.symm
  have hle := length_decimalDigits_le hall.2 hds
  rw [hvalue, hdigits, List.length_cons] at hle
  omega

namespace Json

variable {rest : List Char} {i : Int} {n : Nat}

/-- What does not go on with a number. -/
def Delimits (rest : List Char) : Prop :=
  ∀ c ∈ rest.head?, c.isDigit = false ∧ c ≠ '.' ∧ c ≠ 'e' ∧ c ≠ 'E'

theorem delimits_nil : Delimits [] := nofun

theorem delimits_cons {c : Char} (rest : List Char)
    (h : c.isDigit = false ∧ c ≠ '.' ∧ c ≠ 'e' ∧ c ≠ 'E' := by decide) : Delimits (c :: rest) := by
  rintro _ ⟨⟩
  exact h

theorem Delimits.takeWhile_isDigit (h : Delimits rest) : rest.takeWhile Char.isDigit = [] := by
  cases rest with
  | nil => rfl
  | cons c rest => rw [List.takeWhile_cons, (h c rfl).1, if_neg Bool.false_ne_true]

theorem Delimits.dropWhile_isDigit (h : Delimits rest) : rest.dropWhile Char.isDigit = rest := by
  cases rest with
  | nil => rfl
  | cons c rest => rw [List.dropWhile_cons, (h c rfl).1, if_neg Bool.false_ne_true]

theorem Delimits.scanDecimals_eq (h : Delimits rest) : scanDecimals rest = ([], rest) := by
  cases rest with
  | nil => rfl
  | cons c rest =>
    have hpoint := (h c rfl).2.1
    rw [scanDecimals, Numeral.scanFraction]
    rintro others ⟨⟩
    exact hpoint rfl

theorem Delimits.scanExponent_eq (h : Delimits rest) :
    Numeral.scanExponent rest = (none, rest) := by
  cases rest with
  | nil => rfl
  | cons c rest =>
    obtain ⟨-, -, hsmall, hcapital⟩ := h c rfl
    rw [Numeral.scanExponent, if_neg (by simp [hsmall, hcapital])]

theorem scanWhole_decimalDigits (n : Nat) (h : Delimits rest) :
    scanWhole (decimalDigits n ++ rest) = (decimalDigits n, rest) := by
  by_cases hn : n = 0
  · subst hn
    rfl
  · have hall : ∀ c ∈ decimalDigits n, c.isDigit :=
      List.all_eq_true.mp (all_isDigit_decimalDigits n)
    obtain ⟨d, ds, hdigits, -, hzero⟩ := exists_decimalDigits_cons n
    have hscan : scanWhole (decimalDigits n ++ rest) =
        ((decimalDigits n ++ rest).takeWhile Char.isDigit,
          (decimalDigits n ++ rest).dropWhile Char.isDigit) := by
      rw [hdigits, List.cons_append, scanWhole]
      rintro others ⟨⟩
      exact hzero hn rfl
    rw [hscan, List.takeWhile_append_of_pos hall, List.dropWhile_append_of_pos hall,
      h.takeWhile_isDigit, h.dropWhile_isDigit, List.append_nil]

/-- The numeral of a whole number is read as that number. -/
theorem readNumber_integerChars (hshort : (decimalDigits i.natAbs).length ≤ digitLimit)
    (h : Delimits rest) : readNumber (integerChars i ++ rest) = .ok (.int i, rest) := by
  obtain ⟨d, ds, hdigits, hd, -⟩ := exists_decimalDigits_cons i.natAbs
  have hlong : ¬digitLimit < (decimalDigits i.natAbs).length := Nat.not_lt.mpr hshort
  have hwhole : scanWhole (d :: (ds ++ rest)) = (d :: ds, rest) := by
    rw [← List.cons_append, ← hdigits]
    exact scanWhole_decimalDigits _ h
  have hvalue : ofDecimalDigits (d :: ds) = i.natAbs := by
    rw [← hdigits, ofDecimalDigits_decimalDigits]
  rw [hdigits] at hlong
  unfold integerChars
  split
  · have hneg : -(i.natAbs : Int) = i := by omega
    rw [hdigits, List.cons_append, List.cons_append, readNumber.eq_1]
    simp only [hwhole, h.scanDecimals_eq, h.scanExponent_eq, hvalue, if_neg hlong, hneg,
      List.isEmpty_nil, Option.isNone_none, Bool.and_self, ↓reduceIte]
  · have hpos : (i.natAbs : Int) = i := by omega
    rw [hdigits, List.cons_append, readNumber.eq_2]
    · simp only [hwhole, h.scanDecimals_eq, h.scanExponent_eq, hvalue, if_neg hlong, hpos,
        List.isEmpty_nil, Option.isNone_none, Bool.and_self, ↓reduceIte, Bool.false_eq_true]
    · rintro others ⟨⟩
      exact absurd hd (by decide)

theorem integerChars_append (i : Int) (rest : List Char) :
    ∃ d others, d.isDigit ∧
      (integerChars i ++ rest = d :: others ∨ integerChars i ++ rest = '-' :: d :: others) := by
  obtain ⟨d, ds, hdigits, hd, -⟩ := exists_decimalDigits_cons i.natAbs
  refine ⟨d, ds ++ rest, hd, ?_⟩
  rw [integerChars, hdigits]
  split
  · exact .inr rfl
  · exact .inl rfl

/-- So is the numeral as a value: no word starts as a numeral does. -/
theorem readSimple_integerChars (hshort : (decimalDigits i.natAbs).length ≤ digitLimit)
    (h : Delimits rest) : readSimple (integerChars i ++ rest) = .ok (.number (.int i), rest) := by
  have hnumber := readNumber_integerChars hshort h
  obtain ⟨d, others, hd, heq | heq⟩ := integerChars_append i rest <;> rw [heq] at hnumber ⊢
  all_goals
    rw [readSimple.eq_7, hnumber]
    · rfl
    all_goals rintro _ ⟨⟩ <;> exact absurd hd (by decide)

end Json

end TextTemplate
