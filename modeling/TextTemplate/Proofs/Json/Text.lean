import Mathlib.Tactic.IntervalCases
import TextTemplate.Json.Reader
import TextTemplate.Json.Writer

/-!
# Texts in documents

What is written between quotes reads back as the text, whether or not the characters beyond ASCII
are escaped. Each character is written as the units that the reader puts together again: one unit,
or two for an escaped character beyond the basic plane.
-/

namespace TextTemplate.Json

variable {asciiOnly : Bool} {start rest left : List Char} {units : List Nat} {n : Nat} {c e : Char}

/-! ## Escapes -/

theorem hexValue?_digitChar (h : n < 16) : hexValue? (Nat.digitChar n) = some n := by
  interval_cases n <;> rfl

theorem hexDigits_four (n : Nat) :
    Text.hexDigits 4 n =
      [Nat.digitChar (n / 16 / 16 / 16 % 16), Nat.digitChar (n / 16 / 16 % 16),
        Nat.digitChar (n / 16 % 16), Nat.digitChar (n % 16)] := rfl

theorem unit?_digitChars (h : n < 0x10000) :
    unit? (Nat.digitChar (n / 16 / 16 / 16 % 16)) (Nat.digitChar (n / 16 / 16 % 16))
      (Nat.digitChar (n / 16 % 16)) (Nat.digitChar (n % 16)) = some n := by
  have hvalue : ((n / 16 / 16 / 16 % 16 * 16 + n / 16 / 16 % 16) * 16 + n / 16 % 16) * 16 + n % 16 =
      n := by omega
  simp only [unit?, hexValue?_digitChar (Nat.mod_lt _ (by decide : 0 < 16)), Option.bind_eq_bind,
    Option.bind_some, hvalue]

theorem readUnits_unitEscape (h : n < 0x10000) (hrest : readUnits start rest = .ok (units, left)) :
    readUnits start (unitEscape n ++ rest) = .ok (n :: units, left) := by
  obtain ⟨next, others, rfl⟩ : ∃ next others, rest = next :: others := by
    refine List.exists_cons_of_ne_nil ?_
    rintro rfl
    rw [readUnits] at hrest
    cases hrest
  rw [unitEscape, hexDigits_four]
  simp only [List.cons_append, List.nil_append]
  rw [readUnits, unit?_digitChars h]
  simp only [hrest]
  rfl

theorem readUnits_simpleEscape (hc : c ≠ 'u') (h : simpleEscape? c = some e)
    (hrest : readUnits start rest = .ok (units, left)) :
    readUnits start ('\\' :: c :: rest) = .ok (e.toNat :: units, left) := by
  rw [readUnits.eq_6 start c rest (fun _ _ _ _ _ _ hu _ => hc hu) hc]
  simp only [h, hrest]
  rfl

theorem readUnits_plain (hquote : c ≠ '"') (hslash : c ≠ '\\') (h : 0x20 ≤ c.toNat)
    (hrest : readUnits start rest = .ok (units, left)) :
    readUnits start (c :: rest) = .ok (c.toNat :: units, left) := by
  rw [readUnits.eq_7 start c rest hquote (fun hc _ => hslash hc) (fun _ _ _ _ _ _ hc _ => hslash hc)
    (fun _ hc _ => hslash hc) (fun _ _ hc _ => hslash hc), if_neg (Nat.not_lt.mpr h), hrest]
  rfl

/-! ## Characters -/

/-- The units of a character. -/
def unitsOf (asciiOnly : Bool) (c : Char) : List Nat :=
  if asciiOnly && 0x10000 ≤ c.toNat then
    [0xd800 + (c.toNat - 0x10000) / 0x400, 0xdc00 + (c.toNat - 0x10000) % 0x400]
  else [c.toNat]

theorem toNat_bounds (c : Char) :
    c.toNat < 0xd800 ∨ 0xe000 ≤ c.toNat ∧ c.toNat < 0x110000 := c.valid

theorem readUnits_basic (h : c.toNat < 0x10000)
    (hrest : readUnits start rest = .ok (units, left)) :
    readUnits start (escapeChar asciiOnly c ++ rest) = .ok (c.toNat :: units, left) := by
  unfold escapeChar
  split_ifs with hquote hslash hnewline hreturn htab hfeed hback hcontrol hescaped
  · obtain rfl := beq_iff_eq.mp hquote
    exact readUnits_simpleEscape (by decide) rfl hrest
  · obtain rfl := beq_iff_eq.mp hslash
    exact readUnits_simpleEscape (by decide) rfl hrest
  · obtain rfl := beq_iff_eq.mp hnewline
    exact readUnits_simpleEscape (by decide) rfl hrest
  · obtain rfl := beq_iff_eq.mp hreturn
    exact readUnits_simpleEscape (by decide) rfl hrest
  · obtain rfl := beq_iff_eq.mp htab
    exact readUnits_simpleEscape (by decide) rfl hrest
  · obtain rfl := beq_iff_eq.mp hfeed
    exact readUnits_simpleEscape (by decide) rfl hrest
  · obtain rfl := beq_iff_eq.mp hback
    exact readUnits_simpleEscape (by decide) rfl hrest
  · exact readUnits_unitEscape h hrest
  · exact readUnits_unitEscape h hrest
  · exact readUnits_plain (by simpa using hquote) (by simpa using hslash) (Nat.not_lt.mp hcontrol)
      hrest

/-- Beyond the basic plane a character is escaped as a pair, or it stands for itself. -/
theorem escapeChar_of_beyond (h : 0x10000 ≤ c.toNat) (asciiOnly : Bool) :
    escapeChar asciiOnly c =
      if asciiOnly then
        unitEscape (0xd800 + (c.toNat - 0x10000) / 0x400) ++
          unitEscape (0xdc00 + (c.toNat - 0x10000) % 0x400)
      else [c] := by
  have hne (d : Char) (hd : d.toNat < 0x10000) : (c == d) = false := by
    rw [beq_eq_false_iff_ne]
    rintro rfl
    omega
  have hcontrol : ¬c.toNat < 0x20 := by omega
  have hbasic : ¬c.toNat < 0x10000 := by omega
  have hascii : 0x7f ≤ c.toNat := by omega
  simp [escapeChar, hne, hcontrol, hbasic, hascii]

theorem readUnits_escapeChar (asciiOnly : Bool) (c : Char)
    (hrest : readUnits start rest = .ok (units, left)) :
    readUnits start (escapeChar asciiOnly c ++ rest) =
      .ok (unitsOf asciiOnly c ++ units, left) := by
  have hbounds := toNat_bounds c
  by_cases hbasic : c.toNat < 0x10000
  · rw [unitsOf, if_neg (by simp [hbasic])]
    exact readUnits_basic hbasic hrest
  · rw [escapeChar_of_beyond (Nat.not_lt.mp hbasic)]
    cases asciiOnly with
    | false =>
      have hne (d : Char) (hd : d.toNat < 0x10000) : c ≠ d := by
        rintro rfl
        exact hbasic hd
      exact readUnits_plain (hne _ (by decide)) (hne _ (by decide)) (by omega) hrest
    | true =>
      rw [if_pos rfl, unitsOf, if_pos (by simpa using hbasic), List.append_assoc]
      exact readUnits_unitEscape (by omega) (readUnits_unitEscape (by omega) hrest)

theorem charsOfUnits_cons (h : isLeadingHalf n = false) (units : List Nat) :
    charsOfUnits (n :: units) = charOfUnit n :: charsOfUnits units := by
  cases units with
  | nil => rfl
  | cons next units => rw [charsOfUnits, h, Bool.false_and, if_neg Bool.false_ne_true]

theorem charsOfUnits_unitsOf (asciiOnly : Bool) (c : Char) (units : List Nat) :
    charsOfUnits (unitsOf asciiOnly c ++ units) = c :: charsOfUnits units := by
  have hbounds := toNat_bounds c
  unfold unitsOf
  split
  · rename_i h
    simp only [Bool.and_eq_true, decide_eq_true_eq] at h
    have hchar : 0x10000 + (0xd800 + (c.toNat - 0x10000) / 0x400 - 0xd800) * 0x400 +
        (0xdc00 + (c.toNat - 0x10000) % 0x400 - 0xdc00) = c.toNat := by omega
    have hhalves : isLeadingHalf (0xd800 + (c.toNat - 0x10000) / 0x400) &&
        isTrailingHalf (0xdc00 + (c.toNat - 0x10000) % 0x400) := by
      simp only [isLeadingHalf, isTrailingHalf, Bool.and_eq_true, decide_eq_true_eq]
      omega
    simp only [List.cons_append, List.nil_append]
    rw [charsOfUnits, if_pos hhalves, hchar, Char.ofNat_toNat]
  · have hleading : isLeadingHalf c.toNat = false := by
      simp only [isLeadingHalf, Bool.and_eq_false_iff, decide_eq_false_iff_not]
      omega
    have htrailing : isTrailingHalf c.toNat = false := by
      simp only [isTrailingHalf, Bool.and_eq_false_iff, decide_eq_false_iff_not]
      omega
    rw [List.singleton_append, charsOfUnits_cons hleading, charOfUnit, hleading, htrailing,
      Bool.or_false, if_neg Bool.false_ne_true, Char.ofNat_toNat]

/-! ## Texts -/

theorem readUnits_chars (asciiOnly : Bool) (start cs rest : List Char) :
    readUnits start (cs.flatMap (escapeChar asciiOnly) ++ '"' :: rest) =
      .ok (cs.flatMap (unitsOf asciiOnly), rest) := by
  induction cs with
  | nil => rw [List.flatMap_nil, List.nil_append, readUnits, List.flatMap_nil]
  | cons c cs ih =>
    rw [List.flatMap_cons, List.append_assoc, readUnits_escapeChar asciiOnly c ih,
      List.flatMap_cons]

theorem charsOfUnits_chars (asciiOnly : Bool) (cs : List Char) :
    charsOfUnits (cs.flatMap (unitsOf asciiOnly)) = cs := by
  induction cs with
  | nil => rfl
  | cons c cs ih => rw [List.flatMap_cons, charsOfUnits_unitsOf, ih]

/-- A text reads back, from behind its opening quote. -/
theorem readText_chars (asciiOnly : Bool) (s : String) (rest : List Char) :
    readText (s.toList.flatMap (escapeChar asciiOnly) ++ '"' :: rest) = .ok (s, rest) := by
  rw [readText, readUnits_chars]
  show Except.ok (String.ofList (charsOfUnits (s.toList.flatMap (unitsOf asciiOnly))), rest) = _
  rw [charsOfUnits_chars, String.ofList_toList]

end TextTemplate.Json
