import Mathlib.Data.List.Infix
import TextTemplate.Text.Search

/-!
# Cutting and replacing

A text is cut at the occurrences of a separator, which are found from left to right and do not
overlap. Replacement takes the same occurrences: what it puts in stands between the pieces into
which the text is cut.
-/

namespace TextTemplate.Text

variable {separator old new rest cs : List Char} {c : Char}

/-! ## The search -/

theorem piecesFrom_skip (separator : List Char) (skip : Nat) (cs : List Char) :
    piecesFrom separator skip cs = pieces separator (cs.drop skip) := by
  induction cs generalizing skip with
  | nil => rw [List.drop_nil, pieces, piecesFrom, piecesFrom]
  | cons c rest ih =>
    cases skip with
    | zero => rfl
    | succ skip => exact ih skip

theorem replaceFrom_skip (old new : List Char) (limit : Option Nat) (skip : Nat) (cs : List Char) :
    replaceFrom old new limit skip cs = replaceFrom old new limit 0 (cs.drop skip) := by
  induction cs generalizing skip with
  | nil => rw [List.drop_nil, replaceFrom, replaceFrom]
  | cons c rest ih =>
    cases skip with
    | zero => rfl
    | succ skip => exact ih skip

/-- The search goes on behind an occurrence, and elsewhere by one character. -/
theorem search_induction {motive : List Char → Prop} (hseparator : separator ≠ [])
    (nil : motive []) (found : ∀ rest, motive rest → motive (separator ++ rest))
    (other : ∀ c rest, ¬separator <+: c :: rest → motive rest → motive (c :: rest))
    (cs : List Char) : motive cs := by
  -- By the length: what is behind an occurrence is shorter, for the separator is not empty.
  induction hlength : cs.length using Nat.strong_induction_on generalizing cs with
  | _ length ih =>
    subst hlength
    have hpos : 0 < separator.length := List.length_pos_iff.mpr hseparator
    cases cs with
    | nil => exact nil
    | cons c rest =>
      by_cases hprefix : separator <+: c :: rest
      · obtain ⟨after, hafter⟩ := hprefix
        rw [← hafter] at ih ⊢
        exact found after (ih after.length (by rw [List.length_append]; omega) after rfl)
      · exact other c rest hprefix (ih rest.length (Nat.lt_succ_self _) rest rfl)

/-! ## Pieces -/

theorem pieces_nil (separator : List Char) : pieces separator [] = [[]] := rfl

theorem pieces_append (hseparator : separator ≠ []) (rest : List Char) :
    pieces separator (separator ++ rest) = [] :: pieces separator rest := by
  cases separator with
  | nil => exact absurd rfl hseparator
  | cons c separator =>
    rw [List.cons_append, pieces, piecesFrom, if_pos (by simp), piecesFrom_skip, List.length_cons,
      Nat.add_sub_cancel, List.drop_left]

theorem pieces_ne_nil (separator cs : List Char) : pieces separator cs ≠ [] := by
  suffices h : ∀ skip, piecesFrom separator skip cs ≠ [] from h 0
  induction cs with
  | nil => exact fun _ => List.cons_ne_nil _ _
  | cons c rest ih =>
    rintro (_ | skip)
    · rw [piecesFrom]
      split
      · exact List.cons_ne_nil _ _
      · split <;> exact List.cons_ne_nil _ _
    · exact ih skip

/-- A character at which no occurrence starts belongs to the first piece. -/
theorem pieces_cons (hother : ¬separator <+: c :: rest) :
    ∃ head tail, pieces separator rest = head :: tail ∧
      pieces separator (c :: rest) = (c :: head) :: tail := by
  obtain ⟨head, tail, hpieces⟩ := List.exists_cons_of_ne_nil (pieces_ne_nil separator rest)
  refine ⟨head, tail, hpieces, ?_⟩
  rw [← List.isPrefixOf_iff_prefix] at hother
  rw [pieces] at hpieces
  rw [pieces, piecesFrom, if_neg hother, hpieces]

theorem intercalate_cons_head (separator : List Char) (c : Char) (head : List Char)
    (tail : List (List Char)) :
    separator.intercalate ((c :: head) :: tail) = c :: separator.intercalate (head :: tail) := by
  cases tail with
  | nil => rfl
  | cons next tail => rw [List.intercalate_cons_cons, List.intercalate_cons_cons]; rfl

theorem intercalate_nil_cons (separator : List Char) {parts : List (List Char)} (h : parts ≠ []) :
    separator.intercalate ([] :: parts) = separator ++ separator.intercalate parts := by
  obtain ⟨head, tail, rfl⟩ := List.exists_cons_of_ne_nil h
  rw [List.intercalate_cons_cons, List.nil_append]

/-- With the separator between them, the pieces are the text. -/
theorem intercalate_pieces (hseparator : separator ≠ []) (cs : List Char) :
    separator.intercalate (pieces separator cs) = cs := by
  induction cs using search_induction hseparator with
  | nil => rfl
  | found rest ih =>
    rw [pieces_append hseparator, intercalate_nil_cons separator (pieces_ne_nil _ _), ih]
  | other c rest hother ih =>
    obtain ⟨head, tail, hrest, hpieces⟩ := pieces_cons hother
    rw [hpieces, intercalate_cons_head, ← hrest, ih]

theorem prefix_of_pieces {head : List Char} {tail : List (List Char)} (hseparator : separator ≠ [])
    (h : pieces separator cs = head :: tail) : head <+: cs := by
  rw [← intercalate_pieces hseparator cs, h]
  cases tail with
  | nil => rw [List.intercalate_singleton]
  | cons next tail =>
    rw [List.intercalate_cons_cons, List.append_assoc]
    exact List.prefix_append _ _

/-- The separator occurs in no piece. -/
theorem not_infix_of_mem_pieces (hseparator : separator ≠ []) (cs : List Char) :
    ∀ piece ∈ pieces separator cs, ¬separator <:+: piece := by
  induction cs using search_induction hseparator with
  | nil => simpa [pieces_nil] using hseparator
  | found rest ih =>
    rw [pieces_append hseparator]
    exact List.forall_mem_cons.mpr ⟨by simp [hseparator], ih⟩
  | other c rest hother ih =>
    obtain ⟨head, tail, hrest, hpieces⟩ := pieces_cons hother
    rw [hrest] at ih
    obtain ⟨hhead, htail⟩ := List.forall_mem_cons.mp ih
    rw [hpieces]
    refine List.forall_mem_cons.mpr ⟨fun hinfix => ?_, htail⟩
    rcases List.infix_cons_iff.mp hinfix with hstarts | hwithin
    · have hbefore : c :: head <+: c :: rest :=
        List.cons_prefix_cons.mpr ⟨rfl, prefix_of_pieces hseparator hrest⟩
      exact hother (hstarts.trans hbefore)
    · exact hhead hwithin

/-! ## Replacement -/

theorem replaceFrom_append (hold : old ≠ []) {limit : Option Nat} (hlimit : limit ≠ some 0)
    (new rest : List Char) :
    replaceFrom old new limit 0 (old ++ rest) =
      new ++ replaceFrom old new (limit.map (· - 1)) 0 rest := by
  cases old with
  | nil => exact absurd rfl hold
  | cons c old =>
    rw [List.cons_append, replaceFrom, if_pos (by simp [hlimit]), replaceFrom_skip,
      List.length_cons, Nat.add_sub_cancel, List.drop_left]

theorem replaceFrom_cons (hother : ¬old <+: c :: rest) (new : List Char) (limit : Option Nat) :
    replaceFrom old new limit 0 (c :: rest) = c :: replaceFrom old new limit 0 rest := by
  rw [← List.isPrefixOf_iff_prefix] at hother
  rw [replaceFrom, if_neg (by simp [hother])]

theorem replaceFrom_zero (old new cs : List Char) : replaceFrom old new (some 0) 0 cs = cs := by
  induction cs with
  | nil => rfl
  | cons c rest ih => rw [replaceFrom, if_neg (by simp), ih]

/-- Without a limit that is too low for it, the new text stands between all pieces. -/
theorem replaceFrom_all (hold : old ≠ []) (new cs : List Char) {limit : Option Nat}
    (hlimit : ∀ n ∈ limit, (pieces old cs).length ≤ n + 1) :
    replaceFrom old new limit 0 cs = new.intercalate (pieces old cs) := by
  induction cs using search_induction hold generalizing limit with
  | nil => rfl
  | found rest ih =>
    rw [pieces_append hold] at hlimit ⊢
    have hpos : 0 < (pieces old rest).length := List.length_pos_iff.mpr (pieces_ne_nil old rest)
    have hsome : limit ≠ some 0 := by
      rintro rfl
      have hle := hlimit 0 rfl
      rw [List.length_cons] at hle
      omega
    have hrest : ∀ n ∈ limit.map (· - 1), (pieces old rest).length ≤ n + 1 := by
      intro n hn
      obtain ⟨m, hm, rfl⟩ := Option.map_eq_some_iff.mp hn
      have hle := hlimit m hm
      rw [List.length_cons] at hle
      omega
    rw [replaceFrom_append hold hsome, ih hrest, intercalate_nil_cons new (pieces_ne_nil _ _)]
  | other c rest hother ih =>
    obtain ⟨head, tail, hrest, hpieces⟩ := pieces_cons hother
    rw [hpieces, List.length_cons] at hlimit
    rw [hrest, List.length_cons] at ih
    rw [replaceFrom_cons hother, ih hlimit, hpieces, intercalate_cons_head]

/-- With a limit, the new text stands between the first pieces only. -/
theorem replaceFrom_first (hold : old ≠ []) (new cs : List Char) {n : Nat}
    (hn : n < (pieces old cs).length) :
    replaceFrom old new (some n) 0 cs =
      new.intercalate ((pieces old cs).take n ++ [old.intercalate ((pieces old cs).drop n)]) := by
  have hzero (cs : List Char) : replaceFrom old new (some 0) 0 cs =
      new.intercalate ((pieces old cs).take 0 ++ [old.intercalate ((pieces old cs).drop 0)]) := by
    rw [replaceFrom_zero, List.take_zero, List.drop_zero, intercalate_pieces hold, List.nil_append,
      List.intercalate_singleton]
  induction cs using search_induction hold generalizing n with
  | nil =>
    obtain rfl : n = 0 := by simpa [pieces_nil] using hn
    exact hzero []
  | found rest ih =>
    cases n with
    | zero => exact hzero _
    | succ n =>
      rw [pieces_append hold, List.length_cons] at hn
      rw [replaceFrom_append hold (by simp), pieces_append hold, List.take_succ_cons,
        List.drop_succ_cons, List.cons_append, intercalate_nil_cons new (by simp),
        ← ih (Nat.lt_of_succ_lt_succ hn)]
      rfl
  | other c rest hother ih =>
    cases n with
    | zero => exact hzero _
    | succ n =>
      obtain ⟨head, tail, hrest, hpieces⟩ := pieces_cons hother
      rw [hpieces, List.length_cons] at hn
      rw [hrest, List.length_cons] at ih
      rw [replaceFrom_cons hother, ih hn, hpieces, List.take_succ_cons, List.take_succ_cons,
        List.drop_succ_cons, List.drop_succ_cons, List.cons_append, List.cons_append,
        intercalate_cons_head]

end TextTemplate.Text
