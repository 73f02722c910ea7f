import Mathlib.Data.List.NodupEquivFin
import TextTemplate.Proofs.Source.Thinning
import TextTemplate.Proofs.Syntax.Respelling

/-!
# Where a lexical error points

A lexical error that names a character points at it in the text as it is read, to which white space
control has been applied. The source may have the character farther behind.
-/

namespace TextTemplate

/-- The character that a fault is about. -/
def LexFault.char? : LexFault → Option Char
  | .unexpectedEnd => none
  | .unknownEscape c | .unexpectedChar c => some c

namespace Token

variable {α β : Type} {cs rest : List Char} {last : Option TokenKind}

/-- Where a scan fails for a character, it is as far from the end of the text as it says. -/
def Points (cs : List Char) (x : Scan α) : Prop :=
  ∀ fault remaining, x = .error (fault, remaining) → ∀ c ∈ fault.char?,
    ∃ behind, c :: behind <:+ cs ∧ remaining = behind.length + 1

namespace Points

theorem ok (a : α) : Points cs (.ok a) := nofun

theorem unexpectedEnd (remaining : Nat) :
    Points cs (.error (.unexpectedEnd, remaining) : Scan α) := by
  rintro _ _ ⟨⟩ _ ⟨⟩

theorem bind {x : Scan α} {f : α → Scan β} (hx : Points cs x)
    (hf : ∀ a, x = .ok a → Points cs (f a)) : Points cs (x >>= f) := by
  cases x with
  | error e =>
    rintro fault remaining ⟨⟩
    exact hx fault remaining rfl
  | ok a => exact hf a rfl

theorem of_suffix {x : Scan α} (h : Points rest x) (hsuffix : rest <:+ cs) : Points cs x := by
  intro fault remaining hx c hc
  obtain ⟨behind, hbehind, hlength⟩ := h fault remaining hx c hc
  exact ⟨behind, hbehind.trans hsuffix, hlength⟩

end Points

/-! ## Scanning -/

theorem scanString_points (quote : Char) (cs : List Char) : Points cs (scanString quote cs) := by
  fun_induction scanString quote cs with
  | case1 => exact .unexpectedEnd 0
  | case2 => exact .ok _
  | case3 => exact .unexpectedEnd 0
  | case4 c _ _ letter rest =>
    rintro _ _ ⟨⟩ _ ⟨⟩
    exact ⟨rest, List.suffix_cons _ _, rfl⟩
  | case5 c _ _ letter rest char _ ih =>
    exact (ih.of_suffix ((List.suffix_cons _ _).trans (List.suffix_cons _ _))).bind fun _ _ => .ok _
  | case6 c rest _ _ ih => exact (ih.of_suffix (List.suffix_cons _ _)).bind fun _ _ => .ok _

theorem scanInTag_points (last : Option TokenKind) (c : Char) (rest : List Char) :
    Points (c :: rest) (scanInTag last c rest) := by
  unfold scanInTag
  split
  · exact .ok _
  · split
    · exact .ok _
    · split
      · exact ((scanString_points c rest).of_suffix (List.suffix_cons _ _)).bind fun _ _ => .ok _
      · split
        · exact .ok _
        · split
          · exact .ok _
          · rintro _ _ ⟨⟩ _ ⟨⟩
            exact ⟨rest, List.suffix_rfl, rfl⟩

theorem scanNext_points (last : Option TokenKind) (cs : List Char) :
    Points cs (scanNext last cs) := by
  unfold scanNext
  split
  · exact .ok _
  · split
    · exact .ok _
    · rename_i c rest hdrop
      have hbehind : c :: rest <:+ cs := hdrop ▸ List.dropWhile_suffix _
      exact ((scanInTag_points last c rest).of_suffix hbehind).bind fun _ _ => .ok _

theorem suffix_of_scanNext {token : Token} (h : scanNext last cs = .ok (some (token, rest))) :
    rest <:+ cs := by
  rcases scanNext_cases h with ⟨-, text, -, -, hspan⟩ | ⟨-, c, behind, hdrop, hscan⟩
  · rw [spanText_append hspan]
    exact List.suffix_append _ _
  · have hbehind : c :: behind <:+ cs := hdrop ▸ List.dropWhile_suffix _
    exact ((suffix_of_scanInTag hscan).trans (List.suffix_cons c behind)).trans hbehind

theorem scanFrom_points (bound : Nat) (last : Option TokenKind) (cs : List Char) :
    Points cs (scanFrom bound last cs) := by
  -- By the tokens: behind each of them there is an end of the text.
  induction bound generalizing last cs with
  | zero => exact .ok _
  | succ bound ih =>
    refine (scanNext_points last cs).bind fun found hnext => ?_
    cases found with
    | none => exact .ok _
    | some found =>
      obtain ⟨token, rest⟩ := found
      exact ((ih (some token.kind) rest).of_suffix (suffix_of_scanNext hnext)).bind fun _ _ => .ok _

theorem scan_points (cs : List Char) : Points cs (scan cs) :=
  (scanFrom_points cs.length none cs).bind fun _ _ => .ok _

end Token

/-! ## Positions -/

theorem LexError.details_report {e : LexError} {c : Char} (hc : e.fault.char? = some c) :
    e.report.details = [("position", .ofNat e.position), ("char", .text c.toString)] := by
  obtain ⟨fault, position⟩ := e
  cases fault <;> cases hc <;> rfl

/-- An error names a character and says where it is. -/
structure LexError.PointsAt (e : LexError) (trimming : Source.Trimming) (source : String)
    (c : Char) : Prop where
  details : e.report.details = [("position", .ofNat e.position), ("char", .text c.toString)]
  /-- In the text as it is read, the character is there. -/
  prepared : (Source.prepareChars trimming source.toList)[e.position]? = some c
  valid : e.position < source.length
  /-- In the source, it is there or farther behind. -/
  behind : ∃ i, e.position ≤ i ∧ source.toList[i]? = some c
  /-- It is there if white space control changes nothing as far as that. -/
  unchanged : (Source.prepareChars trimming source.toList).take (e.position + 1) =
    source.toList.take (e.position + 1) → source.toList[e.position]? = some c

theorem Token.pointsAt_of_ofSource {trimming : Source.Trimming} {source : String} {e : LexError}
    {c : Char} (h : ofSource trimming source = .error e) (hc : e.fault.char? = some c) :
    e.PointsAt trimming source c := by
  have hprepared : (Source.prepareChars trimming source.toList)[e.position]? = some c := by
    unfold ofSource at h
    dsimp only at h
    split at h
    · cases h
    · rename_i fault remaining hscan
      cases h
      obtain ⟨behind, ⟨before, hcs⟩, hlength⟩ := scan_points _ _ _ hscan c hc
      have hplace : (before ++ c :: behind).length - remaining = before.length := by
        rw [hlength, List.length_append, List.length_cons]
        omega
      rw [← hcs, hplace, List.getElem?_append_right (Nat.le_refl _), Nat.sub_self]
      rfl
  have hbehind : ∃ i, e.position ≤ i ∧ source.toList[i]? = some c := by
    obtain ⟨place, hplace⟩ := List.sublist_iff_exists_orderEmbedding_getElem?_eq.mp
      (Source.prepared_prepareChars trimming source.toList).sublist
    exact ⟨place e.position, place.strictMono.le_apply, (hplace e.position).symm.trans hprepared⟩
  refine ⟨LexError.details_report hc, hprepared, ?_, hbehind, fun hsame => ?_⟩
  · obtain ⟨i, hle, hi⟩ := hbehind
    obtain ⟨hlt, -⟩ := List.getElem?_eq_some_iff.mp hi
    exact hle.trans_lt hlt
  · have hboth := congrArg (·[e.position]?) hsame
    simp only [List.getElem?_take, Nat.lt_succ_self, ↓reduceIte] at hboth
    rw [← hboth, hprepared]

theorem Token.pointsAt_of_ofSource_escape :
    ofSource .none "\x7b\x7b 'a\\q' \x7d\x7d" = .error ⟨.unknownEscape 'q', 6⟩ ∧
      (LexError.mk (.unknownEscape 'q') 6).PointsAt .none "\x7b\x7b 'a\\q' \x7d\x7d" 'q' := by
  have hread : ofSource .none "\x7b\x7b 'a\\q' \x7d\x7d" = .error ⟨.unknownEscape 'q', 6⟩ := by
    decide +kernel
  exact ⟨hread, pointsAt_of_ofSource hread rfl⟩

/-- A comment in front of a character is not counted. -/
theorem Token.position_behind_comment :
    ofSource .none "\x7b# c #\x7d\x7b\x7b ^ \x7d\x7d" = .error ⟨.unexpectedChar '^', 3⟩ ∧
      "\x7b# c #\x7d\x7b\x7b ^ \x7d\x7d".toList[3]? = some 'c' ∧
      ¬∀ trimming source e c, ofSource trimming source = .error e → e.fault.char? = some c →
        source.toList[e.position]? = some c := by
  have hread : ofSource .none "\x7b# c #\x7d\x7b\x7b ^ \x7d\x7d" =
      .error ⟨.unexpectedChar '^', 3⟩ := by
    decide +kernel
  have hplace : "\x7b# c #\x7d\x7b\x7b ^ \x7d\x7d".toList[3]? = some 'c' := by decide +kernel
  refine ⟨hread, hplace, fun hall => ?_⟩
  cases hplace.symm.trans (hall .none _ _ '^' hread rfl)

end TextTemplate
