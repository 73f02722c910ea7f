import TextTemplate.Proofs.Source.Seams

/-!
# Dashes delete the white space next to them

A tag with dashes at its ends, whatever white space stands around it, is prepared as the tag without
dashes and without white space. The two texts are compared rule by rule: after each one they still
differ by dashes and by the white space that those are going to delete.
-/

namespace TextTemplate.Source

open Text

/-- The kinds of tags that dashes are about. -/
inductive TagKind
  | block
  | expression
  deriving DecidableEq

/-- What stands next to a brace in a delimiter. -/
def TagKind.inner (kind : TagKind) (brace : Char) : Char :=
  match kind with
  | .block => '%'
  | .expression => brace

/-- The braces that delimit a tag, read from either end. -/
inductive Braces : Char → Char → Prop
  | forwards : Braces '{' '}'
  | backwards : Braces '}' '{'

def dash (present : Bool) : List Char := if present then ['-'] else []

/-- A tag with a text and white space on each side, and perhaps with dashes. -/
def around (u v : Char) (kind : TagKind) (before gap : List Char) (front : Bool) (body : List Char)
    (behind : Bool) (gap' after : List Char) : List Char :=
  before ++ (gap ++ (u :: kind.inner u :: (dash front ++ (body ++ (dash behind ++
    (kind.inner v :: v :: (gap' ++ after)))))))

/-- No dash in a tag is one that tightens it but those at its ends. -/
structure Undashed (u v : Char) (kind : TagKind) (body : List Char) : Prop where
  closing (other : TagKind) : ¬ ['-', other.inner v, v] <:+: '-' :: (body ++ [kind.inner v, v])
  opening (other : TagKind) : ¬ [u, other.inner u, '-'] <:+: u :: kind.inner u :: (body ++ ['-'])

/-- The texts on the two sides of a tag, with all the white space that is next to it set apart. -/
structure Sides (before gap gap' after : List Char) : Prop where
  before : ∀ c ∈ before.getLast?, isBlank c = false
  gap : ∀ c ∈ gap, isBlank c
  gap' : ∀ c ∈ gap', isBlank c
  after : ∀ c ∈ after.head?, isBlank c = false

/-- The second text has a tag without dashes where the first one has the tag with the dashes that
the flags tell of, and with white space at those. -/
inductive Dashed (u v : Char) (kind : TagKind) (body : List Char) (front behind : Bool) :
    List Char → List Char → Prop
  | mk {before gap gap' after : List Char} (hsides : Sides before gap gap' after)
    (hfront : front = false → gap = []) (hbehind : behind = false → gap' = []) :
    Dashed u v kind body front behind (around u v kind before gap front body behind gap' after)
      (around u v kind before [] false body false [] after)

/-- What a rule makes of a text with a tag in it: a text with the tag in it, where the two sides do
not hang on the white space and the dashes. No white space comes about next to the tag. -/
def Carries (u v : Char) (kind : TagKind) (body body' : List Char) (keep : Bool → Bool)
    (first later rule : List Char → List Char) : Prop :=
  ∀ ⦃before gap gap' after : List Char⦄ ⦃front behind : Bool⦄, Sides before gap gap' after →
    (behind = false → gap' = []) →
    ∃ gap₁ gap₂, Sides (first before) gap₁ gap₂ (later after) ∧ (gap = [] → gap₁ = []) ∧
      (keep behind = false → gap₂ = []) ∧
      rule (around u v kind before gap front body behind gap' after) =
        around u v kind (first before) gap₁ front body' (keep behind) gap₂ (later after)

variable {u v c d : Char} {kind other : TagKind} {body body' before gap gap' after : List Char}
  {front behind : Bool} {left right : List Char}

theorem Sides.tight (h : Sides before gap gap' after) : Sides before [] [] after :=
  ⟨h.before, nofun, nofun, h.after⟩

/-- After such a rule two texts still differ by dashes and white space next to them. -/
theorem Carries.dashed {keep : Bool → Bool} {first later rule : List Char → List Char}
    (h : Carries u v kind body body' keep first later rule) (hkeep : keep false = false)
    (hdashed : Dashed u v kind body front behind left right) :
    Dashed u v kind body' front (keep behind) (rule left) (rule right) := by
  obtain ⟨hsides, hfront, hbehind⟩ := hdashed
  obtain ⟨gap₁, gap₂, hsides', hnil₁, hnil₂, hleft⟩ := h hsides hbehind
  obtain ⟨gap₃, gap₄, -, hnil₃, hnil₄, hright⟩ := h hsides.tight fun _ => rfl
  obtain rfl := hnil₃ rfl
  obtain rfl := hnil₄ hkeep
  rw [hleft, hright, hkeep]
  exact .mk hsides' (fun h => hnil₁ (hfront h)) hnil₂

/-! ## Both directions -/

theorem Braces.symm (h : Braces u v) : Braces v u := by
  cases h
  · exact .backwards
  · exact .forwards

theorem reverse_dash (present : Bool) : (dash present).reverse = dash present := by
  cases present <;> rfl

theorem reverse_around : (around u v kind before gap front body behind gap' after).reverse =
    around v u kind after.reverse gap'.reverse behind body.reverse front gap.reverse
      before.reverse := by
  simp [around, reverse_dash]

theorem Undashed.reverse (h : Undashed u v kind body) : Undashed v u kind body.reverse where
  closing other hwithin := by
    rw [← List.reverse_infix] at hwithin
    exact h.opening other (by simpa using hwithin)
  opening other hwithin := by
    rw [← List.reverse_infix] at hwithin
    exact h.closing other (by simpa using hwithin)

theorem Sides.reverse (h : Sides before gap gap' after) :
    Sides after.reverse gap'.reverse gap.reverse before.reverse where
  before := by simpa using h.after
  gap := by simpa using h.gap'
  gap' := by simpa using h.gap
  after := by simpa using h.before

theorem Dashed.reverse (h : Dashed u v kind body front behind left right) :
    Dashed v u kind body.reverse behind front left.reverse right.reverse := by
  obtain ⟨hsides, hfront, hbehind⟩ := h
  rw [reverse_around, reverse_around]
  exact .mk hsides.reverse (by simpa using hbehind) (by simpa using hfront)

/-! ## Dashes -/

section Tightening

variable (hbraces : Braces u v) (hbody : Undashed u v kind body)
include hbraces

theorem inner_plain (kind : TagKind) : kind.inner v ≠ '-' ∧ isBlank (kind.inner v) = false := by
  cases hbraces <;> cases kind <;> decide

theorem brace_plain : v ≠ '-' ∧ isBlank v = false := inner_plain hbraces .expression

theorem brace_ne_inner (kind : TagKind) : u ≠ kind.inner v := by
  cases hbraces <;> cases kind <;> decide

theorem inner_injective (h : kind.inner v = other.inner v) : kind = other := by
  cases hbraces <;> cases kind <;> cases other <;> simp [TagKind.inner] at h ⊢

/-- The rule deletes the dash in front of the delimiter it is about, and the white space behind. -/
theorem tightenFrom_close (hgap' : ∀ c ∈ gap', isBlank c)
    (hafter : ∀ c ∈ after.head?, isBlank c = false) (hbehind : behind = false → gap' = []) :
    ∃ gap₂, (∀ c ∈ gap₂, isBlank c) ∧ ((behind && other != kind) = false → gap₂ = []) ∧
      tightenFrom (other.inner v) v false (dash behind ++ (kind.inner v :: v :: (gap' ++ after))) =
        dash (behind && other != kind) ++ (kind.inner v :: v :: (gap₂ ++
          tightenFrom (other.inner v) v false after)) := by
  obtain ⟨hdash, hblank⟩ := inner_plain hbraces kind
  obtain ⟨hdash', hblank'⟩ := brace_plain hbraces
  have hdelimiter (cs : List Char) : tightenFrom (other.inner v) v false (kind.inner v :: v :: cs) =
      kind.inner v :: v :: tightenFrom (other.inner v) v false cs := by
    rw [tightenFrom_kept _ hdash hblank, tightenFrom_kept _ hdash' hblank']
  cases behind with
  | false =>
    obtain rfl := hbehind rfl
    exact ⟨[], nofun, fun _ => rfl, hdelimiter _⟩
  | true =>
    by_cases hother : other = kind
    · subst hother
      refine ⟨[], nofun, fun _ => rfl, ?_⟩
      have hmarker := tightenFrom_marker (a := other.inner v) (b := v) false (gap' ++ after)
      rw [tightenFrom_blank hgap', tightenFrom_unblank hafter] at hmarker
      simpa [dash] using hmarker
    · refine ⟨gap', hgap', by simp [hother], ?_⟩
      have hmarker : ¬ ['-', other.inner v, v] <+: '-' :: kind.inner v :: v :: (gap' ++ after) := by
        rintro ⟨rest, heq⟩
        exact hother (inner_injective hbraces (List.cons.inj (List.cons.inj heq).2).1)
      have hkept := tightenFrom_cons false hmarker
      rw [hdelimiter, tightenFrom_blank hgap'] at hkept
      simpa [dash, hother] using hkept

/-- What stands in front of the tag is prepared on its own, up to the white space between. -/
theorem tightenFrom_open (hgap : ∀ c ∈ gap, isBlank c) (rest : List Char) :
    ∃ gap₁, (∀ c ∈ gap₁, isBlank c) ∧ (gap = [] → gap₁ = []) ∧
      tightenFrom (other.inner v) v false (before ++ (gap ++ (u :: kind.inner u :: rest))) =
        tightenFrom (other.inner v) v false before ++
          (gap₁ ++ (u :: kind.inner u :: tightenFrom (other.inner v) v false rest)) := by
  obtain ⟨hdash, hblank⟩ := inner_plain hbraces.symm kind
  obtain ⟨hdash', hblank'⟩ := brace_plain hbraces.symm
  have happart : Apart ['-', other.inner v, v] (gap ++ (u :: kind.inner u :: rest)) := by
    refine apart_of_head fun c hc => ?_
    simp only [List.tail_cons, List.mem_cons, List.not_mem_nil, or_false, not_or]
    cases gap with
    | nil =>
      obtain rfl : u = c := Option.some.inj hc
      exact ⟨brace_ne_inner hbraces other, brace_ne_inner hbraces .expression⟩
    | cons d gap =>
      obtain rfl : d = c := Option.some.inj hc
      have hne : ∀ e, isBlank e = false → d ≠ e := by
        rintro e he rfl
        rw [hgap d List.mem_cons_self] at he
        cases he
      exact ⟨hne _ (inner_plain hbraces other).2, hne _ (brace_plain hbraces).2⟩
  obtain ⟨dropping, heq⟩ := tightenFrom_append happart false before
  rw [heq, tightenFrom_blank hgap, tightenFrom_kept _ hdash' hblank',
    tightenFrom_kept _ hdash hblank]
  refine ⟨if dropping then [] else gap, ?_, ?_, rfl⟩
  · cases dropping
    · exact hgap
    · exact nofun
  · rintro rfl
    cases dropping <;> rfl

include hbody

/-- No dash up to the end of the body tightens anything. -/
theorem not_prefix_body {z : List Char} (hz : z <:+ dash front ++ body) (hne : z ≠ []) :
    ¬ ['-', other.inner v, v] <+: z ++ (dash behind ++ (kind.inner v :: v :: after)) := by
  intro hprefix
  have hbehind : z <:+ '-' :: body := by
    cases front with
    | true => exact hz
    | false => exact hz.trans (List.suffix_cons '-' body)
  have hwithin : z ++ [kind.inner v, v] <:+: '-' :: (body ++ [kind.inner v, v]) := by
    obtain ⟨start, hstart⟩ := hbehind
    exact ⟨start, [], by rw [← List.cons_append, ← hstart]; simp⟩
  refine hbody.closing other (List.IsInfix.trans (List.IsPrefix.isInfix ?_) hwithin)
  cases behind with
  | true =>
    have hapart : Apart ['-', other.inner v, v] ('-' :: kind.inner v :: v :: after) := by
      refine apart_of_head ?_
      rintro c ⟨⟩
      simp [Ne.symm (inner_plain hbraces other).1, Ne.symm (brace_plain hbraces).1]
    exact ((prefix_append_of_apart hne hapart).mp hprefix).trans (List.prefix_append _ _)
  | false =>
    have hwhole : z ++ [kind.inner v, v] <+: z ++ (kind.inner v :: v :: after) :=
      ⟨after, by simp⟩
    refine List.prefix_of_prefix_length_le hprefix hwhole ?_
    have := List.length_pos_iff.mpr hne
    simp
    omega

theorem tightenFrom_carries (other : TagKind) :
    Carries u v kind body body (· && other != kind) (tightenFrom (other.inner v) v false)
      (tightenFrom (other.inner v) v false) (tightenFrom (other.inner v) v false) := by
  intro before gap gap' after front behind hsides hbehind
  obtain ⟨gap₂, hblank₂, hnil₂, hclose⟩ :=
    tightenFrom_close hbraces hsides.gap' hsides.after hbehind
  obtain ⟨gap₁, hblank₁, hnil₁, hopen⟩ := tightenFrom_open hbraces hsides.gap
    (dash front ++ (body ++ (dash behind ++ (kind.inner v :: v :: (gap' ++ after)))))
  have hskip := tightenFrom_skip fun z (hz : z <:+ dash front ++ body) hne =>
    @not_prefix_body u v kind other body (gap' ++ after) front behind hbraces hbody z hz hne
  rw [hclose, List.append_assoc, List.append_assoc] at hskip
  have hends := getLast?_tightenFrom (other.inner v) (brace_plain hbraces).2 false hsides.before
  have hstarts := head?_tightenFrom v (inner_plain hbraces other).2 hsides.after
  refine ⟨gap₁, gap₂, ⟨hends, hblank₁, hblank₂, hstarts⟩, hnil₁, hnil₂, ?_⟩
  rw [around, hopen, hskip]
  rfl

theorem Dashed.tightened (other : TagKind) (h : Dashed u v kind body front behind left right) :
    Dashed u v kind body front (behind && other != kind)
      (tightenFrom (other.inner v) v false left) (tightenFrom (other.inner v) v false right) :=
  (tightenFrom_carries hbraces hbody other).dashed rfl h

theorem Dashed.tightenedBefore (other : TagKind)
    (h : Dashed u v kind body front behind left right) :
    Dashed u v kind body (front && other != kind) behind (tightenBefore u (other.inner u) left)
      (tightenBefore u (other.inner u) right) := by
  have hback := (h.reverse.tightened hbraces.symm hbody.reverse other).reverse
  rwa [List.reverse_reverse] at hback

end Tightening

theorem Dashed.eq_of_no_dash (h : Dashed u v kind body false false left right) : left = right := by
  obtain ⟨-, hgap, hgap'⟩ := h
  rw [hgap rfl, hgap' rfl]

/-- With all dashes applied nothing is left that the texts differ by. -/
theorem Dashed.tighten_eq (hbody : Undashed '{' '}' kind body)
    (h : Dashed '{' '}' kind body front behind left right) : tighten left = tighten right := by
  have hblock := h.tightened .forwards hbody .block
  have hblocks := hblock.tightenedBefore .forwards hbody .block
  have hexpression := hblocks.tightened .forwards hbody .expression
  have hall := hexpression.tightenedBefore .forwards hbody .expression
  have hnone (present : Bool) :
      ((present && TagKind.block != kind) && TagKind.expression != kind) = false := by
    cases kind <;> simp
  rw [hnone, hnone] at hall
  exact hall.eq_of_no_dash

/-! ## Bodies of tags -/

/-- What a dash cannot be next to. -/
def isDelimiting (c : Char) : Bool := ['-', '#', '%', '{', '}'].contains c

/-- What may stand between the delimiters of a tag: no delimiter of a tag or comment occurs in it,
and it has something to start and to end with that is no part of one, and no dash. -/
structure TagBody (body : List Char) : Prop where
  nonempty : body ≠ []
  starts : ∀ c ∈ body.head?, isDelimiting c = false
  ends : ∀ c ∈ body.getLast?, isDelimiting c = false
  opens (kind : TagKind) : ¬ ['{', kind.inner '{'] <:+: body
  closes (kind : TagKind) : ¬ [kind.inner '}', '}'] <:+: body
  comment : contains ['{', '#'] body = false

theorem ne_of_isDelimiting (hc : isDelimiting c = false) (hd : isDelimiting d) : c ≠ d := by
  rintro rfl
  rw [hc] at hd
  cases hd

theorem isDelimiting_inner (hbraces : Braces u v) (kind : TagKind) :
    isDelimiting (kind.inner v) := by
  cases hbraces <;> cases kind <;> decide

/-- A dash tightens nothing in front of a body and in it. -/
theorem not_infix_body (hbraces : Braces u v) (hne : body ≠ [])
    (hstarts : ∀ c ∈ body.head?, isDelimiting c = false)
    (hends : ∀ c ∈ body.getLast?, isDelimiting c = false)
    (hcloses : ∀ kind : TagKind, ¬ [kind.inner v, v] <:+: body) :
    ¬ ['-', other.inner v, v] <:+: '-' :: (body ++ [kind.inner v, v]) := by
  intro hwithin
  rcases List.infix_cons_iff.mp hwithin with hprefix | hlater
  · obtain ⟨d, tail, rfl⟩ := List.exists_cons_of_ne_nil hne
    obtain ⟨-, hprefix⟩ := List.cons_prefix_cons.mp hprefix
    obtain ⟨rfl, -⟩ := List.cons_prefix_cons.mp hprefix
    exact ne_of_isDelimiting (hstarts _ rfl) (isDelimiting_inner hbraces other) rfl
  · have hlast : ∀ c ∈ body.getLast?, c ∉ ['-', other.inner v, v].dropLast := by
      intro c hc
      have hdash : c ≠ '-' := ne_of_isDelimiting (hends c hc) rfl
      have hinner := ne_of_isDelimiting (hends c hc) (isDelimiting_inner hbraces other)
      simp [hdash, hinner]
    rcases infix_append_of_last hlast hlater with h | h
    · exact hcloses other ((List.suffix_cons '-' _).isInfix.trans h)
    · have := h.length_le
      simp at this

theorem TagBody.undashed (h : TagBody body) (kind : TagKind) : Undashed '{' '}' kind body where
  closing other := not_infix_body .forwards h.nonempty h.starts h.ends h.closes
  opening other hwithin := by
    rw [← List.reverse_infix] at hwithin
    refine @not_infix_body '}' '{' kind other body.reverse .backwards ?_ ?_ ?_ ?_ ?_
    · simpa using h.nonempty
    · simpa using h.ends
    · simpa using h.starts
    · intro kind hopens
      rw [← List.reverse_infix] at hopens
      exact h.opens kind (by simpa using hopens)
    · simpa using hwithin

/-! ## Line breaks -/

theorem apart_brace (y : List Char) (hc : c ≠ '\n') : Apart [d, '}', '\n'] ('}' :: c :: y) := by
  intro z hz hne hprefix
  rcases List.suffix_cons_iff.mp hz with rfl | hz
  · exact hc (List.cons_prefix_cons.mp (List.cons_prefix_cons.mp hprefix).2).1.symm
  · rcases List.suffix_cons_iff.mp hz with rfl | hz
    · simp at hprefix
    · exact hne (List.suffix_nil.mp hz)

theorem apart_close (kind : TagKind) (after : List Char) :
    Apart [d, '}', '\n'] (dash behind ++ (kind.inner '}' :: '}' :: after)) := by
  cases behind with
  | true => exact apart_of_head (by rintro c ⟨⟩; simp)
  | false =>
    cases kind with
    | block => exact apart_of_head (by rintro c ⟨⟩; simp [TagKind.inner])
    | expression => exact apart_brace _ (by decide)

theorem dropBlockNewlines_dash (present : Bool) (y : List Char) :
    dropBlockNewlines (dash present ++ y) = dash present ++ dropBlockNewlines y := by
  cases present with
  | false => rfl
  | true => exact dropBlockNewlines_kept (by decide) (by decide) y

theorem dropBlockNewlines_open (kind : TagKind) {y : List Char} (hy : ∀ c ∈ y.head?, c ≠ '}') :
    dropBlockNewlines ('{' :: kind.inner '{' :: y) =
      '{' :: kind.inner '{' :: dropBlockNewlines y := by
  rw [dropBlockNewlines_kept (by decide) (by decide)]
  cases kind with
  | expression => rw [dropBlockNewlines_kept (by decide) (by decide)]
  | block =>
    rw [dropBlockNewlines_cons (by simp [TagKind.inner])]
    rintro ⟨rest, heq⟩
    obtain ⟨-, rfl⟩ := List.cons.inj heq
    exact hy '}' rfl rfl

theorem dropBlockNewlines_close (kind : TagKind) (hgap' : ∀ c ∈ gap', isBlank c)
    (hafter : ∀ c ∈ after.head?, isBlank c = false) :
    ∃ gap₂, (∀ c ∈ gap₂, isBlank c) ∧ (gap' = [] → gap₂ = []) ∧
      dropBlockNewlines (kind.inner '}' :: '}' :: (gap' ++ after)) =
        kind.inner '}' :: '}' :: (gap₂ ++ dropBlockNewlines after) := by
  by_cases hnewline : kind = .block ∧ '\n' ∈ gap'.head?
  · obtain ⟨rfl, hhead⟩ := hnewline
    obtain ⟨gap, rfl⟩ := List.head?_eq_some_iff.mp hhead
    have hgap := (List.forall_mem_cons.mp hgap').2
    refine ⟨gap, hgap, nofun, ?_⟩
    rw [← dropBlockNewlines_blank hgap]
    rfl
  · refine ⟨gap', hgap', id, ?_⟩
    rw [dropBlockNewlines_cons, dropBlockNewlines_kept (by decide) (by decide),
      dropBlockNewlines_blank hgap']
    · rintro ⟨rest, heq⟩
      cases kind <;> cases heq
    · rintro ⟨rest, heq⟩
      cases kind with
      | expression => cases heq
      | block =>
        refine hnewline ⟨rfl, ?_⟩
        cases gap' with
        | cons c gap =>
          cases heq
          rfl
        | nil =>
          obtain rfl : '\n' :: rest = after := (List.cons.inj (List.cons.inj heq).2).2
          exact absurd (hafter '\n' rfl) (by decide)

theorem Undashed.dropBlockNewlines (h : Undashed '{' '}' kind body)
    (hstarts : ∀ c ∈ body.head?, c ≠ '}') (hne : body ≠ []) :
    Undashed '{' '}' kind (dropBlockNewlines body) where
  closing other hwithin := by
    have hclose : Source.dropBlockNewlines [kind.inner '}', '}'] = [kind.inner '}', '}'] := by
      cases kind <;> simp [Source.dropBlockNewlines, TagKind.inner]
    have hapart (d : Char) : Apart [d, '}', '\n'] [kind.inner '}', '}'] :=
      @apart_close d false kind []
    have hwhole : ['-', other.inner '}', '}'] <:+:
        Source.dropBlockNewlines ('-' :: (body ++ [kind.inner '}', '}'])) := by
      rwa [dropBlockNewlines_kept (by decide) (by decide),
        dropBlockNewlines_append_of_apart (hapart _) (hapart _), hclose]
    refine h.closing other (infix_of_dropBlockNewlines (by simp) ?_ ?_ hwhole) <;>
      cases other <;> decide
  opening other hwithin := by
    have hapart (d : Char) : Apart [d, '}', '\n'] ['-'] := apart_of_head (by simp)
    have hwhole : ['{', other.inner '{', '-'] <:+:
        Source.dropBlockNewlines ('{' :: kind.inner '{' :: (body ++ ['-'])) := by
      rw [dropBlockNewlines_open kind, dropBlockNewlines_append_of_apart (hapart _) (hapart _)]
      · simpa [Source.dropBlockNewlines] using hwithin
      · rwa [List.head?_append_of_ne_nil _ hne]
    refine h.opening other (infix_of_dropBlockNewlines (by simp) ?_ ?_ hwhole) <;>
      cases other <;> decide

theorem dropBlockNewlines_carries (hne : body ≠ []) (hstarts : ∀ c ∈ body.head?, c ≠ '}') :
    Carries '{' '}' kind body (dropBlockNewlines body) id dropBlockNewlines dropBlockNewlines
      dropBlockNewlines := by
  intro before gap gap' after front behind hsides hbehind
  have hopens (d : Char) (y : List Char) : Apart [d, '}', '\n'] ('{' :: y) :=
    apart_of_head (by simp)
  have hcloses (d : Char) := @apart_close d behind kind (gap' ++ after)
  have hinner : ∀ y, ∀ c ∈ (dash front ++ (body ++ y)).head?, c ≠ '}' := by
    intro y
    cases front with
    | true => simp [dash]
    | false => rwa [dash, if_neg Bool.false_ne_true, List.nil_append,
        List.head?_append_of_ne_nil _ hne]
  obtain ⟨gap₁, hblank₁, hnil₁, hfirst⟩ :=
    dropBlockNewlines_gap (x := before) hsides.gap (hopens '#' _) (hopens '%' _)
  obtain ⟨gap₂, hblank₂, hnil₂, hclose⟩ := dropBlockNewlines_close kind hsides.gap' hsides.after
  have hends := (dropBlockNewlines_trims _).forall_getLast? hsides.before
  refine ⟨gap₁, gap₂, ⟨hends, hblank₁, hblank₂, ?_⟩, hnil₁, fun h => hnil₂ (hbehind h), ?_⟩
  · rw [head?_dropBlockNewlines]
    exact hsides.after
  · rw [around, hfirst, dropBlockNewlines_open kind (hinner _), dropBlockNewlines_dash,
      dropBlockNewlines_append_of_apart (hcloses '#') (hcloses '%'), dropBlockNewlines_dash, hclose]
    rfl

/-! ## Indentation -/

theorem stripFrom_dash (present : Bool) (y : List Char) :
    stripFrom false (dash present ++ y) = dash present ++ stripFrom false y := by
  cases present <;> rfl

/-- In a body and behind it no tag opens. -/
theorem TagBody.not_opens (h : TagBody body) (kind : TagKind) (after : List Char) {z : List Char}
    (hz : z <:+ body) :
    opensBlockOrComment (z ++ (dash behind ++ (kind.inner '}' :: '}' :: after))) = false := by
  rw [Bool.eq_false_iff, ne_eq, opensBlockOrComment_iff]
  by_cases hne : z = []
  · subst hne
    cases behind <;> cases kind <;> simp [dash, TagKind.inner]
  · have hlast (d : Char) : ∀ c ∈ z.getLast?, c ∉ ['{', d].dropLast :=
      forall_getLast?_of_suffix
        (fun c hc => by simpa using ne_of_isDelimiting (h.ends c hc) rfl) hz
    rw [prefix_append_iff hne (hlast '#'), prefix_append_iff hne (hlast '%')]
    rintro (hcomment | hblock)
    · exact contains_eq_false_iff.mp h.comment (hcomment.isInfix.trans hz.isInfix)
    · exact h.opens .block (hblock.isInfix.trans hz.isInfix)

theorem apart_open (hgap : ∀ c ∈ gap, isBlank c) (hd : isBlank d = false) (hne : d ≠ '{')
    (rest : List Char) : Apart ['{', d] (gap ++ '{' :: rest) := by
  refine apart_of_head fun c hc => ?_
  rw [List.tail_cons, List.mem_singleton]
  rintro rfl
  cases gap with
  | nil => exact hne (Option.some.inj hc).symm
  | cons e gap =>
    obtain rfl : e = c := Option.some.inj hc
    rw [hgap e List.mem_cons_self] at hd
    cases hd

theorem stripIndents_carries (h : TagBody body) :
    Carries '{' '}' kind body body id stripIndents (stripFrom false) stripIndents := by
  intro before gap gap' after front behind hsides hbehind
  let inside := dash front ++ (body ++ (dash behind ++ (kind.inner '}' :: '}' :: (gap' ++ after))))
  have hblank := (inner_plain .backwards kind).2
  have hinner := (inner_plain .forwards kind).2
  have hopen (starts : Bool) (cs : List Char) :
      stripFrom starts ('{' :: kind.inner '{' :: cs) =
        '{' :: kind.inner '{' :: stripFrom false cs := by
    rw [stripFrom_solid (by decide), stripFrom_solid hblank]
  have hbody := stripFrom_skip
    (fun z hz => @TagBody.not_opens body behind h kind (gap' ++ after) z hz)
    (by cases behind <;> cases kind <;> simp [dash, TagKind.inner] <;> decide) false
  obtain ⟨starts, hfirst⟩ := stripFrom_append hsides.before
    (apart_open hsides.gap (by decide) (by decide) (kind.inner '{' :: inside))
    (apart_open hsides.gap (by decide) (by decide) (kind.inner '{' :: inside)) true
  obtain ⟨gap₁, starts₁, hblank₁, hnil₁, hgap⟩ :=
    stripFrom_blank hsides.gap starts ('{' :: kind.inner '{' :: inside)
  obtain ⟨gap₂, starts₂, hblank₂, hnil₂, hgap'⟩ := stripFrom_blank hsides.gap' false after
  have hends := (stripIndents_trims _).forall_getLast? hsides.before
  refine ⟨gap₁, gap₂, ⟨hends, hblank₁, hblank₂, ?_⟩, hnil₁, fun h => hnil₂ (hbehind h), ?_⟩
  · rw [head?_stripFrom]
    exact hsides.after
  · rw [around, stripIndents_eq_stripFrom, hfirst, hgap, hopen, stripFrom_dash, hbody,
      stripFrom_dash, stripFrom_solid hinner, stripFrom_solid (by decide), hgap',
      stripFrom_unblank hsides.after, stripIndents_eq_stripFrom]
    rfl

/-! ## The end of the text -/

theorem prefix_of_dropFinalNewline (cs : List Char) : dropFinalNewline cs <+: cs := by
  rw [dropFinalNewline]
  split
  · exact List.dropLast_prefix cs
  · exact List.prefix_rfl

theorem dropFinalNewline_close (kind : TagKind) (hgap' : ∀ c ∈ gap', isBlank c)
    (after : List Char) :
    ∃ gap₂, (∀ c ∈ gap₂, isBlank c) ∧ (gap' = [] → gap₂ = []) ∧
      dropFinalNewline (kind.inner '}' :: '}' :: (gap' ++ after)) =
        kind.inner '}' :: '}' :: (gap₂ ++ dropFinalNewline after) := by
  have hclose {y : List Char} (hy : y ≠ []) : dropFinalNewline (kind.inner '}' :: '}' :: y) =
      kind.inner '}' :: '}' :: dropFinalNewline y :=
    dropFinalNewline_append hy [kind.inner '}', '}']
  by_cases hafter : after = []
  · subst hafter
    rw [List.append_nil]
    refine ⟨dropFinalNewline gap', fun c hc => ?_, ?_, ?_⟩
    · exact hgap' c ((prefix_of_dropFinalNewline _).subset hc)
    · rintro rfl
      rfl
    · by_cases hne : gap' = []
      · subst hne
        rfl
      · rw [hclose hne]
        simp [dropFinalNewline]
  · refine ⟨gap', hgap', id, ?_⟩
    rw [hclose (by simp [hafter]), dropFinalNewline_append hafter]

theorem dropFinalNewline_carries :
    Carries '{' '}' kind body body id id dropFinalNewline dropFinalNewline := by
  intro before gap gap' after front behind hsides hbehind
  obtain ⟨gap₂, hblank₂, hnil₂, hclose⟩ := dropFinalNewline_close kind hsides.gap' after
  refine ⟨gap, gap₂, ⟨hsides.before, hsides.gap, hblank₂, ?_⟩, id, fun h => hnil₂ (hbehind h), ?_⟩
  · intro c hc
    obtain ⟨rest, hrest⟩ := prefix_of_dropFinalNewline after
    refine hsides.after c ?_
    rw [← hrest, List.head?_append, hc]
    rfl
  · have hfront {tail : List Char} (htail : tail ≠ []) :
        dropFinalNewline (before ++ (gap ++ ('{' :: kind.inner '{' :: (dash front ++ (body ++
          (dash behind ++ tail)))))) =
        before ++ (gap ++ ('{' :: kind.inner '{' :: (dash front ++ (body ++
          (dash behind ++ dropFinalNewline tail))))) := by
      simpa using dropFinalNewline_append htail
        (before ++ (gap ++ ('{' :: kind.inner '{' :: (dash front ++ (body ++ dash behind)))))
    rw [around, hfront (List.cons_ne_nil _ _), hclose]
    rfl

/-! ## Comments -/

theorem not_comment_gap {y : List Char} (hgap : ∀ c ∈ gap, isBlank c)
    (hy : ¬ ['{', '#'] <:+: y) : ¬ ['{', '#'] <:+: gap ++ y := by
  intro hwithin
  have hbrace : '{' ∉ gap := fun hmem => absurd (hgap _ hmem) (by decide)
  have hlast : ∀ c ∈ gap.getLast?, c ∉ ['{', '#'].dropLast := by
    intro c hc hmem
    obtain rfl : c = '{' := by simpa using hmem
    exact hbrace (List.mem_of_getLast? hc)
  rcases infix_append_of_last hlast hwithin with h | h
  · exact hbrace (h.subset List.mem_cons_self)
  · exact hy h

theorem not_comment_close (kind : TagKind) (hgap' : ∀ c ∈ gap', isBlank c)
    (hafter : ¬ ['{', '#'] <:+: after) :
    ¬ ['{', '#'] <:+: dash behind ++ (kind.inner '}' :: '}' :: (gap' ++ after)) := by
  have hrest := not_comment_gap hgap' hafter
  cases behind <;> cases kind <;>
    simpa [dash, TagKind.inner, List.infix_cons_iff] using hrest

theorem TagBody.not_comment (h : TagBody body) {y : List Char} (hy : ¬ ['{', '#'] <:+: y) :
    ¬ ['{', '#'] <:+: '{' :: kind.inner '{' :: (dash front ++ (body ++ y)) := by
  have hbody : ¬ ['{', '#'] <:+: body ++ y := by
    intro hwithin
    have hlast : ∀ c ∈ body.getLast?, c ∉ ['{', '#'].dropLast := fun c hc => by
      simpa using ne_of_isDelimiting (h.ends c hc) rfl
    exact (infix_append_of_last hlast hwithin).elim (contains_eq_false_iff.mp h.comment) hy
  obtain ⟨c, rest, rfl⟩ := List.exists_cons_of_ne_nil h.nonempty
  have hstart : '#' ≠ c := Ne.symm (ne_of_isDelimiting (h.starts c rfl) rfl)
  rw [List.cons_append] at hbody ⊢
  cases front <;> cases kind <;>
    simp [dash, TagKind.inner, List.infix_cons_iff, hstart] at hbody ⊢ <;> exact hbody

theorem not_comment_around (kind : TagKind) (front behind : Bool)
    (hsides : Sides before gap gap' after) (hbody : TagBody body)
    (hbefore : ¬ ['{', '#'] <:+: before) (hafter : ¬ ['{', '#'] <:+: after) :
    ¬ ['{', '#'] <:+: around '{' '}' kind before gap front body behind gap' after := by
  intro hwithin
  have htag : ¬ ['{', '#'] <:+: '{' :: kind.inner '{' :: (dash front ++ (body ++ (dash behind ++
      (kind.inner '}' :: '}' :: (gap' ++ after))))) :=
    hbody.not_comment (not_comment_close kind hsides.gap' hafter)
  rw [around] at hwithin
  rcases infix_append_of_apart (apart_open hsides.gap (by decide) (by decide) _) hwithin with h | h
  · exact hbefore h
  · exact not_comment_gap hsides.gap htag h

/-- Without comments, only line breaks, indentation and dashes are there to be deleted. -/
theorem prepareChars_of_no_comment (trimming : Trimming) {cs : List Char}
    (h : contains ['{', '#'] cs = false) :
    prepareChars trimming cs =
      tighten ((if trimming.trimBlocks then dropBlockNewlines else id)
        ((if trimming.lstripBlocks then stripIndents else id) (dropFinalNewline cs))) := by
  have hshrunk := contains_within h (prefix_of_dropFinalNewline cs).isInfix
  obtain ⟨trimBlocks, lstripBlocks⟩ := trimming
  have hstripped := (stripIndents_trims (dropFinalNewline cs)).contains_comment hshrunk
  have hdropped {cs : List Char} (h : contains ['{', '#'] cs = false) :=
    (dropBlockNewlines_trims cs).contains_comment h
  rw [prepareChars, shrinkComments_eq hshrunk]
  cases lstripBlocks <;> cases trimBlocks
  · exact congrArg tighten (eraseComments_eq hshrunk)
  · exact congrArg tighten (eraseComments_eq (hdropped hshrunk))
  · exact congrArg tighten (eraseComments_eq hstripped)
  · exact congrArg tighten (eraseComments_eq (hdropped hstripped))

theorem Dashed.trimmed (trimming : Trimming) (hbody : TagBody body)
    (h : Dashed '{' '}' kind body front behind left right) :
    tighten ((if trimming.trimBlocks then Source.dropBlockNewlines else id)
        ((if trimming.lstripBlocks then stripIndents else id) left)) =
      tighten ((if trimming.trimBlocks then Source.dropBlockNewlines else id)
        ((if trimming.lstripBlocks then stripIndents else id) right)) := by
  have hundashed := hbody.undashed kind
  have hend : ∀ c ∈ body.head?, c ≠ '}' := fun c hc => ne_of_isDelimiting (hbody.starts c hc) rfl
  have hdropped {left right : List Char} (h : Dashed '{' '}' kind body front behind left right) :=
    ((dropBlockNewlines_carries hbody.nonempty hend).dashed rfl h).tighten_eq
      (hundashed.dropBlockNewlines hend hbody.nonempty)
  have hstripped := (stripIndents_carries hbody).dashed rfl h
  obtain ⟨trimBlocks, lstripBlocks⟩ := trimming
  cases lstripBlocks <;> cases trimBlocks
  · exact h.tighten_eq hundashed
  · exact hdropped h
  · exact hstripped.tighten_eq hundashed
  · exact hdropped hstripped

theorem prepareChars_dashed (trimming : Trimming) (kind : TagKind)
    (hsides : Sides before gap gap' after) (hbody : TagBody body)
    (hbefore : contains ['{', '#'] before = false) (hafter : contains ['{', '#'] after = false) :
    prepareChars trimming (around '{' '}' kind before gap true body true gap' after) =
      prepareChars trimming (around '{' '}' kind before [] false body false [] after) := by
  rw [contains_eq_false_iff] at hbefore hafter
  have hleft := not_comment_around kind true true hsides hbody hbefore hafter
  have hright := not_comment_around kind false false hsides.tight hbody hbefore hafter
  rw [← contains_eq_false_iff] at hleft hright
  rw [prepareChars_of_no_comment trimming hleft, prepareChars_of_no_comment trimming hright]
  have hdashed : Dashed '{' '}' kind body true true _ _ := .mk hsides nofun nofun
  exact (dropFinalNewline_carries.dashed rfl hdashed).trimmed trimming hbody

/-! ## Templates -/

/-- The delimiter that opens a tag of this kind. -/
def TagKind.opening : TagKind → String
  | .block => "\x7b%"
  | .expression => "\x7b\x7b"

/-- The delimiter that closes a tag of this kind. -/
def TagKind.closing : TagKind → String
  | .block => "%\x7d"
  | .expression => "\x7d\x7d"

/-- Dashes at the ends of a tag delete the white space next to it and nothing else, whatever the
rules about blocks have deleted before. -/
theorem prepare_dashes (trimming : Trimming) (kind : TagKind)
    {before gap body gap' after : String}
    (hsides : Sides before.toList gap.toList gap'.toList after.toList) (hbody : TagBody body.toList)
    (hbefore : contains ['{', '#'] before.toList = false)
    (hafter : contains ['{', '#'] after.toList = false) :
    prepare trimming (before ++ gap ++ kind.opening ++ "-" ++ body ++ "-" ++ kind.closing ++ gap' ++
        after) =
      prepare trimming (before ++ kind.opening ++ body ++ kind.closing ++ after) := by
  have hprepared := prepareChars_dashed trimming kind hsides hbody hbefore hafter
  cases kind <;>
    simpa [prepare, around, dash, TagKind.inner, TagKind.opening, TagKind.closing] using
      congrArg String.ofList hprepared

theorem prepare_dashes_block :
    Sides "A \x7b".toList "\n\t".toList " \n".toList "-\x7d\x7d B\n".toList ∧
      TagBody " if x\n".toList ∧
      prepare .full ("A \x7b" ++ "\n\t" ++ "\x7b%" ++ "-" ++ " if x\n" ++ "-" ++ "%\x7d" ++ " \n" ++
          "-\x7d\x7d B\n") =
        prepare .full ("A \x7b" ++ "\x7b%" ++ " if x\n" ++ "%\x7d" ++ "-\x7d\x7d B\n") := by
  have hsides : Sides "A \x7b".toList "\n\t".toList " \n".toList "-\x7d\x7d B\n".toList := by
    constructor <;> simp [isBlank, inRanges, blankRanges]
  have hbody : TagBody " if x\n".toList :=
    ⟨by decide, by simp [isDelimiting], by simp [isDelimiting],
      fun kind => by cases kind <;> decide, fun kind => by cases kind <;> decide, by decide⟩
  exact ⟨hsides, hbody, prepare_dashes .full .block hsides hbody (by decide) (by decide)⟩

end TextTemplate.Source
