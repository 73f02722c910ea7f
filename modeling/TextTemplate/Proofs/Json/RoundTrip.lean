import TextTemplate.Proofs.Eval.Returning
import TextTemplate.Proofs.Eval.Scalars
import TextTemplate.Proofs.Host.Entries
import TextTemplate.Proofs.Json.Simple
import TextTemplate.Proofs.Json.Text
import TextTemplate.Proofs.Syntax.Adjacent
import TextTemplate.Proofs.Value.Fields

/-!
# Documents that read back

A value that JSON has a notation for reads back from its document as it was, in every layout that
puts nothing but blanks around the separators and the brackets.
-/

namespace TextTemplate

open List (Forall₂)

namespace Host

theorem putEntry_keyed (key : String) (value : Host) (fields : Fields Host) :
    putEntry (.text key) value (keyed fields) = keyed (fields.put key value) := by
  induction fields with
  | nil => rfl
  | cons field rest ih =>
    obtain ⟨k, v⟩ := field
    have hsame : sameKey (.text k) (.text key) = (k == key) := rfl
    rw [keyed, List.map_cons, putEntry, hsame, Fields.put]
    split
    · rfl
    · exact congrArg (_ :: ·) ih

theorem entriesOfPairs_keyed (fields : Fields Host) :
    entriesOfPairs (keyed fields) = keyed (Fields.ofPairs fields) := by
  induction fields using List.reverseRecOn with
  | nil => rfl
  | append_singleton fields field ih =>
    have hkeyed : keyed (fields ++ [field]) = keyed fields ++ [(.text field.1, field.2)] :=
      List.map_append
    have hput : Fields.ofPairs (fields ++ [field]) =
        (Fields.ofPairs fields).put field.1 field.2 := List.foldl_append
    rw [hkeyed, entriesOfPairs_concat, ih, putEntry_keyed, hput]

/-- Values that JSON has a notation for. All keys are texts, and none is there twice; all numbers
are whole ones that are not too long to write. -/
inductive Writable : Host → Prop
  | null : Writable .null
  | bool (b : Bool) : Writable (.bool b)
  | int {i : Int} (hshort : (decimalDigits i.natAbs).length ≤ digitLimit) :
    Writable (.number (.int i))
  | text (s : String) : Writable (.text s)
  | list {items : List Host} (h : ∀ item ∈ items, Writable item) : Writable (.list items)
  | map {fields : Fields Host} (hkeys : fields.keys.Nodup)
    (h : ∀ field ∈ fields, Writable field.2) : Writable (.map (keyed fields))

end Host

namespace Json

variable {style : Style} {host host' : Host} {cs gap closing rest : List Char}
  {parts : List (List Char)} {items : List Host} {fields : Fields Host} {bound : Nat}

/-! ## Blanks -/

/-- Nothing but blanks. -/
def AreBlank (cs : List Char) : Prop := ∀ c ∈ cs, isBlank c

theorem AreBlank.append {others : List Char} (h : AreBlank cs) (hothers : AreBlank others) :
    AreBlank (cs ++ others) := List.forall_mem_append.mpr ⟨h, hothers⟩

theorem skipBlanks_cons {c : Char} (hc : isBlank c = false) (rest : List Char) :
    skipBlanks (c :: rest) = c :: rest := by
  rw [skipBlanks, List.dropWhile_cons, hc, if_neg Bool.false_ne_true]

theorem AreBlank.skipBlanks_append (h : AreBlank gap) (rest : List Char) :
    skipBlanks (gap ++ rest) = skipBlanks rest := List.dropWhile_append_of_pos h

theorem AreBlank.delimits_append (h : AreBlank gap) (hrest : Delimits rest) :
    Delimits (gap ++ rest) := by
  cases gap with
  | nil => exact hrest
  | cons c gap =>
    have hc := h c (List.mem_cons_self ..)
    simp only [isBlank, Bool.or_eq_true, beq_iff_eq] at hc
    obtain ((rfl | rfl) | rfl) | rfl := hc <;> exact delimits_cons _

/-! ## Layouts -/

namespace Style

/-- A layout of which nothing is left between items, keys and values but separators. -/
structure Sound (style : Style) : Prop where
  itemSeparator : ∃ gap, style.itemSeparator = ',' :: gap ∧ AreBlank gap
  keySeparator : ∃ gap, style.keySeparator = ':' :: gap ∧ AreBlank gap
  indent : ∀ indent ∈ style.indent, AreBlank indent

theorem Sound.lineBreak (h : style.Sound) (depth : Nat) : AreBlank (style.lineBreak depth) := by
  unfold Style.lineBreak
  split
  · nofun
  · rename_i indent hindent
    refine List.forall_mem_cons.mpr ⟨rfl, fun c hc => ?_⟩
    obtain ⟨line, hline, hmem⟩ := List.mem_flatten.mp hc
    obtain rfl := List.eq_of_mem_replicate hline
    exact h.indent _ hindent c hmem

theorem Sound.separator (h : style.Sound) (depth : Nat) :
    ∃ gap, style.itemSeparator ++ style.lineBreak depth = ',' :: gap ∧ AreBlank gap := by
  obtain ⟨gap, heq, hgap⟩ := h.itemSeparator
  refine ⟨gap ++ style.lineBreak depth, ?_, hgap.append (h.lineBreak depth)⟩
  rw [heq, List.cons_append]

end Style

/-- The layout for reading by people is sound if it is indented by blanks. -/
theorem readable_sound {indent : Option (List Char)} (h : ∀ spaces ∈ indent, AreBlank spaces) :
    (readable indent).Sound where
  itemSeparator := by
    unfold readable
    split
    · exact ⟨[], rfl, nofun⟩
    · exact ⟨[' '], rfl, List.forall_mem_singleton.mpr rfl⟩
  keySeparator := ⟨[' '], rfl, List.forall_mem_singleton.mpr rfl⟩
  indent := h

/-- So is the layout for machines. -/
theorem compact_sound : compact.Sound := ⟨⟨[], rfl, nofun⟩, ⟨[], rfl, nofun⟩, nofun⟩

/-! ## Values in their places -/

/-- What starts with no blank, no bracket that closes and no byte order mark. -/
def Starts (cs : List Char) : Prop :=
  ∃ c others, cs = c :: others ∧ isBlank c = false ∧ c ∉ [']', '\x7d', '\ufeff']

theorem Starts.append (h : Starts cs) (rest : List Char) : Starts (cs ++ rest) := by
  obtain ⟨c, others, rfl, hc⟩ := h
  exact ⟨c, others ++ rest, rfl, hc⟩

theorem Starts.skipBlanks_eq (h : Starts cs) : skipBlanks cs = cs := by
  obtain ⟨c, others, rfl, hblank, -⟩ := h
  exact skipBlanks_cons hblank others

theorem Starts.joinChars (h : Starts cs) (separator : List Char) (parts : List (List Char)) :
    Starts (Host.joinChars separator (cs :: parts)) := by
  rw [Host.joinChars_cons]
  exact h.append _

/-- What stands for a value wherever one is read: it is read up to its end when nothing follows that
would go on with it. -/
structure Spells (cs : List Char) (host : Host) : Prop where
  starts : Starts cs
  reads : ∀ {bound rest}, cs.length ≤ bound → Delimits rest →
    readValue bound (cs ++ rest) = .ok (host, rest)

/-- What is not empty needs a bound that is not zero. -/
theorem exists_bound {c : Char} (h : (c :: cs).length ≤ bound) :
    ∃ n, bound = n + 1 ∧ cs.length ≤ n := by
  rw [List.length_cons] at h
  exact ⟨bound - 1, by omega, by omega⟩

theorem spells_of_readSimple {c : Char} (hc : isBlank c = false)
    (hmark : c ∉ ['"', '[', '\x7b', ']', '\x7d', '\ufeff'])
    (h : ∀ {rest}, Delimits rest → readSimple (c :: cs ++ rest) = .ok (host, rest)) :
    Spells (c :: cs) host := by
  simp only [List.mem_cons, not_or] at hmark
  obtain ⟨hquote, hbracket, hbrace, hclosing⟩ := hmark
  refine ⟨⟨c, cs, rfl, hc, by simpa using hclosing⟩, fun {bound rest} hbound hrest => ?_⟩
  obtain ⟨bound, rfl, -⟩ := exists_bound hbound
  rw [List.cons_append, readValue.eq_5, ← List.cons_append, h hrest]
  · rintro _ ⟨⟩
    exact hquote rfl
  · rintro _ ⟨⟩
    exact hbracket rfl
  · rintro _ ⟨⟩
    exact hbrace rfl

theorem spells_null : Spells "null".toList .null :=
  spells_of_readSimple (by decide) (by decide) fun _ => rfl

theorem spells_bool (b : Bool) : Spells (if b then "true" else "false").toList (.bool b) := by
  cases b <;> exact spells_of_readSimple (by decide) (by decide) fun _ => rfl

theorem spells_int {i : Int} (hshort : (decimalDigits i.natAbs).length ≤ digitLimit) :
    Spells (integerChars i) (.number (.int i)) := by
  have hread {rest : List Char} := @readSimple_integerChars rest i hshort
  obtain ⟨d, others, hd, heq⟩ := integerChars_append i []
  rw [List.append_nil] at heq
  obtain heq | heq := heq <;> rw [heq] at hread ⊢
  · have hne {c : Char} (hc : c.isDigit = false) : d ≠ c := by
      rintro rfl
      exact absurd hd (Bool.eq_false_iff.mp hc)
    exact spells_of_readSimple (by simp [isBlank, hne]) (by simp [hne]) hread
  · exact spells_of_readSimple (by decide) (by decide) hread

theorem readText_textChars (asciiOnly : Bool) (s : String) (rest : List Char) :
    ∃ others, textChars asciiOnly s ++ rest = '"' :: others ∧ readText others = .ok (s, rest) := by
  refine ⟨_, ?_, readText_chars asciiOnly s rest⟩
  rw [textChars, List.cons_append, List.cons_append, List.append_assoc, List.singleton_append]

theorem spells_text (asciiOnly : Bool) (s : String) : Spells (textChars asciiOnly s) (.text s) := by
  refine ⟨⟨'"', _, rfl, by decide⟩, fun {bound rest} hbound _ => ?_⟩
  obtain ⟨bound, rfl, -⟩ := exists_bound hbound
  obtain ⟨others, heq, hread⟩ := readText_textChars asciiOnly s rest
  rw [heq, readValue.eq_2, hread]
  rfl

/-! ## Items and members -/

/-- What stands for a member of an object. -/
inductive SpellsMember (style : Style) : List Char → Host × Host → Prop
  | mk (key : String) {cs : List Char} {host : Host} (h : Spells cs host) :
    SpellsMember style (textChars style.asciiOnly key ++ style.keySeparator ++ cs) (.text key, host)

/-- Elements are read one after the other up to the mark that closes them, each with a bound that is
no less than its length. -/
structure ReadsElements {α : Type} (read : Nat → List Char → Except Stop (List α × List Char))
    (mark : Char) (Element : List Char → α → Prop) : Prop where
  closes : mark = ']' ∨ mark = '\x7d'
  starts : ∀ {cs element}, Element cs element → Starts cs
  last : ∀ {cs element bound rest left}, Element cs element → cs.length ≤ bound → Delimits rest →
    skipBlanks rest = mark :: left → read (bound + 1) (cs ++ rest) = .ok ([element], left)
  more : ∀ {cs element bound rest elements left others}, Element cs element → cs.length ≤ bound →
    Delimits rest → skipBlanks rest = ',' :: others →
    read bound (skipBlanks others) = .ok (elements, left) →
    read (bound + 1) (cs ++ rest) = .ok (element :: elements, left)

theorem readsElements_items : ReadsElements readItems ']' Spells where
  closes := .inl rfl
  starts := Spells.starts
  last h hbound hrest hskip := by
    rw [readItems.eq_2, h.reads hbound hrest]
    simp only [bind, Except.bind, hskip]
  more h hbound hrest hskip hothers := by
    rw [readItems.eq_2, h.reads hbound hrest]
    simp only [bind, Except.bind, hskip, hothers]

/-- A member is read up to its end: the key in its quotes, the colon and the value. -/
theorem SpellsMember.reads (hstyle : style.Sound) {member : Host × Host}
    (h : SpellsMember style cs member) (hbound : cs.length ≤ bound) (hrest : Delimits rest) :
    ∃ key host others left inside, member = (.text key, host) ∧ cs ++ rest = '"' :: others ∧
      readText others = .ok (key, left) ∧ skipBlanks left = ':' :: inside ∧
      readValue bound (skipBlanks inside) = .ok (host, rest) := by
  cases h with
  | @mk key cs host h =>
    rw [List.length_append] at hbound
    obtain ⟨gap, hgap, hblank⟩ := hstyle.keySeparator
    obtain ⟨others, heq, hread⟩ :=
      readText_textChars style.asciiOnly key (style.keySeparator ++ (cs ++ rest))
    have hcolon : skipBlanks (style.keySeparator ++ (cs ++ rest)) =
        ':' :: (gap ++ (cs ++ rest)) := by
      rw [hgap, List.cons_append, skipBlanks_cons (by decide)]
    refine ⟨key, host, others, _, _, rfl, ?_, hread, hcolon, ?_⟩
    · rw [List.append_assoc, List.append_assoc, heq]
    · rw [hblank.skipBlanks_append, (h.starts.append rest).skipBlanks_eq]
      exact h.reads (by omega) hrest

theorem readsElements_members (hstyle : style.Sound) :
    ReadsElements readMembers '\x7d' (SpellsMember style) where
  closes := .inr rfl
  starts h := by
    cases h with
    | mk key h =>
      rw [List.append_assoc]
      exact (spells_text style.asciiOnly key).starts.append _
  last h hbound hrest hskip := by
    obtain ⟨key, host, others, left, inside, rfl, heq, hkey, hcolon, hhost⟩ :=
      h.reads hstyle hbound hrest
    rw [heq, readMembers.eq_2, hkey]
    simp only [bind, Except.bind, hcolon, hhost, hskip]
  more h hbound hrest hskip hothers := by
    obtain ⟨key, host, others, left, inside, rfl, heq, hkey, hcolon, hhost⟩ :=
      h.reads hstyle hbound hrest
    rw [heq, readMembers.eq_2, hkey]
    simp only [bind, Except.bind, hcolon, hhost, hskip, hothers]

namespace ReadsElements

variable {α : Type} {read : Nat → List Char → Except Stop (List α × List Char)} {mark : Char}
  {Element : List Char → α → Prop} {elements : List α} {part : List Char}

theorem delimits_append (h : ReadsElements read mark Element) (hclosing : AreBlank closing)
    (rest : List Char) : Delimits (closing ++ mark :: rest) := by
  refine hclosing.delimits_append ?_
  obtain rfl | rfl := h.closes <;> exact delimits_cons rest

theorem skipBlanks_append (h : ReadsElements read mark Element) (hclosing : AreBlank closing)
    (rest : List Char) : skipBlanks (closing ++ mark :: rest) = mark :: rest := by
  rw [hclosing.skipBlanks_append]
  obtain rfl | rfl := h.closes <;> exact skipBlanks_cons (by decide) rest

/-- Elements that are joined are read one by one: what is left gets shorter with each of them, and so
may the bound. -/
theorem read_joinChars (h : ReadsElements read mark Element) (hgap : AreBlank gap)
    (hclosing : AreBlank closing) (hparts : Forall₂ Element parts elements) (hne : parts ≠ [])
    (hbound : (Host.joinChars (',' :: gap) parts).length < bound) (rest : List Char) :
    read bound (Host.joinChars (',' :: gap) parts ++ (closing ++ mark :: rest)) =
      .ok (elements, rest) := by
  induction hparts generalizing bound with
  | nil => exact absurd rfl hne
  | @cons part _ parts _ hpart hrest ih =>
    obtain ⟨bound, rfl, hle⟩ := exists_bound (c := ',') hbound
    cases hrest with
    | nil =>
      exact h.last hpart hle (h.delimits_append hclosing rest) (h.skipBlanks_append hclosing rest)
    | @cons second _ parts _ hsecond hrest =>
      have hstarts := (h.starts hsecond).joinChars (',' :: gap) parts
      have hjoined : Host.joinChars (',' :: gap) (part :: second :: parts) =
          part ++ ',' :: gap ++ Host.joinChars (',' :: gap) (second :: parts) :=
        Host.joinChars.eq_3 _ _ _ (List.cons_ne_nil second parts)
      rw [hjoined, List.length_append, List.length_append, List.length_cons] at hle
      have hothers := ih (List.cons_ne_nil second parts) (by omega : _ < bound)
      rw [hjoined, List.append_assoc, List.append_assoc, List.cons_append]
      refine h.more hpart (by omega) (delimits_cons _) (skipBlanks_cons (by decide) _) ?_
      rw [hgap.skipBlanks_append, (hstarts.append _).skipBlanks_eq]
      exact hothers

/-- Between brackets, too, where blanks stand before the first element and behind the last. -/
theorem read_bracketed (h : ReadsElements read mark Element) (hstyle : style.Sound) (depth : Nat)
    (opening : Char) (hparts : Forall₂ Element (part :: parts) elements) :
    ∃ inside, style.bracketed depth opening mark (part :: parts) = opening :: inside ∧
      ∀ {bound} rest, inside.length ≤ bound → ∃ c others,
        skipBlanks (inside ++ rest) = c :: others ∧ c ≠ mark ∧
          read bound (c :: others) = .ok (elements, rest) := by
  obtain ⟨gap, hgap, hblank⟩ := hstyle.separator (depth + 1)
  refine ⟨style.lineBreak (depth + 1) ++ (Host.joinChars (',' :: gap) (part :: parts) ++
    (style.lineBreak depth ++ [mark])), ?_, fun {bound} rest hbound => ?_⟩
  · simp only [Style.bracketed, hgap, List.cons_append, List.append_assoc]
  · simp only [List.length_append, List.length_singleton] at hbound
    have hread := h.read_joinChars hblank (hstyle.lineBreak depth) hparts
      (List.cons_ne_nil part parts) (by omega : _ < bound) rest
    obtain ⟨c, others, hinside, hc, hmark⟩ : Starts (Host.joinChars (',' :: gap) (part :: parts) ++
        (style.lineBreak depth ++ mark :: rest)) := by
      cases hparts with | cons hpart _ => exact ((h.starts hpart).joinChars _ parts).append _
    refine ⟨c, others, ?_, ?_, hinside ▸ hread⟩
    · rw [List.append_assoc, List.append_assoc, List.append_assoc, List.singleton_append,
        (hstyle.lineBreak (depth + 1)).skipBlanks_append, hinside, skipBlanks_cons hc]
    · rintro rfl
      obtain rfl | rfl := h.closes <;> exact hmark (by decide)

end ReadsElements

theorem spells_list (hstyle : style.Sound) (depth : Nat) (h : Forall₂ Spells parts items) :
    Spells (style.bracketed depth '[' ']' parts) (.list items) := by
  cases parts with
  | nil =>
    cases h
    refine ⟨⟨'[', _, rfl, by decide⟩, fun hbound _ => ?_⟩
    obtain ⟨bound, rfl, -⟩ := exists_bound hbound
    exact readValue.eq_3 bound _
  | cons part parts =>
    obtain ⟨inside, heq, hread⟩ := readsElements_items.read_bracketed hstyle depth '[' h
    rw [heq]
    refine ⟨⟨'[', inside, rfl, by decide⟩, fun {_ rest} hbound _ => ?_⟩
    obtain ⟨bound, rfl, hle⟩ := exists_bound hbound
    obtain ⟨c, others, hskip, hc, hitems⟩ := hread rest hle
    rw [List.cons_append, readValue.eq_3, hskip]
    split
    · rename_i hclosing
      exact absurd (List.cons.inj hclosing).1 hc
    · rw [hitems]
      rfl

theorem spells_map (hstyle : style.Sound) (depth : Nat) (hkeys : fields.keys.Nodup)
    (h : Forall₂ (SpellsMember style) parts (Host.keyed fields)) :
    Spells (style.bracketed depth '\x7b' '\x7d' parts) (.map (Host.keyed fields)) := by
  have hentries : Host.entriesOfPairs (Host.keyed fields) = Host.keyed fields := by
    rw [Host.entriesOfPairs_keyed, Fields.ofPairs_eq hkeys]
  generalize Host.keyed fields = entries at h hentries
  cases parts with
  | nil =>
    cases h
    refine ⟨⟨'\x7b', _, rfl, by decide⟩, fun hbound _ => ?_⟩
    obtain ⟨bound, rfl, -⟩ := exists_bound hbound
    exact readValue.eq_4 bound _
  | cons part parts =>
    obtain ⟨inside, heq, hread⟩ :=
      (readsElements_members hstyle).read_bracketed hstyle depth '\x7b' h
    rw [heq]
    refine ⟨⟨'\x7b', inside, rfl, by decide⟩, fun {_ rest} hbound _ => ?_⟩
    obtain ⟨bound, rfl, hle⟩ := exists_bound hbound
    obtain ⟨c, others, hskip, hc, hmembers⟩ := hread rest hle
    rw [List.cons_append, readValue.eq_4, hskip]
    split
    · rename_i hclosing
      exact absurd (List.cons.inj hclosing).1 hc
    · rw [hmembers]
      show Except.ok (Host.map (Host.entriesOfPairs entries), rest) = _
      rw [hentries]

/-! ## Documents -/

theorem writeItems_spells {depth : Nat}
    (h : ∀ item ∈ items, ∃ cs, style.write depth item = .ok cs ∧ Spells cs item) :
    ∃ parts, style.writeItems depth items = .ok parts ∧ Forall₂ Spells parts items := by
  induction items with
  | nil => exact ⟨[], rfl, .nil⟩
  | cons item rest ih =>
    obtain ⟨⟨part, hwrite, hpart⟩, hrest⟩ := List.forall_mem_cons.mp h
    obtain ⟨parts, hparts, hspells⟩ := ih hrest
    refine ⟨part :: parts, ?_, .cons hpart hspells⟩
    rw [Style.writeItems, hwrite, hparts]
    rfl

theorem writeEntries_spells {depth : Nat}
    (h : ∀ field ∈ fields, ∃ cs, style.write depth field.2 = .ok cs ∧ Spells cs field.2) :
    ∃ parts, style.writeEntries depth (Host.keyed fields) = .ok parts ∧
      Forall₂ (SpellsMember style) parts (Host.keyed fields) := by
  induction fields with
  | nil => exact ⟨[], rfl, .nil⟩
  | cons field rest ih =>
    obtain ⟨⟨part, hwrite, hpart⟩, hrest⟩ := List.forall_mem_cons.mp h
    obtain ⟨parts, hparts, hspells⟩ := ih hrest
    refine ⟨(textChars style.asciiOnly field.1 ++ style.keySeparator ++ part) :: parts, ?_,
      .cons (.mk field.1 hpart) hspells⟩
    rw [Host.keyed, List.map_cons, Style.writeEntries, Style.key, hwrite]
    show (style.writeEntries depth (Host.keyed rest) >>= _) = _
    rw [hparts]
    rfl

theorem write_spells (hstyle : style.Sound) (h : host.Writable) (depth : Nat) :
    ∃ cs, style.write depth host = .ok cs ∧ Spells cs host := by
  induction h generalizing depth with
  | null => exact ⟨_, rfl, spells_null⟩
  | bool b => exact ⟨_, rfl, spells_bool b⟩
  | int hshort =>
    refine ⟨_, ?_, spells_int hshort⟩
    rw [Style.write, numberChars, Number.textWith?, Eval.integerText?_of_short hshort]
    exact congrArg Except.ok String.toList_ofList
  | text s => exact ⟨_, rfl, spells_text style.asciiOnly s⟩
  | list _ ih =>
    obtain ⟨parts, hwrite, hparts⟩ := writeItems_spells fun item hitem => ih item hitem (depth + 1)
    refine ⟨_, ?_, spells_list hstyle depth hparts⟩
    rw [Style.write, hwrite]
    rfl
  | map hkeys _ ih =>
    obtain ⟨parts, hwrite, hparts⟩ :=
      writeEntries_spells fun field hfield => ih field hfield (depth + 1)
    refine ⟨_, ?_, spells_map hstyle depth hkeys hparts⟩
    rw [Style.write, hwrite]
    rfl

/-- A value that can be written has a document, from which it is read as it was. -/
theorem read_document (hstyle : style.Sound) (h : host.Writable) :
    ∃ document, style.document host = .ok document ∧ read document = .ok host := by
  obtain ⟨cs, hwrite, hspells⟩ := write_spells hstyle h 0
  refine ⟨String.ofList cs, by rw [Style.document, hwrite]; rfl, ?_⟩
  have hvalue := @Spells.reads _ _ hspells (2 * cs.length + 1) [] (by omega) delimits_nil
  rw [List.append_nil] at hvalue
  have hdocument : readDocument cs = .ok host := by
    rw [readDocument.eq_2, hspells.starts.skipBlanks_eq, hvalue]
    · rfl
    · rintro rest rfl
      obtain ⟨c, others, heq, -, hc⟩ := hspells.starts
      obtain ⟨rfl, -⟩ := List.cons.inj heq
      exact hc (by decide)
  simp only [read, String.toList_ofList, hdocument]

/-- So different values have different documents. -/
theorem document_inj (hstyle : style.Sound) (h : host.Writable) (h' : host'.Writable) :
    style.document host = style.document host' ↔ host = host' := by
  refine ⟨fun heq => ?_, congrArg _⟩
  obtain ⟨document, hwrite, hread⟩ := read_document hstyle h
  obtain ⟨document', hwrite', hread'⟩ := read_document hstyle h'
  obtain rfl : document = document' := Except.ok.inj (hwrite.symm.trans (heq.trans hwrite'))
  exact Except.ok.inj (hread.symm.trans hread')

end Json

end TextTemplate
