import TextTemplate.Host.Key
import TextTemplate.Json.Writer
import TextTemplate.Proofs.Matching.Value
import TextTemplate.Proofs.Value.Resemblance

/-!
# What can be seen of values that are alike

Equality, the counterparts in the host, and everything that is written: none of it tells values
apart that are alike.
-/

namespace TextTemplate

open List (Forall₂)

variable {w : Matching}

theorem Value.Alike.resembles {value value' : Value} (h : Value.Alike w value value') :
    value.Resembles value' := by
  cases h with
  | number h => cases h <;> exact .number fun i => by simp
  | bool b => exact .bool b b
  | text s => exact .text s
  | null => exact .null
  | undefined => exact .undefined
  | array h => exact .array _ _
  | object kind h => exact .object kind _ _
  | function hmark h => exact .function _ _ _ _

theorem forall₂_resembles {args args' : List Value} (h : Forall₂ (Value.Alike w) args args') :
    Forall₂ Value.Resembles args args' :=
  h.imp fun _ _ hvalue => hvalue.resembles

theorem Value.Alike.kindName {value value' : Value} (h : Value.Alike w value value') :
    value.kindName = value'.kindName :=
  h.resembles.kindName

theorem kindNames_eq {args args' : List Value} (h : Forall₂ (Value.Alike w) args args') :
    args.map Value.kindName = args'.map Value.kindName :=
  kindNames_congr (forall₂_resembles h)

/-! ## Snapshots -/

namespace Snapshot

mutual

theorem equal_eq : ∀ a b : Snapshot, Alike w a b → ∀ a' b' : Snapshot, Alike w a' b' →
    a.equal a' = b.equal b'
  | .number _, _, h, _, _, h' => by
    cases h with
    | number h =>
      cases h' with
      | number h' => simp only [equal, h.sameNumber h']
      | _ => simp only [equal]
  | .bool _, _, h, _, _, h' => by cases h; cases h' <;> simp only [equal]
  | .text _, _, h, _, _, h' => by cases h; cases h' <;> simp only [equal]
  | .null, _, h, _, _, h' => by cases h; cases h' <;> simp only [equal]
  | .undefined, _, h, _, _, h' => by cases h; cases h' <;> simp only [equal]
  | .array items, _, h, _, _, h' => by
    cases h with
    | array h =>
      cases h' with
      | array h' => simp only [equal, equalItems_eq items _ h _ _ h']
      | _ => simp only [equal]
  | .object _ fields, _, h, _, _, h' => by
    cases h with
    | object kind h =>
      cases h' with
      | object kind' h' =>
        simp only [equal, equalFields_eq fields _ h _ _ h', h.length_eq, h'.length_eq]
      | _ => simp only [equal]
  | .function _ _, _, h, _, _, h' => by
    cases h with
    | function hmark h =>
      cases h' with
      | function hmark' h' =>
        exact Bool.eq_iff_iff.mpr (by simpa [equal] using w.marks_iff hmark hmark')
      | _ => simp only [equal]

theorem equalItems_eq : ∀ as bs : List Snapshot, Forall₂ (Alike w) as bs →
    ∀ as' bs' : List Snapshot, Forall₂ (Alike w) as' bs' → equalItems as as' = equalItems bs bs'
  | [], _, h, _, _, h' => by cases h; cases h' <;> simp only [equalItems]
  | a :: as, _, h, _, _, h' => by
    cases h with
    | cons hitem hrest =>
      cases h' with
      | nil => simp only [equalItems]
      | cons hitem' hrest' =>
        simp only [equalItems, equal_eq a _ hitem _ _ hitem', equalItems_eq as _ hrest _ _ hrest']

theorem equalFields_eq : ∀ as bs : List (String × Snapshot), Forall₂ (Keyed (Alike w)) as bs →
    ∀ as' bs' : List (String × Snapshot), Forall₂ (Keyed (Alike w)) as' bs' →
      equalFields as as' = equalFields bs bs'
  | [], _, h, _, _, _ => by cases h; simp only [equalFields]
  | (key, a) :: as, _, h, as', bs', h' => by
    cases h with
    | cons hpair hrest =>
      cases hpair with
      | mk _ hvalue =>
        have hfound : Option.Rel (Alike w) (as'.lookup key) (bs'.lookup key) :=
          Fields.get?_rel h' key
        simp only [equalFields, equalFields_eq as _ hrest _ _ h']
        generalize as'.lookup key = found at hfound
        generalize bs'.lookup key = found' at hfound
        cases hfound with
        | none => rfl
        | some hfound => simp only [equal_eq a _ hvalue _ _ hfound]

end

mutual

theorem toHost_alike : ∀ a b : Snapshot, Alike w a b → Host.Alike w a.toHost b.toHost
  | .number _, _, h => by
    cases h with
    | number h => exact .number h
  | .bool _, _, h => by cases h; exact .bool _
  | .text _, _, h => by cases h; exact .text _
  | .null, _, h => by cases h; exact .null
  | .undefined, _, h => by cases h; exact .null
  | .array items, _, h => by
    cases h with
    | array h => exact .list (toHosts_alike items _ h)
  | .object _ fields, _, h => by
    cases h with
    | object _ h => exact .map (toEntries_alike fields _ h)
  | .function _ _, _, h => by
    cases h with
    | function _ h => exact .function (.template h)

theorem toHosts_alike : ∀ as bs : List Snapshot, Forall₂ (Alike w) as bs →
    Forall₂ (Host.Alike w) (toHosts as) (toHosts bs)
  | [], _, h => by cases h; exact .nil
  | a :: as, _, h => by
    cases h with
    | cons hitem hrest => exact .cons (toHost_alike a _ hitem) (toHosts_alike as _ hrest)

theorem toEntries_alike : ∀ as bs : List (String × Snapshot), Forall₂ (Keyed (Alike w)) as bs →
    Forall₂ (Paired (Host.Alike w) (Host.Alike w)) (toEntries as) (toEntries bs)
  | [], _, h => by cases h; exact .nil
  | (key, a) :: as, _, h => by
    cases h with
    | cons hpair hrest =>
      cases hpair with
      | mk _ hvalue =>
        exact .cons (.mk (.text key) (toHost_alike a _ hvalue)) (toEntries_alike as _ hrest)

end

end Snapshot

/-! ## Host values -/

namespace Host

theorem Alike.typeName {a b : Host} (h : Alike w a b) : a.typeName = b.typeName := by
  cases h with
  | number h => cases h <;> rfl
  | ready h _ => exact h.kindName
  | _ => rfl

mutual

theorem writtenChars?_eq : ∀ a b : Host, Alike w a b → a.writtenChars? = b.writtenChars?
  | .null, _, h => by cases h; rfl
  | .bool _, _, h => by cases h; rfl
  | .number _, _, h => by
    cases h with
    | number h => simp only [writtenChars?, Number.text?, h.textWith?]
  | .text _, _, h => by cases h; rfl
  | .list items, _, h => by
    cases h with
    | list h => simp only [writtenChars?, writtenItems?_eq items _ h]
  | .tuple items, _, h => by
    cases h with
    | tuple h => simp only [writtenChars?, writtenItems?_eq items _ h]
  | .map entries, _, h => by
    cases h with
    | map h => simp only [writtenChars?, writtenEntries?_eq entries _ h]
  | .record _ fields, _, h => by
    cases h with
    | record _ h => simp only [writtenChars?, writtenFields?_eq fields _ h]
  | .model _, _, h => by cases h; rfl
  | .function _, _, h => by cases h; rfl
  | .foreign _, _, h => by cases h; rfl
  | .ready _ form, _, h => by
    cases h with
    | ready _ hform => simp only [writtenChars?, writtenChars?_eq form _ hform]

theorem writtenItems?_eq : ∀ as bs : List Host, Forall₂ (Alike w) as bs →
    writtenItems? as = writtenItems? bs
  | [], _, h => by cases h; rfl
  | a :: as, _, h => by
    cases h with
    | cons hitem hrest =>
      simp only [writtenItems?, writtenChars?_eq a _ hitem, writtenItems?_eq as _ hrest]

theorem writtenEntries?_eq : ∀ as bs : List (Host × Host),
    Forall₂ (Paired (Alike w) (Alike w)) as bs → writtenEntries? as = writtenEntries? bs
  | [], _, h => by cases h; rfl
  | (key, value) :: as, _, h => by
    cases h with
    | cons hpair hrest =>
      cases hpair with
      | mk hkey hvalue =>
        simp only [writtenEntries?, writtenChars?_eq key _ hkey, writtenChars?_eq value _ hvalue,
          writtenEntries?_eq as _ hrest]

theorem writtenFields?_eq : ∀ as bs : List (String × Host), Forall₂ (Keyed (Alike w)) as bs →
    writtenFields? as = writtenFields? bs
  | [], _, h => by cases h; rfl
  | (name, value) :: as, _, h => by
    cases h with
    | cons hpair hrest =>
      cases hpair with
      | mk _ hvalue =>
        simp only [writtenFields?, writtenChars?_eq value _ hvalue, writtenFields?_eq as _ hrest]

end

mutual

theorem staysKey_eq : ∀ a b : Host, Alike w a b → a.staysKey = b.staysKey
  | .tuple items, _, h => by
    cases h with
    | tuple h => simp only [staysKey, stayKeys_eq items _ h]
  | .ready _ form, _, h => by
    cases h with
    | ready _ hform => simp only [staysKey, staysKey_eq form _ hform]
  | .null, _, h | .bool _, _, h | .number _, _, h | .text _, _, h | .list _, _, h | .map _, _, h
  | .record _ _, _, h | .model _, _, h | .function _, _, h | .foreign _, _, h => by cases h; rfl

theorem stayKeys_eq : ∀ as bs : List Host, Forall₂ (Alike w) as bs → stayKeys as = stayKeys bs
  | [], _, h => by cases h; rfl
  | a :: as, _, h => by
    cases h with
    | cons hitem hrest => simp only [stayKeys, staysKey_eq a _ hitem, stayKeys_eq as _ hrest]

end

mutual

theorem unfolds_eq : ∀ a b : Host, Alike w a b → a.unfolds = b.unfolds
  | .list items, _, h => by
    cases h with
    | list h => simp only [unfolds, allUnfold_eq items _ h]
  | .tuple items, _, h => by
    cases h with
    | tuple h => simp only [unfolds, allUnfold_eq items _ h]
  | .map entries, _, h => by
    cases h with
    | map h => simp only [unfolds, entriesUnfold_eq entries _ h]
  | .record _ fields, _, h => by
    cases h with
    | record _ h => simp only [unfolds, fieldsUnfold_eq fields _ h]
  | .ready _ form, _, h => by
    cases h with
    | ready _ hform => simp only [unfolds, unfolds_eq form _ hform]
  | .null, _, h | .bool _, _, h | .number _, _, h | .text _, _, h | .model _, _, h
  | .function _, _, h | .foreign _, _, h => by cases h; rfl

theorem allUnfold_eq : ∀ as bs : List Host, Forall₂ (Alike w) as bs → allUnfold as = allUnfold bs
  | [], _, h => by cases h; rfl
  | a :: as, _, h => by
    cases h with
    | cons hitem hrest => simp only [allUnfold, unfolds_eq a _ hitem, allUnfold_eq as _ hrest]

theorem entriesUnfold_eq : ∀ as bs : List (Host × Host),
    Forall₂ (Paired (Alike w) (Alike w)) as bs → entriesUnfold as = entriesUnfold bs
  | [], _, h => by cases h; rfl
  | (key, value) :: as, _, h => by
    cases h with
    | cons hpair hrest =>
      cases hpair with
      | mk hkey hvalue =>
        simp only [entriesUnfold, staysKey_eq key _ hkey, unfolds_eq value _ hvalue,
          entriesUnfold_eq as _ hrest]

theorem fieldsUnfold_eq : ∀ as bs : List (String × Host), Forall₂ (Keyed (Alike w)) as bs →
    fieldsUnfold as = fieldsUnfold bs
  | [], _, h => by cases h; rfl
  | (name, value) :: as, _, h => by
    cases h with
    | cons hpair hrest =>
      cases hpair with
      | mk _ hvalue =>
        simp only [fieldsUnfold, unfolds_eq value _ hvalue, fieldsUnfold_eq as _ hrest]

end

namespace Alike

theorem written? {a b : Host} (h : Alike w a b) : a.written? = b.written? := by
  simp only [Host.written?, writtenChars?_eq a b h]

theorem display? {a b : Host} (h : Alike w a b) : a.display? = b.display? := by
  have hwritten := h.written?
  cases h <;> first | rfl | exact hwritten

end Alike

end Host

/-! ## Documents -/

namespace Json.Style

open Host (Alike)

variable (style : Style)

theorem unknown_eq {a b : Host} (h : Alike w a b) : style.unknown a = style.unknown b := by
  simp only [unknown, h.display?, h.typeName]

theorem key_eq {a b : Host} (h : Alike w a b) : style.key a = style.key b := by
  have htype := h.typeName
  cases h with
  | number h => simp only [key, numberChars, h.textWith?]
  | ready h _ => simp only [key, htype]
  | _ => rfl

mutual

theorem write_eq (depth : Nat) : ∀ a b : Host, Alike w a b →
    style.write depth a = style.write depth b
  | .null, _, h => by cases h; rfl
  | .bool _, _, h => by cases h; rfl
  | .number _, _, h => by
    cases h with
    | number h => simp only [write, numberChars, h.textWith?]
  | .text _, _, h => by cases h; rfl
  | .list items, _, h => by
    cases h with
    | list h => simp only [write, writeItems_eq (depth + 1) items _ h]
  | .tuple items, _, h => by
    cases h with
    | tuple h => simp only [write, writeItems_eq (depth + 1) items _ h]
  | .map entries, _, h => by
    cases h with
    | map h => simp only [write, writeEntries_eq (depth + 1) entries _ h]
  | .record _ _, _, h => by
    have hunknown := style.unknown_eq h
    cases h
    simpa only [write] using hunknown
  | .model _, _, h => by
    have hunknown := style.unknown_eq h
    cases h
    simpa only [write] using hunknown
  | .function _, _, h => by
    have hunknown := style.unknown_eq h
    cases h
    simpa only [write] using hunknown
  | .foreign _, _, h => by cases h; rfl
  | .ready _ _, _, h => by
    have hunknown := style.unknown_eq h
    cases h
    simpa only [write] using hunknown

theorem writeItems_eq (depth : Nat) : ∀ as bs : List Host, Forall₂ (Alike w) as bs →
    style.writeItems depth as = style.writeItems depth bs
  | [], _, h => by cases h; rfl
  | a :: as, _, h => by
    cases h with
    | cons hitem hrest =>
      simp only [writeItems, write_eq depth a _ hitem, writeItems_eq depth as _ hrest]

theorem writeEntries_eq (depth : Nat) : ∀ as bs : List (Host × Host),
    Forall₂ (Paired (Alike w) (Alike w)) as bs →
      style.writeEntries depth as = style.writeEntries depth bs
  | [], _, h => by cases h; rfl
  | (_, value) :: as, _, h => by
    cases h with
    | cons hpair hrest =>
      cases hpair with
      | mk hkey hvalue =>
        simp only [writeEntries, style.key_eq hkey, write_eq depth value _ hvalue,
          writeEntries_eq depth as _ hrest]

end

theorem document_eq {a b : Host} (h : Alike w a b) : style.document a = style.document b := by
  simp only [document, style.write_eq 0 a b h]

end Json.Style

end TextTemplate
