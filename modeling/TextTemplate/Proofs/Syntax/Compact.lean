import TextTemplate.Eval.Evaluate
import TextTemplate.Proofs.Eval.Arguments
import TextTemplate.Proofs.Source.Deletion
import TextTemplate.Proofs.Syntax.Printer

/-!
# Host data as literals

Plain data of the host can be written as a literal, without white space between its tokens. The
tree of the literal evaluates to the counterpart of the data, in every context and state.
-/

namespace TextTemplate

/-- The delimiters of tags and comments. -/
def Source.delimiters : List (List Char) :=
  [['{', '{'], ['}', '}'], ['{', '%'], ['%', '}'], ['{', '#'], ['#', '}']]

/-- Text that stands between quotes as it is: it has no quote, no backslash and no delimiter. -/
structure Text.IsBare (cs : List Char) : Prop where
  plain : ∀ c ∈ cs, c ≠ '\'' ∧ c ≠ '"' ∧ c ≠ '\\'
  undelimited : ∀ part ∈ Source.delimiters, contains part cs = false

instance (cs : List Char) : Decidable (Text.IsBare cs) :=
  -- The instances for lists are named: those for all characters would go through each of them.
  @decidable_of_iff _ _ ⟨fun h => ⟨h.1, h.2⟩, fun h => ⟨h.1, h.2⟩⟩
    (@instDecidableAnd _ _ (List.decidableBAll _ cs) (List.decidableBAll _ Source.delimiters))

namespace Host

/-- Data that can be written as a literal. -/
inductive HasLiteral : Host → Prop
  | null : HasLiteral .null
  | bool (b : Bool) : HasLiteral (.bool b)
  | number {i : Int} (h : (decimalDigits i.natAbs).length ≤ digitLimit) :
    HasLiteral (.number (.int i))
  | text {s : String} (h : Text.IsBare s.toList) : HasLiteral (.text s)
  | list {items : List Host} (h : ∀ item ∈ items, HasLiteral item) : HasLiteral (.list items)
  | map {fields : Fields Host} (hkeys : ∀ field ∈ fields, Text.IsBare field.1.toList)
    (h : ∀ field ∈ fields, HasLiteral field.2) : HasLiteral (ofFields fields)

mutual

/-- The literal of a value, with nothing between its parts but commas and colons. -/
def literalChars : Host → List Char
  | .null => "none".toList
  | .bool b => (if b then "true" else "false").toList
  | .number (.int i) => integerChars i
  | .text s => '\'' :: s.toList ++ ['\'']
  | .list items => '[' :: joinChars [','] (literalItems items) ++ [']']
  | .map entries => '{' :: joinChars [','] (literalEntries entries) ++ ['}']
  | _ => []

def literalItems : List Host → List (List Char)
  | [] => []
  | item :: rest => literalChars item :: literalItems rest

def literalEntries : List (Host × Host) → List (List Char)
  | [] => []
  | (key, value) :: rest => (literalChars key ++ ':' :: literalChars value) :: literalEntries rest

end

end Host

namespace Node

mutual

/-- The tree of the literal of a value. -/
def ofHost : Host → Node
  | .null => .null
  | .bool b => .bool b
  | .number n => .number n
  | .text s => .text s
  | .list items => .array (ofHosts items)
  | .map entries => .object (ofEntries entries)
  | _ => .null

def ofHosts : List Host → List Node
  | [] => []
  | item :: rest => ofHost item :: ofHosts rest

def ofEntries : List (Host × Host) → List (Node × Node)
  | [] => []
  | (key, value) :: rest => (ofHost key, ofHost value) :: ofEntries rest

end

/-- The tree of an entry of a map with text keys. -/
def ofField (field : String × Host) : Node × Node := (.text field.1, ofHost field.2)

theorem ofHosts_eq (items : List Host) : ofHosts items = items.map ofHost := by
  induction items with
  | nil => rfl
  | cons item items ih => rw [ofHosts, ih, List.map_cons]

theorem ofHost_ofFields (fields : Fields Host) :
    ofHost (.ofFields fields) = .object (fields.map ofField) := by
  rw [Host.ofFields, ofHost]
  congr 1
  induction fields with
  | nil => rfl
  | cons field fields ih => rw [List.map_cons, ofEntries, ih]; rfl

end Node

/-! ## The value of a literal -/

namespace Eval

theorem evaluateAll_ofHosts {items : List Host}
    (h : ∀ item ∈ items, evaluate (Node.ofHost item) = fromHost item) :
    evaluateAll (Node.ofHosts items) = convertAll false items := by
  induction items with
  | nil => rfl
  | cons item items ih =>
    rw [Node.ofHosts, evaluateAll, convertAll, h item List.mem_cons_self,
      ih fun other hother => h other (List.mem_cons_of_mem _ hother)]
    rfl

theorem evaluatePairs_ofField {fields : Fields Host}
    (h : ∀ field ∈ fields, evaluate (Node.ofHost field.2) = fromHost field.2) :
    evaluatePairs (fields.map Node.ofField) = (do
      let values ← convertEntries false (fields.map fun (key, value) => (.text key, value))
      pure (labelled values)) := by
  induction fields with
  | nil => rfl
  | cons field fields ih =>
    obtain ⟨hfield, hfields⟩ := List.forall_mem_cons.mp h
    have hpairs := ih hfields
    rw [List.map_cons, Node.ofField, evaluatePairs, evaluate]
    show (do
      let value ← evaluate (Node.ofHost field.2)
      let pairs ← evaluatePairs (fields.map Node.ofField)
      pure ((Label.text field.1, value) :: pairs)) = _
    simp only [hfield, hpairs, List.map_cons, convertEntries, bind_assoc]
    rfl

/-- A literal evaluates to the counterpart of its data, and allocates the same objects. -/
theorem evaluate_ofHost {host : Host} (h : host.HasLiteral) :
    evaluate (Node.ofHost host) = fromHost host := by
  induction h with
  | null => rfl
  | bool => rfl
  | number => rfl
  | text => rfl
  | @list items _ ih =>
    rw [Node.ofHost, evaluate, evaluateAll_ofHosts ih]
    rfl
  | @map fields _ _ ih =>
    rw [Node.ofHost_ofFields, evaluate, evaluatePairs_ofField ih, bind_assoc]
    show (do
      let values ← convertEntries false _
      newLabelled .plain (labelled values)) = _
    simp only [newLabelled_labelled]
    rfl

end Eval

end TextTemplate
