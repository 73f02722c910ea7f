import TextTemplate.Proofs.Eval.Objects
import TextTemplate.Proofs.Json.RoundTrip
import TextTemplate.Proofs.Value.Equality

/-!
# Values written as documents

The filter `tojson` writes every value that JSON has a notation for, in whatever layout it is asked
for, and what is read from the document is what the host is given for the value.
-/

namespace TextTemplate

/-! ## Values that can be written -/

namespace Memory

variable {m : Memory} {v : Value}

/-- A value that is built from what is absent, truth values, whole numbers that are not too long to
write and texts by arrays and objects, to any depth. No object has a key twice. -/
inductive Writable (m : Memory) : Value → Prop
  | null : Writable m .null
  | undefined : Writable m .undefined
  | bool (b : Bool) : Writable m (.bool b)
  | int {i : Int} (hshort : (decimalDigits i.natAbs).length ≤ digitLimit) :
    Writable m (.number (.int i))
  | text (s : String) : Writable m (.text s)
  | array {items : List Value} (h : ∀ item ∈ items, Writable m item) : Writable m (.array items)
  | object (kind : ObjectKind) {a : Address} (hkeys : (m.fields a).keys.Nodup)
    (h : ∀ field ∈ m.fields a, Writable m field.2) : Writable m (.object kind a)

theorem Writable.isData (h : m.Writable v) : m.IsData v := by
  induction h with
  | null => exact .null
  | undefined => exact .undefined
  | bool b => exact .bool b
  | int _ => exact .int _
  | text s => exact .text s
  | array _ ih => exact .array ih
  | object kind hkeys _ ih => exact .object kind hkeys ih

theorem Writable.toHost (h : m.Writable v) : (m.snapshot v).toHost.Writable := by
  induction h with
  | null => exact .null
  | undefined => exact .null
  | bool b => exact .bool b
  | int hshort => exact .int hshort
  | text s => exact .text s
  | array _ ih =>
    rw [snapshot_array, Snapshot.toHost, Snapshot.toHosts_eq]
    refine .list fun host hhost => ?_
    simp only [List.map_map, List.mem_map, Function.comp_apply] at hhost
    obtain ⟨item, hitem, rfl⟩ := hhost
    exact ih item hitem
  | @object kind a hkeys h ih =>
    have hends := (Writable.object kind hkeys h).isData.ends
    rw [snapshot_object hends, Snapshot.toHost, Snapshot.toEntries_eq]
    refine .map ?_ fun field hfield => ?_
    · rw [Fields.keys, List.map_map, List.map_map]
      exact hkeys
    · simp only [List.map_map, List.mem_map, Function.comp_apply] at hfield
      obtain ⟨field, hfield, rfl⟩ := hfield
      exact ih field hfield

end Memory

namespace Eval

variable {context : Context} {s t u w : State} {o : Node} {v value : Value} {indent : Option Int}
  {document : String}

/-! ## Indentations -/

/-- What asks for an indentation: nothing for none, a number for as many spaces. -/
inductive IndentBy : Value → Option Int → Prop
  | null : IndentBy .null none
  | undefined : IndentBy .undefined none
  | spaces {i : Int} (h : i.natAbs < sizeLimit) : IndentBy (.number (.int i)) (some i)

/-- The layout with an indentation. No spaces are as many as a negative number of them. -/
def layout (indent : Option Int) : Json.Style :=
  Json.readable (indent.map fun i => List.replicate i.toNat ' ')

theorem layout_sound (indent : Option Int) : (layout indent).Sound := by
  refine Json.readable_sound fun spaces hspaces => ?_
  obtain ⟨i, -, rfl⟩ := Option.mem_map.mp hspaces
  intro c hc
  obtain rfl := List.eq_of_mem_replicate hc
  rfl

theorem IndentBy.isBundle (h : IndentBy value indent) : value.isBundle = false := by
  cases h <;> rfl

theorem IndentBy.indentOf_eq (h : IndentBy value indent) (operand : Value) :
    indentOf operand value = pure (indent.map fun i => List.replicate i.toNat ' ') := by
  cases h with
  | null => rfl
  | undefined => rfl
  | @spaces i h =>
    rw [indentOf, indentOf.spaces, if_neg]
    · rfl
    · simp only [Bool.or_eq_true, decide_eq_true_eq]
      omega

/-- A text is written alike with and without an indentation, and everything else with the one that
is asked for. -/
theorem run_toJson (hindent : IndentBy value indent) (hends : s.memory.ends v)
    (hdocument : (layout indent).document (s.memory.snapshot v).toHost = .ok document)
    (context : Context) : toJson v value context s = (.ok (.text document), s) := by
  refine (run_bind (run_toHost hends context) _).trans ?_
  generalize (s.memory.snapshot v).toHost = host at hdocument
  split
  · rename_i text
    have halike : (Json.readable none).document (.text text) = .ok document := hdocument
    refine (run_bind (a := none) (t := s) rfl _).trans ?_
    simp only [halike]
    rfl
  · rw [hindent.indentOf_eq]
    refine (run_bind (a := indent.map fun i => List.replicate i.toNat ' ') (t := s) rfl _).trans ?_
    rw [layout] at hdocument
    simp only [hdocument]
    rfl

/-! ## Applications -/

/-- A built-in filter with arguments. -/
theorem evaluate_builtinFilter {name : String} (hnone : context.filters.get? name = none)
    (ho : evaluate o context s = (.ok v, t)) {written : List Node} {positional args : List Value}
    {keywords : List (Label × Value)} {arguments : Arguments}
    (hwritten : evaluateArguments written context t = (.ok (positional, keywords), u))
    (hpassed : bundled positional keywords context u = (.ok args, w))
    (hsplit : splitArguments args context w = (.ok arguments, w)) :
    evaluate (.filter o (.call (.name name) written)) context s =
      applyBuiltinFilter name v arguments.positional arguments.keywords context w := by
  rw [evaluate, run_bind ho, run_bind hwritten]
  refine (run_bind hpassed _).trans ?_
  rw [applyFilter]
  refine (run_bind hsplit _).trans ?_
  refine (run_bind (a := context) (t := w) rfl _).trans ?_
  rw [hnone]

/-- Without parentheses a filter is applied as with empty ones. -/
theorem evaluate_filter_bare (o : Node) (name : String) :
    evaluate (.filter o (.name name)) = evaluate (.filter o (.call (.name name) [])) := by
  rw [evaluate, evaluate]
  rfl

/-- A tree that applies `tojson` to a value, with an indentation that is left out, stands first or
goes by its name, and the state that the filter is applied in. -/
inductive AppliesToJson (context : Context) (s : State) : Node → Value → Option Int → State → Prop
  | bare {t : State} {o : Node} {v : Value} (ho : evaluate o context s = (.ok v, t)) :
    AppliesToJson context s (.filter o (.name "tojson")) v none t
  | empty {t : State} {o : Node} {v : Value} (ho : evaluate o context s = (.ok v, t)) :
    AppliesToJson context s (.filter o (.call (.name "tojson") [])) v none t
  | positional {t u : State} {o p : Node} {v value : Value} {indent : Option Int}
    (ho : evaluate o context s = (.ok v, t)) (hp : evaluate p context t = (.ok value, u))
    (hindent : IndentBy value indent) :
    AppliesToJson context s (.filter o (.call (.name "tojson") [p])) v indent u
  | named {t u : State} {o p : Node} {v value : Value} {indent : Option Int}
    (ho : evaluate o context s = (.ok v, t)) (hp : evaluate p context t = (.ok value, u))
    (hindent : IndentBy value indent) :
    AppliesToJson context s (.filter o (.call (.name "tojson") [.keyword (.name "indent") p])) v
      indent { u with memory := (u.memory.allocate [("indent", value)]).2 }

theorem AppliesToJson.evaluate_eq {node : Node} (hnone : context.filters.get? "tojson" = none)
    (h : AppliesToJson context s node v indent w) :
    ∃ value, IndentBy value indent ∧ evaluate node context s = toJson v value context w := by
  have hempty {o : Node} (ho : evaluate o context s = (.ok v, w)) :
      evaluate (.filter o (.call (.name "tojson") [])) context s = toJson v .null context w := by
    have hwritten : evaluateArguments [] context w = (.ok ([], []), w) := rfl
    have hsplit : splitArguments [] context w = (.ok ⟨[], [], []⟩, w) := rfl
    exact evaluate_builtinFilter hnone ho hwritten rfl hsplit
  cases h with
  | bare ho => exact ⟨.null, .null, by rw [evaluate_filter_bare, hempty ho]⟩
  | empty ho => exact ⟨.null, .null, hempty ho⟩
  | @positional _ _ _ _ _ value _ ho hp hindent =>
    have hsplit : splitArguments [value] context w = (.ok ⟨[value], [], []⟩, w) := by
      rw [splitArguments_of_unbundled]
      · rfl
      · rintro _ ⟨⟩
        exact hindent.isBundle
    exact ⟨value, hindent,
      evaluate_builtinFilter hnone ho (evaluateArguments_singleton hp) rfl hsplit⟩
  | @named t u _ p _ value _ ho hp hindent =>
    -- The bundle that is made for the call is taken apart again when the filter is applied.
    have hwritten : evaluateArguments [.keyword (.name "indent") p] context t =
        (.ok ([], labelled [("indent", value)]), u) :=
      (KeywordsTo.cons hp (.nil u)).evaluateArguments_eq
    have hsplit := run_splitArguments_object [] u.memory.objects.size context
      { u with memory := (u.memory.allocate [("indent", value)]).2 }
    have hfields := Memory.fields_allocate u.memory [("indent", value)] u.memory.objects.size
    rw [if_pos rfl] at hfields
    simp only [hfields] at hsplit
    have hpassed : bundled [] (labelled [("indent", value)]) context u =
        (.ok [.object .keywords u.memory.objects.size],
          { u with memory := (u.memory.allocate [("indent", value)]).2 }) := rfl
    exact ⟨value, hindent, evaluate_builtinFilter hnone ho hwritten hpassed hsplit⟩

/-! ## Documents -/

/-- A tree that applies `tojson` to a value that can be written. The host gives no filter of this
name. -/
structure WritesJson (context : Context) (s : State) (node : Node) (v : Value)
    (indent : Option Int) (w : State) : Prop where
  builtin : context.filters.get? "tojson" = none
  applies : AppliesToJson context s node v indent w
  writable : w.memory.Writable v

theorem WritesJson.toHost_eq {node : Node} (h : WritesJson context s node v indent w) :
    toHost v context w = (.ok (w.memory.snapshot v).toHost, w) :=
  run_toHost h.writable.isData.ends context

theorem WritesJson.evaluate_eq {node : Node} (h : WritesJson context s node v indent w)
    (hdocument : (layout indent).document (w.memory.snapshot v).toHost = .ok document) :
    evaluate node context s = (.ok (.text document), w) := by
  obtain ⟨value, hindent, heq⟩ := h.applies.evaluate_eq h.builtin
  rw [heq, run_toJson hindent h.writable.isData.ends hdocument]

/-- The filter `tojson` never fails on a value that can be written, and what is read from its
document is what the host is given for the value. With one indentation, two documents are the same
just if these are. -/
theorem toJson_reads_back {node : Node} (h : WritesJson context s node v indent w) :
    ∃ document host, toHost v context w = (.ok host, w) ∧
      evaluate node context s = (.ok (.text document), w) ∧ Json.read document = .ok host ∧
      ∀ {context' s' node' v' w' document' host'}, WritesJson context' s' node' v' indent w' →
        toHost v' context' w' = (.ok host', w') →
        evaluate node' context' s' = (.ok (.text document'), w') →
          (document = document' ↔ host = host') := by
  obtain ⟨document, hdocument, hread⟩ := Json.read_document (layout_sound indent) h.writable.toHost
  refine ⟨document, _, h.toHost_eq, h.evaluate_eq hdocument, hread, ?_⟩
  intro context' s' node' v' w' document' host' h' hhost hevaluate
  obtain ⟨other, hother, -⟩ := Json.read_document (layout_sound indent) h'.writable.toHost
  have hinj := Json.document_inj (layout_sound indent) h.writable.toHost h'.writable.toHost
  obtain ⟨⟨⟩, -⟩ := Prod.mk.inj (hhost.symm.trans h'.toHost_eq)
  obtain ⟨⟨⟩, -⟩ := Prod.mk.inj (hevaluate.symm.trans (h'.evaluate_eq hother))
  rw [hdocument, hother, Except.ok.injEq] at hinj
  exact hinj

/-- An object that holds an array and another object, with line breaks but without spaces, and one
with the same fields the other way round. -/
theorem toJson_reads_back_object :
    let context := Context.ofLibrary Host.stock [] false
    let b := (Node.text "b", Node.array [.number (.int 7), .text "\"\n", .null])
    let a := (Node.text "a", Node.object [])
    let filtered (pairs : List (Node × Node)) := Node.filter (.object pairs)
      (.call (.name "tojson") [.keyword (.name "indent") (.number (.int 0))])
    ∃ document document' w w',
      evaluate (filtered [b, a]) context .initial = (.ok (.text document), w) ∧
      evaluate (filtered [a, b]) context .initial = (.ok (.text document'), w') ∧
      Json.read document = .ok (.map [(.text "b", .list [.number (.int 7), .text "\"\n", .null]),
        (.text "a", .map [])]) ∧
      document ≠ document' := by
  intro context b a filtered
  let items := Value.array [.number (.int 7), .text "\"\n", .null]
  let state (pairs : List (Node × Node)) : State :=
    let t := (evaluate (.object pairs) context .initial).2
    { t with memory := (t.memory.allocate [("indent", .number (.int 0))]).2 }
  have hindent : IndentBy (.number (.int 0)) (some 0) := .spaces (by decide)
  have hwritable {m : Memory} {fields : Fields Value} (hinner : m.fields 0 = [])
      (houter : m.fields 1 = fields)
      (hfields : fields = [("b", items), ("a", .object .plain 0)] ∨
        fields = [("a", .object .plain 0), ("b", items)]) : m.Writable (.object .plain 1) := by
    have hitems : m.Writable items := .array (by
      simp only [List.forall_mem_cons]
      exact ⟨.int (by decide), .text _, .null, List.forall_mem_nil _⟩)
    have hobject : m.Writable (.object .plain 0) := by
      refine .object .plain ?_ ?_ <;> rw [hinner]
      · exact List.nodup_nil
      · exact List.forall_mem_nil _
    refine .object .plain ?_ ?_ <;> rw [houter]
    · obtain rfl | rfl := hfields <;> decide
    · obtain rfl | rfl := hfields <;> simp only [List.forall_mem_cons]
      · exact ⟨hitems, hobject, List.forall_mem_nil _⟩
      · exact ⟨hobject, hitems, List.forall_mem_nil _⟩
  have h : WritesJson context .initial (filtered [b, a]) (.object .plain 1) (some 0)
      (state [b, a]) := ⟨rfl, .named rfl rfl hindent, hwritable rfl rfl (.inl rfl)⟩
  have h' : WritesJson context .initial (filtered [a, b]) (.object .plain 1) (some 0)
      (state [a, b]) := ⟨rfl, .named rfl rfl hindent, hwritable rfl rfl (.inr rfl)⟩
  obtain ⟨document, host, hhost, hevaluate, hread, hsame⟩ := toJson_reads_back h
  obtain ⟨document', host', hhost', hevaluate', -, -⟩ := toJson_reads_back h'
  refine ⟨document, document', _, _, hevaluate, hevaluate', hread.trans ?_, fun heq => ?_⟩
  · obtain ⟨⟨⟩, -⟩ := Prod.mk.inj hhost
    rfl
  · have hhosts := (hsame h' hhost' hevaluate').mp heq
    obtain ⟨⟨⟩, -⟩ := Prod.mk.inj hhost
    obtain ⟨⟨⟩, -⟩ := Prod.mk.inj hhost'
    have hkeys := (Prod.mk.inj (List.cons.inj (Host.map.inj hhosts)).1).1
    exact absurd (Host.text.inj hkeys) (by decide)

end Eval

end TextTemplate
