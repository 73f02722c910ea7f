import TextTemplate.Proofs.Eval.Lending
import TextTemplate.Proofs.Eval.Reaches

/-!
# Bundles stay with the calls they are made for

When the variables that are given hold no bundles, no variable, object or table and no value of an
expression ever is one, as long as no call with keyword arguments falls back on its bundle; the
method `get` does when there is nothing under its key. As soon as one call does so, its value is a
bundle.
-/

namespace TextTemplate.Eval

open Value (AllUnbundled)

/-- A call with keyword arguments comes to call a function that falls back on its second argument,
which is the bundle. -/
inductive LetsThrough (context : Context) : Moment → Prop
  | call {callee : Node} {args : List Node} {positional passed : List Value}
    {keywords : List (Label × Value)} {mark : Nat} {function : Function} {s t u w : State}
    (hargs : evaluateArguments args context s = (.ok (positional, keywords), t))
    (hkeywords : keywords ≠ [])
    (hpassed : bundled positional keywords context t = (.ok passed, u))
    (hcallee : evaluate callee context u = (.ok (.function mark function), w))
    (hfalls : function.FallsBack w.memory passed) :
    LetsThrough context ⟨.node (.call callee args), s⟩

/-- Arguments are passed on so that no positional argument is taken for a keyword argument: they
arrive as they are written, and the positional ones do so in whatever state they are taken apart. -/
structure PassedOn (context : Context) (positional : List Value) (keywords : List (Label × Value))
    (s : State) : Prop where
  unbundled : AllUnbundled positional
  arrive : ∃ passed t, bundled positional keywords context s = (.ok passed, t) ∧
    splitArguments passed context t = (.ok (.written positional keywords), t) ∧
    ∀ u, ∃ arguments, splitArguments passed context u = (.ok arguments, u) ∧
      arguments.positional = positional

/-- There is no bundle around: no variable, object or table holds one, a node that is evaluated now
does not come to one, and arguments arrive as they are written. -/
structure BundleFree (context : Context) (m : Moment) : Prop where
  state : m.state.Unbundled
  value : ∀ {node v t}, m.part = .node node → evaluate node context m.state = (.ok v, t) →
    v.Unbundled
  arguments : ∀ {args positional keywords t}, m.part = .arguments args →
    evaluateArguments args context m.state = (.ok (positional, keywords), t) →
    PassedOn context positional keywords t

/-! ## Variables -/

theorem bindName_keeps (name : String) {value : Value} (h : value.Unbundled) :
    Keeps Whatever (bindName name value) :=
  .changeEnvironment fun _ henvironment => henvironment.bind name h

theorem assignName_keeps (name : String) {value : Value} (h : value.Unbundled) :
    Keeps Whatever (assignName name value) :=
  .changeEnvironment fun _ henvironment => henvironment.assign name h

theorem assignField_keeps (target : Value) (key : String) {value : Value} (h : value.Unbundled) :
    Keeps Whatever (assignField target key value) := by
  cases target with
  | object _ address =>
    have hset : Keeps Whatever (withMemory fun memory => ((), memory.setField address key value)) :=
      .withMemory fun _ hmemory => ⟨trivial, hmemory.setField address key h⟩
    exact hset
  | table _ address =>
    have hset : Keeps Whatever
        (withMemory fun memory => ((), memory.setEntry address (.text key) value)) :=
      .withMemory fun _ hmemory => ⟨trivial, hmemory.setEntry address (.text key) h⟩
    exact hset
  | _ => exact .fail _

theorem failOfKind_keeps {α : Type} {good : α → Prop} (fault : String → Fault) (node : Node) :
    Keeps good (failOfKind fault node) :=
  .ite (fun _ => .fail _) fun _ => .fail _

theorem bindNames_keeps (targets : List Node) (items : List Value) (h : AllUnbundled items) :
    Keeps Whatever (bindNames targets items) := by
  fun_induction bindNames targets items with
  | case1 name _ _ _ ih =>
    obtain ⟨hitem, hitems⟩ := List.forall_mem_cons.mp h
    exact (bindName_keeps name hitem).bind fun _ _ => ih hitems
  | case2 => exact failOfKind_keeps _ _
  | case3 => exact .pure trivial

theorem bindTarget_keeps (target : Node) {item : Value} (h : item.Unbundled) :
    Keeps Whatever (bindTarget target item) := by
  cases target with
  | name name => exact bindName_keeps name h
  | tuple targets =>
    cases h with
    | array hitems =>
      exact .ite (fun _ => .fail _) fun _ => .ite (fun _ => .fail _) fun _ =>
        bindNames_keeps targets _ hitems
    | _ => exact .fail _
  | _ => exact failOfKind_keeps _ _

theorem loopFields_unbundled (length index : Nat) {previous next : Value}
    (hprevious : previous.Unbundled) (hnext : next.Unbundled) :
    Fields.All Value.Unbundled (loopFields length index previous next) := by
  simp only [Fields.All, loopFields, List.forall_mem_cons]
  exact ⟨.number _, .number _, .number _, .number _, .bool _, .bool _, .number _, hprevious, hnext,
    List.forall_mem_nil _⟩

theorem startRound_keeps (target : Node) (length index : Nat) {previous item : Value}
    {rest : List Value} (hprevious : previous.Unbundled) (hitems : AllUnbundled (item :: rest)) :
    Keeps Whatever (startRound target length index previous item rest) := by
  obtain ⟨hitem, hrest⟩ := List.forall_mem_cons.mp hitems
  have hnext : (rest.head?.getD .undefined).Unbundled :=
    .getD (fun value hvalue => hrest value (List.mem_of_mem_head? hvalue)) .undefined
  exact (newObject_keeps (loopFields_unbundled length index hprevious hnext)).bind fun _ habout =>
    (bindName_keeps "loop" habout).bind fun _ _ => bindTarget_keeps target hitem

theorem contribution_keeps (statement : Node) (value : Value) :
    Keeps Whatever (contribution statement value) := by
  unfold contribution
  split
  · exact .pure trivial
  · refine context_keeps.bind fun _ _ => .ite (fun _ => ?_) fun _ => .pure trivial
    split
    · exact .fail _
    · exact .fail _
  · exact (numeral_keeps _).bind fun _ _ => .pure trivial
  · exact .pure trivial
  · exact .pure trivial
  · exact .fail _

theorem findTest_keeps (label? : Option Label) : Keeps Whatever (findTest label?) := by
  unfold findTest
  split
  · have htests : Keeps Whatever (ofEnvironment (·.inner.tests)) :=
      .ofEnvironment fun _ _ => trivial
    refine htests.bind fun tests _ => ?_
    split
    · exact .pure trivial
    · exact .fail _
  · exact .fail _
  · exact .fail _

theorem KeepsAt.inNewScope {α : Type} {good : α → Prop} {x : Eval α} {context : Context}
    {s : State} (h : KeepsAt good x context { s with environment := s.environment.enter }) :
    KeepsAt good (Eval.inNewScope x) context s := by
  intro a t hrun
  unfold Eval.inNewScope at hrun
  obtain ⟨hresult, rfl⟩ := Prod.mk.inj hrun
  obtain ⟨ha, hinside⟩ := h a _ (Prod.ext hresult rfl)
  exact ⟨ha, hinside.memory, hinside.environment.leave⟩

/-! ## Evaluation -/

/-- There are no bundles, and on the way from here no call lets one through. -/
structure Clean (context : Context) (m : Moment) : Prop where
  library : HostLibrary.Unbundled context.library
  state : m.state.Unbundled
  calls : Throughout context (¬LetsThrough context ·) m

variable {context : Context}

theorem Clean.begins {m n : Moment} (h : Clean context m) (hbegins : Begins context m n)
    (hstate : n.state.Unbundled) : Clean context n :=
  ⟨h.library, hstate, h.calls.begins hbegins⟩

/-- Arguments without bundles, the positional ones and those with a keyword. -/
def UnbundledArguments (args : List Value × List (Label × Value)) : Prop :=
  AllUnbundled args.1 ∧ Table.All Value.Unbundled args.2

/-- A loop keeps bundles out if its body does in every round. -/
theorem loopFrom_keepsAt {target : Node} {body : List Node} (length : Nat)
    (hbody : ∀ s, Clean context ⟨.block body, s⟩ →
      KeepsAt Whatever (evaluateBlock body) context s) :
    ∀ (items : List Value) (index : Nat) (previous : Value) (done : String) (s : State),
      previous.Unbundled → AllUnbundled items →
      Clean context ⟨.rounds target body length index previous items, s⟩ →
      KeepsAt Whatever (loopFrom target (evaluateBlock body) length index previous items done)
        context s := by
  intro items
  induction items with
  | nil => exact fun _ _ _ _ _ _ h => .pure trivial h.state
  | cons item rest ih =>
    intro index previous done s hprevious hitems h
    have hround := startRound_keeps target length index hprevious hitems
    obtain ⟨hitem, hrest⟩ := List.forall_mem_cons.mp hitems
    have hsteps : loopFrom target (evaluateBlock body) length index previous (item :: rest) done =
        (do
          startRound target length index previous item rest
          let part ← evaluateBlock body
          loopFrom target (evaluateBlock body) length (index + 1) item rest (done ++ part)) := by
      simp only [startRound, bind_assoc, loopFrom]
    rw [hsteps]
    refine (hround context s h.library h.state).bind fun _ t hstart _ ht => ?_
    refine (hbody t (h.begins (.roundBody hstart) ht)).bind fun _ u hpart _ hu => ?_
    exact ih _ _ _ u hitem hrest (h.begins (.roundsTail hstart hpart) hu)

-- The hypothesis is about moments that are reached, so every evaluation of a part has to be one of
-- those that `Begins` leads to.
mutual

theorem evaluate_keepsAt : ∀ (node : Node) (s : State), Clean context ⟨.node node, s⟩ →
    KeepsAt Value.Unbundled (evaluate node) context s
  | .program body, s, h =>
    (evaluateBlock_keepsAt body s (h.begins .program h.state)).bind fun text _ _ _ ht =>
      .pure (.text text) ht
  | .set target value, s, h => by
    have hvalue := evaluate_keepsAt value s (h.begins .setValue h.state)
    cases target
    case name name =>
      refine hvalue.bind fun v t _ hv ht => ?_
      exact (assignName_keeps name hv context t h.library ht).bind fun _ _ _ _ hu => .pure .null hu
    case member owner property computed =>
      rw [evaluate]
      refine hvalue.bind fun v t hrun hv ht => ?_
      split
      · contradiction
      · rename_i heq
        cases heq
        refine (evaluate_keepsAt owner t (h.begins (.setOwner hrun) ht)).bind fun o u _ _ hu => ?_
        exact (assignField_keeps o _ hv context u h.library hu).bind
          fun _ _ _ _ hw => .pure .null hw
      · exact failOfKind_keeps _ _ context t h.library ht
    all_goals exact hvalue.bind fun v t _ _ ht => failOfKind_keeps _ _ context t h.library ht
  | .branch test body alternate, s, h => by
    refine (evaluate_keepsAt test s (h.begins .branchTest h.state)).bind fun v t htest _ ht => ?_
    refine (truth_keeps v context t h.library ht).bind fun holds u htruth _ hu => ?_
    cases holds with
    | true =>
      exact (evaluateBlock_keepsAt body u (h.begins (.branchBody htest htruth) hu)).bind
        fun text _ _ _ hw => .pure (.text text) hw
    | false =>
      exact (evaluateBlock_keepsAt alternate u (h.begins (.branchAlternate htest htruth) hu)).bind
        fun text _ _ _ hw => .pure (.text text) hw
  | .loop target iterable body, s, h => by
    have hbody := fun t ht => evaluateBlock_keepsAt body t ht
    have hiterable := evaluate_keepsAt iterable _ (h.begins .loopIterable h.state.enter)
    refine .inNewScope (hiterable.bind fun v t hrun hv ht => ?_)
    have hrounds : KeepsAt Whatever (loopOver target (evaluateBlock body) v) context t := by
      cases hv with
      | array hitems =>
        exact loopFrom_keepsAt _ hbody _ _ _ _ t .undefined hitems
          (h.begins (.loopRounds hrun) ht)
      | _ => exact .fail _
    exact hrounds.bind fun text _ _ _ hu => .pure (.text text) hu
  | .name name, s, h => by
    have hlookup : Keeps Value.Unbundled (ofEnvironment (·.lookup name)) :=
      .ofEnvironment fun _ henvironment => henvironment.lookup .undefined name
    exact hlookup context s h.library h.state
  | .member owner property false, s, h =>
    (evaluate_keepsAt owner s (h.begins .memberOwner h.state)).bind fun _ t _ hv ht =>
      memberByLabel_keeps hv _ context t h.library ht
  | .member owner property true, s, h => by
    have howner := evaluate_keepsAt owner s (h.begins .memberOwner h.state)
    have hkey (hproperty : ∀ start stop step, property ≠ .slice start stop step) {v : Value}
        {t : State} (hrun : evaluate owner context s = (.ok v, t)) (ht : t.Unbundled) :=
      evaluate_keepsAt property t (h.begins (.memberKey hproperty hrun) ht)
    cases property
    case slice start stop step =>
      refine howner.bind fun v t hrun hv ht => .ite (fun hsequence => ?_) fun _ => .fail _
      refine (evaluateBound_keepsAt start t (h.begins (.sliceStart hrun hsequence) ht)).bind
        fun i u hstart _ hu => ?_
      refine (evaluateBound_keepsAt stop u
        (h.begins (.sliceStop hrun hsequence hstart) hu)).bind fun j w hstop _ hw => ?_
      refine (evaluateBound_keepsAt step w
        (h.begins (.sliceStep hrun hsequence hstart hstop) hw)).bind fun k y _ _ hy => ?_
      exact slice_keeps hv i j k context y h.library hy
    all_goals
      refine howner.bind fun v t hrun hv ht => ?_
      exact (hkey (by simp) hrun ht).bind fun k u _ _ hu => member_keeps hv k context u h.library hu
  | .call callee args, s, h => by
    refine (evaluateArguments_keepsAt args s (h.begins .callArguments h.state)).bind
      fun (positional, keywords) t hargs hgood ht => ?_
    refine (bundled_keeps hgood.1 hgood.2 context t h.library ht).bind
      fun passed u hpassed hwithout hu => ?_
    refine (evaluate_keepsAt callee u (h.begins (.callCallee hargs hpassed) hu)).bind
      fun v w hcallee _ hw => ?_
    -- A bundle that came back would come from keyword arguments and a function that falls back.
    refine callValue_keepsAt h.library hw fun mark function hfunction hfalls => hwithout.2 ?_
    by_contra hkeywords
    subst hfunction
    exact h.calls.here (.call hargs hkeywords hpassed hcallee hfalls)
  | .number n, s, h => ofNumber_keeps n context s h.library h.state
  | .text text, s, h => .pure (.text text) h.state
  | .bool b, s, h => .pure (.bool b) h.state
  | .null, s, h => .pure .null h.state
  | .array items, s, h =>
    (evaluateAll_keepsAt items s (h.begins .array h.state)).bind fun _ _ _ hvalues ht =>
      .pure (.array hvalues) ht
  | .tuple items, s, h =>
    (evaluateAll_keepsAt items s (h.begins .tuple h.state)).bind fun _ _ _ hvalues ht =>
      .pure (.array hvalues) ht
  | .object pairs, s, h =>
    (evaluatePairs_keepsAt pairs s (h.begins .object h.state)).bind fun _ t _ hfields ht =>
      newLabelled_keeps hfields context t h.library ht
  | .binary operator left right, s, h => by
    have hright {u : State} (hbegins : Begins context ⟨.node (.binary operator left right), s⟩
        ⟨.node right, u⟩) (hu : u.Unbundled) :=
      evaluate_keepsAt right u (h.begins hbegins hu)
    refine (evaluate_keepsAt left s (h.begins .binaryLeft h.state)).bind fun v t hrun hv ht => ?_
    split
    · refine (truth_keeps v context t h.library ht).bind fun holds u htruth _ hu => ?_
      cases holds with
      | true => exact hright (.andRight hrun htruth) hu
      | false => exact .pure hv hu
    · refine (truth_keeps v context t h.library ht).bind fun holds u htruth _ hu => ?_
      cases holds with
      | true => exact .pure hv hu
      | false => exact hright (.orRight hrun htruth) hu
    · rename_i hand hor
      exact (hright (.binaryRight hand hor hrun) ht).bind fun r u _ hr hu =>
        applyBinary_keeps operator hv hr context u h.library hu
  | .filter operand applied, s, h => by
    have hoperand := evaluate_keepsAt operand s (h.begins .filterOperand h.state)
    cases applied
    case name name =>
      have hnone : Passed [] := .positional nofun
      exact hoperand.bind fun v t _ hv ht => applyFilter_keeps name hv hnone context t h.library ht
    case call callee args =>
      cases callee
      case name name =>
        refine hoperand.bind fun v t hrun hv ht => ?_
        refine (evaluateArguments_keepsAt args t (h.begins (.filterArguments hrun) ht)).bind
          fun (positional, keywords) u _ hgood hu => ?_
        refine (bundled_keeps hgood.1 hgood.2 context u h.library hu).bind
          fun passed w _ hpassed hw => ?_
        exact applyFilter_keeps name hv hpassed.1 context w h.library hw
      all_goals exact hoperand.bind fun _ t _ _ ht => failOfKind_keeps _ _ context t h.library ht
    all_goals exact hoperand.bind fun _ t _ _ ht => failOfKind_keeps _ _ context t h.library ht
  | .test operand negate test args, s, h => by
    refine (evaluate_keepsAt operand s (h.begins .testOperand h.state)).bind
      fun v t hoperand _ ht => ?_
    refine (findTest_keeps _ context t h.library ht).bind fun found u htest _ hu => ?_
    refine (evaluateArguments_keepsAt args u (h.begins (.testArguments hoperand htest) hu)).bind
      fun (positional, keywords) w _ hgood hw => ?_
    refine Keeps.bind (bundled_keeps hgood.1 hgood.2) (fun passed _ => ?_) context w h.library hw
    exact (applyTest_keeps found v passed).bind fun _ _ => .pure (.bool _)
  | .unary operator argument, s, h =>
    (evaluate_keepsAt argument s (h.begins .unary h.state)).bind fun v t _ _ ht =>
      applyUnary_keeps operator v context t h.library ht
  | .slice _ _ _, _, _ => .fail _
  | .keyword _ _, _, _ => .fail _
  | .ternary condition whenTrue whenFalse, s, h => by
    refine (evaluate_keepsAt condition s (h.begins .ternaryCondition h.state)).bind
      fun v t hcondition _ ht => ?_
    refine (truth_keeps v context t h.library ht).bind fun holds u htruth _ hu => ?_
    cases holds with
    | true => exact evaluate_keepsAt whenTrue u (h.begins (.ternaryTrue hcondition htruth) hu)
    | false => exact evaluate_keepsAt whenFalse u (h.begins (.ternaryFalse hcondition htruth) hu)
  | .bare kind, s, h => failOfKind_keeps _ (.bare kind) context s h.library h.state

theorem evaluateBlock_keepsAt : ∀ (body : List Node) (s : State), Clean context ⟨.block body, s⟩ →
    KeepsAt Whatever (evaluateBlock body) context s
  | [], _, h => .pure trivial h.state
  | statement :: rest, s, h => by
    refine (evaluate_keepsAt statement s (h.begins .blockHead h.state)).bind
      fun v t hstatement _ ht => ?_
    refine (contribution_keeps statement v context t h.library ht).bind fun text u htext _ hu => ?_
    refine (evaluateBlock_keepsAt rest u (h.begins (.blockTail hstatement htext) hu)).bind
      fun texts w _ _ hw => ?_
    cases text with
    | some text => exact .pure trivial hw
    | none => exact .fail _

theorem evaluateAll_keepsAt : ∀ (items : List Node) (s : State), Clean context ⟨.items items, s⟩ →
    KeepsAt AllUnbundled (evaluateAll items) context s
  | [], _, h => .pure nofun h.state
  | item :: rest, s, h => by
    refine (evaluate_keepsAt item s (h.begins .itemsHead h.state)).bind fun v t hitem hv ht => ?_
    refine (evaluateAll_keepsAt rest t (h.begins (.itemsTail hitem) ht)).bind
      fun vs u _ hvs hu => ?_
    exact .pure (List.forall_mem_cons.mpr ⟨hv, hvs⟩) hu

theorem evaluateArguments_keepsAt : ∀ (args : List Node) (s : State),
    Clean context ⟨.arguments args, s⟩ →
    KeepsAt UnbundledArguments (evaluateArguments args) context s
  | [], _, h => .pure ⟨nofun, nofun⟩ h.state
  | arg :: rest, s, h => by
    have hposition (harg : ∀ key value, arg ≠ .keyword key value) :=
      evaluate_keepsAt arg s (h.begins (.argumentHead harg) h.state)
    cases arg
    case keyword key value =>
      rw [evaluateArguments]
      refine (evaluate_keepsAt value s (h.begins .keywordHead h.state)).bind
        fun v t hrun hv ht => ?_
      split
      · rename_i hkey
        refine (evaluateArguments_keepsAt rest t (h.begins (.keywordTail hkey hrun) ht)).bind
          fun found u _ hfound hu => ?_
        exact .pure ⟨hfound.1, List.forall_mem_cons.mpr ⟨hv, hfound.2⟩⟩ hu
      · exact .fail _
    all_goals
      refine (hposition (by simp)).bind fun v t hrun hv ht => ?_
      refine (evaluateArguments_keepsAt rest t (h.begins (.argumentTail (by simp) hrun) ht)).bind
        fun found u _ hfound hu => ?_
      exact .pure ⟨List.forall_mem_cons.mpr ⟨hv, hfound.1⟩, hfound.2⟩ hu

theorem evaluatePairs_keepsAt : ∀ (pairs : List (Node × Node)) (s : State),
    Clean context ⟨.pairs pairs, s⟩ →
    KeepsAt (Table.All Value.Unbundled) (evaluatePairs pairs) context s
  | [], _, h => .pure nofun h.state
  | (key, value) :: rest, s, h => by
    refine (evaluate_keepsAt key s (h.begins .pairsKey h.state)).bind fun k t hkey _ ht => ?_
    have hpair (label : Label) (hlabels : k.isKey = true) :
        KeepsAt (Table.All Value.Unbundled) (do
          let value ← evaluate value
          let fields ← evaluatePairs rest
          pure ((label, value) :: fields)) context t := by
      refine (evaluate_keepsAt value t (h.begins (.pairsValue hkey hlabels) ht)).bind
        fun v u hvalue hv hu => ?_
      refine (evaluatePairs_keepsAt rest u (h.begins (.pairsTail hkey hlabels hvalue) hu)).bind
        fun fields w _ hfields hw => ?_
      exact .pure (List.forall_mem_cons.mpr ⟨hv, hfields⟩) hw
    cases k with
    | text name => exact hpair (.text name) rfl
    | label label => exact hpair label rfl
    | _ => exact .fail _

theorem evaluateBound_keepsAt : ∀ (bound : Option Node) (s : State),
    Clean context ⟨.bound bound, s⟩ → KeepsAt Whatever (evaluateBound bound) context s
  | none, _, h => .pure trivial h.state
  | some node, s, h =>
    (evaluate_keepsAt node s (h.begins .bound h.state)).bind fun v t _ _ ht =>
      sliceBound_keeps v context t h.library ht

end

/-! ## Throughout an evaluation -/

/-- What a loop goes through are no bundles. -/
def Part.Unbundled : Part → Prop
  | .rounds _ _ _ _ previous remaining => previous.Unbundled ∧ AllUnbundled remaining
  | _ => True

section

variable {m n : Moment}

theorem Clean.state_of_begins (h : Clean context m) (hpart : m.part.Unbundled)
    (hbegins : Begins context m n) : n.state.Unbundled := by
  have hnode {node : Node} {s t : State} {v : Value} (hbegins : Begins context m ⟨.node node, s⟩)
      (hs : s.Unbundled) (hrun : evaluate node context s = (.ok v, t)) : t.Unbundled :=
    (evaluate_keepsAt node s (h.begins hbegins hs) v t hrun).2
  have hbound {bound : Option Node} {s t : State} {i : Option Int}
      (hbegins : Begins context m ⟨.bound bound, s⟩) (hs : s.Unbundled)
      (hrun : evaluateBound bound context s = (.ok i, t)) : t.Unbundled :=
    (evaluateBound_keepsAt bound s (h.begins hbegins hs) i t hrun).2
  have htruth {v : Value} {s t : State} {holds : Bool} (hs : s.Unbundled)
      (hrun : truth v context s = (.ok holds, t)) : t.Unbundled :=
    (truth_keeps v context s h.library hs holds t hrun).2
  cases hbegins with
  | setOwner hvalue => exact hnode .setValue h.state hvalue
  | branchBody htest hholds => exact htruth (hnode .branchTest h.state htest) hholds
  | branchAlternate htest hholds => exact htruth (hnode .branchTest h.state htest) hholds
  | loopIterable => exact h.state.enter
  | loopRounds hiterable => exact hnode .loopIterable h.state.enter hiterable
  | memberKey _ howner => exact hnode .memberOwner h.state howner
  | sliceStart howner => exact hnode .memberOwner h.state howner
  | sliceStop howner hsequence hstart =>
    exact hbound (.sliceStart howner hsequence) (hnode .memberOwner h.state howner) hstart
  | sliceStep howner hsequence hstart hstop =>
    have hu := hbound (.sliceStart howner hsequence) (hnode .memberOwner h.state howner) hstart
    exact hbound (.sliceStop howner hsequence hstart) hu hstop
  | callCallee hargs hpassed =>
    obtain ⟨hgood, ht⟩ :=
      evaluateArguments_keepsAt _ _ (h.begins .callArguments h.state) _ _ hargs
    exact (bundled_keeps hgood.1 hgood.2 context _ h.library ht _ _ hpassed).2
  | andRight hleft hholds => exact htruth (hnode .binaryLeft h.state hleft) hholds
  | orRight hleft hholds => exact htruth (hnode .binaryLeft h.state hleft) hholds
  | binaryRight _ _ hleft => exact hnode .binaryLeft h.state hleft
  | filterArguments hoperand => exact hnode .filterOperand h.state hoperand
  | testArguments hoperand htest =>
    exact (findTest_keeps _ context _ h.library (hnode .testOperand h.state hoperand) _ _ htest).2
  | ternaryTrue hcondition hholds =>
    exact htruth (hnode .ternaryCondition h.state hcondition) hholds
  | ternaryFalse hcondition hholds =>
    exact htruth (hnode .ternaryCondition h.state hcondition) hholds
  | blockTail hstatement htext =>
    have ht := hnode .blockHead h.state hstatement
    exact (contribution_keeps _ _ context _ h.library ht _ _ htext).2
  | itemsTail hitem => exact hnode .itemsHead h.state hitem
  | keywordTail _ hvalue => exact hnode .keywordHead h.state hvalue
  | argumentTail harg hvalue => exact hnode (.argumentHead harg) h.state hvalue
  | pairsValue hkey => exact hnode .pairsKey h.state hkey
  | pairsTail hkey hlabels hvalue =>
    exact hnode (.pairsValue hkey hlabels) (hnode .pairsKey h.state hkey) hvalue
  | roundBody hstart =>
    exact (startRound_keeps _ _ _ hpart.1 hpart.2 context _ h.library h.state _ _ hstart).2
  | roundsTail hstart hbody =>
    obtain ⟨-, ht⟩ :=
      startRound_keeps _ _ _ hpart.1 hpart.2 context _ h.library h.state _ _ hstart
    exact (evaluateBlock_keepsAt _ _ (h.begins (.roundBody hstart) ht) _ _ hbody).2
  -- All others are the first to be evaluated.
  | _ => exact h.state

theorem Clean.part_of_begins (h : Clean context m) (hpart : m.part.Unbundled)
    (hbegins : Begins context m n) : n.part.Unbundled := by
  cases hbegins with
  | loopRounds hiterable =>
    have hv := (evaluate_keepsAt _ _ (h.begins .loopIterable h.state.enter) _ _ hiterable).1
    cases hv with
    | array hitems => exact ⟨.undefined, hitems⟩
  | roundsTail => exact List.forall_mem_cons.mp hpart.2
  | _ => trivial

/-- Where there are no bundles and no call lets one through, evaluation makes none. -/
theorem Clean.bundleFree (h : Clean context m) : BundleFree context m where
  state := h.state
  value := by
    intro node v t hnode hrun
    obtain ⟨part, s⟩ := m
    obtain rfl : part = .node node := hnode
    exact (evaluate_keepsAt node s h v t hrun).1
  arguments := by
    intro args positional keywords t hargs hrun
    obtain ⟨part, s⟩ := m
    obtain rfl : part = .arguments args := hargs
    have hpositional := (evaluateArguments_keepsAt args s h _ t hrun).1.1
    have hlast : ∀ value ∈ positional.getLast?, value.isBundle = false :=
      fun value hvalue => (hpositional value (List.mem_of_getLast? hvalue)).isBundle
    obtain ⟨passed, u, arguments, hpassed, hsplit, -, hwritten⟩ :=
      run_bundled positional keywords context t
    rw [hwritten hlast] at hsplit
    exact ⟨hpositional, passed, u, hpassed, hsplit, positional_of_bundled hlast hpassed⟩

theorem Clean.throughout (h : Clean context m) (hpart : m.part.Unbundled) :
    Throughout context (BundleFree context) m := by
  refine .of_step (fun m => Clean context m ∧ m.part.Unbundled) ?_ ?_ ⟨h, hpart⟩
  · rintro m n hbegins ⟨h, hpart⟩
    exact ⟨h.begins hbegins (h.state_of_begins hpart hbegins), h.part_of_begins hpart hbegins⟩
  · rintro m ⟨h, -⟩
    exact h.bundleFree

end

/-! ## Calls that let a bundle through -/

/-- A function that falls back answers with the last argument. -/
theorem run_of_fallsBack (context : Context) {function : Function} {args : List Value} {s : State}
    (h : function.FallsBack s.memory args) :
    ∃ fallback ∈ args.getLast?, call function args context s = (.ok fallback, s) := by
  unfold Function.FallsBack at h
  split at h
  · rename_i address key fallback
    refine ⟨fallback, rfl, ?_⟩
    have hrun : call (.ofObject .get address) [.text key, fallback] context s =
        (.ok (((s.memory.fields address).get? key).getD fallback), s) := rfl
    rw [hrun, h]
    rfl
  · exact ⟨_, rfl, rfl⟩
  · rename_i address key fallback
    refine ⟨fallback, rfl, ?_⟩
    have hrun : call (.ofTable .get address) [.text key, fallback] context s =
        (.ok ((Table.get? (.text key) (s.memory.entries address)).getD fallback), s) := rfl
    rw [hrun, h]
    rfl
  · rename_i address label fallback
    refine ⟨fallback, rfl, ?_⟩
    have hrun : call (.ofTable .get address) [.label label, fallback] context s =
        (.ok ((Table.get? label (s.memory.entries address)).getD fallback), s) := rfl
    rw [hrun, h]
    rfl
  · exact h.elim

theorem LetsThrough.not_bundleFree {m : Moment} (h : LetsThrough context m) :
    ¬BundleFree context m := by
  rintro hfree
  cases h with
  | @call callee args positional passed keywords mark function s t u w hargs hkeywords hpassed
      hcallee hfalls =>
    obtain ⟨fallback, hlast, hcall⟩ := run_of_fallsBack context hfalls
    obtain ⟨bundle, hbundle, rfl⟩ := bundle_of_bundled hkeywords hpassed
    obtain rfl : bundle = fallback := by simpa using hlast
    have hrun : evaluate (.call callee args) context s = (.ok bundle, w) := by
      rw [evaluate, run_bind hargs]
      exact (run_bind hpassed _).trans ((run_bind hcallee _).trans hcall)
    have hvalue := hfree.value rfl hrun
    rw [hvalue.isBundle] at hbundle
    cases hbundle

/-! ## Renderings -/

theorem declare_keeps (name : String) {value : Value} (h : value.Unbundled) :
    Keeps Whatever (declare name value) := by
  have htaken : Keeps Whatever (ofEnvironment (·.inner.bindings.has name)) :=
    .ofEnvironment fun _ _ => trivial
  exact htaken.bind fun _ _ => .ite (fun _ => .fail _) fun _ => bindName_keeps name h

theorem declareBuiltins_keeps : Keeps Whatever declareBuiltins :=
  (declare_keeps "true" (.bool true)).bind fun _ _ =>
    (declare_keeps "false" (.bool false)).bind fun _ _ =>
      (declare_keeps "True" (.bool true)).bind fun _ _ =>
        (declare_keeps "False" (.bool false)).bind fun _ _ =>
          (declare_keeps "None" .null).bind fun _ _ =>
            (newFunction_keeps _).bind fun _ hrange =>
              (declare_keeps "range" hrange).bind fun _ _ =>
                (newFunction_keeps _).bind fun _ hraise => declare_keeps "raise_exception" hraise

theorem declareAll_keeps {entries : List (Host × Host)} (h : ∀ entry ∈ entries, entry.2.Unbundled) :
    Keeps Whatever (declareAll entries) := by
  induction entries with
  | nil => exact .pure trivial
  | cons entry rest ih =>
    obtain ⟨key, host⟩ := entry
    obtain ⟨hhost, hothers⟩ := List.forall_mem_cons.mp h
    have hrest := ih hothers
    cases key with
    | text name =>
      have hdeclared : Keeps Whatever (declareHost name host) :=
        (fromHost_keeps hhost).bind fun _ hvalue =>
          (declare_keeps name hvalue).bind fun _ _ => .pure trivial
      exact hdeclared.bind fun _ _ => hrest
    | _ => exact (fromHost_keeps hhost).bind fun _ _ => hrest

/-- The variables of a rendering are no bundles when what is given for them holds none. -/
theorem unbundled_of_startEnvironment {given : Host}
    (hlibrary : HostLibrary.Unbundled context.library) (hgiven : given.Unbundled) {s₀ s : State}
    (hmemory : s₀.memory.Unbundled)
    (h : startEnvironment given context s₀ = (.ok (), s)) : s.Unbundled := by
  have hnamespace : Keeps Whatever (do
      let value ← newFunction (.builtin .namespace_)
      declare "namespace" value) := (newFunction_keeps _).bind fun _ h => declare_keeps _ h
  obtain ⟨_, s₂, hscope, hafter⟩ := bind_eq_ok h
  obtain ⟨_, s₁, hempty, hdeclared⟩ := bind_eq_ok hscope
  cases hempty
  have hstart : State.Unbundled { s₀ with environment := ⟨⟨[], Test.all⟩, []⟩ } :=
    ⟨hmemory, List.forall_mem_singleton.mpr nofun⟩
  obtain ⟨-, hs₂⟩ := hnamespace context _ hlibrary hstart _ _ hdeclared
  obtain ⟨_, s₃, hbuiltins, hgivens⟩ := bind_eq_ok hafter
  obtain ⟨-, hs₃⟩ := declareBuiltins_keeps context s₂ hlibrary hs₂ _ _ hbuiltins
  cases hgiven with
  | map hentries => exact (declareAll_keeps hentries context s₃ hlibrary hs₃ () s hgivens).2
  | _ =>
    have hnone (given : Host) : Keeps Whatever (if given.truthy then fail .noMethod else pure ()) :=
      .ite (fun _ => .fail _) fun _ => .pure trivial
    exact (hnone _ context s₃ hlibrary hs₃ () s hgivens).2

/-- Rendering keeps the bundles of keyword arguments out of everything a template can see if and
only if no call that it comes to lets one through. -/
theorem bundleFree_throughout_iff {given : Host} (hlibrary : HostLibrary.Unbundled context.library)
    (hgiven : given.Unbundled) {s₀ s : State} (hmemory : s₀.memory.Unbundled)
    (h : startEnvironment given context s₀ = (.ok (), s)) (program : Node) :
    Throughout context (BundleFree context) ⟨.block program.statements, s⟩ ↔
      Throughout context (¬LetsThrough context ·) ⟨.block program.statements, s⟩ := by
  constructor
  · intro hfree m hreaches hlets
    exact hlets.not_bundleFree (hfree m hreaches)
  · intro hcalls
    have hs := unbundled_of_startEnvironment hlibrary hgiven hmemory h
    exact Clean.throughout ⟨hlibrary, hs, hcalls⟩ trivial

/-- The call `{}.get('x', k=1)` is one that does. -/
theorem bundleFree_throughout_iff_get :
    ∃ s, startEnvironment (.map []) (.ofLibrary Host.stock [] false) .initial = (.ok (), s) ∧
      ¬Throughout (.ofLibrary Host.stock [] false) (BundleFree (.ofLibrary Host.stock [] false))
        ⟨.block [.call (.member (.object []) (.name "get") false)
          [.text "x", .keyword (.name "k") (.number (.int 1))]], s⟩ := by
  have hmemory : Memory.empty.Unbundled := ⟨fun _ => nofun, fun _ => nofun⟩
  have hgiven : Host.Unbundled (.map []) := .map (by simp)
  obtain ⟨environment, hstart⟩ : ∃ environment,
      startEnvironment (.map []) (.ofLibrary Host.stock [] false) .initial =
        (.ok (), ⟨⟨#[], #[], 3⟩, environment⟩) := ⟨_, rfl⟩
  refine ⟨_, hstart, fun hfree => ?_⟩
  have hcalls := (bundleFree_throughout_iff Host.unbundled_stock hgiven hmemory hstart
    (.program _)).mp hfree
  exact (hcalls.begins .blockHead).here (.call rfl (by simp) rfl rfl rfl)

end TextTemplate.Eval
