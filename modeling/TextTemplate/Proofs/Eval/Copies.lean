import TextTemplate.Proofs.Eval.Arguments
import TextTemplate.Proofs.Eval.Returning
import TextTemplate.Proofs.Value.Resemblance

/-!
# Calls with copies of the arguments

A function that is called with copies of its arguments, in a memory that holds them as well, answers
what it would have answered otherwise, but for addresses and marks.
-/

namespace TextTemplate

open List (Forall₂)

theorem Value.Resembles.isBundle_eq {value value' : Value} (h : value.Resembles value') :
    value.isBundle = value'.isBundle := by
  cases h with
  | object kind => cases kind <;> rfl
  | _ => rfl

namespace Memory

variable {m m' m'' : Memory} {value copy : Value}

/-- A value in a memory that holds plain data: no function, nothing undefined and no bundle of
keyword arguments. -/
structure HoldsData (m : Memory) (value : Value) : Prop where
  holds : m.Holds value
  ends : m.ends value
  data : (m.snapshot value).IsData
  plain : (m.snapshot value).plain = m.snapshot value

/-- A value that holds the same as another one in an earlier memory. -/
structure IsCopy (m m' : Memory) (value copy : Value) : Prop where
  original : m.HoldsData value
  grounded : m'.Grounded copy
  snapshot_eq : m'.snapshot copy = m.snapshot value

theorem IsCopy.grows (h : IsCopy m m' value copy) (hgrows : Grows m' m'') :
    IsCopy m m'' value copy :=
  ⟨h.original, h.grounded.grows hgrows, (h.grounded.snapshot_eq hgrows).trans h.snapshot_eq⟩

theorem HoldsData.isBundle_eq (h : m.HoldsData value) : value.isBundle = false := by
  cases h.holds with
  | object kind =>
    cases kind with
    | plain => rfl
    | keywords => cases h.plain
  | _ => rfl

/-- Copies look the same from outside. -/
theorem IsCopy.resembles (h : IsCopy m m' value copy) : value.Resembles copy := by
  have hsame := h.snapshot_eq
  cases h.original.holds with
  | number => cases h.grounded <;> cases hsame; exact .number fun _ => .rfl
  | bool b => cases h.grounded <;> cases hsame; exact .bool b b
  | text t => cases h.grounded <;> cases hsame; exact .text t
  | null => cases h.grounded <;> cases hsame; exact .null
  | undefined => cases h.original.plain
  | array =>
    cases h.grounded with
    | array => exact .array _ _
    | _ => cases hsame
  | object kind =>
    cases h.grounded with
    | object kind' =>
      obtain rfl : kind' = kind := (Snapshot.object.inj hsame).1
      exact .object kind' _ _
    | _ => cases hsame
  | function => cases h.original.data

/-- Two values that hold what is alike, or both contain themselves. -/
structure Tells (w : Matching) (m m' : Memory) (value value' : Value) : Prop where
  ends_eq : m.ends value = m'.ends value'
  held : m.ends value → Snapshot.Alike w (m.snapshot value) (m'.snapshot value')

end Memory

/-- A state and one whose memory has grown from there, where host functions treat alike what is
alike. -/
structure Context.Later (context : Context) (s t : State) : Prop where
  closed : s.memory.Closed
  grows : Memory.Grows s.memory t.memory
  deterministic : context.Deterministic s.memory

namespace Context.Later

variable {context : Context} {s t : State}

/-- What belongs together in the two states. -/
def matching (h : context.Later s t) : Matching := .apart (.refl s.memory) h.grows

theorem trims (h : context.Later s t) : Matching.Trims s.memory.self s.memory.self h.matching :=
  Memory.trims_apart _ _

theorem alike (h : context.Later s t) : Memory.Alike h.matching s.memory t.memory :=
  Memory.alike_apart h.closed _ _

theorem uniform (h : context.Later s t) : context.Uniform h.matching :=
  h.deterministic _ h.trims

end Context.Later

namespace Eval

open Memory (HoldsData IsCopy Tells)

variable {context : Context} {s t : State} {value copy : Value} {args copies : List Value}
  {f : Function}

/-- The same fault, or values that hold what is alike. -/
def Answers (w : Matching) (x y : Except Fault Value × State) : Prop :=
  Agree (Tells w x.2.memory y.2.memory) x.1 y.1

theorem answers_of_agree {w : Matching} {x y : Except Fault Value × State}
    (hagree : Agree (Value.Alike w) x.1 y.1) (hmemory : Memory.Alike w x.2.memory y.2.memory) :
    Answers w x y := by
  obtain ⟨outcome, t⟩ := x
  obtain ⟨outcome', t'⟩ := y
  cases hagree with
  | ok hvalue => exact .ok ⟨hmemory.ends_eq hvalue, fun hends => hmemory.snapshot hvalue hends⟩
  | error fault => exact .error fault

theorem answers_of_runsAlike (h : context.Later s t) {x y : Eval Value}
    (hxy : RunsAlike h.matching (Value.Alike h.matching) x y) :
    Answers h.matching (x context s) (y context t) :=
  have hruns := hxy context h.uniform s t h.alike
  answers_of_agree hruns.1 hruns.2

theorem holds_alike (h : context.Later s t) (hvalue : s.memory.Holds value) :
    Value.Alike h.matching value value := hvalue.trim h.trims _ _ hvalue

/-- What a copy holds is alike in the two states. -/
theorem copy_alike (h : context.Later s t) (hcopy : IsCopy s.memory t.memory value copy) :
    Snapshot.Alike h.matching (s.memory.snapshot value) (t.memory.snapshot copy) := by
  obtain ⟨⟨hholds, hends, -, -⟩, -, hsame⟩ := hcopy
  have halike := h.alike.snapshot (holds_alike h hholds) hends
  rw [(h.closed.grounded hholds hends).snapshot_eq h.grows] at halike
  rwa [hsame]

theorem copy_tells (h : context.Later s t) (hcopy : IsCopy s.memory t.memory value copy) :
    Tells h.matching s.memory t.memory value copy :=
  ⟨hcopy.original.ends.trans hcopy.grounded.ends.symm, fun _ => copy_alike h hcopy⟩

/-! ## Arguments -/

theorem resembles_copies (h : Forall₂ (IsCopy s.memory t.memory) args copies) :
    Forall₂ Value.Resembles args copies := h.imp fun _ _ hcopy => hcopy.resembles

theorem holdsAll_alike (h : context.Later s t)
    (hcopies : Forall₂ (IsCopy s.memory t.memory) args copies) :
    Forall₂ (Value.Alike h.matching) args args := by
  refine List.forall₂_same.mpr ?_
  induction hcopies with
  | nil => exact List.forall_mem_nil _
  | cons hcopy _ ih => exact List.forall_mem_cons.mpr ⟨holds_alike h hcopy.original.holds, ih⟩

/-- Neither the arguments nor the copies have a bundle at the end. -/
theorem splitArguments_copies (h : Forall₂ (IsCopy s.memory t.memory) args copies) :
    splitArguments args = pure ⟨args, [], []⟩ ∧ splitArguments copies = pure ⟨copies, [], []⟩ := by
  have hplain : (∀ value ∈ args, value.isBundle = false) ∧
      ∀ copy ∈ copies, copy.isBundle = false := by
    induction h with
    | nil => exact ⟨List.forall_mem_nil _, List.forall_mem_nil _⟩
    | cons hcopy _ ih =>
      have hvalue := hcopy.original.isBundle_eq
      have hsame := hcopy.resembles.isBundle_eq
      exact ⟨List.forall_mem_cons.mpr ⟨hvalue, ih.1⟩,
        List.forall_mem_cons.mpr ⟨hsame.symm.trans hvalue, ih.2⟩⟩
  exact ⟨splitArguments_of_unbundled fun value hlast => hplain.1 _ (List.mem_of_getLast? hlast),
    splitArguments_of_unbundled fun copy hlast => hplain.2 _ (List.mem_of_getLast? hlast)⟩

/-! ## Functions of the template -/

/-- The method `get` looks at its arguments from outside, but for a value in place of a field that
is not there. -/
theorem get_copies (a : Address) (hcopies : Forall₂ (IsCopy s.memory t.memory) args copies) :
    callObjectMethod .get a args = callObjectMethod .get a copies ∨
      ∃ key value copy, args = [.text key, value] ∧ copies = [.text key, copy] ∧
        IsCopy s.memory t.memory value copy := by
  have hkinds : kindNames args = kindNames copies := kindNames_congr (resembles_copies hcopies)
  have hother : (fieldsOf a >>= fun _ => fail (.getArguments (kindNames args)) : Eval Value) =
      fieldsOf a >>= fun _ => fail (.getArguments (kindNames copies)) := by
    rw [hkinds]
  cases hcopies with
  | nil => exact .inl rfl
  | cons hkey hrest =>
    cases hkey.resembles with
    | text key =>
      cases hrest with
      | nil => exact .inl rfl
      | cons hvalue hrest =>
        cases hrest with
        | nil => exact .inr ⟨key, _, _, rfl, rfl, hvalue⟩
        | cons _ _ => exact .inl hother
    | _ => exact .inl hother

theorem callObjectMethod_copies (h : context.Later s t) (method : ObjectMethod) {a b : Address}
    (hab : h.matching.objects a b) (hcopies : Forall₂ (IsCopy s.memory t.memory) args copies) :
    Answers h.matching (callObjectMethod method a args context s)
      (callObjectMethod method b copies context t) := by
  have hargs := holdsAll_alike h hcopies
  have halike := answers_of_runsAlike h (callObjectMethod_alike method hab hargs)
  cases method with
  | get =>
    rcases get_copies b hcopies with heq | ⟨key, value, copy, rfl, rfl, hcopy⟩
    · rwa [← heq]
    · have hfound := Fields.get?_rel (h.alike.fields hab) key
      show Agree (Tells h.matching s.memory t.memory)
        (.ok (((s.memory.fields a).get? key).getD value))
        (.ok (((t.memory.fields b).get? key).getD copy))
      generalize (s.memory.fields a).get? key = found at hfound
      generalize (t.memory.fields b).get? key = found' at hfound
      cases hfound with
      | some hvalue =>
        exact .ok ⟨h.alike.ends_eq hvalue, fun hends => h.alike.snapshot hvalue hends⟩
      | none => exact .ok (copy_tells h hcopy)
  | _ => exact halike

theorem callNamespace_copies (h : context.Later s t)
    (hcopies : Forall₂ (IsCopy s.memory t.memory) args copies) :
    Answers h.matching (callNamespace args context s) (callNamespace copies context t) := by
  have hkinds : kindNames args = kindNames copies := kindNames_congr (resembles_copies hcopies)
  have hother : Answers h.matching (fail (.namespaceArguments (kindNames args)) context s)
      (fail (.namespaceArguments (kindNames copies)) context t) := by
    rw [hkinds]
    exact .error _
  cases hcopies with
  | nil => exact answers_of_runsAlike h (newObject_alike .plain .nil)
  | cons hfirst hrest =>
    cases hfirst.resembles with
    | object kind a b =>
      cases hrest with
      | cons _ _ => exact hother
      | nil =>
        -- The new objects hold what the argument and its copy hold.
        have hvalue := h.closed.grounded hfirst.original.holds hfirst.original.ends
        have halike := copy_alike h hfirst
        rw [Memory.snapshot_object hvalue.ends, Memory.snapshot_object hfirst.grounded.ends]
          at halike
        cases hvalue with
        | object _ _ hfields =>
          cases hfirst.grounded with
          | object _ _ hfields' =>
            obtain ⟨hnew, hheld⟩ := Memory.grounded_allocate .plain hfields
            obtain ⟨hnew', hheld'⟩ := Memory.grounded_allocate .plain hfields'
            refine .ok ⟨hnew.ends.trans hnew'.ends.symm, fun _ => ?_⟩
            cases halike with
            | object _ halike => exact hheld ▸ hheld' ▸ .object .plain halike
    | _ => exact hother

/-- The whole numbers that positional arguments ask for. -/
def rangeOf (args : List Value) : Eval Value :=
  match allIntegers? args with
  | some [stop] => progressionValue 0 stop 1
  | some [start, stop] => progressionValue start stop 1
  | some [start, stop, step] => progressionValue start stop step
  | _ => fail (.rangeArguments (kindNames args))

theorem callRange_eq_rangeOf (h : splitArguments args = pure ⟨args, [], []⟩) :
    callRange args = rangeOf args := by
  have hbind (f : Arguments → Eval Value) : (pure ⟨args, [], []⟩ >>= f) = f ⟨args, [], []⟩ := rfl
  rw [callRange, h, hbind]
  simp only [List.isEmpty_nil, Bool.not_true, List.any_nil, Bool.or_self, Bool.false_and,
    Bool.false_eq_true, ↓reduceIte, Fields.values, List.map_nil, List.append_nil]
  unfold rangeOf
  cases hints : allIntegers? args with
  | none => rfl
  | some ints => rcases ints with _ | ⟨_, _ | ⟨_, _ | ⟨_, _ | _⟩⟩⟩ <;> rfl

theorem callRange_copies (hcopies : Forall₂ (IsCopy s.memory t.memory) args copies) :
    callRange args = callRange copies := by
  have hresembles := resembles_copies hcopies
  have hkinds : kindNames args = kindNames copies := kindNames_congr hresembles
  obtain ⟨hsplit, hsplit'⟩ := splitArguments_copies hcopies
  rw [callRange_eq_rangeOf hsplit, callRange_eq_rangeOf hsplit', rangeOf, rangeOf,
    allIntegers?_congr hresembles, hkinds]

/-- The host is given the same for a value and for its copy. -/
theorem answers_of_toHost (h : context.Later s t) (hcopy : IsCopy s.memory t.memory value copy)
    {k : Host → Eval Value} (hk : ∀ host, RunsAlike h.matching (Value.Alike h.matching) (k host)
      (k host)) :
    Answers h.matching ((toHost value >>= k) context s) ((toHost copy >>= k) context t) := by
  rw [run_bind (run_toHost hcopy.original.ends context) k,
    run_bind (run_toHost hcopy.grounded.ends context) k, hcopy.snapshot_eq]
  exact answers_of_runsAlike h (hk _)

theorem callRaiseException_copies (h : context.Later s t)
    (hcopies : Forall₂ (IsCopy s.memory t.memory) args copies) :
    Answers h.matching (callRaiseException args context s)
      (callRaiseException copies context t) := by
  cases hcopies with
  | nil => exact .error _
  | @cons value copy _ _ hfirst _ =>
    have hother : Answers h.matching
        ((displayText value >>= fun message => fail (.raised message)) context s)
        ((displayText copy >>= fun message => fail (.raised message)) context t) := by
      simp only [displayText, bind_assoc]
      refine answers_of_toHost h hfirst fun host => ?_
      split
      · exact .fail _
      · exact .fail _
    cases hfirst.resembles with
    | text message => exact .error _
    | _ => exact hother

/-! ## Functions of the host -/

theorem run_mapAll_toHost (h : ∀ arg ∈ args, s.memory.ends arg) (context : Context) :
    mapAll toHost args context s =
      (.ok (args.map fun arg => (s.memory.snapshot arg).toHost), s) := by
  refine run_mapAll ?_
  rw [List.forall₂_map_right_iff, List.forall₂_same]
  exact fun arg harg => run_toHost (h arg harg) context

/-- A function of the host is given what the arguments hold. -/
theorem run_callWithArguments (callHost : HostFunction → List Host → Fields Host → Eval Host)
    (g : HostFunction) (h : ∀ arg ∈ args, s.memory.ends arg) (context : Context) :
    callWithArguments callHost g ⟨args, [], []⟩ context s =
      (callHost g (args.map fun arg => (s.memory.snapshot arg).toHost) [] >>= fromHost) context s :=
  run_bind (run_mapAll_toHost h context) _

theorem callHost_copies (h : context.Later s t) (depth : Nat) {g : HostFunction}
    (hg : HostFunction.Alike h.matching g g)
    (hcopies : Forall₂ (IsCopy s.memory t.memory) args copies) :
    Answers h.matching (callWithArguments (callHostWithin depth) g ⟨args, [], []⟩ context s)
      (callWithArguments (callHostWithin depth) g ⟨copies, [], []⟩ context t) := by
  have hends : (∀ arg ∈ args, s.memory.ends arg) ∧ ∀ copy ∈ copies, t.memory.ends copy := by
    clear hg
    induction hcopies with
    | nil => exact ⟨List.forall_mem_nil _, List.forall_mem_nil _⟩
    | cons hcopy _ ih =>
      exact ⟨List.forall_mem_cons.mpr ⟨hcopy.original.ends, ih.1⟩,
        List.forall_mem_cons.mpr ⟨hcopy.grounded.ends, ih.2⟩⟩
  have hhosts : Forall₂ (Host.Alike h.matching)
      (args.map fun arg => (s.memory.snapshot arg).toHost)
      (copies.map fun copy => (t.memory.snapshot copy).toHost) := by
    rw [List.forall₂_map_left_iff, List.forall₂_map_right_iff]
    exact hcopies.imp fun _ _ hcopy => Snapshot.toHost_alike _ _ (copy_alike h hcopy)
  rw [run_callWithArguments _ g hends.1, run_callWithArguments _ g hends.2]
  exact answers_of_runsAlike h
    ((callHostWithin_alike depth hg hhosts .nil).bind fun _ _ hanswer => fromHost_alike hanswer)

/-- A function answers the same for copies of its arguments. -/
theorem callWith_copies (h : context.Later s t) (depth : Nat)
    (hf : Function.Alike s.memory.self f f)
    (hcopies : Forall₂ (IsCopy s.memory t.memory) args copies) :
    Answers h.matching (callWith (callHostWithin depth) f args context s)
      (callWith (callHostWithin depth) f copies context t) := by
  have hresembles := resembles_copies hcopies
  have hargs := holdsAll_alike h hcopies
  have hf := hf.trim h.trims _ _ hf
  cases hf with
  | ofText method receiver =>
    have halike := answers_of_runsAlike h (callTextMethod_alike method receiver hargs)
    simp only [callWith]
    rwa [← callTextMethod_congr method receiver hresembles]
  | ofArray length => exact answers_of_runsAlike h (.pure (.number (.int _)))
  | ofObject method ha => exact callObjectMethod_copies h method ha hcopies
  | builtin builtin =>
    cases builtin with
    | namespace_ => exact callNamespace_copies h hcopies
    | range =>
      have halike := answers_of_runsAlike h (callRange_alike hargs)
      show Answers h.matching (callRange args context s) (callRange copies context t)
      rwa [← callRange_copies hcopies]
    | raiseException => exact callRaiseException_copies h hcopies
  | host hg =>
    obtain ⟨hsplit, hsplit'⟩ := splitArguments_copies hcopies
    simp only [callWith, hsplit, hsplit']
    exact callHost_copies h depth hg hcopies

end Eval

end TextTemplate
