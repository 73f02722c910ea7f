import TextTemplate.Proofs.Syntax.Grammar
import TextTemplate.Proofs.Syntax.Parts
import TextTemplate.Variables

/-!
# What the search for variables records

The search never forgets a use that it has recorded. Expressions bind nothing.
-/

namespace TextTemplate

namespace Findings

/-- A name is recorded as used, directly or under a guard. -/
def Reports (found : Findings) (name : String) : Prop :=
  name ∈ found.required ∨ name ∈ found.guarded

/-- Every use in the first findings is in the second as well. -/
structure Le (found found' : Findings) : Prop where
  required : found.required ⊆ found'.required
  guarded : found.guarded ⊆ found'.guarded

variable {found found' found'' : Findings} {name : String}

theorem Le.refl (found : Findings) : Le found found := ⟨fun _ h => h, fun _ h => h⟩

theorem Le.trans (h : Le found found') (h' : Le found' found'') : Le found found'' :=
  ⟨fun _ hn => h'.required (h.required hn), fun _ hn => h'.guarded (h.guarded hn)⟩

theorem Le.reports (h : Le found found') (hname : found.Reports name) : found'.Reports name := by
  rcases hname with hname | hname
  · exact .inl (h.required hname)
  · exact .inr (h.guarded hname)

theorem le_use (guarded : Bool) (name : String) (found : Findings) :
    Le found (found.use guarded name) := by
  unfold use
  split
  · exact .refl _
  · split
    · exact ⟨fun _ h => h, fun _ h => List.mem_cons_of_mem _ h⟩
    · exact ⟨fun _ h => List.mem_cons_of_mem _ h, fun _ h => h⟩

/-- A name in use is bound by the template, built in or recorded. -/
theorem reports_use (guarded : Bool) (name : String) (found : Findings) :
    name ∈ found.bound ∨ (name ∈ builtinNames ∨ (found.use guarded name).Reports name) := by
  unfold use
  split
  case isTrue h =>
    rcases Bool.or_eq_true_iff.mp h with h | h
    · exact .inl (List.contains_iff_mem.mp h)
    · exact .inr (.inl (List.contains_iff_mem.mp h))
  case isFalse =>
    split
    · exact .inr (.inr (.inr List.mem_cons_self))
    · exact .inr (.inr (.inl List.mem_cons_self))

theorem bound_use (guarded : Bool) (name : String) (found : Findings) :
    (found.use guarded name).bound = found.bound := by
  unfold use
  split
  · rfl
  · split <;> rfl

/-! ## Uses -/

mutual

theorem le_visit : ∀ (guarded : Bool) (node : Node) (found : Findings),
    Le found (visit guarded node found)
  | _, .program body, found => le_visitAll body found
  | _, .set target value, found => by
    have hvalue := le_visit false value found
    have htarget := le_visit false target (visit false value found)
    cases target
    case name name => exact ⟨hvalue.required, hvalue.guarded⟩
    all_goals exact hvalue.trans htarget
  | _, .branch condition body alternate, found =>
    (le_visit false condition found).trans
      ((le_visitAll body _).trans (le_visitAll alternate _))
  | _, .loop target iterable body, found => by
    have hiterable := le_visit false iterable found
    have hbody := le_visitAll body
      { visit false iterable found with
        bound := loopNames target ++ (visit false iterable found).bound }
    exact hiterable.trans ⟨hbody.required, hbody.guarded⟩
  | guarded, .name name, found => le_use guarded name found
  | guarded, .member owner property computed, found => by
    have howner := le_visit guarded owner found
    cases computed with
    | true => exact howner.trans (le_visit false property _)
    | false => exact howner
  | _, .call callee args, found => (le_visit false callee found).trans (le_visitAll args _)
  | _, .array items, found => le_visitAll items found
  | _, .tuple items, found => le_visitAll items found
  | _, .object pairs, found => le_visitPairs pairs found
  | _, .binary _ left right, found => (le_visit false left found).trans (le_visit false right _)
  | _, .filter operand (.call callee args), found =>
    (le_visitAll args found).trans (le_visit _ operand _)
  | _, .filter operand applied, found => by
    have hoperand := fun guarded => le_visit guarded operand found
    cases applied
    case call callee args => exact (le_visitAll args found).trans (le_visit _ operand _)
    case name name => exact hoperand _
    all_goals exact hoperand false
  | _, .test operand _ _ args, found => (le_visit _ operand found).trans (le_visitAll args _)
  | _, .unary _ argument, found => le_visit false argument found
  | _, .slice start stop step, found =>
    (le_visitPart start found).trans ((le_visitPart stop _).trans (le_visitPart step _))
  | _, .keyword _ value, found => le_visit false value found
  | _, .ternary condition whenTrue whenFalse, found =>
    (le_visit false condition found).trans
      ((le_visit false whenTrue _).trans (le_visit false whenFalse _))
  | _, .number _, found => .refl found
  | _, .text _, found => .refl found
  | _, .bool _, found => .refl found
  | _, .null, found => .refl found
  | _, .bare _, found => .refl found

theorem le_visitAll : ∀ (nodes : List Node) (found : Findings), Le found (visitAll nodes found)
  | [], found => .refl found
  | node :: rest, found => (le_visit false node found).trans (le_visitAll rest _)

theorem le_visitPairs : ∀ (pairs : List (Node × Node)) (found : Findings),
    Le found (visitPairs pairs found)
  | [], found => .refl found
  | (key, value) :: rest, found =>
    (le_visit false key found).trans ((le_visit false value _).trans (le_visitPairs rest _))

theorem le_visitPart : ∀ (part : Option Node) (found : Findings), Le found (visitPart part found)
  | none, found => .refl found
  | some node, found => le_visit false node found

end

/-! ## Names that do not occur -/

theorem reports_of_use {other : String} (hname : name ≠ other) (guarded : Bool)
    (h : (found.use guarded other).Reports name) : found.Reports name := by
  unfold use at h
  split at h
  · exact h
  · split at h
    · exact h.imp_right fun hmem => (List.mem_cons.mp hmem).resolve_left hname
    · exact h.imp_left fun hmem => (List.mem_cons.mp hmem).resolve_left hname

mutual

/-- A name that does not occur in a tree is recorded only if it was recorded before. -/
theorem reports_of_visit : ∀ (guarded : Bool) (node : Node) (found : Findings),
    .name name ∉ node.parts → (visit guarded node found).Reports name → found.Reports name
  | _, .program body, found, h => by
    simp only [Node.parts, List.mem_cons, not_or] at h
    exact reports_of_visitAll body found h.2
  | _, .set target value, found, h => by
    simp only [Node.parts, List.mem_cons, List.mem_append, not_or] at h
    obtain ⟨-, htarget, hvalue⟩ := h
    have hbefore := reports_of_visit false value found hvalue
    have hboth := fun h =>
      hbefore (reports_of_visit false target (visit false value found) htarget h)
    cases target
    case name => exact hbefore
    all_goals exact hboth
  | _, .branch condition body alternate, found, h => by
    simp only [Node.parts, List.mem_cons, List.mem_append, not_or] at h
    obtain ⟨-, ⟨hcondition, hbody⟩, halternate⟩ := h
    exact fun h => reports_of_visit false condition found hcondition
      (reports_of_visitAll body _ hbody (reports_of_visitAll alternate _ halternate h))
  | _, .loop target iterable body, found, h => by
    simp only [Node.parts, List.mem_cons, List.mem_append, not_or] at h
    obtain ⟨-, ⟨-, hiterable⟩, hbody⟩ := h
    exact fun h => reports_of_visit false iterable found hiterable
      (reports_of_visitAll body { visit false iterable found with
        bound := loopNames target ++ (visit false iterable found).bound } hbody h)
  | guarded, .name other, found, h => by
    have hother : name ≠ other := by
      rintro rfl
      exact h (Node.mem_parts_self _)
    exact reports_of_use hother guarded
  | guarded, .member owner property computed, found, h => by
    simp only [Node.parts, List.mem_cons, List.mem_append, not_or] at h
    obtain ⟨-, howner, hproperty⟩ := h
    have hbefore := reports_of_visit guarded owner found howner
    cases computed with
    | true => exact fun h => hbefore (reports_of_visit false property _ hproperty h)
    | false => exact hbefore
  | _, .call callee args, found, h => by
    simp only [Node.parts, List.mem_cons, List.mem_append, not_or] at h
    obtain ⟨-, hcallee, hargs⟩ := h
    exact fun h => reports_of_visit false callee found hcallee (reports_of_visitAll args _ hargs h)
  | _, .array items, found, h | _, .tuple items, found, h => by
    simp only [Node.parts, List.mem_cons, not_or] at h
    exact reports_of_visitAll items found h.2
  | _, .object pairs, found, h => by
    simp only [Node.parts, List.mem_cons, not_or] at h
    exact reports_of_visitPairs pairs found h.2
  | _, .binary _ left right, found, h => by
    simp only [Node.parts, List.mem_cons, List.mem_append, not_or] at h
    obtain ⟨-, hleft, hright⟩ := h
    exact fun h => reports_of_visit false left found hleft (reports_of_visit false right _ hright h)
  | _, .filter operand applied, found, h => by
    simp only [Node.parts, List.mem_cons, List.mem_append, not_or] at h
    obtain ⟨-, hoperand, happlied⟩ := h
    cases applied
    case call callee args =>
      simp only [Node.parts, List.mem_cons, List.mem_append, not_or] at happlied
      exact fun h => reports_of_visitAll args found happlied.2.2
        (reports_of_visit _ operand _ hoperand h)
    all_goals exact reports_of_visit _ operand found hoperand
  | _, .test operand _ _ args, found, h => by
    simp only [Node.parts, List.mem_cons, List.mem_append, not_or] at h
    obtain ⟨-, ⟨hoperand, -⟩, hargs⟩ := h
    exact fun h => reports_of_visit _ operand found hoperand (reports_of_visitAll args _ hargs h)
  | _, .unary _ argument, found, h => by
    simp only [Node.parts, List.mem_cons, not_or] at h
    exact reports_of_visit false argument found h.2
  | _, .slice start stop step, found, h => by
    simp only [Node.parts, List.mem_cons, List.mem_append, not_or] at h
    obtain ⟨-, ⟨hstart, hstop⟩, hstep⟩ := h
    exact fun h => reports_of_visitPart start found hstart
      (reports_of_visitPart stop _ hstop (reports_of_visitPart step _ hstep h))
  | _, .keyword _ value, found, h => by
    simp only [Node.parts, List.mem_cons, List.mem_append, not_or] at h
    exact reports_of_visit false value found h.2.2
  | _, .ternary condition whenTrue whenFalse, found, h => by
    simp only [Node.parts, List.mem_cons, List.mem_append, not_or] at h
    obtain ⟨-, ⟨hcondition, htrue⟩, hfalse⟩ := h
    exact fun h => reports_of_visit false condition found hcondition
      (reports_of_visit false whenTrue _ htrue (reports_of_visit false whenFalse _ hfalse h))
  | _, .number _, _, _ => id
  | _, .text _, _, _ => id
  | _, .bool _, _, _ => id
  | _, .null, _, _ => id
  | _, .bare _, _, _ => id

theorem reports_of_visitAll : ∀ (nodes : List Node) (found : Findings),
    .name name ∉ Node.partsOfAll nodes → (visitAll nodes found).Reports name → found.Reports name
  | [], _, _ => id
  | node :: rest, found, h => by
    simp only [Node.partsOfAll, List.mem_append, not_or] at h
    exact fun hname => reports_of_visit false node found h.1 (reports_of_visitAll rest _ h.2 hname)

theorem reports_of_visitPairs : ∀ (pairs : List (Node × Node)) (found : Findings),
    .name name ∉ Node.partsOfPairs pairs → (visitPairs pairs found).Reports name →
      found.Reports name
  | [], _, _ => id
  | (key, value) :: rest, found, h => by
    simp only [Node.partsOfPairs, List.mem_append, not_or] at h
    obtain ⟨⟨hkey, hvalue⟩, hrest⟩ := h
    exact fun hname => reports_of_visit false key found hkey
      (reports_of_visit false value _ hvalue (reports_of_visitPairs rest _ hrest hname))

theorem reports_of_visitPart : ∀ (part : Option Node) (found : Findings),
    .name name ∉ Node.partsOfPart part → (visitPart part found).Reports name → found.Reports name
  | none, _, _ => id
  | some node, found, h => reports_of_visit false node found h

end

/-! ## Bound names -/

/-- A tree under which nothing is bound. -/
def Unbinding (node : Node) : Prop :=
  ∀ guarded found, (visit guarded node found).bound = found.bound

theorem bound_visitAll {nodes : List Node} (h : ∀ node ∈ nodes, Unbinding node)
    (found : Findings) : (visitAll nodes found).bound = found.bound := by
  induction nodes generalizing found with
  | nil => rfl
  | cons node rest ih =>
    rw [visitAll, ih fun node hmem => h node (List.mem_cons_of_mem _ hmem)]
    exact h node List.mem_cons_self false found

theorem bound_visitPairs {pairs : List (Node × Node)} (hkeys : ∀ pair ∈ pairs, Unbinding pair.1)
    (hvalues : ∀ pair ∈ pairs, Unbinding pair.2) (found : Findings) :
    (visitPairs pairs found).bound = found.bound := by
  induction pairs generalizing found with
  | nil => rfl
  | cons pair rest ih =>
    rw [visitPairs, ih (fun pair hmem => hkeys pair (List.mem_cons_of_mem _ hmem))
      fun pair hmem => hvalues pair (List.mem_cons_of_mem _ hmem)]
    exact (hvalues pair List.mem_cons_self false _).trans (hkeys pair List.mem_cons_self false _)

theorem bound_visitPart {part : Option Node} (h : ∀ node ∈ part, Unbinding node)
    (found : Findings) : (visitPart part found).bound = found.bound := by
  cases part with
  | none => rfl
  | some node => exact h node rfl false found

end Findings

namespace Node.Fits

open Findings

/-- Expressions and arguments bind no names. -/
theorem unbinding {place : Place} {node : Node} (h : Fits place node)
    (hplace : place = .expression ∨ place = .argument) : Unbinding node := by
  induction h with
  | name => exact fun guarded found => bound_use guarded _ found
  | number | text | bool | null => exact fun _ _ => rfl
  | array _ ih => exact fun _ => bound_visitAll fun item hmem => ih item hmem (.inl rfl)
  | tuple _ _ ih => exact fun _ => bound_visitAll fun item hmem => ih item hmem (.inl rfl)
  | object _ _ ihkeys ihvalues =>
    exact fun _ => bound_visitPairs (fun pair hmem => ihkeys pair hmem (.inl rfl))
      fun pair hmem => ihvalues pair hmem (.inl rfl)
  | ternary _ _ _ ihc iht ihf =>
    intro _ found
    exact (ihf (.inl rfl) false _).trans
      ((iht (.inl rfl) false _).trans (ihc (.inl rfl) false found))
  | binary _ _ _ ihl ihr =>
    intro _ found
    exact (ihr (.inl rfl) false _).trans (ihl (.inl rfl) false found)
  | unary _ _ ih => exact fun _ found => ih (.inl rfl) false found
  | test _ _ _ iho iha =>
    intro _ found
    exact (bound_visitAll (fun arg hmem => iha arg hmem (.inr rfl)) _).trans
      (iho (.inl rfl) _ found)
  | filter _ _ ih => exact fun _ found => ih (.inl rfl) _ found
  | filterCall _ _ _ iho iha =>
    intro _ found
    exact (iho (.inl rfl) _ _).trans
      (bound_visitAll (fun arg hmem => iha arg hmem (.inr rfl)) found)
  | member _ _ ih => exact fun guarded found => ih (.inl rfl) guarded found
  | item _ _ iho ihp =>
    intro guarded found
    exact (ihp (.inl rfl) false _).trans (iho (.inl rfl) guarded found)
  | slice _ _ _ _ iho ihstart ihstop ihstep =>
    intro guarded found
    exact (bound_visitPart (fun node hmem => ihstep node hmem (.inl rfl)) _).trans
      ((bound_visitPart (fun node hmem => ihstop node hmem (.inl rfl)) _).trans
        ((bound_visitPart (fun node hmem => ihstart node hmem (.inl rfl)) _).trans
          (iho (.inl rfl) guarded found)))
  | call _ _ ihc iha =>
    intro _ found
    exact (bound_visitAll (fun arg hmem => iha arg hmem (.inr rfl)) _).trans
      (ihc (.inl rfl) false found)
  | positional _ ih => exact ih (.inl rfl)
  | keyword _ _ ih => exact fun _ found => ih (.inl rfl) false found
  | value | assign | output | branch | loop => rcases hplace with h | h <;> cases h

end Node.Fits

end TextTemplate
