import TextTemplate.Proofs.Eval.Scoping
import TextTemplate.Proofs.Variables.Findings

/-!
# A search for variables that keeps branches apart

The search for variables takes what one branch of a statement binds to be bound in the other branch
and afterwards, whichever branch is taken. A survey starts every branch from what was bound before,
and takes for bound afterwards what all branches bind.
-/

namespace TextTemplate

namespace Findings

mutual

/-- Adds what a statement uses on any way through it, and what it binds on every way. -/
def survey : Node → Findings → Findings
  | .program body, found => surveyAll body found
  | .set (.name name) value, found => (survey value found).bind name
  | .set target value, found => visit false target (survey value found)
  | .branch test body alternate, found =>
    let found := visit false test found
    let first := surveyAll body found
    let second := surveyAll alternate { first with bound := found.bound }
    { second with bound := first.bound.filter second.bound.contains }
  | .loop target iterable body, found =>
    let found := visit false iterable found
    found.leaveLoop (surveyAll body { found with bound := loopNames target ++ found.bound })
  | node, found => visit false node found

def surveyAll : List Node → Findings → Findings
  | [], found => found
  | node :: rest, found => surveyAll rest (survey node found)

end

mutual

theorem le_survey : ∀ (node : Node) (found : Findings), Le found (survey node found)
  | .program body, found => le_surveyAll body found
  | .set target value, found => by
    have hvalue := le_survey value found
    cases target
    case name name => exact ⟨hvalue.required, hvalue.guarded⟩
    all_goals exact hvalue.trans (le_visit false _ _)
  | .branch condition body alternate, found => by
    have hcondition := le_visit false condition found
    have hbody := le_surveyAll body (visit false condition found)
    have halternate := le_surveyAll alternate
      { surveyAll body (visit false condition found) with
        bound := (visit false condition found).bound }
    exact (hcondition.trans hbody).trans ⟨halternate.required, halternate.guarded⟩
  | .loop target iterable body, found => by
    have hiterable := le_visit false iterable found
    have hbody := le_surveyAll body
      { visit false iterable found with
        bound := loopNames target ++ (visit false iterable found).bound }
    exact hiterable.trans ⟨hbody.required, hbody.guarded⟩
  | .name _, found => le_visit false _ found
  | .member _ _ _, found => le_visit false _ found
  | .call _ _, found => le_visit false _ found
  | .array _, found => le_visit false _ found
  | .tuple _, found => le_visit false _ found
  | .object _, found => le_visit false _ found
  | .binary _ _ _, found => le_visit false _ found
  | .filter _ _, found => le_visit false _ found
  | .test _ _ _ _, found => le_visit false _ found
  | .unary _ _, found => le_visit false _ found
  | .slice _ _ _, found => le_visit false _ found
  | .keyword _ _, found => le_visit false _ found
  | .ternary _ _ _, found => le_visit false _ found
  | .number _, found => le_visit false _ found
  | .text _, found => le_visit false _ found
  | .bool _, found => le_visit false _ found
  | .null, found => le_visit false _ found
  | .bare _, found => le_visit false _ found

theorem le_surveyAll : ∀ (nodes : List Node) (found : Findings), Le found (surveyAll nodes found)
  | [], found => .refl found
  | node :: rest, found => (le_survey node found).trans (le_surveyAll rest _)

end

/-! ## Names that do not occur -/

mutual

/-- A name that does not occur in a statement is recorded only if it was recorded before. -/
theorem reports_of_survey {name : String} : ∀ (node : Node) (found : Findings),
    .name name ∉ node.parts → (survey node found).Reports name → found.Reports name
  | .program body, found, h => by
    simp only [Node.parts, List.mem_cons, not_or] at h
    exact reports_of_surveyAll body found h.2
  | .set target value, found, h => by
    simp only [Node.parts, List.mem_cons, List.mem_append, not_or] at h
    obtain ⟨-, htarget, hvalue⟩ := h
    have hbefore := reports_of_survey value found hvalue
    have hboth := fun h => hbefore (reports_of_visit false target (survey value found) htarget h)
    cases target
    case name => exact hbefore
    all_goals exact hboth
  | .branch condition body alternate, found, h => by
    simp only [Node.parts, List.mem_cons, List.mem_append, not_or] at h
    obtain ⟨-, ⟨hcondition, hbody⟩, halternate⟩ := h
    intro hname
    have hfirst : (surveyAll body (visit false condition found)).Reports name :=
      reports_of_surveyAll alternate { surveyAll body (visit false condition found) with
        bound := (visit false condition found).bound } halternate hname
    exact reports_of_visit false condition found hcondition
      (reports_of_surveyAll body _ hbody hfirst)
  | .loop target iterable body, found, h => by
    simp only [Node.parts, List.mem_cons, List.mem_append, not_or] at h
    obtain ⟨-, ⟨-, hiterable⟩, hbody⟩ := h
    exact fun h => reports_of_visit false iterable found hiterable
      (reports_of_surveyAll body { visit false iterable found with
        bound := loopNames target ++ (visit false iterable found).bound } hbody h)
  | .name _, found, h => reports_of_visit false _ found h
  | .member _ _ _, found, h => reports_of_visit false _ found h
  | .call _ _, found, h => reports_of_visit false _ found h
  | .array _, found, h => reports_of_visit false _ found h
  | .tuple _, found, h => reports_of_visit false _ found h
  | .object _, found, h => reports_of_visit false _ found h
  | .binary _ _ _, found, h => reports_of_visit false _ found h
  | .filter _ _, found, h => reports_of_visit false _ found h
  | .test _ _ _ _, found, h => reports_of_visit false _ found h
  | .unary _ _, found, h => reports_of_visit false _ found h
  | .slice _ _ _, found, h => reports_of_visit false _ found h
  | .keyword _ _, found, h => reports_of_visit false _ found h
  | .ternary _ _ _, found, h => reports_of_visit false _ found h
  | .number _, found, h => reports_of_visit false _ found h
  | .text _, found, h => reports_of_visit false _ found h
  | .bool _, found, h => reports_of_visit false _ found h
  | .null, found, h => reports_of_visit false _ found h
  | .bare _, found, h => reports_of_visit false _ found h

theorem reports_of_surveyAll {name : String} : ∀ (nodes : List Node) (found : Findings),
    .name name ∉ Node.partsOfAll nodes → (surveyAll nodes found).Reports name → found.Reports name
  | [], _, _ => id
  | node :: rest, found, h => by
    simp only [Node.partsOfAll, List.mem_append, not_or] at h
    exact fun hname => reports_of_survey node found h.1 (reports_of_surveyAll rest _ h.2 hname)

end

/-! ## Bound names -/

theorem bound_subset_surveyAll {nodes : List Node}
    (h : ∀ node ∈ nodes, ∀ found : Findings, found.bound ⊆ (survey node found).bound)
    (found : Findings) : found.bound ⊆ (surveyAll nodes found).bound := by
  induction nodes generalizing found with
  | nil => exact fun _ hname => hname
  | cons node rest ih =>
    obtain ⟨hnode, hrest⟩ := List.forall_mem_cons.mp h
    exact fun _ hname => ih hrest _ (hnode found hname)

end Findings

namespace Node.Fits

open Findings

theorem survey_eq_visit {node : Node} (h : Fits .expression node) (found : Findings) :
    survey node found = visit false node found := by
  cases h <;> rfl

/-- A statement leaves the names bound that were bound before it. -/
theorem bound_subset_survey {place : Place} {node : Node} (h : Fits place node)
    (hplace : place = .assignment ∨ place = .statement) :
    ∀ found : Findings, found.bound ⊆ (survey node found).bound := by
  induction h with
  | value h =>
    intro found name hname
    rw [h.survey_eq_visit, h.unbinding (.inl rfl)]
    exact hname
  | @assign target value ht _ _ ih =>
    intro found name hname
    have hvalue := ih (.inl rfl) found hname
    have hset := ht.unbinding (.inl rfl) false (survey value found)
    cases ht
    case name => exact List.mem_cons_of_mem _ hvalue
    all_goals exact hset ▸ hvalue
  | output _ ih => exact ih (.inl rfl)
  | @branch condition body alternate hc _ _ _ ihb iha =>
    intro found name hname
    have htested : name ∈ (visit false condition found).bound :=
      (hc.unbinding (.inl rfl) false found).symm ▸ hname
    have hfirst := bound_subset_surveyAll (fun node hmem => ihb node hmem (.inr rfl)) _ htested
    have hsecond := bound_subset_surveyAll (fun node hmem => iha node hmem (.inr rfl))
      { surveyAll body (visit false condition found) with
        bound := (visit false condition found).bound } htested
    exact List.mem_filter.mpr ⟨hfirst, List.contains_iff_mem.mpr hsecond⟩
  | loop _ _ hi =>
    intro found name hname
    exact (hi.unbinding (.inl rfl) false found).symm ▸ hname
  | _ => rcases hplace with h | h <;> cases h

end Node.Fits

/-! ## Branches that bind nothing -/

namespace Node

mutual

/-- Whether no branch of a statement binds a name, apart from loops inside it. -/
def steady : Node → Bool
  | .program body => allSteady body
  | .set _ value => steady value
  | .branch _ body alternate =>
    (targetsOfAll false body).isEmpty && (targetsOfAll false alternate).isEmpty &&
      allSteady body && allSteady alternate
  | .loop _ _ body => allSteady body
  | _ => true

def allSteady : List Node → Bool
  | [] => true
  | node :: rest => steady node && allSteady rest

end

end Node

namespace Findings

open Node (Fits Place)

theorem bound_visitAll_of_targets {nodes : List Node}
    (h : ∀ node ∈ nodes, node.targets false = [] → ∀ found,
      (visit false node found).bound = found.bound)
    (htargets : Node.targetsOfAll false nodes = []) (found : Findings) :
    (visitAll nodes found).bound = found.bound := by
  induction nodes generalizing found with
  | nil => rfl
  | cons node rest ih =>
    obtain ⟨hnode, hrest⟩ := List.forall_mem_cons.mp h
    obtain ⟨hfirst, hothers⟩ := List.append_eq_nil_iff.mp htargets
    exact (ih hrest hothers _).trans (hnode hfirst found)

/-- A statement that sets no name outside of loops binds none. -/
theorem bound_visit_of_targets {place : Place} {node : Node} (h : Fits place node)
    (hplace : place = .assignment ∨ place = .statement) (htargets : node.targets false = [])
    (found : Findings) : (visit false node found).bound = found.bound := by
  induction h generalizing found with
  | value h => exact h.unbinding (.inl rfl) false found
  | @assign target value ht _ _ ih =>
    have hset := ht.unbinding (.inl rfl) false (visit false value found)
    cases ht
    case name => simp [Node.targets] at htargets
    all_goals
      exact hset.trans (ih (.inl rfl) (List.append_eq_nil_iff.mp htargets).2 found)
  | output _ ih => exact ih (.inl rfl) htargets found
  | @branch condition body alternate hc _ _ _ ihb iha =>
    simp only [Node.targets, List.append_eq_nil_iff] at htargets
    obtain ⟨⟨_, hbody⟩, halternate⟩ := htargets
    exact (bound_visitAll_of_targets (fun node hmem => iha node hmem (.inr rfl)) halternate _).trans
      ((bound_visitAll_of_targets (fun node hmem => ihb node hmem (.inr rfl)) hbody _).trans
        (hc.unbinding (.inl rfl) false found))
  | loop _ _ hi => exact hi.unbinding (.inl rfl) false found
  | _ => rcases hplace with h | h <;> cases h

theorem surveyAll_eq_visitAll {nodes : List Node}
    (h : ∀ node ∈ nodes, node.steady → ∀ found, survey node found = visit false node found)
    (hsteady : Node.allSteady nodes) (found : Findings) :
    surveyAll nodes found = visitAll nodes found := by
  induction nodes generalizing found with
  | nil => rfl
  | cons node rest ih =>
    obtain ⟨hnode, hrest⟩ := List.forall_mem_cons.mp h
    obtain ⟨hfirst, hothers⟩ := Bool.and_eq_true_iff.mp hsteady
    rw [surveyAll, visitAll, hnode hfirst, ih hrest hothers]

/-- Where no branch binds a name, keeping branches apart makes no difference. -/
theorem survey_eq_visit {place : Place} {node : Node} (h : Fits place node)
    (hplace : place = .assignment ∨ place = .statement) (hsteady : node.steady)
    (found : Findings) : survey node found = visit false node found := by
  induction h generalizing found with
  | value h => exact h.survey_eq_visit found
  | @assign target value ht _ _ ih =>
    have hvalue := ih (.inl rfl) hsteady found
    cases ht
    all_goals simp only [survey, visit, hvalue]
  | output _ ih => exact ih (.inl rfl) hsteady found
  | @branch condition body alternate _ hb ha _ ihb iha =>
    simp only [Node.steady, Bool.and_eq_true, List.isEmpty_iff] at hsteady
    obtain ⟨⟨⟨hbodyTargets, halternateTargets⟩, hbody⟩, halternate⟩ := hsteady
    have hfirst := surveyAll_eq_visitAll (fun node hmem => ihb node hmem (.inr rfl)) hbody
    have hsecond := surveyAll_eq_visitAll (fun node hmem => iha node hmem (.inr rfl)) halternate
    have hbound := bound_visitAll_of_targets
      (fun node hmem => bound_visit_of_targets (hb node hmem) (.inr rfl)) hbodyTargets
    have hbound' := bound_visitAll_of_targets
      (fun node hmem => bound_visit_of_targets (ha node hmem) (.inr rfl)) halternateTargets
    have hsame {found found' : Findings} (h : found.bound = found'.bound) :
        { found with bound := found'.bound } = found := by
      rw [← h]
    have hfilter (names : List String) : names.filter names.contains = names :=
      List.filter_eq_self.mpr fun _ hname => List.contains_iff_mem.mpr hname
    simp only [survey, visit, hfirst, hsecond, hsame (hbound _), hbound', hfilter]
    exact hsame (hbound' _)
  | @loop target iterable body _ _ _ _ _ _ ihb =>
    have hbody := surveyAll_eq_visitAll (fun node hmem => ihb node hmem (.inr rfl)) hsteady
    simp only [survey, visit, hbody]
  | _ => rcases hplace with h | h <;> cases h

end Findings

/-- The names that the search for variables leaves out although a value given for them may be read:
they are bound by a branch that is not the one taken. -/
def Node.hiddenVariables (program : Node) : List String :=
  let found := Findings.survey program .empty
  (found.required ++ found.guarded).filter (!(findVariables program).all.contains ·)

theorem mem_sortedTexts {texts : List String} {name : String} :
    name ∈ sortedTexts texts ↔ name ∈ texts := List.mem_mergeSort

/-- The search reports what it records. -/
theorem mem_all_of_reports {program : Node} {name : String}
    (h : (Findings.visit false program .empty).Reports name) :
    name ∈ (findVariables program).all := by
  simp only [TemplateVariables.all, findVariables, TemplateVariables.ofFindings, mem_sortedTexts,
    List.mem_append, List.mem_eraseDups, List.mem_filter]
  by_cases hrequired : name ∈ (Findings.visit false program .empty).required
  · exact .inl hrequired
  · exact .inr ⟨h.resolve_left hrequired, by simpa using hrequired⟩

/-- Where no branch binds a name, nothing is hidden. -/
theorem Node.hiddenVariables_eq_nil {program : Node} (h : program.IsTemplate)
    (hsteady : program.steady) : program.hiddenVariables = [] := by
  cases program with
  | program body =>
    have hsame :
        Findings.survey (.program body) .empty = Findings.visit false (.program body) .empty :=
      Findings.surveyAll_eq_visitAll
        (fun node hmem hnode => Findings.survey_eq_visit (h node hmem) (.inr rfl) hnode) hsteady
        .empty
    refine List.filter_eq_nil_iff.mpr fun name hname hhidden => ?_
    rw [hsame] at hname
    have hreported := mem_all_of_reports (List.mem_append.mp hname)
    simp [hreported] at hhidden
  | _ => exact h.elim

/-- What is reported by a survey is reported by the search, or is hidden. -/
theorem Node.mem_of_survey_reports {program : Node} {name : String}
    (h : (Findings.survey program .empty).Reports name) :
    name ∈ (findVariables program).all ∨ name ∈ program.hiddenVariables := by
  by_cases hall : name ∈ (findVariables program).all
  · exact .inl hall
  · refine .inr (List.mem_filter.mpr ⟨List.mem_append.mpr h, ?_⟩)
    simpa using hall

end TextTemplate
