import TextTemplate.Proofs.Eval.Answers
import TextTemplate.Proofs.Eval.Objects
import TextTemplate.Proofs.Sequence.Selection
import TextTemplate.Proofs.Value.Fields

/-!
# Ranges are progressions

The function `range` takes its bounds by position and its step by position or by name. There are
five forms of it; in each it answers the arithmetic progression from the start up to the end, unless
the step is zero. Arguments that arrive in any other form are refused.
-/

namespace TextTemplate

namespace Sequence

variable {start stop step : Int} {i : Nat}

/-- The number of terms of a progression: how often the step goes into the way from the start to the
end, rounded up, and none where it leads away from the end. -/
def termCount (start stop step : Int) : Int := max 0 ⌈((stop - start : Int) : ℚ) / step⌉

theorem isBefore_iff_lt_div (hstep : step ≠ 0) :
    IsBefore step (start + i * step) stop ↔ (i : ℚ) < ((stop - start : Int) : ℚ) / step := by
  have hcast : (i : ℚ) * step < ((stop - start : Int) : ℚ) ↔ i * step < stop - start := by
    norm_cast
  have hcast' : ((stop - start : Int) : ℚ) < (i : ℚ) * step ↔ stop - start < i * step := by
    norm_cast
  rcases lt_or_gt_of_ne hstep with hneg | hpos
  · rw [IsBefore, if_neg hneg.not_gt, lt_div_iff_of_neg (Int.cast_lt_zero.mpr hneg), hcast']
    omega
  · rw [IsBefore, if_pos hpos, lt_div_iff₀ (Int.cast_pos.mpr hpos), hcast]
    omega

theorem progressionLength_eq (hstep : step ≠ 0) (start stop : Int) :
    progressionLength start stop step = (termCount start stop step).toNat := by
  refine eq_of_forall_lt_iff fun i => ?_
  have hceil : (i : Int) < ⌈((stop - start : Int) : ℚ) / step⌉ ↔
      (i : ℚ) < ((stop - start : Int) : ℚ) / step := by
    rw [Int.lt_ceil, Int.cast_natCast]
  rw [lt_progressionLength_iff hstep, isBefore_iff_lt_div hstep, ← hceil, Int.lt_toNat, termCount,
    lt_max_iff, or_iff_right (by omega)]

/-- The terms of a progression: every one, from the start on in the direction of the step, that
comes strictly before the end. -/
structure IsProgression (start stop step : Int) (terms : List Int) : Prop where
  eq_map :
    terms = (List.range (termCount start stop step).toNat).map fun i : Nat => start + i * step
  monotone : terms.Pairwise (IsBefore step)
  before : ∀ term ∈ terms, IsBefore step term stop
  complete : ∀ i : Nat, IsBefore step (start + i * step) stop → start + i * step ∈ terms

/-- A later term lies farther in the direction of the step. -/
theorem isBefore_of_lt (hstep : step ≠ 0) (start : Int) {i j : Nat} (hlt : i < j) :
    IsBefore step (start + i * step) (start + j * step) := by
  have hcast : (i : Int) < j := Int.ofNat_lt.mpr hlt
  rcases lt_or_gt_of_ne hstep with hneg | hpos
  · rw [IsBefore, if_neg hneg.not_gt]
    exact Int.add_lt_add_left (Int.mul_lt_mul_of_neg_right hcast hneg) start
  · rw [IsBefore, if_pos hpos]
    exact Int.add_lt_add_left (Int.mul_lt_mul_of_pos_right hcast hpos) start

theorem progression_eq_map (hstep : step ≠ 0) (start stop : Int) :
    progression start stop step =
      (List.range (termCount start stop step).toNat).map fun i : Nat => start + i * step := by
  refine List.ext_getElem? fun i => ?_
  rw [progression, getElem?_progressionFrom, progressionLength_eq hstep, List.getElem?_map]
  split
  · rw [List.getElem?_range ‹_›]
    rfl
  · rw [List.getElem?_eq_none (by rw [List.length_range]; exact Nat.le_of_not_lt ‹_›)]
    rfl

theorem isProgression_progression (hstep : step ≠ 0) (start stop : Int) :
    IsProgression start stop step (progression start stop step) where
  eq_map := progression_eq_map hstep start stop
  monotone := by
    rw [progression_eq_map hstep, List.pairwise_map]
    exact List.pairwise_lt_range.imp (isBefore_of_lt hstep start)
  before term hmem := by
    obtain ⟨-, -, hbefore⟩ := (mem_progression_iff hstep).mp hmem
    exact hbefore
  complete i hbefore := (mem_progression_iff hstep).mpr ⟨i, rfl, hbefore⟩

end Sequence

/-- An error of the template at run time. -/
def Fault.IsRuntime (fault : Fault) : Prop :=
  ∃ report, fault.problem = .reported report ∧ report.errorClass = .runtime

namespace Eval

open Sequence (IsProgression termCount)

variable {context : Context} {s t : State} {args positional : List Value} {keywords : Fields Value}
  {start stop step : Int}

/-! ## Forms -/

/-- The forms in which a range is asked for: the bounds by position, of which the first may be left
out, and the step by position, by name or not at all. -/
inductive RangeForm : List Value → Fields Value → Int → Int → Int → Prop
  | upTo (stop : Int) : RangeForm [.number (.int stop)] [] 0 stop 1
  | between (start stop : Int) :
    RangeForm [.number (.int start), .number (.int stop)] [] start stop 1
  | inSteps (start stop step : Int) :
    RangeForm [.number (.int start), .number (.int stop), .number (.int step)] [] start stop step
  | upToStep (stop step : Int) :
    RangeForm [.number (.int stop)] [("step", .number (.int step))] 0 stop step
  | betweenStep (start stop step : Int) :
    RangeForm [.number (.int start), .number (.int stop)] [("step", .number (.int step))] start stop
      step

theorem allIntegers?_eq_some : ∀ {values : List Value} {numbers : List Int},
    allIntegers? values = some numbers → values = numbers.map fun i => .number (.int i)
  | [], _, h => by
    cases h
    rfl
  | .number (.int i) :: rest, _, h => by
    obtain ⟨others, hothers, rfl⟩ := Option.map_eq_some_iff.mp h
    rw [List.map_cons, ← allIntegers?_eq_some hothers]

/-- Keywords that are all named `step` are at most one. -/
theorem keywords_of_step (hkeys : keywords.keys.Nodup)
    (hstep : ∀ keyword ∈ keywords, keyword.1 = "step") :
    keywords = [] ∨ ∃ value, keywords = [("step", value)] := by
  match keywords with
  | [] => exact .inl rfl
  | [(key, value)] =>
    obtain rfl : key = "step" := hstep _ List.mem_cons_self
    exact .inr ⟨value, rfl⟩
  | (key, value) :: (other, value') :: rest =>
    obtain rfl : key = "step" := hstep _ List.mem_cons_self
    obtain rfl : other = "step" := hstep (other, value') (by simp)
    simp [Fields.keys] at hkeys

theorem callRange_of_form (hform : RangeForm positional keywords start stop step)
    (hsplit : splitArguments args context s = (.ok ⟨positional, keywords, []⟩, s)) :
    callRange args context s = progressionValue start stop step context s := by
  rw [callRange, run_bind hsplit]
  cases hform <;> rfl

/-- Arguments of no form are refused. -/
theorem callRange_refuses (hkeys : keywords.keys.Nodup)
    (hnone : ∀ start stop step, ¬RangeForm positional keywords start stop step)
    (hsplit : splitArguments args context s = (.ok ⟨positional, keywords, []⟩, s)) :
    ∃ fault : Fault, callRange args context s = (.error fault, s) ∧ fault.IsRuntime := by
  rw [callRange, run_bind hsplit]
  dsimp only
  split
  · obtain ⟨sorted, hsorted⟩ := exists_sorted keywords.keys
    rw [refuseKeywords, List.append_nil, hsorted]
    exact ⟨_, rfl, _, rfl, rfl⟩
  rename_i hkeywords
  have hnamed : ∀ keyword ∈ keywords, keyword.1 = "step" := by
    intro keyword hmem
    by_contra hname
    simp only [List.isEmpty_nil, Bool.not_true, Bool.false_or, Bool.or_eq_true, not_or,
      List.any_eq_true, bne_iff_ne] at hkeywords
    exact hkeywords.1 ⟨keyword, hmem, hname⟩
  -- What is no form though its keywords would do has too few values, too many or other ones.
  cases hnumbers : allIntegers? (positional ++ keywords.values) with
  | none => exact ⟨_, rfl, _, rfl, rfl⟩
  | some numbers =>
    have hvalues := allIntegers?_eq_some hnumbers
    rcases keywords_of_step hkeys hnamed with rfl | ⟨value, rfl⟩
    · rw [Fields.values, List.map_nil, List.append_nil] at hvalues
      subst hvalues
      rcases numbers with _ | ⟨first, _ | ⟨second, _ | ⟨third, _ | ⟨fourth, rest⟩⟩⟩⟩
      · exact ⟨_, rfl, _, rfl, rfl⟩
      · exact absurd (.upTo first) (hnone 0 first 1)
      · exact absurd (.between first second) (hnone first second 1)
      · exact absurd (.inSteps first second third) (hnone first second third)
      · exact ⟨_, rfl, _, rfl, rfl⟩
    · obtain ⟨bounds, steps, -, rfl, hsteps⟩ := List.append_eq_map_iff.mp hvalues
      obtain ⟨step, rfl, rfl⟩ := List.map_eq_singleton_iff.mp hsteps
      have hlength : bounds.length = 1 ∨ bounds.length = 2 :=
        or_iff_not_imp_left.mpr (by simpa using hkeywords)
      rcases hlength with hone | htwo
      · obtain ⟨stop, rfl⟩ := List.length_eq_one_iff.mp hone
        exact absurd (.upToStep stop step) (hnone 0 stop step)
      · obtain ⟨start, stop, rfl⟩ := List.length_eq_two.mp htwo
        exact absurd (.betweenStep start stop step) (hnone start stop step)

theorem progressionValue_eq (hstep : step ≠ 0) (hcount : termCount start stop step < 2 ^ 63) :
    progressionValue start stop step context s =
      (.ok (.array ((Sequence.progression start stop step).map .int)), s) := by
  have hlength : Sequence.progressionLength start stop step < sizeLimit := by
    rw [Sequence.progressionLength_eq hstep]
    exact (Int.toNat_lt' (by decide)).mpr hcount
  rw [progressionValue, if_neg (by simpa using hstep), if_pos hlength]
  rfl

/-! ## Calls -/

/-- What a range comes to: a progression in each of its forms, unless the step is zero. -/
structure IsRange (positional : List Value) (keywords : Fields Value)
    (outcome : Except Fault Value) : Prop where
  /-- As long as the terms can be counted. -/
  answers : ∀ start stop step, RangeForm positional keywords start stop step → step ≠ 0 →
    termCount start stop step < 2 ^ 63 →
    ∃ terms, IsProgression start stop step terms ∧
      outcome = .ok (.array (terms.map fun term => .number (.int term)))
  refuses : (¬∃ start stop step, RangeForm positional keywords start stop step ∧ step ≠ 0) →
    ∃ fault : Fault, outcome = .error fault ∧ fault.IsRuntime

theorem callRange_isRange (hkeys : keywords.keys.Nodup)
    (hsplit : splitArguments args context s = (.ok ⟨positional, keywords, []⟩, s)) :
    IsRange positional keywords (callRange args context s).1 where
  answers start stop step hform hstep hcount := by
    refine ⟨_, Sequence.isProgression_progression hstep start stop, ?_⟩
    rw [callRange_of_form hform hsplit, progressionValue_eq hstep hcount]
    rfl
  refuses hnone := by
    by_cases hform : ∃ start stop step, RangeForm positional keywords start stop step
    · obtain ⟨start, stop, step, hform⟩ := hform
      obtain rfl : step = 0 := by
        by_contra hstep
        exact hnone ⟨start, stop, step, hform, hstep⟩
      rw [callRange_of_form hform hsplit]
      exact ⟨_, rfl, _, rfl, rfl⟩
    · obtain ⟨fault, hrefused, hruntime⟩ := callRange_refuses hkeys
        (fun start stop step h => hform ⟨start, stop, step, h⟩) hsplit
      exact ⟨fault, congrArg Prod.fst hrefused, hruntime⟩

/-- A call of `range` with any arguments that come to values, the keyword arguments by their names.
A keyword that is given twice has its last value. -/
theorem evaluate_range {name : String} {mark : Nat} {nodes : List Node} {arrived : List Value}
    {named : Fields Value}
    (hargs : evaluateArguments nodes context s = (.ok (positional, labelled keywords), t))
    (harrive : Arrive t.memory positional keywords arrived named)
    (hrange : t.environment.lookup name = .function mark (.builtin .range)) :
    IsRange arrived named (evaluate (.call (.name name) nodes) context s).1 := by
  obtain ⟨passed, u, hpassed, hsplit, henvironment⟩ := harrive.run context
  have hcallee : Has context u (.name name) (.function mark (.builtin .range)) :=
    .name (henvironment ▸ hrange)
  have hcall : evaluate (.call (.name name) nodes) context s = callRange passed context u := by
    rw [evaluate, run_bind hargs]
    exact (run_bind hpassed _).trans (run_bind hcallee _)
  rw [hcall]
  exact callRange_isRange harrive.nodup_keys hsplit

/-- A bundle that another call has let through takes the place of a named step. -/
theorem evaluate_range_bundle :
    let context := Context.ofLibrary Host.stock [] false
    let environment := State.initial.environment.bind "range" (.function 0 (.builtin .range))
    let s : State := ⟨.empty, environment⟩
    let step := Node.keyword (.name "step") (.number (.int 2))
    let bundle := Node.call (.member (.object []) (.name "get") false) [.text "x", step]
    (evaluate (.call (.name "range") [.number (.int 5), step]) context s).1 =
        .ok (.array [.number (.int 0), .number (.int 2), .number (.int 4)]) ∧
      (∃ fault : Fault, (evaluate (.call (.name "range") [step]) context s).1 = .error fault ∧
        fault.IsRuntime) ∧
      (evaluate (.call (.name "range") [.number (.int 5), bundle]) context s).1 =
        .ok (.array [.number (.int 0), .number (.int 2), .number (.int 4)]) := by
  intro context environment s step bundle
  have hstep : evaluateArguments [step] context s =
      (.ok ([], labelled [("step", .number (.int 2))]), s) :=
    (KeywordsTo.cons (Has.number 2) (.nil s)).evaluateArguments_eq
  have hboth : evaluateArguments [.number (.int 5), step] context s =
      (.ok ([.number (.int 5)], labelled [("step", .number (.int 2))]), s) :=
    (run_bind (Has.number 5) _).trans ((run_bind hstep _).trans rfl)
  obtain ⟨address, t, hbundle, hfields, hlookup⟩ : ∃ address t,
      evaluateArguments [.number (.int 5), bundle] context s =
        (.ok ([.number (.int 5)] ++ [.object .keywords address], labelled []), t) ∧
      t.memory.fields address = [("step", .number (.int 2))] ∧
      t.environment.lookup "range" = .function 0 (.builtin .range) := ⟨_, _, rfl, rfl, rfl⟩
  have hanswer {outcome : Except Fault Value}
      (h : IsRange [.number (.int 5)] [("step", .number (.int 2))] outcome) :
      outcome = .ok (.array [.number (.int 0), .number (.int 2), .number (.int 4)]) := by
    have hcount : termCount 0 5 2 = 3 := by norm_num [termCount]
    obtain ⟨terms, hterms, heq⟩ :=
      h.answers 0 5 2 (.upToStep 5 2) (by decide) (by rw [hcount]; decide)
    rw [heq, hterms.eq_map, hcount]
    rfl
  refine ⟨hanswer (evaluate_range hboth (.written nofun) rfl), ?_, hanswer ?_⟩
  · have hrange : IsRange [] [("step", .number (.int 2))]
        (evaluate (.call (.name "range") [step]) context s).1 :=
      evaluate_range hstep (.written nofun) rfl
    refine hrange.refuses ?_
    rintro ⟨start, stop, step, hform, -⟩
    cases hform
  · rw [← hfields]
    exact evaluate_range hbundle (.bundle (by rw [hfields]; decide)) hlookup

end Eval

end TextTemplate
