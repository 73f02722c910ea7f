import TextTemplate.Proofs.Eval.Scalars
import TextTemplate.Proofs.Text.Search

/-!
# Texts cut, joined and replaced in

The method `split`, the filter `join` and the method `replace` agree about where a text occurs in
another. What is cut at it is whole again when it is joined with it, and to join the parts with
another text is to replace it by that.
-/

namespace TextTemplate

theorem TextMethod.ofName?_name (method : TextMethod) : ofName? method.name = some method := by
  cases method <;> rfl

namespace Eval

open List (Forall₂)

variable {context : Context} {s : State} {node o : Node} {value : Value}

/-! ## Methods of texts -/

/-- A tree has a value, however many functions have been made before. -/
def Stays (context : Context) (s : State) (node : Node) (value : Value) : Prop :=
  ∀ marks, Has context { s with memory := { s.memory with marks } } node value

namespace Stays

theorem has (h : Stays context s node value) : Has context s node value := h s.memory.marks

theorem name {name : String} (h : s.environment.lookup name = value) :
    Stays context s (.name name) value := fun _ => .name h

theorem text (text : String) : Stays context s (.text text) (.text text) := fun _ => .text text

end Stays

/-- A method is asked of a tree. -/
def asked (o : Node) (method : TextMethod) (args : List Node) : Node :=
  .call (.member o (.name method.name) false) args

theorem Has.asked {text : String} (ho : Has context s o (.text text)) (method : TextMethod)
    {args : List Node} {values : List Value} (hargs : Forall₂ (Has context s) args values)
    (hvalue : callTextMethod method text values = pure value) :
    Reads context s (asked o method args) value := by
  have hmember : member (.text text) (.text method.name) context s =
      newFunction (.ofText method text) context s := by
    simp only [member, Eval.method, TextMethod.ofName?_name]
  have hcallee : evaluate (.member o (.name method.name) false) context s =
      newFunction (.ofText method text) context s := by
    rw [evaluate, run_bind ho]
    exact hmember
  exact .call hargs hcallee fun t _ => congrFun (congrFun hvalue context) t

/-- Texts are joined that have been made on the way. -/
theorem Reads.joinBy {separator : Node} {mark : String} {parts : List String}
    (h : Reads context s node (.array (parts.map .text)))
    (hseparator : Stays context s separator (.text mark))
    (hnone : context.filters.get? "join" = none) :
    Reads context s (.filter node (.call (.name "join") [separator]))
      (.text (mark.intercalate parts)) := by
  obtain ⟨marks, hnode⟩ := h
  have hlast : ∀ value ∈ [Value.text mark].getLast?, value.isBundle = false := by
    rintro value ⟨⟩
    rfl
  have hvalues : (parts.map Scalar.text).map Scalar.value = parts.map .text := List.map_map
  have hspellings : (parts.map Scalar.text).map Scalar.hostSpelling = parts := by
    rw [List.map_map, show Scalar.hostSpelling ∘ Scalar.text = id from rfl, List.map_id]
  have hjoin : join (parts.map .text) (.text mark) context
      { s with memory := { s.memory with marks } } =
        (.ok (.text (mark.intercalate parts)), { s with memory := { s.memory with marks } }) := by
    rw [← hvalues, join_scalars, hspellings]
  refine ⟨marks, ?_⟩
  rw [evaluate_filterCall hnode (.cons (hseparator marks) .nil) hlast hnone]
  exact hjoin

/-! ## Counts -/

theorem replacementLimit_eq {count : Int} (h : count.natAbs < 2 ^ 63) :
    replacementLimit count = pure (if count < 0 then none else some count.toNat) := by
  have hsize : sizeLimit = 2 ^ 63 := by decide
  rw [replacementLimit, hsize, if_neg (by simp; omega)]
  split <;> rfl

/-! ## Agreement -/

theorem texts_eq (parts : List (List Char)) :
    texts parts = .array ((parts.map String.ofList).map .text) := by
  rw [texts, List.map_map]
  rfl

theorem ofList_intercalate (separator : String) (parts : List (List Char)) :
    String.ofList (separator.toList.intercalate parts) =
      separator.intercalate (parts.map String.ofList) := by
  apply String.toList_injective
  rw [String.toList_ofList, String.toList_intercalate, List.map_map,
    show String.toList ∘ String.ofList = id from funext fun _ => String.toList_ofList, List.map_id]

/-- A text is cut at the occurrences of a separator, and a new text takes the place of it. -/
structure Splits (context : Context) (s : State) (o a b : Node) (text separator new : String)
    (parts : List String) : Prop where
  split : Reads context s (asked o .split [a]) (.array (parts.map .text))
  /-- The separator occurs in none of the parts. -/
  apart : ∀ part ∈ parts, ¬separator.toList <:+: part.toList
  joined : context.filters.get? "join" = none →
    Reads context s (.filter (asked o .split [a]) (.call (.name "join") [a])) (.text text)
  joinedWith : context.filters.get? "join" = none →
    Reads context s (.filter (asked o .split [a]) (.call (.name "join") [b]))
      (.text (new.intercalate parts))
  replaced : Reads context s (asked o .replace [a, b]) (.text (new.intercalate parts))
  /-- A count that is negative or allows for all occurrences makes no difference. -/
  replacedAll : ∀ c (count : Int), Has context s c (.number (.int count)) →
    count.natAbs < 2 ^ 63 → count < 0 ∨ (parts.length : Int) - 1 ≤ count →
    Reads context s (asked o .replace [a, b, c]) (.text (new.intercalate parts))
  /-- With any other count, the new text stands between the first parts and the separator between
  those that are left. -/
  replacedFirst : ∀ c (count : Int), Has context s c (.number (.int count)) →
    count.natAbs < 2 ^ 63 → 0 ≤ count → count < (parts.length : Int) - 1 →
    Reads context s (asked o .replace [a, b, c])
      (.text (new.intercalate
        (parts.take count.toNat ++ [separator.intercalate (parts.drop count.toNat)])))

section

variable {a b : Node} {text separator new : String}

/-- The parts between the occurrences of a separator. -/
def textParts (separator text : String) : List String :=
  (Text.pieces separator.toList text.toList).map String.ofList

theorem split_eq (hseparator : separator ≠ "") (text : String) :
    callTextMethod .split text [.text separator] =
      pure (.array ((textParts separator text).map .text)) := by
  rw [textParts, ← texts_eq, callTextMethod, split]
  show (if separator.isEmpty then _ else _) = _
  rw [if_neg (by simpa using hseparator)]

theorem intercalate_textParts (hseparator : separator ≠ "") (text : String) :
    separator.intercalate (textParts separator text) = text := by
  have hchars : separator.toList ≠ [] := by simpa using hseparator
  rw [textParts, ← ofList_intercalate, Text.intercalate_pieces hchars, String.ofList_toList]

theorem not_infix_of_mem_textParts (hseparator : separator ≠ "") {part : String}
    (hmem : part ∈ textParts separator text) : ¬separator.toList <:+: part.toList := by
  have hchars : separator.toList ≠ [] := by simpa using hseparator
  obtain ⟨piece, hpiece, rfl⟩ := List.mem_map.mp hmem
  rw [String.toList_ofList]
  exact Text.not_infix_of_mem_pieces hchars text.toList piece hpiece

theorem replace_all (hseparator : separator ≠ "") (text new : String) (limit : Option Nat)
    (hlimit : ∀ n ∈ limit, (textParts separator text).length ≤ n + 1) :
    String.ofList (Text.replace separator.toList new.toList limit text.toList) =
      new.intercalate (textParts separator text) := by
  have hchars : separator.toList ≠ [] := by simpa using hseparator
  rw [textParts, List.length_map] at hlimit
  rw [Text.replace, if_neg (by simpa using hseparator), Text.replaceFrom_all hchars _ _ hlimit,
    ofList_intercalate, textParts]

theorem replace_first (hseparator : separator ≠ "") (text new : String) {n : Nat}
    (hn : n < (textParts separator text).length) :
    String.ofList (Text.replace separator.toList new.toList (some n) text.toList) =
      new.intercalate ((textParts separator text).take n ++
        [separator.intercalate ((textParts separator text).drop n)]) := by
  have hchars : separator.toList ≠ [] := by simpa using hseparator
  rw [textParts, List.length_map] at hn
  rw [Text.replace, if_neg (by simpa using hseparator), Text.replaceFrom_first hchars _ _ hn,
    ofList_intercalate, List.map_append, List.map_take, List.map_singleton, ofList_intercalate,
    List.map_drop, textParts]

theorem callTextMethod_replace (text separator new : String) {count : Int}
    (h : count.natAbs < 2 ^ 63) :
    callTextMethod .replace text [.text separator, .text new, .number (.int count)] =
      pure (.text (String.ofList (Text.replace separator.toList new.toList
        (if count < 0 then none else some count.toNat) text.toList))) := by
  rw [callTextMethod, replace, replacementLimit_eq h]
  rfl

/-- Cutting, joining and replacing agree, for any text and any separator that is not empty. -/
theorem splits_of_text (ho : Has context s o (.text text))
    (ha : Stays context s a (.text separator))
    (hb : Stays context s b (.text new)) (hseparator : separator ≠ "") :
    ∃ parts, Splits context s o a b text separator new parts := by
  have hsplit : Reads context s (asked o .split [a])
      (.array ((textParts separator text).map .text)) :=
    ho.asked .split (.cons ha.has .nil) (split_eq hseparator text)
  have hcounted {c : Node} {count : Int} (hc : Has context s c (.number (.int count)))
      (hcount : count.natAbs < 2 ^ 63) : Reads context s (asked o .replace [a, b, c])
        (.text (String.ofList (Text.replace separator.toList new.toList
          (if count < 0 then none else some count.toNat) text.toList))) :=
    ho.asked .replace (.cons ha.has (.cons hb.has (.cons hc .nil)))
      (callTextMethod_replace text separator new hcount)
  refine ⟨textParts separator text, ?_⟩
  exact {
    split := hsplit
    apart := fun part hmem => not_infix_of_mem_textParts hseparator hmem
    joined := fun hnone => by
      have hjoined := hsplit.joinBy ha hnone
      rwa [intercalate_textParts hseparator] at hjoined
    joinedWith := hsplit.joinBy hb
    replaced := by
      rw [← replace_all hseparator text new none nofun]
      exact ho.asked .replace (.cons ha.has (.cons hb.has .nil)) rfl
    replacedAll := fun c count hc hcount hall => by
      rw [← replace_all hseparator text new (if count < 0 then none else some count.toNat)]
      · exact hcounted hc hcount
      · intro n hn
        split at hn
        · cases hn
        · cases hn
          omega
    replacedFirst := fun c count hc hcount hpos hfirst => by
      have hlimit : (if count < 0 then none else some count.toNat) = some count.toNat :=
        if_neg hpos.not_gt
      have hreplaced := hcounted hc hcount
      rwa [hlimit, replace_first hseparator text new (by omega)] at hreplaced }

/-- Of two occurrences that overlap, the first one counts. -/
theorem splits_of_text_overlapping :
    let context := Context.ofLibrary Host.stock [] false
    Splits context .initial (.text "banana") (.text "ana") (.text "-") "banana" "ana" "-"
        ["b", "na"] ∧
      Reads context .initial (asked (.text "banana") .replace [.text "ana", .text "-"])
        (.text "b-na") := by
  intro context
  obtain ⟨parts, h⟩ : ∃ parts, Splits context .initial (.text "banana") (.text "ana") (.text "-")
      "banana" "ana" "-" parts :=
    splits_of_text (.text "banana") (.text "ana") (.text "-") (by decide)
  obtain ⟨marks, hsplit⟩ := h.split
  have hrun : (evaluate (asked (.text "banana") .split [.text "ana"]) context .initial).1 =
      .ok (.array [.text "b", .text "na"]) := rfl
  have hparts : parts = ["b", "na"] := by
    rw [hsplit] at hrun
    match parts, hrun with
    | [_, _], rfl => rfl
  subst hparts
  exact ⟨h, h.replaced⟩

end

end Eval

end TextTemplate
