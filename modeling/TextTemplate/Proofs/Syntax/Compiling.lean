import Mathlib
import TextTemplate.Template

/-!
# Templates by their characters

The tree of a template that is written out is found in three steps, each of which can be computed:
white space control on its characters, the tokens of what is left, and the tree of the tokens.
-/

namespace TextTemplate

open List (Forall₂)

/-- A text consists of the given characters. -/
def Text.Spells (s : String) (cs : List Char) : Prop := s = String.ofList cs

namespace Text.Spells

variable {s s' : String} {cs cs' : List Char}

theorem chars (cs : List Char) : Spells (String.ofList cs) cs := rfl

theorem toList_eq (h : Spells s cs) : s.toList = cs := by
  rw [h, String.toList_ofList]

theorem append (h : Spells s cs) (h' : Spells s' cs') : Spells (s ++ s') (cs ++ cs') := by
  rw [Spells, h, h', String.ofList_append]

theorem intercalate (h : Spells s cs) {parts : List String} {chars : List (List Char)}
    (hparts : Forall₂ Spells parts chars) :
    Spells (s.intercalate parts) (cs.intercalate chars) := by
  have hchars : parts.map String.toList = chars := by
    induction hparts with
    | nil => rfl
    | cons hpart _ ih => rw [List.map_cons, hpart.toList_eq, ih]
  rw [Spells, ← hchars, ← h.toList_eq, ← String.toList_intercalate, String.ofList_toList]

end Text.Spells

theorem analyse_of_ofSource {trimming : Source.Trimming} {source : String} {tokens : List Token}
    {tree : Node} (htokens : Token.ofSource trimming source = .ok tokens)
    (htree : Node.ofTokens tokens = .ok tree) : analyse trimming source = .ok (tokens, tree) := by
  rw [analyse, htokens]
  show (do
    let tree ← (Node.ofTokens tokens).mapError Failure.structural
    pure (tokens, tree)) = _
  rw [htree]
  rfl

theorem analyse_of_spells {trimming : Source.Trimming} {source : String} {cs prepared : List Char}
    {tokens : List Token} {tree : Node} (hsource : Text.Spells source cs)
    (hprepared : Source.prepareChars trimming cs = prepared)
    (htokens : Token.scan prepared = .ok tokens) (htree : Node.ofTokens tokens = .ok tree) :
    analyse trimming source = .ok (tokens, tree) := by
  have hscan : Token.ofSource trimming source = .ok tokens := by
    simp only [Token.ofSource, hsource.toList_eq, hprepared, htokens]
  exact analyse_of_ofSource hscan htree

theorem compile_of_analyse {trimming : Source.Trimming} {source : String} {tokens : List Token}
    {tree : Node} (h : analyse trimming source = .ok (tokens, tree)) :
    compile trimming source = .ok tree := by
  rw [compile, h]
  rfl

/-- A template is refused when its tokens are. -/
theorem compile_of_refused {trimming : Source.Trimming} {source : String} {tokens : List Token}
    {e : ParseError} (htokens : Token.ofSource trimming source = .ok tokens)
    (htree : Node.ofTokens tokens = .error e) :
    compile trimming source = .error (.structural e) := by
  rw [compile, analyse, htokens]
  show Prod.snd <$> (do
    let tree ← (Node.ofTokens tokens).mapError Failure.structural
    pure (tokens, tree)) = _
  rw [htree]
  rfl

/-- The tree of a template that compiles is the tree of its tokens. -/
theorem tokens_of_compile {trimming : Source.Trimming} {source : String} {tree : Node}
    (h : compile trimming source = .ok tree) :
    ∃ tokens, Token.ofSource trimming source = .ok tokens ∧ Node.ofTokens tokens = .ok tree := by
  unfold compile analyse at h
  cases htokens : Token.ofSource trimming source with
  | error e => rw [htokens] at h; cases h
  | ok tokens =>
    rw [htokens] at h
    refine ⟨tokens, rfl, ?_⟩
    change Prod.snd <$> (do
      let tree ← (Node.ofTokens tokens).mapError Failure.structural
      pure (tokens, tree)) = _ at h
    cases htree : Node.ofTokens tokens with
    | error e => rw [htree] at h; cases h
    | ok tree => rw [htree] at h; cases h; rfl

end TextTemplate
