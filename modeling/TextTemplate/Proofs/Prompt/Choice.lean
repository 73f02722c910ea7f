import TextTemplate.ModelFolder
import TextTemplate.Proofs.Host.Entries

/-!
# The template that settings choose

A folder of a model has a template in its settings, or several with names. Of several, the one with
the name of the default is chosen, or else the first one. They are held by their names: what cannot
be a key is no name, and a template takes the place of an earlier one of its name.
-/

namespace TextTemplate.ModelFolder

open Host (latest?)

variable {entry name : Host} {template : String} {entries : List Host}

/-- An entry with a text for its template. Its name is any value, and null if it has none. -/
def Usable (entry name : Host) (template : String) : Prop :=
  ∃ fields, entry = .map fields ∧ Host.entry? "template" fields = some (.text template) ∧
    (Host.entry? "name" fields).getD .null = name

theorem usable?_eq_some : usable? entry = some (name, template) ↔ Usable entry name template := by
  constructor
  · intro h
    unfold usable? at h
    split at h
    · rename_i fields
      split at h
      · rename_i htemplate
        cases h
        exact ⟨fields, rfl, htemplate, rfl⟩
      · cases h
    · cases h
  · rintro ⟨fields, rfl, htemplate, rfl⟩
    rw [usable?, htemplate]

/-- The usable entries of a list. -/
def usables (entries : List Host) : List (Host × String) := entries.filterMap usable?

theorem mem_usables :
    (name, template) ∈ usables entries ↔ ∃ entry ∈ entries, Usable entry name template := by
  simp only [usables, List.mem_filterMap, usable?_eq_some]

theorem usables_append_cons (h : Usable entry name template) (before after : List Host) :
    usables (before ++ entry :: after) = usables before ++ (name, template) :: usables after := by
  rw [usables, List.filterMap_append, List.filterMap_cons_some (usable?_eq_some.mpr h)]
  rfl

theorem usables_eq_nil (h : ∀ entry ∈ entries, ∀ name template, ¬Usable entry name template) :
    usables entries = [] := by
  refine List.eq_nil_iff_forall_not_mem.mpr fun (name, template) hmem => ?_
  obtain ⟨entry, hentry, husable⟩ := mem_usables.mp hmem
  exact h entry hentry name template husable

theorem forall_usables {p : Host → Prop}
    (h : ∀ entry ∈ entries, ∀ name template, Usable entry name template → p name) :
    ∀ pair ∈ usables entries, p pair.1 := by
  intro pair hpair
  obtain ⟨entry, hentry, husable⟩ := mem_usables.mp hpair
  exact h entry hentry pair.1 pair.2 husable

/-- No usable entry has the name. -/
def NoneNamed (name : Host) (entries : List Host) : Prop :=
  ∀ entry ∈ entries, ∀ other template, Usable entry other template → name.sameKey other = false

/-- What is chosen from a list whose usable entries all have names that can be keys. -/
structure Chosen (entries : List Host) (choice : Option String) : Prop where
  none : (∀ entry ∈ entries, ∀ name template, ¬Usable entry name template) → choice = .none
  /-- The last one that has the name of the default. -/
  default : ∀ before entry after template, entries = before ++ entry :: after →
    Usable entry (.text defaultName) template → NoneNamed (.text defaultName) after →
    choice = some template
  /-- The first one, if no later one has its name. -/
  first : ∀ before entry after name template, entries = before ++ entry :: after →
    NoneNamed (.text defaultName) entries →
    (∀ earlier ∈ before, ∀ other template, ¬Usable earlier other template) →
    Usable entry name template → NoneNamed name after → choice = some template
  /-- Or else the last one that has the name of the first. -/
  replaced : ∀ before entry between later after name template other replacement,
    entries = before ++ entry :: (between ++ later :: after) →
    NoneNamed (.text defaultName) entries →
    (∀ earlier ∈ before, ∀ other template, ¬Usable earlier other template) →
    Usable entry name template → Usable later other replacement → name.sameKey other →
    NoneNamed name after → choice = some replacement

/-- The choice from templates by their names. -/
def choice? (templates : List (Host × String)) : Option String :=
  match latest? (.text defaultName) templates with
  | some template => some template
  | none => (Host.entriesOfPairs templates).head?.map (·.2)

theorem select_list (hkeys : ∀ pair ∈ usables entries, pair.1.isKey) :
    select (.list entries) = .ok (choice? (usables entries)) := by
  have hnamed : named (usables entries) = .ok (Host.entriesOfPairs (usables entries)) :=
    if_pos (List.all_eq_true.mpr hkeys)
  show (named (usables entries) >>= _) = _
  rw [hnamed, choice?, ← Host.entry?_entriesOfPairs]
  rfl

theorem select_refused (h : ∃ pair ∈ usables entries, pair.1.isKey = false) :
    select (.list entries) = .error .wrongType := by
  have hnamed : named (usables entries) = .error .wrongType := by
    refine if_neg fun hall => ?_
    obtain ⟨pair, hpair, hkey⟩ := h
    rw [List.all_eq_true.mp hall pair hpair] at hkey
    cases hkey
  show (named (usables entries) >>= _) = _
  rw [hnamed]
  rfl

theorem choice?_of_first {templates : List (Host × String)}
    (h : ∀ pair ∈ (name, template) :: templates, Host.sameKey (.text defaultName) pair.1 = false) :
    choice? ((name, template) :: templates) = some ((latest? name templates).getD template) := by
  rw [choice?, Host.latest?_eq_none h, Host.head?_entriesOfPairs]
  rfl

theorem chosen_choice? (entries : List Host) : Chosen entries (choice? (usables entries)) where
  none h := by
    rw [usables_eq_nil h]
    rfl
  default before entry after template hentries husable hafter := by
    subst hentries
    have hname : Host.sameKey (.text defaultName) (.text defaultName) :=
      Host.sameKey_text_left.mpr rfl
    rw [usables_append_cons husable, choice?,
      Host.latest?_append_cons _ hname (forall_usables hafter)]
  first before entry after name template hentries hdefault hbefore husable hafter := by
    subst hentries
    have hfirst : usables (before ++ entry :: after) = (name, template) :: usables after := by
      rw [usables_append_cons husable, usables_eq_nil hbefore, List.nil_append]
    have hnone := forall_usables hdefault
    rw [hfirst] at hnone
    rw [hfirst, choice?_of_first hnone, Host.latest?_eq_none (forall_usables hafter)]
    rfl
  replaced before entry between later after name template other replacement hentries hdefault
      hbefore husable hlater hsame hafter := by
    subst hentries
    have hfirst : usables (before ++ entry :: (between ++ later :: after)) =
        (name, template) :: (usables between ++ (other, replacement) :: usables after) := by
      rw [usables_append_cons husable, usables_append_cons hlater, usables_eq_nil hbefore,
        List.nil_append]
    have hnone := forall_usables hdefault
    rw [hfirst] at hnone
    rw [hfirst, choice?_of_first hnone,
      Host.latest?_append_cons _ hsame (forall_usables hafter)]
    rfl

/-- What the entry of a settings file comes to. -/
structure Selection (x : Host) : Prop where
  text : ∀ template, x = .text template → select x = .ok (some template)
  other : (∀ template, x ≠ .text template) → (∀ entries, x ≠ .list entries) → select x = .ok none
  /-- A list is refused just if some usable entry has a name that cannot be a key; of what documents
  hold, these are lists and objects. -/
  refused : ∀ entries, x = .list entries →
    (select x = .error .wrongType ↔
      ∃ entry ∈ entries, ∃ name template, Usable entry name template ∧ name.isKey = false)
  chosen : ∀ entries, x = .list entries →
    (∀ entry ∈ entries, ∀ name template, Usable entry name template → name.isKey) →
    ∃ choice, select x = .ok choice ∧ Chosen entries choice

/-- What can stand in a settings file is a template, a list that one is chosen from or that is
refused, or something without one. -/
theorem select_chooses (x : Host) : Selection x where
  text template hx := by
    subst hx
    rfl
  other htext hlist := by
    cases x with
    | text template => exact absurd rfl (htext template)
    | list entries => exact absurd rfl (hlist entries)
    | _ => rfl
  refused entries hx := by
    subst hx
    constructor
    · intro hrefused
      by_contra hnone
      have hkeys : ∀ entry ∈ entries, ∀ name template, Usable entry name template → name.isKey := by
        intro entry hentry name template husable
        by_contra hkey
        exact hnone ⟨entry, hentry, name, template, husable, Bool.eq_false_iff.mpr hkey⟩
      rw [select_list (forall_usables hkeys)] at hrefused
      cases hrefused
    · rintro ⟨entry, hentry, name, template, husable, hkey⟩
      exact select_refused ⟨(name, template), mem_usables.mpr ⟨entry, hentry, husable⟩, hkey⟩
  chosen entries hx hkeys := by
    subst hx
    exact ⟨_, select_list (forall_usables hkeys), chosen_choice? entries⟩

/-- A name that is a list cannot be a key, also where it stands beside the default. -/
example :
    let list := Host.map [(.text "name", .list []), (.text "template", .text "a")]
    let default := Host.map [(.text "name", .text "default"), (.text "template", .text "b")]
    select (.list [list, default]) = .error .wrongType := rfl

/-- Entries without names all have the same one. -/
example :
    let nameless (template : String) := Host.map [(.text "template", .text template)]
    select (.list [nameless "a", nameless "b"]) = .ok (some "b") := rfl

end TextTemplate.ModelFolder
