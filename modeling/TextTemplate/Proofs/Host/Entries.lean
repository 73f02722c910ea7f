import TextTemplate.Host.Key
import Mathlib.Data.List.Induction

/-!
# Maps made of pairs

Pairs that are put into a map one after the other leave each key at the place where it came first,
with the value that came with it last.
-/

namespace TextTemplate.Host

variable {α : Type} {key name : Host} {value : α} {pairs : List (Host × α)} {s : String}

theorem sameKey_text_left : sameKey (.text s) key ↔ key = .text s := by
  cases key with
  | text s' => rw [sameKey, beq_iff_eq, text.injEq, eq_comm]
  | _ => exact ⟨nofun, nofun⟩

theorem sameKey_text_right : sameKey key (.text s) ↔ key = .text s := by
  cases key with
  | text s' => rw [sameKey, beq_iff_eq, text.injEq]
  | function f => cases f <;> exact ⟨nofun, nofun⟩
  | ready v form => cases v <;> exact ⟨nofun, nofun⟩
  | number n => cases n <;> exact ⟨nofun, nofun⟩
  | _ => exact ⟨nofun, nofun⟩

/-- The value that comes last with a key. -/
def latest? (key : Host) (pairs : List (Host × α)) : Option α :=
  (pairs.reverse.find? fun pair => key.sameKey pair.1).map (·.2)

theorem latest?_concat (key : Host) (pairs : List (Host × α)) (name : Host) (value : α) :
    latest? key (pairs ++ [(name, value)]) =
      if key.sameKey name then some value else latest? key pairs := by
  rw [latest?, List.reverse_append, List.reverse_singleton, List.singleton_append, List.find?_cons]
  cases h : key.sameKey name <;> simp [latest?]

theorem latest?_eq_none (h : ∀ pair ∈ pairs, key.sameKey pair.1 = false) :
    latest? key pairs = none := by
  rw [latest?, Option.map_eq_none_iff, List.find?_eq_none]
  intro pair hpair
  rw [h pair (List.mem_reverse.mp hpair)]
  exact Bool.false_ne_true

/-- What comes behind the last pair with a key makes no difference. -/
theorem latest?_append_cons (before : List (Host × α)) (hname : key.sameKey name)
    (h : ∀ pair ∈ pairs, key.sameKey pair.1 = false) :
    latest? key (before ++ (name, value) :: pairs) = some value := by
  have hnone : pairs.reverse.find? (fun pair => key.sameKey pair.1) = none :=
    Option.map_eq_none_iff.mp (latest?_eq_none h)
  rw [latest?, List.reverse_append, List.reverse_cons, List.append_assoc, List.find?_append, hnone,
    Option.none_or, List.singleton_append, List.find?_cons, hname]
  rfl

theorem entriesOfPairs_concat (pairs : List (Host × α)) (name : Host) (value : α) :
    entriesOfPairs (pairs ++ [(name, value)]) = putEntry name value (entriesOfPairs pairs) :=
  List.foldl_append

theorem entry?_cons (s : String) (name : Host) (value : α) (entries : List (Host × α)) :
    entry? s ((name, value) :: entries) =
      if sameKey (.text s) name then some value else entry? s entries := by
  by_cases hname : name = .text s
  · rw [if_pos (sameKey_text_left.mpr hname), hname, entry?, if_pos (beq_self_eq_true s)]
  · rw [if_neg (mt sameKey_text_left.mp hname)]
    cases name with
    | text s' => rw [ entry?, if_neg fun h => hname (congrArg text (beq_iff_eq.mp h))]
    | _ => rfl

theorem entry?_putEntry (s : String) (name : Host) (value : α) (entries : List (Host × α)) :
    entry? s (putEntry name value entries) =
      if sameKey (.text s) name then some value else entry? s entries := by
  induction entries with
  | nil => rw [putEntry, entry?_cons]
  | cons entry rest ih =>
    obtain ⟨k, v⟩ := entry
    rw [putEntry]
    split
    · rename_i hsame
      -- Of two keys that are the same, both are the text or none is.
      have htext : sameKey (.text s) k ↔ sameKey (.text s) name := by
        rw [sameKey_text_left, sameKey_text_left]
        constructor <;> rintro rfl
        · exact sameKey_text_left.mp hsame
        · exact sameKey_text_right.mp hsame
      rw [entry?_cons, entry?_cons]
      split <;> simp_all
    · rename_i hsame
      rw [entry?_cons, entry?_cons, ih]
      by_cases hk : sameKey (.text s) k
      · obtain rfl := sameKey_text_left.mp hk
        rw [if_pos hk, if_neg hsame, if_pos hk]
      · rw [if_neg hk, if_neg hk]

/-- Under a text stands the value that comes last with it. -/
theorem entry?_entriesOfPairs (s : String) (pairs : List (Host × α)) :
    entry? s (entriesOfPairs pairs) = latest? (.text s) pairs := by
  induction pairs using List.reverseRecOn with
  | nil => rfl
  | append_singleton pairs pair ih =>
    rw [entriesOfPairs_concat, entry?_putEntry, latest?_concat, ih]

/-- The first key comes first, with the value that comes last with it. -/
theorem head?_entriesOfPairs (name : Host) (value : α) (pairs : List (Host × α)) :
    (entriesOfPairs ((name, value) :: pairs)).head? =
      some (name, (latest? name pairs).getD value) := by
  induction pairs using List.reverseRecOn with
  | nil => rfl
  | append_singleton pairs pair ih =>
    obtain ⟨rest, hentries⟩ := List.head?_eq_some_iff.mp ih
    rw [← List.cons_append, entriesOfPairs_concat, hentries, putEntry, latest?_concat]
    split <;> rfl

end TextTemplate.Host
