import TextTemplate.Proofs.Scope.Assignment

/-!
# What maps hold

The pairs of a map after others have been put in: the new ones come first, and the old ones stay
under the keys that are not among the new ones. No key comes to be there twice, and what all values
of both maps have in common stays so.
-/

namespace TextTemplate

namespace Fields

variable {α : Type} {fields added : Fields α} {key name : String} {value : α} {pair : String × α}

theorem has_put (fields : Fields α) (key : String) (value : α) (other : String) :
    (fields.put key value).has other = (other == key || fields.has other) := by
  unfold has
  rw [get?_put]
  split
  · simp [*]
  · simp [*]

/-- There is nothing in a map but what was there and what has been put in. -/
theorem mem_of_mem_put (hmem : pair ∈ fields.put key value) :
    pair = (key, value) ∨ pair ∈ fields := by
  induction fields with
  | nil => exact .inl (List.mem_singleton.mp hmem)
  | cons field rest ih =>
    obtain ⟨k, v⟩ := field
    rw [put] at hmem
    split at hmem
    · rename_i heq
      rcases List.mem_cons.mp hmem with hnew | hrest
      · rw [beq_iff_eq.mp heq] at hnew
        exact .inl hnew
      · exact .inr (.tail _ hrest)
    · rcases List.mem_cons.mp hmem with hnew | hrest
      · exact .inr (hnew ▸ .head _)
      · exact (ih hrest).imp_right (.tail _)

theorem putAll_cons (field : String × α) :
    fields.putAll (field :: added) = (fields.put field.1 field.2).putAll added := rfl

theorem mem_of_mem_putAll (hmem : pair ∈ fields.putAll added) : pair ∈ added ∨ pair ∈ fields := by
  induction added generalizing fields with
  | nil => exact .inr hmem
  | cons field rest ih =>
    rcases ih hmem with hrest | hput
    · exact .inl (.tail _ hrest)
    · rcases mem_of_mem_put hput with rfl | hold
      · exact .inl (.head _)
      · exact .inr hold

/-! ## Keys -/

/-- Putting in a field leaves all keys in their places. -/
theorem keys_prefix_put (fields : Fields α) (key : String) (value : α) :
    fields.keys <+: (fields.put key value).keys := by
  induction fields with
  | nil => exact List.nil_prefix
  | cons field rest ih =>
    obtain ⟨k, v⟩ := field
    rw [put]
    split
    · exact List.prefix_rfl
    · exact List.cons_prefix_cons.mpr ⟨rfl, ih⟩

/-- A key that is there keeps its place, and only its value changes. -/
theorem put_of_mem (h : fields.keys.Nodup) (hkey : key ∈ fields.keys) (value : α) :
    fields.put key value = fields.map fun (k, v) => (k, if k = key then value else v) := by
  induction fields with
  | nil => cases hkey
  | cons field rest ih =>
    obtain ⟨k, v⟩ := field
    obtain ⟨hnew, hrest⟩ := List.nodup_cons.mp h
    by_cases hk : k = key
    · subst hk
      have hothers : rest.map (fun (k', v) => (k', if k' = k then value else v)) = rest.map id :=
        List.map_congr_left fun pair hpair => by
          have hne : pair.1 ≠ k := fun heq => hnew (List.mem_map.mpr ⟨pair, hpair, heq⟩)
          simp [hne]
      simp only [put, beq_self_eq_true, ↓reduceIte, List.map_cons, hothers, List.map_id]
    · have hmem : key ∈ keys rest := (List.mem_cons.mp hkey).resolve_left (Ne.symm hk)
      simp [put, hk, ih hrest hmem]

/-- A key that is new comes behind all others. -/
theorem put_of_not_mem (h : key ∉ fields.keys) (value : α) :
    fields.put key value = fields ++ [(key, value)] := by
  induction fields with
  | nil => rfl
  | cons field rest ih =>
    obtain ⟨hne, hrest⟩ := List.ne_and_not_mem_of_not_mem_cons h
    rw [put, if_neg (by simpa using hne.symm), ih hrest, List.cons_append]

theorem nodup_keys_put (h : fields.keys.Nodup) : (fields.put key value).keys.Nodup := by
  induction fields with
  | nil => simp [put, keys]
  | cons field rest ih =>
    obtain ⟨k, v⟩ := field
    obtain ⟨hnew, hrest⟩ := List.nodup_cons.mp h
    by_cases hk : k = key
    · simpa [put, hk, keys] using h
    · have hkeys : (put key value ((k, v) :: rest)).keys = k :: (put key value rest).keys := by
        simp [put, hk, keys]
      rw [hkeys]
      refine List.nodup_cons.mpr ⟨fun hmem => ?_, ih hrest⟩
      rcases (mem_keys_put rest).mp hmem with heq | hmem
      · exact hk heq
      · exact hnew hmem

theorem mem_put (h : fields.keys.Nodup) :
    pair ∈ fields.put key value ↔ pair = (key, value) ∨ (pair ∈ fields ∧ pair.1 ≠ key) := by
  induction fields with
  | nil => simp [put]
  | cons field rest ih =>
    obtain ⟨k, v⟩ := field
    obtain ⟨hnew, hrest⟩ := List.nodup_cons.mp h
    by_cases hk : k = key
    · subst hk
      have hother : pair ∈ rest → pair.1 ≠ k := fun hmem heq =>
        hnew (List.mem_map.mpr ⟨pair, hmem, heq⟩)
      have hsame : pair = (k, v) → pair.1 = k := fun heq => congrArg Prod.fst heq
      simp only [put, beq_self_eq_true, ↓reduceIte, List.mem_cons]
      tauto
    · have hsame : pair = (k, v) → pair.1 ≠ key := fun heq => heq ▸ hk
      simp only [put, beq_iff_eq, hk, ↓reduceIte, List.mem_cons, ih hrest]
      tauto

theorem nodup_keys_putAll (h : fields.keys.Nodup) : (fields.putAll added).keys.Nodup := by
  induction added generalizing fields with
  | nil => exact h
  | cons field rest ih => exact ih (nodup_keys_put h)

theorem nodup_keys_ofPairs (pairs : Fields α) : (ofPairs pairs).keys.Nodup :=
  nodup_keys_putAll List.nodup_nil

/-- The new keys come behind the old ones, each where it comes first. -/
theorem keys_putAll (fields added : Fields α) :
    (fields.putAll added).keys =
      fields.keys ++ (added.keys.filter (· ∉ fields.keys)).eraseDups := by
  induction added generalizing fields with
  | nil => simp [putAll, keys]
  | cons field rest ih =>
    obtain ⟨key, value⟩ := field
    rw [putAll_cons, ih]
    show _ = fields.keys ++ ((key :: keys rest).filter (· ∉ fields.keys)).eraseDups
    by_cases hkey : key ∈ fields.keys
    · rw [keys_put_of_mem hkey, List.filter_cons_of_neg (by simpa using hkey)]
    · have hput : (fields.put key value).keys = fields.keys ++ [key] := by
        rw [put_of_not_mem hkey, keys, List.map_append]
        rfl
      rw [hput, List.filter_cons_of_pos (by simpa using hkey), List.eraseDups_cons,
        List.filter_filter, List.append_assoc, List.singleton_append]
      simp [not_or, and_comm, beq_eq_decide]

theorem keys_ofPairs (pairs : Fields α) : (ofPairs pairs).keys = pairs.keys.eraseDups := by
  rw [ofPairs, keys_putAll]
  simp [keys]

theorem mem_keys_putAll :
    name ∈ (fields.putAll added).keys ↔ name ∈ fields.keys ∨ name ∈ added.keys := by
  induction added generalizing fields with
  | nil => simp [putAll, keys]
  | cons field rest ih =>
    rw [putAll_cons, ih, mem_keys_put]
    simp only [keys, List.map_cons, List.mem_cons]
    tauto

/-- What has been put in comes first. -/
theorem mem_or_of_mem_putAll (h : fields.keys.Nodup) (hmem : pair ∈ fields.putAll added) :
    pair ∈ added ∨ (pair ∈ fields ∧ pair.1 ∉ added.keys) := by
  induction added generalizing fields with
  | nil => exact .inr ⟨hmem, List.not_mem_nil⟩
  | cons field rest ih =>
    rcases ih (nodup_keys_put h) hmem with hrest | ⟨hput, hkeys⟩
    · exact .inl (.tail _ hrest)
    · rcases (mem_put h).mp hput with heq | ⟨hfields, hkey⟩
      · exact .inl (heq ▸ .head _)
      · exact .inr ⟨hfields, List.not_mem_cons_of_ne_of_not_mem hkey hkeys⟩

theorem mem_putAll_of_mem (h : fields.keys.Nodup) (hmem : pair ∈ fields)
    (hkey : pair.1 ∉ added.keys) : pair ∈ fields.putAll added := by
  induction added generalizing fields with
  | nil => exact hmem
  | cons field rest ih =>
    obtain ⟨hne, hrest⟩ := List.ne_and_not_mem_of_not_mem_cons hkey
    exact ih (nodup_keys_put h) ((mem_put h).mpr (.inr ⟨hmem, hne⟩)) hrest

theorem putAll_eq_append (h : (fields ++ added).keys.Nodup) :
    fields.putAll added = fields ++ added := by
  induction added generalizing fields with
  | nil => exact (List.append_nil _).symm
  | cons field rest ih =>
    have hnew : field.1 ∉ fields.keys := fun hmem => by
      rw [keys, List.map_append, List.nodup_append] at h
      exact h.2.2 _ hmem _ List.mem_cons_self rfl
    rw [putAll_cons, put_of_not_mem hnew, ih (by simpa using h), List.append_assoc,
      List.singleton_append]

theorem ofPairs_eq (h : fields.keys.Nodup) : ofPairs fields = fields := putAll_eq_append h

theorem nodup_keys_erase (h : fields.keys.Nodup) (name : String) : (fields.erase name).keys.Nodup :=
  h.sublist (List.filter_sublist.map _)

/-! ## Values -/

theorem mem_keys_iff : key ∈ fields.keys ↔ ∃ value, fields.get? key = some value := by
  rw [← has_iff_mem_keys, has, Option.isSome_iff_exists]

/-- A field is there if it is found under its key. -/
theorem mem_iff_get? (h : fields.keys.Nodup) :
    (key, value) ∈ fields ↔ fields.get? key = some value := by
  induction fields with
  | nil => simp [get?]
  | cons pair rest ih =>
    obtain ⟨name, found⟩ := pair
    obtain ⟨hnew, hrest⟩ := List.nodup_cons.mp h
    have ih := ih hrest
    simp only [get?] at ih
    by_cases hname : key = name
    · subst hname
      have habsent : (key, value) ∉ rest := fun hmem => hnew (List.mem_map.mpr ⟨_, hmem, rfl⟩)
      simp [get?, habsent, eq_comm]
    · simp [get?, List.lookup, beq_eq_false_iff_ne.mpr hname, hname, ih]

theorem get?_map {β : Type} (f : α → β) (fields : Fields α) (key : String) :
    get? (fields.map fun field => (field.1, f field.2)) key = (fields.get? key).map f := by
  induction fields with
  | nil => rfl
  | cons field rest ih =>
    obtain ⟨name, found⟩ := field
    simp only [get?] at ih
    by_cases hname : key = name
    · simp [get?, hname]
    · simp [get?, List.lookup, beq_eq_false_iff_ne.mpr hname, ih]

/-- Each field of a map has a partner under its key in another map of the same size just if both maps
have the same keys, and what is under the same key are partners. -/
theorem forall_partner_iff {β : Type} {R : α → β → Prop} {others : Fields β}
    (hkeys : fields.keys.Nodup) (hothers : others.keys.Nodup) :
    (fields.length = others.length ∧
      ∀ field ∈ fields, ∃ other, others.get? field.1 = some other ∧ R field.2 other) ↔
    (∀ key, key ∈ fields.keys ↔ key ∈ others.keys) ∧
      ∀ key value other, fields.get? key = some value → others.get? key = some other →
        R value other := by
  have hsize : fields.keys.length = others.keys.length ↔ fields.length = others.length := by
    rw [keys, keys, List.length_map, List.length_map]
  constructor
  · rintro ⟨hlength, hpartner⟩
    have hsub : fields.keys ⊆ others.keys := fun key hkey => by
      obtain ⟨value, hvalue⟩ := mem_keys_iff.mp hkey
      obtain ⟨other, hother, -⟩ := hpartner (key, value) ((mem_iff_get? hkeys).mpr hvalue)
      exact mem_keys_iff.mpr ⟨other, hother⟩
    have hperm : fields.keys.Perm others.keys :=
      (List.subperm_of_subset hkeys hsub).perm_of_length_le (hsize.mpr hlength).ge
    refine ⟨fun key => hperm.mem_iff, fun key value other hvalue hother => ?_⟩
    obtain ⟨found, hfound, hpair⟩ := hpartner (key, value) ((mem_iff_get? hkeys).mpr hvalue)
    obtain rfl := Option.some.inj (hfound.symm.trans hother)
    exact hpair
  · rintro ⟨hsame, hpartner⟩
    have hperm := (List.perm_ext_iff_of_nodup hkeys hothers).mpr hsame
    refine ⟨hsize.mp hperm.length_eq, fun field hfield => ?_⟩
    have hvalue := (mem_iff_get? hkeys).mp hfield
    obtain ⟨other, hother⟩ :=
      mem_keys_iff.mp ((hsame field.1).mp (mem_keys_iff.mpr ⟨_, hvalue⟩))
    exact ⟨other, hother, hpartner _ _ _ hvalue hother⟩

/-- A key has the value that it was put in with last. -/
theorem get?_putAll (fields added : Fields α) (key : String) :
    (fields.putAll added).get? key = (get? added.reverse key).or (fields.get? key) := by
  induction added generalizing fields with
  | nil => rfl
  | cons field rest ih =>
    obtain ⟨name, value⟩ := field
    have hlast : get? (rest.reverse ++ [(name, value)]) key =
        (get? rest.reverse key).or (if key = name then some value else none) := by
      rw [get?, List.lookup_append]
      by_cases h : key = name
      · simp [get?, h]
      · simp [get?, List.lookup, h, beq_eq_false_iff_ne.mpr h]
    rw [putAll_cons, ih, get?_put, List.reverse_cons, hlast, Option.or_assoc]
    by_cases h : key = name <;> simp [h]

theorem get?_ofPairs (pairs : Fields α) (key : String) :
    (ofPairs pairs).get? key = get? pairs.reverse key := by
  rw [ofPairs, get?_putAll]
  exact Option.or_none

theorem get?_putAll_of_not_mem (h : name ∉ added.keys) :
    (fields.putAll added).get? name = fields.get? name := by
  have hnone : get? added.reverse name = none :=
    List.lookup_eq_none_iff.mpr fun pair hpair => bne_iff_ne.mpr fun heq =>
      h (List.mem_map.mpr ⟨pair, List.mem_reverse.mp hpair, heq.symm⟩)
  rw [get?_putAll, hnone, Option.none_or]

/-- What is put in last under a name is found there. -/
theorem get?_putAll_append (earlier : Fields α) (value : α) {later : Fields α}
    (h : name ∉ later.keys) :
    (fields.putAll (earlier ++ (name, value) :: later)).get? name = some value := by
  have hsplit : fields.putAll (earlier ++ (name, value) :: later) =
      ((fields.putAll earlier).put name value).putAll later := by simp [putAll]
  rw [hsplit, get?_putAll_of_not_mem h, get?_put, if_pos rfl]

theorem get?_ofPairs_of_nodup (h : fields.keys.Nodup) (key : String) :
    (ofPairs fields).get? key = fields.get? key := by
  rw [ofPairs_eq h]

/-- All values of a map are good ones. -/
def All (good : α → Prop) (fields : Fields α) : Prop := ∀ pair ∈ fields, good pair.2

variable {good : α → Prop}

theorem All.put (h : All good fields) (key : String) (hvalue : good value) :
    All good (fields.put key value) := by
  intro pair hmem
  rcases mem_of_mem_put hmem with rfl | hold
  · exact hvalue
  · exact h pair hold

theorem All.ofPairs {pairs : Fields α} (h : All good pairs) : All good (ofPairs pairs) := by
  intro pair hmem
  exact (mem_of_mem_putAll hmem).elim (h pair) nofun

theorem All.get? (h : All good fields) (hget : fields.get? key = some value) : good value := by
  induction fields with
  | nil => cases hget
  | cons pair rest ih =>
    obtain ⟨name, found⟩ := pair
    obtain ⟨hpair, hrest⟩ := List.forall_mem_cons.mp h
    simp only [Fields.get?, List.lookup] at hget
    split at hget
    · cases hget
      exact hpair
    · exact ih hrest hget

end Fields

namespace Table

variable {α : Type} {good : α → Prop} {table : Table α} {value : α}

/-- All values of a table are good ones. -/
def All (good : α → Prop) (table : Table α) : Prop := ∀ pair ∈ table, good pair.2

theorem All.put (h : All good table) (label : Label) (hvalue : good value) :
    All good (table.put label value) := by
  induction table with
  | nil => exact List.forall_mem_singleton.mpr hvalue
  | cons pair rest ih =>
    obtain ⟨hpair, hrest⟩ := List.forall_mem_cons.mp h
    simp only [Table.put]
    split
    · exact List.forall_mem_cons.mpr ⟨hvalue, hrest⟩
    · exact List.forall_mem_cons.mpr ⟨hpair, ih hrest⟩

theorem All.ofPairs {pairs : Table α} (h : All good pairs) : All good (ofPairs pairs) :=
  List.foldlRecOn pairs _ nofun fun _ htable pair hmem => htable.put pair.1 (h pair hmem)

theorem All.get? (h : All good table) {label : Label} (hget : table.get? label = some value) :
    good value := by
  induction table with
  | nil => cases hget
  | cons pair rest ih =>
    obtain ⟨hpair, hrest⟩ := List.forall_mem_cons.mp h
    simp only [Table.get?] at hget
    split at hget
    · cases hget
      exact hpair
    · exact ih hrest hget

theorem All.named (h : All good table) : Fields.All good table.named := by
  intro pair hmem
  obtain ⟨⟨label, value⟩, hpair, hname⟩ := List.mem_filterMap.mp hmem
  cases label with
  | text name => cases hname; exact h _ hpair
  | _ => cases hname

end Table

end TextTemplate
