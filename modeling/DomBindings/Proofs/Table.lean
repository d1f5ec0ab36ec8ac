import DomBindings.Table
import Mathlib.Data.List.Induction
import Mathlib.Data.List.Perm.Subperm

/-!
# Tables as functions and as sorted lists

A name is bound once in a table, so looking a name up and finding its entry are the same
(`get?_eq_some_iff`). The table of a list that repeats a name has it where it first comes, bound to
what it comes with last (`names_ofList`, `get?_ofList`). The entries in the order of their names are
the entries of the table, and their names increase strictly (`byName_perm`, `byName_increasing`);
together the two determine the list, since lists that increase under a key and have the same members
are equal (`eq_of_increasing`).
-/

namespace DomBindings

universe u v

variable {α : Type u} {β : Type v}

namespace Text

/-- Of two texts that differ, one comes first. -/
theorem lt_of_not_lt_of_ne {s t : Text} (h : ¬ t < s) (hne : s ≠ t) : s < t :=
  Classical.byContradiction fun hst => hne (List.le_antisymm h hst)

theorem not_lt_trans {s t u : Text} (hts : ¬ t < s) (hut : ¬ u < t) : ¬ u < s :=
  @List.le_trans Char _ _ _ _ s t u hts hut

theorem ne_of_lt {s t : Text} (h : s < t) : s ≠ t := by
  rintro rfl
  exact List.lt_irrefl s h

end Text

namespace Table

/-! ### Looking names up -/

theorem mem_names_iff {t : Table α} {name : Text} :
    name ∈ t.names ↔ ∃ x, (name, x) ∈ t.entries := by
  simp [names]

/-- Looking up in a list of distinct names is finding the entry. -/
theorem lookup_eq_some_iff_mem {entries : List (Text × α)} (h : (entries.map Prod.fst).Nodup)
    {name : Text} {x : α} : entries.lookup name = some x ↔ (name, x) ∈ entries := by
  induction entries with
  | nil => simp
  | cons e rest ih =>
    obtain ⟨n, y⟩ := e
    rw [List.map_cons, List.nodup_cons] at h
    rw [List.lookup_cons, List.mem_cons]
    by_cases hn : name = n
    · subst hn
      have hrest : (name, x) ∉ rest := fun hmem => h.1 (List.mem_map.mpr ⟨_, hmem, rfl⟩)
      simp [hrest, eq_comm]
    · have hb : (name == n) = false := by simpa using hn
      rw [hb]
      simp [ih h.2, hn]

theorem get?_eq_some_iff {t : Table α} {name : Text} {x : α} :
    t.get? name = some x ↔ (name, x) ∈ t.entries :=
  lookup_eq_some_iff_mem t.nodup

theorem mem_names_iff_contains {t : Table α} {name : Text} :
    name ∈ t.names ↔ t.contains name = true := by
  rw [mem_names_iff, contains, Option.isSome_iff_exists]
  simp only [get?_eq_some_iff]

theorem contains_of_get? {t : Table α} {name : Text} {x : α} (h : t.get? name = some x) :
    t.contains name = true := by
  rw [contains, h]
  rfl

/-! ### Binding names in turn -/

theorem mem_put {name : Text} {x : α} {entries : List (Text × α)} {e : Text × α}
    (h : e ∈ put name x entries) : e = (name, x) ∨ e ∈ entries := by
  induction entries with
  | nil => exact .inl (List.mem_singleton.mp h)
  | cons other rest ih =>
    rw [put] at h
    split at h
    · exact (List.mem_cons.mp h).imp_right (List.mem_cons_of_mem _)
    · rcases List.mem_cons.mp h with rfl | h
      · exact .inr List.mem_cons_self
      · exact (ih h).imp_right (List.mem_cons_of_mem _)

/-- A name that was not bound is bound at the end. -/
theorem put_of_not_mem {name : Text} {x : α} {entries : List (Text × α)}
    (h : name ∉ entries.map Prod.fst) : put name x entries = entries ++ [(name, x)] := by
  induction entries with
  | nil => rfl
  | cons other rest ih =>
    rw [List.map_cons, List.mem_cons, not_or] at h
    rw [put, if_neg (Ne.symm h.1), ih h.2, List.cons_append]

theorem entries_ofList_append_singleton (entries : List (Text × α)) (e : Text × α) :
    (ofList (entries ++ [e])).entries = put e.1 e.2 (ofList entries).entries := by
  rw [ofList, List.foldl_append]
  rfl

/-- The table of a list has no entries but those of the list. -/
theorem mem_of_mem_ofList {entries : List (Text × α)} {e : Text × α}
    (h : e ∈ (ofList entries).entries) : e ∈ entries := by
  induction entries using List.reverseRecOn with
  | nil => exact h
  | append_singleton entries last ih =>
    rw [entries_ofList_append_singleton] at h
    rcases mem_put h with rfl | h
    · exact List.mem_append_right _ List.mem_cons_self
    · exact List.mem_append_left _ (ih h)

/-- And it has them as they stand, if the names in the list are distinct. -/
theorem entries_ofList {entries : List (Text × α)} (h : (entries.map Prod.fst).Nodup) :
    (ofList entries).entries = entries := by
  induction entries using List.reverseRecOn with
  | nil => rfl
  | append_singleton entries last ih =>
    rw [List.map_append, List.nodup_append] at h
    have hnew : last.1 ∉ entries.map Prod.fst := fun hmem =>
      h.2.2 _ hmem _ List.mem_cons_self rfl
    rw [entries_ofList_append_singleton, ih h.1, put_of_not_mem hnew]

/-- The names in the table are those in the list, where they first come. -/
theorem names_ofList (entries : List (Text × α)) :
    (ofList entries).names = (entries.map Prod.fst).eraseDups := by
  induction entries using List.reverseRecOn with
  | nil => rfl
  | append_singleton entries last ih =>
    rw [names, entries_ofList_append_singleton, names_put, ← names, ih, List.map_append,
      List.eraseDups_append]
    by_cases h : last.1 ∈ entries.map Prod.fst
    · simp [List.removeAll, h]
    · simp [List.removeAll, h, List.eraseDups_cons]

/-- There are as many entries as in the list exactly where no name is repeated in it. -/
theorem size_ofList_iff (entries : List (Text × α)) :
    (ofList entries).size = entries.length ↔ (entries.map Prod.fst).Nodup := by
  have hdistinct : (entries.map Prod.fst).eraseDups.Nodup :=
    names_ofList entries ▸ (ofList entries).nodup
  have hsize : (ofList entries).size = (entries.map Prod.fst).eraseDups.length := by
    rw [← names_ofList, names, List.length_map, size]
  rw [hsize, ← List.length_map (f := Prod.fst)]
  constructor
  · intro h
    have hsub : (entries.map Prod.fst).eraseDups.Subperm (entries.map Prod.fst) :=
      List.subperm_of_subset hdistinct fun _ => List.mem_eraseDups.mp
    exact (hsub.perm_of_length_le (Nat.le_of_eq h.symm)).nodup hdistinct
  · intro h
    exact ((List.perm_ext_iff_of_nodup hdistinct h).mpr fun _ => List.mem_eraseDups).length_eq

/-- What the last of the entries with a name binds it to. -/
def lastOf (entries : List (Text × α)) (name : Text) : Option α :=
  (entries.filter fun e => e.1 = name).getLast?.map Prod.snd

theorem lookup_put (name other : Text) (x : α) (entries : List (Text × α)) :
    (put name x entries).lookup other
      = if other = name then some x else entries.lookup other := by
  induction entries with
  | nil =>
    by_cases h : other = name
    · simp [put, h]
    · simp [put, h, List.lookup_cons, beq_false_of_ne h]
  | cons e rest ih =>
    obtain ⟨n, y⟩ := e
    rw [put]
    by_cases hn : n = name
    · subst hn
      by_cases h : other = n
      · simp [h]
      · simp [h, List.lookup_cons, beq_false_of_ne h]
    · rw [if_neg hn, List.lookup_cons, List.lookup_cons, ih]
      by_cases h : other = n
      · subst h
        simp [hn]
      · simp [beq_false_of_ne h]

/-- A name that comes again is bound to what comes last. -/
theorem get?_ofList (entries : List (Text × α)) (name : Text) :
    (ofList entries).get? name = lastOf entries name := by
  induction entries using List.reverseRecOn with
  | nil => rfl
  | append_singleton entries last ih =>
    rw [get?, entries_ofList_append_singleton, lookup_put, ← get?, ih, lastOf, lastOf,
      List.filter_append]
    by_cases h : name = last.1
    · simp [h]
    · simp [h, Ne.symm h]

/-! ### Parts and images -/

@[simp] theorem mem_entries_filter {t : Table α} {p : Text → α → Bool} {name : Text} {x : α} :
    (name, x) ∈ (t.filter p).entries ↔ (name, x) ∈ t.entries ∧ p name x = true := by
  simp [filter]

theorem entries_filter_sublist (t : Table α) (p : Text → α → Bool) :
    (t.filter p).entries.Sublist t.entries :=
  List.filter_sublist

@[simp] theorem mem_entries_map {t : Table α} {f : α → β} {name : Text} {y : β} :
    (name, y) ∈ (t.map f).entries ↔ ∃ x, (name, x) ∈ t.entries ∧ f x = y := by
  simp only [map, List.mem_map, Prod.mk.injEq, Prod.exists]
  constructor
  · rintro ⟨n, x, hmem, rfl, rfl⟩
    exact ⟨x, hmem, rfl⟩
  · rintro ⟨x, hmem, rfl⟩
    exact ⟨name, x, hmem, rfl, rfl⟩

theorem get?_map (t : Table α) (f : α → β) (name : Text) :
    (t.map f).get? name = (t.get? name).map f := by
  apply Option.ext
  intro y
  rw [get?_eq_some_iff, mem_entries_map, Option.map_eq_some_iff]
  simp only [get?_eq_some_iff]

@[simp] theorem names_map (t : Table α) (f : α → β) : (t.map f).names = t.names := by
  simp [names, map, List.map_map, Function.comp_def]

/-! ### The order of names -/

theorem insertByName_perm (e : Text × α) (entries : List (Text × α)) :
    (insertByName e entries).Perm (e :: entries) := by
  induction entries with
  | nil => exact .refl _
  | cons other rest ih =>
    rw [insertByName]
    split
    · exact (ih.cons other).trans (.swap e other rest)
    · exact .refl _

theorem foldr_insertByName_perm (entries : List (Text × α)) :
    (entries.foldr insertByName []).Perm entries := by
  induction entries with
  | nil => exact .refl _
  | cons e rest ih => exact (insertByName_perm e _).trans (ih.cons e)

/-- The entries in the order of their names are the entries of the table. -/
theorem byName_perm (t : Table α) : t.byName.Perm t.entries :=
  foldr_insertByName_perm t.entries

theorem length_byName (t : Table α) : t.byName.length = t.size :=
  t.byName_perm.length_eq

theorem mem_byName {t : Table α} {e : Text × α} : e ∈ t.byName ↔ e ∈ t.entries :=
  t.byName_perm.mem_iff

/-- An entry with a new name is put where the names keep increasing. -/
theorem insertByName_increasing {e : Text × α} {entries : List (Text × α)}
    (h : entries.Pairwise fun a b => a.1 < b.1) (hnew : e.1 ∉ entries.map Prod.fst) :
    (insertByName e entries).Pairwise fun a b => a.1 < b.1 := by
  induction entries with
  | nil => exact List.pairwise_singleton _ e
  | cons other rest ih =>
    rw [List.pairwise_cons] at h
    rw [List.map_cons, List.mem_cons, not_or] at hnew
    rw [insertByName]
    split
    · next hlt =>
      refine List.pairwise_cons.mpr ⟨fun b hb => ?_, ih h.2 hnew.2⟩
      rcases List.mem_cons.mp ((insertByName_perm e rest).mem_iff.mp hb) with rfl | hb
      · exact hlt
      · exact h.1 b hb
    · next hlt =>
      have he : e.1 < other.1 := Text.lt_of_not_lt_of_ne hlt hnew.1
      refine List.pairwise_cons.mpr ⟨fun b hb => ?_, List.pairwise_cons.mpr h⟩
      rcases List.mem_cons.mp hb with rfl | hb
      · exact he
      · exact List.lt_trans he (h.1 b hb)

theorem foldr_insertByName_increasing {entries : List (Text × α)}
    (h : (entries.map Prod.fst).Nodup) :
    (entries.foldr insertByName []).Pairwise fun a b => a.1 < b.1 := by
  induction entries with
  | nil => exact .nil
  | cons e rest ih =>
    rw [List.map_cons, List.nodup_cons] at h
    refine insertByName_increasing (ih h.2) fun hmem => h.1 ?_
    exact ((foldr_insertByName_perm rest).map Prod.fst).mem_iff.mp hmem

/-- The names of the entries in the order of their names increase strictly. -/
theorem byName_increasing (t : Table α) : t.byName.Pairwise fun a b => a.1 < b.1 :=
  foldr_insertByName_increasing t.nodup

/-- A list that increases under a key repeats nothing. -/
theorem nodup_of_increasing {key : β → Text} {xs : List β}
    (h : xs.Pairwise fun a b => key a < key b) : xs.Nodup := by
  refine List.Pairwise.imp ?_ h
  intro a b hab he
  subst he
  exact List.lt_irrefl _ hab

/-- Lists that increase under a key are equal when they have the same members. -/
theorem eq_of_increasing {key : β → Text} {xs ys : List β}
    (hx : xs.Pairwise fun a b => key a < key b) (hy : ys.Pairwise fun a b => key a < key b)
    (h : ∀ a, a ∈ xs ↔ a ∈ ys) : xs = ys := by
  have hperm : xs.Perm ys :=
    (List.perm_ext_iff_of_nodup (nodup_of_increasing hx) (nodup_of_increasing hy)).mpr h
  exact hperm.eq_of_pairwise
    (fun a b _ _ hab hba => absurd (List.lt_trans hab hba) (List.lt_irrefl _)) hx hy

/-! ### Traversals -/

/-- A traversal takes the first entry and then the others. -/
theorem traverseEntries_cons {ε : Type} (f : Text → α → Except ε β) (name : Text) (x : α)
    (rest : List (Text × α)) :
    traverseEntries f ((name, x) :: rest) = f name x >>= fun y =>
      (fun others => ⟨(name, y) :: others.val, by simp [others.property]⟩)
        <$> traverseEntries f rest := by
  rw [traverseEntries]
  cases f name x with
  | error e => rfl
  | ok y => cases traverseEntries f rest <;> rfl

theorem traverse_eq_map {ε : Type} (t : Table α) (f : Text → α → Except ε β) :
    t.traverse f = (fun es => ⟨es.val, by rw [es.property]; exact t.nodup⟩)
      <$> traverseEntries f t.entries := by
  rw [traverse]
  cases traverseEntries f t.entries <;> rfl

end Table

end DomBindings
