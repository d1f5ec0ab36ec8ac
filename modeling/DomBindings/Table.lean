import DomBindings.Text.Class

/-!
# Ordered tables

A table binds names to things and keeps the names in the order in which they first came. A name is
bound once, and that is part of the type. The view of a table is its list of entries; `get?` is
look-up in that list, and each operation says what it does to it.
-/

namespace DomBindings

universe u v

variable {α : Type u} {β : Type v}

/-- A table of named things. -/
structure Table (α : Type u) where
  /-- the names and what they are bound to, in order -/
  entries : List (Text × α)
  /-- a name is bound once -/
  nodup : (entries.map Prod.fst).Nodup

namespace Table

/-- Tables with the same entries are the same. -/
@[ext]
theorem ext {s t : Table α} (h : s.entries = t.entries) : s = t := by
  cases s; cases t; cases h; rfl

instance [DecidableEq α] : DecidableEq (Table α) := fun s t =>
  decidable_of_iff (s.entries = t.entries) ⟨ext, fun h => h ▸ rfl⟩

/-- The table without entries. -/
def empty : Table α :=
  ⟨[], List.nodup_nil⟩

instance : Inhabited (Table α) :=
  ⟨empty⟩

/-- The names, in order. -/
def names (t : Table α) : List Text :=
  t.entries.map Prod.fst

/-- The things, in the order of their names. -/
def values (t : Table α) : List α :=
  t.entries.map Prod.snd

/-- The number of entries. -/
def size (t : Table α) : Nat :=
  t.entries.length

/-- Whether there are no entries. -/
def isEmpty (t : Table α) : Bool :=
  t.entries.isEmpty

/-- What a name is bound to. -/
def get? (t : Table α) (name : Text) : Option α :=
  t.entries.lookup name

/-- Whether a name is bound. -/
def contains (t : Table α) (name : Text) : Bool :=
  (t.get? name).isSome

/-! ### Binding names -/

/-- Binds a name in a list of entries: in its place if it is bound already, and at the end if it is
not. -/
def put (name : Text) (x : α) : List (Text × α) → List (Text × α)
  | [] => [(name, x)]
  | (n, y) :: rest => if n = name then (name, x) :: rest else (n, y) :: put name x rest

/-- Binding a name adds it behind the others, or changes no name. -/
theorem names_put (name : Text) (x : α) (entries : List (Text × α)) :
    (put name x entries).map Prod.fst =
      if name ∈ entries.map Prod.fst then entries.map Prod.fst
      else entries.map Prod.fst ++ [name] := by
  induction entries with
  | nil => simp [put]
  | cons e rest ih =>
    obtain ⟨n, y⟩ := e
    by_cases h : n = name
    · subst h
      simp [put]
    · have h' : ¬ name = n := fun e => h e.symm
      simp only [put, h, if_false, List.map_cons, ih, List.mem_cons, h', false_or]
      split <;> rfl

/-- Binding a name keeps the names distinct. -/
theorem nodup_put (name : Text) (x : α) {entries : List (Text × α)}
    (h : (entries.map Prod.fst).Nodup) : ((put name x entries).map Prod.fst).Nodup := by
  rw [names_put]
  split
  · exact h
  · next hn =>
    rw [List.nodup_append]
    refine ⟨h, by simp, ?_⟩
    intro a ha b hb hab
    simp only [List.mem_singleton] at hb
    exact hn (hb ▸ hab ▸ ha)

/-- Binds a name. -/
def insert (t : Table α) (name : Text) (x : α) : Table α :=
  ⟨put name x t.entries, nodup_put name x t.nodup⟩

/-- The table that binds the names of a list in turn. -/
def ofList (entries : List (Text × α)) : Table α :=
  entries.foldl (fun t (name, x) => t.insert name x) empty

/-! ### Parts and images -/

/-- The entries that satisfy a condition, in their order. -/
def filter (t : Table α) (p : Text → α → Bool) : Table α where
  entries := t.entries.filter fun (name, x) => p name x
  nodup := t.nodup.sublist (List.filter_sublist.map Prod.fst)

/-- The same names bound to the images of the things. -/
def map (t : Table α) (f : α → β) : Table β where
  entries := t.entries.map fun (name, x) => (name, f x)
  nodup := by
    have h : (t.entries.map fun (name, x) => (name, f x)).map Prod.fst
        = t.entries.map Prod.fst := by
      simp [List.map_map, Function.comp_def]
    rw [h]
    exact t.nodup

/-- Entries that bind the names of a list, in its order. -/
abbrev EntriesOver (β : Type v) (names : List Text) :=
  { entries : List (Text × β) // entries.map Prod.fst = names }

/-- Transforms entries in turn, up to the first that fails. -/
def traverseEntries {ε : Type} (f : Text → α → Except ε β) :
    (entries : List (Text × α)) → Except ε (EntriesOver β (entries.map Prod.fst))
  | [] => .ok ⟨[], rfl⟩
  | (name, x) :: rest =>
    match f name x with
    | .error e => .error e
    | .ok y =>
      match traverseEntries f rest with
      | .error e => .error e
      | .ok others => .ok ⟨(name, y) :: others.val, by simp [others.property]⟩

/-- Transforms the things of a table in turn, up to the first that fails. -/
def traverse {ε : Type} (t : Table α) (f : Text → α → Except ε β) : Except ε (Table β) :=
  match traverseEntries f t.entries with
  | .error e => .error e
  | .ok entries => .ok ⟨entries.val, by rw [entries.property]; exact t.nodup⟩

/-! ### The order of names -/

/-- Puts an entry at its place among entries whose names increase. -/
def insertByName (e : Text × α) : List (Text × α) → List (Text × α)
  | [] => [e]
  | other :: rest => if other.1 < e.1 then other :: insertByName e rest else e :: other :: rest

/-- The entries in the order of their names, code point by code point. -/
def byName (t : Table α) : List (Text × α) :=
  t.entries.foldr insertByName []

end Table

end DomBindings
