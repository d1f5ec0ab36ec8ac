import Mathlib.Data.List.Forall2

/-!
# Traversals that may fail

A traversal takes the members of a list in turn and stops at the first that fails. What it gives is
said here in two ways: member by member where it succeeds (`mapM_eq_ok_iff`), and by the first
member that fails where it does not (`fault?_mapM`). The second is an equation between optional
faults, so that the faults of computations that follow each other are put together by `Option.or`.
-/

namespace DomBindings.Traversal

variable {α β ε : Type}

/-- The fault of a computation, if it fails. -/
def fault? : Except ε α → Option ε
  | .error e => some e
  | .ok _ => none

@[simp] theorem fault?_ok (x : α) : fault? (.ok x : Except ε α) = none := rfl

@[simp] theorem fault?_error (e : ε) : fault? (.error e : Except ε α) = some e := rfl

theorem fault?_eq_some_iff {x : Except ε α} {e : ε} : fault? x = some e ↔ x = .error e := by
  cases x with
  | error e' => simp
  | ok a => simp

theorem fault?_eq_none_iff {x : Except ε α} : fault? x = none ↔ ∃ a, x = .ok a := by
  cases x with
  | error e => simp
  | ok a => simp

/-- A computation that fails with a fault has no result, and one with a result no fault. -/
theorem isSome_fault?_iff {x : Except ε α} : (fault? x).isSome ↔ ∃ e, x = .error e := by
  cases x with
  | error e => simp
  | ok a => simp

/-- A result is one with a property, if that is tested. -/
theorem exists_of_toOption {result : Except ε α} {test : α → Bool}
    (h : result.toOption.map test = some true) : ∃ v, result = .ok v ∧ test v = true := by
  cases result with
  | error e => cases h
  | ok v => exact ⟨v, rfl, Option.some.inj h⟩

/-- What is computed from a result adds no fault. -/
@[simp] theorem fault?_map (f : α → β) (x : Except ε α) : fault? (f <$> x) = fault? x := by
  cases x <;> rfl

/-- A bind succeeds when both of its parts do. -/
theorem bind_eq_ok_iff {x : Except ε α} {f : α → Except ε β} {b : β} :
    x >>= f = .ok b ↔ ∃ a, x = .ok a ∧ f a = .ok b := by
  cases x with
  | error e => simp [bind, Except.bind]
  | ok a => simp [bind, Except.bind]

/-- And it fails when its first part does, or the second one behind it. -/
theorem bind_eq_error_iff {x : Except ε α} {f : α → Except ε β} {e : ε} :
    x >>= f = .error e ↔ x = .error e ∨ ∃ a, x = .ok a ∧ f a = .error e := by
  cases x with
  | error e => simp [bind, Except.bind]
  | ok a => simp [bind, Except.bind]

/-- What is computed from a result is there when the result is. -/
theorem map_eq_ok_iff {f : α → β} {x : Except ε α} {b : β} :
    f <$> x = .ok b ↔ ∃ a, x = .ok a ∧ f a = b := by
  cases x with
  | error e => simp [Functor.map, Except.map]
  | ok a => simp [Functor.map, Except.map]

/-- Lists whose members correspond have the same image where the members have. -/
theorem map_eq_of_forall₂ {γ : Type} {R : α → β → Prop} {f : α → γ} {g : β → γ}
    (hfg : ∀ x y, R x y → g y = f x) {xs : List α} {ys : List β} (h : List.Forall₂ R xs ys) :
    ys.map g = xs.map f := by
  induction h with
  | nil => rfl
  | cons hxy _ ih => rw [List.map_cons, List.map_cons, hfg _ _ hxy, ih]

/-- A member of one of two lists that correspond has its counterpart in the other. -/
theorem exists_mem_of_forall₂ {R : α → β → Prop} {xs : List α} {ys : List β}
    (h : List.Forall₂ R xs ys) {x : α} (hx : x ∈ xs) : ∃ y ∈ ys, R x y := by
  induction h with
  | nil => cases hx
  | cons hxy _ ih =>
    rcases List.mem_cons.mp hx with rfl | hx
    · exact ⟨_, List.mem_cons_self, hxy⟩
    · obtain ⟨y, hy, hR⟩ := ih hx
      exact ⟨y, List.mem_cons_of_mem _ hy, hR⟩

theorem filterMap_cons_toList (f : α → Option β) (x : α) (xs : List α) :
    (x :: xs).filterMap f = (f x).toList ++ xs.filterMap f := by
  rw [List.filterMap_cons]
  cases f x <;> rfl

/-- What is read from members that correspond to others is what it is read as. -/
theorem filterMap_eq_map_of_forall₂ {γ : Type} {f : β → Option γ} {g : α → γ} {xs : List α}
    {ys : List β} (h : List.Forall₂ (fun x y => f y = some (g x)) xs ys) :
    ys.filterMap f = xs.map g := by
  induction h with
  | nil => rfl
  | cons hxy _ ih => rw [List.filterMap_cons_some hxy, List.map_cons, ih]

/-- And so it is with lists of members from each of which one thing is read. -/
theorem filterMap_flatten_of_forall₂ {γ : Type} {f : β → Option γ} {g : α → γ} {xs : List α}
    {yss : List (List β)} (h : List.Forall₂ (fun x ys => ys.filterMap f = [g x]) xs yss) :
    yss.flatten.filterMap f = xs.map g := by
  induction h with
  | nil => rfl
  | cons hxy _ ih => rw [List.flatten_cons, List.filterMap_append, hxy, ih, List.map_cons]; rfl

/-- A traversal succeeds exactly when every member does, and it gives what they give. -/
theorem mapM_eq_ok_iff (f : α → Except ε β) (xs : List α) (ys : List β) :
    xs.mapM f = .ok ys ↔ List.Forall₂ (fun x y => f x = .ok y) xs ys := by
  induction xs generalizing ys with
  | nil => cases ys <;> simp [pure, Except.pure]
  | cons x xs ih =>
    rw [List.mapM_cons, bind_eq_ok_iff]
    constructor
    · rintro ⟨y, hy, h⟩
      obtain ⟨ys', hys, h'⟩ := bind_eq_ok_iff.mp h
      obtain rfl : y :: ys' = ys := Except.ok.inj h'
      exact .cons hy ((ih ys').mp hys)
    · intro h
      obtain ⟨y, ys', hy, hys, rfl⟩ := List.forall₂_cons_left_iff.mp h
      exact ⟨y, hy, bind_eq_ok_iff.mpr ⟨ys', (ih ys').mpr hys, rfl⟩⟩

/-- What a traversal gives are the results of its members. -/
theorem mem_iff_of_mapM_eq_ok {f : α → Except ε β} {xs : List α} {ys : List β}
    (h : xs.mapM f = .ok ys) (y : β) : y ∈ ys ↔ ∃ x ∈ xs, f x = .ok y := by
  rw [mapM_eq_ok_iff] at h
  induction h with
  | nil => simp
  | cons hx _ ih => simp [ih, hx, eq_comm]

/-- A view of the results that can be had from the members is the same for both. -/
theorem map_eq_of_mapM_eq_ok {γ : Type} {f : α → Except ε β} {xs : List α} {ys : List β}
    {before : α → γ} {after : β → γ} (hf : ∀ x y, f x = .ok y → after y = before x)
    (h : xs.mapM f = .ok ys) : ys.map after = xs.map before :=
  map_eq_of_forall₂ hf ((mapM_eq_ok_iff f xs ys).mp h)

/-- The fault of a traversal is that of the first member that has one. -/
theorem fault?_mapM (f : α → Except ε β) (xs : List α) :
    fault? (xs.mapM f) = xs.findSome? fun x => fault? (f x) := by
  induction xs with
  | nil => rfl
  | cons x xs ih =>
    rw [List.mapM_cons, List.findSome?_cons]
    cases hx : f x with
    | error e => rfl
    | ok y =>
      change fault? (xs.mapM f >>= fun ys => pure (y :: ys)) = xs.findSome? _
      rw [← ih]
      cases xs.mapM f <;> rfl

end DomBindings.Traversal
