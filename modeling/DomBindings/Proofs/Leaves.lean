import DomBindings.Proofs.Likeness
import DomBindings.Proofs.Traversal
import DomBindings.ValueSpec.TypeExpr
import Mathlib.Data.List.Basic

/-!
# The leaves of a specification

What a specification reduces to depends on its leaves alone: the specifications that are reached
through unions and conditions and are neither. `leaves` lists them by depth, and from left to right
within a depth, and `Reaches` says which they are without an order.

The reduction keeps a queue and a bound on its steps. A queue that holds one depth and has the next
one collected behind it is worked off to the next depth (`reduceQueue_depth`), so by induction on
the depths the whole walk notes the leaves in their order (`typeExpr_eq_foldlM`). What noting them
gives is then read off the list: `typeExpr_eq_ok_iff` has the primitives, the tokens and the open
mark in terms of the leaves, and `fault?_typeExpr` the first leaf that is refused.
-/

namespace DomBindings.ValueSpec

open Traversal

/-! ### What is reached -/

/-- What a specification is made of, as far as its type goes: the members of a union, and what
stands under a condition. -/
def parts : ValueSpec → List ValueSpec
  | .union members => members
  | .conditional _ values => [values]
  | _ => []

/-- A leaf is neither a union nor a condition. -/
def isLeaf : ValueSpec → Bool
  | .union _ | .conditional _ _ => false
  | _ => true

/-- The specifications a number of steps below one, from left to right. -/
def atDepth : Nat → ValueSpec → List ValueSpec
  | 0, spec => [spec]
  | depth + 1, spec => spec.parts.flatMap (atDepth depth)

/-- The leaves of a specification by depth, and from left to right within a depth. -/
def leaves (spec : ValueSpec) : List ValueSpec :=
  (List.range spec.size).flatMap fun depth => (spec.atDepth depth).filter isLeaf

/-- One specification is reached from another through unions and conditions. -/
inductive Reaches : ValueSpec → ValueSpec → Prop
  /-- a specification reaches itself -/
  | refl (spec : ValueSpec) : Reaches spec spec
  /-- and what its parts reach -/
  | part {spec p t : ValueSpec} : p ∈ spec.parts → Reaches p t → Reaches spec t

theorem size_pos (spec : ValueSpec) : 0 < spec.size := by
  cases spec <;> simp [size]

@[simp] theorem sizeAll_append (as bs : List ValueSpec) :
    sizeAll (as ++ bs) = sizeAll as + sizeAll bs := by
  induction as with
  | nil => simp [sizeAll]
  | cons a as ih => rw [List.cons_append, sizeAll, sizeAll, ih, Nat.add_assoc]

theorem size_le_sizeAll {s : ValueSpec} {specs : List ValueSpec} (h : s ∈ specs) :
    s.size ≤ sizeAll specs := by
  obtain ⟨before, after, rfl⟩ := List.append_of_mem h
  rw [sizeAll_append, sizeAll]
  omega

/-- The parts of a specification are smaller than it, all taken together. -/
theorem sizeAll_parts_lt (spec : ValueSpec) : sizeAll spec.parts < spec.size := by
  cases spec <;> simp [parts, size, sizeAll]

theorem reaches_iff_mem_atDepth {s t : ValueSpec} :
    Reaches s t ↔ ∃ depth, t ∈ atDepth depth s := by
  constructor
  · intro h
    induction h with
    | refl spec => exact ⟨0, List.mem_singleton.mpr rfl⟩
    | part hp _ ih =>
      obtain ⟨depth, hmem⟩ := ih
      exact ⟨depth + 1, List.mem_flatMap.mpr ⟨_, hp, hmem⟩⟩
  · rintro ⟨depth, hmem⟩
    induction depth generalizing s with
    | zero =>
      obtain rfl := List.mem_singleton.mp hmem
      exact .refl t
    | succ depth ih =>
      obtain ⟨p, hp, hmem⟩ := List.mem_flatMap.mp hmem
      exact .part hp (ih hmem)

/-- What stands at a depth is smaller than the whole by as many steps. -/
theorem add_size_le_of_mem_atDepth {s t : ValueSpec} {depth : Nat} (h : t ∈ atDepth depth s) :
    depth + t.size ≤ s.size := by
  induction depth generalizing s with
  | zero =>
    obtain rfl := List.mem_singleton.mp h
    omega
  | succ depth ih =>
    obtain ⟨p, hp, hmem⟩ := List.mem_flatMap.mp h
    have hpart : p.size < s.size := Nat.lt_of_le_of_lt (size_le_sizeAll hp) (sizeAll_parts_lt s)
    have := ih hmem
    omega

/-- The leaves are what is reached and is neither a union nor a condition. -/
theorem mem_leaves_iff {spec t : ValueSpec} :
    t ∈ spec.leaves ↔ Reaches spec t ∧ t.isLeaf = true := by
  rw [leaves, List.mem_flatMap, reaches_iff_mem_atDepth]
  constructor
  · rintro ⟨depth, -, hmem⟩
    obtain ⟨hmem, hleaf⟩ := List.mem_filter.mp hmem
    exact ⟨⟨depth, hmem⟩, hleaf⟩
  · rintro ⟨⟨depth, hmem⟩, hleaf⟩
    have hsize := add_size_le_of_mem_atDepth hmem
    have hpos := t.size_pos
    exact ⟨depth, List.mem_range.mpr (by omega), List.mem_filter.mpr ⟨hmem, hleaf⟩⟩

/-! ### The walk -/

/-- What a specification adds to a type expression by itself. -/
def note (t : TypeExpr) : ValueSpec → Except SchemaError TypeExpr
  | .literal token isPattern => .ok (if isPattern then t.opened else t.addToken token)
  | .typed kind _ _ =>
    match kindMeaning? kind with
    | some (.primitive p) => .ok (t.addPrimitive p)
    | some .anyText => .ok t.opened
    | none => .error (.unknownKind kind)
  | .union _ => .ok t
  | .conditional _ _ => .ok t
  | .unread raw => .error (.undecipherable raw)

/-- One step of the walk notes the first specification and puts its parts at the end. -/
theorem reduceQueue_cons (steps : Nat) (spec : ValueSpec) (queue : List ValueSpec)
    (t : TypeExpr) :
    reduceQueue (steps + 1) (spec :: queue) t
      = note t spec >>= reduceQueue steps (queue ++ spec.parts) := by
  cases spec with
  | literal token isPattern => simp [reduceQueue, note, parts, bind, Except.bind]
  | typed kind options members =>
    simp only [reduceQueue, note, parts, List.append_nil]
    cases kindMeaning? kind with
    | none => rfl
    | some meaning => cases meaning <;> rfl
  | conditional condition values => rfl
  | union members => rfl
  | unread raw => rfl

/-- The walk works off one depth and has the next one behind it then. -/
theorem reduceQueue_depth (here next : List ValueSpec) (steps : Nat) (t : TypeExpr) :
    reduceQueue (steps + here.length) (here ++ next) t
      = here.foldlM note t >>= reduceQueue steps (next ++ here.flatMap parts) := by
  induction here generalizing next t with
  | nil => simp
  | cons spec here ih =>
    rw [List.length_cons, ← Nat.add_assoc, List.cons_append, reduceQueue_cons,
      List.foldlM_cons, bind_assoc]
    refine bind_congr fun t' => ?_
    rw [List.append_assoc, ih, List.append_assoc, List.flatMap_cons]

theorem sizeAll_flatMap_parts_le (queue : List ValueSpec) :
    sizeAll (queue.flatMap parts) + queue.length ≤ sizeAll queue := by
  induction queue with
  | nil => simp [sizeAll]
  | cons spec queue ih =>
    have := sizeAll_parts_lt spec
    rw [List.flatMap_cons, sizeAll_append, sizeAll, List.length_cons]
    omega

/-- What stands below a queue is the queue itself and what stands below its parts. -/
theorem depths_succ (queue : List ValueSpec) (depths : Nat) :
    ((List.range (depths + 1)).flatMap fun depth => queue.flatMap (atDepth depth))
      = queue ++ (List.range depths).flatMap fun depth =>
          (queue.flatMap parts).flatMap (atDepth depth) := by
  rw [List.range_succ_eq_map, List.flatMap_cons, List.flatMap_map]
  congr 1
  · exact List.flatMap_singleton' queue
  · exact congrArg (List.flatMap · _) (funext fun depth => List.flatMap_assoc.symm)

/-- With steps and depths enough, the walk notes what stands at each depth in turn. -/
theorem reduceQueue_eq_foldlM {depths steps : Nat} {queue : List ValueSpec}
    (hd : sizeAll queue ≤ depths) (hs : sizeAll queue ≤ steps) (t : TypeExpr) :
    reduceQueue steps queue t
      = ((List.range depths).flatMap fun depth => queue.flatMap (atDepth depth)).foldlM note t := by
  -- one depth at a time: the queue of the next depth is smaller, and so are both bounds for it
  induction depths generalizing steps queue t with
  | zero =>
    cases queue with
    | nil => cases steps <;> rfl
    | cons spec queue =>
      have := spec.size_pos
      rw [sizeAll] at hd
      omega
  | succ depths ih =>
    cases queue with
    | nil =>
      -- no step is taken, but a depth is counted
      have hempty : sizeAll [] = 0 := rfl
      have hrest : reduceQueue steps [] t = _ := @ih steps [] (by omega) (by omega) t
      rw [hrest, depths_succ]
      rfl
    | cons spec queue =>
      have hparts := sizeAll_flatMap_parts_le (spec :: queue)
      obtain ⟨rest, rfl⟩ : ∃ rest, steps = rest + (spec :: queue).length :=
        ⟨steps - (spec :: queue).length, by omega⟩
      have hwalk := reduceQueue_depth (spec :: queue) [] rest t
      rw [List.append_nil, List.nil_append] at hwalk
      rw [hwalk, depths_succ, List.foldlM_append]
      rw [List.length_cons] at hparts hs
      exact bind_congr fun t' => ih (by omega) (by omega) t'

/-- What is not a leaf adds nothing by itself. -/
theorem note_of_not_isLeaf {spec : ValueSpec} (h : spec.isLeaf = false) (t : TypeExpr) :
    note t spec = .ok t := by
  cases spec with
  | union _ => rfl
  | conditional _ _ => rfl
  | _ => simp [isLeaf] at h

theorem foldlM_note_filter_isLeaf (specs : List ValueSpec) (t : TypeExpr) :
    (specs.filter isLeaf).foldlM note t = specs.foldlM note t := by
  induction specs generalizing t with
  | nil => rfl
  | cons spec specs ih =>
    rw [List.filter_cons, List.foldlM_cons]
    cases h : spec.isLeaf with
    | true =>
      rw [if_pos rfl, List.foldlM_cons]
      exact bind_congr fun t' => ih t'
    | false =>
      rw [note_of_not_isLeaf h]
      exact ih t

/-- The reduction of a specification notes its leaves in their order. -/
theorem typeExpr_eq_foldlM (spec : ValueSpec) :
    spec.typeExpr = spec.leaves.foldlM note .never := by
  have hsize : sizeAll [spec] ≤ spec.size := Nat.le_of_eq (by simp [sizeAll])
  rw [typeExpr, reduceQueue_eq_foldlM hsize hsize, leaves, ← List.filter_flatMap,
    foldlM_note_filter_isLeaf]
  simp only [List.flatMap_singleton]

/-! ### What the leaves add -/

/-- The primitive type that a leaf adds. -/
def primitive? : ValueSpec → Option Primitive
  | .typed kind _ _ =>
    match kindMeaning? kind with
    | some (.primitive p) => some p
    | _ => none
  | _ => none

/-- The token that a leaf adds. -/
def token? : ValueSpec → Option Text
  | .literal token false => some token
  | _ => none

/-- Whether a leaf admits any text. -/
def isWild : ValueSpec → Bool
  | .literal _ isPattern => isPattern
  | .typed kind _ _ => kindMeaning? kind = some .anyText
  | _ => false

/-- Why a leaf is refused, if it is. -/
def refusal? : ValueSpec → Option SchemaError
  | .typed kind _ _ =>
    match kindMeaning? kind with
    | none => some (.unknownKind kind)
    | some _ => none
  | .unread raw => some (.undecipherable raw)
  | _ => none

/-- The primitive types of a specification, in the order of their first leaves. -/
def primitives (spec : ValueSpec) : List Primitive :=
  (spec.leaves.filterMap primitive?).eraseDups

/-- The tokens of a specification, in the order of their first leaves. -/
def tokens (spec : ValueSpec) : List Text :=
  (spec.leaves.filterMap token?).eraseDups

/-- Whether a specification admits any text. -/
def isOpen (spec : ValueSpec) : Bool :=
  spec.leaves.any isWild

/-- The type expression with more primitives and tokens behind its own, as far as they are new. -/
def added (t : TypeExpr) (ps : List Primitive) (ts : List Text) (wild : Bool) : TypeExpr where
  primitives := ps.foldl (fun kept p => TypeExpr.addOnce p kept) t.primitives
  tokens := ts.foldl (fun kept token => TypeExpr.addOnce token kept) t.tokens
  isOpen := t.isOpen || wild

theorem added_added (t : TypeExpr) (ps ps' : List Primitive) (ts ts' : List Text)
    (wild wild' : Bool) :
    added (added t ps ts wild) ps' ts' wild' = added t (ps ++ ps') (ts ++ ts') (wild || wild') := by
  simp [added, List.foldl_append, Bool.or_assoc]

/-- Noting a leaf is adding what it has to add, unless it is refused. -/
theorem note_eq (t : TypeExpr) (spec : ValueSpec) :
    note t spec = match refusal? spec with
      | some e => .error e
      | none => .ok (added t (primitive? spec).toList (token? spec).toList (isWild spec)) := by
  cases spec with
  | literal token isPattern =>
    cases isPattern with
    | false => simp [note, refusal?, primitive?, token?, isWild, added, TypeExpr.addToken]
    | true => simp [note, refusal?, primitive?, token?, isWild, added, TypeExpr.opened]
  | typed kind options members =>
    cases h : kindMeaning? kind with
    | none => simp [note, refusal?, h]
    | some meaning =>
      cases meaning with
      | primitive p =>
        simp [note, refusal?, primitive?, token?, isWild, h, added, TypeExpr.addPrimitive]
      | anyText => simp [note, refusal?, primitive?, token?, isWild, h, added, TypeExpr.opened]
  | conditional condition values => simp [note, refusal?, primitive?, token?, isWild, added]
  | union members => simp [note, refusal?, primitive?, token?, isWild, added]
  | unread raw => rfl

/-- Noting several leaves fails as the first that is refused does, and else adds what all add. -/
theorem foldlM_note_eq (specs : List ValueSpec) (t : TypeExpr) :
    specs.foldlM note t = match specs.findSome? refusal? with
      | some e => .error e
      | none =>
        .ok (added t (specs.filterMap primitive?) (specs.filterMap token?) (specs.any isWild)) := by
  induction specs generalizing t with
  | nil => simp [added, pure, Except.pure]
  | cons spec specs ih =>
    rw [List.foldlM_cons, note_eq, List.findSome?_cons]
    cases refusal? spec with
    | some e => rfl
    | none =>
      change specs.foldlM note _ = _
      rw [ih]
      cases specs.findSome? refusal? with
      | some e => rfl
      | none => simp only [added_added, filterMap_cons_toList, List.any_cons]

/-- Adding things one by one keeps the first occurrence of each. -/
theorem foldl_addOnce {α : Type} [DecidableEq α] [BEq α] [LawfulBEq α] (xs kept : List α) :
    xs.foldl (fun kept x => TypeExpr.addOnce x kept) kept
      = kept ++ (xs.filter (· ∉ kept)).eraseDups := by
  -- over every list that is kept, since each new member makes it longer
  induction xs generalizing kept with
  | nil => simp
  | cons x xs ih =>
    rw [List.foldl_cons, ih, TypeExpr.addOnce]
    by_cases hx : x ∈ kept
    · simp [hx]
    · have hfilter : (xs.filter (· ∉ kept)).filter (fun y => !y == x)
          = xs.filter (· ∉ kept ++ [x]) := by
        rw [List.filter_filter]
        refine List.filter_congr fun y _ => ?_
        by_cases hy : y = x <;> simp [hy]
      rw [if_neg hx, List.filter_cons, if_pos (by simpa using hx), List.eraseDups_cons, hfilter,
        List.append_assoc, List.singleton_append]

/-- The reduction of a specification, in terms of its leaves. -/
theorem typeExpr_eq (spec : ValueSpec) :
    spec.typeExpr = match spec.leaves.findSome? refusal? with
      | some e => .error e
      | none => .ok ⟨spec.primitives, spec.tokens, spec.isOpen⟩ := by
  rw [typeExpr_eq_foldlM, foldlM_note_eq]
  cases spec.leaves.findSome? refusal? with
  | some e => rfl
  | none => simp [added, TypeExpr.never, foldl_addOnce, primitives, tokens, isOpen]

/-- A specification is refused with the first of its leaves that is. -/
theorem fault?_typeExpr (spec : ValueSpec) :
    fault? spec.typeExpr = spec.leaves.findSome? refusal? := by
  rw [typeExpr_eq]
  cases spec.leaves.findSome? refusal? <;> rfl

/-- A specification has a type expression when none of its leaves is refused, and it is made of
their primitives and tokens in the order in which they first come. -/
theorem typeExpr_eq_ok_iff {spec : ValueSpec} {t : TypeExpr} :
    spec.typeExpr = .ok t ↔
      spec.leaves.findSome? refusal? = none ∧ t = ⟨spec.primitives, spec.tokens, spec.isOpen⟩ := by
  rw [typeExpr_eq]
  cases spec.leaves.findSome? refusal? with
  | some e => simp
  | none => simp [eq_comm]

end DomBindings.ValueSpec
