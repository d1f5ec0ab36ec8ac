import DomBindings.Proofs.NodeNumbers
import DomBindings.Yaml.Construction

/-!
# Scalars as they are loaded

The value of a document is put together from the values of its scalars, and those are read while the
document is made: each when its number is met for the first time. Two things have to be shown for a
scalar to have in the document the value that its text is read as. It must be met; and what its
number was read as must be its own, which nodes with one number of which only one is read would
spoil.

The second is what the numbers of nodes are for (`Node.eq_of_ofText`). For the first, making is
followed depth by depth: all that a collection takes is met when the collection is put together
(`Meets`), the collections among it are put together with the next depth (`Unfolds`), and there are
as many depths as the tree is high. So at the end everything that the value is put together from was
met (`Node.readAsScalar_of_make`).
-/

namespace DomBindings.Yaml.Node

open Traversal

/-! ### What a value is put together from -/

/-- A collection is put together from nodes: its items, the keys and values among its own entries
and those that it merges, or those of the pairs that are written in it. -/
inductive Takes : Node → Node → Prop where
  /-- an item of a sequence -/
  | item {id : Nat} {items : List Node} {m : Node} (hm : m ∈ items) :
    Takes (.sequence id .seq items) m
  /-- a key or a value of a mapping or a set -/
  | entry {id : Nat} {tag : Tag} {entries flat : List (Node × Node)} {m : Node}
    (htag : tag = .map ∨ tag = .set) (hflat : flatten entries = .ok flat)
    (hm : m ∈ entryNodes flat) : Takes (.mapping id tag entries) m
  /-- the key or the value of a pair -/
  | pair {id id' : Nat} {tag tag' : Tag} {items : List Node} {k v m : Node}
    (htag : tag = .omap ∨ tag = .pairs) (hitem : .mapping id' tag' [(k, v)] ∈ items)
    (hk : k.tag ≠ .merge) (hm : m = k ∨ m = v) : Takes (.sequence id tag items) m

/-- A node stands below another one. -/
def Above : Node → Node → Prop :=
  Relation.TransGen fun n m => m ∈ n.children

theorem depth_le_depthOfItems {items : List Node} {m : Node} (h : m ∈ items) :
    m.depth ≤ depthOfItems items := by
  induction items with
  | nil => cases h
  | cons n rest ih =>
    rw [depthOfItems]
    rcases List.mem_cons.mp h with rfl | h
    · exact Nat.le_max_left _ _
    · exact (ih h).trans (Nat.le_max_right _ _)

theorem depth_le_depthOfEntries {entries : List (Node × Node)} {m : Node}
    (h : m ∈ entryNodes entries) : m.depth ≤ depthOfEntries entries := by
  induction entries with
  | nil => cases h
  | cons e rest ih =>
    obtain ⟨k, v⟩ := e
    rw [depthOfEntries]
    rcases List.mem_cons.mp h with rfl | h
    · exact (Nat.le_max_left _ _).trans (Nat.le_max_left _ _)
    · rcases List.mem_cons.mp h with rfl | h
      · exact (Nat.le_max_right _ _).trans (Nat.le_max_left _ _)
      · exact (ih h).trans (Nat.le_max_right _ _)

/-- What stands below a node has fewer depths. -/
theorem Above.depth_lt {n m : Node} (h : n.Above m) : m.depth < n.depth := by
  have hstep {n m : Node} (h : m ∈ n.children) : m.depth < n.depth := by
    cases n with
    | scalar => cases h
    | sequence => exact Nat.lt_succ_of_le (depth_le_depthOfItems h)
    | mapping => exact Nat.lt_succ_of_le (depth_le_depthOfEntries h)
  induction h with
  | single h => exact hstep h
  | tail _ h ih => exact (hstep h).trans ih

theorem mem_entryNodes_cons_iff {e : Node × Node} {rest : List (Node × Node)} {n : Node} :
    n ∈ entryNodes (e :: rest) ↔ (n = e.1 ∨ n = e.2) ∨ n ∈ entryNodes rest := by
  simp [entryNodes, or_assoc]

theorem entryNodes_append (entries others : List (Node × Node)) :
    entryNodes (entries ++ others) = entryNodes entries ++ entryNodes others :=
  List.flatMap_append

mutual

/-- The entries that are written out with some entries consist of these and of what is below
them, -/
theorem exists_of_merged : ∀ {entries front own : List (Node × Node)},
    merged entries = .ok (front, own) → ∀ m ∈ entryNodes front ++ entryNodes own,
      ∃ n ∈ entryNodes entries, n.HasPart m
  | [], _, _, h, m, hm => by
    obtain ⟨rfl, rfl⟩ := Prod.mk.inj (Except.ok.inj h)
    cases hm
  | (k, v) :: rest, _, _, h, m, hm => by
    -- What is met in the rest is found there; the first entry gives its own part.
    have hrest {others own : List (Node × Node)} (hmerged : merged rest = .ok (others, own))
        (hm : m ∈ entryNodes others ++ entryNodes own) :
        ∃ n ∈ entryNodes ((k, v) :: rest), n.HasPart m := by
      obtain ⟨n, hn, hpart⟩ := exists_of_merged hmerged m hm
      exact ⟨n, List.mem_append_right [k, v] hn, hpart⟩
    rw [merged] at h
    split at h
    · obtain ⟨brought, hbrought, h⟩ := bind_eq_ok_iff.mp h
      obtain ⟨⟨others, own⟩, hmerged, h⟩ := bind_eq_ok_iff.mp h
      obtain ⟨rfl, rfl⟩ := Prod.mk.inj (Except.ok.inj h)
      rw [entryNodes_append, List.append_assoc] at hm
      rcases List.mem_append.mp hm with hm | hm
      · exact ⟨v, List.mem_cons_of_mem _ List.mem_cons_self, hasPart_of_mergedEntries hbrought m hm⟩
      · exact hrest hmerged hm
    · obtain ⟨⟨others, own⟩, hmerged, h⟩ := bind_eq_ok_iff.mp h
      obtain ⟨rfl, rfl⟩ := Prod.mk.inj (Except.ok.inj h)
      rcases List.mem_append.mp hm with hm | hm
      · exact hrest hmerged (List.mem_append_left _ hm)
      · rcases List.mem_append.mp (show m ∈ [k, v] ++ entryNodes own from hm) with hm | hm
        · exact ⟨m, List.mem_append_left _ hm, .refl⟩
        · exact hrest hmerged (List.mem_append_right _ hm)

/-- those that a node brings are in it, -/
theorem hasPart_of_mergedEntries : ∀ {n : Node} {brought : List (Node × Node)},
    mergedEntries n = .ok brought → ∀ m ∈ entryNodes brought, n.HasPart m
  | .scalar _ _ _, _, h, _, _ => by cases h
  | .sequence _ _ items, _, h, m, hm => by
    obtain ⟨n, hn, hpart⟩ := exists_of_mergedItems h m hm
    exact .head hn hpart
  | .mapping _ _ entries, _, h, m, hm => by
    rw [mergedEntries] at h
    obtain ⟨⟨front, own⟩, hmerged, h⟩ := bind_eq_ok_iff.mp h
    obtain rfl := Except.ok.inj h
    obtain ⟨n, hn, hpart⟩ := exists_of_merged hmerged m (entryNodes_append _ _ ▸ hm)
    exact .head hn hpart

/-- and those that several nodes bring in one of these. -/
theorem exists_of_mergedItems : ∀ {items : List Node} {brought : List (Node × Node)},
    mergedItems items = .ok brought → ∀ m ∈ entryNodes brought, ∃ n ∈ items, n.HasPart m
  | [], _, h, m, hm => by
    obtain rfl := Except.ok.inj h
    cases hm
  | .scalar _ _ _ :: _, _, h, _, _ => by cases h
  | .sequence _ _ _ :: _, _, h, _, _ => by cases h
  | .mapping id tag entries :: rest, _, h, m, hm => by
    rw [mergedItems] at h
    obtain ⟨⟨front, own⟩, hmerged, h⟩ := bind_eq_ok_iff.mp h
    obtain ⟨others, hothers, h⟩ := bind_eq_ok_iff.mp h
    obtain rfl := Except.ok.inj h
    rw [List.append_assoc, entryNodes_append, entryNodes_append] at hm
    rcases List.mem_append.mp hm with hm | hm
    · obtain ⟨n, hn, hpart⟩ := exists_of_mergedItems hothers m hm
      exact ⟨n, List.mem_cons_of_mem _ hn, hpart⟩
    · obtain ⟨n, hn, hpart⟩ := exists_of_merged hmerged m hm
      exact ⟨_, List.mem_cons_self, .head hn hpart⟩

end

/-- What a mapping is written out with is below it. -/
theorem above_of_flatten {id : Nat} {tag : Tag} {entries flat : List (Node × Node)}
    (h : flatten entries = .ok flat) {m : Node} (hm : m ∈ entryNodes flat) :
    (Node.mapping id tag entries).Above m := by
  rw [flatten] at h
  obtain ⟨⟨front, own⟩, hmerged, h⟩ := bind_eq_ok_iff.mp h
  obtain rfl := Except.ok.inj h
  obtain ⟨n, hn, hpart⟩ := exists_of_merged hmerged m (entryNodes_append _ _ ▸ hm)
  exact .head' hn hpart

theorem Takes.above {n m : Node} (h : n.Takes m) : n.Above m := by
  cases h with
  | item hm => exact .single hm
  | entry htag hflat hm => exact above_of_flatten hflat hm
  | pair htag hitem hk hm =>
    refine .tail (.single hitem) ?_
    rcases hm with rfl | rfl
    · exact List.mem_cons_self
    · exact List.mem_cons_of_mem _ List.mem_cons_self

theorem Takes.isCollection {n m : Node} (h : n.Takes m) : n.tag.isCollection = true := by
  cases h with
  | item _ => rfl
  | entry htag _ _ => rcases htag with rfl | rfl <;> rfl
  | pair htag _ _ _ => rcases htag with rfl | rfl <;> rfl

/-! ### Meeting nodes -/

/-- What a scalar's number was read as is what its text is read as. -/
def IsReading (n : Node) (e : Nat × Value) : Prop :=
  n.id = e.1 ∧ n.tag.isCollection = false ∧ ∃ texts, n.readAsScalar texts = .ok e.2

/-- A node was met: its scalar was read, or it is among the collections that were found. -/
def IsMet (found : List Node) (m : Making) (n : Node) : Prop :=
  if n.tag.isCollection then n ∈ found else (m.scalars.lookup n.id).isSome

/-- Values that were read stay. -/
def Keeps (m m' : Making) : Prop :=
  ∀ id v, m.scalars.lookup id = some v → m'.scalars.lookup id = some v

/-- What an action has brought about that had to meet some nodes and met only nodes of some kind. -/
structure Meets (due among : Set Node) (m : Making) (found : List Node) (m' : Making) : Prop where
  /-- what was read before is kept -/
  keeps : Keeps m m'
  /-- no collection was put together meanwhile -/
  collections : m'.collections = m.collections
  /-- the nodes that had to be met were met -/
  met : ∀ n ∈ due, IsMet found m' n
  /-- only nodes of the kind were found -/
  found : ∀ n ∈ found, n ∈ among
  /-- and only such nodes were read -/
  read : ∀ e ∈ m'.scalars, e ∈ m.scalars ∨ ∃ n ∈ among, n.IsReading e

theorem Keeps.refl (m : Making) : Keeps m m :=
  fun _ _ h => h

theorem Keeps.trans {m m₁ m' : Making} (h : Keeps m m₁) (h' : Keeps m₁ m') : Keeps m m' :=
  fun id v hv => h' id v (h id v hv)

theorem IsMet.mono {found found' : List Node} {m m' : Making} {n : Node} (h : IsMet found m n)
    (hfound : found ⊆ found') (hkeeps : Keeps m m') : IsMet found' m' n := by
  rw [IsMet] at h ⊢
  split at h
  · next hcollection => exact if_pos hcollection ▸ hfound h
  · next hscalar =>
    obtain ⟨v, hv⟩ := Option.isSome_iff_exists.mp h
    rw [if_neg hscalar, hkeeps _ v hv]
    rfl

namespace Meets

variable {due due' among among' : Set Node} {m m₁ m' : Making} {found found' : List Node}

theorem nothing (m : Making) : Meets ∅ among m [] m :=
  ⟨.refl m, rfl, fun _ h => h.elim, fun _ h => (List.not_mem_nil h).elim, fun _ h => .inl h⟩

theorem append (h : Meets due among m found m₁) (h' : Meets due' among' m₁ found' m') :
    Meets (due ∪ due') (among ∪ among') m (found ++ found') m' := by
  refine ⟨h.keeps.trans h'.keeps, h'.collections.trans h.collections, ?_, ?_, ?_⟩
  · rintro n (hn | hn)
    · exact (h.met n hn).mono (List.subset_append_left _ _) h'.keeps
    · exact (h'.met n hn).mono (List.subset_append_right _ _) (.refl m')
  · intro n hn
    rcases List.mem_append.mp hn with hn | hn
    · exact .inl (h.found n hn)
    · exact .inr (h'.found n hn)
  · intro e he
    rcases h'.read e he with he | ⟨n, hn, hread⟩
    · exact (h.read e he).imp_right fun ⟨n, hn, hread⟩ => ⟨n, .inl hn, hread⟩
    · exact .inr ⟨n, .inr hn, hread⟩

theorem weaken (h : Meets due among m found m') (hdue : due' ⊆ due) (hamong : among ⊆ among') :
    Meets due' among' m found m' :=
  ⟨h.keeps, h.collections, fun n hn => h.met n (hdue hn), fun n hn => hamong (h.found n hn),
    fun e he => (h.read e he).imp_right fun ⟨n, hn, hread⟩ => ⟨n, hamong hn, hread⟩⟩

/-- Changes that leave the values that were read. -/
theorem after {m₀ : Making} (h : Meets due among m found m') (hscalars : m.scalars = m₀.scalars)
    (hcollections : m.collections = m₀.collections) : Meets due among m₀ found m' := by
  refine ⟨?_, h.collections.trans hcollections, h.met, h.found, ?_⟩
  · exact fun id v hv => h.keeps id v (hscalars ▸ hv)
  · exact fun e he => hscalars ▸ h.read e he

end Meets

/-- **A scalar is read where it is met first**, a collection is put aside. -/
theorem meets_meet {n : Node} {m m' : Making} {found : List Node}
    (h : n.meet.run m = .ok (found, m')) : Meets {n} {n} m found m' := by
  unfold meet at h
  split at h
  · next hcollection =>
    obtain ⟨rfl, rfl⟩ := Prod.mk.inj (Except.ok.inj h)
    refine ⟨.refl m, rfl, ?_, fun _ h => List.mem_singleton.mp h, fun _ h => .inl h⟩
    rintro n rfl
    exact (if_pos hcollection).mpr (List.mem_singleton_self n)
  · next hscalar =>
    rw [StateT.run_bind] at h
    obtain ⟨⟨m₁, m₂⟩, hget, h⟩ := bind_eq_ok_iff.mp h
    obtain ⟨rfl, rfl⟩ := Prod.mk.inj (Except.ok.inj hget)
    split at h
    · next hnew =>
      obtain ⟨⟨v, m₂⟩, hlift, h⟩ := bind_eq_ok_iff.mp h
      obtain ⟨v', hread, hpure⟩ := bind_eq_ok_iff.mp hlift
      obtain ⟨rfl, rfl⟩ := Prod.mk.inj (Except.ok.inj hpure)
      obtain ⟨rfl, rfl⟩ := Prod.mk.inj (Except.ok.inj h)
      refine ⟨?_, rfl, ?_, fun _ h => (List.not_mem_nil h).elim, ?_⟩
      · intro id w hw
        rw [List.lookup_cons]
        split
        · next heq =>
          rw [beq_iff_eq.mp heq, Option.isNone_iff_eq_none.mp hnew] at hw
          cases hw
        · exact hw
      · rintro n rfl
        rw [IsMet, if_neg hscalar, List.lookup_cons_self]
        rfl
      · intro e he
        rcases List.mem_cons.mp he with rfl | he
        · exact .inr ⟨n, rfl, rfl, Bool.eq_false_iff.mpr hscalar, _, hread⟩
        · exact .inl he
    · next hold =>
      obtain ⟨rfl, rfl⟩ := Prod.mk.inj (Except.ok.inj h)
      refine ⟨.refl m, rfl, ?_, fun _ h => (List.not_mem_nil h).elim, fun _ h => .inl h⟩
      rintro n rfl
      rw [IsMet, if_neg hscalar, ← Option.not_isNone]
      exact Bool.not_eq_true' _ ▸ Bool.eq_false_iff.mpr hold

theorem meets_meetAll {nodes : List Node} {m m' : Making} {found : List Node}
    (h : (meetAll nodes).run m = .ok (found, m')) :
    Meets {n | n ∈ nodes} {n | n ∈ nodes} m found m' := by
  induction nodes generalizing m m' found with
  | nil =>
    obtain ⟨rfl, rfl⟩ := Prod.mk.inj (Except.ok.inj h)
    exact (Meets.nothing m).weaken (fun _ h => (List.not_mem_nil h).elim) subset_rfl
  | cons n rest ih =>
    rw [meetAll, StateT.run_bind] at h
    obtain ⟨⟨first, m₁⟩, hfirst, h⟩ := bind_eq_ok_iff.mp h
    obtain ⟨⟨others, m₂⟩, hothers, h⟩ := bind_eq_ok_iff.mp h
    obtain ⟨rfl, rfl⟩ := Prod.mk.inj (Except.ok.inj h)
    exact ((meets_meet hfirst).append (ih hothers)).weaken (fun _ => List.mem_cons.mp)
      fun _ => List.mem_cons.mpr

theorem meets_meetEntries {entries : List (Node × Node)} {m m' : Making} {found : List Node}
    (h : (meetEntries entries).run m = .ok (found, m')) :
    Meets {n | n ∈ entryNodes entries} {n | n ∈ entryNodes entries} m found m' := by
  induction entries generalizing m m' found with
  | nil =>
    obtain ⟨rfl, rfl⟩ := Prod.mk.inj (Except.ok.inj h)
    exact (Meets.nothing m).weaken (fun _ h => (List.not_mem_nil h).elim) subset_rfl
  | cons e rest ih =>
    rw [meetEntries, StateT.run_bind] at h
    obtain ⟨⟨key, m₁⟩, hkey, h⟩ := bind_eq_ok_iff.mp h
    dsimp only at h
    split at h
    · cases h
    · rw [StateT.run_bind] at h
      obtain ⟨⟨value, m₂⟩, hvalue, h⟩ := bind_eq_ok_iff.mp h
      obtain ⟨⟨others, m₃⟩, hothers, h⟩ := bind_eq_ok_iff.mp h
      obtain ⟨rfl, rfl⟩ := Prod.mk.inj (Except.ok.inj h)
      exact (((meets_meet hkey).append (meets_meet hvalue)).append (ih hothers)).weaken
        (fun _ => mem_entryNodes_cons_iff.mp) fun _ => mem_entryNodes_cons_iff.mpr

/-- One pair is met for each mapping in a list of pairs: the only entry that it writes, or the only
one that it is written out with. -/
theorem exists_of_meetPairs {n : Node} {rest : List Node} {m m' : Making} {found : List Node}
    (h : (meetPairs (n :: rest)).run m = .ok (found, m')) :
    ∃ id tag entries k v, n = .mapping id tag entries ∧
      (flatten entries = .ok [(k, v)] ∨ entries = [(k, v)]) ∧
      ∃ key value others m₁ m₂, (meet k).run m = .ok (key, m₁) ∧
        (meet v).run m₁ = .ok (value, m₂) ∧ (meetPairs rest).run m₂ = .ok (others, m') ∧
        found = key ++ value ++ others := by
  have hmet {k v : Node} (h : (meet k >>= fun key => meet v >>= fun value => meetPairs rest >>=
      fun others => pure (key ++ value ++ others)).run m = .ok (found, m')) :
      ∃ key value others m₁ m₂, (meet k).run m = .ok (key, m₁) ∧
        (meet v).run m₁ = .ok (value, m₂) ∧ (meetPairs rest).run m₂ = .ok (others, m') ∧
        found = key ++ value ++ others := by
    rw [StateT.run_bind] at h
    obtain ⟨⟨key, m₁⟩, hkey, h⟩ := bind_eq_ok_iff.mp h
    obtain ⟨⟨value, m₂⟩, hvalue, h⟩ := bind_eq_ok_iff.mp h
    obtain ⟨⟨others, m₃⟩, hothers, h⟩ := bind_eq_ok_iff.mp h
    obtain ⟨rfl, rfl⟩ := Prod.mk.inj (Except.ok.inj h)
    exact ⟨key, value, others, m₁, m₂, hkey, hvalue, hothers, rfl⟩
  unfold meetPairs at h
  split at h
  · next id tag entries =>
    rw [StateT.run_bind] at h
    obtain ⟨⟨m₁, m₂⟩, hget, h⟩ := bind_eq_ok_iff.mp h
    obtain ⟨rfl, rfl⟩ := Prod.mk.inj (Except.ok.inj hget)
    dsimp only at h
    split at h
    · rw [StateT.run_bind] at h
      obtain ⟨⟨flat, m₁⟩, hlift, h⟩ := bind_eq_ok_iff.mp h
      obtain ⟨flat', hflat, hpure⟩ := bind_eq_ok_iff.mp hlift
      obtain ⟨rfl, rfl⟩ := Prod.mk.inj (Except.ok.inj hpure)
      have hflat : flatten entries = .ok flat' := hflat
      rcases flat' with _ | ⟨⟨k, v⟩, _ | ⟨e, others⟩⟩
      · cases h
      · exact ⟨id, tag, entries, k, v, rfl, .inl hflat, hmet h⟩
      · cases h
    · rw [pure_bind] at h
      split at h
      · exact ⟨id, tag, _, _, _, rfl, .inr rfl, hmet h⟩
      · cases h
  · cases h

theorem flatten_singleton {k v : Node} (hk : k.tag ≠ .merge) :
    flatten [(k, v)] = .ok [(k, v)] := by
  rw [flatten, merged, if_neg hk, merged]
  rfl

theorem meets_meetPairs {nodes : List Node} {m m' : Making} {found : List Node}
    (h : (meetPairs nodes).run m = .ok (found, m')) :
    Meets {n | ∃ id tag k v, .mapping id tag [(k, v)] ∈ nodes ∧ k.tag ≠ .merge ∧ (n = k ∨ n = v)}
      {n | ∃ item ∈ nodes, item.Above n} m found m' := by
  induction nodes generalizing m m' found with
  | nil =>
    obtain ⟨rfl, rfl⟩ := Prod.mk.inj (Except.ok.inj h)
    refine (Meets.nothing m).weaken ?_ (Set.empty_subset _)
    rintro n ⟨_, _, _, _, hmem, -⟩
    cases hmem
  | cons n rest ih =>
    obtain ⟨id, tag, entries, k, v, rfl, hentries, _, _, _, m₁, m₂, hkey, hvalue, hothers, rfl⟩ :=
      exists_of_meetPairs h
    refine (((meets_meet hkey).append (meets_meet hvalue)).append (ih hothers)).weaken ?_ ?_
    · rintro n ⟨id', tag', k', v', hmem, hk, hn⟩
      rcases List.mem_cons.mp hmem with heq | hmem
      · obtain ⟨-, -, rfl⟩ := Node.mapping.inj heq
        -- What is written is also what it is written out with.
        have hpair : [(k', v')] = [(k, v)] := by
          rcases hentries with hflat | hwritten
          · exact Except.ok.inj ((flatten_singleton hk).symm.trans hflat)
          · exact hwritten
        obtain ⟨⟨rfl, rfl⟩, -⟩ := (List.cons.inj hpair).imp_left Prod.mk.inj
        exact .inl hn
      · exact .inr ⟨id', tag', k', v', hmem, hk, hn⟩
    · have habove : ∀ n ∈ entryNodes [(k, v)], (Node.mapping id tag entries).Above n := by
        intro n hn
        rcases hentries with hflat | rfl
        · exact above_of_flatten hflat hn
        · exact .single hn
      rintro n ((rfl | rfl) | ⟨item, hitem, hn⟩)
      · exact ⟨_, List.mem_cons_self, habove _ List.mem_cons_self⟩
      · exact ⟨_, List.mem_cons_self, habove _ (List.mem_cons_of_mem _ List.mem_cons_self)⟩
      · exact ⟨item, List.mem_cons_of_mem _ hitem, hn⟩

/-- What a mapping is written out with. -/
theorem exists_of_writeOut {id : Nat} {entries flat : List (Node × Node)} {m m' : Making}
    (h : (writeOut id entries).run m = .ok (flat, m')) :
    flatten entries = .ok flat ∧ m'.scalars = m.scalars ∧ m'.collections = m.collections := by
  unfold writeOut at h
  rw [StateT.run_bind] at h
  obtain ⟨⟨flat', m₁⟩, hlift, h⟩ := bind_eq_ok_iff.mp h
  obtain ⟨flat'', hflat, hpure⟩ := bind_eq_ok_iff.mp hlift
  obtain ⟨rfl, rfl⟩ := Prod.mk.inj (Except.ok.inj hpure)
  obtain ⟨rfl, rfl⟩ := Prod.mk.inj (Except.ok.inj h)
  exact ⟨hflat, rfl, rfl⟩

/-- **When a collection is put together, all that it takes is met.** -/
theorem meets_unfold {n : Node} {m m' : Making} {found : List Node}
    (h : n.unfold.run m = .ok (found, m')) : Meets {k | n.Takes k} {k | n.Above k} m found m' := by
  unfold unfold at h
  have hmapping {id : Nat} {tag : Tag} {entries : List (Node × Node)}
      (h : (writeOut id entries >>= meetEntries).run m = .ok (found, m')) :
      Meets {k | (Node.mapping id tag entries).Takes k} {k | (Node.mapping id tag entries).Above k}
        m found m' := by
    rw [StateT.run_bind] at h
    obtain ⟨⟨flat, m₁⟩, hwrite, h⟩ := bind_eq_ok_iff.mp h
    obtain ⟨hflat, hscalars, hcollections⟩ := exists_of_writeOut hwrite
    refine ((meets_meetEntries h).after hscalars hcollections).weaken ?_ fun _ =>
      above_of_flatten hflat
    intro k hk
    cases hk with
    | entry htag hflat' hm => exact Except.ok.inj (hflat.symm.trans hflat') ▸ hm
  have hpairs {id : Nat} {tag : Tag} {items : List Node} (htag : tag ≠ .seq)
      (h : (meetPairs items).run m = .ok (found, m')) :
      Meets {k | (Node.sequence id tag items).Takes k} {k | (Node.sequence id tag items).Above k}
        m found m' := by
    refine (meets_meetPairs h).weaken ?_ ?_
    · intro k hk
      cases hk with
      | item hm => exact absurd rfl htag
      | pair _ hitem hk hm => exact ⟨_, _, _, _, hitem, hk, hm⟩
    · rintro k ⟨item, hitem, hk⟩
      exact .head' hitem hk.to_reflTransGen
  split at h
  · next id tag items htag =>
    refine (meets_meetAll h).weaken ?_ fun _ hk => .single hk
    intro k hk
    cases hk with
    | item hm => exact hm
    | pair htag' =>
      obtain rfl : tag = .seq := htag
      rcases htag' with htag' | htag' <;> cases htag'
  · exact hmapping h
  · exact hmapping h
  · next id tag items htag =>
    obtain rfl : tag = .omap := htag
    exact hpairs nofun h
  · next id tag items htag =>
    obtain rfl : tag = .pairs := htag
    exact hpairs nofun h
  · cases h

/-! ### Depth by depth -/

/-- What has come of the collections of one depth when they were put together, each once: all that
they take was met. -/
structure Unfolds (level : List Node) (m : Making) (found : List Node) (m' : Making) : Prop where
  /-- what was read before is kept, -/
  keeps : Keeps m m'
  /-- and so is what was put together -/
  collections : m.collections ⊆ m'.collections
  /-- each collection was put together -/
  done : ∀ n ∈ level, n.id ∈ m'.collections
  /-- what was found is below them, -/
  below : ∀ k ∈ found, ∃ n ∈ level, n.Above k
  /-- and so is what was read -/
  read : ∀ e ∈ m'.scalars, e ∈ m.scalars ∨ ∃ n ∈ level, ∃ k, n.Above k ∧ k.IsReading e
  /-- where a number is new among the collections, all that its node takes was met -/
  settled : ∀ id ∈ m'.collections, id ∈ m.collections ∨
    ∃ n ∈ level, n.id = id ∧ ∀ k, n.Takes k → IsMet found m' k

namespace Unfolds

variable {n : Node} {rest : List Node} {m m₁ m' : Making} {found inner : List Node}

theorem nothing (m : Making) : Unfolds [] m [] m :=
  ⟨.refl m, fun _ h => h, List.forall_mem_nil _, List.forall_mem_nil _, fun _ h => .inl h,
    fun _ h => .inl h⟩

/-- A collection that was put together before is passed over. -/
theorem skip (hold : n.id ∈ m.collections) (h : Unfolds rest m found m') :
    Unfolds (n :: rest) m found m' where
  keeps := h.keeps
  collections := h.collections
  done := List.forall_mem_cons.mpr ⟨h.collections hold, h.done⟩
  below k hk := by
    obtain ⟨c, hc, habove⟩ := h.below k hk
    exact ⟨c, List.mem_cons_of_mem _ hc, habove⟩
  read e he := by
    refine (h.read e he).imp_right ?_
    rintro ⟨c, hc, hread⟩
    exact ⟨c, List.mem_cons_of_mem _ hc, hread⟩
  settled id hid := by
    refine (h.settled id hid).imp_right ?_
    rintro ⟨c, hc, hsettled⟩
    exact ⟨c, List.mem_cons_of_mem _ hc, hsettled⟩

/-- Another one is put together before the rest. -/
theorem cons (hmeets : Meets {k | n.Takes k} {k | n.Above k}
      { m with collections := n.id :: m.collections } inner m₁)
    (h : Unfolds rest m₁ found m') : Unfolds (n :: rest) m (inner ++ found) m' := by
  have hcollections : n.id :: m.collections ⊆ m'.collections := by
    have hinner : m₁.collections = n.id :: m.collections := hmeets.collections
    exact hinner ▸ h.collections
  refine ⟨?_, ?_, ?_, ?_, ?_, ?_⟩
  · exact Keeps.trans (fun id v hv => hmeets.keeps id v hv) h.keeps
  · exact List.Subset.trans (List.subset_cons_self _ _) hcollections
  · exact List.forall_mem_cons.mpr ⟨hcollections List.mem_cons_self, h.done⟩
  · intro k hk
    rcases List.mem_append.mp hk with hk | hk
    · exact ⟨n, List.mem_cons_self, hmeets.found k hk⟩
    · obtain ⟨c, hc, habove⟩ := h.below k hk
      exact ⟨c, List.mem_cons_of_mem _ hc, habove⟩
  · intro e he
    rcases h.read e he with he | ⟨c, hc, hread⟩
    · refine (hmeets.read e he).imp_right ?_
      rintro ⟨k, hk, hread⟩
      exact ⟨n, List.mem_cons_self, k, hk, hread⟩
    · exact .inr ⟨c, List.mem_cons_of_mem _ hc, hread⟩
  · intro id hid
    rcases h.settled id hid with hid | ⟨c, hc, heq, hsettled⟩
    · rw [hmeets.collections] at hid
      rcases List.mem_cons.mp hid with rfl | hid
      · refine .inr ⟨n, List.mem_cons_self, rfl, fun k hk => ?_⟩
        exact (hmeets.met k hk).mono (List.subset_append_left _ _) h.keeps
      · exact .inl hid
    · refine .inr ⟨c, List.mem_cons_of_mem _ hc, heq, fun k hk => ?_⟩
      exact (hsettled k hk).mono (List.subset_append_right _ _) (.refl m')

end Unfolds

theorem unfolds_unfoldAll {level : List Node} {m m' : Making} {found : List Node}
    (h : (unfoldAll level).run m = .ok (found, m')) : Unfolds level m found m' := by
  induction level generalizing m m' found with
  | nil =>
    obtain ⟨rfl, rfl⟩ := Prod.mk.inj (Except.ok.inj h)
    exact .nothing m
  | cons n rest ih =>
    rw [unfoldAll, StateT.run_bind] at h
    obtain ⟨⟨m₁, m₂⟩, hget, h⟩ := bind_eq_ok_iff.mp h
    obtain ⟨rfl, rfl⟩ := Prod.mk.inj (Except.ok.inj hget)
    dsimp only at h
    split at h
    · next hold => exact (ih h).skip (List.contains_iff_mem.mp hold)
    · rw [StateT.run_bind] at h
      obtain ⟨⟨u, m₁⟩, hmodify, h⟩ := bind_eq_ok_iff.mp h
      obtain ⟨-, rfl⟩ := Prod.mk.inj (Except.ok.inj hmodify)
      obtain ⟨⟨inner, m₂⟩, hinner, h⟩ := bind_eq_ok_iff.mp h
      obtain ⟨⟨others, m₃⟩, hothers, h⟩ := bind_eq_ok_iff.mp h
      obtain ⟨rfl, rfl⟩ := Prod.mk.inj (Except.ok.inj h)
      exact .cons (meets_unfold hinner) (ih hothers)

/-- A node was made: its scalar was read, or it was put together. -/
def IsMade (m : Making) (n : Node) : Prop :=
  if n.tag.isCollection then n.id ∈ m.collections else (m.scalars.lookup n.id).isSome

theorem IsMade.mono {m m' : Making} {n : Node} (h : IsMade m n) (hkeeps : Keeps m m')
    (hcollections : m.collections ⊆ m'.collections) : IsMade m' n := by
  rw [IsMade] at h ⊢
  split at h
  · next hcollection => exact if_pos hcollection ▸ hcollections h
  · next hscalar =>
    obtain ⟨v, hv⟩ := Option.isSome_iff_exists.mp h
    rw [if_neg hscalar, hkeeps _ v hv]
    rfl

theorem IsMet.isMade {found : List Node} {m : Making} {n : Node} (h : IsMet found m n)
    (hfound : n ∈ found → n.id ∈ m.collections) : IsMade m n := by
  rw [IsMet] at h
  rw [IsMade]
  split at h
  · next hcollection => exact if_pos hcollection ▸ hfound h
  · next hscalar => exact if_neg hscalar ▸ h

/-- What has come of collections and of all that is below them: where one was put together, all
that it takes was made. -/
structure Makes (level : List Node) (m m' : Making) : Prop where
  /-- what was read before is kept, -/
  keeps : Keeps m m'
  /-- and so is what was put together -/
  collections : m.collections ⊆ m'.collections
  /-- each collection was put together -/
  done : ∀ n ∈ level, n.id ∈ m'.collections
  /-- what was read is below them -/
  read : ∀ e ∈ m'.scalars, e ∈ m.scalars ∨ ∃ n ∈ level, ∃ k, n.Above k ∧ k.IsReading e
  /-- where a number is new among the collections, all that its node takes was made -/
  settled : ∀ id ∈ m'.collections, id ∈ m.collections ∨
    ∃ n ∈ level, ∃ c, n.HasPart c ∧ c.id = id ∧ ∀ k, c.Takes k → IsMade m' k

theorem depth_pos (n : Node) : 0 < n.depth := by
  cases n <;> exact Nat.succ_pos _

/-- **As many rounds as there are depths make everything** in some collections. -/
theorem makes_makeLevels {level : List Node} {depth : Nat} {m m' : Making}
    (hdepth : ∀ n ∈ level, n.depth ≤ depth) (h : (makeLevels level depth).run m = .ok ((), m')) :
    Makes level m m' := by
  induction depth generalizing level m with
  | zero =>
    obtain ⟨-, rfl⟩ := Prod.mk.inj (Except.ok.inj h)
    refine ⟨.refl m, fun _ h => h, fun n hn => ?_, fun _ h => .inl h, fun _ h => .inl h⟩
    exact absurd (hdepth n hn) (Nat.not_le.mpr n.depth_pos)
  | succ depth ih =>
    rw [makeLevels, StateT.run_bind] at h
    obtain ⟨⟨next, m₁⟩, hnext, h⟩ := bind_eq_ok_iff.mp h
    have hunfolds := unfolds_unfoldAll hnext
    have hmakes : Makes next m₁ m' := by
      refine ih (fun k hk => ?_) h
      obtain ⟨n, hn, habove⟩ := hunfolds.below k hk
      exact Nat.le_of_lt_succ (habove.depth_lt.trans_le (hdepth n hn))
    refine ⟨hunfolds.keeps.trans hmakes.keeps,
      List.Subset.trans hunfolds.collections hmakes.collections,
      fun n hn => hmakes.collections (hunfolds.done n hn), fun e he => ?_, fun id hid => ?_⟩
    · rcases hmakes.read e he with he | ⟨c, hc, k, hk, hread⟩
      · exact hunfolds.read e he
      · obtain ⟨n, hn, habove⟩ := hunfolds.below c hc
        exact .inr ⟨n, hn, k, habove.trans hk, hread⟩
    · rcases hmakes.settled id hid with hid | ⟨k, hk, c, hpart, heq, hsettled⟩
      · refine (hunfolds.settled id hid).imp_right ?_
        rintro ⟨n, hn, heq, hsettled⟩
        refine ⟨n, hn, n, .refl, heq, fun k hk => ?_⟩
        -- What was found with this depth is put together with the next ones.
        have hmet := (hsettled k hk).mono (fun _ h => h) hmakes.keeps
        exact hmet.isMade fun hfound => hmakes.done k hfound
      · obtain ⟨n, hn, habove⟩ := hunfolds.below k hk
        exact .inr ⟨n, hn, c, habove.to_reflTransGen.trans hpart, heq, hsettled⟩

/-! ### Documents -/

/-- Everything that the value of a tree is put together from. -/
def TakesPart : Node → Node → Prop :=
  Relation.ReflTransGen Takes

theorem TakesPart.hasPart {n m : Node} (h : n.TakesPart m) : n.HasPart m := by
  induction h with
  | refl => exact .refl
  | tail _ hstep ih => exact ih.trans hstep.above.to_reflTransGen

/-- What has come of a document that was made. -/
theorem makes_make {n : Node} {made : Making} (h : n.make.run .initial = .ok ((), made)) :
    (∀ e ∈ made.scalars, ∃ k, n.HasPart k ∧ k.IsReading e) ∧ IsMade made n ∧
      ∀ id ∈ made.collections, ∃ c, n.HasPart c ∧ c.id = id ∧ ∀ k, c.Takes k → IsMade made k := by
  rw [make, StateT.run_bind] at h
  obtain ⟨⟨level, m⟩, hmeet, h⟩ := bind_eq_ok_iff.mp h
  have hmeets := meets_meet hmeet
  have hroot : ∀ k ∈ level, k = n := hmeets.found
  have hmakes := makes_makeLevels (fun k hk => (hroot k hk ▸ le_rfl : k.depth ≤ n.depth)) h
  refine ⟨fun e he => ?_, ?_, fun id hid => ?_⟩
  · rcases hmakes.read e he with he | ⟨k, hk, k', habove, hread⟩
    · rcases hmeets.read e he with he | ⟨k, rfl, hread⟩
      · cases he
      · exact ⟨k, .refl, hread⟩
    · exact ⟨k', hroot k hk ▸ habove.to_reflTransGen, hread⟩
  · exact ((hmeets.met n rfl).mono (fun _ h => h) hmakes.keeps).isMade (hmakes.done n)
  · rcases hmakes.settled id hid with hid | ⟨k, hk, c, hpart, hsettled⟩
    · rw [hmeets.collections] at hid
      cases hid
    · exact ⟨c, hroot k hk ▸ hpart, hsettled⟩

/-- The value of what is no collection is what its number was read as. -/
theorem value_eq_scalarValue {n : Node} (htag : n.tag.isCollection = false)
    (scalars : List (Nat × Value)) : n.value scalars = scalarValue scalars n.id := by
  cases n with
  | scalar id tag content => rw [value, Node.id]
  | sequence id tag items => cases tag <;> first | rfl | cases htag
  | mapping id tag entries => cases tag <;> first | rfl | cases htag

/-- **A scalar has in a document the value that its text is read as**, if the value of the document
is put together from it: it was met, and nothing else has its number. -/
theorem readAsScalar_of_make {rules : List ResolutionRule} {s : Text} {n : Node} {made : Making}
    (hnode : ofText rules s = .ok (some n)) (hmade : n.make.run .initial = .ok ((), made))
    {m : Node} (hpart : n.TakesPart m) (htag : m.tag.isCollection = false) :
    ∃ texts, m.readAsScalar texts = .ok (m.value made.scalars) := by
  obtain ⟨hread, hroot, hsettled⟩ := makes_make hmade
  have hall {k : Node} (hk : n.TakesPart k) : IsMade made k := by
    induction hk with
    | refl => exact hroot
    | tail hk hstep ih =>
      rw [IsMade, if_pos hstep.isCollection] at ih
      obtain ⟨c, hc, heq, hc'⟩ := hsettled _ ih
      exact hc' _ (eq_of_ofText hnode hc (TakesPart.hasPart hk) heq ▸ hstep)
  have hmet := hall hpart
  rw [IsMade, if_neg (Bool.eq_false_iff.mp htag)] at hmet
  obtain ⟨v, hv⟩ := Option.isSome_iff_exists.mp hmet
  obtain ⟨before, after, heq, -⟩ := List.lookup_eq_some_iff.mp hv
  have hmem : (m.id, v) ∈ made.scalars := heq ▸ List.mem_append_right _ List.mem_cons_self
  obtain ⟨k, hk, hid, -, texts, hread⟩ := hread _ hmem
  rw [eq_of_ofText hnode hk hpart.hasPart hid] at hread
  refine ⟨texts, hread.trans (congrArg Except.ok ?_)⟩
  rw [value_eq_scalarValue htag, scalarValue, hv, Option.getD_some]

end DomBindings.Yaml.Node
