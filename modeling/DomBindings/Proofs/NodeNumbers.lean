import DomBindings.Proofs.Traversal
import DomBindings.Yaml.Node
import Mathlib.Data.Set.Insert
import Mathlib.Logic.Relation

/-!
# The numbers of nodes

A document is made by the numbers of its nodes: a node that names bring to several places is read
once. That does no harm if nodes with one number are one node, and so they are in every tree that
was read (`Node.eq_of_ofText`).

The reader takes the number of a collection before it reads what the collection holds, so the
invariant has to speak of numbers that are taken and not used yet. Of the nodes made so far it says
that all that is below them was made too, that their numbers are their own, and that names stand for
them (`Node.Numbering`). An action makes more nodes, with numbers that were free or with one that
was taken for it (`Node.Numbers`); the rules for the actions of the reader follow its grammar.
-/

namespace DomBindings.Yaml.Node

open Traversal

/-- The keys and values of some entries. -/
def entryNodes (entries : List (Node × Node)) : List Node :=
  entries.flatMap fun e => [e.1, e.2]

/-- The nodes directly below a node. -/
def children : Node → List Node
  | .scalar _ _ _ => []
  | .sequence _ _ items => items
  | .mapping _ _ entries => entryNodes entries

/-- A tree has a part: its root or a node below. -/
def HasPart : Node → Node → Prop :=
  Relation.ReflTransGen fun n m => m ∈ n.children

/-- What stands for a node that is part of itself, until the document is refused for that. -/
def standIn : Node :=
  .scalar 0 .null []

/-- What holds of the nodes made so far. -/
structure Numbering (made : Set Node) (r : Reader) : Prop where
  /-- with a node, those below it were made -/
  closed : ∀ n ∈ made, ∀ m ∈ n.children, m ∈ made
  /-- no number was given twice -/
  unique : ∀ n ∈ made, ∀ m ∈ made, n.id = m.id → n = m
  /-- and none was given that is still to come -/
  counted : ∀ n ∈ made, n.id < r.fresh
  /-- names stand for nodes that were made -/
  named : ∀ word n, r.anchors.lookup word = some (some n) → n ∈ made
  /-- and so does the node for those that are not read yet -/
  standsIn : standIn ∈ made

/-- What an action of the reader adds to the nodes made so far: they have numbers that were free, or
numbers that were taken for them. -/
structure Adds (own : List Nat) (made : Set Node) (fresh : Nat) (made' : Set Node) (fresh' : Nat) :
    Prop where
  /-- no node is lost -/
  keeps : made ⊆ made'
  /-- and no number becomes free again -/
  counts : fresh ≤ fresh'
  /-- a node that is new has a new number -/
  new : ∀ n ∈ made', n ∈ made ∨ fresh ≤ n.id ∨ n.id ∈ own

/-- An action that returns nodes which were made, given that some nodes were made before and that
some numbers were taken for it. -/
def Numbers {α : Type} (given : List Node) (own : List Nat) (x : Reading α)
    (returned : α → List Node) : Prop :=
  ∀ made r a r', Numbering made r → (∀ n ∈ given, n ∈ made) →
    (∀ i ∈ own, i < r.fresh ∧ ∀ n ∈ made, n.id ≠ i) → x.run r = .ok (a, r') →
      ∃ made', Numbering made' r' ∧ Adds own made r.fresh made' r'.fresh ∧
        ∀ n ∈ returned a, n ∈ made'

namespace Numbers

variable {α β : Type} {given : List Node} {own : List Nat}
variable {x : Reading α} {f : α → Reading β} {returned : α → List Node} {returned' : β → List Node}

theorem pure {a : α} (h : ∀ n ∈ returned a, n ∈ given) :
    Numbers given own (Pure.pure a) returned := by
  intro made r a' r' hmade hgiven _ hrun
  obtain ⟨rfl, rfl⟩ := Prod.mk.inj (Except.ok.inj hrun)
  exact ⟨made, hmade, ⟨subset_rfl, le_rfl, fun n hn => .inl hn⟩, fun n hn => hgiven n (h n hn)⟩

theorem nothing {a : α} : Numbers given own (Pure.pure a) fun _ => [] :=
  pure (List.forall_mem_nil _)

theorem throw (e : Fault) : Numbers given own (throw e : Reading α) returned := by
  intro made r a r' _ _ _ hrun
  cases hrun

/-- An action that gives no number and no name makes no node. -/
theorem of_keeps (h : ∀ r a r', x.run r = .ok (a, r') → r'.fresh = r.fresh ∧
    ∀ word n, r'.anchors.lookup word = some (some n) → r.anchors.lookup word = some (some n)) :
    Numbers [] [] x fun _ => [] := by
  intro made r a r' hmade _ _ hrun
  obtain ⟨hfresh, hanchors⟩ := h r a r' hrun
  refine ⟨made, ⟨hmade.closed, hmade.unique, ?_, ?_, hmade.standsIn⟩,
    ⟨subset_rfl, hfresh.ge, ?_⟩, ?_⟩
  · exact fun n hn => hfresh ▸ hmade.counted n hn
  · exact fun word n hn => hmade.named word n (hanchors word n hn)
  · exact fun n hn => .inl hn
  · exact fun n hn => (List.not_mem_nil hn).elim

theorem bind (hx : Numbers [] [] x returned)
    (hf : ∀ a, Numbers (given ++ returned a) own (f a) returned') :
    Numbers given own (x >>= f) returned' := by
  intro made r b r' hmade hgiven hown hrun
  rw [StateT.run_bind] at hrun
  obtain ⟨⟨a, r₁⟩, hrun, hrest⟩ := bind_eq_ok_iff.mp hrun
  obtain ⟨made₁, hmade₁, hadds₁, hreturned₁⟩ := hx made r a r₁ hmade
    (fun _ hn => (List.not_mem_nil hn).elim) (fun _ hi => (List.not_mem_nil hi).elim) hrun
  have hgiven₁ : ∀ n ∈ given ++ returned a, n ∈ made₁ := by
    intro n hn
    rcases List.mem_append.mp hn with hn | hn
    · exact hadds₁.keeps (hgiven n hn)
    · exact hreturned₁ n hn
  -- The numbers that were taken before are smaller than those of the nodes just made.
  have hown₁ : ∀ i ∈ own, i < r₁.fresh ∧ ∀ n ∈ made₁, n.id ≠ i := by
    intro i hi
    obtain ⟨hlt, hfree⟩ := hown i hi
    refine ⟨hlt.trans_le hadds₁.counts, fun n hn => ?_⟩
    rcases hadds₁.new n hn with hn | hn | hn
    · exact hfree n hn
    · exact (hlt.trans_le hn).ne'
    · exact (List.not_mem_nil hn).elim
  obtain ⟨made', hmade', hadds, hreturned⟩ := hf a made₁ r₁ b r' hmade₁ hgiven₁ hown₁ hrest
  refine ⟨made', hmade', ⟨hadds₁.keeps.trans hadds.keeps, hadds₁.counts.trans hadds.counts, ?_⟩,
    hreturned⟩
  intro n hn
  rcases hadds.new n hn with hn | hn | hn
  · rcases hadds₁.new n hn with hn | hn | hn
    · exact .inl hn
    · exact .inr (.inl hn)
    · exact (List.not_mem_nil hn).elim
  · exact .inr (.inl (hadds₁.counts.trans hn))
  · exact .inr (.inr hn)

theorem ite {c : Prop} [Decidable c] {y : Reading α} (hx : Numbers given own x returned)
    (hy : Numbers given own y returned) : Numbers given own (if c then x else y) returned := by
  split
  · exact hx
  · exact hy

/-- A number is taken for a node that is made later. -/
theorem newId {f : Nat → Reading β} (hf : ∀ id, Numbers given [id] (f id) returned') :
    Numbers given [] (newId >>= f) returned' := by
  intro made r b r' hmade hgiven _ hrun
  rw [StateT.run_bind] at hrun
  obtain ⟨⟨id, r₁⟩, hid, hrest⟩ := bind_eq_ok_iff.mp hrun
  obtain ⟨rfl, rfl⟩ := Prod.mk.inj (Except.ok.inj hid)
  have hmade₁ : Numbering made { r with fresh := r.fresh + 1 } :=
    ⟨hmade.closed, hmade.unique, fun n hn => Nat.lt_succ_of_lt (hmade.counted n hn), hmade.named,
      hmade.standsIn⟩
  have hown : ∀ i ∈ [r.fresh], i < r.fresh + 1 ∧ ∀ n ∈ made, n.id ≠ i := by
    intro i hi
    rw [List.mem_singleton.mp hi]
    exact ⟨Nat.lt_succ_self _, fun n hn => (hmade.counted n hn).ne⟩
  obtain ⟨made', hmade', hadds, hreturned⟩ := hf r.fresh made _ b r' hmade₁ hgiven hown hrest
  refine ⟨made', hmade', ⟨hadds.keeps, Nat.le_of_succ_le hadds.counts, ?_⟩, hreturned⟩
  intro n hn
  rcases hadds.new n hn with hn | hn | hn
  · exact .inl hn
  · exact .inr (.inl (Nat.le_of_succ_le hn))
  · exact .inr (.inl (List.mem_singleton.mp hn).ge)

/-- A node is made of given ones, with a number that was taken for it. -/
theorem new (node : Node) (hchildren : ∀ m ∈ node.children, m ∈ given) (hid : node.id ∈ own)
    (h : Numbers (node :: given) [] x returned) : Numbers given own x returned := by
  intro made r a r' hmade hgiven hown hrun
  obtain ⟨hlt, hfree⟩ := hown node.id hid
  have hmade₁ : Numbering (insert node made) r := by
    refine ⟨?_, ?_, ?_, ?_, .inr hmade.standsIn⟩
    · rintro n (rfl | hn) m hm
      · exact .inr (hgiven m (hchildren m hm))
      · exact .inr (hmade.closed n hn m hm)
    · rintro n (rfl | hn) m (rfl | hm) heq
      · rfl
      · exact absurd heq.symm (hfree m hm)
      · exact absurd heq (hfree n hn)
      · exact hmade.unique n hn m hm heq
    · rintro n (rfl | hn)
      · exact hlt
      · exact hmade.counted n hn
    · exact fun word n hn => .inr (hmade.named word n hn)
  have hgiven₁ : ∀ n ∈ node :: given, n ∈ insert node made := by
    intro n hn
    rcases List.mem_cons.mp hn with rfl | hn
    · exact Set.mem_insert _ _
    · exact .inr (hgiven n hn)
  obtain ⟨made', hmade', hadds, hreturned⟩ := h _ r a r' hmade₁ hgiven₁
    (fun _ hi => (List.not_mem_nil hi).elim) hrun
  refine ⟨made', hmade', ⟨(Set.subset_insert _ _).trans hadds.keeps, hadds.counts, ?_⟩, hreturned⟩
  intro n hn
  rcases hadds.new n hn with (rfl | hn) | hn | hn
  · exact .inr (.inr hid)
  · exact .inl hn
  · exact .inr (.inl hn)
  · exact (List.not_mem_nil hn).elim

/-! ### The actions of the reader -/

theorem peek : Numbers [] [] peek fun _ => [] := by
  refine of_keeps fun r t r' hrun => ?_
  unfold Node.peek at hrun
  rw [StateT.run_bind] at hrun
  obtain ⟨⟨r₁, r₂⟩, hget, hrest⟩ := bind_eq_ok_iff.mp hrun
  obtain ⟨rfl, rfl⟩ := Prod.mk.inj (Except.ok.inj hget)
  split at hrest
  · obtain ⟨-, rfl⟩ := Prod.mk.inj (Except.ok.inj hrest)
    exact ⟨rfl, fun _ _ h => h⟩
  · cases hrest

/-- Changes that leave numbers and names as they are. -/
theorem modify {f : Reader → Reader} (hfresh : ∀ r, (f r).fresh = r.fresh)
    (hanchors : ∀ r, (f r).anchors = r.anchors) :
    Numbers [] [] (modify f : Reading PUnit) fun _ => [] := by
  refine of_keeps fun r _ r' hrun => ?_
  obtain ⟨-, rfl⟩ := Prod.mk.inj (Except.ok.inj hrun)
  exact ⟨hfresh r, fun _ _ h => hanchors r ▸ h⟩

theorem pass : Numbers [] [] pass fun _ => [] :=
  modify (fun _ => rfl) fun _ => rfl

theorem get : Numbers [] [] (get : Reading Reader) fun _ => [] := by
  refine of_keeps fun r _ r' hrun => ?_
  obtain ⟨-, rfl⟩ := Prod.mk.inj (Except.ok.inj hrun)
  exact ⟨rfl, fun _ _ h => h⟩

theorem nextIs (options : List Token) : Numbers [] [] (nextIs options) fun _ => [] :=
  peek.bind fun _ => nothing

theorem readAnchor? : Numbers [] [] readAnchor? fun _ => [] := by
  refine peek.bind fun t => ?_
  split
  · exact pass.bind fun _ => nothing
  · exact nothing

theorem readTag? : Numbers [] [] readTag? fun _ => [] := by
  refine peek.bind fun t => ?_
  split
  · exact pass.bind fun _ => nothing
  · exact nothing

theorem tagName (written : Option (Option Text × Text)) :
    Numbers [] [] (tagName written) fun _ => [] := by
  unfold Node.tagName
  split
  · exact nothing
  · exact nothing
  · refine get.bind fun r => ?_
    split
    · exact nothing
    · exact throw _

theorem readProperties : Numbers [] [] readProperties fun _ => [] := by
  refine readAnchor?.bind fun anchor => ?_
  split
  · exact readTag?.bind fun _ => (tagName _).bind fun _ => nothing
  · refine readTag?.bind fun written => ?_
    dsimp only
    split
    · exact readAnchor?.bind fun _ => (tagName _).bind fun _ => nothing
    · exact nothing.bind fun _ =>
        (tagName _).bind fun _ => nothing

/-- A name that is taken stands for no node yet. -/
theorem reserve (anchor : Option Text) : Numbers [] [] (reserve anchor) fun _ => [] := by
  unfold Node.reserve
  split
  · exact nothing
  · next word =>
    refine get.bind fun r => ?_
    split
    · exact throw _
    · refine of_keeps fun r _ r' hrun => ?_
      obtain ⟨-, rfl⟩ := Prod.mk.inj (Except.ok.inj hrun)
      refine ⟨rfl, fun word' n hn => ?_⟩
      rw [List.lookup_cons] at hn
      split at hn
      · cases hn
      · exact hn

/-- A name may be given to a node that was made. -/
theorem fill {anchor : Option Text} {node : Node} {f : Unit → Reading β} (hnode : node ∈ given)
    (hf : Numbers given own (f ()) returned') :
    Numbers given own (fill anchor node >>= f) returned' := by
  cases anchor with
  | none => exact hf
  | some word =>
    intro made r b r' hmade hgiven hown hrun
    have hfilled : Numbering made { r with anchors := (word, some node) :: r.anchors } := by
      refine ⟨hmade.closed, hmade.unique, hmade.counted, fun word' n hn => ?_, hmade.standsIn⟩
      rw [List.lookup_cons] at hn
      split at hn
      · obtain rfl := Option.some.inj (Option.some.inj hn)
        exact hgiven _ hnode
      · exact hmade.named word' n hn
    exact hf made { r with anchors := (word, some node) :: r.anchors } b r' hfilled hgiven hown hrun

/-- A name brings a node that was made. -/
theorem nodeNamed (word : Text) : Numbers [] [] (nodeNamed word) fun n => [n] := by
  intro made r n r' hmade _ _ hrun
  unfold Node.nodeNamed at hrun
  rw [StateT.run_bind] at hrun
  obtain ⟨⟨r₁, r₂⟩, hget, hrest⟩ := bind_eq_ok_iff.mp hrun
  obtain ⟨rfl, rfl⟩ := Prod.mk.inj (Except.ok.inj hget)
  split at hrest
  · cases hrest
  · obtain ⟨rfl, rfl⟩ := Prod.mk.inj (Except.ok.inj hrest)
    exact ⟨made, ⟨hmade.closed, hmade.unique, hmade.counted, hmade.named, hmade.standsIn⟩,
      ⟨subset_rfl, le_rfl, fun n hn => .inl hn⟩, List.forall_mem_singleton.mpr hmade.standsIn⟩
  · next hnamed =>
    obtain ⟨rfl, rfl⟩ := Prod.mk.inj (Except.ok.inj hrest)
    exact ⟨made, hmade, ⟨subset_rfl, le_rfl, fun n hn => .inl hn⟩,
      List.forall_mem_singleton.mpr (hmade.named word _ hnamed)⟩

/-- A scalar is made with the number that was taken for it. -/
theorem newScalar (name : Option Text) (content : Text) (plain : Bool) :
    Numbers [] [] (newScalar name content plain) fun n => [n] := by
  refine newId fun id => get.bind fun r => ?_
  refine new (.scalar id (scalarTag r.rules name content plain) content) ?_ ?_ (pure ?_)
  · exact List.forall_mem_nil _
  · exact List.mem_singleton_self id
  · exact fun n hn => List.mem_cons.mpr (.inl (List.mem_singleton.mp hn))

theorem absent : Numbers [] [] absent fun n => [n] :=
  newScalar none [] true

/-- A collection is made of what was read, gets its name and is returned. -/
theorem finish {anchor : Option Text} {node : Node} (hchildren : ∀ m ∈ node.children, m ∈ given)
    (hid : node.id ∈ own) :
    Numbers given own (Node.fill anchor node >>= fun _ => Pure.pure node) fun n => [n] := by
  refine new node hchildren hid (fill List.mem_cons_self (pure fun n hn => ?_))
  exact List.mem_cons.mpr (.inl (List.mem_singleton.mp hn))

theorem readMissing (anchor name : Option Text) :
    Numbers [] [] (readMissing anchor name) fun n => [n] := by
  unfold Node.readMissing
  split
  · exact throw _
  · exact (reserve anchor).bind fun _ => (newScalar name [] true).bind fun n =>
      fill (List.mem_append_right _ (List.mem_singleton_self n)) (pure fun _ hn =>
        List.mem_append_right _ hn)

/-! ### The grammar -/

theorem noItems {f : List α → List Node} (hf : f [] = []) : Numbers given own (Pure.pure []) f :=
  pure (hf ▸ List.forall_mem_nil _)

theorem consItem {item : Node} {read : Reading (List Node)} (hitem : item ∈ given)
    (hread : Numbers [] [] read fun items => items) :
    Numbers given [] (read >>= fun others => Pure.pure (item :: others)) fun items => items := by
  refine hread.bind fun others => pure fun n hn => ?_
  rcases List.mem_cons.mp hn with rfl | hn
  · exact List.mem_append_left _ hitem
  · exact List.mem_append_right _ hn

theorem consEntry {key value : Node} {read : Reading (List (Node × Node))} (hkey : key ∈ given)
    (hvalue : value ∈ given) (hread : Numbers [] [] read entryNodes) :
    Numbers given [] (read >>= fun others => Pure.pure ((key, value) :: others)) entryNodes := by
  refine hread.bind fun others => pure ?_
  rw [entryNodes, List.flatMap_cons, List.forall_mem_append]
  constructor
  · simp [hkey, hvalue]
  · exact fun n hn => List.mem_append_right _ hn

/-- The functions of the grammar, with one bound of their steps. -/
structure Grammar (fuel : Nat) : Prop where
  node : ∀ block indentless, Numbers [] [] (readNode block indentless fuel) fun n => [n]
  unlessEnd : ∀ ends block, Numbers [] [] (readUnless ends block fuel) fun n => [n]
  blockItems : Numbers [] [] (readBlockItems fuel) fun items => items
  indentless : Numbers [] [] (readIndentless fuel) fun items => items
  blockEntries : Numbers [] [] (readBlockEntries fuel) entryNodes
  value : ∀ ends block, Numbers [] [] (readValue ends block fuel) fun n => [n]
  flowItems : ∀ first, Numbers [] [] (readFlowItems first fuel) fun items => items
  flowEntries : ∀ first, Numbers [] [] (readFlowEntries first fuel) entryNodes

namespace Grammar

theorem zero : Grammar 0 := by
  constructor <;> intros <;> exact throw _

variable {fuel : Nat} (h : Grammar fuel)
include h

theorem readUnless (ends : List Token) (block : Bool) :
    Numbers [] [] (Node.readUnless ends block (fuel + 1)) fun n => [n] := by
  refine (nextIs ends).bind fun atEnd => ?_
  split
  · exact absent
  · exact h.node block block

theorem readValue (ends : List Token) (block : Bool) :
    Numbers [] [] (Node.readValue ends block (fuel + 1)) fun n => [n] := by
  refine peek.bind fun t => ?_
  split
  · exact pass.bind fun _ => h.unlessEnd ends block
  · exact absent

theorem readBlockItems :
    Numbers [] [] (Node.readBlockItems (fuel + 1)) fun items => items := by
  refine peek.bind fun t => ?_
  split
  · refine pass.bind fun _ => (nextIs _).bind fun atEnd => ?_
    dsimp only
    split
    · exact absent.bind fun item => consItem (by simp) h.blockItems
    · exact (h.node true false).bind fun item => consItem (by simp) h.blockItems
  · exact pass.bind fun _ => noItems rfl
  · exact throw _

theorem readIndentless :
    Numbers [] [] (Node.readIndentless (fuel + 1)) fun items => items := by
  refine peek.bind fun t => ?_
  split
  · refine pass.bind fun _ => (nextIs _).bind fun atEnd => ?_
    dsimp only
    split
    · exact absent.bind fun item => consItem (by simp) h.indentless
    · exact (h.node true false).bind fun item => consItem (by simp) h.indentless
  · exact noItems rfl

theorem readBlockEntries : Numbers [] [] (Node.readBlockEntries (fuel + 1)) entryNodes := by
  refine peek.bind fun t => ?_
  split
  · exact pass.bind fun _ => (h.unlessEnd _ true).bind fun key => (h.value _ true).bind fun value =>
      consEntry (by simp) (by simp) h.blockEntries
  · exact throw _
  · exact pass.bind fun _ => noItems rfl
  · exact throw _

theorem readFlowItems (first : Bool) :
    Numbers [] [] (Node.readFlowItems first (fuel + 1)) fun items => items := by
  unfold Node.readFlowItems
  refine peek.bind fun t => ?_
  extract_lets behind
  have hbehind (u : Unit) : Numbers [] [] (behind u) fun items => items := by
    refine peek.bind fun t => ?_
    split
    · refine newId fun id => pass.bind fun _ => (h.unlessEnd _ false).bind fun key =>
        (h.value _ false).bind fun value => (h.flowItems false).bind fun others => ?_
      refine new (.mapping id .map [(key, value)]) (by simp [children, entryNodes])
        (by simp [Node.id]) (pure fun n hn => ?_)
      rcases List.mem_cons.mp hn with rfl | hn
      · exact List.mem_cons_self
      · exact List.mem_cons_of_mem _ (List.mem_append_right _ hn)
    · exact pass.bind fun _ => noItems rfl
    · exact (h.node false false).bind fun item => consItem (by simp) (h.flowItems false)
  split
  · exact pass.bind fun _ => noItems rfl
  · split
    · refine peek.bind fun t => ?_
      split
      · exact pass.bind fun u => hbehind u
      · exact (throw _).bind fun u => hbehind u
    · exact hbehind ()

theorem readFlowEntries (first : Bool) :
    Numbers [] [] (Node.readFlowEntries first (fuel + 1)) entryNodes := by
  unfold Node.readFlowEntries
  refine peek.bind fun t => ?_
  extract_lets behind
  have hbehind (u : Unit) : Numbers [] [] (behind u) entryNodes := by
    refine peek.bind fun t => ?_
    split
    · exact pass.bind fun _ => (h.unlessEnd _ false).bind fun key =>
        (h.value _ false).bind fun value => consEntry (by simp) (by simp) (h.flowEntries false)
    · exact pass.bind fun _ => noItems rfl
    · exact (h.node false false).bind fun key => absent.bind fun value =>
        consEntry (by simp) (by simp) (h.flowEntries false)
  split
  · exact pass.bind fun _ => noItems rfl
  · split
    · refine peek.bind fun t => ?_
      split
      · exact pass.bind fun u => hbehind u
      · exact (throw _).bind fun u => hbehind u
    · exact hbehind ()

theorem readNode (block indentless : Bool) :
    Numbers [] [] (Node.readNode block indentless (fuel + 1)) fun n => [n] := by
  unfold Node.readNode
  refine peek.bind fun t => ?_
  split
  · exact pass.bind fun _ => nodeNamed _
  · refine readProperties.bind fun properties => ?_
    split
    refine peek.bind fun t => ?_
    split
    · refine (reserve _).bind fun _ => newId fun id => h.indentless.bind fun items => ?_
      exact finish (by simp [children]) (by simp [Node.id])
    · split
      · exact pass.bind fun _ => (reserve _).bind fun _ => (newScalar _ _ _).bind fun n =>
          fill (by simp) (pure (by simp))
      · refine (reserve _).bind fun _ => newId fun id => pass.bind fun _ =>
          (h.flowItems true).bind fun items => ?_
        exact finish (by simp [children]) (by simp [Node.id])
      · refine (reserve _).bind fun _ => newId fun id => pass.bind fun _ =>
          (h.flowEntries true).bind fun entries => ?_
        exact finish (by simp [children, entryNodes]) (by simp [Node.id])
      · split
        · exact readMissing _ _
        · refine (reserve _).bind fun _ => newId fun id => pass.bind fun _ =>
            h.blockItems.bind fun items => ?_
          exact finish (by simp [children]) (by simp [Node.id])
      · split
        · exact readMissing _ _
        · refine (reserve _).bind fun _ => newId fun id => pass.bind fun _ =>
            h.blockEntries.bind fun entries => ?_
          exact finish (by simp [children, entryNodes]) (by simp [Node.id])
      · exact readMissing _ _

/-- One more step keeps the numbers in order. -/
theorem succ : Grammar (fuel + 1) :=
  ⟨h.readNode, h.readUnless, h.readBlockItems, h.readIndentless, h.readBlockEntries, h.readValue,
    h.readFlowItems, h.readFlowEntries⟩

end Grammar

/-- **The grammar gives every node a number of its own**, however many steps it may take. -/
theorem grammar : ∀ fuel, Grammar fuel
  | 0 => .zero
  | fuel + 1 => (grammar fuel).succ

theorem passDocumentEnds (fuel : Nat) : Numbers [] [] (passDocumentEnds fuel) fun _ => [] := by
  induction fuel with
  | zero => exact throw _
  | succ fuel ih =>
    refine peek.bind fun t => ?_
    split
    · exact pass.bind fun _ => ih
    · exact nothing

theorem readDirectives (versioned : Bool) (handles : List (Text × Text)) (fuel : Nat) :
    Numbers [] [] (readDirectives versioned handles fuel) fun _ => [] := by
  induction fuel generalizing versioned handles with
  | zero => exact throw _
  | succ fuel ih =>
    refine peek.bind fun t => ?_
    split
    · refine pass.bind fun _ => ?_
      split
      · split
        · exact throw _
        · exact ih _ _
      · split
        · exact throw _
        · exact ih _ _
      · exact ih _ _
    · exact nothing

theorem openDocument (fuel : Nat) : Numbers [] [] (openDocument fuel) fun _ => [] := by
  unfold Node.openDocument
  refine (passDocumentEnds fuel).bind fun _ => peek.bind fun t => ?_
  split
  · exact nothing
  · refine (readDirectives false [] fuel).bind fun handles => peek.bind fun t => ?_
    extract_lets opened
    have hopened (u : Unit) : Numbers [] [] (opened u) fun _ => [] :=
      pass.bind fun _ =>
        (modify (f := fun r => { r with handles := handles }) (fun _ => rfl) fun _ => rfl).bind
          fun _ => nothing
    split
    · exact (throw _).bind fun u => hopened u
    · exact hopened ()

/-- The one document of a text has its nodes numbered. -/
theorem readDocument (fuel : Nat) : Numbers [] [] (readDocument fuel) Option.toList := by
  unfold Node.readDocument
  refine peek.bind fun t => ?_
  extract_lets behind read
  have hbehind (n : Node) : Numbers [n] [] (behind n) Option.toList := by
    refine peek.bind fun t => ?_
    extract_lets only closed
    have honly (u : Unit) : Numbers [n] [] (only u) Option.toList := pure fun _ hn => hn
    have hclosed (u : Unit) : Numbers [n] [] (closed u) Option.toList := by
      refine (openDocument fuel).bind fun another => ?_
      split
      · exact (throw _).bind fun u => honly u
      · exact honly ()
    exact ite (pass.bind fun u => hclosed u) (hclosed ())
  have habsent : Numbers [] [] (Node.absent >>= behind) Option.toList :=
    absent.bind fun n => hbehind n
  have hnode : Numbers [] [] (Node.readNode true false fuel >>= behind) Option.toList :=
    ((grammar fuel).node true false).bind fun n => hbehind n
  have hread (explicit : Bool) : Numbers [] [] (read explicit) Option.toList := by
    dsimp -zeta only [read]
    extract_lets content
    have hcontent (u : Unit) : Numbers [] [] (content u) Option.toList := by
      refine peek.bind fun t => ?_
      split
      · exact ite habsent hnode
      · exact ite habsent hnode
      · exact ite habsent hnode
      · exact ite habsent hnode
      · exact hnode
    refine ite ((openDocument fuel).bind fun opened => ?_) (hcontent ())
    exact ite (pure (List.forall_mem_nil _)) (hcontent ())
  split
  · exact nothing.bind fun explicit => hread explicit
  · exact nothing.bind fun explicit => hread explicit
  · exact nothing.bind fun explicit => hread explicit
  · exact nothing.bind fun explicit => hread explicit

end Numbers

/-- The state in which the document of a text begins to be read. -/
def Reader.start (rules : List ResolutionRule) (s : Text) : Reader :=
  ⟨rules, (Yaml.tokens s).1, (Yaml.tokens s).2, defaultHandles, [], 1, false⟩

/-- **Nodes with one number are one node**, wherever they stand in a document. -/
theorem eq_of_ofText {rules : List ResolutionRule} {s : Text} {n : Node}
    (h : ofText rules s = .ok (some n)) {m m' : Node} (hm : n.HasPart m) (hm' : n.HasPart m')
    (hid : m.id = m'.id) : m = m' := by
  unfold ofText ofTokens at h
  dsimp only at h
  obtain ⟨⟨root, r⟩, hrun, h⟩ := bind_eq_ok_iff.mp h
  dsimp only at h
  split at h
  · cases h
  · obtain rfl := Except.ok.inj h
    -- Before anything is read, there is only what stands for nodes that are not read yet.
    have hstart : Numbering {standIn} (.start rules s) := by
      refine ⟨?_, ?_, ?_, fun word n hn => ?_, Set.mem_singleton _⟩
      · rintro n rfl m hm
        cases hm
      · rintro n rfl m rfl -
        rfl
      · rintro n rfl
        exact Nat.zero_lt_one
      · cases hn
    obtain ⟨made, hmade, -, hreturned⟩ := Numbers.readDocument _ _ _ _ _ hstart
      (List.forall_mem_nil _) (List.forall_mem_nil _) hrun
    have hpart {m : Node} (hm : n.HasPart m) : m ∈ made := by
      induction hm with
      | refl => exact hreturned n (List.mem_singleton_self n)
      | tail _ hstep ih => exact hmade.closed _ ih _ hstep
    exact hmade.unique m (hpart hm) m' (hpart hm') hid

end DomBindings.Yaml.Node
