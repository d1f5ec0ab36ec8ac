import DomBindings.Proofs.AccountedTokens
import DomBindings.Yaml.Construction

/-!
# Texts of which an account is given

What is said of documents is said of those of which an account is given. These are at least all
texts that write no half of a surrogate pair and in which one of the two signs for names does not
stand (`isAccountedFor_of_not_writesHalf`): their tokens tie nothing (`scanRule_accounts`), so the
reader meets no node that is part of itself, by the grammar (`Node.Unties`), and to make values of
the nodes has faults of its own only.
-/

namespace DomBindings.Yaml

namespace Node

/-! ### Reading nodes -/

/-- What holds of a reader that meets no node which is part of itself: the tokens that are left tie
nothing, and names are kept only where they are not used. -/
structure Reader.TiesNothing (named : Bool) (r : Reader) : Prop where
  /-- the tokens tie nothing -/
  tokens : ∀ t ∈ r.tokens, t.TiesNothing named
  /-- an account is given of the fault behind them -/
  fault : ∀ f ∈ r.fault, f ≠ .unaccounted
  /-- where names are used, none was given -/
  anchors : named = false → r.anchors = []
  /-- no node is part of itself -/
  acyclic : r.cyclic = false

/-- An action with which a reader goes on to meet no node that is part of itself, and of which the
result has a property. -/
def Unties {α : Type} (named : Bool) (P : α → Prop) (x : Reading α) : Prop :=
  ∀ r, r.TiesNothing named → Accounts (fun p => P p.1 ∧ p.2.TiesNothing named) (x.run r)

namespace Unties

variable {α β : Type} {named : Bool} {P : α → Prop} {Q : β → Prop}
variable {x : Reading α} {f : α → Reading β}

theorem pure {a : α} (h : P a) : Unties named P (Pure.pure a) :=
  fun _ hr => ⟨h, hr⟩

theorem throw {e : Fault} (h : e ≠ .unaccounted) : Unties named P (throw e : Reading α) :=
  fun _ _ => h

theorem bind (hx : Unties named P x) (hf : ∀ a, P a → Unties named Q (f a)) :
    Unties named Q (x >>= f) := by
  intro r hr
  rw [StateT.run_bind]
  exact (hx r hr).bind fun p hp => hf p.1 hp.1 p.2 hp.2

theorem ite {c : Prop} [Decidable c] {y : Reading α} (hx : Unties named P x)
    (hy : Unties named P y) : Unties named P (if c then x else y) := by
  split
  · exact hx
  · exact hy

/-- An action whose result may be any. -/
abbrev Goes (named : Bool) (x : Reading α) : Prop :=
  Unties named (fun _ => True) x

theorem parseFault : Unties named P Node.parseFault :=
  throw Fault.noConfusion

theorem composeFault : Unties named P Node.composeFault :=
  throw Fault.noConfusion

/-! ### The actions of the reader -/

theorem get : Unties named (Reader.TiesNothing named) (get : Reading Reader) :=
  fun _ hr => ⟨hr, hr⟩

theorem modify {f : Reader → Reader} (hf : ∀ r, r.TiesNothing named → (f r).TiesNothing named) :
    Goes named (modify f : Reading PUnit) :=
  fun r hr => ⟨trivial, hf r hr⟩

theorem peek : Unties named (Token.TiesNothing named) peek := by
  refine get.bind fun r hr => ?_
  split
  · next htokens => exact pure (hr.tokens _ (htokens ▸ List.mem_cons_self))
  · refine throw ?_
    cases hfault : r.fault with
    | none => exact Fault.noConfusion
    | some f => exact hr.fault f hfault

theorem pass : Goes named pass :=
  modify fun _ hr => ⟨fun t ht => hr.tokens t (List.mem_of_mem_drop ht), hr.fault, hr.anchors,
    hr.acyclic⟩

theorem newId : Goes named newId :=
  fun _ hr => ⟨trivial, hr.tokens, hr.fault, hr.anchors, hr.acyclic⟩

theorem nextIs (options : List Token) : Goes named (nextIs options) :=
  peek.bind fun _ _ => pure trivial

/-- A name is given only where nodes are named. -/
theorem readAnchor? :
    Unties named (fun anchor => anchor.isSome → named = true) readAnchor? := by
  refine peek.bind fun t ht => ?_
  split
  · exact pass.bind fun _ _ => pure fun _ => ht
  · exact pure nofun

theorem readTag? : Goes named readTag? := by
  refine peek.bind fun t _ => ?_
  split
  · exact pass.bind fun _ _ => pure trivial
  · exact pure trivial

theorem tagName (written : Option (Option Text × Text)) : Goes named (tagName written) := by
  unfold Node.tagName
  split
  · exact pure trivial
  · exact pure trivial
  · refine get.bind fun r _ => ?_
    split
    · exact pure trivial
    · exact parseFault

theorem readProperties :
    Unties named (fun p => p.1.isSome → named = true) readProperties := by
  refine readAnchor?.bind fun anchor hanchor => ?_
  split
  · exact readTag?.bind fun _ _ => (tagName _).bind fun _ _ => pure hanchor
  · refine readTag?.bind fun written _ => ?_
    dsimp only
    split
    · exact readAnchor?.bind fun _ hanchor => (tagName _).bind fun _ _ => pure hanchor
    · have hnone : Unties named (fun anchor => anchor.isSome → named = true)
          (Pure.pure none : Reading (Option Text)) := pure nofun
      exact hnone.bind fun _ hanchor => (tagName _).bind fun _ _ => pure hanchor

section Names

variable {anchor : Option Text} (h : anchor.isSome → named = true)
include h

theorem reserve : Goes named (reserve anchor) := by
  unfold Node.reserve
  split
  · exact pure trivial
  · refine get.bind fun r _ => .ite composeFault (modify fun r hr => ?_)
    exact ⟨hr.tokens, hr.fault, fun hnamed => (nomatch (h rfl).symm.trans hnamed), hr.acyclic⟩

theorem fill (node : Node) : Goes named (fill anchor node) := by
  cases anchor with
  | none => exact pure trivial
  | some word =>
    refine modify fun r hr => ?_
    exact ⟨hr.tokens, hr.fault, fun hnamed => (nomatch (h rfl).symm.trans hnamed), hr.acyclic⟩

end Names

/-- Where names are used, none of them was given. -/
theorem nodeNamed (h : named = false) (word : Text) : Goes named (nodeNamed word) := by
  refine get.bind fun r hr => ?_
  rw [hr.anchors h]
  exact composeFault

theorem newScalar (name : Option Text) (content : Text) (plain : Bool) :
    Goes named (newScalar name content plain) :=
  newId.bind fun _ _ => get.bind fun _ _ => pure trivial

theorem absent : Goes named absent :=
  newScalar none [] true

theorem readMissing {anchor : Option Text} (h : anchor.isSome → named = true)
    (name : Option Text) : Goes named (readMissing anchor name) :=
  .ite parseFault <| (reserve h).bind fun _ _ => (newScalar name [] true).bind fun n _ =>
    (fill h n).bind fun _ _ => pure trivial

/-! ### The grammar -/

/-- The functions of the grammar, with one bound of their steps. -/
structure Grammar (named : Bool) (fuel : Nat) : Prop where
  node : ∀ block indentless, Goes named (readNode block indentless fuel)
  unlessEnd : ∀ ends block, Goes named (readUnless ends block fuel)
  blockItems : Goes named (readBlockItems fuel)
  indentless : Goes named (readIndentless fuel)
  blockEntries : Goes named (readBlockEntries fuel)
  value : ∀ ends block, Goes named (readValue ends block fuel)
  flowItems : ∀ first, Goes named (readFlowItems first fuel)
  flowEntries : ∀ first, Goes named (readFlowEntries first fuel)

namespace Grammar

theorem zero : Grammar named 0 := by
  constructor <;> intros <;> exact parseFault

variable {fuel : Nat} (h : Grammar named fuel)
include h

theorem readUnless (ends : List Token) (block : Bool) :
    Goes named (Node.readUnless ends block (fuel + 1)) :=
  (nextIs ends).bind fun _ _ => .ite absent (h.node block block)

theorem readValue (ends : List Token) (block : Bool) :
    Goes named (Node.readValue ends block (fuel + 1)) := by
  refine peek.bind fun t _ => ?_
  split
  · exact pass.bind fun _ _ => h.unlessEnd ends block
  · exact absent

theorem readBlockItems : Goes named (Node.readBlockItems (fuel + 1)) := by
  refine peek.bind fun t _ => ?_
  split
  · have hitem (item : Node) (_ : True) :
        Goes named (Node.readBlockItems fuel >>= fun others => Pure.pure (item :: others)) :=
      h.blockItems.bind fun _ _ => pure trivial
    exact pass.bind fun _ _ => (nextIs _).bind fun _ _ =>
      .ite (absent.bind hitem) ((h.node true false).bind hitem)
  · exact pass.bind fun _ _ => pure trivial
  · exact parseFault

theorem readIndentless : Goes named (Node.readIndentless (fuel + 1)) := by
  refine peek.bind fun t _ => ?_
  split
  · have hitem (item : Node) (_ : True) :
        Goes named (Node.readIndentless fuel >>= fun others => Pure.pure (item :: others)) :=
      h.indentless.bind fun _ _ => pure trivial
    exact pass.bind fun _ _ => (nextIs _).bind fun _ _ =>
      .ite (absent.bind hitem) ((h.node true false).bind hitem)
  · exact pure trivial

theorem readBlockEntries : Goes named (Node.readBlockEntries (fuel + 1)) := by
  refine peek.bind fun t _ => ?_
  split
  · exact pass.bind fun _ _ => (h.unlessEnd _ true).bind fun _ _ =>
      (h.value _ true).bind fun _ _ => h.blockEntries.bind fun _ _ => pure trivial
  · exact parseFault
  · exact pass.bind fun _ _ => pure trivial
  · exact parseFault

theorem readFlowItems (first : Bool) : Goes named (Node.readFlowItems first (fuel + 1)) := by
  unfold Node.readFlowItems
  refine peek.bind fun t _ => ?_
  extract_lets behind
  have hbehind (u : Unit) (_ : True) : Goes named (behind u) := by
    refine peek.bind fun t _ => ?_
    split
    · exact newId.bind fun _ _ => pass.bind fun _ _ => (h.unlessEnd _ false).bind fun _ _ =>
        (h.value _ false).bind fun _ _ => (h.flowItems false).bind fun _ _ => pure trivial
    · exact pass.bind fun _ _ => pure trivial
    · exact (h.node false false).bind fun _ _ => (h.flowItems false).bind fun _ _ => pure trivial
  refine .ite (pass.bind fun _ _ => pure trivial) (.ite ?_ (hbehind () trivial))
  exact peek.bind fun _ _ => .ite (pass.bind hbehind) (parseFault.bind hbehind)

theorem readFlowEntries (first : Bool) : Goes named (Node.readFlowEntries first (fuel + 1)) := by
  unfold Node.readFlowEntries
  refine peek.bind fun t _ => ?_
  extract_lets behind
  have hbehind (u : Unit) (_ : True) : Goes named (behind u) := by
    refine peek.bind fun t _ => ?_
    split
    · exact pass.bind fun _ _ => (h.unlessEnd _ false).bind fun _ _ =>
        (h.value _ false).bind fun _ _ => (h.flowEntries false).bind fun _ _ => pure trivial
    · exact pass.bind fun _ _ => pure trivial
    · exact (h.node false false).bind fun _ _ => absent.bind fun _ _ =>
        (h.flowEntries false).bind fun _ _ => pure trivial
  refine .ite (pass.bind fun _ _ => pure trivial) (.ite ?_ (hbehind () trivial))
  exact peek.bind fun _ _ => .ite (pass.bind hbehind) (parseFault.bind hbehind)

theorem readNode (block indentless : Bool) :
    Goes named (Node.readNode block indentless (fuel + 1)) := by
  unfold Node.readNode
  refine peek.bind fun t ht => ?_
  split
  · exact pass.bind fun _ _ => nodeNamed ht _
  · refine readProperties.bind fun ⟨anchor, name⟩ hanchor => ?_
    have hanchor : anchor.isSome → named = true := hanchor
    have hmissing := readMissing hanchor name
    -- A node that was read gets its name and is returned.
    have hfinish (node : Node) : Goes named (Node.fill anchor node >>= fun _ => Pure.pure node) :=
      (fill hanchor node).bind fun _ _ => pure trivial
    refine peek.bind fun t _ => .ite ?_ ?_
    · exact (reserve hanchor).bind fun _ _ => newId.bind fun _ _ => h.indentless.bind fun _ _ =>
        hfinish _
    · split
      · exact pass.bind fun _ _ => (reserve hanchor).bind fun _ _ =>
          (newScalar _ _ _).bind fun _ _ => hfinish _
      · exact (reserve hanchor).bind fun _ _ => newId.bind fun _ _ => pass.bind fun _ _ =>
          (h.flowItems true).bind fun _ _ => hfinish _
      · exact (reserve hanchor).bind fun _ _ => newId.bind fun _ _ => pass.bind fun _ _ =>
          (h.flowEntries true).bind fun _ _ => hfinish _
      · exact .ite hmissing <| (reserve hanchor).bind fun _ _ => newId.bind fun _ _ =>
          pass.bind fun _ _ => h.blockItems.bind fun _ _ => hfinish _
      · exact .ite hmissing <| (reserve hanchor).bind fun _ _ => newId.bind fun _ _ =>
          pass.bind fun _ _ => h.blockEntries.bind fun _ _ => hfinish _
      · exact hmissing

/-- One more step goes on. -/
theorem succ : Grammar named (fuel + 1) :=
  ⟨h.readNode, h.readUnless, h.readBlockItems, h.readIndentless, h.readBlockEntries, h.readValue,
    h.readFlowItems, h.readFlowEntries⟩

end Grammar

/-- **With the grammar no node comes to be part of itself**, however many steps it may take. -/
theorem grammar (named : Bool) : ∀ fuel, Grammar named fuel
  | 0 => .zero
  | fuel + 1 => (grammar named fuel).succ

theorem passDocumentEnds (fuel : Nat) : Goes named (passDocumentEnds fuel) := by
  induction fuel with
  | zero => exact parseFault
  | succ fuel ih => exact peek.bind fun _ _ => .ite (pass.bind fun _ _ => ih) (pure trivial)

theorem readDirectives (versioned : Bool) (handles : List (Text × Text)) (fuel : Nat) :
    Goes named (readDirectives versioned handles fuel) := by
  induction fuel generalizing versioned handles with
  | zero => exact parseFault
  | succ fuel ih =>
    refine peek.bind fun t _ => ?_
    split
    · refine pass.bind fun _ _ => ?_
      split
      · exact .ite parseFault (ih _ _)
      · exact .ite parseFault (ih _ _)
      · exact ih _ _
    · exact pure trivial

theorem openDocument (fuel : Nat) : Goes named (openDocument fuel) := by
  unfold Node.openDocument
  refine (passDocumentEnds fuel).bind fun _ _ => peek.bind fun _ _ => .ite (pure trivial) ?_
  refine (readDirectives false [] fuel).bind fun handles _ => peek.bind fun _ _ => ?_
  extract_lets opened
  have hhandles := @modify named (fun r => { r with handles := handles })
    fun _ hr => ⟨hr.tokens, hr.fault, hr.anchors, hr.acyclic⟩
  have hopened (u : Unit) (_ : True) : Goes named (opened u) :=
    pass.bind fun _ _ => hhandles.bind fun _ _ => pure trivial
  exact .ite (parseFault.bind hopened) (hopened () trivial)

/-- No node of the one document of a text comes to be part of itself. -/
theorem readDocument (fuel : Nat) : Goes named (readDocument fuel) := by
  unfold Node.readDocument
  refine peek.bind fun t _ => ?_
  extract_lets behind read
  have hbehind (n : Node) (_ : True) : Goes named (behind n) := by
    refine peek.bind fun t _ => ?_
    extract_lets only closed
    have honly (u : Unit) (_ : True) : Goes named (only u) := pure trivial
    have hclosed (u : Unit) (_ : True) : Goes named (closed u) :=
      (openDocument fuel).bind fun _ _ => .ite (composeFault.bind honly) (honly () trivial)
    exact .ite (pass.bind hclosed) (hclosed () trivial)
  have habsent : Goes named (Node.absent >>= behind) := absent.bind hbehind
  have hnode : Goes named (Node.readNode true false fuel >>= behind) :=
    ((grammar named fuel).node true false).bind hbehind
  have hread (explicit : Bool) (_ : True) : Goes named (read explicit) := by
    dsimp -zeta only [read]
    extract_lets content
    have hcontent (u : Unit) : Goes named (content u) := by
      refine peek.bind fun t _ => ?_
      split
      · exact .ite habsent hnode
      · exact .ite habsent hnode
      · exact .ite habsent hnode
      · exact .ite habsent hnode
      · exact hnode
    refine .ite ((openDocument fuel).bind fun _ _ => ?_) (hcontent ())
    exact .ite (pure trivial) (hcontent ())
  have hexplicit (explicit : Bool) : Goes named (Pure.pure explicit >>= read) :=
    (pure trivial : Goes named _).bind hread
  split
  · exact hexplicit true
  · exact hexplicit true
  · exact hexplicit true
  · exact hexplicit false

end Unties

/-- So an account is given of the document of such a text. -/
theorem accounts_ofText (named : Bool) {s : Text} (hhalf : ¬ WritesHalf s)
    (hnames : (if named then '*' else '&') ∉ s) (rules : List ResolutionRule) :
    Accounts (fun _ => True) (ofText rules s) := by
  obtain ⟨htokens, hfault⟩ := (scanRule_accounts hhalf hnames).tokens (List.suffix_refl s)
  unfold ofText ofTokens
  dsimp only
  refine (Unties.readDocument _ _ ⟨htokens, hfault, fun _ => rfl, rfl⟩).bind fun p hp => ?_
  rw [hp.2.acyclic]
  trivial

/-! ### Making values -/

theorem accounts_constructFault {α : Type} {P : α → Prop} : Accounts P constructFault :=
  Fault.noConfusion

theorem accounts_mapM {α β : Type} {f : α → Except Fault β}
    (hf : ∀ a, Accounts (fun _ => True) (f a)) (xs : List α) :
    Accounts (fun _ => True) (xs.mapM f) := by
  induction xs with
  | nil => trivial
  | cons x rest ih =>
    rw [List.mapM_cons]
    exact (hf x).bind fun _ _ => ih.bind fun _ _ => trivial

theorem accounts_readInBase (base : Nat) (s : Text) :
    Accounts (fun _ => True) (readInBase base s) := by
  unfold readInBase
  split
  · trivial
  · exact Fault.noConfusion

theorem accounts_readMagnitude (s : Text) : Accounts (fun _ => True) (readMagnitude s) := by
  unfold readMagnitude
  split
  · exact Fault.noConfusion
  · trivial
  · exact accounts_readInBase _ _
  · exact accounts_readInBase _ _
  · exact accounts_readInBase _ _
  · refine .ite ?_ (accounts_readInBase _ _)
    exact (accounts_mapM (accounts_readInBase 10) _).bind fun _ _ => trivial

theorem accounts_readInteger (s : Text) : Accounts (fun _ => True) (readInteger s) := by
  unfold readInteger
  split
  · exact Fault.noConfusion
  · exact (accounts_readMagnitude _).bind fun _ _ => trivial
  · exact (accounts_readMagnitude _).bind fun _ _ => trivial

theorem accounts_readDecimal (id : Nat) (s : Text) :
    Accounts (fun _ => True) (readDecimal id s) := by
  unfold readDecimal
  split
  · trivial
  · exact Fault.noConfusion

theorem accounts_joinDecimalSixties (id : Nat) (sum : Binary64) (weight : Nat)
    (places : List Binary64) :
    Accounts (fun _ => True) (joinDecimalSixties id sum weight places) := by
  induction places generalizing sum weight with
  | nil => trivial
  | cons place rest ih =>
    rw [joinDecimalSixties]
    split
    · exact Fault.noConfusion
    · exact ih _ _

theorem accounts_readFloat (id : Nat) (s : Text) : Accounts (fun _ => True) (readFloat id s) := by
  have hmagnitude (s : Text) : Accounts (fun _ => True) (readFloatMagnitude id s) := by
    refine .ite trivial (.ite ?_ (accounts_readDecimal id s))
    exact (accounts_mapM (accounts_readDecimal id) _).bind fun _ _ =>
      accounts_joinDecimalSixties _ _ _ _
  unfold readFloat
  split
  · exact Fault.noConfusion
  · exact .ite trivial ((hmagnitude _).bind fun _ _ => trivial)

theorem accounts_readBinary (s : Text) : Accounts (fun _ => True) (readBinary s) := by
  refine .ite ?_ accounts_constructFault
  split
  · trivial
  · exact accounts_constructFault

theorem accounts_readMoment (s : Text) : Accounts (fun _ => True) (readMoment s) := by
  unfold readMoment
  split
  · exact Fault.noConfusion
  · dsimp only
    split
    · split
      · trivial
      · exact Fault.noConfusion
    · split
      · trivial
      · exact Fault.noConfusion

/-- An account is given of whatever is made of the text of a scalar. -/
theorem accounts_readScalar (id : Nat) (tag : Tag) (s : Text) :
    Accounts (fun _ => True) (readScalar id tag s) := by
  unfold readScalar
  split
  · trivial
  · exact .ite trivial (.ite trivial Fault.noConfusion)
  · exact accounts_readInteger s
  · exact accounts_readFloat id s
  · exact accounts_readBinary s
  · exact accounts_readMoment s
  · trivial
  · exact accounts_constructFault

theorem accounts_readAsScalar (texts : List Nat) (n : Node) :
    Accounts (fun _ => True) (n.readAsScalar texts) := by
  unfold readAsScalar
  split
  · exact accounts_constructFault
  · exact accounts_constructFault
  · exact accounts_constructFault
  · exact accounts_constructFault
  · split
    · exact .ite Fault.noConfusion (accounts_readScalar _ _ _)
    · exact accounts_constructFault

mutual

/-- And of what is merged, -/
theorem accounts_merged : ∀ entries, Accounts (fun _ => True) (merged entries)
  | [] => trivial
  | (k, v) :: rest => by
    rw [merged]
    refine .ite ?_ ((accounts_merged rest).bind fun _ _ => trivial)
    exact (accounts_mergedEntries v).bind fun _ _ => (accounts_merged rest).bind fun _ _ => trivial

/-- of what a node brings -/
theorem accounts_mergedEntries : ∀ n, Accounts (fun _ => True) (mergedEntries n)
  | .scalar _ _ _ => accounts_constructFault
  | .sequence _ _ items => by
    rw [mergedEntries]
    exact accounts_mergedItems items
  | .mapping _ _ entries => by
    rw [mergedEntries]
    exact (accounts_merged entries).bind fun _ _ => trivial

/-- and of what several nodes bring. -/
theorem accounts_mergedItems : ∀ items, Accounts (fun _ => True) (mergedItems items)
  | [] => trivial
  | .scalar _ _ _ :: _ => accounts_constructFault
  | .sequence _ _ _ :: _ => accounts_constructFault
  | .mapping _ _ entries :: rest => by
    rw [mergedItems]
    exact (accounts_merged entries).bind fun _ _ =>
      (accounts_mergedItems rest).bind fun _ _ => trivial

end

theorem accounts_flatten (entries : List (Node × Node)) :
    Accounts (fun _ => True) (flatten entries) :=
  (accounts_merged entries).bind fun _ _ => trivial

end Node

/-- An account is given of how making ends, whatever was made before. -/
def Make.IsAccounted {α : Type} (x : Make α) : Prop :=
  ∀ m, Accounts (fun _ => True) (x.run m)

namespace Make.IsAccounted

variable {α β : Type} {x : Make α} {f : α → Make β}

theorem pure {a : α} : IsAccounted (Pure.pure a) :=
  fun _ => trivial

theorem bind (hx : IsAccounted x) (hf : ∀ a, IsAccounted (f a)) : IsAccounted (x >>= f) := by
  intro m
  rw [StateT.run_bind]
  exact (hx m).bind fun p _ => hf p.1 p.2

theorem ite {c : Prop} [Decidable c] {y : Make α} (hx : IsAccounted x) (hy : IsAccounted y) :
    IsAccounted (if c then x else y) := by
  split
  · exact hx
  · exact hy

/-- What has faults of its own may be done while making. -/
theorem lift {y : Except Fault α} (hy : Accounts (fun _ => True) y) :
    IsAccounted (liftM y : Make α) := by
  intro m
  cases y with
  | error e => exact hy
  | ok a => trivial

theorem fault : IsAccounted (throw (.format .constructing) : Make α) :=
  fun _ => Fault.noConfusion

theorem get : IsAccounted (get : Make Making) :=
  fun _ => trivial

theorem set {m : Making} : IsAccounted (set m : Make PUnit) :=
  fun _ => trivial

theorem modify {f : Making → Making} : IsAccounted (modify f : Make PUnit) :=
  fun _ => trivial

theorem writeOut (id : Nat) (entries : List (Node × Node)) :
    IsAccounted (Node.writeOut id entries) :=
  (lift (Node.accounts_flatten entries)).bind fun _ => modify.bind fun _ => pure

theorem meet (n : Node) : IsAccounted n.meet := by
  refine .ite pure (get.bind fun m => .ite ?_ pure)
  exact (lift (Node.accounts_readAsScalar m.texts n)).bind fun _ => set.bind fun _ => pure

theorem meetAll (nodes : List Node) : IsAccounted (Node.meetAll nodes) := by
  induction nodes with
  | nil => exact pure
  | cons n rest ih => exact (meet n).bind fun _ => ih.bind fun _ => pure

theorem meetEntries (entries : List (Node × Node)) : IsAccounted (Node.meetEntries entries) := by
  induction entries with
  | nil => exact pure
  | cons e rest ih =>
    refine (meet e.1).bind fun _ => .ite (fault.bind fun _ => ?_) ?_
    · exact (meet e.2).bind fun _ => ih.bind fun _ => pure
    · exact (meet e.2).bind fun _ => ih.bind fun _ => pure

theorem meetPairs (nodes : List Node) : IsAccounted (Node.meetPairs nodes) := by
  induction nodes with
  | nil => exact pure
  | cons n rest ih =>
    cases n with
    | scalar => exact fault
    | sequence => exact fault
    | mapping id tag entries =>
      refine get.bind fun m => ?_
      extract_lets behind
      have hbehind (entries : List (Node × Node)) : IsAccounted (behind entries) := by
        dsimp only [behind]
        split
        · exact (meet _).bind fun _ => (meet _).bind fun _ => ih.bind fun _ => pure
        · exact fault
      exact .ite ((lift (Node.accounts_flatten entries)).bind hbehind) (pure.bind hbehind)

theorem unfold (n : Node) : IsAccounted n.unfold := by
  unfold Node.unfold
  split
  · exact meetAll _
  · exact (writeOut _ _).bind fun _ => meetEntries _
  · exact (writeOut _ _).bind fun _ => meetEntries _
  · exact meetPairs _
  · exact meetPairs _
  · exact fault

theorem unfoldAll (nodes : List Node) : IsAccounted (Node.unfoldAll nodes) := by
  induction nodes with
  | nil => exact pure
  | cons n rest ih =>
    refine get.bind fun m => .ite ih (modify.bind fun _ => ?_)
    exact (unfold n).bind fun _ => ih.bind fun _ => pure

theorem makeLevels (level : List Node) (depth : Nat) :
    IsAccounted (Node.makeLevels level depth) := by
  induction depth generalizing level with
  | zero => exact pure
  | succ depth ih => exact (unfoldAll level).bind fun next => ih next

/-- **However many depths a document has, an account is given of how its values are made.** -/
theorem make (n : Node) : IsAccounted n.make :=
  (meet n).bind fun level => makeLevels level n.depth

end Make.IsAccounted

/-! ### Loading texts -/

/-- **An account is given of every text that writes no half of a surrogate pair**, if nodes are not
named in it or names are not used. -/
theorem isAccountedFor_of_not_writesHalf {s : Text} (hhalf : ¬ WritesHalf s)
    (hnames : '&' ∉ s ∨ '*' ∉ s) : IsAccountedFor s := by
  have hnode : Accounts (fun _ => True) (Node.ofText vocabularyRules s) := by
    rcases hnames with hnames | hnames
    · exact Node.accounts_ofText false hhalf hnames vocabularyRules
    · exact Node.accounts_ofText true hhalf hnames vocabularyRules
  have hload : Accounts (fun _ => True) (loadVocabularyText s) := by
    refine .ite (Fault.noConfusion) (hnode.bind fun n _ => ?_)
    cases n with
    | none => trivial
    | some n => exact (Make.IsAccounted.make n .initial).bind fun _ _ => trivial
  intro h
  rw [h] at hload
  exact hload rfl

example : IsAccountedFor "namespace: a & b\n".toList :=
  isAccountedFor_of_not_writesHalf (not_writesHalf_of_not_mem (by decide)) (.inr (by decide))

end DomBindings.Yaml
