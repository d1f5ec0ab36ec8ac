import DomBindings.Program.Loading
import DomBindings.Proofs.DocumentReading
import DomBindings.Proofs.LoadedMappings

/-!
# Tables as they are loaded

Which of the pairs that a text writes for a table have an entry in the vocabulary that is loaded
from it. The loader does not refuse a key that is written twice: the last definition under a name is
taken, in the place of the first, and the others are lost without a word (`IsTableOf`). So a table
has an entry for each of its pairs exactly where no name is repeated among them. This holds of the
table of the elements and of the tables of attributes and events in each element that is kept. It is
said of texts that are accounted for: two escapes for halves of surrogate pairs, which are no
characters, might write names that differ.

The fields of a loaded mapping are a table of nodes (`Yaml.Node.fields_value`), and what is read
from a table keeps its names and their order; `isTableOf_part` puts the two together, once for all
three tables.
-/

namespace DomBindings

namespace Document

open Traversal Yaml

variable {α : Type}

/-- The pairs of the table that a name in a node stands for: what is written under it last, if that
is a mapping. -/
def tablePairs (scalars : List (Nat × Value)) (n : Node) (name : String) : List (Node × Node) :=
  match Table.lastOf (Node.named scalars n.written) name.toList with
  | some table => table.written
  | none => []

/-- A table is what pairs of nodes make of it. -/
structure IsTableOf (scalars : List (Nat × Value)) (IsOf : Node → α → Prop)
    (pairs : List (Node × Node)) (t : Table α) : Prop where
  /-- every key is read as a name, -/
  named : ∀ e ∈ pairs, ∃ name, nameOf? (e.1.value scalars) = some name
  /-- the names of the table are these in the order in which they first come, -/
  names_eq : t.names = ((Node.named scalars pairs).map Prod.fst).eraseDups
  /-- there are as many entries as pairs if and only if no name is repeated, -/
  size_eq_iff : t.size = pairs.length ↔ ((Node.named scalars pairs).map Prod.fst).Nodup
  /-- and a name is bound to what it is written with last -/
  last : ∀ e ∈ t.entries, ∃ n, Table.lastOf (Node.named scalars pairs) e.1 = some n ∧ IsOf n e.2

/-- An element is what a node writes, and so are its tables. -/
structure IsLoadedElement (scalars : List (Nat × Value)) (n : Node) (e : Element) : Prop where
  element : IsElementOf (n.value scalars) e
  attributes : IsTableOf scalars (fun k a => IsAttributeOf (k.value scalars) a)
    (tablePairs scalars n "attributes") e.interface.attributes
  events : IsTableOf scalars (fun k a => IsEventOf (k.value scalars) a)
    (tablePairs scalars n "events") e.interface.events

/-- A vocabulary is what a node writes, and so are its tables. -/
structure IsLoadedVocabulary (scalars : List (Nat × Value)) (n : Node) (v : Vocabulary) :
    Prop where
  vocabulary : IsVocabularyOf (n.value scalars) v
  elements : IsTableOf scalars (IsLoadedElement scalars) (tablePairs scalars n "elements")
    v.elements

/-- What is read from the fields of a table is a table of its pairs. -/
theorem isTableOf_of_fields {scalars : List (Nat × Value)} {S : Value → α → Prop}
    {IsOf : Node → α → Prop} {pairs : List (Node × Node)} {t : Table α} {raw : Value}
    (hnamed : ∀ e ∈ pairs, ∃ name, nameOf? (e.1.value scalars) = some name)
    (hfields : fields raw = (Table.ofList (Node.named scalars pairs)).map (Node.value scalars))
    (hread : List.Forall₂ (fun x y => y.1 = x.1 ∧ S x.2 y.2) (fields raw).entries t.entries)
    (hof : ∀ e ∈ Node.named scalars pairs, ∀ x, S (e.2.value scalars) x → IsOf e.2 x) :
    IsTableOf scalars IsOf pairs t := by
  rw [hfields] at hread
  have hnames : t.names = (Table.ofList (Node.named scalars pairs)).names := by
    rw [← Table.names_map _ (Node.value scalars)]
    exact map_eq_of_forall₂ (fun _ _ hxy => hxy.1) hread
  have hsize : t.size = (Table.ofList (Node.named scalars pairs)).size := by
    simpa only [Table.names, Table.size, List.length_map] using congrArg List.length hnames
  have hlength : (Node.named scalars pairs).length = pairs.length := by
    simpa only [List.length_map] using congrArg List.length (Node.map_named hnamed)
  refine ⟨hnamed, hnames.trans (Table.names_ofList _), ?_, fun e he => ?_⟩
  · rw [hsize, ← hlength]
    exact Table.size_ofList_iff _
  · obtain ⟨x, hx, hname, hS⟩ := exists_mem_of_forall₂ hread.flip he
    obtain ⟨n, hn, hvalue⟩ := Table.mem_entries_map.mp hx
    refine ⟨n, ?_, hof _ (Table.mem_of_mem_ofList hn) _ (hvalue ▸ hS)⟩
    rw [hname, ← Table.get?_ofList]
    exact Table.get?_eq_some_iff.mpr hn

/-- What is read from a table under a name is a table of the pairs that are written there. -/
theorem isTableOf_part {m : Making} (hplain : m.IsPlain) {n : Node}
    (hmerge : n.mergesNothing = true) (hn : IsTable (n.value m.scalars)) {name : String}
    (htable : IsTable (part (n.value m.scalars) name)) {S : Value → α → Prop}
    {IsOf : Node → α → Prop} {t : Table α}
    (hread : List.Forall₂ (fun x y => y.1 = x.1 ∧ S x.2 y.2)
      (fields (part (n.value m.scalars) name)).entries t.entries)
    (hof : ∀ k x, k.mergesNothing = true → S (k.value m.scalars) x → IsOf k x) :
    IsTableOf m.scalars IsOf (tablePairs m.scalars n name) t := by
  have hpart : part (n.value m.scalars) name
      = ((Table.lastOf (Node.named m.scalars n.written) name.toList).map
          (Node.value m.scalars)).getD .null := by
    rw [part, (Node.fields_value hplain hmerge hn).2, Table.get?_map, Table.get?_ofList]
  rw [tablePairs]
  cases hlast : Table.lastOf (Node.named m.scalars n.written) name.toList with
  | none =>
    rw [hlast] at hpart
    rw [show part (n.value m.scalars) name = .null from hpart] at hread
    have hfields : fields .null
        = (Table.ofList (Node.named m.scalars [])).map (Node.value m.scalars) := rfl
    exact isTableOf_of_fields (List.forall_mem_nil _) hfields hread (List.forall_mem_nil _)
  | some k =>
    rw [hlast] at hpart
    have hk : k.mergesNothing = true := by
      rw [← Table.get?_ofList, Table.get?_eq_some_iff] at hlast
      exact Node.mergesNothing_of_mem_named hmerge (Table.mem_of_mem_ofList hlast)
    rw [show part (n.value m.scalars) name = k.value m.scalars from hpart] at htable hread
    obtain ⟨hnamed, hfields⟩ := Node.fields_value hplain hk htable
    exact isTableOf_of_fields hnamed hfields hread fun e he x =>
      hof e.2 x (Node.mergesNothing_of_mem_named hk he)

theorem IsElementOf.isLoaded {m : Making} (hplain : m.IsPlain) {n : Node} {e : Element}
    (hmerge : n.mergesNothing = true) (h : IsElementOf (n.value m.scalars) e) :
    IsLoadedElement m.scalars n e where
  element := h
  attributes := isTableOf_part hplain hmerge (.inr h.mapping) h.attributesTable h.attributes
    fun _ _ _ ha => ha
  events := isTableOf_part hplain hmerge (.inr h.mapping) h.eventsTable h.events
    fun _ _ _ ha => ha

theorem IsVocabularyOf.isLoaded {m : Making} (hplain : m.IsPlain) {n : Node} {v : Vocabulary}
    (hmerge : n.mergesNothing = true) (h : IsVocabularyOf (n.value m.scalars) v) :
    IsLoadedVocabulary m.scalars n v where
  vocabulary := h
  elements := isTableOf_part hplain hmerge (.inr h.mapping) h.elementsTable h.elements
    fun _ _ hk he => he.isLoaded hplain hk

/-- What is read as a vocabulary states it. -/
theorem isVocabularyOf_of_ofValue {raw : Value} {v : Vocabulary}
    (h : Vocabulary.ofValue raw = .ok v) : IsVocabularyOf raw v := by
  have hreads : Reads (IsVocabularyOf raw) raw.IsWritable (departures raw)
      (Vocabulary.ofValue raw) := reads_vocabulary id
  rw [h] at hreads
  generalize departures raw = ds at hreads
  cases hreads with
  | ok hv => exact hv

end Document

namespace Vocabulary

open Traversal Yaml Document

/-- A text is loaded from one node, the scalars of which are made first. -/
theorem exists_node_of_ofText {s : Text} {v : Vocabulary} (h : ofText s = .ok v) :
    ∃ root made, Node.ofText vocabularyRules s = .ok (some root) ∧
      root.make.run .initial = .ok ((), made) ∧
      IsVocabularyOf (root.value made.scalars) v := by
  unfold ofText at h
  split at h
  · cases h
  · next raw hraw =>
    split at h
    · cases h
    · next v' hread =>
      obtain rfl := Except.ok.inj h
      have hof := isVocabularyOf_of_ofValue hread
      rw [loadVocabularyText, Yaml.load] at hraw
      split at hraw
      · cases hraw
      · obtain ⟨document, hdocument, hraw⟩ := bind_eq_ok_iff.mp hraw
        cases document with
        | none =>
          obtain rfl := Except.ok.inj hraw
          obtain ⟨_, hnull, -⟩ := hof.mapping
          cases hnull
        | some root =>
          obtain ⟨⟨_, made⟩, hmake, hvalue⟩ := bind_eq_ok_iff.mp hraw
          obtain rfl := Except.ok.inj hvalue
          exact ⟨root, made, hdocument, hmake, hof⟩

theorem exists_text_of_load {t : FileTree} {p : Path} {v : Vocabulary} (h : load t p = .ok v) :
    ∃ bytes s, t.read p = .ok bytes ∧ Text.ofFileBytes bytes = .ok s ∧ ofText s = .ok v := by
  unfold load at h
  split at h
  · cases h
  · next bytes hbytes =>
    unfold ofBytes at h
    split at h
    · cases h
    · next s hs => exact ⟨bytes, s, hbytes, hs, h⟩

/-- **The last definition is kept.** Let an account be given of the vocabulary in a file: no escape in
it stands for half of a surrogate pair, and no name is used inside the node that it is given to. Then
the file is refused, or a vocabulary is loaded from one node, which its text writes. If no mapping is
merged in that node, each table has the names that are written for it in the order in which they first
come, each with its last definition, and so an entry for each pair that is written if and only if no
name is repeated in it. -/
theorem load_keepsLast {t : FileTree} {p : Path} (haccounted : IsAccountedFor t p) :
    (∃ fault, load t p = .error fault ∧ fault ≠ .document .unaccounted) ∨
      ∃ v bytes s root made, load t p = .ok v ∧ t.read p = .ok bytes ∧
        Text.ofFileBytes bytes = .ok s ∧ Node.ofText vocabularyRules s = .ok (some root) ∧
        root.make.run .initial = .ok ((), made) ∧
        (root.mergesNothing = true → IsLoadedVocabulary made.scalars root v) := by
  cases h : load t p with
  | error fault =>
    refine .inl ⟨fault, rfl, ?_⟩
    rintro rfl
    exact load_ne_unaccounted haccounted h
  | ok v =>
    obtain ⟨bytes, s, hbytes, hs, htext⟩ := exists_text_of_load h
    obtain ⟨root, made, hroot, hmake, hof⟩ := exists_node_of_ofText htext
    refine .inr ⟨v, bytes, s, root, made, rfl, hbytes, hs, hroot, hmake, fun hmerge => ?_⟩
    exact hof.isLoaded (Making.isPlain_of_make hmake) hmerge

/-- A text that writes an element twice, and in the second of them an attribute. -/
def repeatedKeys : Text :=
  ["namespace: u", "elements:", "  a:", "    interface: X", "  a:", "    interface: Y",
    "    attributes:", "      b:", "        values: x", "      b:", "        values: y"].flatMap
    fun line => line.toList ++ ['\n']

/-- A file with it. -/
def repeatedTree : FileTree where
  nodes := [(["x.yaml".toList], .file (Text.encode repeatedKeys) false)]
  working := []

/-- What a test finds in the node and the scalars of a text. -/
theorem exists_made_of_test {s : Text} {test : Node → Making → Bool}
    (h : (Node.ofText vocabularyRules s).toOption.map (fun document =>
      document.any fun root => (root.make.run .initial).toOption.any fun r => test root r.2)
        = some true) :
    ∃ root made, Node.ofText vocabularyRules s = .ok (some root) ∧
      root.make.run .initial = .ok ((), made) ∧ test root made = true := by
  obtain ⟨document, hdocument, htest⟩ := exists_of_toOption h
  cases document with
  | none => cases htest
  | some root =>
    rw [Option.any_some] at htest
    cases hmake : root.make.run .initial with
    | error e =>
      rw [hmake] at htest
      cases htest
    | ok r =>
      rw [hmake] at htest
      exact ⟨root, r.2, hdocument, hmake, htest⟩

/-- What is read in it. -/
theorem eq_repeatedKeys {bytes : List UInt8} {s : Text}
    (hbytes : repeatedTree.read (.ofText "x.yaml".toList) = .ok bytes)
    (hs : Text.ofFileBytes bytes = .ok s) : s = repeatedKeys := by
  have hread : repeatedTree.read (.ofText "x.yaml".toList) = .ok (Text.encode repeatedKeys) := by
    decide +kernel
  have hdecode : Text.ofFileBytes (Text.encode repeatedKeys) = .ok repeatedKeys := by
    decide +kernel
  obtain rfl := Except.ok.inj (hread.symm.trans hbytes)
  exact (Except.ok.inj (hdecode.symm.trans hs)).symm

theorem load_keepsLast_repeatedKeys :
    IsAccountedFor repeatedTree (.ofText "x.yaml".toList) ∧
      ∃ v root made, load repeatedTree (.ofText "x.yaml".toList) = .ok v ∧
        root.mergesNothing = true ∧ IsLoadedVocabulary (Making.scalars made) root v := by
  obtain ⟨v, hload, -⟩ := @exists_of_toOption _ _
    (load repeatedTree (.ofText "x.yaml".toList)) (fun _ => true) (by decide +kernel)
  have haccounted := isAccountedFor_of_load hload
  obtain ⟨fault, hfault, -⟩ | ⟨v', bytes, s, root, made, hload', hbytes, hs, hroot, -, hkeeps⟩ :=
    load_keepsLast haccounted
  · rw [hload] at hfault
    cases hfault
  obtain rfl := eq_repeatedKeys hbytes hs
  obtain ⟨document, hdocument, hmerge⟩ := @exists_of_toOption _ _
    (Node.ofText vocabularyRules repeatedKeys) (fun document => document.any Node.mergesNothing)
    (by decide +kernel)
  obtain rfl := Except.ok.inj (hroot.symm.trans hdocument)
  exact ⟨haccounted, v', root, made, hload', hmerge, hkeeps hmerge⟩

/-- In it two elements are written, and only the second is loaded. -/
theorem load_loses_repeatedKeys :
    ∃ v root made, load repeatedTree (.ofText "x.yaml".toList) = .ok v ∧
      Node.ofText vocabularyRules repeatedKeys = .ok (some root) ∧
      root.make.run .initial = .ok ((), made) ∧ root.mergesNothing = true ∧
      (tablePairs made.scalars root "elements").length = 2 ∧ v.elements.size = 1 ∧
      v.elements.values.map Element.host = ["Y".toList] := by
  obtain ⟨v, hload, hhosts⟩ := @exists_of_toOption _ _
    (load repeatedTree (.ofText "x.yaml".toList))
    (fun v => decide (v.elements.values.map Element.host = ["Y".toList])) (by decide +kernel)
  obtain ⟨root, made, hroot, hmake, htest⟩ := @exists_made_of_test repeatedKeys
    (fun root made => root.mergesNothing
      && decide ((tablePairs made.scalars root "elements").length = 2)) (by decide +kernel)
  have hhosts : v.elements.values.map Element.host = ["Y".toList] := of_decide_eq_true hhosts
  have hsize : v.elements.size = 1 := by
    have hlength := congrArg List.length hhosts
    rw [Table.values, List.length_map, List.length_map] at hlength
    exact hlength
  rw [Bool.and_eq_true] at htest
  exact ⟨v, root, made, hload, hroot, hmake, htest.1, of_decide_eq_true htest.2, hsize, hhosts⟩

end Vocabulary

end DomBindings
