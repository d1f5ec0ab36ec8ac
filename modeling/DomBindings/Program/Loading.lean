import DomBindings.Program.Fault
import DomBindings.Vocabulary.Reader
import DomBindings.Yaml.Construction

/-!
# Loading vocabularies

From the bytes of a file to a vocabulary: decoded, loaded as a document, read as a vocabulary. Where
no account is given of the document, none is given of the loading either, and `IsAccountedFor` is the
condition that this is not so.
-/

namespace DomBindings

namespace Vocabulary

/-- The vocabulary that a text writes. -/
def ofText (s : Text) : Except Fault Vocabulary :=
  match Yaml.loadVocabularyText s with
  | .error f => .error (.document f)
  | .ok raw =>
    match Vocabulary.ofValue raw with
    | .error e => .error (.ofRead e)
    | .ok v => .ok v

/-- The vocabulary that the bytes of a file write. -/
def ofBytes (bytes : List UInt8) : Except Fault Vocabulary :=
  match Text.ofFileBytes bytes with
  | .error e => .error (.encoding e)
  | .ok s => ofText s

/-- The vocabulary in a file. -/
def load (t : FileTree) (p : Path) : Except Fault Vocabulary :=
  match t.read p with
  | .error e => .error (.file e)
  | .ok bytes => ofBytes bytes

/-- An account is given of the vocabulary in a file, if there is a text in it. -/
def IsAccountedFor (t : FileTree) (p : Path) : Prop :=
  ∀ bytes s, t.read p = .ok bytes → Text.ofFileBytes bytes = .ok s → Yaml.IsAccountedFor s

/-- It is given of a vocabulary that is loaded. -/
theorem isAccountedFor_of_load {t : FileTree} {p : Path} {v : Vocabulary} (h : load t p = .ok v) :
    IsAccountedFor t p := by
  intro bytes s hread htext hfault
  simp only [load, hread, ofBytes, htext, ofText, hfault] at h
  cases h

/-- A document that is loaded but is no vocabulary has no fault as a document. -/
theorem ofRead_ne_document (e : ReadError) (f : Yaml.Fault) : Fault.ofRead e ≠ .document f := by
  cases e with
  | schema e =>
    rw [Fault.ofRead, Fault.ofSchema]
    cases e.message <;> exact Fault.noConfusion
  | numeral e => exact Fault.noConfusion

/-- The fault of a document is that of its text. -/
theorem eq_of_ofText_document {s : Text} {f : Yaml.Fault} (h : ofText s = .error (.document f)) :
    Yaml.loadVocabularyText s = .error f := by
  cases hload : Yaml.loadVocabularyText s with
  | error f' =>
    simp only [ofText, hload] at h
    rw [Fault.document.inj (Except.error.inj h)]
  | ok raw =>
    cases hread : Vocabulary.ofValue raw with
    | error e =>
      simp only [ofText, hload, hread] at h
      exact absurd (Except.error.inj h) (ofRead_ne_document e f)
    | ok v =>
      simp only [ofText, hload, hread] at h
      cases h

/-- Where an account is given of the vocabulary, loading does not end for want of one. -/
theorem load_ne_unaccounted {t : FileTree} {p : Path} (h : IsAccountedFor t p) :
    load t p ≠ .error (.document .unaccounted) := by
  cases hread : t.read p with
  | error e => simp [load, hread]
  | ok bytes =>
    cases htext : Text.ofFileBytes bytes with
    | error e => simp [load, hread, ofBytes, htext]
    | ok s =>
      simp only [load, hread, ofBytes, htext]
      exact fun hdocument => h bytes s hread htext (eq_of_ofText_document hdocument)

end Vocabulary

end DomBindings
