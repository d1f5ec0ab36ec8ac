import DomBindings.Declarations.Basic
import DomBindings.Json

/-!
# Reading the lines of a module

A reader that knows nothing but the lines. A line of a type binds a quoted key to a type, behind two
spaces and with a mark in between, and `readBinding?` takes it apart again; the key is decoded as
the text of a JSON document is. It takes no other line
of a type for such a line: a comment begins with a slash or a star where the key has its quote,
whatever the comment says (`begins_of_mem_lines`). So what is read from the lines of a type are its
properties, one for one (`filterMap_readBinding?`).
-/

namespace DomBindings

namespace Text

/-- What stands behind the beginning of a text, if it begins so. -/
def after? (beginning s : Text) : Option Text :=
  if beginning.isPrefixOf s then some (s.drop beginning.length) else none

@[simp] theorem after?_append (beginning s : Text) : after? beginning (beginning ++ s) = some s := by
  simp [after?]

/-- White space is taken from the end only up to a character that is none. -/
theorem trimEnd_append_cons (s : Text) {c : Char} (hc : isBlank c = false) (t : Text) :
    trimEnd (s ++ c :: t) = s ++ c :: trimEnd t := by
  have hreverse : (s ++ c :: t).reverse = t.reverse ++ c :: s.reverse := by simp
  rw [trimEnd, trimEnd, hreverse, List.dropWhile_append]
  split
  · next h =>
    rw [List.isEmpty_iff] at h
    simp [h, hc]
  · simp

/-- Lines that are joined in two parts, with a line feed in between. -/
theorem joinLines_append {ls ls' : List Text} (h : ls ≠ []) (h' : ls' ≠ []) :
    joinLines (ls ++ ls') = joinLines ls ++ '\n' :: joinLines ls' := by
  obtain ⟨l', rest', rfl⟩ := List.exists_cons_of_ne_nil h'
  induction ls with
  | nil => exact absurd rfl h
  | cons l ls ih =>
    cases ls with
    | nil => simp [joinLines, List.intercalate_cons_cons]
    | cons next ls =>
      have hrest := ih (List.cons_ne_nil _ _)
      simp only [joinLines, List.cons_append, List.intercalate_cons_cons] at hrest ⊢
      rw [hrest]
      simp only [List.append_assoc]

end Text

/-- A quoted text is decoded as the text that it was. -/
theorem Json.readText_quote (s rest : Text) :
    Json.readText (Text.quote s ++ rest) = .ok (s, rest) := by
  rw [readText, Text.readQuoted?_quote]

/-! ### Lines that bind a key -/

/-- The line that binds a key to a type. -/
def bindingLine (mark key type : Text) : Text :=
  "  ".toList ++ Text.quote key ++ mark ++ type ++ [';']

/-- Reads a line that binds a key to a type. -/
def readBinding? (mark line : Text) : Option (Text × Text) := do
  let line ← Text.after? "  ".toList line
  let (key, line) ← (Json.readText line).toOption
  let line ← Text.after? mark line
  if line.getLast? = some ';' then some (key, line.dropLast) else none

/-- What was written reads back. -/
theorem readBinding?_bindingLine (mark key type : Text) :
    readBinding? mark (bindingLine mark key type) = some (key, type) := by
  have hline : bindingLine mark key type
      = "  ".toList ++ (Text.quote key ++ (mark ++ (type ++ [';']))) := by
    simp only [bindingLine, List.append_assoc]
  simp only [readBinding?, Option.bind_eq_bind]
  rw [hline, Text.after?_append, Option.bind_some, Json.readText_quote, Except.toOption,
    Option.bind_some, Text.after?_append, Option.bind_some, List.getLast?_concat, if_pos rfl,
    List.dropLast_concat]

/-- A line with anything but a quote behind the two spaces binds no key. -/
theorem readBinding?_eq_none {c : Char} (hc : c ≠ '"') (mark rest : Text) :
    readBinding? mark ("  ".toList ++ c :: rest) = none := by
  have hquoted : Text.readQuoted? (c :: rest) = none := by
    rw [Text.readQuoted?]
    intro _ h
    exact hc (List.cons.inj h).1
  rw [readBinding?, Text.after?_append, Option.bind_eq_bind, Option.bind_some, Json.readText,
    hquoted]
  rfl

theorem Property.line_eq (p : Property) : p.line = bindingLine "?: ".toList p.key p.type :=
  rfl

/-! ### Comments -/

/-- The lines of a comment begin as a comment does, whatever it says. -/
theorem DocComment.begins_of_mem_lines {description ref indent line : Text}
    (h : line ∈ DocComment.lines description ref indent) :
    ∃ rest, line = indent ++ '/' :: rest ∨ line = indent ++ ' ' :: '*' :: rest := by
  have hfirst : Text.trimEnd (indent ++ "/** ".toList ++ escape description)
      = indent ++ '/' :: Text.trimEnd ("** ".toList ++ escape description) := by
    rw [List.append_assoc]
    exact Text.trimEnd_append_cons indent (by decide) _
  rw [DocComment.lines, hfirst] at h
  simp only [List.mem_append, List.mem_cons, List.not_mem_nil, or_false] at h
  rcases h with ((rfl | rfl) | h) | rfl
  · exact ⟨_, .inl rfl⟩
  · exact ⟨[], .inr rfl⟩
  · split at h
    · cases h
    · obtain rfl := List.mem_singleton.mp h
      exact ⟨_, .inr (List.append_assoc _ _ _)⟩
  · exact ⟨_, .inr rfl⟩

/-- So no line of a comment inside a type binds a key. -/
theorem readBinding?_of_mem_comment {description ref line : Text}
    (h : line ∈ DocComment.lines description ref "  ".toList) (mark : Text) :
    readBinding? mark line = none := by
  obtain ⟨rest, rfl | rfl⟩ := DocComment.begins_of_mem_lines h
  · exact readBinding?_eq_none (by decide) mark rest
  · exact readBinding?_eq_none (by decide) mark _

/-! ### Bodies -/

/-- What is read from lines with separators in between is what is read from the lines. -/
theorem filterMap_intercalate {α β : Type} {f : α → Option β} {separator : α}
    (hf : f separator = none) (xss : List (List α)) :
    (List.intercalate [separator] xss).filterMap f = xss.flatMap (List.filterMap f) := by
  induction xss with
  | nil => rfl
  | cons xs xss ih =>
    cases xss with
    | nil => simp
    | cons ys xss =>
      rw [List.intercalate_cons_cons, List.filterMap_append, List.filterMap_append, ih,
        List.flatMap_cons, List.append_assoc]
      simp [hf]

/-- Lines with separators in between are all there. -/
theorem mem_intercalate_of_mem {α : Type} {x : α} {xs separator : List α} {xss : List (List α)}
    (hx : x ∈ xs) (hxs : xs ∈ xss) : x ∈ List.intercalate separator xss := by
  induction xss with
  | nil => cases hxs
  | cons ys xss ih =>
    cases xss with
    | nil =>
      obtain rfl := List.mem_singleton.mp hxs
      rwa [List.intercalate_singleton]
    | cons zs xss =>
      rw [List.intercalate_cons_cons, List.mem_append]
      rcases List.mem_cons.mp hxs with rfl | hxs
      · exact .inl (List.mem_append_left _ hx)
      · exact .inr (ih hxs)

namespace InterfaceBody

/-- From the lines of a type, the properties are read: each one once, in order. -/
theorem filterMap_readBinding? {opening : Text}
    (hopening : readBinding? "?: ".toList (opening ++ ['\x7b']) = none) (ps : List Property) :
    (declarationLines opening ps).filterMap (readBinding? "?: ".toList)
      = ps.map fun p => (p.key, p.type) := by
  have hproperty (p : Property) :
      p.lines.filterMap (readBinding? "?: ".toList) = [(p.key, p.type)] := by
    rw [Property.lines, List.filterMap_append,
      List.filterMap_eq_nil_iff.mpr fun _ h => readBinding?_of_mem_comment h _, List.nil_append,
      List.filterMap_cons, Property.line_eq, readBinding?_bindingLine]
    rfl
  have hclosing : readBinding? "?: ".toList "\x7d;".toList = none := rfl
  rw [declarationLines, List.cons_append, List.filterMap_cons_none hopening,
    List.filterMap_append, innerLines, filterMap_intercalate rfl, List.flatMap_map,
    List.filterMap_cons_none hclosing, List.filterMap_nil, List.append_nil]
  simp only [hproperty]
  exact List.map_eq_flatMap.symm

/-- The line of each property is there, whatever the type begins with. -/
theorem line_mem_declarationLines {ps : List Property} {p : Property} (hp : p ∈ ps)
    (opening : Text) : p.line ∈ declarationLines opening ps := by
  have hinner : p.line ∈ innerLines ps :=
    mem_intercalate_of_mem (List.mem_append_right _ List.mem_cons_self) (List.mem_map_of_mem hp)
  exact List.mem_append_left _ (List.mem_cons_of_mem _ hinner)

/-- A line that binds a key is in a type exactly when one of the properties has this key and this
type. -/
theorem bindingLine_mem_iff {opening : Text}
    (hopening : readBinding? "?: ".toList (opening ++ ['\x7b']) = none) {ps : List Property}
    {key type : Text} : bindingLine "?: ".toList key type ∈ declarationLines opening ps ↔
      ∃ p ∈ ps, p.key = key ∧ p.type = type := by
  constructor
  · intro h
    have hread : (key, type) ∈ (declarationLines opening ps).filterMap
        (readBinding? "?: ".toList) :=
      List.mem_filterMap.mpr ⟨_, h, readBinding?_bindingLine _ _ _⟩
    rw [filterMap_readBinding? hopening] at hread
    obtain ⟨p, hp, heq⟩ := List.mem_map.mp hread
    obtain ⟨rfl, rfl⟩ := Prod.mk.inj heq
    exact ⟨p, hp, rfl, rfl⟩
  · rintro ⟨p, hp, rfl, rfl⟩
    exact line_mem_declarationLines hp opening

end InterfaceBody

end DomBindings
