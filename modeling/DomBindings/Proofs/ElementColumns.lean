import DomBindings.Proofs.Preamble
import DomBindings.Report.ElementTable
import Mathlib.Data.List.DropRight

/-!
# The columns of the table of elements

The columns of names and of interfaces are as wide as the widest of them, so what is behind them
starts at one offset in all rows. The column of the attributes has a width of its own, which a count
of two digits fills but for one blank. So the events start at one offset, with a gap in front of
them, just if no element has a hundred attributes (`table_inColumns_iff`); then both counts of a row
are read from its end. There is a table at all if no count is too long for a numeral.
-/

namespace DomBindings

namespace Text

theorem splitOn_eq_singleton {sep : Char} {s : Text} (h : sep ∉ s) : splitOn sep s = [s] := by
  induction s with
  | nil => rfl
  | cons c s ih =>
    have hc : c ≠ sep := fun heq => h (heq ▸ List.mem_cons_self)
    rw [splitOn_cons_of_ne hc, ih fun hs => h (List.mem_cons_of_mem _ hs)]
    rfl

theorem isDigit_of_mem_numeral {n : Nat} {c : Char} (h : c ∈ numeral n) : c.isDigit = true :=
  Nat.isDigit_of_mem_toDigits (by decide) (by decide) h

/-- A numeral has at most two digits just if the number is below a hundred. -/
theorem length_numeral_le_two_iff {n : Nat} : (numeral n).length ≤ 2 ↔ n < 100 :=
  Nat.length_toDigits_le_iff (by decide) (by decide)

theorem signedNumeral_of_nonneg {n : Int} (h : 0 ≤ n) : signedNumeral n = numeral n.toNat := by
  rw [signedNumeral, if_neg (Int.not_lt.mpr h), show n.natAbs = n.toNat by omega]

end Text

namespace ElementSummary

variable {row : ElementSummary} {rows : List ElementSummary} {label : Text}
  {nameWidth hostWidth : Nat}

/-! ### Cells -/

/-- The cell of the attributes of a row. -/
def attributesCell (row : ElementSummary) : Text :=
  Text.signedNumeral row.attributeCount ++ " attributes".toList

/-- The cell of the events of a row. -/
def eventsCell (row : ElementSummary) : Text :=
  Text.signedNumeral row.eventCount ++ " events".toList

/-- What stands between two columns: blanks, at least one of them. -/
def IsGap (gap : Text) : Prop :=
  ∃ n, gap = List.replicate (n + 1) ' '

theorem IsGap.getLast?_eq {gap : Text} (h : IsGap gap) : gap.getLast? = some ' ' := by
  obtain ⟨n, rfl⟩ := h
  rw [List.replicate_succ', List.getLast?_concat]

theorem isGap_append (n : Nat) : IsGap (List.replicate n ' ' ++ "  ".toList) :=
  ⟨n + 1, by rw [show "  ".toList = List.replicate 2 ' ' from rfl, List.replicate_append_replicate]⟩

/-- A row up to the cell of its attributes: the name and the interface, each with a gap behind it,
so that the interface and the attributes start at these offsets. -/
def IsLeftPart (hostAt attributesAt : Nat) (row : ElementSummary) (left : Text) : Prop :=
  ∃ gap gap', IsGap gap ∧ IsGap gap' ∧
    ("  ".toList ++ row.name ++ gap).length = hostAt ∧
    left = "  ".toList ++ row.name ++ gap ++ row.host ++ gap' ∧ left.length = attributesAt

/-- Whether a line has the cells of a row with a gap between each two, so that the interface, the
attributes and the events start at these offsets. -/
def IsInColumns (hostAt attributesAt eventsAt : Nat) (row : ElementSummary) (line : Text) : Prop :=
  ∃ left gap, IsLeftPart hostAt attributesAt row left ∧ IsGap gap ∧
    (left ++ row.attributesCell ++ gap).length = eventsAt ∧
    line = left ++ row.attributesCell ++ gap ++ row.eventsCell

/-! ### Reading counts -/

/-- Reads the number of some things from the end of a text: the number, and what is in front. -/
def readCount? (things s : Text) : Option (Nat × Text) :=
  if things.isSuffixOf s then
    let counted := s.rdrop things.length
    some (Nat.ofDigitChars 10 (counted.rtakeWhile Char.isDigit) 0, counted.rdropWhile Char.isDigit)
  else none

/-- Reads the two counts from the end of a line, with a gap between their cells. -/
def readCounts? (line : Text) : Option (Nat × Nat) := do
  let (events, left) ← readCount? " events".toList line
  if left.getLast? = some ' ' then
    let (attributes, _) ← readCount? " attributes".toList (left.rdropWhile (· = ' '))
    some (attributes, events)
  else none

/-- Characters of one kind are taken from the end up to one that is of another. -/
theorem rtakeWhile_append {p : Char → Bool} {s t : Text} (ht : ∀ c ∈ t, p c = true)
    (hs : ∀ c ∈ s.getLast?, p c = false) :
    (s ++ t).rtakeWhile p = t ∧ (s ++ t).rdropWhile p = s := by
  have hreverse : ∀ c ∈ t.reverse, p c = true := fun c hc => ht c (List.mem_reverse.mp hc)
  have hstop : s.reverse.takeWhile p = [] ∧ s.reverse.dropWhile p = s.reverse := by
    rw [← List.head?_reverse] at hs
    cases hrev : s.reverse with
    | nil => simp
    | cons c rest =>
      have hc : p c = false := hs c (by simp [hrev])
      simp [hc]
  rw [List.rtakeWhile, List.rdropWhile, List.reverse_append,
    List.takeWhile_append_of_pos hreverse, List.dropWhile_append_of_pos hreverse, hstop.1, hstop.2]
  simp

theorem readCount?_append {before things : Text} {n : Int} (hn : 0 ≤ n)
    (hbefore : before.getLast? = some ' ') :
    readCount? things (before ++ (Text.signedNumeral n ++ things)) = some (n.toNat, before) := by
  have hdigits : ∀ c ∈ Text.numeral n.toNat, c.isDigit = true := fun _ => Text.isDigit_of_mem_numeral
  have hstop : ∀ c ∈ before.getLast?, c.isDigit = false := by
    rw [hbefore]
    rintro c ⟨⟩
    rfl
  have hsuffix : things.isSuffixOf (before ++ Text.numeral n.toNat ++ things) = true :=
    List.isSuffixOf_iff_suffix.mpr (List.suffix_append _ _)
  obtain ⟨htaken, hdropped⟩ := rtakeWhile_append hdigits hstop
  rw [Text.signedNumeral_of_nonneg hn, ← List.append_assoc, readCount?, if_pos hsuffix,
    List.rdrop_append_length]
  dsimp only
  rw [htaken, hdropped]
  exact congrArg (fun k => some (k, before)) Nat.ofDigitChars_ten_toDigits

/-- The counts of a row are read from a line in which its cells have a gap in between. -/
theorem readCounts?_eq (hattributes : 0 ≤ row.attributeCount) (hevents : 0 ≤ row.eventCount)
    {hostAt attributesAt eventsAt : Nat} {line : Text}
    (h : IsInColumns hostAt attributesAt eventsAt row line) :
    readCounts? line = some (row.attributeCount.toNat, row.eventCount.toNat) := by
  obtain ⟨left, gap, ⟨gap₁, gap₂, -, hgap₂, -, hleft, -⟩, hgap, -, rfl⟩ := h
  have hleftEnd : left.getLast? = some ' ' := by
    rw [hleft, List.getLast?_append, hgap₂.getLast?_eq]
    rfl
  have hgapEnd : (left ++ row.attributesCell ++ gap).getLast? = some ' ' := by
    rw [List.getLast?_append, hgap.getLast?_eq]
    rfl
  have hcellEnd : ∀ c ∈ (left ++ row.attributesCell).getLast?, (c = ' ' : Bool) = false := by
    rw [attributesCell, List.getLast?_append, List.getLast?_append]
    rintro c ⟨⟩
    rfl
  have hblank : ∀ c ∈ gap, (c = ' ' : Bool) = true := by
    obtain ⟨n, rfl⟩ := hgap
    intro c hc
    simpa using List.eq_of_mem_replicate hc
  have hdropped := (rtakeWhile_append hblank hcellEnd).2
  rw [readCounts?, eventsCell, readCount?_append hevents hgapEnd, Option.bind_eq_bind,
    Option.bind_some]
  simp only
  rw [if_pos hgapEnd, hdropped, attributesCell, readCount?_append hattributes hleftEnd]
  rfl

/-! ### Lines -/

/-- Of numbers and a bound from below, none is greater than the greatest. -/
theorem le_foldl_max {n m : Nat} {ns : List Nat} (h : n ≤ m ∨ n ∈ ns) : n ≤ ns.foldl max m := by
  induction ns generalizing m with
  | nil => simpa using h
  | cons k ns ih =>
    refine ih ?_
    rcases h with h | h
    · exact .inl (Nat.le_trans h (Nat.le_max_left _ _))
    · rcases List.mem_cons.mp h with rfl | h
      · exact .inl (Nat.le_max_right _ _)
      · exact .inr h

theorem length_le_widest {s : Text} {texts : List Text} (h : s ∈ texts) :
    s.length ≤ widest texts :=
  le_foldl_max (.inr (List.mem_map_of_mem h))

/-- The left part of a line, given the widths of its columns. -/
def leftPart (nameWidth hostWidth : Nat) (row : ElementSummary) : Text :=
  "  ".toList ++ row.name.rightpad nameWidth ' ' ++ "  ".toList
    ++ row.host.rightpad hostWidth ' ' ++ "  ".toList

theorem line_eq (nameWidth hostWidth : Nat) (row : ElementSummary) :
    line nameWidth hostWidth row = leftPart nameWidth hostWidth row
      ++ row.attributesCell.rightpad attributeColumn ' ' ++ row.eventsCell :=
  List.append_assoc _ _ _

/-- In columns that are wide enough, the interfaces and the attributes start at one offset. -/
theorem isLeftPart_leftPart (hname : row.name.length ≤ nameWidth)
    (hhost : row.host.length ≤ hostWidth) :
    IsLeftPart (nameWidth + 4) (nameWidth + hostWidth + 6) row
      (leftPart nameWidth hostWidth row) := by
  have hmargin : "  ".toList.length = 2 := rfl
  refine ⟨_, _, isGap_append (nameWidth - row.name.length),
    isGap_append (hostWidth - row.host.length), ?_, ?_, ?_⟩
  · rw [List.length_append, List.length_append, List.length_append, List.length_replicate, hmargin]
    omega
  · unfold leftPart List.rightpad
    generalize "  ".toList = margin
    simp only [List.append_assoc]
  · unfold leftPart List.rightpad
    generalize "  ".toList = margin at hmargin ⊢
    simp only [List.length_append, List.length_replicate, hmargin]
    omega

/-- The cell of the attributes leaves a blank in its column just if the count is below a hundred. -/
theorem length_attributesCell_lt_iff (h : 0 ≤ row.attributeCount) :
    row.attributesCell.length < attributeColumn ↔ row.attributeCount < 100 := by
  have hnoun : " attributes".toList.length = 11 := rfl
  have hdigits := @Text.length_numeral_le_two_iff row.attributeCount.toNat
  rw [attributesCell, Text.signedNumeral_of_nonneg h, List.length_append, hnoun, attributeColumn]
  omega

/-- Below a hundred attributes, a line of columns that are wide enough has all its cells in them. -/
theorem isInColumns_line (hattributes : 0 ≤ row.attributeCount)
    (hfew : row.attributeCount < 100) (hname : row.name.length ≤ nameWidth)
    (hhost : row.host.length ≤ hostWidth) :
    IsInColumns (nameWidth + 4) (nameWidth + hostWidth + 6)
      (nameWidth + hostWidth + 6 + attributeColumn) row (line nameWidth hostWidth row) := by
  have hshort := (length_attributesCell_lt_iff hattributes).mpr hfew
  have hleft := isLeftPart_leftPart hname hhost
  obtain ⟨_, _, -, -, -, -, hwidth⟩ := id hleft
  refine ⟨_, List.replicate (attributeColumn - row.attributesCell.length) ' ', hleft,
    ⟨attributeColumn - row.attributesCell.length - 1, ?_⟩, ?_, ?_⟩
  · rw [Nat.sub_add_cancel (Nat.sub_pos_of_lt hshort)]
  · rw [List.length_append, List.length_append, hwidth, List.length_replicate]
    omega
  · rw [line_eq, List.rightpad, ← List.append_assoc]

/-- A line has no gap in front of the events from a hundred attributes on. -/
theorem attributeCount_lt_of_isInColumns (hattributes : 0 ≤ row.attributeCount)
    {hostAt attributesAt eventsAt : Nat}
    (h : IsInColumns hostAt attributesAt eventsAt row (line nameWidth hostWidth row)) :
    row.attributeCount < 100 := by
  obtain ⟨left, gap, -, hgap, -, hline⟩ := h
  rw [← length_attributesCell_lt_iff hattributes]
  by_contra hlong
  have hpad : row.attributesCell.rightpad attributeColumn ' ' = row.attributesCell := by
    rw [List.rightpad, Nat.sub_eq_zero_of_le (Nat.not_lt.mp hlong)]
    exact List.append_nil _
  -- in front of the events there is the last letter of the attributes, and no blank
  rw [line_eq, hpad] at hline
  have hends := congrArg List.getLast? (List.append_cancel_right hline)
  rw [List.getLast?_append, List.getLast?_append, hgap.getLast?_eq, attributesCell,
    List.getLast?_append] at hends
  exact absurd (Option.some.inj hends) (by decide)

/-! ### Tables -/

/-- The lines of the rows in the text of a table, given their number: the last ones in front of the
end. -/
def rowLines (n : Nat) (text : Text) : List Text :=
  (Text.splitOn '\n' text).dropLast.rtake n

/-- Whether lines have the interfaces of the rows at one offset and their attributes at another, the
attributes in a column of their own, with the events behind it. -/
def HasLeftColumns (rows : List ElementSummary) (ls : List Text) : Prop :=
  ∃ hostAt attributesAt, List.Forall₂ (fun row line => ∃ left,
    IsLeftPart hostAt attributesAt row left ∧
      line = left ++ row.attributesCell.rightpad attributeColumn ' ' ++ row.eventsCell) rows ls

/-- Whether lines have all cells of the rows in columns, so that both counts are read from each. -/
structure IsTabulated (rows : List ElementSummary) (ls : List Text) : Prop where
  /-- in all rows each column starts at one offset, with a gap in front of it -/
  columns : ∃ hostAt attributesAt eventsAt,
    List.Forall₂ (IsInColumns hostAt attributesAt eventsAt) rows ls
  /-- the counts are read from the lines -/
  counts : ls.map readCounts? = rows.map fun row =>
    some (row.attributeCount.toNat, row.eventCount.toNat)

theorem lineFeed_not_mem_line (hname : '\n' ∉ row.name) (hhost : '\n' ∉ row.host)
    (hattributes : 0 ≤ row.attributeCount) (hevents : 0 ≤ row.eventCount) :
    '\n' ∉ line nameWidth hostWidth row := by
  have hnumeral (n : Nat) : '\n' ∉ Text.numeral n := fun h =>
    absurd (Text.isDigit_of_mem_numeral h) (by decide)
  have hblanks (n : Nat) : '\n' ∉ List.replicate n ' ' := fun h =>
    absurd (List.eq_of_mem_replicate h) (by decide)
  have hmargin : '\n' ∉ "  ".toList := by decide
  have hattributesNoun : '\n' ∉ " attributes".toList := by decide
  have heventsNoun : '\n' ∉ " events".toList := by decide
  have hpadded {s : Text} (hs : '\n' ∉ s) (n : Nat) : '\n' ∉ s.rightpad n ' ' :=
    List.not_mem_append hs (hblanks _)
  have hleft : '\n' ∉ leftPart nameWidth hostWidth row :=
    List.not_mem_append (List.not_mem_append (List.not_mem_append
      (List.not_mem_append hmargin (hpadded hname _)) hmargin) (hpadded hhost _)) hmargin
  rw [line_eq, attributesCell, eventsCell, Text.signedNumeral_of_nonneg hattributes,
    Text.signedNumeral_of_nonneg hevents]
  exact List.not_mem_append
    (List.not_mem_append hleft (hpadded (List.not_mem_append (hnumeral _) hattributesNoun) _))
    (List.not_mem_append (hnumeral _) heventsNoun)

/-- The lines of the rows are found in the text of the table, whatever its label is. -/
theorem rowLines_table (h : ∀ l ∈ lines rows, '\n' ∉ l) :
    rowLines rows.length (table rows label) = lines rows := by
  have hlength : (lines rows).length = rows.length := by rw [lines, List.length_map]
  have hsingle : (lines rows).flatMap (Text.splitOn '\n') = lines rows := by
    rw [List.flatMap_congr fun l hl => Text.splitOn_eq_singleton (h l hl)]
    exact List.flatMap_singleton' _
  have hne : ∀ ls : List Text, ls ++ [[]] ≠ [] := fun ls => List.concat_ne_nil [] ls
  rw [rowLines, table, Text.splitOn_joinLines (hne _), List.flatMap_append, List.flatMap_append,
    hsingle, List.flatMap_singleton, show Text.splitOn '\n' [] = [[]] from rfl, List.dropLast_concat,
    List.rtake, List.length_append, hlength, Nat.add_sub_cancel, List.drop_left]

/-- The columns of names and of interfaces are wide enough for every row. -/
theorem lengths_le_widest (h : row ∈ rows) :
    row.name.length ≤ widest (rows.map name) ∧ row.host.length ≤ widest (rows.map host) :=
  ⟨length_le_widest (List.mem_map_of_mem h), length_le_widest (List.mem_map_of_mem h)⟩

/-- What relates each row to its line relates the rows to their lines. -/
theorem forall₂_lines_iff {R : ElementSummary → Text → Prop} :
    List.Forall₂ R rows (lines rows) ↔
      ∀ row ∈ rows, R row (line (widest (rows.map name)) (widest (rows.map host)) row) :=
  List.forall₂_map_right_iff.trans List.forall₂_same

theorem hasLeftColumns_lines (rows : List ElementSummary) : HasLeftColumns rows (lines rows) := by
  refine ⟨widest (rows.map name) + 4, widest (rows.map name) + widest (rows.map host) + 6,
    forall₂_lines_iff.mpr fun row hrow => ?_⟩
  obtain ⟨hname, hhost⟩ := lengths_le_widest hrow
  exact ⟨_, isLeftPart_leftPart hname hhost, line_eq _ _ row⟩

/-- The lines of rows are tabulated just if no row has a hundred attributes. -/
theorem isTabulated_lines_iff
    (hcounts : ∀ row ∈ rows, 0 ≤ row.attributeCount ∧ 0 ≤ row.eventCount) :
    IsTabulated rows (lines rows) ↔ ∀ row ∈ rows, row.attributeCount < 100 := by
  constructor
  · rintro ⟨⟨hostAt, attributesAt, eventsAt, hcolumns⟩, -⟩ row hrow
    exact attributeCount_lt_of_isInColumns (hcounts row hrow).1
      (forall₂_lines_iff.mp hcolumns row hrow)
  · intro hfew
    have hin : ∀ row ∈ rows, IsInColumns _ _ _ row
        (line (widest (rows.map name)) (widest (rows.map host)) row) := fun row hrow =>
      isInColumns_line (hcounts row hrow).1 (hfew row hrow) (lengths_le_widest hrow).1
        (lengths_le_widest hrow).2
    refine ⟨⟨_, _, _, forall₂_lines_iff.mpr hin⟩, ?_⟩
    rw [lines, List.map_map]
    exact List.map_congr_left fun row hrow =>
      readCounts?_eq (hcounts row hrow).1 (hcounts row hrow).2 (hin row hrow)

/-- The counts of a row have no more digits than a numeral may have. -/
def HasShortCounts (row : ElementSummary) : Prop :=
  (Text.numeral row.attributeCount.natAbs).length ≤ maxDecimalDigits ∧
    (Text.numeral row.eventCount.natAbs).length ≤ maxDecimalDigits

theorem isOk_write_iff {n : Int} :
    (Numeral.write n).isOk = true ↔ (Text.numeral n.natAbs).length ≤ maxDecimalDigits := by
  rw [← Nat.not_lt, Numeral.write]
  split
  · next hlong => exact iff_of_false Bool.false_ne_true fun hshort => hshort hlong
  · next hshort => exact iff_of_true rfl hshort

theorem isWritable_iff : row.isWritable = true ↔ row.HasShortCounts := by
  rw [isWritable, Bool.and_eq_true, isOk_write_iff, isOk_write_iff, HasShortCounts]

/-- A table is written for rows with short counts, and for no others. -/
theorem write_eq_ok_iff {text : Text} :
    write rows label = .ok text ↔
      (∀ row ∈ rows, row.HasShortCounts) ∧ text = table rows label := by
  have hall : rows.all isWritable = true ↔ ∀ row ∈ rows, row.HasShortCounts := by
    rw [List.all_eq_true]
    exact forall₂_congr fun _ _ => isWritable_iff
  rw [← hall, write]
  split
  · next hshort => rw [Except.ok.injEq, and_iff_right hshort, eq_comm]
  · next hlong => exact iff_of_false nofun fun h => hlong h.1

/-- **The columns of the table stand as long as no element has a hundred attributes.** The
interfaces and the attributes always start at one offset each, with a gap in front. The events do,
and both counts are read from the end of each row, just if all counts of attributes are below a
hundred. That is the table which is written for the rows, provided that their counts are short. -/
theorem table_inColumns_iff (hnames : ∀ row ∈ rows, '\n' ∉ row.name ∧ '\n' ∉ row.host)
    (hcounts : ∀ row ∈ rows, 0 ≤ row.attributeCount ∧ 0 ≤ row.eventCount) (label : Text) :
    HasLeftColumns rows (rowLines rows.length (table rows label)) ∧
      (IsTabulated rows (rowLines rows.length (table rows label)) ↔
        ∀ row ∈ rows, row.attributeCount < 100) ∧
      ∀ text, write rows label = .ok text ↔
        (∀ row ∈ rows, row.HasShortCounts) ∧ text = table rows label := by
  have hlines : ∀ l ∈ lines rows, '\n' ∉ l := by
    intro l hl
    obtain ⟨row, hrow, rfl⟩ := List.mem_map.mp hl
    exact lineFeed_not_mem_line (hnames row hrow).1 (hnames row hrow).2 (hcounts row hrow).1
      (hcounts row hrow).2
  rw [rowLines_table hlines]
  exact ⟨hasLeftColumns_lines rows, isTabulated_lines_iff hcounts, fun _ => write_eq_ok_iff⟩

/-- Rows of different widths, one with as many attributes as a row can hold. -/
theorem table_inColumns_iff_twoRows :
    let rows : List ElementSummary := [⟨"a".toList, "HTMLAnchorElement".toList, 9, 12⟩,
      ⟨"table".toList, "HTMLTableElement".toList, 99, 0⟩]
    ((∀ row ∈ rows, '\n' ∉ row.name ∧ '\n' ∉ row.host) ∧
        ∀ row ∈ rows, 0 ≤ row.attributeCount ∧ 0 ≤ row.eventCount) ∧
      IsTabulated rows (rowLines rows.length (table rows "html.yaml".toList)) := by
  intro rows
  have hnames : ∀ row ∈ rows, '\n' ∉ row.name ∧ '\n' ∉ row.host := by decide
  have hcounts : ∀ row ∈ rows, 0 ≤ row.attributeCount ∧ 0 ≤ row.eventCount := by decide
  exact ⟨⟨hnames, hcounts⟩, (table_inColumns_iff hnames hcounts _).2.1.mpr (by decide)⟩

/-- A thousand attributes: the events of that row stand farther to the right than those of the other
one, and right behind the attributes. -/
theorem table_not_inColumns_thousand :
    let rows : List ElementSummary := [⟨"a".toList, "X".toList, 1000, 2⟩,
      ⟨"b".toList, "Y".toList, 1, 3⟩]
    table rows "x".toList = ("2 elements in x:\n\n  a  X  1000 attributes2 events\n"
        ++ "  b  Y  1 attributes  3 events\n").toList ∧
      ¬ IsTabulated rows (rowLines rows.length (table rows "x".toList)) := by
  intro rows
  refine ⟨by decide +kernel, fun h => ?_⟩
  have hlines : rowLines rows.length (table rows "x".toList) = lines rows := by decide +kernel
  rw [hlines, isTabulated_lines_iff (by decide)] at h
  exact absurd (h _ List.mem_cons_self) (by decide)

end ElementSummary

end DomBindings
