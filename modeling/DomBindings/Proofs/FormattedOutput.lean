import DomBindings.Proofs.Generation
import DomBindings.Proofs.Utf8

/-!
# What is kept of the formatter's output

The output of the formatter is read as a text file is, with its line ends folded, and the text is
written as it then stands. So the file has the bytes of the output but for carriage returns: with
none in the output it is kept as it is, and otherwise each line end of it has become a line feed.
-/

namespace DomBindings

open Text (foldNewlineBytes)

variable {run : CommandRunner} {c : GenerateConfig} {t : FileTree} {r : CommandResult}

/-- A generation from these files comes to the formatter, and this comes of its command. -/
def Generation.Formats (run : CommandRunner) (c : GenerateConfig) (t : FileTree)
    (r : CommandResult) : Prop :=
  ∃ config source, findConfig c t = .ok (some config) ∧ unformatted c t = .ok source ∧
    run t (Formatter.invocation c.command config c.output) (Text.encode source) = .ok r

/-- The final text is then what is made of the output. -/
theorem Generation.Formats.finalText_eq (h : Formats run c t r) :
    finalText run c t = (Formatter.outcome c.output r, r.tree) := by
  obtain ⟨config, source, hconfig, hsource, hrun⟩ := h
  simp [finalText, hconfig, hsource, Formatter.format, hrun]

/-- Output that is UTF-8 is a text with folded line ends. -/
theorem exists_of_ofFileBytes {bytes : List UInt8} {s : Text} (h : Text.decode bytes = .ok s) :
    ∃ text, Text.ofFileBytes bytes = .ok text ∧ Text.encode text = foldNewlineBytes bytes := by
  have hread : Text.ofFileBytes bytes = .ok (Text.foldNewlines s) := by
    rw [Text.ofFileBytes, h]
    rfl
  exact ⟨_, hread, Text.encode_of_ofFileBytes hread⟩

/-- **The output of the formatter is kept but for its carriage returns.** Let the formatter succeed
with an output that is UTF-8. If the generation returns, the file has the bytes of the output with
folded line ends, which are those of the output just if there is no carriage return in it. It fails
only where the complaints of the formatter are no text or the file system refuses the write. -/
theorem formatted_output_folded {x y : Session} {result : Except Fault WrittenFile} {s : Text}
    (hformats : Generation.Formats run c x.tree r) (hstatus : r.status = 0)
    (hutf8 : Text.decode r.output = .ok s) (hplain : c.output.IsPlain)
    (hworking : r.tree.Stands r.tree.working) (h : (generate run c).run.run x = (result, y)) :
    (foldNewlineBytes r.output = r.output ↔ 13 ∉ r.output) ∧
      ((∃ e, Text.ofFileBytes r.errors = .error e ∧ result = .error (.encoding e) ∧
          y.tree = r.tree) ∨
        (∃ e, result = .error (.file e)) ∨
        ∃ file text, result = .ok file ∧ Text.encode text = foldNewlineBytes r.output ∧
          file.IsOf r.tree y.tree c.output text) := by
  refine ⟨Text.foldNewlineBytes_eq_self_iff, ?_⟩
  obtain ⟨text, hread, hbytes⟩ := exists_of_ofFileBytes hutf8
  have htext := hformats.finalText_eq
  unfold Formatter.outcome at htext
  rw [hread] at htext
  cases hcomplaints : Text.ofFileBytes r.errors with
  | error e =>
    simp only [hcomplaints] at htext
    exact .inl ⟨e, rfl, (ends_generate_error htext).eq h⟩
  | ok complaints =>
    simp only [hcomplaints, if_pos hstatus] at htext
    cases result with
    | error fault =>
      obtain ⟨e, rfl⟩ := exists_fileError_of_generate h htext
      exact .inr (.inl ⟨e, rfl⟩)
    | ok file =>
      exact .inr (.inr ⟨file, text, rfl, hbytes, isOf_of_generate hplain hworking h htext⟩)

/-- The generation of a small module comes to its formatter. -/
theorem formats_smallGeneration (formatted : Text) :
    Generation.Formats (constantRunner (Text.encode formatted)) (smallGeneration "o.ts".toList)
      smallTree ⟨smallTree, 0, Text.encode formatted, []⟩ := by
  obtain ⟨found, hfound, hsome⟩ := @Traversal.exists_of_toOption _ _
    (Generation.findConfig (smallGeneration "o.ts".toList) smallTree) Option.isSome
    (by decide +kernel)
  obtain ⟨config, rfl⟩ := Option.isSome_iff_exists.mp hsome
  obtain ⟨source, hsource, -⟩ := @Traversal.exists_of_toOption _ _
    (Generation.unformatted (smallGeneration "o.ts".toList) smallTree) (fun _ => true)
    (by decide +kernel)
  exact ⟨config, source, hfound, hsource, rfl⟩

/-- So an output with line feeds only is kept as it is. -/
theorem formatted_output_folded_lineFeeds :
    ∃ file y text, smallRun "a\n".toList "o.ts".toList = (.ok file, y) ∧
      Text.encode text = Text.encode "a\n".toList ∧
      file.IsOf smallTree y.tree (.ofText "o.ts".toList) text := by
  obtain ⟨file, hfile, -⟩ := @Traversal.exists_of_toOption _ _
    (smallRun "a\n".toList "o.ts".toList).1 (fun _ => true) (by decide +kernel)
  rcases hrun : smallRun "a\n".toList "o.ts".toList with ⟨result, y⟩
  rw [hrun] at hfile
  subst hfile
  have hutf8 : Text.decode (Text.encode "a\n".toList) = .ok "a\n".toList := by decide +kernel
  obtain ⟨hkept, ⟨e, -, hresult, -⟩ | ⟨e, hresult⟩ | ⟨file', text, hresult, hbytes, hof⟩⟩ :=
    formatted_output_folded (formats_smallGeneration "a\n".toList) rfl hutf8
      (Path.isPlain_ofText _) FileTree.stands_nil hrun
  · cases hresult
  · cases hresult
  · obtain rfl := Except.ok.inj hresult
    exact ⟨file, y, text, rfl, hbytes.trans (hkept.mpr (by decide +kernel)), hof⟩

/-- The formatter ends its lines with carriage returns and line feeds, and the file has other
bytes. -/
theorem formatted_output_not_kept :
    Generation.Formats (constantRunner (Text.encode "a\r\nb\r\n".toList))
        (smallGeneration "o.ts".toList) smallTree
        ⟨smallTree, 0, Text.encode "a\r\nb\r\n".toList, []⟩ ∧
      Text.decode (Text.encode "a\r\nb\r\n".toList) = .ok "a\r\nb\r\n".toList ∧
      (smallRun "a\r\nb\r\n".toList "o.ts".toList).2.tree.follow (.ofText "o.ts".toList)
        = .ok (["o.ts".toList], some (.file (Text.encode "a\nb\n".toList) false)) ∧
      Text.encode "a\nb\n".toList ≠ Text.encode "a\r\nb\r\n".toList :=
  ⟨formats_smallGeneration _, by decide +kernel, by decide +kernel, by decide +kernel⟩

end DomBindings
