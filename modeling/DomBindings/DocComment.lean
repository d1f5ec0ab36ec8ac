import DomBindings.Text.Class

/-!
# Doc comments

The comment in front of a declaration: a description, and a reference where there is one. The end
mark of a comment is escaped in both, so that the comment ends where it is closed.
-/

namespace DomBindings.DocComment

/-- Puts a backslash into every end mark of a comment. -/
def escape : Text → Text
  | '*' :: '/' :: rest => '*' :: '\\' :: '/' :: escape rest
  | c :: rest => c :: escape rest
  | [] => []

/-- The lines of a doc comment. -/
def lines (description ref indent : Text) : List Text :=
  let ref := escape ref
  [Text.trimEnd (indent ++ "/** ".toList ++ escape description), indent ++ " *".toList]
    ++ (if ref.isEmpty then [] else [indent ++ " * @see ".toList ++ ref])
    ++ [indent ++ " */".toList]

end DomBindings.DocComment
