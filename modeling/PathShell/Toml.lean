/-!
# TOML values

What a TOML document holds. Only texts and integers keep their value: nothing that this library reads
is written as another scalar.
-/

namespace PathShell
namespace Toml

/-- How a table came to be, which decides what may still be added to it. -/
inductive TableKind where
  /-- Written in braces. -/
  | inlined
  /-- On the way to the table of a header. -/
  | implicit
  /-- On the way to a dotted key. -/
  | dotted
  /-- The table of a header. -/
  | header
  deriving DecidableEq

inductive Value where
  | string (text : String)
  | integer (value : Int)
  /-- A float, a boolean or a date. -/
  | otherScalar
  | array (items : List Value)
  | table (kind : TableKind) (entries : List (String × Value))
  /-- An array of tables under headers, and the last of them. -/
  | tables (earlier : List (List (String × Value))) (last : List (String × Value))

/-- The entries of a table, in the order in which they were written. -/
abbrev Entries := List (String × Value)

end Toml
end PathShell
