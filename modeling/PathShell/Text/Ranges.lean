/-!
# Ranges of characters
-/

namespace PathShell
namespace Text

/-- The character lies in one of some ranges of code points, each given by its two ends. -/
def liesIn (ranges : List (Nat × Nat)) (c : Char) : Bool :=
  ranges.any fun range => range.1 ≤ c.toNat && c.toNat ≤ range.2

end Text
end PathShell
