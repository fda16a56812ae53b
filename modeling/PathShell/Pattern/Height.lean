/-!
# Heights of patterns

How high the parts of a pattern are piled up. What holds nothing else has the height zero; a group, a
class, a repetition, and several parts in a row are each one higher than the highest of their parts.
-/

namespace PathShell
namespace Pattern

/-- The height up to which a pattern may go. -/
def maxHeight : Nat := 250

/-- Parts in a row: how many they are, and the height of the highest. -/
structure Row where
  count : Nat
  highest : Nat
  deriving DecidableEq

def Row.empty : Row := ⟨0, 0⟩

/-- One more part. -/
def Row.push (row : Row) (height : Nat) : Row := ⟨row.count + 1, max row.highest height⟩

/-- The height of the row. A part alone is no row. -/
def Row.height (row : Row) : Nat := if row.count ≤ 1 then row.highest else row.highest + 1

end Pattern
end PathShell
