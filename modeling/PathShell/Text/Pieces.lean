/-!
# Pieces

Texts cut at a character or after some bytes, and put together again.
-/

namespace PathShell
namespace Text

/-- The pieces between the occurrences of `separator`; one more than it occurs. -/
def pieces (separator : Char) (text : String) : List String :=
  (text.toList.splitOn separator).map String.ofList

/-- The texts in turn, with `separator` between neighbours. -/
def join (separator : String) (texts : List String) : String :=
  String.ofList (separator.toList.intercalate (texts.map String.toList))

/-- `pattern` stands somewhere in the characters. -/
def occurs (pattern : List Char) : List Char → Bool
  | [] => pattern.isEmpty
  | c :: cs => pattern.isPrefixOf (c :: cs) || occurs pattern cs

/-- `pattern` stands somewhere in `text`. -/
def contains (pattern text : String) : Bool := occurs pattern.toList text.toList

/-- How many bytes characters take. -/
def byteSize (cs : List Char) : Nat := cs.foldl (fun bytes c => bytes + c.utf8Size) 0

/-- Characters cut after some bytes; only between two of them. -/
def cut? : Nat → List Char → Option (List Char × List Char)
  | 0, cs => some ([], cs)
  | _ + 1, [] => none
  | bytes + 1, c :: cs =>
    if bytes + 1 < c.utf8Size then none
    else (cut? (bytes + 1 - c.utf8Size) cs).map fun (before, after) => (c :: before, after)

/-- The characters between two places. -/
def between? (start stop : Nat) (cs : List Char) : Option (List Char) :=
  match cut? start cs with
  | some (_, after) => (cut? (stop - start) after).map Prod.fst
  | none => none

end Text
end PathShell
