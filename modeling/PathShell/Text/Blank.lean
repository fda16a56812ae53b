/-!
# Blanks

The white space of Unicode, and what is trimmed or split by it.
-/

namespace PathShell
namespace Text

/-- The characters with the Unicode property `White_Space`. -/
def blanks : List Char :=
  ['\t', '\n', '\x0b', '\x0c', '\r', ' ', '\u0085', '\u00a0', '\u1680', '\u2000', '\u2001', '\u2002',
   '\u2003', '\u2004', '\u2005', '\u2006', '\u2007', '\u2008', '\u2009', '\u200a', '\u2028', '\u2029',
   '\u202f', '\u205f', '\u3000']

def isBlank (c : Char) : Bool := blanks.contains c

/-- The characters from the first that is not blank. -/
def skipBlanks (cs : List Char) : List Char := cs.dropWhile isBlank

/-- A text without the blanks at both its ends. -/
def trim (text : String) : String :=
  String.ofList (skipBlanks (skipBlanks text.toList).reverse).reverse

/-- The maximal runs of characters that are not blank. -/
def words (text : String) : List String :=
  ((text.toList.splitOnP isBlank).filter (!·.isEmpty)).map String.ofList

end Text
end PathShell
