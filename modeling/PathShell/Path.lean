/-!
# Paths

A path is a text whose segments are set apart by `/`. Nothing is normalized: `.` and `..` inside a
longer text are ordinary segments, and doubled slashes stay. The paths below a directory are those
that begin with its stem, which ends with a slash, so that `/a` never claims `/ab`.
-/

namespace PathShell
namespace Path

/-- The path of an entry called `name` in the directory `dir`. -/
def join (dir name : String) : String :=
  if dir = "/" then "/" ++ name else dir ++ "/" ++ name

/-- The text before the last slash; `/` where that text is empty or no slash occurs. -/
def parent (path : String) : String :=
  let before := ((path.toList.reverse.dropWhile (· ≠ '/')).drop 1).reverse
  if before.isEmpty then "/" else String.ofList before

/-- The text after the last slash; the whole path where no slash occurs. -/
def basename (path : String) : String :=
  String.ofList (path.toList.reverse.takeWhile (· ≠ '/')).reverse

/-- A typed path seen from `cwd`: `..` climbs, a leading slash makes it absolute, and any other
    text names something in `cwd`. -/
def resolve (path cwd : String) : String :=
  if path = ".." then parent cwd
  else if path.toList.head? = some '/' then path
  else join cwd path

/-- What every path below `dir` begins with. -/
def stem (dir : String) : String :=
  if dir = "/" then "/" else dir ++ "/"

/-- `path` begins with the stem of `dir`. -/
def isBelow (dir path : String) : Bool :=
  (stem dir).toList.isPrefixOf path.toList

/-- What follows the first `n` characters of a path. -/
def after (n : Nat) (path : String) : String :=
  String.ofList (path.toList.drop n)

/-- The place of `path` once `source`, which it begins with, stands at `target`. -/
def rebase (source target path : String) : String :=
  target ++ after source.length path

/-- The name of a direct child: what follows the stem, where that is one segment. -/
def childName? (dir path : String) : Option String :=
  if path ≠ dir ∧ isBelow dir path then
    let rest := path.toList.drop (stem dir).length
    if rest ≠ [] ∧ '/' ∉ rest then some (String.ofList rest) else none
  else none

end Path
end PathShell
