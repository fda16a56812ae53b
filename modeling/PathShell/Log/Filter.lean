import PathShell.Log.Directive

/-!
# Log filters

A filter is a list of directives. Of those that an event fits, the most specific one decides. A filter
without directives lets errors through.
-/

namespace PathShell
namespace Log

structure Filter where
  directives : List Directive
  deriving DecidableEq

/-- The filter of a text: directives with commas between them. -/
def Filter.ofText? (text : String) : Option Filter :=
  (((Text.pieces ',' text).filter (· ≠ "")).mapM directive?).map Filter.mk

/-- The filter of the environment if it gives one, else that of the settings, else warnings. -/
def Filter.choose (environment settings : Option String) : Filter :=
  let warnings : Filter := ⟨[.events none [] (some .warn)]⟩
  match environment.bind Filter.ofText? with
  | some filter => filter
  | none =>
    match settings with
    | some level => (Filter.ofText? level).getD warnings
    | none => warnings

/-! ## Filtering -/

/-- A directive that speaks of an event. -/
def Directive.fits (event : Event) : Directive → Bool
  | .spans => false
  | .events target fields _ =>
    (match target with
      | some start => start.toList.isPrefixOf event.target.toList
      | none => true)
    && fields.all fun field => field = "message" || (event.fields.map Prod.fst).contains field

/-- How specific a directive is: first by its target, the longer the more, then by its fields. -/
def Directive.weight : Directive → Nat × Nat
  | .spans => (0, 0)
  | .events target fields _ => ((target.map fun text => text.utf8ByteSize + 1).getD 0, fields.length)

/-- The text that decides between directives of one weight. -/
def Directive.tieBreak : Directive → String
  | .spans => ""
  | .events target fields _ => target.getD "" ++ "\n" ++ Text.join "\n" fields

/-- `a` gives way to `b`. -/
def Directive.yields (a b : Directive) : Bool :=
  let (targetA, fieldsA) := a.weight
  let (targetB, fieldsB) := b.weight
  targetA < targetB
    || (targetA = targetB && (fieldsA < fieldsB || (fieldsA = fieldsB && a.tieBreak ≤ b.tieBreak)))

/-- The directive that decides about an event. Of two that say the same of its target and fields the
    later one. -/
def Filter.deciding (filter : Filter) (event : Event) : Option Directive :=
  (filter.directives.filter (Directive.fits event)).foldl
    (fun best next =>
      match best with
      | none => some next
      | some best => if best.yields next then some next else some best)
    none

/-- The event is let through. -/
def Filter.passes (filter : Filter) (event : Event) : Bool :=
  if filter.directives.isEmpty then event.level.rank ≤ Level.error.rank
  else
    match filter.deciding event with
    | some (.events _ _ (some level)) => event.level.rank ≤ level.rank
    | _ => false

end Log
end PathShell
