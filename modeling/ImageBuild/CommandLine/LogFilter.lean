import ImageBuild.CommandLine.Directive
import ImageBuild.Path
import ImageBuild.Text.Split

/-!
# Filters of log records

A filter is a list of directives. Of those that can be decided about a record alone, the one with
the longest name of a topic counts, then the one with the most fields. Those about spans add to
that: within a span, a record is also shown if any directive about the span allows it.
-/

namespace ImageBuild

/-- A filter of log records. -/
structure LogFilter where
  directives : List Directive
  deriving DecidableEq, Repr

namespace LogFilter

/-- The filter that shows everything up to a verbosity. -/
def upTo (v : Verbosity) : LogFilter := ⟨[{ Directive.everything with verbosity := v }]⟩

/-- The texts of the directives of a filter. -/
def parts (s : String) : List String :=
  (Text.splitText ',' s).filter (· ≠ "")

/-- Reads directives, leaving out unreadable ones. -/
def readable : List String → Option (List Directive)
  | [] => some []
  | part :: rest =>
    match Directive.ofText part with
    | .error .severed => none
    | .error .unreadable => readable rest
    | .ok d => (readable rest).map (d :: ·)

/-- The filter that a text writes, without unreadable directives; it shows errors if it has none.
There is no filter if a directive is severed. -/
def ofText (s : String) : Option LogFilter :=
  (readable (parts s)).map fun directives =>
    if directives = [] then upTo .error else ⟨directives⟩

/-- The filter that a text writes, up to the first fault. -/
def ofText? (s : String) : Except DirectiveFault LogFilter :=
  (LogFilter.mk ·) <$> (parts s).mapM Directive.ofText

/-! ## Records alone -/

/-- Whether a directive names its records less closely than another one, or as closely. -/
def isLooser (d e : Directive) : Bool :=
  let size (d : Directive) : Nat := (d.topic.map fun s => s.utf8ByteSize + 1).getD 0
  if size d ≠ size e then size d < size e
  else if d.fields.length ≠ e.fields.length then d.fields.length < e.fields.length
  else
    let names (d : Directive) : List String := d.topic.toList ++ d.fields.map (·.name)
    namesLe (names d) (names e)

/-- The directive that counts of two, of which the second one stands behind the first. -/
def closer (best : Option Directive) (d : Directive) : Option Directive :=
  match best with
  | none => some d
  | some b => if isLooser b d then some d else some b

/-- The directive that counts for a record alone. -/
def directive? (filter : LogFilter) (r : LogRecord) : Option Directive :=
  (filter.directives.filter fun d => d.isStatic && d.concerns r).foldl closer none

/-- Whether a record alone is shown. -/
def allows (filter : LogFilter) (r : LogRecord) : Bool :=
  match filter.directive? r with
  | none => false
  | some d => d.verbosity.allows r.level

/-! ## Records within a span -/

/-- The greatest verbosity that a filter may need: spans are followed up to it. -/
def ceiling (filter : LogFilter) : Verbosity :=
  if filter.directives.any fun d => d.isDynamic && d.fields.any (·.value.isSome) then .trace
  else filter.directives.foldl (fun v d => v.max d.verbosity) .off

/-- The verbosity within a span. -/
def within (filter : LogFilter) (span : Span) : Verbosity :=
  if filter.ceiling.allows .info then
    (filter.directives.filter fun d => d.isDynamic && d.covers span).foldl
      (fun v d => v.max d.verbosity) .off
  else .off

/-- Whether a record is shown that is made within a span or outside of all. -/
def shows (filter : LogFilter) (span : Option Span) (r : LogRecord) : Bool :=
  filter.allows r || span.any fun s => (filter.within s).allows r.level

end LogFilter

end ImageBuild
