import LoginLoad.Log.Directive
import LoginLoad.Text.Split

/-! # Event filters

Which events are shown.  A filter is written as directives with commas between them.

* `LogFilter.read?` reads a filter; one directive that cannot be read spoils the filter.
  `LogFilter.readable` leaves such directives out.
* `LogFilter.shows` asks the most specific directive that concerns an event; of two equal directives
  the later one counts.  A filter without any directive shows errors only. -/

namespace LoginLoad

/-- A filter. -/
structure LogFilter where
  directives : List LogDirective
deriving DecidableEq, Repr

namespace LogFilter

/-- Splits a text at its commas, without empty parts. -/
def parts (text : List Char) : List (List Char) :=
  (splitAt ',' text).filter fun part => !part.isEmpty

/-- The filter of some directives; without any it shows errors. -/
def ofDirectives (directives : List LogDirective) : LogFilter :=
  ⟨if directives.isEmpty then [{ level := some .error }] else directives⟩

/-- Reads a filter. -/
def read? (text : String) : Option LogFilter :=
  ((parts text.toList).mapM LogDirective.read?).map ofDirectives

/-- Reads the directives of a filter that can be read. -/
def readable (text : String) : LogFilter :=
  ofDirectives ((parts text.toList).filterMap LogDirective.read?)

/-- The filter that is used where none is given or the given one cannot be read. -/
def standard : LogFilter :=
  ⟨[{ level := some .warn }, { level := some .info, target := some "stampede" }]⟩

/-- The filter that the environment asks for. -/
def ofEnvironment (value : Option String) : LogFilter := (value.bind read?).getD standard

/-- The most specific of the directives that concern an event, the latest one of equals. -/
def decisive? (f : LogFilter) (e : Event) : Option LogDirective :=
  (f.directives.filter fun d => d.isStatic && d.concerns e).foldl
    (fun best d =>
      match best with
      | some b => if b.isMoreSpecific d then some b else some d
      | none => some d) none

/-- Whether an event is shown. -/
def shows (f : LogFilter) (e : Event) : Bool := (f.decisive? e).any (·.shows e)

/-- A filter looks at the level of an event, at its target and at the names of its fields. -/
theorem shows_congr (f : LogFilter) {d e : Event} (hlevel : d.level = e.level)
    (htarget : d.target = e.target) (hnames : d.names = e.names) : f.shows d = f.shows e := by
  unfold shows decisive? LogDirective.shows LogDirective.concerns
  rw [hlevel, htarget, hnames]

end LogFilter
end LoginLoad
