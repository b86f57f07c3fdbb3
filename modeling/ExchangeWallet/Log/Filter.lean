import ExchangeWallet.Log.Directive
/-!
# Log filters

A filter is a list of directives between commas. An event is shown if the most specific
directive that covers it is verbose enough; of two that are equally specific the later
one counts. Events that no directive covers are not shown. A filter with a part that
is no directive is refused as a whole.
-/
namespace ExchangeWallet.Log

/-- The directives of a filter, in the order in which they are written. -/
abbrev Filter :=
  List Directive

namespace Filter

/-- What is shown where no filter is set. -/
def standard : Filter :=
  [⟨none, none, Level.info.verbosity⟩]

/-- The filter that shows nothing. -/
def nothing : Filter :=
  []

/-- The filter that a text denotes. -/
def read (text : String) : Except DirectiveFault Filter :=
  (splitAtEach ',' text.toList).mapM Directive.read

/-- The variable that holds the filter. -/
def variableName : String :=
  "RUST_LOG"

/-- The filter that an environment sets. One that is refused shows nothing, one that is
no text leaves the standard, and both are complained about. -/
def ofEnvironment (environment : Settings.Environment) : Filter × String :=
  match environment.get? variableName with
  | none => (standard, "")
  | some bytes =>
    match Text.ofBytes? bytes with
    | none =>
      let shown := Text.inspectBytes bytes.data.toList
      (standard,
        s!"Ignoring `{variableName}`: environment variable was not valid unicode: {shown}\n")
    | some text =>
      match read text with
      | .ok filter => (filter, "")
      | .error fault =>
        (nothing, s!"Ignoring `{variableName}={Text.inspect text}`: {fault.message}\n")

/-- The directive that decides on an event. -/
def deciding? (event : Event) (filter : Filter) : Option Directive :=
  (filter.filter fun directive => directive.covers event).foldl (fun found directive =>
    if found.all directive.overrules then some directive else found) none

/-- Whether an event is shown. -/
def shows (filter : Filter) (event : Event) : Bool :=
  (filter.deciding? event).any fun directive => event.level.verbosity ≤ directive.verbosity

end Filter

end ExchangeWallet.Log
