import ExchangeWallet.Log.Event
/-!
# Directives of a log filter

A directive sets the verbosity of all events, or of the events whose target starts
with a text, and may ask besides for a detail that an event has to have: `debug`,
`target=debug`, `target[{detail}]=debug`, or `target` alone for everything of a target.
Verbosities are named without regard to case, or numbered from zero, which shows
nothing, to five.

Of several directives that cover an event the most specific one decides: the one with
the longest target, then one that asks for a detail, then the one whose detail has the
later name.
-/
namespace ExchangeWallet.Log

-- The power of natural exponents, also where another one is in scope.
attribute [local instance (high)] instPowNat

/-- A verbosity for some of the events. -/
structure Directive where
  /-- What the target of an event starts with. -/
  target : Option String
  /-- The detail that an event has. -/
  detail : Option String
  verbosity : Nat
deriving DecidableEq

/-- Why a directive cannot be read. -/
inductive DirectiveFault where
  | manyEqualSigns
  | manyDetailLists
  | openDetailList
  | unknownVerbosity
deriving DecidableEq

/-- The wording of a fault. -/
def DirectiveFault.message : DirectiveFault → String
  | manyEqualSigns =>
    "invalid filter directive: too many '=' in filter directive, expected 0 or 1"
  | manyDetailLists =>
    "invalid filter directive: too many '[\x7b' in filter directive, expected 0 or 1"
  | openDetailList =>
    "invalid filter directive: expected fields list to end with '\x7d]'"
  | unknownVerbosity =>
    "error parsing level filter: expected one of \"off\", \"error\", \"warn\", " ++
      "\"info\", \"debug\", \"trace\", or a number 0-5"

/-- The verbosity that a word names. No word names that of errors. -/
def verbosity? (word : List Char) : Option Nat :=
  let name := String.ofList (word.map Char.toLower)
  match Numeral.naturalBelow? (2 ^ (64 : Nat)) word with
  | some number => if number ≤ 5 then some number else none
  | none =>
    if name = "" then some 1
    else if name = "off" then some 0
    else if name = "error" then some 1
    else if name = "warn" then some 2
    else if name = "info" then some 3
    else if name = "debug" then some 4
    else if name = "trace" then some 5
    else none

/-- The parts of a text between separators, one more than there are separators. -/
def splitAtEach (separator : Char) : List Char → List (List Char)
  | [] => [[]]
  | character :: rest =>
    if character = separator then [] :: splitAtEach separator rest
    else match splitAtEach separator rest with
      | [] => [[character]]
      | part :: others => (character :: part) :: others

namespace Directive

/-- What stands before and behind the first opening of a detail list. -/
def splitAtList? : List Char → Option (List Char × List Char)
  | '[' :: '{' :: rest => some ([], rest)
  | character :: rest =>
    (splitAtList? rest).map fun (before, behind) => (character :: before, behind)
  | [] => none

/-- A text without the closings of detail lists at its start, all read backwards. -/
def dropClosings : List Char → List Char
  | ']' :: '}' :: rest => dropClosings rest
  | rest => rest

/-- The name in a detail list that has been opened. An empty list holds none. -/
def readList (text : List Char) : Except DirectiveFault (Option String) :=
  match splitAtList? text, text.reverse with
  | some _, _ => .error .manyDetailLists
  | none, ']' :: '}' :: rest =>
    let name := (dropClosings rest).reverse
    .ok (if name = [] then none else some (String.ofList name))
  | none, _ => .error .openDetailList

/-- The target and the detail that stand before a verbosity. -/
def readScope (text : List Char) : Except DirectiveFault (String × Option String) :=
  match splitAtList? text with
  | none => .ok (String.ofList text, none)
  | some (target, list) => (readList list).map fun detail => (String.ofList target, detail)

/-- The directive that a text denotes. Without an equals sign, what is no verbosity is a
target. -/
def read (text : List Char) : Except DirectiveFault Directive :=
  match splitAtEach '=' text with
  | [scope, word] => do
    let (target, detail) ← readScope scope
    match verbosity? word with
    | some verbosity => .ok ⟨some target, detail, verbosity⟩
    | none => .error .unknownVerbosity
  | [word] =>
    match verbosity? word with
    | some verbosity => .ok ⟨none, none, verbosity⟩
    | none => .ok ⟨some (String.ofList word), none, Level.trace.verbosity⟩
  | _ => .error .manyEqualSigns

/-- Whether a directive is for an event. -/
def covers (directive : Directive) (event : Event) : Bool :=
  (directive.target.all fun start => start.toList.isPrefixOf event.target.toList) &&
    directive.detail.all event.names.contains

/-- How specific the target of a directive is. -/
def reach (directive : Directive) : Nat :=
  match directive.target with
  | none => 0
  | some start => start.utf8ByteSize + 1

/-- Whether the detail of a directive is as specific as that of another, or more. -/
def detailAtLeast (directive other : Directive) : Bool :=
  match directive.detail, other.detail with
  | _, none => true
  | none, some _ => false
  | some name, some otherName => otherName ≤ name

/-- Whether a directive decides before another that covers the same event and is
written earlier. -/
def overrules (directive other : Directive) : Bool :=
  other.reach < directive.reach ||
    (other.reach = directive.reach && directive.detailAtLeast other)

end Directive

end ExchangeWallet.Log
