import ExchangeWallet.Log.Filter
import ExchangeWallet.Session
/-!
# Rehearsing a session

The program runs a session without a network. The credentials and the other
settings come from the environment of the process, and the replies of the server
from standard input, one to a line: the status, a space, and the body. A trust bundle
that is named is looked at. The log goes to standard output and the final complaint to
standard error.
-/
open ExchangeWallet

/-- The environment of the process, as far as a session looks at it. -/
def processEnvironment : IO Settings.Environment := do
  let names :=
    [Settings.Credential.key.variableName, Settings.Credential.secret.variableName,
      Settings.urlVariable, Settings.bundleVariable, Log.Filter.variableName]
  names.foldlM (fun environment name => do
    match ← IO.getEnv name with
    | some value => return environment.set name value.toUTF8
    | none => return environment) Settings.Environment.empty

/-- The files that a session looks at: only the trust bundle. -/
def readFiles (environment : Settings.Environment) : IO Trust.Files := do
  let path := (environment.text? Settings.bundleVariable).getD ""
  try
    let bundle ← IO.FS.readBinFile path
    return fun _ => .ok bundle.data.toList
  catch error => return fun _ => .error ⟨toString error⟩

/-- The reply that a line holds. -/
def replyOfLine (line : String) : Http.RawReply :=
  let (status, body) := line.toList.span Char.isDigit
  ⟨(Numeral.natural? status).getD 0, Text.bytes (String.ofList (body.drop 1))⟩

/-- The lines of standard input, up to the first empty one. -/
partial def readReplies (input : IO.FS.Stream) : IO (List Http.RawReply) := do
  let line ← input.getLine
  if line.trimAscii.isEmpty then return []
  return replyOfLine line :: (← readReplies input)

/-- Runs a session and reports it. -/
def main : IO UInt32 := do
  let environment ← processEnvironment
  let (filter, warning) := Log.Filter.ofEnvironment environment
  IO.eprint warning
  let surroundings : Surroundings :=
    { environment := environment
      keychain := Settings.Keychain.empty
      files := ← readFiles environment
      builds := fun _ => true
      source := ⟨Signing.Clock.epoch, 0⟩ }
  let replies ← readReplies (← IO.getStdin)
  let report := Session.run surroundings fun number => Http.prepared replies[number]?
  for event in report.events do
    if filter.shows event then IO.println event.line
  IO.eprint report.complaint
  return UInt32.ofNat report.exitCode
