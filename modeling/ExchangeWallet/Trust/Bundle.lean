import ExchangeWallet.Trust.Pem
/-!
# Trust bundles

A bundle is a file of certificates that replaces the default trust roots. It is
accepted when it can be read, all of it is well-formed, and it holds at least one
certificate. What a certificate says is not judged here.
-/
namespace ExchangeWallet.Trust

/-- Why a file cannot be read, in the words of the system. -/
structure ReadFault where
  message : String
deriving DecidableEq

/-- The files that can be looked at: the bytes of the file at a path, or why there
are none. -/
abbrev Files :=
  String → Except ReadFault (List UInt8)

/-- Why a bundle is refused. -/
inductive Fault where
  | unreadable (path : String) (fault : ReadFault)
  | malformed (fault : Pem.Fault)
  | noCertificates (path : String)
deriving DecidableEq

/-- The wording of a fault. -/
def Fault.message : Fault → String
  | unreadable path fault => s!"failed to read {path}: {fault.message}"
  | malformed fault => s!"failed to parse CA PEM: {fault.message}"
  | noCertificates path => s!"no certificates found in {path}"

/-- The certificates of the bundle at a path. -/
def certificates (files : Files) (path : String) : Except Fault (List (List UInt8)) := do
  let file ← (files path).mapError (.unreadable path)
  let sections ← (Pem.sections file).mapError .malformed
  let found := sections.filter fun part => part.kind = .certificate
  if found = [] then .error (.noCertificates path)
  else return found.map Pem.Section.contents

end ExchangeWallet.Trust
