import ExchangeWallet.Text.Quoted
import ExchangeWallet.Text.Utf8
import ExchangeWallet.Trust.Base64
/-!
# PEM sections

A file is read line by line, a line ending behind a line feed or a carriage
return. A section opens with a line `-----BEGIN label-----` and closes with a line
that starts with `-----END label-----` for the same label. Lines outside sections
do not matter, and neither does what follows the closing marker on its line.

The lines between are the section's text. A section of a known label has to be
base64; one of another label is passed over unread. A line that opens a section
inside another one changes the label and keeps the text. A file may not end inside
a section.
-/
namespace ExchangeWallet.Trust.Pem

/-- The kinds of sections that are decoded. -/
inductive Kind where
  | certificate
  | publicKey
  | rsaPrivateKey
  | privateKey
  | ecPrivateKey
  | revocationList
  | certificateRequest
  | encryptedHelloConfiguration
deriving DecidableEq

namespace Kind

/-- The label of a kind. -/
def label : Kind → String
  | certificate => "CERTIFICATE"
  | publicKey => "PUBLIC KEY"
  | rsaPrivateKey => "RSA PRIVATE KEY"
  | privateKey => "PRIVATE KEY"
  | ecPrivateKey => "EC PRIVATE KEY"
  | revocationList => "X509 CRL"
  | certificateRequest => "CERTIFICATE REQUEST"
  | encryptedHelloConfiguration => "ECHCONFIG"

/-- Every kind. -/
def all : List Kind :=
  [certificate, publicKey, rsaPrivateKey, privateKey, ecPrivateKey, revocationList,
    certificateRequest, encryptedHelloConfiguration]

/-- The kind of a label, if it is known. -/
def ofLabel? (label : List UInt8) : Option Kind :=
  all.find? fun kind => Text.bytes kind.label == label

end Kind

/-- A decoded section. -/
structure Section where
  kind : Kind
  contents : List UInt8

/-- Why a file cannot be read as sections. -/
inductive Fault where
  | illegalStart (line : List UInt8)
  | missingEnd (label : List UInt8)
  | body (fault : Base64.Fault)
deriving DecidableEq

/-- The wording of a fault. -/
def Fault.message : Fault → String
  | illegalStart line =>
    s!"illegal section start: {Text.inspect (Text.ofBytesLenient line)}"
  | missingEnd label =>
    s!"section end {Text.inspect (Text.ofBytesLenient label)} missing"
  | body fault => fault.message

/-- Whether a byte ends a line. -/
def isLineEnd (byte : UInt8) : Bool :=
  byte == 0x0A || byte == 0x0D

/-- The lines of a file, each with the byte that ends it. -/
def lines : List UInt8 → List (List UInt8)
  | [] => []
  | byte :: rest =>
    if isLineEnd byte then [byte] :: lines rest
    else match lines rest with
      | [] => [[byte]]
      | line :: others => (byte :: line) :: others

/-- The dash. -/
def dash : UInt8 :=
  0x2D

/-- What a line that opens a section starts with. -/
def openingMark : List UInt8 :=
  Text.bytes "-----BEGIN "

/-- What a line that closes a section starts with. -/
def closingMark (label : List UInt8) : List UInt8 :=
  Text.bytes "-----END " ++ label ++ List.replicate 5 dash

/-- Whether a byte may stand between and behind the last dashes of a line that
opens a section. -/
def isFiller (byte : UInt8) : Bool :=
  byte == 0x20 || isLineEnd byte

/-- The label in a line behind its opening mark. The line has to end with exactly
five dashes, not counting fillers; what precedes the first of them is the label. -/
def openedLabel? (behindMark : List UInt8) : Option (List UInt8) :=
  let ending := behindMark.reverse.takeWhile fun byte => byte == dash || isFiller byte
  let dashes := ending.reverse.dropWhile isFiller
  if ending.count dash = 5 then some (behindMark.take (behindMark.length - dashes.length))
  else none

/-- A section that has been opened. -/
structure Opened where
  label : List UInt8
  text : List UInt8

/-- The sections in lines, behind a section that may be open. -/
def sectionsBehind (opened : Option Opened) : List (List UInt8) → Except Fault (List Section)
  | [] =>
    match opened with
    | none => .ok []
    | some opened => .error (.missingEnd opened.label)
  | line :: rest =>
    if openingMark.isPrefixOf line then
      match openedLabel? (line.drop openingMark.length) with
      | none => .error (.illegalStart line)
      | some label => sectionsBehind (some ⟨label, (opened.map Opened.text).getD []⟩) rest
    else match opened with
      | none => sectionsBehind none rest
      | some opened =>
        if (closingMark opened.label).isPrefixOf line then
          match Kind.ofLabel? opened.label with
          | none => sectionsBehind none rest
          | some kind => do
            let contents ← (Base64.decode opened.text).mapError Fault.body
            return ⟨kind, contents⟩ :: (← sectionsBehind none rest)
        else sectionsBehind (some ⟨opened.label, opened.text ++ line⟩) rest

/-- The decoded sections of a file, in order. -/
def sections (file : List UInt8) : Except Fault (List Section) :=
  sectionsBehind none (lines file)

end ExchangeWallet.Trust.Pem
