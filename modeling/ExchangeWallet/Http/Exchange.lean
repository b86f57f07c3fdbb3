import ExchangeWallet.Reply
import ExchangeWallet.Service
/-!
# Exchanges over HTTP

To post a request is to hand it, as it was signed, to an HTTP library. What comes of it is
settled by the library and the servers: whether the URL and the headers can be used, who is
connected to, which redirects are followed, and as what text the bytes of a reply are read.
All of this is in the exchange, which gives the reply in the end, or none. Whatever is the
reason for having none, the executor fails to transport the request.

A prepared exchange is one with a server that gives the same reply to whatever arrives. A
request arrives there if its URL names a server and its headers hold no control character
other than the tab. There are no redirects, and what is no UTF-8 in the bytes of the reply
is replaced.
-/
namespace ExchangeWallet.Http

open Signing (Request)

/-- What comes of posting a request: the reply that the HTTP library gives in the end, or
none. -/
abbrev Exchange :=
  Request → Option Reply

/-- The executor that posts its requests. -/
def executor (exchange : Exchange) : Executor := fun request =>
  match exchange request with
  | some reply => reply.payload
  | none => .error .transport

/-- A reply as it comes over the wire. -/
structure RawReply where
  status : Nat
  body : List UInt8
deriving DecidableEq

/-- The reply with its body as a text. -/
def RawReply.decoded (reply : RawReply) : Reply :=
  ⟨reply.status, Text.ofBytesLenient reply.body⟩

/-- Whether a byte may stand in the value of a header. -/
def isHeaderByte (byte : UInt8) : Bool :=
  byte == 0x09 || (0x20 ≤ byte && byte != 0x7F)

/-- Whether a URL names a server that is spoken to over HTTP. -/
def isAbsolute (url : String) : Bool :=
  ["http://", "https://"].any fun scheme => scheme.toList.isPrefixOf (url.toList.map Char.toLower)

/-- Whether a request can be sent as it is. -/
def isSendable (request : Request) : Bool :=
  isAbsolute request.url &&
    request.headers.all fun header => (Text.bytes header.2).all isHeaderByte

/-- The exchange with a server that gives this reply, or none. -/
def prepared (reply : Option RawReply) : Exchange := fun request =>
  if isSendable request then reply.map RawReply.decoded else none

/-- The first line of a request to a server, which is named by the URL up to its
path. -/
def requestLine (server : String) (request : Request) : String :=
  "POST " ++ (request.url.drop server.length).toString ++ " HTTP/1.1"

/-- The headers of a request in the order of their names. -/
def sortedHeaders (request : Request) : List (String × String) :=
  request.headers.mergeSort fun left right => left.1 ≤ right.1

end ExchangeWallet.Http
