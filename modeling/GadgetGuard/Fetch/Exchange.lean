import GadgetGuard.Encoding.Base64
import GadgetGuard.Encoding.Percent
import GadgetGuard.Fetch.Network
import GadgetGuard.Http.Wire
import GadgetGuard.Text.Cut
/-!
# Exchanges

A fetch writes a request to its connection and reads the response from the bytes that come
back. A body is as long as the response declares, or comes in chunks that state their sizes,
or ends with the connection.
-/

namespace GadgetGuard

open GadgetGuard.Text GadgetGuard.Encoding

namespace Exchange

/-- The host and the port that a request names. -/
def hostText (authority : Authority) : String :=
  Authority.toString { authority with username := "", password := none }

/-- The field for the credentials of a URL. -/
def credentials? (authority : Authority) : Option Bytes :=
  if authority.hasCredentials then
    let plain (text : String) := percentDecode (encodeUtf8 text.toList)
    let pair := plain authority.username ++ [0x3A] ++ plain (authority.password.getD "")
    some (Header.asciiValue ("Basic " ++ String.ofList (base64Encode pair)))
  else none

def headers (request : ResourceRequest) : Headers :=
  let authority := request.url.authority
  let host := Header.asciiValue ((authority.map hostText).getD "")
  let headers := (request.headers.insertIfNew "accept" (Header.asciiValue "*/*")).insertIfNew
    "host" host
  let headers := match authority.bind credentials? with
    | some value => headers.insertIfNew "authorization" value
    | none => headers
  headers.insert "connection" (Header.asciiValue "close")

def requestBytes (request : ResourceRequest) : Bytes :=
  let query := (request.url.query.map ("?" ++ ·)).getD ""
  Wire.head ("GET " ++ request.url.pathText ++ query ++ " HTTP/1.1") (headers request)

/-- Reads the status from the first line of a response. -/
def status? (line : Bytes) : Option Nat :=
  match line with
  | 0x48 :: 0x54 :: 0x54 :: 0x50 :: 0x2F :: 0x31 :: 0x2E :: _ :: 0x20 :: a :: b :: c :: _ =>
    digits? ([a, b, c].map fun byte => Char.ofNat byte.toNat)
  | _ => none

def endedEarly : String := "unexpected end of the connection"

/-- Reads chunks up to the empty one. -/
def chunks (bytes : Bytes) : BodyStream :=
  match _h : Wire.cutLine? bytes with
  | none => ⟨[], some endedEarly⟩
  | some (line, rest) =>
    let digits := (line.takeWhile fun byte => byte != 0x3B && !Wire.isPadding byte).map fun byte =>
      Char.ofNat byte.toNat
    match numberOfDigits? 16 digits with
    | none => ⟨[], some "invalid size of a chunk"⟩
    | some 0 => ⟨[], none⟩
    | some size =>
      let chunk := rest.take size
      if chunk.length < size then ⟨[chunk], some endedEarly⟩
      else
        let following := rest.drop size
        let after := if following.take 2 == [0x0D, 0x0A] then following.drop 2 else following
        let stream := chunks after
        { stream with chunks := chunk :: stream.chunks }
termination_by bytes.length
decreasing_by
  have := Wire.cutLine?_length _h
  split <;> simp <;> omega

/-- The length that a response declares for its body. -/
def declaredLength? (headers : Headers) : Option Nat :=
  (headers.text? "content-length").bind fun text => natural? maxNatural text.toList

def isChunked (headers : Headers) : Bool :=
  (headers.text? "transfer-encoding").any fun text => hasEnding "chunked" (lower text)

/-- Reads a response from all bytes that came back. -/
def incoming? (bytes : Bytes) : Option Incoming := do
  let (line, rest) ← Wire.cutLine? bytes
  let status ← status? line
  let (fields, rest) ← Wire.fields? rest
  let headers : Headers := ⟨fields⟩
  let (declaredSize, body) : Option Nat × BodyStream :=
    if Wire.isBodiless status then (none, ⟨[], none⟩)
    else if isChunked headers then (none, chunks rest)
    else match declaredLength? headers with
      | none => (none, ⟨[rest], none⟩)
      | some size =>
        (some size, ⟨[rest.take size], if rest.length < size then some endedEarly else none⟩)
  return { status, headers, declaredSize, body }

end Exchange

end GadgetGuard
