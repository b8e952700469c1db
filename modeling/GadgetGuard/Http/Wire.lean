import GadgetGuard.Server.Site
import GadgetGuard.Text.Cut
/-!
# Messages as bytes

A message is a first line and header fields, line by line up to an empty one, and then its
body. Every response ends its connection.
-/

namespace GadgetGuard

open GadgetGuard.Text

namespace Wire

/-- A line without its end, and what follows. A carriage return before the end is part of
it. -/
def cutLine? (bytes : Bytes) : Option (Bytes × Bytes) :=
  match bytes.dropWhile (· != 0x0A) with
  | [] => none
  | _ :: rest =>
    let line := bytes.takeWhile (· != 0x0A)
    some (if line.getLast? == some 0x0D then line.dropLast else line, rest)

theorem cutLine?_length {bytes line rest : Bytes} (h : cutLine? bytes = some (line, rest)) :
    rest.length < bytes.length := by
  have hlength := (List.dropWhile_sublist (· != 0x0A) (l := bytes)).length_le
  simp only [cutLine?] at h
  split at h
  · simp at h
  next heq =>
    simp only [Option.some.injEq, Prod.mk.injEq] at h
    rw [heq, List.length_cons] at hlength
    rw [← h.2]
    omega

/-- The text of bytes that are all ASCII. -/
def asciiText? (bytes : Bytes) : Option String :=
  if bytes.all (· < 0x80) then some (String.ofList (bytes.map fun byte => Char.ofNat byte.toNat))
  else none

def isPadding (byte : UInt8) : Bool :=
  byte == 0x20 || byte == 0x09

def trimmed (bytes : Bytes) : Bytes :=
  ((bytes.dropWhile isPadding).reverse.dropWhile isPadding).reverse

/-- Reads a header field. -/
def field? (line : Bytes) : Option (String × Bytes) :=
  match line.span (· != 0x3A) with
  | (name, _ :: value) => do
    let name ← Header.name? (← asciiText? name)
    return (name, ← Header.value? (trimmed value))
  | (_, []) => none

/-- Reads header fields up to an empty line, and returns what follows. -/
def fields? (bytes : Bytes) : Option (List (String × Bytes) × Bytes) :=
  match _h : cutLine? bytes with
  | none => none
  | some ([], rest) => some ([], rest)
  | some (line, rest) => do
    let field ← field? line
    let (fields, after) ← fields? rest
    return (field :: fields, after)
termination_by bytes.length
decreasing_by exact cutLine?_length _h

/-- Whether the head of a message is there in full. -/
def hasHead : Bytes → Bool
  | 0x0D :: 0x0A :: 0x0D :: 0x0A :: _ => true
  | 0x0A :: 0x0A :: _ => true
  | _ :: rest => hasHead rest
  | [] => false

/-- Reads the head of a request. -/
def request? (bytes : Bytes) : Option SiteRequest := do
  let (line, rest) ← cutLine? bytes
  let (fields, _) ← fields? rest
  match (splitAt (· == ' ') (← decodeUtf8? line)).map String.ofList with
  | [method, target, "HTTP/1.1"] | [method, target, "HTTP/1.0"] =>
    SiteRequest.of? method target ⟨fields⟩
  | _ => none

def fieldLine (name : String) (value : Bytes) : Bytes :=
  Header.asciiValue (name ++ ": ") ++ value ++ [0x0D, 0x0A]

/-- Writes the head of a message. -/
def head (line : String) (headers : Headers) : Bytes :=
  Header.asciiValue line ++ [0x0D, 0x0A] ++
    headers.fields.flatMap (fun (name, value) => fieldLine name value) ++ [0x0D, 0x0A]

/-- Whether a response with this status has no body, and so no length. -/
def isBodiless (status : Nat) : Bool :=
  status < 200 || status == 204 || status == 304

/-- Writes a response. -/
def response (response : Response) (now : Int) : Bytes :=
  let headers := (response.headers.insertIfNew "date" (Header.asciiValue (HttpDate.toString now)))
    |>.insert "connection" (Header.asciiValue "close")
  let line := "HTTP/1.1 " ++ Nat.repr response.status ++ " "
  if isBodiless response.status then head line (headers.erase "content-length")
  else head line headers ++ response.body

end Wire

end GadgetGuard
