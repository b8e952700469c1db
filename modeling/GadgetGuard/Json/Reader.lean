import GadgetGuard.Json5.Reader
import GadgetGuard.Text.Cut
/-!
# Reading JSON

JSON has the values of JSON5 without its freedoms: strings stand between double quotes, there
are no comments, and nothing follows the last comma. Whole numbers of sixty-four bits are
kept, with the exception of the negative zero, and all others are rounded to the nearest
binary number.
-/

namespace GadgetGuard

open GadgetGuard.Text GadgetGuard.Json5

namespace Json

/-- Reads a number. -/
def number? (text : List Char) : Option Json := do
  let (negative, digits) := match text with
    | '-' :: digits => (true, digits)
    | digits => (false, digits)
  let decimal ← DecimalText.of? digits
  if decimal.whole.isEmpty || decimal.fraction == some [] then none
  else if decimal.fraction.isSome || decimal.power.isSome then decimal.value? negative
  else
    let value := decimalValue decimal.whole
    if negative && 0 < value && value ≤ maxInteger + 1 then some (.integer (-value))
    else if !negative && value ≤ maxNatural then some (.integer value)
    else ({ decimal with fraction := some [] }).value? negative

/-- What stands before a place in a text. Unfinished tokens have their characters in
reverse. -/
inductive Lexer
  | between
  | string (parts : List Part)
  | escape (parts : List Part)
  | code (parts : List Part) (digits : List Char)
  | number (text : List Char)
  | word (text : List Char)
  deriving DecidableEq, Repr

namespace Lexer

/-- What a character starts between tokens, and the token that it is, if it is one. -/
def start? (c : Char) : Option (List Token × Lexer) :=
  if c = '"' then some ([], string [])
  else if isMark c then some ([.mark c], between)
  else if c.isDigit || c = '-' then some ([], number [c])
  else if c.isAlpha then some ([], word [c])
  else if c = ' ' || c = '\t' || c = '\n' || c = '\r' then some ([], between)
  else none

/-- The token that ends here, if one is open. -/
def finish? : Lexer → Option (List Token)
  | between => some []
  | number text => (Json.number? text.reverse).map fun value => [.number value]
  | word text => some [.name (String.ofList text.reverse) true]
  | _ => none

/-- Ends the token that is open before a character, and starts what the character starts. -/
def cut? (lexer : Lexer) (c : Char) : Option (List Token × Lexer) := do
  let ended ← lexer.finish?
  let (started, next) ← start? c
  return (ended ++ started, next)

def next? (lexer : Lexer) (c : Char) : Option (List Token × Lexer) :=
  match lexer with
  | string parts =>
    if c = '"' then do
      let text ← characters? parts.reverse
      return ([.text (String.ofList text)], between)
    else if c = '\\' then some ([], escape parts)
    else if c.toNat < 0x20 then none
    else some ([], string (.character c :: parts))
  | escape parts =>
    if c = 'u' then some ([], code parts [])
    else if "\"\\/bfnrt".toList.contains c then
      (escape? c).map fun escaped => ([], string (.character escaped :: parts))
    else none
  | code parts digits =>
    if digits.length < 3 then some ([], code parts (digits ++ [c]))
    else (numberOfDigits? 16 (digits ++ [c])).map fun value =>
      ([], string (.unit value :: parts))
  | number text =>
    if isNumberCharacter c then some ([], number (c :: text)) else cut? lexer c
  | word text => if c.isAlpha then some ([], word (c :: text)) else cut? lexer c
  | between => start? c

/-- The tokens of a text, after the ones that were read before, in reverse, and the one that
is open. -/
def tokens? (lexer : Lexer) (before : List Token) : List Char → Option (List Token)
  | [] => lexer.finish?.map fun last => before.reverse ++ last
  | c :: rest =>
    match lexer.next? c with
    | some (tokens, next) => tokens? next (tokens.reverse ++ before) rest
    | none => none

end Lexer

/-- Whether a token may follow another: a name is no key, and a comma is followed by more. -/
def mayFollow : Token → Token → Bool
  | .name _ _, .mark ':' | .mark ',', .mark ']' | .mark ',', .mark '\x7d' => false
  | _, _ => true

/-- Reads a JSON text. -/
def ofText? (text : List Char) : Option Json := do
  let tokens ← Lexer.between.tokens? [] text
  if !(tokens.zip tokens.tail).all fun (token, next) => mayFollow token next then none
  else
    let (value, rest) ← value? tokens
    if rest.1.isEmpty && tokens.all (! · matches .name "Infinity" _ | .name "NaN" _) then
      some value
    else none

end Json

end GadgetGuard
