import GadgetGuard.Host.Punycode
import GadgetGuard.Text.Cut
import GadgetGuard.Text.Utf8
import GadgetGuard.Unicode.DomainMapping
import GadgetGuard.Unicode.Script
/-!
# Domain names

A domain name is brought into the form in which it is looked up: letters are folded,
characters with a plain equivalent are replaced by it, and a label that is left with
letters beyond ASCII is written in Punycode after `xn--`. Names that could not be told
apart or shown are refused.
-/

namespace GadgetGuard.Domain

open GadgetGuard.Text GadgetGuard.Unicode

def isAscii (text : List Char) : Bool :=
  text.all (·.toNat < 128)

/-- ASCII characters that may stand nowhere in a domain name. -/
def isForbidden (c : Char) : Bool :=
  c.toNat ≤ 0x20 || c.toNat == 0x7F || "%#/:<>?@[\\]^|".toList.contains c

/-- Folds letters and replaces characters by their plain equivalents. -/
def fold? (text : List Char) : Option (List Char) :=
  if isAscii text then some (text.map Char.toLower)
  else (text.mapM mapDomainCharacter).map fun parts => composed parts.flatten

def zeroWidthNonJoiner : Char := '\u200C'

def zeroWidthJoiner : Char := '\u200D'

/-- Whether letters around this place join through it: the nearest characters on either
side, marks aside, join toward it. -/
def joinsAcross (reversedBefore after : List Char) : Bool :=
  let nearest (text : List Char) := (text.dropWhile (inStretches transparentMarks)).head?
  let joinsLeft := match nearest reversedBefore with
    | some c => inStretches leftJoining c || inStretches dualJoining c
    | none => false
  let joinsRight := match nearest after with
    | some c => inStretches rightJoining c || inStretches dualJoining c
    | none => false
  joinsLeft && joinsRight

/-- Joiners are allowed after a virama; the non-joiner also where letters join across it. -/
def joinersAllowed : List Char → List Char → Bool
  | _, [] => true
  | reversedBefore, c :: after =>
    let afterVirama := match reversedBefore with
      | previous :: _ => isVirama previous
      | [] => false
    let allowed :=
      if c = zeroWidthJoiner then afterVirama
      else if c = zeroWidthNonJoiner then afterVirama || joinsAcross reversedBefore after
      else true
    allowed && joinersAllowed (c :: reversedBefore) after

/-- A label that has letters beyond ASCII starts with no mark and uses joiners only where
they matter. -/
def labelAllowed (label : List Char) : Bool :=
  !(match label with
    | c :: _ => isMark c
    | [] => false) && joinersAllowed [] label

/-- Longer labels are refused before they are written in Punycode. -/
def maxLetters : Nat := 1000

/-- Longer Punycode is refused before it is read. -/
def maxCode : Nat := 2000

/-- The letters of a label: those that its Punycode stands for, or its own. A Punycode
label stands for letters that need it and that are their own folded form. -/
def letters? (label : List Char) : Option (List Char) :=
  match stripStart? "xn--".toList label with
  | some code =>
    match if isAscii code && code.length ≤ maxCode then Punycode.decode? code else none with
    | some letters =>
      if !isAscii letters && code.getLast? != some '-' &&
          letters.all (fun c => mapDomainCharacter c == some [c]) &&
          composed letters == letters && labelAllowed letters then
        some letters
      else none
    | none => none
  | none =>
    if isAscii label || (label.length ≤ maxLetters && labelAllowed label) then some label
    else none

/-- The label as it is looked up. -/
def labelText (label : List Char) : List Char :=
  if isAscii label then label else "xn--".toList ++ Punycode.encode label

def hasRightToLeft (label : List Char) : Bool :=
  label.any fun c => match Direction.ofChar c with
    | .rightToLeft | .arabicNumber => true
    | _ => false

/-- In a name with right-to-left letters every label keeps one direction, so that it can
be shown without its neighbours. -/
def directionAllowed (label : List Char) : Bool :=
  let directions := label.map Direction.ofChar
  let ending := (directions.reverse.dropWhile (· == .mark)).head?
  match directions with
  | [] => true
  | .rightToLeft :: _ =>
    directions.all (· != .leftToRight) &&
      (ending == some .rightToLeft || ending == some .europeanNumber ||
        ending == some .arabicNumber) &&
      !(directions.contains .europeanNumber && directions.contains .arabicNumber)
  | .leftToRight :: _ =>
    directions.all (fun d => d != .rightToLeft && d != .arabicNumber) &&
      (ending == some .leftToRight || ending == some .europeanNumber)
  | _ => false

/-- The form of a name in which it is looked up, or `none` if the name is refused. -/
def toAscii? (bytes : Bytes) : Option (List Char) := do
  let text ← decodeUtf8? bytes
  let folded ← fold? text
  let labels := splitAt (· == '.') folded
  let letters ← labels.mapM letters?
  if letters.any (·.any isForbidden) then none
  else if letters.any hasRightToLeft && !letters.all directionAllowed then none
  else some (['.'].intercalate (labels.map labelText))

end GadgetGuard.Domain
