/-!
# Well-formed patterns

A pattern describes a set of texts: characters, classes of characters in brackets, alternatives,
groups in parentheses, and repetitions. Only whether a pattern is well formed matters here. Beyond
its form a pattern must not ask for what is not offered: back references, assertions about what
stands around, and classes or folding of letters that need tables of characters.

The lists that bound the recursion are as long as the pattern; each step takes at least one
character of it.
-/

namespace ScriptedFeed

namespace Pattern

/-- The value of some hexadecimal digits. -/
def hexValue? (digits : List Char) : Option Nat :=
  digits.foldlM (fun value digit =>
    if digit.isDigit then some (value * 16 + (digit.toNat - 0x30))
    else if 'a' ≤ digit ∧ digit ≤ 'f' then some (value * 16 + (digit.toNat - 0x61 + 10))
    else if 'A' ≤ digit ∧ digit ≤ 'F' then some (value * 16 + (digit.toNat - 0x41 + 10))
    else none) 0

/-- The character of a code point in so many hexadecimal digits, with what follows it. -/
def readCode? (length : Nat) (text : List Char) : Option (Char × List Char) :=
  if text.length < length then none
  else
    match hexValue? (text.take length) with
    | some code => if code.isValidChar then some (Char.ofNat code, text.drop length) else none
    | none => none

/-- An escape: a character, or the start or the end of the whole text. -/
inductive Escape where
  | character (character : Char)
  | edge
deriving DecidableEq, Repr

/-- Reads an escape, after its backslash; the escapes for classes are not offered. -/
def readEscape? (text : List Char) : Option (Escape × List Char) :=
  match text with
  | [] => none
  | 'x' :: rest => (readCode? 2 rest).map fun (character, rest) => (.character character, rest)
  | 'u' :: rest => (readCode? 4 rest).map fun (character, rest) => (.character character, rest)
  | 'U' :: rest => (readCode? 8 rest).map fun (character, rest) => (.character character, rest)
  | 'a' :: rest => some (.character '\x07', rest)
  | 'f' :: rest => some (.character '\x0c', rest)
  | 'n' :: rest => some (.character '\n', rest)
  | 'r' :: rest => some (.character '\r', rest)
  | 't' :: rest => some (.character '\t', rest)
  | 'v' :: rest => some (.character '\x0b', rest)
  | 'A' :: rest | 'z' :: rest => some (.edge, rest)
  | '<' :: _ | '>' :: _ => none
  | character :: rest =>
      if character.isAlphanum || 0x80 ≤ character.toNat then none
      else some (.character character, rest)

def readMember? (text : List Char) : Option (Char × List Char) :=
  match text with
  | [] => none
  | '\\' :: rest =>
      match readEscape? rest with
      | some (.character character, rest) => some (character, rest)
      | _ => none
  | character :: rest => some (character, rest)

/-- Reads a character of a class or a range of characters. -/
def readRange? (text : List Char) : Option (List Char) :=
  match readMember? text with
  | none => none
  | some (first, rest) =>
      match rest with
      | '-' :: ']' :: _ | '-' :: '-' :: _ => some rest
      | '-' :: after =>
          match readMember? after with
          | some (last, rest) => if first ≤ last then some rest else none
          | none => none
      | _ => some rest

def classNames : List String :=
  ["alnum", "alpha", "ascii", "blank", "cntrl", "digit", "graph", "lower", "print", "punct",
    "space", "upper", "word", "xdigit"]

/-- Passes over a named class inside a class, after its opening bracket. -/
def skipNamedClass? (text : List Char) : Option (List Char) :=
  match text with
  | ':' :: rest =>
      let rest := if rest.head? = some '^' then rest.drop 1 else rest
      let name := rest.takeWhile (· ≠ ':')
      match rest.drop name.length with
      | ':' :: ']' :: rest =>
          if classNames.contains (String.ofList name) then some rest else none
      | _ => none
  | _ => none

/-- Passes over what a class may start with: a circumflex, dashes, and a bracket that is one. -/
def skipClassStart (text : List Char) : List Char :=
  let text := if text.head? = some '^' then text.drop 1 else text
  let rest := text.dropWhile (· = '-')
  if rest.length = text.length ∧ text.head? = some ']' then text.drop 1 else rest

/-- Passes over classes that are open, given how many there are. -/
def skipClasses? : List Char → Nat → List Char → Option (List Char)
  | _, 0, text => some text
  | [], _ + 1, _ => none
  | _ :: fuel, depth + 1, text =>
      match text with
      | [] => none
      | ']' :: rest => skipClasses? fuel depth rest
      | '[' :: rest =>
          match skipNamedClass? rest with
          | some rest => skipClasses? fuel (depth + 1) rest
          | none => skipClasses? fuel (depth + 2) (skipClassStart rest)
      | '&' :: '&' :: rest | '-' :: '-' :: rest | '~' :: '~' :: rest =>
          skipClasses? fuel (depth + 1) rest
      | _ =>
          match readRange? text with
          | some rest => skipClasses? fuel (depth + 1) rest
          | none => none

/-- Whether a character may stand in the name of a group; a digit may not start it. -/
def isNameChar (isFirst : Bool) (character : Char) : Bool :=
  character = '_' || character.isAlpha ||
    (!isFirst && (character.isDigit || ".[]".toList.contains character))

/-- Passes over the name of a group and the bracket after it. -/
def skipName? (text : List Char) : Option (List Char) :=
  match text.takeWhile (· ≠ '>'), text.dropWhile (· ≠ '>') with
  | first :: others, _ :: rest =>
      if isNameChar true first && others.all (isNameChar false) then some rest else none
  | _, _ => none

/-- Whether some characters are flags of a group, each once; a dash turns those after it off. -/
def areFlags (text : List Char) : Bool :=
  let flags := text.filter (· ≠ '-')
  flags.all (fun flag => "msUuRx".toList.contains flag) && flags.eraseDups.length = flags.length &&
    text.length ≤ flags.length + 1 && text.getLast? ≠ some '-'

/-- What an opening parenthesis starts. -/
inductive Opening where
  /-- A group, with what follows its start. -/
  | group (rest : List Char)
  /-- Flags, with what follows their closing parenthesis. -/
  | flags (rest : List Char)
deriving DecidableEq, Repr

def readOpening? (text : List Char) : Option Opening :=
  match text with
  | '?' :: '=' :: _ | '?' :: '!' :: _ | '?' :: '<' :: '=' :: _ | '?' :: '<' :: '!' :: _ => none
  | '?' :: 'P' :: '<' :: rest | '?' :: '<' :: rest => (skipName? rest).map .group
  | '?' :: rest =>
      let flags := rest.takeWhile fun character => character ≠ ':' && character ≠ ')'
      if !areFlags flags then none
      else
        match rest.drop flags.length with
        | ':' :: rest => some (.group rest)
        | ')' :: rest => if flags.isEmpty then none else some (.flags rest)
        | _ => none
  | _ => some (.group text)

/--
Whether a text is the rest of a well-formed pattern, given how many groups are open and whether
there is something that can be repeated.
-/
def isRest : List Char → Nat → Bool → List Char → Bool
  | _, depth, _, [] => depth = 0
  | [], _, _, _ :: _ => false
  | _ :: fuel, depth, canRepeat, character :: rest =>
      match character with
      | '(' =>
          match readOpening? rest with
          | some (.group rest) => isRest fuel (depth + 1) false rest
          | some (.flags rest) => isRest fuel depth false rest
          | none => false
      | ')' => 0 < depth && isRest fuel (depth - 1) true rest
      | '|' => isRest fuel depth false rest
      | '[' =>
          match skipClasses? (character :: rest) 1 (skipClassStart rest) with
          | some rest => isRest fuel depth true rest
          | none => false
      | '?' | '*' | '+' =>
          let rest := if rest.head? = some '?' then rest.drop 1 else rest
          canRepeat && isRest fuel depth true rest
      | '\x7b' => false
      | '\\' =>
          match readEscape? rest with
          | some (_, rest) => isRest fuel depth true rest
          | none => false
      | _ => isRest fuel depth true rest

/--
Whether a text without closing braces is a well-formed pattern. There are no counted repetitions,
as these would need such a brace.
-/
def isWellFormed (text : List Char) : Bool :=
  isRest text 0 false text

end Pattern

end ScriptedFeed
