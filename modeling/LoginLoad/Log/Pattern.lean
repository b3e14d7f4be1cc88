import LoginLoad.Text.Alphanumeric
import LoginLoad.Text.CharTable

/-! # Patterns

A filter may ask for the value of a field.  The value is a number or else a pattern, and a filter with
a malformed pattern cannot be read.  `Pattern.isValue` says whether a text is well-formed.

As the text of a value ends at a comma or at a closing brace and an equals sign separates it from its
name, no pattern holds one of these; so a repetition with a count is never complete. -/

namespace LoginLoad
namespace Pattern

/-! ### Escapes -/

/-- What a backslash and the characters after it stand for. -/
inductive Escape where
  | literal (code : Nat)
  /-- A set of characters. -/
  | set
  /-- A place in a text. -/
  | place
deriving DecidableEq, Repr

/-- Reads hexadecimal digits that name a character. -/
def readHex? (count : Nat) (text : List Char) : Option (Escape × List Char) :=
  let digits := (text.take count).map Char.toUpper
  let n := CharTable.value digits
  if digits.length = count && digits.all (fun c => c.isDigit || 'A' ≤ c && c ≤ 'F') && n.isValidChar
  then some (.literal n, text.drop count)
  else none

/-- The letters of the general categories of characters. -/
def categories : List Char := ['L', 'M', 'N', 'P', 'S', 'Z', 'C']

/-- Reads what follows a backslash. -/
def readEscape? : List Char → Option (Escape × List Char)
  | [] => none
  | c :: rest =>
    match c with
    | 'x' => readHex? 2 rest
    | 'u' => readHex? 4 rest
    | 'U' => readHex? 8 rest
    | 'p' | 'P' =>
      match rest with
      | d :: rest => if categories.contains d.toUpper then some (.set, rest) else none
      | [] => none
    | 'd' | 'D' | 's' | 'S' | 'w' | 'W' => some (.set, rest)
    | 'A' | 'z' => some (.place, rest)
    | 'a' => some (.literal 0x07, rest)
    | 'f' => some (.literal 0x0C, rest)
    | 't' => some (.literal 0x09, rest)
    | 'n' => some (.literal 0x0A, rest)
    | 'r' => some (.literal 0x0D, rest)
    | 'v' => some (.literal 0x0B, rest)
    | c =>
      if c.toNat < 0x80 && !c.isAlphanum && c ≠ '<' && c ≠ '>' then some (.literal c.toNat, rest)
      else none

/-! ### Classes -/

/-- The named classes that may stand in a class. -/
def namedClasses : List String :=
  ["alnum", "alpha", "ascii", "blank", "cntrl", "digit", "graph", "lower", "print", "punct", "space",
   "upper", "word", "xdigit"]

/-- Reads a named class after its opening bracket. -/
def readNamed? (text : List Char) : Option (List Char) :=
  match text with
  | ':' :: rest =>
    let (name, after) := (if rest.head? = some '^' then rest.drop 1 else rest).span (· ≠ ':')
    match after with
    | ':' :: ']' :: after => if namedClasses.contains (String.ofList name) then some after else none
    | _ => none
  | _ => none

/-- Reads one member of a class. -/
def readMember? : List Char → Option (Escape × List Char)
  | [] => none
  | '\\' :: rest =>
    match readEscape? rest with
    | some (.place, _) => none
    | read => read
  | c :: rest => some (.literal c.toNat, rest)

/-- What follows the opening bracket of a class and the marks that may stand there. -/
def afterBracket (text : List Char) : List Char :=
  let text := if text.head? = some '^' then text.drop 1 else text
  let rest := text.dropWhile (· = '-')
  if rest.length = text.length && text.head? = some ']' then rest.drop 1 else rest

/-- Reads a member of a class, or a range of them. -/
def readRange? (text : List Char) : Option (List Char) := do
  let (low, rest) ← readMember? text
  match rest with
  | '-' :: d :: after =>
    if d = ']' || d = '-' then return rest
    let (high, rest) ← readMember? (d :: after)
    match low, high with
    | .literal m, .literal n => if m ≤ n then return rest else none
    | _, _ => none
  | _ => return rest

/-- Reads a class to its end, `nested` classes deep, in at most `fuel` pieces. -/
def readClass? (nested : Nat) (text : List Char) : (fuel : Nat) → Option (List Char)
  | 0 => none
  | fuel + 1 =>
    match text with
    | [] => none
    | '[' :: rest =>
      match readNamed? rest with
      | some after => readClass? nested after fuel
      | none => readClass? (nested + 1) (afterBracket rest) fuel
    | ']' :: rest => if nested = 0 then some rest else readClass? (nested - 1) rest fuel
    | '&' :: '&' :: rest | '-' :: '-' :: rest | '~' :: '~' :: rest => readClass? nested rest fuel
    | text => (readRange? text).bind fun rest => readClass? nested rest fuel

/-! ### Groups -/

/-- What an opening parenthesis begins. -/
inductive Opening where
  | group (name : Option (List Char))
  /-- Flags for what follows, and no group. -/
  | flags
deriving DecidableEq, Repr

/-- Reads the name of a group. -/
def readName? (text : List Char) : Option (Opening × List Char) :=
  let (name, rest) := text.span (· ≠ '>')
  match name, rest with
  | c :: others, _ :: rest =>
    if (c = '_' || Alphanumeric.isIn c && !c.isDigit) &&
        others.all fun c => c = '_' || c = '.' || c = '[' || c = ']' || Alphanumeric.isIn c then
      some (.group (some name), rest)
    else none
  | _, _ => none

/-- Reads flags, each at most once, and one sign that switches the flags after it off. -/
def readFlags? (text : List Char) : Option (Opening × List Char) :=
  let (flags, rest) := text.span fun c => c ≠ ':' && c ≠ ')'
  let isFine := flags.all ("imsUuxR-".toList.contains ·) && flags.eraseDups.length = flags.length &&
    flags.getLast? ≠ some '-'
  match rest with
  | ':' :: rest => if isFine then some (.group none, rest) else none
  | _ :: rest => if isFine && !flags.isEmpty then some (.flags, rest) else none
  | [] => none

/-- Reads what follows an opening parenthesis. -/
def readOpening? : List Char → Option (Opening × List Char)
  | '?' :: 'P' :: '<' :: rest => readName? rest
  | '?' :: '<' :: '!' :: _ => none
  | '?' :: '<' :: rest => readName? rest
  | '?' :: rest => readFlags? rest
  | rest => some (.group none, rest)

/-! ### Patterns -/

/-- How far a pattern has been read. -/
structure Scan where
  /-- The number of open groups. -/
  depth : Nat := 0
  /-- Whether something stands before that may be repeated. -/
  isRepeatable : Bool := false
  /-- The names of the groups. -/
  names : List (List Char) := []

/-- Reads one piece of a pattern. -/
def Scan.step? (s : Scan) : List Char → Option (Scan × List Char)
  | [] => none
  | '\\' :: rest => (readEscape? rest).map fun (_, rest) => ({ s with isRepeatable := true }, rest)
  | '[' :: rest =>
    (readClass? 0 (afterBracket rest) (rest.length + 1)).map fun rest =>
      ({ s with isRepeatable := true }, rest)
  | '(' :: rest =>
    match readOpening? rest with
    | some (.group (some name), rest) =>
      if s.names.contains name then none
      else some (⟨s.depth + 1, false, name :: s.names⟩, rest)
    | some (.group none, rest) => some ({ s with depth := s.depth + 1, isRepeatable := false }, rest)
    | some (.flags, rest) => some ({ s with isRepeatable := false }, rest)
    | none => none
  | ')' :: rest =>
    if s.depth = 0 then none else some ({ s with depth := s.depth - 1, isRepeatable := true }, rest)
  | '|' :: rest => some ({ s with isRepeatable := false }, rest)
  | '\x7b' :: _ => none
  | c :: rest =>
    if c = '*' || c = '+' || c = '?' then
      if s.isRepeatable then some (s, if rest.head? = some '?' then rest.drop 1 else rest) else none
    else some ({ s with isRepeatable := true }, rest)

/-- Whether a pattern is well-formed from a piece on, with at most `fuel` pieces. -/
def isValidFrom (s : Scan) (text : List Char) : (fuel : Nat) → Bool
  | 0 => false
  | fuel + 1 =>
    if text.isEmpty then s.depth = 0
    else
      match s.step? text with
      | some (s, rest) => isValidFrom s rest fuel
      | none => false

/-- Whether a pattern is well-formed. -/
def isValid (text : List Char) : Bool := isValidFrom {} text (text.length + 1)

/-! ### Values -/

/-- Whether a text without a sign is a number. -/
def isNumber (text : List Char) : Bool :=
  let small := String.ofList (text.map Char.toLower)
  let (whole, rest) := text.span Char.isDigit
  let (part, rest) := match rest with
    | '.' :: rest => rest.span Char.isDigit
    | rest => ([], rest)
  let isExponent : List Char → Bool
    | c :: rest =>
      let digits := match rest with
        | '+' :: digits | '-' :: digits => digits
        | digits => digits
      (c = 'e' || c = 'E') && !digits.isEmpty && digits.all Char.isDigit
    | [] => true
  small = "inf" || small = "infinity" || small = "nan" ||
    !(whole.isEmpty && part.isEmpty) && isExponent rest

/-- Whether a text is a value that a filter may ask for: numbers are read as such even where their
sign would spoil a pattern. -/
def isValue (text : List Char) : Bool :=
  match text with
  | '+' :: rest => isNumber rest
  | _ => isValid text

end Pattern
end LoginLoad
