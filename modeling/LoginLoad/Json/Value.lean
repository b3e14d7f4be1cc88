import LoginLoad.Text.After

/-! # JSON values

The values that a JSON text can stand for, and the reading of a text by the grammar of JSON.

* The members of an object are kept in their order, repeated names included, and a number is kept as
  it is written.
* `Json.read?` accepts blanks around every token and nothing after the value.  In a string it refuses
  control characters, unknown escapes and halves of surrogate pairs. -/

namespace LoginLoad
namespace Json

/-- A JSON value. -/
inductive Value where
  | null
  | bool (value : Bool)
  | number (text : List Char)
  | string (text : List Char)
  | array (items : List Value)
  | object (members : List (List Char × Value))

/-! ### Strings -/

/-- The number that four hexadecimal digits stand for. -/
def hexUnit? (a b c d : Char) : Option Nat := do
  let digit (x : Char) : Option Nat :=
    if x.isDigit then some (x.toNat - '0'.toNat)
    else if 'a' ≤ x ∧ x ≤ 'f' then some (x.toNat - 'a'.toNat + 10)
    else if 'A' ≤ x ∧ x ≤ 'F' then some (x.toNat - 'A'.toNat + 10)
    else none
  return 16 * (16 * (16 * (← digit a) + (← digit b)) + (← digit c)) + (← digit d)

/-- The character that a short escape stands for. -/
def unescape? (c : Char) : Option Char :=
  match c with
  | '"' => some '"'
  | '\\' => some '\\'
  | '/' => some '/'
  | 'b' => some '\x08'
  | 'f' => some '\x0c'
  | 'n' => some '\n'
  | 'r' => some '\r'
  | 't' => some '\t'
  | _ => none

/-- What a string is written with: characters, and units of sixteen bits. -/
inductive Piece where
  | char (c : Char)
  | unit (value : Nat)
deriving DecidableEq, Repr

/-- Reads the rest of a string up to its closing quote: its pieces and what follows. -/
def pieces? : List Char → Option (List Piece × List Char)
  | [] => none
  | '"' :: rest => some ([], rest)
  | '\\' :: 'u' :: a :: b :: c :: d :: rest => do
    let value ← hexUnit? a b c d
    let (ps, rest) ← pieces? rest
    return (.unit value :: ps, rest)
  | '\\' :: e :: rest => do
    let c ← unescape? e
    let (ps, rest) ← pieces? rest
    return (.char c :: ps, rest)
  | c :: rest =>
    if c = '\\' ∨ c.toNat < 0x20 then none
    else do
      let (ps, rest) ← pieces? rest
      return (.char c :: ps, rest)

/-- The characters that pieces stand for; two units may form a surrogate pair. -/
def characters? : List Piece → Option (List Char)
  | [] => some []
  | .char c :: rest => (characters? rest).map (c :: ·)
  | .unit high :: .unit low :: rest =>
    if 0xD800 ≤ high ∧ high < 0xDC00 then
      if 0xDC00 ≤ low ∧ low < 0xE000 then
        (characters? rest).map
          (Char.ofNat (0x10000 + 0x400 * (high - 0xD800) + (low - 0xDC00)) :: ·)
      else none
    else if 0xDC00 ≤ high ∧ high < 0xE000 then none
    else (characters? (.unit low :: rest)).map (Char.ofNat high :: ·)
  | .unit value :: rest =>
    if 0xD800 ≤ value ∧ value < 0xE000 then none
    else (characters? rest).map (Char.ofNat value :: ·)

/-- Reads the rest of a string after its opening quote. -/
def string? (text : List Char) : Option (List Char × List Char) := do
  let (ps, rest) ← pieces? text
  return (← characters? ps, rest)

/-! ### Numbers -/

/-- Reads one or more digits. -/
def digits? (text : List Char) : Option (List Char × List Char) :=
  match text.span Char.isDigit with
  | ([], _) => none
  | found => some found

/-- Reads the digits before the point; they do not begin with a zero, unless it is the only one. -/
def whole? : List Char → Option (List Char × List Char)
  | '0' :: rest => some (['0'], rest)
  | text => digits? text

/-- Reads the point and the digits after it, if there is a point. -/
def fraction? : List Char → Option (List Char × List Char)
  | '.' :: rest => (digits? rest).map fun (ds, rest) => ('.' :: ds, rest)
  | text => some ([], text)

/-- Reads an exponent, if there is one. -/
def exponent? : List Char → Option (List Char × List Char)
  | [] => some ([], [])
  | e :: rest =>
    if e = 'e' ∨ e = 'E' then
      match rest with
      | [] => none
      | s :: more =>
        if s = '+' ∨ s = '-' then (digits? more).map fun (ds, rest) => (e :: s :: ds, rest)
        else (digits? rest).map fun (ds, rest) => (e :: ds, rest)
    else some ([], e :: rest)

/-- Reads a number without its sign. -/
def unsigned? (text : List Char) : Option (List Char × List Char) := do
  let (ws, rest) ← whole? text
  let (fs, rest) ← fraction? rest
  let (es, rest) ← exponent? rest
  return (ws ++ fs ++ es, rest)

/-- Reads a number. -/
def number? : List Char → Option (List Char × List Char)
  | '-' :: rest => (unsigned? rest).map fun (ds, rest) => ('-' :: ds, rest)
  | text => unsigned? text

/-! ### Values -/

/-- Drops the blanks at the front. -/
def skip (text : List Char) : List Char :=
  text.dropWhile fun c => c = ' ' || c = '\t' || c = '\n' || c = '\r'

/-- Reads a name, a colon and the blanks after it. -/
def memberName? : List Char → Option (List Char × List Char)
  | '"' :: rest => do
    let (name, rest) ← string? rest
    match skip rest with
    | ':' :: rest => some (name, skip rest)
    | _ => none
  | _ => none

mutual

/-- Reads a value; `fuel` bounds the number of values in it. -/
def value? : Nat → List Char → Option (Value × List Char)
  | 0, _ => none
  | fuel + 1, text =>
    match text with
    | '"' :: rest => (string? rest).map fun (cs, rest) => (.string cs, rest)
    | '[' :: rest =>
      match skip rest with
      | ']' :: rest => some (.array [], rest)
      | rest => (items? fuel rest).map fun (items, rest) => (.array items, rest)
    | '\x7b' :: rest =>
      match skip rest with
      | '\x7d' :: rest => some (.object [], rest)
      | rest => (members? fuel rest).map fun (members, rest) => (.object members, rest)
    | text =>
      match Text.after? "null".toList text with
      | some rest => some (.null, rest)
      | none =>
        match Text.after? "true".toList text with
        | some rest => some (.bool true, rest)
        | none =>
          match Text.after? "false".toList text with
          | some rest => some (.bool false, rest)
          | none => (number? text).map fun (ds, rest) => (.number ds, rest)

/-- Reads the items of an array and its closing bracket. -/
def items? : Nat → List Char → Option (List Value × List Char)
  | 0, _ => none
  | fuel + 1, text => do
    let (v, rest) ← value? fuel text
    match skip rest with
    | ',' :: rest => (items? fuel (skip rest)).map fun (vs, rest) => (v :: vs, rest)
    | ']' :: rest => some ([v], rest)
    | _ => none

/-- Reads the members of an object and its closing brace. -/
def members? : Nat → List Char → Option (List (List Char × Value) × List Char)
  | 0, _ => none
  | fuel + 1, text => do
    let (name, rest) ← memberName? text
    let (v, rest) ← value? fuel rest
    match skip rest with
    | ',' :: rest => (members? fuel (skip rest)).map fun (ms, rest) => ((name, v) :: ms, rest)
    | '\x7d' :: rest => some ([(name, v)], rest)
    | _ => none

end

/-- Reads a JSON text. -/
def read? (text : List Char) : Option Value := do
  let (v, rest) ← value? (text.length + 1) (skip text)
  if (skip rest).isEmpty then some v else none

end Json
end LoginLoad
