import LoginLoad.Text.Split

/-! # Tables of characters

What is known about characters is written as text: items with blanks between them, each a code point
or a range of code points in hexadecimal digits (`41`, `41-5A`).  A range may name every second
character only (`100-12E/2`), and an item may carry the codes that belong to its characters
(`E9=65.301`).  The items of a text stand in ascending order and do not overlap.

`CharTable.item?` finds the item of a character by halving the table. -/

namespace LoginLoad

/-- An item of a table. -/
structure CharTable.Item where
  first : Nat
  last : Nat
  /-- The distance between its characters. -/
  step : Nat
  /-- The codes that belong to them. -/
  codes : List Nat
deriving DecidableEq, Repr

/-- A table of characters, in ascending order. -/
structure CharTable where
  items : Array CharTable.Item

namespace CharTable

/-! ### Reading -/

/-- The value of a hexadecimal digit. -/
def digitValue (c : Char) : Nat :=
  if c.isDigit then c.toNat - '0'.toNat else c.toNat - 'A'.toNat + 10

/-- The value of hexadecimal digits. -/
def value (digits : List Char) : Nat := digits.foldl (fun n c => 16 * n + digitValue c) 0

/-- Reads one item. -/
def readItem (text : List Char) : Item :=
  let (span, codes) := text.span (· ≠ '=')
  let (range, step) := span.span (· ≠ '/')
  let (first, last) := range.span (· ≠ '-')
  { first := value first
    last := if last.isEmpty then value first else value (last.drop 1)
    step := if step.isEmpty then 1 else value (step.drop 1)
    codes := if codes.isEmpty then [] else (splitAt '.' (codes.drop 1)).map value }

/-- Reads a table. -/
def ofText (text : String) : CharTable :=
  let words := (splitWhere (fun c => c = ' ' || c = '\n') text.toList).filter fun w => !w.isEmpty
  ⟨(words.map readItem).toArray⟩

/-! ### Looking up -/

/-- The item that spans a code point, among those from the place `low` to before the place `high`. -/
def search (t : CharTable) (n low high : Nat) : Option Item :=
  if _h : low < high then
    let middle := (low + high) / 2
    match t.items[middle]? with
    | none => none
    | some item =>
      if n < item.first then search t n low middle
      else if item.last < n then search t n (middle + 1) high
      else some item
  else none
termination_by high - low

/-- The item of a character. -/
def item? (t : CharTable) (c : Char) : Option Item :=
  (t.search c.toNat 0 t.items.size).filter fun item => (c.toNat - item.first) % item.step = 0

/-- Whether a character is in a table. -/
def contains (t : CharTable) (c : Char) : Bool := (t.item? c).isSome

end CharTable
end LoginLoad
