import LoginLoad.Text.Composed
import LoginLoad.Text.Split
import LoginLoad.Text.Utf8
import LoginLoad.Url.Domain.Direction
import LoginLoad.Url.Domain.Joining
import LoginLoad.Url.Domain.Mapping
import LoginLoad.Url.Punycode

/-! # Domain names

The ASCII form of a domain name.  Each character is replaced by what it stands for, the result is
composed, and a label that then holds characters beyond ASCII is written in Punycode after `xn--`.

`Domain.toAscii?` refuses bytes that are not UTF-8, characters that no name may hold, ASCII
characters with a meaning of their own in a URL, labels that begin with a mark, joiners without
effect, labels of mixed direction, and labels in Punycode that are not the written form of a label
that may stand in a name. -/

namespace LoginLoad
namespace Domain

/-- Whether an ASCII character may not stand in a name. -/
def isForbidden (c : Char) : Bool :=
  c.toNat ≤ 0x20 || c.toNat = 0x7F || "%#/:<>?@[\\]^|".toList.contains c

/-- Whether a text is ASCII. -/
def isAscii (text : List Char) : Bool := text.all (·.toNat < 0x80)

/-- The longest label that is written in Punycode. -/
def maxEncoded : Nat := 1000

/-- The longest text in Punycode that is read. -/
def maxDecoded : Nat := 2000

/-- Whether a label with characters beyond ASCII may stand in a name, its characters being
replaced and composed. -/
def isValidLabel (label : List Char) : Bool :=
  !label.any isForbidden && !label.head?.any Combining.isMark && joinersFit [] label &&
    label.length ≤ maxEncoded

/-- Whether the characters of a label stand for themselves and are composed. -/
def isSettled (label : List Char) : Bool :=
  label.all (fun c => image? c = some [c]) && Composed.ofText label = label

/-- A label of a name in its two forms. -/
structure Label where
  text : List Char
  ascii : List Char

/-- The label of a text whose characters are replaced and composed. -/
def label? (text : List Char) : Option Label :=
  match text with
  | 'x' :: 'n' :: '-' :: '-' :: encoded => do
    if maxDecoded < encoded.length then none
    let decoded ← Punycode.decode? encoded
    if !isAscii decoded && isSettled decoded && isValidLabel decoded &&
        Punycode.encode decoded = encoded then
      some ⟨decoded, text⟩
    else none
  | _ =>
    if isAscii text then (if text.any isForbidden then none else some ⟨text, text⟩)
    else if isValidLabel text then some ⟨text, "xn--".toList ++ Punycode.encode text⟩
    else none

/-- The labels of a name. -/
def labels? (name : List Char) : Option (List Label) := do
  let images ← images? name
  (splitAt '.' (Composed.ofText images)).mapM label?

/-- Whether the labels of a name can be told apart: if one of them is written from the right, each
keeps to one direction. -/
def areReadable (labels : List Label) : Bool :=
  !(labels.any fun l => l.text.any isFromRight) || labels.all fun l => keepsDirection l.text

/-- The ASCII form of a name. -/
def toAscii? (bytes : List UInt8) : Option (List Char) := do
  let name ← Utf8.decode? bytes
  let labels ← labels? name
  if areReadable labels then some (['.'].intercalate (labels.map Label.ascii)) else none

end Domain
end LoginLoad
