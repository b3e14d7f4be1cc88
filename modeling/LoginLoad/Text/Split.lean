/-! # Splitting texts

A text is split at its marks into the parts between them.  There is always one part more than there
are marks, and empty parts are kept. -/

namespace LoginLoad

/-- Splits a text at every mark. -/
def splitWhere (isMark : Char → Bool) (text : List Char) : List (List Char) :=
  text.foldr (fun c parts =>
    if isMark c then [] :: parts
    else match parts with
      | part :: rest => (c :: part) :: rest
      | [] => [[c]]) [[]]

/-- Splits a text at every occurrence of a character. -/
def splitAt (mark : Char) (text : List Char) : List (List Char) := splitWhere (· = mark) text

end LoginLoad
