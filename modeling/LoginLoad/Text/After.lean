/-! # What follows a given beginning

`Text.after? front text` is the text after `front`, if `text` begins with it (`after?_eq_some_iff`). -/

namespace LoginLoad
namespace Text

/-- What follows `front` in a text that begins with it. -/
def after? : (front text : List Char) → Option (List Char)
  | [], text => some text
  | _ :: _, [] => none
  | c :: front, d :: text => if c = d then after? front text else none

theorem after?_eq_some_iff {front text rest : List Char} :
    after? front text = some rest ↔ text = front ++ rest := by
  fun_induction after? front text with
  | case1 => simp
  | case2 => simp
  | case3 front c text ih => simp [ih]
  | case4 c front d text h => simpa using fun e => absurd e.symm h

end Text
end LoginLoad
