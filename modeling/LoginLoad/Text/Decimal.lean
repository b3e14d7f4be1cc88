/-! # Decimal numbers

The digits of a number, and the reading of a number that has to fit in a machine word.

* `Decimal.digits n` is the shortest decimal text of `n`.  It holds digits only
  (`isDigit_of_mem_digits`) and determines `n` (`value_digits`).
* `Decimal.read` accepts an optional `+` and then one or more digits.  Every refusal names its
  cause (`Decimal.Fault`); of a bad digit and a value that is too large the one that comes first
  in the text is reported.  The digits of a number that fits are read as the number
  (`read_digits`). -/

namespace LoginLoad

/-- The largest number that fits in a machine word of 64 bits. -/
def wordMax : Nat := 0xFFFFFFFFFFFFFFFF

namespace Decimal

/-- The decimal digits of a number, without leading zeros. -/
def digits (n : Nat) : List Char := Nat.toDigits 10 n

theorem isDigit_of_mem_digits {n : Nat} {c : Char} (h : c ∈ digits n) : c.isDigit = true :=
  Nat.isDigit_of_mem_toDigits (b := 10) (by decide) (by decide) h

theorem digits_ne_nil (n : Nat) : digits n ≠ [] := Nat.toDigits_ne_nil

/-- The number that a list of digits stands for. -/
def value (ds : List Char) : Nat := Nat.ofDigitChars 10 ds 0

@[simp] theorem value_digits (n : Nat) : value (digits n) = n := Nat.ofDigitChars_ten_toDigits

theorem toList_toString (n : Nat) : (toString n).toList = digits n := by
  simp [digits]

/-- Why a text is not a number that fits in a word. -/
inductive Fault where
  | empty
  | badDigit
  | tooLarge
deriving DecidableEq, Repr

/-- The wording of a fault. -/
def Fault.message : Fault → String
  | .empty => "cannot parse integer from empty string"
  | .badDigit => "invalid digit found in string"
  | .tooLarge => "number too large to fit in target type"

/-- Reads digits from the left onto `acc`, the value of the digits read so far. -/
def readDigits (acc : Nat) : List Char → Except Fault Nat
  | [] => .ok acc
  | c :: rest =>
    if c.isDigit then
      let next := 10 * acc + (c.toNat - '0'.toNat)
      if next ≤ wordMax then readDigits next rest else .error .tooLarge
    else .error .badDigit

/-- Reads a number between 0 and `wordMax`. -/
def read : List Char → Except Fault Nat
  | [] => .error .empty
  | ['+'] => .error .badDigit
  | '+' :: rest => readDigits 0 rest
  | text => readDigits 0 text

/-- Digits only raise what was read before them. -/
theorem le_ofDigitChars (ds : List Char) (acc : Nat) : acc ≤ Nat.ofDigitChars 10 ds acc := by
  induction ds generalizing acc with
  | nil => exact Nat.le_refl _
  | cons d rest ih =>
    rw [Nat.ofDigitChars_cons]
    exact Nat.le_trans (by omega) (ih _)

theorem readDigits_eq_ok {ds : List Char} {acc : Nat} (hd : ∀ d ∈ ds, d.isDigit = true)
    (hle : Nat.ofDigitChars 10 ds acc ≤ wordMax) :
    readDigits acc ds = .ok (Nat.ofDigitChars 10 ds acc) := by
  induction ds generalizing acc with
  | nil => rfl
  | cons d rest ih =>
    rw [Nat.ofDigitChars_cons] at hle ⊢
    have hnext := Nat.le_trans (le_ofDigitChars rest _) hle
    rw [readDigits, if_pos (hd d List.mem_cons_self)]
    simp only [if_pos hnext]
    exact ih (fun d hd' => hd d (List.mem_cons_of_mem _ hd')) hle

/-- A number that fits in a word is read from its digits. -/
theorem read_digits {n : Nat} (h : n ≤ wordMax) : read (digits n) = .ok n := by
  have hdigits : ∀ d ∈ digits n, d.isDigit = true := fun _ => isDigit_of_mem_digits
  have hread : readDigits 0 (digits n) = .ok n := by
    have hv : Nat.ofDigitChars 10 (digits n) 0 = n := value_digits n
    rw [readDigits_eq_ok hdigits (by rw [hv]; exact h), hv]
  -- no sign stands before the digits
  unfold read
  split
  · next hnil => exact absurd hnil (digits_ne_nil n)
  · next heq =>
    rw [heq] at hdigits
    exact absurd (hdigits '+' List.mem_cons_self) (by decide)
  · next heq =>
    rw [heq] at hdigits
    exact absurd (hdigits '+' List.mem_cons_self) (by decide)
  · exact hread

end Decimal
end LoginLoad
