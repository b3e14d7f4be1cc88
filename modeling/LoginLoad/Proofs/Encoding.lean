import LoginLoad.Text.Utf8

/-! # Reading back what is written in UTF-8

The bytes of a list of characters are read back as these characters (`Utf8.decode?_encode`), so no
two lists have the same bytes (`Utf8.encode_injective`).

A byte below 0x80 is never a part of a longer character: it occurs in a text as often as the
character with its number does (`Utf8.count_encode`), and it stands at the beginning only where this
character does (`Utf8.head?_encode`). -/

namespace LoginLoad
namespace Utf8

/-! ### The first byte of a character -/

section lead
variable {b : UInt8}

theorem lead_two (h : 0xC2 ≤ b.toNat ∧ b.toNat ≤ 0xDF) :
    lead b = some ⟨b.toNat - 0xC0, 0x80, 0xBF, 1⟩ := by
  simp only [lead, UInt8.le_iff_toNat_le, UInt8.reduceToNat, if_pos h]

/-- After 0xE0 no overlong form may follow, and after 0xED no surrogate. -/
theorem lead_three (h : 0xE0 ≤ b.toNat ∧ b.toNat ≤ 0xEF) :
    lead b = some ⟨b.toNat - 0xE0, if b.toNat = 0xE0 then 0xA0 else 0x80,
      if b.toNat = 0xED then 0x9F else 0xBF, 2⟩ := by
  simp only [lead, UInt8.le_iff_toNat_le, ← UInt8.toNat_inj, UInt8.reduceToNat]
  rw [if_neg (by omega)]
  split
  · simp_all
  · split
    · simp_all
    · rw [if_pos (by omega)]

/-- After 0xF0 no overlong form may follow, and after 0xF4 nothing beyond U+10FFFF. -/
theorem lead_four (h : 0xF0 ≤ b.toNat ∧ b.toNat ≤ 0xF4) :
    lead b = some ⟨b.toNat - 0xF0, if b.toNat = 0xF0 then 0x90 else 0x80,
      if b.toNat = 0xF4 then 0x8F else 0xBF, 3⟩ := by
  simp only [lead, UInt8.le_iff_toNat_le, ← UInt8.toNat_inj, UInt8.reduceToNat]
  rw [if_neg (by omega), if_neg (by omega), if_neg (by omega), if_neg (by omega)]
  split
  · simp_all
  · split
    · rw [if_neg (by omega)]
    · simp_all
      omega

end lead

/-! ### One character -/

theorem follow_cons {n acc : Nat} {low high b : UInt8} {rest : List UInt8}
    (h : low.toNat ≤ b.toNat ∧ b.toNat ≤ high.toNat) :
    follow (n + 1) acc low high (b :: rest) =
      follow n (64 * acc + b.toNat % 64) 0x80 0xBF rest := by
  rw [follow, if_pos (by simpa only [UInt8.le_iff_toNat_le] using h)]

theorem toNat_ofNat_of_lt {n : Nat} (h : n < 256) : (UInt8.ofNat n).toNat = n :=
  UInt8.toNat_ofNat_of_lt' h

theorem decode_cons_of_lead {b : UInt8} {l : Lead} {rest left : List UInt8} {v : Nat}
    (hb : 0x80 ≤ b.toNat) (hl : lead b = some l)
    (hf : follow l.count l.payload l.low l.high rest = (some v, left)) :
    decode (b :: rest) = some (Char.ofNat v) :: decode left := by
  rw [decode, if_neg (by rw [UInt8.lt_iff_toNat_lt]; exact Nat.not_lt.mpr hb), hl]
  simp only [hf, Option.map_some]

/-- A character is read back from its bytes. -/
theorem decode_utf8EncodeChar_append (c : Char) (rest : List UInt8) :
    decode (String.utf8EncodeChar c ++ rest) = some c :: decode rest := by
  have hvalid : c.toNat < 0xD800 ∨ 0xDFFF < c.toNat ∧ c.toNat < 0x110000 := c.valid
  have hc : Char.ofNat c.toNat = c := Char.ofNat_toNat c
  rw [String.utf8EncodeChar, show c.val.toNat = c.toNat from rfl]
  generalize c.toNat = v at hvalid hc
  have hlast : (UInt8.ofNat (v % 64 + 128)).toNat = v % 64 + 128 := toNat_ofNat_of_lt (by omega)
  have hthird : (UInt8.ofNat (v / 64 % 64 + 128)).toNat = v / 64 % 64 + 128 :=
    toNat_ofNat_of_lt (by omega)
  rw [← hc]
  split
  · -- one byte
    have h0 : (UInt8.ofNat v).toNat = v := toNat_ofNat_of_lt (by omega)
    rw [List.singleton_append, decode,
      if_pos (by rw [UInt8.lt_iff_toNat_lt, h0, show UInt8.toNat 0x80 = 128 from rfl]; omega), h0]
  split
  · -- two bytes
    have h0 : (UInt8.ofNat (v / 64 % 32 + 192)).toNat = v / 64 + 192 := by
      rw [toNat_ofNat_of_lt (by omega)]
      omega
    simp only [List.cons_append, List.nil_append]
    refine decode_cons_of_lead (by omega) (lead_two (by omega)) ?_
    rw [follow_cons (by simp only [UInt8.reduceToNat]; omega), follow, h0, hlast]
    dsimp only
    congr 2
    omega
  split
  · -- three bytes
    have h0 : (UInt8.ofNat (v / 4096 % 16 + 224)).toNat = v / 4096 + 224 := by
      rw [toNat_ofNat_of_lt (by omega)]
      omega
    simp only [List.cons_append, List.nil_append]
    refine decode_cons_of_lead (by omega) (lead_three (by omega)) ?_
    rw [follow_cons, follow_cons (by simp only [UInt8.reduceToNat]; omega), follow, h0, hthird,
      hlast]
    · dsimp only
      congr 2
      omega
    · rw [h0, hthird]
      dsimp only
      constructor <;> split <;> simp only [UInt8.reduceToNat] <;> omega
  · -- four bytes
    have h0 : (UInt8.ofNat (v / 262144 % 8 + 240)).toNat = v / 262144 + 240 := by
      rw [toNat_ofNat_of_lt (by omega)]
      omega
    have h1 : (UInt8.ofNat (v / 4096 % 64 + 128)).toNat = v / 4096 % 64 + 128 :=
      toNat_ofNat_of_lt (by omega)
    simp only [List.cons_append, List.nil_append]
    refine decode_cons_of_lead (by omega) (lead_four (by omega)) ?_
    rw [follow_cons, follow_cons (by simp only [UInt8.reduceToNat]; omega),
      follow_cons (by simp only [UInt8.reduceToNat]; omega), follow, h0, h1, hthird, hlast]
    · dsimp only
      congr 2
      omega
    · rw [h0, h1]
      dsimp only
      constructor <;> split <;> simp only [UInt8.reduceToNat] <;> omega

/-- A byte below 0x80 stands for the character with its number, and for nothing else. -/
theorem count_utf8EncodeChar {b : UInt8} (hb : b.toNat < 0x80) (c : Char) :
    (String.utf8EncodeChar c).count b = if c.toNat = b.toNat then 1 else 0 := by
  have hvalid : c.toNat < 0xD800 ∨ 0xDFFF < c.toNat ∧ c.toNat < 0x110000 := c.valid
  rw [String.utf8EncodeChar, show c.val.toNat = c.toNat from rfl]
  generalize c.toNat = v at hvalid
  by_cases hv : v ≤ 127
  · have h0 : (UInt8.ofNat v == b) = decide (v = b.toNat) := by
      rw [Bool.eq_iff_iff, beq_iff_eq, decide_eq_true_iff, ← UInt8.toNat_inj,
        toNat_ofNat_of_lt (by omega)]
    simp only [if_pos hv, List.count_singleton, h0, decide_eq_true_eq]
  · -- all bytes of a longer character are 0x80 or above
    have hne {n : Nat} (hn : 0x80 ≤ n ∧ n < 256) : b ≠ UInt8.ofNat n := by
      intro h
      rw [h, toNat_ofNat_of_lt hn.2] at hb
      omega
    rw [if_neg hv, if_neg (show ¬ v = b.toNat by omega), List.count_eq_zero]
    split
    · simp only [List.mem_cons, List.not_mem_nil, or_false, not_or]
      exact ⟨hne (by omega), hne (by omega)⟩
    split
    · simp only [List.mem_cons, List.not_mem_nil, or_false, not_or]
      exact ⟨hne (by omega), hne (by omega), hne (by omega)⟩
    · simp only [List.mem_cons, List.not_mem_nil, or_false, not_or]
      exact ⟨hne (by omega), hne (by omega), hne (by omega), hne (by omega)⟩

/-! ### Texts -/

theorem decode_encode (cs : List Char) : decode (encode cs) = cs.map some := by
  induction cs with
  | nil => rw [encode_nil, decode, List.map_nil]
  | cons c cs ih => rw [encode_cons, decode_utf8EncodeChar_append, ih, List.map_cons]

/-- The bytes of a text are read back as the text. -/
@[simp] theorem decode?_encode (cs : List Char) : decode? (encode cs) = some cs := by
  rw [decode?, decode_encode]
  induction cs with
  | nil => rfl
  | cons c cs ih => simp [ih]

theorem encode_injective {cs ds : List Char} (h : encode cs = encode ds) : cs = ds := by
  have h := congrArg decode? h
  rwa [decode?_encode, decode?_encode, Option.some.injEq] at h

/-- A byte below 0x80 occurs as often as the character with its number. -/
theorem count_encode {b : UInt8} (hb : b.toNat < 0x80) (cs : List Char) :
    (encode cs).count b = cs.countP (·.toNat = b.toNat) := by
  induction cs with
  | nil => rfl
  | cons c cs ih =>
      rw [encode_cons, List.count_append, count_utf8EncodeChar hb, ih, List.countP_cons, Nat.add_comm]
      simp only [decide_eq_true_eq]

/-- A byte below 0x80 stands in a text only for the character with its number. -/
theorem not_mem_encode {b : UInt8} (hb : b.toNat < 0x80) {cs : List Char}
    (h : Char.ofNat b.toNat ∉ cs) : b ∉ encode cs := by
  rw [← List.count_eq_zero, count_encode hb, List.countP_eq_zero]
  intro c hc hnat
  have heq : c.toNat = b.toNat := of_decide_eq_true hnat
  rw [← heq, Char.ofNat_toNat] at h
  exact h hc

/-- A text begins with a byte below 0x80 only if it begins with the character of its number. -/
theorem head?_encode {b : UInt8} (hb : b.toNat < 0x80) {cs : List Char}
    (h : (encode cs).head? = some b) : cs.head? = some (Char.ofNat b.toNat) := by
  obtain ⟨rest, hrest⟩ := List.head?_eq_some_iff.mp h
  have hlt : b < 0x80 := UInt8.lt_iff_toNat_lt.mpr hb
  have hdecode := congrArg decode hrest
  rw [decode_encode, decode, if_pos hlt] at hdecode
  cases cs with
  | nil => cases hdecode
  | cons c cs =>
      simp only [List.map_cons, List.cons.injEq, Option.some.injEq] at hdecode
      rw [List.head?_cons, hdecode.1]

end Utf8
end LoginLoad
