import LoginLoad.Flight
import LoginLoad.Json.Value
import LoginLoad.Proofs.Encoding

/-! # The body of a login request

The body is one JSON object with two members.  A reader of JSON finds the user name and the password
in it, whatever characters they have: what is written inside the quotes never has a bare quote or a
backslash that is not the beginning of an escape, so a string ends where it was meant to end
(`Json.string?_quote`), and what follows it is the next part of the object.

So two bodies have the same text only if they carry the same credentials, the bytes of the text hold
no control character, and it is this text that is sent, whatever the URL (`body_read_back`). -/

namespace LoginLoad
namespace Json

/-! ### Strings -/

/-- What an escaped character is read as: itself, or a unit where it is written in hexadecimal. -/
def pieceOf (c : Char) : Piece :=
  if (shortEscape? c).isNone && c.toNat < 0x20 then .unit c.toNat else .char c

theorem unescape?_shortEscape {c e : Char} (h : shortEscape? c = some e) :
    unescape? e = some c ∧ e ≠ 'u' := by
  unfold shortEscape? at h
  repeat' split at h
  all_goals cases h
  all_goals subst_vars
  all_goals decide

theorem not_escaped {c : Char} (h : shortEscape? c = none) : c ≠ '"' ∧ c ≠ '\\' := by
  constructor
  · rintro rfl
    cases h
  · rintro rfl
    cases h

/-- A control character is read back from its hexadecimal digits. -/
theorem hexUnit?_digitChar : ∀ n < 0x20,
    hexUnit? '0' '0' (Nat.digitChar (n / 16)) (Nat.digitChar (n % 16)) = some n := by
  decide

theorem pieces?_unit (a b c d : Char) (rest : List Char) :
    pieces? ('\\' :: 'u' :: a :: b :: c :: d :: rest) =
      (hexUnit? a b c d).bind fun value =>
        (pieces? rest).map fun (ps, rest) => (.unit value :: ps, rest) := by
  rw [pieces?]
  cases hexUnit? a b c d <;> cases pieces? rest <;> rfl

theorem pieces?_short {e : Char} (he : e ≠ 'u') (rest : List Char) :
    pieces? ('\\' :: e :: rest) =
      (unescape? e).bind fun c => (pieces? rest).map fun (ps, rest) => (.char c :: ps, rest) := by
  rw [pieces?]
  · cases unescape? e <;> cases pieces? rest <;> rfl
  · exact fun _ _ _ _ _ h => absurd h he

theorem pieces?_plain {c : Char} (hc : c ≠ '"' ∧ c ≠ '\\') (h : ¬ c.toNat < 0x20)
    (rest : List Char) :
    pieces? (c :: rest) = (pieces? rest).map fun (ps, rest) => (.char c :: ps, rest) := by
  rw [pieces?, if_neg (not_or.mpr ⟨hc.2, h⟩)]
  · cases pieces? rest <;> rfl
  · exact hc.1
  · exact fun _ _ _ _ _ hb => absurd hb hc.2
  · exact fun _ _ hb => absurd hb hc.2

/-- An escaped character is one piece, wherever it stands. -/
theorem pieces?_escape (c : Char) (rest : List Char) :
    pieces? (escape c ++ rest) = (pieces? rest).map fun (ps, rest) => (pieceOf c :: ps, rest) := by
  unfold escape pieceOf
  cases hs : shortEscape? c with
  | some e =>
      obtain ⟨hun, hne⟩ := unescape?_shortEscape hs
      simp only [List.cons_append, List.nil_append]
      rw [pieces?_short hne, hun]
      rfl
  | none =>
      by_cases hc : c.toNat < 0x20
      · simp only [if_pos hc, List.cons_append, List.nil_append]
        rw [pieces?_unit, hexUnit?_digitChar _ hc]
        simp [hc]
      · simp only [if_neg hc, List.cons_append, List.nil_append]
        rw [pieces?_plain (not_escaped hs) hc]
        simp [hc]

/-- The pieces of an escaped text end at its closing quote. -/
theorem pieces?_flatMap_escape (cs rest : List Char) :
    pieces? (cs.flatMap escape ++ '"' :: rest) = some (cs.map pieceOf, rest) := by
  induction cs with
  | nil => rw [List.flatMap_nil, List.nil_append, pieces?, List.map_nil]
  | cons c cs ih =>
      rw [List.flatMap_cons, List.append_assoc, pieces?_escape, ih]
      rfl

/-- A unit that is no half of a surrogate pair is a character of its own. -/
theorem characters?_unit {value : Nat} (h : value < 0xD800) (ps : List Piece) :
    characters? (.unit value :: ps) = (characters? ps).map (Char.ofNat value :: ·) := by
  have hhigh : ¬ (0xD800 ≤ value ∧ value < 0xDC00) := by omega
  have hlow : ¬ (0xDC00 ≤ value ∧ value < 0xE000) := by omega
  have hany : ¬ (0xD800 ≤ value ∧ value < 0xE000) := by omega
  cases ps with
  | nil => simp only [characters?, if_neg hany]
  | cons p rest =>
      cases p with
      | char c => simp only [characters?, if_neg hany]
      | unit low => rw [characters?, if_neg hhigh, if_neg hlow]

theorem characters?_map_pieceOf (cs : List Char) : characters? (cs.map pieceOf) = some cs := by
  induction cs with
  | nil => rfl
  | cons c cs ih =>
      rw [List.map_cons, pieceOf]
      split
      · next h =>
          rw [Bool.and_eq_true, decide_eq_true_eq] at h
          rw [characters?_unit (by omega), ih, Char.ofNat_toNat]
          rfl
      · rw [characters?, ih]
        rfl

/-- A string is read as the text that was quoted, and ends at its closing quote. -/
theorem string?_quote (cs rest : List Char) :
    string? (cs.flatMap escape ++ '"' :: rest) = some (cs, rest) := by
  simp only [string?, pieces?_flatMap_escape, characters?_map_pieceOf, Option.bind_eq_bind,
    Option.bind_some, Option.pure_def]

theorem quote_append (cs rest : List Char) :
    quote cs ++ rest = '"' :: (cs.flatMap escape ++ '"' :: rest) := by
  simp [quote]

/-- What stands for a character has no control character. -/
theorem le_toNat_of_mem_escape {c d : Char} (h : d ∈ escape c) : 0x20 ≤ d.toNat := by
  have hdigit : ∀ n < 0x20, 0x20 ≤ (Nat.digitChar (n / 16)).toNat ∧
      0x20 ≤ (Nat.digitChar (n % 16)).toNat := by decide
  unfold escape at h
  split at h
  · next e he =>
      have hle : 0x20 ≤ e.toNat := by
        unfold shortEscape? at he
        repeat' split at he
        all_goals cases he
        all_goals decide
      simp only [List.mem_cons, List.not_mem_nil, or_false] at h
      rcases h with rfl | rfl
      · decide
      · exact hle
  · split at h
    · next hc =>
        simp only [List.mem_cons, List.not_mem_nil, or_false] at h
        rcases h with rfl | rfl | rfl | rfl | rfl | rfl
        · decide
        · decide
        · decide
        · decide
        · exact (hdigit _ hc).1
        · exact (hdigit _ hc).2
    · next hc =>
        rw [List.mem_singleton.mp h]
        omega

/-! ### Objects whose members are strings -/

theorem skip_cons {c : Char} (h : (c = ' ' || c = '\t' || c = '\n' || c = '\r') = false)
    (rest : List Char) : skip (c :: rest) = c :: rest :=
  List.dropWhile_cons_of_neg (by rw [h]; decide)

theorem skip_quote (cs rest : List Char) : skip (quote cs ++ rest) = quote cs ++ rest := by
  rw [quote_append, skip_cons (by decide)]

theorem memberName?_quote (name rest : List Char) :
    memberName? (quote name ++ ':' :: rest) = some (name, skip rest) := by
  rw [quote_append, memberName?, string?_quote, Option.bind_eq_bind, Option.bind_some]
  simp only [skip_cons (c := ':') (by decide)]

theorem value?_quote (fuel : Nat) (cs rest : List Char) :
    value? (fuel + 1) (quote cs ++ rest) = some (.string cs, rest) := by
  rw [quote_append, value?, string?_quote]
  rfl

/-- A member that another one follows. -/
theorem members?_next (fuel : Nat) (name text rest : List Char) :
    members? (fuel + 2) (quote name ++ ':' :: (quote text ++ ',' :: rest)) =
      (members? (fuel + 1) (skip rest)).map fun (ms, rest) =>
        ((name, .string text) :: ms, rest) := by
  rw [members?, memberName?_quote, skip_quote]
  simp only [Option.bind_eq_bind, Option.bind_some, value?_quote, skip_cons (c := ',') (by decide)]

/-- The last member. -/
theorem members?_last (fuel : Nat) (name text rest : List Char) :
    members? (fuel + 2) (quote name ++ ':' :: (quote text ++ '\x7d' :: rest)) =
      some ([(name, .string text)], rest) := by
  rw [members?, memberName?_quote, skip_quote]
  simp only [Option.bind_eq_bind, Option.bind_some, value?_quote, skip_cons (c := '\x7d') (by decide)]

/-- An object that has a member. -/
theorem value?_object (fuel : Nat) (name rest : List Char) :
    value? (fuel + 1) ('\x7b' :: (quote name ++ rest)) =
      (members? fuel (quote name ++ rest)).map fun (members, rest) => (.object members, rest) := by
  rw [value?, skip_quote, quote_append]
  rfl

end Json

/-! ### The body -/

namespace LoginBody

/-- The body is an object of two quoted strings. -/
theorem json_eq (b : LoginBody) : b.json = '\x7b' ::
    (Json.quote "username".toList ++ ':' :: (Json.quote b.username.toList ++ ',' ::
      (Json.quote "password".toList ++ ':' :: (Json.quote b.password.toList ++ ['\x7d'])))) := by
  have huser : "\x7b\"username\":".toList =
      '\x7b' :: (Json.quote "username".toList ++ [':']) := by decide +kernel
  have hpass : ",\"password\":".toList = ',' :: (Json.quote "password".toList ++ [':']) := by
    decide +kernel
  unfold json
  simp only [huser, hpass, List.cons_append, List.append_assoc, List.nil_append]

/-- A reader of JSON finds the credentials in the body, and nothing else. -/
theorem read?_json (b : LoginBody) : Json.read? b.json = some (.object
    [("username".toList, .string b.username.toList),
      ("password".toList, .string b.password.toList)]) := by
  obtain ⟨fuel, hfuel⟩ : ∃ fuel, b.json.length = fuel + 3 :=
    ⟨b.json.length - 3, by rw [json_eq]; simp [Json.quote]; omega⟩
  rw [Json.read?, hfuel, json_eq, Json.skip_cons (by decide), Json.value?_object,
    Json.members?_next, Json.skip_quote, Json.members?_last]
  rfl

/-- Two bodies have the same text only if they carry the same credentials. -/
theorem json_inj {b c : LoginBody} : b.json = c.json ↔ b = c := by
  constructor
  · intro h
    have hread := b.read?_json
    rw [h, c.read?_json] at hread
    simp only [Option.some.injEq, Json.Value.object.injEq, List.cons.injEq, Prod.mk.injEq,
      Json.Value.string.injEq, true_and, and_true, String.toList_inj] at hread
    cases b
    cases c
    simp_all
  · rintro rfl
    rfl

/-- No character of the body is a control character. -/
theorem le_toNat_of_mem_json {b : LoginBody} {c : Char} (h : c ∈ b.json) : 0x20 ≤ c.toNat := by
  have hquote (cs : List Char) : c ∈ Json.quote cs → 0x20 ≤ c.toNat := by
    intro hc
    simp only [Json.quote, List.mem_append, List.mem_cons, List.mem_flatMap, List.not_mem_nil,
      or_false] at hc
    rcases hc with (rfl | ⟨d, _, hd⟩) | rfl
    · decide
    · exact Json.le_toNat_of_mem_escape hd
    · decide
  rw [json_eq] at h
  simp only [List.mem_append, List.mem_cons, List.not_mem_nil, or_false] at h
  rcases h with rfl | h | rfl | h | rfl | h | rfl | h | rfl
  · decide
  · exact hquote _ h
  · decide
  · exact hquote _ h
  · decide
  · exact hquote _ h
  · decide
  · exact hquote _ h
  · decide

end LoginBody

/-- What a flight of a spec first sends is the text of the body. -/
theorem Flight.body_start {spec : RequestSpec} {f : Flight} (h : start spec = .ok f) :
    f.body = some (Utf8.encode spec.body.json) := by
  unfold start at h
  split at h
  · cases h
  · next url _ =>
      dsimp only at h
      split at h
      · cases h
      split at h
      · cases h
      · cases h
        rfl

/-- Take the body of any spec.  Read as JSON its text is an object with the members `username` and
`password`, in this order, and their values are the strings of the spec.  No byte of it is below
0x20.  It is what a flight of the spec sends.  And it is the same for another spec exactly if that
one has the same body, so it does not depend on the URL. -/
theorem RequestSpec.body_read_back (spec : RequestSpec) :
    Json.read? spec.body.json = some (.object
      [("username".toList, .string spec.body.username.toList),
        ("password".toList, .string spec.body.password.toList)]) ∧
      (∀ byte ∈ Utf8.encode spec.body.json, 0x20 ≤ byte) ∧
      (∀ f, Flight.start spec = .ok f → f.body = some (Utf8.encode spec.body.json)) ∧
      (∀ other : RequestSpec, spec.body.json = other.body.json ↔ spec.body = other.body) ∧
      ∀ url, { spec with url }.body.json = spec.body.json := by
  refine ⟨spec.body.read?_json, fun byte hbyte => ?_, fun _ => Flight.body_start,
    fun _ => LoginBody.json_inj, fun _ => rfl⟩
  rw [UInt8.le_iff_toNat_le]
  refine Nat.not_lt.mp fun hsmall => ?_
  have hsmall : byte.toNat < 0x20 := hsmall
  -- a byte that small would stand for a character of its own
  have hcount := List.count_pos_iff.mpr hbyte
  rw [Utf8.count_encode (by omega), List.countP_pos_iff] at hcount
  obtain ⟨c, hc, hn⟩ := hcount
  have hle := LoginBody.le_toNat_of_mem_json hc
  rw [of_decide_eq_true hn] at hle
  omega

example : ({} : RequestSpec).body.json =
    "\x7b\"username\":\"test1\",\"password\":\"test123\"\x7d".toList := by decide +kernel

end LoginLoad
