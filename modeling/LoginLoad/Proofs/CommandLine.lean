import LoginLoad.CommandLine.Spelling
import LoginLoad.Program
import LoginLoad.Proofs.Encoding
import Mathlib.Data.List.TakeDrop

/-! # Every configuration can be asked for

The arguments in which settings are spelled are read as these settings, and it matters neither how
they are spelled nor in which order they stand.

* `Settings.setting?` is what settings say about a flag.  It determines them
  (`Settings.ext_setting?`), and a setting that is applied changes it for its own flag only
  (`Setting.setting?_apply`).  So settings of different flags may be applied in any order
  (`Settings.foldl_apply_of_perm`).
* `Reading.after` is a reader that has looked at certain settings.  The arguments of one more setting,
  in any of its spellings, take it to where it has that setting in hand
  (`Reading.Has.all_arguments`), and from one to the next to where it has all of them
  (`Reading.Has.all_spell`).

`order_spell` says which configuration such arguments ask for. -/

namespace LoginLoad
namespace CommandLine

/-! ### Settings by their flags -/

namespace Settings

/-- What settings say about a flag. -/
def setting? (s : Settings) : Flag → Option Setting
  | .url => s.url.map .url
  | .users => s.users.map .users
  | .requests => s.requests.map .requests
  | .username => s.username.map .username
  | .password => s.password.map .password
  | .timeoutSecs => s.timeoutSecs.map .timeoutSecs
  | .noProgress => if s.noProgress then some .noProgress else none
  | .help | .version => none

/-- The settings that were given, each once. -/
def given (s : Settings) : List Setting := Flag.settings.filterMap s.setting?

theorem flag_of_setting? {s : Settings} {f : Flag} {x : Setting} (h : s.setting? f = some x) :
    x.flag = f := by
  cases f with
  | help | version => cases h
  | noProgress =>
      simp only [setting?, Option.ite_none_right_eq_some] at h
      obtain ⟨-, h⟩ := h
      cases h
      rfl
  | _ =>
      obtain ⟨_, -, rfl⟩ := Option.map_eq_some_iff.mp h
      rfl

/-- Settings that say the same about every flag are the same. -/
theorem ext_setting? {s t : Settings} (h : ∀ f, s.setting? f = t.setting? f) : s = t := by
  have hinj {α : Type} {g : α → Setting} (hg : g.Injective) {o p : Option α}
      (hop : o.map g = p.map g) : o = p := Option.map_injective hg hop
  have hurl := hinj (fun _ _ => Setting.url.inj) (h .url)
  have husers := hinj (fun _ _ => Setting.users.inj) (h .users)
  have hrequests := hinj (fun _ _ => Setting.requests.inj) (h .requests)
  have husername := hinj (fun _ _ => Setting.username.inj) (h .username)
  have hpassword := hinj (fun _ _ => Setting.password.inj) (h .password)
  have htimeout := hinj (fun _ _ => Setting.timeoutSecs.inj) (h .timeoutSecs)
  have hprogress : s.noProgress = t.noProgress := by
    have hflag := congrArg Option.isSome (h .noProgress)
    simpa [setting?, apply_ite Option.isSome] using hflag
  cases s
  cases t
  simp_all

theorem mem_given {s : Settings} {x : Setting} :
    x ∈ s.given ↔ s.setting? x.flag = some x := by
  unfold given
  rw [List.mem_filterMap]
  constructor
  · rintro ⟨f, -, hf⟩
    rw [flag_of_setting? hf]
    exact hf
  · intro h
    refine ⟨x.flag, ?_, h⟩
    cases x <;> simp [Setting.flag, Flag.settings]

/-- No two of the settings that were given have the same flag. -/
theorem nodup_flag_given (s : Settings) : (s.given.map Setting.flag).Nodup := by
  have hflags : s.given.map Setting.flag = Flag.settings.filter fun f => (s.setting? f).isSome := by
    unfold given
    rw [List.map_filterMap, ← List.filterMap_eq_filter]
    congr 1
    funext f
    cases hf : s.setting? f with
    | none => simp [Option.guard, hf]
    | some x => simp [Option.guard, hf, flag_of_setting? hf]
  have hnodup : Flag.settings.Nodup := by decide
  rw [hflags]
  exact hnodup.filter _

end Settings

/-- A setting changes what is said about its own flag. -/
theorem Setting.setting?_apply (s : Settings) (x : Setting) (f : Flag) :
    (Setting.apply s x).setting? f = if f = x.flag then some x else s.setting? f := by
  cases x <;> cases f <;> rfl

namespace Settings

/-- What settings of different flags say, applied one after another, about a flag. -/
theorem setting?_foldl_apply {all : List Setting} (hnodup : (all.map Setting.flag).Nodup)
    (s : Settings) :
    (∀ x ∈ all, (all.foldl Setting.apply s).setting? x.flag = some x) ∧
      ∀ f, f ∉ all.map Setting.flag → (all.foldl Setting.apply s).setting? f = s.setting? f := by
  induction all generalizing s with
  | nil => exact ⟨fun x hx => (List.not_mem_nil hx).elim, fun f _ => rfl⟩
  | cons y rest ih =>
      rw [List.map_cons, List.nodup_cons] at hnodup
      obtain ⟨hy, hrest⟩ := hnodup
      obtain ⟨hmem, hother⟩ := ih hrest (Setting.apply s y)
      rw [List.foldl_cons]
      constructor
      · intro x hx
        rcases List.mem_cons.mp hx with rfl | hx
        · rw [hother _ hy, Setting.setting?_apply, if_pos rfl]
        · exact hmem x hx
      · intro f hf
        rw [List.map_cons, List.mem_cons, not_or] at hf
        rw [hother f hf.2, Setting.setting?_apply, if_neg hf.1]

/-- The settings that were given may be applied in any order. -/
theorem foldl_apply_of_perm {all : List Setting} {s : Settings} (h : all.Perm s.given) :
    all.foldl Setting.apply {} = s := by
  have hnodup : (all.map Setting.flag).Nodup :=
    (h.map Setting.flag).nodup_iff.mpr s.nodup_flag_given
  obtain ⟨hmem, hother⟩ := setting?_foldl_apply hnodup {}
  apply ext_setting?
  intro f
  cases hf : s.setting? f with
  | some x =>
      have hflag : x.flag = f := flag_of_setting? hf
      subst hflag
      exact hmem x (h.mem_iff.mpr (mem_given.mpr hf))
  | none =>
      have hnone : f ∉ all.map Setting.flag := by
        intro hf'
        obtain ⟨x, hx, rfl⟩ := List.mem_map.mp hf'
        have hx' : s.setting? x.flag = some x := mem_given.mp (h.mem_iff.mp hx)
        rw [hf] at hx'
        cases hx'
      rw [hother f hnone]
      cases f <;> rfl

end Settings

/-! ### Names and letters -/

namespace Flag

@[simp] theorem named?_name (f : Flag) : named? f.name = some f := by
  cases f <;> decide +kernel

theorem lettered?_of_letter? {f : Flag} {c : Char} (h : f.letter? = some c) :
    lettered? c = some f := by
  cases f <;> cases h <;> decide +kernel

theorem letter?_ne_hyphen (f : Flag) : f.letter? ≠ some '-' := by
  cases f <;> decide

theorem equals_not_mem_name (f : Flag) : '=' ∉ f.name.toList := by
  cases f <;> decide +kernel

theorem name_ne_nil (f : Flag) : f.name.toList ≠ [] := by
  cases f <;> decide +kernel

end Flag

/-! ### Values -/

namespace Setting

/-- The bytes of the value of a setting; a switch has none. -/
def valueBytes (x : Setting) : Argument := Utf8.encode (x.valueText?.getD [])

theorem takesValue_flag (x : Setting) : x.flag.takesValue = x.valueText?.isSome := by
  cases x <;> rfl

theorem takesValue_of_some {x : Setting} {value : List Char} (h : x.valueText? = some value) :
    x.flag.takesValue = true := by
  rw [x.takesValue_flag, h]
  rfl

theorem valueBytes_of_some {x : Setting} {value : List Char} (h : x.valueText? = some value) :
    x.valueBytes = Utf8.encode value := by
  rw [valueBytes, h]
  rfl

/-- Only numbers have flags with letters. -/
theorem exists_digits_of_letter? {x : Setting} {c : Char} {value : List Char}
    (hc : x.flag.letter? = some c) (hvalue : x.valueText? = some value) :
    ∃ n, value = Decimal.digits n := by
  cases x with
  | url | username | password | noProgress => cases hc
  | users n | requests n | timeoutSecs n =>
      cases hvalue
      exact ⟨n, rfl⟩

end Setting

namespace Reading

theorem text_encode (t : String) : text (Utf8.encode t.toList) = .ok t := by
  simp [text]

theorem number_digits (flag : Flag) {n : Nat} (h : n ≤ wordMax) :
    number flag (Utf8.encode (Decimal.digits n)) = .ok n := by
  simp [number, Decimal.read_digits h]

/-- The value of a setting is read as that setting. -/
theorem set_valueBytes (s : Settings) {x : Setting} (hfits : x.fits = true) :
    set s x.flag x.valueBytes = .ok (Setting.apply s x) := by
  cases x with
  | url t | username t | password t =>
      show (text (Utf8.encode t.toList) >>= _) = _
      rw [text_encode]
      rfl
  | users n | requests n | timeoutSecs n =>
      show (number _ (Utf8.encode (Decimal.digits n)) >>= _) = _
      rw [number_digits _ (of_decide_eq_true hfits)]
      rfl
  | noProgress => rfl

/-! ### One argument -/

section step
variable (r : Reading) {f : Flag} {rest : Argument}

/-- A name ends at its first equals sign. -/
theorem span_name (f : Flag) (hrest : rest = [] ∨ ∃ value, rest = 0x3D :: value) :
    (Utf8.encode f.name.toList ++ rest).span (· ≠ 0x3D) = (Utf8.encode f.name.toList, rest) := by
  have hname : ∀ b ∈ Utf8.encode f.name.toList, decide (b ≠ 0x3D) = true := by
    intro b hb
    have hne : b ≠ 0x3D := by
      rintro rfl
      exact Utf8.not_mem_encode (by decide) f.equals_not_mem_name hb
    exact decide_eq_true hne
  rw [List.span_eq_takeWhile_dropWhile, List.takeWhile_append_of_pos hname,
    List.dropWhile_append_of_pos hname]
  rcases hrest with rfl | ⟨value, rfl⟩
  · simp
  · simp

/-- A flag is given by its name. -/
theorem named_name (f : Flag) : r.named (Utf8.encode f.name.toList) = r.flagAlone f := by
  have hspan := span_name f (.inl rfl)
  rw [List.append_nil] at hspan
  unfold named
  rw [hspan]
  simp

/-- A flag is given by its name, with its value after an equals sign. -/
theorem named_equals (hf : f.takesValue = true) (value : List Char) :
    r.named (Utf8.encode (f.name.toList ++ '=' :: value)) = r.flagWith f (Utf8.encode value) := by
  have hequals : Utf8.encode ('=' :: value) = 0x3D :: Utf8.encode value := rfl
  have hspan := span_name f (.inr ⟨Utf8.encode value, rfl⟩)
  unfold named
  rw [Utf8.encode_append, hequals, hspan]
  simp [hf]

/-- A flag is given by its letter, with its number after it. -/
theorem lettered_digits {c : Char} (hc : f.letter? = some c) (hf : f.takesValue = true) (n : Nat) :
    r.lettered (Utf8.encode (c :: Decimal.digits n)) =
      r.flagWith f (Utf8.encode (Decimal.digits n)) := by
  have hequals : '=' ∉ Decimal.digits n := by
    intro hmem
    have hdigit := Decimal.isDigit_of_mem_digits hmem
    exact absurd hdigit (by decide)
  have hnot : 0x3D ∉ Utf8.encode (Decimal.digits n) := Utf8.not_mem_encode (by decide) hequals
  have hdrop : (Utf8.encode (c :: Decimal.digits n)).drop (Utf8.encode [c]).length =
      Utf8.encode (Decimal.digits n) := by
    simp
  have hdecode : Utf8.decode (Utf8.encode (c :: Decimal.digits n)) =
      some c :: (Decimal.digits n).map some := Utf8.decode_encode _
  have hflag : Flag.lettered? c = some f := Flag.lettered?_of_letter? hc
  unfold lettered
  rw [hdecode]
  dsimp only
  rw [hflag]
  dsimp only
  rw [if_pos hf, hdrop]
  split
  · next hnil =>
      -- a number has digits
      have hdigits : Decimal.digits n = [] := Utf8.encode_injective hnil
      exact absurd hdigits (Decimal.digits_ne_nil n)
  · next value hvalue =>
      rw [hvalue] at hnot
      exact absurd List.mem_cons_self hnot
  · rfl

theorem step_long (text : List Char) :
    r.step (Utf8.encode ('-' :: '-' :: text)) = r.named (Utf8.encode text) := rfl

theorem step_short {c : Char} (hc : c ≠ '-') (value : List Char) :
    r.step (Utf8.encode ('-' :: c :: value)) = r.lettered (Utf8.encode (c :: value)) := by
  have hhead : (Utf8.encode (c :: value)).head? ≠ some 0x2D := by
    intro hvalue
    exact hc (Option.some.inj (Utf8.head?_encode (by decide) hvalue))
  have hhyphen : Utf8.encode ('-' :: c :: value) = 0x2D :: Utf8.encode (c :: value) := rfl
  rw [hhyphen]
  cases hbytes : Utf8.encode (c :: value) with
  | nil => exact absurd (Utf8.encode_injective hbytes) (List.cons_ne_nil c value)
  | cons b rest =>
      rw [hbytes] at hhead
      unfold step
      split
      · next heq =>
          injection heq with _ heq
          rw [heq] at hhead
          exact absurd rfl hhead
      · next heq =>
          injection heq with _ heq
          rw [heq]
      · next hnot => exact absurd rfl (hnot b rest)

theorem step_plain {value : List Char} (h : value.head? ≠ some '-') :
    r.step (Utf8.encode value) = r.plain (Utf8.encode value) := by
  have hhead : (Utf8.encode value).head? ≠ some 0x2D := by
    intro hvalue
    exact h (Utf8.head?_encode (by decide) hvalue)
  unfold step
  split
  · next heq =>
      rw [heq] at hhead
      exact absurd rfl hhead
  · next heq =>
      rw [heq] at hhead
      exact absurd rfl hhead
  · rfl

end step

/-! ### From setting to setting -/

/-- A reader that has looked at certain settings. -/
def after (done : List Setting) : Reading where
  settings := done.foldl Setting.apply {}
  given := done.map Setting.flag

/-- Whether a reader has certain settings, though it may still have to look at the last of them. -/
def Has (r : Reading) (done : List Setting) : Prop := r.resolve = .ok (after done)

variable {r : Reading} {done : List Setting} {x : Setting}

theorem has_after (done : List Setting) : (after done).Has done := rfl

theorem give_after (hfits : x.fits = true) (hnew : x.flag ∉ done.map Setting.flag) :
    (after done).give x.flag x.valueBytes = .ok (after (done ++ [x])) := by
  have hnote : (after done).note x.flag =
      .ok { after done with given := (done ++ [x]).map Setting.flag } := by
    rw [List.map_append]
    exact if_neg hnew
  have hset : set (done.foldl Setting.apply {}) x.flag x.valueBytes =
      .ok ((done ++ [x]).foldl Setting.apply {}) := by
    rw [set_valueBytes _ hfits, List.foldl_append]
    rfl
  unfold give
  rw [hnote]
  show (do return { after done with
    given := (done ++ [x]).map Setting.flag
    settings := ← set (done.foldl Setting.apply {}) x.flag x.valueBytes }) = _
  rw [hset]
  rfl

namespace Has

section
variable (h : r.Has done) (hfits : x.fits = true) (hnew : x.flag ∉ done.map Setting.flag)
include h hfits hnew

theorem flagWith {value : List Char} (hvalue : x.valueText? = some value) :
    r.flagWith x.flag (Utf8.encode value) = .ok (after (done ++ [x])) := by
  rw [← Setting.valueBytes_of_some hvalue]
  unfold Reading.flagWith
  rw [h]
  exact give_after hfits hnew

/-- A value after an equals sign. -/
theorem step_equals {value : List Char} (hvalue : x.valueText? = some value) :
    r.step (Utf8.encode ('-' :: '-' :: (x.flag.name.toList ++ '=' :: value))) =
      .ok (after (done ++ [x])) := by
  rw [step_long, named_equals r (Setting.takesValue_of_some hvalue)]
  exact h.flagWith hfits hnew hvalue

/-- A number after its letter. -/
theorem step_glued {c : Char} {value : List Char} (hc : x.flag.letter? = some c)
    (hvalue : x.valueText? = some value) :
    r.step (Utf8.encode ('-' :: c :: value)) = .ok (after (done ++ [x])) := by
  have hletter : c ≠ '-' := by
    rintro rfl
    exact x.flag.letter?_ne_hyphen hc
  obtain ⟨n, rfl⟩ := Setting.exists_digits_of_letter? hc hvalue
  rw [step_short r hletter, lettered_digits r hc (Setting.takesValue_of_some hvalue)]
  exact h.flagWith hfits hnew hvalue

/-- A switch. -/
theorem step_switch (hswitch : x.valueText? = none) :
    r.step (Utf8.encode ('-' :: '-' :: x.flag.name.toList)) = .ok (after (done ++ [x])) := by
  have htakes : x.flag.takesValue = false := by
    rw [x.takesValue_flag, hswitch]
    rfl
  have hgive := give_after hfits hnew
  have hbytes : x.valueBytes = [] := by
    rw [Setting.valueBytes, hswitch]
    rfl
  rw [hbytes] at hgive
  rw [step_long, named_name]
  unfold flagAlone
  rw [h]
  show (if x.flag.takesValue then _ else (after done).give x.flag []) = _
  rw [htakes, hgive]
  rfl

end

/-- A flag whose value is to follow. -/
theorem step_awaiting (h : r.Has done) {value : List Char} (hvalue : x.valueText? = some value) :
    r.step (Utf8.encode ('-' :: '-' :: x.flag.name.toList)) =
      .ok { after done with pending := some (x.flag, none) } := by
  rw [step_long, named_name]
  unfold flagAlone
  rw [h]
  show (if x.flag.takesValue then _ else _) = _
  rw [Setting.takesValue_of_some hvalue]
  rfl

end Has

/-- The value that follows. -/
theorem step_awaited {value : List Char} (hvalue : x.valueText? = some value)
    (hhead : value.head? ≠ some '-') :
    step { after done with pending := some (x.flag, none) } (Utf8.encode value) =
      .ok { after done with pending := some (x.flag, some x.valueBytes) } := by
  rw [step_plain _ hhead, Setting.valueBytes_of_some hvalue]
  rfl

/-- A value at hand is as good as one that was looked at. -/
theorem has_of_pending (hfits : x.fits = true) (hnew : x.flag ∉ done.map Setting.flag) :
    Has { after done with pending := some (x.flag, some x.valueBytes) } (done ++ [x]) :=
  give_after hfits hnew

/-- An argument is read for itself unless it is the mark that ends the flags. -/
theorem all_cons_of_step {s : Reading} {text : List Char} (hmark : text ≠ ['-', '-'])
    (hstep : r.step (Utf8.encode text) = .ok s) (rest : List Argument) :
    r.all (Utf8.encode text :: rest) = s.all rest := by
  have hbytes : Utf8.encode text ≠ [0x2D, 0x2D] := by
    intro heq
    have hhyphens : Utf8.encode ['-', '-'] = [0x2D, 0x2D] := rfl
    exact hmark (Utf8.encode_injective (heq.trans hhyphens.symm))
  rw [all.eq_def]
  dsimp only
  rw [if_neg hbytes, hstep]

/-- The arguments of one more setting, in whatever spelling. -/
theorem Has.all_arguments (h : r.Has done) {x : Spelled} (hsound : x.isSound = true)
    (hnew : x.setting.flag ∉ done.map Setting.flag) (rest : List Argument) :
    ∃ s : Reading, s.Has (done ++ [x.setting]) ∧ r.all (x.arguments ++ rest) = s.all rest := by
  obtain ⟨x, spelling⟩ := x
  unfold Spelled.isSound at hsound
  rw [Bool.and_eq_true] at hsound
  obtain ⟨hfits, hspelling⟩ := hsound
  dsimp only at hfits hspelling hnew ⊢
  have hname : '-' :: '-' :: x.flag.name.toList ≠ ['-', '-'] := by
    simpa using x.flag.name_ne_nil
  unfold Spelled.arguments
  dsimp only
  cases hvalue : x.valueText? with
  | none =>
      refine ⟨_, has_after _, ?_⟩
      exact all_cons_of_step hname (h.step_switch hfits hnew hvalue) rest
  | some value =>
      rw [hvalue] at hspelling
      cases spelling with
      | equals =>
          refine ⟨_, has_after _, ?_⟩
          apply all_cons_of_step
          · simp
          · exact h.step_equals hfits hnew hvalue
      | glued =>
          obtain ⟨c, hc⟩ := Option.isSome_iff_exists.mp hspelling
          rw [hc]
          refine ⟨_, has_after _, ?_⟩
          apply all_cons_of_step
          · intro heq
            injection heq with _ heq
            injection heq with heq
            exact x.flag.letter?_ne_hyphen (heq ▸ hc)
          · exact h.step_glued hfits hnew hc hvalue
      | apart =>
          have hhead : value.head? ≠ some '-' := by
            intro hhyphen
            obtain ⟨tail, rfl⟩ := List.head?_eq_some_iff.mp hhyphen
            cases hspelling
          have hnomark : value ≠ ['-', '-'] := by
            rintro rfl
            exact hhead rfl
          refine ⟨_, has_of_pending hfits hnew, ?_⟩
          calc r.all (Utf8.encode ('-' :: '-' :: x.flag.name.toList) :: Utf8.encode value :: rest)
              = all { after done with pending := some (x.flag, none) }
                  (Utf8.encode value :: rest) :=
                all_cons_of_step hname (h.step_awaiting hvalue) _
            _ = all { after done with pending := some (x.flag, some x.valueBytes) } rest :=
                all_cons_of_step hnomark (step_awaited hvalue hhead) _

/-- The arguments of more settings, of flags that were not given before. -/
theorem Has.all_spell (h : r.Has done) {more : List Spelled} (hsound : ∀ x ∈ more, x.isSound = true)
    (hnodup : ((done ++ more.map Spelled.setting).map Setting.flag).Nodup) :
    r.all (spell more) = .ok (after (done ++ more.map Spelled.setting)) := by
  induction more generalizing r done with
  | nil =>
      rw [List.map_nil, List.append_nil]
      exact h
  | cons x rest ih =>
      have hsplit : done ++ (x :: rest).map Spelled.setting =
          (done ++ [x.setting]) ++ rest.map Spelled.setting := by
        simp
      have hnew : x.setting.flag ∉ done.map Setting.flag := by
        intro hmem
        rw [List.map_append, List.nodup_append] at hnodup
        obtain ⟨-, -, hdisjoint⟩ := hnodup
        exact hdisjoint _ hmem _ List.mem_cons_self rfl
      obtain ⟨s, hs, hread⟩ :=
        h.all_arguments (hsound x List.mem_cons_self) hnew (rest.flatMap Spelled.arguments)
      rw [hsplit] at hnodup ⊢
      show r.all (x.arguments ++ rest.flatMap Spelled.arguments) = _
      rw [hread]
      exact ih hs (fun y hy => hsound y (List.mem_cons_of_mem _ hy)) hnodup

end Reading

/-- Settings are read from arguments in which each of them stands once, in any order and spelling. -/
theorem read_spell {s : Settings} {all : List Spelled}
    (hall : (all.map Spelled.setting).Perm s.given) (hsound : ∀ x ∈ all, x.isSound = true) :
    read (spell all) = .ok s := by
  have hnodup : ((all.map Spelled.setting).map Setting.flag).Nodup :=
    (hall.map Setting.flag).nodup_iff.mpr s.nodup_flag_given
  have hread : Reading.all {} (spell all) = .ok (Reading.after (all.map Spelled.setting)) :=
    (Reading.has_after []).all_spell hsound hnodup
  unfold read
  rw [hread]
  show Except.ok (List.foldl Setting.apply {} (all.map Spelled.setting)) = _
  rw [Settings.foldl_apply_of_perm hall]

end CommandLine

namespace Program

open CommandLine (Settings Spelled spell)

/-- Arguments in which each of some settings stands once, in any order and any spelling that is open
to it, ask for a run with exactly these settings, and with the value of the default configuration
for each that is left out; a time limit of no seconds is none.  No arguments at all ask for the
default configuration. -/
theorem order_spell (env : Environment) :
    (∀ (s : Settings) (all : List Spelled), (all.map Spelled.setting).Perm s.given →
      (∀ x ∈ all, x.isSound = true) →
        let base : Config := {}
        order env (spell all) = .ok {
          users := s.users.getD base.users
          requestsPerUser := s.requests.getD base.requestsPerUser
          timeout := s.timeoutSecs.elim base.timeout fun seconds =>
            if seconds = 0 then none else some (Span.ofSeconds seconds)
          progress := !s.noProgress
          spec := {
            url := s.url.getD base.spec.url
            body := {
              username := s.username.getD base.spec.body.username
              password := s.password.getD base.spec.body.password } } }) ∧
    order env [] = .ok ({} : Config) := by
  constructor
  · intro s all hall hsound base
    unfold order
    rw [CommandLine.read_spell hall hsound]
    dsimp only
    congr 1
    unfold Settings.config
    cases s.timeoutSecs with
    | none => rfl
    | some seconds =>
        simp only [Option.getD_some, Option.elim_some, Nat.pos_iff_ne_zero, ite_not]
        rfl
  · rfl

/-- Arguments of a login in a hurry: a text that looks like a flag, one that is empty, the largest
number, and no word on how many requests. -/
def hurriedLogin : List Spelled :=
  [⟨.timeoutSecs 0, .glued⟩, ⟨.password "--url=a b", .equals⟩, ⟨.users wordMax, .glued⟩,
    ⟨.noProgress, .apart⟩, ⟨.username "", .apart⟩, ⟨.url "http://[::1]:8080/?q=é", .apart⟩]

theorem hurriedLogin_ordered :
    spell hurriedLogin = ["-t0", "--password=--url=a b", "-u18446744073709551615",
        "--no-progress", "--username", "", "--url", "http://[::1]:8080/?q=é"].map
          (fun text => Utf8.encode text.toList) ∧
      order {} (spell hurriedLogin) = .ok {
        users := 18446744073709551615
        requestsPerUser := 100
        timeout := none
        progress := false
        spec := { url := "http://[::1]:8080/?q=é", body := ⟨"", "--url=a b"⟩ } } := by
  have hall : (hurriedLogin.map Spelled.setting).Perm
      (Settings.given {
        url := some "http://[::1]:8080/?q=é"
        users := some wordMax
        username := some ""
        password := some "--url=a b"
        timeoutSecs := some 0
        noProgress := true }) := by
    decide +kernel
  have hsound : ∀ x ∈ hurriedLogin, x.isSound = true := by decide +kernel
  obtain ⟨hgiven, -⟩ := order_spell {}
  exact ⟨by decide +kernel, hgiven _ _ hall hsound⟩

end Program
end LoginLoad
