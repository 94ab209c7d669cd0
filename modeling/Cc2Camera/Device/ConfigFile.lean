import Cc2Camera.Device.HidUpdate
import Cc2Camera.Lib.Assoc
import Mathlib.Data.List.TakeWhile

/-!
# ConfigFile — what GET and SET make of `uvc.config`

In a file of readable settings, padded by zeros, both loops find the line of the first setting of a key.  A SET writes
such a file back, at least as long as before.
-/

open Bytes

namespace Cc2Camera.HidUpdate

/-! ## The file -/

abbrev Setting : Type := Bytes × Bytes

def Setting.bytes (setting : Setting) : Bytes := setting.1 ++ 58 :: setting.2 ++ [10]

def render (settings : List Setting) : Bytes := settings.flatMap Setting.bytes

/-- The file with these settings, as long as any file it was rewritten from. -/
def fileOf (settings : List Setting) (padding : Nat) : Bytes := render settings ++ List.replicate padding 0

/-- A line that both handlers read alike and in one piece. -/
structure Readable (setting : Setting) : Prop where
  key : setting.1 ≠ []
  keyBytes : ∀ b ∈ setting.1, isSpace b = false ∧ b ≠ 58 ∧ b ≠ 0
  keyLength : setting.1.length ≤ 63
  valueBytes : ∀ b ∈ setting.2, b ≠ 10 ∧ b ≠ 0
  fits : setting.1.length + setting.2.length ≤ 125

section Lines

variable {setting : Setting} {settings : List Setting} {rest key : Bytes}

theorem render_cons (setting : Setting) (settings : List Setting) :
    render (setting :: settings) = setting.bytes ++ render settings := List.flatMap_cons

theorem render_append (settings settings' : List Setting) :
    render (settings ++ settings') = render settings ++ render settings' := List.flatMap_append

theorem fileOf_cons (setting : Setting) (settings : List Setting) (padding : Nat) :
    fileOf (setting :: settings) padding = setting.bytes ++ fileOf settings padding := by
  rw [fileOf, render_cons, List.append_assoc, ← fileOf]

theorem length_settings_le (settings : List Setting) : settings.length ≤ (render settings).length := by
  induction settings with
  | nil => exact Nat.le_refl 0
  | cons setting settings ih =>
    rw [render_cons, List.length_append, List.length_cons, Setting.bytes, List.length_append]
    simp only [List.length_cons, List.length_nil]
    omega

theorem length_bytes (setting : Setting) : setting.bytes.length = setting.1.length + setting.2.length + 2 := by
  simp only [Setting.bytes, List.length_append, List.length_cons, List.length_nil]
  omega

/-- One line is read whole. -/
theorem fgets_line {body : Bytes} (hbody : 10 ∉ body) (hlength : body.length ≤ 126) :
    fgets 128 (body ++ 10 :: rest) = (body ++ [10], rest) := by
  have hwindow : (body ++ 10 :: rest).take 127 = body ++ 10 :: rest.take (126 - body.length) := by
    rw [List.take_append, List.take_of_length_le (by omega)]
    obtain ⟨n, hn⟩ : ∃ n, 127 - body.length = n + 1 := ⟨126 - body.length, by omega⟩
    rw [hn, List.take_succ_cons]
    congr 3
    omega
  have htake : (body ++ 10 :: rest.take (126 - body.length)).takeWhile (· ≠ 10) = body := by
    rw [List.takeWhile_append_of_pos]
    · simp
    · exact fun b hb => decide_eq_true fun h => hbody (h ▸ hb)
  rw [fgets]
  simp only [hwindow, htake]
  rw [if_pos (by simp), List.length_append]
  congr 1
  rw [List.append_cons, ← List.length_append]
  exact List.drop_left

theorem newline_not_mem (h : Readable setting) : 10 ∉ setting.1 ++ 58 :: setting.2 := by
  intro hmem
  rcases List.mem_append.mp hmem with hkey | hrest
  · exact absurd (h.keyBytes 10 hkey).1 (by decide)
  · rcases List.mem_cons.mp hrest with heq | hvalue
    · cases heq
    · exact (h.valueBytes 10 hvalue).1 rfl

theorem cString_bytes (h : Readable setting) : cString setting.bytes = setting.bytes := by
  rw [cString, List.takeWhile_eq_self_iff]
  intro b hb
  apply decide_eq_true
  rw [Setting.bytes, List.append_assoc] at hb
  rcases List.mem_append.mp hb with hkey | hrest
  · exact (h.keyBytes b hkey).2.2
  · rcases List.mem_cons.mp hrest with rfl | hvalue
    · decide
    · rcases List.mem_append.mp hvalue with hvalue | hlast
      · exact (h.valueBytes b hvalue).2
      · rw [List.mem_singleton.mp hlast]
        decide

theorem takeWhile_colon (h : Readable setting) (rest : Bytes) : (setting.1 ++ 58 :: rest).takeWhile (· ≠ 58) = setting.1 := by
  rw [List.takeWhile_append_of_pos]
  · simp
  · exact fun b hb => decide_eq_true (h.keyBytes b hb).2.1

theorem scanWord_key (h : Readable setting) : scanWord 63 setting.1 = some setting.1 := by
  have htext : cString setting.1 = setting.1 := by
    rw [cString, List.takeWhile_eq_self_iff]
    exact fun b hb => decide_eq_true (h.keyBytes b hb).2.2
  have hdrop : setting.1.dropWhile isSpace = setting.1 := by
    obtain ⟨b, tail, hkey⟩ := List.exists_cons_of_ne_nil h.key
    rw [hkey, List.dropWhile_cons_of_neg]
    rw [(h.keyBytes b (by rw [hkey]; exact List.mem_cons_self)).1]
    decide
  have htake : setting.1.takeWhile (! isSpace ·) = setting.1 := by
    rw [List.takeWhile_eq_self_iff]
    exact fun b hb => by rw [(h.keyBytes b hb).1]; rfl
  rw [scanWord]
  simp only [htext, hdrop, htake, List.take_of_length_le h.keyLength, if_neg h.key]

/-- The value a line holds for its own key, as far as the answer has room for it. -/
theorem lineValue_bytes (h : Readable setting) :
    lineValue key setting.bytes = if setting.1 = key then some (setting.2.take 63) else none := by
  have hbytes : setting.bytes = setting.1 ++ 58 :: (setting.2 ++ [10]) := by rw [Setting.bytes, List.append_assoc]; rfl
  have hcolon := takeWhile_colon h (setting.2 ++ [10])
  rw [lineValue]
  simp only [cString_bytes h]
  rw [hbytes, hcolon, if_neg (by simp), scanWord_key h]
  by_cases hkey : setting.1 = key
  · rw [if_pos (by rw [hkey]), if_pos hkey]
    congr 1
    have hdrop : (setting.1 ++ 58 :: (setting.2 ++ [10])).drop (setting.1.length + 1) = setting.2 ++ [10] := by
      rw [List.drop_append, List.drop_of_length_le (by omega), Nat.add_sub_cancel_left]
      rfl
    rw [hdrop]
    by_cases hlong : 63 ≤ setting.2.length
    · rw [List.take_append_of_le_length hlong, List.takeWhile_eq_self_iff]
      exact fun b hb => decide_eq_true (h.valueBytes b (List.mem_of_mem_take hb)).1
    · rw [List.take_of_length_le (by rw [List.length_append]; show _ + 1 ≤ 63; omega), List.take_of_length_le (by omega),
        List.takeWhile_append_of_pos fun b hb => decide_eq_true (h.valueBytes b hb).1]
      simp
  · rw [if_neg (fun heq => hkey (Option.some.inj heq)), if_neg hkey]

/-! ## GET -/

theorem cString_padding (n : Nat) : cString (List.replicate n 0) = [] := by
  cases n with
  | zero => rfl
  | succ n => rfl

/-- Nothing is found in the padding. -/
theorem findValue_padding (fuel n : Nat) : findValue key fuel (List.replicate n 0) = none := by
  induction fuel generalizing n with
  | zero => rfl
  | succ fuel ih =>
    cases n with
    | zero => rfl
    | succ n =>
      have hline : ∃ k, (fgets 128 (List.replicate (n + 1) 0)) = (List.replicate k 0, List.replicate (n + 1 - k) 0) := by
        have hbody : ((List.replicate (n + 1) (0 : UInt8)).take 127).takeWhile (· ≠ 10) =
            List.replicate (min 127 (n + 1)) 0 := by
          rw [List.take_replicate, List.takeWhile_eq_self_iff]
          intro b hb
          rw [List.eq_of_mem_replicate hb]
          decide
        refine ⟨min 127 (n + 1), ?_⟩
        rw [fgets]
        simp only [hbody]
        rw [if_neg (by rw [List.take_replicate]; exact lt_irrefl _), List.length_replicate, List.drop_replicate]
      obtain ⟨k, hline⟩ := hline
      have hvalue : lineValue key (List.replicate k 0) = none := by
        rw [lineValue]
        simp only [cString_padding]
        rfl
      rw [List.replicate_succ, findValue]
      · rw [← List.replicate_succ, hline]
        simp only [hvalue]
        exact ih _
      · simp

/-- A GET finds what the settings hold. -/
theorem findValue_fileOf (hreadable : ∀ setting ∈ settings, Readable setting) {fuel padding : Nat}
    (hfuel : (render settings).length ≤ fuel) :
    findValue key fuel (fileOf settings padding) = (Assoc.lookup key settings).map (·.take 63) := by
  induction settings generalizing fuel with
  | nil => exact findValue_padding fuel padding
  | cons setting settings ih =>
    obtain ⟨hsetting, hrest⟩ := List.forall_mem_cons.mp hreadable
    have hlength := length_bytes setting
    rw [render_cons, List.length_append] at hfuel
    obtain ⟨fuel, rfl⟩ : ∃ k, fuel = k + 1 := ⟨fuel - 1, by omega⟩
    have hfile : fileOf (setting :: settings) padding =
        (setting.1 ++ 58 :: setting.2) ++ 10 :: fileOf settings padding := by
      rw [fileOf_cons, Setting.bytes, ← List.append_cons]
    have hshort : (setting.1 ++ 58 :: setting.2).length ≤ 126 := by
      have hfits := hsetting.fits
      rw [List.length_append, List.length_cons]
      omega
    have hline : fgets 128 ((setting.1 ++ 58 :: setting.2) ++ 10 :: fileOf settings padding) = _ :=
      fgets_line (newline_not_mem hsetting) hshort
    rw [hfile, findValue]
    · rw [hline]
      have hbytes : setting.1 ++ 58 :: setting.2 ++ [10] = setting.bytes := rfl
      simp only [hbytes, lineValue_bytes hsetting, Assoc.lookup]
      by_cases hkey : setting.1 = key
      · simp only [if_pos hkey, Option.map_some]
      · simp only [if_neg hkey]
        have hleft : (render settings).length ≤ fuel := by omega
        exact ih hrest hleft
    · simp

/-! ## SET -/

theorem parsedKey_key (h : Readable setting) : parsedKey setting.1 = setting.1 := by
  have htext : cString setting.1 = setting.1 := by
    rw [cString, List.takeWhile_eq_self_iff]
    exact fun b hb => decide_eq_true (h.keyBytes b hb).2.2
  rw [parsedKey, List.take_of_length_le (h.keyLength.trans (by decide)), htext, List.takeWhile_eq_self_iff]
  intro b hb
  apply decide_eq_true
  rintro rfl
  exact absurd (h.keyBytes 32 hb).1 (by decide)

theorem findLine_cons (h : Readable setting) (fuel : Nat) (before tail : Bytes) :
    findLine key (fuel + 1) before (setting.bytes ++ tail) =
      if setting.1 = key then some (before ++ setting.1 ++ [58], 10 :: tail)
      else findLine key fuel (before ++ setting.bytes) tail := by
  have hrest : setting.bytes ++ tail = (setting.1 ++ 58 :: setting.2) ++ 10 :: tail := by
    rw [Setting.bytes, ← List.append_cons]
  have hline : ((setting.1 ++ 58 :: setting.2) ++ 10 :: tail).takeWhile (· ≠ 10) = setting.1 ++ 58 :: setting.2 := by
    rw [List.takeWhile_append_of_pos]
    · simp
    · exact fun b hb => decide_eq_true fun hb10 => newline_not_mem h (hb10 ▸ hb)
  have hlength : (setting.1 ++ 58 :: setting.2).length + 1 = setting.bytes.length := by
    rw [length_bytes, List.length_append, List.length_cons]
    omega
  have hcolon := takeWhile_colon h setting.2
  rw [findLine]
  · rw [hrest]
    simp only [hline, List.drop_left, hcolon, parsedKey_key h]
    rw [← hrest, hlength, List.take_left, List.drop_left]
    have hleft : setting.1.length < (setting.1 ++ 58 :: setting.2).length := by
      rw [List.length_append, List.length_cons]
      omega
    simp only [hleft, true_and]
  · rw [hrest]
    simp

theorem findLine_padding (fuel n : Nat) (before : Bytes) : findLine key fuel before (List.replicate n 0) = none := by
  have hline (n : Nat) : (List.replicate n (0 : UInt8)).takeWhile (· ≠ 10) = List.replicate n 0 := by
    rw [List.takeWhile_eq_self_iff]
    intro b hb
    rw [List.eq_of_mem_replicate hb]
    decide
  have hleft (n : Nat) : (List.replicate n (0 : UInt8)).takeWhile (· ≠ 58) = List.replicate n 0 := by
    rw [List.takeWhile_eq_self_iff]
    intro b hb
    rw [List.eq_of_mem_replicate hb]
    decide
  cases fuel with
  | zero => rfl
  | succ fuel =>
    cases n with
    | zero => rfl
    | succ n =>
      rw [List.replicate_succ, findLine]
      · rw [← List.replicate_succ]
        simp only [hline, hleft, lt_irrefl, false_and, if_false]
        rw [List.drop_of_length_le (by simp)]
        cases fuel <;> rfl
      · simp

/-- Where a SET finds the line of a key that is there. -/
theorem findLine_present {before : List Setting} {old : Bytes} {after : List Setting}
    (hreadable : ∀ setting ∈ before ++ (key, old) :: after, Readable setting) (hbefore : ∀ setting ∈ before, setting.1 ≠ key)
    {fuel padding : Nat} (front : Bytes) (hfuel : before.length < fuel) :
    findLine key fuel front (fileOf (before ++ (key, old) :: after) padding) =
      some (front ++ render before ++ key ++ [58], 10 :: fileOf after padding) := by
  induction before generalizing fuel front with
  | nil =>
    obtain ⟨fuel, rfl⟩ : ∃ k, fuel = k + 1 := ⟨fuel - 1, by omega⟩
    have hsetting : Readable (key, old) := hreadable _ (by simp)
    rw [List.nil_append, fileOf_cons, findLine_cons hsetting, if_pos rfl, render, List.flatMap_nil, List.append_nil]
  | cons setting before ih =>
    obtain ⟨fuel, rfl⟩ : ∃ k, fuel = k + 1 := ⟨fuel - 1, by omega⟩
    obtain ⟨hne, hothers⟩ := List.forall_mem_cons.mp hbefore
    rw [List.cons_append] at hreadable
    obtain ⟨hsetting, hrest⟩ := List.forall_mem_cons.mp hreadable
    rw [List.cons_append, fileOf_cons, findLine_cons hsetting, if_neg hne,
      ih hrest hothers (front ++ setting.bytes) (by simpa using hfuel), render_cons, List.append_assoc front]

theorem findLine_absent (hreadable : ∀ setting ∈ settings, Readable setting) (habsent : Assoc.lookup key settings = none)
    {fuel padding : Nat} (front : Bytes) (hfuel : settings.length ≤ fuel) :
    findLine key fuel front (fileOf settings padding) = none := by
  induction settings generalizing fuel front with
  | nil => exact findLine_padding fuel padding front
  | cons setting settings ih =>
    rw [List.length_cons] at hfuel
    obtain ⟨fuel, rfl⟩ : ∃ k, fuel = k + 1 := ⟨fuel - 1, by omega⟩
    obtain ⟨hsetting, hrest⟩ := List.forall_mem_cons.mp hreadable
    rw [Assoc.lookup] at habsent
    by_cases hkey : setting.1 = key
    · rw [if_pos hkey] at habsent
      cases habsent
    · rw [if_neg hkey] at habsent
      rw [fileOf_cons, findLine_cons hsetting, if_neg hkey]
      exact ih hrest habsent _ (by omega)

/-- What a SET writes back: the settings with one assigned, and at least the length of before. -/
theorem rewritten_present {before : List Setting} {old : Bytes} {after : List Setting}
    (hbefore : ∀ setting ∈ before, setting.1 ≠ key) (newValue : Bytes) (oldSize padding : Nat) :
    rewritten oldSize (render before ++ key ++ [58], 10 :: fileOf after padding) newValue =
      fileOf (Assoc.assign key newValue (before ++ (key, old) :: after))
        (padding + (oldSize - (fileOf (Assoc.assign key newValue (before ++ (key, old) :: after)) padding).length)) := by
  have hcontent : render before ++ key ++ [58] ++ newValue ++ 10 :: fileOf after padding =
      fileOf (Assoc.assign key newValue (before ++ (key, old) :: after)) padding := by
    rw [Assoc.assign_split hbefore, fileOf, fileOf, render_append, render_cons, Setting.bytes]
    simp
  rw [rewritten]
  simp only [hcontent]
  rw [fileOf, fileOf, List.append_assoc, List.replicate_append_replicate]

theorem length_render_assign {before : List Setting} {old : Bytes} {after : List Setting}
    (hbefore : ∀ setting ∈ before, setting.1 ≠ key) (newValue : Bytes) :
    (render (Assoc.assign key newValue (before ++ (key, old) :: after))).length + old.length =
      (render (before ++ (key, old) :: after)).length + newValue.length := by
  rw [Assoc.assign_split hbefore, render_append, render_append, render_cons, render_cons]
  simp only [List.length_append, length_bytes]
  omega

end Lines

end Cc2Camera.HidUpdate
