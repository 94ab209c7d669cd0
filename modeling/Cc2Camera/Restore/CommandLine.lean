import Cc2Camera.Adb.Reads
import Cc2Camera.Restore.Preparation

/-!
# CommandLine — the guarded command, read as the camera's shell reads it

What the shell does with the line, and which words of a line write RAM.
-/

open Program Shell

namespace Cc2Camera.RestorePrepare

open Host AdbBackup
open StartupPayloads (hex8 wordText pointerWord ramWrite)

/-! ## The line as a list -/

def guardedItems (pointer field old : Nat) : List Item :=
  [.test pointerWord (wordText pointer), .test (StartupPayloads.word ("0x" ++ hex8 field)) (wordText old)] ++
    (if old ≠ 0x1000 then [.run (ramWrite ("0x" ++ hex8 field))] else []) ++
    [.run (StartupPayloads.word ("0x" ++ hex8 field)), .run ["echo", "CC2_ERASE_READY"]]

theorem hex8_pointer : hex8 POINTER_PHYSICAL = "0043b190" := by decide +kernel

theorem guardedCommand_eq (pointer field old : Nat) :
    guardedCommand pointer field old = andLine (guardedItems pointer field old) := by
  apply String.toList_inj.mp
  unfold guardedCommand guardedItems
  rw [hex8_pointer]
  by_cases hold : old = 0x1000
  · simp [hold, andLine, Item.line, pointerWord, StartupPayloads.word]
  · simp [hold, andLine, Item.line, pointerWord, StartupPayloads.word, ramWrite]

/-! ## Hexadecimal words -/

/-- The characters of a printed address or value, quoted or not. -/
def hexAlphabet : List Char := "0123456789abcdefABCDEFxX\"".toList

theorem digitChar_mem (n : Nat) (h : n < 16) : n.digitChar ∈ hexAlphabet := by
  revert n
  decide

theorem toDigits_hex (n : Nat) : Nat.toDigits 16 n ⊆ hexAlphabet := by
  induction n using Nat.strong_induction_on with
  | _ n ih =>
    rw [Nat.toDigits_eq_if (by decide)]
    split
    · next h => simpa using digitChar_mem n h
    · next h =>
      intro c hc
      rcases List.mem_append.mp hc with hc | hc
      · exact ih (n / 16) (by omega) hc
      · rw [List.mem_singleton.mp hc]
        exact digitChar_mem _ (Nat.mod_lt _ (by decide))

theorem hex8_subset (n : Nat) : (hex8 n).toList ⊆ hexAlphabet := by
  intro c hc
  simp only [hex8, paddedDigits, String.toList_ofList, List.mem_append] at hc
  rcases hc with hc | hc
  · rw [List.eq_of_mem_replicate hc]
    decide
  · exact toDigits_hex n hc

theorem toUpper_mem {c : Char} (hc : c ∈ hexAlphabet) : c.toUpper ∈ hexAlphabet := by
  have hall : hexAlphabet.all (fun d => hexAlphabet.contains d.toUpper) = true := by decide
  exact List.contains_iff_mem.mp (List.all_eq_true.mp hall c hc)

theorem wordText_subset (n : Nat) : (wordText n).toList ⊆ hexAlphabet := by
  intro c hc
  simp only [wordText, String.toList_append, String.toUpper, String.toList_map, List.mem_append, List.mem_map] at hc
  rcases hc with hc | ⟨d, hd, rfl⟩
  · have hmark : "0x".toList ⊆ hexAlphabet := by decide
    exact hmark hc
  · exact toUpper_mem (hex8_subset n hd)

section Plain

variable {w : Word} (hw : w ⊆ hexAlphabet)

include hw

theorem notMem_of_hex {c : Char} (hc : c ∉ hexAlphabet) : c ∉ w := fun h => hc (hw h)

theorem not_control_of_hex : w ∉ controlOperators := by
  intro h
  have hall : controlOperators.all (fun o => o.any fun c => !hexAlphabet.contains c) = true := by decide
  obtain ⟨c, hc, hnot⟩ := List.any_eq_true.mp (List.all_eq_true.mp hall w h)
  rw [List.contains_iff_mem.mpr (hw hc)] at hnot
  cases hnot

theorem not_devmem_of_hex : ¬"devmem".toList <:+ w := by
  intro h
  have hm : 'm' ∈ w := h.subset (by decide)
  exact notMem_of_hex hw (by decide) hm

end Plain

theorem prefixed_subset (n : Nat) : ("0x" ++ hex8 n).toList ⊆ hexAlphabet := by
  rw [String.toList_append]
  exact List.append_subset.mpr ⟨by decide, hex8_subset n⟩

theorem quoted_subset (n : Nat) : ("\"" ++ wordText n ++ "\"").toList ⊆ hexAlphabet := by
  rw [String.toList_append, String.toList_append]
  exact List.append_subset.mpr ⟨List.append_subset.mpr ⟨by decide, wordText_subset n⟩, by decide⟩

/-! ## The line as words -/

/-- The operands of the `devmem` calls of a line that name a value to write. -/
def ramWritesOf (line : String) : List (List Word) := (callsOf "devmem" (words line)).filter (2 < ·.length)

def guardedWords (pointer field old : Nat) : List String :=
  ["[", "\"$(busybox", "devmem", "0x0043b190", "32)\"", "=", "\"" ++ wordText pointer ++ "\"", "]", "&&",
   "[", "\"$(busybox", "devmem", "0x" ++ hex8 field, "32)\"", "=", "\"" ++ wordText old ++ "\"", "]", "&&"] ++
    (if old ≠ 0x1000 then ["busybox", "devmem", "0x" ++ hex8 field, "32", "0x00001000", "&&"] else []) ++
    ["busybox", "devmem", "0x" ++ hex8 field, "32", "&&", "echo", "CC2_ERASE_READY"]

theorem guardedCommand_words (pointer field old : Nat) :
    guardedCommand pointer field old = " ".intercalate (guardedWords pointer field old) := by
  apply String.toList_inj.mp
  unfold guardedCommand guardedWords
  rw [hex8_pointer]
  by_cases hold : old = 0x1000
  · simp [hold]
  · simp [hold]

theorem words_guardedCommand (pointer field old : Nat) :
    words (guardedCommand pointer field old) = (guardedWords pointer field old).map String.toList := by
  have hblank {w : Word} (hw : w ⊆ hexAlphabet) : ' ' ∉ w := notMem_of_hex hw (by decide)
  have hfield := hblank (hex8_subset field)
  have hpointer := hblank (wordText_subset pointer)
  have hold := hblank (wordText_subset old)
  rw [guardedCommand_words]
  apply words_intercalate
  · exact List.cons_ne_nil _ _
  · unfold guardedWords
    split
    · simp [hfield, hpointer, hold]
    · simp [hfield, hpointer, hold]

/-- The line writes RAM when the value has still to be changed, and then only `0x1000` to the field. -/
theorem ramWritesOf_guardedCommand (pointer field old : Nat) :
    ramWritesOf (guardedCommand pointer field old) =
      if old ≠ 0x1000 then [[("0x" ++ hex8 field).toList, "32".toList, "0x00001000".toList]] else [] := by
  have hpointer := not_devmem_of_hex (quoted_subset pointer)
  have hold := not_devmem_of_hex (quoted_subset old)
  have hfield := not_devmem_of_hex (prefixed_subset field)
  have hcontrol := not_control_of_hex (prefixed_subset field)
  have hend : ')' ∉ ("0x" ++ hex8 field).toList := notMem_of_hex (prefixed_subset field) (by decide)
  have hfixed : ∀ w ∈ ["[", "\"$(busybox", "0x0043b190", "32)\"", "=", "]", "&&", "busybox", "32", "0x00001000",
      "echo", "CC2_ERASE_READY"], ¬"devmem".toList <:+ w.toList := by decide
  have hdevmem : "devmem".toList <:+ "devmem".toList := List.suffix_rfl
  have hplain : ∀ w ∈ ["0x0043b190", "32", "0x00001000"], w.toList ∉ controlOperators ∧ ')' ∉ w.toList := by decide
  have hclosing : "32)\"".toList ∉ controlOperators ∧ ')' ∈ "32)\"".toList := by decide
  have hand : "&&".toList ∈ controlOperators := by decide
  simp only [List.forall_mem_cons, List.not_mem_nil, false_implies, implies_true, and_true] at hfixed hplain
  rw [ramWritesOf, words_guardedCommand]
  unfold guardedWords
  by_cases hvalue : old = 0x1000
  · simp only [hvalue, ne_eq, not_true_eq_false, if_false] at hold ⊢
    simp only [List.append_nil, List.cons_append, List.nil_append, List.map_cons, List.map_nil, callsOf, operands,
      hfixed, hplain, hclosing, hand, hdevmem, hpointer, hold, hfield, hcontrol, hend, if_true, if_false]
    rfl
  · simp only [hvalue, ne_eq, not_false_eq_true, if_true]
    simp only [List.cons_append, List.nil_append, List.map_cons, List.map_nil, callsOf, operands, hfixed,
      hplain, hclosing, hand, hdevmem, hpointer, hold, hfield, hcontrol, hend, if_true, if_false]
    rfl

/-! ## What the shell does -/

/-- In every run of the line the write comes after the pointer and the old value were read again, as they
were. -/
def Rechecks (pointer field old : Nat) : Prop :=
  guardedCommand pointer field old = andLine (guardedItems pointer field old) ∧
    ∀ t o before e after, Runs (andList (guardedItems pointer field old)) t o → t = before ++ e :: after →
      e.op = ramWrite ("0x" ++ hex8 field) →
        ∃ r₁ r₂, before = [⟨pointerWord, r₁⟩, ⟨StartupPayloads.word ("0x" ++ hex8 field), r₂⟩] ∧
          chomp r₁.stdout = wordText pointer ∧ chomp r₂.stdout = wordText old

-- only the write has five words
theorem two_before_write {pointer field old : Nat} {done rest : List Item} {item : Item}
    (hitems : guardedItems pointer field old = done ++ item :: rest)
    (hcall : item.call = ramWrite ("0x" ++ hex8 field)) :
    done = [.test pointerWord (wordText pointer),
      .test (StartupPayloads.word ("0x" ++ hex8 field)) (wordText old)] := by
  have hfive : item.call.length = 5 := by
    rw [hcall]
    rfl
  have hget : (guardedItems pointer field old)[done.length]? = some item := by
    rw [hitems, List.getElem?_append_right (Nat.le_refl _), Nat.sub_self]
    rfl
  have htwo : done.length = 2 := by
    generalize done.length = n at hget
    unfold guardedItems at hget
    by_cases hold : old = 0x1000
    · rw [if_neg (not_not.mpr hold)] at hget
      match n, hget with
      | 0, hget | 1, hget | 2, hget | 3, hget =>
        cases hget
        cases hfive
      | n + 4, hget => cases hget
    · rw [if_pos hold] at hget
      match n, hget with
      | 2, hget => rfl
      | 0, hget | 1, hget | 3, hget | 4, hget =>
        cases hget
        cases hfive
      | n + 5, hget => cases hget
  have htake : (done ++ item :: rest).take 2 = done := List.take_left' htwo
  rw [← htake, ← hitems]
  rfl

theorem rechecks (pointer field old : Nat) : Rechecks pointer field old := by
  refine ⟨guardedCommand_eq pointer field old, fun t o before e after h ht hwrite => ?_⟩
  obtain ⟨done, item, rest, hitems, hop, hpassed⟩ := runs_andList h ht
  have hdone : done = [.test pointerWord (wordText pointer),
      .test (StartupPayloads.word ("0x" ++ hex8 field)) (wordText old)] :=
    two_before_write hitems (hop.symm.trans hwrite)
  rw [hdone] at hpassed
  cases hpassed with
  | @cons _ e₁ _ _ h₁ hpassed =>
    cases hpassed with
    | @cons _ e₂ _ _ h₂ hpassed =>
      cases hpassed
      obtain ⟨op₁, r₁⟩ := e₁
      obtain ⟨op₂, r₂⟩ := e₂
      obtain ⟨rfl, hr₁⟩ := h₁
      obtain ⟨rfl, hr₂⟩ := h₂
      exact ⟨r₁, r₂, rfl, beq_iff_eq.mp hr₁, beq_iff_eq.mp hr₂⟩

end Cc2Camera.RestorePrepare
