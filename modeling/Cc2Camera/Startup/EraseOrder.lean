import Cc2Camera.Startup.EraseHook

/-!
# EraseOrder — when the boot script writes RAM, mounts and reports success

The parts of the script other than `umount`, the RAM write and the mounts only look.  What a part saw
when it returned is read off its log; the law of the whole script is put together from these by the
weakest precondition over the history.
-/

open Program Shell

namespace Cc2Camera.StartupPayloads

open RestorePrepare

def IsRamWrite (command : Command) : Prop :=
  ∃ address value, command = ["busybox", "devmem", address, "32", value]

/-- A command that neither writes RAM nor changes the mount of the config partition. -/
structure Looks (command : Command) : Prop where
  write : ¬IsRamWrite command
  unmount : command ≠ unmount
  mount : command ≠ mountConfig

def InstructionsSeen (t : Log) : Prop :=
  ∀ i ∈ INSTRUCTIONS, Printed t (word (hexPrefixed i.1)) (wordText i.2)

/-- What the log of the lines before `umount` shows when they let the script go on. -/
structure Admitted (arith : String → Option Int) (env : Environment) (t : Log)
    (pointer field old : String) : Prop where
  runner : env.CC2_STAGE ≠ "" ∧ env.PWD = "/"
  early : Failed t pidofUcamera
  mounted : Succeeded t mounted
  topology : Printed t mountTopology "1"
  partitions : Printed t partitionTable mtd
  symbols : ∀ s ∈ SYMBOLS, Printed t (symbolAddress s.1) (hex8 s.2)
  instructions : InstructionsSeen t
  kernel : Succeeded t kernelMd5 ∧ Printed t kernelMd5 (KERNEL_MD5 ++ "  /dev/mtd1")
  pointerRead : Succeeded t pointerWord ∧ Printed t pointerWord pointer
  pointerText : isWordText pointer = true
  address : ∃ p, arith pointer = some p ∧ pointerInRange p = true ∧
    field = toString (p - 0x80000000 + 16)
  value : Succeeded t (word field) ∧ Printed t (word field) old
  known : old = "0x00004000" ∨ old = "0x00001000"
  synced : Succeeded t ["sync"]

/-- What the log between `umount` and the RAM write shows. -/
structure Rechecked (t : Log) (pointer field old : String) : Prop where
  unmounted : Succeeded t configUnmounted
  pointer : Printed t pointerWord pointer
  value : Printed t (word field) old
  instructions : InstructionsSeen t

structure ReadBack (t : Log) (pointer field : String) : Prop where
  pointer : Printed t pointerWord pointer
  value : Printed t (word field) "0x00001000"

structure Verified (t : Log) : Prop where
  mounted : Succeeded t mounted
  partitions : Printed t partitionTable mtd
  serial : Succeeded t serialPresent

theorem Verified.mono {t t' : Log} (h : Verified t) (hsub : t ⊆ t') : Verified t' :=
  ⟨h.mounted.mono hsub, h.partitions.mono hsub, h.serial.mono hsub⟩

/-- The RAM write, made exactly when the old value asks for it. -/
def Written (t : Log) (field old : String) : Prop :=
  if old ≠ "0x00001000" then ∃ r, r.status = 0 ∧ t = [⟨ramWrite field, r⟩] else t = []

/-! ## The parts that only look -/

theorem looks_of_ne (command : Command) (hlength : command.length ≠ 5)
    (hunmount : command ≠ unmount) (hmount : command ≠ mountConfig) : Looks command := by
  refine ⟨?_, hunmount, hmount⟩
  rintro ⟨address, value, rfl⟩
  exact hlength rfl

theorem looks_word (address : String) : Looks (word address) :=
  looks_of_ne _ (by simp [word]) (by simp [word, unmount]) (by simp [word, mountConfig])

theorem looks_echo (text : String) : Looks ["echo", text] :=
  looks_of_ne _ (by simp) (by simp [unmount]) (by simp [mountConfig])

theorem looks_symbolAddress (name : String) : Looks (symbolAddress name) :=
  looks_of_ne _ (by simp [symbolAddress]) (by simp [symbolAddress, unmount])
    (by simp [symbolAddress, mountConfig])

theorem looks_mounted : Looks mounted := looks_of_ne _ (by decide) (by decide) (by decide)

theorem looks_mountTopology : Looks mountTopology :=
  looks_of_ne _ (by decide) (by decide) (by decide)

theorem looks_configUnmounted : Looks configUnmounted :=
  looks_of_ne _ (by decide) (by decide) (by decide)

theorem looks_partitionTable : Looks partitionTable :=
  looks_of_ne _ (by decide) (by decide) (by decide)

theorem looks_kernelMd5 : Looks kernelMd5 := looks_of_ne _ (by decide) (by decide) (by decide)

theorem looks_pidofUcamera : Looks pidofUcamera := looks_of_ne _ (by decide) (by decide) (by decide)

theorem looks_serialPresent : Looks serialPresent :=
  looks_of_ne _ (by decide) (by decide) (by decide)

theorem looks_sync : Looks ["sync"] := looks_of_ne _ (by decide) (by decide) (by decide)

theorem uses_fail (arguments : String) : (fail arguments).Uses Looks (· ≠ 0) :=
  ⟨looks_echo _, fun _ => Nat.one_ne_zero⟩

theorem leaves_fail (arguments : String) : Leaves (fail arguments) :=
  Leaves.bind fun _ => leaves_exit 1

theorem uses_checks : checks.Uses Looks (· ≠ 0) :=
  uses_each fun _ _ => uses_orElse (uses_prints (looks_word _)) (uses_fail _)

theorem uses_symbols : symbols.Uses Looks (· ≠ 0) :=
  uses_each fun _ _ => uses_orElse (uses_prints (looks_symbolAddress _)) (uses_fail _)

theorem uses_arithmetic (arith : String → Option Int) (text : String) :
    (arithmetic arith text).Uses Looks (· ≠ 0) := by
  unfold arithmetic
  split
  next => trivial
  next => exact Nat.one_ne_zero

theorem uses_preflight (arith : String → Option Int) (env : Environment) :
    (preflight arith env).Uses Looks (· ≠ 0) := by
  unfold preflight
  apply uses_bind (uses_orElse (uses_pure _) (uses_fail _)); intro _
  apply uses_bind (uses_andThen (uses_succeeds looks_pidofUcamera) (uses_fail _)); intro _
  apply uses_bind (uses_orElse (uses_succeeds looks_mounted) (uses_fail _)); intro _
  apply uses_bind (uses_orElse (uses_prints looks_mountTopology) (uses_fail _)); intro _
  apply uses_bind (uses_orElse (uses_prints looks_partitionTable) (uses_fail _)); intro _
  apply uses_bind uses_symbols; intro _
  apply uses_bind uses_checks; intro _
  apply uses_bind (uses_capture looks_kernelMd5 (uses_fail _)); intro _
  apply uses_bind (uses_orElse (uses_pure _) (uses_fail _)); intro _
  apply uses_bind (uses_capture (looks_word _) (uses_fail _)); intro _
  apply uses_bind (uses_orElse (uses_pure _) (uses_fail _)); intro _
  apply uses_bind (uses_arithmetic _ _); intro _
  apply uses_bind (uses_orElse (uses_pure _) (uses_fail _)); intro _
  apply uses_bind (uses_capture (looks_word _) (uses_fail _)); intro _
  apply uses_bind (uses_orElse (uses_pure _) (uses_fail _)); intro _
  apply uses_bind (uses_andThen (uses_succeeds looks_pidofUcamera) (uses_fail _)); intro _
  apply uses_bind (uses_orElse (uses_succeeds looks_sync) (uses_fail _)); intro _
  exact uses_pure _

theorem uses_recheck (pointer field old : String) : (recheck pointer field old).Uses Looks (· ≠ 0) := by
  unfold recheck
  apply uses_bind (uses_orElse (uses_succeeds looks_configUnmounted) (uses_fail _)); intro _
  apply uses_bind (uses_orElse (uses_both (uses_prints (looks_word _)) (uses_prints (looks_word _)))
    (uses_fail _)); intro _
  exact uses_checks

theorem uses_readBack (pointer field : String) : (readBack pointer field).Uses Looks (· ≠ 0) :=
  uses_orElse (uses_both (uses_prints (looks_word _)) (uses_prints (looks_word _))) (uses_fail _)

theorem uses_verify : verify.Uses Looks (· ≠ 0) := by
  unfold verify
  apply uses_bind (uses_orElse (uses_succeeds looks_mounted) (uses_fail _)); intro _
  apply uses_bind (uses_orElse (uses_prints looks_partitionTable) (uses_fail _)); intro _
  exact uses_orElse (uses_succeeds looks_serialPresent) (uses_fail _)

/-! ## What the parts saw -/

section Seen

variable {arith : String → Option Int} {env : Environment} {pointer field old : String} {t T : Log}
  {u : Unit}

theorem seen_checks (h : Runs checks t (.returned u)) : InstructionsSeen t := by
  intro i hi
  obtain ⟨t₁, t₂, t₃, rfl, hbody⟩ := runs_each h hi
  have hprinted := printed_of_runs (runs_orElse (leaves_fail _) hbody)
  exact hprinted.mono (by simp)

theorem seen_symbols (h : Runs symbols t (.returned u)) :
    ∀ s ∈ SYMBOLS, Printed t (symbolAddress s.1) (hex8 s.2) := by
  intro s hs
  obtain ⟨t₁, t₂, t₃, rfl, hbody⟩ := runs_each h hs
  have hprinted := printed_of_runs (runs_orElse (leaves_fail _) hbody)
  exact hprinted.mono (by simp)

/-- `[ … ] || fail` on values the script already has. -/
theorem runs_test {b : Bool} {arguments : String}
    (h : Runs (orElse (pure b) (fail arguments)) t (.returned u)) : b = true :=
  (runs_ret.mp (runs_orElse (leaves_fail _) h)).1

theorem runs_arithmetic {text : String} {p : Int}
    (h : Runs (arithmetic arith text) t (.returned p)) : arith text = some p := by
  unfold arithmetic at h
  split at h
  next value hvalue => rw [hvalue, (runs_ret.mp h).1]
  next => exact absurd h runs_raise

theorem admitted_of_runs (h : Runs (preflight arith env) t (.returned (pointer, field, old))) :
    Admitted arith env t pointer field old := by
  unfold preflight at h
  obtain ⟨_, _, t', -, hs, hrunner, h⟩ := runs_bind_subset (List.Subset.refl t) h
  obtain ⟨_, _, t', hearlySub, hs, hearly, h⟩ := runs_bind_subset hs h
  obtain ⟨_, _, t', hmountedSub, hs, hmounted, h⟩ := runs_bind_subset hs h
  obtain ⟨_, _, t', htopologySub, hs, htopology, h⟩ := runs_bind_subset hs h
  obtain ⟨_, _, t', hpartitionsSub, hs, hpartitions, h⟩ := runs_bind_subset hs h
  obtain ⟨_, _, t', hsymbolsSub, hs, hsymbols, h⟩ := runs_bind_subset hs h
  obtain ⟨_, _, t', hchecksSub, hs, hchecks, h⟩ := runs_bind_subset hs h
  obtain ⟨_, hash, t', hkernelSub, hs, hkernel, h⟩ := runs_bind_subset hs h
  obtain ⟨_, _, t', -, hs, hhash, h⟩ := runs_bind_subset hs h
  obtain ⟨_, pointer', t', hpointerSub, hs, hpointer, h⟩ := runs_bind_subset hs h
  obtain ⟨_, _, t', -, hs, hformat, h⟩ := runs_bind_subset hs h
  obtain ⟨_, p, t', -, hs, harith, h⟩ := runs_bind_subset hs h
  obtain ⟨_, _, t', -, hs, hrange, h⟩ := runs_bind_subset hs h
  obtain ⟨_, old', t', holdSub, hs, hold, h⟩ := runs_bind_subset hs h
  obtain ⟨_, _, t', -, hs, hknown, h⟩ := runs_bind_subset hs h
  obtain ⟨_, _, t', -, hs, -, h⟩ := runs_bind_subset hs h
  obtain ⟨_, _, t', hsyncSub, hs, hsync, h⟩ := runs_bind_subset hs h
  have hresult := (runs_ret.mp h).1
  obtain ⟨rfl, hrest⟩ := Prod.mk.inj hresult
  obtain ⟨rfl, rfl⟩ := Prod.mk.inj hrest
  have hcapture := runs_capture (leaves_fail _) hkernel
  have hpointerSeen := runs_capture (leaves_fail _) hpointer
  have hvalueSeen := runs_capture (leaves_fail _) hold
  have hkernelText : hash = KERNEL_MD5 ++ "  /dev/mtd1" := beq_iff_eq.mp (runs_test hhash)
  exact {
    runner := by simpa using runs_test hrunner
    early := (failed_of_runs (runs_andThen (leaves_fail _) hearly)).mono hearlySub
    mounted := (succeeded_of_runs (runs_orElse (leaves_fail _) hmounted)).mono hmountedSub
    topology := (printed_of_runs (runs_orElse (leaves_fail _) htopology)).mono htopologySub
    partitions := (printed_of_runs (runs_orElse (leaves_fail _) hpartitions)).mono hpartitionsSub
    symbols := fun s hmem => (seen_symbols hsymbols s hmem).mono hsymbolsSub
    instructions := fun i hi => (seen_checks hchecks i hi).mono hchecksSub
    kernel := ⟨hcapture.1.mono hkernelSub, hkernelText ▸ hcapture.2.mono hkernelSub⟩
    pointerRead := ⟨hpointerSeen.1.mono hpointerSub, hpointerSeen.2.mono hpointerSub⟩
    pointerText := runs_test hformat
    address := ⟨p, runs_arithmetic harith, runs_test hrange, rfl⟩
    value := ⟨hvalueSeen.1.mono holdSub, hvalueSeen.2.mono holdSub⟩
    known := by simpa using runs_test hknown
    synced := (succeeded_of_runs (runs_orElse (leaves_fail _) hsync)).mono hsyncSub }

theorem rechecked_of_runs (h : Runs (recheck pointer field old) t (.returned u)) :
    Rechecked t pointer field old := by
  unfold recheck at h
  obtain ⟨_, _, t', hunmountedSub, hs, hunmounted, h⟩ := runs_bind_subset (List.Subset.refl t) h
  obtain ⟨_, _, t', hbothSub, hchecksSub, hboth, hchecks⟩ := runs_bind_subset hs h
  obtain ⟨t₁, t₂, rfl, hpointer, hvalue⟩ := runs_both (runs_orElse (leaves_fail _) hboth)
  exact {
    unmounted := (succeeded_of_runs (runs_orElse (leaves_fail _) hunmounted)).mono hunmountedSub
    pointer := ((printed_of_runs hpointer).mono (List.subset_append_left t₁ t₂)).mono hbothSub
    value := ((printed_of_runs hvalue).mono (List.subset_append_right t₁ t₂)).mono hbothSub
    instructions := fun i hi => (seen_checks hchecks i hi).mono hchecksSub }

theorem readBack_of_runs (h : Runs (readBack pointer field) t (.returned u)) :
    ReadBack t pointer field := by
  obtain ⟨t₁, t₂, rfl, hpointer, hvalue⟩ := runs_both (runs_orElse (leaves_fail _) h)
  exact {
    pointer := (printed_of_runs hpointer).mono (List.subset_append_left t₁ t₂)
    value := (printed_of_runs hvalue).mono (List.subset_append_right t₁ t₂) }

theorem verified_of_runs (h : Runs verify t (.returned u)) : Verified t := by
  unfold verify at h
  obtain ⟨_, _, t', hmountedSub, hs, hmounted, h⟩ := runs_bind_subset (List.Subset.refl t) h
  obtain ⟨_, _, t', hpartitionsSub, hserialSub, hpartitions, hserial⟩ := runs_bind_subset hs h
  exact {
    mounted := (succeeded_of_runs (runs_orElse (leaves_fail _) hmounted)).mono hmountedSub
    partitions := (printed_of_runs (runs_orElse (leaves_fail _) hpartitions)).mono hpartitionsSub
    serial := (succeeded_of_runs (runs_orElse (leaves_fail _) hserial)).mono hserialSub }

end Seen

/-! ## The law of a run -/

/-- What must have happened before a command may write RAM. -/
def Cleared (arith : String → Option Int) (env : Environment) (before : Log) (command : Command) :
    Prop :=
  (∀ e ∈ before, ¬IsRamWrite e.op) ∧
    ∃ t₁ u t₂ pointer field old, before = t₁ ++ ⟨unmount, u⟩ :: t₂ ∧ u.status = 0 ∧
      Admitted arith env t₁ pointer field old ∧ Rechecked t₂ pointer field old ∧
      old ≠ "0x00001000" ∧ command = ramWrite field

/-- Every successful `umount` was followed by an attempt to mount config again. -/
def Attached (t : Log) : Prop :=
  ∀ before u after, t = before ++ ⟨unmount, u⟩ :: after → u.status = 0 →
    ∃ e ∈ after, e.op = mountConfig

/-- The log of a script that reported success, part by part. -/
def Completed (arith : String → Option Int) (env : Environment) (t : Log) : Prop :=
  ∃ t₁ u t₂ w t₃ m t₄ pointer field old,
    t = t₁ ++ ⟨unmount, u⟩ :: (t₂ ++ w ++ t₃ ++ ⟨mountConfig, m⟩ :: t₄) ∧ u.status = 0 ∧
      Admitted arith env t₁ pointer field old ∧ Rechecked t₂ pointer field old ∧
      Written w field old ∧ ReadBack t₃ pointer field ∧ m.status = 0 ∧ Verified t₄

section Attached

variable {t t' : Log}

theorem attached_of_looks (h : ∀ e ∈ t, Looks e.op) : Attached t := by
  rintro before u after rfl _
  have hlooks := h ⟨unmount, u⟩ (by simp)
  exact absurd rfl hlooks.unmount

/-- An event of a log in two pieces lies in the one or in the other. -/
theorem split_append {before after : Log} {e : Event Command fun _ => Finished}
    (h : t ++ t' = before ++ e :: after) :
    (∃ c, t = before ++ e :: c ∧ after = c ++ t') ∨ ∃ c, t' = c ++ e :: after := by
  obtain ⟨c, _, hafter⟩ | ⟨c, hbefore, hafter⟩ := List.append_eq_append_iff.mp h
  · exact Or.inr ⟨c, hafter⟩
  · cases c with
    | nil => exact Or.inr ⟨[], hafter.symm⟩
    | cons first rest =>
      obtain ⟨rfl, rfl⟩ := List.cons.inj hafter
      exact Or.inl ⟨rest, hbefore, rfl⟩

theorem attached_append (h : Attached t) (h' : ∀ e ∈ t', e.op ≠ unmount) : Attached (t ++ t') := by
  intro before u after heq hstatus
  obtain ⟨c, hbefore, hafter⟩ | ⟨c, hright⟩ := split_append heq
  · obtain ⟨e, he, hop⟩ := h before u c hbefore hstatus
    exact ⟨e, hafter ▸ List.mem_append_left t' he, hop⟩
  · exact absurd rfl (h' ⟨unmount, u⟩ (hright ▸ by simp))

theorem attached_refused {u : Finished} (h : ∀ e ∈ t, Looks e.op) (hu : u.status ≠ 0) :
    Attached (t ++ [⟨unmount, u⟩]) := by
  intro before v after heq hstatus
  obtain ⟨c, hbefore, -⟩ | ⟨c, hright⟩ := split_append heq
  · exact absurd rfl (h ⟨unmount, v⟩ (hbefore ▸ by simp)).unmount
  · have hevent : (⟨unmount, v⟩ : Event Command fun _ => Finished) ∈ [⟨unmount, u⟩] :=
      hright ▸ by simp
    cases List.mem_singleton.mp hevent
    exact absurd hstatus hu

/-- After a mount attempt nothing is left detached. -/
theorem attached_mount (t : Log) (m : Finished) : Attached (t ++ [⟨mountConfig, m⟩]) := by
  intro before u after heq _
  obtain ⟨c, -, hafter⟩ | ⟨c, hright⟩ := split_append heq
  · exact ⟨⟨mountConfig, m⟩, hafter ▸ by simp, rfl⟩
  · have hevent : (⟨unmount, u⟩ : Event Command fun _ => Finished) ∈ [⟨mountConfig, m⟩] :=
      hright ▸ by simp
    have hop := congrArg Event.op (List.mem_singleton.mp hevent)
    simp [unmount, mountConfig] at hop

end Attached

section Law

variable {arith : String → Option Int} {env : Environment} {pointer field old : String}

/-- A RAM write is issued only when it was cleared. -/
abbrev Guarded (arith : String → Option Int) (env : Environment) (before : Log)
    (command : Command) : Prop :=
  IsRamWrite command → Cleared arith env before command

theorem guarded_of_looks (h : Log) (command : Command) (hlooks : Looks command) :
    Guarded arith env h command := fun hwrite => absurd hwrite hlooks.write

theorem guarded_mount (h : Log) : Guarded arith env h mountConfig := by
  rintro ⟨address, value, heq⟩
  simp [mountConfig] at heq

theorem guarded_unmount (h : Log) : Guarded arith env h unmount := by
  rintro ⟨address, value, heq⟩
  simp [unmount] at heq

theorem wp_fail {Q : Log → Unit → Prop} {S : Log → Nat → Prop} {h : Log} (arguments : String)
    (hraise : ∀ t, (∀ e ∈ t, Looks e.op) → S (h ++ t) 1) :
    (fail arguments).wp (Guarded arith env) Q S h := by
  refine ⟨guarded_of_looks h _ (looks_echo _), fun r => hraise [_] ?_⟩
  simp only [List.mem_singleton, forall_eq]
  exact looks_echo _

/-- The trap's action mounts, whatever becomes of it, and the exit status stays. -/
theorem wp_recoveryMount {Q : Log → Unit → Prop} {status : Nat} (hstatus : status ≠ 0) (h : Log) :
    (do recoveryMount; exit status : Sh Unit).wp (Guarded arith env) Q
      (fun h' s => Attached h' ∧ s ≠ 0) h := by
  rw [wp_bind]
  apply wp_orElse_succeeds (guarded_mount h)
  · intro m _
    exact ⟨attached_mount h m, hstatus⟩
  · intro m _
    refine ⟨guarded_of_looks _ _ (looks_echo _), fun r => ⟨attached_append (attached_mount h m) ?_, hstatus⟩⟩
    simp only [List.mem_singleton, forall_eq]
    exact (looks_echo _).unmount

theorem wp_writeField {h : Log} (hclear : old ≠ "0x00001000" → Cleared arith env h (ramWrite field)) :
    (writeField field old).wp (Guarded arith env)
      (fun h' _ => ∃ w, h' = h ++ w ∧ Written w field old) (fun _ s => s ≠ 0) h := by
  unfold writeField Written
  by_cases hold : old ≠ "0x00001000"
  · simp only [if_pos hold]
    apply wp_orElse_succeeds fun _ => hclear hold
    · intro r hstatus
      exact ⟨[_], rfl, r, hstatus, rfl⟩
    · intro r _
      exact wp_fail _ fun _ _ => Nat.one_ne_zero
  · simp only [if_neg hold]
    exact ⟨[], (List.append_nil h).symm, rfl⟩

/-- Inside the trap: what a complete correction saw, and that it fails with a nonzero status. -/
theorem wp_correct {t₁ : Log} {u : Finished} (hlooks : ∀ e ∈ t₁, Looks e.op) (hu : u.status = 0)
    (hadmitted : Admitted arith env t₁ pointer field old) :
    (correct pointer field old).wp (Guarded arith env)
      (fun h _ => ∃ t₂ w t₃ m, h = t₁ ++ ⟨unmount, u⟩ :: (t₂ ++ w ++ t₃ ++ [⟨mountConfig, m⟩]) ∧
        Rechecked t₂ pointer field old ∧ Written w field old ∧ ReadBack t₃ pointer field ∧
        m.status = 0)
      (fun _ s => s ≠ 0) (t₁ ++ [⟨unmount, u⟩]) := by
  unfold correct
  rw [wp_bind]
  refine wp_mono (wp_of_uses (uses_recheck pointer field old) fun _ => guarded_of_looks _) ?_ ?_
  · rintro _ _ ⟨t₂, rfl, hrun₂, hlooks₂⟩
    have hrechecked := rechecked_of_runs hrun₂
    have hclear : old ≠ "0x00001000" →
        Cleared arith env (t₁ ++ [⟨unmount, u⟩] ++ t₂) (ramWrite field) := by
      intro hold
      refine ⟨?_, t₁, u, t₂, pointer, field, old, by simp, hu, hadmitted, hrechecked, hold, rfl⟩
      simp only [List.mem_append, List.mem_singleton]
      rintro e ((he | rfl) | he)
      · exact (hlooks e he).write
      · rintro ⟨address, value, heq⟩
        simp [unmount] at heq
      · exact (hlooks₂ e he).write
    rw [wp_bind]
    refine wp_mono (wp_writeField hclear) ?_ fun _ _ hs => hs
    rintro _ _ ⟨w, rfl, hwritten⟩
    rw [wp_bind]
    refine wp_mono (wp_of_uses (uses_readBack pointer field) fun _ => guarded_of_looks _) ?_ ?_
    · rintro _ _ ⟨t₃, rfl, hrun₃, -⟩
      apply wp_orElse_succeeds (guarded_mount _)
      · intro m hm
        exact ⟨t₂, w, t₃, m, by simp, hrechecked, hwritten, readBack_of_runs hrun₃, hm⟩
      · intro m _
        exact wp_fail _ fun _ _ => Nat.one_ne_zero
    · rintro _ s ⟨_, -, hs, -⟩
      exact hs
  · rintro _ s ⟨_, -, hs, -⟩
    exact hs

theorem wp_eraseHook :
    (eraseHook arith env).wp (Guarded arith env)
      (fun h s => Attached h ∧ (s = 0 → Completed arith env h))
      (fun h s => Attached h ∧ s ≠ 0) [] := by
  unfold eraseHook
  rw [wp_bind]
  refine wp_mono (wp_of_uses (uses_preflight arith env) fun _ => guarded_of_looks _) ?_ ?_
  · rintro t₁ ⟨pointer, field, old⟩ ⟨_, rfl, hrun₁, hlooks₁⟩
    have hadmitted := admitted_of_runs hrun₁
    show Program.wp _ _ _ _ _
    rw [wp_bind]
    apply wp_orElse_succeeds (guarded_unmount _)
    · intro u hu
      rw [wp_bind, trapExit, wp_handle]
      refine wp_mono (wp_correct hlooks₁ hu hadmitted) ?_ fun h s hs => wp_recoveryMount hs h
      rintro _ _ ⟨t₂, w, t₃, m, rfl, hrechecked, hwritten, hreadBack, hm⟩
      have hattached : Attached (t₁ ++ ⟨unmount, u⟩ :: (t₂ ++ w ++ t₃ ++ [⟨mountConfig, m⟩])) := by
        rw [← List.cons_append, ← List.append_assoc]
        exact attached_mount _ m
      rw [wp_bind]
      refine wp_mono (wp_of_uses uses_verify fun _ => guarded_of_looks _) ?_ ?_
      · rintro _ _ ⟨t₄, rfl, hrun₄, hlooks₄⟩
        have hverified := verified_of_runs hrun₄
        refine ⟨guarded_of_looks _ _ (looks_echo _), fun r => ⟨?_, fun _ => ?_⟩⟩
        · refine attached_append (attached_append hattached fun e he => (hlooks₄ e he).unmount) ?_
          simp only [List.mem_singleton, forall_eq]
          exact (looks_echo _).unmount
        · exact ⟨t₁, u, t₂, w, t₃, m, t₄ ++ [⟨activeMessage, r⟩], pointer, field, old, by simp, hu, hadmitted,
            hrechecked, hwritten, hreadBack, hm, hverified.mono (List.subset_append_left _ _)⟩
      · rintro _ s ⟨t₄, rfl, hs, hlooks₄⟩
        exact ⟨attached_append hattached fun e he => (hlooks₄ e he).unmount, hs⟩
    · intro u hu
      have hdetached : Attached (t₁ ++ [⟨unmount, u⟩]) := attached_refused hlooks₁ hu
      apply wp_fail _
      intro t hlooks
      exact ⟨attached_append hdetached fun e he => (hlooks e he).unmount, Nat.one_ne_zero⟩
  · rintro _ s ⟨t₁, rfl, hs, hlooks₁⟩
    exact ⟨attached_of_looks hlooks₁, hs⟩

/-- The three guarantees of the script, for a run with log `t` that ended as `o`. -/
structure EraseHookLaw (arith : String → Option Int) (env : Environment) (t : Log)
    (o : Outcome Nat Nat) : Prop where
  /-- A RAM write comes after everything that clears it and after no other RAM write. -/
  write : ∀ before e after, t = before ++ e :: after → IsRamWrite e.op →
    Cleared arith env before e.op
  /-- When the script has exited, a successful `umount` was followed by a mount attempt. -/
  attached : o ≠ .running → Attached t
  success : exitStatus o = some 0 → Completed arith env t

theorem eraseHook_law {t : Log} {o : Outcome Nat Nat} (h : Runs (eraseHook arith env) t o) :
    EraseHookLaw arith env t o := by
  obtain ⟨hwrite, hreturned, hraised⟩ := wp_sound wp_eraseHook h
  refine ⟨hwrite, fun ho => ?_, fun ho => ?_⟩
  · cases o with
    | returned s => exact (hreturned s rfl).1
    | raised s => exact (hraised s rfl).1
    | running => exact absurd rfl ho
  · cases o with
    | returned s => exact (hreturned s rfl).2 (Option.some.inj ho)
    | raised s => exact absurd (Option.some.inj ho) (hraised s rfl).2
    | running => cases ho

/-- The replies of a camera on which the correction goes through. -/
def soundCamera : List Finished :=
  let done : Finished := ⟨0, ""⟩
  let table : Finished := ⟨0, mtd ++ "\n"⟩
  let pointerReply : Finished := ⟨0, "0x81000000\n"⟩
  let instructions : List Finished :=
    [⟨0, "0x3C138044\n"⟩, ⟨0, "0x8E64B190\n"⟩, ⟨0, "0x8C420010\n"⟩, ⟨0, "0x8E220010\n"⟩]
  [⟨1, ""⟩, done, ⟨0, "1\n"⟩, table, ⟨0, "801f06cc\n"⟩, ⟨0, "801efc74\n"⟩, ⟨0, "801f080c\n"⟩] ++
    instructions ++
    [⟨0, "388e256470b2ad70f4a29cc37e0fee32  /dev/mtd1\n"⟩, pointerReply, ⟨0, "0x00004000\n"⟩,
     ⟨1, ""⟩, done, done, done, pointerReply, ⟨0, "0x00004000\n"⟩] ++
    instructions ++
    [done, pointerReply, ⟨0, "0x00001000\n"⟩, done, done, table, done, done]

theorem chomp_mtd : chomp (mtd ++ "\n") = mtd := by
  have hlines : AdbBackup.EXPECTED_PARTITIONS.zipIdx.map mtdLine =
      (AdbBackup.EXPECTED_PARTITIONS.zipIdx.take 5).map mtdLine ++ [mtdLine (("config", 0x020000), 5)] := rfl
  apply chomp_newline
  rw [mtd, hlines, String.intercalate_append_of_ne_nil (by decide) (by decide),
    String.intercalate_singleton, mtdLine, String.toList_append, List.getLast?_append,
    String.toList_append, List.getLast?_append]
  decide

theorem preflight_soundCamera :
    (preflight (fun _ => some 0x81000000) ⟨"/tmp/cc2-hooks.aaaaaa", "/"⟩).interact recorded
      soundCamera = (soundCamera.drop 16, .returned ("0x81000000", "16777232", "0x00004000")) := by
  have hrunner : (orElse (pure ("/tmp/cc2-hooks.aaaaaa" != "" && "/" == "/")) (fail "runner")).interact
      recorded soundCamera = (soundCamera, .returned ()) := rfl
  have hucamera : (andThen (succeeds pidofUcamera) (fail "ucamera-running")).interact recorded
      soundCamera = (soundCamera.drop 1, .returned ()) := rfl
  have hmounted : (orElse (succeeds mounted) (fail "config-mount")).interact recorded
      (soundCamera.drop 1) = (soundCamera.drop 2, .returned ()) := rfl
  have htopology : (orElse (prints mountTopology "1") (fail "mount-topology")).interact recorded
      (soundCamera.drop 2) = (soundCamera.drop 3, .returned ()) := by decide +kernel
  have htable : (orElse (prints partitionTable mtd) (fail "partition-map")).interact recorded
      (soundCamera.drop 3) = (soundCamera.drop 4, .returned ()) :=
    interact_orElse (interact_prints chomp_mtd)
  rw [preflight, interact_bind_of_returned hrunner, interact_bind_of_returned hucamera,
    interact_bind_of_returned hmounted, interact_bind_of_returned htopology,
    interact_bind_of_returned htable]
  decide +kernel

theorem correct_soundCamera :
    (trapExit recoveryMount (correct "0x81000000" "16777232" "0x00004000")).interact recorded
      (soundCamera.drop 17) = (soundCamera.drop 28, .returned ()) := by
  decide +kernel

theorem verify_soundCamera :
    verify.interact recorded (soundCamera.drop 28) = (soundCamera.drop 31, .returned ()) := by
  have hmounted : (orElse (succeeds mounted) (fail "mount-readback")).interact recorded
      (soundCamera.drop 28) = (soundCamera.drop 29, .returned ()) := rfl
  have htable : (orElse (prints partitionTable mtd) (fail "geometry-changed")).interact recorded
      (soundCamera.drop 29) = (soundCamera.drop 30, .returned ()) :=
    interact_orElse (interact_prints chomp_mtd)
  rw [verify, interact_bind_of_returned hmounted, interact_bind_of_returned htable]
  rfl

theorem eraseHook_law_soundCamera :
    ∃ t o, exitStatus o = some 0 ∧
      EraseHookLaw (fun _ => some 0x81000000) ⟨"/tmp/cc2-hooks.aaaaaa", "/"⟩ t o := by
  have hunmount : (orElse (succeeds unmount) (fail "unmount")).interact recorded
      (soundCamera.drop 16) = (soundCamera.drop 17, .returned ()) := rfl
  have hstatus : exitStatus ((eraseHook (fun _ => some 0x81000000)
      ⟨"/tmp/cc2-hooks.aaaaaa", "/"⟩).interact recorded soundCamera).2 = some 0 := by
    rw [eraseHook, interact_bind_of_returned preflight_soundCamera,
      interact_bind_of_returned hunmount, interact_bind_of_returned correct_soundCamera,
      interact_bind_of_returned verify_soundCamera]
    rfl
  obtain ⟨t, ht⟩ := exists_runs_interact recorded (eraseHook (fun _ => some 0x81000000)
    ⟨"/tmp/cc2-hooks.aaaaaa", "/"⟩) soundCamera
  exact ⟨t, _, hstatus, eraseHook_law ht⟩

end Law

end Cc2Camera.StartupPayloads
