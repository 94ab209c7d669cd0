import Cc2Camera.Adb.Reads

/-!
# Stable — what an accepted image says about the reads that were made

The loop of `acquire_stable` keeps the previous image and a counter.  Over the reads so far, most recent
first, the counter is the length of the run of equal images at the front.
-/

open Exceptions Program

namespace Cc2Camera.AdbBackup

open Host

/-- How many elements at the front are equal. -/
def runLength : List Bytes → Nat
  | [] => 0
  | image :: earlier => if earlier.head? = some image then runLength earlier + 1 else 1

theorem head_of_runLength {images : List Bytes} {image : Bytes} {n : Nat}
    (hhead : images.head? = some image) (h : runLength images = n + 2) :
    ∃ earlier, images = image :: earlier ∧ earlier.head? = some image ∧ runLength earlier = n + 1 := by
  cases images with
  | nil => exact absurd hhead nofun
  | cons first earlier =>
    obtain rfl : first = image := Option.some.inj hhead
    rw [runLength] at h
    split at h
    · next hsame => exact ⟨earlier, rfl, hsame, by omega⟩
    · omega

/-- A run of three at the front. -/
theorem three_of_runLength {images : List Bytes} {image : Bytes} (hhead : images.head? = some image)
    (h : runLength images = 3) : ∃ earlier, images = image :: image :: image :: earlier := by
  obtain ⟨second, rfl, hsecond, hlength⟩ := head_of_runLength hhead h
  obtain ⟨third, rfl, hthird, -⟩ := head_of_runLength hsecond hlength
  cases third with
  | nil => exact absurd hthird nofun
  | cons first earlier =>
    obtain rfl : first = image := Option.some.inj hthird
    exact ⟨earlier, rfl⟩

section Loop

variable (unicode : Unicode) (adb : AdbClient) (parts : List MtdPartition)

/-- One full read: its events, the image, and the progress printed after it. -/
structure FlashRead where
  events : Trace
  image : Bytes
  report : Trace

def FlashRead.trace (r : FlashRead) : Trace := r.events ++ r.report

structure FlashRead.Valid (r : FlashRead) : Prop where
  runs : Runs (adb.readFlashOnce unicode parts) r.events (.returned r.image)
  report : ∀ e ∈ r.report, ∃ text, e.op = .print text

/-- What the reads say when the loop accepts an image; `images` are those read, most recent first. -/
structure Settled (images : List Bytes) (image : Bytes) : Prop where
  latest : images.head? = some image
  run : runLength images = REQUIRED_IDENTICAL_READS
  first : ∀ earlier, earlier <:+ images.tail → runLength earlier < REQUIRED_IDENTICAL_READS

variable {unicode adb parts}

theorem prints_of_printAll {texts : List String} {t : Trace} {o : Outcome Exc Unit}
    (h : Runs (printAll texts) t o) : ∀ e ∈ t, ∃ text, e.op = .print text := by
  have honly : Only (fun op => ∃ text, op = .print text) (printAll texts) :=
    only_printAll (fun text => ⟨text, rfl⟩) texts
  have hwp : (printAll texts).wp (fun _ op => ∃ text, op = .print text) _ _ [] :=
    wp_of_uses honly fun _ _ h => h
  intro e he
  obtain ⟨before, after, rfl⟩ := List.append_of_mem he
  exact (wp_sound hwp h).1 before e after rfl

theorem acquireLoop_accepts {progress : ReadProgress} {remaining attempts consecutive : Nat}
    {past : List Bytes} {accepted : Accepted} {t : Trace} (hconsecutive : consecutive = runLength past)
    (hpast : ∀ earlier, earlier <:+ past → runLength earlier < REQUIRED_IDENTICAL_READS)
    (h : Runs (adb.acquireLoop unicode parts progress remaining attempts consecutive past.head?) t
      (.returned (some accepted))) :
    ∃ reads : List FlashRead, t = reads.flatMap FlashRead.trace ∧
      (∀ r ∈ reads, r.Valid unicode adb parts) ∧ accepted.attempts = attempts + reads.length ∧
      reads.length ≤ remaining ∧ accepted.consecutive = REQUIRED_IDENTICAL_READS ∧
      Settled ((reads.map FlashRead.image).reverse ++ past) accepted.image := by
  induction remaining generalizing t attempts consecutive past with
  | zero =>
    obtain ⟨hnone, -⟩ := runs_ret.mp h
    exact absurd hnone nofun
  | succ remaining ih =>
    obtain ⟨events, current, rest, hread, hrest, rfl⟩ := runs_bind.mp h
    obtain ⟨report, u, rest', hreport, hloop, rfl⟩ := runs_bind.mp hrest
    have hvalid : FlashRead.Valid unicode adb parts ⟨events, current, report⟩ :=
      ⟨hread, prints_of_printAll hreport⟩
    have hnext : (if past.head? = some current then consecutive + 1 else 1) = runLength (current :: past) := by
      rw [runLength, hconsecutive]
    rw [hnext] at hloop
    have hbound : runLength (current :: past) ≤ REQUIRED_IDENTICAL_READS := by
      have := hpast past List.suffix_rfl
      rw [runLength]
      split
      · omega
      · exact Nat.le_of_ble_eq_true rfl
    by_cases hdone : REQUIRED_IDENTICAL_READS ≤ runLength (current :: past)
    · rw [if_pos hdone] at hloop
      obtain ⟨haccepted, rfl⟩ := runs_ret.mp hloop
      obtain rfl := Option.some.inj haccepted
      refine ⟨[⟨events, current, report⟩], ?_, ?_, rfl, Nat.le_add_left 1 _, ?_, rfl, ?_, hpast⟩
      · rw [List.append_nil, List.flatMap_singleton]
        rfl
      · rintro r hr
        rw [List.mem_singleton.mp hr]
        exact hvalid
      · exact le_antisymm hbound hdone
      · exact le_antisymm hbound hdone
    · rw [if_neg hdone] at hloop
      have hpast' : ∀ earlier, earlier <:+ current :: past →
          runLength earlier < REQUIRED_IDENTICAL_READS := by
        intro earlier hsuffix
        rcases List.suffix_cons_iff.mp hsuffix with rfl | hold
        · exact Nat.lt_of_not_le hdone
        · exact hpast earlier hold
      obtain ⟨reads, rfl, hreads, hattempts, hcount, hthree, hsettled⟩ := ih rfl hpast' hloop
      refine ⟨⟨events, current, report⟩ :: reads, ?_, ?_, ?_, ?_, hthree, ?_⟩
      · rw [List.flatMap_cons, FlashRead.trace, List.append_assoc]
      · exact List.forall_mem_cons.mpr ⟨hvalid, hreads⟩
      · rw [hattempts, List.length_cons]
        omega
      · exact Nat.succ_le_succ hcount
      · rw [List.map_cons, List.reverse_cons, List.append_assoc]
        exact hsettled

/-- Three full reads in a row returned `image`, the last of them last. -/
def ThreeEqualReads (unicode : Unicode) (adb : AdbClient) (parts : List MtdPartition) (image : Bytes)
    (t : Trace) : Prop :=
  ∃ (before : Trace) (r₁ r₂ r₃ : FlashRead), t = before ++ (r₁.trace ++ (r₂.trace ++ r₃.trace)) ∧
    ∀ r ∈ [r₁, r₂, r₃], r.Valid unicode adb parts ∧ r.image = image

/-- An accepted image is that of the last three reads. -/
theorem settled_lastThree {reads : List FlashRead} {image : Bytes}
    (h : Settled ((reads.map FlashRead.image).reverse) image) :
    ∃ earlier r₁ r₂ r₃, reads = earlier ++ [r₁, r₂, r₃] ∧ ∀ r ∈ [r₁, r₂, r₃], r.image = image := by
  obtain ⟨earlier, hearlier⟩ := three_of_runLength h.latest h.run
  rw [← List.map_reverse] at hearlier
  obtain ⟨r₃, rest₃, hrest₃, himage₃, hrest⟩ := List.map_eq_cons_iff.mp hearlier
  obtain ⟨r₂, rest₂, rfl, himage₂, hrest⟩ := List.map_eq_cons_iff.mp hrest
  obtain ⟨r₁, rest₁, rfl, himage₁, -⟩ := List.map_eq_cons_iff.mp hrest
  refine ⟨rest₁.reverse, r₁, r₂, r₃, ?_, ?_⟩
  · rw [← List.reverse_reverse reads, hrest₃]
    simp
  · simp only [List.forall_mem_cons, List.not_mem_nil, false_implies, implies_true, and_true]
    exact ⟨himage₁, himage₂, himage₃⟩

theorem threeEqualReads_of_settled {reads : List FlashRead} {image : Bytes}
    (hreads : ∀ r ∈ reads, r.Valid unicode adb parts)
    (h : Settled ((reads.map FlashRead.image).reverse) image) :
    ThreeEqualReads unicode adb parts image (reads.flatMap FlashRead.trace) := by
  obtain ⟨earlier, r₁, r₂, r₃, rfl, himage⟩ := settled_lastThree h
  refine ⟨earlier.flatMap FlashRead.trace, r₁, r₂, r₃, by simp, fun r hr => ?_⟩
  exact ⟨hreads r (List.mem_append_right _ hr), himage r hr⟩

end Loop

/-! ## `acquire_stable` -/

section Acquire

variable {hashlib : Hashlib} {unicode : Unicode} {pyText : PyText} {adb : AdbClient}
  {progress : ReadProgress} {image : Bytes} {manifest : Manifest} {t : Trace}

/-- The identification, the reads and the clock of a call of `acquire_stable` that returned. -/
structure Acquired (hashlib : Hashlib) (unicode : Unicode) (pyText : PyText) (adb : AdbClient)
    (image : Bytes) (manifest : Manifest) (identification : Trace) (reads : List FlashRead)
    (clock : Trace) : Prop where
  identified : Runs (adb.identityAndPartitions unicode pyText) identification
    (.returned (manifest.deviceIdentity, manifest.partitions))
  valid : ∀ r ∈ reads, r.Valid unicode adb manifest.partitions
  settled : Settled ((reads.map FlashRead.image).reverse) image
  passes : manifest.readPasses = reads.length
  count : reads.length ≤ MAX_READ_ATTEMPTS
  consecutive : manifest.consecutiveIdenticalReads = REQUIRED_IDENTICAL_READS
  timed : clock = [⟨.utcNow, .ok manifest.createdUtc⟩]
  serial : manifest.adbSerial = adb.serial
  bootloader : bootloaderReference hashlib image = .ok manifest.bootloader
  digest : manifest.digest = hashes hashlib image

theorem acquireStable_returned
    (h : Runs (acquireStable hashlib unicode pyText adb progress) t (.returned (image, manifest))) :
    ∃ identification reads clock, t = identification ++ (reads.flatMap FlashRead.trace ++ clock) ∧
      Acquired hashlib unicode pyText adb image manifest identification reads clock := by
  obtain ⟨t₁, ⟨identity, parts⟩, t₂, hident, h₁, rfl⟩ := runs_bind.mp h
  obtain ⟨t₃, outcome, t₄, hloop, h₂, rfl⟩ := runs_bind.mp h₁
  obtain ⟨t₅, accepted, t₆, haccepted, h₃, rfl⟩ := runs_bind.mp h₂
  obtain ⟨houtcome, rfl⟩ := runs_lift.mp haccepted
  obtain ⟨t₇, createdUtc, t₈, hclock, h₄, rfl⟩ := runs_bind.mp h₃
  obtain rfl := runs_call.mp hclock
  obtain ⟨t₉, bootloader, t₁₀, hlift, hret, rfl⟩ := runs_bind.mp h₄
  obtain ⟨hboot, rfl⟩ := runs_lift.mp hlift
  obtain ⟨hresult, rfl⟩ := runs_ret.mp hret
  obtain ⟨rfl, rfl⟩ := Prod.mk.inj hresult
  obtain rfl := orRaise_eq_ok.mp houtcome
  have hloop₀ : Runs (adb.acquireLoop unicode parts progress MAX_READ_ATTEMPTS 0 0 ([] : List Bytes).head?) t₃
      (.returned (some accepted)) := hloop
  have hnone : ∀ earlier : List Bytes, earlier <:+ [] → runLength earlier < REQUIRED_IDENTICAL_READS := by
    intro earlier hsuffix
    rw [List.suffix_nil.mp hsuffix]
    decide
  obtain ⟨reads, rfl, hreads, hattempts, hcount, hthree, hsettled⟩ :=
    acquireLoop_accepts rfl hnone hloop₀
  rw [List.append_nil] at hsettled
  refine ⟨t₁, reads, [⟨.utcNow, .ok createdUtc⟩], by simp, ?_⟩
  exact ⟨hident, hreads, hsettled, hattempts.trans (Nat.zero_add _), hcount, hthree, rfl, rfl, hboot, rfl⟩

end Acquire

end Cc2Camera.AdbBackup
