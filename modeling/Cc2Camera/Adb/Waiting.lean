import Cc2Camera.Adb.Answering
import Cc2Camera.Lib.World
import Mathlib.Algebra.Order.Floor.Ring
import Mathlib.Data.Rat.Floor
import Mathlib.Tactic.Linarith

/-!
# Waiting — how `wait_for_device` spends its time

A check is one event, a run of `ensure_available`; whether it succeeded and what it raised is what that run says.
The order of events needs nothing of the clock.  That the checks are finite needs a clock that never runs
back and that a sleep advances.
-/

open Bytes Exceptions Program World

namespace Cc2Camera.AdbBackup

open Host

/-- `time.monotonic()` answered `now`. -/
def reading (now : ℚ) : Event Op Reply := ⟨.monotonic, .ok now⟩

section Waiting

variable (unicode : Unicode) (pyText : PyText) (adb : AdbClient)

/-! ## Checks -/

/-- The event is a check given `limit` seconds, and ends so. -/
def Check (limit : ℚ) (e : Event Op Reply) (o : Outcome Exc Unit) : Prop :=
  Runs (adb.ensureAvailable unicode pyText limit) [e] o

def getState (limit : ℚ) : Op := .runProcess (adb.base ++ ["get-state"]) limit

variable {unicode pyText adb}

/-- An operation, whose exceptions are renamed, and a pure verdict on its answer. -/
theorem exists_verdict_of {op : Op} {g : Exc → Host (Answer op)} {f : Answer op → Host Unit}
    (hg : ∀ x, ∃ y, g x = .raise y) (hf : ∀ a, ∃ e, f a = lift e) :
    ∃ verdict : Reply op → Except Exc Unit,
      ((call op).handle g >>= f) = .act op fun r => Program.ofExcept (verdict r) := by
  have hpure (r : Reply op) : ∃ e, ((Program.ofExcept r).handle g >>= f) = (Program.ofExcept e : Host Unit) := by
    cases r with
    | ok a =>
      obtain ⟨e, he⟩ := hf a
      exact ⟨e, he⟩
    | error x =>
      obtain ⟨y, hy⟩ := hg x
      exact ⟨.error y, congrArg (· >>= f) hy⟩
  choose verdict hverdict using hpure
  exact ⟨verdict, congrArg (Program.act op) (funext hverdict)⟩

/-- With time left `ensure_available` is one operation and a verdict. -/
theorem exists_verdict (unicode : Unicode) (pyText : PyText) (adb : AdbClient) {limit : ℚ} (hlimit : 0 < limit) :
    ∃ verdict : Reply (getState adb limit) → Except Exc Unit,
      adb.ensureAvailable unicode pyText limit =
        .act (getState adb limit) fun r => Program.ofExcept (verdict r) := by
  unfold AdbClient.ensureAvailable
  rw [raiseIf_of_not (not_le_of_gt hlimit)]
  apply exists_verdict_of
  · intro x
    split
    · exact ⟨_, rfl⟩
    · split
      · exact ⟨_, rfl⟩
      · exact ⟨_, rfl⟩
  · exact fun result => ⟨_, rfl⟩

theorem Check.op_eq {limit : ℚ} {e : Event Op Reply} {o : Outcome Exc Unit}
    (h : Check unicode pyText adb limit e o) : e.op = getState adb limit := by
  by_cases hlimit : 0 < limit
  · obtain ⟨verdict, hverdict⟩ := exists_verdict unicode pyText adb hlimit
    unfold Check at h
    rw [hverdict] at h
    cases h
    rfl
  · unfold Check AdbClient.ensureAvailable at h
    rw [raiseIf_of (not_lt.mp hlimit)] at h
    cases h

theorem Check.unique {limit limit' : ℚ} {e : Event Op Reply} {o o' : Outcome Exc Unit}
    (h : Check unicode pyText adb limit e o) (h' : Check unicode pyText adb limit' e o') (ho : o ≠ .running)
    (ho' : o' ≠ .running) : o = o' := by
  have hop := h.op_eq.symm.trans h'.op_eq
  cases hop
  exact runs_unique h h' ho ho'

/-! ## The order of events -/

/-- The clock was read first and last, and the deadline had not been reached. -/
structure InTime (timeout : ℚ) (h : Trace) (start now : ℚ) : Prop where
  opens : h.head? = some (reading start)
  latest : h.getLast? = some (reading now)
  before : now < start + timeout

/-- What a check may be given. -/
def MayCheck (timeout limit : ℚ) (h : Trace) : Prop :=
  ∃ start now, InTime timeout h start now ∧ 0 < limit ∧ limit ≤ 10 ∧ limit ≤ start + timeout - now

variable (unicode pyText adb)

/-- A sleep follows a failure of the transition and ends by the deadline. -/
def MaySleep (timeout seconds : ℚ) (h : Trace) : Prop :=
  ∃ start now, InTime timeout h start now ∧ 0 < seconds ∧ now + seconds ≤ start + timeout ∧
    ∃ earlier e limit x, h = earlier ++ [e, reading now] ∧ Check unicode pyText adb limit e (.raised x) ∧
      isTransition pyText x = true

/-- What may be issued after a history: nothing after a success or after any other failure. -/
structure Permitted (timeout : ℚ) (h : Trace) (op : Op) : Prop where
  unfinished : ∀ e limit, h.getLast? = some e → ¬Check unicode pyText adb limit e (.returned ())
  transition : ∀ e limit x, h.getLast? = some e → Check unicode pyText adb limit e (.raised x) →
    isTransition pyText x = true
  check : ∀ command limit, op = .runProcess command limit → MayCheck timeout limit h
  sleep : ∀ seconds, op = .sleep seconds → MaySleep unicode pyText adb timeout seconds h

/-- The last event is a check that succeeded. -/
def Online (h : Trace) : Prop :=
  ∃ e limit, h.getLast? = some e ∧ Check unicode pyText adb limit e (.returned ())

/-- A failure of the last check that is none of the transition is what is raised. -/
def Raises (h : Trace) (x : Exc) : Prop :=
  ∀ e limit y, h.getLast? = some e → Check unicode pyText adb limit e (.raised y) → isTransition pyText y = false →
    x = y

/-- Between two checks. -/
structure Between (start : ℚ) (h : Trace) : Prop where
  opens : h.head? = some (reading start)
  noCheck : ∀ e, h.getLast? = some e → ∀ limit, e.op ≠ getState adb limit

variable {unicode pyText adb}

theorem Between.permitted {timeout start : ℚ} {h : Trace} {op : Op} (hbetween : Between adb start h)
    (hcheck : ∀ command limit, op = .runProcess command limit → MayCheck timeout limit h)
    (hsleep : ∀ seconds, op = .sleep seconds → MaySleep unicode pyText adb timeout seconds h) :
    Permitted unicode pyText adb timeout h op where
  unfinished e limit he hrun := hbetween.noCheck e he limit hrun.op_eq
  transition e limit _ he hrun := absurd hrun.op_eq (hbetween.noCheck e he limit)
  check := hcheck
  sleep := hsleep

theorem Between.raises {start : ℚ} {h : Trace} {x : Exc} (hbetween : Between adb start h) :
    Raises unicode pyText adb h x :=
  fun e limit _ he hrun _ => absurd hrun.op_eq (hbetween.noCheck e he limit)

theorem between_append {start : ℚ} {h : Trace} {e : Event Op Reply} (hopens : h.head? = some (reading start))
    (he : ∀ limit, e.op ≠ getState adb limit) : Between adb start (h ++ [e]) where
  opens := by
    rw [List.head?_append, hopens]
    rfl
  noCheck e' he' := by
    rw [List.getLast?_concat] at he'
    cases he'
    exact he

section Loop

variable {timeout start : ℚ} {h : Trace}

/-- A reading in time, and the rest of the program after it. -/
theorem wp_remaining {f : ℚ → Host Unit} {x : Exc} (hopens : h.head? = some (reading start))
    (hpermitted : Permitted unicode pyText adb timeout h .monotonic)
    (hf : ∀ now, InTime timeout (h ++ [reading now]) start now → Between adb start (h ++ [reading now]) →
      (f now).wp (Permitted unicode pyText adb timeout) (fun h _ => Online unicode pyText adb h)
        (Raises unicode pyText adb) (h ++ [reading now])) :
    (call .monotonic >>= fun now => lift (raiseIf (start + timeout - now ≤ 0) x) >>= fun _ => f now).wp
      (Permitted unicode pyText adb timeout) (fun h _ => Online unicode pyText adb h)
      (Raises unicode pyText adb) h := by
  have hnext (r : Reply .monotonic) : Between adb start (h ++ [⟨.monotonic, r⟩]) :=
    between_append hopens fun _ hop => by cases hop
  refine ⟨hpermitted, fun r => ?_⟩
  cases r with
  | error y => exact (hnext (.error y)).raises
  | ok now =>
    change (lift (raiseIf (start + timeout - now ≤ 0) x) >>= fun _ => f now).wp _ _ _ (h ++ [reading now])
    by_cases hlate : start + timeout - now ≤ 0
    · rw [raiseIf_of hlate]
      exact (hnext (.ok now)).raises
    · rw [raiseIf_of_not hlate]
      have hopens := (hnext (.ok now)).opens
      exact hf now ⟨hopens, List.getLast?_concat .., by linarith⟩ (hnext (.ok now))

/-- What follows a check that raised. -/
theorem wp_failure {e : Event Op Reply} {limit : ℚ} {x : Exc} {p : Host Unit}
    (hopens : h.head? = some (reading start)) (hcheck : Check unicode pyText adb limit e (.raised x))
    (hp : ∀ h, Between adb start h → p.wp (Permitted unicode pyText adb timeout)
      (fun h _ => Online unicode pyText adb h) (Raises unicode pyText adb) h) :
    (do
      lift (raiseIf (isTransition pyText x = false) x)
      let later ← call .monotonic
      lift (raiseIf (start + timeout - later ≤ 0) (waitTimedOut x.str))
      call (.sleep (min (1 / 2) (start + timeout - later)))
      p : Host Unit).wp (Permitted unicode pyText adb timeout) (fun h _ => Online unicode pyText adb h)
        (Raises unicode pyText adb) (h ++ [e]) := by
  have hlast {e' : Event Op Reply} (he' : (h ++ [e]).getLast? = some e') : e = e' := by
    rw [List.getLast?_concat] at he'
    exact Option.some.inj he'
  have hraised {limit' : ℚ} {o : Outcome Exc Unit} (ho : Check unicode pyText adb limit' e o) (hne : o ≠ .running) :
      .raised x = o := hcheck.unique ho nofun hne
  by_cases htransition : isTransition pyText x = true
  swap
  · rw [raiseIf_of (Bool.eq_false_iff.mpr htransition)]
    intro e' limit' y he' hy _
    cases hlast he'
    cases hraised hy nofun
    rfl
  rw [raiseIf_of_not (by rw [htransition]; exact Bool.noConfusion)]
  have hopens' : (h ++ [e]).head? = some (reading start) := by
    rw [List.head?_append, hopens]
    rfl
  apply wp_remaining hopens'
  · refine ⟨?_, ?_, nofun, nofun⟩
    · intro e' limit' he' hreturned
      cases hlast he'
      cases hraised hreturned nofun
    · intro e' limit' y he' hy
      cases hlast he'
      cases hraised hy nofun
      exact htransition
  intro later hlater hready
  have hleft : 0 < start + timeout - later := by linarith [hlater.before]
  have hseconds : 0 < min (1 / 2) (start + timeout - later) := lt_min (by norm_num) hleft
  have hend : later + min (1 / 2) (start + timeout - later) ≤ start + timeout := by
    linarith [min_le_right (1 / 2) (start + timeout - later)]
  have hnext (r : Reply (.sleep (min (1 / 2) (start + timeout - later)))) :
      Between adb start (h ++ [e] ++ [reading later] ++ [⟨.sleep _, r⟩]) :=
    between_append hready.opens fun _ hop => by cases hop
  refine ⟨hready.permitted nofun ?_, fun r => ?_⟩
  · rintro seconds ⟨⟩
    refine ⟨start, later, hlater, hseconds, hend, h, e, limit, x, ?_, hcheck, htransition⟩
    rw [List.append_assoc]
    rfl
  cases r with
  | error y => exact (hnext (.error y)).raises
  | ok u => exact hp _ (hnext (.ok u))

theorem wp_waitLoop {budget : Nat} {lastState : String} (hbetween : Between adb start h) :
    (adb.waitLoop unicode pyText (start + timeout) budget lastState).wp
      (Permitted unicode pyText adb timeout) (fun h _ => Online unicode pyText adb h)
      (Raises unicode pyText adb) h := by
  induction budget generalizing h lastState with
  | zero => trivial
  | succ budget ih =>
    apply wp_remaining hbetween.opens (hbetween.permitted nofun nofun)
    intro now hnow hready
    have hleft : 0 < start + timeout - now := by linarith [hnow.before]
    have hlimit : 0 < min 10 (start + timeout - now) := lt_min (by norm_num) hleft
    obtain ⟨verdict, hverdict⟩ := exists_verdict unicode pyText adb hlimit
    rw [hverdict]
    refine ⟨hready.permitted ?_ nofun, fun r => ?_⟩
    · rintro command limit ⟨⟩
      exact ⟨start, now, hnow, hlimit, min_le_left _ _, min_le_right _ _⟩
    set e : Event Op Reply := ⟨getState adb (min 10 (start + timeout - now)), r⟩
    have hlast : (h ++ [reading now] ++ [e]).getLast? = some e := List.getLast?_concat ..
    have hcheck {o : Outcome Exc Unit} (ho : Runs (Program.ofExcept (verdict r) : Host Unit) [] o) :
        Check unicode pyText adb (min 10 (start + timeout - now)) e o := by
      unfold Check
      rw [hverdict]
      exact .act ho
    change ((Program.ofExcept (verdict r) : Host Unit).attempt >>= _).wp _ _ _ _
    cases hr : verdict r with
    | ok u =>
      rw [hr] at hcheck
      exact ⟨e, _, hlast, hcheck (.ret ())⟩
    | error x =>
      rw [hr] at hcheck
      exact wp_failure hready.opens (hcheck (.raise x)) fun _ hbetween => ih hbetween

end Loop

/-! ## Time -/

/-- A clock that never runs back and that a sleep advances; its state is the least it can read. -/
def clock : World Op Reply ℚ where
  answers s e := ∀ r, e = ⟨.monotonic, r⟩ → ∃ now, r = .ok now ∧ s ≤ now
  after s e :=
    match e with
    | ⟨.monotonic, .ok now⟩ => now
    | ⟨.sleep seconds, .ok _⟩ => s + seconds
    | _ => s

def isCheck (e : Event Op Reply) : Bool :=
  match e.op with
  | .runProcess _ _ => true
  | _ => false

def checks (t : Trace) : Nat := t.countP isCheck

section Clock

variable {s deadline : ℚ} {budget rounds : ℕ} {lastState : String} {t : Trace} {o : Outcome Exc Unit}

-- a round takes half a second, or reaches the deadline
theorem rounds_after {now later : ℚ} (hrounds : 2 * (deadline - s) ≤ rounds + 1) (hnow : s ≤ now)
    (hlater : now ≤ later) : 2 * (deadline - (later + min (1 / 2) (deadline - later))) ≤ rounds := by
  have hpos : (0 : ℚ) ≤ rounds := Nat.cast_nonneg rounds
  rcases min_choice (1 / 2) (deadline - later) with hhalf | hrest
  · rw [hhalf]
    linarith
  · rw [hrest]
    linarith

theorem round_left {now : ℚ} (hrounds : 2 * (deadline - s) ≤ rounds) (hnow : s ≤ now) (hleft : 0 < deadline - now) :
    ∃ n : ℕ, rounds = n + 1 ∧ 2 * (deadline - s) ≤ n + 1 := by
  cases rounds with
  | zero =>
    rw [Nat.cast_zero] at hrounds
    linarith
  | succ n =>
    rw [Nat.cast_succ] at hrounds
    exact ⟨n, rfl, hrounds⟩

/-- The run ends, by returning or by raising. -/
abbrev Ends (p : Host Unit) (s : ℚ) : Prop := clock.Ensures p (fun _ _ => True) (fun _ _ => True) s

theorem ends_remaining {f : ℚ → Host Unit} {x : Exc} (hf : ∀ now, s ≤ now → 0 < deadline - now → Ends (f now) now) :
    Ends (call .monotonic >>= fun now => lift (raiseIf (deadline - now ≤ 0) x) >>= fun _ => f now) s := by
  intro r hr
  obtain ⟨now, rfl, hnow⟩ := hr r rfl
  change Ends (lift (raiseIf (deadline - now ≤ 0) x) >>= fun _ => f now) now
  by_cases hlate : deadline - now ≤ 0
  · rw [raiseIf_of hlate]
    trivial
  · rw [raiseIf_of_not hlate]
    exact hf now hnow (not_le.mp hlate)

theorem ends_waitLoop (hrounds : 2 * (deadline - s) ≤ rounds) (hbudget : rounds < budget) :
    Ends (adb.waitLoop unicode pyText deadline budget lastState) s := by
  induction budget generalizing s rounds lastState with
  | zero => omega
  | succ budget ih =>
    apply ends_remaining
    intro now hnow hleft
    obtain ⟨verdict, hverdict⟩ := exists_verdict unicode pyText adb
      (lt_min (by norm_num) hleft : 0 < min 10 (deadline - now))
    rw [hverdict]
    intro r _
    change Ends ((Program.ofExcept (verdict r) : Host Unit).attempt >>= _) now
    cases verdict r with
    | ok u => trivial
    | error x =>
      change Ends (lift (raiseIf (isTransition pyText x = false) x) >>= _) now
      by_cases htransition : isTransition pyText x = false
      · rw [raiseIf_of htransition]
        trivial
      rw [raiseIf_of_not htransition]
      apply ends_remaining
      intro later hlater _
      obtain ⟨rounds, rfl, hround⟩ := round_left hrounds hnow hleft
      intro r _
      cases r with
      | error y => trivial
      | ok u => exact ih (rounds_after hround hnow hlater) (Nat.lt_of_succ_lt_succ hbudget)

theorem checks_remaining {f : ℚ → Host Unit} {x : Exc}
    (h : clock.RunsIn s (call .monotonic >>= fun now => lift (raiseIf (deadline - now ≤ 0) x) >>= fun _ => f now) t o) :
    checks t = 0 ∨ ∃ now t', s ≤ now ∧ 0 < deadline - now ∧ checks t = checks t' ∧ clock.RunsIn now (f now) t' o := by
  rcases runsIn_act h with ⟨rfl, -⟩ | ⟨r, t', rfl, hr, hrest⟩
  · exact .inl rfl
  obtain ⟨now, rfl, hnow⟩ := hr r rfl
  change clock.RunsIn now (lift (raiseIf (deadline - now ≤ 0) x) >>= fun _ => f now) t' o at hrest
  have hchecks : checks (⟨.monotonic, .ok now⟩ :: t') = checks t' := rfl
  by_cases hlate : deadline - now ≤ 0
  · rw [raiseIf_of hlate] at hrest
    have hnil : t' = [] := by
      cases hrest.runs with
      | raise => rfl
      | stop => rfl
    rw [hchecks, hnil]
    exact .inl rfl
  · rw [raiseIf_of_not hlate] at hrest
    exact .inr ⟨now, t', hnow, not_le.mp hlate, hchecks, hrest⟩

theorem checks_waitLoop (hrounds : 2 * (deadline - s) ≤ rounds)
    (h : clock.RunsIn s (adb.waitLoop unicode pyText deadline budget lastState) t o) : checks t ≤ rounds := by
  induction budget generalizing s rounds lastState t with
  | zero =>
    cases h.runs with
    | stop => exact Nat.zero_le _
  | succ budget ih =>
    rcases checks_remaining h with hnone | ⟨now, t', hnow, hleft, hchecks, hrest⟩
    · omega
    obtain ⟨rounds, rfl, hround⟩ := round_left hrounds hnow hleft
    obtain ⟨verdict, hverdict⟩ := exists_verdict unicode pyText adb
      (lt_min (by norm_num) hleft : 0 < min 10 (deadline - now))
    rw [hverdict] at hrest
    rw [hchecks]
    rcases runsIn_act hrest with ⟨rfl, -⟩ | ⟨r, t'', rfl, -, hrest⟩
    · exact Nat.zero_le _
    have hcount : checks (⟨getState adb (min 10 (deadline - now)), r⟩ :: t'') = checks t'' + 1 :=
      List.countP_cons_of_pos rfl
    rw [hcount]
    apply Nat.succ_le_succ
    change clock.RunsIn now ((Program.ofExcept (verdict r) : Host Unit).attempt >>= _) t'' o at hrest
    cases hr : verdict r with
    | ok u =>
      rw [hr] at hrest
      obtain ⟨rfl, -⟩ := runsIn_ret hrest
      exact Nat.zero_le _
    | error x =>
      rw [hr] at hrest
      change clock.RunsIn now (lift (raiseIf (isTransition pyText x = false) x) >>= _) t'' o at hrest
      by_cases htransition : isTransition pyText x = false
      · rw [raiseIf_of htransition] at hrest
        cases hrest.runs with
        | raise => exact Nat.zero_le _
        | stop => exact Nat.zero_le _
      rw [raiseIf_of_not htransition] at hrest
      rcases checks_remaining hrest with hnone | ⟨later, t₃, hlater, -, hchecks, hrest⟩
      · omega
      rw [hchecks]
      rcases runsIn_act hrest with ⟨rfl, -⟩ | ⟨r, t₄, rfl, -, hrest⟩
      · exact Nat.zero_le _
      have hsleep : checks (⟨.sleep (min (1 / 2) (deadline - later)), r⟩ :: t₄) = checks t₄ := rfl
      rw [hsleep]
      cases r with
      | error y =>
        cases hrest.runs with
        | raise => exact Nat.zero_le _
        | stop => exact Nat.zero_le _
      | ok u => exact ih (rounds_after hround hnow hlater) hrest

end Clock

/-! ## The law -/

variable (unicode pyText adb)

/-- What a run of `wait_for_device` did, whatever the clock read. -/
structure Waited (timeout : ℚ) (t : Trace) (o : Outcome Exc Unit) : Prop where
  check : ∀ before command limit r after, t = before ++ ⟨.runProcess command limit, r⟩ :: after →
    MayCheck timeout limit before
  sleep : ∀ before seconds r after, t = before ++ ⟨.sleep seconds, r⟩ :: after →
    MaySleep unicode pyText adb timeout seconds before
  failure : ∀ before e after limit x, t = before ++ e :: after → Check unicode pyText adb limit e (.raised x) →
    isTransition pyText x = false → after = [] ∧ (o = .raised x ∨ o = .running)
  success : ∀ before e after limit, t = before ++ e :: after → Check unicode pyText adb limit e (.returned ()) →
    after = []
  returned : o = .returned () → Online unicode pyText adb t

variable {unicode pyText adb}

theorem wp_waitForDevice (timeout : ℚ) (budget : Nat) :
    (adb.waitForDevice unicode pyText timeout budget).wp (Permitted unicode pyText adb timeout)
      (fun h _ => Online unicode pyText adb h) (Raises unicode pyText adb) [] := by
  unfold AdbClient.waitForDevice
  by_cases htimeout : timeout ≤ 0
  · rw [raiseIf_of htimeout]
    intro e limit y he
    cases he
  rw [raiseIf_of_not htimeout]
  have hfirst : Permitted unicode pyText adb timeout [] .monotonic := by
    refine ⟨?_, ?_, nofun, nofun⟩
    · intro e limit he
      cases he
    · intro e limit x he
      cases he
  refine ⟨hfirst, fun r => ?_⟩
  cases r with
  | error y =>
    intro e limit x he hrun
    cases he
    cases hrun.op_eq
  | ok start =>
    have hbetween : Between adb start [reading start] := by
      refine ⟨rfl, ?_⟩
      rintro e ⟨⟩ limit hop
      cases hop
    exact wp_waitLoop hbetween

theorem waited_of_runs {timeout : ℚ} {budget : Nat} {t : Trace} {o : Outcome Exc Unit}
    (h : Runs (adb.waitForDevice unicode pyText timeout budget) t o) : Waited unicode pyText adb timeout t o := by
  obtain ⟨hpermitted, hreturned, hraised⟩ := wp_sound (wp_waitForDevice timeout budget) h
  -- an event that stands behind another was permitted after it
  have hnext {before after : Trace} {e : Event Op Reply} (ht : t = before ++ e :: after) :
      after = [] ∨ ∃ op, Permitted unicode pyText adb timeout (before ++ [e]) op := by
    cases after with
    | nil => exact .inl rfl
    | cons e' after => exact .inr ⟨e'.op, hpermitted (before ++ [e]) e' after (by rw [ht, List.append_assoc]; rfl)⟩
  refine ⟨?_, ?_, ?_, ?_, fun ho => hreturned () ho⟩
  · exact fun before command limit r after ht => (hpermitted before _ after ht).check command limit rfl
  · exact fun before seconds r after ht => (hpermitted before _ after ht).sleep seconds rfl
  · intro before e after limit x ht hcheck hx
    rcases hnext ht with rfl | ⟨op, hop⟩
    · refine ⟨rfl, ?_⟩
      have hlast : t.getLast? = some e := by
        rw [ht]
        exact List.getLast?_concat ..
      cases o with
      | returned u =>
        obtain ⟨e', limit', he', hreturned⟩ := hreturned u rfl
        cases hlast.symm.trans he'
        cases hcheck.unique hreturned nofun nofun
      | raised y =>
        have hy : y = x := hraised y rfl e limit x hlast hcheck hx
        exact .inl (congrArg _ hy)
      | running => exact .inr rfl
    · have htransition := hop.transition e limit x (List.getLast?_concat ..) hcheck
      rw [hx] at htransition
      cases htransition
  · intro before e after limit ht hcheck
    rcases hnext ht with rfl | ⟨op, hop⟩
    · rfl
    · exact absurd hcheck (hop.unfinished e limit (List.getLast?_concat ..))

variable (unicode pyText adb)

/-- Every check and every sleep of `wait_for_device` is in time and has its reason, and on a clock that sleeping
advances the wait ends after finitely many checks. -/
theorem waitForDevice_law (timeout : ℚ) :
    (∀ budget t o, Runs (adb.waitForDevice unicode pyText timeout budget) t o → Waited unicode pyText adb timeout t o) ∧
      ∀ s, (∀ budget, ⌈2 * timeout⌉₊ < budget → Ends (adb.waitForDevice unicode pyText timeout budget) s) ∧
        ∀ budget t o, clock.RunsIn s (adb.waitForDevice unicode pyText timeout budget) t o →
          checks t ≤ ⌈2 * timeout⌉₊ := by
  have hrounds (start : ℚ) : 2 * (start + timeout - start) ≤ (⌈2 * timeout⌉₊ : ℕ) := by
    rw [add_sub_cancel_left]
    exact Nat.le_ceil _
  refine ⟨fun budget t o => waited_of_runs, fun s => ⟨fun budget hbudget => ?_, fun budget t o h => ?_⟩⟩
  · unfold AdbClient.waitForDevice
    by_cases htimeout : timeout ≤ 0
    · rw [raiseIf_of htimeout]
      trivial
    rw [raiseIf_of_not htimeout]
    intro r hr
    obtain ⟨start, rfl, -⟩ := hr r rfl
    exact ends_waitLoop (hrounds start) hbudget
  · unfold AdbClient.waitForDevice at h
    by_cases htimeout : timeout ≤ 0
    · rw [raiseIf_of htimeout] at h
      cases h.runs with
      | raise => exact Nat.zero_le _
      | stop => exact Nat.zero_le _
    rw [raiseIf_of_not htimeout] at h
    rcases runsIn_act h with ⟨rfl, -⟩ | ⟨r, t', rfl, hr, hrest⟩
    · exact Nat.zero_le _
    obtain ⟨start, rfl, -⟩ := hr r rfl
    have hchecks : checks (⟨.monotonic, .ok start⟩ :: t') = checks t' := rfl
    rw [hchecks]
    exact checks_waitLoop (hrounds start) hrest

end Waiting

/-! ## A wait with a sleep in it -/

section Rounds

variable {unicode : Unicode} {pyText : PyText} {adb : AdbClient} {deadline now later : ℚ} {budget : ℕ}
variable {lastState : String} {e : Event Op Reply} {x : Exc} {t : Trace}

theorem runs_onlineRound (hnow : 0 < deadline - now)
    (hcheck : Check unicode pyText adb (min 10 (deadline - now)) e (.returned ())) :
    Runs (adb.waitLoop unicode pyText deadline (budget + 1) lastState) [reading now, e] (.returned ()) := by
  refine runs_bind.mpr ⟨[reading now], now, [e], .act (.ret now), ?_, rfl⟩
  refine runs_bind.mpr ⟨[], (), [e], runs_ofExcept.mpr ⟨raiseIf_of_not (not_le_of_gt hnow), rfl⟩, ?_, rfl⟩
  exact runs_bind.mpr ⟨[e], .ok (), [], runs_attempt_ok.mpr hcheck, .ret (), rfl⟩

theorem runs_failedRound (hnow : 0 < deadline - now) (hlater : 0 < deadline - later)
    (hcheck : Check unicode pyText adb (min 10 (deadline - now)) e (.raised x)) (hx : isTransition pyText x = true)
    (h : Runs (adb.waitLoop unicode pyText deadline budget x.str) t (.returned ())) :
    Runs (adb.waitLoop unicode pyText deadline (budget + 1) lastState)
      (reading now :: e :: reading later :: ⟨.sleep (min (1 / 2) (deadline - later)), .ok ()⟩ :: t) (.returned ()) := by
  have hgoesOn : ¬isTransition pyText x = false := by
    rw [hx]
    exact Bool.noConfusion
  refine runs_bind.mpr ⟨[reading now], now, _, .act (.ret now), ?_, rfl⟩
  refine runs_bind.mpr ⟨[], (), _, runs_ofExcept.mpr ⟨raiseIf_of_not (not_le_of_gt hnow), rfl⟩, ?_, rfl⟩
  refine runs_bind.mpr ⟨[e], .error x, _, runs_attempt_of_raised hcheck, ?_, rfl⟩
  refine runs_bind.mpr ⟨[], (), _, runs_ofExcept.mpr ⟨raiseIf_of_not hgoesOn, rfl⟩, ?_, rfl⟩
  refine runs_bind.mpr ⟨[reading later], later, _, .act (.ret later), ?_, rfl⟩
  refine runs_bind.mpr ⟨[], (), _, runs_ofExcept.mpr ⟨raiseIf_of_not (not_le_of_gt hlater), rfl⟩, ?_, rfl⟩
  exact .act h

end Rounds

def offlineState : CompletedProcess := { returncode := 1, stdout := [], stderr := ascii "error: device offline\n" }

def onlineState : CompletedProcess := { returncode := 0, stdout := ascii "device\n", stderr := [] }

def offlineFailure : Exc :=
  .adbUnavailable ("ADB camera is not online (" ++ textString (text "error: device offline") ++ ")")

def twoChecks : Trace :=
  [reading 0, reading 0, ⟨getState plainAdb 10, .ok offlineState⟩, reading 1, ⟨.sleep (1 / 2), .ok ()⟩, reading 2,
    ⟨getState plainAdb 10, .ok onlineState⟩]

theorem runs_getState (result : CompletedProcess) :
    Runs (plainAdb.process (plainAdb.base ++ ["get-state"]) 10 "ADB availability check timed out: ")
      [⟨getState plainAdb 10, .ok result⟩] (.returned result) := .act (.ret result)

theorem check_offline :
    Check utf8 plainText plainAdb 10 ⟨getState plainAdb 10, .ok offlineState⟩ (.raised offlineFailure) := by
  unfold Check AdbClient.ensureAvailable
  rw [raiseIf_of_not (by norm_num)]
  refine runs_bind_of_returned (runs_getState offlineState) ?_
  dsimp only
  rw [if_neg (by decide +kernel), if_pos (by decide +kernel)]
  exact .raise offlineFailure

theorem check_online :
    Check utf8 plainText plainAdb 10 ⟨getState plainAdb 10, .ok onlineState⟩ (.returned ()) := by
  unfold Check AdbClient.ensureAvailable
  rw [raiseIf_of_not (by norm_num)]
  refine runs_bind_of_returned (runs_getState onlineState) ?_
  dsimp only
  rw [if_pos (by decide +kernel)]
  exact .ret ()

theorem runs_twoChecks :
    clock.RunsIn 0 (plainAdb.waitForDevice utf8 plainText 30 2) twoChecks (.returned ()) := by
  have hten (now : ℚ) (hnow : now ≤ 2) : min 10 (0 + 30 - now) = 10 := min_eq_left (by linarith)
  have hhalf : min (1 / 2) (0 + 30 - 1 : ℚ) = 1 / 2 := by norm_num
  have hlast : Runs (plainAdb.waitLoop utf8 plainText (0 + 30) (0 + 1) offlineFailure.str)
      [reading 2, ⟨getState plainAdb 10, .ok onlineState⟩] (.returned ()) := by
    refine runs_onlineRound (by norm_num) ?_
    rw [hten 2 (by norm_num)]
    exact check_online
  have hfirst : Check utf8 plainText plainAdb (min 10 (0 + 30 - 0)) ⟨getState plainAdb 10, .ok offlineState⟩
      (.raised offlineFailure) := by
    rw [hten 0 (by norm_num)]
    exact check_offline
  have hrounds : Runs (plainAdb.waitLoop utf8 plainText (0 + 30) (1 + 1) "ADB has not been checked")
      [reading 0, ⟨getState plainAdb 10, .ok offlineState⟩, reading 1, ⟨.sleep (min (1 / 2) (0 + 30 - 1)), .ok ()⟩,
        reading 2, ⟨getState plainAdb 10, .ok onlineState⟩] (.returned ()) :=
    runs_failedRound (by norm_num) (by norm_num) hfirst rfl hlast
  rw [hhalf] at hrounds
  constructor
  · refine runs_bind.mpr ⟨[], (), _, runs_ofExcept.mpr ⟨raiseIf_of_not (by norm_num), rfl⟩, ?_, rfl⟩
    exact runs_bind.mpr ⟨[reading 0], 0, _, .act (.ret 0), hrounds, rfl⟩
  · refine ⟨fun r hr => ?_, fun r hr => ?_, nofun, fun r hr => ?_, nofun, fun r hr => ?_, nofun, trivial⟩
    · cases hr
      exact ⟨0, rfl, le_refl 0⟩
    · cases hr
      exact ⟨0, rfl, show (0 : ℚ) ≤ 0 from le_refl 0⟩
    · cases hr
      exact ⟨1, rfl, show (0 : ℚ) ≤ 1 by norm_num⟩
    · cases hr
      exact ⟨2, rfl, show (1 : ℚ) + 1 / 2 ≤ 2 by norm_num⟩

/-- The transport is gone at the first check and back half a second later. -/
theorem waitForDevice_law_twoChecks :
    clock.RunsIn 0 (plainAdb.waitForDevice utf8 plainText 30 2) twoChecks (.returned ()) ∧
      Waited utf8 plainText plainAdb 30 twoChecks (.returned ()) ∧ Online utf8 plainText plainAdb twoChecks ∧
      checks twoChecks = 2 := by
  have hwaited := (waitForDevice_law utf8 plainText plainAdb 30).1 2 twoChecks _ runs_twoChecks.runs
  exact ⟨runs_twoChecks, hwaited, hwaited.returned rfl, rfl⟩

end Cc2Camera.AdbBackup
