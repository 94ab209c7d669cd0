import Cc2Camera.Lib.Program

/-!
# Shell — scripts as programs over the commands they run

A command is the list of its words after expansion.  Of each command the script sees the exit status
and what was written to standard output; both are whatever the environment chooses.  An exception is
the status the script exits with.
-/

open Program

namespace Shell

abbrev Command : Type := List String

/-- What a script sees of a command that has ended. -/
structure Finished where
  status : Nat
  stdout : String
  deriving DecidableEq, Repr

abbrev Sh (α : Type) : Type := Program Command (fun _ => Finished) Nat α

abbrev Log : Type := List (Event Command fun _ => Finished)

def exec (command : Command) : Sh Finished := perform command

/-- `exit status`. -/
def exit {α : Type} (status : Nat) : Sh α := .raise status

/-- `command` as a condition. -/
def succeeds (command : Command) : Sh Bool := do
  let finished ← exec command
  pure (finished.status == 0)

/-- What command substitution keeps of an output: trailing newlines are dropped. -/
def chomp (output : String) : String :=
  String.ofList (output.toList.reverse.dropWhile (· == '\n')).reverse

/-- `[ "$(command)" = text ]`. -/
def prints (command : Command) (text : String) : Sh Bool := do
  let finished ← exec command
  pure (chomp finished.stdout == text)

/-- `left && right`. -/
def both (left right : Sh Bool) : Sh Bool := do
  if ← left then right else pure false

/-- `condition || otherwise`. -/
def orElse (condition : Sh Bool) (otherwise : Sh Unit) : Sh Unit := do
  if ← condition then pure () else otherwise

/-- `condition && action`. -/
def andThen (condition : Sh Bool) (action : Sh Unit) : Sh Unit := do
  if ← condition then action else pure ()

/-- `name=$(command) || otherwise`, with the value of `name` as the result. -/
def capture (command : Command) (otherwise : Sh Unit) : Sh String := do
  let finished ← exec command
  orElse (pure (finished.status == 0)) otherwise
  pure (chomp finished.stdout)

def each {ι : Type} (items : List ι) (body : ι → Sh Unit) : Sh Unit :=
  match items with
  | [] => pure ()
  | item :: rest => do
    body item
    each rest body

/-- `trap 'action' 0; body; trap - 0`: an exit inside `body` runs `action` first and keeps its status. -/
def trapExit {α : Type} (action : Sh Unit) (body : Sh α) : Sh α :=
  body.handle fun status => do
    action
    exit status

/-- The exit status of a script: that of its last command when it runs off its end. -/
def exitStatus : Outcome Nat Nat → Option Nat
  | .returned status => some status
  | .raised status => some status
  | .running => none

/-- A machine that answers with the given replies in turn, and fails commands beyond them. -/
def recorded (replies : List Finished) (_ : Command) : List Finished × Finished :=
  match replies with
  | [] => ([], ⟨1, ""⟩)
  | reply :: rest => (rest, reply)

theorem chomp_newline {s : String} (h : s.toList.getLast? ≠ some '\n') : chomp (s ++ "\n") = s := by
  have hnewline : (s ++ "\n").toList.reverse = '\n' :: s.toList.reverse := by
    rw [String.toList_append, List.reverse_append]
    rfl
  have hstop : s.toList.reverse.dropWhile (· == '\n') = s.toList.reverse := by
    apply List.dropWhile_beq_eq_self_of_head?_ne
    rw [List.head?_reverse]
    exact h
  rw [chomp, hnewline, List.dropWhile_cons_of_pos rfl, hstop, List.reverse_reverse,
    String.ofList_toList]

/-! ## What a log shows -/

def Succeeded (t : Log) (command : Command) : Prop :=
  ∃ e ∈ t, e.op = command ∧ e.reply.status = 0

def Failed (t : Log) (command : Command) : Prop :=
  ∃ e ∈ t, e.op = command ∧ e.reply.status ≠ 0

def Printed (t : Log) (command : Command) (text : String) : Prop :=
  ∃ e ∈ t, e.op = command ∧ chomp e.reply.stdout = text

variable {t t' : Log} {command : Command} {text : String}

theorem Succeeded.mono (h : Succeeded t command) (hsub : t ⊆ t') : Succeeded t' command := by
  obtain ⟨e, he, hop⟩ := h
  exact ⟨e, hsub he, hop⟩

theorem Failed.mono (h : Failed t command) (hsub : t ⊆ t') : Failed t' command := by
  obtain ⟨e, he, hop⟩ := h
  exact ⟨e, hsub he, hop⟩

theorem Printed.mono (h : Printed t command text) (hsub : t ⊆ t') : Printed t' command text := by
  obtain ⟨e, he, hop⟩ := h
  exact ⟨e, hsub he, hop⟩

/-! ## Logs of scripts that go on -/

/-- A script that cannot return: it exits or is still running. -/
def Leaves {α : Type} (s : Sh α) : Prop := ∀ t a, ¬Runs s t (.returned a)

theorem leaves_exit {α : Type} (status : Nat) : Leaves (exit status : Sh α) :=
  fun _ _ => runs_raise

theorem Leaves.bind {α β : Type} {s : Sh α} {f : α → Sh β} (h : ∀ a, Leaves (f a)) :
    Leaves (s >>= f) := by
  intro t b hrun
  obtain ⟨_, a, t₂, _, hf, _⟩ := runs_bind.mp hrun
  exact h a t₂ b hf

theorem runs_exec {r : Finished} :
    Runs (exec command) t (.returned r) ↔ t = [⟨command, r⟩] := by
  rw [exec, perform, runs_act]
  simp only [runs_ret]
  constructor
  · rintro ⟨r', t', rfl, rfl, rfl⟩
    rfl
  · rintro rfl
    exact ⟨r, [], rfl, rfl, rfl⟩

theorem succeeded_of_runs (h : Runs (succeeds command) t (.returned true)) :
    Succeeded t command := by
  obtain ⟨t₁, r, t₂, hexec, hret, rfl⟩ := runs_bind.mp h
  obtain rfl := runs_exec.mp hexec
  have hstatus := (runs_ret.mp hret).1
  exact ⟨⟨command, r⟩, by simp, rfl, beq_iff_eq.mp hstatus⟩

theorem failed_of_runs (h : Runs (succeeds command) t (.returned false)) : Failed t command := by
  obtain ⟨t₁, r, t₂, hexec, hret, rfl⟩ := runs_bind.mp h
  obtain rfl := runs_exec.mp hexec
  have hstatus := (runs_ret.mp hret).1
  exact ⟨⟨command, r⟩, by simp, rfl, beq_eq_false_iff_ne.mp hstatus⟩

theorem printed_of_runs (h : Runs (prints command text) t (.returned true)) :
    Printed t command text := by
  obtain ⟨t₁, r, t₂, hexec, hret, rfl⟩ := runs_bind.mp h
  obtain rfl := runs_exec.mp hexec
  have hout := (runs_ret.mp hret).1
  exact ⟨⟨command, r⟩, by simp, rfl, beq_iff_eq.mp hout⟩

theorem runs_both {left right : Sh Bool} (h : Runs (both left right) t (.returned true)) :
    ∃ t₁ t₂, t = t₁ ++ t₂ ∧ Runs left t₁ (.returned true) ∧ Runs right t₂ (.returned true) := by
  obtain ⟨t₁, b, t₂, hleft, hright, rfl⟩ := runs_bind.mp h
  cases b with
  | true => exact ⟨t₁, t₂, rfl, hleft, hright⟩
  | false => exact absurd (runs_ret.mp hright).1 (by decide)

/-- Going on after `condition || otherwise`, when `otherwise` leaves, means the condition held. -/
theorem runs_orElse {condition : Sh Bool} {otherwise : Sh Unit} {u : Unit}
    (hleaves : Leaves otherwise) (h : Runs (orElse condition otherwise) t (.returned u)) :
    Runs condition t (.returned true) := by
  obtain ⟨t₁, b, t₂, hcondition, hrest, rfl⟩ := runs_bind.mp h
  cases b with
  | true =>
    obtain rfl := (runs_ret.mp hrest).2
    rw [List.append_nil]
    exact hcondition
  | false => exact absurd hrest (hleaves t₂ u)

theorem runs_andThen {condition : Sh Bool} {action : Sh Unit} {u : Unit}
    (hleaves : Leaves action) (h : Runs (andThen condition action) t (.returned u)) :
    Runs condition t (.returned false) := by
  obtain ⟨t₁, b, t₂, hcondition, hrest, rfl⟩ := runs_bind.mp h
  cases b with
  | true => exact absurd hrest (hleaves t₂ u)
  | false =>
    obtain rfl := (runs_ret.mp hrest).2
    rw [List.append_nil]
    exact hcondition

theorem runs_capture {otherwise : Sh Unit} (hleaves : Leaves otherwise)
    (h : Runs (capture command otherwise) t (.returned text)) :
    Succeeded t command ∧ Printed t command text := by
  obtain ⟨t₁, r, t₂, hexec, hrest, rfl⟩ := runs_bind.mp h
  obtain rfl := runs_exec.mp hexec
  obtain ⟨t₃, u, t₄, hstatus, hret, rfl⟩ := runs_bind.mp hrest
  have hzero := (runs_ret.mp (runs_orElse hleaves hstatus)).1
  exact ⟨⟨⟨command, r⟩, by simp, rfl, beq_iff_eq.mp hzero⟩,
    ⟨⟨command, r⟩, by simp, rfl, (runs_ret.mp hret).1⟩⟩

theorem runs_each {ι : Type} {items : List ι} {body : ι → Sh Unit} {u : Unit}
    (h : Runs (each items body) t (.returned u)) {item : ι} (hitem : item ∈ items) :
    ∃ t₁ t₂ t₃, t = t₁ ++ t₂ ++ t₃ ∧ Runs (body item) t₂ (.returned ()) := by
  induction items generalizing t with
  | nil => cases hitem
  | cons first rest ih =>
    obtain ⟨t₁, v, t₂, hfirst, hrest, rfl⟩ := runs_bind.mp h
    cases hitem with
    | head => exact ⟨[], t₁, t₂, rfl, hfirst⟩
    | tail _ hmem =>
      obtain ⟨a, b, c, rfl, hbody⟩ := ih hrest hmem
      exact ⟨t₁ ++ a, b, c, by simp only [List.append_assoc], hbody⟩

/-! ## The commands a script may run -/

section Uses

variable {ok : Command → Prop} {exc : Nat → Prop}

theorem uses_pure {α : Type} (a : α) : (pure a : Sh α).Uses ok exc := trivial

theorem uses_exec (h : ok command) : (exec command).Uses ok exc := ⟨h, fun _ => trivial⟩

theorem uses_succeeds (h : ok command) : (succeeds command).Uses ok exc := ⟨h, fun _ => trivial⟩

theorem uses_prints (h : ok command) : (prints command text).Uses ok exc := ⟨h, fun _ => trivial⟩

theorem uses_both {left right : Sh Bool} (hl : left.Uses ok exc) (hr : right.Uses ok exc) :
    (both left right).Uses ok exc := by
  refine uses_bind hl fun b => ?_
  cases b
  · trivial
  · exact hr

theorem uses_orElse {condition : Sh Bool} {otherwise : Sh Unit} (hc : condition.Uses ok exc)
    (ho : otherwise.Uses ok exc) : (orElse condition otherwise).Uses ok exc := by
  refine uses_bind hc fun b => ?_
  cases b
  · exact ho
  · trivial

theorem uses_andThen {condition : Sh Bool} {action : Sh Unit} (hc : condition.Uses ok exc)
    (ha : action.Uses ok exc) : (andThen condition action).Uses ok exc := by
  refine uses_bind hc fun b => ?_
  cases b
  · trivial
  · exact ha

theorem uses_capture {otherwise : Sh Unit} (h : ok command) (ho : otherwise.Uses ok exc) :
    (capture command otherwise).Uses ok exc := by
  refine uses_bind (uses_exec h) fun r => ?_
  exact uses_bind (uses_orElse (uses_pure _) ho) fun _ => trivial

theorem uses_each {ι : Type} {items : List ι} {body : ι → Sh Unit}
    (h : ∀ item ∈ items, (body item).Uses ok exc) : (each items body).Uses ok exc := by
  induction items with
  | nil => trivial
  | cons item rest ih =>
    obtain ⟨hitem, hrest⟩ := List.forall_mem_cons.mp h
    exact uses_bind hitem fun _ => ih hrest

end Uses

/-! ## Stepping through a script -/

section Steps

variable {allowed : Log → Command → Prop} {Q : Log → Unit → Prop} {S : Log → Nat → Prop}

/-- `command || otherwise`: the script goes on when the command succeeded. -/
theorem wp_orElse_succeeds {otherwise : Sh Unit} (hallowed : allowed t command)
    (hok : ∀ r : Finished, r.status = 0 → Q (t ++ [⟨command, r⟩]) ())
    (hfail : ∀ r : Finished, r.status ≠ 0 → otherwise.wp allowed Q S (t ++ [⟨command, r⟩])) :
    (orElse (succeeds command) otherwise).wp allowed Q S t := by
  refine ⟨hallowed, fun r => ?_⟩
  by_cases hstatus : r.status = 0
  · have htrue : (r.status == 0) = true := beq_iff_eq.mpr hstatus
    show (if (r.status == 0) = true then pure () else otherwise : Sh Unit).wp allowed Q S _
    rw [if_pos htrue]
    exact hok r hstatus
  · have hfalse : ¬(r.status == 0) = true := mt beq_iff_eq.mp hstatus
    show (if (r.status == 0) = true then pure () else otherwise : Sh Unit).wp allowed Q S _
    rw [if_neg hfalse]
    exact hfail r hstatus

end Steps

/-! ## Lists joined by `&&` -/

section AndList

/-- A member of a `&&` list: `[ "$(command)" = "text" ]`, or a command by itself. -/
inductive Item where
  | test (command : Command) (text : String)
  | run (command : Command)

/-- The command a member runs. -/
def Item.call : Item → Command
  | .test command _ => command
  | .run command => command

/-- Whether the list goes on after this member. -/
def Item.passes : Item → Finished → Bool
  | .test _ text, finished => chomp finished.stdout == text
  | .run _, finished => finished.status == 0

def Item.line : Item → String
  | .test command text => "[ \"$(" ++ " ".intercalate command ++ ")\" = \"" ++ text ++ "\" ]"
  | .run command => " ".intercalate command

/-- The text of a list. -/
def andLine (items : List Item) : String := " && ".intercalate (items.map Item.line)

/-- What the shell does with that text. -/
def andList : List Item → Sh Bool
  | [] => pure true
  | item :: rest => do
    let finished ← exec item.call
    if item.passes finished then andList rest else pure false

/-- A member that passed, and its command's event. -/
def Item.Passed (item : Item) (e : Event Command fun _ => Finished) : Prop :=
  e.op = item.call ∧ item.passes e.reply = true

-- by induction on the members
/-- The command of a member runs after all members before it, each of which passed. -/
theorem runs_andList {items : List Item} {t before after : Log} {e : Event Command fun _ => Finished}
    {o : Outcome Nat Bool} (h : Runs (andList items) t o) (ht : t = before ++ e :: after) :
    ∃ done item rest, items = done ++ item :: rest ∧ e.op = item.call ∧
      List.Forall₂ Item.Passed done before := by
  induction items generalizing t before with
  | nil =>
    cases h with
    | ret => simp at ht
    | stop => simp at ht
  | cons item items ih =>
    cases h with
    | stop => simp at ht
    | @act _ _ r t' _ hrun =>
      cases before with
      | nil =>
        have he : (⟨item.call, r⟩ : Event Command fun _ => Finished) = e := (List.cons.inj ht).1
        exact ⟨[], item, items, rfl, by rw [← he], .nil⟩
      | cons e' before =>
        have he' : (⟨item.call, r⟩ : Event Command fun _ => Finished) = e' := (List.cons.inj ht).1
        have ht' : t' = before ++ e :: after := (List.cons.inj ht).2
        have hrest : Runs (if item.passes r then andList items else pure false) t' o := hrun
        by_cases hpasses : item.passes r = true
        · rw [if_pos hpasses] at hrest
          obtain ⟨done, item', rest, rfl, hop, hdone⟩ := ih hrest ht'
          have hpassed : item.Passed e' := by
            rw [← he']
            exact ⟨rfl, hpasses⟩
          exact ⟨item :: done, item', rest, rfl, hop, .cons hpassed hdone⟩
        · rw [if_neg hpasses] at hrest
          cases hrest with
          | ret => simp at ht'
          | stop => simp at ht'

end AndList

/-! ## The words of a command line -/

section Words

/-- A word of a command line, before expansion. -/
abbrev Word : Type := List Char

def words (line : String) : List Word := line.toList.splitOn ' '

def controlOperators : List Word := ["&&".toList, "||".toList, ";".toList, "|".toList]

/-- The operands of a command: the words up to a control operator, or to the `)` that ends its substitution. -/
def operands : List Word → List Word
  | [] => []
  | word :: rest =>
    if word ∈ controlOperators then [] else if ')' ∈ word then [word] else word :: operands rest

/-- The operands of each call of the command `name`. -/
def callsOf (name : String) : List Word → List (List Word)
  | [] => []
  | word :: rest => if name.toList <:+ word then operands rest :: callsOf name rest else callsOf name rest

theorem words_intercalate {ws : List String} (hws : ws ≠ []) (hblank : ∀ w ∈ ws, ' ' ∉ w.toList) :
    words (" ".intercalate ws) = ws.map String.toList := by
  rw [words, String.toList_intercalate]
  exact List.splitOn_intercalate ' ' (List.forall_mem_map.mpr hblank) (mt List.map_eq_nil_iff.mp hws)

end Words

/-! ## Replies in turn -/

section Recorded

variable {s s' rest : List Finished}

theorem interact_prints {r : Finished} {command : Command} {text : String}
    (h : chomp r.stdout = text) :
    (prints command text).interact recorded (r :: rest) = (rest, .returned true) := by
  show (rest, Outcome.returned (chomp r.stdout == text)) = _
  rw [h, beq_self_eq_true]

theorem interact_orElse {condition : Sh Bool} {otherwise : Sh Unit}
    (h : condition.interact recorded s = (s', .returned true)) :
    (orElse condition otherwise).interact recorded s = (s', .returned ()) := by
  rw [orElse, interact_bind_of_returned h]
  rfl

end Recorded

end Shell
