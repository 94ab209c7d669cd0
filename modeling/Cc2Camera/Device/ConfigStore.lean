import Cc2Camera.Device.ConfigFile
import Cc2Camera.Device.Link
import Mathlib.Data.List.Nodup

/-!
# ConfigStore — the daemon as a store of settings

GET and SET requests against the daemon are those against a list of settings, over whole runs.  The file never gets
shorter, and a SET on a file that has outgrown the buffer ends the daemon.
-/

open Bytes Exceptions Program World

namespace Cc2Camera.HidUpdate

open Protocol Commands

/-! ## The store -/

/-- What there is to know of the file: its settings and how long it has become. -/
structure ConfigFile where
  settings : List Setting
  size : Nat
  deriving DecidableEq, Repr

structure ConfigFile.Represents (file : ConfigFile) (content : Bytes) : Prop where
  readable : ∀ setting ∈ file.settings, Readable setting
  size : content.length = file.size
  content : ∃ padding, content = fileOf file.settings padding

inductive ConfigRequest where
  | get (key : ConfigurationKey)
  | set (key : ConfigurationKey) (value : Bytes)
  deriving DecidableEq, Repr

/-- A value that leaves a readable line. -/
def ConfigRequest.Writable : ConfigRequest → Prop
  | .get _ => True
  | .set key value => (∀ b ∈ value, b ≠ 10 ∧ b ≠ 0) ∧ (ascii key.value).length + value.length ≤ 125

def CONFIG_BUFFER : Nat := 2048

/-- The store on a request: what is answered and what the file becomes, unless the file has outgrown the daemon. -/
def ConfigRequest.apply (file : ConfigFile) : ConfigRequest → Option (ConfigFile × Nat × Bytes)
  | .get key =>
    match Assoc.lookup (ascii key.value) file.settings with
    | none => some (file, ST_FAIL, [])
    | some value => some (file, ST_OK, value.take 63)
  | .set key value =>
    if CONFIG_BUFFER < file.size then none
    else
      match Assoc.lookup (ascii key.value) file.settings with
      | none => some (file, ST_FAIL, [])
      | some old =>
        some ({ settings := Assoc.assign (ascii key.value) value file.settings
                size := file.size + (value.length - old.length) }, ST_OK, [])

section Store

variable {file : ConfigFile} {content key : Bytes}

theorem represents_assign {value old : Bytes} (h : file.Represents content)
    (hlookup : Assoc.lookup key file.settings = some old) (hvalue : ∀ b ∈ value, b ≠ 10 ∧ b ≠ 0)
    (hfits : key.length + value.length ≤ 125) :
    ∃ parts, findLine key content.length [] content = some parts ∧
      ConfigFile.Represents ⟨Assoc.assign key value file.settings, file.size + (value.length - old.length)⟩
        (rewritten content.length parts value) := by
  obtain ⟨padding, hcontent⟩ := h.content
  obtain ⟨before, after, hsplit, hbefore⟩ := Assoc.lookup_eq_some_iff_split.mp hlookup
  have hreadable := h.readable
  have hsize := h.size
  rw [hsplit] at hreadable hcontent ⊢
  have hold : Readable (key, old) := hreadable _ (by simp)
  have hlength : (fileOf (before ++ (key, old) :: after) padding).length = content.length := by rw [hcontent]
  -- a line is at least one byte long, so the search has a round for each of them
  have hcount : before.length < content.length := by
    have hle := length_settings_le (before ++ (key, old) :: after)
    rw [fileOf, List.length_append] at hlength
    rw [List.length_append, List.length_cons] at hle
    omega
  refine ⟨_, by rw [hcontent]; exact findLine_present hreadable hbefore [] (by rw [← hcontent]; exact hcount), ?_⟩
  rw [List.nil_append, rewritten_present hbefore]
  have hrender : (render (Assoc.assign key value (before ++ (key, old) :: after))).length + old.length = _ :=
    length_render_assign hbefore value
  refine ⟨?_, ?_, _, rfl⟩
  · rw [Assoc.assign_split hbefore]
    intro setting hmem
    rcases List.mem_append.mp hmem with hmem | hmem
    · exact hreadable setting (List.mem_append_left _ hmem)
    · rcases List.mem_cons.mp hmem with rfl | hmem
      · exact ⟨hold.key, hold.keyBytes, hold.keyLength, hvalue, hfits⟩
      · exact hreadable setting (by simp [hmem])
  · simp only [fileOf, List.length_append, List.length_replicate] at hlength ⊢
    omega

end Store

/-- The reports that `commands.py` builds for a request, with any frame type for a SET. -/
def ConfigRequest.Built (report : Bytes) : ConfigRequest → Prop
  | .get key => buildConfigGetRequest key = .ok report
  | .set key value => ∃ frameType, buildConfigSetRequest key value frameType = .ok report

/-- A run of the store: its answers, and the file it ends with unless a SET was too much for the daemon. -/
def serve (file : ConfigFile) : List ConfigRequest → List (Nat × Bytes) × Option ConfigFile
  | [] => ([], some file)
  | request :: rest =>
    match request.apply file with
    | none => ([], none)
    | some (file, answer) => (answer :: (serve file rest).1, (serve file rest).2)

/-! ## The daemon on a camera that keeps the file -/

structure HoldsConfig {σ : Type} (c : Camera σ) (file : σ → Bytes) : Prop where
  reads : ∀ s, (c.answer s (.readFile UVC_CONFIG)).2 = some (file s)
  readKeeps : ∀ s, file (c.answer s (.readFile UVC_CONFIG)).1 = file s
  writes : ∀ s content,
    file (c.answer s (.rewriteFile UVC_CONFIG content)).1 = content ++ (file s).drop content.length
  sendKeeps : ∀ s report, file (c.answer s (.writeReport report)).1 = file s

/-- A camera that is nothing but the file. -/
def fileCamera : Camera Bytes where
  answer content
    | .malloc _ => (content, none)
    | .system _ => (content, ())
    | .readFile path => (content, if path = UVC_CONFIG then some content else none)
    | .rewriteFile path new => (if path = UVC_CONFIG then new ++ content.drop new.length else content, ())
    | .createFile _ => (content, false)
    | .fwrite _ _ => (content, (0 : Nat))
    | .setFlash _ _ => (content, (-1 : Int))
    | .getFlash _ _ => (content, none)
    | .writeReport _ => (content, (0 : Int))
  takes _ _ := true

theorem holdsConfig_fileCamera : HoldsConfig fileCamera id where
  reads content := by
    show (if UVC_CONFIG = UVC_CONFIG then some content else none) = _
    rw [if_pos rfl]
    rfl
  readKeeps _ := rfl
  writes content new := by
    show (if UVC_CONFIG = UVC_CONFIG then new ++ content.drop new.length else content) = _
    rw [if_pos rfl]
    rfl
  sendKeeps _ _ := rfl

section Daemon

variable {σ : Type} {c : Camera σ} {file : σ → Bytes} {store : ConfigFile} {report content r : Bytes} {s : σ} {α β : Type}

/-- The handler ends with one report, and the file is this then. -/
structure Yields (c : Camera σ) (file : σ → Bytes) (p : Daemon α) (s : σ) (a : α) (report content : Bytes) : Prop where
  outcome : (p.play c.answer s).outcome = .returned a
  replies : replies (p.play c.answer s).events = [report]
  stays : (p.play c.answer s).events.any isReboot = false
  file : file (p.play c.answer s).state = content

theorem yields_send (hc : HoldsConfig c file) {command status responseType : Nat} {payload : Bytes}
    (htype : responseType = 1 ∨ payload = []) (hfile : file s = content) :
    Yields c file (sendNormalResponse command status responseType payload) s () (responseReport command status 1 payload)
      content := by
  have hreport : responseReport command status responseType payload = responseReport command status 1 payload := by
    rcases htype with rfl | rfl
    · rfl
    · rw [responseReport_nil, responseReport_nil command status 1]
  refine ⟨rfl, ?_, rfl, (hc.sendKeeps s _).trans hfile⟩
  rw [← hreport]
  rfl

/-- The handler goes on with the file. -/
theorem play_read (hc : HoldsConfig c file) (k : Option Bytes → Daemon α) :
    (perform (.readFile UVC_CONFIG) >>= k).play c.answer s =
      { (k (some (file s))).play c.answer (c.answer s (.readFile UVC_CONFIG)).1 with
        events := ⟨.readFile UVC_CONFIG, some (file s)⟩ ::
          ((k (some (file s))).play c.answer (c.answer s (.readFile UVC_CONFIG)).1).events } :=
  congrArg (fun found : Option Bytes =>
    { (k found).play c.answer (c.answer s (.readFile UVC_CONFIG)).1 with
      events := (⟨.readFile UVC_CONFIG, found⟩ : Event DaemonOp DaemonReply) ::
        ((k found).play c.answer (c.answer s (.readFile UVC_CONFIG)).1).events }) (hc.reads s)

theorem yields_read (hc : HoldsConfig c file) {k : Option Bytes → Daemon α} {a : α}
    (h : ∀ s', file s' = file s → Yields c file (k (some (file s))) s' a report content) :
    Yields c file (perform (.readFile UVC_CONFIG) >>= k) s a report content := by
  have hrest := h _ (hc.readKeeps s)
  constructor
  · rw [play_read hc]
    exact hrest.outcome
  · rw [play_read hc]
    exact hrest.replies
  · rw [play_read hc]
    exact hrest.stays
  · rw [play_read hc]
    exact hrest.file

theorem yields_write (hc : HoldsConfig c file) {written : Bytes} {k : Unit → Daemon α} {a : α}
    (h : ∀ s', file s' = written ++ (file s).drop written.length → Yields c file (k ()) s' a report content) :
    Yields c file (perform (.rewriteFile UVC_CONFIG written) >>= k) s a report content := by
  have hrest := h _ (hc.writes s written)
  exact ⟨hrest.outcome, hrest.replies, hrest.stays, hrest.file⟩

theorem Yields.then_pure {p : Daemon α} {a : α} (h : Yields c file p s a report content) (b : β) :
    Yields c file (p >>= fun _ => pure b) s b report content := by
  have hplay : (p >>= fun _ => pure b : Daemon β).play c.answer s =
      ⟨(p.play c.answer s).state, (p.play c.answer s).events ++ [], .returned b⟩ :=
    play_bind_of_returned (show p.play c.answer s = ⟨_, _, .returned a⟩ by rw [← h.outcome])
  rw [List.append_nil] at hplay
  refine ⟨?_, ?_, ?_, ?_⟩
  · rw [hplay]
  · rw [hplay]
    exact h.replies
  · rw [hplay]
    exact h.stays
  · rw [hplay]
    exact h.file

/-- The GET handler answers from the settings. -/
theorem yields_configGet (hc : HoldsConfig c file) (hstore : store.Represents (file s)) (command : Nat) (key : Bytes) :
    Yields c file (configGet command key) s ()
      (match Assoc.lookup key store.settings with
        | none => responseReport command ST_FAIL 1 []
        | some value => responseReport command ST_OK 1 (value.take 63))
      (file s) := by
  obtain ⟨padding, hcontent⟩ := hstore.content
  refine yields_read hc fun s' hs' => ?_
  have hfound : findValue key (file s).length (file s) = (Assoc.lookup key store.settings).map (·.take 63) := by
    rw [hcontent]
    exact findValue_fileOf hstore.readable (by rw [fileOf, List.length_append]; exact Nat.le_add_right _ _)
  simp only [hfound]
  cases Assoc.lookup key store.settings with
  | none => exact yields_send hc (.inr rfl) hs'
  | some value => exact yields_send hc (.inl rfl) hs'

/-- The SET handler on a file that it has room for. -/
theorem yields_configSet (hc : HoldsConfig c file) (hstore : store.Represents (file s)) (hroom : store.size ≤ CONFIG_BUFFER)
    {value : Bytes} (hpayload : payloadOf r (u16 r 6) = .ok value) (command : Nat) {key : Bytes}
    (hvalue : ∀ b ∈ value, b ≠ 10 ∧ b ≠ 0) (hfits : key.length + value.length ≤ 125) :
    match Assoc.lookup key store.settings with
    | none => Yields c file (configSet command key r) s () (responseReport command ST_FAIL 1 []) (file s)
    | some old => ∃ content,
        Yields c file (configSet command key r) s () (responseReport command ST_OK 1 []) content ∧
        ConfigFile.Represents ⟨Assoc.assign key value store.settings, store.size + (value.length - old.length)⟩ content := by
  have hbuffer : CONFIG_BUFFER = 2048 := rfl
  have hsize := hstore.size
  have hread : ¬2048 < (file s).length := by omega
  cases hlookup : Assoc.lookup key store.settings with
  | none =>
    -- a key that is not there is refused, and nothing is written
    obtain ⟨padding, hcontent⟩ := hstore.content
    have hnowhere : findLine key (file s).length [] (file s) = none := by
      rw [hcontent]
      refine findLine_absent hstore.readable hlookup [] ((length_settings_le _).trans ?_)
      rw [fileOf, List.length_append]
      exact Nat.le_add_right _ _
    refine yields_read hc fun s' hs' => ?_
    simp only [raiseIf_of_not hread, hnowhere]
    exact yields_send hc (.inr rfl) hs'
  | some old =>
    obtain ⟨parts, hparts, hnew⟩ := represents_assign hstore hlookup hvalue hfits
    have hsizeNew : (rewritten (file s).length parts value).length = store.size + (value.length - old.length) := hnew.size
    -- the value has room in the second buffer, and no byte of the old file shows behind the new one
    have hshort : ¬4096 < (rewritten (file s).length parts value).length := by omega
    have hlonger : (file s).length ≤ (rewritten (file s).length parts value).length := by omega
    refine ⟨rewritten (file s).length parts value, yields_read hc fun s' hs' => ?_, hnew⟩
    simp only [raiseIf_of_not hread, hparts, hpayload]
    change Yields c file (lift (raiseIf (4096 < (rewritten (file s).length parts value).length) .configOverflow) >>= fun _ =>
      perform (.rewriteFile UVC_CONFIG (rewritten (file s).length parts value)) >>= fun _ =>
        sendNormalResponse command ST_OK 0 []) s' () _ _
    rw [raiseIf_of_not hshort]
    refine yields_write hc fun s'' hs'' => yields_send hc (.inr rfl) ?_
    rw [hs'', hs', List.drop_of_length_le hlonger, List.append_nil]

/-- A file that has outgrown the buffer ends the daemon before it has answered. -/
theorem configSet_overflows (hc : HoldsConfig c file) (hstore : store.Represents (file s)) (hfull : CONFIG_BUFFER < store.size)
    (command : Nat) (key r : Bytes) :
    ∃ s', (configSet command key r).play c.answer s =
      ⟨s', [⟨.readFile UVC_CONFIG, some (file s)⟩], .raised .configOverflow⟩ := by
  have hbuffer : CONFIG_BUFFER = 2048 := rfl
  have hsize := hstore.size
  have hfull : 2048 < (file s).length := by omega
  refine ⟨(c.answer s (.readFile UVC_CONFIG)).1, ?_⟩
  rw [configSet, play_read hc]
  simp only [raiseIf_of hfull]
  rfl

end Daemon

theorem configKeyFor_pair {key : ConfigurationKey} {pair : ConfigCommandPair} (h : configurationPair key = .ok pair) :
    (pair.get / 0x1000 = 2 ∧ configKeyFor pair.get = some (ascii key.value, false)) ∧
      pair.set / 0x1000 = 2 ∧ configKeyFor pair.set = some (ascii key.value, true) := by
  cases key <;> cases h <;> exact ⟨⟨rfl, rfl⟩, rfl, rfl⟩

/-! ## Requests through the link -/

section Runs

variable {σ : Type} {c : Camera σ} {file : σ → Bytes} {store : ConfigFile} {report : Bytes} {l : Link σ}
  {ctx : DaemonContext}

/-- The daemon runs in this context and keeps this store, or it has gone. -/
def Keeping (file : σ → Bytes) (ctx : DaemonContext) (l : Link σ) : Option ConfigFile → Prop
  | none => l.daemon = none
  | some store => l.daemon = some ctx ∧ store.Represents (file l.camera)

def responseTo (report : Bytes) (answer : Nat × Bytes) : Bytes := responseReport (u16 report 3) answer.1 1 answer.2

theorem deliver_of_yields (answer : Nat × Bytes) {content : Bytes} (hdaemon : l.daemon = some ctx)
    (h : Yields c file (dispatchNormalReport report ctx) l.camera ctx (responseTo report answer) content) :
    (c.deliver l report).daemon = some ctx ∧ (c.deliver l report).waiting = l.waiting ++ [responseTo report answer] ∧
      file (c.deliver l report).camera = content := by
  rw [Camera.deliver, hdaemon]
  refine ⟨?_, ?_, h.file⟩
  · show survivor _ = some ctx
    rw [survivor, h.outcome]
    exact if_neg (by rw [h.stays]; decide)
  · show l.waiting ++ replies _ = _
    rw [h.replies]

/-- One request at the daemon is one request at the store. -/
theorem deliver_request (request : ConfigRequest) (hc : HoldsConfig c file) (hdaemon : l.daemon = some ctx) (hstore : store.Represents (file l.camera))
    (hbuilt : request.Built report) (hwritable : request.Writable) :
    match request.apply store with
    | none => (c.deliver l report).daemon = none ∧ (c.deliver l report).waiting = l.waiting
    | some (store', answer) =>
      (c.deliver l report).daemon = some ctx ∧ (c.deliver l report).waiting = l.waiting ++ [responseTo report answer] ∧
        store'.Represents (file (c.deliver l report).camera) := by
  cases request with
  | get key =>
    obtain ⟨pair, hpair, hreport⟩ := bind_eq_ok.mp hbuilt
    obtain ⟨-, haccepted⟩ := accepted_of_built (by decide) hreport
    obtain ⟨⟨hgroup, hkey⟩, -⟩ := configKeyFor_pair hpair
    have hyields := (yields_configGet hc hstore pair.get (ascii key.value)).then_pure ctx
    have hdispatch : dispatchNormalReport report ctx = configGet pair.get (ascii key.value) >>= fun _ => pure ctx := by
      rw [dispatch_config haccepted hgroup, dispatchConfig, haccepted.command]
      simp only [hkey]
    have hcommand : u16 report 3 = pair.get := haccepted.command
    rw [← hdispatch, ← hcommand] at hyields
    rw [ConfigRequest.apply]
    cases hlookup : Assoc.lookup (ascii key.value) store.settings with
    | none =>
      rw [hlookup] at hyields
      obtain ⟨hctx, hwaiting, hfile⟩ := deliver_of_yields (ST_FAIL, []) hdaemon hyields
      exact ⟨hctx, hwaiting, hfile ▸ hstore⟩
    | some value =>
      rw [hlookup] at hyields
      obtain ⟨hctx, hwaiting, hfile⟩ := deliver_of_yields (ST_OK, value.take 63) hdaemon hyields
      exact ⟨hctx, hwaiting, hfile ▸ hstore⟩
  | set key value =>
    obtain ⟨frameType, hbuilt⟩ := hbuilt
    obtain ⟨pair, hpair, hreport⟩ := bind_eq_ok.mp hbuilt
    obtain ⟨-, haccepted⟩ := accepted_of_built (by decide) hreport
    obtain ⟨-, hgroup, hkey⟩ := configKeyFor_pair hpair
    have hdispatch : dispatchNormalReport report ctx = configSet pair.set (ascii key.value) report >>= fun _ => pure ctx := by
      rw [dispatch_config haccepted hgroup, dispatchConfig, haccepted.command]
      simp only [hkey]
    have hcommand : u16 report 3 = pair.set := haccepted.command
    rw [ConfigRequest.apply]
    -- the whole file is read into the buffer before the key is looked for
    by_cases hfull : CONFIG_BUFFER < store.size
    · rw [if_pos hfull]
      obtain ⟨s', hplay⟩ := configSet_overflows hc hstore hfull pair.set (ascii key.value) report
      have hover := play_bind_of_raised (f := fun _ => pure ctx) hplay
      rw [← hdispatch] at hover
      rw [Camera.deliver, hdaemon]
      simp only [hover]
      exact ⟨rfl, List.append_nil _⟩
    · rw [if_neg hfull]
      have hset := yields_configSet hc hstore (not_lt.mp hfull) (payloadOf_accepted haccepted) pair.set hwritable.1 hwritable.2
      cases hlookup : Assoc.lookup (ascii key.value) store.settings with
      | none =>
        rw [hlookup] at hset
        have hyields := hset.then_pure ctx
        rw [← hdispatch, ← hcommand] at hyields
        obtain ⟨hctx, hwaiting, hfile⟩ := deliver_of_yields (ST_FAIL, []) hdaemon hyields
        exact ⟨hctx, hwaiting, hfile ▸ hstore⟩
      | some old =>
        rw [hlookup] at hset
        obtain ⟨content, hyields, hnew⟩ := hset
        replace hyields := hyields.then_pure ctx
        rw [← hdispatch, ← hcommand] at hyields
        obtain ⟨hctx, hwaiting, hfile⟩ := deliver_of_yields (ST_OK, []) hdaemon hyields
        exact ⟨hctx, hwaiting, hfile ▸ hnew⟩

theorem exists_pair (key : ConfigurationKey) :
    ∃ pair, configurationPair key = .ok pair ∧ pair.get < 2 ^ 16 ∧ pair.set < 2 ^ 16 := by
  cases key <;> refine ⟨_, rfl, ?_⟩ <;> decide

theorem exists_built (request : ConfigRequest) (hwritable : request.Writable) : ∃ report, request.Built report := by
  have hbuild {command : Nat} (hcommand : command < 2 ^ 16) (value : Bytes) (hvalue : value.length ≤ 1010) :
      ∃ report, buildNormalReport command value 1 0 = .ok report := by
    obtain ⟨report, hreport, -⟩ := exists_normalReport command 0 1 value hcommand (by decide) (by decide) hvalue
    exact ⟨report, hreport⟩
  cases request with
  | get key =>
    obtain ⟨pair, hpair, hget, -⟩ := exists_pair key
    obtain ⟨report, hreport⟩ := hbuild hget [] (by simp)
    exact ⟨report, bind_eq_ok.mpr ⟨pair, hpair, hreport⟩⟩
  | set key value =>
    obtain ⟨pair, hpair, -, hset⟩ := exists_pair key
    obtain ⟨report, hreport⟩ := hbuild hset value (by have hfits := hwritable.2; omega)
    exact ⟨report, 1, bind_eq_ok.mpr ⟨pair, hpair, hreport⟩⟩

def sampleSettings : List Setting := [(ascii "sensor_name", ascii "gc2053"), (ascii "adb_en", ascii "0")]

def sampleStore : ConfigFile := { settings := sampleSettings, size := (fileOf sampleSettings 0).length }

def sampleLink : Link Bytes := .opened .start (fileOf sampleSettings 0)

def sampleRequests : List ConfigRequest := [.set .adbEnabled (ascii "1"), .set .sensorName (ascii "imx335"), .get .adbEnabled]

-- checked byte by byte
theorem forall_mem_of_all {p : UInt8 → Prop} [DecidablePred p] {value : Bytes} (h : value.all (fun b => p b) = true) :
    ∀ b ∈ value, p b := fun b hb => of_decide_eq_true (List.all_eq_true.mp h b hb)

theorem represents_sample : sampleStore.Represents (id sampleLink.camera) where
  readable := by
    show ∀ setting ∈ sampleSettings, Readable setting
    simp only [sampleSettings, List.forall_mem_cons, List.not_mem_nil, false_implies, implies_true, and_true]
    exact ⟨⟨by decide, forall_mem_of_all (by decide), by decide, forall_mem_of_all (by decide), by decide⟩,
      ⟨by decide, forall_mem_of_all (by decide), by decide, forall_mem_of_all (by decide), by decide⟩⟩
  size := rfl
  content := ⟨0, rfl⟩

theorem writable_sample : ∀ request ∈ sampleRequests, request.Writable := by
  simp only [sampleRequests, List.forall_mem_cons, List.not_mem_nil, false_implies, implies_true, and_true]
  exact ⟨⟨forall_mem_of_all (by decide), by decide⟩, ⟨forall_mem_of_all (by decide), by decide⟩, trivial⟩

theorem exists_builtAll {requests : List ConfigRequest} (hwritable : ∀ request ∈ requests, request.Writable) :
    ∃ reports, List.Forall₂ (fun request report => ConfigRequest.Built report request) requests reports := by
  induction requests with
  | nil => exact ⟨[], .nil⟩
  | cons request requests ih =>
    obtain ⟨hfirst, hrest⟩ := List.forall_mem_cons.mp hwritable
    obtain ⟨report, hreport⟩ := exists_built request hfirst
    obtain ⟨reports, hreports⟩ := ih hrest
    exact ⟨report :: reports, .cons hreport hreports⟩

theorem foldl_deliver_gone {reports : List Bytes} (h : l.daemon = none) : reports.foldl c.deliver l = l := by
  induction reports with
  | nil => rfl
  | cons report reports ih =>
    have hdeliver : c.deliver l report = l := by
      rw [Camera.deliver, h]
    rw [List.foldl_cons, hdeliver, ih]

/-- Requests delivered one after the other get the store's answers and leave its file, as long as the daemon is there. -/
theorem daemon_serves (hc : HoldsConfig c file) {requests : List ConfigRequest} {reports : List Bytes}
    (hbuilt : List.Forall₂ (fun request report => request.Built report) requests reports)
    (hwritable : ∀ request ∈ requests, request.Writable) (hdaemon : l.daemon = some ctx)
    (hstore : store.Represents (file l.camera)) :
    Keeping file ctx (reports.foldl c.deliver l) (serve store requests).2 ∧
      (reports.foldl c.deliver l).waiting = l.waiting ++ List.zipWith responseTo reports (serve store requests).1 := by
  induction hbuilt generalizing l store with
  | nil => exact ⟨⟨hdaemon, hstore⟩, (List.append_nil _).symm⟩
  | @cons request report requests reports hrequest _ ih =>
    obtain ⟨hfirst, hrest⟩ := List.forall_mem_cons.mp hwritable
    have hstep := deliver_request request hc hdaemon hstore hrequest hfirst
    rw [List.foldl_cons, serve]
    cases happly : request.apply store with
    | none =>
      rw [happly] at hstep
      obtain ⟨hgone, hwaiting⟩ := hstep
      rw [foldl_deliver_gone hgone]
      exact ⟨hgone, by rw [hwaiting]; exact (List.append_nil _).symm⟩
    | some next =>
      rw [happly] at hstep
      obtain ⟨hctx, hwaiting, hnext⟩ := hstep
      obtain ⟨hkeeping, hanswers⟩ := ih hrest hctx hnext
      refine ⟨hkeeping, ?_⟩
      rw [hanswers, hwaiting, List.append_assoc]
      rfl

end Runs

/-! ## Laws of the store -/

section Laws

variable {store final : ConfigFile} {key other : ConfigurationKey} {requests : List ConfigRequest}

theorem value_injective (h : ascii key.value = ascii other.value) : key = other := by
  have hmem (key : ConfigurationKey) : key ∈ CONFIGURATION_COMMANDS.map (·.key) := by
    cases key <;> decide
  have hnodup : ((CONFIGURATION_COMMANDS.map (·.key)).map fun key => ascii key.value).Nodup := by decide
  exact List.inj_on_of_nodup_map hnodup (hmem key) (hmem other) h

/-- What a key holds after the SETs of a run. -/
def lastValue (key : ConfigurationKey) : Bytes → List ConfigRequest → Bytes
  | value, [] => value
  | value, .get _ :: rest => lastValue key value rest
  | value, .set other newValue :: rest => lastValue key (if other = key then newValue else value) rest

theorem answer_apply {request : ConfigRequest} {answer : Nat × Bytes} (h : request.apply store = some (final, answer)) :
    answer.1 ≤ ST_FAIL ∧ answer.2.length ≤ 63 := by
  cases request with
  | get other =>
    rw [ConfigRequest.apply] at h
    split at h
    · rw [← (Prod.mk.inj (Option.some.inj h)).2]
      decide
    · rw [← (Prod.mk.inj (Option.some.inj h)).2]
      exact ⟨Nat.zero_le _, List.length_take_le _ _⟩
  | set other value =>
    rw [ConfigRequest.apply] at h
    split at h
    · cases h
    · split at h
      · rw [← (Prod.mk.inj (Option.some.inj h)).2]
        decide
      · rw [← (Prod.mk.inj (Option.some.inj h)).2]
        decide

theorem lookup_apply {request : ConfigRequest} {answer : Nat × Bytes} (h : request.apply store = some (final, answer)) :
    Assoc.lookup (ascii key.value) final.settings =
      (Assoc.lookup (ascii key.value) store.settings).map fun value => lastValue key value [request] := by
  cases request with
  | get other =>
    have hsame : final = store := by
      rw [ConfigRequest.apply] at h
      split at h
      · exact (Prod.mk.inj (Option.some.inj h)).1.symm
      · exact (Prod.mk.inj (Option.some.inj h)).1.symm
    rw [hsame]
    exact Option.map_id'.symm
  | set other value =>
    rw [ConfigRequest.apply] at h
    split at h
    · cases h
    · cases hlookup : Assoc.lookup (ascii other.value) store.settings with
      | none =>
        rw [hlookup] at h
        obtain rfl := (Prod.mk.inj (Option.some.inj h)).1
        by_cases hkey : other = key
        · rw [← hkey, hlookup]
          rfl
        · simp only [lastValue, if_neg hkey, Option.map_id']
      | some old =>
        rw [hlookup] at h
        obtain rfl := (Prod.mk.inj (Option.some.inj h)).1
        rw [Assoc.lookup_assign]
        by_cases hkey : other = key
        · simp only [hkey, if_true, lastValue]
        · have hbytes : ascii key.value ≠ ascii other.value := fun h => hkey (value_injective h).symm
          simp only [if_neg hbytes, lastValue, if_neg hkey, Option.map_id']

theorem lastValue_cons (request : ConfigRequest) (value : Bytes) (requests : List ConfigRequest) :
    lastValue key value (request :: requests) = lastValue key (lastValue key value [request]) requests := by
  cases request with
  | get other => rfl
  | set other newValue => rfl

theorem lookup_serve (h : (serve store requests).2 = some final) :
    Assoc.lookup (ascii key.value) final.settings =
      (Assoc.lookup (ascii key.value) store.settings).map fun value => lastValue key value requests := by
  induction requests generalizing store with
  | nil =>
    obtain rfl := Option.some.inj h
    exact Option.map_id'.symm
  | cons request requests ih =>
    rw [serve] at h
    cases happly : request.apply store with
    | none =>
      rw [happly] at h
      cases h
    | some next =>
      rw [happly] at h
      rw [ih h, lookup_apply happly, Option.map_map]
      congr 1
      ext1 value
      exact (lastValue_cons request value requests).symm

/-- A key set to two values in turn. -/
def alternately (key : ConfigurationKey) (longer shorter : Bytes) (rounds : Nat) : List ConfigRequest :=
  (List.replicate rounds [.set key longer, .set key shorter]).flatten

theorem apply_set {old : Bytes} (hlookup : Assoc.lookup (ascii key.value) store.settings = some old) (value : Bytes) :
    (CONFIG_BUFFER < store.size ∧ (ConfigRequest.set key value).apply store = none) ∨
      ∃ next, (ConfigRequest.set key value).apply store = some (next, ST_OK, []) ∧
        next.size = store.size + (value.length - old.length) ∧
        Assoc.lookup (ascii key.value) next.settings = some value := by
  by_cases hfull : CONFIG_BUFFER < store.size
  · exact .inl ⟨hfull, if_pos hfull⟩
  · refine .inr ⟨⟨Assoc.assign (ascii key.value) value store.settings, store.size + (value.length - old.length)⟩, ?_, rfl, ?_⟩
    · rw [ConfigRequest.apply, if_neg hfull, hlookup]
    · rw [Assoc.lookup_assign, if_pos rfl, hlookup]
      rfl

/-- The padding that a shorter value leaves is never used again. -/
theorem serve_wears {longer shorter : Bytes} {rounds : Nat}
    (hlookup : Assoc.lookup (ascii key.value) store.settings = some shorter)
    (hfull : CONFIG_BUFFER < store.size + rounds * (longer.length - shorter.length)) :
    (serve store (alternately key longer shorter (rounds + 1))).2 = none := by
  induction rounds generalizing store with
  | zero =>
    rw [Nat.zero_mul, Nat.add_zero] at hfull
    show (serve store (.set key longer :: _)).2 = none
    rw [serve, ConfigRequest.apply, if_pos hfull]
  | succ rounds ih =>
    show (serve store (.set key longer :: .set key shorter :: alternately key longer shorter (rounds + 1))).2 = none
    rw [serve]
    rcases apply_set hlookup longer with ⟨-, hover⟩ | ⟨next, hset, hsize, hlonger⟩
    · rw [hover]
    · rw [hset]
      show (serve next (.set key shorter :: _)).2 = none
      rw [serve]
      rcases apply_set hlonger shorter with ⟨-, hover⟩ | ⟨last, hset, hlast, hshorter⟩
      · rw [hover]
      · rw [hset]
        refine ih hshorter ?_
        rw [Nat.succ_mul] at hfull
        omega

theorem serve_alternately {longer shorter old : Bytes} {rounds : Nat}
    (hlookup : Assoc.lookup (ascii key.value) store.settings = some old)
    (hfull : CONFIG_BUFFER < store.size + rounds * (longer.length - shorter.length)) :
    (serve store (alternately key longer shorter (rounds + 2))).2 = none := by
  show (serve store (.set key longer :: .set key shorter :: alternately key longer shorter (rounds + 1))).2 = none
  rw [serve]
  rcases apply_set hlookup longer with ⟨-, hover⟩ | ⟨next, hset, hsize, hlonger⟩
  · rw [hover]
  · rw [hset]
    show (serve next (.set key shorter :: _)).2 = none
    rw [serve]
    rcases apply_set hlonger shorter with ⟨-, hover⟩ | ⟨last, hset, hlast, hshorter⟩
    · rw [hover]
    · rw [hset]
      exact serve_wears hshorter (by omega)

end Laws

/-! ## The daemon's settings -/

section Results

variable {σ : Type} {c : Camera σ} {file : σ → Bytes} {store : ConfigFile} {l : Link σ} {ctx : DaemonContext}
  {key : ConfigurationKey}

theorem answers_serve {requests : List ConfigRequest} {answer : Nat × Bytes} (h : answer ∈ (serve store requests).1) :
    answer.1 ≤ ST_FAIL ∧ answer.2.length ≤ 63 := by
  induction requests generalizing store with
  | nil => cases h
  | cons request requests ih =>
    rw [serve] at h
    cases happly : request.apply store with
    | none =>
      rw [happly] at h
      cases h
    | some next =>
      rw [happly] at h
      rcases List.mem_cons.mp h with rfl | hrest
      · exact answer_apply happly
      · exact ih hrest

theorem parse_responses {reports : List Bytes} {answers : List (Nat × Bytes)}
    (h : ∀ answer ∈ answers, answer.1 ≤ ST_FAIL ∧ answer.2.length ≤ 63) :
    (List.zipWith responseTo reports answers).map parseNormalReport =
      List.zipWith (fun report answer => .ok ⟨u16 report 3, responseTypeOf answer.2, answer.1, answer.2⟩) reports answers := by
  induction reports generalizing answers with
  | nil => rfl
  | cons report reports ih =>
    cases answers with
    | nil => rfl
    | cons answer answers =>
      obtain ⟨⟨hstatus, hpayload⟩, hrest⟩ := List.forall_mem_cons.mp h
      have hfail : ST_FAIL = 1 := rfl
      rw [List.zipWith_cons_cons, List.map_cons, ih hrest, responseTo,
        (parseNormalReport_response (u16_lt report 3) (by omega) (by omega)).1]
      rfl

/-- What the host parses of a run of requests is what the store answers, and the daemon keeps the store's file. -/
theorem daemon_refinesStore (hc : HoldsConfig c file) {requests : List ConfigRequest} {reports : List Bytes}
    (hbuilt : List.Forall₂ (fun request report => request.Built report) requests reports)
    (hwritable : ∀ request ∈ requests, request.Writable) (hdaemon : l.daemon = some ctx) (hwaiting : l.waiting = [])
    (hstore : store.Represents (file l.camera)) :
    Keeping file ctx (reports.foldl c.deliver l) (serve store requests).2 ∧
      (reports.foldl c.deliver l).waiting.map parseNormalReport =
        List.zipWith (fun report answer => .ok ⟨u16 report 3, responseTypeOf answer.2, answer.1, answer.2⟩) reports
          (serve store requests).1 := by
  obtain ⟨hkeeping, hanswers⟩ := daemon_serves hc hbuilt hwritable hdaemon hstore
  refine ⟨hkeeping, ?_⟩
  rw [hanswers, hwaiting, List.nil_append]
  exact parse_responses fun answer hmem => answers_serve hmem

theorem daemon_refinesStore_sample :
    ∃ reports : List Bytes,
      Keeping id .start (reports.foldl fileCamera.deliver sampleLink) (serve sampleStore sampleRequests).2 ∧
        (reports.foldl fileCamera.deliver sampleLink).waiting.map parseNormalReport =
          List.zipWith (fun report answer => .ok ⟨u16 report 3, responseTypeOf answer.2, answer.1, answer.2⟩) reports
            [(ST_OK, []), (ST_OK, []), (ST_OK, ascii "1")] := by
  obtain ⟨reports, hbuilt⟩ := exists_builtAll writable_sample
  exact ⟨reports, daemon_refinesStore holdsConfig_fileCamera hbuilt writable_sample rfl rfl represents_sample⟩

/-- A GET reads what the last SET of its key wrote, as far as 63 bytes go, whatever other keys were set in between. -/
theorem configGet_readsLastSet (hc : HoldsConfig c file) {requests : List ConfigRequest} {reports : List Bytes}
    (hbuilt : List.Forall₂ (fun request report => request.Built report) requests reports)
    (hwritable : ∀ request ∈ requests, request.Writable) (hdaemon : l.daemon = some ctx)
    (hstore : store.Represents (file l.camera)) (halive : (reports.foldl c.deliver l).daemon ≠ none) {report : Bytes}
    (hget : buildConfigGetRequest key = .ok report) :
    (c.deliver (reports.foldl c.deliver l) report).waiting = (reports.foldl c.deliver l).waiting ++
      [responseTo report
        (match Assoc.lookup (ascii key.value) store.settings with
          | none => (ST_FAIL, [])
          | some value => (ST_OK, (lastValue key value requests).take 63))] := by
  obtain ⟨hkeeping, -⟩ := daemon_serves hc hbuilt hwritable hdaemon hstore
  cases hserve : (serve store requests).2 with
  | none =>
    rw [hserve] at hkeeping
    exact absurd hkeeping halive
  | some final =>
    rw [hserve] at hkeeping
    obtain ⟨hctx, hfinal⟩ := hkeeping
    have hstep := deliver_request (.get key) hc hctx hfinal hget trivial
    rw [ConfigRequest.apply, lookup_serve hserve] at hstep
    cases hlookup : Assoc.lookup (ascii key.value) store.settings with
    | none =>
      rw [hlookup] at hstep
      exact hstep.2.1
    | some value =>
      rw [hlookup] at hstep
      exact hstep.2.1

theorem configGet_readsLastSet_sample :
    ∃ (reports : List Bytes) (report : Bytes), (fileCamera.deliver (reports.foldl fileCamera.deliver sampleLink) report).waiting =
      (reports.foldl fileCamera.deliver sampleLink).waiting ++ [responseTo report (ST_OK, ascii "1")] := by
  obtain ⟨reports, hbuilt⟩ := exists_builtAll writable_sample
  obtain ⟨report, hget⟩ := exists_built (.get .adbEnabled) trivial
  have halive : (reports.foldl fileCamera.deliver sampleLink).daemon ≠ none := by
    obtain ⟨hctx, -⟩ : Keeping id .start (reports.foldl fileCamera.deliver sampleLink) (some _) :=
      (daemon_serves holdsConfig_fileCamera hbuilt writable_sample rfl represents_sample).1
    rw [hctx]
    exact Option.some_ne_none _
  exact ⟨reports, report, configGet_readsLastSet holdsConfig_fileCamera hbuilt writable_sample rfl represents_sample halive hget⟩

/-- A key set to two values of different lengths in turn ends the daemon after a bounded number of rounds. -/
theorem configSet_wearsOut (hc : HoldsConfig c file) {longer shorter old reportLonger reportShorter : Bytes}
    (hlonger : (ConfigRequest.set key longer).Built reportLonger) (hshorter : (ConfigRequest.set key shorter).Built reportShorter)
    (hwritable : (ConfigRequest.set key longer).Writable ∧ (ConfigRequest.set key shorter).Writable)
    (hdaemon : l.daemon = some ctx) (hstore : store.Represents (file l.camera))
    (hlookup : Assoc.lookup (ascii key.value) store.settings = some old) {rounds : Nat}
    (hrounds : CONFIG_BUFFER < store.size + rounds * (longer.length - shorter.length)) :
    ((List.replicate (rounds + 2) [reportLonger, reportShorter]).flatten.foldl c.deliver l).daemon = none := by
  have hbuilt (n : Nat) : List.Forall₂ (fun request report => ConfigRequest.Built report request)
      (alternately key longer shorter n) (List.replicate n [reportLonger, reportShorter]).flatten := by
    induction n with
    | zero => exact .nil
    | succ n ih => exact .cons hlonger (.cons hshorter ih)
  have hall : ∀ request ∈ alternately key longer shorter (rounds + 2), request.Writable := by
    intro request hmem
    obtain ⟨pair, hpair, hrequest⟩ := List.mem_flatten.mp hmem
    rw [List.eq_of_mem_replicate hpair] at hrequest
    rcases List.mem_pair.mp hrequest with rfl | rfl
    · exact hwritable.1
    · exact hwritable.2
  obtain ⟨hkeeping, -⟩ := daemon_serves hc (hbuilt (rounds + 2)) hall hdaemon hstore
  rw [serve_alternately hlookup hrounds] at hkeeping
  exact hkeeping

theorem configSet_wearsOut_sample :
    ∃ reportLonger reportShorter,
      ((List.replicate 2048 [reportLonger, reportShorter]).flatten.foldl fileCamera.deliver sampleLink).daemon = none := by
  have hwritable : (ConfigRequest.set .adbEnabled (ascii "1")).Writable ∧ (ConfigRequest.set .adbEnabled []).Writable :=
    ⟨⟨forall_mem_of_all (by decide), by decide⟩, ⟨forall_mem_of_all (by decide), by decide⟩⟩
  obtain ⟨reportLonger, hlonger⟩ := exists_built _ hwritable.1
  obtain ⟨reportShorter, hshorter⟩ := exists_built _ hwritable.2
  exact ⟨reportLonger, reportShorter, configSet_wearsOut holdsConfig_fileCamera hlonger hshorter hwritable rfl represents_sample
    (show Assoc.lookup (ascii "adb_en") sampleSettings = some (ascii "0") from rfl)
    (show CONFIG_BUFFER < sampleStore.size + 2046 * ((ascii "1").length - 0) by decide)⟩

end Results

end Cc2Camera.HidUpdate
