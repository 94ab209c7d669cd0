import Cc2Camera.Device.Transport
import Mathlib.Data.List.Basic

/-!
# Transfer — what a returning `restore_blob` has established

The frames come from the blob while the metadata and the test for the final packet come from the plan.
A run that returns is a list of exchanges, one for each piece of the blob; it carries the bootloader's
verdict exactly when the plan describes the blob.
-/

open Bytes Exceptions Program

namespace Cc2Camera.HidTransport

open Protocol Commands Host

/-! ## Reading the wire -/

/-- `reply` is a valid type-2 acknowledgement carrying `n`. -/
def IsAck (reply : Bytes) (n : Nat) : Prop :=
  ∃ frame, fromBootHidReport reply = .ok frame ∧ decodeBootAck frame = .ok n

/-- `reply` is a valid type-5 terminal status, accepting (payload 01) or rejecting (payload 00). -/
def IsStatus (reply : Bytes) (accepted : Bool) : Prop :=
  ∃ frame, fromBootHidReport reply = .ok frame ∧ decodeBootTerminalStatus frame = .ok accepted

/-- The sequence number and the data of a report that carries a type-3 host frame. -/
def dataOf (report : Bytes) : Option (Nat × Bytes) :=
  match parseBootFrame (report.drop 1) false with
  | .ok frame => if frame.frameType = 3 then some (u32 frame.payload 0, frame.payload.drop 4) else none
  | .error _ => none

def dataSent : Wire → Option (Nat × Bytes)
  | .sent report => dataOf report
  | .received _ => none

def replyRead : Wire → Option Bytes
  | .sent _ => none
  | .received reply => some reply

def dataFrames (w : List Wire) : List (Nat × Bytes) := w.filterMap dataSent

def lastReply (w : List Wire) : Option Bytes := (w.filterMap replyRead).getLast?

/-- What a normal return is supposed to mean. -/
structure Verdict (plan : UpdatePlan) (w : List Wire) : Prop where
  accepted : ∃ reply, lastReply w = some reply ∧ IsStatus reply true
  count : (dataFrames w).length = plan.packetCount
  total : ((dataFrames w).map fun d => d.2.length).sum = plan.transferSize
  acknowledged : ∀ before report after sequence data, w = before ++ .sent report :: after →
    dataOf report = some (sequence, data) → ∃ reply, lastReply before = some reply ∧ IsAck reply sequence
  stopped : ∀ before reply after accepted, w = before ++ .received reply :: after →
    IsStatus reply accepted → ∀ report, .sent report ∉ after

/-! ## Exchanges -/

/-- A report and the reply to it. -/
structure Exchange where
  report : Bytes
  reply : Bytes

def exchanged (e : Exchange) : List Wire := [.sent e.report, .received e.reply]

theorem lastReply_exchanged (es : List Exchange) :
    lastReply (es.flatMap exchanged) = es.getLast?.map Exchange.reply := by
  have hreplies : (es.flatMap exchanged).filterMap replyRead = es.map Exchange.reply := by
    induction es with
    | nil => rfl
    | cons e es ih =>
      rw [List.flatMap_cons, List.filterMap_append, ih]
      rfl
  rw [lastReply, hreplies, List.getLast?_map]

theorem dataFrames_exchanged (es : List Exchange) :
    dataFrames (es.flatMap exchanged) = es.filterMap fun e => dataOf e.report := by
  induction es with
  | nil => rfl
  | cons e es ih =>
    have hhead : dataFrames (exchanged e) = (dataOf e.report).toList := by
      cases h : dataOf e.report with
      | none => simp [dataFrames, exchanged, dataSent, h]
      | some d => simp [dataFrames, exchanged, dataSent, h]
    rw [List.flatMap_cons, dataFrames, List.filterMap_append]
    rw [dataFrames] at ih hhead
    rw [ih, hhead]
    cases h : dataOf e.report with
    | none => simp [h]
    | some d => simp [h]

-- a report stands at the head of its exchange, behind whole exchanges
theorem exchanged_eq_append_sent {es : List Exchange} {before after : List Wire} {report : Bytes}
    (h : es.flatMap exchanged = before ++ .sent report :: after) :
    ∃ pre e post, es = pre ++ e :: post ∧ e.report = report ∧ before = pre.flatMap exchanged := by
  induction es generalizing before with
  | nil => simp at h
  | cons e es ih =>
    rw [List.flatMap_cons] at h
    match before, h with
    | [], h =>
      obtain ⟨hreport, -⟩ := List.cons.inj h
      exact ⟨[], e, es, rfl, Wire.sent.inj hreport, rfl⟩
    | [_], h =>
      obtain ⟨-, h⟩ := List.cons.inj h
      obtain ⟨hreply, -⟩ := List.cons.inj h
      cases hreply
    | a :: b :: before, h =>
      obtain ⟨ha, h⟩ := List.cons.inj h
      obtain ⟨hb, h⟩ := List.cons.inj h
      obtain ⟨pre, e', post, rfl, hreport, rfl⟩ := ih h
      exact ⟨e :: pre, e', post, rfl, hreport, by rw [List.flatMap_cons, ← ha, ← hb]; rfl⟩

-- a reply stands at the end of its exchange
theorem exchanged_eq_append_received {es : List Exchange} {before after : List Wire} {reply : Bytes}
    (h : es.flatMap exchanged = before ++ .received reply :: after) :
    ∃ pre e post, es = pre ++ e :: post ∧ e.reply = reply ∧ after = post.flatMap exchanged := by
  induction es generalizing before with
  | nil => simp at h
  | cons e es ih =>
    rw [List.flatMap_cons] at h
    match before, h with
    | [], h =>
      obtain ⟨hreply, -⟩ := List.cons.inj h
      cases hreply
    | [_], h =>
      obtain ⟨-, h⟩ := List.cons.inj h
      obtain ⟨hreply, h⟩ := List.cons.inj h
      exact ⟨[], e, es, rfl, Wire.received.inj hreply, h.symm⟩
    | _ :: _ :: before, h =>
      obtain ⟨-, h⟩ := List.cons.inj h
      obtain ⟨-, h⟩ := List.cons.inj h
      obtain ⟨pre, e', post, rfl, hreply, hafter⟩ := ih h
      exact ⟨e :: pre, e', post, rfl, hreply, hafter⟩

/-! ## One packet -/

theorem packetReport_eq_ok {sequence : Nat} {chunk report : Bytes} (hchunk : chunk.length ≤ BOOT_DATA_SIZE) :
    packetReport sequence chunk = .ok report ↔
      sequence < 2 ^ 32 ∧ report = sealedReport HOST_MAGIC 3 (leBytes 4 sequence ++ chunk) := by
  have hlength := length_data_payload sequence chunk
  have hsize : BOOT_DATA_SIZE = 3060 := rfl
  have hcapacity : BOOT_FRAME_CAPACITY = 3071 := rfl
  have hreport := @toBootHidReport_sealed 3 (leBytes 4 sequence ++ chunk) (by omega)
  rw [packetReport, bind_eq_ok]
  simp only [dataFrame_eq_ok hchunk]
  constructor
  · rintro ⟨_, ⟨hfits, rfl⟩, h⟩
    rw [hreport, Except.ok.injEq] at h
    exact ⟨hfits, h.symm⟩
  · rintro ⟨hfits, rfl⟩
    exact ⟨_, ⟨hfits, rfl⟩, hreport⟩

theorem parseBootFrame_hostReport {frameType : Nat} {payload : Bytes} (htype : frameType < 256)
    (hlen : payload.length + 7 ≤ 0xFFFF) :
    parseBootFrame ((sealedReport HOST_MAGIC frameType payload).drop 1) false =
      .ok { frameType := frameType, payload := payload, totalLength := payload.length + 7 } :=
  parseBootFrame_sealed _ false htype hlen

theorem dataOf_sealed {sequence : Nat} {chunk : Bytes} (hchunk : chunk.length ≤ BOOT_DATA_SIZE)
    (hfits : sequence < 2 ^ 32) :
    dataOf (sealedReport HOST_MAGIC 3 (leBytes 4 sequence ++ chunk)) = some (sequence, chunk) := by
  have hlength := length_data_payload sequence chunk
  have hsize : BOOT_DATA_SIZE = 3060 := rfl
  have hseq : u32 (leBytes 4 sequence ++ chunk) 0 = sequence := by
    have hfield : slice (leBytes 4 sequence ++ chunk) 0 4 = leBytes 4 sequence :=
      slice_of_append (a := []) (c := chunk) rfl rfl (by rw [length_leBytes])
    rw [u32, hfield, leNat_leBytes hfits]
  have hdata : (leBytes 4 sequence ++ chunk).drop 4 = chunk :=
    List.drop_left' (length_leBytes 4 sequence)
  rw [dataOf, parseBootFrame_hostReport (by decide) (by omega)]
  simp only [if_true, hseq, hdata]

theorem metadataReport_eq_ok {plan : UpdatePlan} {report : Bytes} :
    metadataReport plan = .ok report ↔
      PlanFits plan ∧ report = sealedReport HOST_MAGIC 1 (metadataFields plan 0) := by
  have hreport := @toBootHidReport_sealed 1 (metadataFields plan 0) (by rw [length_metadataFields]; decide)
  rw [metadataReport, bind_eq_ok]
  simp only [buildBootMetadataRequest_eq_ok]
  constructor
  · rintro ⟨_, ⟨⟨hfits, -⟩, rfl⟩, h⟩
    rw [hreport, Except.ok.injEq] at h
    exact ⟨hfits, h.symm⟩
  · rintro ⟨hfits, rfl⟩
    exact ⟨_, ⟨⟨hfits, by decide⟩, rfl⟩, hreport⟩

theorem dataOf_metadata (plan : UpdatePlan) :
    dataOf (sealedReport HOST_MAGIC 1 (metadataFields plan 0)) = none := by
  rw [dataOf, parseBootFrame_hostReport (by decide) (by rw [length_metadataFields]; decide)]
  exact if_neg (show (1 : Nat) ≠ 3 by decide)

theorem checkMetadataReply_eq_ok {reply : Bytes} {u : Unit} :
    checkMetadataReply reply = .ok u ↔ IsAck reply 0 := by
  simp only [checkMetadataReply, bind_eq_ok, raiseIf_eq_ok, not_not, IsAck]
  constructor
  · rintro ⟨frame, hframe, acknowledged, hacknowledged, rfl⟩
    exact ⟨frame, hframe, hacknowledged⟩
  · rintro ⟨frame, hframe, hacknowledged⟩
    exact ⟨frame, hframe, 0, hacknowledged, rfl⟩

/-- What `restore_blob` requires of the reply to packet `sequence`. -/
def Accepts (plan : UpdatePlan) (sequence : Nat) (reply : Bytes) : Prop :=
  if sequence + 1 = plan.packetCount then IsStatus reply true else IsAck reply (sequence + 1)

theorem checkPacketReply_eq_ok {plan : UpdatePlan} {sequence : Nat} {reply : Bytes} {u : Unit} :
    checkPacketReply plan sequence reply = .ok u ↔ Accepts plan sequence reply := by
  rw [checkPacketReply, bind_eq_ok, Accepts]
  split
  · simp only [bind_eq_ok, raiseIf_eq_ok, Bool.not_eq_false, IsStatus]
    constructor
    · rintro ⟨frame, hframe, accepted, haccepted, rfl⟩
      exact ⟨frame, hframe, haccepted⟩
    · rintro ⟨frame, hframe, haccepted⟩
      exact ⟨frame, hframe, true, haccepted, rfl⟩
  · simp only [bind_eq_ok, raiseIf_eq_ok, not_not, IsAck]
    constructor
    · rintro ⟨frame, hframe, acknowledged, hacknowledged, rfl⟩
      exact ⟨frame, hframe, hacknowledged⟩
    · rintro ⟨frame, hframe, hacknowledged⟩
      exact ⟨frame, hframe, sequence + 1, hacknowledged, rfl⟩

/-! ## The packets of a blob -/

/-- The exchanges that carry `pieces`, numbered from `sequence`, each reply accepted. -/
inductive Answers (plan : UpdatePlan) : Nat → List Bytes → List Exchange → Prop where
  | nil (sequence : Nat) : Answers plan sequence [] []
  | cons {sequence : Nat} {piece : Bytes} {rest : List Bytes} {e : Exchange} {es : List Exchange}
      (hsent : dataOf e.report = some (sequence, piece)) (hreply : Accepts plan sequence e.reply)
      (hrest : Answers plan (sequence + 1) rest es) : Answers plan sequence (piece :: rest) (e :: es)

theorem Answers.length_eq {plan : UpdatePlan} {sequence : Nat} {pieces : List Bytes}
    {es : List Exchange} (h : Answers plan sequence pieces es) : es.length = pieces.length := by
  induction h with
  | nil _ => rfl
  | cons _ _ _ ih => rw [List.length_cons, List.length_cons, ih]

theorem Answers.data_eq {plan : UpdatePlan} {sequence : Nat} {pieces : List Bytes}
    {es : List Exchange} (h : Answers plan sequence pieces es) :
    (es.filterMap fun e => dataOf e.report).map Prod.snd = pieces := by
  induction h with
  | nil _ => rfl
  | @cons _ _ _ e _ hsent _ _ ih =>
    rw [List.filterMap_cons_some (f := fun e => dataOf e.report) (a := e) hsent, List.map_cons, ih]

theorem Answers.getElem {plan : UpdatePlan} {sequence : Nat} {pieces : List Bytes}
    {es : List Exchange} (h : Answers plan sequence pieces es) {k : Nat} {e : Exchange}
    (he : es[k]? = some e) :
    Accepts plan (sequence + k) e.reply ∧ ∃ piece, dataOf e.report = some (sequence + k, piece) := by
  induction h generalizing k with
  | nil _ => simp at he
  | @cons sequence piece _ _ _ hsent hreply _ ih =>
    cases k with
    | zero =>
      rw [List.getElem?_cons_zero, Option.some.injEq] at he
      subst he
      exact ⟨hreply, piece, hsent⟩
    | succ k =>
      rw [List.getElem?_cons_succ] at he
      rw [Nat.add_comm k 1, ← Nat.add_assoc]
      exact ih he

theorem wire_bootExchange {handle : HidHandle} {report reply : Bytes} {count : Int} {timeoutMs : Nat} :
    wire [⟨.hidWrite handle report, .ok count⟩, ⟨.hidRead handle BOOT_REPORT_SIZE timeoutMs, .ok reply⟩] =
      exchanged { report := report, reply := reply } := rfl

theorem sendPackets_answers {plan : UpdatePlan} {progress : Progress} {handle : HidHandle}
    {state : progress.State} {sequence : Nat} {pieces : List Bytes} {t : Trace}
    (hpieces : ∀ piece ∈ pieces, piece.length ≤ BOOT_DATA_SIZE)
    (h : Runs (sendPackets plan progress handle state sequence pieces) t (.returned ())) :
    ∃ es, Answers plan sequence pieces es ∧ wire t = es.flatMap exchanged := by
  induction pieces generalizing state sequence t with
  | nil =>
    obtain ⟨-, rfl⟩ := runs_ret.mp h
    exact ⟨[], .nil sequence, rfl⟩
  | cons piece rest ih =>
    rw [sendPackets, runs_bind] at h
    obtain ⟨t₁, u, t₂, hpacket, h, rfl⟩ := h
    obtain ⟨t₃, u', t₄, hprogress, hrest, rfl⟩ := runs_bind.mp h
    obtain ⟨report, reply, count, hreport, -, -, hreply, rfl⟩ := runs_bootExchange.mp hpacket
    obtain ⟨es, hes, hwire⟩ := ih (fun p hp => hpieces p (List.mem_cons_of_mem _ hp)) hrest
    have hpiece := hpieces piece List.mem_cons_self
    obtain ⟨hfits, rfl⟩ := (packetReport_eq_ok hpiece).mp hreport
    refine ⟨⟨_, reply⟩ :: es, .cons (dataOf_sealed hpiece hfits) (checkPacketReply_eq_ok.mp hreply) hes, ?_⟩
    rw [wire_append, wire_append, wire_bootExchange, wire_printAll hprogress, hwire, List.flatMap_cons]
    rfl

/-- A returning transfer is the metadata exchange and one exchange for each piece of the blob. -/
theorem restoreBlob_exchanges {blob : Bytes} {plan : UpdatePlan} {progress : Progress} {t : Trace}
    (h : Runs (restoreBlob blob plan progress) t (.returned ())) :
    ∃ e es, dataOf e.report = none ∧ IsAck e.reply 0 ∧
      Answers plan 0 (chunks BOOT_DATA_SIZE blob) es ∧ wire t = (e :: es).flatMap exchanged := by
  rw [restoreBlob, runs_withHandle] at h
  obtain ⟨handle, t', -, -, h, rfl⟩ := h
  obtain ⟨t₁, u, t₂, hmetadata, hpackets, rfl⟩ := runs_bind.mp h
  obtain ⟨report, reply, count, hreport, -, -, hreply, rfl⟩ := runs_bootExchange.mp hmetadata
  obtain ⟨es, hes, hwire⟩ := sendPackets_answers (fun piece hp => length_le_of_mem_chunks hp) hpackets
  obtain ⟨-, rfl⟩ := metadataReport_eq_ok.mp hreport
  refine ⟨{ report := _, reply := reply }, es, dataOf_metadata plan, checkMetadataReply_eq_ok.mp hreply,
    hes, ?_⟩
  rw [wire_append, wire_append, wire_append, wire_bootExchange, hwire, List.flatMap_cons]
  exact List.append_nil _

/-! ## The verdict of a plan that describes its blob -/

theorem not_isStatus_of_isAck {reply : Bytes} {n : Nat} {accepted : Bool} (h : IsAck reply n) :
    ¬IsStatus reply accepted := by
  rintro ⟨frame', hframe', hstatus⟩
  obtain ⟨frame, hframe, hack⟩ := h
  rw [hframe, Except.ok.injEq] at hframe'
  subst hframe'
  obtain ⟨htype, -⟩ := decodeBootAck_eq_ok.mp hack
  rw [decodeBootTerminalStatus, htype, raiseIf_of (by decide)] at hstatus
  cases hstatus

theorem isAck_lt {reply : Bytes} {n : Nat} (h : IsAck reply n) : n < 2 ^ 32 := by
  obtain ⟨frame, -, hack⟩ := h
  obtain ⟨-, -, rfl⟩ := decodeBootAck_eq_ok.mp hack
  exact u32_lt _ _

-- every packet but the last is acknowledged with the number after it
theorem Answers.isAck {plan : UpdatePlan} {pieces : List Bytes} {es pre post : List Exchange}
    {e : Exchange} (h : Answers plan 0 pieces es) (hcount : plan.packetCount = pieces.length)
    (hes : es = pre ++ e :: post) (hpost : post ≠ []) : IsAck e.reply (pre.length + 1) := by
  have hlength := h.length_eq
  have hpos := List.length_pos_iff.mpr hpost
  rw [hes, List.length_append, List.length_cons] at hlength
  have he : es[pre.length]? = some e := by rw [hes]; simp
  have haccepts := (h.getElem he).1
  rw [Nat.zero_add, Accepts, if_neg (by omega)] at haccepts
  exact haccepts

theorem verdict_of_answers {plan : UpdatePlan} {pieces : List Bytes} {e : Exchange}
    {es : List Exchange} (hmetadata : dataOf e.report = none) (hfirst : IsAck e.reply 0)
    (h : Answers plan 0 pieces es) (hpieces : pieces ≠ []) (hcount : plan.packetCount = pieces.length)
    (htotal : plan.transferSize = (pieces.map List.length).sum) :
    Verdict plan ((e :: es).flatMap exchanged) := by
  have hlength := h.length_eq
  have hframes : dataFrames ((e :: es).flatMap exchanged) = es.filterMap fun e => dataOf e.report := by
    rw [dataFrames_exchanged, List.filterMap_cons_none (f := fun e => dataOf e.report) (a := e) hmetadata]
  have hdata : (dataFrames ((e :: es).flatMap exchanged)).map Prod.snd = pieces := by
    rw [hframes, h.data_eq]
  refine { accepted := ?_, count := ?_, total := ?_, acknowledged := ?_, stopped := ?_ }
  · -- the last exchange answers packet `packetCount - 1`
    obtain ⟨init, last, rfl⟩ : ∃ init last, es = init ++ [last] :=
      (List.eq_nil_or_concat' es).resolve_left fun hes => by
        rw [hes, List.length_nil] at hlength
        exact hpieces (List.length_eq_zero_iff.mp hlength.symm)
    have hlast := (h.getElem (k := init.length) (e := last) (by simp)).1
    rw [List.length_append, List.length_singleton] at hlength
    rw [Nat.zero_add, Accepts, if_pos (by omega)] at hlast
    refine ⟨last.reply, ?_, hlast⟩
    rw [lastReply_exchanged, ← List.cons_append, List.getLast?_concat, Option.map_some]
  · rw [hcount, ← hdata, List.length_map]
  · rw [htotal, ← hdata, List.map_map]
    rfl
  · intro before report after sequence data hw hreport
    obtain ⟨pre, e', post, hes, rfl, rfl⟩ := exchanged_eq_append_sent hw
    rw [lastReply_exchanged]
    match pre, hes with
    | [], hes =>
      obtain ⟨rfl, -⟩ := List.cons.inj hes
      rw [hmetadata] at hreport
      cases hreport
    | e'' :: pre, hes =>
      obtain ⟨rfl, htail⟩ := List.cons.inj hes
      obtain ⟨-, piece, hpiece⟩ := h.getElem (k := pre.length) (e := e')
        (by rw [htail]; simp)
      rw [hreport, Nat.zero_add, Option.some.injEq, Prod.mk.injEq] at hpiece
      obtain ⟨rfl, -⟩ := hpiece
      rcases List.eq_nil_or_concat' pre with rfl | ⟨init, last, rfl⟩
      · exact ⟨_, rfl, hfirst⟩
      · refine ⟨last.reply, ?_, ?_⟩
        · rw [← List.cons_append, List.getLast?_concat, Option.map_some]
        · rw [List.length_append, List.length_singleton]
          exact h.isAck hcount (htail.trans (List.append_assoc init [last] (e' :: post)))
            (List.cons_ne_nil _ _)
  · intro before reply after accepted hw hstatus report hmem
    obtain ⟨pre, e', post, hes, rfl, rfl⟩ := exchanged_eq_append_received hw
    have hpost : post ≠ [] := by
      rintro rfl
      exact List.not_mem_nil hmem
    match pre, hes with
    | [], hes =>
      obtain ⟨rfl, -⟩ := List.cons.inj hes
      exact not_isStatus_of_isAck hfirst hstatus
    | _ :: pre, hes =>
      obtain ⟨-, hes⟩ := List.cons.inj hes
      exact not_isStatus_of_isAck (h.isAck hcount hes hpost) hstatus

/-! ## A run that returns -/

theorem isAck_sealed {n : Nat} (h : n < 2 ^ 32) : IsAck (sealedReport DEVICE_MAGIC 2 (leBytes 4 n)) n := by
  have hlength := length_leBytes 4 n
  refine ⟨_, fromBootHidReport_sealed (by decide) (by omega), ?_⟩
  refine decodeBootAck_eq_ok.mpr ⟨rfl, hlength, ?_⟩
  have hwhole : slice (leBytes 4 n) 0 4 = leBytes 4 n :=
    slice_of_append (a := []) (c := []) (by simp) rfl (by rw [hlength])
  show leNat (slice (leBytes 4 n) 0 4) = n
  rw [hwhole, leNat_leBytes h]

theorem isStatus_sealed : IsStatus (sealedReport DEVICE_MAGIC 5 [1]) true :=
  ⟨_, fromBootHidReport_sealed (by decide) (by decide), decodeBootTerminalStatus_eq_true.mpr ⟨rfl, rfl⟩⟩

theorem exists_accepts {plan : UpdatePlan} {sequence : Nat} (h : sequence + 1 < 2 ^ 32) :
    ∃ reply, reply ≠ [] ∧ Accepts plan sequence reply := by
  by_cases hfinal : sequence + 1 = plan.packetCount
  · refine ⟨sealedReport DEVICE_MAGIC 5 [1], sealedReport_ne_nil _ _ _, ?_⟩
    rw [Accepts, if_pos hfinal]
    exact isStatus_sealed
  · refine ⟨sealedReport DEVICE_MAGIC 2 (leBytes 4 (sequence + 1)), sealedReport_ne_nil _ _ _, ?_⟩
    rw [Accepts, if_neg hfinal]
    exact isAck_sealed h

theorem sendPackets_returns {plan : UpdatePlan} {progress : Progress} {handle : HidHandle}
    {state : progress.State} {sequence : Nat} {pieces : List Bytes}
    (hpieces : ∀ piece ∈ pieces, piece.length ≤ BOOT_DATA_SIZE)
    (hcount : sequence + pieces.length < 2 ^ 32) :
    ∃ t, Runs (sendPackets plan progress handle state sequence pieces) t (.returned ()) := by
  induction pieces generalizing state sequence with
  | nil => exact ⟨[], .ret ()⟩
  | cons piece rest ih =>
    rw [List.length_cons] at hcount
    obtain ⟨reply, hreply, haccepts⟩ := @exists_accepts plan sequence (by omega)
    have hreport := (packetReport_eq_ok (hpieces piece List.mem_cons_self)).mpr
      ⟨show sequence < 2 ^ 32 by omega, rfl⟩
    obtain ⟨t₁, hprogress⟩ := Host.canReturn_printAll (progress.report state (sequence + 1) plan.packetCount).2
    obtain ⟨t₂, hrest⟩ := @ih (progress.report state (sequence + 1) plan.packetCount).1 (sequence + 1)
      (fun p hp => hpieces p (List.mem_cons_of_mem _ hp)) (by omega)
    exact ⟨_, runs_bind.mpr ⟨_, (), _,
      runs_bootExchange.mpr ⟨_, reply, _, hreport, Or.inl rfl, hreply,
        checkPacketReply_eq_ok.mpr haccepts, rfl⟩,
      runs_bind.mpr ⟨t₁, (), t₂, hprogress, hrest, rfl⟩, rfl⟩⟩

/-- Some device lets the transfer return, unless the blob outgrows the sequence numbers. -/
theorem restoreBlob_returns {blob : Bytes} {plan : UpdatePlan} {progress : Progress}
    (hplan : PlanFits plan) (hblob : blob.length ≤ (2 ^ 32 - 1) * BOOT_DATA_SIZE) :
    ∃ t, Runs (restoreBlob blob plan progress) t (.returned ()) := by
  have hsize : BOOT_DATA_SIZE = 3060 := rfl
  have hcount : 0 + (chunks BOOT_DATA_SIZE blob).length < 2 ^ 32 := by
    rw [length_chunks, Nat.zero_add]
    have hle : (blob.length + BOOT_DATA_SIZE - 1) / BOOT_DATA_SIZE ≤ 2 ^ 32 - 1 :=
      Nat.lt_succ_iff.mp ((Nat.div_lt_iff_lt_mul (by decide)).mpr (by omega))
    omega
  let handle : HidHandle := { vid := BOOT_VID, pid := BOOT_HID_PID, info := ⟨BOOT_VID, BOOT_HID_PID, none, ""⟩ }
  obtain ⟨t, ht⟩ := @sendPackets_returns plan progress handle progress.start 0 _
    (fun piece hp => length_le_of_mem_chunks hp) hcount
  have hreport := metadataReport_eq_ok.mpr ⟨hplan, rfl⟩
  exact ⟨_, runs_withHandle.mpr ⟨handle, _, rfl, rfl,
    runs_bind.mpr ⟨_, (), t,
      runs_bootExchange.mpr ⟨_, sealedReport DEVICE_MAGIC 2 (leBytes 4 0), _, hreport, Or.inl rfl,
        sealedReport_ne_nil _ _ _, checkMetadataReply_eq_ok.mpr (isAck_sealed (by decide)), rfl⟩,
      ht, rfl⟩, rfl⟩⟩

/-- A blob beyond the sequence numbers is never transferred: packet `2 ^ 32 - 1` wants an
acknowledgement that no reply can carry. -/
theorem restoreBlob_overlong {blob : Bytes} {plan : UpdatePlan} {progress : Progress} {t : Trace}
    (hplan : PlanFits plan) (hblob : (2 ^ 32 - 1) * BOOT_DATA_SIZE < blob.length) :
    ¬Runs (restoreBlob blob plan progress) t (.returned ()) := by
  intro h
  obtain ⟨e, es, -, -, hes, -⟩ := restoreBlob_exchanges h
  have hsize : BOOT_DATA_SIZE = 3060 := rfl
  have hlength := hes.length_eq
  have hlong : 2 ^ 32 ≤ (blob.length + BOOT_DATA_SIZE - 1) / BOOT_DATA_SIZE :=
    (Nat.le_div_iff_mul_le (by decide)).mpr (by omega)
  rw [length_chunks] at hlength
  have hcount : plan.packetCount ≤ 2 ^ 32 - 1 := by
    have hpos := hplan.payloadPos
    have htransfer := hplan.transferLe
    have htransferPos := hplan.transferPos
    have hmul := Nat.le_mul_of_pos_right plan.transferSize hpos
    have hlt : plan.packetCount < plan.transferSize + 1 := by
      rw [hplan.count, Nat.div_lt_iff_lt_mul hpos, Nat.succ_mul]
      omega
    omega
  obtain ⟨e', he'⟩ : ∃ e', es[2 ^ 32 - 1]? = some e' :=
    ⟨_, List.getElem?_eq_getElem (by omega)⟩
  have haccepts := (hes.getElem he').1
  rw [Nat.zero_add, Accepts, if_neg (by omega)] at haccepts
  have hlt := isAck_lt haccepts
  omega

/-- A normal return carries the bootloader's verdict on the whole blob exactly when the plan counts the
blob's bytes and its packets, or the blob is too long for any run to return. -/
theorem restoreBlob_verdict_iff {blob : Bytes} {plan : UpdatePlan} {progress : Progress}
    (hplan : ∃ frame, buildBootMetadataRequest plan 0 = .ok frame) :
    (∀ t, Runs (restoreBlob blob plan progress) t (.returned ()) → Verdict plan (wire t)) ↔
      (plan.transferSize = blob.length ∧
          plan.packetCount = (blob.length + BOOT_DATA_SIZE - 1) / BOOT_DATA_SIZE) ∨
        (2 ^ 32 - 1) * BOOT_DATA_SIZE < blob.length := by
  obtain ⟨frame, hframe⟩ := hplan
  have hfits := (buildBootMetadataRequest_eq_ok.mp hframe).1.1
  have hlength := length_chunks BOOT_DATA_SIZE blob
  have hsum := sum_length_chunks (n := BOOT_DATA_SIZE) (by decide) blob
  constructor
  · intro h
    by_contra hcond
    obtain ⟨hmatch, hblob⟩ := not_or.mp hcond
    obtain ⟨t, ht⟩ := @restoreBlob_returns blob plan progress hfits (Nat.le_of_not_lt hblob)
    have hverdict := h t ht
    obtain ⟨e, es, hmetadata, -, hes, hwire⟩ := restoreBlob_exchanges ht
    have hdata : (dataFrames (wire t)).map Prod.snd = chunks BOOT_DATA_SIZE blob := by
      rw [hwire, dataFrames_exchanged,
        List.filterMap_cons_none (f := fun e => dataOf e.report) (a := e) hmetadata, hes.data_eq]
    refine hmatch ⟨?_, ?_⟩
    · rw [← hverdict.total, ← hsum, ← hdata, List.map_map]
      rfl
    · rw [← hverdict.count, ← hlength, ← hdata, List.length_map]
  · rintro (⟨htotal, hcount⟩ | hblob) t ht
    · obtain ⟨e, es, hmetadata, hfirst, hes, hwire⟩ := restoreBlob_exchanges ht
      rw [hwire]
      refine verdict_of_answers hmetadata hfirst hes ?_ (by rw [hcount, hlength]) (by rw [htotal, hsum])
      intro hnil
      have hpos := hfits.transferPos
      rw [hnil, List.map_nil, List.sum_nil] at hsum
      omega
    · exact absurd ht (restoreBlob_overlong hfits hblob)

/-- Four bytes to be sent as two packets of two, which `build_boot_metadata_request` accepts. -/
def smallPacketPlan : UpdatePlan :=
  { flashOffset := 0, imageSize := 4, transferSize := 4, imageMd5 := "", packetCount := 2,
    packetPayloadSize := 2, packetsPerAck := 1 }

theorem restoreBlob_verdict_iff_smallPacketPlan :
    (∀ t, Runs (restoreBlob [1, 2, 3, 4] smallPacketPlan .silent) t (.returned ()) →
        Verdict smallPacketPlan (wire t)) ↔
      (smallPacketPlan.transferSize = 4 ∧ smallPacketPlan.packetCount = (4 + BOOT_DATA_SIZE - 1) / BOOT_DATA_SIZE) ∨
        (2 ^ 32 - 1) * BOOT_DATA_SIZE < 4 :=
  restoreBlob_verdict_iff
    ⟨_, buildBootMetadataRequest_eq_ok.mpr ⟨⟨by constructor <;> decide, by decide⟩, rfl⟩⟩

/-- The one frame of the blob is not the plan's last: the transfer returns on an acknowledgement, with no
verdict from the bootloader. -/
theorem restoreBlob_smallPacketPlan_unverified :
    (∃ frame, buildBootMetadataRequest smallPacketPlan 0 = .ok frame) ∧
      ∃ t, Runs (restoreBlob [1, 2, 3, 4] smallPacketPlan .silent) t (.returned ()) ∧
        ¬Verdict smallPacketPlan (wire t) := by
  have hfits : PlanFits smallPacketPlan := by constructor <;> decide
  refine ⟨⟨_, buildBootMetadataRequest_eq_ok.mpr ⟨⟨hfits, by decide⟩, rfl⟩⟩, ?_⟩
  obtain ⟨t, ht⟩ := @restoreBlob_returns [1, 2, 3, 4] smallPacketPlan .silent hfits (by decide)
  refine ⟨t, ht, fun hverdict => ?_⟩
  obtain ⟨e, es, hmetadata, -, hes, hwire⟩ := restoreBlob_exchanges ht
  have hcount := hverdict.count
  rw [hwire, dataFrames_exchanged,
    List.filterMap_cons_none (f := fun e => dataOf e.report) (a := e) hmetadata,
    ← List.length_map (f := Prod.snd), hes.data_eq, length_chunks] at hcount
  exact absurd hcount (by decide)

end Cc2Camera.HidTransport
