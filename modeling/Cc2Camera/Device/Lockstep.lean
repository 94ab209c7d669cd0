import Cc2Camera.Device.Counts
import Cc2Camera.Device.Transfer

/-!
# Lockstep — `restore_blob` against the bootloader

After packet `k` the updater expects packet `k` of the same stream and the host is about to send it.  One
packet keeps this, the last one is answered by the verdict and programmed.
-/

open Bytes Exceptions Program

namespace Cc2Camera.Updater

open Protocol Commands Host HidTransport

/-! ## Frames across the link -/

theorem hidSendEmbeddedFrame_build (frameType : Nat) (payload : Bytes) :
    hidSendEmbeddedFrame (buildDeviceFrame frameType payload) =
      sealedReport DEVICE_MAGIC frameType payload := by
  have hframe : buildDeviceFrame frameType payload = sealedFrame DEVICE_MAGIC frameType payload := rfl
  rw [hframe, hidSendEmbeddedFrame, length_sealedFrame _ _ rfl]
  rfl

-- what lies behind the report ID of a host report
def embeddedFrame (frameType : Nat) (payload : Bytes) : Bytes :=
  (sealedReport HOST_MAGIC frameType payload).drop 1

theorem embeddedFrame_fields {frameType : Nat} {payload : Bytes} (htype : frameType < 256)
    (hlen : payload.length + 7 ≤ 0xFFFF) :
    FrameFields (embeddedFrame frameType payload) HOST_MAGIC frameType payload :=
  frameFields_sealed _ rfl htype hlen

theorem hidReceiveReport_sealed (board : Board) (u : UpdaterState) {frameType : Nat} {payload : Bytes}
    (htype : frameType < 256) (hlen : payload.length + 7 ≤ 0xFFFF) :
    hidReceiveReport board u (sealedReport HOST_MAGIC frameType payload) =
      if frameType = HOST_METADATA then
        acceptMetadata board u (embeddedFrame frameType payload) (payload.length + 7)
      else if frameType = HOST_DATA then
        acceptData board u (embeddedFrame frameType payload) (payload.length + 7)
      else .ok (u, []) := by
  have h := embeddedFrame_fields htype hlen
  have hmagic : slice (embeddedFrame frameType payload) 0 3 = hostMagic := h.magicAt
  have hid : u8 (sealedReport HOST_MAGIC frameType payload) 0 = HID_REPORT_ID := by
    rw [u8, sealedReport]
    rfl
  rw [hidReceiveReport, if_neg (not_not.mpr hid)]
  change updaterReceive board u (embeddedFrame frameType payload) = _
  simp only [updaterReceive, hmagic, ne_eq, not_true, if_false, h.typeAt, h.totalAt]

/-! ## One exchange over the link -/

section Exchange

variable {board : Board} {info : HidDevice}

theorem interact_call {op : Op} {link link' : Link} {a : Answer op}
    (h : link.answer board info op = (link', .ok a)) :
    (call op).interact (Link.answer board info) link = (link', .returned a) := by
  rw [call, interact_act, h]
  rfl

/-- The one reply that the report provokes comes back. -/
theorem interact_bootExchange {link link' : Link} {handle : HidHandle} {request : Except Exc Bytes}
    {report reply : Bytes} {timeoutMs : Nat} {check : Bytes → Except Exc Unit}
    (hrequest : request = .ok report) (hdeliver : link.deliver board report = link')
    (hqueue : link'.queue = [reply]) (hreply : reply ≠ []) (hcheck : check reply = .ok ()) :
    (bootExchange handle request timeoutMs check).interact (Link.answer board info) link =
      ({ link' with queue := [] }, .returned ()) := by
  have hwrite : (writeExact handle report).interact (Link.answer board info) link =
      (link', .returned ()) := by
    rw [writeExact, interact_bind_of_returned (@interact_call _ _ (.hidWrite handle report) _ _
      (report.length : Int) rfl), hdeliver]
    rw [raiseIf_of_not (by simp)]
    rfl
  have hread : (readReport handle BOOT_REPORT_SIZE timeoutMs).interact (Link.answer board info) link' =
      ({ link' with queue := [] }, .returned reply) := by
    have hanswer : link'.answer board info (.hidRead handle BOOT_REPORT_SIZE timeoutMs) =
        ({ link' with queue := [] }, .ok reply) := by
      rw [Link.answer, hqueue]
      rfl
    rw [readReport, interact_bind_of_returned (interact_call hanswer), raiseIf_of_not hreply]
    rfl
  rw [bootExchange, hrequest]
  change ((writeExact handle report) >>= _).interact _ _ = _
  rw [interact_bind_of_returned hwrite, interact_bind_of_returned hread, hcheck]
  rfl

end Exchange

/-! ## One packet -/

/-- Before packet `k` of `count`, the updater holds the first `k` pieces of the blob. -/
structure InStep (blob : Bytes) (count k : Nat) (u : UpdaterState) : Prop where
  perAck : u.metadata.packetsPerAck = 1
  packetCount : u.packetCount = count
  nextPacket : u.nextPacket = k
  used : u.streamUsed = k * BOOT_DATA_SIZE
  stream : ∃ rest, u.stream = some (blob.take (k * BOOT_DATA_SIZE) ++ rest) ∧
    k * BOOT_DATA_SIZE + rest.length = blob.length

-- piece `k` of the blob
def piece (blob : Bytes) (k : Nat) : Bytes :=
  slice blob (k * BOOT_DATA_SIZE) (k * BOOT_DATA_SIZE + BOOT_DATA_SIZE)

theorem length_piece (blob : Bytes) (k : Nat) :
    (piece blob k).length = min (k * BOOT_DATA_SIZE + BOOT_DATA_SIZE) blob.length - k * BOOT_DATA_SIZE :=
  length_slice _ _ _

theorem take_append_piece (blob : Bytes) {k : Nat} (hk : k * BOOT_DATA_SIZE < blob.length) :
    blob.take (k * BOOT_DATA_SIZE) ++ piece blob k =
      blob.take (k * BOOT_DATA_SIZE + (piece blob k).length) := by
  have hlength := length_piece blob k
  have hsize : BOOT_DATA_SIZE = 3060 := rfl
  rw [hlength, piece, ← slice_zero, slice_append_slice _ (Nat.zero_le _) (Nat.le_add_right _ _),
    slice_zero]
  by_cases hfull : k * BOOT_DATA_SIZE + BOOT_DATA_SIZE ≤ blob.length
  · rw [Nat.min_eq_left hfull]
    congr 1
    omega
  · rw [List.take_of_length_le (by omega), List.take_of_length_le (by omega)]

-- the frame that carries piece `k`
def pieceFrame (blob : Bytes) (k : Nat) : Bytes :=
  embeddedFrame HOST_DATA (leBytes 4 k ++ piece blob k)

theorem pieceFrame_fields (blob : Bytes) (k : Nat) :
    FrameFields (pieceFrame blob k) HOST_MAGIC HOST_DATA (leBytes 4 k ++ piece blob k) := by
  have hlength := length_piece blob k
  have hsize : BOOT_DATA_SIZE = 3060 := rfl
  have hpayload := length_data_payload k (piece blob k)
  exact embeddedFrame_fields (by decide) (by omega)

theorem appendData_piece {blob : Bytes} {count k : Nat} {u : UpdaterState} (h : InStep blob count k u)
    (hk : k * BOOT_DATA_SIZE < blob.length) (hblob : blob.length < 2 ^ 32) :
    ∃ rest, appendData u (pieceFrame blob k) (piece blob k).length =
        .ok { u with stream := some (blob.take (k * BOOT_DATA_SIZE + (piece blob k).length) ++ rest)
                     streamUsed := k * BOOT_DATA_SIZE + (piece blob k).length
                     nextPacket := k + 1
                     badFrameCount := 0 } ∧
      k * BOOT_DATA_SIZE + (piece blob k).length + rest.length = blob.length := by
  obtain ⟨rest, hstream, hrest⟩ := h.stream
  have hfields := pieceFrame_fields blob k
  have hframe := hfields.length
  have hpayload := length_data_payload k (piece blob k)
  have hlength := length_piece blob k
  have hsize : BOOT_DATA_SIZE = 3060 := rfl
  have hbound : k ≤ k * BOOT_DATA_SIZE := Nat.le_mul_of_pos_right k (by decide)
  have htake : (blob.take (k * BOOT_DATA_SIZE)).length = k * BOOT_DATA_SIZE := by
    rw [List.length_take]
    omega
  have hdata : slice (pieceFrame blob k) 10 (10 + (piece blob k).length) = piece blob k := by
    have hslice := payload_slice hfields (i := 4) (j := 4 + (piece blob k).length) (by omega)
    rw [show 10 + (piece blob k).length = 6 + (4 + (piece blob k).length) by omega]
    rw [hslice]
    exact slice_of_append (c := []) (by rw [List.append_nil]) (length_leBytes 4 k) rfl
  have hsplice : splice (blob.take (k * BOOT_DATA_SIZE) ++ rest) (k * BOOT_DATA_SIZE)
      (k * BOOT_DATA_SIZE + (piece blob k).length) (piece blob k) =
        blob.take (k * BOOT_DATA_SIZE + (piece blob k).length) ++ rest.drop (piece blob k).length := by
    rw [← take_append_piece blob hk, splice, List.take_left' htake, List.append_assoc,
      List.drop_append, List.drop_of_length_le (by omega), List.nil_append, htake,
      Nat.add_sub_cancel_left, List.append_assoc]
  refine ⟨rest.drop (piece blob k).length, ?_, by rw [List.length_drop]; omega⟩
  rw [appendData, hstream, Option.getD_some, h.used, raiseIf_of_not (by omega), ok_bind,
    raiseIf_of_not (by rw [List.length_append, htake]; omega), ok_bind, hdata, hsplice, h.nextPacket,
    Nat.mod_eq_of_lt (by omega), Nat.mod_eq_of_lt (by omega)]

-- the report that carries piece `k`
def pieceReport (blob : Bytes) (k : Nat) : Bytes :=
  sealedReport HOST_MAGIC HOST_DATA (leBytes 4 k ++ piece blob k)

theorem packetReport_piece {blob : Bytes} {k : Nat} (hk : k < 2 ^ 32) :
    packetReport k (piece blob k) = .ok (pieceReport blob k) := by
  have hlength := length_piece blob k
  exact (packetReport_eq_ok (by omega)).mpr ⟨hk, rfl⟩

/-- What the updater makes of piece `k`: the next acknowledgement, or the verdict on the last piece. -/
theorem receive_piece (board : Board) {blob : Bytes} {count k : Nat} {u : UpdaterState}
    (h : InStep blob count k u) (hk : k * BOOT_DATA_SIZE < blob.length) (hblob : blob.length < 2 ^ 32)
    (hcount : k < count) (hfits : count < 2 ^ 32) :
    ∃ (u' : UpdaterState) (rest : Bytes),
      hidReceiveReport board u (pieceReport blob k) =
        (if k + 1 = count then verifyAndProgram board u'
          else .ok ({ u' with batchFirstPacket := k + 1 }, [sendAck (k + 1)])) ∧
      u'.metadata = u.metadata ∧ u'.packetCount = count ∧ u'.nextPacket = k + 1 ∧
      u'.streamUsed = k * BOOT_DATA_SIZE + (piece blob k).length ∧
      u'.stream = some (blob.take (k * BOOT_DATA_SIZE + (piece blob k).length) ++ rest) ∧
      k * BOOT_DATA_SIZE + (piece blob k).length + rest.length = blob.length := by
  obtain ⟨rest, happend, hrest⟩ := appendData_piece h hk hblob
  have hfields := pieceFrame_fields blob k
  have hpayload := length_data_payload k (piece blob k)
  have hlength := length_piece blob k
  have hsize : BOOT_DATA_SIZE = 3060 := rfl
  have hpacket : u32 (pieceFrame blob k) 6 = k := by
    have hslice := @payload_slice _ _ _ _ 0 4 hfields (by omega)
    have hfield : slice (leBytes 4 k ++ piece blob k) 0 4 = leBytes 4 k :=
      slice_of_append (a := []) rfl rfl (by rw [length_leBytes])
    rw [u32, hslice, hfield, leNat_leBytes (by omega)]
  have hdeclared : (u16 (pieceFrame blob k) 4 + 2 ^ 32 - DATA_OVERHEAD) % 2 ^ 32 =
      (piece blob k).length := by
    have hoverhead : DATA_OVERHEAD = 11 := rfl
    rw [hfields.totalAt]
    omega
  have hlast : (k = (u.packetCount + 2 ^ 32 - 1) % 2 ^ 32) = (k + 1 = count) := by
    rw [h.packetCount, eq_iff_iff]
    omega
  refine ⟨{ u with stream := some (blob.take (k * BOOT_DATA_SIZE + (piece blob k).length) ++ rest)
                   streamUsed := k * BOOT_DATA_SIZE + (piece blob k).length
                   nextPacket := k + 1
                   badFrameCount := 0 }, rest, ?_, rfl, h.packetCount, rfl, rfl, rfl, hrest⟩
  rw [pieceReport, hidReceiveReport_sealed board u (by decide) (by omega), if_neg (by decide), if_pos rfl]
  change acceptData board u (pieceFrame blob k) _ = _
  rw [acceptData, validateHostFrame_fields hfields, ok_bind, if_neg (by decide)]
  simp only [hpacket, hdeclared, h.nextPacket, ne_eq, not_true, if_false, happend, ok_bind, hlast,
    h.perAck]
  rw [raiseIf_of_not (by decide), ok_bind, if_pos (Nat.mod_one _)]

theorem lt_count_iff {length k : Nat} :
    k < (length + BOOT_DATA_SIZE - 1) / BOOT_DATA_SIZE ↔ k * BOOT_DATA_SIZE < length := by
  have hsize : BOOT_DATA_SIZE = 3060 := rfl
  rw [← Nat.succ_le_iff, Nat.le_div_iff_mul_le (by decide), Nat.succ_mul]
  omega

theorem count_lt {length count : Nat} (hcount : count = (length + BOOT_DATA_SIZE - 1) / BOOT_DATA_SIZE)
    (hlength : length < 2 ^ 32) : count < 2 ^ 32 := by
  have hsize : BOOT_DATA_SIZE = 3060 := rfl
  rw [hcount]
  exact (Nat.div_lt_iff_lt_mul (by decide)).mpr (by omega)

/-! ## The link between two packets -/

/-- Between two packets the link is silent, and nothing but frames has left the updater. -/
structure Lockstep (blob : Bytes) (count k : Nat) (link : Link) : Prop where
  updater : ∃ u, link.updater = .ok u ∧ InStep blob count k u
  silent : link.queue = []
  onlyFrames : ∀ effect ∈ link.effects, ∃ frame, effect = .transportSend frame

theorem deliver_eq {board : Board} {link : Link} {u u' : UpdaterState} {report : Bytes}
    {effects : List Effect} (hu : link.updater = .ok u)
    (hreport : hidReceiveReport board u report = .ok (u', effects)) :
    link.deliver board report =
      { updater := .ok u', effects := link.effects ++ effects
        queue := link.queue ++ effects.filterMap Effect.report? } := by
  rw [Link.deliver]
  simp only [hu, hreport]

theorem report?_sendAck (n : Nat) :
    Effect.report? (sendAck n) = some (sealedReport DEVICE_MAGIC 2 (leBytes 4 n)) := by
  rw [sendAck, Effect.report?, hidSendEmbeddedFrame_build]
  rfl

theorem report?_sendTerminal_one :
    Effect.report? (sendTerminal 1) = some (sealedReport DEVICE_MAGIC 5 [1]) := by
  rw [sendTerminal, Effect.report?, hidSendEmbeddedFrame_build]
  rfl

section Run

variable {board : Board} {info : HidDevice} {plan : UpdatePlan} {handle : HidHandle} {blob : Bytes}

/-- A packet that is not the last keeps host and updater in step. -/
theorem sendPacket_lockstep {link : Link} {k : Nat}
    (hcount : plan.packetCount = (blob.length + BOOT_DATA_SIZE - 1) / BOOT_DATA_SIZE)
    (hblob : blob.length < 2 ^ 32) (hk : k + 1 < plan.packetCount)
    (h : Lockstep blob plan.packetCount k link) :
    ∃ link', (sendPacket plan handle k (piece blob k)).interact (Link.answer board info) link =
        (link', .returned ()) ∧ Lockstep blob plan.packetCount (k + 1) link' := by
  obtain ⟨u, hu, hstep⟩ := h.updater
  have hsize : BOOT_DATA_SIZE = 3060 := rfl
  have hnext : (k + 1) * BOOT_DATA_SIZE < blob.length := lt_count_iff.mp (by rw [← hcount]; exact hk)
  rw [Nat.succ_mul] at hnext
  have hlength : (piece blob k).length = BOOT_DATA_SIZE := by
    rw [length_piece]
    omega
  have hfits : plan.packetCount < 2 ^ 32 := count_lt hcount hblob
  obtain ⟨u', rest, hreceive, hmeta, hcount', hnext', hused, hstream, hrest⟩ :=
    receive_piece board hstep (by omega) hblob (by omega) hfits
  rw [if_neg (by omega)] at hreceive
  have hdeliver := deliver_eq hu hreceive
  have hreply : checkPacketReply plan k (sealedReport DEVICE_MAGIC 2 (leBytes 4 (k + 1))) = .ok () := by
    rw [checkPacketReply_eq_ok, Accepts, if_neg (by omega)]
    exact isAck_sealed (by omega)
  refine ⟨_, interact_bootExchange (packetReport_piece (by omega)) hdeliver ?_
    (sealedReport_ne_nil _ _ _) hreply, ⟨_, rfl, ?_⟩, rfl, ?_⟩
  · show link.queue ++ List.filterMap Effect.report? _ = _
    rw [h.silent, List.filterMap_cons_some (report?_sendAck _)]
    rfl
  · exact
      { perAck := by rw [hmeta]; exact hstep.perAck
        packetCount := hcount'
        nextPacket := hnext'
        used := by rw [hused, hlength, Nat.succ_mul]
        stream := ⟨rest, by rw [hstream, hlength, Nat.succ_mul], by rw [Nat.succ_mul]; omega⟩ }
  · intro effect heffect
    rcases List.mem_append.mp heffect with hmem | hmem
    · exact h.onlyFrames effect hmem
    · exact ⟨_, List.mem_singleton.mp hmem⟩

/-! ## The verdict -/

/-- What the updater programs when it holds the whole blob of an image. -/
theorem verifyAndProgram_blob {hashlib : Hashlib} {u : UpdaterState} {image : Bytes} {offset : Nat}
    (hmd5 : board.md5 = hashlib.md5) (hoffset : offset < 2 ^ 32) (himage : image.length < 2 ^ 32)
    (hstream : u.stream = some (updateHeader hashlib image offset ++ image)) :
    verifyAndProgram board u = .ok ({ u with terminalState := 1 },
      [sendTerminal 1, .flashErase offset image.length, .flashWrite offset image.length image]) := by
  have hmd5Length := (hashlib.md5 image).property
  have hheader : (updateHeader hashlib image offset).length = IMAGE_HEADER_SIZE := by
    simp only [updateHeader, List.length_append, List.length_replicate, length_leBytes, hmd5Length]
    rfl
  have hsize : IMAGE_HEADER_SIZE = 128 := rfl
  have hlength : (updateHeader hashlib image offset ++ image).length = IMAGE_HEADER_SIZE + image.length := by
    rw [List.length_append, hheader]
  have hassoc : updateHeader hashlib image offset ++ image =
      List.replicate 4 0 ++ (leBytes 4 offset ++ (leBytes 4 image.length ++ ((hashlib.md5 image).val ++
        (List.replicate 100 0 ++ image)))) := by
    simp only [updateHeader, List.append_assoc]
  have hoffsetField : u32 (updateHeader hashlib image offset ++ image) 4 = offset := by
    rw [u32, slice_of_append hassoc List.length_replicate (by rw [length_leBytes]), leNat_leBytes hoffset]
  have hlengthField : u32 (updateHeader hashlib image offset ++ image) 8 = image.length := by
    have hfield : slice (updateHeader hashlib image offset ++ image) 8 12 = leBytes 4 image.length :=
      slice_of_append (a := List.replicate 4 0 ++ leBytes 4 offset)
        (by rw [hassoc, List.append_assoc]) (by simp) (by rw [length_leBytes])
    rw [u32, hfield, leNat_leBytes himage]
  have hmd5Field : slice (updateHeader hashlib image offset ++ image) 12 28 = (hashlib.md5 image).val :=
    slice_of_append (a := List.replicate 4 0 ++ leBytes 4 offset ++ leBytes 4 image.length)
      (by rw [hassoc, List.append_assoc, List.append_assoc]) (by simp) (by rw [hmd5Length])
  have hdata : slice (updateHeader hashlib image offset ++ image) IMAGE_HEADER_SIZE
      (IMAGE_HEADER_SIZE + image.length) = image :=
    slice_of_append (c := []) (by rw [List.append_nil]) hheader rfl
  simp only [verifyAndProgram, hstream, Option.getD_some, hoffsetField, hlengthField, hmd5Field, hdata,
    hmd5, if_true, hlength]
  rw [raiseIf_of_not (by omega), ok_bind, raiseIf_of_not (by omega), ok_bind]

def Effect.isFlash : Effect → Bool
  | .flashErase _ _ => true
  | .flashWrite _ _ _ => true
  | _ => false

/-- The end of a transfer: the updater holds the blob and has programmed the image, once. -/
structure Programmed (blob image : Bytes) (offset : Nat) (link : Link) : Prop where
  stream : ∃ u, link.updater = .ok u ∧ u.stream = some blob ∧ u.streamUsed = blob.length
  noRetry : .batchRetry ∉ link.effects
  flash : link.effects.filter Effect.isFlash =
    [.flashErase offset image.length, .flashWrite offset image.length image]

/-- The last packet is answered by the verdict, and the image is programmed. -/
theorem sendPacket_last {hashlib : Hashlib} {image : Bytes} {offset : Nat} {link : Link} {k : Nat}
    (hmd5 : board.md5 = hashlib.md5) (hoffset : offset < 2 ^ 32)
    (himage : blob = updateHeader hashlib image offset ++ image)
    (hcount : plan.packetCount = (blob.length + BOOT_DATA_SIZE - 1) / BOOT_DATA_SIZE)
    (hblob : blob.length < 2 ^ 32) (hk : k + 1 = plan.packetCount)
    (h : Lockstep blob plan.packetCount k link) :
    ∃ link', (sendPacket plan handle k (piece blob k)).interact (Link.answer board info) link =
        (link', .returned ()) ∧ Programmed blob image offset link' := by
  obtain ⟨u, hu, hstep⟩ := h.updater
  have hsize : BOOT_DATA_SIZE = 3060 := rfl
  have hhere : k * BOOT_DATA_SIZE < blob.length := lt_count_iff.mp (by omega)
  have hend : ¬(k + 1) * BOOT_DATA_SIZE < blob.length := fun hlt => by
    have hmore := lt_count_iff.mpr hlt
    omega
  rw [Nat.succ_mul] at hend
  have hlength : k * BOOT_DATA_SIZE + (piece blob k).length = blob.length := by
    rw [length_piece]
    omega
  have hfits : plan.packetCount < 2 ^ 32 := count_lt hcount hblob
  obtain ⟨u', rest, hreceive, -, -, -, hused, hstream, hrest⟩ :=
    receive_piece board hstep hhere hblob (by omega) hfits
  have hnil : rest = [] := List.eq_nil_of_length_eq_zero (by omega)
  rw [hlength, List.take_length, hnil, List.append_nil] at hstream
  have himageLength : image.length ≤ blob.length := by
    rw [himage, List.length_append]
    omega
  have hverify : verifyAndProgram board u' = _ :=
    verifyAndProgram_blob hmd5 hoffset (show image.length < 2 ^ 32 by omega)
      (hstream.trans (congrArg some himage))
  rw [if_pos hk, hverify] at hreceive
  have hdeliver := deliver_eq hu hreceive
  have hreply : checkPacketReply plan k (sealedReport DEVICE_MAGIC 5 [1]) = .ok () := by
    rw [checkPacketReply_eq_ok, Accepts, if_pos hk]
    exact isStatus_sealed
  refine ⟨_, interact_bootExchange (packetReport_piece (by omega)) hdeliver ?_
    (sealedReport_ne_nil _ _ _) hreply,
    { stream := ⟨_, rfl, hstream, by rw [← hlength]; exact hused⟩, noRetry := ?_, flash := ?_ }⟩
  · show link.queue ++ List.filterMap Effect.report? _ = _
    rw [h.silent, List.filterMap_cons_some report?_sendTerminal_one]
    rfl
  · intro hmem
    rcases List.mem_append.mp hmem with hmem | hmem
    · obtain ⟨frame, hframe⟩ := h.onlyFrames _ hmem
      cases hframe
    · simp [sendTerminal] at hmem
  · have hquiet : link.effects.filter Effect.isFlash = [] := by
      rw [List.filter_eq_nil_iff]
      intro effect heffect
      obtain ⟨frame, rfl⟩ := h.onlyFrames effect heffect
      exact Bool.false_ne_true
    rw [List.filter_append, hquiet]
    rfl

theorem interact_printAll (texts : List String) (link : Link) :
    (printAll texts).interact (Link.answer board info) link = (link, .returned ()) := by
  induction texts with
  | nil => rfl
  | cons text rest ih =>
    rw [printAll, interact_bind_of_returned (@interact_call board info (.print text) link link () rfl)]
    exact ih

theorem drop_chunks {k : Nat} (hk : k < (blob.length + BOOT_DATA_SIZE - 1) / BOOT_DATA_SIZE) :
    (chunks BOOT_DATA_SIZE blob).drop k = piece blob k :: (chunks BOOT_DATA_SIZE blob).drop (k + 1) := by
  obtain ⟨hlt, hpiece⟩ := List.getElem?_eq_some_iff.mp (getElem?_chunks hk)
  rw [← List.getElem_cons_drop hlt, hpiece, piece]

/-- From packet `k` on, the rest of the pieces bring the transfer to its end. -/
theorem sendPackets_programs {hashlib : Hashlib} {image : Bytes} {offset : Nat} {progress : Progress}
    (hmd5 : board.md5 = hashlib.md5) (hoffset : offset < 2 ^ 32)
    (himage : blob = updateHeader hashlib image offset ++ image)
    (hcount : plan.packetCount = (blob.length + BOOT_DATA_SIZE - 1) / BOOT_DATA_SIZE)
    (hblob : blob.length < 2 ^ 32) {remaining k : Nat} (hk : k + remaining + 1 = plan.packetCount)
    {state : progress.State} {link : Link} (h : Lockstep blob plan.packetCount k link) :
    ∃ link', (sendPackets plan progress handle state k ((chunks BOOT_DATA_SIZE blob).drop k)).interact
        (Link.answer board info) link = (link', .returned ()) ∧ Programmed blob image offset link' := by
  induction remaining generalizing k state link with
  | zero =>
    obtain ⟨link', hsend, hprogrammed⟩ := sendPacket_last hmd5 hoffset himage hcount hblob hk h
    refine ⟨link', ?_, hprogrammed⟩
    have hdone : (chunks BOOT_DATA_SIZE blob).drop (k + 1) = [] :=
      List.drop_of_length_le (by rw [length_chunks]; omega)
    rw [drop_chunks (by omega), hdone, sendPackets, interact_bind_of_returned hsend,
      interact_bind_of_returned (interact_printAll _ _)]
    rfl
  | succ n ih =>
    obtain ⟨link', hsend, hstep⟩ := sendPacket_lockstep hcount hblob (by omega) h
    obtain ⟨link'', hrest, hprogrammed⟩ := @ih (k + 1) (by omega)
      (progress.report state (k + 1) plan.packetCount).1 link' hstep
    refine ⟨link'', ?_, hprogrammed⟩
    rw [drop_chunks (by omega), sendPackets, interact_bind_of_returned hsend,
      interact_bind_of_returned (interact_printAll _ _)]
    exact hrest

/-! ## The whole transfer -/

theorem decodeMetadata_sealed (hfits : PlanFits plan) :
    decodeMetadataUnchecked (embeddedFrame HOST_METADATA (metadataFields plan 0)) =
      { subpackSize := plan.packetPayloadSize, transferSize := plan.transferSize
        packetsPerAck := plan.packetsPerAck, version := 0 } := by
  have hlength := length_metadataFields plan 0
  exact decodeMetadata_fields hfits (by decide) (embeddedFrame_fields (by decide) (by omega))

/-- The metadata request resets every field of the updater. -/
theorem hidReceiveReport_metadata (u : UpdaterState) (hfits : PlanFits plan)
    (hplan : plan.packetPayloadSize = BOOT_DATA_SIZE) (hack : plan.packetsPerAck = 1)
    (htransfer : plan.transferSize = blob.length) (hblob : blob.length + BOOT_DATA_SIZE < 2 ^ 32)
    {buffer : {buffer : Bytes // buffer.length = plan.transferSize}} (hmalloc : board.malloc plan.transferSize = some buffer) :
    hidReceiveReport board u (sealedReport HOST_MAGIC HOST_METADATA (metadataFields plan 0)) =
      .ok ({ UpdaterState.fresh with
              metadata := { subpackSize := plan.packetPayloadSize, transferSize := plan.transferSize
                            packetsPerAck := plan.packetsPerAck, version := 0 }
              packetCount := plan.packetCount
              batchCount := plan.packetCount
              stream := some buffer }, [sendAck 0]) := by
  have hsize : BOOT_DATA_SIZE = 3060 := rfl
  have hlength := length_metadataFields plan 0
  have hfields := @embeddedFrame_fields HOST_METADATA (metadataFields plan 0) (by decide) (by omega)
  have hcount := hfits.count
  have hcountLt : plan.packetCount < 2 ^ 32 := by
    rw [htransfer, hplan] at hcount
    exact count_lt hcount (by omega)
  have hceil : ceilDivU32 plan.transferSize plan.packetPayloadSize = .ok plan.packetCount := by
    rw [ceilDivU32, raiseIf_of_not (by omega), ok_bind, Nat.mod_eq_of_lt (by omega), ← hcount]
  have hbatch : ceilDivU32 plan.packetCount plan.packetsPerAck = .ok plan.packetCount := by
    rw [ceilDivU32, hack, raiseIf_of_not (by decide), ok_bind, Nat.add_sub_cancel,
      Nat.mod_eq_of_lt hcountLt, Nat.div_one]
  rw [hidReceiveReport_sealed board _ (by decide) (by omega), if_pos rfl, acceptMetadata,
    validateHostFrame_fields hfields, ok_bind, decodeMetadata_sealed hfits]
  simp only [hceil, hbatch, ok_bind, hmalloc]
  rfl

/-- The metadata exchange takes a fresh updater into step with the host. -/
theorem sendMetadata_lockstep (hfits : PlanFits plan) (hplan : plan.packetPayloadSize = BOOT_DATA_SIZE)
    (hack : plan.packetsPerAck = 1) (htransfer : plan.transferSize = blob.length)
    (hblob : blob.length + BOOT_DATA_SIZE < 2 ^ 32) {buffer : {buffer : Bytes // buffer.length = plan.transferSize}}
    (hmalloc : board.malloc plan.transferSize = some buffer) :
    ∃ link', (sendMetadata plan handle).interact (Link.answer board info) Link.fresh =
        (link', .returned ()) ∧ Lockstep blob plan.packetCount 0 link' := by
  have hreceive := hidReceiveReport_metadata .fresh hfits hplan hack htransfer hblob hmalloc
  have hdeliver := @deliver_eq board Link.fresh _ _ _ _ rfl hreceive
  have hreply : checkMetadataReply (sealedReport DEVICE_MAGIC 2 (leBytes 4 0)) = .ok () :=
    checkMetadataReply_eq_ok.mpr (isAck_sealed (by decide))
  have hbuffer := buffer.property
  refine ⟨_, interact_bootExchange (metadataReport_eq_ok.mpr ⟨hfits, rfl⟩) hdeliver ?_
    (sealedReport_ne_nil _ _ _) hreply, ⟨_, rfl, ?_⟩, rfl, ?_⟩
  · show Link.fresh.queue ++ List.filterMap Effect.report? _ = _
    rw [List.filterMap_cons_some (report?_sendAck _)]
    rfl
  · exact
      { perAck := hack, packetCount := rfl, nextPacket := rfl
        used := by rw [Nat.zero_mul]; rfl
        stream := ⟨buffer, by rw [Nat.zero_mul]; rfl,
          by rw [Nat.zero_mul, Nat.zero_add, hbuffer, htransfer]⟩ }
  · intro effect heffect
    exact ⟨_, List.mem_singleton.mp heffect⟩

end Run

theorem buildUpdateBlob_plan {hashlib : Hashlib} {image : Bytes} {offset : Int}
    (hrange : validateFlashRange offset image.length = .ok ()) :
    ∃ plan, buildUpdateBlob hashlib image offset =
        .ok (updateHeader hashlib image offset.toNat ++ image, plan) ∧
      PlanFits plan ∧ plan.packetPayloadSize = BOOT_DATA_SIZE ∧ plan.packetsPerAck = 1 ∧
      plan.transferSize = (updateHeader hashlib image offset.toNat ++ image).length ∧
      offset.toNat < 2 ^ 32 ∧
      (updateHeader hashlib image offset.toNat ++ image).length + BOOT_DATA_SIZE < 2 ^ 32 := by
  have hchecks := hrange
  simp only [validateFlashRange, bind_eq_ok, raiseIf_eq_ok, not_or, not_lt, not_le, exists_const] at hchecks
  obtain ⟨⟨hoffset, hpos⟩, hfits⟩ := hchecks
  have hflash : FLASH_SIZE = 0x800000 := rfl
  have hsize : BOOT_DATA_SIZE = 3060 := rfl
  have hlength : (updateHeader hashlib image offset.toNat ++ image).length = 128 + image.length := by
    simp only [updateHeader, List.length_append, List.length_replicate, length_leBytes,
      (hashlib.md5 image).property]
  have hceil : (TrueDiv.trueDiv (updateHeader hashlib image offset.toNat ++ image).length
      BOOT_DATA_SIZE).ceil =
        ((updateHeader hashlib image offset.toNat ++ image).length + BOOT_DATA_SIZE - 1) /
          BOOT_DATA_SIZE :=
    TrueDiv.ceil_trueDiv (by omega) (by decide) (by omega)
  refine ⟨_, by rw [buildUpdateBlob, hrange, ok_bind], ?_, rfl, rfl, rfl, by omega, by omega⟩
  exact
    { payloadPos := show 1 ≤ BOOT_DATA_SIZE by decide, payloadLe := le_rfl
      transferPos := by show 1 ≤ (_ : Bytes).length; omega
      transferLe := by show (_ : Bytes).length ≤ _; omega
      ackPos := le_rfl, ackLe := show 1 ≤ 0xFFFF by decide, count := hceil }

/-- Host and bootloader compose: every accepted image is transferred, verified and programmed, without a
fault, a retry or a second erase or write. -/
theorem restoreBlob_programs (hashlib : Hashlib) (malloc : (size : Nat) → {buffer : Bytes // buffer.length = size})
    (info : HidDevice) (progress : Progress) {image : Bytes} {offset : Int}
    (hrange : validateFlashRange offset image.length = .ok ()) :
    ∃ blob plan link, buildUpdateBlob hashlib image offset = .ok (blob, plan) ∧
      (restoreBlob blob plan progress).interact
        (Link.answer (.allocating malloc hashlib.md5) info) Link.fresh = (link, .returned ()) ∧
      Programmed blob image offset.toNat link := by
  obtain ⟨plan, hbuild, hfits, hplan, hack, htransfer, hoffset, hlength⟩ :=
    @buildUpdateBlob_plan hashlib image offset hrange
  let handle : HidHandle := { vid := BOOT_VID, pid := BOOT_HID_PID, info := info }
  have hcount := hfits.count
  rw [htransfer, hplan] at hcount
  obtain ⟨link₁, hmetadata, hstep⟩ := @sendMetadata_lockstep (.allocating malloc hashlib.md5) info
    plan handle _ hfits hplan hack htransfer hlength _ rfl
  have hpos : 0 < plan.packetCount := by
    rw [hcount, lt_count_iff, Nat.zero_mul, ← htransfer]
    exact hfits.transferPos
  obtain ⟨link, hpackets, hprogrammed⟩ := @sendPackets_programs (.allocating malloc hashlib.md5) info
    plan handle _ hashlib image offset.toNat progress rfl hoffset rfl hcount (by omega)
    (plan.packetCount - 1) 0 (by omega) progress.start link₁ hstep
  refine ⟨_, plan, link, hbuild, ?_, hprogrammed⟩
  -- the handle opens on the one device and closes behind the transfer
  have hopen : (openHandle BOOT_VID BOOT_HID_PID).interact
      (Link.answer (.allocating malloc hashlib.md5) info) Link.fresh =
        (Link.fresh, .returned handle) := rfl
  rw [restoreBlob, withHandle, interact_bind_of_returned hopen]
  refine interact_ensuring_of_returned (?_ : _ = (link, _)) rfl
  rw [interact_bind_of_returned hmetadata]
  exact hpackets

-- a board whose memory comes up erased, and hash functions that ignore their input
def erasedMalloc (size : Nat) : {buffer : Bytes // buffer.length = size} :=
  ⟨List.replicate size 0xFF, List.length_replicate⟩

def constantHashlib : Hashlib :=
  { sha256 := fun _ => "", md5 := fun _ => ⟨List.replicate 16 0, List.length_replicate⟩ }

-- an image that takes two packets
theorem restoreBlob_programs_twoPackets :
    ∃ blob plan link, buildUpdateBlob constantHashlib (List.replicate 4000 0xAB) 0x10000 = .ok (blob, plan) ∧
      plan.packetCount = 2 ∧
      (restoreBlob blob plan .silent).interact
        (Link.answer (.allocating erasedMalloc constantHashlib.md5) ⟨BOOT_VID, BOOT_HID_PID, none, "hidraw0"⟩)
          Link.fresh = (link, .returned ()) ∧
      Programmed blob (List.replicate 4000 0xAB) 0x10000 link := by
  have hrange : validateFlashRange 0x10000 (List.replicate 4000 (0xAB : UInt8)).length = .ok () := by
    rw [List.length_replicate]
    rfl
  obtain ⟨plan, hplanned, hfits, hsize, -, htransfer, -⟩ := @buildUpdateBlob_plan constantHashlib _ _ hrange
  obtain ⟨blob, _, link, hbuild, hrun, hprogrammed⟩ :=
    restoreBlob_programs constantHashlib erasedMalloc ⟨BOOT_VID, BOOT_HID_PID, none, "hidraw0"⟩ .silent hrange
  obtain ⟨rfl, rfl⟩ := Prod.mk.inj (Except.ok.inj (hplanned.symm.trans hbuild))
  refine ⟨_, plan, link, hbuild, ?_, hrun, hprogrammed⟩
  have hlength : (updateHeader constantHashlib (List.replicate 4000 0xAB) (0x10000 : Int).toNat ++
      List.replicate 4000 0xAB).length = 4128 := by
    simp only [updateHeader, List.length_append, List.length_replicate, length_leBytes,
      (constantHashlib.md5 _).property]
  rw [hfits.count, hsize, htransfer, hlength]
  decide

end Cc2Camera.Updater
