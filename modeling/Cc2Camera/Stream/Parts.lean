import Cc2Camera.Stream.Consumption

/-!
# Parts — which multipart streams `read_mjpeg_frames` reads back

The line break after a frame is read as a line of its own, and every such line counts against the preamble.
So a stream of well-formed parts is read back exactly while these line breaks fit into the preamble.
-/

open Bytes Exceptions Program World ByteStream

namespace Cc2Camera.StreamIdentify

def crlf : Bytes := ascii "\r\n"

/-- A line a peer can send: ended by its only line feed and within the limit. -/
structure IsLine (line : Bytes) : Prop where
  ended : ∃ body, line = body ++ [10] ∧ 10 ∉ body
  length_le : line.length ≤ MAX_MULTIPART_LINE

def headerName (line : Bytes) : Bytes := lowerBytes (stripBytes (splitHeader line).1)

def headerValue (line : Bytes) : Bytes := stripBytes (splitHeader line).2

/-- The media type of a `Content-Type` value, without its parameters. -/
def mediaType (value : Bytes) : Bytes := lowerBytes (stripBytes (value.takeWhile (· ≠ 0x3B)))

/-- A part of the stream. -/
structure Part where
  delimiterBreak : Bytes
  delimiterBreak_blank : isBlank delimiterBreak
  headers : List Bytes
  headers_line : ∀ line ∈ headers, IsLine line ∧ 0x3A ∈ line
  blank : Bytes
  blank_blank : isBlank blank
  headers_le : headers.flatten.length + blank.length ≤ MAX_MULTIPART_HEADERS
  frame : Bytes
  one_type : ∃ line, headers.filter (headerName · = ascii "content-type") = [line] ∧
    mediaType (headerValue line) = ascii "image/jpeg"
  one_length : ∃ line, headers.filter (headerName · = ascii "content-length") = [line] ∧
    intOfBytes (headerValue line) = .ok (frame.length : Int)
  frame_pos : 0 < frame.length
  frame_le : frame.length ≤ MAX_FRAME_BYTES

def Part.bytes (boundary : Bytes) (p : Part) : Bytes :=
  (delimiterOf boundary ++ p.delimiterBreak) ++ (p.headers.flatten ++ (p.blank ++ (p.frame ++ crlf)))

/-- What a peer sends: the parts, and then anything. -/
def streamOf (boundary : Bytes) (parts : List Part) (rest : ByteStream) : ByteStream :=
  prepend (parts.flatMap (Part.bytes boundary)) rest

/-- Whatever the chunks, the reader returns the first `count` frames. -/
def ReadsBack (boundary : Bytes) (parts : List Part) (count : Int) (rest : ByteStream) : Prop :=
  ∀ extra, peer.Ensures (readMjpegFrames (enough count + extra) boundary count)
    (fun _ frames => frames = (parts.take count.toNat).map Part.frame) (fun _ _ => False)
    (streamOf boundary parts rest)

/-! ## Lines -/

theorem isLine_of_blank {line : Bytes} (h : isBlank line) : IsLine line := by
  rcases h with rfl | rfl
  · exact ⟨⟨[13], rfl, by decide⟩, by decide⟩
  · exact ⟨⟨[], rfl, by decide⟩, by decide⟩

section Lines

variable {α : Type} {f : Bytes → Reading α} {returns : ByteStream → α → Prop} {raises : ByteStream → StreamExc → Prop}
  {rest : ByteStream}

theorem ensures_readline {line tail : Bytes} (hline : IsLine line)
    (h : peer.Ensures (f line) returns raises (prepend tail rest)) :
    peer.Ensures (readline >>= f) returns raises (prepend (line ++ tail) rest) := by
  obtain ⟨body, rfl, hbody⟩ := hline.ended
  have hlength := hline.length_le
  have hshort : body.length < MAX_MULTIPART_LINE + 1 := by
    rw [List.length_append] at hlength
    exact Nat.lt_succ_of_le (Nat.le_of_add_right_le hlength)
  intro reply hreply
  obtain rfl : reply = body ++ [10] := by
    rw [prepend_append] at hreply
    exact Eq.trans hreply (line_prepend hbody hshort _)
  change peer.Ensures ((if MAX_MULTIPART_LINE < (body ++ [10]).length then .raise _ else pure (body ++ [10])) >>= f) _ _ _
  rw [if_neg (Nat.not_lt.mpr hlength)]
  have hstate : peer.after (prepend (body ++ [10] ++ tail) rest) ⟨.readline (MAX_MULTIPART_LINE + 1), body ++ [10]⟩ =
      prepend tail rest := by
    rw [prepend_append]
    exact drop_length_prepend _ _
  rw [hstate]
  exact h

end Lines

/-! ## Headers -/

/-- The dictionary holds the value of the last line with a name. -/
theorem foldl_setHeader (lines : List Bytes) (headers : Headers) (name : Bytes) :
    lines.foldl setHeader headers name =
      ((lines.filter (headerName · = name)).getLast?.map headerValue).or (headers name) := by
  induction lines generalizing headers with
  | nil => rfl
  | cons line lines ih =>
    have hset : setHeader headers line name =
        if headerName line = name then some (headerValue line) else headers name := by
      show Function.update headers (headerName line) (some (headerValue line)) name = _
      rw [Function.update_apply]
      simp only [eq_comm]
    rw [List.foldl_cons, ih, hset]
    by_cases hname : headerName line = name
    · rw [if_pos hname, List.filter_cons_of_pos (by simpa using hname), List.getLast?_cons]
      cases (lines.filter (headerName · = name)).getLast? with
      | none => rfl
      | some last => rfl
    · rw [if_neg hname, List.filter_cons_of_neg (by simpa using hname)]

theorem Part.frameLength_eq (p : Part) :
    frameLength (p.headers.foldl setHeader noHeaders) = .ok p.frame.length := by
  obtain ⟨typeLine, htype, himage⟩ := p.one_type
  obtain ⟨lengthLine, hlength, hint⟩ := p.one_length
  have hvalue : p.headers.foldl setHeader noHeaders (ascii "content-type") = some (headerValue typeLine) := by
    rw [foldl_setHeader, htype]
    rfl
  have hraw : p.headers.foldl setHeader noHeaders (ascii "content-length") = some (headerValue lengthLine) := by
    rw [foldl_setHeader, hlength]
    rfl
  have hbounds : ¬¬(0 < (p.frame.length : Int) ∧ (p.frame.length : Int) ≤ MAX_FRAME_BYTES) := by
    have hpos := p.frame_pos
    have hle := p.frame_le
    omega
  unfold frameLength
  rw [hvalue, hraw]
  change (do raiseIf (mediaType (headerValue typeLine) ≠ ascii "image/jpeg") _; _) = _
  rw [raiseIf_of_not (not_not.mpr himage), ok_bind, orRaise_some, ok_bind, hint, recover_ok, ok_bind,
    raiseIf_of_not hbounds, ok_bind, Int.toNat_natCast]

section Reading

variable {rest : ByteStream}

theorem ensures_readHeaders {lines : List Bytes} {blank tail : Bytes} {budget counted : Nat} {headers : Headers}
    (hlines : ∀ line ∈ lines, IsLine line ∧ 0x3A ∈ line) (hblank : isBlank blank)
    (htotal : counted + (lines.flatten.length + blank.length) ≤ MAX_MULTIPART_HEADERS)
    (hbudget : MAX_MULTIPART_HEADERS < budget + counted) :
    peer.Ensures (readHeaders budget counted headers)
      (fun s result => s = prepend tail rest ∧ result = lines.foldl setHeader headers) (fun _ _ => False)
      (prepend (lines.flatten ++ (blank ++ tail)) rest) := by
  induction lines generalizing budget counted headers with
  | nil =>
    obtain ⟨budget, rfl⟩ : ∃ n, budget = n + 1 := ⟨budget - 1, by omega⟩
    rw [List.flatten_nil, List.length_nil, Nat.zero_add] at htotal
    rw [List.flatten_nil, List.nil_append]
    refine ensures_readline (isLine_of_blank hblank) ?_
    have hne : blank ≠ [] := by
      rcases hblank with rfl | rfl
      · nofun
      · nofun
    rw [if_neg hne, if_neg (Nat.not_lt.mpr htotal), if_pos hblank]
    exact ⟨rfl, rfl⟩
  | cons line lines ih =>
    obtain ⟨⟨hline, hcolon⟩, hlines⟩ := List.forall_mem_cons.mp hlines
    have hpos : 0 < line.length := List.length_pos_of_mem hcolon
    rw [List.flatten_cons, List.length_append] at htotal
    obtain ⟨budget, rfl⟩ : ∃ n, budget = n + 1 := ⟨budget - 1, by omega⟩
    rw [List.flatten_cons, List.append_assoc]
    refine ensures_readline hline ?_
    have hnot : ¬isBlank line := by
      rintro (rfl | rfl)
      · revert hcolon
        decide
      · revert hcolon
        decide
    rw [if_neg (List.ne_nil_of_length_pos hpos), if_neg (by omega), if_neg hnot, if_neg (not_not.mpr hcolon)]
    exact ih hlines (by omega) (by omega)

theorem ensures_readChunks {data tail : Bytes} {budget : Nat} {chunks : List Bytes} (hbudget : data.length < budget) :
    peer.Ensures (readChunks budget data.length chunks)
      (fun s frame => s = prepend tail rest ∧ frame = chunks.flatten ++ data) (fun _ _ => False)
      (prepend (data ++ tail) rest) := by
  induction budget generalizing data chunks with
  | zero => omega
  | succ budget ih =>
    unfold readChunks
    split
    · next hzero =>
      rw [List.length_eq_zero_iff.mp hzero, List.append_nil]
      exact ⟨rfl, rfl⟩
    next hpos =>
    intro chunk hchunk
    have hle : data.length ≤ (data ++ tail).length := by
      rw [List.length_append]
      exact Nat.le_add_right _ _
    obtain ⟨hne, hlength, htake⟩ := IsChunk.of_prepend hchunk hle (Nat.pos_of_ne_zero hpos)
    rw [List.take_append_of_le_length hlength] at htake
    have hstate : peer.after (prepend (data ++ tail) rest) ⟨.read data.length, chunk⟩ =
        prepend (data.drop chunk.length ++ tail) rest := by
      show (prepend (data ++ tail) rest).drop chunk.length = _
      rw [drop_prepend (hlength.trans hle), List.drop_append_of_le_length hlength]
    have hshorter : (data.drop chunk.length).length < budget := by
      have hchunkPos := List.length_pos_iff.mpr hne
      rw [List.length_drop]
      omega
    have hnext : peer.Ensures (readChunks budget (data.drop chunk.length).length (chunks ++ [chunk]))
        (fun s frame => s = prepend tail rest ∧ frame = (chunks ++ [chunk]).flatten ++ data.drop chunk.length)
        (fun _ _ => False) (prepend (data.drop chunk.length ++ tail) rest) := ih hshorter
    rw [List.length_drop] at hnext
    change peer.Ensures (if chunk = [] then .raise _ else readChunks budget (data.length - chunk.length) (chunks ++ [chunk]))
      _ _ _
    rw [if_neg hne, hstate]
    refine ensures_mono hnext ?_ fun _ _ => id
    rintro s frame ⟨hs, hframe⟩
    refine ⟨hs, ?_⟩
    rw [hframe, List.flatten_append, List.flatten_singleton, List.append_assoc]
    congr 1
    conv_lhs => rw [htake]
    rw [List.length_take, Nat.min_eq_left hlength, List.take_append_drop]

theorem ensures_readPart {p : Part} {tail : Bytes} {budget : Nat} (hheaders : MAX_MULTIPART_HEADERS < budget)
    (hframe : MAX_FRAME_BYTES < budget) :
    peer.Ensures (readPart budget) (fun s frame => s = prepend (crlf ++ tail) rest ∧ frame = p.frame) (fun _ _ => False)
      (prepend (p.headers.flatten ++ (p.blank ++ (p.frame ++ (crlf ++ tail)))) rest) := by
  have hall := p.headers_le
  refine (ensures_readHeaders p.headers_line p.blank_blank (by omega) hheaders).then ?_
  rintro s headers ⟨rfl, rfl⟩
  rw [p.frameLength_eq]
  exact ensures_readChunks (Nat.lt_of_le_of_lt p.frame_le hframe)

end Reading

/-! ## The loop over the parts -/

section Parts

variable {boundary : Bytes} {count : Int} {rest : ByteStream}

theorem withoutBreak_append {body lineBreak : Bytes} (hbody : ∀ b ∈ body, isLineBreak b = false)
    (hbreak : ∀ b ∈ lineBreak, isLineBreak b = true) : withoutBreak (body ++ lineBreak) = body := by
  have hkeep : body.reverse.dropWhile isLineBreak = body.reverse := by
    cases hreverse : body.reverse with
    | nil => rfl
    | cons b front =>
      have hb : b ∈ body := by
        rw [← List.mem_reverse, hreverse]
        exact List.mem_cons_self
      rw [List.dropWhile_cons_of_neg (by rw [hbody b hb]; nofun)]
  rw [withoutBreak, List.reverse_append,
    List.dropWhile_append_of_pos fun b hb => hbreak b (List.mem_reverse.mp hb), hkeep, List.reverse_reverse]

theorem isLineBreak_of_blank {line : Bytes} (h : isBlank line) : ∀ b ∈ line, isLineBreak b = true := by
  rcases h with rfl | rfl
  · exact List.all_eq_true.mp (by decide : (ascii "\r\n").all isLineBreak = true)
  · exact List.all_eq_true.mp (by decide : (ascii "\n").all isLineBreak = true)

/-- What the tool's callers take as a boundary. -/
structure IsBoundary (boundary : Bytes) : Prop where
  length_le : boundary.length ≤ 8000
  noBreak : ∀ b ∈ boundary, isLineBreak b = false

theorem noBreak_delimiterOf (h : IsBoundary boundary) : ∀ b ∈ delimiterOf boundary, isLineBreak b = false := by
  have hdashes : ∀ b ∈ ascii "--", isLineBreak b = false := by
    simpa using (by decide : (ascii "--").all (fun b => !isLineBreak b) = true)
  intro b hb
  rcases List.mem_append.mp hb with hb | hb
  · exact hdashes b hb
  · exact h.noBreak b hb

theorem isLine_delimiter (h : IsBoundary boundary) {lineBreak : Bytes} (hbreak : isBlank lineBreak) :
    IsLine (delimiterOf boundary ++ lineBreak) := by
  have hlength := h.length_le
  have hfeed : (10 : UInt8) ∉ delimiterOf boundary := fun hmem => nomatch noBreak_delimiterOf h 10 hmem
  have htwo : (ascii "--").length = 2 := rfl
  rcases hbreak with rfl | rfl
  · refine ⟨⟨delimiterOf boundary ++ [13], by rw [List.append_assoc]; rfl, ?_⟩, ?_⟩
    · rw [List.mem_append]
      rintro (hmem | hmem)
      · exact hfeed hmem
      · revert hmem
        decide
    · have hcrlf : (ascii "\r\n").length = 2 := rfl
      rw [delimiterOf, List.length_append, List.length_append, MAX_MULTIPART_LINE]
      omega
  · refine ⟨⟨delimiterOf boundary, rfl, hfeed⟩, ?_⟩
    have hlf : (ascii "\n").length = 1 := rfl
    rw [delimiterOf, List.length_append, List.length_append, MAX_MULTIPART_LINE]
    omega

theorem delimiterOf_ne_closingOf (boundary : Bytes) : delimiterOf boundary ≠ closingOf boundary := by
  intro h
  have hlength := congrArg List.length h
  rw [closingOf, List.length_append] at hlength
  have htwo : (ascii "--").length = 2 := rfl
  omega

variable {returns : ByteStream → List Bytes → Prop} {raises : ByteStream → StreamExc → Prop} {budget iterations preamble : Nat}
  {frames : List Bytes}

/-- An iteration at a part reads its frame. -/
theorem ensures_part (hboundary : IsBoundary boundary) (hcount : frames.length < count)
    (hheaders : MAX_MULTIPART_HEADERS < budget) (hframe : MAX_FRAME_BYTES < budget) {p : Part} {tail : Bytes}
    (h : peer.Ensures (readParts budget boundary count iterations (frames ++ [p.frame]) preamble) returns raises
      (prepend (crlf ++ tail) rest)) :
    peer.Ensures (readParts budget boundary count (iterations + 1) frames preamble) returns raises
      (prepend (p.bytes boundary ++ tail) rest) := by
  have hstripped : withoutBreak (delimiterOf boundary ++ p.delimiterBreak) = delimiterOf boundary :=
    withoutBreak_append (noBreak_delimiterOf hboundary) (isLineBreak_of_blank p.delimiterBreak_blank)
  have hne : delimiterOf boundary ++ p.delimiterBreak ≠ [] := by
    rw [delimiterOf, List.append_assoc]
    nofun
  rw [readParts, if_pos hcount, Part.bytes, List.append_assoc]
  refine ensures_readline (isLine_delimiter hboundary p.delimiterBreak_blank) ?_
  rw [if_neg hne, hstripped, if_neg (delimiterOf_ne_closingOf boundary), if_neg (not_not.mpr rfl)]
  simp only [List.append_assoc]
  apply ensures_bind.mpr
  refine ensures_mono (ensures_readPart hheaders hframe) ?_ fun _ _ => False.elim
  rintro s frame ⟨rfl, rfl⟩
  exact h

/-- An iteration at the line break after a frame counts it against the preamble. -/
theorem ensures_break (hcount : frames.length < count) {tail : Bytes}
    (hfits : preamble + 2 ≤ MAX_PREAMBLE_BYTES →
      peer.Ensures (readParts budget boundary count iterations frames (preamble + 2)) returns raises (prepend tail rest))
    (hfull : MAX_PREAMBLE_BYTES < preamble + 2 → ∀ s x, raises s x) :
    peer.Ensures (readParts budget boundary count (iterations + 1) frames preamble) returns raises
      (prepend (crlf ++ tail) rest) := by
  have hnotClosing : withoutBreak crlf ≠ closingOf boundary := nofun
  have hnotDelimiter : withoutBreak crlf ≠ delimiterOf boundary := nofun
  rw [readParts, if_pos hcount]
  refine ensures_readline (isLine_of_blank (.inl rfl)) ?_
  rw [if_neg (by nofun), if_neg hnotClosing, if_pos hnotDelimiter]
  have htwo : crlf.length = 2 := rfl
  rw [htwo]
  split
  · next hlong => exact hfull hlong _ _
  · next hshort => exact hfits (Nat.le_of_not_lt hshort)

theorem length_concat (frames : List Bytes) (frame : Bytes) :
    ((frames ++ [frame]).length : Int) = frames.length + 1 := by
  rw [List.length_append, List.length_singleton]
  push_cast
  rfl

-- on the parts still to come; each costs the two bytes of the line break before it
theorem ensures_parts {parts : List Part} (hboundary : IsBoundary boundary) (hheaders : MAX_MULTIPART_HEADERS < budget)
    (hframe : MAX_FRAME_BYTES < budget) (hcount : count ≤ frames.length + parts.length)
    (hfits : preamble + 2 * (count - frames.length).toNat ≤ MAX_PREAMBLE_BYTES)
    (hiterations : MAX_PREAMBLE_BYTES + (count - frames.length).toNat < iterations + preamble) :
    peer.Ensures (readParts budget boundary count iterations frames preamble)
      (fun _ result => result = frames ++ (parts.take (count - frames.length).toNat).map Part.frame) (fun _ _ => False)
      (prepend (crlf ++ parts.flatMap (Part.bytes boundary)) rest) := by
  induction parts generalizing frames preamble iterations with
  | nil =>
    obtain ⟨iterations, rfl⟩ : ∃ n, iterations = n + 1 := ⟨iterations - 1, by omega⟩
    rw [List.length_nil] at hcount
    rw [readParts, if_neg (by omega), List.take_nil, List.map_nil, List.append_nil]
    rfl
  | cons p parts ih =>
    by_cases hmore : frames.length < count
    swap
    · obtain ⟨iterations, rfl⟩ : ∃ n, iterations = n + 1 := ⟨iterations - 1, by omega⟩
      have hzero : (count - frames.length).toNat = 0 := by omega
      rw [readParts, if_neg hmore, hzero, List.take_zero, List.map_nil, List.append_nil]
      rfl
    · obtain ⟨iterations, rfl⟩ : ∃ n, iterations = n + 1 + 1 := ⟨iterations - 2, by omega⟩
      obtain ⟨remaining, hremaining⟩ : ∃ n, (count - frames.length).toNat = n + 1 := ⟨_, (by omega :
        (count - frames.length).toNat = (count - frames.length).toNat - 1 + 1)⟩
      have hconcat := length_concat frames p.frame
      have hrest : (count - (frames ++ [p.frame]).length).toNat = remaining := by omega
      have hnext : peer.Ensures (readParts budget boundary count iterations (frames ++ [p.frame]) (preamble + 2))
          (fun _ result => result = frames ++ [p.frame] ++ (parts.take remaining).map Part.frame) (fun _ _ => False)
          (prepend (crlf ++ parts.flatMap (Part.bytes boundary)) rest) := by
        rw [← hrest]
        apply ih
        · rw [List.length_cons] at hcount
          push_cast at hcount
          omega
        · omega
        · omega
      refine ensures_break hmore (fun _ => ?_) fun hfull => absurd hfull (by omega)
      rw [List.flatMap_cons]
      refine ensures_part hboundary hmore hheaders hframe (ensures_mono hnext ?_ fun _ _ => id)
      rintro s result rfl
      rw [hremaining, List.take_succ_cons, List.map_cons, List.append_assoc]
      rfl

theorem ensures_parts_raise {parts : List Part} (hboundary : IsBoundary boundary)
    (hheaders : MAX_MULTIPART_HEADERS < budget) (hframe : MAX_FRAME_BYTES < budget)
    (hcount : count ≤ frames.length + parts.length) (hpreamble : preamble ≤ MAX_PREAMBLE_BYTES)
    (hfull : MAX_PREAMBLE_BYTES < preamble + 2 * (count - frames.length).toNat)
    (hiterations : MAX_PREAMBLE_BYTES + (count - frames.length).toNat < iterations + preamble) :
    peer.Ensures (readParts budget boundary count iterations frames preamble) (fun _ _ => False) (fun _ _ => True)
      (prepend (crlf ++ parts.flatMap (Part.bytes boundary)) rest) := by
  induction parts generalizing frames preamble iterations with
  | nil =>
    rw [List.length_nil] at hcount
    omega
  | cons p parts ih =>
    have hmore : frames.length < count := by omega
    obtain ⟨iterations, rfl⟩ : ∃ n, iterations = n + 1 := ⟨iterations - 1, by omega⟩
    refine ensures_break hmore (fun hfits => ?_) fun _ _ _ => trivial
    obtain ⟨iterations, rfl⟩ : ∃ n, iterations = n + 1 := ⟨iterations - 1, by omega⟩
    have hconcat := length_concat frames p.frame
    rw [List.flatMap_cons]
    apply ensures_part hboundary hmore hheaders hframe
    apply ih
    · rw [List.length_cons] at hcount
      push_cast at hcount
      omega
    · exact hfits
    · omega
    · omega

end Parts

/-! ## Whole streams -/

section Streams

variable {boundary : Bytes} {parts : List Part} {count : Int} {rest : ByteStream}

theorem enough_bounds {budget : Nat} (h : enough count ≤ budget) :
    MAX_MULTIPART_HEADERS < budget ∧ MAX_FRAME_BYTES < budget ∧ MAX_PREAMBLE_BYTES + count.toNat < budget := by
  simp only [enough, MAX_FRAME_BYTES, MAX_PREAMBLE_BYTES, MAX_MULTIPART_HEADERS] at h ⊢
  omega

-- the first part has no line break before it, each later one has
theorem ensures_readMjpegFrames (hboundary : IsBoundary boundary) (hpos : 1 ≤ count) (hcount : count ≤ parts.length)
    (hfits : count ≤ 16385) {budget : Nat} (hbudget : enough count ≤ budget) :
    peer.Ensures (readMjpegFrames budget boundary count)
      (fun _ frames => frames = (parts.take count.toNat).map Part.frame) (fun _ _ => False)
      (streamOf boundary parts rest) := by
  obtain ⟨hheaders, hframe, hiterations⟩ := enough_bounds hbudget
  match parts, budget with
  | [], _ => exact absurd hcount (by rw [List.length_nil]; omega)
  | p :: parts, 0 => omega
  | p :: parts, iterations + 1 =>
    have hone : (([p.frame] : List Bytes).length : Int) = 1 := rfl
    have hfirst : (([] : List Bytes).length : Int) < count := by
      rw [List.length_nil]
      omega
    have hlimit : MAX_PREAMBLE_BYTES = 32768 := rfl
    rw [List.length_cons] at hcount
    push_cast at hcount
    have hparts : peer.Ensures (readParts (iterations + 1) boundary count iterations [p.frame] 0)
        (fun _ result => result = [p.frame] ++ (parts.take (count - ([p.frame] : List Bytes).length).toNat).map Part.frame)
        (fun _ _ => False) (prepend (crlf ++ parts.flatMap (Part.bytes boundary)) rest) :=
      ensures_parts hboundary hheaders hframe (by omega) (by omega) (by omega)
    rw [streamOf, List.flatMap_cons]
    refine (ensures_part hboundary hfirst hheaders hframe hparts).then ?_
    rintro s result rfl
    obtain ⟨more, hmore⟩ : ∃ n, count.toNat = n + 1 := ⟨count.toNat - 1, by omega⟩
    have hrest : (count - ([p.frame] : List Bytes).length).toNat = more := by omega
    rw [hrest, hmore, List.take_succ_cons, List.map_cons, List.singleton_append]
    have hlength : ((p.frame :: (parts.take more).map Part.frame).length : Int) = count := by
      rw [List.length_cons, List.length_map, List.length_take]
      push_cast
      omega
    rw [if_neg (by omega)]
    rfl

theorem ensures_readMjpegFrames_raise (hboundary : IsBoundary boundary) (hcount : count ≤ parts.length)
    (hlong : 16385 < count) {budget : Nat} (hbudget : enough count ≤ budget) :
    peer.Ensures (readMjpegFrames budget boundary count) (fun _ _ => False) (fun _ _ => True)
      (streamOf boundary parts rest) := by
  obtain ⟨hheaders, hframe, hiterations⟩ := enough_bounds hbudget
  match parts, budget with
  | [], _ => exact absurd hcount (by rw [List.length_nil]; omega)
  | p :: parts, 0 => omega
  | p :: parts, iterations + 1 =>
    have hone : (([p.frame] : List Bytes).length : Int) = 1 := rfl
    have hfirst : (([] : List Bytes).length : Int) < count := by
      rw [List.length_nil]
      omega
    have hlimit : MAX_PREAMBLE_BYTES = 32768 := rfl
    rw [List.length_cons] at hcount
    push_cast at hcount
    have hparts : peer.Ensures (readParts (iterations + 1) boundary count iterations [p.frame] 0) (fun _ _ => False)
        (fun _ _ => True) (prepend (crlf ++ parts.flatMap (Part.bytes boundary)) rest) :=
      ensures_parts_raise hboundary hheaders hframe (by omega) (Nat.zero_le _) (by omega) (by omega)
    rw [streamOf, List.flatMap_cons]
    exact (ensures_part hboundary hfirst hheaders hframe hparts).then fun _ _ => False.elim

theorem peer_live (s : ByteStream) (op : StreamOp) : ∃ r, peer.answers s ⟨op, r⟩ := by
  cases op with
  | readline limit => exact ⟨s.line limit, rfl⟩
  | read length => exact exists_isChunk length s

/-- A reader that raises in every run does not read its stream back. -/
theorem not_readsBack (hboundary : IsBoundary boundary) (hcount : count ≤ parts.length) (hlong : 16385 < count) :
    ¬ReadsBack boundary parts count rest := by
  intro h
  have hraise : peer.Ensures (readMjpegFrames (enough count + 0) boundary count) (fun _ _ => False) (fun _ _ => True)
      (streamOf boundary parts rest) :=
    ensures_readMjpegFrames_raise hboundary hcount hlong (Nat.le_add_right (enough count) 0)
  obtain ⟨t, ⟨frames, hrun⟩ | ⟨x, hrun⟩⟩ := hraise.exists_run peer_live
  · exact (hraise.sound hrun).1 frames rfl
  · exact ((h 0).sound hrun).2 x rfl

/-- Well-formed parts are read back exactly when their line breaks fit into the preamble. -/
theorem readsBack_iff (hboundary : IsBoundary boundary) (hpos : 1 ≤ count) (hcount : count ≤ parts.length) :
    ReadsBack boundary parts count rest ↔ count ≤ 16385 := by
  constructor
  · intro h
    by_contra hlong
    exact not_readsBack hboundary hcount (not_le.mp hlong) h
  · intro hfits extra
    exact ensures_readMjpegFrames hboundary hpos hcount hfits (Nat.le_add_right _ extra)

end Streams

/-! ## Small frames -/

def oneByte : Part where
  delimiterBreak := ascii "\r\n"
  delimiterBreak_blank := .inl rfl
  headers := [ascii "Content-Type: image/jpeg\r\n", ascii "Content-Length: 1\r\n"]
  headers_line := by
    simp only [List.forall_mem_cons, List.not_mem_nil, false_implies, implies_true, and_true]
    refine ⟨⟨⟨⟨ascii "Content-Type: image/jpeg\r", by decide, by decide⟩, by decide⟩, by decide⟩,
      ⟨⟨ascii "Content-Length: 1\r", by decide, by decide⟩, by decide⟩, by decide⟩
  blank := ascii "\r\n"
  blank_blank := .inl rfl
  headers_le := by decide
  frame := [0xFF]
  one_type := ⟨ascii "Content-Type: image/jpeg\r\n", by decide, by decide⟩
  one_length := ⟨ascii "Content-Length: 1\r\n", by decide, by decide⟩
  frame_pos := by decide
  frame_le := by decide

-- bare line breaks, and a header the reader has no use for
def threeBytes : Part where
  delimiterBreak := ascii "\n"
  delimiterBreak_blank := .inr rfl
  headers := [ascii "X-Timestamp: 7\n", ascii "content-length:3\n", ascii "Content-Type: image/jpeg; a=b\n"]
  headers_line := by
    simp only [List.forall_mem_cons, List.not_mem_nil, false_implies, implies_true, and_true]
    refine ⟨⟨⟨⟨ascii "X-Timestamp: 7", by decide, by decide⟩, by decide⟩, by decide⟩,
      ⟨⟨⟨ascii "content-length:3", by decide, by decide⟩, by decide⟩, by decide⟩,
      ⟨⟨ascii "Content-Type: image/jpeg; a=b", by decide, by decide⟩, by decide⟩, by decide⟩
  blank := ascii "\n"
  blank_blank := .inr rfl
  headers_le := by decide
  frame := [0x0D, 0x0A, 0xD9]
  one_type := ⟨ascii "Content-Type: image/jpeg; a=b\n", by decide, by decide⟩
  one_length := ⟨ascii "content-length:3\n", by decide, by decide⟩
  frame_pos := by decide
  frame_le := by decide

theorem isBoundary_frame : IsBoundary (ascii "frame") where
  length_le := by decide
  noBreak := by simpa using (by decide : (ascii "frame").all (fun b => !isLineBreak b) = true)

theorem readsBack_iff_twoParts :
    ReadsBack (ascii "frame") [oneByte, threeBytes] 2 .empty :=
  (readsBack_iff isBoundary_frame (by decide) le_rfl).mpr (by decide)

/-- The stream with one frame more than fits. -/
theorem not_readsBack_many :
    ¬ReadsBack (ascii "frame") (List.replicate 16386 oneByte) 16386 .empty := by
  apply not_readsBack isBoundary_frame
  · rw [List.length_replicate]
    rfl
  · decide

end Cc2Camera.StreamIdentify
