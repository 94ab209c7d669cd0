import Cc2Camera.Stream.Multipart

/-!
# Consumption — how much of a stream `read_mjpeg_frames` reads, and that it ends

What a run has read is a list of items: stray lines, a closing line and parts.  Every loop has a lemma about
the replies it has taken, and one about the budget it needs.
-/

open Bytes Exceptions Program World

namespace Cc2Camera.StreamIdentify

abbrev StreamTrace : Type := List (Event StreamOp fun _ => Bytes)

/-- Everything read, in order. -/
def replies (t : StreamTrace) : List Bytes := t.map Event.reply

inductive Item where
  -- a line that is no delimiter, or is too long; the empty line is the end of the stream
  | stray (line : Bytes)
  | closing (line : Bytes)
  -- a part as far as it was read
  | part (delimiter : Bytes) (headers chunks : List Bytes)

namespace Item

def replies : Item → List Bytes
  | stray line => [line]
  | closing line => [line]
  | part delimiter headers chunks => delimiter :: (headers ++ chunks)

def strayLength : Item → Nat
  | stray line => line.length
  | _ => 0

def isClosing : Item → Bool
  | closing _ => true
  | _ => false

def frame? : Item → Option Bytes
  | part _ _ chunks => some chunks.flatten
  | _ => none

/-- The limits of an item. -/
def Within (boundary : Bytes) : Item → Prop
  | stray line => withoutBreak line ≠ delimiterOf boundary ∨ MAX_MULTIPART_LINE < line.length
  | closing line => withoutBreak line = closingOf boundary ∧ line.length ≤ MAX_MULTIPART_LINE
  | part delimiter headers chunks =>
    (withoutBreak delimiter = delimiterOf boundary ∧ delimiter.length ≤ MAX_MULTIPART_LINE) ∧
      headers.flatten.length ≤ MAX_MULTIPART_HEADERS + (MAX_MULTIPART_LINE + 1) ∧
      chunks.flatten.length ≤ MAX_FRAME_BYTES

/-- A part whose frame has the length its headers announce. -/
def Announced : Item → Prop
  | part _ headers chunks =>
    frameLength (headers.dropLast.foldl setHeader noHeaders) = .ok chunks.flatten.length ∧
      0 < chunks.flatten.length ∧ chunks.flatten.length ≤ MAX_FRAME_BYTES
  | _ => True

end Item

/-! ## The pure parts -/

theorem intOfBytes_cases (data : Bytes) :
    (∃ value, intOfBytes data = .ok value) ∨ intOfBytes data = .error .valueError := by
  have hraises : RaisesOnly (· = StreamExc.valueError) (intOfBytes data) := by
    refine raisesOnly_bind (raisesOnly_orRaise fun _ => rfl) fun digits _ => ?_
    exact raisesOnly_guard (fun _ => rfl) fun _ => raisesOnly_ok _
  cases h : intOfBytes data with
  | ok value => exact .inl ⟨value, rfl⟩
  | error e => exact .inr (congrArg _ (hraises.kind e h))

theorem raisesOnly_frameLength (headers : Headers) :
    RaisesOnly (fun x => x.isIdentification = true) (frameLength headers) := by
  refine raisesOnly_guard (fun _ => rfl) fun _ => ?_
  refine raisesOnly_bind (raisesOnly_orRaise fun _ => rfl) fun rawLength _ => raisesOnly_bind ?_ fun length _ => ?_
  · rcases intOfBytes_cases rawLength with ⟨value, hvalue⟩ | hvalue
    · rw [hvalue, recover_ok]
      exact raisesOnly_ok value
    · rw [hvalue]
      exact raisesOnly_error rfl
  · exact raisesOnly_guard (fun _ => rfl) fun _ => raisesOnly_ok _

theorem frameLength_bounds {headers : Headers} {length : Nat} (h : frameLength headers = .ok length) :
    0 < length ∧ length ≤ MAX_FRAME_BYTES := by
  obtain ⟨_, _, h⟩ := bind_eq_ok.mp h
  obtain ⟨_, _, h⟩ := bind_eq_ok.mp h
  obtain ⟨value, _, h⟩ := bind_eq_ok.mp h
  obtain ⟨_, hbound, h⟩ := bind_eq_ok.mp h
  obtain rfl : value.toNat = length := Except.ok.inj h
  have hbounds := not_not.mp (raiseIf_eq_ok.mp hbound)
  omega

/-! ## The loops -/

section Loops

variable {s : ByteStream} {t : StreamTrace}

/-- Exceptions of a run are the tool's. -/
def OnlyIdentification {α : Type} (o : Outcome StreamExc α) : Prop := ∀ x, o = .raised x → x.isIdentification = true

/-- A run that ended at a line, before or because of it. -/
structure Stopped {α : Type} (t : StreamTrace) (o : Outcome StreamExc α) : Prop where
  read : replies t = [] ∨ ∃ line, replies t = [line] ∧ MAX_MULTIPART_LINE < line.length ∧
    line.length ≤ MAX_MULTIPART_LINE + 1
  notReturned : ∀ a, o ≠ .returned a
  only : OnlyIdentification o

theorem runsIn_readline {α : Type} {f : Bytes → Reading α} {o : Outcome StreamExc α}
    (h : peer.RunsIn s (readline >>= f) t o) :
    Stopped t o ∨ ∃ line s' t', replies t = line :: replies t' ∧ line.length ≤ MAX_MULTIPART_LINE ∧
      peer.RunsIn s' (f line) t' o := by
  rcases runsIn_act h with ⟨rfl, rfl⟩ | ⟨line, t', rfl, hline, hrest⟩
  · exact .inl ⟨.inl rfl, nofun, nofun⟩
  have hlength : line.length ≤ MAX_MULTIPART_LINE + 1 := by
    rw [show line = _ from hline]
    exact ByteStream.length_line_le _ _
  change peer.RunsIn _ ((if MAX_MULTIPART_LINE < line.length then .raise _ else pure line) >>= f) t' o at hrest
  by_cases hlong : MAX_MULTIPART_LINE < line.length
  · rw [if_pos hlong] at hrest
    obtain ⟨hruns, -⟩ := hrest
    cases hruns with
    | raise => exact .inl ⟨.inr ⟨line, rfl, hlong, hlength⟩, nofun, fun x hx => by cases hx; rfl⟩
    | stop => exact .inl ⟨.inr ⟨line, rfl, hlong, hlength⟩, nofun, nofun⟩
  · rw [if_neg hlong] at hrest
    exact .inr ⟨line, _, t', rfl, Nat.le_of_not_lt hlong, hrest⟩

theorem runsIn_raise {α : Type} {x : StreamExc} {o : Outcome StreamExc α} (hx : x.isIdentification = true)
    (h : peer.RunsIn s (.raise x) t o) : replies t = [] ∧ (∀ a, o ≠ .returned a) ∧ OnlyIdentification o := by
  obtain ⟨hruns, -⟩ := h
  cases hruns with
  | raise => exact ⟨rfl, nofun, fun y hy => by cases hy; exact hx⟩
  | stop => exact ⟨rfl, nofun, nofun⟩

theorem runsIn_pending {α : Type} {o : Outcome StreamExc α} (h : peer.RunsIn s .pending t o) :
    replies t = [] ∧ (∀ a, o ≠ .returned a) ∧ OnlyIdentification o := by
  obtain ⟨hruns, -⟩ := h
  cases hruns
  exact ⟨rfl, nofun, nofun⟩

/-- The header lines of a part, with the header bytes counted before them. -/
structure HeadersRead (counted : Nat) (headers : Headers) (t : StreamTrace) (o : Outcome StreamExc Headers) : Prop where
  length_le : counted + (replies t).flatten.length ≤ MAX_MULTIPART_HEADERS + (MAX_MULTIPART_LINE + 1)
  returned : ∀ result, o = .returned result → replies t ≠ [] ∧ result = (replies t).dropLast.foldl setHeader headers
  only : OnlyIdentification o

theorem headersRead_of_runsIn {budget counted : Nat} {headers : Headers} {o : Outcome StreamExc Headers}
    (hcounted : counted ≤ MAX_MULTIPART_HEADERS) (h : peer.RunsIn s (readHeaders budget counted headers) t o) :
    HeadersRead counted headers t o := by
  induction budget generalizing s t counted headers with
  | zero =>
    obtain ⟨hread, hno, honly⟩ := runsIn_pending h
    refine ⟨?_, fun a ha => absurd ha (hno a), honly⟩
    rw [hread]
    exact Nat.le_add_right_of_le hcounted
  | succ budget ih =>
    rcases runsIn_readline h with ⟨hread, hno, honly⟩ | ⟨line, s', t', hread, hline, hrest⟩
    · refine ⟨?_, fun a ha => absurd ha (hno a), honly⟩
      rcases hread with hnil | ⟨line, hone, -, hlength⟩
      · rw [hnil]
        exact Nat.le_add_right_of_le hcounted
      · rw [hone, List.flatten_singleton]
        exact Nat.add_le_add hcounted hlength
    -- the line is within its limit; what follows decides
    have hone : counted + line.length ≤ MAX_MULTIPART_HEADERS + (MAX_MULTIPART_LINE + 1) :=
      Nat.add_le_add hcounted (Nat.le_succ_of_le hline)
    have hraised {x : StreamExc} (hx : x.isIdentification = true) (hrun : peer.RunsIn s' (.raise x) t' o) :
        HeadersRead counted headers t o := by
      obtain ⟨hnil, hno, honly⟩ := runsIn_raise hx hrun
      refine ⟨?_, fun a ha => absurd ha (hno a), honly⟩
      rw [hread, hnil, List.flatten_singleton]
      exact hone
    split at hrest
    · exact hraised rfl hrest
    split at hrest
    · exact hraised rfl hrest
    next hfits =>
    split at hrest
    · obtain ⟨rfl, ho⟩ := runsIn_ret hrest
      refine ⟨?_, ?_, ?_⟩
      · rw [hread, replies, List.map_nil, List.flatten_singleton]
        exact hone
      · rintro result rfl
        obtain rfl : result = headers := by simpa using ho
        rw [hread]
        exact ⟨nofun, rfl⟩
      · rintro x rfl
        simp at ho
    split at hrest
    · exact hraised rfl hrest
    · have hnext := ih (Nat.le_of_not_lt hfits) hrest
      refine ⟨?_, fun result ho => ?_, hnext.only⟩
      · rw [hread, List.flatten_cons, List.length_append, ← Nat.add_assoc]
        exact hnext.length_le
      · obtain ⟨hne, hresult⟩ := hnext.returned result ho
        rw [hread, List.dropLast_cons_of_ne_nil hne]
        exact ⟨List.cons_ne_nil _ _, hresult⟩

/-- The chunks of a frame, of which `remaining` bytes are outstanding. -/
structure ChunksRead (remaining : Nat) (chunks : List Bytes) (t : StreamTrace) (o : Outcome StreamExc Bytes) :
    Prop where
  length_le : (replies t).flatten.length ≤ remaining
  returned : ∀ frame, o = .returned frame →
    frame = chunks.flatten ++ (replies t).flatten ∧ (replies t).flatten.length = remaining
  only : OnlyIdentification o

theorem chunksRead_of_runsIn {budget remaining : Nat} {chunks : List Bytes} {o : Outcome StreamExc Bytes}
    (h : peer.RunsIn s (readChunks budget remaining chunks) t o) : ChunksRead remaining chunks t o := by
  induction budget generalizing s t remaining chunks with
  | zero =>
    obtain ⟨hread, hno, honly⟩ := runsIn_pending h
    refine ⟨?_, fun a ha => absurd ha (hno a), honly⟩
    rw [hread]
    exact Nat.zero_le _
  | succ budget ih =>
    unfold readChunks at h
    split at h
    · next hzero =>
      obtain ⟨rfl, ho⟩ := runsIn_ret h
      refine ⟨Nat.zero_le _, ?_, ?_⟩
      · rintro frame rfl
        obtain rfl : frame = chunks.flatten := by simpa using ho
        exact ⟨(List.append_nil _).symm, hzero.symm⟩
      · rintro x rfl
        simp at ho
    rcases runsIn_act h with ⟨rfl, rfl⟩ | ⟨chunk, t', rfl, hchunk, hrest⟩
    · exact ⟨Nat.zero_le _, nofun, nofun⟩
    have hle : chunk.length ≤ remaining := ByteStream.IsChunk.length_le hchunk
    change peer.RunsIn _ (if chunk = [] then .raise _ else readChunks budget (remaining - chunk.length) (chunks ++ [chunk]))
      t' o at hrest
    have hread : replies (⟨.read remaining, chunk⟩ :: t') = chunk :: replies t' := rfl
    split at hrest
    · obtain ⟨hnil, hno, honly⟩ := runsIn_raise rfl hrest
      refine ⟨?_, fun a ha => absurd ha (hno a), honly⟩
      rw [hread, hnil, List.flatten_singleton]
      exact hle
    · have hnext := ih hrest
      refine ⟨?_, fun frame ho => ?_, hnext.only⟩
      · have hlength := hnext.length_le
        rw [hread, List.flatten_cons, List.length_append]
        omega
      · obtain ⟨hframe, hlength⟩ := hnext.returned frame ho
        rw [hread, List.flatten_cons, List.length_append]
        refine ⟨?_, by omega⟩
        rw [hframe, List.flatten_append, List.flatten_singleton, List.append_assoc]

/-- The headers and the chunks of a part. -/
structure PartRead (t : StreamTrace) (o : Outcome StreamExc Bytes) : Prop where
  exists_split : ∃ headers chunks, replies t = headers ++ chunks ∧
    headers.flatten.length ≤ MAX_MULTIPART_HEADERS + (MAX_MULTIPART_LINE + 1) ∧
    chunks.flatten.length ≤ MAX_FRAME_BYTES ∧
    ∀ frame, o = .returned frame → frame = chunks.flatten ∧
      frameLength (headers.dropLast.foldl setHeader noHeaders) = .ok frame.length ∧
      0 < frame.length ∧ frame.length ≤ MAX_FRAME_BYTES
  only : OnlyIdentification o

theorem replies_append (t t' : StreamTrace) : replies (t ++ t') = replies t ++ replies t' := List.map_append

theorem partRead_of_runsIn {budget : Nat} {o : Outcome StreamExc Bytes} (h : peer.RunsIn s (readPart budget) t o) :
    PartRead t o := by
  rcases runsIn_bind h with ⟨t₁, headers, t₂, rfl, hheaders, hrest⟩ | ⟨x, hraised, rfl⟩ | ⟨hrunning, rfl⟩
  · have hread := headersRead_of_runsIn (Nat.zero_le _) hheaders
    have hlength := hread.length_le
    rw [Nat.zero_add] at hlength
    obtain ⟨-, hresult⟩ := hread.returned headers rfl
    cases hframe : frameLength headers with
    | error x =>
      rw [hframe] at hrest
      obtain ⟨hnil, hno, honly⟩ := runsIn_raise ((raisesOnly_frameLength headers).kind x hframe) hrest
      refine ⟨⟨replies t₁, [], by rw [replies_append, hnil], hlength, Nat.zero_le _, fun a ha => absurd ha (hno a)⟩, honly⟩
    | ok length =>
      rw [hframe] at hrest
      have hbounds := frameLength_bounds hframe
      have hchunks : ChunksRead length [] t₂ o := chunksRead_of_runsIn hrest
      refine ⟨⟨replies t₁, replies t₂, replies_append t₁ t₂, hlength, hchunks.length_le.trans hbounds.2, ?_⟩,
        hchunks.only⟩
      rintro frame rfl
      obtain ⟨hflat, hall⟩ := hchunks.returned frame rfl
      obtain rfl : frame = (replies t₂).flatten := hflat
      rw [← hresult, hframe, hall]
      exact ⟨rfl, rfl, hbounds⟩
  · have hread := headersRead_of_runsIn (Nat.zero_le _) hraised
    have hlength := hread.length_le
    rw [Nat.zero_add] at hlength
    refine ⟨⟨replies t, [], (List.append_nil _).symm, hlength, Nat.zero_le _, nofun⟩, ?_⟩
    rintro y ⟨⟩
    exact hread.only x rfl
  · have hread := headersRead_of_runsIn (Nat.zero_le _) hrunning
    have hlength := hread.length_le
    rw [Nat.zero_add] at hlength
    exact ⟨⟨replies t, [], (List.append_nil _).symm, hlength, Nat.zero_le _, nofun⟩, nofun⟩

/-! ## The loop over the parts -/

/-- What a run has read when `preamble` bytes of stray lines and the frames `frames` came before. -/
structure Consumption (boundary : Bytes) (count : Int) (preamble : Nat) (frames : List Bytes) (t : StreamTrace)
    (o : Outcome StreamExc (List Bytes)) (items : List Item) : Prop where
  replies_eq : replies t = items.flatMap Item.replies
  within : ∀ item ∈ items, item.Within boundary
  stray : preamble + (items.map Item.strayLength).sum ≤ MAX_PREAMBLE_BYTES + (MAX_MULTIPART_LINE + 1)
  closing : items.countP Item.isClosing ≤ 1
  parts : frames.length + (items.filterMap Item.frame?).length ≤ max count frames.length
  returned : ∀ result, o = .returned result →
    result = frames ++ items.filterMap Item.frame? ∧ ∀ item ∈ items, item.Announced
  only : OnlyIdentification o

section Parts

variable {boundary : Bytes} {count : Int} {preamble : Nat} {frames : List Bytes} {o : Outcome StreamExc (List Bytes)}

theorem consumption_nil (hpreamble : preamble ≤ MAX_PREAMBLE_BYTES + (MAX_MULTIPART_LINE + 1)) (hread : replies t = [])
    (hreturned : ∀ result, o = .returned result → result = frames) (honly : OnlyIdentification o) :
    Consumption boundary count preamble frames t o [] where
  replies_eq := hread
  within := nofun
  stray := hpreamble
  closing := Nat.zero_le 1
  parts := le_max_right _ _
  returned result ho := ⟨by rw [hreturned result ho, List.filterMap_nil, List.append_nil], nofun⟩
  only := honly

theorem Consumption.cons_stray {t' : StreamTrace} {line : Bytes} {items : List Item}
    (h : Consumption boundary count (preamble + line.length) frames t' o items)
    (hread : replies t = line :: replies t')
    (hline : withoutBreak line ≠ delimiterOf boundary ∨ MAX_MULTIPART_LINE < line.length) :
    Consumption boundary count preamble frames t o (.stray line :: items) where
  replies_eq := by
    rw [hread, h.replies_eq]
    rfl
  within := List.forall_mem_cons.mpr ⟨hline, h.within⟩
  stray := by
    rw [List.map_cons, List.sum_cons, ← Nat.add_assoc]
    exact h.stray
  closing := h.closing
  parts := h.parts
  returned result ho := by
    obtain ⟨hresult, hannounced⟩ := h.returned result ho
    exact ⟨hresult, List.forall_mem_cons.mpr ⟨trivial, hannounced⟩⟩
  only := h.only

theorem Consumption.cons_part {t' : StreamTrace} {delimiter : Bytes} {headers chunks : List Bytes} {items : List Item}
    (h : Consumption boundary count preamble (frames ++ [chunks.flatten]) t' o items)
    (hcount : frames.length < count) (hread : replies t = delimiter :: (headers ++ chunks) ++ replies t')
    (hwithin : (Item.part delimiter headers chunks).Within boundary)
    (hannounced : ∀ result, o = .returned result → (Item.part delimiter headers chunks).Announced) :
    Consumption boundary count preamble frames t o (.part delimiter headers chunks :: items) where
  replies_eq := by
    rw [hread, h.replies_eq]
    rfl
  within := List.forall_mem_cons.mpr ⟨hwithin, h.within⟩
  stray := by
    show preamble + (0 + (items.map Item.strayLength).sum) ≤ _
    rw [Nat.zero_add]
    exact h.stray
  closing := h.closing
  parts := by
    have hparts := h.parts
    change (frames.length : Int) + ((chunks.flatten :: items.filterMap Item.frame?).length : Nat) ≤ _
    rw [List.length_cons]
    rw [List.length_append, List.length_singleton] at hparts
    push_cast at hparts ⊢
    omega
  returned result ho := by
    obtain ⟨hresult, hrest⟩ := h.returned result ho
    refine ⟨?_, List.forall_mem_cons.mpr ⟨hannounced result ho, hrest⟩⟩
    rw [hresult, List.append_assoc]
    rfl
  only := h.only

theorem consumption_of_runsIn {budget iterations : Nat} (hpreamble : preamble ≤ MAX_PREAMBLE_BYTES)
    (h : peer.RunsIn s (readParts budget boundary count iterations frames preamble) t o) :
    ∃ items, Consumption boundary count preamble frames t o items := by
  have hroom : preamble ≤ MAX_PREAMBLE_BYTES + (MAX_MULTIPART_LINE + 1) := Nat.le_add_right_of_le hpreamble
  induction iterations generalizing s t preamble frames with
  | zero =>
    obtain ⟨hread, hno, honly⟩ := runsIn_pending h
    exact ⟨[], consumption_nil hroom hread (fun a ha => absurd ha (hno a)) honly⟩
  | succ iterations ih =>
    have hreturned {t : StreamTrace} {s : ByteStream} (h : peer.RunsIn s (pure frames) t o) :
        replies t = [] ∧ (∀ result, o = .returned result → result = frames) ∧ OnlyIdentification o := by
      obtain ⟨rfl, rfl | rfl⟩ := runsIn_ret h
      · refine ⟨rfl, ?_, nofun⟩
        rintro _ ⟨⟩
        rfl
      · exact ⟨rfl, nofun, nofun⟩
    unfold readParts at h
    split at h
    swap
    · obtain ⟨hread, hresult, honly⟩ := hreturned h
      exact ⟨[], consumption_nil hroom hread hresult honly⟩
    next hcount =>
    rcases runsIn_readline h with ⟨hread, hno, honly⟩ | ⟨line, s', t', hread, hline, hrest⟩
    · rcases hread with hnil | ⟨line, hone, hlong, hlength⟩
      · exact ⟨[], consumption_nil hroom hnil (fun a ha => absurd ha (hno a)) honly⟩
      · have hrest : Consumption boundary count (preamble + line.length) frames [] o [] :=
          consumption_nil (Nat.add_le_add hpreamble hlength) rfl (fun a ha => absurd ha (hno a)) honly
        exact ⟨_, hrest.cons_stray hone (.inr hlong)⟩
    have hraised {x : StreamExc} (hx : x.isIdentification = true) (hrun : peer.RunsIn s' (.raise x) t' o)
        (hstray : withoutBreak line ≠ delimiterOf boundary) :
        ∃ items, Consumption boundary count preamble frames t o items := by
      obtain ⟨hnil, hno, honly⟩ := runsIn_raise hx hrun
      have hrest : Consumption boundary count (preamble + line.length) frames t' o [] :=
        consumption_nil (Nat.add_le_add hpreamble (Nat.le_succ_of_le hline)) hnil (fun a ha => absurd ha (hno a)) honly
      exact ⟨_, hrest.cons_stray hread (.inl hstray)⟩
    split at hrest
    · -- the end of the stream
      next hempty =>
      obtain ⟨hnil, hresult, honly⟩ := hreturned hrest
      have hnone : withoutBreak line ≠ delimiterOf boundary := by
        rw [hempty]
        nofun
      have hrest : Consumption boundary count (preamble + line.length) frames t' o [] := by
        rw [hempty]
        exact consumption_nil hroom hnil hresult honly
      exact ⟨_, hrest.cons_stray hread (.inl hnone)⟩
    split at hrest
    · next hclosing =>
      obtain ⟨hnil, hresult, honly⟩ := hreturned hrest
      refine ⟨[.closing line], ?_, ?_, hroom, Nat.le_refl 1, le_max_right _ _, ?_, honly⟩
      · rw [hread, hnil]
        rfl
      · exact List.forall_mem_singleton.mpr ⟨hclosing, hline⟩
      · intro result ho
        exact ⟨by rw [hresult result ho]; exact (List.append_nil _).symm, List.forall_mem_singleton.mpr trivial⟩
    split at hrest
    · next hstray =>
      split at hrest
      · exact hraised rfl hrest hstray
      · next hfits =>
        have hfits := Nat.le_of_not_lt hfits
        obtain ⟨items, hitems⟩ := ih hfits hrest (Nat.le_add_right_of_le hfits)
        exact ⟨_, hitems.cons_stray hread (.inl hstray)⟩
    next hdelimiter =>
    have hdelimiter := not_not.mp hdelimiter
    -- a part that did not return is the last item
    have hlast {u : Outcome StreamExc Bytes} {t' : StreamTrace} (hread : replies t = line :: replies t')
        (hpart : PartRead t' u) (hno : ∀ a, o ≠ .returned a) (honly : OnlyIdentification o) :
        ∃ items, Consumption boundary count preamble frames t o items := by
      obtain ⟨headers, chunks, hsplit, hheaders, hchunks, -⟩ := hpart.exists_split
      have hnil : Consumption boundary count preamble (frames ++ [chunks.flatten]) [] o [] :=
        consumption_nil hroom rfl (fun a ha => absurd ha (hno a)) honly
      refine ⟨_, hnil.cons_part hcount ?_ ⟨⟨hdelimiter, hline⟩, hheaders, hchunks⟩ fun a ha => absurd ha (hno a)⟩
      rw [hread, hsplit]
      exact (List.append_nil _).symm
    rcases runsIn_bind hrest with ⟨t₁, frame, t₂, rfl, hpart, hrest⟩ | ⟨x, hpart, rfl⟩ | ⟨hpart, rfl⟩
    · obtain ⟨headers, chunks, hsplit, hheaders, hchunks, hframe⟩ := (partRead_of_runsIn hpart).exists_split
      obtain ⟨rfl, hannounced⟩ := hframe frame rfl
      obtain ⟨items, hitems⟩ := ih hpreamble hrest hroom
      refine ⟨_, hitems.cons_part hcount ?_ ⟨⟨hdelimiter, hline⟩, hheaders, hchunks⟩ fun _ _ => hannounced⟩
      rw [hread, replies_append, hsplit]
      rfl
    · exact hlast hread (partRead_of_runsIn hpart) nofun fun y hy => (partRead_of_runsIn hpart).only y (by cases hy; rfl)
    · exact hlast hread (partRead_of_runsIn hpart) nofun nofun

end Parts

end Loops

/-! ## Termination -/

section Termination

variable {s : ByteStream}

/-- The run ends, by returning or by an exception of the tool. -/
abbrev Ends {α : Type} (p : Reading α) (s : ByteStream) : Prop :=
  peer.Ensures p (fun _ _ => True) (fun _ x => x.isIdentification = true) s

theorem ends_readline {α : Type} {f : Bytes → Reading α} (hf : ∀ line s', Ends (f line) s') :
    Ends (readline >>= f) s := by
  intro line _
  change Ends ((if MAX_MULTIPART_LINE < line.length then .raise _ else pure line) >>= f) _
  split
  · rfl
  · exact hf line _

theorem ends_readHeaders {budget counted : Nat} {headers : Headers} (hcounted : counted ≤ MAX_MULTIPART_HEADERS)
    (hbudget : MAX_MULTIPART_HEADERS < budget + counted) : Ends (readHeaders budget counted headers) s := by
  induction budget generalizing s counted headers with
  | zero => omega
  | succ budget ih =>
    apply ends_readline
    intro line s'
    split
    · rfl
    next hne =>
    split
    · rfl
    next hfits =>
    split
    · trivial
    split
    · rfl
    · -- the line counts for one byte at least
      have hpos := List.length_pos_iff.mpr hne
      exact ih (Nat.le_of_not_lt hfits) (by omega)

theorem ends_readChunks {budget remaining : Nat} {chunks : List Bytes} (hbudget : remaining < budget) :
    Ends (readChunks budget remaining chunks) s := by
  induction budget generalizing s remaining chunks with
  | zero => omega
  | succ budget ih =>
    unfold readChunks
    split
    · trivial
    · intro chunk _
      change Ends (if chunk = [] then .raise _ else readChunks budget (remaining - chunk.length) (chunks ++ [chunk])) _
      split
      · rfl
      · next hne =>
        have hpos := List.length_pos_iff.mpr hne
        exact ih (by omega)

theorem ends_readPart {budget : Nat} (hheaders : MAX_MULTIPART_HEADERS < budget) (hframe : MAX_FRAME_BYTES < budget) :
    Ends (readPart budget) s := by
  refine (ends_readHeaders (Nat.zero_le _) hheaders).then fun s' headers _ => ?_
  cases hlength : frameLength headers with
  | error x => exact (raisesOnly_frameLength headers).kind x hlength
  | ok length => exact ends_readChunks (Nat.lt_of_le_of_lt (frameLength_bounds hlength).2 hframe)

-- each iteration takes a byte of the preamble or a frame of the count
theorem ends_readParts {budget iterations preamble : Nat} {boundary : Bytes} {count : Int} {frames : List Bytes}
    (hheaders : MAX_MULTIPART_HEADERS < budget) (hframe : MAX_FRAME_BYTES < budget)
    (hpreamble : preamble ≤ MAX_PREAMBLE_BYTES)
    (hiterations : MAX_PREAMBLE_BYTES + (count - frames.length).toNat < iterations + preamble) :
    Ends (readParts budget boundary count iterations frames preamble) s := by
  induction iterations generalizing s preamble frames with
  | zero => omega
  | succ iterations ih =>
    unfold readParts
    split
    swap
    · trivial
    next hcount =>
    apply ends_readline
    intro line s'
    split
    · trivial
    next hne =>
    split
    · trivial
    split
    · split
      · rfl
      · next hfits =>
        have hpos := List.length_pos_iff.mpr hne
        exact ih (Nat.le_of_not_lt hfits) (by omega)
    · refine (ends_readPart hheaders hframe).then fun s'' frame _ => ih hpreamble ?_
      rw [List.length_append, List.length_singleton]
      push_cast
      omega

/-- A budget that suffices whatever the peer sends. -/
def enough (count : Int) : Nat := MAX_FRAME_BYTES + MAX_PREAMBLE_BYTES + count.toNat + 1

end Termination

/-- What is read of any stream, endless ones included, is within the limits; the reader returns frames of the
announced lengths or raises the tool's error, and does one of the two. -/
theorem readMjpegFrames_bounded (boundary : Bytes) (count : Int) (s : ByteStream) :
    (∀ extra, Ends (readMjpegFrames (enough count + extra) boundary count) s) ∧
      ∀ budget t o, peer.RunsIn s (readMjpegFrames budget boundary count) t o →
        ∃ items, Consumption boundary count 0 [] t o items := by
  constructor
  · intro extra
    unfold readMjpegFrames
    have hheaders : MAX_MULTIPART_HEADERS < enough count + extra := by
      simp only [enough, MAX_FRAME_BYTES, MAX_PREAMBLE_BYTES, MAX_MULTIPART_HEADERS]
      omega
    have hframe : MAX_FRAME_BYTES < enough count + extra := by
      simp only [enough, MAX_FRAME_BYTES, MAX_PREAMBLE_BYTES]
      omega
    have hiterations : MAX_PREAMBLE_BYTES + (count - ([] : List Bytes).length).toNat < enough count + extra + 0 := by
      simp only [enough, List.length_nil, Nat.cast_zero, Int.sub_zero]
      omega
    refine (ends_readParts hheaders hframe (Nat.zero_le _) hiterations).then fun s' frames _ => ?_
    split
    · rfl
    · trivial
  · intro budget t o h
    rcases runsIn_bind h with ⟨t₁, frames, t₂, rfl, hparts, hrest⟩ | ⟨x, hparts, rfl⟩ | ⟨hparts, rfl⟩
    · obtain ⟨items, hitems⟩ := consumption_of_runsIn (Nat.zero_le _) hparts
      have hread (hnil : replies t₂ = []) : replies (t₁ ++ t₂) = items.flatMap Item.replies := by
        rw [replies_append, hnil, List.append_nil, hitems.replies_eq]
      refine ⟨items, ?_⟩
      split at hrest
      · obtain ⟨hnil, hno, honly⟩ := runsIn_raise rfl hrest
        exact ⟨hread hnil, hitems.within, hitems.stray, hitems.closing, hitems.parts, fun a ha => absurd ha (hno a), honly⟩
      · obtain ⟨rfl, rfl | rfl⟩ := runsIn_ret hrest
        · exact ⟨hread rfl, hitems.within, hitems.stray, hitems.closing, hitems.parts, hitems.returned, nofun⟩
        · exact ⟨hread rfl, hitems.within, hitems.stray, hitems.closing, hitems.parts, nofun, nofun⟩
    · exact consumption_of_runsIn (Nat.zero_le _) hparts
    · exact consumption_of_runsIn (Nat.zero_le _) hparts

end Cc2Camera.StreamIdentify
