import Cc2Camera.Lib.Bytes

/-!
# ByteStream — streams of bytes, finite or endless, and what a reader gets of them

`line` is a line read with a limit.  `IsChunk` are the replies a read may get: some bytes, as many as asked
for or fewer, and none only at the end.
-/

structure ByteStream where
  byte : Nat → Option UInt8
  closed : ∀ i, byte i = none → byte (i + 1) = none

namespace ByteStream

variable {s : ByteStream} {n : Nat} {b : UInt8}

def empty : ByteStream where
  byte _ := none
  closed _ _ := rfl

def cons (b : UInt8) (s : ByteStream) : ByteStream where
  byte
    | 0 => some b
    | i + 1 => s.byte i
  closed
    | 0, h => nomatch h
    | i + 1, h => s.closed i h

def prepend (data : Bytes) (s : ByteStream) : ByteStream := data.foldr cons s

def drop (n : Nat) (s : ByteStream) : ByteStream where
  byte i := s.byte (i + n)
  closed i h := by
    rw [Nat.add_right_comm]
    exact s.closed _ h

def take : Nat → ByteStream → Bytes
  | 0, _ => []
  | n + 1, s =>
    match s.byte 0 with
    | none => []
    | some b => b :: take n (s.drop 1)

/-- The bytes up to and with the next line feed, but no more than the limit. -/
def line : Nat → ByteStream → Bytes
  | 0, _ => []
  | n + 1, s =>
    match s.byte 0 with
    | none => []
    | some b => if b = 10 then [b] else b :: line n (s.drop 1)

structure IsChunk (n : Nat) (chunk : Bytes) (s : ByteStream) : Prop where
  length_le : chunk.length ≤ n
  eq_take : chunk = s.take chunk.length
  ended : chunk = [] → n = 0 ∨ s.byte 0 = none

@[simp] theorem prepend_nil (s : ByteStream) : prepend [] s = s := rfl

@[simp] theorem prepend_cons (b : UInt8) (data : Bytes) (s : ByteStream) :
    prepend (b :: data) s = cons b (prepend data s) := rfl

theorem prepend_append (data data' : Bytes) (s : ByteStream) :
    prepend (data ++ data') s = prepend data (prepend data' s) := List.foldr_append

@[simp] theorem drop_zero (s : ByteStream) : s.drop 0 = s := rfl

@[simp] theorem drop_succ_cons (n : Nat) (b : UInt8) (s : ByteStream) : (cons b s).drop (n + 1) = s.drop n := rfl

theorem drop_prepend {data : Bytes} (h : n ≤ data.length) (s : ByteStream) :
    (prepend data s).drop n = prepend (data.drop n) s := by
  induction data generalizing n with
  | nil =>
    rw [Nat.le_zero.mp h]
    rfl
  | cons b data ih =>
    cases n with
    | zero => rfl
    | succ n => exact ih (Nat.le_of_succ_le_succ h)

theorem drop_length_prepend (data : Bytes) (s : ByteStream) : (prepend data s).drop data.length = s := by
  rw [drop_prepend le_rfl, List.drop_length]
  rfl

@[simp] theorem take_succ_cons (n : Nat) (b : UInt8) (s : ByteStream) : (cons b s).take (n + 1) = b :: s.take n := rfl

theorem take_prepend {data : Bytes} (h : n ≤ data.length) (s : ByteStream) : (prepend data s).take n = data.take n := by
  induction data generalizing n with
  | nil =>
    rw [Nat.le_zero.mp h]
    rfl
  | cons b data ih =>
    cases n with
    | zero => rfl
    | succ n => exact congrArg (b :: ·) (ih (Nat.le_of_succ_le_succ h))

theorem length_line_le (n : Nat) (s : ByteStream) : (s.line n).length ≤ n := by
  induction n generalizing s with
  | zero => exact Nat.le_refl 0
  | succ n ih =>
    unfold line
    split
    · exact Nat.zero_le _
    · split
      · exact Nat.succ_le_succ (Nat.zero_le n)
      · exact Nat.succ_le_succ (ih _)

theorem line_prepend {body : Bytes} (hbody : 10 ∉ body) (hlength : body.length < n) (s : ByteStream) :
    (prepend (body ++ [10]) s).line n = body ++ [10] := by
  induction body generalizing n with
  | nil =>
    obtain ⟨n, rfl⟩ := Nat.exists_eq_succ_of_ne_zero (Nat.ne_of_gt hlength)
    rfl
  | cons b body ih =>
    obtain ⟨hb, hrest⟩ := not_or.mp (fun h => hbody (List.mem_cons.mpr h))
    obtain ⟨n, rfl⟩ := Nat.exists_eq_succ_of_ne_zero (Nat.ne_of_gt (Nat.zero_lt_of_lt hlength))
    show (if b = 10 then [b] else b :: (prepend (body ++ [10]) s).line n) = _
    rw [if_neg (Ne.symm hb), ih hrest (Nat.lt_of_succ_lt_succ hlength)]
    rfl

theorem exists_isChunk (n : Nat) (s : ByteStream) : ∃ chunk, IsChunk n chunk s := by
  cases n with
  | zero => exact ⟨[], Nat.le_refl 0, rfl, fun _ => .inl rfl⟩
  | succ n =>
    cases hbyte : s.byte 0 with
    | none => exact ⟨[], Nat.zero_le _, rfl, fun _ => .inr hbyte⟩
    | some b =>
      refine ⟨[b], Nat.succ_le_succ (Nat.zero_le n), ?_, nofun⟩
      show [b] = s.take 1
      rw [take, hbyte]
      rfl

/-- Inside a known prefix a read gets a nonempty part of it. -/
theorem IsChunk.of_prepend {data chunk : Bytes} (h : IsChunk n chunk (prepend data s)) (hn : n ≤ data.length)
    (hpos : 0 < n) : chunk ≠ [] ∧ chunk.length ≤ n ∧ chunk = data.take chunk.length := by
  refine ⟨fun hnil => ?_, h.length_le, ?_⟩
  · rcases h.ended hnil with hzero | hend
    · omega
    · cases data with
      | nil => simp at hn; omega
      | cons b data => cases hend
  · have htake := h.eq_take
    rw [take_prepend (h.length_le.trans hn)] at htake
    exact htake

end ByteStream
