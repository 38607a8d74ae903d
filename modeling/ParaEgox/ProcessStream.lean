import ParaEgox.ProcessFrame
import ParaEgox.Delimited

/-!
# ProcessStream — the host's reading of the worker's byte stream

A frame travels behind its length in four bytes.  One buffer of the transport holds first the length and then the frame,
and `expected_frame_length` tells the two apart.  A call is abandoned only while it waits for bytes, and the bytes that
have come in stay with the transport.
-/
namespace ParaEgox
namespace Process

open Delimited

def streamLengthBytes : Nat := 4

def streamChunkBytes : Nat := 8 * 1024

inductive StreamError
  | invalidFramePrefix
  | invalidFrameLength
  | unexpectedEof

structure StreamReceiver where
  receiveBuffer : Bytes := []
  expectedFrameLength : Option Nat := none

def frameLengthAdmitted (totalLength : Nat) : Bool :=
  processWorkerHeaderBytes ≤ totalLength && totalLength ≤ maxProcessWorkerFrameBytes

inductive Progress
  | whole (wire : Bytes)
  | awaiting (requested : Nat)

namespace StreamReceiver

def expectFrame (r : StreamReceiver) : Except StreamError StreamReceiver :=
  if r.expectedFrameLength = none ∧ r.receiveBuffer.length = streamLengthBytes then
    let totalLength := fromBE (r.receiveBuffer.take streamLengthBytes)
    if frameLengthAdmitted totalLength then .ok { receiveBuffer := [], expectedFrameLength := some totalLength }
    else .error .invalidFrameLength
  else .ok r

def advance (r : StreamReceiver) : Except StreamError (Progress × StreamReceiver) :=
  if r.expectedFrameLength = some r.receiveBuffer.length then .ok (.whole r.receiveBuffer, {})
  else
    let target := r.expectedFrameLength.getD streamLengthBytes
    if target < r.receiveBuffer.length then .error .invalidFrameLength
    else .ok (.awaiting (min (target - r.receiveBuffer.length) streamChunkBytes), r)

def poll (r : StreamReceiver) : Except StreamError (Progress × StreamReceiver) := do
  let r ← r.expectFrame
  r.advance

end StreamReceiver

/-- What a read that was asked for comes to: some bytes are ready, at least one and as many more as `more` says, or the
call is given up while it waits. -/
inductive Arrival
  | ready (more : Nat)
  | cancelled

def Arrival.isReady : Arrival → Bool
  | .ready _ => true
  | .cancelled => false

inductive CallEnd
  | returned (wire : Bytes)
  | failed (error : StreamError)
  | cancelled
  | waiting

structure FrameCall where
  ending : CallEnd
  receiver : StreamReceiver
  unread : Bytes
  arrivals : List Arrival

/-- `read_frame_wire` over the bytes the worker has still to deliver; after the last of them a read gives none. -/
def readFrameWire (arrivals : List Arrival) (r : StreamReceiver) (input : Bytes) : FrameCall :=
  match r.poll with
  | .error e => ⟨.failed e, r, input, arrivals⟩
  | .ok (.whole wire, r') => ⟨.returned wire, r', input, arrivals⟩
  | .ok (.awaiting requested, r') =>
    match arrivals with
    | [] => ⟨.waiting, r', input, []⟩
    | .cancelled :: rest => ⟨.cancelled, r', input, rest⟩
    | .ready more :: rest =>
      let read := min (more + 1) (min requested input.length)
      if read = 0 then ⟨.failed .unexpectedEof, r', input, rest⟩
      else readFrameWire rest { r' with receiveBuffer := r'.receiveBuffer ++ input.take read } (input.drop read)

structure Serving where
  frames : List Bytes
  ending : Option StreamError
  receiver : StreamReceiver
  unread : Bytes
  arrivals : List Arrival

/-- The transport's owner calls again after a frame and after a call it gave up; the first error poisons the transport. -/
def serve : Nat → List Arrival → StreamReceiver → Bytes → Serving
  | 0, arrivals, r, input => ⟨[], none, r, input, arrivals⟩
  | calls + 1, arrivals, r, input =>
    let call := readFrameWire arrivals r input
    match call.ending with
    | .returned wire =>
      let later := serve calls call.arrivals call.receiver call.unread
      { later with frames := wire :: later.frames }
    | .cancelled => serve calls call.arrivals call.receiver call.unread
    | .failed e => ⟨[], some e, call.receiver, call.unread, call.arrivals⟩
    | .waiting => ⟨[], none, call.receiver, call.unread, call.arrivals⟩

/-! ## What the stream says -/

def workerFormat : Format UInt8 where
  width := streamLengthBytes
  lengthOf := fromBE
  admits := frameLengthAdmitted
  width_pos := by decide

def framed (wire : Bytes) : Bytes := bytesBE streamLengthBytes wire.length ++ wire

def streamError : StreamEnd → StreamError
  | .truncated => .unexpectedEof
  | .refused => .invalidFrameLength

variable {n : Nat} {wire : Bytes} {r : StreamReceiver}

theorem lt_of_frameLengthAdmitted (h : frameLengthAdmitted n = true) : n < 256 ^ streamLengthBytes := by
  simp only [frameLengthAdmitted, Bool.and_eq_true, decide_eq_true_eq] at h
  have hmax : maxProcessWorkerFrameBytes < 256 ^ streamLengthBytes := by decide
  exact lt_of_le_of_lt h.2 hmax

theorem pos_of_frameLengthAdmitted (h : frameLengthAdmitted n = true) : 0 < n := by
  simp only [frameLengthAdmitted, Bool.and_eq_true, decide_eq_true_eq] at h
  have hmin : 0 < processWorkerHeaderBytes := by decide
  exact lt_of_lt_of_le hmin h.1

theorem lengthOf_bytesBE (h : frameLengthAdmitted n = true) :
    workerFormat.lengthOf (bytesBE streamLengthBytes n) = n :=
  fromBE_bytesBE (lt_of_frameLengthAdmitted h)

theorem frames_framed (h : frameLengthAdmitted wire.length = true) (rest : Bytes) :
    frames workerFormat (framed wire ++ rest) =
      (wire :: (frames workerFormat rest).1, (frames workerFormat rest).2) := by
  have hlength := lengthOf_bytesBE h
  rw [framed, List.append_assoc]
  refine frames_cons workerFormat (bytesBE_length _ _) ?_ hlength.symm rest
  exact hlength.symm ▸ h

namespace StreamReceiver

variable {r r' : StreamReceiver}

/-- The bytes the transport holds of the frame it is reading, with the length it has taken off. -/
def pending (r : StreamReceiver) : Bytes :=
  match r.expectedFrameLength with
  | none => r.receiveBuffer
  | some n => bytesBE streamLengthBytes n ++ r.receiveBuffer

def Fits (r : StreamReceiver) : Prop :=
  match r.expectedFrameLength with
  | none => r.receiveBuffer.length ≤ streamLengthBytes
  | some n => frameLengthAdmitted n = true ∧ r.receiveBuffer.length ≤ n

def Unfilled (r : StreamReceiver) : Prop :=
  match r.expectedFrameLength with
  | none => r.receiveBuffer.length < streamLengthBytes
  | some n => frameLengthAdmitted n = true ∧ r.receiveBuffer.length < n

def missing (r : StreamReceiver) : Nat := r.expectedFrameLength.getD streamLengthBytes - r.receiveBuffer.length

theorem unfilled_empty : Unfilled {} := Nat.zero_lt_succ 3

theorem Unfilled.fits (h : r.Unfilled) : r.Fits := by
  obtain ⟨buffer, _ | n⟩ := r
  · exact Nat.le_of_lt h
  · exact ⟨h.1, Nat.le_of_lt h.2⟩

theorem Unfilled.missing_pos (h : r.Unfilled) : 0 < r.missing := by
  obtain ⟨buffer, _ | n⟩ := r
  · exact Nat.sub_pos_of_lt h
  · exact Nat.sub_pos_of_lt h.2

theorem Unfilled.not_full (h : r.Unfilled) : r.expectedFrameLength ≠ some r.receiveBuffer.length := by
  obtain ⟨buffer, _ | n⟩ := r
  · intro hfull
    cases hfull
  · intro hfull
    have hn : n = buffer.length := Option.some.inj hfull
    exact absurd hn (Nat.ne_of_gt h.2)

theorem advance_unfilled (h : r.Unfilled) : r.advance = .ok (.awaiting (min r.missing streamChunkBytes), r) := by
  have hpos := h.missing_pos
  have hroom : ¬ r.expectedFrameLength.getD streamLengthBytes < r.receiveBuffer.length := by
    unfold missing at hpos
    omega
  unfold advance
  dsimp only
  rw [if_neg h.not_full, if_neg hroom]
  rfl

theorem poll_unfilled (h : r.Unfilled) : r.poll = .ok (.awaiting (min r.missing streamChunkBytes), r) := by
  have hkeep : ¬ (r.expectedFrameLength = none ∧ r.receiveBuffer.length = streamLengthBytes) := by
    rintro ⟨hnone, hlen⟩
    unfold Unfilled at h
    rw [hnone] at h
    exact absurd hlen (Nat.ne_of_lt h)
  unfold poll expectFrame
  rw [if_neg hkeep]
  exact advance_unfilled h

/-- **One pass over a receiver**: the four bytes are no length, or the frame is whole, or a read is asked for. -/
theorem poll_cases (h : r.Fits) :
    (r.expectedFrameLength = none ∧ r.receiveBuffer.length = streamLengthBytes ∧
        frameLengthAdmitted (fromBE r.receiveBuffer) = false ∧ r.poll = .error .invalidFrameLength) ∨
      (r.expectedFrameLength = some r.receiveBuffer.length ∧ frameLengthAdmitted r.receiveBuffer.length = true ∧
        r.poll = .ok (.whole r.receiveBuffer, {})) ∨
      ∃ r' : StreamReceiver, r'.Unfilled ∧ r'.pending = r.pending ∧
        r.poll = .ok (.awaiting (min r'.missing streamChunkBytes), r') := by
  obtain ⟨buffer, _ | n⟩ := r
  · by_cases hlen : buffer.length = streamLengthBytes
    · have htake : buffer.take streamLengthBytes = buffer := List.take_of_length_le (le_of_eq hlen)
      have hexpect : (StreamReceiver.mk buffer none).expectFrame =
          if frameLengthAdmitted (fromBE buffer) then .ok ⟨[], some (fromBE buffer)⟩ else .error .invalidFrameLength := by
        unfold expectFrame
        rw [if_pos ⟨rfl, hlen⟩, htake]
      by_cases hadmitted : frameLengthAdmitted (fromBE buffer) = true
      · have hunfilled : Unfilled ⟨[], some (fromBE buffer)⟩ := ⟨hadmitted, pos_of_frameLengthAdmitted hadmitted⟩
        refine .inr (.inr ⟨⟨[], some (fromBE buffer)⟩, hunfilled, ?_, ?_⟩)
        · calc bytesBE streamLengthBytes (fromBE buffer) ++ []
              = bytesBE buffer.length (fromBE buffer) := by rw [List.append_nil, hlen]
            _ = buffer := bytesBE_fromBE buffer
        · unfold poll
          rw [hexpect, if_pos hadmitted]
          exact advance_unfilled hunfilled
      · refine .inl ⟨rfl, hlen, by simpa using hadmitted, ?_⟩
        unfold poll
        rw [hexpect, if_neg hadmitted]
        rfl
    · have hunfilled : Unfilled ⟨buffer, none⟩ := lt_of_le_of_ne h hlen
      exact .inr (.inr ⟨_, hunfilled, rfl, poll_unfilled hunfilled⟩)
  · by_cases hfull : n = buffer.length
    · subst hfull
      exact .inr (.inl ⟨rfl, h.1, by unfold poll expectFrame advance; simp [bind, Except.bind]⟩)
    · have hunfilled : Unfilled ⟨buffer, some n⟩ := ⟨h.1, lt_of_le_of_ne h.2 (Ne.symm hfull)⟩
      exact .inr (.inr ⟨_, hunfilled, rfl, poll_unfilled hunfilled⟩)

theorem pending_commit (r : StreamReceiver) (chunk : Bytes) :
    pending { r with receiveBuffer := r.receiveBuffer ++ chunk } = r.pending ++ chunk := by
  obtain ⟨buffer, _ | n⟩ := r
  · rfl
  · exact (List.append_assoc _ _ _).symm

theorem Unfilled.commit (h : r.Unfilled) {chunk : Bytes} (hchunk : chunk.length ≤ r.missing) :
    Fits { r with receiveBuffer := r.receiveBuffer ++ chunk } := by
  obtain ⟨buffer, _ | n⟩ := r
  · have hlen : buffer.length < streamLengthBytes := h
    have hroom : chunk.length ≤ streamLengthBytes - buffer.length := hchunk
    show (buffer ++ chunk).length ≤ streamLengthBytes
    rw [List.length_append]
    omega
  · have hlen : buffer.length < n := h.2
    have hroom : chunk.length ≤ n - buffer.length := hchunk
    refine ⟨h.1, ?_⟩
    show (buffer ++ chunk).length ≤ n
    rw [List.length_append]
    omega

theorem Unfilled.frames_pending (h : r.Unfilled) : frames workerFormat r.pending = ([], .truncated) := by
  obtain ⟨buffer, _ | n⟩ := r
  · exact frames_short workerFormat h
  · have hlength := lengthOf_bytesBE h.1
    exact frames_truncated workerFormat (bytesBE_length _ _) (hlength.symm ▸ h.1) (hlength.symm ▸ h.2)

end StreamReceiver

/-! ## One call -/

/-- What a call may come to that finds `whole` in front of it, the bytes the transport holds included. -/
inductive Reads (whole : Bytes) : FrameCall → Prop
  | returned {wire unread : Bytes} {rest : List Arrival} (hwhole : whole = framed wire ++ unread)
      (hlength : frameLengthAdmitted wire.length = true) : Reads whole ⟨.returned wire, {}, unread, rest⟩
  | failed {fin : StreamEnd} {r : StreamReceiver} {unread : Bytes} {rest : List Arrival}
      (hwhole : whole = r.pending ++ unread) (hframes : frames workerFormat whole = ([], fin)) :
      Reads whole ⟨.failed (streamError fin), r, unread, rest⟩
  | cancelled {r : StreamReceiver} {unread : Bytes} {rest : List Arrival} (hwhole : whole = r.pending ++ unread)
      (hunfilled : r.Unfilled) : Reads whole ⟨.cancelled, r, unread, rest⟩
  | waiting {r : StreamReceiver} {unread : Bytes} (hwhole : whole = r.pending ++ unread) (hunfilled : r.Unfilled) :
      Reads whole ⟨.waiting, r, unread, []⟩

open StreamReceiver

theorem readFrameWire_error {e : StreamError} (h : r.poll = .error e) (arrivals : List Arrival)
    (input : Bytes) : readFrameWire arrivals r input = ⟨.failed e, r, input, arrivals⟩ := by
  unfold readFrameWire
  rw [h]

theorem readFrameWire_whole {r' : StreamReceiver} (h : r.poll = .ok (.whole wire, r'))
    (arrivals : List Arrival) (input : Bytes) :
    readFrameWire arrivals r input = ⟨.returned wire, r', input, arrivals⟩ := by
  unfold readFrameWire
  rw [h]

theorem reads_refused (hnone : r.expectedFrameLength = none)
    (hlen : r.receiveBuffer.length = streamLengthBytes) (hrefused : frameLengthAdmitted (fromBE r.receiveBuffer) = false)
    (input : Bytes) (arrivals : List Arrival) :
    Reads (r.pending ++ input) ⟨.failed .invalidFrameLength, r, input, arrivals⟩ := by
  have hpending : r.pending = r.receiveBuffer := by
    unfold pending
    rw [hnone]
  have hframes : frames workerFormat (r.pending ++ input) = ([], .refused) := by
    rw [hpending]
    exact frames_refused workerFormat hlen hrefused input
  exact .failed rfl hframes

theorem reads_whole (hfull : r.expectedFrameLength = some r.receiveBuffer.length)
    (hadmitted : frameLengthAdmitted r.receiveBuffer.length = true) (input : Bytes) (arrivals : List Arrival) :
    Reads (r.pending ++ input) ⟨.returned r.receiveBuffer, {}, input, arrivals⟩ := by
  have hpending : r.pending = framed r.receiveBuffer := by
    unfold pending
    rw [hfull]
    rfl
  exact .returned (by rw [hpending]) hadmitted

/-- **A call reads from the stream what one frame takes**, however the bytes come in. -/
theorem readFrameWire_reads (arrivals : List Arrival) : ∀ {r : StreamReceiver} (input : Bytes), r.Fits →
    Reads (r.pending ++ input) (readFrameWire arrivals r input) := by
  induction arrivals with
  | nil =>
    intro r input hr
    rcases poll_cases hr with ⟨hnone, hlen, hrefused, hpoll⟩ | ⟨hfull, hadmitted, hpoll⟩ | ⟨r', hr', hpending, hpoll⟩
    · rw [readFrameWire_error hpoll]
      exact reads_refused hnone hlen hrefused input []
    · rw [readFrameWire_whole hpoll]
      exact reads_whole hfull hadmitted input []
    · unfold readFrameWire
      rw [hpoll, ← hpending]
      exact .waiting rfl hr'
  | cons arrival rest ih =>
    intro r input hr
    rcases poll_cases hr with ⟨hnone, hlen, hrefused, hpoll⟩ | ⟨hfull, hadmitted, hpoll⟩ | ⟨r', hr', hpending, hpoll⟩
    · rw [readFrameWire_error hpoll]
      exact reads_refused hnone hlen hrefused input (arrival :: rest)
    · rw [readFrameWire_whole hpoll]
      exact reads_whole hfull hadmitted input (arrival :: rest)
    · unfold readFrameWire
      rw [hpoll, ← hpending]
      cases arrival with
      | cancelled => exact .cancelled rfl hr'
      | ready more =>
        dsimp only
        have hmissing := hr'.missing_pos
        by_cases hread : min (more + 1) (min (min r'.missing streamChunkBytes) input.length) = 0
        · -- a read of nothing is the end of the stream
          have hempty : input = [] := by
            have : 0 < streamChunkBytes := by decide
            exact List.length_eq_zero_iff.1 (by omega)
          have hframes : frames workerFormat (r'.pending ++ []) = ([], .truncated) := by
            rw [List.append_nil]
            exact hr'.frames_pending
          rw [if_pos hread, hempty]
          exact .failed rfl hframes
        · rw [if_neg hread]
          have hchunk : (input.take (min (more + 1) (min (min r'.missing streamChunkBytes) input.length))).length ≤
              r'.missing := by
            rw [List.length_take]
            omega
          have hnext := ih (input.drop (min (more + 1) (min (min r'.missing streamChunkBytes) input.length)))
            (hr'.commit hchunk)
          rw [pending_commit, List.append_assoc, List.take_append_drop] at hnext
          exact hnext

def readies (arrivals : List Arrival) : Nat := arrivals.countP Arrival.isReady

structure Spent (arrivals : List Arrival) (input : Bytes) (call : FrameCall) : Prop where
  arrivals_le : call.arrivals.length ≤ arrivals.length
  reads_le : (∀ e, call.ending ≠ .failed e) →
    readies arrivals + call.unread.length ≤ readies call.arrivals + input.length

theorem readFrameWire_spent (arrivals : List Arrival) : ∀ (r : StreamReceiver) (input : Bytes),
    Spent arrivals input (readFrameWire arrivals r input) := by
  induction arrivals with
  | nil =>
    intro r input
    unfold readFrameWire
    split
    · exact ⟨le_rfl, fun _ => le_rfl⟩
    · exact ⟨le_rfl, fun _ => le_rfl⟩
    · exact ⟨le_rfl, fun _ => le_rfl⟩
  | cons arrival rest ih =>
    intro r input
    unfold readFrameWire
    split
    · exact ⟨le_rfl, fun _ => le_rfl⟩
    · exact ⟨le_rfl, fun _ => le_rfl⟩
    · next requested r' _ =>
      cases arrival with
      | cancelled => exact ⟨Nat.le_succ _, fun _ => le_of_eq rfl⟩
      | ready more =>
        dsimp only
        by_cases hread : min (more + 1) (min requested input.length) = 0
        · rw [if_pos hread]
          exact ⟨Nat.le_succ _, fun hnone => absurd rfl (hnone _)⟩
        · rw [if_neg hread]
          have hnext := ih
            { r' with receiveBuffer := r'.receiveBuffer ++ input.take (min (more + 1) (min requested input.length)) }
            (input.drop (min (more + 1) (min requested input.length)))
          refine ⟨Nat.le_succ_of_le hnext.arrivals_le, fun hnone => ?_⟩
          have hreads := hnext.reads_le hnone
          rw [List.length_drop] at hreads
          have hcons : readies (.ready more :: rest) = readies rest + 1 := List.countP_cons_of_pos rfl
          omega

theorem readFrameWire_waits (hr : r.Unfilled) (arrivals : List Arrival) (input : Bytes) :
    (∃ e, (readFrameWire arrivals r input).ending = .failed e) ∨ (readFrameWire arrivals r input).ending = .waiting ∨
      (readFrameWire arrivals r input).arrivals.length < arrivals.length := by
  unfold readFrameWire
  rw [poll_unfilled hr]
  cases arrivals with
  | nil => exact .inr (.inl rfl)
  | cons arrival rest =>
    cases arrival with
    | cancelled => exact .inr (.inr (Nat.lt_succ_self _))
    | ready more =>
      dsimp only
      by_cases hread : min (more + 1) (min (min r.missing streamChunkBytes) input.length) = 0
      · rw [if_pos hread]
        exact .inl ⟨_, rfl⟩
      · rw [if_neg hread]
        have hspent := readFrameWire_spent rest
          { r with receiveBuffer := r.receiveBuffer ++
            input.take (min (more + 1) (min (min r.missing streamChunkBytes) input.length)) }
          (input.drop (min (more + 1) (min (min r.missing streamChunkBytes) input.length)))
        exact .inr (.inr (Nat.lt_succ_of_le hspent.arrivals_le))

/-! ## Any number of calls -/

/-- What has become of the stream `whole` when the calls stop. -/
structure Reassembled (whole : Bytes) (s : Serving) : Prop where
  conserved : whole = (s.frames.map framed).flatten ++ (s.receiver.pending ++ s.unread)
  unended : s.ending = none → s.receiver.Unfilled ∧ frames workerFormat whole =
    (s.frames ++ (frames workerFormat (s.receiver.pending ++ s.unread)).1,
      (frames workerFormat (s.receiver.pending ++ s.unread)).2)
  ended : ∀ e, s.ending = some e →
    s.frames = (frames workerFormat whole).1 ∧ e = streamError (frames workerFormat whole).2

theorem Reassembled.cons {unread whole : Bytes} {s : Serving} (h : Reassembled unread s)
    (hwhole : whole = framed wire ++ unread) (hlength : frameLengthAdmitted wire.length = true) :
    Reassembled whole { s with frames := wire :: s.frames } := by
  have hframes := frames_framed hlength unread
  rw [← hwhole] at hframes
  refine ⟨?_, fun hnone => ?_, fun e he => ?_⟩
  · rw [hwhole, List.map_cons, List.flatten_cons, List.append_assoc, ← h.conserved]
  · obtain ⟨hunfilled, hrest⟩ := h.unended hnone
    refine ⟨hunfilled, ?_⟩
    rw [hframes, hrest]
    rfl
  · obtain ⟨hall, hend⟩ := h.ended e he
    rw [hframes]
    exact ⟨congrArg (wire :: ·) hall, hend⟩

theorem serve_reassembled (calls : Nat) : ∀ (arrivals : List Arrival) {r : StreamReceiver} (input : Bytes), r.Unfilled →
    Reassembled (r.pending ++ input) (serve calls arrivals r input) := by
  induction calls with
  | zero =>
    intro arrivals r input hr
    exact ⟨rfl, fun _ => ⟨hr, rfl⟩, fun e he => by cases he⟩
  | succ calls ih =>
    intro arrivals r input hr
    have hreads := readFrameWire_reads arrivals input hr.fits
    unfold serve
    generalize readFrameWire arrivals r input = call at hreads ⊢
    cases hreads with
    | returned hwhole hlength => exact (ih _ _ unfilled_empty).cons hwhole hlength
    | failed hwhole hframes =>
      refine ⟨hwhole, fun hnone => (by cases hnone), fun e he => ?_⟩
      cases he
      rw [hframes]
      exact ⟨rfl, rfl⟩
    | cancelled hwhole hunfilled =>
      rw [hwhole]
      exact ih _ _ hunfilled
    | waiting hwhole hunfilled =>
      rw [hwhole]
      exact ⟨rfl, fun _ => ⟨hunfilled, rfl⟩, fun e he => by cases he⟩

theorem serve_ends (calls : Nat) : ∀ (arrivals : List Arrival) {r : StreamReceiver} (input : Bytes), r.Unfilled →
    arrivals.length < calls → input.length < readies arrivals → (serve calls arrivals r input).ending ≠ none := by
  induction calls with
  | zero =>
    intro arrivals r input _ hcalls
    exact absurd hcalls (Nat.not_lt_zero _)
  | succ calls ih =>
    intro arrivals r input hr hcalls hready
    have hreads := readFrameWire_reads arrivals input hr.fits
    have hspent := readFrameWire_spent arrivals r input
    have hwaits := readFrameWire_waits hr arrivals input
    unfold serve
    generalize readFrameWire arrivals r input = call at hreads hspent hwaits ⊢
    cases hreads with
    | failed hwhole hframes => exact Option.some_ne_none _
    | returned hwhole hlength =>
      have hreads := hspent.reads_le (fun e he => by cases he)
      rcases hwaits with ⟨e, he⟩ | hwaiting | hfewer
      · cases he
      · cases hwaiting
      · dsimp only at hreads hfewer ⊢
        exact ih _ _ unfilled_empty (by omega) (by omega)
    | cancelled hwhole hunfilled =>
      have hreads := hspent.reads_le (fun e he => by cases he)
      rcases hwaits with ⟨e, he⟩ | hwaiting | hfewer
      · cases he
      · cases hwaiting
      · dsimp only at hreads hfewer ⊢
        exact ih _ _ hunfilled (by omega) (by omega)
    | waiting hwhole hunfilled =>
      have hreads := hspent.reads_le (fun e he => by cases he)
      have hnone : readies [] = 0 := rfl
      dsimp only at hreads
      omega

/-- **The frames a transport returns are the frames of the stream**, whatever reads the bytes come in and wherever a
waiting call is given up: at any point the bytes are the frames returned, the part of one frame that is held and the bytes
not read; a frame leaves nothing held behind it; and the calls end in an error exactly where the stream ends. -/
theorem stream_reassembled (stream : Bytes) (arrivals : List Arrival) (calls : Nat) :
    Reassembled stream (serve calls arrivals {} stream) ∧
      (∀ wire, (serve calls arrivals {} stream).ending = none →
        let call := readFrameWire (serve calls arrivals {} stream).arrivals (serve calls arrivals {} stream).receiver
          (serve calls arrivals {} stream).unread
        call.ending = .returned wire → call.receiver = {} ∧
          (serve calls arrivals {} stream).receiver.pending ++ (serve calls arrivals {} stream).unread =
            framed wire ++ call.unread) ∧
      (stream.length < readies arrivals → arrivals.length < calls →
        (serve calls arrivals {} stream).frames = (frames workerFormat stream).1 ∧
          (serve calls arrivals {} stream).ending = some (streamError (frames workerFormat stream).2)) := by
  have hrun : Reassembled stream (serve calls arrivals {} stream) := serve_reassembled calls arrivals stream unfilled_empty
  refine ⟨hrun, fun wire hnone => ?_, fun hready hcalls => ?_⟩
  · intro call hreturned
    have hreads : Reads _ call := readFrameWire_reads _ _ (hrun.unended hnone).1.fits
    generalize call = call at hreads hreturned
    cases hreads with
    | returned hwhole _ =>
      cases hreturned
      exact ⟨rfl, hwhole⟩
    | failed hwhole hframes => cases hreturned
    | cancelled hwhole hunfilled => cases hreturned
    | waiting hwhole hunfilled => cases hreturned
  · have hends := serve_ends calls arrivals stream unfilled_empty hcalls hready
    obtain ⟨e, he⟩ := Option.ne_none_iff_exists'.1 hends
    obtain ⟨hframes, herror⟩ := hrun.ended e he
    exact ⟨hframes, he.trans (congrArg some herror)⟩

theorem stream_reassembled_frame :
    let stream := framed (List.replicate 148 7) ++ [0, 0, 0]
    let arrivals := [.ready 2, .cancelled, .ready 0] ++ List.replicate 160 (.ready 30)
    (serve 164 arrivals {} stream).frames = [List.replicate 148 7] ∧
      (serve 164 arrivals {} stream).ending = some .unexpectedEof := by
  intro stream arrivals
  obtain ⟨hframes, hending⟩ := (stream_reassembled stream arrivals 164).2.2 (by decide +kernel) (by decide +kernel)
  have hstream : frames workerFormat stream = ([List.replicate 148 7], .truncated) := by decide +kernel
  rw [hstream] at hframes hending
  exact ⟨hframes, hending⟩

end Process
end ParaEgox
