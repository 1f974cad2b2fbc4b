import OpcuaStack.ClientTransport
import OpcuaStack.GuardedRun
import OpcuaStack.StreamFraming
import OpcuaStack.TcpConnection

/-!
# The frames of a byte stream

The read loop of the server and `ReadFrame` of the client are loops over one
framing.  What they take out of a stream does not depend on the reads by which it
came, and they take the same, up to the frame at which the server closes the
connection.
-/

namespace OpcuaStack
namespace Binary

variable {ssl : OpenSsl}

/-! ## The framing -/

/-- What the header at the front of a stream says. -/
def frameVerdict (maxFrameSize : ℕ) (bytes : ByteString) : FrameVerdict :=
  if bytes.length < 8 then
    .wait
  else
    match decodeFrameHeader (bytes.take 8) with
    | none => .reject
    | some header =>
        if header.messageSize.toNat > maxFrameSize then .reject
        else if bytes.length < header.messageSize.toNat then .wait
        else .frame header.messageSize.toNat

theorem decodeFrameHeader_size {bytes : ByteString} {header : FrameHeader}
    (h : decodeFrameHeader bytes = some header) :
    8 ≤ header.messageSize.toNat := by
  unfold decodeFrameHeader at h
  split at h
  next => cases h
  next =>
    split at h
    next => cases h
    next =>
      split at h
      next => cases h
      next hsize =>
        cases h
        exact Nat.not_lt.mp hsize

theorem decodeFrameHeader_take {bytes : ByteString} (h : 8 ≤ bytes.length) :
    decodeFrameHeader (bytes.take 8) = decodeFrameHeader bytes := by
  have hlength : (bytes.take 8).length = 8 := by
    rw [List.length_take]
    omega
  have htype : (bytes.take 8).take 3 = bytes.take 3 := by
    rw [List.take_take]
    rfl
  have hchunk : (bytes.take 8).getD 3 0 = bytes.getD 3 0 := by
    simp [List.getD_eq_getElem?_getD]
  have hsize : uint32At (bytes.take 8) 4 = uint32At bytes 4 := by
    unfold uint32At
    rw [List.drop_take, List.take_take]
    rfl
  unfold decodeFrameHeader
  rw [hlength, htype, hchunk, hsize, if_neg (Nat.not_lt.mpr h),
    if_neg (lt_irrefl 8)]

theorem frameVerdict_eq_frame_iff {maxFrameSize size : ℕ} {bytes : ByteString} :
    frameVerdict maxFrameSize bytes = .frame size ↔
      8 ≤ bytes.length ∧ size ≤ maxFrameSize ∧ size ≤ bytes.length ∧
        ∃ header, decodeFrameHeader (bytes.take 8) = some header ∧
          header.messageSize.toNat = size := by
  unfold frameVerdict
  split
  next hshort => simp [hshort]
  next hlong =>
    split
    next hnone => simp [hnone]
    next header hsome =>
      simp only [hsome, Option.some.injEq, exists_eq_left']
      split
      next hlarge =>
        simp only [reduceCtorEq, false_iff]
        rintro ⟨_, hmax, _, rfl⟩
        omega
      next hfits =>
        split
        next hmore =>
          simp only [reduceCtorEq, false_iff]
          rintro ⟨_, _, hall, rfl⟩
          omega
        next hall =>
          rw [FrameVerdict.frame.injEq]
          constructor
          · rintro rfl
            exact ⟨Nat.not_lt.mp hlong, Nat.not_lt.mp hfits, Nat.not_lt.mp hall,
              rfl⟩
          · rintro ⟨_, _, _, hsize⟩
            exact hsize

theorem frameVerdict_eq_reject_iff {maxFrameSize : ℕ} {bytes : ByteString} :
    frameVerdict maxFrameSize bytes = .reject ↔
      8 ≤ bytes.length ∧ ∀ header,
        decodeFrameHeader (bytes.take 8) = some header →
          maxFrameSize < header.messageSize.toNat := by
  unfold frameVerdict
  split
  next hshort => simp [hshort]
  next hlong =>
    split
    next hnone => simp [hnone, Nat.not_lt.mp hlong]
    next header hsome =>
      simp only [hsome, Option.some.injEq, forall_eq']
      split
      next hlarge => simp [hlarge, Nat.not_lt.mp hlong]
      next hfits => split <;> simp [hfits]

/-- The framing of UA TCP with a bound on the size of a frame. -/
def uaTcpFraming (maxFrameSize : ℕ) : Framing UInt8 where
  verdict := frameVerdict maxFrameSize
  verdict_nil := rfl
  frame_pos := by
    intro items size h
    obtain ⟨_, _, _, header, hheader, rfl⟩ := frameVerdict_eq_frame_iff.mp h
    exact Nat.lt_of_lt_of_le (by decide) (decodeFrameHeader_size hheader)
  frame_le := by
    intro items size h
    exact (frameVerdict_eq_frame_iff.mp h).2.2.1
  frame_append := by
    intro items size more h
    obtain ⟨hlong, hmax, hall, hheader⟩ := frameVerdict_eq_frame_iff.mp h
    rw [frameVerdict_eq_frame_iff, List.length_append,
      List.take_append_of_le_length hlong]
    exact ⟨Nat.le_add_right_of_le hlong, hmax, Nat.le_add_right_of_le hall,
      hheader⟩
  frame_take := by
    intro items size h
    obtain ⟨hlong, hmax, hall, header, hheader, rfl⟩ :=
      frameVerdict_eq_frame_iff.mp h
    have hsize := decodeFrameHeader_size hheader
    rw [frameVerdict_eq_frame_iff, List.length_take, List.take_take,
      Nat.min_eq_left hsize, Nat.min_eq_left hall]
    exact ⟨hsize, hmax, le_rfl, header, hheader, rfl⟩
  reject_append := by
    intro items more h
    obtain ⟨hlong, hlarge⟩ := frameVerdict_eq_reject_iff.mp h
    rw [frameVerdict_eq_reject_iff, List.length_append,
      List.take_append_of_le_length hlong]
    exact ⟨Nat.le_add_right_of_le hlong, hlarge⟩

theorem frameVerdict_frame {maxFrameSize : ℕ} {frame : ByteString}
    (h : frameVerdict maxFrameSize frame = .frame frame.length) :
    ∃ header, decodeFrameHeader frame = some header ∧
      header.messageSize.toNat = frame.length := by
  obtain ⟨hlong, _, _, header, hheader, hsize⟩ := frameVerdict_eq_frame_iff.mp h
  rw [decodeFrameHeader_take hlong] at hheader
  exact ⟨header, hheader, hsize⟩

/-! ## The server -/

namespace TcpConnection

/-- The handling of a frame keeps the bound and the record of the frames. -/
structure SameFrames (c next : TcpConnection ssl) : Prop where
  maxFrameSize : next.maxFrameSize = c.maxFrameSize
  frames : next.frames = c.frames

theorem processSecureMessageChunk_sameFrames (c : TcpConnection ssl)
    (chunkType : UInt8) (payload : ByteString) (requestId : UInt32) :
    c.SameFrames
      (c.processSecureMessageChunk chunkType payload requestId).1 := by
  unfold processSecureMessageChunk
  split
  next => exact ⟨rfl, rfl⟩
  next =>
    split
    next => exact ⟨rfl, rfl⟩
    next =>
      split
      next => exact ⟨rfl, rfl⟩
      next =>
        split
        next => exact ⟨rfl, rfl⟩
        next =>
          simp only
          split <;> exact ⟨rfl, rfl⟩

theorem writeOutbound_sameFrames (c : TcpConnection ssl)
    (frame : Option ByteString) : c.SameFrames (c.writeOutbound frame) := by
  unfold writeOutbound
  split
  next => exact ⟨rfl, rfl⟩
  next => split <;> exact ⟨rfl, rfl⟩

theorem processSecureFrame_sameFrames (c : TcpConnection ssl)
    (around : Surroundings) (chunkType : UInt8) (frame : ByteString) :
    c.SameFrames (c.processSecureFrame around chunkType frame).1 := by
  unfold processSecureFrame
  split
  next =>
    have hwrite := writeOutbound_sameFrames
      { c with secureChannel := (c.secureChannel.handleFrame around frame).1 }
      (c.secureChannel.handleFrame around frame).2.outboundFrame
    simp only
    split
    next => exact ⟨hwrite.maxFrameSize, hwrite.frames⟩
    next =>
      split
      next payload requestId _ _ =>
        have hchunk := processSecureMessageChunk_sameFrames
          ({ c with
              secureChannel := (c.secureChannel.handleFrame around frame).1
            }.writeOutbound
              (c.secureChannel.handleFrame around frame).2.outboundFrame)
          chunkType payload requestId
        exact ⟨hchunk.maxFrameSize.trans hwrite.maxFrameSize,
          hchunk.frames.trans hwrite.frames⟩
      next => exact ⟨hwrite.maxFrameSize, hwrite.frames⟩
  next => exact ⟨rfl, rfl⟩

theorem processHello_sameFrames (c : TcpConnection ssl) (frame : ByteString) :
    c.SameFrames (c.processHello frame).1 := by
  unfold processHello
  split
  next => exact ⟨rfl, rfl⟩
  next =>
    split
    next => exact ⟨rfl, rfl⟩
    next => split <;> exact ⟨rfl, rfl⟩

theorem processFrame_sameFrames (c : TcpConnection ssl) (around : Surroundings)
    (frame : ByteString) : c.SameFrames (c.processFrame around frame).1 := by
  unfold processFrame
  split
  next => exact ⟨rfl, rfl⟩
  next header _ =>
    split
    next => exact processHello_sameFrames c frame
    next => exact processSecureFrame_sameFrames c around header.chunkType frame
    next => exact processSecureFrame_sameFrames c around header.chunkType frame
    next => exact processSecureFrame_sameFrames c around header.chunkType frame
    next => exact ⟨rfl, rfl⟩
    next => exact ⟨rfl, rfl⟩
    next => exact ⟨rfl, rfl⟩

theorem handleNext_maxFrameSize (around : ℕ → Surroundings)
    (c : TcpConnection ssl) (frame : ByteString) :
    (c.handleNext around frame).1.maxFrameSize = c.maxFrameSize :=
  (processFrame_sameFrames _ _ frame).maxFrameSize

theorem handleNext_frames (around : ℕ → Surroundings) (c : TcpConnection ssl)
    (frame : ByteString) :
    (c.handleNext around frame).1.frames = c.frames ++ [frame] :=
  (processFrame_sameFrames _ _ frame).frames

/-- The connection after the header at the front of the bytes was rejected. -/
def rejectHeader (c : TcpConnection ssl) (pendingBytes : ByteString) :
    TcpConnection ssl :=
  match decodeFrameHeader (pendingBytes.take 8) with
  | none =>
      (c.writeErrorAndClose (.ofCode .bad) "Invalid UA TCP frame header").1
  | some _ => (c.writeErrorAndClose (.ofCode .bad) "UA TCP frame too large").1

/-- What the read loop has when the loop over the frames stops. -/
def afterStop (c : TcpConnection ssl) (pendingBytes : ByteString) :
    FrameStop → TcpConnection ssl
  | .rejected => c.rejectHeader pendingBytes
  | .waiting => c
  | .closed => c

theorem processFrames_eq (around : ℕ → Surroundings) {maxFrameSize : ℕ}
    (rounds : ℕ) {c : TcpConnection ssl} (hmax : c.maxFrameSize = maxFrameSize)
    (pendingBytes : ByteString) :
    processFrames around rounds c pendingBytes =
      let drained := (uaTcpFraming maxFrameSize).drain (handleNext around) rounds
        c pendingBytes
      (drained.1.afterStop drained.2.1 drained.2.2, drained.2.1,
        drained.2.2 == .waiting) := by
  induction rounds generalizing c pendingBytes with
  | zero => rfl
  | succ rounds ih =>
      unfold processFrames
      split
      next hshort =>
        have hverdict : frameVerdict maxFrameSize pendingBytes = .wait :=
          if_pos hshort
        rw [Framing.drain_of_wait rounds hverdict]
        rfl
      next hlong =>
        split
        next hheader =>
          have hverdict : frameVerdict maxFrameSize pendingBytes = .reject := by
            simp only [frameVerdict, if_neg hlong, hheader]
          rw [Framing.drain_of_reject rounds hverdict]
          simp only [afterStop, rejectHeader, hheader]
          rfl
        next header hheader =>
          rw [hmax]
          split
          next hlarge =>
            have hverdict : frameVerdict maxFrameSize pendingBytes = .reject := by
              simp only [frameVerdict, if_neg hlong, hheader, if_pos hlarge]
            rw [Framing.drain_of_reject rounds hverdict]
            simp only [afterStop, rejectHeader, hheader]
            rfl
          next hfits =>
            split
            next hmore =>
              have hverdict : frameVerdict maxFrameSize pendingBytes = .wait := by
                simp only [frameVerdict, if_neg hlong, hheader, if_neg hfits,
                  if_pos hmore]
              rw [Framing.drain_of_wait rounds hverdict]
              rfl
            next hall =>
              have hverdict : frameVerdict maxFrameSize pendingBytes =
                  .frame header.messageSize.toNat := by
                simp only [frameVerdict, if_neg hlong, hheader, if_neg hfits,
                  if_neg hall]
              have hnext := handleNext_maxFrameSize around c
                (pendingBytes.take header.messageSize.toNat)
              rw [Framing.drain_of_frame rounds hverdict]
              simp only
              generalize c.handleNext around
                (pendingBytes.take header.messageSize.toNat) = handled at hnext
              obtain ⟨next, goesOn⟩ := handled
              cases goesOn with
              | true => exact ih (hnext.trans hmax) _
              | false => rfl

end TcpConnection

namespace TcpRun

/-- The run of a connection, seen as a loop over its framing. -/
structure Shows (maxFrameSize : ℕ)
    (g : Framing.Reading (TcpConnection ssl) UInt8) (r : TcpRun ssl) : Prop where
  connection : r.connection = g.state.afterStop g.pending g.stop
  pendingBytes : r.pendingBytes = g.pending
  reading : r.reading = (g.stop == .waiting)
  bound : g.state.maxFrameSize = maxFrameSize
  rejected : g.stop = .rejected →
    frameVerdict maxFrameSize g.pending = .reject

theorem Shows.read {maxFrameSize : ℕ}
    {g : Framing.Reading (TcpConnection ssl) UInt8} {r : TcpRun ssl}
    (h : r.Shows maxFrameSize g) (around : ℕ → Surroundings)
    {bytes : ByteString} (hbytes : bytes ≠ []) :
    (r.read around bytes).Shows maxFrameSize
      ((uaTcpFraming maxFrameSize).feed (TcpConnection.handleNext around) g
        bytes) := by
  have hnonempty : bytes.isEmpty = false := by
    cases bytes with
    | nil => exact absurd rfl hbytes
    | cons _ _ => rfl
  unfold TcpRun.read Framing.feed
  by_cases hwaiting : g.stop = .waiting
  · have hconnection : r.connection = g.state := by
      rw [h.connection, hwaiting]
      rfl
    have hreading : r.reading = true := by
      rw [h.reading, hwaiting]
      rfl
    rw [if_pos hwaiting, if_pos hreading, if_neg (by simp [hnonempty])]
    unfold TcpConnection.processBufferedFrames
    rw [hconnection, h.pendingBytes,
      TcpConnection.processFrames_eq around _ h.bound]
    refine ⟨rfl, rfl, rfl, ?_, ?_⟩
    · exact Framing.drain_invariant (fun c frame hc =>
        (TcpConnection.handleNext_maxFrameSize around c frame).trans hc)
        h.bound _ _
    · intro hrejected
      have hdrained := @Framing.drain_drains _ _
        (uaTcpFraming maxFrameSize) (TcpConnection.handleNext around) _ g.state _
        (le_refl (g.pending ++ bytes).length)
      simp only at hrejected
      rw [hrejected] at hdrained
      exact hdrained.rejected
  · have hstopped : r.reading = false := by
      rw [h.reading]
      simpa using hwaiting
    rw [if_neg hwaiting, if_neg (by simp [hstopped])]
    exact h

theorem runFrom_shows (around : ℕ → Surroundings) {maxFrameSize : ℕ}
    {reads : List ByteString} (hreads : ∀ read ∈ reads, read ≠ [])
    {g : Framing.Reading (TcpConnection ssl) UInt8} {r : TcpRun ssl}
    (h : r.Shows maxFrameSize g) :
    (runFrom (TcpRun.read around) r reads).Shows maxFrameSize
      (reads.foldl
        ((uaTcpFraming maxFrameSize).feed (TcpConnection.handleNext around)) g) := by
  induction reads generalizing g r with
  | nil => exact h
  | cons bytes rest ih =>
      apply ih (fun read hmem => hreads read (List.mem_cons_of_mem _ hmem))
      exact h.read around (hreads bytes List.mem_cons_self)

end TcpRun

/-! ## The client -/

namespace ClientTransport

theorem takeFrame_of_wait {t : ClientTransport}
    (h : frameVerdict t.maxFrameSize t.pendingBytes = .wait) :
    t.takeFrame = (.waiting, t) := by
  unfold frameVerdict at h
  unfold takeFrame
  split at h
  next hshort => rw [if_neg (Nat.not_le.mpr hshort)]
  next hlong =>
    rw [if_pos (Nat.not_lt.mp hlong)]
    cases hheader : decodeFrameHeader (t.pendingBytes.take 8) with
    | none =>
        simp only [hheader] at h
        cases h
    | some header =>
        have hsize := decodeFrameHeader_size hheader
        simp only [hheader] at h
        split at h
        next => cases h
        next hfits =>
          split at h
          next hmore =>
            dsimp only
            rw [if_neg (by omega), if_neg (Nat.not_le.mpr hmore)]
          next => cases h

theorem takeFrame_of_reject {t : ClientTransport}
    (h : frameVerdict t.maxFrameSize t.pendingBytes = .reject) :
    t.takeFrame = (.failed (.ofCode .bad), t) := by
  obtain ⟨hlong, hlarge⟩ := frameVerdict_eq_reject_iff.mp h
  unfold takeFrame
  rw [if_pos hlong]
  cases hheader : decodeFrameHeader (t.pendingBytes.take 8) with
  | none => rfl
  | some header => exact if_pos (.inr (hlarge header hheader))

theorem takeFrame_of_frame {t : ClientTransport} {size : ℕ}
    (h : frameVerdict t.maxFrameSize t.pendingBytes = .frame size) :
    t.takeFrame =
      (.frame (t.pendingBytes.take size),
        { t with pendingBytes := t.pendingBytes.drop size }) := by
  obtain ⟨hlong, hmax, hall, header, hheader, rfl⟩ :=
    frameVerdict_eq_frame_iff.mp h
  have hsize := decodeFrameHeader_size hheader
  unfold takeFrame
  rw [if_pos hlong, hheader]
  simp only
  rw [if_neg (by omega), if_pos hall]

/-- What a call of `ReadFrame` comes to, by what the whole stream says. -/
def Answers (t : ClientTransport) (stream : ByteString) :
    FrameRead × ClientTransport × List ByteString → Prop
  | (result, next, left) =>
      next.maxFrameSize = t.maxFrameSize ∧ (∀ read ∈ left, read ≠ []) ∧
        match frameVerdict t.maxFrameSize stream with
        | .wait =>
            result = .waiting ∧ next.pendingBytes ++ left.flatten = stream ∧
              left = []
        | .reject =>
            result = .failed (.ofCode .bad) ∧
              next.pendingBytes ++ left.flatten = stream
        | .frame size =>
            result = .frame (stream.take size) ∧
              next.pendingBytes ++ left.flatten = stream.drop size

theorem readFrame_answers (t : ClientTransport) {reads : List ByteString}
    (hreads : ∀ read ∈ reads, read ≠ []) :
    t.Answers (t.pendingBytes ++ reads.flatten) (t.readFrame reads) := by
  induction reads generalizing t with
  | nil =>
      rw [List.flatten_nil, List.append_nil]
      unfold readFrame
      cases hverdict : frameVerdict t.maxFrameSize t.pendingBytes with
      | wait =>
          rw [takeFrame_of_wait hverdict]
          refine ⟨rfl, hreads, ?_⟩
          rw [hverdict]
          exact ⟨rfl, List.append_nil _, rfl⟩
      | reject =>
          rw [takeFrame_of_reject hverdict]
          refine ⟨rfl, hreads, ?_⟩
          rw [hverdict]
          exact ⟨rfl, List.append_nil _⟩
      | frame size =>
          rw [takeFrame_of_frame hverdict]
          refine ⟨rfl, hreads, ?_⟩
          rw [hverdict]
          exact ⟨rfl, List.append_nil _⟩
  | cons bytes rest ih =>
      unfold readFrame
      cases hverdict : frameVerdict t.maxFrameSize t.pendingBytes with
      | wait =>
          have hnonempty : bytes.isEmpty = false := by
            cases bytes with
            | nil => exact absurd rfl (hreads [] List.mem_cons_self)
            | cons _ _ => rfl
          have hnext := ih { t with pendingBytes := t.pendingBytes ++ bytes }
            (fun read hmem => hreads read (List.mem_cons_of_mem _ hmem))
          rw [takeFrame_of_wait hverdict, List.flatten_cons, ← List.append_assoc]
          simp only [hnonempty, Bool.false_eq_true, if_false]
          exact hnext
      | reject =>
          have hstream := (uaTcpFraming t.maxFrameSize).reject_append
            (bytes :: rest).flatten hverdict
          rw [takeFrame_of_reject hverdict]
          refine ⟨rfl, hreads, ?_⟩
          rw [show frameVerdict t.maxFrameSize _ = _ from hstream]
          exact ⟨rfl, rfl⟩
      | frame size =>
          have hstream := (uaTcpFraming t.maxFrameSize).frame_append
            (bytes :: rest).flatten hverdict
          have hle := (uaTcpFraming t.maxFrameSize).frame_le hverdict
          rw [takeFrame_of_frame hverdict]
          refine ⟨rfl, hreads, ?_⟩
          rw [show frameVerdict t.maxFrameSize _ = _ from hstream]
          simp only
          rw [List.take_append_of_le_length hle,
            List.drop_append_of_le_length hle]
          exact ⟨rfl, rfl⟩

/-- The result of the last call, by why a loop over the frames would stop. -/
def lastRead (stop : FrameStop) : FrameRead :=
  if stop = .waiting then .waiting else .failed (.ofCode .bad)

/-- Calls of `ReadFrame`, as many as it takes, return the frames of the stream
and leave the rest of it. -/
theorem readFrames_cuts {calls : ℕ} (t : ClientTransport)
    {reads : List ByteString} (hreads : ∀ read ∈ reads, read ≠ [])
    (hcalls : (t.pendingBytes ++ reads.flatten).length < calls) :
    ∃ frames stop next left,
      t.readFrames calls reads = (frames, lastRead stop, next, left) ∧
        (uaTcpFraming t.maxFrameSize).Cuts (t.pendingBytes ++ reads.flatten)
          frames (next.pendingBytes ++ left.flatten) stop ∧
        stop ≠ .closed := by
  induction calls generalizing t reads with
  | zero => cases hcalls
  | succ calls ih =>
      have hanswer := t.readFrame_answers hreads
      unfold readFrames
      generalize t.readFrame reads = answer at hanswer
      obtain ⟨result, next, left⟩ := answer
      obtain ⟨hmax, hleft, hresult⟩ := hanswer
      cases hverdict : frameVerdict t.maxFrameSize
          (t.pendingBytes ++ reads.flatten) with
      | wait =>
          rw [hverdict] at hresult
          obtain ⟨rfl, hrest, _⟩ := hresult
          refine ⟨[], .waiting, next, left, rfl, ?_, by decide⟩
          rw [hrest]
          exact .wait hverdict
      | reject =>
          rw [hverdict] at hresult
          obtain ⟨rfl, hrest⟩ := hresult
          refine ⟨[], .rejected, next, left, rfl, ?_, by decide⟩
          rw [hrest]
          exact .reject hverdict
      | frame size =>
          rw [hverdict] at hresult
          obtain ⟨rfl, hrest⟩ := hresult
          have hpos := (uaTcpFraming t.maxFrameSize).frame_pos hverdict
          have hle := (uaTcpFraming t.maxFrameSize).frame_le hverdict
          have hfewer : (next.pendingBytes ++ left.flatten).length < calls := by
            rw [hrest, List.length_drop]
            omega
          obtain ⟨frames, stop, last, unread, hframes, hcuts, hopen⟩ :=
            ih next hleft hfewer
          rw [hmax, hrest] at hcuts
          simp only [hframes]
          refine ⟨_, stop, last, unread, rfl, ?_, hopen⟩
          exact .frame hverdict rfl (hcuts.collect_append
            [(t.pendingBytes ++ reads.flatten).take size])

end ClientTransport

/-! ## Both ends -/

/-- A server which has accepted a connection and has read so much of it. -/
def serve (limits : TransportLimits) (maxFrameSize : ℕ)
    (secureChannel : SecureChannel ssl) (around : ℕ → Surroundings)
    (reads : List ByteString) : TcpRun ssl :=
  runFrom (TcpRun.read around)
    { connection := .accepted limits maxFrameSize secureChannel } reads

/-- A client which calls `ReadFrame` until it waits or fails. -/
def fetch (maxFrameSize : ℕ) (reads : List ByteString) :
    List ByteString × FrameRead × ClientTransport × List ByteString :=
  ({ maxFrameSize } : ClientTransport).readFrames (reads.flatten.length + 1) reads

/-- Where the read loop of the server is in the frames of a stream. -/
structure ServesFrames (around : ℕ → Surroundings) (stream : ByteString)
    (server : TcpRun ssl) (frames : List ByteString) (stop : FrameStop)
    (rest : ByteString) : Prop where
  split : server.connection.frames.flatten ++ server.pendingBytes <+: stream
  agree :
    -- The server has all the frames of the stream, and stops where they end,
    (server.connection.frames = frames ∧
        server.reading = (stop == .waiting) ∧
        (server.reading = true → server.pendingBytes = rest)) ∨
      -- or it has closed the connection at one of them.
      (server.connection.frames <+: frames ∧ server.reading = false ∧
        ∃ before frame,
          TcpConnection.handleNext around before frame =
            (server.connection, false))

theorem rejectHeader_append (c : TcpConnection ssl) {bytes : ByteString}
    (h : 8 ≤ bytes.length) (more : ByteString) :
    c.rejectHeader (bytes ++ more) = c.rejectHeader bytes := by
  unfold TcpConnection.rejectHeader
  rw [List.take_append_of_le_length h]

theorem serve_shows (limits : TransportLimits) (maxFrameSize : ℕ)
    (secureChannel : SecureChannel ssl) (around : ℕ → Surroundings)
    {reads : List ByteString} (hreads : ∀ read ∈ reads, read ≠ []) :
    ∃ g : Framing.Reading (TcpConnection ssl) UInt8,
      (serve limits maxFrameSize secureChannel around reads).Shows maxFrameSize
          g ∧
        g.Follows (uaTcpFraming maxFrameSize) (TcpConnection.handleNext around)
          (.accepted limits maxFrameSize secureChannel) reads.flatten := by
  let start : TcpConnection ssl :=
    .accepted limits maxFrameSize secureChannel
  have hstart : ({ connection := start } : TcpRun ssl).Shows maxFrameSize
      ⟨start, [], .waiting⟩ :=
    ⟨rfl, rfl, rfl, rfl, fun hstop => by cases hstop⟩
  have hwaits : Framing.Reading.Follows (uaTcpFraming maxFrameSize)
      (TcpConnection.handleNext around) start [] ⟨start, [], .waiting⟩ :=
    Framing.Drains.wait rfl
  exact ⟨_, TcpRun.runFrom_shows around hreads hstart,
    Framing.foldl_feed_follows hwaits reads⟩

theorem fetch_cuts (maxFrameSize : ℕ) {reads : List ByteString}
    (hreads : ∀ read ∈ reads, read ≠ []) :
    ∃ frames stop next left,
      fetch maxFrameSize reads =
          (frames, ClientTransport.lastRead stop, next, left) ∧
        (uaTcpFraming maxFrameSize).Cuts reads.flatten frames
          (next.pendingBytes ++ left.flatten) stop ∧
        stop ≠ .closed :=
  ClientTransport.readFrames_cuts ({ maxFrameSize } : ClientTransport) hreads
    (Nat.lt_succ_self _)

/-- What the server has done does not depend on the reads. -/
theorem serve_eq (limits : TransportLimits) (maxFrameSize : ℕ)
    (secureChannel : SecureChannel ssl) (around : ℕ → Surroundings)
    {reads others : List ByteString} (hreads : ∀ read ∈ reads, read ≠ [])
    (hothers : ∀ read ∈ others, read ≠ [])
    (hsame : others.flatten = reads.flatten) :
    let server := serve limits maxFrameSize secureChannel around reads
    let other := serve limits maxFrameSize secureChannel around others
    other.connection = server.connection ∧ other.reading = server.reading ∧
      (server.reading = true → other.pendingBytes = server.pendingBytes) := by
  obtain ⟨g, hshows, hfollows⟩ := serve_shows limits maxFrameSize secureChannel
    around hreads
  obtain ⟨k, hother, halso⟩ := serve_shows limits maxFrameSize secureChannel
    around hothers
  rw [hsame] at halso
  unfold Framing.Reading.Follows at hfollows halso
  by_cases hg : g.stop = .waiting <;> by_cases hk : k.stop = .waiting
  · rw [if_pos hg] at hfollows
    rw [if_pos hk] at halso
    obtain ⟨hstate, hrest, _⟩ := hfollows.unique halso
    refine ⟨?_, ?_, fun _ => ?_⟩
    · rw [hother.connection, hshows.connection, hg, hk, hstate]
      rfl
    · rw [hother.reading, hshows.reading, hg, hk]
    · rw [hother.pendingBytes, hshows.pendingBytes, hrest]
  · rw [if_pos hg] at hfollows
    rw [if_neg hk] at halso
    obtain ⟨unread, hstopped⟩ := halso
    exact absurd (hfollows.unique hstopped).2.2 hk
  · rw [if_neg hg] at hfollows
    rw [if_pos hk] at halso
    obtain ⟨unread, hstopped⟩ := hfollows
    exact absurd (halso.unique hstopped).2.2 hg
  · rw [if_neg hg] at hfollows
    rw [if_neg hk] at halso
    obtain ⟨unread, hstopped⟩ := hfollows
    obtain ⟨unseen, hended⟩ := halso
    obtain ⟨hstate, hrest, hstop⟩ := hstopped.unique hended
    refine ⟨?_, ?_, fun hreading => ?_⟩
    · rw [hother.connection, hshows.connection, hstate, hstop]
      cases hkind : g.stop with
      | waiting => exact absurd hkind hg
      | closed => rfl
      | rejected =>
          -- Both hold the eight bytes of the header which was rejected.
          have hlong := (frameVerdict_eq_reject_iff.mp (hshows.rejected hkind)).1
          have halong := (frameVerdict_eq_reject_iff.mp
            (hother.rejected (hstop.trans hkind))).1
          simp only [TcpConnection.afterStop]
          rw [← rejectHeader_append g.state halong unseen, hrest,
            rejectHeader_append g.state hlong unread]
    · rw [hother.reading, hshows.reading, hstop]
    · rw [hshows.reading] at hreading
      exact absurd (by simpa using hreading) hg

theorem serve_agrees (limits : TransportLimits) (maxFrameSize : ℕ)
    (secureChannel : SecureChannel ssl) (around : ℕ → Surroundings)
    {reads : List ByteString} (hreads : ∀ read ∈ reads, read ≠ [])
    {frames : List ByteString} {rest : ByteString} {stop : FrameStop}
    (hcuts : (uaTcpFraming maxFrameSize).Cuts reads.flatten frames rest stop) :
    ServesFrames around reads.flatten
      (serve limits maxFrameSize secureChannel around reads) frames stop
      rest := by
  obtain ⟨g, hshows, hfollows⟩ := serve_shows limits maxFrameSize secureChannel
    around hreads
  have hframes : (serve limits maxFrameSize secureChannel around
      reads).connection.frames = g.state.frames := by
    rw [hshows.connection]
    cases g.stop with
    | waiting => rfl
    | closed => rfl
    | rejected =>
        simp only [TcpConnection.afterStop, TcpConnection.rejectHeader]
        split <;> rfl
  have hlog := @TcpConnection.handleNext_frames ssl around
  unfold Framing.Reading.Follows at hfollows
  by_cases hwaiting : g.stop = .waiting
  · rw [if_pos hwaiting] at hfollows
    have hlogged := hfollows.logged hlog
    rw [if_neg (by decide)] at hlogged
    obtain ⟨rfl, rfl, rfl⟩ := hcuts.unique hlogged
    refine ⟨?_, .inl ⟨hframes, ?_, fun _ => hshows.pendingBytes⟩⟩
    · rw [hframes, hshows.pendingBytes, hfollows.flatten_append hlog]
      exact List.prefix_rfl
    · rw [hshows.reading, hwaiting]
  · rw [if_neg hwaiting] at hfollows
    obtain ⟨unread, hstopped⟩ := hfollows
    have hreading : (serve limits maxFrameSize secureChannel around
        reads).reading = false := by
      rw [hshows.reading]
      simpa using hwaiting
    have hsplit : (serve limits maxFrameSize secureChannel around
          reads).connection.frames.flatten ++
        (serve limits maxFrameSize secureChannel around reads).pendingBytes <+:
          reads.flatten := by
      have hflat := hstopped.flatten_append hlog
      rw [← List.append_assoc, ← hframes, ← hshows.pendingBytes] at hflat
      exact ⟨unread, hflat⟩
    have hlogged := hstopped.logged hlog
    refine ⟨hsplit, ?_⟩
    split at hlogged
    next hclosed =>
      obtain ⟨more, leftover, reason, hall⟩ := hlogged
      obtain ⟨rfl, _, _⟩ := hcuts.unique hall
      rw [hclosed] at hstopped
      obtain ⟨before, frame, hhandle⟩ := hstopped.closed_by
      refine .inr ⟨?_, hreading, before, frame, ?_⟩
      · rw [hframes]
        exact List.prefix_append _ more
      · rw [hhandle, hshows.connection, hclosed]
        rfl
    next =>
      obtain ⟨rfl, _, rfl⟩ := hcuts.unique hlogged
      refine .inl ⟨hframes, hshows.reading, fun hreads => ?_⟩
      rw [hreading] at hreads
      cases hreads

/-- However a stream is cut into reads, the server does the same with it, and
reads on or stops at the same place; the client takes the same frames, each of
the size its header says, and leaves the same rest; and the frames of the server
are those of the client, up to the one at which it closes the connection. -/
theorem frames_independent_of_reads (limits : TransportLimits)
    (maxFrameSize : ℕ) (secureChannel : SecureChannel ssl)
    (around : ℕ → Surroundings) (reads others : List ByteString)
    (hreads : ∀ read ∈ reads, read ≠ []) (hothers : ∀ read ∈ others, read ≠ [])
    (hsame : others.flatten = reads.flatten) :
    (let server := serve limits maxFrameSize secureChannel around reads
      let other := serve limits maxFrameSize secureChannel around others
      other.connection = server.connection ∧ other.reading = server.reading ∧
        (server.reading = true → other.pendingBytes = server.pendingBytes)) ∧
    ∃ frames stop next left late unread,
      fetch maxFrameSize reads =
          (frames, ClientTransport.lastRead stop, next, left) ∧
        fetch maxFrameSize others =
          (frames, ClientTransport.lastRead stop, late, unread) ∧
        late.pendingBytes ++ unread.flatten =
          next.pendingBytes ++ left.flatten ∧
        frames.flatten ++ (next.pendingBytes ++ left.flatten) = reads.flatten ∧
        (∀ frame ∈ frames, ∃ header, decodeFrameHeader frame = some header ∧
          header.messageSize.toNat = frame.length) ∧
        ServesFrames around reads.flatten
          (serve limits maxFrameSize secureChannel around reads) frames stop
          (next.pendingBytes ++ left.flatten) := by
  obtain ⟨frames, stop, next, left, hfetch, hcuts, _⟩ :=
    fetch_cuts maxFrameSize hreads
  obtain ⟨taken, reason, late, unread, hlate, halso, _⟩ :=
    fetch_cuts maxFrameSize hothers
  rw [hsame] at halso
  obtain ⟨rfl, hrest, rfl⟩ := hcuts.unique halso
  refine ⟨serve_eq limits maxFrameSize secureChannel around hreads hothers hsame,
    taken, reason, next, left, late, unread, hfetch, hlate, hrest, ?_, ?_, ?_⟩
  · exact @Framing.Drains.flatten_append _ _ _ _ id (fun _ _ => rfl) _ _ _ _ _ hcuts
  · intro frame hmem
    have hverdict := hcuts.verdict_frame (by simp) frame hmem
    exact frameVerdict_frame hverdict
  · exact serve_agrees limits maxFrameSize secureChannel around hreads hcuts

/-- Two acknowledgements, which no client sends to a server. -/
def twoAcknowledgements : List ByteString :=
  [encodeAcknowledgeMessage {}, encodeAcknowledgeMessage {}]

/-- The server closes at the first of them, and the client takes both. -/
theorem closed_server_takes_fewer :
    (serve {} 8192 ({} : SecureChannel sampleSsl) (fun _ => {})
        [twoAcknowledgements.flatten]).connection.frames =
        [encodeAcknowledgeMessage {}] ∧
      (fetch 8192 [twoAcknowledgements.flatten]).1 = twoAcknowledgements ∧
      (serve {} 8192 ({} : SecureChannel sampleSsl) (fun _ => {})
          [twoAcknowledgements.flatten]).connection.frames ≠
        (fetch 8192 [twoAcknowledgements.flatten]).1 := by
  decide

def smallHello : ByteString :=
  encodeHelloMessage { receiveBufferSize := 8192, sendBufferSize := 8192 }

/-- A Hello and the start of an OPN frame, in reads which end inside the header
and behind the Hello. -/
def helloInPieces : List ByteString :=
  [smallHello.take 7, (smallHello.take 9).drop 7, smallHello.drop 9,
    [0x4f, 0x50, 0x4e]]

theorem hello_independent_of_reads :
    (serve {} 8192 ({} : SecureChannel sampleSsl) (fun _ => {})
        helloInPieces).connection =
      (serve {} 8192 ({} : SecureChannel sampleSsl) (fun _ => {})
        [helloInPieces.flatten]).connection ∧
      (fetch 8192 helloInPieces).1 = [smallHello] := by
  have hsame := frames_independent_of_reads {} 8192
    ({} : SecureChannel sampleSsl) (fun _ => {}) [helloInPieces.flatten]
    helloInPieces (by decide) (by decide) (by decide)
  exact ⟨hsame.1.1, by decide⟩

end Binary
end OpcuaStack
