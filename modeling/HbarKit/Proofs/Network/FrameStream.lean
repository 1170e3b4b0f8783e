import HbarKit.Network.Frame
import HbarKit.Proofs.Bytes.Numbers

/-!
# Streams of frames

What is written as frames in a row is read as the same payloads, and what stands behind them is left
alone. A stream that ends within a frame gives the frames before it and no part of that frame. Over
the limit nothing is written, and of what is read nothing but the header is taken.
-/
namespace HbarKit.Frame

/-- The payload is within the limit. -/
def Fits (payload : Bytes) : Prop := payload.length ≤ maxBytes

/-- Frames in a row. -/
def stream (payloads : List Bytes) : Bytes := payloads.flatMap ofPayload

/-- Writes the frames of payloads in order, up to the first that fails. -/
def writeMany : List Bytes → Sink → Except TransportError Unit × Sink
  | [], s => (.ok (), s)
  | payload :: payloads, s =>
    match write payload s with
    | (.error e, s) => (.error e, s)
    | (.ok (), s) => writeMany payloads s

/-- What so many readings in a row give, whether they fail or not, and what is left unread. -/
def readMany (ending : StreamFault) : (count : Nat) → Bytes →
    List (Except TransportError Bytes) × Bytes
  | 0, rest => ([], rest)
  | count + 1, rest =>
    let (result, rest) := read ending rest
    let (results, rest) := readMany ending count rest
    (result :: results, rest)

@[simp] theorem stream_nil : stream [] = [] := rfl

@[simp] theorem stream_cons (payload : Bytes) (payloads : List Bytes) :
    stream (payload :: payloads) = ofPayload payload ++ stream payloads := rfl

@[simp] theorem stream_append (before after : List Bytes) :
    stream (before ++ after) = stream before ++ stream after := by
  simp [stream]

@[simp] theorem length_ofPayload (payload : Bytes) :
    (ofPayload payload).length = headerBytes + payload.length := by
  simp [ofPayload]

/-! ## Writing -/

namespace Sink

/-- Whatever room there is suffices for so many bytes. -/
def HasRoom (s : Sink) (count : Nat) : Prop := ∀ room, s.room = some room → count ≤ room

/-- What a sink is when some bytes have been written. -/
def extend (s : Sink) (b : Bytes) : Sink :=
  { s with written := s.written ++ b, room := s.room.map (· - b.length) }

@[simp] theorem extend_nil (s : Sink) : s.extend [] = s := by
  obtain ⟨written, room, ending⟩ := s
  cases room <;> simp [extend]

theorem extend_append (s : Sink) (b c : Bytes) : s.extend (b ++ c) = (s.extend b).extend c := by
  cases hroom : s.room <;> simp [extend, hroom, Nat.sub_sub]

theorem HasRoom.mono {s : Sink} {m n : Nat} (h : s.HasRoom n) (hle : m ≤ n) : s.HasRoom m :=
  fun room hroom => hle.trans (h room hroom)

theorem HasRoom.extend {s : Sink} {b : Bytes} {n : Nat} (h : s.HasRoom (b.length + n)) :
    (s.extend b).HasRoom n := by
  intro room hroom
  obtain ⟨before, hbefore, rfl⟩ := Option.map_eq_some_iff.mp hroom
  have hle := h before hbefore
  omega

theorem put_of_hasRoom {s : Sink} {b : Bytes} (h : s.HasRoom b.length) :
    s.put b = (.ok (), s.extend b) := by
  cases hroom : s.room with
  | none => simp [put, extend, hroom]
  | some room => simp [put, extend, hroom, h room hroom]

end Sink

/-- A frame is written whole where there is room for it. -/
theorem write_of_hasRoom {payload : Bytes} {s : Sink} (hfits : Fits payload)
    (hroom : s.HasRoom (ofPayload payload).length) :
    write payload s = (.ok (), s.extend (ofPayload payload)) := by
  rw [length_ofPayload] at hroom
  have hheader : (Bytes.ofNatBE headerBytes payload.length).length = headerBytes := by simp
  have hlength : s.HasRoom (Bytes.ofNatBE headerBytes payload.length).length :=
    hroom.mono (by omega)
  have hpayload : (s.extend (Bytes.ofNatBE headerBytes payload.length)).HasRoom payload.length := by
    apply Sink.HasRoom.extend
    rwa [hheader]
  rw [write, if_neg (Nat.not_lt.mpr hfits), Sink.put_of_hasRoom hlength]
  simp only [Sink.put_of_hasRoom hpayload, ofPayload, Sink.extend_append]

theorem writeMany_of_hasRoom {payloads : List Bytes} {s : Sink} (hfits : ∀ p ∈ payloads, Fits p)
    (hroom : s.HasRoom (stream payloads).length) :
    writeMany payloads s = (.ok (), s.extend (stream payloads)) := by
  induction payloads generalizing s with
  | nil => simp [writeMany]
  | cons payload payloads ih =>
    obtain ⟨hpayload, hrest⟩ := List.forall_mem_cons.mp hfits
    rw [stream_cons, List.length_append] at hroom
    rw [writeMany, write_of_hasRoom hpayload (hroom.mono (by omega)), stream_cons,
      Sink.extend_append]
    exact ih hrest hroom.extend

/-- Nothing is written of a payload over the limit. -/
theorem write_of_not_fits {payload : Bytes} (h : ¬ Fits payload) (s : Sink) :
    write payload s = (.error (.frameTooLong payload.length), s) :=
  if_pos (Nat.lt_of_not_le h)

/-! ## Reading -/

variable (ending : StreamFault)

theorem take_append (b rest : Bytes) : take ending b.length (b ++ rest) = (.ok b, rest) := by
  simp [take]

theorem take_of_lt {n : Nat} {b : Bytes} (h : b.length < n) :
    take ending n b = (.error (.ofStream ending), []) :=
  if_neg (Nat.not_le.mpr h)

/-- Behind a whole header, the limit is looked at before anything else is read. -/
theorem read_header {header : Bytes} (h : header.length = headerBytes) (rest : Bytes) :
    read ending (header ++ rest) =
      if maxBytes < Bytes.toNatBE header then (.error (.frameTooLong (Bytes.toNatBE header)), rest)
      else take ending (Bytes.toNatBE header) rest := by
  rw [read, ← h, take_append]

/-- A header tells the length of its payload. -/
theorem toNatBE_header {payload : Bytes} (h : Fits payload) :
    Bytes.toNatBE (Bytes.ofNatBE headerBytes payload.length) = payload.length := by
  have hmax : maxBytes < 256 ^ headerBytes := by decide
  rw [Bytes.toNatBE_ofNatBE, Nat.mod_eq_of_lt (lt_of_le_of_lt h hmax)]

/-- Behind the header of a payload, as many bytes as it has are asked for. -/
theorem read_lengthHeader {payload : Bytes} (h : Fits payload) (rest : Bytes) :
    read ending (Bytes.ofNatBE headerBytes payload.length ++ rest) =
      take ending payload.length rest := by
  rw [read_header ending (Bytes.length_ofNatBE headerBytes payload.length), toNatBE_header h,
    if_neg (Nat.not_lt.mpr h)]

theorem read_ofPayload {payload : Bytes} (h : Fits payload) (rest : Bytes) :
    read ending (ofPayload payload ++ rest) = (.ok payload, rest) := by
  rw [ofPayload, List.append_assoc, read_lengthHeader ending h, take_append]

/-- A stream that ends within a frame, be it in the header or behind it, fails as streams do. -/
theorem read_take {payload : Bytes} (hfits : Fits payload) {n : Nat}
    (hn : n < (ofPayload payload).length) :
    read ending ((ofPayload payload).take n) = (.error (.ofStream ending), []) := by
  have hheader : (Bytes.ofNatBE headerBytes payload.length).length = headerBytes := by simp
  rw [length_ofPayload] at hn
  by_cases hcut : n < headerBytes
  · have hshort : ((ofPayload payload).take n).length < headerBytes := by
      rw [List.length_take]
      omega
    rw [read, take_of_lt ending hshort]
  · have hrest : (payload.take (n - headerBytes)).length < payload.length := by
      rw [List.length_take]
      omega
    rw [ofPayload, List.take_append, List.take_of_length_le (by omega), hheader,
      read_lengthHeader ending hfits, take_of_lt ending hrest]

/-- Frames at the front of a stream are read one after the other, and reading goes on behind
them. -/
theorem readMany_stream {payloads : List Bytes} (hfits : ∀ p ∈ payloads, Fits p) (count : Nat)
    (rest : Bytes) :
    readMany ending (payloads.length + count) (stream payloads ++ rest) =
      (payloads.map .ok ++ (readMany ending count rest).1, (readMany ending count rest).2) := by
  induction payloads with
  | nil => simp
  | cons payload payloads ih =>
    obtain ⟨hpayload, hpayloads⟩ := List.forall_mem_cons.mp hfits
    rw [List.length_cons, Nat.add_right_comm, readMany, stream_cons, List.append_assoc,
      read_ofPayload ending hpayload]
    simp only [ih hpayloads, List.map_cons, List.cons_append]

/-- A stream of frames that is cut within one of them. -/
theorem readMany_cut {before : List Bytes} {payload : Bytes} {after : List Bytes}
    (hbefore : ∀ p ∈ before, Fits p) (hpayload : Fits payload) {n : Nat}
    (hn : n < (ofPayload payload).length) :
    readMany ending (before.length + 1)
        ((stream (before ++ payload :: after)).take ((stream before).length + n)) =
      (before.map .ok ++ [.error (.ofStream ending)], []) := by
  have hcut : (stream (before ++ payload :: after)).take ((stream before).length + n) =
      stream before ++ (ofPayload payload).take n := by
    rw [stream_append, stream_cons, List.take_length_add_append,
      List.take_append_of_le_length (by omega)]
  rw [hcut, readMany_stream ending hbefore, readMany, read_take ending hpayload hn]
  rfl

/-- Payloads within the limit are written whole wherever there is room for them, and as many
readings give them back in order and leave what stands behind them. Where the stream ends within a
frame, the frames before it are read and the connection counts as closed. Over the limit nothing is
written, and nothing is read behind the header. -/
theorem streams_are_lossless (payloads : List Bytes) (hfits : ∀ p ∈ payloads, Fits p) :
    (∀ s : Sink, s.HasRoom (stream payloads).length →
      writeMany payloads s = (.ok (), s.extend (stream payloads))) ∧
    (∀ ending trailer, readMany ending payloads.length (stream payloads ++ trailer) =
      (payloads.map .ok, trailer)) ∧
    (∀ before payload after, payloads = before ++ payload :: after →
      ∀ n < (ofPayload payload).length,
        readMany .ended (before.length + 1)
            ((stream payloads).take ((stream before).length + n)) =
          (before.map .ok ++ [.error .closed], [])) ∧
    (∀ payload, ¬ Fits payload → ∀ s,
      write payload s = (.error (.frameTooLong payload.length), s)) ∧
    ∀ ending header rest, header.length = headerBytes → maxBytes < Bytes.toNatBE header →
      read ending (header ++ rest) = (.error (.frameTooLong (Bytes.toNatBE header)), rest) := by
  refine ⟨?written, ?readBack, ?cut, ?unwritten, ?unread⟩
  case written => exact fun s hroom => writeMany_of_hasRoom hfits hroom
  case readBack =>
    intro ending trailer
    have hread := readMany_stream ending hfits 0 trailer
    simpa [readMany] using hread
  case cut =>
    rintro before payload after rfl n hn
    obtain ⟨hbefore, hrest⟩ := List.forall_mem_append.mp hfits
    exact readMany_cut .ended hbefore (hrest payload List.mem_cons_self) hn
  case unwritten => exact fun payload h s => write_of_not_fits h s
  case unread =>
    intro ending header rest hheader hlong
    rw [read_header ending hheader, if_pos hlong]

/-- Two frames, the first of them empty, with the second cut behind its header. -/
theorem streams_are_lossless_pair :
    (∀ p ∈ [[], [7, 8, 9]], Fits p) ∧
      writeMany [[], [7, 8, 9]] ⟨[], some 11, .full⟩ =
        (.ok (), ⟨[0, 0, 0, 0, 0, 0, 0, 3, 7, 8, 9], some 0, .full⟩) ∧
      readMany .ended 2 [0, 0, 0, 0, 0, 0, 0, 3, 7] = ([.ok [], .error .closed], []) := by
  have hfits : ∀ p ∈ [[], [7, 8, 9]], Fits p := by
    simp [Fits, maxBytes]
  obtain ⟨hwritten, -, hcut, -⟩ := streams_are_lossless [[], [7, 8, 9]] hfits
  refine ⟨hfits, ?_, ?_⟩
  · exact hwritten ⟨[], some 11, .full⟩ (by rintro room ⟨⟩; decide)
  · exact hcut [[]] [7, 8, 9] [] rfl 5 (by decide)

end HbarKit.Frame
