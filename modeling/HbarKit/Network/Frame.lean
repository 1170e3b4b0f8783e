import HbarKit.Bytes
import HbarKit.Network.Transport

/-!
# Frames

A frame is a payload behind its length, four bytes with the most significant first. A reader says
what it read and what it left unread, and a length over the limit is refused with the payload
unread. A writer refuses a payload over the limit with nothing written.
-/
namespace HbarKit.Frame

def maxBytes : Nat := 4 * 1024 * 1024

def headerBytes : Nat := 4

/-- Exactly `n` bytes off a stream that ends with a fault, and what is left. -/
def take (ending : StreamFault) (n : Nat) (stream : Bytes) : Except TransportError Bytes × Bytes :=
  if n ≤ stream.length then (.ok (stream.take n), stream.drop n)
  else (.error (.ofStream ending), [])

def read (ending : StreamFault) (stream : Bytes) : Except TransportError Bytes × Bytes :=
  match take ending headerBytes stream with
  | (.error e, rest) => (.error e, rest)
  | (.ok header, rest) =>
    let length := Bytes.toNatBE header
    if maxBytes < length then (.error (.frameTooLong length), rest) else take ending length rest

def ofPayload (payload : Bytes) : Bytes := Bytes.ofNatBE headerBytes payload.length ++ payload

/-- Where frames are written to: what was written, how many bytes more there is room for, if that
is bounded, and the fault behind the last of them. -/
structure Sink where
  written : Bytes
  room : Option Nat
  ending : StreamFault
  deriving DecidableEq

/-- All bytes of a string, or as many as there is room for and then the fault. -/
def Sink.put (s : Sink) (b : Bytes) : Except TransportError Unit × Sink :=
  match s.room with
  | none => (.ok (), { s with written := s.written ++ b })
  | some room =>
    if b.length ≤ room then
      (.ok (), { s with written := s.written ++ b, room := some (room - b.length) })
    else
      (.error (.ofStream s.ending), { s with written := s.written ++ b.take room, room := some 0 })

/-- Writes the frame of a payload: its length, and unless that failed the payload. -/
def write (payload : Bytes) (s : Sink) : Except TransportError Unit × Sink :=
  if maxBytes < payload.length then (.error (.frameTooLong payload.length), s)
  else
    match s.put (Bytes.ofNatBE headerBytes payload.length) with
    | (.error e, s) => (.error e, s)
    | (.ok (), s) => s.put payload

end HbarKit.Frame
