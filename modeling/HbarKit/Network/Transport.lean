import HbarKit.Text.Decimal

/-!
# Faults of the network

What can go wrong with bytes on their way to a node and back. The faults of streams come in many
kinds, of which a caller sees few: the node did not answer in time, it closed the connection, or
anything else with its text.
-/
namespace HbarKit

inductive StreamFaultKind where
  | timedOut
  | wouldBlock
  | unexpectedEnd
  | connectionReset
  | connectionAborted
  | brokenPipe
  | connectionRefused
  | permissionDenied
  | notFound
  | writeZero
  | other
  deriving DecidableEq, Repr

structure StreamFault where
  kind : StreamFaultKind
  text : String
  deriving DecidableEq, Repr

def StreamFault.ended : StreamFault := ⟨.unexpectedEnd, "failed to fill whole buffer"⟩

def StreamFault.full : StreamFault := ⟨.writeZero, "failed to write whole buffer"⟩

inductive TransportError where
  | connect (address reason : String)
  | timeout
  | closed
  | frameTooLong (length : Nat)
  | stream (text : String)
  deriving DecidableEq, Repr

namespace TransportError

def ofStream (f : StreamFault) : TransportError :=
  match f.kind with
  | .timedOut | .wouldBlock => timeout
  | .unexpectedEnd | .connectionReset | .connectionAborted | .brokenPipe => closed
  | _ => stream f.text

def message : TransportError → String
  | connect address reason => "failed to connect to " ++ address ++ ": " ++ reason
  | timeout => "timed out waiting for node response"
  | closed => "connection closed by node"
  | frameTooLong length => "frame of " ++ Decimal.ofNat length ++ " bytes exceeds the limit"
  | stream text => "transport I/O error: " ++ text

end TransportError

end HbarKit
