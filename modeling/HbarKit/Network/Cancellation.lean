import HbarKit.Duration

/-!
# Cancellation

A token is a flag by which a caller stops a request. It is seen between attempts and cuts a pause
short, and once it is up it stays up.
-/
namespace HbarKit

structure CancellationToken where
  isCancelled : Bool
  deriving DecidableEq, Repr

namespace CancellationToken

def new : CancellationToken := ⟨false⟩

def cancel (_ : CancellationToken) : CancellationToken := ⟨true⟩

/-- Waits for the flag, but no longer than a limit, when somebody cancels after a time or nobody
does. Gives how long that took and the token after it. -/
def wait (t : CancellationToken) (cancelledAfter : Option Duration) (limit : Duration) :
    Duration × CancellationToken :=
  if t.isCancelled then (0, t)
  else
    match cancelledAfter with
    | some time => if time ≤ limit then (time, t.cancel) else (limit, t)
    | none => (limit, t)

end CancellationToken

end HbarKit
