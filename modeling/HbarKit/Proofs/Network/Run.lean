import HbarKit.Network.Host
import Mathlib.Tactic

/-!
# Runs step by step

What a run does in a session: its result and the session after it, for a sequence of runs and for
the single steps.
-/
namespace HbarKit.Run

variable {ω κ α β : Type}

@[simp] theorem bind_apply (m : Run ω κ α) (f : α → Run ω κ β) (s : Session ω κ) :
    (m >>= f) s = f (m s).1 (m s).2 := rfl

@[simp] theorem pure_apply (a : α) (s : Session ω κ) : (pure a : Run ω κ α) s = (a, s) := rfl

@[simp] theorem client_apply (s : Session ω κ) : (client : Run ω κ (Client κ)) s = (s.client, s) :=
  rfl

@[simp] theorem outside_apply (act : ω → α × ω) (s : Session ω κ) :
    outside act s = ((act s.outside).1, { s with outside := (act s.outside).2 }) := rfl

end HbarKit.Run
