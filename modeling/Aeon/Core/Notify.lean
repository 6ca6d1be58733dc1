import Mathlib.Data.List.Basic

/-!
# A notification with one permit

`tokio::sync::Notify`: `notify_one` keeps at most one notification without a waiter,
`notify_waiters` wakes every waiter there is and keeps nothing. Waiters queue by their first poll.
-/
namespace Aeon.Core

structure Notify (W : Type*) where
  permit : Bool := false
  waiters : List W := []
  deriving DecidableEq

namespace Notify

variable {W : Type*}

variable (n : Notify W)

def notifyOne : Notify W × Option W :=
  match n.waiters with
  | [] => ({ n with permit := true }, none)
  | w :: ws => ({ n with waiters := ws }, some w)

def poll (w : W) : Notify W × Bool :=
  if n.permit then ({ n with permit := false }, true)
  else ({ n with waiters := n.waiters ++ [w] }, false)

def notifyWaiters : Notify W := { n with waiters := [] }

def forget [DecidableEq W] (w : W) : Notify W := { n with waiters := n.waiters.filter (· ≠ w) }

end Notify

end Aeon.Core
