/-
**Calls of handlers.**

A dispatch hands over to one handler after another. Each call is marked on the trace before it
begins, and it finds what the call before it has left. A fault ends the calls: the handlers behind
the one that faulted are not called, and neither is the step that comes last.

* `Run.Calls`: calls of some handlers, then a last step, and what comes of them;
* `Run.calls_iff`: they are what a dispatch does with a list of handlers.
-/

import VectoredInterrupts.Proofs.Handlers

namespace VectoredInterrupts

section Calls

variable {β γ : Type}

/-- The system once a dispatch has marked the handler that it serves. -/
def System.marked (active : Nat) (handler : Handler) (system : System β γ) : System β γ :=
  { system with machine.trace := system.machine.trace.push (.dispatched active handler) }

namespace Run

variable {call : Nat → Handler → Run β γ Unit} {active : Nat} {last : Run β γ Unit}
  {system : System β γ} {result : EStateM.Result Fault (System β γ) Unit}

/-- Handlers are called one after another in the `active`-th dispatch in progress, and then comes a
last step. -/
inductive Calls (call : Nat → Handler → Run β γ Unit) (active : Nat) (last : Run β γ Unit) :
    List Handler → System β γ → EStateM.Result Fault (System β γ) Unit → Prop
  /-- All of them have returned. -/
  | ended (system : System β γ) : Calls call active last [] system (last system)
  /-- A handler is marked and called, and returns. The others go on from what it has left. -/
  | returned {handler : Handler} {others : List Handler} {before between : System β γ}
      {result : EStateM.Result Fault (System β γ) Unit}
      (called : call active handler (before.marked active handler) = .ok () between)
      (rest : Calls call active last others between result) :
      Calls call active last (handler :: others) before result
  /-- A handler is marked and called, and faults. -/
  | faulted {handler : Handler} {others : List Handler} {before left : System β γ} {fault : Fault}
      (called : call active handler (before.marked active handler) = .error fault left) :
      Calls call active last (handler :: others) before (.error fault left)

theorem forM_dispatch_cons (handler : Handler) (others : List Handler) :
    ((handler :: others).forM (dispatch call active) >>= fun _ => last) =
      dispatch call active handler >>= fun _ =>
        others.forM (dispatch call active) >>= fun _ => last :=
  bind_assoc _ _ _

theorem calls_forM (call : Nat → Handler → Run β γ Unit) (active : Nat) (last : Run β γ Unit)
    (handlers : List Handler) (system : System β γ) :
    Calls call active last handlers system
      ((handlers.forM (dispatch call active) >>= fun _ => last) system) := by
  induction handlers generalizing system with
  | nil => exact .ended system
  | cons handler others ih =>
    rw [forM_dispatch_cons]
    cases called : call active handler (system.marked active handler) with
    | ok value between =>
      have served : dispatch call active handler system = .ok () between := called
      rw [bind_ok served]
      exact .returned called (ih between)
    | error fault left =>
      have stopped : dispatch call active handler system = .error fault left := called
      rw [bind_error stopped]
      exact .faulted called

/-- **Calls come out one way only.** -/
theorem calls_iff {handlers : List Handler} :
    Calls call active last handlers system result ↔
      result = (handlers.forM (dispatch call active) >>= fun _ => last) system := by
  constructor
  · intro calls
    induction calls with
    | ended => rfl
    | @returned handler others before between result called _ ih =>
      have served : dispatch call active handler before = .ok () between := called
      rw [forM_dispatch_cons, bind_ok served]
      exact ih
    | @faulted handler others before left fault called =>
      have stopped : dispatch call active handler before = .error fault left := called
      rw [forM_dispatch_cons, bind_error stopped]
  · rintro rfl
    exact calls_forM call active last handlers system

/-- Calls of a single handler. -/
theorem calls_singleton_iff {handler : Handler} :
    Calls call active last [handler] system result ↔
      result = (dispatch call active handler >>= fun _ => last) system := by
  rw [calls_iff]
  show _ = ((dispatch call active handler >>= fun _ => (pure () : Run β γ Unit)) >>= _) _ ↔ _
  rw [bind_pure_unit]

end Run

end Calls

end VectoredInterrupts
