/-
**Dispatch in polled mode.**

The scan of the polled table stops at the first vacant entry and calls handlers on its way, which
may change every register. It goes by the lines that were read before and by the table, so it comes
down to one list of handlers, known before the first of them runs.

* `Run.servicePolled_eq`: the scan of a table that lists bindings;
* `Run.handlePolled_eq`: a dispatch runs the handlers that are due, or serves a spurious interrupt;
* `Run.servePolled_calls`, `Run.servePolled_nil_calls`: the calls that this comes down to;
* `polled_dispatch`: the same over the simulated controller, after any run.
-/

import VectoredInterrupts.Proofs.Dispatch.Calls
import VectoredInterrupts.Proofs.Runs

namespace VectoredInterrupts

/-- What a step leaves and returns is all that the next one sees. -/
theorem bind_congr_at {ε σ α ρ : Type} {first other : EStateM ε σ α} {state elsewhere : σ}
    (same : first state = other elsewhere) (next : α → EStateM ε σ ρ) :
    (first >>= next) state = (other >>= next) elsewhere := by
  show EStateM.bind first next state = EStateM.bind other next elsewhere
  rw [EStateM.bind, EStateM.bind, same]

/-- What is bound to the lines of a set, in the order of the bindings. -/
def due {α : Type} (pending : LineSet) (bindings : List (Binding α)) : List α :=
  (bindings.filter fun binding => pending.getLsbD binding.line).map Binding.payload

theorem due_cons {α : Type} (pending : LineSet) (head : Binding α) (others : List (Binding α)) :
    due pending (head :: others) =
      if pending.getLsbD head.line then head.payload :: due pending others
      else due pending others := by
  rw [due, List.filter_cons]
  split <;> rfl

theorem due_eq_nil {α : Type} {pending : LineSet} {bindings : List (Binding α)} :
    due pending bindings = [] ↔ ∀ binding ∈ bindings, pending.getLsbD binding.line = false := by
  rw [due, List.map_eq_nil_iff, List.filter_eq_nil_iff]
  exact forall₂_congr fun binding _ => Bool.eq_false_iff.symm

namespace Run

variable {β γ : Type}

/-- **The scan.** Vacant entries end it, and the entries before them are all visited. -/
theorem serviceEntries_eq (serve : Handler → Run β γ Unit) (pending : LineSet)
    {bindings : List (Binding Handler)} (inRange : InRange bindings) (rest : Nat) :
    serviceEntries serve pending
        (bindings.map Binding.entry ++ List.replicate rest Entry.vacant) = (do
      (due pending bindings).forM serve
      return (due pending bindings).length) := by
  induction bindings with
  | nil => cases rest <;> rfl
  | cons head others ih =>
    have inside : head.line < 32 := inRange head List.mem_cons_self
    have ih := ih fun binding member => inRange binding (List.mem_cons_of_mem _ member)
    rw [List.map_cons, List.cons_append, serviceEntries, Binding.entry_line]
    simp only [LineSet.test_ok inside, checked, pure_bind]
    rw [due_cons]
    by_cases requested : pending.getLsbD head.line = true
    · rw [if_pos requested, if_pos requested, ih]
      show _ = (serve head.payload >>= fun _ => (due pending others).forM serve) >>= _
      simp only [bind_assoc, pure_bind, Binding.entry_payload, List.length_cons]
    · rw [if_neg requested, if_neg requested, ih]

theorem servicePolled_eq (serve : Handler → Run β γ Unit) (pending : LineSet)
    (system : System β γ) {bindings : List (Binding Handler)} (inRange : InRange bindings)
    (lists : system.polled.Lists bindings) :
    servicePolled serve pending system = (do
      (due pending bindings).forM serve
      return (due pending bindings).length : Run β γ Nat) system := by
  rw [← serviceEntries_eq serve pending inRange (32 - bindings.length), ← lists]
  rfl

/-- What a dispatch does once it has read the lines that request an IRQ. -/
def servePolled (serve : Handler → Run β γ Unit) (pending : LineSet) (handlers : List Handler) :
    Run β γ Unit := do
  onMachine (Bus.log (.polledStatus pending))
  if handlers = [] then
    countSpurious
    serve .spurious
  else handlers.forM serve

section Calls

variable (call : Nat → Handler → Run β γ Unit) (active : Nat) (pending : LineSet)

/-- **The handlers that are due** are called, one after another. -/
theorem servePolled_calls {handlers : List Handler} (busy : handlers ≠ []) (system : System β γ) :
    Calls call active (pure ()) handlers
      { system with machine := system.machine.logged (.polledStatus pending) }
      (servePolled (dispatch call active) pending handlers system) := by
  rw [servePolled, bind_ok (log_ok _ _), if_neg busy, calls_iff]
  show _ = (handlers.forM (dispatch call active) >>= fun _ => (pure () : Run β γ Unit)) _
  rw [bind_pure_unit]

/-- **If none is due,** the interrupt is counted, and the handler of spurious ones is called. -/
theorem servePolled_nil_calls (system : System β γ) :
    Calls call active (pure ()) [.spurious]
      { system with
        machine := system.machine.logged (.polledStatus pending)
        spurious := system.spurious + 1 }
      (servePolled (dispatch call active) pending [] system) := by
  rw [servePolled, bind_ok (log_ok _ _), if_pos rfl, calls_singleton_iff, countSpurious,
    bind_modify, bind_pure_unit]

end Calls

variable [RegisterBank β]

/-- **A dispatch in polled mode.** -/
theorem handlePolled_eq (serve : Handler → Run β γ Unit) {system begun : System β γ}
    {pending : LineSet} {bindings : List (Binding Handler)} (inRange : InRange bindings)
    (read : onMachine Bus.irqStatus system = .ok pending begun)
    (lists : begun.polled.Lists bindings) :
    handlePolled serve system = servePolled serve pending (due pending bindings) begun := by
  unfold handlePolled servePolled
  rw [bind_ok read, bind_ok (log_ok _ _), bind_ok (log_ok _ _)]
  rw [bind_congr_at (servicePolled_eq serve pending
    { begun with machine := begun.machine.logged (.polledStatus pending) } inRange lists)]
  cases handlers : due pending bindings with
  | nil => rfl
  | cons head others =>
    rw [if_neg (List.cons_ne_nil head others), bind_assoc]
    show ((head :: others).forM serve >>= fun _ => (pure () : Run β γ Unit)) _ = _
    rw [bind_pure_unit]

theorem handleIrq_polled {call : Nat → Handler → Run β γ Unit} {active : Nat}
    {system begun : System β γ} {pending : LineSet} {bindings : List (Binding Handler)}
    (mode : system.mode = .polled) (inRange : InRange bindings)
    (read : onMachine Bus.irqStatus system = .ok pending begun)
    (lists : begun.polled.Lists bindings) :
    handleIrq call active system =
      servePolled (dispatch call active) pending (due pending bindings) begun :=
  (handleIrq_of_polled mode).trans (handlePolled_eq _ inRange read lists)

section Returns

omit [RegisterBank β]

variable {serve : Handler → Run β γ Unit} {holds : System β γ → Prop}
  (returns : ∀ handler system, holds system →
    ∃ after, serve handler system = .ok () after ∧ holds after)

include returns

theorem forM_returns (handlers : List Handler) {system : System β γ} (before : holds system) :
    ∃ after, handlers.forM serve system = .ok ⟨⟩ after ∧ holds after := by
  induction handlers generalizing system with
  | nil => exact ⟨system, rfl, before⟩
  | cons handler rest ih =>
    obtain ⟨middle, served, between⟩ := returns handler system before
    obtain ⟨after, done, held⟩ := ih between
    exact ⟨after, (bind_ok served).trans done, held⟩

theorem servePolled_returns
    (logged : ∀ (system : System β γ) notice, holds system →
      holds { system with machine := system.machine.logged notice })
    (counted : ∀ system : System β γ, holds system →
      holds { system with spurious := system.spurious + 1 })
    (pending : LineSet) (handlers : List Handler) {system : System β γ} (before : holds system) :
    ∃ after, servePolled serve pending handlers system = .ok () after ∧ holds after := by
  unfold servePolled
  rw [bind_ok (log_ok _ _)]
  by_cases idle : handlers = []
  · rw [if_pos idle]
    exact returns .spurious _ (counted _ (logged _ _ before))
  · rw [if_neg idle]
    exact forM_returns returns handlers (logged _ _ before)

end Returns

end Run

/-! ### Over the simulated controller -/

section Simulated

variable {γ : Type}

theorem Simulated.getLsbD_irqStatus (controller : Simulated) {line : Nat}
    (small : line < lineCount) :
    controller.irqStatus.getLsbD line =
      ((controller.inputs.getLsbD line || controller.soft.getLsbD line) &&
        controller.enabled.getLsbD line && !controller.select.getLsbD line) := by
  rw [irqStatus, asserted, BitVec.getLsbD_and, BitVec.getLsbD_and, BitVec.getLsbD_or,
    BitVec.getLsbD_not, decide_eq_true (show line < 32 from small), Bool.true_and]

/-- Reading a set of lines that a register presents. -/
theorem Simulated.readLines_ok {offset : Nat} {lines : LineSet} (system : System Simulated γ)
    (read : RegisterBank.read offset system.machine.bank = .ok lines.word system.machine.bank) :
    ∃ after, Run.onMachine (do return (← Bus.read offset).lines) system = .ok lines after := by
  have status : (do return (← Bus.read offset).lines : Bus Simulated γ LineSet) system.machine =
      .ok lines.word.lines { system.machine with
        trace := system.machine.trace.push (.read offset lines.word) } :=
    bind_ok (Bus.read_ok read)
  rw [LineSet.lines_word] at status
  exact ⟨_, Run.onMachine_ok status⟩

/-- How a dispatch in polled mode goes when `bindings` are in force. -/
structure DispatchesPolled (handlers : Handlers Simulated γ) (active : Nat)
    (bindings : List (Binding Handler)) (system : System Simulated γ) : Prop where
  /-- A line is pending if it is asserted, enabled and routed to IRQ. -/
  pending : ∀ line < lineCount, system.machine.bank.irqStatus.getLsbD line =
    ((system.machine.bank.inputs.getLsbD line || system.machine.bank.soft.getLsbD line) &&
      system.machine.bank.enabled.getLsbD line && !system.machine.bank.select.getLsbD line)
  /-- The pending lines are read once. Then the handlers bound to them run, in order. -/
  serves : ∃ begun,
    Run.onMachine Bus.irqStatus system = .ok system.machine.bank.irqStatus begun ∧
      Run.handleIrq handlers.call active system =
        Run.servePolled (Run.dispatch handlers.call active) system.machine.bank.irqStatus
          (due system.machine.bank.irqStatus (arranged bindings)) begun
  /-- Each of them is marked and called, in order, and what one leaves the next one finds. Nothing
  is counted. -/
  calls : due system.machine.bank.irqStatus (arranged bindings) ≠ [] → ∃ begun,
    Run.onMachine Bus.irqStatus system = .ok system.machine.bank.irqStatus begun ∧
      begun.spurious = system.spurious ∧
      Run.Calls handlers.call active (pure ())
        (due system.machine.bank.irqStatus (arranged bindings))
        { begun with machine := begun.machine.logged (.polledStatus system.machine.bank.irqStatus) }
        (Run.handleIrq handlers.call active system)
  /-- If there are none, an interrupt is counted as spurious, and one handler is called. -/
  counts : due system.machine.bank.irqStatus (arranged bindings) = [] → ∃ begun,
    Run.onMachine Bus.irqStatus system = .ok system.machine.bank.irqStatus begun ∧
      Run.Calls handlers.call active (pure ()) [.spurious]
        { begun with
          machine := begun.machine.logged (.polledStatus system.machine.bank.irqStatus)
          spurious := system.spurious + 1 }
        (Run.handleIrq handlers.call active system)
  /-- It is spurious if no pending line is bound. -/
  spurious : due system.machine.bank.irqStatus (arranged bindings) = [] ↔
    ∀ binding ∈ bindings, system.machine.bank.irqStatus.getLsbD binding.line = false
  keeps : (stateAfter (Run.handleIrq handlers.call active) system).registry = system.registry
  returns : (∀ handler system, ∃ after, handlers.call active handler system = .ok () after) →
    ∃ after, Run.handleIrq handlers.call active system = .ok () after

/-- **Polled dispatch.** After any run on a fresh system, whatever the handlers do to the registers
and the status word, and however they nest: a dispatch runs the handlers of the lines that were
pending when it began, each of them once, in the order of their bindings. -/
theorem polled_dispatch [StatusRegister γ] (handlers : Handlers Simulated γ)
    (requests : List (Request Simulated.BenchAction)) (machine : Machine Simulated γ) (active : Nat)
    (mode : (handlers.carryOut requests (System.fresh machine)).mode = .polled) :
    DispatchesPolled handlers active (live (requests.filterMap Request.polledChange?))
      (handlers.carryOut requests (System.fresh machine)) := by
  have lists := handlers.carryOut_polled requests (rfl : (System.fresh machine).polled = .vacant)
  have inRange := (live_inRange (requests.filterMap Request.polledChange?)).arranged
  generalize handlers.carryOut requests (System.fresh machine) = reached at mode lists
  obtain ⟨begun, read⟩ : ∃ begun,
      Run.onMachine Bus.irqStatus reached = .ok reached.machine.bank.irqStatus begun :=
    Simulated.readLines_ok reached rfl
  obtain ⟨kept, uncounted⟩ := Run.onMachine_leaves read
  have same : begun.polled = reached.polled := congrArg Registry.polled kept
  have dispatches : Run.handleIrq handlers.call active reached =
      Run.servePolled (Run.dispatch handlers.call active) reached.machine.bank.irqStatus
        (due reached.machine.bank.irqStatus
          (arranged (live (requests.filterMap Request.polledChange?)))) begun :=
    Run.handleIrq_polled mode inRange read (same ▸ lists)
  refine ⟨fun line small => Simulated.getLsbD_irqStatus _ small, ⟨begun, read, dispatches⟩,
    fun busy => ⟨begun, read, uncounted, ?_⟩, fun idle => ⟨begun, read, ?_⟩, ?_, ?_,
    fun returns => ?_⟩
  · rw [dispatches]
    exact Run.servePolled_calls handlers.call active _ busy begun
  · rw [dispatches, idle, ← uncounted]
    exact Run.servePolled_nil_calls handlers.call active _ begun
  · rw [due_eq_nil]
    exact forall_congr' fun binding => by rw [mem_arranged]
  · exact Run.handleIrq_maintains (undisturbed_registry fun registry => registry = reached.registry)
      trivial (handlers.call_registry fun registry => registry = reached.registry) active reached
      rfl
  · have serves : ∀ handler system, True → ∃ after,
        Run.dispatch handlers.call active handler system = .ok () after ∧ True := by
      intro handler system _
      obtain ⟨after, called⟩ := returns handler (system.marked active handler)
      exact ⟨after, called, trivial⟩
    obtain ⟨after, done, -⟩ := Run.servePolled_returns serves (fun _ _ _ => trivial)
      (fun _ _ => trivial) _ _ trivial
    exact ⟨after, dispatches.trans done⟩

/-- Line 3 is pending. The handlers enable line 4, which is bound as well, and take an interrupt. -/
theorem polled_dispatch_reentered :
    DispatchesPolled ((⟨fun _ => .ofList [.line (.enable 4), .interrupt], 2⟩ :
        Firmware Simulated.BenchAction).handlers 3) 1
      (live [.bind 3 (.context 0) 5, .bind 4 (.context 1) 9])
      (((⟨fun _ => .ofList [.line (.enable 4), .interrupt], 2⟩ :
        Firmware Simulated.BenchAction).handlers 3).carryOut
          ([.operation (.bindPolled 3 (.context 0) 5), .operation (.bindPolled 4 (.context 1) 9),
            .action (.line (.enable 3)), .action (.bench (.raise 3)), .action (.bench (.raise 4))] :
            List (Request Simulated.BenchAction)) (System.fresh (.atPowerUp Simulated.powerUp))) :=
  polled_dispatch (Firmware.handlers _ 3)
    [.operation (.bindPolled 3 (.context 0) 5), .operation (.bindPolled 4 (.context 1) 9),
      .action (.line (.enable 3)), .action (.bench (.raise 3)), .action (.bench (.raise 4))]
    (.atPowerUp .powerUp) 1 rfl

end Simulated

end VectoredInterrupts
