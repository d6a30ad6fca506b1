/-
**The handshake with the controller.**

In vectored mode the controller learns from a read of the vector register that service starts, and
from a write that it ends. Every dispatch reads first and writes last, on each way it can go, and
serves one handler between the two. Dispatches nest like brackets, so the accesses of a run do.

Nothing but a dispatch touches the register: not the other operations, nor the requests and handlers
that keep off it. So a run is made of code that conducts itself, one request after another.

* `Handlers.perform_conducts`, `Handlers.carryOut_conducts`: a request, and a run;
* `Machine.Conducts.brackets`: the accesses to the vector register in a run;
* `vector_handshake`: a dispatch, a run, and what the simulated controller counts.
-/

import VectoredInterrupts.Proofs.Dispatch.Counts
import VectoredInterrupts.Proofs.Dispatch.Reliable

namespace VectoredInterrupts

/-! ### Operations and the vector register -/

theorem Offset.OfSlot.ne_vector {offset : Nat} (ofSlot : Offset.OfSlot offset) :
    offset ≠ Offset.vector := by
  rintro rfl
  exact Offset.not_ofSlot_vector ofSlot

theorem Operation.ne_vector_of_reads {op : Operation} {offset : Nat} (reads : op.Reads offset) :
    offset ≠ Offset.vector := by
  cases op with
  | init =>
    obtain ⟨place, member, rfl⟩ := reads
    simp only [Offset.peripheralId, Offset.vector]
    omega
  | serviceUnslotted =>
    obtain rfl := reads
    decide
  | enableSlot | disableSlot | disableAllSlots => exact reads.ofSlot.ne_vector
  | _ => exact reads.elim

theorem Operation.ne_vector_of_writes {op : Operation} {offset : Nat} (writes : op.Writes offset) :
    offset ≠ Offset.vector := by
  cases op with
  | init =>
    rcases writes with member | slot
    · rintro rfl
      revert member
      decide
    · exact slot.ofSlot.ne_vector
  | bindVectored | releaseVectored | releaseAllVectored | clearVectored | enableSlot | disableSlot
  | disableAllSlots => exact writes.ofSlot.ne_vector
  | _ => exact writes.elim

/-! ### Runs -/

/-- The request keeps off the vector register, if it is not a dispatch. -/
def Request.SparesVector {ι : Type} : Request ι → Prop
  | .action request => request.SparesVector
  | .operation _ => True

section Runs

variable {ι β γ : Type} [RegisterBank β] [Benched ι β]

/-- Code has conducted itself that led from one machine to another. It ran outside of any dispatch,
and the firmware state may have changed in between. -/
inductive Machine.Conducts (ι : Type) {β γ : Type} [RegisterBank β] [Benched ι β]
    (start : Machine β γ) : Machine β γ → Prop
  | rest : Conducts ι start start
  | code {before after : System β γ} (conducts : Conducts ι start before.machine)
      (code : System.Conducts ι 0 before after) : Conducts ι start after.machine

theorem Machine.Conducts.trans {start middle after : Machine β γ} (first : start.Conducts ι middle)
    (second : middle.Conducts ι after) : start.Conducts ι after := by
  induction second with
  | rest => exact first
  | code _ code ih => exact ih.code code

theorem Machine.closed_conducts (start : Machine β γ) :
    Closed (System.Step (· ≠ Offset.vector) (· ≠ Offset.vector))
      fun system : System β γ => start.Conducts ι system.machine :=
  fun before _ step conducts => conducts.code ((System.Conducts.rest before).step step)

/-- These events have been put on the trace, and the accesses to the vector register among them are
balanced. -/
def Machine.Brackets (before after : Machine β γ) : Prop :=
  ∃ events, after.trace.toList = before.trace.toList ++ events ∧
    Balanced (events.filter Event.ofVector)

theorem Machine.Conducts.brackets {before after : Machine β γ}
    (conducts : before.Conducts ι after) : before.Brackets after := by
  induction conducts with
  | rest => exact ⟨[], (List.append_nil _).symm, .nil⟩
  | code _ code ih =>
    obtain ⟨events, trace, balanced⟩ := ih
    obtain ⟨more, emits, balanced_more, -⟩ := code.minds
    refine ⟨events ++ more, ?_, ?_⟩
    · rw [emits.trace, trace, List.append_assoc]
    · rw [List.filter_append]
      exact balanced.append balanced_more

theorem Machine.Conducts.evenly {before after : Machine Simulated γ}
    (conducts : before.Conducts Simulated.BenchAction after) : before.bank.Evenly after.bank := by
  induction conducts with
  | rest => exact .of_counts rfl
  | code _ code ih => exact ih.trans code.evenly

/-- The polled table lists bindings that some changes have left. -/
def Table.Listed {α : Type} [Inhabited α] (table : Table α) : Prop :=
  ∃ changes : List (Change α), table.Lists (arranged (live changes))

/-- Every request leaves the polled table in order, whether it returns or faults. -/
theorem Handlers.perform_listed [StatusRegister γ] (handlers : Handlers β γ) (request : Request ι) :
    Maintains (fun system => system.polled.Listed) (handlers.perform request) := by
  have closed := System.closed_of_undisturbed (β := β) (γ := γ)
    (undisturbed_registry fun registry => registry.polled.Listed)
  have calls := handlers.call_registry fun registry => registry.polled.Listed
  cases request with
  | action action =>
    exact handlers.perform_action_registry (fun registry => registry.polled.Listed) action
  | operation op =>
    refine op.perform_maintains_of_closed closed.of_move (fun _ _ => trivial) (fun _ _ => trivial)
      (fun _ => calls 0) (fun _ => ?_) (fun _ _ before => before) (fun change _ system before => ?_)
      (fun _ _ _ before => before) fun _ _ _ before => before
    · exact Run.handleIrq_maintains
        (undisturbed_registry fun registry => registry.polled.Listed) trivial calls 1
    · obtain ⟨changes, lists⟩ := before
      exact ⟨changes ++ [change], Table.lists_elim lists (some change)⟩

variable {valid : β → Prop} {handlers : Handlers β γ}

omit [RegisterBank β] [Benched ι β] in
theorem System.ready_of_listed {system : System β γ} (held : valid system.machine.bank)
    (listed : system.polled.Listed) : system.Ready valid := by
  obtain ⟨changes, lists⟩ := listed
  exact ⟨held, fun _ => ⟨_, lists, (live_inRange changes).arranged⟩⟩

variable (answers : AnswersDispatch valid)
  (reliable : ∀ active, Run.Reliable ι valid handlers.call active)

include answers reliable

/-- A dispatch outside of any other. -/
theorem Handlers.handleIrq_conducts {system : System β γ} (ready : system.Ready valid) :
    system.machine.Conducts ι (stateAfter (Run.handleIrq handlers.call 1) system).machine := by
  obtain ⟨after, handled, dispatches, -⟩ := Run.handleIrq_returns answers (reliable 1) ready
  rw [stateAfter_ok handled]
  exact .code .rest (.interrupt (.rest system) (fun _ _ _ ran => ran.2) dispatches)

omit answers in
/-- The handlers of the polled table, run outside of any dispatch. -/
theorem Handlers.servicePolled_conducts (status : LineSet) {system : System β γ}
    (held : valid system.machine.bank) (listed : system.polled.Listed) :
    system.machine.Conducts ι
      (stateAfter (Run.servicePolled (handlers.call 0) status) system).machine := by
  have ready := System.ready_of_listed held listed
  obtain ⟨changes, lists⟩ := listed
  have serves : ∀ handler now, (System.Ready valid now ∧ system.machine.Conducts ι now.machine) →
      ∃ after, handlers.call 0 handler now = .ok () after ∧
        (System.Ready valid after ∧ system.machine.Conducts ι after.machine) := by
    rintro handler now ⟨now_ready, conducts⟩
    obtain ⟨after, called, code, later⟩ := reliable 0 handler now now_ready
    exact ⟨after, called, now_ready.of_registry code.registry later, conducts.code code⟩
  obtain ⟨after, served, -, conducts⟩ := Run.forM_returns serves
    (due status (arranged (live changes))) ⟨ready, .rest⟩
  rw [stateAfter, Run.servicePolled_eq _ status _ (live_inRange changes).arranged lists,
    bind_ok served]
  exact conducts

/-- The first binding past the slots, served outside of any dispatch. -/
theorem Handlers.serviceUnslotted_conducts {system : System β γ} (ready : system.Ready valid) :
    system.machine.Conducts ι
      (stateAfter (Run.serviceUnslotted (handlers.call 0)) system).machine := by
  obtain ⟨word, bank, read, later⟩ := answers.enable _ ready.bank
  obtain ⟨middle, lines, kept, same⟩ : ∃ middle,
      Run.onMachine Bus.enabledLines system = .ok word.lines middle ∧
        middle.registry = system.registry ∧ middle.machine.bank = bank :=
    ⟨_, Run.onMachine_ok (bind_ok (Bus.read_ok read)), rfl, rfl⟩
  have closed := Machine.closed_conducts (ι := ι) system.machine
  have conducts : system.machine.Conducts ι middle.machine :=
    (Run.readLines_maintains closed (by decide)).of_ok .rest lines
  unfold Run.serviceUnslotted
  rw [stateAfter_bind lines, stateAfter_get]
  cases (middle.vectored.toList.drop slotCount).findSome? (Run.enabledBinding? word.lines) with
  | none => exact conducts
  | some found =>
    obtain ⟨line, routine⟩ := found
    have logged := Run.log_ok (.servingUnslotted line) middle
    obtain ⟨after, called, code, -⟩ := reliable 0 (.routine routine)
      { middle with machine := middle.machine.logged (.servingUnslotted line) }
      (ready.of_registry kept (by rw [Machine.logged_bank, same]; exact later))
    simp only
    rw [stateAfter_bind logged, stateAfter_bind called]
    exact ((Run.log_maintains closed _).of_ok conducts logged).code code

omit answers reliable in
/-- An operation that runs no handlers. -/
theorem Operation.perform_conducts {op : Operation} (quiet : op.serves = false)
    (other : op ≠ .handleIrq) (call : Nat → Handler → Run β γ Unit) (start : Machine β γ) :
    Maintains (fun system : System β γ => start.Conducts ι system.machine) (op.perform call) :=
  op.perform_maintains_of_closed (Machine.closed_conducts start)
    (fun _ => Operation.ne_vector_of_reads) (fun _ => Operation.ne_vector_of_writes)
    (fun serves => absurd (serves.symm.trans quiet) nofun) (fun dispatch => absurd dispatch other)
    (fun _ _ before => before) (fun _ _ _ before => before) (fun _ _ _ before => before)
    fun _ _ _ before => before

/-- **A request** that keeps off the vector register, or a dispatch. -/
theorem Handlers.perform_conducts [StatusRegister γ] {request : Request ι}
    (spares : request.SparesVector) {system : System β γ} (held : valid system.machine.bank)
    (listed : system.polled.Listed) :
    system.machine.Conducts ι (stateAfter (handlers.perform request) system).machine := by
  have ready := System.ready_of_listed held listed
  have steps : ∀ step : Bus β γ Reply, (∀ now : System β γ, Maintains
      (fun machine => system.machine.Conducts ι ({ now with machine } : System β γ).machine) step) →
        system.machine.Conducts ι (stateAfter (Run.onMachine step) system).machine :=
    fun step keeps =>
      have maintains : Maintains (fun now : System β γ => system.machine.Conducts ι now.machine)
          (Run.onMachine step) := Run.onMachine_maintains keeps
      maintains system .rest
  have closed := Machine.closed_conducts (ι := ι) system.machine
  cases request with
  | action action =>
    cases action with
    | register op =>
      exact steps _ fun now => op.perform_maintains (closed.machine now) spares.1 spares.2
    | line op =>
      exact steps _ fun now => op.perform_maintains (closed.machine now) spares.1 spares.2
    | status op => exact steps _ fun now => op.perform_maintains (closed.machine now)
    | bench action => exact .code .rest (.bench action (.rest system))
    | call handler =>
      obtain ⟨after, called, code, -⟩ := reliable 0 handler system ready
      show system.machine.Conducts ι (stateAfter (handlers.call 0 handler >>= _) system).machine
      rw [stateAfter_bind called]
      split <;> exact .code .rest code
    | interrupt => exact .rest
    | fail => exact .rest
  | operation op =>
    have otherwise : op.serves = false → op ≠ .handleIrq →
        system.machine.Conducts ι (stateAfter (op.perform handlers.call) system).machine :=
      fun quiet other => Operation.perform_conducts quiet other _ _ system .rest
    cases op with
    | handleIrq =>
      show system.machine.Conducts ι (stateAfter (_ >>= _) system).machine
      rw [stateAfter_reply]
      exact handleIrq_conducts answers reliable ready
    | servicePolled status =>
      show system.machine.Conducts ι (stateAfter (_ >>= _) system).machine
      rw [stateAfter_reply]
      exact servicePolled_conducts reliable status held listed
    | serviceUnslotted =>
      show system.machine.Conducts ι (stateAfter (_ >>= _) system).machine
      rw [stateAfter_reply]
      exact serviceUnslotted_conducts answers reliable ready
    | _ => exact otherwise rfl nofun

/-- **A run** that meets valid banks only. -/
theorem Handlers.carryOut_conducts [StatusRegister γ] {requests : List (Request ι)}
    (spared : ∀ request ∈ requests, request.SparesVector) {start : System β γ}
    (listed : start.polled.Listed)
    (held : ∀ count, valid (handlers.carryOut (requests.take count) start).machine.bank) :
    start.machine.Conducts ι (handlers.carryOut requests start).machine := by
  induction requests generalizing start with
  | nil => exact .rest
  | cons request rest ih =>
    have first := perform_conducts answers reliable (spared _ List.mem_cons_self) (held 0) listed
    refine first.trans (ih (fun other member => spared other (List.mem_cons_of_mem _ member))
      (handlers.perform_listed request start listed) fun count => ?_)
    exact held (count + 1)

end Runs

/-! ### The handshake -/

section Handshake

variable {γ : Type} [StatusRegister γ]

/-- How the handlers' dispatches, and the runs they are taken in, treat the vector register. -/
structure Handlers.KeepHandshake (ι : Type) {β : Type} [RegisterBank β] [Benched ι β]
    (handlers : Handlers β γ) (valid : β → Prop) : Prop where
  /-- A dispatch in vectored mode returns. It reads the vector first, serves one handler, and
  acknowledges last. -/
  vectored : ∀ active (system : System β γ), valid system.machine.bank →
    system.mode = .vectored → ∃ after, Run.handleIrq handlers.call active system = .ok () after ∧
      system.Handshakes (Run.Conducted ι handlers.call active) active after
  /-- A dispatch in polled mode returns. It reads the lines that request an IRQ, and touches no
  other register itself. -/
  polled : ∀ active (system : System β γ), system.Ready valid → system.mode = .polled →
    ∃ after, Run.handleIrq handlers.call active system = .ok () after ∧
      system.Scans (Run.Conducted ι handlers.call active) active after
  /-- In a run the accesses to the vector register are balanced. -/
  run : ∀ (requests : List (Request ι)) (machine : Machine β γ),
    (∀ request ∈ requests, request.SparesVector) →
    (∀ count, valid (handlers.carryOut (requests.take count) (System.fresh machine)).machine.bank) →
    machine.Brackets (handlers.carryOut requests (System.fresh machine)).machine

/-- What the simulated controller counts in dispatches, in runs and inside of handlers. -/
structure Handlers.CountEvenly (handlers : Handlers Simulated γ) (valid : Simulated → Prop) :
    Prop where
  /-- A dispatch reads the vector as often as it acknowledges, and the level of service is back. -/
  dispatch : ∀ active (system : System Simulated γ), system.Ready valid →
    ∃ after, Run.handleIrq handlers.call active system = .ok () after ∧
      system.machine.bank.Evenly after.machine.bank
  /-- So does a run. -/
  run : ∀ (requests : List (Request Simulated.BenchAction)) (machine : Machine Simulated γ),
    (∀ request ∈ requests, request.SparesVector) →
    (∀ count, valid (handlers.carryOut (requests.take count) (System.fresh machine)).machine.bank) →
    machine.bank.Evenly (handlers.carryOut requests (System.fresh machine)).machine.bank
  /-- Inside of a handler the level of service is one up for every dispatch in progress. -/
  inside : ∀ active depth (start now : System Simulated γ),
    System.Inside Simulated.BenchAction active start depth now →
      now.machine.bank.inService = start.machine.bank.inService + depth

/-- **The handshake with the controller.** Over every bank whose vectors are null or the addresses
of routines, with handlers that return and leave the vector register to the dispatches nested in
them, however deep. -/
theorem vector_handshake :
    (∀ {ι β : Type} [RegisterBank β] [Benched ι β] (handlers : Handlers β γ) (valid : β → Prop),
      AnswersDispatch valid → (∀ active, Run.Reliable ι valid handlers.call active) →
        handlers.KeepHandshake ι valid) ∧
    ∀ (handlers : Handlers Simulated γ) (valid : Simulated → Prop), AnswersDispatch valid →
      (∀ active, Run.Reliable Simulated.BenchAction valid handlers.call active) →
        handlers.CountEvenly valid := by
  have listed : ∀ {β : Type} (machine : Machine β γ), (System.fresh machine).polled.Listed :=
    fun _ => ⟨[], Table.lists_changes []⟩
  constructor
  · intro ι β _ _ handlers valid answers reliable
    refine ⟨fun active system held mode => ?_, fun active system ready mode => ?_,
      fun requests machine spared held => ?_⟩
    · have ready : system.Ready valid := ⟨held, fun polled => nomatch mode.symm.trans polled⟩
      obtain ⟨after, handled, dispatches, -⟩ :=
        Run.handleIrq_returns answers (reliable active) ready
      exact ⟨after, handled, dispatches.handshakes (fun _ _ _ ran => ran.2.minds) mode⟩
    · obtain ⟨after, handled, dispatches, -⟩ :=
        Run.handleIrq_returns answers (reliable active) ready
      exact ⟨after, handled, dispatches.scans (fun _ _ _ ran => ran.2.minds) mode⟩
    · exact (Handlers.carryOut_conducts answers reliable spared (listed machine) held).brackets
  · intro handlers valid answers reliable
    refine ⟨fun active system ready => ?_, fun requests machine spared held => ?_,
      fun active depth start now inside => inside.inService⟩
    · obtain ⟨after, handled, dispatches, -⟩ :=
        Run.handleIrq_returns answers (reliable active) ready
      exact ⟨after, handled, dispatches.evenly fun _ _ _ ran => ran.2.evenly⟩
    · exact (Handlers.carryOut_conducts answers reliable spared (listed machine) held).evenly

/-- A firmware whose handlers enable line 3 and take an interrupt. -/
def Firmware.reentrant : Firmware Simulated.BenchAction :=
  ⟨fun _ => .ofList [.line (.enable 3), .interrupt], 2⟩

theorem Firmware.reentrant_reliable (active : Nat) :
    Run.Reliable Simulated.BenchAction Simulated.PresentsVectors
      (Firmware.reentrant.handlers 3 : Handlers Simulated γ).call active := by
  have enables : (Action.line (.enable 3) : Action Simulated.BenchAction).SparesVector := by
    refine ⟨nofun, fun offset written => ?_⟩
    obtain rfl := Option.some.inj written
    decide
  have uses : ∀ handler, (Firmware.reentrant.program handler).Uses fun action =>
      action.SparesVector ∧
        (action = .interrupt ∨ action.Answered γ Simulated.PresentsVectors) :=
    fun _ => ⟨⟨enables, .inr fun _ _ _ _ presents => ⟨_, _, rfl, presents⟩⟩,
      fun _ => ⟨⟨⟨nofun, nofun⟩, .inl rfl⟩, fun _ => trivial⟩⟩
  exact Firmware.reliable Simulated.answersDispatch uses (by decide) (by
    show 2 < 3 + active
    omega)

/-- Line 3 is bound and raised, and a dispatch is taken. -/
def reentrantRun : List (Request Simulated.BenchAction) :=
  [.operation (.setMode .vectored), .operation (.bindVectored 3 (.user ⟨0, by decide⟩) 5),
    .action (.line (.enable 3)), .action (.line (.raise 3)), .operation .handleIrq]

/-- The handler takes an interrupt in turn: two dispatches, one inside the other. -/
theorem vector_handshake_nested :
    (Firmware.reentrant.handlers 3 : Handlers Simulated ControlField).KeepHandshake
        Simulated.BenchAction Simulated.PresentsVectors ∧
      (Firmware.reentrant.handlers 3 : Handlers Simulated ControlField).CountEvenly
        Simulated.PresentsVectors ∧
      Machine.Brackets (.atPowerUp Simulated.powerUp)
        ((Firmware.reentrant.handlers 3).carryOut reentrantRun
          (System.fresh (.atPowerUp Simulated.powerUp))).machine ∧
      Simulated.powerUp.Evenly
        ((Firmware.reentrant.handlers 3).carryOut reentrantRun
          (System.fresh (.atPowerUp Simulated.powerUp))).machine.bank ∧
      ((Firmware.reentrant.handlers 3).carryOut reentrantRun
        (System.fresh (.atPowerUp Simulated.powerUp))).machine.bank.vectorReads = 2 := by
  have shakes := vector_handshake.1
    (Firmware.reentrant.handlers 3 : Handlers Simulated ControlField) Simulated.PresentsVectors
    Simulated.answersDispatch Firmware.reentrant_reliable
  have counts := vector_handshake.2
    (Firmware.reentrant.handlers 3 : Handlers Simulated ControlField) Simulated.PresentsVectors
    Simulated.answersDispatch Firmware.reentrant_reliable
  have spared : ∀ request ∈ reentrantRun, request.SparesVector := by
    simp [reentrantRun, Request.SparesVector, Action.SparesVector, Action.reads, Action.written?,
      LineOp.reads, LineOp.written?, Offset.enable, Offset.soft, Offset.vector]
  have early : ∀ count ≤ reentrantRun.length,
      ((Firmware.reentrant.handlers 3).carryOut (reentrantRun.take count)
        (System.fresh (.atPowerUp Simulated.powerUp))).machine.bank.PresentsVectors := by
    decide +kernel
  have held : ∀ count, ((Firmware.reentrant.handlers 3).carryOut (reentrantRun.take count)
      (System.fresh (.atPowerUp Simulated.powerUp))).machine.bank.PresentsVectors := by
    intro count
    rw [List.take_eq_take_min]
    exact early _ (Nat.min_le_right _ _)
  exact ⟨shakes, counts, shakes.run reentrantRun _ spared held,
    counts.run reentrantRun _ spared held, by decide +kernel⟩

end Handshake

end VectoredInterrupts
