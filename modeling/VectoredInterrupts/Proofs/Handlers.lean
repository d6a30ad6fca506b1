/-
**Handlers and runs.**

The dispatcher goes by the *registry*: both tables and the mode. `Handlers` are whatever a system
may be given as handlers: they do what they like to the machine and take nested interrupts, and the
registry is out of their reach. A run carries out requests one after another, and goes on after one
that faults (`Handlers.carryOut`).

* `Run.invoke_maintains`: a handler of the firmware maintains what its program maintains, however
  deeply its calls and the interrupts it takes are nested. So `Firmware.handlers` are handlers;
* `Command.session_eq_carryOut`: a session of commands, scopes included, is a run.
-/

import VectoredInterrupts.Proofs.Steps

namespace VectoredInterrupts

/-- What a dispatch goes by. -/
structure Registry where
  polled : Table Handler
  vectored : Table Routine
  mode : Mode

/-- The registry of a system. -/
def System.registry {β γ : Type} (system : System β γ) : Registry :=
  ⟨system.polled, system.vectored, system.mode⟩

/-- From a place on, the table binds some line to this. -/
def Table.BindsFrom {α : Type} (place : Nat) (table : Table α) (payload : α) : Prop :=
  ∃ entry ∈ table.toList.drop place, entry.line.isSome ∧ entry.payload = payload

/-- A dispatch may find the handler by a search: of the polled table, or of the vectored table past
the slots. -/
def Registry.Finds (registry : Registry) (handler : Handler) : Prop :=
  match registry.mode with
  | .polled => registry.polled.BindsFrom 0 handler
  | .vectored => ∃ routine, handler = .routine routine ∧
      registry.vectored.BindsFrom slotCount routine

/-- A program carries out allowed actions only, whatever the replies are. -/
def Program.Uses {ι : Type} (allowed : Action ι → Prop) : Program ι → Prop
  | .finish => True
  | .act action next => allowed action ∧ ∀ reply, (next reply).Uses allowed

theorem Program.Uses.imp {ι : Type} {allowed others : Action ι → Prop} {program : Program ι}
    (uses : program.Uses allowed) (implies : ∀ action, allowed action → others action) :
    program.Uses others := by
  induction program with
  | finish => trivial
  | act action next ih => exact ⟨implies action uses.1, fun reply => ih reply (uses.2 reply)⟩

theorem Program.Uses.of_forall {ι : Type} {allowed : Action ι → Prop} {program : Program ι}
    (every : ∀ action, allowed action) : program.Uses allowed := by
  induction program with
  | finish => trivial
  | act action next ih => exact ⟨every action, ih⟩

/-- The offsets that an action reads itself. -/
def Action.reads {ι : Type} : Action ι → List Nat
  | .register op => op.reads
  | .line op => op.reads
  | .status _ | .bench _ | .call _ | .interrupt | .fail => []

/-- The offset that an action writes itself, if any. -/
def Action.written? {ι : Type} : Action ι → Option Nat
  | .register op => op.written?
  | .line op => op.written?
  | .status _ | .bench _ | .call _ | .interrupt | .fail => none

/-! ### Steps of a system -/

section Moves

variable {β γ : Type} [RegisterBank β]

/-- One step of code on the machine, which leaves the firmware state alone. -/
inductive System.Step (readable writable : Nat → Prop) : System β γ → System β γ → Prop
  | machine (system : System β γ) {after : Machine β γ}
      (step : Machine.Step readable writable system.machine after) :
      Step readable writable system { system with machine := after }

/-- One step of a dispatch: a step on the machine, another spurious interrupt, or the mark of a
handler that is to be served. -/
inductive System.Move (readable writable : Nat → Prop) : System β γ → System β γ → Prop
  | step {before after : System β γ} (step : System.Step readable writable before after) :
      Move readable writable before after
  | counted (system : System β γ) :
      Move readable writable system { system with spurious := system.spurious + 1 }
  | marked (active : Nat) (handler : Handler) (system : System β γ) :
      Move readable writable system
        { system with machine.trace := system.machine.trace.push (.dispatched active handler) }

variable {readable writable : Nat → Prop}

theorem Closed.of_move {holds : System β γ → Prop}
    (closed : Closed (System.Move readable writable) holds) :
    Closed (System.Step readable writable) holds :=
  fun _ _ step => closed (.step step)

theorem Closed.machine {holds : System β γ → Prop}
    (closed : Closed (System.Step readable writable) holds) (system : System β γ) :
    Closed (Machine.Step readable writable) fun machine => holds { system with machine } :=
  fun before _ step => closed (.machine { system with machine := before } step)

theorem Closed.of_machine {holds : Machine β γ → Prop}
    (closed : Closed (Machine.Step readable writable) holds) :
    Closed (System.Step readable writable) fun system : System β γ => holds system.machine := by
  rintro before after step held
  cases step with
  | machine step => exact closed step held

/-- A property of the registry and the bank is undisturbed by dispatches. -/
theorem System.closed_of_undisturbed {holds : Registry → β → Prop}
    (undisturbed : ∀ registry, Undisturbed writable (holds registry)) :
    Closed (System.Move (fun _ => True) writable) fun system : System β γ =>
      holds system.registry system.machine.bank := by
  intro before after move held
  cases move with
  | step step =>
    cases step with
    | machine step => exact (undisturbed before.registry).closed step held
  | counted => exact held
  | marked => exact held

end Moves

namespace Run

section Machine

variable {β γ α : Type}

theorem onMachine_ok {step : Bus β γ α} {system : System β γ} {machine : Machine β γ} {value : α}
    (returns : step system.machine = .ok value machine) :
    onMachine step system = .ok value { system with machine } := by
  rw [onMachine, returns]

theorem onMachine_error {step : Bus β γ α} {system : System β γ} {machine : Machine β γ}
    {fault : Fault} (faults : step system.machine = .error fault machine) :
    onMachine step system = .error fault { system with machine } := by
  rw [onMachine, faults]

/-- A step of the machine leaves the firmware state alone. -/
theorem onMachine_leaves {step : Bus β γ α} {system after : System β γ} {value : α}
    (returns : onMachine step system = .ok value after) :
    after.registry = system.registry ∧ after.spurious = system.spurious := by
  unfold onMachine at returns
  split at returns
  · cases returns
    exact ⟨rfl, rfl⟩
  · cases returns

theorem stateAfter_onMachine (step : Bus β γ α) (system : System β γ) :
    stateAfter (onMachine step) system =
      { system with machine := stateAfter step system.machine } := by
  unfold stateAfter onMachine
  cases step system.machine <;> rfl

theorem log_ok (notice : Notice) (system : System β γ) :
    (onMachine (Bus.log notice) : Run β γ Unit) system =
      .ok () { system with machine := system.machine.logged notice } :=
  onMachine_ok (Bus.log_ok _ _)

theorem onMachine_bind {ρ : Type} (first : Bus β γ α) (next : α → Bus β γ ρ) :
    onMachine (first >>= next) = onMachine first >>= fun value => onMachine (next value) := by
  funext system
  cases result : first system.machine with
  | ok value machine =>
    rw [bind_ok (onMachine_ok result), onMachine, bind_ok result]
    rfl
  | error fault machine =>
    rw [bind_error (onMachine_error result), onMachine_error (bind_error result)]

/-- A step of the machine has no access to the firmware state. -/
theorem onMachine_maintains {holds : System β γ → Prop} {step : Bus β γ α}
    (maintains : ∀ system : System β γ,
      Maintains (fun machine => holds { system with machine }) step) :
    Maintains holds (onMachine step) := by
  intro system before
  rw [stateAfter_onMachine]
  exact maintains system system.machine before

end Machine

variable {ι β γ α : Type} [RegisterBank β] {readable writable : Nat → Prop}
  {holds : System β γ → Prop}

section Steps

variable (closed : Closed (System.Step readable writable) holds)

include closed

theorem log_maintains (notice : Notice) :
    Maintains holds (onMachine (Bus.log notice) : Run β γ Unit) :=
  onMachine_maintains fun system => Bus.log_maintains (closed.machine system) notice

theorem refuse_maintains (reason : Refusal) :
    Maintains holds (onMachine (Bus.refuse reason) : Run β γ (Except Refusal α)) :=
  onMachine_maintains fun system => Bus.refuse_maintains (closed.machine system) reason

theorem readLines_maintains {offset : Nat} (allowed : readable offset) :
    Maintains holds (onMachine (do return (← Bus.read offset).lines) : Run β γ LineSet) :=
  onMachine_maintains fun system => Bus.readLines_maintains (closed.machine system) allowed

theorem write_maintains {offset : Nat} (value : Word) (allowed : writable offset) :
    Maintains holds (onMachine (Bus.write offset value) : Run β γ Unit) :=
  onMachine_maintains fun system => Bus.write_maintains (closed.machine system) value allowed

end Steps

section Serve

variable {serve : Handler → Run β γ Unit}

omit [RegisterBank β] in
theorem servicePolled_maintains
    (serves : ∀ system : System β γ, holds system → ∀ handler, system.polled.BindsFrom 0 handler →
      Maintains holds (serve handler))
    (status : LineSet) : Maintains holds (servicePolled serve status) := by
  intro system before
  have bound : ∀ entry ∈ system.polled.toList, entry.line.isSome →
      Maintains holds (serve entry.payload) :=
    fun entry member occupied => serves system before _ ⟨entry, member, occupied, rfl⟩
  refine (?_ : Maintains holds (serviceEntries serve status system.polled.toList)) system before
  generalize system.polled.toList = entries at bound
  induction entries with
  | nil => exact .pure _
  | cons entry rest ih =>
    have ih := ih fun other member => bound other (List.mem_cons_of_mem _ member)
    unfold serviceEntries
    cases occupied : entry.line with
    | none => exact .pure _
    | some line =>
      refine Maintains.bind (.checked _) fun requested => .ite ?_ ih
      exact (bound entry List.mem_cons_self (by rw [occupied]; rfl)).bind fun _ =>
        ih.bind fun _ => .pure _

omit [RegisterBank β] in
/-- The binding that a search finds is in the part of the table that is searched. -/
theorem bindsFrom_of_findSome? {table : Table Routine} {enabled : LineSet} {line : Nat}
    {routine : Routine}
    (found : (table.toList.drop slotCount).findSome? (enabledBinding? enabled) =
      some (line, routine)) : table.BindsFrom slotCount routine := by
  obtain ⟨entry, member, binds⟩ := List.exists_of_findSome?_eq_some found
  unfold enabledBinding? at binds
  split at binds
  next other occupied =>
    refine ⟨entry, member, by rw [occupied]; rfl, ?_⟩
    split at binds
    · exact (Prod.mk.inj (Option.some.inj binds)).2
    · cases binds
  · cases binds

theorem serviceUnslotted_maintains (closed : Closed (System.Step readable writable) holds)
    (enable : readable Offset.enable)
    (serves : ∀ system : System β γ, holds system → ∀ routine,
      system.vectored.BindsFrom slotCount routine → Maintains holds (serve (.routine routine))) :
    Maintains holds (serviceUnslotted serve) := by
  refine Maintains.bind (readLines_maintains closed enable) fun enabled system before => ?_
  rw [stateAfter_get]
  split
  next line routine found =>
    have served := serves system before routine (bindsFrom_of_findSome? found)
    exact ((log_maintains closed _).bind fun _ => served.bind fun _ => .pure _) system before
  · exact before

end Serve

section Modes

variable {call : Nat → Handler → Run β γ Unit} {active : Nat} {system : System β γ}

theorem handleIrq_of_polled (mode : system.mode = .polled) :
    handleIrq call active system = handlePolled (dispatch call active) system := by
  rw [handleIrq, bind_get, mode]

theorem handleIrq_of_vectored (mode : system.mode = .vectored) :
    handleIrq call active system = handleVectored (dispatch call active) system := by
  rw [handleIrq, bind_get, mode]

end Modes

/-- What a dispatch maintains, given what it maintains to serve a handler that it finds by a search,
a routine that the controller presents, and a spurious interrupt. It does not search a table unless
its mode is that of the table. -/
theorem handleIrq_maintains_of_serves (closed : Closed (System.Step readable writable) holds)
    (reads : ∀ offset ∈ [Offset.irqStatus, Offset.enable, Offset.vector], readable offset)
    (vector : writable Offset.vector) {call : Nat → Handler → Run β γ Unit} {active : Nat}
    (found : ∀ begun now : System β γ, holds begun → holds now → ∀ handler,
      { now.registry with mode := begun.mode }.Finds handler →
        Maintains holds (dispatch call active handler))
    (presented : ∀ number, Maintains holds (dispatch call active (.routine (.user number))))
    (spurious : ∀ handler, handler = .spurious ∨ handler = .routine .dummy →
      Maintains holds (serveSpurious (dispatch call active) handler)) :
    Maintains holds (handleIrq call active) := by
  intro begun before
  rw [handleIrq, stateAfter_get]
  have found := fun now => found begun now before
  cases mode : begun.mode with
  | polled =>
    rw [mode] at found
    refine Maintains.bind (readLines_maintains closed (reads _ (by simp))) (fun status => ?_) begun
      before
    refine (log_maintains closed _).bind fun _ => ?_
    refine (servicePolled_maintains found status).bind fun _ => ?_
    exact .ite (spurious _ (.inl rfl)) (.pure _)
  | vectored =>
    rw [mode] at found
    have read : Maintains holds (onMachine Bus.vector : Run β γ Word) :=
      onMachine_maintains fun system =>
        Bus.read_maintains (closed.machine system) (reads _ (by simp))
    have dummy := spurious _ (.inr rfl)
    refine read.bind (fun address => ?_) begun before
    have serves_vector : Maintains holds (serveVector (dispatch call active) address) := by
      unfold serveVector
      split
      · refine (serviceUnslotted_maintains closed (reads _ (by simp)) fun now held routine binds =>
          found now held _ ⟨routine, rfl, binds⟩).bind fun served => ?_
        exact .ite (.pure _) dummy
      · exact dummy
      next routine marker stub _ =>
        cases routine with
        | dummy => exact absurd rfl stub
        | fallback => exact absurd rfl marker
        | user number => exact presented number
      · exact (log_maintains closed _).bind fun _ => dummy
    have rest : Maintains holds (do
        onMachine (Bus.log (.vectorRead address))
        serveVector (dispatch call active) address
        onMachine Bus.acknowledge) := by
      refine (log_maintains closed _).bind fun _ => serves_vector.bind fun _ => ?_
      exact write_maintains closed _ vector
    exact .ite (.bind (.throw _) fun _ => rest) rest

/-- A dispatch reads three registers at most, runs handlers and writes the vector register. -/
theorem handleIrq_maintains_of_closed (closed : Closed (System.Move readable writable) holds)
    (reads : ∀ offset ∈ [Offset.irqStatus, Offset.enable, Offset.vector], readable offset)
    (vector : writable Offset.vector) {call : Nat → Handler → Run β γ Unit} {active : Nat}
    (calls : ∀ handler, Maintains holds (call active handler)) :
    Maintains holds (handleIrq call active) := by
  have serves : ∀ handler, Maintains holds (dispatch call active handler) := fun handler =>
    Maintains.bind (fun system => closed (.marked active handler system)) fun _ => calls handler
  exact handleIrq_maintains_of_serves closed.of_move reads vector
    (fun _ _ _ _ handler _ => serves handler) (fun _ => serves _)
    fun handler _ => .bind (.modify fun system => closed (.counted system)) fun _ => serves handler

variable [StatusRegister γ] [Benched ι β]

/-- One action, given what the handlers and the interrupts that it runs maintain. -/
theorem perform_maintains_of_closed (closed : Closed (System.Step readable writable) holds)
    {call : Nat → Handler → Run β γ Unit} {nesting active : Nat}
    (benched : ∀ action : ι,
      Maintains holds (onMachine (Bus.onBank (Benched.act action)) : Run β γ Reply))
    (calls : ∀ handler, Maintains holds (call active handler))
    (interrupts : 0 < active → Maintains holds (handleIrq call (active + 1))) (action : Action ι)
    (reads : ∀ offset ∈ action.reads, readable offset)
    (writes : ∀ offset ∈ action.written?, writable offset) :
    Maintains holds (perform nesting call active action) := by
  cases action with
  | register op =>
    exact onMachine_maintains fun system => op.perform_maintains (closed.machine system) reads writes
  | line op =>
    exact onMachine_maintains fun system => op.perform_maintains (closed.machine system) reads writes
  | status op => exact onMachine_maintains fun system => op.perform_maintains (closed.machine system)
  | bench action => exact benched action
  | call handler =>
    refine (calls handler).bind fun _ => ?_
    split
    · exact .pure _
    · exact .pure _
  | interrupt =>
    by_cases taken : 0 < active ∧ active < nesting
    · rw [perform, if_pos taken]
      exact (interrupts taken.1).bind fun _ => .pure _
    · rw [perform, if_neg taken]
      exact .pure _
  | fail => exact .throw _

end Run

/-- A program maintains what each of its actions maintains. -/
theorem Program.run_maintains {ι β γ : Type} [RegisterBank β] {readable writable : Nat → Prop}
    {holds : System β γ → Prop} (closed : Closed (System.Step readable writable) holds)
    {perform : Action ι → Run β γ Reply} {allowed : Action ι → Prop}
    (performs : ∀ action, allowed action → Maintains holds (perform action))
    {program : Program ι} (uses : program.Uses allowed) :
    Maintains holds (program.run perform) := by
  induction program with
  | finish => exact .pure _
  | act action next ih =>
    refine (performs action uses.1).bind fun reply => ?_
    refine Maintains.bind (Run.onMachine_maintains fun system => ?_) fun _ => ih reply (uses.2 reply)
    exact Bus.record_maintains (closed.machine system) (by trivial)

section Firmware

variable {ι β γ : Type} [RegisterBank β] [StatusRegister γ] [Benched ι β]
  {readable writable : Nat → Prop}

/-- **A handler of the firmware.** It takes interrupts only inside of a dispatch. The induction is on
the frames left: what a handler calls, and what a nested interrupt runs, has fewer of them. -/
theorem Run.invoke_maintains_of_closed {holds : System β γ → Prop}
    (closed : Closed (System.Step readable writable) holds)
    (benched : ∀ action : ι,
      Maintains holds (onMachine (Bus.onBank (Benched.act action)) : Run β γ Reply))
    {firmware : Firmware ι}
    (uses : ∀ handler, (firmware.program handler).Uses fun action =>
      (∀ offset ∈ action.reads, readable offset) ∧ ∀ offset ∈ action.written?, writable offset)
    (frames : Nat) {active : Nat}
    (interrupts : 0 < active → ∀ call : Nat → Handler → Run β γ Unit,
      (∀ active handler, Maintains holds (call active handler)) →
        ∀ active, Maintains holds (handleIrq call active))
    (handler : Handler) : Maintains holds (invoke firmware frames active handler) := by
  induction frames generalizing active handler with
  | zero => exact .throw _
  | succ frames ih =>
    have user : Maintains holds (do
        onMachine (Bus.record (.entered handler))
        (firmware.program handler).run
          (perform firmware.nesting (invoke firmware frames) active)) := by
      refine Maintains.bind (onMachine_maintains fun system =>
        Bus.record_maintains (closed.machine system) (by trivial)) fun _ => ?_
      refine Program.run_maintains closed (fun action allowed => ?_) (uses handler)
      exact perform_maintains_of_closed closed benched (ih interrupts)
        (fun inside => interrupts inside _ (fun _ => ih fun _ => interrupts inside) _) action
        allowed.1 allowed.2
    unfold Run.invoke
    split
    · exact log_maintains closed _
    · exact log_maintains closed _
    · exact log_maintains closed _
    · exact user
    · exact user

end Firmware

/-! ### Properties of the registry and the bank -/

section Registry

variable {ι β γ : Type} [RegisterBank β] {holds : Registry → β → Prop} {writable : Nat → Prop}
  (undisturbed : ∀ registry, Undisturbed writable (holds registry))

include undisturbed

/-- A dispatch, over a property of the registry and the bank. -/
theorem Run.handleIrq_maintains (vector : writable Offset.vector)
    {call : Nat → Handler → Run β γ Unit}
    (calls : ∀ active handler,
      Maintains (fun system => holds system.registry system.machine.bank) (call active handler))
    (active : Nat) :
    Maintains (fun system => holds system.registry system.machine.bank)
      (handleIrq call active) :=
  handleIrq_maintains_of_closed (System.closed_of_undisturbed undisturbed) (fun _ _ => trivial)
    vector (calls active)

variable [StatusRegister γ] [Benched ι β]
  (benched : ∀ registry (action : ι), Maintains (holds registry) (Benched.act action))

omit [RegisterBank β] [StatusRegister γ] undisturbed in
include benched in
theorem Run.bench_maintains (action : ι) :
    Maintains (fun system : System β γ => holds system.registry system.machine.bank)
      (onMachine (Bus.onBank (Benched.act action)) : Run β γ Reply) :=
  onMachine_maintains fun system => Bus.onBank_maintains (benched system.registry action)

include benched

/-- An action, over a property of the registry and the bank. -/
theorem Run.perform_maintains (vector : writable Offset.vector)
    {call : Nat → Handler → Run β γ Unit}
    (calls : ∀ active handler,
      Maintains (fun system => holds system.registry system.machine.bank) (call active handler))
    (nesting active : Nat) (action : Action ι)
    (allowed : ∀ offset ∈ action.written?, writable offset) :
    Maintains (fun system => holds system.registry system.machine.bank)
      (perform nesting call active action) :=
  perform_maintains_of_closed (System.closed_of_undisturbed undisturbed).of_move
    (bench_maintains benched) (calls active) (fun _ => handleIrq_maintains undisturbed vector calls _)
    action (fun _ _ => trivial) allowed

end Registry

/-- A handler of the firmware, over a property of the registry and the bank. -/
theorem Run.invoke_maintains {ι β γ : Type} [RegisterBank β] [StatusRegister γ] [Benched ι β]
    (holds : Registry → β → Prop) {writable : Nat → Prop}
    (undisturbed : ∀ registry, Undisturbed writable (holds registry))
    (benched : ∀ registry (action : ι), Maintains (holds registry) (Benched.act action))
    (vector : writable Offset.vector) {firmware : Firmware ι}
    (uses : ∀ handler, (firmware.program handler).Uses
      fun action => ∀ offset ∈ action.written?, writable offset)
    (frames active : Nat) (handler : Handler) :
    Maintains (fun system : System β γ => holds system.registry system.machine.bank)
      (Run.invoke firmware frames active handler) :=
  invoke_maintains_of_closed (System.closed_of_undisturbed undisturbed).of_move
    (bench_maintains benched)
    (fun handler => (uses handler).imp fun _ allowed => ⟨fun _ _ => trivial, allowed⟩) frames
    (fun _ _ calls => handleIrq_maintains undisturbed vector calls) handler

/-! ### Handlers in general -/

/-- The handlers of a system. -/
structure Handlers (β γ : Type) where
  /-- How many dispatches may be in progress at once. -/
  nesting : Nat
  /-- Runs a handler while a number of dispatches are in progress. -/
  call : Nat → Handler → Run β γ Unit
  /-- Whether it returns or faults, it has not touched the registry. -/
  keeps : ∀ active handler system,
    (stateAfter (call active handler) system).registry = system.registry

section Handlers

variable {ι β γ : Type} [RegisterBank β] [StatusRegister γ] [Benched ι β]

/-- Nothing that the machine does disturbs a property of the registry. -/
theorem undisturbed_registry (holds : Registry → Prop) (registry : Registry) :
    Undisturbed (β := β) (fun _ => True) fun _ => holds registry where
  read _ _ before := before
  write _ _ _ _ before := before

/-- The handlers that a firmware gives, with a number of stack frames for them. -/
def Firmware.handlers (firmware : Firmware ι) (frames : Nat) : Handlers β γ where
  nesting := firmware.nesting
  call := Run.invoke firmware frames
  keeps active handler system := by
    exact Run.invoke_maintains (fun registry _ => registry = system.registry)
      (undisturbed_registry _) (fun _ _ _ before => before) trivial
      (fun handler => .of_forall fun _ _ _ => trivial) frames active handler system rfl

/-- A machine that has just been switched on. -/
def Machine.atPowerUp {β : Type} (bank : β) : Machine β ControlField :=
  ⟨bank, .afterReset, .off, #[]⟩

/-- A firmware whose handlers do nothing. -/
def Firmware.idle : Firmware ι := ⟨fun _ => .finish, 1⟩

/-- A request to a system: an action, or an operation on the controller's firmware state. -/
inductive Request (ι : Type) where
  | action (action : Action ι)
  | operation (op : Operation)

/-- Carries out a request outside of any dispatch. -/
def Handlers.perform (handlers : Handlers β γ) : Request ι → Run β γ Reply
  | .action action => Run.perform handlers.nesting handlers.call 0 action
  | .operation op => op.perform handlers.call

/-- The system after a sequence of requests. It goes on after a request that faults. -/
def Handlers.carryOut (handlers : Handlers β γ) (requests : List (Request ι))
    (system : System β γ) : System β γ :=
  requests.foldl (fun system request => stateAfter (handlers.perform request) system) system

theorem Handlers.carryOut_append (handlers : Handlers β γ) (first second : List (Request ι))
    (system : System β γ) :
    handlers.carryOut (first ++ second) system =
      handlers.carryOut second (handlers.carryOut first system) :=
  List.foldl_append

theorem Handlers.carryOut_cons (handlers : Handlers β γ) (request : Request ι)
    (rest : List (Request ι)) (system : System β γ) :
    handlers.carryOut (request :: rest) system =
      handlers.carryOut rest (stateAfter (handlers.perform request) system) :=
  rfl

theorem Handlers.carryOut_init (handlers : Handlers β γ) (requests : List (Request ι))
    (start : System β γ) :
    handlers.carryOut (.operation .init :: requests) start =
      handlers.carryOut requests (stateAfter Run.init start) := by
  rw [carryOut_cons]
  exact congrArg _ (stateAfter_reply Run.init (fun _ => Reply.done) start)

/-- A run maintains what each of its requests maintains. -/
theorem Handlers.carryOut_maintains (handlers : Handlers β γ) (holds : System β γ → Prop)
    {requests : List (Request ι)}
    (each : ∀ request ∈ requests, Maintains holds (handlers.perform request)) {system : System β γ}
    (before : holds system) : holds (handlers.carryOut requests system) := by
  induction requests generalizing system with
  | nil => exact before
  | cons request rest ih =>
    exact ih (fun other member => each other (List.mem_cons_of_mem _ member))
      (each request List.mem_cons_self system before)

end Handlers

/-! ### Sessions -/

section Sessions

variable {ι β γ α : Type} [RegisterBank β] [StatusRegister γ] [Benched ι β]

namespace Command

mutual

/-- The requests in a command. -/
def requests : Command ι → List (Request ι)
  | .action request => [.action request]
  | .operation op => [.operation op]
  | .withoutIrq body => requestsAll body
  | .masked body => requestsAll body

/-- The requests in a list of commands. -/
def requestsAll : List (Command ι) → List (Request ι)
  | [] => []
  | command :: rest => command.requests ++ requestsAll rest

end

end Command

/-- The step leaves what a run leaves whose requests are among the given ones, or only handle the
status word. -/
def Handlers.Amounts (handlers : Handlers β γ) (given : List (Request ι)) (step : Run β γ α) :
    Prop :=
  ∀ system, ∃ requests, stateAfter step system = handlers.carryOut requests system ∧
    ∀ request ∈ requests, request ∈ given ∨ ∃ op, request = .action (.status op)

namespace Handlers.Amounts

variable {handlers : Handlers β γ} {given later : List (Request ι)}

theorem mono {step : Run β γ α} (amounts : handlers.Amounts given step)
    (more : ∀ request ∈ given, request ∈ later) : handlers.Amounts later step := by
  intro system
  obtain ⟨requests, same, within⟩ := amounts system
  exact ⟨requests, same, fun request member => (within request member).imp_left (more request)⟩

theorem pure (value : α) : handlers.Amounts given (pure value : Run β γ α) :=
  fun _ => ⟨[], rfl, fun _ member => by cases member⟩

theorem bind {ρ : Type} {first : Run β γ α} {next : α → Run β γ ρ}
    (head : handlers.Amounts given first) (tail : ∀ value, handlers.Amounts given (next value)) :
    handlers.Amounts given (first >>= next) := by
  intro system
  obtain ⟨requests, same, within⟩ := head system
  cases result : first system with
  | ok value middle =>
    rw [stateAfter_ok result] at same
    obtain ⟨others, same_others, within_others⟩ := tail value middle
    refine ⟨requests ++ others, ?_, fun request member => ?_⟩
    · rw [stateAfter, bind_ok result, handlers.carryOut_append, ← same, ← same_others]
      rfl
    · exact (List.mem_append.mp member).elim (within request) (within_others request)
  | error fault middle =>
    rw [stateAfter_error result] at same
    exact ⟨requests, (stateAfter_error (bind_error result)).trans same, within⟩

/-- A request leaves what a run of it alone leaves. -/
theorem of_request (request : Request ι) (member : request ∈ given) :
    handlers.Amounts given (handlers.perform request) :=
  fun _ => ⟨[request], rfl, fun _ same => .inl (List.mem_singleton.mp same ▸ member)⟩

theorem readStatus : handlers.Amounts given (Run.onMachine Bus.readStatus) :=
  fun _ => ⟨[.action (.status .read)], rfl,
    fun _ same => .inr ⟨_, List.mem_singleton.mp same⟩⟩

theorem writeStatus (value : StatusWord) :
    handlers.Amounts given (Run.onMachine (Bus.writeStatus value)) :=
  fun _ => ⟨[.action (.status (.write value))], rfl,
    fun _ same => .inr ⟨_, List.mem_singleton.mp same⟩⟩

theorem disableIrq : handlers.Amounts given (Run.onMachine Bus.disableIrq) :=
  fun _ => ⟨[.action (.status .disableIrq)], rfl,
    fun _ same => .inr ⟨_, List.mem_singleton.mp same⟩⟩

end Handlers.Amounts

namespace Command

variable (firmware : Firmware ι) (frames : Nat)

mutual

theorem run_amounts : (command : Command ι) →
    ((firmware.handlers frames : Handlers β γ)).Amounts command.requests
      (command.run firmware frames)
  | .action request =>
    (Handlers.Amounts.of_request (.action request) List.mem_cons_self).bind
      fun _ => .pure _
  | .operation op =>
    (Handlers.Amounts.of_request (.operation op) List.mem_cons_self).bind
      fun _ => .pure _
  | .withoutIrq body => by
    refine Handlers.Amounts.bind ?_ fun _ => .pure _
    refine Handlers.Amounts.readStatus.bind fun saved => (Handlers.Amounts.writeStatus _).bind
      fun _ => (runAll_amounts body).bind fun _ => (Handlers.Amounts.writeStatus saved).bind
        fun _ => .pure _
  | .masked body => by
    refine Handlers.Amounts.bind ?_ fun _ => .pure _
    refine Handlers.Amounts.readStatus.bind fun saved => Handlers.Amounts.disableIrq.bind
      fun _ => (runAll_amounts body).bind fun _ => (Handlers.Amounts.writeStatus saved).bind
        fun _ => .pure _

theorem runAll_amounts : (commands : List (Command ι)) →
    ((firmware.handlers frames : Handlers β γ)).Amounts (requestsAll commands)
      (runAll firmware frames commands)
  | [] => .pure _
  | command :: rest => by
    refine Handlers.Amounts.bind ((run_amounts command).mono fun _ => List.mem_append_left _)
      fun _ => Handlers.Amounts.bind ((runAll_amounts rest).mono fun _ => List.mem_append_right _)
        fun _ => .pure _

end

/-- **A session is a run**, of the requests in its commands and of steps that handle the status
word. -/
theorem session_eq_carryOut (commands : List (Command ι)) (system : System β γ) :
    ∃ requests : List (Request ι),
      session firmware frames commands system =
        (firmware.handlers frames : Handlers β γ).carryOut requests system ∧
      ∀ request ∈ requests,
        request ∈ requestsAll commands ∨ ∃ op, request = .action (.status op) := by
  induction commands generalizing system with
  | nil => exact ⟨[], rfl, fun _ member => by cases member⟩
  | cons command rest ih =>
    obtain ⟨requests, same, within⟩ := run_amounts (β := β) (γ := γ) firmware frames command system
    obtain ⟨others, same_others, within_others⟩ := ih (command.attempt firmware frames system).2
    have attempt : (command.attempt firmware frames system).2 =
        stateAfter (command.run firmware frames) system := by
      unfold attempt stateAfter
      cases command.run firmware frames system <;> rfl
    refine ⟨requests ++ others, ?_, fun request member => ?_⟩
    · rw [Handlers.carryOut_append, ← same, ← attempt, ← same_others]
      rfl
    · rw [requestsAll, List.mem_append]
      rcases List.mem_append.mp member with early | late
      · exact (within request early).imp_left .inl
      · exact (within_others request late).imp_left .inr

end Command

end Sessions

end VectoredInterrupts
