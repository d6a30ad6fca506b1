/-
**No faults.**

Every check of the firmware stands before the step that it protects: lines are compared before they
are used as bits, slots before their registers are touched, and the tables list what registrations
have left, so they are dense and hold no line that does not exist. What remains is the vector of a
dispatch, which has to be the address of a routine. The simulated controller presents no other as
long as its slots and its default vector are left to the firmware.

* `Firmware.perform_safe`, `Command.run_safe`: a request, and a command;
* `Simulated.dependable`, `Firmware.keepsPresenting`: the simulated controller presents routines;
* `Command.session_counted`: its counters are those of the accesses to the vector register;
* `no_faults`: what a session can meet, over the simulated controller, over the memory mapped block,
  and over any bank at all.
-/

import VectoredInterrupts.Proofs.Dispatch.Safety

namespace VectoredInterrupts

/-! ### Requests -/

section Requests

variable {ι β γ : Type} [RegisterBank β] [StatusRegister γ] [Benched ι β] {stops : Fault → Prop}
  {valid : β → Prop}

/-- The request is one of the controller's firmware, or an action of the bench that returns. -/
def Request.Answerable (β : Type) [Benched ι β] (request : Request ι) : Prop :=
  request.OfController ∨
    ∃ action, request = .action (.bench action) ∧ Total (Benched.act action : EStateM Fault β Reply)

omit [RegisterBank β] [StatusRegister γ] [Benched ι β] in
theorem Total.returnsUnless {α : Type} {step : Run β γ α} (total : Total step)
    (system : System β γ) : step.ReturnsUnless stops system fun _ _ => True := by
  obtain ⟨value, after, returned⟩ := total system
  exact .inl ⟨value, after, returned, trivial⟩

omit [RegisterBank β] [StatusRegister γ] [Benched ι β] in
theorem Bus.onBank_total {α : Type} {step : EStateM Fault β α} (total : Total step) :
    Total (Bus.onBank step : Bus β γ α) := by
  intro machine
  obtain ⟨value, bank, returned⟩ := total machine.bank
  exact ⟨value, { machine with bank }, by rw [onBank, returned]⟩

omit [StatusRegister γ] [Benched ι β] in
/-- **An operation** returns, or a dispatch has stopped. -/
theorem Operation.perform_returns (dependable : Dependable stops valid)
    {call : Nat → Handler → Run β γ Unit}
    (calls : ∀ active handler, Run.Safe stops (System.Sound valid) (call active handler))
    (op : Operation) {system : System β γ} (sound : system.Sound valid) :
    (op.perform call).ReturnsUnless stops system fun _ _ => True := by
  have of_safe : ∀ {α : Type} {step : Run β γ α} (reply : α → Reply),
      step.Safe stops (System.Sound valid) →
        (step >>= fun value => pure (reply value)).ReturnsUnless stops system fun _ _ => True :=
    fun reply safe => (safe system sound).bind fun value after _ => .inl ⟨_, after, rfl, trivial⟩
  have of_polled : ∀ {op : Operation} {change}, op.polledChange? = some change → op ≠ .init →
      (op.perform call).ReturnsUnless stops system fun _ _ => True := by
    intro op change asked setUp
    obtain ⟨_, lists⟩ := sound.polled
    obtain ⟨reply, machine, returned, -⟩ :=
      perform_polled call asked setUp lists (live_distinct _) (live_inRange _)
    exact .inl ⟨reply, _, returned, trivial⟩
  have of_vectored : ∀ {op : Operation} {change}, op.vectoredChange? = some change → op ≠ .init →
      (op.perform call).ReturnsUnless stops system fun _ _ => True := by
    intro op change asked setUp
    obtain ⟨_, lists⟩ := sound.vectored
    rcases perform_vectored call asked setUp lists (live_distinct _) (live_inRange _) with
      ⟨reply, after, returned, -⟩ | ⟨fault, _, _, raised⟩
    · exact .inl ⟨reply, after, returned, trivial⟩
    · exact absurd raised (dependable.compliant.not_slotFault fault)
  cases op with
  | handleIrq => exact of_safe _ (Run.handleIrq_safe dependable (calls 1))
  | servicePolled status => exact of_safe _ (Run.servicePolled_safe (calls 0) status)
  | serviceUnslotted => exact of_safe _ (Run.serviceUnslotted_safe dependable (calls 0))
  | bindPolled | releasePolled | clearPolled => exact of_polled rfl fun same => by cases same
  | bindVectored | releaseVectored | releaseAllVectored | clearVectored =>
    exact of_vectored rfl fun same => by cases same
  | init | setMode | polledPosition | vectoredPosition | enableSlot | disableSlot
  | disableAllSlots =>
    refine Total.returnsUnless (perform_total dependable.compliant call rfl ?_ ?_) system
    · exact fun same => by cases same
    · simp [polledChange?, vectoredChange?]

/-- **A request** returns, or a dispatch has stopped. -/
theorem Firmware.perform_returns (dependable : Dependable stops valid) {firmware : Firmware ι}
    (perLine : firmware.PerLine) {frames : Nat} (enough : firmware.nesting < frames)
    {request : Request ι} (answerable : request.Answerable β) {system : System β γ}
    (sound : system.Sound valid) :
    ((firmware.handlers frames : Handlers β γ).perform request).ReturnsUnless stops system
      fun _ _ => True := by
  have of_total : ∀ {step : Bus β γ Reply}, Total step →
      (Run.onMachine step).ReturnsUnless stops system fun _ _ => True :=
    fun total => (Run.onMachine_total total).returnsUnless system
  rcases answerable with offered | ⟨action, rfl, total⟩
  · cases request with
    | operation op =>
      exact op.perform_returns dependable (fun active handler =>
        Firmware.invoke_safe dependable perLine (by omega) (by omega) handler) sound
    | action action =>
      cases action with
      | register op => exact of_total (op.perform_total dependable.compliant offered)
      | line op => exact of_total (op.perform_total dependable.compliant)
      | status op => exact of_total op.perform_total
      | bench | call | interrupt | fail => exact offered.elim
  · exact of_total (Bus.onBank_total total)

variable [SlotBank β]

/-- Requests leave the vectored table in order, too. -/
theorem Handlers.perform_vectored_listed (handlers : Handlers β γ) (request : Request ι) :
    Maintains (fun system => system.vectored.Listed) (handlers.perform request) := by
  rintro system ⟨changes, lists⟩
  show (stateAfter (handlers.perform request) system).vectored.Listed
  rw [handlers.vectored_after request lists (live_distinct _) (live_inRange _)]
  exact ⟨_, Table.lists_elim lists _⟩

/-- The firmware stays sound if the bank stays valid. -/
theorem Handlers.perform_sound (handlers : Handlers β γ) {request : Request ι}
    (bank : ∀ system : System β γ, system.Sound valid →
      valid (stateAfter (handlers.perform request) system).machine.bank) :
    Maintains (System.Sound valid) (handlers.perform request) :=
  fun system sound => ⟨handlers.perform_listed request system sound.polled,
    handlers.perform_vectored_listed request system sound.vectored, bank system sound⟩

end Requests

/-! ### Commands -/

section Commands

variable {ι β γ : Type} [RegisterBank β] [StatusRegister γ] [Benched ι β] {stops : Fault → Prop}
  {holds : System β γ → Prop} {readable writable : Nat → Prop} {firmware : Firmware ι}
  {frames : Nat}

omit [Benched ι β] in
/-- A step that reads or writes the status word only. -/
theorem Run.status_safe {α : Type} (closed : Closed (System.Step readable writable) holds)
    {step : Bus β γ α} (op : StatusOp) (reply : α → Reply)
    (same : (op.perform : Bus β γ Reply) = step >>= fun value => pure (reply value))
    (total : Total step) : Safe stops holds (onMachine step) := by
  refine .of_total (onMachine_total total) (onMachine_maintains fun system machine held => ?_)
  rw [← stateAfter_reply step reply, ← same]
  exact op.perform_maintains (closed.machine system) machine held

namespace Command

variable {allowed : Request ι → Prop}

mutual

/-- **A command**, if its requests are safe. -/
theorem run_safe (closed : Closed (System.Step readable writable) holds)
    (performs : ∀ request, allowed request →
      Run.Safe stops holds ((firmware.handlers frames : Handlers β γ).perform request)) :
    (command : Command ι) → (∀ request ∈ command.requests, allowed request) →
      Run.Safe stops holds (command.run firmware frames)
  | .action request, each =>
    (performs (.action request) (each _ List.mem_cons_self)).bind fun _ => .pure _
  | .operation op, each =>
    (performs (.operation op) (each _ List.mem_cons_self)).bind fun _ => .pure _
  | .withoutIrq body, each => by
    refine Run.Safe.bind ?_ fun _ => .pure _
    refine (Run.status_safe closed .read .bits rfl fun _ => ⟨_, _, rfl⟩).bind fun saved => ?_
    refine (Run.status_safe closed (.write _) (fun _ => .done) rfl fun _ => ⟨_, _, rfl⟩).bind
      fun _ => (runAll_safe closed performs body each).bind fun _ => ?_
    exact (Run.status_safe closed (.write saved) (fun _ => .done) rfl fun _ => ⟨_, _, rfl⟩).bind
      fun _ => .pure _
  | .masked body, each => by
    refine Run.Safe.bind ?_ fun _ => .pure _
    refine (Run.status_safe closed .read .bits rfl fun _ => ⟨_, _, rfl⟩).bind fun saved => ?_
    refine (Run.status_safe closed .disableIrq (fun _ => .done) rfl fun _ => ⟨_, _, rfl⟩).bind
      fun _ => (runAll_safe closed performs body each).bind fun _ => ?_
    exact (Run.status_safe closed (.write saved) (fun _ => .done) rfl fun _ => ⟨_, _, rfl⟩).bind
      fun _ => .pure _

theorem runAll_safe (closed : Closed (System.Step readable writable) holds)
    (performs : ∀ request, allowed request →
      Run.Safe stops holds ((firmware.handlers frames : Handlers β γ).perform request)) :
    (commands : List (Command ι)) → (∀ request ∈ requestsAll commands, allowed request) →
      Run.Safe stops holds (runAll firmware frames commands)
  | [], _ => .pure _
  | command :: rest, each =>
    (run_safe closed performs command fun request member =>
      each request (List.mem_append_left _ member)).bind fun _ =>
        (runAll_safe closed performs rest fun request member =>
          each request (List.mem_append_right _ member)).bind fun _ => .pure _

end

/-- What a session maintains if its requests do. -/
theorem session_maintains (holds : System β γ → Prop) (allowed : Request ι → Prop)
    {commands : List (Command ι)} (each : ∀ request ∈ requestsAll commands, allowed request)
    (status : ∀ op, allowed (.action (.status op)))
    (performs : ∀ request, allowed request →
      Maintains holds ((firmware.handlers frames : Handlers β γ).perform request))
    {start : System β γ} (held : holds start) : holds (session firmware frames commands start) := by
  obtain ⟨requests, same, within⟩ := session_eq_carryOut firmware frames commands start
  rw [same]
  refine Handlers.carryOut_maintains _ holds (fun request member => performs request ?_) held
  rcases within request member with given | ⟨op, rfl⟩
  · exact each request given
  · exact status op

/-- **After a session** the next command is answered, or stops where it may. -/
theorem attempt_after {valid : β → Prop} [SlotBank β] (dependable : Dependable stops valid)
    (allowed : Request ι → Prop) (earlier : List (Command ι)) (command : Command ι)
    (machine : Machine β γ) (perLine : firmware.PerLine) (enough : firmware.nesting < frames)
    (answerable : ∀ request, allowed request → request.Answerable β)
    (keeps : ∀ request, allowed request → ∀ system : System β γ, system.Sound valid →
      valid (stateAfter ((firmware.handlers frames).perform request) system).machine.bank)
    (status : ∀ op, allowed (.action (.status op)))
    (each : ∀ request ∈ requestsAll (command :: earlier), allowed request)
    (fresh : valid machine.bank) :
    (∃ answer, (command.attempt firmware frames
      (session firmware frames earlier (System.fresh machine))).1 = .ok answer) ∨
    ∃ fault, (command.attempt firmware frames
      (session firmware frames earlier (System.fresh machine))).1 = .error fault ∧ stops fault := by
  have sound : (System.fresh machine).Sound valid :=
    ⟨⟨[], Table.lists_changes []⟩, ⟨[], Table.lists_changes []⟩, fresh⟩
  have maintains : ∀ request, allowed request → Maintains (System.Sound valid)
      ((firmware.handlers frames : Handlers β γ).perform request) :=
    fun request allows => Handlers.perform_sound _ (keeps request allows)
  have safe : Run.Safe stops (System.Sound valid) (command.run firmware frames : Run β γ Answer) :=
    run_safe (System.closed_sound dependable.undisturbed).of_move (fun request allows =>
      .of_returns (fun system held => Firmware.perform_returns dependable perLine enough
        (answerable request allows) held) (maintains request allows)) command
        fun request member => each request (List.mem_append_left _ member)
  rcases safe _ (session_maintains _ allowed
    (fun request member => each request (List.mem_append_right _ member)) status maintains sound)
    with ⟨answer, after, returned, -⟩ | ⟨fault, after, raised, stopped⟩
  · exact .inl ⟨answer, by rw [attempt, returned]⟩
  · exact .inr ⟨fault, by rw [attempt, raised], stopped⟩

end Command

end Commands

/-! ### The memory mapped block -/

/-- The block is valid whatever it holds, and may present any vector. -/
theorem MemoryBlock.dependable : Dependable (· = .notARoutine) fun _ : MemoryBlock => True where
  compliant := compliant
  undisturbed := ⟨fun _ _ _ => trivial, fun _ _ _ _ _ => trivial⟩
  presents _ _ _ _ _ := .inr rfl

/-! ### The simulated controller -/

/-- A line that the bench drives exists. -/
def Simulated.BenchAction.InRange : Simulated.BenchAction → Prop
  | .raise line | .lower line => line < lineCount
  | .vectorReads | .acknowledgements | .inService => True

/-- The request is an action of the bench that drives no other lines than there are. -/
def Request.OnBench (request : Request Simulated.BenchAction) : Prop :=
  ∃ action : Simulated.BenchAction, request = .action (.bench action) ∧ action.InRange

namespace Simulated

theorem IsVector_address (routine : Routine) : routine.address.IsVector :=
  .inr ⟨routine, Routine.ofAddress?_address routine, rfl⟩

/-- The simulated controller presents routines until slots or the default vector are written. -/
theorem dependable : Dependable (fun _ => False) PresentsVectors where
  compliant := compliant
  undisturbed := by
    refine ⟨fun offset controller presents => ?_, fun offset value plain controller presents => ?_⟩
    · have slots := (SlotBank.undisturbed fun slots => ∀ k, (slots k).address.IsVector).read offset
        controller presents.1
      exact ⟨slots, ((undisturbed_defaultVector _).read offset controller rfl).symm ▸ presents.2⟩
    · have slots := (SlotBank.undisturbed fun slots => ∀ k, (slots k).address.IsVector).write offset
        value plain.1 controller presents.1
      exact ⟨slots, ((undisturbed_defaultVector _).write offset value plain.2 controller rfl).symm ▸
        presents.2⟩
  presents controller presents vector after read := by
    cases read
    exact .inl presents.currentVector

theorem bench_total {action : BenchAction} (inRange : action.InRange) :
    Total (Benched.act action : EStateM Fault Simulated Reply) := by
  have drives : ∀ line level, line < lineCount → Total (drive line level) := by
    intro line level small controller
    obtain ⟨inputs, drives⟩ := drive_ok small level controller
    exact ⟨(), _, drives⟩
  cases action with
  | raise line => exact (drives line true inRange).bind fun _ => .pure _
  | lower line => exact (drives line false inRange).bind fun _ => .pure _
  | vectorReads | acknowledgements | inService => exact fun controller => ⟨_, controller, rfl⟩

end Simulated

section Simulated

variable {γ : Type} [StatusRegister γ] {firmware : Firmware Simulated.BenchAction}

omit [StatusRegister γ] in
/-- No request of the controller's firmware is a plain write to a slot register. -/
theorem Request.OfController.sparesSlots {request : Request Simulated.BenchAction}
    (offered : request.OfController) : request.SparesSlots := by
  cases request with
  | operation => trivial
  | action action =>
    cases action with
    | register op =>
      rcases offered with ⟨mask, rfl⟩ | ⟨routine, rfl⟩
      all_goals
        rintro offset ⟨⟩
        decide
    | line op => exact fun offset written => LineOp.not_ofSlot_of_written written
    | status => exact nofun
    | bench | call | interrupt | fail => exact offered.elim

omit [StatusRegister γ] in
/-- It sets the default vector to routines only. -/
theorem Request.OfController.isVector {request : Request Simulated.BenchAction}
    (offered : request.OfController) {address : Word}
    (sets : request.defaultVector? = some address) : address.IsVector := by
  cases request with
  | operation op =>
    cases op with
    | init =>
      obtain rfl := Option.some.inj sets
      exact Simulated.IsVector_address _
    | _ => cases sets
  | action action =>
    cases action with
    | register op =>
      rcases offered with ⟨mask, rfl⟩ | ⟨routine, rfl⟩
      · cases sets
      · obtain rfl := Option.some.inj sets
        exact Simulated.IsVector_address _
    | _ => cases sets

/-- A request of the firmware or of its bench leaves the controller presenting routines. -/
theorem Firmware.keepsPresenting (perLine : firmware.PerLine) (frames : Nat)
    {request : Request Simulated.BenchAction} (allowed : request.OfController ∨ request.OnBench)
    {system : System Simulated γ} (sound : system.Sound Simulated.PresentsVectors) :
    (stateAfter ((firmware.handlers frames).perform request)
      system).machine.bank.PresentsVectors := by
  have spare : (firmware.handlers frames : Handlers Simulated γ).SpareSlots :=
    Firmware.spareSlots firmware Simulated.bench_maintains (fun handler =>
      (perLine handler).imp fun _ perLine offset written => (perLine.plain offset written).1) frames
  have spareDefault : (firmware.handlers frames : Handlers Simulated γ).SpareDefaultVector :=
    Firmware.spareDefaultVector firmware (fun handler =>
      (perLine handler).imp fun _ perLine offset written => (perLine.plain offset written).2) frames
  have spared : request.SparesSlots := by
    rcases allowed with offered | ⟨action, rfl, -⟩
    · exact offered.sparesSlots
    · exact nofun
  have vectors : ∀ address, request.defaultVector? = some address → address.IsVector := by
    rcases allowed with offered | ⟨action, rfl, -⟩
    · exact fun _ => offered.isVector
    · exact nofun
  obtain ⟨changes, lists⟩ := sound.vectored
  have later : Follows (fun _ slot => slot.address.IsVector)
      ((firmware.handlers frames).carryOut [request] system).registry
      ((firmware.handlers frames).carryOut [request] system).machine.bank :=
    Handlers.carryOut_related spare Simulated.bench_maintains
      (fun entry _ => Simulated.IsVector_address entry.slotWords.2) (fun _ _ vector => vector)
      (fun _ _ _ vector => vector)
      (fun other member => List.mem_singleton.mp member ▸ spared)
      ⟨lists.linesExist (live_inRange changes).arranged, sound.bank.1⟩
  refine ⟨later.related, ?_⟩
  rw [Handlers.defaultVector_after spareDefault]
  cases sets : request.defaultVector? with
  | none => exact sound.bank.2
  | some address => exact vectors address sets

end Simulated

/-! ### Sessions -/

/-- **A session counts.** -/
theorem Command.session_counted {γ : Type} [StatusRegister γ]
    {firmware : Firmware Simulated.BenchAction} (perLine : firmware.PerLine) (frames : Nat)
    (commands : List (Command Simulated.BenchAction))
    {start : System Simulated γ} (counted : start.machine.Counted) :
    (Command.session firmware frames commands start).machine.Counted := by
  have benched : ∀ action : Simulated.BenchAction, Maintains
      (fun machine : Machine Simulated γ => machine.Counted) (Bus.onBank (Benched.act action)) := by
    intro action machine counted
    rw [Bus.stateAfter_onBank]
    exact counted.of_counts (Simulated.bench_counts action machine.bank) rfl
  have closed := System.closed_counted (γ := γ)
  have calls : ∀ active handler, Maintains (fun system : System Simulated γ =>
      system.machine.Counted) ((firmware.handlers frames).call active handler) :=
    fun _ => Run.invoke_maintains_of_closed closed.of_move
      (fun action => Run.onMachine_maintains fun _ => benched action)
      (fun handler => (perLine handler).imp fun _ _ => ⟨fun _ _ => trivial, fun _ _ => trivial⟩)
      frames fun _ call calls active => Run.handleIrq_maintains_of_closed closed
        (fun _ _ => trivial) trivial (calls active)
  refine session_maintains (fun system => system.machine.Counted) (fun _ => True)
    (fun _ _ => trivial) (fun _ => trivial) (fun request _ => ?_) counted
  exact Handlers.perform_maintains_of_closed Machine.Counted closed (fun _ _ => trivial) trivial
    benched calls request (fun _ _ => trivial) fun _ _ => trivial

/-- **No faults, and legal accesses only.** Handlers keep to operations on single lines, and there
are frames enough for the interrupts that they take.

Over the simulated controller, from power-up on, whether it was set up or not, every command is
answered. Its counters do not overflow if there are not too many accesses to the vector register,
since no step of code lets them run ahead of these accesses.

Over any bank the controller's firmware makes accesses only that the register map allows, be it a
request alone, with any handlers that keep to the map as well, or a session. So over the memory
mapped block, whatever it holds, nothing stops a command but a vector that is not a routine. -/
theorem no_faults {γ : Type} [StatusRegister γ] :
    (∀ (firmware : Firmware Simulated.BenchAction) (frames : Nat) (status : γ)
        (verbosity : Verbosity) (earlier : List (Command Simulated.BenchAction))
        (command : Command Simulated.BenchAction), firmware.PerLine → firmware.nesting < frames →
      (∀ request ∈ Command.requestsAll (command :: earlier),
        request.OfController ∨ request.OnBench) →
      let reached := Command.session firmware frames earlier
        (System.fresh ⟨Simulated.powerUp, status, verbosity, #[]⟩)
      (∃ answer, (command.attempt firmware frames reached).1 = .ok answer) ∧
        (reached.machine.vectorAccesses < Simulated.counterRange →
          reached.machine.bank.vectorReads < Simulated.counterRange ∧
            reached.machine.bank.acknowledgements < Simulated.counterRange ∧
            reached.machine.bank.inService < Simulated.counterRange)) ∧
    (Closed (System.Move (fun _ => True) fun _ => True)
      fun system : System Simulated γ => system.machine.Counted) ∧
    (∀ {β : Type} [RegisterBank β] (handlers : Handlers (Recorded β) γ) (request : Request Empty),
      handlers.KeepToMap → request.OfController →
      Maintains (fun system : System (Recorded β) γ => system.machine.bank.KeepsToMap)
        (handlers.perform request)) ∧
    (∀ {β : Type} [RegisterBank β] (firmware : Firmware Empty) (frames : Nat) (bank : β)
        (status : γ) (verbosity : Verbosity) (commands : List (Command Empty)), firmware.PerLine →
      (∀ request ∈ Command.requestsAll commands, request.OfController) →
      (Command.session firmware frames commands
        (System.fresh ⟨Recorded.untouched bank, status, verbosity, #[]⟩)).machine.bank.KeepsToMap) ∧
    ∀ (firmware : Firmware Empty) (frames : Nat) (block : MemoryBlock) (status : γ)
        (verbosity : Verbosity) (earlier : List (Command Empty)) (command : Command Empty)
        (fault : Fault), firmware.PerLine → firmware.nesting < frames →
      (∀ request ∈ Command.requestsAll (command :: earlier), request.OfController) →
      (command.attempt firmware frames (Command.session firmware frames earlier
        (System.fresh ⟨block, status, verbosity, #[]⟩))).1 = .error fault →
      fault = .notARoutine := by
  refine ⟨fun firmware frames status verbosity earlier command perLine enough allowed => ⟨?_, ?_⟩,
    System.closed_counted,
    fun handlers request keep offered => Handlers.perform_keepsToMap keep offered,
    fun firmware frames bank status verbosity commands perLine offered => ?_,
    fun firmware frames block status verbosity earlier command fault perLine enough offered
      stopped => ?_⟩
  · have after := Command.attempt_after Simulated.dependable
      (fun request => request.OfController ∨ request.OnBench) earlier command
      ⟨Simulated.powerUp, status, verbosity, #[]⟩ perLine enough
      (fun request allows => allows.imp_right fun ⟨action, same, inRange⟩ =>
        ⟨action, same, Simulated.bench_total inRange⟩)
      (fun request allows system sound => Firmware.keepsPresenting perLine frames allows sound)
      (fun op => .inl trivial) allowed (show Simulated.powerUp.PresentsVectors by decide)
    exact after.resolve_right fun ⟨_, _, stopped⟩ => stopped
  · intro few
    have start : (⟨Simulated.powerUp, status, verbosity, #[]⟩ : Machine Simulated γ).Counted :=
      ⟨rfl, Nat.le_refl 0⟩
    obtain ⟨accesses, level⟩ := Command.session_counted perLine frames earlier
      (show (System.fresh _).machine.Counted from start)
    omega
  · exact Command.session_keepsToMap perLine frames offered (List.forall_mem_nil _)
  · rcases Command.attempt_after MemoryBlock.dependable Request.OfController earlier command
      ⟨block, status, verbosity, #[]⟩ perLine enough (fun _ => .inl) (fun _ _ _ _ => trivial)
      (fun op => trivial) offered trivial with ⟨answer, answered⟩ | ⟨raised, faulted, known⟩
    · cases answered.symm.trans stopped
    · cases faulted.symm.trans stopped
      exact known

/-- Line 3 is bound with IRQs held back, after a line that does not exist, and its handler takes an
interrupt in turn. -/
theorem no_faults_reentrant :
    (∃ answer, (Command.attempt Firmware.reentrant 3 (.operation .handleIrq)
      (Command.session Firmware.reentrant 3
        [.operation (.setMode .vectored), .operation (.bindVectored 40 .dummy 5),
          .masked [.operation (.bindVectored 3 (.user ⟨0, by decide⟩) 5)],
          .action (.line (.enable 3)), .action (.bench (.raise 3))]
        (System.fresh ⟨Simulated.powerUp, ControlField.afterReset, .off, #[]⟩))).1 = .ok answer) ∧
    Maintains (fun system : System (Recorded Cells) ControlField => system.machine.bank.KeepsToMap)
      (((Firmware.idle : Firmware Empty).handlers 2).perform
        (.operation (.bindVectored 3 .dummy 5) : Request Empty)) ∧
    (Command.session (Firmware.idle : Firmware Empty) 2
        [.operation .init, .operation (.bindVectored 3 .dummy 5), .operation (.enableSlot 3)]
        (System.fresh ⟨Recorded.untouched Cells.empty, ControlField.afterReset, .debug,
          #[]⟩)).machine.bank.KeepsToMap ∧
    ∀ fault, (Command.attempt (Firmware.idle : Firmware Empty) 2 (.operation .handleIrq)
      (Command.session (Firmware.idle : Firmware Empty) 2
        [.operation (.setMode .vectored), .operation .handleIrq]
        (System.fresh ⟨MemoryBlock.zeroed, ControlField.afterReset, .off, #[]⟩))).1 =
          .error fault → fault = .notARoutine := by
  obtain ⟨answers, -, keeps, session, stops⟩ := no_faults (γ := ControlField)
  have perLine : Firmware.reentrant.PerLine :=
    fun _ => ⟨trivial, fun _ => ⟨trivial, fun _ => trivial⟩⟩
  have idle : (Firmware.idle : Firmware Empty).PerLine := fun _ => trivial
  refine ⟨(answers Firmware.reentrant 3 _ _ _ _ perLine (by decide) ?_).1,
    keeps _ _ (Firmware.keepToMap idle 2) trivial, session _ 2 _ _ _ _ idle ?_,
    fun fault => stops _ 2 _ _ _ _ _ fault idle (by decide) ?_⟩
  · simp [Command.requestsAll, Command.requests, Request.OfController, Request.OnBench,
      Simulated.BenchAction.InRange, lineCount]
  · simp [Command.requestsAll, Command.requests, Request.OfController]
  · simp [Command.requestsAll, Command.requests, Request.OfController]

end VectoredInterrupts
