/-
**Dispatches that return.**

A dispatch depends on the bank, which has to answer it, and on the handlers, which have to return.
Where the bank presents null or the address of a routine, one handler is chosen whatever the vector
is. So a dispatch returns if the handlers do, and the handlers of a firmware do if their programs
ask the bank for nothing that it does not answer, as deep as its nesting bound lets them nest.

* `Run.chooseHandler_returns`: the choice of a handler;
* `Run.handleIrq_returns`: a dispatch;
* `Firmware.reliable`: the handlers of a firmware;
* `Simulated.answersDispatch`: the simulated controller answers dispatches.
-/

import VectoredInterrupts.Proofs.Dispatch.Conduct

namespace VectoredInterrupts

/-! ### Dispatches return -/

/-- The bank answers what a dispatch asks of it, in states that are valid and stay so: the vector is
null or the address of a routine. -/
structure AnswersDispatch {β : Type} [RegisterBank β] (valid : β → Prop) : Prop where
  status : ∀ bank, valid bank → ∃ value after,
    RegisterBank.read Offset.irqStatus bank = .ok value after ∧ valid after
  enable : ∀ bank, valid bank → ∃ value after,
    RegisterBank.read Offset.enable bank = .ok value after ∧ valid after
  vector : ∀ bank, valid bank → ∃ value after,
    RegisterBank.read Offset.vector bank = .ok value after ∧ valid after ∧
      (value = 0 ∨ ∃ routine : Routine, value = routine.address)
  acknowledge : ∀ bank, valid bank → ∃ after,
    RegisterBank.write Offset.vector acknowledgement bank = .ok () after ∧ valid after

section Returns

variable {ι β γ : Type} [RegisterBank β] [Benched ι β] {valid : β → Prop}

/-- A dispatch can begin: the bank is valid and, if it is to be searched, the polled table lists
lines that exist. -/
structure System.Ready (valid : β → Prop) (system : System β γ) : Prop where
  bank : valid system.machine.bank
  lists : system.mode = .polled → ∃ order, system.polled.Lists order ∧ InRange order

omit [RegisterBank β] in
theorem System.Ready.of_registry {before after : System β γ} (ready : before.Ready valid)
    (kept : after.registry = before.registry) (bank : valid after.machine.bank) :
    after.Ready valid := by
  have mode : after.mode = before.mode := congrArg Registry.mode kept
  have polled : after.polled = before.polled := congrArg Registry.polled kept
  refine ⟨bank, fun scans => ?_⟩
  rw [polled]
  exact ready.lists (mode.symm.trans scans)

/-- Handlers that a dispatch can rely on: they return, conduct themselves, and leave the bank
valid. -/
def Run.Reliable (ι : Type) [Benched ι β] (valid : β → Prop) (call : Nat → Handler → Run β γ Unit)
    (active : Nat) : Prop :=
  ∀ handler (system : System β γ), system.Ready valid → ∃ after,
    call active handler system = .ok () after ∧ System.Conducts ι active system after ∧
      valid after.machine.bank

theorem System.Conducts.registry {active : Nat} {before after : System β γ}
    (conducts : Conducts ι active before after) : after.registry = before.registry := by
  obtain ⟨events, emits, -⟩ := conducts.minds
  exact emits.registry

variable (answers : AnswersDispatch valid)

include answers

/-- Reading the enabled lines leaves the bank valid. -/
theorem System.closed_valid :
    Closed (System.Step (· = Offset.enable) fun _ => False)
      fun system : System β γ => valid system.machine.bank := by
  refine (Machine.closed_of_bank (fun offset enable bank held => ?_) nofun).of_machine
  subst enable
  obtain ⟨value, after, read, later⟩ := answers.enable bank held
  rwa [stateAfter_ok read]

/-- Whatever the vector stands for, there is a choice. -/
theorem Run.chooseFor_returns (vector : Word) {system : System β γ}
    (held : valid system.machine.bank) :
    ∃ handler chosen, Run.chooseFor vector system = .ok handler chosen := by
  unfold chooseFor
  cases Routine.ofAddress? vector with
  | none => exact ⟨_, _, bind_ok (log_ok _ _)⟩
  | some routine =>
    cases routine with
    | dummy | user => exact ⟨_, _, rfl⟩
    | fallback =>
      obtain ⟨value, bank, read, -⟩ := answers.enable _ held
      obtain ⟨enabled, after, lines⟩ : ∃ enabled after,
          onMachine Bus.enabledLines system = .ok enabled after :=
        ⟨_, _, onMachine_ok (bind_ok (Bus.read_ok read))⟩
      simp only [chooseUnslotted]
      rw [bind_ok lines, bind_get]
      cases (after.vectored.toList.drop slotCount).findSome? (enabledBinding? enabled) with
      | none => exact ⟨_, _, rfl⟩
      | some found => exact ⟨_, _, bind_ok (log_ok _ _)⟩

/-- **A choice returns**, and leaves the bank valid. -/
theorem Run.chooseHandler_returns {system : System β γ} (held : valid system.machine.bank) :
    ∃ handler chosen, Run.chooseHandler system = .ok handler chosen ∧
      valid chosen.machine.bank := by
  obtain ⟨vector, bank, read, later, named⟩ := answers.vector _ held
  obtain ⟨begun, begins, present⟩ : ∃ begun, onMachine Bus.vector system = .ok vector begun ∧
      valid begun.machine.bank := ⟨_, onMachine_ok (Bus.read_ok read), later⟩
  have known : ¬ (vector ≠ 0 ∧ Routine.ofAddress? vector = none) := by
    rintro ⟨somewhere, unknown⟩
    obtain ⟨routine, rfl⟩ := named.resolve_left somewhere
    rw [Routine.ofAddress?_address] at unknown
    cases unknown
  have logged : valid ({ begun with
      machine := begun.machine.logged (.vectorRead vector) } : System β γ).machine.bank :=
    (Machine.logged_bank _ _).symm ▸ present
  obtain ⟨handler, chosen, chooses⟩ := chooseFor_returns answers vector logged
  have rest : (do onMachine (Bus.log (.vectorRead vector)); chooseFor vector) begun =
      .ok handler chosen := (bind_ok (log_ok _ _)).trans chooses
  refine ⟨handler, chosen, ?_, ?_⟩
  · unfold chooseHandler
    rw [bind_ok begins, if_neg known]
    exact rest
  · exact (chooseFor_maintains (System.closed_valid answers) (fun _ held => held) rfl
      vector).of_ok present rest

/-- A run of a handler that returns, and in which it has conducted itself. -/
def Run.Conducted (ι : Type) [Benched ι β] (call : Nat → Handler → Run β γ Unit) (active : Nat)
    (handler : Handler) (begun ended : System β γ) : Prop :=
  Completes call active handler begun ended ∧ System.Conducts ι active begun ended

omit answers in
/-- A dispatch can go on after a handler that it can rely on. -/
theorem Run.Reliable.dispatches {call : Nat → Handler → Run β γ Unit} {active : Nat}
    (reliable : Reliable ι valid call active) (handler : Handler) {system : System β γ}
    (ready : system.Ready valid) :
    ∃ after, dispatch call active handler system = .ok () after ∧
      Conducted ι call active handler (system.marked active handler) after ∧ after.Ready valid := by
  have marked : (system.marked active handler).Ready valid := ready.of_registry rfl ready.bank
  obtain ⟨after, called, conducts, held⟩ := reliable handler _ marked
  exact ⟨after, called, ⟨called, conducts⟩, marked.of_registry conducts.registry held⟩

/-- **A dispatch returns** if the bank answers it and the handlers can be relied on. -/
theorem Run.handleIrq_returns {call : Nat → Handler → Run β γ Unit} {active : Nat}
    (reliable : Reliable ι valid call active) {before : System β γ} (ready : before.Ready valid) :
    ∃ after, handleIrq call active before = .ok () after ∧
      before.Dispatches (Conducted ι call active) active after ∧ after.Ready valid := by
  cases mode : before.mode with
  | vectored =>
    obtain ⟨handler, chosen, chooses, held⟩ := chooseHandler_returns answers ready.bank
    obtain ⟨vector, lead, emits, -⟩ := System.emits_of_chooseHandler chooses
    obtain ⟨ended, served, ran, later⟩ :=
      reliable.dispatches handler (ready.of_registry emits.registry held)
    obtain ⟨bank, written, acknowledged⟩ := answers.acknowledge _ later.bank
    obtain ⟨after, ends, kept, same⟩ : ∃ after, onMachine Bus.acknowledge ended = .ok () after ∧
        after.registry = ended.registry ∧ after.machine.bank = bank :=
      ⟨_, onMachine_ok (Bus.write_ok written), rfl, rfl⟩
    refine ⟨after, ?_, .vectored mode chooses ran ends,
      later.of_registry kept (same ▸ acknowledged)⟩
    rw [handleIrq_vectored mode chooses]
    exact (bind_ok served).trans ends
  | polled =>
    obtain ⟨word, bank, read, later⟩ := answers.status _ ready.bank
    obtain ⟨begun, begins, kept, same⟩ : ∃ begun,
        onMachine Bus.irqStatus before = .ok word.lines begun ∧
          begun.registry = before.registry ∧ begun.machine.bank = bank :=
      ⟨_, onMachine_ok (bind_ok (Bus.read_ok read)), rfl, rfl⟩
    obtain ⟨order, lists, inRange⟩ := ready.lists mode
    have polled : begun.polled = before.polled := congrArg Registry.polled kept
    have serves : ∀ handler system, (System.Ready valid system ∧
          begun.Proceeds (Conducted ι call active) active system) →
        ∃ after, dispatch call active handler system = .ok () after ∧
          (System.Ready valid after ∧
            begun.Proceeds (Conducted ι call active) active after) := by
      rintro handler system ⟨now_ready, proceeds⟩
      obtain ⟨after, served, ran, later⟩ := reliable.dispatches handler now_ready
      exact ⟨after, served, later, proceeds.served ran⟩
    obtain ⟨after, served, ready_after, proceeds⟩ := servePolled_returns serves
      (fun system notice ⟨now_ready, proceeds⟩ => ⟨now_ready.of_registry rfl
        ((Machine.logged_bank _ _).symm ▸ now_ready.bank), proceeds.logged notice⟩)
      (fun system ⟨now_ready, proceeds⟩ => ⟨now_ready.of_registry rfl now_ready.bank,
        proceeds.counted⟩)
      word.lines (due word.lines order) ⟨ready.of_registry kept (same ▸ later), .rest begun⟩
    refine ⟨after, ?_, .polled mode begins proceeds, ready_after⟩
    exact (handleIrq_polled mode inRange begins (polled ▸ lists)).trans served

end Returns

/-! ### The handlers of a firmware -/

section Firmware

variable {ι β γ : Type} [RegisterBank β] [StatusRegister γ] [Benched ι β] {valid : β → Prop}

/-- Where the bank is valid the action returns, and leaves it valid. -/
def Action.Answered (γ : Type) [StatusRegister γ] (valid : β → Prop) (action : Action ι) : Prop :=
  ∀ nesting (call : Nat → Handler → Run β γ Unit) active (system : System β γ),
    valid system.machine.bank → ∃ reply after,
      Run.perform nesting call active action system = .ok reply after ∧ valid after.machine.bank

omit [RegisterBank β] [StatusRegister γ] [Benched ι β] in
/-- A program returns if its actions do. -/
theorem Program.run_returns {perform : Action ι → Run β γ Reply} {allowed : Action ι → Prop}
    (performs : ∀ action, allowed action → ∀ system : System β γ, system.Ready valid →
      ∃ reply after, perform action system = .ok reply after ∧ after.Ready valid)
    {program : Program ι} (uses : program.Uses allowed) {system : System β γ}
    (ready : system.Ready valid) :
    ∃ after, program.run perform system = .ok () after ∧ after.Ready valid := by
  induction program generalizing system with
  | finish => exact ⟨system, rfl, ready⟩
  | act action next ih =>
    obtain ⟨reply, middle, performed, later⟩ := performs action uses.1 system ready
    obtain ⟨after, returns, ready_after⟩ := ih reply (uses.2 reply)
      (later.of_registry (rfl : System.registry { middle with
        machine.trace := middle.machine.trace.push (.returned reply) } = _) later.bank)
    exact ⟨after, (bind_ok performed).trans returns, ready_after⟩

/-- An interrupt, or an action that the bank answers. -/
theorem Run.perform_returns (answers : AnswersDispatch valid) {nesting active : Nat}
    {call : Nat → Handler → Run β γ Unit}
    (calls : ∀ active handler begun ended, call active handler begun = .ok () ended →
      System.Conducts ι active begun ended)
    (deeper : 0 < active → active < nesting → Reliable ι valid call (active + 1))
    {action : Action ι} (spares : action.SparesVector)
    (allowed : action = .interrupt ∨ action.Answered γ valid) {system : System β γ}
    (ready : system.Ready valid) :
    ∃ reply after, perform nesting call active action system = .ok reply after ∧
      after.Ready valid := by
  rcases allowed with rfl | answered
  · by_cases taken : 0 < active ∧ active < nesting
    · obtain ⟨after, handled, -, later⟩ := handleIrq_returns answers (deeper taken.1 taken.2) ready
      rw [perform, if_pos taken]
      exact ⟨_, after, bind_ok handled, later⟩
    · rw [perform, if_neg taken]
      exact ⟨_, system, rfl, ready⟩
  · obtain ⟨reply, after, performed, held⟩ := answered nesting call active system ready.bank
    have conducts := perform_conducts calls spares performed
    exact ⟨reply, after, performed, ready.of_registry conducts.registry held⟩

/-- **The handlers of a firmware** can be relied on if its programs take interrupts, do what the
bank answers, and keep off the vector register. Each interrupt takes a frame, so there have to be
more frames than interrupts can nest. The induction is on the frames left. -/
theorem Firmware.reliable (answers : AnswersDispatch valid) {firmware : Firmware ι}
    (uses : ∀ handler, (firmware.program handler).Uses fun action =>
      action.SparesVector ∧ (action = .interrupt ∨ action.Answered γ valid))
    {frames active : Nat} (left : 0 < frames) (enough : firmware.nesting < frames + active) :
    Run.Reliable ι valid (Run.invoke firmware frames : Nat → Handler → Run β γ Unit) active := by
  have conducts : ∀ frames active handler (begun ended : System β γ),
      Run.invoke firmware frames active handler begun = .ok () ended →
        System.Conducts ι active begun ended :=
    fun frames active handler _ _ =>
      Firmware.conducts (fun handler => (uses handler).imp fun _ => And.left) frames active handler
  induction frames generalizing active with
  | zero => exact absurd left (Nat.lt_irrefl 0)
  | succ frames ih =>
    intro handler system ready
    have user : ∃ after, (do
        Run.onMachine (Bus.record (.entered handler))
        (firmware.program handler).run
          (Run.perform firmware.nesting (Run.invoke firmware frames) active) : Run β γ Unit)
          system = .ok () after ∧ valid after.machine.bank := by
      have entered : System.Ready valid { system with
          machine.trace := system.machine.trace.push (.entered handler) } :=
        ready.of_registry rfl ready.bank
      have deeper : 0 < active → active < firmware.nesting →
          Run.Reliable ι valid (Run.invoke firmware frames) (active + 1) :=
        fun inside nests => ih (by omega) (by omega)
      obtain ⟨after, returned, later⟩ := Program.run_returns (fun action allowed now now_ready =>
        Run.perform_returns answers (conducts frames) deeper allowed.1 allowed.2 now_ready)
        (uses handler) entered
      exact ⟨after, returned, later.bank⟩
    have logs : ∀ notice, ∃ after, (Run.onMachine (Bus.log notice) : Run β γ Unit) system =
        .ok () after ∧ valid after.machine.bank :=
      fun notice => ⟨_, Run.log_ok _ _, (Machine.logged_bank _ _).symm ▸ ready.bank⟩
    have returns : ∃ after, Run.invoke firmware (frames + 1) active handler system = .ok () after ∧
        valid after.machine.bank := by
      unfold Run.invoke
      split
      · exact logs _
      · exact logs _
      · exact logs _
      · exact user
      · exact user
    obtain ⟨after, returned, held⟩ := returns
    exact ⟨after, returned, conducts _ _ _ _ _ returned, held⟩

end Firmware

/-! ### The simulated controller -/

/-- A dispatch accepts the word as a vector: it is null, or the address of a routine. -/
def Word.IsVector (word : Word) : Prop :=
  word = 0 ∨ ∃ routine ∈ Routine.ofAddress? word, routine.address = word

instance (word : Word) : Decidable word.IsVector :=
  inferInstanceAs (Decidable (_ ∨ _))

namespace Simulated

/-- All vectors that the controller may present are accepted. -/
def PresentsVectors (controller : Simulated) : Prop :=
  (∀ k, (controller.slots.get k).address.IsVector) ∧ controller.defaultVector.IsVector

instance (controller : Simulated) : Decidable controller.PresentsVectors :=
  inferInstanceAs (Decidable (_ ∧ _))

theorem PresentsVectors.currentVector {controller : Simulated}
    (presents : controller.PresentsVectors) : controller.currentVector.IsVector := by
  by_cases competes : ∃ k, controller.presents (controller.slots.get k) = true
  · obtain ⟨k, qualifies⟩ := competes
    obtain ⟨first, -, -, presented⟩ := currentVector_of_presents qualifies
    exact presented ▸ presents.1 first
  · have silent : ∀ k, controller.presents (controller.slots.get k) = false := fun k =>
      Bool.eq_false_iff.mpr fun qualifies => competes ⟨k, qualifies⟩
    exact currentVector_of_silent silent ▸ presents.2

/-- **The simulated controller answers dispatches** as long as no other vector is written to it. -/
theorem answersDispatch : AnswersDispatch PresentsVectors where
  status _ presents := ⟨_, _, rfl, presents⟩
  enable _ presents := ⟨_, _, rfl, presents⟩
  vector controller presents := by
    refine ⟨_, _, rfl, presents, ?_⟩
    rcases presents.currentVector with null | ⟨routine, -, same⟩
    · exact .inl null
    · exact .inr ⟨routine, same.symm⟩
  acknowledge _ presents := ⟨_, rfl, presents⟩

end Simulated

end VectoredInterrupts
