/-
**The status word and the trace.**

Code writes the status word one completed write at a time, and each of them is an event of the
trace. So the trace tells the status word at every moment of a run (`replay`), and a property of the
status word that no write violates holds all the way (`Machine.Stays`).

* `Machine.Stays.trans`: what holds on the way from one machine to the next holds on the whole way;
* `StatusOp.perform_stays`: an operation on the status word, if what it writes fits
  (`StatusOp.Respects`). Nothing else writes the status word;
* `Run.handleIrq_fits`, `Operation.perform_fits`, `Run.invoke_fits`: dispatches and operations write
  the status word only where the handlers do, and these only where their programs do.
-/

import VectoredInterrupts.Proofs.Accesses

namespace VectoredInterrupts

/-! ### Moments -/

section Moments

variable {β γ : Type} [StatusRegister γ]

/-- The status word of a machine. -/
def Machine.word (machine : Machine β γ) : StatusWord := StatusRegister.value machine.status

/-- The status register after an event. -/
def Event.settle (register : γ) : Event → γ
  | .statusWrote word => StatusRegister.write register word
  | _ => register

/-- The status register after the events of a trace. -/
def replay (register : γ) (events : List Event) : γ := events.foldl Event.settle register

theorem replay_append (register : γ) (early late : List Event) :
    replay register (early ++ late) = replay (replay register early) late :=
  List.foldl_append

/-- The events have been added to the trace on the way from one machine to the other, and the status
register is what the writes among them make of it. -/
structure Machine.Leads (before : Machine β γ) (events : List Event) (after : Machine β γ) :
    Prop where
  trace : after.trace.toList = before.trace.toList ++ events
  status : after.status = replay before.status events

/-- On the way from one machine to the other, the status word fits at every moment, the first and
the last one included. A moment is given by the events so far. -/
def Machine.Stays (fits : StatusWord → Prop) (before after : Machine β γ) : Prop :=
  ∃ events, before.Leads events after ∧
    ∀ moment, moment <+: events → fits (StatusRegister.value (replay before.status moment))

namespace Machine.Stays

variable {fits others : StatusWord → Prop} {before middle after : Machine β γ}

theorem last (stays : before.Stays fits after) : fits after.word := by
  obtain ⟨events, leads, each⟩ := stays
  rw [Machine.word, leads.status]
  exact each events (List.prefix_refl events)

theorem mono (stays : before.Stays fits after) (weaker : ∀ word, fits word → others word) :
    before.Stays others after := by
  obtain ⟨events, leads, each⟩ := stays
  exact ⟨events, leads, fun moment within => weaker _ (each moment within)⟩

/-- Nothing has been added to the trace, and the status register is the same. -/
theorem of_same (now : fits before.word) (trace : after.trace = before.trace)
    (status : after.status = before.status) : before.Stays fits after := by
  refine ⟨[], ⟨by rw [trace, List.append_nil], status⟩, fun moment within => ?_⟩
  rw [List.prefix_nil.mp within]
  exact now

theorem refl (now : fits before.word) : before.Stays fits before := of_same now rfl rfl

/-- One event. -/
theorem of_event {event : Event} (now : fits before.word)
    (trace : after.trace = before.trace.push event)
    (status : after.status = event.settle before.status) (fitting : fits after.word) :
    before.Stays fits after := by
  refine ⟨[event], ⟨by rw [trace, Array.toList_push], status⟩, fun moment within => ?_⟩
  rcases List.prefix_concat_iff.mp (show moment <+: [] ++ [event] from within) with rfl | empty
  · show fits (StatusRegister.value (event.settle before.status))
    rw [← status]
    exact fitting
  · rw [List.prefix_nil.mp empty]
    exact now

theorem trans (left : before.Stays fits middle) (right : middle.Stays fits after) :
    before.Stays fits after := by
  obtain ⟨early, leads, each⟩ := left
  obtain ⟨late, leads', each'⟩ := right
  refine ⟨early ++ late, ⟨?_, ?_⟩, fun moment within => ?_⟩
  · rw [leads'.trace, leads.trace, List.append_assoc]
  · rw [leads'.status, leads.status, replay_append]
  · rcases List.prefix_or_prefix_of_prefix within (List.prefix_append early late) with short | long
    · exact each moment short
    · obtain ⟨rest, rfl⟩ := long
      rw [replay_append, ← leads.status]
      exact each' rest ((List.prefix_append_right_inj early).mp within)

end Machine.Stays

end Moments

/-! ### Steps of the machine -/

/-- What an operation writes to the status word, if anything, when it finds the given one. -/
def StatusOp.written? (found : StatusWord) : StatusOp → Option StatusWord
  | .write word => some word
  | .enableIrq => some (found &&& ~~~irqMask)
  | .disableIrq => some (found ||| irqMask)
  | .enableFiq => some (found &&& ~~~fiqMask)
  | .disableFiq => some (found ||| fiqMask)
  | .read | .irqEnabled | .fiqEnabled => none

/-- A status word that fits still fits after a write of the operation. -/
def StatusOp.Respects (γ : Type) [StatusRegister γ] (fits : StatusWord → Prop) (op : StatusOp) :
    Prop :=
  ∀ register : γ, fits (StatusRegister.value register) →
    ∀ word ∈ op.written? (StatusRegister.value register),
      fits (StatusRegister.value (StatusRegister.write register word))

section Machine

variable {β γ α : Type} [StatusRegister γ] {fits : StatusWord → Prop} {start : Machine β γ}

namespace Bus

theorem onBank_stays (step : EStateM Fault β α) :
    Maintains (start.Stays fits) (onBank step : Bus β γ α) := by
  intro machine before
  rw [stateAfter_onBank]
  exact before.trans (.of_same before.last rfl rfl)

theorem record_stays {event : Event} (keeps : ∀ register : γ, event.settle register = register) :
    Maintains (start.Stays fits) (record event : Bus β γ Unit) :=
  fun machine before =>
    before.trans (.of_event before.last rfl (keeps machine.status).symm before.last)

theorem log_stays (notice : Notice) : Maintains (start.Stays fits) (log notice : Bus β γ Unit) :=
  whenLogged_maintains _ (record_stays fun _ => rfl)

theorem refuse_stays (reason : Refusal) :
    Maintains (start.Stays fits) (refuse reason : Bus β γ (Except Refusal α)) :=
  refuse_sequential (Maintains.sequential _) log_stays reason

theorem readStatus_stays : Maintains (start.Stays fits) (readStatus : Bus β γ StatusWord) :=
  .bind .get fun _ => (record_stays fun _ => rfl).bind fun _ => .pure _

/-- What has been read from the status word may be changed and written back, if that fits. -/
theorem updateStatus_stays {change : StatusWord → StatusWord}
    (fitting : ∀ register : γ, fits (StatusRegister.value register) →
      fits (StatusRegister.value
        (StatusRegister.write register (change (StatusRegister.value register))))) :
    Maintains (start.Stays fits)
      (do writeStatus (change (← readStatus)) : Bus β γ Unit) := by
  intro machine before
  have read := readStatus_stays machine before
  exact read.trans (.of_event read.last rfl rfl (fitting machine.status before.last))

theorem writeStatus_stays {word : StatusWord}
    (fitting : ∀ register : γ, fits (StatusRegister.value register) →
      fits (StatusRegister.value (StatusRegister.write register word))) :
    Maintains (start.Stays fits) (writeStatus word : Bus β γ Unit) :=
  fun machine before =>
    before.trans (.of_event before.last rfl rfl (fitting machine.status before.last))

end Bus

/-- **An operation on the status word.** -/
theorem StatusOp.perform_stays {op : StatusOp} (respects : op.Respects γ fits) :
    Maintains (start.Stays fits) (op.perform : Bus β γ Reply) := by
  cases op with
  | read => exact Bus.readStatus_stays.bind fun _ => .pure _
  | irqEnabled | fiqEnabled =>
    exact (Bus.readStatus_stays.bind fun _ => .pure _).bind fun _ => .pure _
  | write word =>
    exact (Bus.writeStatus_stays fun register now => respects register now _ rfl).bind
      fun _ => .pure _
  | enableIrq | disableIrq | enableFiq | disableFiq =>
    exact (Bus.updateStatus_stays fun register now => respects register now _ rfl).bind
      fun _ => .pure _

variable [RegisterBank β]

namespace Bus

theorem read_stays (offset : Nat) : Maintains (start.Stays fits) (read offset : Bus β γ Word) :=
  (onBank_stays _).bind fun _ => (record_stays fun _ => rfl).bind fun _ => .pure _

theorem write_stays (offset : Nat) (value : Word) :
    Maintains (start.Stays fits) (write offset value : Bus β γ Unit) :=
  (onBank_stays _).bind fun _ => record_stays fun _ => rfl

theorem readLines_stays (offset : Nat) :
    Maintains (start.Stays fits) (do return (← read offset).lines : Bus β γ LineSet) :=
  readLines_sequential (Maintains.sequential _) (read_stays offset)

theorem announce_stays : Maintains (start.Stays fits) (announce : Bus β γ Unit) := by
  refine whenLogged_maintains _ (Maintains.bind ?_ fun _ => record_stays fun _ => rfl)
  exact peripheralId_sequential (Maintains.sequential _) fun _ _ => read_stays _

theorem modifyControl_stays {slot : Nat} (inside : slot < slotCount) (change : Word → Word) :
    Maintains (start.Stays fits)
      (do setSlotControl slot (change (← slotControl slot)) : Bus β γ Unit) :=
  modifyControl_sequential (Maintains.sequential _) (fun _ _ => write_stays _)
    (fun _ _ => read_stays _) inside change

end Bus

end Machine

/-! ### Steps of the firmware -/

/-- The status word has fitted all the way from a machine to that of the system. -/
def System.FitsSince {β γ : Type} [StatusRegister γ] (start : Machine β γ)
    (fits : StatusWord → Prop) (system : System β γ) : Prop :=
  start.Stays fits system.machine

namespace Run

variable {β γ α : Type} [StatusRegister γ] {fits : StatusWord → Prop} {start : Machine β γ}

theorem onMachine_fits {step : Bus β γ α} (stays : Maintains (start.Stays fits) step) :
    Maintains (System.FitsSince start fits) (onMachine step) :=
  onMachine_maintains fun _ => stays

theorem log_fits (notice : Notice) :
    Maintains (System.FitsSince start fits) (onMachine (Bus.log notice) : Run β γ Unit) :=
  onMachine_fits (Bus.log_stays notice)

theorem refuse_fits (reason : Refusal) :
    Maintains (System.FitsSince start fits)
      (onMachine (Bus.refuse reason) : Run β γ (Except Refusal α)) :=
  onMachine_fits (Bus.refuse_stays reason)

/-- The firmware state is no matter. -/
theorem modify_fits {change : System β γ → System β γ}
    (same : ∀ system, (change system).machine = system.machine) :
    Maintains (System.FitsSince start fits) (modify change : Run β γ PUnit) := by
  refine .modify fun system before => ?_
  rw [System.FitsSince, same]
  exact before

section Dispatch

variable {serve : Handler → Run β γ Unit}
  (serves : ∀ handler, Maintains (System.FitsSince start fits) (serve handler))

include serves

theorem serveSpurious_fits (handler : Handler) :
    Maintains (System.FitsSince start fits) (serveSpurious serve handler) :=
  .bind (modify_fits fun _ => rfl) fun _ => serves handler

variable [RegisterBank β]

theorem serviceUnslotted_fits :
    Maintains (System.FitsSince start fits) (serviceUnslotted serve) := by
  refine (onMachine_fits (Bus.readLines_stays _)).bind fun enabled => .bind .get fun system => ?_
  split
  · exact (log_fits _).bind fun _ => (serves _).bind fun _ => .pure _
  · exact .pure _

theorem handlePolled_fits : Maintains (System.FitsSince start fits) (handlePolled serve) := by
  refine (onMachine_fits (Bus.readLines_stays _)).bind fun status => (log_fits _).bind fun _ => ?_
  refine (servicePolled_maintains (fun _ _ handler _ => serves handler) status).bind fun _ => ?_
  exact .ite (serveSpurious_fits serves _) (.pure _)

theorem serveVector_fits (vector : Word) :
    Maintains (System.FitsSince start fits) (serveVector serve vector) := by
  unfold serveVector
  split
  · exact (serviceUnslotted_fits serves).bind fun _ => .ite (.pure _) (serveSpurious_fits serves _)
  · exact serveSpurious_fits serves _
  · exact serves _
  · exact (log_fits _).bind fun _ => serveSpurious_fits serves _

theorem handleVectored_fits : Maintains (System.FitsSince start fits) (handleVectored serve) := by
  refine (onMachine_fits (Bus.read_stays _)).bind fun vector => ?_
  have rest : Maintains (System.FitsSince start fits) (do
      onMachine (Bus.log (.vectorRead vector))
      serveVector serve vector
      onMachine Bus.acknowledge) :=
    (log_fits _).bind fun _ => (serveVector_fits serves vector).bind fun _ =>
      onMachine_fits (Bus.write_stays _ _)
  exact .ite (.bind (.throw _) fun _ => rest) rest

end Dispatch

variable [RegisterBank β] {call : Nat → Handler → Run β γ Unit}

/-- **A dispatch** writes the status word only where its handlers do. -/
theorem handleIrq_fits {active : Nat}
    (calls : ∀ handler, Maintains (System.FitsSince start fits) (call active handler)) :
    Maintains (System.FitsSince start fits) (handleIrq call active) := by
  have serves : ∀ handler, Maintains (System.FitsSince start fits) (dispatch call active handler) :=
    fun handler => (onMachine_fits (Bus.record_stays fun _ => rfl)).bind fun _ => calls handler
  refine .bind .get fun system => ?_
  cases system.mode with
  | polled => exact handlePolled_fits serves
  | vectored => exact handleVectored_fits serves

theorem updateVectored_fits (update : Update Routine α) :
    Maintains (System.FitsSince start fits) (updateVectored update : Run β γ α) := by
  refine Maintains.bind (.forM fun write _ => ?_) fun _ => .checked _
  refine .bind (modify_fits fun _ => rfl) fun _ => onMachine_fits ?_
  exact Bus.loadSlot_sequential (Maintains.sequential _) (fun _ _ => Bus.write_stays _) _ _

theorem init_fits : Maintains (System.FitsSince start fits) (init : Run β γ Unit) := by
  have write : ∀ offset value,
      Maintains (System.FitsSince start fits) (onMachine (Bus.write offset value) : Run β γ Unit) :=
    fun offset value => onMachine_fits (Bus.write_stays offset value)
  refine (write _ _).bind fun _ => (write _ _).bind fun _ => (write _ _).bind fun _ =>
    (write _ _).bind fun _ => (updateVectored_fits _).bind fun _ => ?_
  refine .bind (modify_fits fun _ => rfl) fun _ => .bind (modify_fits fun _ => rfl) fun _ => ?_
  exact onMachine_fits Bus.announce_stays

end Run

/-- **An operation on the firmware state**, likewise. -/
theorem Operation.perform_fits {β γ : Type} [RegisterBank β] [StatusRegister γ]
    {fits : StatusWord → Prop} {start : Machine β γ} {call : Nat → Handler → Run β γ Unit}
    (calls : ∀ active handler, Maintains (System.FitsSince start fits) (call active handler))
    (op : Operation) : Maintains (System.FitsSince start fits) (op.perform call) := by
  have switches : ∀ (slots : List Nat) (change : Word → Word), (∀ slot ∈ slots, slot < slotCount) →
      Maintains (System.FitsSince start fits) (slots.forM fun slot =>
        (Run.onMachine (do Bus.setSlotControl slot (change (← Bus.slotControl slot))) :
          Run β γ Unit)) :=
    fun slots change inside => .forM fun slot member =>
      Run.onMachine_fits (Bus.modifyControl_stays (inside slot member) change)
  cases op with
  | init => exact Run.init_fits.bind fun _ => .pure _
  | setMode | clearPolled => exact .bind (Run.modify_fits fun _ => rfl) fun _ => .pure _
  | handleIrq => exact (Run.handleIrq_fits (calls 1)).bind fun _ => .pure _
  | bindPolled line handler priority =>
    refine Maintains.bind (.ite ?_ (Run.refuse_fits _)) fun _ => .pure _
    refine .bind .get fun _ => .bind (Run.modify_fits fun _ => rfl) fun _ => ?_
    exact .bind (.checked _) fun _ => (Run.log_fits _).bind fun _ => .pure _
  | releasePolled line =>
    refine Maintains.bind (.bind .get fun _ => ?_) fun _ => .pure _
    refine .bind (Run.modify_fits fun _ => rfl) fun _ => .bind (.checked _) fun position => ?_
    cases position with
    | none => exact .pure _
    | some position => exact Run.log_fits _
  | servicePolled status =>
    exact (Run.servicePolled_maintains (fun _ _ handler _ => calls 0 handler) status).bind
      fun _ => .pure _
  | polledPosition | vectoredPosition => exact .bind .get fun _ => .pure _
  | bindVectored line routine priority =>
    refine Maintains.bind (.ite (.bind .get fun _ => ?_) (Run.refuse_fits _)) fun _ => .pure _
    exact (Run.updateVectored_fits _).bind fun _ => (Run.log_fits _).bind fun _ => .pure _
  | releaseVectored line =>
    refine Maintains.bind (.bind .get fun _ => ?_) fun _ => .pure _
    refine (Run.updateVectored_fits _).bind fun position => ?_
    cases position with
    | none => exact .pure _
    | some position => exact Run.log_fits _
  | releaseAllVectored =>
    exact Maintains.bind ((Run.updateVectored_fits _).bind fun _ => Run.log_fits _) fun _ => .pure _
  | clearVectored => exact (Run.updateVectored_fits _).bind fun _ => .pure _
  | serviceUnslotted => exact (Run.serviceUnslotted_fits (calls 0)).bind fun _ => .pure _
  | enableSlot line =>
    refine Maintains.bind (.bind .get fun system => ?_) fun _ => .pure _
    refine (switches _ (· ||| controlEnable) (slotsOf_lt _ _)).bind fun _ => ?_
    split
    · exact .pure _
    · exact Run.refuse_fits _
  | disableSlot line =>
    exact Maintains.bind (.bind .get fun _ => switches _ (· &&& ~~~controlEnable) (slotsOf_lt _ _))
      fun _ => .pure _
  | disableAllSlots =>
    exact Maintains.bind (switches _ (· &&& ~~~controlEnable) fun _ => List.mem_range.mp)
      fun _ => .pure _

/-! ### Handlers -/

/-- An action that changes the status word respects the property. -/
def Action.Respects {ι : Type} (γ : Type) [StatusRegister γ] (fits : StatusWord → Prop) :
    Action ι → Prop
  | .status op => op.Respects γ fits
  | _ => True

section Handlers

variable {ι β γ : Type} [RegisterBank β] [StatusRegister γ] [Benched ι β]
  {fits : StatusWord → Prop} {start : Machine β γ}

/-- One action, given what the handlers do that it runs. -/
theorem Run.perform_fits {call : Nat → Handler → Run β γ Unit}
    (calls : ∀ active handler, Maintains (System.FitsSince start fits) (call active handler))
    (nesting active : Nat) {action : Action ι} (respects : action.Respects γ fits) :
    Maintains (System.FitsSince start fits) (perform nesting call active action) := by
  cases action with
  | register op =>
    exact onMachine_fits (op.perform_sequential (Maintains.sequential _)
      (fun _ _ => Bus.read_stays _) fun _ _ => Bus.write_stays _)
  | line op =>
    exact onMachine_fits (op.perform_sequential (Maintains.sequential _) Bus.log_stays
      (fun _ _ => Bus.read_stays _) fun _ _ => Bus.write_stays _)
  | status op => exact onMachine_fits (op.perform_stays respects)
  | bench action => exact onMachine_fits (Bus.onBank_stays _)
  | call handler =>
    refine (calls active handler).bind fun _ => ?_
    split
    · exact .pure _
    · exact .pure _
  | interrupt => exact .ite ((handleIrq_fits (calls (active + 1))).bind fun _ => .pure _) (.pure _)
  | fail => exact .throw _

omit [RegisterBank β] [Benched ι β] in
/-- A program, given what its actions do. -/
theorem Program.run_fits {perform : Action ι → Run β γ Reply}
    (performs : ∀ action : Action ι, action.Respects γ fits →
      Maintains (System.FitsSince start fits) (perform action))
    {program : Program ι} (respects : program.Uses (Action.Respects γ fits)) :
    Maintains (System.FitsSince start fits) (program.run perform) := by
  induction program with
  | finish => exact .pure _
  | act action next ih =>
    refine (performs action respects.1).bind fun reply => ?_
    exact (Run.onMachine_fits (Bus.record_stays fun _ => rfl)).bind fun _ =>
      ih reply (respects.2 reply)

/-- **A handler of the firmware.** The induction is on the frames left: what a handler calls, and
what a nested interrupt runs, has fewer of them. -/
theorem Run.invoke_fits {firmware : Firmware ι}
    (respects : ∀ handler, (firmware.program handler).Uses (Action.Respects γ fits))
    (frames : Nat) : ∀ active handler, Maintains (System.FitsSince start fits)
      (invoke firmware frames active handler : Run β γ Unit) := by
  induction frames with
  | zero => exact fun _ _ => .throw _
  | succ frames ih =>
    intro active handler
    have user : Maintains (System.FitsSince start fits) (do
        onMachine (Bus.record (.entered handler))
        (firmware.program handler).run
          (perform firmware.nesting (invoke firmware frames) active) : Run β γ Unit) := by
      refine (onMachine_fits (Bus.record_stays fun _ => rfl)).bind fun _ => ?_
      exact Program.run_fits (fun _ allowed => perform_fits ih _ _ allowed) (respects handler)
    unfold Run.invoke
    split
    · exact log_fits _
    · exact log_fits _
    · exact log_fits _
    · exact user
    · exact user

end Handlers

end VectoredInterrupts
