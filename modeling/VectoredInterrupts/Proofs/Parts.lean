/-
**The parts of the system.**

Four parts of the system have nothing to do with each other: the polled table; the vectored table
and the slots that follow it; the lines; the status word. A request that belongs to one of them goes
by this part alone, and changes nothing but this part and the trace.

* `Scope.Confines`: a step keeps to a scope if it does the same to states that agree as far as it
  may know, and nothing that it may not do. Sequencing passes this on;
* `Part.read_confined`, `Part.write_confined`: an access to a register of a part;
* `Handlers.perform_confined`: a request that belongs to a part (`Request.part?`).
-/

import VectoredInterrupts.Proofs.Accesses

namespace VectoredInterrupts

/-! ### Scopes -/

section Scopes

variable {ε σ α ρ : Type}

/-- What a step returns, or the fault that stops it. -/
def outcome (step : EStateM ε σ α) (state : σ) : Except ε α :=
  match step state with
  | .ok value _ => .ok value
  | .error fault _ => .error fault

/-- What a step may know of a state, and what it may do to it. -/
structure Scope (σ : Type) where
  /-- The states are the same as far as the step knows. -/
  Agree : σ → σ → Prop
  /-- The step may leave the second state if it begins in the first one. -/
  Leads : σ → σ → Prop
  refl : ∀ state, Leads state state
  trans : ∀ {before middle after}, Leads before middle → Leads middle after → Leads before after

/-- The steps have the same outcome, and leave states that agree. -/
inductive Scope.Match (scope : Scope σ) : EStateM.Result ε σ α → EStateM.Result ε σ α → Prop
  | ok (value : α) {first second : σ} (agree : scope.Agree first second) :
      Match scope (.ok value first) (.ok value second)
  | error (fault : ε) {first second : σ} (agree : scope.Agree first second) :
      Match scope (.error fault first) (.error fault second)

/-- The step keeps to the scope. -/
structure Scope.Confines (scope : Scope σ) (step : EStateM ε σ α) : Prop where
  match_of_agree : ∀ {first second}, scope.Agree first second →
    scope.Match (step first) (step second)
  leads : ∀ state, scope.Leads state (stateAfter step state)

namespace Scope.Confines

variable {scope : Scope σ}

theorem outcome_eq {step : EStateM ε σ α} (confined : scope.Confines step) {first second : σ}
    (agree : scope.Agree first second) : outcome step first = outcome step second := by
  have same := confined.match_of_agree agree
  unfold outcome
  generalize step first = left at same
  generalize step second = right at same
  cases same with
  | ok => rfl
  | error => rfl

theorem agree {step : EStateM ε σ α} (confined : scope.Confines step) {first second : σ}
    (agree : scope.Agree first second) :
    scope.Agree (stateAfter step first) (stateAfter step second) := by
  have same := confined.match_of_agree agree
  unfold stateAfter
  generalize step first = left at same
  generalize step second = right at same
  cases same with
  | ok _ agree => exact agree
  | error _ agree => exact agree

theorem pure (value : α) : scope.Confines (pure value : EStateM ε σ α) :=
  ⟨.ok value, scope.refl⟩

theorem throw (fault : ε) : scope.Confines (throw fault : EStateM ε σ α) :=
  ⟨.error fault, scope.refl⟩

theorem modify {change : σ → σ}
    (agree : ∀ {first second}, scope.Agree first second →
      scope.Agree (change first) (change second))
    (leads : ∀ state, scope.Leads state (change state)) :
    scope.Confines (modify change : EStateM ε σ PUnit) :=
  ⟨fun same => .ok _ (agree same), leads⟩

/-- A step may go by what it reads from the state, if states that agree have it in common. -/
theorem of_get {next : σ → EStateM ε σ ρ}
    (common : ∀ {first second}, scope.Agree first second → next first = next second)
    (each : ∀ state, scope.Confines (next state)) : scope.Confines (get >>= next) where
  match_of_agree {first second} agree := by
    rw [bind_get, bind_get, common agree]
    exact (each second).match_of_agree agree
  leads state := (each state).leads state

theorem bind {first : EStateM ε σ α} {next : α → EStateM ε σ ρ} (head : scope.Confines first)
    (tail : ∀ value, scope.Confines (next value)) : scope.Confines (first >>= next) where
  match_of_agree {one other} agree := by
    have same := head.match_of_agree agree
    generalize left : first one = result at same
    generalize right : first other = result' at same
    cases same with
    | ok value agree =>
      rw [bind_ok left, bind_ok right]
      exact (tail value).match_of_agree agree
    | error fault agree =>
      rw [bind_error left, bind_error right]
      exact .error fault agree
  leads state := by
    refine Maintains.after_bind (scope.Leads state) (head.leads state) fun value middle led => ?_
    exact scope.trans led ((tail value).leads middle)

theorem sequential (scope : Scope σ) :
    Sequential fun _ (step : EStateM ε σ _) => scope.Confines step :=
  ⟨pure, throw, bind⟩

end Scope.Confines

end Scopes

/-! ### Parts -/

/-- The parts of the system. -/
inductive Part where
  /-- The polled table. -/
  | polled
  /-- The vectored table and the slots. -/
  | vectored
  /-- The state of the lines. -/
  | lines
  /-- The status word. -/
  | status
deriving DecidableEq

/-- The part that a register belongs to, if there is one. -/
def Register.part? : Register → Option Part
  | .irqStatus | .fiqStatus | .rawStatus | .select | .enable | .enableClear | .soft | .softClear =>
    some .lines
  | .slotAddress _ | .slotControl _ => some .vectored
  | .protection | .vector | .defaultVector | .identification _ => none

/-- At the offset there is a register of the part. -/
def Part.Covers (part : Part) (offset : Nat) : Prop :=
  ∃ register, Register.ofOffset? offset = some register ∧ register.part? = some part

/-- What the trace may show of a part. -/
def Part.Shows (part : Part) : Event → Prop
  | .read offset _ | .wrote offset _ => part.Covers offset
  | .statusRead _ | .statusWrote _ => part = .status
  | .logged _ => True
  | .dispatched .. | .entered _ | .returned _ => False

/-- Such events have been added to a trace. -/
def Part.Adds (part : Part) (before after : Array Event) : Prop :=
  ∃ events, after.toList = before.toList ++ events ∧ ∀ event ∈ events, part.Shows event

/-- The state of the lines: which are asserted by peripherals and by software, enabled, and routed
to FIQ. -/
structure Lines where
  inputs : LineSet
  soft : LineSet
  enabled : LineSet
  select : LineSet
deriving DecidableEq

namespace Simulated

/-- The state of the lines of a controller. -/
def lines (controller : Simulated) : Lines :=
  ⟨controller.inputs, controller.soft, controller.enabled, controller.select⟩

/-- What of the controller belongs to no part. -/
def rest (controller : Simulated) : Word × Word × Nat × Nat × Nat :=
  (controller.protection, controller.defaultVector, controller.inService, controller.vectorReads,
    controller.acknowledgements)

/-- The controllers are alike in certain parts. -/
structure Alike (parts : Part → Prop) (first second : Simulated) : Prop where
  lines : parts .lines → first.lines = second.lines
  slots : parts .vectored → first.slots = second.slots

end Simulated

/-- The machines are alike in certain parts. -/
structure Machine.Alike {γ : Type} (parts : Part → Prop) (first second : Machine Simulated γ) :
    Prop where
  bank : first.bank.Alike parts second.bank
  status : parts .status → first.status = second.status

/-- The systems are alike in certain parts. -/
structure System.Alike {γ : Type} (parts : Part → Prop) (first second : System Simulated γ) :
    Prop where
  machine : first.machine.Alike parts second.machine
  polled : parts .polled → first.polled = second.polled
  vectored : parts .vectored → first.vectored = second.vectored

/-- What of the system belongs to no part. -/
def System.rest {γ : Type} (system : System Simulated γ) :
    (Word × Word × Nat × Nat × Nat) × Verbosity × Mode × Nat :=
  (system.machine.bank.rest, system.machine.verbosity, system.mode, system.spurious)

/-- Nothing has changed in the controller but a part. -/
structure Simulated.ChangesOnly (part : Part) (before after : Simulated) : Prop where
  others : before.Alike (· ≠ part) after
  rest : before.rest = after.rest

/-- Nothing has changed in the machine but a part, and the trace shows nothing else. -/
structure Machine.ChangesOnly {γ : Type} (part : Part) (before after : Machine Simulated γ) :
    Prop where
  others : before.Alike (· ≠ part) after
  rest : before.bank.rest = after.bank.rest
  verbosity : before.verbosity = after.verbosity
  trace : part.Adds before.trace after.trace

/-- Nothing has changed in the system but a part, and the trace shows nothing else. -/
structure System.ChangesOnly {γ : Type} (part : Part) (before after : System Simulated γ) :
    Prop where
  others : before.Alike (· ≠ part) after
  rest : before.rest = after.rest
  trace : part.Adds before.machine.trace after.machine.trace

/-! ### Alike systems -/

section Alike

variable {γ : Type} {parts others : Part → Prop}

namespace Simulated.Alike

variable {first second third : Simulated}

theorem refl (controller : Simulated) : controller.Alike parts controller :=
  ⟨fun _ => rfl, fun _ => rfl⟩

theorem symm (alike : first.Alike parts second) : second.Alike parts first :=
  ⟨fun owned => (alike.lines owned).symm, fun owned => (alike.slots owned).symm⟩

theorem trans (left : first.Alike parts second) (right : second.Alike parts third) :
    first.Alike parts third where
  lines owned := (left.lines owned).trans (right.lines owned)
  slots owned := (left.slots owned).trans (right.slots owned)

theorem mono (alike : first.Alike parts second) (fewer : ∀ part, others part → parts part) :
    first.Alike others second :=
  ⟨fun owned => alike.lines (fewer _ owned), fun owned => alike.slots (fewer _ owned)⟩

end Simulated.Alike

namespace Machine.Alike

variable {first second third : Machine Simulated γ}

theorem refl (machine : Machine Simulated γ) : machine.Alike parts machine :=
  ⟨.refl _, fun _ => rfl⟩

theorem symm (alike : first.Alike parts second) : second.Alike parts first :=
  ⟨alike.bank.symm, fun owned => (alike.status owned).symm⟩

theorem trans (left : first.Alike parts second) (right : second.Alike parts third) :
    first.Alike parts third where
  bank := left.bank.trans right.bank
  status owned := (left.status owned).trans (right.status owned)

theorem mono (alike : first.Alike parts second) (fewer : ∀ part, others part → parts part) :
    first.Alike others second :=
  ⟨alike.bank.mono fewer, fun owned => alike.status (fewer _ owned)⟩

end Machine.Alike

namespace System.Alike

variable {first second third : System Simulated γ}

theorem refl (system : System Simulated γ) : system.Alike parts system :=
  ⟨.refl _, fun _ => rfl, fun _ => rfl⟩

theorem symm (alike : first.Alike parts second) : second.Alike parts first where
  machine := alike.machine.symm
  polled owned := (alike.polled owned).symm
  vectored owned := (alike.vectored owned).symm

theorem trans (left : first.Alike parts second) (right : second.Alike parts third) :
    first.Alike parts third where
  machine := left.machine.trans right.machine
  polled owned := (left.polled owned).trans (right.polled owned)
  vectored owned := (left.vectored owned).trans (right.vectored owned)

theorem mono (alike : first.Alike parts second) (fewer : ∀ part, others part → parts part) :
    first.Alike others second where
  machine := alike.machine.mono fewer
  polled owned := alike.polled (fewer _ owned)
  vectored owned := alike.vectored (fewer _ owned)

end System.Alike

namespace Part.Adds

variable {part : Part} {before middle after : Array Event}

theorem refl (trace : Array Event) : part.Adds trace trace :=
  ⟨[], (List.append_nil _).symm, nofun⟩

theorem trans (left : part.Adds before middle) (right : part.Adds middle after) :
    part.Adds before after := by
  obtain ⟨early, same, shows⟩ := left
  obtain ⟨late, same', shows'⟩ := right
  refine ⟨early ++ late, by rw [same', same, List.append_assoc], fun event member => ?_⟩
  exact (List.mem_append.mp member).elim (shows event) (shows' event)

theorem push (trace : Array Event) {event : Event} (shows : part.Shows event) :
    part.Adds trace (trace.push event) := by
  refine ⟨[event], Array.toList_push, fun other member => ?_⟩
  rwa [List.mem_singleton.mp member]

end Part.Adds

end Alike

/-! ### The scope of a part -/

namespace Part

variable {γ : Type}

/-- The scope of a part in the controller. -/
def onBank (part : Part) : Scope Simulated where
  Agree := Simulated.Alike (· = part)
  Leads := Simulated.ChangesOnly part
  refl controller := ⟨.refl controller, rfl⟩
  trans left right := ⟨left.others.trans right.others, left.rest.trans right.rest⟩

/-- The scope of a part in the machine. -/
def onMachine (part : Part) : Scope (Machine Simulated γ) where
  Agree := Machine.Alike (· = part)
  Leads := Machine.ChangesOnly part
  refl machine := ⟨.refl machine, rfl, rfl, .refl _⟩
  trans left right := ⟨left.others.trans right.others, left.rest.trans right.rest,
    left.verbosity.trans right.verbosity, left.trace.trans right.trace⟩

/-- The scope of a part in the system. -/
def scope (part : Part) : Scope (System Simulated γ) where
  Agree := System.Alike (· = part)
  Leads := System.ChangesOnly part
  refl system := ⟨.refl system, rfl, .refl _⟩
  trans left right := ⟨left.others.trans right.others, left.rest.trans right.rest,
    left.trace.trans right.trace⟩

end Part

section Lifting

variable {γ α : Type} {part : Part}

theorem Bus.onBank_confined {step : EStateM Fault Simulated α}
    (confined : part.onBank.Confines step) :
    part.onMachine.Confines (Bus.onBank step : Bus Simulated γ α) where
  match_of_agree {first second} agree := by
    have same := confined.match_of_agree agree.bank
    unfold Bus.onBank
    generalize step first.bank = left at same
    generalize step second.bank = right at same
    cases same with
    | ok value banks => exact .ok value ⟨banks, agree.status⟩
    | error fault banks => exact .error fault ⟨banks, agree.status⟩
  leads machine := by
    have led := confined.leads machine.bank
    rw [Bus.stateAfter_onBank]
    exact ⟨⟨led.others, fun _ => rfl⟩, led.rest, rfl, .refl _⟩

theorem Run.onMachine_confined {step : Bus Simulated γ α}
    (confined : part.onMachine.Confines step) :
    part.scope.Confines (Run.onMachine step) where
  match_of_agree {first second} agree := by
    have same := confined.match_of_agree agree.machine
    unfold Run.onMachine
    generalize step first.machine = left at same
    generalize step second.machine = right at same
    cases same with
    | ok value machines => exact .ok value ⟨machines, agree.polled, agree.vectored⟩
    | error fault machines => exact .error fault ⟨machines, agree.polled, agree.vectored⟩
  leads system := by
    have led := confined.leads system.machine
    rw [Run.stateAfter_onMachine]
    refine ⟨⟨led.others, fun _ => rfl, fun _ => rfl⟩, ?_, led.trace⟩
    simp only [System.rest, led.rest, led.verbosity]

theorem Bus.record_confined {event : Event} (shows : part.Shows event) :
    part.onMachine.Confines (Bus.record event : Bus Simulated γ Unit) :=
  .modify (fun agree => ⟨agree.bank, agree.status⟩)
    fun _ => ⟨⟨.refl _, fun _ => rfl⟩, rfl, rfl, .push _ shows⟩

/-- How much is logged decides nothing but what the trace shows. -/
theorem Bus.log_confined (notice : Notice) :
    part.onMachine.Confines (Bus.log notice : Bus Simulated γ Unit) where
  match_of_agree {first second} agree := by
    rw [Bus.log_ok, Bus.log_ok]
    exact .ok () ⟨by simpa using agree.bank, by simpa using agree.status⟩
  leads machine := by
    rw [stateAfter_ok (Bus.log_ok notice machine), Machine.logged]
    split
    · have shown : part.Shows (.logged notice) := trivial
      exact (Bus.record_confined shown).leads machine
    · exact part.onMachine.refl machine

end Lifting

/-! ### Accesses -/

theorem Offset.SlotRegister.covered {offset : Nat} (register : Offset.SlotRegister offset) :
    Part.vectored.Covers offset := by
  obtain ⟨slot, rfl | rfl⟩ := register
  · exact ⟨_, Register.ofOffset?_slotControl slot, rfl⟩
  · exact ⟨_, Register.ofOffset?_slotAddress slot, rfl⟩

section Accesses

variable {γ : Type} {part : Part} {offset : Nat}

namespace Simulated

theorem read_confined (covers : part.Covers offset) : part.onBank.Confines (read offset) := by
  obtain ⟨register, found, owned⟩ := covers
  refine ⟨fun {first second} agree => ?_, fun controller => ?_⟩
  · unfold read
    simp only [found]
    cases register with
    | protection | vector | defaultVector | identification => cases owned
    | slotAddress slot | slotControl slot =>
      rw [agree.slots (Option.some.inj owned)]
      exact .ok _ agree
    | enableClear | softClear => exact .error _ agree
    | _ =>
      have same := agree.lines (Option.some.inj owned)
      simp only [lines, Lines.mk.injEq] at same
      simp only [irqStatus, fiqStatus, asserted, same]
      exact .ok _ agree
  · have kept : stateAfter (read offset) controller = controller := by
      unfold stateAfter read
      simp only [found]
      cases register with
      | vector => cases owned
      | _ => rfl
    rw [kept]
    exact part.onBank.refl controller

theorem write_confined (covers : part.Covers offset) (value : Word) :
    part.onBank.Confines (write offset value) := by
  obtain ⟨register, found, owned⟩ := covers
  refine ⟨fun {first second} agree => ?_, fun controller => ?_⟩
  · unfold write
    simp only [found]
    cases register with
    | protection | vector | defaultVector | identification => cases owned
    | slotAddress slot | slotControl slot =>
      refine .ok () ⟨agree.lines, fun owned => ?_⟩
      simp only [modifySlot, agree.slots owned]
    | irqStatus | fiqStatus | rawStatus => exact .error _ agree
    | _ =>
      have same := agree.lines (Option.some.inj owned)
      simp only [lines, Lines.mk.injEq] at same
      exact .ok () ⟨fun _ => by simp only [lines, same], agree.slots⟩
  · unfold stateAfter write
    simp only [found]
    cases register with
    | protection | vector | defaultVector | identification => cases owned
    | slotAddress slot | slotControl slot =>
      exact ⟨⟨fun _ => rfl, fun others => absurd (Option.some.inj owned) others⟩, rfl⟩
    | irqStatus | fiqStatus | rawStatus => exact part.onBank.refl controller
    | _ => exact ⟨⟨fun others => absurd (Option.some.inj owned) others, fun _ => rfl⟩, rfl⟩

/-- The bench drives lines. -/
theorem drive_confined (line : Nat) (level : Bool) :
    Part.lines.onBank.Confines (drive line level) where
  match_of_agree {first second} agree := by
    have same := agree.lines rfl
    simp only [lines, Lines.mk.injEq] at same
    unfold drive
    rw [same.1]
    cases second.inputs.put line level with
    | ok inputs => exact .ok () ⟨fun _ => by simp only [lines, same], agree.slots⟩
    | error fault => exact .error fault agree
  leads controller := by
    unfold stateAfter drive
    cases controller.inputs.put line level with
    | ok inputs => exact ⟨⟨fun others => absurd rfl others, fun _ => rfl⟩, rfl⟩
    | error fault => exact Part.lines.onBank.refl controller

end Simulated

/-- **A read access** in a part. -/
theorem Part.read_confined (covers : part.Covers offset) :
    part.onMachine.Confines (Bus.read offset : Bus Simulated γ Word) := by
  refine .bind (Bus.onBank_confined (Simulated.read_confined covers)) fun value => ?_
  exact .bind (Bus.record_confined covers) fun _ => .pure value

/-- **A write access** in a part. -/
theorem Part.write_confined (covers : part.Covers offset) (value : Word) :
    part.onMachine.Confines (Bus.write offset value : Bus Simulated γ Unit) :=
  .bind (Bus.onBank_confined (Simulated.write_confined covers value)) fun _ =>
    Bus.record_confined covers

end Accesses

/-! ### Requests -/

/-- The part that an access to the registers belongs to, if there is one. -/
def RegisterOp.part? : RegisterOp → Option Part
  | .irqStatus | .fiqStatus | .rawStatus | .select | .setSelect _ | .enabledLines | .enableLines _
  | .disableLines _ | .softLines | .raiseSoft _ | .clearSoft _ => some .lines
  | _ => none

/-- The part that an action of the bench belongs to. -/
def Simulated.BenchAction.part? : Simulated.BenchAction → Option Part
  | .raise _ | .lower _ => some .lines
  | .vectorReads | .acknowledgements | .inService => none

/-- The part that an operation belongs to. -/
def Operation.part? : Operation → Option Part
  | .bindPolled .. | .releasePolled _ | .clearPolled | .polledPosition _ => some .polled
  | .bindVectored .. | .releaseVectored _ | .releaseAllVectored | .clearVectored
  | .vectoredPosition _ | .enableSlot _ | .disableSlot _ | .disableAllSlots => some .vectored
  | .init | .setMode _ | .handleIrq | .servicePolled _ | .serviceUnslotted => none

/-- The part that a request belongs to. -/
def Request.part? : Request Simulated.BenchAction → Option Part
  | .operation op => op.part?
  | .action (.register op) => op.part?
  | .action (.line _) => some .lines
  | .action (.status _) => some .status
  | .action (.bench drive) => drive.part?
  | .action (.call _) | .action .interrupt | .action .fail => none

section Machine

variable {γ : Type} {part : Part}

/-- An access to the registers of the lines. -/
theorem RegisterOp.perform_confined {op : RegisterOp} (owned : op.part? = some part) :
    part.onMachine.Confines (op.perform : Bus Simulated γ Reply) := by
  refine op.perform_sequential (Scope.Confines.sequential _) (fun offset member => ?_)
    fun offset member value => ?_
  · refine Part.read_confined ?_
    cases op with
    | irqStatus | fiqStatus | rawStatus | select | enabledLines | softLines =>
      obtain rfl := List.mem_singleton.mp member
      exact ⟨_, rfl, owned⟩
    | setSelect | enableLines | disableLines | raiseSoft | clearSoft => cases member
    | _ => cases owned
  · refine Part.write_confined ?_ value
    cases op with
    | irqStatus | fiqStatus | rawStatus | select | enabledLines | softLines => cases member
    | setSelect | enableLines | disableLines | raiseSoft | clearSoft =>
      obtain rfl := Option.some.inj member
      exact ⟨_, rfl, owned⟩
    | _ => cases owned

/-- An operation on one line. -/
theorem LineOp.perform_confined (op : LineOp) :
    Part.lines.onMachine.Confines (op.perform : Bus Simulated γ Reply) := by
  refine op.perform_sequential (Scope.Confines.sequential _) Bus.log_confined
    (fun offset member => ?_) fun offset member value => ?_
  · refine Part.read_confined ?_
    cases op with
    | enable | disable | raise => cases member
    | isEnabled | route | setRoute | clear =>
      obtain rfl := List.mem_singleton.mp member
      exact ⟨_, rfl, rfl⟩
  · refine Part.write_confined ?_ value
    cases op with
    | isEnabled | route => cases member
    | enable | disable | setRoute | raise | clear =>
      obtain rfl := Option.some.inj member
      exact ⟨_, rfl, rfl⟩

variable [StatusRegister γ]

theorem Bus.readStatus_confined :
    Part.status.onMachine.Confines (Bus.readStatus : Bus Simulated γ StatusWord) := by
  refine .of_get (fun agree => ?_) fun machine => ?_
  · rw [agree.status rfl]
  · exact .bind (Bus.record_confined rfl) fun _ => .pure _

theorem Bus.writeStatus_confined (value : StatusWord) :
    Part.status.onMachine.Confines (Bus.writeStatus value : Bus Simulated γ Unit) := by
  refine .bind (.modify (fun agree => ?_) fun machine => ?_) fun _ => Bus.record_confined rfl
  · exact ⟨agree.bank, fun owned => by rw [agree.status owned]⟩
  · exact ⟨⟨.refl _, fun others => absurd rfl others⟩, rfl, rfl, .refl _⟩

/-- An operation on the status word. -/
theorem StatusOp.perform_confined (op : StatusOp) :
    Part.status.onMachine.Confines (op.perform : Bus Simulated γ Reply) :=
  op.perform_sequential (Scope.Confines.sequential _) Bus.readStatus_confined
    Bus.writeStatus_confined

end Machine

section Operations

variable {γ α : Type} {part : Part}

theorem Scope.Confines.checked {scope : Scope (System Simulated γ)} (result : Except Fault α) :
    scope.Confines (checked result : Run Simulated γ α) :=
  (sequential scope).checked result

namespace Run

theorem log_confined (notice : Notice) :
    part.scope.Confines (onMachine (Bus.log notice) : Run Simulated γ Unit) :=
  onMachine_confined (Bus.log_confined notice)

theorem refuse_confined (reason : Refusal) :
    part.scope.Confines (onMachine (Bus.refuse reason) : Run Simulated γ (Except Refusal α)) :=
  onMachine_confined (Bus.refuse_sequential (Scope.Confines.sequential _) Bus.log_confined reason)

theorem modifyPolled_confined (change : Table Handler → Table Handler) :
    Part.polled.scope.Confines (modify fun system : System Simulated γ =>
      { system with polled := change system.polled } : Run Simulated γ Unit) :=
  .modify (fun agree => ⟨agree.machine, fun owned => by rw [agree.polled owned], agree.vectored⟩)
    fun _ => ⟨⟨.refl _, fun others => absurd rfl others, fun _ => rfl⟩, rfl, .refl _⟩

theorem modifyVectored_confined (change : Table Routine → Table Routine) :
    Part.vectored.scope.Confines (modify fun system : System Simulated γ =>
      { system with vectored := change system.vectored } : Run Simulated γ Unit) :=
  .modify (fun agree => ⟨agree.machine, agree.polled, fun owned => by rw [agree.vectored owned]⟩)
    fun _ => ⟨⟨.refl _, fun _ => rfl, fun others => absurd rfl others⟩, rfl, .refl _⟩

theorem loadSlot_confined (index : Nat) (entry : Entry Routine) :
    Part.vectored.scope.Confines (onMachine (Bus.loadSlot index entry) : Run Simulated γ Unit) :=
  onMachine_confined (Bus.loadSlot_sequential (Scope.Confines.sequential _)
    (fun _ register => Part.write_confined register.covered) index entry)

/-- An update of the vectored table keeps to the table and the slots. -/
theorem updateVectored_confined (update : Update Routine α) :
    Part.vectored.scope.Confines (updateVectored update : Run Simulated γ α) := by
  refine .bind ((Scope.Confines.sequential _).forM fun write _ => ?_) fun _ => .checked _
  exact .bind (modifyVectored_confined fun table => table.write write) fun _ =>
    loadSlot_confined _ _

/-- So does switching slots, which reads their control words. -/
theorem switchSlots_confined {slots : List Nat} (inside : ∀ slot ∈ slots, slot < slotCount)
    (change : Word → Word) :
    Part.vectored.scope.Confines (slots.forM fun slot => onMachine (do
      Bus.setSlotControl slot (change (← Bus.slotControl slot))) : Run Simulated γ Unit) := by
  refine (Scope.Confines.sequential _).forM fun slot member => onMachine_confined ?_
  exact Bus.modifyControl_sequential (Scope.Confines.sequential _)
    (fun _ register => Part.write_confined register.covered)
    (fun _ register => Part.read_confined register.covered) (inside slot member) change

end Run

/-- An operation on the polled table. -/
theorem Operation.perform_polled_confined {call : Nat → Handler → Run Simulated γ Unit}
    {op : Operation} (owned : op.part? = some .polled) :
    Part.polled.scope.Confines (op.perform call) := by
  cases op with
  | bindPolled line handler priority =>
    refine .bind ?_ fun _ => .pure _
    unfold Run.bindPolled
    split
    · refine .of_get (fun agree => ?_) fun system => ?_
      · simp only [agree.polled rfl]
      · refine .bind (Run.modifyPolled_confined fun _ => _) fun _ => .bind (.checked _) fun _ => ?_
        exact .bind (Run.log_confined _) fun _ => .pure _
    · exact Run.refuse_confined _
  | releasePolled line =>
    refine .bind (.of_get (fun agree => ?_) fun system => ?_) fun _ => .pure _
    · simp only [agree.polled rfl]
    · refine .bind (Run.modifyPolled_confined fun _ => _) fun _ => ?_
      refine .bind (.checked _) fun place => ?_
      cases place with
      | none => exact .pure _
      | some place => exact Run.log_confined _
  | clearPolled =>
    exact .bind (Run.modifyPolled_confined fun table => table.apply Table.clearWrites) fun _ =>
      .pure _
  | polledPosition line =>
    refine .of_get (fun agree => ?_) fun _ => .pure _
    rw [agree.polled rfl]
  | _ => cases owned

/-- An operation on the vectored table or on slots. -/
theorem Operation.perform_vectored_confined {call : Nat → Handler → Run Simulated γ Unit}
    {op : Operation} (owned : op.part? = some .vectored) :
    Part.vectored.scope.Confines (op.perform call) := by
  cases op with
  | bindVectored line routine priority =>
    refine .bind ?_ fun _ => .pure _
    unfold Run.bindVectored
    split
    · refine .of_get (fun agree => ?_) fun system => ?_
      · simp only [agree.vectored rfl]
      · refine .bind (Run.updateVectored_confined _) fun _ => ?_
        exact .bind (Run.log_confined _) fun _ => .pure _
    · exact Run.refuse_confined _
  | releaseVectored line =>
    refine .bind (.of_get (fun agree => ?_) fun system => ?_) fun _ => .pure _
    · simp only [agree.vectored rfl]
    · refine .bind (Run.updateVectored_confined _) fun place => ?_
      cases place with
      | none => exact .pure _
      | some place => exact Run.log_confined _
  | releaseAllVectored =>
    refine .bind (.bind (Run.updateVectored_confined _) fun _ => ?_) fun _ => .pure _
    exact Run.log_confined _
  | clearVectored => exact .bind (Run.updateVectored_confined _) fun _ => .pure _
  | vectoredPosition line =>
    refine .of_get (fun agree => ?_) fun _ => .pure _
    rw [agree.vectored rfl]
  | enableSlot line =>
    refine .bind (.of_get (fun agree => ?_) fun system => ?_) fun _ => .pure _
    · simp only [agree.vectored rfl]
    · refine .bind (Run.switchSlots_confined (slotsOf_lt _ _) (· ||| controlEnable)) fun _ => ?_
      split
      · exact .pure _
      · exact Run.refuse_confined _
  | disableSlot line =>
    refine .bind (.of_get (fun agree => ?_) fun system => ?_) fun _ => .pure _
    · simp only [agree.vectored rfl]
    · exact Run.switchSlots_confined (slotsOf_lt _ _) (· &&& ~~~controlEnable)
  | disableAllSlots =>
    refine .bind (Run.switchSlots_confined (fun slot member => ?_) (· &&& ~~~controlEnable))
      fun _ => .pure _
    exact List.mem_range.mp member
  | _ => cases owned

variable [StatusRegister γ]

/-- **A request** keeps to the part that it belongs to, whatever the handlers are. -/
theorem Handlers.perform_confined (handlers : Handlers Simulated γ)
    {request : Request Simulated.BenchAction} (owned : request.part? = some part) :
    part.scope.Confines (handlers.perform request) := by
  cases request with
  | operation op =>
    cases part with
    | polled => exact Operation.perform_polled_confined owned
    | vectored => exact Operation.perform_vectored_confined owned
    | lines | status => cases op <;> cases owned
  | action action =>
    cases action with
    | register op => exact Run.onMachine_confined (RegisterOp.perform_confined owned)
    | line op =>
      obtain rfl := Option.some.inj owned
      exact Run.onMachine_confined op.perform_confined
    | status op =>
      obtain rfl := Option.some.inj owned
      exact Run.onMachine_confined op.perform_confined
    | bench drive =>
      refine Run.onMachine_confined (Bus.onBank_confined ?_)
      cases drive with
      | raise line | lower line =>
        obtain rfl := Option.some.inj owned
        exact .bind (Simulated.drive_confined line _) fun _ => .pure _
      | _ => cases owned
    | call | interrupt | fail => cases owned

end Operations

end VectoredInterrupts
