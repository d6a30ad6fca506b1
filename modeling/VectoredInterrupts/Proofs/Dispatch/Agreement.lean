/-
**The two modes agree.**

One dispatch in polled mode runs the handlers of all the lines that request an IRQ, by their order
in the table. In vectored mode the controller hands out one line at a time. Let both tables have
gone through the same changes, and every requesting line have a slot. If the line that has been
served is deasserted after each vectored dispatch, until no bound line requests an IRQ
(`Handlers.Drains`), the lines are served in the order in which the one polled dispatch serves them.

* `live_map` and `arranged_map`: the order of the bindings does not depend on what is bound;
* `Handlers.Quiet.handlePolled` and `Handlers.Quiet.handleVectored`: what one dispatch serves;
* `Draining.drains`: a vectored dispatch takes the first line off the list of those still
  requesting. This is the induction;
* `modes_agree`: both, after any run in which no slot is switched.
-/

import VectoredInterrupts.Proofs.Dispatch.Conduct
import VectoredInterrupts.Proofs.Dispatch.Ranking
import VectoredInterrupts.Proofs.Refusals

namespace VectoredInterrupts

/-! ### Other payloads -/

section Payloads

variable {α ρ : Type} (f : α → ρ)

/-- The binding with another payload. -/
def Binding.map (binding : Binding α) : Binding ρ :=
  ⟨binding.line, binding.priority, f binding.payload⟩

/-- The change with another payload. -/
def Change.map : Change α → Change ρ
  | .bind line payload priority => .bind line (f payload) priority
  | .release line => .release line
  | .clear => .clear

theorem Change.binding?_map (change : Change α) :
    (change.map f).binding? = change.binding?.map (Binding.map f) := by
  cases change with
  | bind line payload priority =>
    rw [map, binding?, binding?]
    split <;> rfl
  | release | clear => rfl

theorem Change.ends_map (change : Change α) (line : Nat) :
    (change.map f).ends line = change.ends line := by
  cases change <;> rfl

/-- Which bindings are in force does not depend on what is bound. -/
theorem live_map (changes : List (Change α)) :
    live (changes.map (Change.map f)) = (live changes).map (Binding.map f) := by
  induction changes with
  | nil => rfl
  | cons change later ih =>
    rw [List.map_cons, live_cons, live_cons, Change.binding?_map]
    cases change.binding? with
    | none => exact ih
    | some binding =>
      have outlasts : ((later.map (Change.map f)).any fun other =>
          other.ends (binding.map f).line) = later.any fun other => other.ends binding.line := by
        rw [List.any_map]
        exact congrArg later.any (funext fun other => other.ends_map f _)
      simp only [Option.map_some]
      rw [outlasts, ih]
      split <;> rfl

/-- Neither does their order. -/
theorem arranged_map (bindings : List (Binding α)) :
    arranged (bindings.map (Binding.map f)) = (arranged bindings).map (Binding.map f) := by
  refine (List.map_mergeSort ?_).symm
  exact fun _ _ _ _ => rfl

end Payloads

/-! ### What has been served -/

/-- The handler that an event marks as served by a dispatch. -/
def Event.served? : Event → Option Handler
  | .dispatched _ handler => some handler
  | .read .. | .wrote .. | .statusRead _ | .statusWrote _ | .logged _ | .entered _
  | .returned _ => none

/-- The controller but for what it counts. -/
def Simulated.uncounted (controller : Simulated) : Simulated :=
  { controller with vectorReads := 0, inService := 0, acknowledgements := 0 }

/-- The handlers have been served, one after another. Nothing else has changed but for what the
controller counts and what is on the trace. -/
structure System.Serving {γ : Type} (before after : System Simulated γ) (handlers : List Handler) :
    Prop where
  bank : after.machine.bank.uncounted = before.machine.bank.uncounted
  spurious : after.spurious = before.spurious
  emits : ∃ events, before.Emits after events ∧ events.filterMap Event.served? = handlers

namespace System.Serving

variable {γ : Type} {before middle after : System Simulated γ} {first second : List Handler}

theorem refl (system : System Simulated γ) : system.Serving system [] :=
  ⟨rfl, rfl, [], .refl system, rfl⟩

theorem trans (left : before.Serving middle first) (right : middle.Serving after second) :
    before.Serving after (first ++ second) := by
  obtain ⟨events, emits, ran⟩ := left.emits
  obtain ⟨more, emits_more, ran_more⟩ := right.emits
  refine ⟨right.bank.trans left.bank, right.spurious.trans left.spurious, events ++ more,
    emits.trans emits_more, ?_⟩
  rw [List.filterMap_append, ran, ran_more]

theorem registry (serving : before.Serving after first) : after.registry = before.registry := by
  obtain ⟨events, emits, -⟩ := serving.emits
  exact emits.registry

/-- One event on the trace. -/
theorem of_event (system : System Simulated γ) (event : Event) (machine : Machine Simulated γ)
    (trace : machine.trace = system.machine.trace.push event)
    (bank : machine.bank.uncounted = system.machine.bank.uncounted) :
    system.Serving { system with machine } event.served?.toList := by
  refine ⟨bank, rfl, [event], (System.Emits.refl system).concat event trace, ?_⟩
  cases served : event.served? with
  | none => rw [List.filterMap_cons_none served, List.filterMap_nil, Option.toList_none]
  | some handler => rw [List.filterMap_cons_some served, List.filterMap_nil, Option.toList_some]

theorem logged (system : System Simulated γ) (notice : Notice) :
    system.Serving { system with machine := system.machine.logged notice } [] := by
  unfold Machine.logged
  split
  · exact of_event system (.logged notice) _ rfl rfl
  · exact refl system

theorem irqStatus (serving : before.Serving after first) :
    after.machine.bank.irqStatus = before.machine.bank.irqStatus := by
  have same := congrArg Simulated.irqStatus serving.bank
  exact same

theorem slots (serving : before.Serving after first) :
    after.machine.bank.slots = before.machine.bank.slots := by
  have same := congrArg Simulated.slots serving.bank
  exact same

/-- An event that is not an access. -/
theorem recorded (system : System Simulated γ) (event : Event) :
    system.Serving { system with machine.trace := system.machine.trace.push event }
      event.served?.toList :=
  of_event system event { system.machine with trace := system.machine.trace.push event } rfl rfl

/-- Reading the lines that request an IRQ. -/
theorem readStatus (system : System Simulated γ) :
    ∃ begun, Run.onMachine Bus.irqStatus system = .ok system.machine.bank.irqStatus begun ∧
      system.Serving begun [] := by
  have read : (Bus.irqStatus : Bus Simulated γ LineSet) system.machine = .ok _ _ :=
    bind_ok (Bus.read_ok rfl)
  rw [LineSet.lines_word] at read
  exact ⟨_, Run.onMachine_ok read, of_event system (.read _ _) _ rfl rfl⟩

/-- Reading the vector. -/
theorem readVector (system : System Simulated γ) :
    ∃ begun, Run.onMachine Bus.vector system = .ok system.machine.bank.currentVector begun ∧
      system.Serving begun [] :=
  ⟨_, Run.onMachine_ok (Bus.read_ok rfl), of_event system (.read _ _) _ rfl rfl⟩

/-- Ending service. -/
theorem acknowledge (system : System Simulated γ) :
    ∃ after, Run.onMachine Bus.acknowledge system = .ok () after ∧ system.Serving after [] :=
  ⟨_, Run.onMachine_ok (Bus.write_ok rfl), of_event system (.wrote _ _) _ rfl rfl⟩

end System.Serving

/-- The handlers return, and leave everything as it was but for the trace, on which they put no
handler as served. Those that do not touch the registers are of this kind. -/
def Handlers.Quiet {γ : Type} (handlers : Handlers Simulated γ) : Prop :=
  ∀ active handler system, ∃ after, handlers.call active handler system = .ok () after ∧
    system.Serving after []

section Quiet

variable {γ : Type} [StatusRegister γ]

theorem StatusOp.perform_quiet (op : StatusOp) (system : System Simulated γ) :
    ∃ reply after, Run.onMachine op.perform system = .ok reply after ∧ system.Serving after [] := by
  cases op with
  | read | irqEnabled | fiqEnabled =>
    exact ⟨_, _, rfl, .of_event system (.statusRead _) _ rfl rfl⟩
  | write value => exact ⟨_, _, rfl, .of_event system (.statusWrote value) _ rfl rfl⟩
  | enableIrq | disableIrq | enableFiq | disableFiq =>
    have read := System.Serving.recorded system
      (.statusRead (StatusRegister.value system.machine.status))
    exact ⟨_, _, rfl, read.trans (.of_event _ (.statusWrote _) _ rfl rfl)⟩

/-- **Handlers that only use the status word** are quiet. -/
theorem Firmware.quiet (firmware : Firmware Simulated.BenchAction)
    (uses : ∀ handler, (firmware.program handler).Uses fun action => ∃ op, action = .status op)
    (frames : Nat) : (firmware.handlers (frames + 1) : Handlers Simulated γ).Quiet := by
  intro active handler system
  have runs : ∀ (program : Program Simulated.BenchAction) (system : System Simulated γ),
      (program.Uses fun action => ∃ op, action = .status op) →
        ∃ after, program.run (Run.perform firmware.nesting (Run.invoke firmware frames) active)
          system = .ok () after ∧ system.Serving after [] := by
    intro program
    induction program with
    | finish => exact fun system _ => ⟨system, rfl, .refl system⟩
    | act action next ih =>
      rintro system ⟨⟨op, rfl⟩, later⟩
      obtain ⟨reply, middle, performed, serving⟩ := op.perform_quiet system
      have replied := System.Serving.recorded middle (.returned reply)
      obtain ⟨after, ran, serving_rest⟩ := ih reply
        { middle with machine.trace := middle.machine.trace.push (.returned reply) } (later reply)
      exact ⟨after, (bind_ok performed).trans ran, (serving.trans replied).trans serving_rest⟩
  have user : ∀ handler, ∃ after, (do
      Run.onMachine (Bus.record (.entered handler))
      (firmware.program handler).run
        (Run.perform firmware.nesting (Run.invoke firmware frames) active)) system = .ok () after ∧
      system.Serving after [] := by
    intro handler
    have entered := System.Serving.recorded system (.entered handler)
    obtain ⟨after, ran, serving⟩ := runs (firmware.program handler)
      { system with machine.trace := system.machine.trace.push (.entered handler) } (uses handler)
    exact ⟨after, ran, entered.trans serving⟩
  cases handler with
  | spurious => exact ⟨_, Run.log_ok _ _, .logged system _⟩
  | context number => exact user (.context number)
  | routine routine =>
    cases routine with
    | dummy | fallback => exact ⟨_, Run.log_ok _ _, .logged system _⟩
    | user number => exact user (.routine (.user number))

end Quiet

/-! ### One dispatch -/

namespace Handlers.Quiet

variable {γ : Type} {handlers : Handlers Simulated γ} (quiet : handlers.Quiet)

include quiet

theorem spareSlots : handlers.SpareSlots := by
  intro active handler system
  obtain ⟨after, returned, serving⟩ := quiet active handler system
  rw [stateAfter_ok returned]
  exact congrArg Vector.get serving.slots

theorem dispatch (active : Nat) (handler : Handler) (system : System Simulated γ) :
    ∃ after, Run.dispatch handlers.call active handler system = .ok () after ∧
      system.Serving after [handler] := by
  obtain ⟨after, returned, serving⟩ := quiet active handler (system.marked active handler)
  exact ⟨after, returned,
    (System.Serving.recorded system (.dispatched active handler)).trans serving⟩

theorem dispatch_all (active : Nat) (list : List Handler) (system : System Simulated γ) :
    ∃ after, list.forM (Run.dispatch handlers.call active) system = .ok ⟨⟩ after ∧
      system.Serving after list := by
  induction list generalizing system with
  | nil => exact ⟨system, rfl, .refl system⟩
  | cons head rest ih =>
    obtain ⟨middle, served, serving⟩ := quiet.dispatch active head system
    obtain ⟨after, served_rest, serving_rest⟩ := ih middle
    exact ⟨after, (bind_ok served).trans served_rest, serving.trans serving_rest⟩

/-- **A dispatch in polled mode** serves all the handlers that are due. -/
theorem handlePolled {system : System Simulated γ} {order : List (Binding Handler)}
    (mode : system.mode = .polled) (lists : system.polled.Lists order) (inRange : InRange order)
    (some_due : due system.machine.bank.irqStatus order ≠ []) (active : Nat) :
    ∃ after, Run.handleIrq handlers.call active system = .ok () after ∧
      system.Serving after (due system.machine.bank.irqStatus order) := by
  obtain ⟨begun, read, serving_read⟩ := System.Serving.readStatus system
  have same : begun.polled = system.polled := congrArg Registry.polled serving_read.registry
  have dispatches : Run.handleIrq handlers.call active system =
      Run.servePolled (Run.dispatch handlers.call active) system.machine.bank.irqStatus
        (due system.machine.bank.irqStatus order) begun :=
    Run.handleIrq_polled mode inRange read (same ▸ lists)
  obtain ⟨after, served, serving⟩ := quiet.dispatch_all active
    (due system.machine.bank.irqStatus order) _
  rw [dispatches, Run.servePolled, bind_ok (Run.log_ok _ _), if_neg some_due]
  exact ⟨after, served, (serving_read.trans (.logged begun _)).trans serving⟩

/-- **A dispatch in vectored mode** serves the routine that is presented. -/
theorem handleVectored {system : System Simulated γ} {routine : Routine}
    (mode : system.mode = .vectored) (named : routine ≠ .dummy ∧ routine ≠ .fallback)
    (presented : system.machine.bank.currentVector = routine.address) (active : Nat) :
    ∃ after, Run.handleIrq handlers.call active system = .ok () after ∧
      system.Serving after [.routine routine] := by
  obtain ⟨begun, read, serving_read⟩ := System.Serving.readVector system
  rw [presented] at read
  have dispatches : Run.handleIrq handlers.call active system =
      Run.serveRoutine (Run.dispatch handlers.call active) routine begun :=
    (Run.handleIrq_of_vectored mode).trans (Run.handleVectored_routine _ named.2 read)
  obtain ⟨served, dispatched, serving⟩ := quiet.dispatch active (.routine routine) _
  obtain ⟨after, ended, serving_end⟩ := System.Serving.acknowledge served
  rw [dispatches, Run.serveRoutine, bind_ok (Run.log_ok _ _), if_neg named.1]
  exact ⟨after, (bind_ok dispatched).trans ended,
    ((serving_read.trans (.logged begun _)).trans serving).trans serving_end⟩

end Handlers.Quiet

/-! ### Serving and deasserting -/

/-- The line that a handler is bound to. -/
def lineOf (bindings : List (Binding Handler)) (handler : Handler) : Option Nat :=
  (bindings.find? fun binding => binding.payload == handler).map Binding.line

/-- The handlers that have been served, in order, are those of the lines. -/
def System.ServesLines {β γ : Type} (bindings : List (Binding Handler)) (before after : System β γ)
    (lines : List Nat) : Prop :=
  ∃ events, after.machine.trace.toList = before.machine.trace.toList ++ events ∧
    (events.filterMap Event.served?).map (lineOf bindings) = lines.map some

/-- Deasserts a line: its input and the software request on it. -/
def Handlers.deassert {γ : Type} [StatusRegister γ] (handlers : Handlers Simulated γ) (line : Nat) :
    System Simulated γ → System Simulated γ :=
  handlers.carryOut [.action (.bench (Simulated.BenchAction.lower line)),
    .action (.line (.clear line))]

/-- Dispatches one after another, each of which serves one line. The line is deasserted then. It
ends when no line in `bindings` requests an IRQ. -/
inductive Handlers.Drains {γ : Type} [StatusRegister γ] (handlers : Handlers Simulated γ)
    (bindings : List (Binding Routine)) :
    System Simulated γ → List Nat → System Simulated γ → Prop
  | done {system : System Simulated γ}
      (idle : ∀ binding ∈ bindings, system.machine.bank.irqStatus.getLsbD binding.line = false) :
      Drains handlers bindings system [] system
  | serve {system served after : System Simulated γ} {line : Nat} {lines : List Nat}
      (requests : ∃ binding ∈ bindings,
        system.machine.bank.irqStatus.getLsbD binding.line = true)
      (dispatched :
        handlers.perform (.operation .handleIrq : Request Simulated.BenchAction) system =
          .ok .done served)
      (serves : system.ServesLines (bindings.map (Binding.map .routine)) served [line])
      (rest : Drains handlers bindings (handlers.deassert line served) lines after) :
      Drains handlers bindings system (line :: lines) after

/-- What the two modes do with one state: one dispatch in polled mode serves the lines that are
served one by one in vectored mode. -/
structure ModesAgree {γ : Type} [StatusRegister γ] (handlers : Handlers Simulated γ)
    (polled : List (Binding Handler)) (vectored : List (Binding Routine))
    (system : System Simulated γ) (lines : List Nat) : Prop where
  nonempty : lines ≠ []
  /-- The lines are those that request an IRQ, each of them once. -/
  nodup : lines.Nodup
  mem : ∀ line, line ∈ lines ↔
    system.machine.bank.irqStatus.getLsbD line = true ∧ ∃ binding ∈ vectored, binding.line = line
  scans : ∃ after,
    handlers.perform (.operation .handleIrq : Request Simulated.BenchAction)
        { system with mode := .polled } = .ok .done after ∧
      System.ServesLines polled { system with mode := .polled } after lines ∧
      after.spurious = system.spurious
  drains : ∃ after, handlers.Drains vectored { system with mode := .vectored } lines after ∧
    after.spurious = system.spurious
  /-- There is no other way for the dispatches in vectored mode to go. -/
  unique : ∀ others after, handlers.Drains vectored { system with mode := .vectored } others after →
    others = lines

section Lines

variable {α : Type}

/-- Among bindings with payloads of their own, the payload of one of them tells its line. -/
theorem lineOf_payload {bindings : List (Binding Handler)}
    (own : ∀ first ∈ bindings, ∀ second ∈ bindings, first.payload = second.payload →
      first = second)
    {binding : Binding Handler} (member : binding ∈ bindings) :
    lineOf bindings binding.payload = some binding.line := by
  have found : (bindings.find? fun other => other.payload == binding.payload).isSome :=
    List.find?_isSome.mpr ⟨binding, member, beq_self_eq_true _⟩
  obtain ⟨other, found⟩ := Option.isSome_iff_exists.mp found
  have payload := List.find?_some found
  have same := own other (List.mem_of_find?_eq_some found) binding member (beq_iff_eq.mp payload)
  rw [lineOf, found, same]
  rfl

/-- Routines of their own are handlers of their own. -/
theorem own_map {bindings : List (Binding Routine)}
    (own : ∀ first ∈ bindings, ∀ second ∈ bindings, first.payload = second.payload →
      first = second) :
    ∀ first ∈ bindings.map (Binding.map Handler.routine),
      ∀ second ∈ bindings.map (Binding.map Handler.routine), first.payload = second.payload →
        first = second := by
  intro _ left _ right same
  obtain ⟨first, listed, rfl⟩ := List.mem_map.mp left
  obtain ⟨second, listed_second, rfl⟩ := List.mem_map.mp right
  exact congrArg _ (own first listed second listed_second (Handler.routine.inj same))

/-- What has been served tells the lines. -/
theorem System.ServesLines.unique {β γ : Type} {bindings : List (Binding Handler)}
    {before after : System β γ} {lines others : List Nat}
    (serves : before.ServesLines bindings after lines)
    (also : before.ServesLines bindings after others) : lines = others := by
  obtain ⟨events, trace, ran⟩ := serves
  obtain ⟨more, trace_more, ran_more⟩ := also
  obtain rfl := List.append_cancel_left (trace.symm.trans trace_more)
  exact List.map_injective_iff.mpr (Option.some_injective Nat) (ran.symm.trans ran_more)

/-- Handlers that are served are served for their lines. -/
theorem System.Serving.servesLines {γ : Type} {before after : System Simulated γ}
    {bindings : List (Binding Handler)} (ran : List (Binding Handler))
    (own : ∀ first ∈ bindings, ∀ second ∈ bindings, first.payload = second.payload →
      first = second)
    (among : ∀ binding ∈ ran, binding ∈ bindings)
    (serving : before.Serving after (ran.map Binding.payload)) :
    before.ServesLines bindings after (ran.map Binding.line) := by
  obtain ⟨events, emits, served⟩ := serving.emits
  refine ⟨events, emits.trace, ?_⟩
  rw [served, List.map_map, List.map_map]
  exact List.map_congr_left fun binding member => lineOf_payload own (among binding member)

end Lines

section Drains

variable {γ : Type} [StatusRegister γ] {handlers : Handlers Simulated γ}
  {bindings : List (Binding Routine)}

/-- The dispatches can go one way only. -/
theorem Handlers.Drains.unique {system after later : System Simulated γ} {lines others : List Nat}
    (drains : handlers.Drains bindings system lines after)
    (also : handlers.Drains bindings system others later) : others = lines ∧ later = after := by
  induction drains generalizing others later with
  | done idle =>
    cases also with
    | done => exact ⟨rfl, rfl⟩
    | serve requests =>
      obtain ⟨binding, member, pends⟩ := requests
      exact absurd (pends.symm.trans (idle binding member)) (by simp)
  | serve requests dispatched serves rest ih =>
    cases also with
    | done idle =>
      obtain ⟨binding, member, pends⟩ := requests
      exact absurd (pends.symm.trans (idle binding member)) (by simp)
    | serve _ dispatched_also serves_also rest_also =>
      cases dispatched.symm.trans dispatched_also
      cases serves.unique serves_also
      obtain ⟨rfl, rfl⟩ := ih rest_also
      exact ⟨rfl, rfl⟩

omit [StatusRegister γ] in
/-- The bench can lower every line that exists. -/
theorem Simulated.lower_ok {line : Nat} (small : line < lineCount) (controller : Simulated) :
    Simulated.bench (.lower line) controller = .ok .done
      { controller with inputs := controller.inputs &&& ~~~BitVec.twoPow 32 line } := by
  have put : controller.inputs.put line false =
      .ok (controller.inputs &&& ~~~BitVec.twoPow 32 line) := by
    exact (if_pos small).trans (by rw [BitVec.twoPow_eq]; rfl)
  have driven : Simulated.drive line false controller = .ok ()
      { controller with inputs := controller.inputs &&& ~~~BitVec.twoPow 32 line } := by
    rw [Simulated.drive, put]
  exact bind_ok driven

omit [StatusRegister γ] in
theorem LineSet.getLsbD_and_not_bit (lines : LineSet) (line : Nat) {other : Nat}
    (small : other < lineCount) :
    (lines &&& ~~~BitVec.twoPow 32 line).getLsbD other =
      (lines.getLsbD other && other != line) := by
  have inside : other < 32 := small
  rw [BitVec.getLsbD_and, BitVec.getLsbD_not, BitVec.getLsbD_twoPow]
  by_cases same : line = other
  · simp [same, inside]
  · simp [same, inside, Ne.symm same]

/-- **Deasserting a line** takes it from the lines that request an IRQ, and leaves the others. -/
theorem Handlers.deassert_after (handlers : Handlers Simulated γ) {line : Nat}
    (small : line < lineCount) (system : System Simulated γ) :
    ∃ machine, handlers.deassert line system = { system with machine } ∧
      machine.bank.slots = system.machine.bank.slots ∧
      ∀ other < lineCount, machine.bank.irqStatus.getLsbD other =
        (system.machine.bank.irqStatus.getLsbD other && other != line) := by
  obtain ⟨middle, lowered, bank_middle⟩ : ∃ middle, handlers.perform
        (.action (.bench (.lower line)) : Request Simulated.BenchAction) system =
          .ok .done { system with machine := middle } ∧
      middle.bank = { system.machine.bank with
        inputs := system.machine.bank.inputs &&& ~~~BitVec.twoPow 32 line } := by
    refine ⟨{ system.machine with bank := _ }, Run.onMachine_ok ?_, rfl⟩
    show Bus.onBank (Simulated.bench (.lower line)) system.machine = _
    rw [Bus.onBank, Simulated.lower_ok small]
  obtain ⟨reply, machine, cleared, -, -, bank⟩ :=
    clearLine_of_small small { system with machine := middle }
  rw [bank_middle] at bank
  refine ⟨machine, ?_, by rw [bank], fun other inside => ?_⟩
  · rw [deassert, carryOut_cons, carryOut_cons, stateAfter_ok lowered]
    exact stateAfter_ok (Run.onMachine_ok cleared)
  · rw [bank, Simulated.getLsbD_irqStatus _ inside, Simulated.getLsbD_irqStatus _ inside]
    simp only [LineSet.getLsbD_and_not_bit _ _ inside]
    cases (other != line) <;> simp

/-- The slots follow the table, and every bound line that requests an IRQ has a slot. -/
structure Draining (bindings : List (Binding Routine)) (system : System Simulated γ) : Prop where
  mode : system.mode = .vectored
  follows : Follows (Entry.EnabledBy id) system.registry system.machine.bank
  lists : system.vectored.Lists (arranged bindings)
  slotted : ∀ binding ∈ bindings, system.machine.bank.irqStatus.getLsbD binding.line = true →
    system.vectored.HasSlot binding.line

omit [StatusRegister γ] in
/-- It stays so while fewer lines request. -/
theorem Draining.of_fewer {before after : System Simulated γ} (draining : Draining bindings before)
    (registry : after.registry = before.registry)
    (slots : after.machine.bank.slots = before.machine.bank.slots)
    (fewer : ∀ binding ∈ bindings, after.machine.bank.irqStatus.getLsbD binding.line = true →
      before.machine.bank.irqStatus.getLsbD binding.line = true) : Draining bindings after := by
  have same_table : after.vectored = before.vectored := congrArg Registry.vectored registry
  refine ⟨(congrArg Registry.mode registry).trans draining.mode,
    ⟨registry ▸ draining.follows.exist, fun k => ?_⟩, same_table ▸ draining.lists,
    fun binding member requests => ?_⟩
  · have same : SlotBank.slot after.machine.bank k = SlotBank.slot before.machine.bank k :=
      congrArg (Vector.get · k) slots
    rw [same, registry]
    exact draining.follows.related k
  · rw [same_table]
    exact draining.slotted binding member (fewer binding member requests)

omit [StatusRegister γ] in
/-- The first of the bindings that are pending, in their order, is foremost. -/
theorem foremost_of_cons {pending : LineSet} (nodup : bindings.Nodup) {first : Binding Routine}
    {rest : List (Binding Routine)}
    (order : ((arranged bindings).filter fun binding => pending.getLsbD binding.line) =
      first :: rest) : Foremost pending bindings first := by
  have member_iff : ∀ binding, binding ∈ first :: rest ↔
      binding ∈ bindings ∧ pending.getLsbD binding.line = true := fun binding => by
    rw [← order, List.mem_filter, mem_arranged]
  obtain ⟨listed, requests⟩ := (member_iff first).mp List.mem_cons_self
  refine ⟨listed, requests, fun other member pends apart => ?_⟩
  have pairs := (arranged_pairwise nodup).filter fun binding => pending.getLsbD binding.line
  rw [order] at pairs
  refine (List.pairwise_cons.mp pairs).1 other ?_
  exact (List.mem_cons.mp ((member_iff other).mpr ⟨member, pends⟩)).resolve_left apart

/-- **Draining** serves the lines in the order of their bindings. The induction is on the bindings
that are still pending: a dispatch serves the first one, and deasserting its line leaves the rest. -/
theorem Draining.drains (quiet : handlers.Quiet) (distinct : Distinct bindings)
    (inRange : InRange bindings)
    (named : ∀ binding ∈ bindings, binding.payload ≠ .dummy ∧ binding.payload ≠ .fallback)
    (own : ∀ first ∈ bindings, ∀ second ∈ bindings, first.payload = second.payload →
      first = second)
    (order : List (Binding Routine)) {system : System Simulated γ}
    (draining : Draining bindings system)
    (pending : ((arranged bindings).filter fun binding =>
      system.machine.bank.irqStatus.getLsbD binding.line) = order) :
    ∃ after, handlers.Drains bindings system (order.map Binding.line) after ∧
      after.spurious = system.spurious := by
  induction order generalizing system with
  | nil =>
    refine ⟨system, .done fun binding member => ?_, rfl⟩
    exact Bool.eq_false_iff.mpr
      (List.filter_eq_nil_iff.mp pending binding (mem_arranged.mpr member))
  | cons first rest ih =>
    have foremost := foremost_of_cons distinct.nodup pending
    obtain ⟨listed, requests, -⟩ := id foremost
    have presented := presented_of_foremost draining.follows draining.lists distinct inRange
      foremost (draining.slotted first listed requests)
    obtain ⟨served, dispatched, serving⟩ :=
      quiet.handleVectored draining.mode (named first listed) presented 1
    have serves : system.ServesLines (bindings.map (Binding.map .routine)) served [first.line] := by
      refine serving.servesLines [first.map .routine] (own_map own) fun binding member => ?_
      rw [List.mem_singleton.mp member]
      exact List.mem_map_of_mem listed
    obtain ⟨machine, deasserted, slots, status⟩ :=
      handlers.deassert_after (inRange first listed) served
    rw [serving.irqStatus] at status
    have next : Draining bindings { served with machine } := by
      refine draining.of_fewer serving.registry (slots.trans serving.slots)
        fun binding member requests => ?_
      have both := (status binding.line (inRange binding member)).symm.trans requests
      exact (Bool.and_eq_true_iff.mp both).1
    have pending_next : ((arranged bindings).filter fun binding =>
        machine.bank.irqStatus.getLsbD binding.line) = rest := by
      have fewer : ∀ binding ∈ arranged bindings, machine.bank.irqStatus.getLsbD binding.line =
          (binding.line != first.line && system.machine.bank.irqStatus.getLsbD binding.line) :=
        fun binding member => by rw [status _ (inRange.arranged binding member), Bool.and_comm]
      have distinct_order := distinct.arranged.filter fun binding : Binding Routine =>
        system.machine.bank.irqStatus.getLsbD binding.line
      rw [pending] at distinct_order
      rw [List.filter_congr fewer, ← List.filter_filter, pending, List.filter_cons_of_neg (by simp)]
      refine List.filter_eq_self.mpr fun binding member => bne_iff_ne.mpr ?_
      exact ((List.pairwise_cons.mp distinct_order).1 binding member).symm
    obtain ⟨after, drains, spurious⟩ := ih next pending_next
    refine ⟨after, .serve ⟨first, listed, requests⟩ (bind_ok dispatched) serves ?_,
      spurious.trans serving.spurious⟩
    rw [deasserted]
    exact drains

end Drains

/-! ### Both modes -/

/-- The lines of the bindings that are pending do not depend on what is bound. -/
theorem pendingLines_map {α ρ : Type} (f : α → ρ) (pending : LineSet) (order : List (Binding α)) :
    ((order.map (Binding.map f)).filter fun binding => pending.getLsbD binding.line).map
        Binding.line =
      (order.filter fun binding => pending.getLsbD binding.line).map Binding.line := by
  rw [List.filter_map, List.map_map]
  rfl

/-- Tables that have gone through the same changes, whatever was bound, have the same lines pending,
in the same order. -/
theorem pendingLines_eq {α ρ : Type} {changes : List (Change α)} {others : List (Change ρ)}
    (alike : changes.map (Change.map fun _ => ()) = others.map (Change.map fun _ => ()))
    (pending : LineSet) :
    ((arranged (live changes)).filter fun binding => pending.getLsbD binding.line).map
        Binding.line =
      ((arranged (live others)).filter fun binding => pending.getLsbD binding.line).map
        Binding.line := by
  have orders : (arranged (live changes)).map (Binding.map fun _ => ()) =
      (arranged (live others)).map (Binding.map fun _ => ()) := by
    rw [← arranged_map, ← arranged_map, ← live_map, ← live_map, alike]
  rw [← pendingLines_map (fun _ => ()), orders, pendingLines_map]

/-- **The two modes agree.** After setting up, let both tables go through the same changes, each line
bound to a handler and to a routine of its own, the lines be driven and handled at will, and no slot
be switched. If a bound line requests an IRQ, and every bound line that does has a slot, then one
dispatch in polled mode serves the lines that vectored mode serves one by one, in the same order,
and neither of them finds anything spurious. -/
theorem modes_agree {γ : Type} [StatusRegister γ] (handlers : Handlers Simulated γ)
    (quiet : handlers.Quiet) (requests : List (Request Simulated.BenchAction))
    (start : System Simulated γ)
    (spared : ∀ request ∈ requests, request.SparesSlots ∧ request.switches = false)
    (alike : (requests.filterMap Request.polledChange?).map (Change.map fun _ => ()) =
      (requests.filterMap Request.vectoredChange?).map (Change.map fun _ => ()))
    (own_handler : ∀ first ∈ live (requests.filterMap Request.polledChange?),
      ∀ second ∈ live (requests.filterMap Request.polledChange?),
        first.payload = second.payload → first = second)
    (own_routine : ∀ first ∈ live (requests.filterMap Request.vectoredChange?),
      ∀ second ∈ live (requests.filterMap Request.vectoredChange?),
        first.payload = second.payload → first = second)
    (named : ∀ binding ∈ live (requests.filterMap Request.vectoredChange?),
      binding.payload ≠ .dummy ∧ binding.payload ≠ .fallback)
    (requesting : ∃ binding ∈ live (requests.filterMap Request.vectoredChange?),
      (handlers.carryOut (.operation .init :: requests)
        start).machine.bank.irqStatus.getLsbD binding.line = true)
    (slotted : ∀ binding ∈ live (requests.filterMap Request.vectoredChange?),
      (handlers.carryOut (.operation .init :: requests)
        start).machine.bank.irqStatus.getLsbD binding.line = true →
      (handlers.carryOut (.operation .init :: requests) start).vectored.HasSlot binding.line) :
    ∃ lines, ModesAgree handlers (live (requests.filterMap Request.polledChange?))
      (live (requests.filterMap Request.vectoredChange?))
      (handlers.carryOut (.operation .init :: requests) start) lines := by
  have polled := handlers.carryOut_init_polled requests start
  have vectored := handlers.carryOut_init_vectored requests start
  have distinct := live_distinct (requests.filterMap Request.vectoredChange?)
  have inRange := live_inRange (requests.filterMap Request.vectoredChange?)
  have polled_inRange := (live_inRange (requests.filterMap Request.polledChange?)).arranged
  have follows := (Handlers.carryOut_follows quiet.spareSlots Simulated.bench_maintains
    (fun request member => (spared request member).1) start).2
    fun request member => (spared request member).2
  rw [← Handlers.carryOut_init] at follows
  generalize handlers.carryOut (.operation .init :: requests) start = reached at *
  have same_lines := pendingLines_eq alike reached.machine.bank.irqStatus
  generalize live (requests.filterMap Request.vectoredChange?) = routines at *
  generalize live (requests.filterMap Request.polledChange?) = bound at *
  obtain ⟨order, pending⟩ : ∃ order, ((arranged routines).filter fun binding =>
      reached.machine.bank.irqStatus.getLsbD binding.line) = order := ⟨_, rfl⟩
  have mem_order : ∀ binding, binding ∈ order ↔
      binding ∈ routines ∧ reached.machine.bank.irqStatus.getLsbD binding.line = true :=
    fun binding => by rw [← pending, List.mem_filter, mem_arranged]
  obtain ⟨first, listed, requests_first⟩ := requesting
  have nonempty : order.map Binding.line ≠ [] := fun none_left => by
    rw [List.map_eq_nil_iff.mp none_left] at mem_order
    cases (mem_order first).mpr ⟨listed, requests_first⟩
  have steady : Draining routines { reached with mode := .vectored } :=
    ⟨rfl, ⟨follows.exist, follows.related⟩, vectored, slotted⟩
  obtain ⟨emptied, drains, spurious⟩ :=
    Draining.drains quiet distinct inRange named own_routine order steady pending
  rw [pending] at same_lines
  refine ⟨order.map Binding.line, nonempty, ?_, fun line => ?_, ?_, ⟨emptied, drains, spurious⟩,
    fun others after also => (drains.unique also).1⟩
  · rw [← pending]
    exact List.pairwise_map.mpr (List.Pairwise.filter _ distinct.arranged)
  · rw [List.mem_map]
    constructor
    · rintro ⟨binding, member, rfl⟩
      obtain ⟨bound, requests⟩ := (mem_order binding).mp member
      exact ⟨requests, binding, bound, rfl⟩
    · rintro ⟨requests, binding, bound, rfl⟩
      exact ⟨binding, (mem_order binding).mpr ⟨bound, requests⟩, rfl⟩
  · have some_due : due reached.machine.bank.irqStatus (arranged bound) ≠ [] := fun none_due => by
      rw [due, List.map_eq_nil_iff] at none_due
      rw [none_due] at same_lines
      exact nonempty same_lines.symm
    have scanning : ({ reached with mode := .polled } : System Simulated γ).mode = .polled := rfl
    obtain ⟨after, dispatched, serving⟩ :=
      quiet.handlePolled scanning polled polled_inRange some_due 1
    refine ⟨after, bind_ok dispatched, ?_, serving.spurious⟩
    rw [← same_lines]
    exact serving.servesLines _ own_handler fun binding member =>
      mem_arranged.mp (List.mem_filter.mp member).1

/-- Line 4 goes in front of line 3 in both tables. Both lines request an IRQ, and so does line 9,
which is not bound. The handlers mask IRQs. -/
theorem modes_agree_two :
    ∃ lines, ModesAgree ((⟨fun _ => .ofList [.status .disableIrq], 1⟩ :
        Firmware Simulated.BenchAction).handlers 1 : Handlers Simulated ControlField)
      (live [.bind 3 (.context 0) 5, .bind 4 (.context 1) 9])
      (live [.bind 3 (.user ⟨0, by decide⟩) 5, .bind 4 (.user ⟨1, by decide⟩) 9])
      (((⟨fun _ => .ofList [.status .disableIrq], 1⟩ : Firmware Simulated.BenchAction).handlers
        1).carryOut
          ([.operation .init, .operation (.bindPolled 3 (.context 0) 5),
            .operation (.bindVectored 3 (.user ⟨0, by decide⟩) 5),
            .operation (.bindPolled 4 (.context 1) 9),
            .operation (.bindVectored 4 (.user ⟨1, by decide⟩) 9),
            .action (.register (.enableLines 0x218)), .action (.bench (.raise 3)),
            .action (.line (.raise 4)), .action (.line (.raise 9))] :
              List (Request Simulated.BenchAction))
          (System.fresh (.atPowerUp Simulated.powerUp))) lines := by
  have masks : ∀ handler, ((⟨fun _ => .ofList [.status .disableIrq], 1⟩ :
      Firmware Simulated.BenchAction).program handler).Uses fun action =>
        ∃ op, action = .status op :=
    fun _ => ⟨⟨.disableIrq, rfl⟩, fun _ => trivial⟩
  refine modes_agree (Firmware.handlers _ 1) (Firmware.quiet _ masks 0)
    [.operation (.bindPolled 3 (.context 0) 5),
      .operation (.bindVectored 3 (.user ⟨0, by decide⟩) 5),
      .operation (.bindPolled 4 (.context 1) 9),
      .operation (.bindVectored 4 (.user ⟨1, by decide⟩) 9),
      .action (.register (.enableLines 0x218)), .action (.bench (.raise 3)),
      .action (.line (.raise 4)), .action (.line (.raise 9))]
    (System.fresh (.atPowerUp .powerUp)) ?_ rfl ?_ ?_ ?_ ?_ ?_
  · simp [Request.SparesSlots, Action.SparesSlots, Action.written?, LineOp.written?,
      RegisterOp.written?, Offset.OfSlot, Offset.enable, Offset.soft, Offset.slotAddressBase,
      Offset.slotControlBase, Request.switches, Operation.switches]
  · decide +kernel
  · decide +kernel
  · decide +kernel
  · decide +kernel
  · decide +kernel

end VectoredInterrupts
