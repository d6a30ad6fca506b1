/-
**The vectors presented are current.**

A dispatch jumps to whatever the controller presents, so the controller may present nothing but the
routines of bindings in force and the default vector. Nobody checks this when a vector is read: it
is an invariant of tables and slots together. From power-up on, set up or not, an enabled slot
belongs to the binding of its place. This holds after every request, and as code that leaves the
slots and the default vector alone does not disturb it, it holds at every moment of a dispatch as
well, whatever the handlers do to the lines and however they nest.

* `Entry.HeldBy`: how a slot stands to the entry of its place from power-up on;
* `System.Passes`: how a system passes from one moment of a dispatch to another;
* `vectors_current`: what is presented, and chosen, at any moment.
-/

import VectoredInterrupts.Proofs.DefaultVector
import VectoredInterrupts.Proofs.Dispatch.Choice
import Mathlib.Logic.Relation

namespace VectoredInterrupts

/-! ### Slots from power-up on -/

/-- The slot serves the entry, or the entry is vacant and the control word zero, as at power-up. -/
def Entry.HeldBy (keep : Word → Word) (entry : Entry Routine) (slot : Slot) : Prop :=
  entry.ServedBy keep slot ∨ entry.line = none ∧ slot.control = 0#64

section Held

variable {β : Type} [RegisterBank β] [SlotBank β] {keep : Word → Word} {entry : Entry Routine}
  {slot : Slot}

theorem held_switchedOff (held : entry.HeldBy keep slot) :
    entry.HeldBy keep
      ⟨SlotBank.keepControl β (slot.control &&& ~~~controlEnable), slot.address⟩ := by
  rcases held with served | ⟨vacant, blank⟩
  · exact .inl (served_switchedOff served)
  · refine .inr ⟨vacant, ?_⟩
    rw [blank, BitVec.zero_and]
    exact SlotBank.keepControl_eq 0 (by decide)

theorem held_switchedOn (held : entry.HeldBy keep slot) (occupied : entry.line.isSome) :
    entry.HeldBy keep ⟨SlotBank.keepControl β (slot.control ||| controlEnable), slot.address⟩ := by
  rcases held with served | ⟨vacant, -⟩
  · exact .inl (served_switchedOn served occupied)
  · rw [vacant] at occupied
    cases occupied

/-- An enabled slot belongs to an entry that binds the line and the routine which the slot names. -/
theorem Entry.HeldBy.of_enabled (held : entry.HeldBy id slot) (enabled : slot.isEnabled = true)
    (inRange : ∀ line, entry.line = some line → line < lineCount) :
    entry.line = some slot.line ∧ slot.address = entry.payload.address := by
  have blank : slot.control ≠ 0#64 := by
    intro zero
    rw [Slot.isEnabled, zero, BitVec.zero_and] at enabled
    cases enabled
  rcases held with served | ⟨-, zero⟩
  · cases bound : entry.line with
    | none =>
      rw [Entry.ServedBy, bound] at served
      exact absurd served.1 blank
    | some line =>
      rw [Entry.ServedBy, bound] at served
      have serves : (⟨line, 0, entry.payload⟩ : Binding Routine).entry.ServedBy id slot := served
      obtain ⟨names, address⟩ := serves.names (inRange line bound)
      exact ⟨congrArg some names.symm, address⟩
  · exact absurd zero blank

end Held

/-! ### Moments of a dispatch -/

/-- The offset is that of neither a slot register nor the default vector. -/
def Offset.Plain (offset : Nat) : Prop := ¬ Offset.OfSlot offset ∧ offset ≠ Offset.defaultVector

instance (offset : Nat) : Decidable (Offset.Plain offset) :=
  inferInstanceAs (Decidable (_ ∧ _))

section Passes

variable {γ : Type}

/-- One step that happens while a dispatch is in progress: the dispatcher or a handler makes it, or
the bench does. -/
inductive System.Passage : System Simulated γ → System Simulated γ → Prop
  | move {before after : System Simulated γ}
      (move : System.Move (fun _ => True) Offset.Plain before after) : Passage before after
  | bench (action : Simulated.BenchAction) (before : System Simulated γ) :
      Passage before
        (stateAfter (Run.onMachine (Bus.onBank (Benched.act action)) : Run Simulated γ Reply) before)

/-- A system passes to another one in a number of such steps. -/
abbrev System.Passes : System Simulated γ → System Simulated γ → Prop :=
  Relation.ReflTransGen System.Passage

/-- What no step disturbs still holds later on. -/
theorem System.Passes.keep {before now : System Simulated γ} (passes : before.Passes now)
    (holds : Registry → Simulated → Prop)
    (undisturbed : ∀ registry, Undisturbed Offset.Plain (holds registry))
    (benched : ∀ registry (action : Simulated.BenchAction),
      Maintains (holds registry) (Benched.act action))
    (held : holds before.registry before.machine.bank) : holds now.registry now.machine.bank := by
  induction passes with
  | refl => exact held
  | tail _ passage ih =>
    cases passage with
    | move move => exact System.closed_of_undisturbed undisturbed move ih
    | bench action => exact Run.bench_maintains benched action _ ih

theorem System.closed_passes (start : System Simulated γ) :
    Closed (System.Move (fun _ => True) Offset.Plain) start.Passes :=
  fun _ _ move passes => passes.tail (.move move)

/-- The choice of a handler goes through such steps. -/
theorem Run.chooseHandler_passes {system chosen : System Simulated γ} {handler : Handler}
    (chooses : Run.chooseHandler system = .ok handler chosen) : system.Passes chosen := by
  have closed := System.closed_passes system
  obtain ⟨vector, begun, read, rest⟩ := vector_of_chooseHandler chooses
  have presented : Maintains system.Passes (onMachine Bus.vector : Run Simulated γ Word) :=
    onMachine_maintains fun now => Bus.read_maintains (closed.of_move.machine now) trivial
  exact (chooseFor_maintains closed.of_move (fun now passes => closed (.counted now) passes) trivial
    vector).of_ok (presented.of_ok .refl read) rest

/-- The handlers go through steps that leave the slots and the default vector alone. -/
def Handlers.Confined (handlers : Handlers Simulated γ) : Prop :=
  ∀ active handler (system : System Simulated γ),
    system.Passes (stateAfter (handlers.call active handler) system)

/-- The handlers of a firmware are confined if its programs write to plain registers only, such as
those of the lines. -/
theorem Firmware.confined [StatusRegister γ] (firmware : Firmware Simulated.BenchAction)
    (uses : ∀ handler, (firmware.program handler).Uses
      fun action => ∀ offset ∈ action.written?, Offset.Plain offset) (frames : Nat) :
    (firmware.handlers frames : Handlers Simulated γ).Confined := by
  intro active handler system
  have closed := System.closed_passes system
  exact Run.invoke_maintains_of_closed closed.of_move
    (fun action now passes => passes.tail (.bench action now))
    (fun handler => (uses handler).imp fun _ allowed => ⟨fun _ _ => trivial, allowed⟩) frames
    (fun _ call calls active => Run.handleIrq_maintains_of_closed closed (fun _ _ => trivial)
      (by decide) (calls active)) handler system .refl

section Confined

variable {handlers : Handlers Simulated γ} (confined : handlers.Confined)

include confined

/-- A dispatch goes through such steps from its beginning to its end. -/
theorem Run.handleIrq_passes (active : Nat) (system : System Simulated γ) :
    system.Passes (stateAfter (Run.handleIrq handlers.call active) system) :=
  Run.handleIrq_maintains_of_closed (System.closed_passes system) (fun _ _ => trivial) (by decide)
    (fun handler now passes => passes.trans (confined active handler now)) system .refl

theorem Handlers.Confined.spareSlots : handlers.SpareSlots := by
  intro active handler system
  exact (confined active handler system).keep
    (fun _ controller => SlotBank.slot controller = SlotBank.slot system.machine.bank)
    (fun _ => (SlotBank.undisturbed (· = _)).mono fun _ plain => plain.1)
    (fun _ => Simulated.bench_maintains (· = _)) rfl

theorem Handlers.Confined.spareDefaultVector : handlers.SpareDefaultVector := by
  intro active handler system
  exact (confined active handler system).keep
    (fun _ controller => controller.defaultVector = system.machine.bank.defaultVector)
    (fun _ => (Simulated.undisturbed_defaultVector _).mono fun _ plain => plain.2)
    (fun _ => Simulated.bench_defaultVector _) rfl

end Confined

end Passes

/-! ### What is presented -/

section Presented

variable {γ : Type}

/-- Whatever is presented belongs to a binding that competes, or is the default vector. -/
theorem Simulated.currentVector_of_held {controller : Simulated} {registry : Registry}
    {bindings : List (Binding Routine)}
    (held : Follows (Entry.HeldBy id) registry controller)
    (lists : registry.vectored.Lists (arranged bindings)) (distinct : Distinct bindings) :
    (∃ binding ∈ bindings, Competes controller registry.vectored binding ∧
        controller.currentVector = binding.payload.address) ∨
      controller.currentVector = controller.defaultVector := by
  by_cases silent : ∀ k, controller.presents (controller.slots.get k) = false
  · exact .inr (currentVector_of_silent silent)
  · obtain ⟨k, presents⟩ := not_forall.mp silent
    obtain ⟨first, presents, -, presented⟩ :=
      currentVector_of_presents (Bool.eq_true_of_not_eq_false presents)
    obtain ⟨enabled, pending⟩ := Bool.and_eq_true_iff.mp presents
    obtain ⟨line, address⟩ :=
      (held.related first).of_enabled enabled (held.exist first)
    -- the entry binds a line, so there is a binding in its place
    rw [lists.get] at line address
    cases there : (arranged bindings)[first.val]? with
    | none =>
      rw [there] at line
      cases line
    | some binding =>
      rw [there] at line address
      have named : binding.line = (controller.slots.get first).line := Option.some.inj line
      have listed := List.mem_of_getElem? there
      refine .inl ⟨binding, mem_arranged.mp listed, ⟨named ▸ pending, first, ?_, enabled⟩,
        presented.trans address⟩
      exact (lists.position_eq_some distinct.arranged listed first).mpr there

/-- Whichever routine a vector stands for, the dispatch chooses it, the routine of a binding in
force, or the dummy routine. -/
theorem Run.chooses_of_address {system : System Simulated γ} {bindings : List (Binding Routine)}
    (lists : system.vectored.Lists (arranged bindings)) (inRange : InRange bindings)
    {routine : Routine} (presented : system.machine.bank.currentVector = routine.address) :
    ∃ served chosen, Run.chooseHandler system = .ok (.routine served) chosen ∧
      (served = .dummy ∨ (∃ binding ∈ bindings, served = binding.payload) ∨ served = routine) := by
  by_cases marker : routine = .fallback
  · subst marker
    obtain ⟨chosen, chooses⟩ := Run.chooses_of_marker inRange.arranged lists presented
    refine ⟨_, chosen, chooses.chooses, ?_⟩
    cases found : unslotted system.machine.bank.enabled (arranged bindings) with
    | none => exact .inl rfl
    | some binding =>
      have listed := List.mem_of_mem_drop (List.mem_of_find?_eq_some found)
      exact .inr (.inl ⟨binding, mem_arranged.mp listed, rfl⟩)
  · obtain ⟨chosen, chooses⟩ := Run.chooses_of_presented marker presented
    exact ⟨routine, chosen, chooses.chooses, .inr (.inr rfl)⟩

/-- So a dispatch chooses the routine of a binding in force, the dummy routine, or that of the default
vector. -/
theorem Run.chooses_current {system : System Simulated γ} {bindings : List (Binding Routine)}
    (lists : system.vectored.Lists (arranged bindings)) (inRange : InRange bindings)
    (presented : (∃ binding ∈ bindings, Competes system.machine.bank system.vectored binding ∧
        system.machine.bank.currentVector = binding.payload.address) ∨
      system.machine.bank.currentVector = system.machine.bank.defaultVector)
    (default : system.machine.bank.defaultVector = 0 ∨
      ∃ routine : Routine, system.machine.bank.defaultVector = routine.address) :
    ∃ routine chosen, Run.chooseHandler system = .ok (.routine routine) chosen ∧
      (routine = .dummy ∨ (∃ binding ∈ bindings, routine = binding.payload) ∨
        routine.address = system.machine.bank.defaultVector) := by
  rcases presented with ⟨binding, listed, -, presented⟩ | presented
  · obtain ⟨served, chosen, chooses, dummy | bound | same⟩ :=
      chooses_of_address lists inRange presented
    · exact ⟨served, chosen, chooses, .inl dummy⟩
    · exact ⟨served, chosen, chooses, .inr (.inl bound)⟩
    · exact ⟨served, chosen, chooses, .inr (.inl ⟨binding, listed, same⟩)⟩
  · rcases default with null | ⟨routine, default⟩
    · obtain ⟨chosen, chooses⟩ := chooses_of_null (presented.trans null)
      exact ⟨.dummy, chosen, chooses.chooses, .inl rfl⟩
    · obtain ⟨served, chosen, chooses, dummy | bound | same⟩ :=
        chooses_of_address lists inRange (presented.trans default)
      · exact ⟨served, chosen, chooses, .inl dummy⟩
      · exact ⟨served, chosen, chooses, .inr (.inl bound)⟩
      · exact ⟨served, chosen, chooses, .inr (.inr (same ▸ default.symm))⟩

/-- What is presented, and chosen, at a moment of a dispatch: `bindings` are in force, and `defaults`
have been set as the default vector. -/
structure VectorsCurrent (handlers : Handlers Simulated γ) (bindings : List (Binding Routine))
    (defaults : List Word) (now : System Simulated γ) : Prop where
  /-- The vectored table lists the bindings in force. -/
  listed : now.vectored.Lists (arranged bindings)
  /-- The entry in the place of an enabled slot binds the line and the routine that the slot names. -/
  slots : ∀ k : Fin 16, (now.machine.bank.slots.get k).isEnabled = true →
    (now.vectored.get k).line = some (now.machine.bank.slots.get k).line ∧
      (now.machine.bank.slots.get k).address = (now.vectored.get k).payload.address
  /-- The default vector is the last one that has been set: it is that of a routine, or zero if none
  has been. -/
  default : now.machine.bank.defaultVector = defaults.getLast?.getD 0
  named : ∀ word ∈ defaults.getLast?, ∃ routine : Routine, word = routine.address
  unset : now.machine.bank.defaultVector = 0 ↔ defaults = []
  /-- What is read is the routine of a binding that competes, or the default vector. -/
  presented : ∃ begun, Run.onMachine Bus.vector now = .ok now.machine.bank.currentVector begun ∧
    ((∃ binding ∈ bindings, Competes now.machine.bank now.vectored binding ∧
        now.machine.bank.currentVector = binding.payload.address) ∨
      now.machine.bank.currentVector = now.machine.bank.defaultVector)
  /-- A dispatch that begins now runs the routine of a binding in force, the dummy routine or that of
  the default vector. -/
  chosen : ∃ routine chosen, Run.chooseHandler now = .ok (.routine routine) chosen ∧
    (routine = .dummy ∨ (∃ binding ∈ bindings, routine = binding.payload) ∨
      routine.address = now.machine.bank.defaultVector) ∧
    now.Passes chosen ∧
    (now.mode = .vectored → ∀ active, Run.handleIrq handlers.call active now = (do
      Run.dispatch handlers.call active (.routine routine)
      Run.onMachine Bus.acknowledge : Run Simulated γ Unit) chosen) ∧
    (now.mode = .vectored → ∀ active, Run.Calls handlers.call active
      (Run.onMachine Bus.acknowledge) [.routine routine] chosen
      (Run.handleIrq handlers.call active now))
  /-- Its end is such a moment again. -/
  ends : ∀ active, now.Passes (stateAfter (Run.handleIrq handlers.call active) now)

/-- It takes no more than this to be so: the slots hold the entries of their places, the table lists
the bindings, and the default vector is the last one that has been set. -/
theorem Handlers.Confined.vectorsCurrent {handlers : Handlers Simulated γ}
    (confined : handlers.Confined) {bindings : List (Binding Routine)} {defaults : List Word}
    {now : System Simulated γ} (held : Follows (Entry.HeldBy id) now.registry now.machine.bank)
    (lists : now.vectored.Lists (arranged bindings)) (distinct : Distinct bindings)
    (inRange : InRange bindings)
    (set : now.machine.bank.defaultVector = defaults.getLast?.getD 0)
    (named : ∀ word ∈ defaults, ∃ routine : Routine, word = routine.address) :
    VectorsCurrent handlers bindings defaults now := by
  have named_last : ∀ word ∈ defaults.getLast?, ∃ routine : Routine, word = routine.address :=
    fun word last => named word (List.mem_of_getLast? last)
  have presented := Simulated.currentVector_of_held held lists distinct
  obtain ⟨begun, read, -⟩ := Simulated.vector_ok now
  have default : (defaults = [] ∧ now.machine.bank.defaultVector = 0) ∨
      defaults ≠ [] ∧ ∃ routine : Routine, now.machine.bank.defaultVector = routine.address := by
    rw [set]
    cases last : defaults.getLast? with
    | none => exact .inl ⟨List.getLast?_eq_none_iff.mp last, rfl⟩
    | some word =>
      refine .inr ⟨fun nil => ?_, named_last word last⟩
      rw [nil] at last
      cases last
  obtain ⟨routine, chosen, chooses, origin⟩ := Run.chooses_current lists inRange presented
    (default.imp And.right And.right)
  refine ⟨lists, fun k enabled => (held.related k).of_enabled enabled (held.exist k), set,
    named_last, ?_, ⟨begun, read, presented⟩, ⟨routine, chosen, chooses, origin, ?_, ?_, ?_⟩, ?_⟩
  · rcases default with ⟨nil, null⟩ | ⟨set_once, routine, same⟩
    · exact iff_of_true null nil
    · exact iff_of_false (fun null => routine.address_ne_zero (same.symm.trans null)) set_once
  · exact Run.chooseHandler_passes chooses
  · exact fun mode active => Run.handleIrq_vectored mode chooses
  · exact fun mode active => Run.calls_singleton_iff.mpr (Run.handleIrq_vectored mode chooses)
  · exact fun active => Run.handleIrq_passes confined active now

variable [StatusRegister γ]

/-- From power-up on the slots hold the entries of their places. -/
theorem Handlers.Confined.carryOut_held {handlers : Handlers Simulated γ}
    (confined : handlers.Confined) {requests : List (Request Simulated.BenchAction)}
    (spared : ∀ request ∈ requests, request.SparesSlots) {machine : Machine Simulated γ}
    (powered : machine.bank = .powerUp) :
    let reached := handlers.carryOut requests (System.fresh machine)
    Follows (Entry.HeldBy id) reached.registry reached.machine.bank := by
  have loads : ∀ entry : Entry Routine, (∀ line, entry.line = some line → line < lineCount) →
      entry.HeldBy id (SlotBank.loaded Simulated entry) :=
    fun _ inRange => .inl (enabledBy_loaded inRange).1
  refine Handlers.carryOut_related confined.spareSlots Simulated.bench_maintains loads
    (fun _ _ => held_switchedOff) (fun _ _ occupied held => held_switchedOn held occupied) spared
    ⟨Table.lists_vacant.linesExist nofun, fun k => .inr ⟨?_, ?_⟩⟩
  · exact congrArg Entry.line (Table.lists_vacant.get k)
  · show (machine.bank.slots.get k).control = 0#64
    rw [powered]
    exact congrArg Slot.control (Vector.getElem_replicate k.isLt)

/-- **The vectors presented are current.** After any run on a system that has just been switched on,
whether or not it sets the controller up, and at every moment of the dispatch that follows: nothing
is presented but the routines of bindings in force whose lines request an IRQ, and the default
vector. The requests and the handlers do not write to the slot registers themselves, and as the
default vector they set routines only. -/
theorem vectors_current (handlers : Handlers Simulated γ)
    (requests : List (Request Simulated.BenchAction)) (machine : Machine Simulated γ)
    (now : System Simulated γ) (confined : handlers.Confined) (powered : machine.bank = .powerUp)
    (spared : ∀ request ∈ requests, request.SparesSlots)
    (named : ∀ word ∈ requests.filterMap Request.defaultVector?,
      ∃ routine : Routine, word = routine.address)
    (passes : (handlers.carryOut requests (System.fresh machine)).Passes now) :
    VectorsCurrent handlers (live (requests.filterMap Request.vectoredChange?))
      (requests.filterMap Request.defaultVector?) now := by
  have held := confined.carryOut_held spared powered
  have lists := handlers.carryOut_vectored requests
    (rfl : (System.fresh machine).vectored = .vacant)
  have set := Handlers.carryOut_defaultVector confined.spareDefaultVector requests
    (System.fresh machine)
  rw [show (System.fresh machine).machine.bank.defaultVector = 0 by
    show machine.bank.defaultVector = 0; rw [powered]; rfl] at set
  have distinct := live_distinct (requests.filterMap Request.vectoredChange?)
  have inRange := live_inRange (requests.filterMap Request.vectoredChange?)
  generalize handlers.carryOut requests (System.fresh machine) = reached at *
  generalize live (requests.filterMap Request.vectoredChange?) = bindings at *
  generalize requests.filterMap Request.defaultVector? = defaults at *
  -- all of this holds at the moment as well
  replace held := passes.keep (Follows (Entry.HeldBy id))
    (fun _ => (undisturbed_follows _).mono fun _ plain => plain.1)
    (fun _ => bench_follows Simulated.bench_maintains _) held
  replace lists := passes.keep (fun registry _ => registry.vectored.Lists (arranged bindings))
    (fun registry => (undisturbed_registry
      (fun registry => registry.vectored.Lists (arranged bindings)) registry).mono
        fun _ _ => trivial)
    (fun _ _ _ before => before) lists
  replace set := passes.keep
    (fun _ controller => controller.defaultVector = defaults.getLast?.getD 0)
    (fun _ => (Simulated.undisturbed_defaultVector _).mono fun _ plain => plain.2)
    (fun _ => Simulated.bench_defaultVector _) set
  exact confined.vectorsCurrent held lists distinct inRange set named

/-- Without setting up, line 3 is bound, bound anew and raised. Its handler takes an interrupt. -/
theorem vectors_current_rebound :
    VectorsCurrent ((⟨fun _ => .ofList [.line (.clear 3), .interrupt], 2⟩ :
        Firmware Simulated.BenchAction).handlers 3)
      (live [.bind 3 (.user ⟨0, by decide⟩) 5, .bind 3 (.user ⟨1, by decide⟩) 5]) []
      (stateAfter (Run.handleIrq ((⟨fun _ => .ofList [.line (.clear 3), .interrupt], 2⟩ :
          Firmware Simulated.BenchAction).handlers 3).call 1)
        (((⟨fun _ => .ofList [.line (.clear 3), .interrupt], 2⟩ :
          Firmware Simulated.BenchAction).handlers 3).carryOut
            ([.operation (.setMode .vectored),
              .operation (.bindVectored 3 (.user ⟨0, by decide⟩) 5),
              .operation (.bindVectored 3 (.user ⟨1, by decide⟩) 5), .action (.line (.enable 3)),
              .action (.line (.raise 3))] : List (Request Simulated.BenchAction))
            (System.fresh (.atPowerUp Simulated.powerUp)))) := by
  have confined : ((⟨fun _ => .ofList [.line (.clear 3), .interrupt], 2⟩ :
      Firmware Simulated.BenchAction).handlers 3 : Handlers Simulated ControlField).Confined := by
    refine Firmware.confined ⟨fun _ => .ofList [.line (.clear 3), .interrupt], 2⟩
      (fun _ => ⟨fun offset written => ?_, fun _ => ⟨nofun, fun _ => trivial⟩⟩) 3
    obtain rfl := Option.some.inj written
    decide
  refine vectors_current _ [.operation (.setMode .vectored),
    .operation (.bindVectored 3 (.user ⟨0, by decide⟩) 5),
    .operation (.bindVectored 3 (.user ⟨1, by decide⟩) 5), .action (.line (.enable 3)),
    .action (.line (.raise 3))] (.atPowerUp .powerUp) _ confined rfl ?_ nofun
    (Run.handleIrq_passes confined 1 _)
  simp [Request.SparesSlots, Action.SparesSlots, Action.written?, LineOp.written?, Offset.OfSlot,
    Offset.enable, Offset.soft, Offset.slotAddressBase, Offset.slotControlBase]

end Presented

end VectoredInterrupts
