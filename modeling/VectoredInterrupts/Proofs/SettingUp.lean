/-
**Setting up erases what was before.**

The simulated controller is set up by four writes, a pass over the slots and plain assignments. What
they leave is the same from any state: the lines, the slots, the default vector and all of the
firmware state are in their clean state (`System.Clean`), and what peripherals and the processor
do, the protection register and the counts are as they were (`System.kept`).

* `Run.init_ok`: the state after setting up, as a function of what is kept;
* `init_erases_history`: two systems of which the same is kept become the same.
-/

import VectoredInterrupts.Proofs.Independence
import VectoredInterrupts.Proofs.Mirror

namespace VectoredInterrupts

/-- All that a system is made up of, but for the log and the trace. -/
def System.components {β γ : Type} (system : System β γ) :
    β × γ × Table Handler × Table Routine × Mode × Nat :=
  (system.machine.bank, system.machine.status, system.polled, system.vectored, system.mode,
    system.spurious)

section Simulated

variable {γ : Type}

/-- What setting up does not touch: the inputs of the lines, the protection register, the counts of
the vector register, and the status word. -/
def System.kept (system : System Simulated γ) : LineSet × Word × Nat × Nat × Nat × γ :=
  (system.machine.bank.inputs, system.machine.bank.protection, system.machine.bank.inService,
    system.machine.bank.vectorReads, system.machine.bank.acknowledgements, system.machine.status)

/-- The clean state. -/
structure System.Clean (system : System Simulated γ) : Prop where
  enabled : system.machine.bank.enabled = 0
  /-- Every line is routed to IRQ. -/
  select : system.machine.bank.select = 0
  soft : system.machine.bank.soft = 0
  slots : ∀ k : Fin 16, (system.machine.bank.slots.get k).isEnabled = false ∧
    system.machine.bank.slots.get k = ⟨0, Routine.dummy.address⟩
  defaultVector : system.machine.bank.defaultVector = Routine.fallback.address
  polled : system.polled = .vacant
  vectored : system.vectored = .vacant
  mode : system.mode = .polled
  spurious : system.spurious = 0

/-- The system with another register bank and another trace. -/
def System.holding (system : System Simulated γ) (bank : Simulated) (trace : Array Event) :
    System Simulated γ :=
  { system with machine := { system.machine with bank, trace } }

/-- A controller whose slots serve no line. -/
def Simulated.vacated (controller : Simulated) : Simulated :=
  { controller with slots := .replicate 16 ⟨0, Routine.dummy.address⟩ }

/-- A controller that has been set up. -/
def Simulated.cleared (controller : Simulated) : Simulated :=
  { controller.vacated with
    soft := 0
    enabled := 0
    select := 0
    defaultVector := Routine.fallback.address }

/-- Vacating the slots changes the slots and the table, and nothing else. -/
theorem Run.clearVectored_vacated (system : System Simulated γ) :
    ∃ trace, Run.clearVectored system =
      .ok () { system.holding system.machine.bank.vacated trace with vectored := .vacant } := by
  obtain ⟨machine, returns, slots⟩ := Run.clearVectored_ok system
  have changes := (Run.updateVectored_confined Table.clear).leads system
  rw [show Run.updateVectored Table.clear = Run.clearVectored from rfl,
    stateAfter_ok returns] at changes
  have loaded : system.machine.bank.vacated.slots = machine.bank.slots := by
    refine Vector.ext fun k inside => ?_
    exact (Vector.getElem_replicate inside).trans (slots ⟨k, inside⟩).symm
  let target : System Simulated γ :=
    { system with machine.bank := system.machine.bank.vacated, vectored := .vacant }
  have alike : ∀ part, target.Alike (· = part) { system with machine, vectored := .vacant } := by
    intro part
    by_cases own : part = .vectored
    · subst own
      exact ⟨⟨⟨nofun, fun _ => loaded⟩, nofun⟩, nofun, fun _ => rfl⟩
    · have others := changes.others.mono fun other (same : other = part) => same ▸ own
      exact ⟨⟨⟨others.machine.bank.lines, fun same => absurd same.symm own⟩,
        others.machine.status⟩, others.polled, fun same => absurd same.symm own⟩
  obtain ⟨trace, same⟩ := System.eq_of_alike alike changes.rest
  exact ⟨trace, returns.trans (congrArg _ same)⟩

theorem Bus.announce_ok (machine : Machine Simulated γ) :
    ∃ trace, Bus.announce machine = .ok () { machine with trace } := by
  unfold Bus.announce Bus.whenLogged
  rw [bind_get]
  split
  · exact ⟨_, rfl⟩
  · exact ⟨_, rfl⟩

theorem Run.write_holding (system : System Simulated γ) (trace : Array Event) (offset : Nat)
    (value : Word) (bank after : Simulated)
    (changes : RegisterBank.write offset value bank = .ok () after) :
    ∃ later, (Run.onMachine (Bus.write offset value) : Run Simulated γ Unit)
      (system.holding bank trace) = .ok () (system.holding after later) :=
  ⟨_, Run.onMachine_ok (Bus.write_ok changes)⟩

theorem LineSet.and_not_all (lines : LineSet) : lines &&& ~~~Word.lines allLines = 0 := by
  rw [show ~~~Word.lines allLines = 0#32 by decide]
  exact BitVec.and_zero

/-- **The state after setting up.** -/
theorem Run.init_ok (system : System Simulated γ) :
    ∃ trace, Run.init system = .ok ()
      { system.holding system.machine.bank.cleared trace with
        polled := .vacant
        vectored := .vacant
        mode := .polled
        spurious := 0 } := by
  let bank := system.machine.bank
  obtain ⟨first, select⟩ := Run.write_holding system system.machine.trace Offset.select 0 bank
    { bank with select := 0 } rfl
  obtain ⟨second, disable⟩ := Run.write_holding system first Offset.enableClear allLines
    { bank with select := 0 }
    { bank with select := 0, enabled := bank.enabled &&& ~~~Word.lines allLines } rfl
  rw [LineSet.and_not_all] at disable
  obtain ⟨third, withdraw⟩ := Run.write_holding system second Offset.softClear allLines
    { bank with select := 0, enabled := 0 }
    { bank with select := 0, enabled := 0, soft := bank.soft &&& ~~~Word.lines allLines } rfl
  rw [LineSet.and_not_all] at withdraw
  obtain ⟨fourth, fallback⟩ := Run.write_holding system third Offset.defaultVector
    Routine.fallback.address { bank with select := 0, enabled := 0, soft := 0 }
    { bank with select := 0, enabled := 0, soft := 0, defaultVector := Routine.fallback.address }
    rfl
  obtain ⟨fifth, vacated⟩ := Run.clearVectored_vacated (system.holding { bank with
    select := 0, enabled := 0, soft := 0, defaultVector := Routine.fallback.address } fourth)
  obtain ⟨trace, announced⟩ := Bus.announce_ok (system.holding bank.cleared fifth).machine
  refine ⟨trace, ?_⟩
  unfold Run.init
  rw [bind_ok (by exact select), bind_ok (by exact disable), bind_ok (by exact withdraw),
    bind_ok (by exact fallback), bind_ok (by exact vacated), Run.clearPolled, bind_modify,
    bind_modify, Table.apply_clearWrites]
  exact Run.onMachine_ok announced

/-- Setting up returns, and leaves the clean state. What it does not touch stays. -/
theorem Run.init_clean (system : System Simulated γ) :
    ∃ after, Run.init system = .ok () after ∧ after.Clean ∧ after.kept = system.kept := by
  obtain ⟨trace, returns⟩ := Run.init_ok system
  refine ⟨_, returns, ⟨rfl, rfl, rfl, fun k => ?_, rfl, rfl, rfl, rfl, rfl⟩, rfl⟩
  have blank : (system.machine.bank.cleared.slots.get k) = ⟨0, Routine.dummy.address⟩ :=
    Vector.getElem_replicate k.isLt
  exact ⟨(congrArg Slot.isEnabled blank).trans (by decide), blank⟩

/-- What is kept and the clean state make up the system. -/
theorem System.Clean.components_eq {first second : System Simulated γ} (clean : first.Clean)
    (also : second.Clean) (same : first.kept = second.kept) :
    first.components = second.components := by
  have slots : first.machine.bank.slots = second.machine.bank.slots :=
    Vector.ext fun k inside => (clean.slots ⟨k, inside⟩).2.trans (also.slots ⟨k, inside⟩).2.symm
  obtain ⟨enabled, select, soft, -, fallback, polled, vectored, mode, spurious⟩ := clean
  obtain ⟨enabled', select', soft', -, fallback', polled', vectored', mode', spurious'⟩ := also
  rcases first with ⟨⟨⟨⟩, _, _, _⟩, _, _, _, _⟩
  rcases second with ⟨⟨⟨⟩, _, _, _⟩, _, _, _, _⟩
  simp only [System.kept, Prod.mk.injEq] at *
  subst enabled select soft fallback polled vectored mode spurious
  simp only [System.components, enabled', select', soft', fallback', polled', vectored', mode',
    spurious', slots, same]

end Simulated

/-- **Setting up erases history.** Whatever has happened to two systems, if the same inputs are
asserted, and the protection register, the counts of the vector register and the status word are the
same, then setting up returns on both and leaves them the same in every component: no line is
enabled, routed to FIQ or requested by software, every slot is disabled at the dummy routine, the
default vector is the marker, both tables are vacant, dispatch is polled, and no interrupt has been
spurious. It leaves those inputs, registers, counts and the status word as they are, and to set up
once more changes nothing. -/
theorem init_erases_history {γ : Type} (first second : System Simulated γ)
    (same : first.kept = second.kept) :
    ∃ left right again, Run.init first = .ok () left ∧ Run.init second = .ok () right ∧
      Run.init left = .ok () again ∧ left.components = right.components ∧ left.Clean ∧
      left.kept = first.kept ∧ again.components = left.components := by
  obtain ⟨left, returns_left, clean_left, kept_left⟩ := Run.init_clean first
  obtain ⟨right, returns_right, clean_right, kept_right⟩ := Run.init_clean second
  obtain ⟨again, returns_again, clean_again, kept_again⟩ := Run.init_clean left
  refine ⟨left, right, again, returns_left, returns_right, returns_again, ?_, clean_left, kept_left,
    clean_again.components_eq clean_left kept_again⟩
  exact clean_left.components_eq clean_right
    (kept_left.trans (same.trans kept_right.symm))

/-- A system that has been in use, with its slot registers written from outside, and a fresh one. -/
theorem init_erases_history_used :
    let handlers : Handlers Simulated ControlField :=
      (Firmware.idle : Firmware Simulated.BenchAction).handlers 1
    let start := System.fresh (.atPowerUp Simulated.powerUp)
    let used := handlers.carryOut ([.operation (.bindVectored 3 .dummy 7),
      .operation (.bindPolled 4 .spurious 9), .operation (.setMode .vectored),
      .action (.register (.enableLines 0xFF)), .action (.register (.setSelect 0xF)),
      .action (.line (.raise 9)), .action (.register (.setSlotControl 5 0x3F))] :
        List (Request Simulated.BenchAction)) start
    used.kept = start.kept ∧ used.components ≠ start.components ∧
      ∃ left right again, Run.init used = .ok () left ∧ Run.init start = .ok () right ∧
        Run.init left = .ok () again ∧ left.components = right.components ∧ left.Clean ∧
        left.kept = used.kept ∧ again.components = left.components := by
  intro handlers start used
  have same : used.kept = start.kept := by decide +kernel
  exact ⟨same, by decide +kernel, init_erases_history used start same⟩

end VectoredInterrupts
