/-
**Switching slots on and off.**

The slot of a line is found in the table, and is switched by a read and a write of its control
register. On the simulated controller this sets or clears one bit (`Simulated.switch`), as long as
the slots serve the entries of the table (`System.Mirrored`): lines are bound once, so a line has at
most one slot, and slots that serve no line are off already. What a run of switches comes to is then
a matter of the controller alone.

* `Simulated.switch_switch`, `Simulated.switch_comm`: the algebra of switches;
* `System.Mirrored.perform_slotted`, `System.Mirrored.perform_slotless`: one switch;
* `Handlers.carryOut_switches`, `Handlers.carryOut_disableAllSlots`: runs of switches;
* `slot_switches`: switching after setting up and any run.
-/

import VectoredInterrupts.Proofs.Refusals
import VectoredInterrupts.Proofs.SettingUp
import VectoredInterrupts.Proofs.Simulated.Silence

namespace VectoredInterrupts

/-! ### Enable bits -/

/-- A control word with its enable bit set, or cleared. -/
def Word.switched (on : Bool) (control : Word) : Word :=
  if on then control ||| controlEnable else control &&& ~~~controlEnable

theorem Word.getLsbD_switched (on : Bool) (control : Word) {bit : Nat} (inside : bit < 64) :
    (control.switched on).getLsbD bit = if bit = 5 then on else control.getLsbD bit := by
  have mask : controlEnable = BitVec.twoPow 64 5 := rfl
  have enable : controlEnable.getLsbD bit = decide (bit = 5) := by
    rw [mask, BitVec.getLsbD_twoPow, decide_eq_decide.mpr eq_comm]
    exact Bool.true_and _
  cases on with
  | true =>
    show (control ||| controlEnable).getLsbD bit = _
    rw [BitVec.getLsbD_or, enable]
    by_cases here : bit = 5
    · rw [decide_eq_true here, Bool.or_true, if_pos here]
    · rw [decide_eq_false here, Bool.or_false, if_neg here]
  | false =>
    show (control &&& ~~~controlEnable).getLsbD bit = _
    rw [BitVec.getLsbD_and, BitVec.getLsbD_not, decide_eq_true inside, Bool.true_and, enable]
    by_cases here : bit = 5
    · rw [decide_eq_true here, Bool.not_true, Bool.and_false, if_pos here]
    · rw [decide_eq_false here, Bool.not_false, Bool.and_true, if_neg here]

theorem Word.getLsbD_switched_of_ne (on : Bool) (control : Word) {bit : Nat} (other : bit ≠ 5) :
    (control.switched on).getLsbD bit = control.getLsbD bit := by
  by_cases inside : bit < 64
  · rw [getLsbD_switched on control inside, if_neg other]
  · rw [BitVec.getLsbD_of_ge _ _ (Nat.le_of_not_lt inside),
      BitVec.getLsbD_of_ge _ _ (Nat.le_of_not_lt inside)]

theorem Word.switched_switched (first second : Bool) (control : Word) :
    (control.switched first).switched second = control.switched second := by
  refine BitVec.eq_of_getLsbD_eq fun bit inside => ?_
  rw [getLsbD_switched _ _ inside, getLsbD_switched _ _ inside, getLsbD_switched _ _ inside]
  split <;> rfl

theorem Slot.isEnabled_switched (on : Bool) (slot : Slot) :
    ({ slot with control := slot.control.switched on } : Slot).isEnabled = on := by
  show ((slot.control.switched on) &&& BitVec.twoPow 64 5 != 0) = on
  rw [BitVec.and_twoPow, Word.getLsbD_switched on _ (by decide), if_pos rfl]
  cases on <;> rfl

theorem Slot.line_switched (on : Bool) (slot : Slot) :
    ({ slot with control := slot.control.switched on } : Slot).line = slot.line := by
  have field : slot.control.switched on &&& controlLineMask = slot.control &&& controlLineMask := by
    refine BitVec.eq_of_getLsbD_eq fun bit inside => ?_
    rw [BitVec.getLsbD_and, BitVec.getLsbD_and, Word.getLsbD_switched on _ inside]
    by_cases here : bit = 5
    · rw [here]
      exact (Bool.and_false _).trans (Bool.and_false _).symm
    · rw [if_neg here]
  exact congrArg BitVec.toNat field

namespace Simulated

/-- The controller with a slot switched on, or off. -/
def switch (controller : Simulated) (on : Bool) (k : Fin 16) : Simulated :=
  controller.modifySlot k fun slot => { slot with control := slot.control.switched on }

variable (controller : Simulated)

theorem slots_switch (on : Bool) (k : Fin 16) : (controller.switch on k).slots.get =
    Function.update controller.slots.get k { controller.slots.get k with
      control := (controller.slots.get k).control.switched on } :=
  slots_modifySlot controller k _

theorem eq_of_slots {first second : Simulated} (same : first.slots.get = second.slots.get)
    (rest : { first with slots := second.slots } = second) : first = second := by
  have slots : first.slots = second.slots :=
    Vector.ext fun index inside => congrFun same ⟨index, inside⟩
  rw [← rest, ← slots]

/-- The last switch of a slot counts. -/
theorem switch_switch (first second : Bool) (k : Fin 16) :
    (controller.switch first k).switch second k = controller.switch second k := by
  refine eq_of_slots ?_ rfl
  rw [slots_switch, slots_switch, slots_switch, Function.update_idem, Function.update_self,
    Word.switched_switched]

/-- Different slots are switched in any order. -/
theorem switch_comm (first second : Bool) {k j : Fin 16} (other : k ≠ j) :
    (controller.switch first k).switch second j = (controller.switch second j).switch first k := by
  refine eq_of_slots ?_ rfl
  rw [slots_switch, slots_switch, slots_switch, slots_switch, Function.update_of_ne other.symm,
    Function.update_of_ne other, Function.update_comm other]

/-- A switch changes one control register. -/
theorem content_switch (on : Bool) {k : Fin 16} {cell : Cell} (other : cell ≠ .slotControl k) :
    (controller.switch on k).content cell = controller.content cell := by
  cases cell with
  | slotAddress slot =>
    refine controller.slot_modifySlot (fun slot => slot.address.toNat) _ (fun _ => ?_) k slot
    rfl
  | slotControl slot =>
    have elsewhere : slot ≠ k := fun same => other (congrArg _ same)
    simp only [content, slots_switch, Function.update_of_ne elsewhere]
  | _ => rfl

/-- The controller with slots switched off, one after another. -/
def switchAllOff (slots : List (Fin 16)) : Simulated :=
  slots.foldl (fun controller k => controller.switch false k) controller

theorem slots_switchAllOff (slots : List (Fin 16)) (k : Fin 16) :
    (controller.switchAllOff slots).slots.get k =
      if k ∈ slots then { controller.slots.get k with
        control := (controller.slots.get k).control.switched false }
      else controller.slots.get k := by
  induction slots generalizing controller with
  | nil => rfl
  | cons first rest ih =>
    refine (ih (controller.switch false first)).trans ?_
    rw [slots_switch]
    by_cases here : k = first
    · subst here
      rw [Function.update_self, if_pos List.mem_cons_self, Word.switched_switched, ite_self]
    · rw [Function.update_of_ne here]
      simp only [List.mem_cons, here, false_or]

theorem rest_switchAllOff (slots : List (Fin 16)) (others : Vector Slot 16) :
    { controller.switchAllOff slots with slots := others } = { controller with slots := others } := by
  induction slots generalizing controller with
  | nil => rfl
  | cons first rest ih => exact ih (controller.switch false first)

/-- Lists of slots amount to the same if they differ in slots that are off anyway. -/
theorem switchAllOff_congr {first second : List (Fin 16)}
    (off : ∀ k, (k ∈ first ↔ k ∈ second) ∨
      (controller.slots.get k).control.switched false = (controller.slots.get k).control) :
    controller.switchAllOff first = controller.switchAllOff second := by
  refine eq_of_slots (funext fun k => ?_) ?_
  · rw [slots_switchAllOff, slots_switchAllOff]
    rcases off k with same | off
    · simp only [same]
    · rw [off, ite_self, ite_self]
  · rw [rest_switchAllOff, ← rest_switchAllOff controller second]

end Simulated

/-! ### The slot of a line -/

/-- The slot of a line, if its binding has one. -/
def Table.slot? (table : Table Routine) (line : Nat) : Option (Fin 16) :=
  (table.position line).bind fun place => if inside : place < 16 then some ⟨place, inside⟩ else none

theorem Table.slot?_eq_some_iff {table : Table Routine} {line : Nat} {k : Fin 16} :
    table.slot? line = some k ↔ table.position line = some k.val := by
  unfold slot?
  cases table.position line with
  | none => simp
  | some place =>
    rw [Option.bind_some, Option.some.injEq]
    constructor
    · intro found
      split at found
      · exact congrArg Fin.val (Option.some.inj found)
      · cases found
    · rintro rfl
      exact dif_pos k.isLt

/-- Different lines have different slots. -/
theorem Table.slot?_ne {table : Table Routine} {line other : Nat} (different : line ≠ other)
    {k j : Fin 16} (slot : table.slot? line = some k) (another : table.slot? other = some j) :
    k ≠ j := by
  rintro rfl
  have bound := line_get_of_position (slot?_eq_some_iff.mp slot)
  have also := line_get_of_position (slot?_eq_some_iff.mp another)
  exact different (Option.some.inj (bound.symm.trans also))

/-- Switching the slot of a line on, or off. -/
def Operation.switch (on : Bool) (line : Nat) : Operation :=
  if on then .enableSlot line else .disableSlot line

/-- The controller with the slot of a line switched, if it has one. -/
def Simulated.switchAt (controller : Simulated) (on : Bool) (slot : Option (Fin 16)) : Simulated :=
  slot.elim controller (controller.switch on)

/-- The controller with the slots of lines switched, one after another. -/
def Simulated.switchEach (controller : Simulated) (table : Table Routine)
    (switches : List (Bool × Nat)) : Simulated :=
  switches.foldl (fun controller switch => controller.switchAt switch.1 (table.slot? switch.2))
    controller

section Operations

variable {γ : Type}

/-- The system with a slot switched by a read and a write of its control register. -/
def System.switched (system : System Simulated γ) (on : Bool) (k : Fin 16) : System Simulated γ :=
  let control := (system.machine.bank.slots.get k).control
  system.holding (system.machine.bank.switch on k)
    ((system.machine.trace.push (.read (Offset.slotControl k) control)).push
      (.wrote (Offset.slotControl k) (control.switched on)))

/-- The bindings are of different lines, and the slots serve the entries of their places. -/
structure System.Mirrored (system : System Simulated γ) : Prop where
  bindings : ∃ bindings, system.vectored.Lists bindings ∧ Distinct bindings
  follows : Follows (Entry.ServedBy id) system.registry system.machine.bank

namespace System.Mirrored

variable {system : System Simulated γ} (mirrored : system.Mirrored)

include mirrored

theorem served (k : Fin 16) :
    (system.vectored.get k).ServedBy id (system.machine.bank.slots.get k) :=
  mirrored.follows.related k

/-- The slot of a line has it in its line field. -/
theorem slot_line {line : Nat} {k : Fin 16} (bound : system.vectored.position line = some k.val) :
    (system.machine.bank.slots.get k).line = line := by
  have entry := Table.line_get_of_position bound
  have small : line < lineCount := mirrored.follows.exist k line entry
  have served := mirrored.served k
  rw [Entry.ServedBy, entry] at served
  rw [Slot.line, served.1]
  exact Nat.mod_eq_of_lt (Nat.lt_trans small (by decide))

/-- A control register keeps its word when its slot is switched. -/
theorem kept (on : Bool) (k : Fin 16) :
    ((system.machine.bank.slots.get k).control.switched on) &&&
      (controlEnable ||| controlLineMask) =
        (system.machine.bank.slots.get k).control.switched on := by
  have served := keepControl_served (β := Simulated) (mirrored.served k)
  cases on with
  | false => exact served.1
  | true => exact served.2

/-- Switching one slot is a read and a write. -/
theorem switchSlot (on : Bool) (k : Fin 16) :
    (Run.onMachine (do Bus.setSlotControl k ((← Bus.slotControl k).switched on)) :
      Run Simulated γ Unit) system = .ok () (system.switched on k) := by
  have written : RegisterBank.write (Offset.slotControl k)
      ((system.machine.bank.slots.get k).control.switched on) system.machine.bank =
        .ok () (system.machine.bank.switch on k) := by
    show Simulated.write _ _ _ = _
    rw [Simulated.write, Register.ofOffset?_slotControl]
    simp only [mirrored.kept on k]
    rfl
  rw [Bus.slotControl_eq k.isLt]
  simp only [Bus.setSlotControl_eq k.isLt]
  refine Run.onMachine_ok ?_
  rw [bind_ok (Bus.read_ok (SlotBank.read_control k system.machine.bank))]
  exact Bus.write_ok written

/-- It stays so when a slot is switched off, or one that serves a line is switched on. -/
theorem switch {on : Bool} {k : Fin 16} (occupied : on = true → (system.vectored.get k).line.isSome)
    (trace : Array Event) :
    (system.holding (system.machine.bank.switch on k) trace).Mirrored := by
  refine ⟨mirrored.bindings, mirrored.follows.exist, fun j => ?_⟩
  show (system.vectored.get j).ServedBy id ((system.machine.bank.switch on k).slots.get j)
  rw [Simulated.slots_switch]
  by_cases here : j = k
  · subst here
    rw [Function.update_self]
    have served := mirrored.served j
    cases on with
    | false =>
      have off := served_switchedOff (β := Simulated) served
      rwa [(keepControl_served (β := Simulated) served).1] at off
    | true =>
      have on := served_switchedOn (β := Simulated) served (occupied rfl)
      rwa [(keepControl_served (β := Simulated) served).2] at on
  · rw [Function.update_of_ne here]
    exact mirrored.served j

/-- The slots of a line are the one at its position, or none. -/
theorem slotsOf_eq (line : Nat) : Run.slotsOf system.vectored line =
    (system.vectored.slot? line).toList.map Fin.val := by
  obtain ⟨bindings, lists, distinct⟩ := mirrored.bindings
  cases found : system.vectored.slot? line with
  | some k => exact lists.slotsOf_eq_singleton distinct (Table.slot?_eq_some_iff.mp found) k.isLt
  | none =>
    refine lists.slotsOf_eq_nil distinct fun place inside bound => ?_
    have found' : system.vectored.slot? line = some ⟨place, inside⟩ :=
      Table.slot?_eq_some_iff.mpr bound
    rw [found] at found'
    cases found'

/-- **A line that has a slot.** -/
theorem perform_slotted (call : Nat → Handler → Run Simulated γ Unit) (on : Bool) {line : Nat}
    {k : Fin 16} (slot : system.vectored.slot? line = some k) :
    ∃ reply, (Operation.switch on line).perform call system = .ok reply (system.switched on k) := by
  have slots : Run.slotsOf system.vectored line = [k.val] := by
    rw [mirrored.slotsOf_eq, slot]
    rfl
  cases on with
  | false =>
    refine ⟨.done, bind_ok (?_ : Run.disableSlotOf line system = .ok () _)⟩
    rw [Run.disableSlotOf, bind_get, slots]
    exact bind_ok (mirrored.switchSlot false k)
  | true =>
    refine ⟨.number k, bind_ok (?_ : Run.enableSlotOf line system = .ok (.ok k.val) _)⟩
    rw [Run.enableSlotOf, bind_get, slots]
    exact bind_ok (bind_ok (mirrored.switchSlot true k))

/-- **A line that has none.** -/
theorem perform_slotless (call : Nat → Handler → Run Simulated γ Unit) (on : Bool) {line : Nat}
    (slotless : system.vectored.slot? line = none) :
    ∃ reply after, (Operation.switch on line).perform call system = .ok reply after ∧
      system.Unaffected after := by
  have slots : Run.slotsOf system.vectored line = [] := by
    rw [mirrored.slotsOf_eq, slotless]
    rfl
  cases on with
  | false =>
    refine ⟨.done, system, bind_ok (?_ : Run.disableSlotOf line system = .ok () _), .refl system⟩
    rw [Run.disableSlotOf, bind_get, slots]
    rfl
  | true =>
    refine ⟨_, _, bind_ok (Run.enableSlotOf_refused slots), ?_⟩
    exact (System.Unaffected.refl system).logged _

/-- **A switch**, whether the line has a slot or not. -/
theorem perform_switch (call : Nat → Handler → Run Simulated γ Unit) (on : Bool) (line : Nat) :
    ∃ reply trace, (Operation.switch on line).perform call system = .ok reply
        (system.holding (system.machine.bank.switchAt on (system.vectored.slot? line)) trace) ∧
      (system.holding (system.machine.bank.switchAt on (system.vectored.slot? line))
        trace).Mirrored := by
  cases slot : system.vectored.slot? line with
  | some k =>
    obtain ⟨reply, performed⟩ := mirrored.perform_slotted call on slot
    refine ⟨reply, _, performed, mirrored.switch (fun _ => ?_) _⟩
    rw [Table.line_get_of_position (Table.slot?_eq_some_iff.mp slot)]
    rfl
  | none =>
    obtain ⟨reply, after, performed, events, rfl, -⟩ := mirrored.perform_slotless call on slot
    exact ⟨reply, _, performed, mirrored.bindings, mirrored.follows⟩

end System.Mirrored

/-! ### Runs of switches -/

section Runs

variable [StatusRegister γ] (handlers : Handlers Simulated γ) {system : System Simulated γ}
  (mirrored : system.Mirrored)

include mirrored

/-- **Switches, one after another.** They go by the table, which none of them changes. -/
theorem Handlers.carryOut_switches (switches : List (Bool × Nat)) :
    ∃ trace, handlers.carryOut (switches.map fun switch =>
        (.operation (.switch switch.1 switch.2) : Request Simulated.BenchAction)) system =
      system.holding (system.machine.bank.switchEach system.vectored switches) trace := by
  induction switches generalizing system with
  | nil => exact ⟨system.machine.trace, rfl⟩
  | cons first rest ih =>
    obtain ⟨reply, trace, performed, still⟩ :=
      mirrored.perform_switch handlers.call first.1 first.2
    obtain ⟨trace_after, after⟩ := ih still
    refine ⟨trace_after, Eq.trans ?_ after⟩
    rw [List.map_cons, handlers.carryOut_cons]
    exact congrArg _ (stateAfter_ok performed)

omit [StatusRegister γ] in
/-- Slots switched off by number. -/
theorem Run.forM_disableSlot (slots : List (Fin 16)) :
    ∃ trace, (slots.map Fin.val).forM (fun slot => Run.onMachine (Bus.disableSlot slot)) system =
      .ok ⟨⟩ (system.holding (system.machine.bank.switchAllOff slots) trace) := by
  induction slots generalizing system with
  | nil => exact ⟨system.machine.trace, rfl⟩
  | cons first rest ih =>
    have off : false = true → (system.vectored.get first).line.isSome := nofun
    have still : (system.switched false first).Mirrored := mirrored.switch off _
    obtain ⟨trace, after⟩ := ih still
    exact ⟨trace, (bind_ok (mirrored.switchSlot false first)).trans after⟩

/-- **Switching every slot off.** -/
theorem Handlers.carryOut_disableAllSlots : ∃ trace,
    handlers.carryOut [(.operation .disableAllSlots : Request Simulated.BenchAction)] system =
      system.holding (system.machine.bank.switchAllOff (List.finRange 16)) trace := by
  obtain ⟨trace, performed⟩ := Run.forM_disableSlot mirrored (List.finRange 16)
  rw [List.map_coe_finRange_eq_range] at performed
  have disables : Run.disableAllSlots system =
      .ok ⟨⟩ (system.holding (system.machine.bank.switchAllOff (List.finRange 16)) trace) :=
    performed
  have left : stateAfter (handlers.perform
      (.operation .disableAllSlots : Request Simulated.BenchAction)) system =
        system.holding (system.machine.bank.switchAllOff (List.finRange 16)) trace :=
    (stateAfter_reply _ _ system).trans (stateAfter_ok disables)
  refine ⟨trace, ?_⟩
  rw [handlers.carryOut_cons, left]
  rfl

/-- Switching off the slots of some lines. -/
theorem Handlers.carryOut_disableSlots (lines : List Nat) : ∃ trace,
    handlers.carryOut (lines.map fun line =>
        (.operation (.disableSlot line) : Request Simulated.BenchAction)) system =
      system.holding (system.machine.bank.switchAllOff (lines.filterMap system.vectored.slot?))
        trace := by
  obtain ⟨trace, after⟩ := handlers.carryOut_switches mirrored (lines.map (false, ·))
  rw [List.map_map, Simulated.switchEach, List.foldl_map] at after
  refine ⟨trace, after.trans (congrArg (system.holding · trace) ?_)⟩
  rw [Simulated.switchAllOff, List.foldl_filterMap]
  refine List.foldl_ext _ _ _ fun controller line _ => ?_
  show controller.switchAt false (system.vectored.slot? line) = _
  cases system.vectored.slot? line with
  | none => rfl
  | some k => rfl

end Runs

end Operations

/-! ### What is promised -/

/-- How slots are switched on and off. -/
structure Handlers.SwitchSlots {γ : Type} [StatusRegister γ] (handlers : Handlers Simulated γ)
    (system : System Simulated γ) : Prop where
  /-- A line that has a slot is switched by a read and a write of the control register. -/
  slotted : ∀ on line (k : Fin 16), system.vectored.position line = some k.val →
    ∃ reply, handlers.perform (.operation (.switch on line) : Request Simulated.BenchAction)
      system = .ok reply (system.switched on k)
  /-- A line that has none is switched without effect. -/
  slotless : ∀ on line, (∀ k : Fin 16, system.vectored.position line ≠ some k.val) →
    ∃ reply after, handlers.perform (.operation (.switch on line) :
        Request Simulated.BenchAction) system = .ok reply after ∧ system.Unaffected after
  /-- A switch changes one bit of one control register. -/
  one_bit : ∀ on (k : Fin 16), ((system.machine.bank.switch on k).slots.get k).isEnabled = on ∧
    (∀ bit, bit ≠ 5 → ((system.machine.bank.switch on k).slots.get k).control.getLsbD bit =
      (system.machine.bank.slots.get k).control.getLsbD bit) ∧
    ∀ cell : Simulated.Cell, cell ≠ .slotControl k →
      (system.machine.bank.switch on k).content cell = system.machine.bank.content cell
  idempotent : ∀ on line,
    let switch : Request Simulated.BenchAction := .operation (.switch on line)
    (handlers.carryOut [switch, switch] system).components =
      (handlers.carryOut [switch] system).components
  /-- A slot that is switched off and on again is enabled, for the same line and at the same
  address; nothing else is different. -/
  reenabled : ∀ line (k : Fin 16), system.vectored.position line = some k.val →
    let after := handlers.carryOut ([.operation (.disableSlot line), .operation (.enableSlot line)] :
      List (Request Simulated.BenchAction)) system
    (after.machine.bank.slots.get k).isEnabled = true ∧
      (after.machine.bank.slots.get k).line = line ∧
      (after.machine.bank.slots.get k).address = (system.machine.bank.slots.get k).address ∧
      after.components = (system.switched true k).components
  commute : ∀ first second line other, line ≠ other →
    let switch : Request Simulated.BenchAction := .operation (.switch first line)
    let another : Request Simulated.BenchAction := .operation (.switch second other)
    (handlers.carryOut [switch, another] system).components =
      (handlers.carryOut [another, switch] system).components
  /-- To switch every slot off is to do so line by line, in any order. -/
  each_line : ∀ lines : List Nat,
    (∀ line (k : Fin 16), system.vectored.position line = some k.val → line ∈ lines) →
    (handlers.carryOut [(.operation .disableAllSlots : Request Simulated.BenchAction)]
        system).components =
      (handlers.carryOut (lines.map fun line =>
        (.operation (.disableSlot line) : Request Simulated.BenchAction)) system).components
  /-- From then on, and until a slot is enabled, the vectors read are the default vector. -/
  quiet : ∀ requests : List (Request Simulated.BenchAction),
    let off := handlers.carryOut [(.operation .disableAllSlots : Request Simulated.BenchAction)]
      system
    let after := handlers.carryOut requests off
    ∃ events, after.machine.Quiet off.machine.trace off.machine.bank.defaultVector events ∧
      ((∀ event ∈ events, ¬ event.EnablesSlot) →
        after.machine.bank.currentVector = after.machine.bank.defaultVector)

section Reached

variable {γ : Type} [StatusRegister γ] (handlers : Handlers Simulated γ) {system : System Simulated γ}
  (mirrored : system.Mirrored)

include mirrored

/-- Switches that lead to the same controller leave all components the same. -/
theorem Handlers.components_switches (first second : List (Bool × Nat))
    (same : system.machine.bank.switchEach system.vectored first =
      system.machine.bank.switchEach system.vectored second) :
    (handlers.carryOut (first.map fun switch =>
        (.operation (.switch switch.1 switch.2) : Request Simulated.BenchAction))
          system).components =
      (handlers.carryOut (second.map fun switch =>
        (.operation (.switch switch.1 switch.2) : Request Simulated.BenchAction))
          system).components := by
  obtain ⟨trace, after⟩ := handlers.carryOut_switches mirrored first
  obtain ⟨other, after_other⟩ := handlers.carryOut_switches mirrored second
  rw [after, after_other, same]
  rfl

theorem Handlers.switchSlots (quiet : ∀ (requests : List (Request Simulated.BenchAction))
      {system : System Simulated γ}, system.machine.bank.Disabled →
      ∃ events, (handlers.carryOut requests system).machine.Quiet system.machine.trace
        system.machine.bank.defaultVector events) :
    handlers.SwitchSlots system where
  slotted on line k bound := mirrored.perform_slotted _ on (Table.slot?_eq_some_iff.mpr bound)
  slotless on line slotless := by
    refine mirrored.perform_slotless _ on (Option.eq_none_iff_forall_ne_some.mpr fun k slot => ?_)
    exact slotless k (Table.slot?_eq_some_iff.mp slot)
  one_bit on k := by
    refine ⟨?_, fun bit other => ?_, fun cell => system.machine.bank.content_switch on⟩
    · rw [Simulated.slots_switch, Function.update_self]
      exact Slot.isEnabled_switched on _
    · rw [Simulated.slots_switch, Function.update_self]
      exact Word.getLsbD_switched_of_ne on _ other
  idempotent on line := by
    refine handlers.components_switches mirrored [(on, line), (on, line)] [(on, line)] ?_
    show (system.machine.bank.switchAt on _).switchAt on _ = system.machine.bank.switchAt on _
    cases system.vectored.slot? line with
    | none => rfl
    | some k => exact system.machine.bank.switch_switch on on k
  reenabled line k bound := by
    obtain ⟨trace, after⟩ := handlers.carryOut_switches mirrored [(false, line), (true, line)]
    have bank : (system.machine.bank.switchAt false (system.vectored.slot? line)).switchAt true
        (system.vectored.slot? line) = system.machine.bank.switch true k := by
      rw [Table.slot?_eq_some_iff.mpr bound]
      exact system.machine.bank.switch_switch false true k
    have reached := after.trans (congrArg (system.holding · trace) bank)
    intro left
    rw [show left = _ from reached]
    show (((system.machine.bank.switch true k).slots.get k).isEnabled = true) ∧
      ((system.machine.bank.switch true k).slots.get k).line = line ∧
      ((system.machine.bank.switch true k).slots.get k).address = _ ∧ _
    rw [Simulated.slots_switch, Function.update_self]
    exact ⟨Slot.isEnabled_switched true _,
      (Slot.line_switched true _).trans (mirrored.slot_line bound), rfl, rfl⟩
  commute first second line other different := by
    refine handlers.components_switches mirrored [(first, line), (second, other)]
      [(second, other), (first, line)] ?_
    show (system.machine.bank.switchAt first _).switchAt second _ =
      (system.machine.bank.switchAt second _).switchAt first _
    cases slot : system.vectored.slot? line with
    | none => rfl
    | some k =>
      cases another : system.vectored.slot? other with
      | none => rfl
      | some j =>
        exact system.machine.bank.switch_comm first second (Table.slot?_ne different slot another)
  each_line lines every := by
    obtain ⟨trace, after⟩ := handlers.carryOut_disableAllSlots mirrored
    obtain ⟨trace_lines, after_lines⟩ := handlers.carryOut_disableSlots mirrored lines
    obtain ⟨bindings, lists, distinct⟩ := mirrored.bindings
    rw [after, after_lines, system.machine.bank.switchAllOff_congr fun k => ?_]
    · rfl
    · have served := mirrored.served k
      rw [Entry.ServedBy] at served
      cases entry : (system.vectored.get k).line with
      | some line =>
        have bound := lists.position_of_line_get distinct entry
        refine .inl (iff_of_true (List.mem_finRange k) ?_)
        exact List.mem_filterMap.mpr ⟨line, every line k bound, Table.slot?_eq_some_iff.mpr bound⟩
      | none =>
        -- a slot that serves no line is off anyway
        rw [entry] at served
        rw [served.1]
        exact .inr rfl
  quiet requests := by
    obtain ⟨trace, after⟩ := handlers.carryOut_disableAllSlots mirrored
    intro off
    have disabled : off.machine.bank.Disabled := fun k => by
      rw [show off = _ from after]
      show ((system.machine.bank.switchAllOff (List.finRange 16)).slots.get k).isEnabled = false
      rw [Simulated.slots_switchAllOff, if_pos (List.mem_finRange k)]
      exact Slot.isEnabled_switched false _
    obtain ⟨events, goes_on⟩ := quiet requests disabled
    exact ⟨events, goes_on, fun plain => (goes_on.disabled plain).currentVector⟩

end Reached

/-- What setting up and a run leave is mirrored. -/
theorem Handlers.carryOut_mirrored {γ : Type} [StatusRegister γ] {handlers : Handlers Simulated γ}
    (spare : handlers.SpareSlots) {requests : List (Request Simulated.BenchAction)}
    (spared : ∀ request ∈ requests, request.SparesSlots) (start : System Simulated γ) :
    (handlers.carryOut (.operation .init :: requests) start).Mirrored where
  bindings := ⟨_, handlers.carryOut_init_vectored requests start, (live_distinct _).arranged⟩
  follows := by
    rw [handlers.carryOut_init]
    exact (Handlers.carryOut_follows spare Simulated.bench_maintains spared start).1

/-- **Switching slots** after setting up and any run whose requests and handlers do not write to the
slot registers themselves. A line's slot is switched by one write, which changes one bit; switching
is idempotent, what is switched off and on again is as it was but enabled, different lines are
switched in any order, and switching all slots off is switching off line by line. Then the default
vector is presented, until a slot is enabled. -/
theorem slot_switches {γ : Type} [StatusRegister γ] (firmware : Firmware Simulated.BenchAction)
    (uses : ∀ handler, (firmware.program handler).Uses Action.SparesSlots) (frames : Nat)
    (requests : List (Request Simulated.BenchAction))
    (spares : ∀ request ∈ requests, request.SparesSlots) (start : System Simulated γ) :
    (firmware.handlers frames).SwitchSlots
      ((firmware.handlers frames).carryOut (.operation .init :: requests) start) := by
  have spare : (firmware.handlers frames : Handlers Simulated γ).SpareSlots :=
    firmware.spareSlots Simulated.bench_maintains uses frames
  refine Handlers.switchSlots _ (Handlers.carryOut_mirrored spare spares start) ?_
  exact fun more _ disabled => Handlers.carryOut_quiet firmware frames more disabled

/-- Two lines of which the slot of one is off, and a handler that raises the other. -/
theorem slot_switches_used :
    let firmware : Firmware Simulated.BenchAction :=
      ⟨fun _ => .ofList [.line (.raise 4), .interrupt], 2⟩
    let requests : List (Request Simulated.BenchAction) :=
      [.operation (.bindVectored 3 (.user ⟨0, by decide⟩) 5), .operation (.disableSlot 3),
        .operation (.bindVectored 4 .dummy 9), .operation (.disableSlot 4),
        .action (.line (.enable 3)), .operation (.setMode .vectored), .operation .handleIrq]
    (∀ handler, (firmware.program handler).Uses Action.SparesSlots) ∧
      (∀ request ∈ requests, request.SparesSlots) ∧
      (firmware.handlers 3 : Handlers Simulated ControlField).SwitchSlots
        ((firmware.handlers 3).carryOut (.operation .init :: requests)
          (System.fresh (.atPowerUp Simulated.powerUp))) := by
  intro firmware requests
  have uses : ∀ handler, (firmware.program handler).Uses Action.SparesSlots := fun _ =>
    ⟨fun _ member => @LineOp.not_ofSlot_of_written (.raise 4) _ member,
      fun _ => ⟨nofun, fun _ => trivial⟩⟩
  have spares : ∀ request ∈ requests, request.SparesSlots := by
    simp [requests, Request.SparesSlots, Action.SparesSlots, Action.written?, LineOp.written?,
      Offset.OfSlot, Offset.enable, Offset.slotAddressBase, Offset.slotControlBase]
  exact ⟨uses, spares, slot_switches firmware uses 3 requests spares _⟩

end VectoredInterrupts
