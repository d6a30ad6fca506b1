/-
**The mirror of the vectored table.**

The first 16 places of the vectored table are kept in the slots of the bank. Each write to the table
loads the slot of its place before the next write is made, so between writes every slot stands in
one relation to the entry of its place (`Follows`), whichever way entries are shifted.

* `Run.writeVectored_follows`: one write. Updates, and the requests made of them, follow;
* `Run.init_after`: setting up vacates the table and every slot, whatever was there before;
* `slots_mirror_table`: in a run that begins with it, every slot serves the line and the routine of
  its entry.
-/

import VectoredInterrupts.Proofs.Accesses

namespace VectoredInterrupts

/-! ### Control words -/

theorem and_mask_of_outside {word mask : Word} (outside : word &&& ~~~mask = 0#64) :
    word &&& mask = word :=
  calc word &&& mask
      = word &&& mask ||| word &&& ~~~mask := by rw [outside, BitVec.or_zero]
    _ = word &&& (mask ||| ~~~mask) := BitVec.and_or_distrib_left.symm
    _ = word := by rw [BitVec.or_not_self, BitVec.and_allOnes]

/-- The slot serves the entry; its address register keeps `keep` of the address of the routine. -/
def Entry.ServedBy (keep : Word → Word) (entry : Entry Routine) (slot : Slot) : Prop :=
  match entry.line with
  | some line =>
    slot.control &&& controlLineMask = BitVec.ofNat 64 line ∧
      slot.control &&& ~~~(controlEnable ||| controlLineMask) = 0#64 ∧
      slot.address = keep entry.payload.address
  | none => slot.control = 0#64 ∧ slot.address = keep Routine.dummy.address

/-- The slot serves the entry, and is enabled if the entry binds a line. -/
def Entry.EnabledBy (keep : Word → Word) (entry : Entry Routine) (slot : Slot) : Prop :=
  entry.ServedBy keep slot ∧ (entry.line.isSome → slot.isEnabled)

/-- The control word of a line names the line, and has no other bits than the enable bit. -/
theorem slotControlOf_line {line : Nat} (small : line < lineCount) :
    slotControlOf line &&& controlLineMask = BitVec.ofNat 64 line ∧
      slotControlOf line &&& ~~~(controlEnable ||| controlLineMask) = 0#64 ∧
      slotControlOf line &&& controlEnable ≠ 0 := by
  have each : ∀ line : Fin 32, slotControlOf line &&& controlLineMask = BitVec.ofNat 64 line ∧
      slotControlOf line &&& ~~~(controlEnable ||| controlLineMask) = 0#64 ∧
      slotControlOf line &&& controlEnable ≠ 0 := by
    decide
  exact each ⟨line, small⟩

section Relations

variable {β : Type} [RegisterBank β] [SlotBank β]

/-- What loading puts in a slot serves the entry, with the slot enabled. -/
theorem enabledBy_loaded {entry : Entry Routine}
    (inRange : ∀ line, entry.line = some line → line < lineCount) :
    entry.EnabledBy (SlotBank.keepAddress β) (SlotBank.loaded β entry) := by
  unfold Entry.EnabledBy Entry.ServedBy SlotBank.loaded Entry.slotWords
  cases bound : entry.line with
  | none =>
    refine ⟨⟨SlotBank.keepControl_eq 0 (by decide), rfl⟩, fun occupied => ?_⟩
    cases occupied
  | some line =>
    obtain ⟨field, outside, enabled⟩ := slotControlOf_line (inRange line bound)
    simp only
    rw [SlotBank.keepControl_eq _ (and_mask_of_outside outside)]
    exact ⟨⟨field, outside, trivial⟩, fun _ => bne_iff_ne.mpr enabled⟩

/-- A served slot keeps its control word whatever the state of its enable bit is. -/
theorem keepControl_served {keep : Word → Word} {entry : Entry Routine} {slot : Slot}
    (served : entry.ServedBy keep slot) :
    SlotBank.keepControl β (slot.control &&& ~~~controlEnable) = slot.control &&& ~~~controlEnable ∧
      SlotBank.keepControl β (slot.control ||| controlEnable) = slot.control ||| controlEnable := by
  have outside : slot.control &&& ~~~(controlEnable ||| controlLineMask) = 0#64 := by
    unfold Entry.ServedBy at served
    split at served
    · exact served.2.1
    · rw [served.1, BitVec.zero_and]
  refine ⟨SlotBank.keepControl_eq _ (and_mask_of_outside ?_),
    SlotBank.keepControl_eq _ (and_mask_of_outside ?_)⟩
  · rw [BitVec.and_assoc, BitVec.and_comm (~~~controlEnable), ← BitVec.and_assoc, outside,
      BitVec.zero_and]
  · rw [BitVec.and_or_distrib_right, outside, BitVec.zero_or]
    decide

/-- A slot that is switched off still serves its entry. -/
theorem served_switchedOff {keep : Word → Word} {entry : Entry Routine} {slot : Slot}
    (served : entry.ServedBy keep slot) :
    entry.ServedBy keep
      ⟨SlotBank.keepControl β (slot.control &&& ~~~controlEnable), slot.address⟩ := by
  rw [(keepControl_served served).1]
  unfold Entry.ServedBy at served ⊢
  cases bound : entry.line with
  | none =>
    rw [bound] at served
    refine ⟨?_, served.2⟩
    rw [served.1, BitVec.zero_and]
  | some line =>
    rw [bound] at served
    obtain ⟨field, outside, address⟩ := served
    refine ⟨?_, ?_, address⟩
    · rw [BitVec.and_assoc, show ~~~controlEnable &&& controlLineMask = controlLineMask by decide,
        field]
    · rw [BitVec.and_assoc, BitVec.and_comm (~~~controlEnable), ← BitVec.and_assoc, outside,
        BitVec.zero_and]

/-- So does the slot of a line that is switched on. -/
theorem served_switchedOn {keep : Word → Word} {entry : Entry Routine} {slot : Slot}
    (served : entry.ServedBy keep slot) (occupied : entry.line.isSome) :
    entry.ServedBy keep ⟨SlotBank.keepControl β (slot.control ||| controlEnable), slot.address⟩ := by
  rw [(keepControl_served served).2]
  unfold Entry.ServedBy at served ⊢
  cases bound : entry.line with
  | none =>
    rw [bound] at occupied
    cases occupied
  | some line =>
    rw [bound] at served
    obtain ⟨field, outside, address⟩ := served
    refine ⟨?_, ?_, address⟩
    · rw [BitVec.and_or_distrib_right, field,
        show controlEnable &&& controlLineMask = 0#64 by decide]
      exact BitVec.or_zero
    · rw [BitVec.and_or_distrib_right, outside, BitVec.zero_or]
      decide

end Relations

/-! ### Updates of the table -/

/-- Every line in the table exists. -/
def Table.LinesExist (table : Table Routine) : Prop :=
  ∀ index line, (table.get index).line = some line → line < lineCount

/-- Every line in the entries that are written exists. -/
def LinesWritten (writes : List (Write Routine)) : Prop :=
  ∀ write ∈ writes, ∀ line, write.entry.line = some line → line < lineCount

theorem Table.Lists.linesExist {table : Table Routine} {bindings : List (Binding Routine)}
    (lists : table.Lists bindings) (inRange : InRange bindings) : table.LinesExist := by
  intro index line bound
  rw [lists.get] at bound
  cases there : bindings[index]? with
  | none =>
    rw [there] at bound
    cases bound
  | some binding =>
    rw [there] at bound
    obtain rfl := Option.some.inj bound
    exact inRange binding (List.mem_of_getElem? there)

namespace Table.LinesExist

variable {table : Table Routine} (exist : table.LinesExist)

include exist

theorem write {write : Write Routine}
    (inRange : ∀ line, write.entry.line = some line → line < lineCount) :
    (table.write write).LinesExist := by
  intro index line bound
  by_cases here : write.index = index
  · by_cases inside : write.index < 32
    · rw [get_write _ _ inside, if_pos here] at bound
      exact inRange line bound
    · -- a write past the end changes nothing
      unfold Table.get Table.write at bound
      rw [Vector.getElem?_setIfInBounds, if_pos here, if_neg inside] at bound
      cases bound
  · rw [get_write_of_ne here] at bound
    exact exist index line bound

theorem moveWrites (source target : Nat) {entry : Entry Routine}
    (inRange : ∀ line, entry.line = some line → line < lineCount) :
    LinesWritten (table.moveWrites source target entry) := by
  intro write member line bound
  rcases List.mem_append.mp member with shifted | last
  · rcases mem_shifts.mp shifted with ⟨-, -, same⟩ | ⟨-, -, same⟩
    · exact exist _ line (same ▸ bound)
    · exact exist _ line (same ▸ bound)
  · rw [List.mem_singleton.mp last] at bound
    exact inRange line bound

theorem insert {line : Nat} (small : line < lineCount) (routine : Routine) (priority : Byte) :
    LinesWritten (table.insert (.binding line priority routine)).writes :=
  exist.moveWrites _ _ fun _ same => Option.some.inj same ▸ small

theorem remove (line : Nat) : LinesWritten (table.remove line).writes := by
  unfold Table.remove
  cases table.position line with
  | none => exact fun _ member => by cases member
  | some index => exact exist.moveWrites index 31 fun _ occupied => by cases occupied

end Table.LinesExist

theorem linesWritten_clear : LinesWritten Table.clearWrites := by
  intro write member line bound
  rw [(Table.mem_clearWrites.mp member).2] at bound
  cases bound

/-- The lines in the table exist, and every slot stands in a relation to the entry of its place. -/
structure Follows {β : Type} [RegisterBank β] [SlotBank β] (R : Entry Routine → Slot → Prop)
    (registry : Registry) (bank : β) : Prop where
  exist : registry.vectored.LinesExist
  related : ∀ k : Fin 16, R (registry.vectored.get k) (SlotBank.slot bank k)

section Updates

variable {β γ α : Type} [RegisterBank β] [SlotBank β] {R : Entry Routine → Slot → Prop}

/-- A write to the table loads the slot of its place, if there is one. -/
theorem Run.writeVectored_ok (write : Write Routine) (system : System β γ) :
    ∃ machine, Run.writeVectored write system =
        .ok () { system with machine, vectored := system.vectored.write write } ∧
      ∀ k : Fin 16, SlotBank.slot machine.bank k =
        if write.index = k then SlotBank.loaded β write.entry
        else SlotBank.slot system.machine.bank k := by
  unfold Run.writeVectored
  rw [bind_modify]
  by_cases inside : write.index < slotCount
  · obtain ⟨machine, loads, slots⟩ :=
      Bus.loadSlot_ok ⟨write.index, inside⟩ write.entry system.machine
    refine ⟨machine, onMachine_ok loads, fun k => ?_⟩
    rw [slots]
    by_cases here : write.index = k
    · obtain rfl : (⟨write.index, inside⟩ : Fin 16) = k := Fin.ext here
      rw [Function.update_self, if_pos rfl]
    · rw [Function.update_of_ne fun same => here (congrArg Fin.val same).symm, if_neg here]
  · rw [Bus.loadSlot_outside inside]
    refine ⟨system.machine, rfl, fun k => ?_⟩
    rw [if_neg fun same : write.index = k => inside (same ▸ k.isLt)]

/-- A list of writes loads the slots of the places it names, and leaves the others alone. -/
theorem Run.forM_writeVectored_ok (writes : List (Write Routine)) (system : System β γ) :
    ∃ machine, writes.forM Run.writeVectored system =
        .ok ⟨⟩ { system with machine, vectored := system.vectored.apply writes } ∧
      ∀ k : Fin 16, SlotBank.slot machine.bank k =
        if k.val ∈ writes.map Write.index then
          SlotBank.loaded β ((system.vectored.apply writes).get k)
        else SlotBank.slot system.machine.bank k := by
  induction writes generalizing system with
  | nil => exact ⟨system.machine, rfl, fun k => rfl⟩
  | cons write rest ih =>
    obtain ⟨middle, written, slots⟩ := Run.writeVectored_ok write system
    obtain ⟨machine, returns, slots_after⟩ :=
      ih { system with machine := middle, vectored := system.vectored.write write }
    refine ⟨machine, (bind_ok written).trans returns, fun k => ?_⟩
    rw [slots_after, List.map_cons]
    by_cases later : k.val ∈ rest.map Write.index
    · rw [if_pos later, if_pos (List.mem_cons_of_mem _ later)]
      rfl
    · rw [if_neg later, slots]
      by_cases here : write.index = k
      · -- no later write names this place, so it keeps the entry
        have kept : (system.vectored.apply (write :: rest)).get k = write.entry := by
          rw [Table.apply_cons, Table.get_apply_of_not_mem later,
            Table.get_write _ _ (by omega), if_pos here]
        rw [if_pos here, if_pos (List.mem_cons.mpr (.inl here.symm)), kept]
      · rw [if_neg here, if_neg]
        exact fun member => (List.mem_cons.mp member).elim (fun same => here same.symm) later

theorem Run.clearVectored_ok (system : System β γ) :
    ∃ machine, Run.clearVectored system = .ok () { system with machine, vectored := .vacant } ∧
      ∀ k : Fin 16, SlotBank.slot machine.bank k = SlotBank.loaded β Entry.vacant := by
  obtain ⟨machine, returns, slots⟩ := Run.forM_writeVectored_ok Table.clearWrites system
  rw [Table.apply_clearWrites] at returns slots
  refine ⟨machine, bind_ok returns, fun k => ?_⟩
  have inside : k.val < 32 := by omega
  rw [slots, if_pos, Table.lists_vacant.get]
  · rfl
  · exact List.mem_map.mpr ⟨⟨k, Entry.vacant⟩, Table.mem_clearWrites.mpr ⟨inside, rfl⟩, rfl⟩

/-- The registers that are written first when the controller is set up can be written. -/
theorem Run.write_writable (offset : Nat) (member : offset ∈ [Offset.select, Offset.enableClear,
    Offset.softClear, Offset.defaultVector]) (value : Word) (system : System β γ) :
    ∃ machine, (Run.onMachine (Bus.write offset value) : Run β γ Unit) system =
      .ok () { system with machine } := by
  obtain ⟨bank, returns⟩ := SlotBank.writable offset member value system.machine.bank
  exact ⟨_, Run.onMachine_ok (Bus.write_ok returns)⟩

/-- **Setting up** vacates both tables and every slot, whatever was there before. -/
theorem Run.init_after (system : System β γ) :
    ∃ machine, stateAfter Run.init system = ⟨machine, .vacant, .vacant, .polled, 0⟩ ∧
      ∀ k : Fin 16, SlotBank.slot machine.bank k = SlotBank.loaded β Entry.vacant := by
  obtain ⟨first, select⟩ := Run.write_writable Offset.select (by simp) 0 system
  obtain ⟨second, disable⟩ := Run.write_writable Offset.enableClear (by simp) allLines
    { system with machine := first }
  obtain ⟨third, withdraw⟩ := Run.write_writable Offset.softClear (by simp) allLines
    { system with machine := second }
  obtain ⟨fourth, fallback⟩ := Run.write_writable Offset.defaultVector (by simp)
    Routine.fallback.address { system with machine := third }
  obtain ⟨machine, clear, slots⟩ := Run.clearVectored_ok { system with machine := fourth }
  have announced := Bus.announce_maintains (SlotBank.undisturbed fun slots => ∀ k,
    slots k = SlotBank.loaded β Entry.vacant).closed (fun _ _ => trivial) machine slots
  refine ⟨_, ?_, announced⟩
  unfold Run.init
  rw [stateAfter_bind (by exact select), stateAfter_bind (by exact disable),
    stateAfter_bind (by exact withdraw), stateAfter_bind (by exact fallback),
    stateAfter_bind clear, Run.clearPolled, stateAfter_modify, stateAfter_modify,
    Run.stateAfter_onMachine, Table.apply_clearWrites]

variable (loads : ∀ entry : Entry Routine, (∀ line, entry.line = some line → line < lineCount) →
  R entry (SlotBank.loaded β entry))

include loads

/-- **One write.** -/
theorem Run.writeVectored_follows {write : Write Routine}
    (inRange : ∀ line, write.entry.line = some line → line < lineCount) :
    Maintains (fun system : System β γ => Follows R system.registry system.machine.bank)
      (Run.writeVectored write) := by
  intro system before
  obtain ⟨machine, written, slots⟩ := Run.writeVectored_ok write system
  rw [stateAfter_ok written]
  refine ⟨before.exist.write inRange, fun k => ?_⟩
  show R ((system.vectored.write write).get k) (SlotBank.slot machine.bank k)
  rw [slots]
  by_cases here : write.index = k
  · rw [if_pos here, Table.get_write _ _ (by omega), if_pos here]
    exact loads write.entry inRange
  · rw [if_neg here, Table.get_write_of_ne here]
    exact before.related k

theorem Run.init_follows (system : System β γ) :
    Follows R (stateAfter Run.init system).registry (stateAfter Run.init system).machine.bank := by
  obtain ⟨machine, after, slots⟩ := Run.init_after system
  have vacant : (stateAfter Run.init system).registry.vectored = .vacant := by rw [after]; rfl
  refine ⟨fun index line bound => ?_, fun k => ?_⟩
  · rw [vacant, Table.lists_vacant.get] at bound
    cases bound
  · rw [vacant, Table.lists_vacant.get, after, slots]
    exact loads Entry.vacant fun line bound => by cases bound

theorem Run.updateVectored_follows {update : Update Routine α}
    (lines : LinesWritten update.writes) :
    Maintains (fun system : System β γ => Follows R system.registry system.machine.bank)
      (Run.updateVectored update) :=
  (Maintains.forM fun write member =>
    Run.writeVectored_follows loads (lines write member)).bind fun _ => .checked _

end Updates

/-! ### Requests -/

/-- The action is not a write to a slot register. -/
def Action.SparesSlots {ι : Type} (action : Action ι) : Prop :=
  ∀ offset ∈ action.written?, ¬ Offset.OfSlot offset

/-- The request is not a write to a slot register. -/
def Request.SparesSlots {ι : Type} : Request ι → Prop
  | .action request => request.SparesSlots
  | .operation _ => True

/-- Whether an operation switches slots on or off. -/
def Operation.switches : Operation → Bool
  | .enableSlot _ | .disableSlot _ | .disableAllSlots => true
  | _ => false

/-- Whether a request switches slots on or off. -/
def Request.switches {ι : Type} : Request ι → Bool
  | .action _ => false
  | .operation op => op.switches

section Requests

variable {ι β γ : Type} [RegisterBank β] [SlotBank β]

/-- No handler writes to a slot register. -/
def Handlers.SpareSlots (handlers : Handlers β γ) : Prop :=
  ∀ active handler system,
    SlotBank.slot (stateAfter (handlers.call active handler) system).machine.bank =
      SlotBank.slot system.machine.bank

/-- The handlers of a firmware spare the slots if its programs do. -/
theorem Firmware.spareSlots [StatusRegister γ] [Benched ι β] (firmware : Firmware ι)
    (benched : ∀ (holds : (Fin 16 → Slot) → Prop) (action : ι),
      Maintains (fun bank : β => holds (SlotBank.slot bank)) (Benched.act action))
    (uses : ∀ handler, (firmware.program handler).Uses Action.SparesSlots) (frames : Nat) :
    (firmware.handlers frames : Handlers β γ).SpareSlots := by
  intro active handler system
  exact Run.invoke_maintains (fun _ bank => SlotBank.slot bank = SlotBank.slot system.machine.bank)
    (fun _ => SlotBank.undisturbed (· = _)) (fun _ => benched (· = _)) Offset.not_ofSlot_vector uses
    frames active handler system rfl

variable {R : Entry Routine → Slot → Prop}

theorem undisturbed_follows (registry : Registry) :
    Undisturbed (fun offset => ¬ Offset.OfSlot offset) (Follows (β := β) R registry) where
  read offset bank before :=
    ⟨before.exist, (SlotBank.undisturbed fun slots => ∀ k : Fin 16,
      R (registry.vectored.get k) (slots k)).read offset bank before.related⟩
  write offset value outside bank before :=
    ⟨before.exist, (SlotBank.undisturbed fun slots => ∀ k : Fin 16,
      R (registry.vectored.get k) (slots k)).write offset value outside bank before.related⟩

theorem Handlers.call_follows {handlers : Handlers β γ} (spare : handlers.SpareSlots) (active : Nat)
    (handler : Handler) :
    Maintains (fun system => Follows R system.registry system.machine.bank)
      (handlers.call active handler) := by
  intro system before
  rw [handlers.keeps active handler system]
  refine ⟨before.exist, fun k => ?_⟩
  rw [spare active handler system]
  exact before.related k

/-- **An operation that does not switch slots.** -/
theorem Operation.perform_follows
    (loads : ∀ entry : Entry Routine, (∀ line, entry.line = some line → line < lineCount) →
      R entry (SlotBank.loaded β entry))
    {call : Nat → Handler → Run β γ Unit}
    (calls : ∀ active handler,
      Maintains (fun system => Follows R system.registry system.machine.bank) (call active handler))
    {op : Operation} (plain : op.switches = false) :
    Maintains (fun system => Follows R system.registry system.machine.bank) (op.perform call) := by
  have closed : Closed (System.Step (fun _ => True) fun offset => ¬ Offset.OfSlot offset)
      fun system : System β γ => Follows R system.registry system.machine.bank :=
    (System.closed_of_undisturbed undisturbed_follows).of_move
  have logs : ∀ notice, Maintains
      (fun system : System β γ => Follows R system.registry system.machine.bank)
      (Run.onMachine (Bus.log notice)) := Run.log_maintains closed
  cases op with
  | init => exact Maintains.bind (fun system _ => Run.init_follows loads system) fun _ => .pure _
  | bindVectored line routine priority =>
    refine Maintains.bind ?_ fun _ => .pure _
    unfold Run.bindVectored
    by_cases small : line < lineCount
    · rw [if_pos small]
      intro system before
      refine Maintains.bind (Run.updateVectored_follows loads ?_)
        (fun _ => (logs _).bind fun _ => .pure _) system before
      exact before.exist.insert small _ _
    · rw [if_neg small]
      exact Run.refuse_maintains closed _
  | releaseVectored line =>
    refine Maintains.bind (fun system before => ?_) fun _ => .pure _
    refine Maintains.bind (Run.updateVectored_follows loads (before.exist.remove line))
      (fun position => ?_) system before
    cases position with
    | none => exact .pure _
    | some position => exact logs _
  | releaseAllVectored =>
    refine Maintains.bind (Maintains.bind ?_ fun _ => logs _) fun _ => .pure _
    exact Run.updateVectored_follows loads linesWritten_clear
  | clearVectored =>
    exact (Run.updateVectored_follows loads linesWritten_clear).bind fun _ => .pure _
  | enableSlot | disableSlot | disableAllSlots => cases plain
  | _ =>
    -- neither the polled table nor the mode nor the count matters to the relation
    exact perform_maintains_of_closed closed _ (fun _ _ => trivial) nofun (fun _ => calls 0)
      (fun _ => Run.handleIrq_maintains undisturbed_follows Offset.not_ofSlot_vector calls 1)
      (fun _ _ before => ⟨before.exist, before.related⟩)
      (fun _ _ _ before => ⟨before.exist, before.related⟩) nofun nofun

/-! ### Switching slots -/

/-- Changing the control word of a slot, in a way that the entry of its place allows. The table is
known, because switching a line goes by it. -/
theorem Run.modifyControl_follows (k : Fin 16) (change : Word → Word) {table : Table Routine}
    (allows : ∀ slot, R (table.get k) slot →
      R (table.get k) ⟨SlotBank.keepControl β (change slot.control), slot.address⟩) :
    Maintains (fun system : System β γ =>
        system.vectored = table ∧ Follows R system.registry system.machine.bank)
      (Run.onMachine (do Bus.setSlotControl k (change (← Bus.slotControl k)))) := by
  rintro system ⟨rfl, before⟩
  obtain ⟨machine, returns, slots⟩ := Bus.modifyControl_ok k change system.machine
  rw [stateAfter_ok (Run.onMachine_ok returns)]
  refine ⟨rfl, before.exist, fun j => ?_⟩
  rw [slots]
  by_cases same : j = k
  · subst same
    rw [Function.update_self]
    exact allows _ (before.related j)
  · rw [Function.update_of_ne same]
    exact before.related j

/-- **An operation that switches slots.** Only slots whose entry binds a line are switched on. -/
theorem Operation.switch_follows
    (switchesOff : ∀ entry slot, R entry slot →
      R entry ⟨SlotBank.keepControl β (slot.control &&& ~~~controlEnable), slot.address⟩)
    (switchesOn : ∀ entry slot, entry.line.isSome → R entry slot →
      R entry ⟨SlotBank.keepControl β (slot.control ||| controlEnable), slot.address⟩)
    (call : Nat → Handler → Run β γ Unit) {op : Operation} (switches : op.switches = true) :
    Maintains (fun system => Follows R system.registry system.machine.bank) (op.perform call) := by
  have disables : ∀ (slots : List Nat) (table : Table Routine), (∀ slot ∈ slots, slot < slotCount) →
      Maintains (fun system : System β γ =>
          system.vectored = table ∧ Follows R system.registry system.machine.bank)
        (slots.forM fun slot => Run.onMachine (Bus.disableSlot slot)) :=
    fun slots table inside => .forM fun slot member =>
      Run.modifyControl_follows ⟨slot, inside slot member⟩ (· &&& ~~~controlEnable)
        (switchesOff _)
  cases op with
  | enableSlot line =>
    refine Maintains.bind (fun system before => ?_) fun _ => .pure _
    let known : Registry → β → Prop := fun registry bank =>
      registry.vectored = system.vectored ∧ Follows R registry bank
    have undisturbed : ∀ registry, Undisturbed (fun offset => ¬ Offset.OfSlot offset)
        (known registry) := fun registry => (undisturbed_follows registry).and_left _
    have enables : Maintains (fun after : System β γ => known after.registry after.machine.bank)
        ((Run.slotsOf system.vectored line).forM fun slot =>
          Run.onMachine (Bus.enableSlot slot)) := by
      refine .forM fun slot member => ?_
      obtain ⟨inside, bound⟩ := mem_slotsOf.mp member
      exact Run.modifyControl_follows ⟨slot, inside⟩ (· ||| controlEnable) fun slot =>
        switchesOn _ slot (by rw [bound]; rfl)
    have answers : ∀ slots : List Nat, Maintains
        (fun after : System β γ => known after.registry after.machine.bank)
        (match slots.head? with
        | some slot => pure (.ok slot)
        | none => Run.onMachine (Bus.refuse .noSlot) : Run β γ (Except Refusal Nat)) := by
      intro slots
      cases slots.head? with
      | none => exact Run.refuse_maintains (System.closed_of_undisturbed undisturbed).of_move _
      | some slot => exact .pure _
    exact (enables.bind (fun _ => answers _) system ⟨rfl, before⟩).2
  | disableSlot line =>
    refine Maintains.bind (fun system before => ?_) fun _ => .pure _
    exact (disables _ system.vectored (slotsOf_lt _ _) system
      ⟨rfl, before⟩).2
  | disableAllSlots =>
    refine Maintains.bind (fun system before => ?_) fun _ => .pure _
    exact (disables _ system.vectored (fun slot member => List.mem_range.mp member) system
      ⟨rfl, before⟩).2
  | _ => cases switches

/-! ### Runs -/

section Runs

variable [StatusRegister γ] [Benched ι β] {handlers : Handlers β γ} (spare : handlers.SpareSlots)
  (benched : ∀ (holds : (Fin 16 → Slot) → Prop) (action : ι),
    Maintains (fun bank : β => holds (SlotBank.slot bank)) (Benched.act action))

include spare benched

omit [StatusRegister γ] spare in
theorem bench_follows (registry : Registry) (action : ι) :
    Maintains (Follows (β := β) R registry) (Benched.act action) :=
  fun bank before => ⟨before.exist, benched
    (fun slots => ∀ k : Fin 16, R (registry.vectored.get k) (slots k)) action bank before.related⟩

theorem Handlers.perform_action_follows {action : Action ι} (spares : action.SparesSlots) :
    Maintains (fun system => Follows R system.registry system.machine.bank)
      (handlers.perform (.action action)) :=
  Run.perform_maintains undisturbed_follows (bench_follows benched) Offset.not_ofSlot_vector
    (Handlers.call_follows spare) _ _ action spares

/-- **A run**, over a relation that loading a slot establishes and that switching slots keeps. -/
theorem Handlers.carryOut_related
    (loads : ∀ entry : Entry Routine, (∀ line, entry.line = some line → line < lineCount) →
      R entry (SlotBank.loaded β entry))
    (switchesOff : ∀ entry slot, R entry slot →
      R entry ⟨SlotBank.keepControl β (slot.control &&& ~~~controlEnable), slot.address⟩)
    (switchesOn : ∀ entry slot, entry.line.isSome → R entry slot →
      R entry ⟨SlotBank.keepControl β (slot.control ||| controlEnable), slot.address⟩)
    {requests : List (Request ι)} (spared : ∀ request ∈ requests, request.SparesSlots)
    {start : System β γ} (before : Follows R start.registry start.machine.bank) :
    Follows R (handlers.carryOut requests start).registry
      (handlers.carryOut requests start).machine.bank := by
  refine handlers.carryOut_maintains (fun system => Follows R system.registry system.machine.bank)
    (fun request member => ?_) before
  cases request with
  | action action => exact perform_action_follows spare benched (spared _ member)
  | operation op =>
    cases switches : op.switches with
    | true => exact op.switch_follows switchesOff switchesOn _ switches
    | false => exact op.perform_follows loads (Handlers.call_follows spare) switches

/-- **A run after setting up.** -/
theorem Handlers.carryOut_follows {requests : List (Request ι)}
    (spared : ∀ request ∈ requests, request.SparesSlots) (start : System β γ) :
    let reached := handlers.carryOut requests (stateAfter Run.init start)
    Follows (Entry.ServedBy (SlotBank.keepAddress β)) reached.registry reached.machine.bank ∧
      ((∀ request ∈ requests, request.switches = false) →
        Follows (Entry.EnabledBy (SlotBank.keepAddress β)) reached.registry
          reached.machine.bank) := by
  have enables : ∀ entry : Entry Routine,
      (∀ line, entry.line = some line → line < lineCount) →
        entry.EnabledBy (SlotBank.keepAddress β) (SlotBank.loaded β entry) :=
    fun _ => enabledBy_loaded
  have serves : ∀ entry : Entry Routine,
      (∀ line, entry.line = some line → line < lineCount) →
        entry.ServedBy (SlotBank.keepAddress β) (SlotBank.loaded β entry) :=
    fun entry inRange => (enables entry inRange).1
  refine ⟨carryOut_related spare benched serves (fun _ _ => served_switchedOff)
    (fun _ _ occupied served => served_switchedOn served occupied) spared
    (Run.init_follows serves start), fun steady => ?_⟩
  refine handlers.carryOut_maintains (fun system => Follows _ system.registry system.machine.bank)
    (fun request member => ?_) (Run.init_follows enables start)
  cases request with
  | action action => exact perform_action_follows spare benched (spared _ member)
  | operation op => exact op.perform_follows enables (Handlers.call_follows spare) (steady _ member)

end Runs

/-- The slots, as they are read from the bank, serve the entries of their places. They are enabled,
too, if the run was steady. -/
def System.SlotsServe {β γ : Type} [RegisterBank β] (keep : Word → Word) (steady : Prop)
    (system : System β γ) : Prop :=
  ∀ k : Fin 16, ∃ slot : Slot,
    RegisterBank.read (Offset.slotControl k) system.machine.bank =
        .ok slot.control system.machine.bank ∧
      RegisterBank.read (Offset.slotAddress k) system.machine.bank =
        .ok slot.address system.machine.bank ∧
      (system.vectored.get k).ServedBy keep slot ∧
      (steady → (system.vectored.get k).line.isSome → slot.isEnabled)

theorem Handlers.carryOut_slotsServe [StatusRegister γ] [Benched ι β] {handlers : Handlers β γ}
    (spare : handlers.SpareSlots)
    (benched : ∀ (holds : (Fin 16 → Slot) → Prop) (action : ι),
      Maintains (fun bank : β => holds (SlotBank.slot bank)) (Benched.act action))
    {requests : List (Request ι)} (spared : ∀ request ∈ requests, request.SparesSlots)
    (start : System β γ) :
    (handlers.carryOut (.operation .init :: requests) start).SlotsServe (SlotBank.keepAddress β)
      (∀ request ∈ requests, request.switches = false) := by
  rw [Handlers.carryOut_init]
  intro k
  obtain ⟨serves, enabled⟩ := Handlers.carryOut_follows spare benched spared start
  exact ⟨_, SlotBank.read_control k _, SlotBank.read_address k _, serves.related k,
    fun steady => ((enabled steady).related k).2⟩

end Requests

/-- **The mirror.** Over the simulated controller, in a run that begins with setting up and whose
requests and handlers do not write to the slot registers themselves, slot `k` serves entry `k` of
the vectored table: its line field names the line and no bit but the enable bit is set besides, and
its address is that of the routine; if the entry is vacant, the control word is zero and the address
that of the dummy routine. Unless slots were switched, every slot that serves a line is enabled.
Over the memory mapped block the same holds of the low halves of the addresses. -/
theorem slots_mirror_table {γ : Type} [StatusRegister γ] :
    (∀ (handlers : Handlers Simulated γ) (requests : List (Request Simulated.BenchAction))
        (start : System Simulated γ), handlers.SpareSlots →
      (∀ request ∈ requests, request.SparesSlots) →
      (handlers.carryOut (.operation .init :: requests) start).SlotsServe id
        (∀ request ∈ requests, request.switches = false)) ∧
    (∀ (handlers : Handlers MemoryBlock γ) (requests : List (Request Empty))
        (start : System MemoryBlock γ), handlers.SpareSlots →
      (∀ request ∈ requests, request.SparesSlots) →
      (handlers.carryOut (.operation .init :: requests) start).SlotsServe MemoryBlock.lowHalf
        (∀ request ∈ requests, request.switches = false)) :=
  ⟨fun _ _ start spare spared =>
      Handlers.carryOut_slotsServe spare Simulated.bench_maintains spared start,
    fun _ _ start spare spared =>
      Handlers.carryOut_slotsServe spare (fun _ action => nomatch action) spared start⟩

/-- Two bindings, of which the second one is the more urgent, and a dispatch. -/
theorem slots_mirror_table_shifted :
    (((Firmware.idle : Firmware Simulated.BenchAction).handlers 1).carryOut
        ([.operation .init, .operation (.bindVectored 3 .dummy 5),
          .operation (.bindVectored 4 .fallback 9), .action (.line (.raise 4)),
          .operation .handleIrq] : List (Request Simulated.BenchAction))
        (System.fresh (.atPowerUp Simulated.powerUp))).SlotsServe id
      (∀ request ∈ ([.operation (.bindVectored 3 .dummy 5),
        .operation (.bindVectored 4 .fallback 9), .action (.line (.raise 4)),
        .operation .handleIrq] : List (Request Simulated.BenchAction)), request.switches = false) ∧
    (((Firmware.idle : Firmware Empty).handlers 1).carryOut
        ([.operation .init, .operation (.bindVectored 3 .dummy 5), .operation .disableAllSlots] :
          List (Request Empty))
        (System.fresh (.atPowerUp MemoryBlock.zeroed))).SlotsServe MemoryBlock.lowHalf
      (∀ request ∈ ([.operation (.bindVectored 3 .dummy 5), .operation .disableAllSlots] :
        List (Request Empty)), request.switches = false) := by
  refine ⟨slots_mirror_table.1 _ _ _
      (Firmware.spareSlots .idle Simulated.bench_maintains (fun _ => trivial) 1) ?_,
    slots_mirror_table.2 _ _ _
      (Firmware.spareSlots .idle (fun _ action => nomatch action) (fun _ => trivial) 1) ?_⟩
  · simp [Request.SparesSlots, Action.SparesSlots, Action.written?, LineOp.written?, Offset.OfSlot,
      Offset.soft, Offset.slotAddressBase, Offset.slotControlBase]
  · simp [Request.SparesSlots]

end VectoredInterrupts
