/-
**Dispatch in vectored mode.**

The simulated controller presents the address in the first slot that competes, and the slots follow
the first places of the vectored table, so the vector presented is that of the most urgent binding
among those that compete. The others are left to the default vector, whose marker stands for a
search past the slots.

* `Simulated.currentVector_of_competing` and `Simulated.currentVector_of_none`: what is presented;
* `Run.handleVectored_routine` and `Run.handleVectored_fallback`: what is done with it;
* `Run.serveRoutine_calls` and `Run.serveDefault_calls`: the one call that this comes down to;
* `vectored_dispatch`: both, after any run that begins with setting up.
-/

import VectoredInterrupts.Proofs.Dispatch.Polled

namespace VectoredInterrupts

/-! ### Which binding is presented -/

/-- If a slot competes, the first one that does is presented. -/
theorem Simulated.currentVector_of_presents {controller : Simulated} {k : Fin 16}
    (qualifies : controller.presents (controller.slots.get k) = true) :
    ∃ first : Fin 16, controller.presents (controller.slots.get first) = true ∧
      (∀ j < first, controller.presents (controller.slots.get j) = false) ∧
      controller.currentVector = (controller.slots.get first).address := by
  have member : controller.slots.get k ∈ controller.slots.toList :=
    Vector.mem_toList_iff.mpr (Vector.getElem_mem k.isLt)
  have found : (controller.slots.toList.find? controller.presents).isSome :=
    List.find?_isSome.mpr ⟨_, member, qualifies⟩
  obtain ⟨slot, first_slot⟩ := Option.isSome_iff_exists.mp found
  obtain ⟨presents, index, inside, rfl, earlier⟩ := List.find?_eq_some_iff_getElem.mp first_slot
  rw [Vector.length_toList] at inside
  refine ⟨⟨index, inside⟩, presents, fun j before => ?_, ?_⟩
  · have silent := earlier j before
    rw [Bool.not_eq_true'] at silent
    exact silent
  · rw [currentVector, first_slot]
    rfl

/-- If no slot competes, the default vector is presented. -/
theorem Simulated.currentVector_of_silent {controller : Simulated}
    (silent : ∀ k, controller.presents (controller.slots.get k) = false) :
    controller.currentVector = controller.defaultVector := by
  have nothing : controller.slots.toList.find? controller.presents = none := by
    refine List.find?_eq_none.mpr fun slot member => ?_
    obtain ⟨index, inside, rfl⟩ := Vector.getElem_of_mem (Vector.mem_toList_iff.mp member)
    exact Bool.eq_false_iff.mp (silent ⟨index, inside⟩)
  rw [currentVector, nothing]

/-- A place of the table is the position of a line if a binding of the line is there. -/
theorem Table.Lists.position_eq_some {α : Type} [Inhabited α] {table : Table α}
    {bindings : List (Binding α)} (lists : table.Lists bindings) (distinct : Distinct bindings)
    {binding : Binding α} (member : binding ∈ bindings) (place : Nat) :
    table.position binding.line = some place ↔ bindings[place]? = some binding := by
  rw [lists.position, List.findIdx?_eq_some_iff_getElem]
  constructor
  · rintro ⟨inside, same, -⟩
    rw [List.getElem?_eq_getElem inside]
    exact congrArg some (distinct.eq_of_line (List.getElem_mem inside) member (beq_iff_eq.mp same))
  · intro there
    obtain ⟨inside, rfl⟩ := List.getElem?_eq_some_iff.mp there
    refine ⟨inside, beq_self_eq_true _, fun earlier before same => ?_⟩
    exact List.pairwise_iff_getElem.mp distinct earlier place (by omega) inside before
      (beq_iff_eq.mp same)

/-- A binding competes for service: its line is pending, and it has a slot which is enabled. -/
def Competes (controller : Simulated) (table : Table Routine) (binding : Binding Routine) : Prop :=
  controller.irqStatus.getLsbD binding.line = true ∧
    ∃ k : Fin 16, table.position binding.line = some k.val ∧
      (controller.slots.get k).isEnabled = true

/-- A slot that serves a binding names its line and holds its routine. -/
theorem Entry.ServedBy.names {binding : Binding Routine} {slot : Slot}
    (served : binding.entry.ServedBy id slot) (small : binding.line < lineCount) :
    slot.line = binding.line ∧ slot.address = binding.payload.address := by
  obtain ⟨field, -, address⟩ := served
  refine ⟨?_, address⟩
  rw [lineCount] at small
  rw [Slot.line, field, BitVec.toNat_ofNat]
  omega

section Presenting

variable {controller : Simulated} {registry : Registry} {order : List (Binding Routine)}
  (follows : Follows (Entry.ServedBy id) registry controller)
  (lists : registry.vectored.Lists order)

include follows lists

/-- The slot of a binding names its line and holds its routine. -/
theorem slot_of_binding (inRange : InRange order) {k : Fin 16} {binding : Binding Routine}
    (there : order[k.val]? = some binding) :
    (controller.slots.get k).line = binding.line ∧
      (controller.slots.get k).address = binding.payload.address := by
  have served := follows.related k
  rw [lists.get, there] at served
  exact served.names (inRange binding (List.mem_of_getElem? there))

/-- A slot without a binding does not compete. -/
theorem presents_eq_false {k : Fin 16} (vacant : order[k.val]? = none) :
    controller.presents (controller.slots.get k) = false := by
  have served := follows.related k
  rw [lists.get, vacant] at served
  have blank : (controller.slots.get k).control = 0#64 := served.1
  unfold Simulated.presents Slot.isEnabled
  rw [blank, BitVec.zero_and]
  rfl

/-- A slot competes if its binding does. -/
theorem presents_iff (distinct : Distinct order) (inRange : InRange order) {k : Fin 16}
    {binding : Binding Routine} (there : order[k.val]? = some binding) :
    controller.presents (controller.slots.get k) = true ↔
      Competes controller registry.vectored binding := by
  obtain ⟨line, -⟩ := slot_of_binding follows lists inRange there
  have position := (lists.position_eq_some distinct (List.mem_of_getElem? there) k.val).mpr there
  unfold Simulated.presents Competes
  rw [Bool.and_eq_true, line]
  constructor
  · rintro ⟨enabled, pending⟩
    exact ⟨pending, k, position, enabled⟩
  · rintro ⟨pending, other, position_other, enabled⟩
    have same := Option.some.inj (position.symm.trans position_other)
    rw [Fin.ext same]
    exact ⟨enabled, pending⟩

/-- **What is presented if some binding competes:** the first one in the order of the table. -/
theorem Simulated.currentVector_of_competing {bindings : List (Binding Routine)}
    (arrangement : order = arranged bindings) (distinct : Distinct bindings)
    (inRange : InRange bindings)
    (some_competes : ∃ binding ∈ bindings, Competes controller registry.vectored binding) :
    ∃ first ∈ bindings, Competes controller registry.vectored first ∧
      (∀ other ∈ bindings, Competes controller registry.vectored other → other ≠ first →
        Precedes bindings first other) ∧
      controller.currentVector = first.payload.address := by
  subst arrangement
  have there_of_competes : ∀ binding ∈ bindings, Competes controller registry.vectored binding →
      ∃ k : Fin 16, (arranged bindings)[k.val]? = some binding := by
    rintro binding member ⟨-, k, position, -⟩
    have listed := mem_arranged.mpr member
    exact ⟨k, (lists.position_eq_some distinct.arranged listed k).mp position⟩
  have presents : ∀ {k : Fin 16} {binding}, (arranged bindings)[k.val]? = some binding →
      (controller.presents (controller.slots.get k) = true ↔
        Competes controller registry.vectored binding) :=
    fun there => presents_iff follows lists distinct.arranged inRange.arranged there
  obtain ⟨binding, member, competes⟩ := some_competes
  obtain ⟨k, there⟩ := there_of_competes binding member competes
  obtain ⟨index, qualifies, earlier, presented⟩ :=
    currentVector_of_presents ((presents there).mpr competes)
  -- there is a binding at the place of that slot
  cases found : (arranged bindings)[index.val]? with
  | none =>
    exact absurd qualifies (Bool.eq_false_iff.mp (presents_eq_false follows lists found))
  | some first =>
    have listed := mem_arranged.mp (List.mem_of_getElem? found)
    refine ⟨first, listed, (presents found).mp qualifies, fun other member competes apart => ?_, ?_⟩
    · obtain ⟨k, there⟩ := there_of_competes other member competes
      have late : index.val < k.val := by
        rcases Nat.lt_trichotomy index.val k.val with before | same | after
        · exact before
        · rw [same, there] at found
          exact absurd (Option.some.inj found) apart
        · exact absurd ((presents there).mpr competes) (Bool.eq_false_iff.mp (earlier k after))
      obtain ⟨inside_first, rfl⟩ := List.getElem?_eq_some_iff.mp found
      obtain ⟨inside_other, rfl⟩ := List.getElem?_eq_some_iff.mp there
      exact List.pairwise_iff_getElem.mp (arranged_pairwise distinct.nodup) index k _ _ late
    · rw [presented]
      exact (slot_of_binding follows lists inRange.arranged found).2

/-- **What is presented if no binding competes:** the default vector. -/
theorem Simulated.currentVector_of_none (distinct : Distinct order) (inRange : InRange order)
    (none_competes : ∀ binding ∈ order, ¬ Competes controller registry.vectored binding) :
    controller.currentVector = controller.defaultVector := by
  refine currentVector_of_silent fun k => ?_
  cases there : order[k.val]? with
  | none => exact presents_eq_false follows lists there
  | some binding =>
    refine Bool.eq_false_iff.mpr fun qualifies => ?_
    exact none_competes binding (List.mem_of_getElem? there)
      ((presents_iff follows lists distinct inRange there).mp qualifies)

end Presenting

/-! ### What is done with a vector -/

/-- The first binding past the slots whose line is enabled. -/
def unslotted (enabled : LineSet) (order : List (Binding Routine)) : Option (Binding Routine) :=
  (order.drop slotCount).find? fun binding => enabled.getLsbD binding.line

theorem findSome?_enabledBinding? (enabled : LineSet) {bindings : List (Binding Routine)}
    (inRange : InRange bindings) :
    (bindings.map Binding.entry).findSome? (Run.enabledBinding? enabled) =
      (bindings.find? fun binding => enabled.getLsbD binding.line).map fun binding =>
        (binding.line, binding.payload) := by
  induction bindings with
  | nil => rfl
  | cons head others ih =>
    have small := inRange head List.mem_cons_self
    have ih := ih fun binding member => inRange binding (List.mem_cons_of_mem _ member)
    rw [List.map_cons, List.findSome?_cons, List.find?_cons]
    unfold Run.enabledBinding? at ih ⊢
    rw [Binding.entry_line]
    cases served : enabled.getLsbD head.line with
    | true =>
      simp only
      rw [if_pos ⟨small, served⟩]
      rfl
    | false =>
      simp only
      rw [if_neg fun both => Bool.false_ne_true (served.symm.trans both.2)]
      exact ih

/-- The search past the slots is a search of the bindings past the slots. -/
theorem Table.Lists.findSome?_unslotted {table : Table Routine} {order : List (Binding Routine)}
    (lists : table.Lists order) (inRange : InRange order) (enabled : LineSet) :
    (table.toList.drop slotCount).findSome? (Run.enabledBinding? enabled) =
      (unslotted enabled order).map fun binding => (binding.line, binding.payload) := by
  have none_behind : ∀ rest : Nat, (List.replicate rest (Entry.vacant : Entry Routine)).findSome?
      (Run.enabledBinding? enabled) = none := by
    intro rest
    refine List.findSome?_eq_none_iff.mpr fun entry member => ?_
    rw [List.eq_of_mem_replicate member]
    rfl
  have past : InRange (order.drop slotCount) := fun binding member =>
    inRange binding (List.mem_of_mem_drop member)
  rw [lists, List.drop_append, List.drop_replicate, List.findSome?_append, none_behind,
    Option.or_none, ← List.map_drop, findSome?_enabledBinding? enabled past]
  rfl

namespace Run

section Routines

variable {β γ : Type} [RegisterBank β]

/-- What a dispatch does with the vector of a routine. The dummy routine counts as spurious. -/
def serveRoutine (serve : Handler → Run β γ Unit) (routine : Routine) : Run β γ Unit := do
  onMachine (Bus.log (.vectorRead routine.address))
  if routine = .dummy then countSpurious
  serve (.routine routine)
  onMachine Bus.acknowledge

/-- What a dispatch does with the marker of the default vector, when `binding` is to be served. -/
def serveDefault (serve : Handler → Run β γ Unit) (binding : Option (Binding Routine)) :
    Run β γ Unit := do
  onMachine (Bus.log (.vectorRead Routine.fallback.address))
  let _ ← onMachine Bus.enabledLines
  match binding with
  | some binding =>
    onMachine (Bus.log (.servingUnslotted binding.line))
    serve (.routine binding.payload)
  | none =>
    countSpurious
    serve (.routine .dummy)
  onMachine Bus.acknowledge

/-- The vector of a routine is accepted. -/
theorem handleVectored_address (serve : Handler → Run β γ Unit) {routine : Routine}
    {system begun : System β γ}
    (read : onMachine Bus.vector system = .ok routine.address begun) :
    handleVectored serve system = (do
      onMachine (Bus.log (.vectorRead routine.address))
      serveVector serve routine.address
      onMachine Bus.acknowledge : Run β γ Unit) begun := by
  unfold handleVectored
  rw [bind_ok read]
  simp only [Routine.ofAddress?_address, reduceCtorEq, and_false, if_false]

/-- **A routine is presented.** -/
theorem handleVectored_routine (serve : Handler → Run β γ Unit) {routine : Routine}
    (named : routine ≠ .fallback) {system begun : System β γ}
    (read : onMachine Bus.vector system = .ok routine.address begun) :
    handleVectored serve system = serveRoutine serve routine begun := by
  rw [handleVectored_address serve read, serveRoutine, serveVector, Routine.ofAddress?_address]
  cases routine with
  | dummy => rfl
  | fallback => exact absurd rfl named
  | user number => rfl

/-- The search past the slots, and what follows from it. -/
theorem serviceUnslotted_eq (serve : Handler → Run β γ Unit) {system after : System β γ}
    {enabled : LineSet} {order : List (Binding Routine)} (inRange : InRange order)
    (read : onMachine Bus.enabledLines system = .ok enabled after)
    (lists : after.vectored.Lists order) :
    serviceUnslotted serve system = (match unslotted enabled order with
      | some binding => do
        onMachine (Bus.log (.servingUnslotted binding.line))
        serve (.routine binding.payload)
        return true
      | none => return false : Run β γ Bool) after := by
  unfold serviceUnslotted
  rw [bind_ok read, bind_get, lists.findSome?_unslotted inRange]
  cases unslotted enabled order <;> rfl

/-- **The marker of the default vector is presented.** -/
theorem handleVectored_fallback (serve : Handler → Run β γ Unit) {system begun after : System β γ}
    {enabled : LineSet} {order : List (Binding Routine)} (inRange : InRange order)
    (read : onMachine Bus.vector system = .ok Routine.fallback.address begun)
    (lines : onMachine Bus.enabledLines { begun with
      machine := begun.machine.logged (.vectorRead Routine.fallback.address) } = .ok enabled after)
    (lists : after.vectored.Lists order) :
    handleVectored serve system = serveDefault serve (unslotted enabled order) begun := by
  rw [handleVectored_address serve read, serveDefault, serveVector, Routine.ofAddress?_address,
    bind_ok (log_ok _ _), bind_ok (log_ok _ _), bind_ok lines]
  show ((serviceUnslotted serve >>= _) >>= _) _ = _
  rw [bind_assoc, bind_congr_at (serviceUnslotted_eq serve inRange lines lists)]
  cases unslotted enabled order with
  | none => rfl
  | some binding => simp only [bind_assoc, pure_bind]; rfl

end Routines

end Run

/-! ### The calls of a dispatch -/

section Calls

variable {β γ : Type}

/-- The system when the vector of a routine has been logged. The dummy routine has been counted. -/
def System.presenting (routine : Routine) (begun : System β γ) : System β γ :=
  { begun with
    machine := begun.machine.logged (.vectorRead routine.address)
    spurious := begun.spurious + if routine = .dummy then 1 else 0 }

/-- The system when the bindings past the slots have been searched. If none of them is to be served,
the interrupt has been counted. -/
def System.searched (found : Option (Binding Routine)) (system : System β γ) : System β γ :=
  match found with
  | some binding =>
    { system with machine := system.machine.logged (.servingUnslotted binding.line) }
  | none => { system with spurious := system.spurious + 1 }

theorem System.searched_registry (found : Option (Binding Routine)) (system : System β γ) :
    (system.searched found).registry = system.registry := by
  cases found <;> rfl

theorem System.searched_spurious (found : Option (Binding Routine)) (system : System β γ) :
    (system.searched found).spurious = system.spurious + if found = none then 1 else 0 := by
  cases found <;> rfl

variable [RegisterBank β] (call : Nat → Handler → Run β γ Unit) (active : Nat)

/-- **A routine that is presented** is called, and then service ends. -/
theorem Run.serveRoutine_calls (routine : Routine) (begun : System β γ) :
    Calls call active (onMachine Bus.acknowledge) [.routine routine] (begun.presenting routine)
      (serveRoutine (dispatch call active) routine begun) := by
  rw [serveRoutine, bind_ok (log_ok _ _), calls_singleton_iff, System.presenting]
  by_cases dummy : routine = .dummy
  · rw [if_pos dummy, if_pos dummy]
    rfl
  · rw [if_neg dummy, if_neg dummy]
    rfl

/-- **The marker of the default vector** has the routine of the binding called that was found, or
the dummy routine. -/
theorem Run.serveDefault_calls {begun after : System β γ} {enabled : LineSet}
    (lines : onMachine Bus.enabledLines { begun with
      machine := begun.machine.logged (.vectorRead Routine.fallback.address) } = .ok enabled after)
    (found : Option (Binding Routine)) :
    Calls call active (onMachine Bus.acknowledge) [.routine (found.elim .dummy Binding.payload)]
      (after.searched found) (serveDefault (dispatch call active) found begun) := by
  rw [serveDefault, bind_ok (log_ok _ _), bind_ok lines, calls_singleton_iff]
  cases found with
  | none => rfl
  | some binding => exact bind_ok (log_ok _ _)

end Calls

/-! ### Over the simulated controller -/

section Simulated

variable {γ : Type}

theorem Simulated.vector_ok (system : System Simulated γ) :
    ∃ begun, Run.onMachine Bus.vector system = .ok system.machine.bank.currentVector begun ∧
      begun.machine.bank.enabled = system.machine.bank.enabled :=
  ⟨_, Run.onMachine_ok (Bus.read_ok rfl), rfl⟩

/-- Reading the enabled lines, once the vector has been read and something has been logged. -/
theorem Simulated.enabledLines_ok {system begun : System Simulated γ} {vector : Word}
    (read : Run.onMachine Bus.vector system = .ok vector begun) (notice : Notice) :
    ∃ scanned, Run.onMachine Bus.enabledLines
        { begun with machine := begun.machine.logged notice } =
          .ok system.machine.bank.enabled scanned ∧
      scanned.registry = system.registry ∧ scanned.spurious = system.spurious := by
  obtain ⟨kept, uncounted⟩ := Run.onMachine_leaves read
  obtain ⟨other, also, enabled⟩ := vector_ok system
  obtain rfl : begun = other := (EStateM.Result.ok.inj (read.symm.trans also)).2
  obtain ⟨scanned, lines⟩ : ∃ scanned, Run.onMachine Bus.enabledLines
      { begun with machine := begun.machine.logged notice } =
        .ok begun.machine.bank.enabled scanned := by
    refine readLines_ok _ ?_
    rw [Machine.logged_bank]
    rfl
  obtain ⟨kept_after, uncounted_after⟩ := Run.onMachine_leaves lines
  rw [enabled] at lines
  exact ⟨scanned, lines, kept_after.trans kept, uncounted_after.trans uncounted⟩

/-- A dispatch to which the marker of the default vector is presented. -/
theorem Run.handleIrq_marker (call : Nat → Handler → Run Simulated γ Unit) (active : Nat)
    {system begun : System Simulated γ} {order : List (Binding Routine)}
    (mode : system.mode = .vectored) (inRange : InRange order)
    (lists : system.vectored.Lists order)
    (read : onMachine Bus.vector system = .ok Routine.fallback.address begun) :
    ∃ scanned, onMachine Bus.enabledLines { begun with
        machine := begun.machine.logged (.vectorRead Routine.fallback.address) } =
          .ok system.machine.bank.enabled scanned ∧
      scanned.spurious = system.spurious ∧
      handleIrq call active system = serveDefault (dispatch call active)
        (unslotted system.machine.bank.enabled order) begun := by
  obtain ⟨scanned, lines, kept, uncounted⟩ :=
    Simulated.enabledLines_ok read (.vectorRead Routine.fallback.address)
  have same : scanned.vectored = system.vectored := congrArg Registry.vectored kept
  refine ⟨scanned, lines, uncounted, ?_⟩
  rw [handleIrq_of_vectored mode]
  exact handleVectored_fallback _ inRange read lines (same ▸ lists)

/-- How a dispatch in vectored mode goes when `bindings` are in force. -/
structure DispatchesVectored (handlers : Handlers Simulated γ) (active : Nat)
    (bindings : List (Binding Routine)) (system : System Simulated γ) : Prop where
  /-- The table lists the bindings in the order in which one precedes the other. -/
  listed : system.vectored.Lists (arranged bindings)
  /-- A line is pending if it is asserted, enabled and routed to IRQ. -/
  pending : ∀ line < lineCount, system.machine.bank.irqStatus.getLsbD line =
    ((system.machine.bank.inputs.getLsbD line || system.machine.bank.soft.getLsbD line) &&
      system.machine.bank.enabled.getLsbD line && !system.machine.bank.select.getLsbD line)
  /-- If a binding competes, the one that precedes the others is presented, and its routine runs. -/
  presented : (∃ binding ∈ bindings, Competes system.machine.bank system.vectored binding) →
    ∃ first ∈ bindings, Competes system.machine.bank system.vectored first ∧
      (∀ other ∈ bindings, Competes system.machine.bank system.vectored other → other ≠ first →
        Precedes bindings first other) ∧
      ∃ begun, Run.onMachine Bus.vector system = .ok first.payload.address begun ∧
        (first.payload ≠ .fallback → Run.handleIrq handlers.call active system =
          Run.serveRoutine (Run.dispatch handlers.call active) first.payload begun)
  /-- If none does, the default vector is presented. Its marker stands for the first enabled binding
  past the slots. -/
  fallback : (∀ binding ∈ bindings, ¬ Competes system.machine.bank system.vectored binding) →
    ∃ begun, Run.onMachine Bus.vector system = .ok system.machine.bank.defaultVector begun ∧
      (system.machine.bank.defaultVector = Routine.fallback.address →
        Run.handleIrq handlers.call active system =
          Run.serveDefault (Run.dispatch handlers.call active)
            (unslotted system.machine.bank.enabled (arranged bindings)) begun)
  /-- A routine that is presented is marked and called, and then service ends. The dummy routine
  has been counted. -/
  calls : ∀ routine ≠ Routine.fallback, ∀ begun,
    Run.onMachine Bus.vector system = .ok routine.address begun →
      begun.spurious = system.spurious ∧
      Run.Calls handlers.call active (Run.onMachine Bus.acknowledge) [.routine routine]
        (begun.presenting routine) (Run.handleIrq handlers.call active system)
  /-- The marker has the enabled lines read. Then the routine of the binding found is marked and
  called, or the dummy routine, which has been counted, and service ends. -/
  searches : ∀ begun, Run.onMachine Bus.vector system = .ok Routine.fallback.address begun →
    ∃ scanned, Run.onMachine Bus.enabledLines { begun with
        machine := begun.machine.logged (.vectorRead Routine.fallback.address) } =
          .ok system.machine.bank.enabled scanned ∧
      scanned.spurious = system.spurious ∧
      Run.Calls handlers.call active (Run.onMachine Bus.acknowledge)
        [.routine ((unslotted system.machine.bank.enabled (arranged bindings)).elim .dummy
          Binding.payload)]
        (scanned.searched (unslotted system.machine.bank.enabled (arranged bindings)))
        (Run.handleIrq handlers.call active system)

/-- **Vectored dispatch.** After any run that begins with setting up and whose requests and handlers
do not write to the slot registers themselves, slots switched on and off included. -/
theorem vectored_dispatch [StatusRegister γ] (handlers : Handlers Simulated γ)
    (requests : List (Request Simulated.BenchAction)) (start : System Simulated γ) (active : Nat)
    (spare : handlers.SpareSlots) (spared : ∀ request ∈ requests, request.SparesSlots)
    (mode : (handlers.carryOut (.operation .init :: requests) start).mode = .vectored) :
    DispatchesVectored handlers active (live (requests.filterMap Request.vectoredChange?))
      (handlers.carryOut (.operation .init :: requests) start) := by
  rw [Handlers.carryOut_init] at mode ⊢
  have follows : Follows (Entry.ServedBy id) _ _ :=
    (Handlers.carryOut_follows spare Simulated.bench_maintains spared start).1
  have vacant : (stateAfter Run.init start).vectored = .vacant := by
    obtain ⟨machine, after, -⟩ := Run.init_after start
    rw [after]
  have lists := handlers.carryOut_vectored requests vacant
  have distinct := live_distinct (requests.filterMap Request.vectoredChange?)
  have inRange := live_inRange (requests.filterMap Request.vectoredChange?)
  generalize handlers.carryOut requests (stateAfter Run.init start) = reached at *
  generalize live (requests.filterMap Request.vectoredChange?) = bindings at *
  refine ⟨lists, fun line small => Simulated.getLsbD_irqStatus _ small, fun some_competes => ?_,
    fun none_competes => ?_, fun routine named begun read => ?_, fun begun read => ?_⟩
  · obtain ⟨first, listed, competes, precedes, presented⟩ :=
      Simulated.currentVector_of_competing follows lists rfl distinct inRange some_competes
    obtain ⟨begun, read, -⟩ := Simulated.vector_ok reached
    rw [presented] at read
    refine ⟨first, listed, competes, precedes, begun, read, fun named => ?_⟩
    rw [Run.handleIrq_of_vectored mode, Run.handleVectored_routine _ named read]
  · have presented := Simulated.currentVector_of_none follows lists distinct.arranged
      inRange.arranged fun binding member => none_competes binding (mem_arranged.mp member)
    obtain ⟨begun, read, -⟩ := Simulated.vector_ok reached
    rw [presented] at read
    refine ⟨begun, read, fun marked => ?_⟩
    rw [marked] at read
    obtain ⟨scanned, -, -, serves⟩ :=
      Run.handleIrq_marker handlers.call active mode inRange.arranged lists read
    exact serves
  · rw [Run.handleIrq_of_vectored mode, Run.handleVectored_routine _ named read]
    exact ⟨(Run.onMachine_leaves read).2, Run.serveRoutine_calls handlers.call active routine begun⟩
  · obtain ⟨scanned, lines, uncounted, serves⟩ :=
      Run.handleIrq_marker handlers.call active mode inRange.arranged lists read
    rw [serves]
    exact ⟨scanned, lines, uncounted, Run.serveDefault_calls handlers.call active lines _⟩

/-- The slot of the more urgent of two pending lines is off. -/
theorem vectored_dispatch_switched :
    DispatchesVectored ((Firmware.idle : Firmware Simulated.BenchAction).handlers 1) 1
      (live [.bind 3 .dummy 5, .bind 4 (.user ⟨0, by decide⟩) 9])
      (((Firmware.idle : Firmware Simulated.BenchAction).handlers 1).carryOut
        ([.operation .init, .operation (.setMode .vectored), .operation (.bindVectored 3 .dummy 5),
          .operation (.bindVectored 4 (.user ⟨0, by decide⟩) 9), .operation (.disableSlot 4),
          .action (.line (.enable 3)), .action (.bench (.raise 3)), .action (.line (.enable 4)),
          .action (.bench (.raise 4))] : List (Request Simulated.BenchAction))
        (System.fresh (.atPowerUp Simulated.powerUp))) := by
  refine vectored_dispatch (Firmware.handlers .idle 1)
    [.operation (.setMode .vectored), .operation (.bindVectored 3 .dummy 5),
      .operation (.bindVectored 4 (.user ⟨0, by decide⟩) 9), .operation (.disableSlot 4),
      .action (.line (.enable 3)), .action (.bench (.raise 3)), .action (.line (.enable 4)),
      .action (.bench (.raise 4))]
    (System.fresh (.atPowerUp .powerUp)) 1
    (Firmware.spareSlots .idle Simulated.bench_maintains (fun _ => trivial) 1) ?_ ?_
  · simp [Request.SparesSlots, Action.SparesSlots, Action.written?, LineOp.written?, Offset.OfSlot,
      Offset.enable, Offset.slotAddressBase, Offset.slotControlBase]
  · decide +kernel

end Simulated

end VectoredInterrupts
