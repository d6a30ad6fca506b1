/-
**Which line is served.**

A line that requests an IRQ competes for service if it has a slot, and past the slots the default
vector stands for the first *enabled* line, whether it requests an IRQ or not. So the most urgent of
the requesting lines is served if it has a slot, and past the slots it is if no enabled line comes
before it there.

* `competes_iff_of_enabled`: as long as no slot is switched, every line with a slot competes when it
  requests an IRQ;
* `vectored_ranking`: what a dispatch runs when lines are only bound, released and handled;
* `vectored_ranking_not_foremost`: an enabled line that is idle is served in place of another one.
-/

import VectoredInterrupts.Proofs.DefaultVector
import VectoredInterrupts.Proofs.Dispatch.Choice

namespace VectoredInterrupts

/-! ### Runs that need no handlers -/

/-- The request binds a routine of the firmware or releases one, handles one line, is the bench's,
or chooses the mode. -/
def Request.PerLine : Request Simulated.BenchAction → Prop
  | .operation (.bindVectored _ routine _) => routine ≠ .dummy ∧ routine ≠ .fallback
  | .operation (.releaseVectored _) | .operation (.setMode _) => True
  | .action (.line _) | .action (.bench _) => True
  | _ => False

section PerLine

variable {γ : Type} [StatusRegister γ]

/-- Such a request runs no handler. -/
theorem Request.PerLine.perform_eq {request : Request Simulated.BenchAction}
    (perLine : request.PerLine) (first second : Handlers Simulated γ) :
    first.perform request = second.perform request := by
  cases request with
  | action action =>
    cases action with
    | line | bench => rfl
    | _ => exact perLine.elim
  | operation op =>
    cases op with
    | bindVectored | releaseVectored | setMode => rfl
    | _ => exact perLine.elim

theorem Handlers.carryOut_perLine {requests : List (Request Simulated.BenchAction)}
    (perLine : ∀ request ∈ requests, request.PerLine) (first second : Handlers Simulated γ)
    (system : System Simulated γ) :
    first.carryOut requests system = second.carryOut requests system := by
  induction requests generalizing system with
  | nil => rfl
  | cons request rest ih =>
    rw [carryOut_cons, carryOut_cons, (perLine request List.mem_cons_self).perform_eq first second]
    exact ih (fun other member => perLine other (List.mem_cons_of_mem _ member)) _

theorem Request.PerLine.spares {request : Request Simulated.BenchAction}
    (perLine : request.PerLine) :
    request.SparesSlots ∧ request.switches = false ∧ request.defaultVector? = none := by
  cases request with
  | action action =>
    cases action with
    | line op => exact ⟨fun _ => LineOp.not_ofSlot_of_written, rfl, rfl⟩
    | bench => exact ⟨(fun _ written => nomatch written), rfl, rfl⟩
    | _ => exact perLine.elim
  | operation op =>
    cases op with
    | bindVectored | releaseVectored | setMode => exact ⟨trivial, rfl, rfl⟩
    | _ => exact perLine.elim

/-- What such a run leaves after setting up: the slots follow the table and are enabled, and the
default vector is the marker. -/
theorem Handlers.carryOut_perLine_follows (handlers : Handlers Simulated γ)
    {requests : List (Request Simulated.BenchAction)}
    (perLine : ∀ request ∈ requests, request.PerLine) (start : System Simulated γ) :
    let reached := handlers.carryOut (.operation .init :: requests) start
    Follows (Entry.EnabledBy id) reached.registry reached.machine.bank ∧
      reached.machine.bank.defaultVector = Routine.fallback.address := by
  rw [carryOut_init]
  rw [handlers.carryOut_perLine perLine ((Firmware.idle : Firmware Simulated.BenchAction).handlers 1)]
  constructor
  · exact (Handlers.carryOut_follows
      (Firmware.spareSlots .idle Simulated.bench_maintains (fun _ => trivial) 1)
      Simulated.bench_maintains (fun request member => (perLine request member).spares.1) start).2
      fun request member => (perLine request member).spares.2.1
  · rw [Handlers.carryOut_defaultVector (Firmware.spareDefaultVector .idle (fun _ => trivial) 1),
      Run.init_defaultVector]
    have unset : requests.filterMap Request.defaultVector? = [] :=
      List.filterMap_eq_nil_iff.mpr fun request member => (perLine request member).spares.2.2
    rw [unset]
    rfl

end PerLine

/-! ### Ranks -/

/-- The binding that is to be served first among those whose line is pending. -/
def Foremost (pending : LineSet) (bindings : List (Binding Routine)) (first : Binding Routine) :
    Prop :=
  first ∈ bindings ∧ pending.getLsbD first.line = true ∧
    ∀ other ∈ bindings, pending.getLsbD other.line = true → other ≠ first →
      Precedes bindings first other

/-- The line is bound at a place that has a slot. -/
def Table.HasSlot (table : Table Routine) (line : Nat) : Prop :=
  ∃ k : Fin 16, table.position line = some k.val

instance (table : Table Routine) (line : Nat) : Decidable (table.HasSlot line) :=
  inferInstanceAs (Decidable (∃ k : Fin 16, table.position line = some k.val))

/-- The first qualifying item past some place. -/
theorem find?_drop_eq_some_iff {α : Type} {qualifies : α → Bool} {list : List α} {count : Nat}
    {item : α} :
    (list.drop count).find? qualifies = some item ↔
      qualifies item = true ∧ ∃ index, count ≤ index ∧ list[index]? = some item ∧
        ∀ k, count ≤ k → k < index → ∀ other, list[k]? = some other → qualifies other = false := by
  rw [List.find?_eq_some_iff_getElem]
  refine and_congr_right fun _ => ⟨?_, ?_⟩
  · rintro ⟨index, inside, found, earlier⟩
    refine ⟨count + index, Nat.le_add_right _ _, ?_, fun k past before other there => ?_⟩
    · rw [← List.getElem?_drop, List.getElem?_eq_getElem inside, found]
    · have silent := earlier (k - count) (by omega)
      rw [← Nat.add_sub_cancel' past, ← List.getElem?_drop] at there
      obtain ⟨-, rfl⟩ := List.getElem?_eq_some_iff.mp there
      exact Bool.not_eq_true' _ ▸ silent
  · rintro ⟨index, past, there, silent⟩
    rw [← Nat.add_sub_cancel' past, ← List.getElem?_drop] at there
    obtain ⟨inside, found⟩ := List.getElem?_eq_some_iff.mp there
    refine ⟨index - count, inside, found, fun k before => ?_⟩
    rw [Bool.not_eq_true']
    refine silent (count + k) (Nat.le_add_right _ _) (by omega) _ ?_
    rw [← List.getElem?_drop]
    exact List.getElem?_eq_getElem _

section Ranks

variable {table : Table Routine} {bindings : List (Binding Routine)}
  (lists : table.Lists (arranged bindings)) (distinct : Distinct bindings)

include distinct in
/-- If a line is pending, there is a foremost one. -/
theorem exists_foremost {pending : LineSet} {binding : Binding Routine}
    (member : binding ∈ bindings) (requests : pending.getLsbD binding.line = true) :
    ∃ first, Foremost pending bindings first := by
  have found : ((arranged bindings).find? fun other => pending.getLsbD other.line).isSome :=
    List.find?_isSome.mpr ⟨binding, mem_arranged.mpr member, requests⟩
  obtain ⟨first, found⟩ := Option.isSome_iff_exists.mp found
  obtain ⟨qualifies, index, inside, rfl, earlier⟩ := List.find?_eq_some_iff_getElem.mp found
  refine ⟨_, mem_arranged.mp (List.getElem_mem inside), qualifies,
    fun other listed pends apart => ?_⟩
  obtain ⟨place, inside_other, rfl⟩ := List.getElem_of_mem (mem_arranged.mpr listed)
  rcases Nat.lt_trichotomy index place with before | same | after
  · exact List.pairwise_iff_getElem.mp (arranged_pairwise distinct.nodup) _ _ _ _ before
  · exact absurd (by simp only [same]) apart
  · have silent := earlier place after
    rw [pends] at silent
    cases silent

include lists distinct

/-- The position of a binding is its place in the order. -/
theorem position_iff_getElem? {binding : Binding Routine} (member : binding ∈ bindings)
    (place : Nat) :
    table.position binding.line = some place ↔ (arranged bindings)[place]? = some binding :=
  lists.position_eq_some distinct.arranged (mem_arranged.mpr member) place

/-- One binding precedes another one exactly if it is at a lower place. -/
theorem precedes_iff_lt {first second : Binding Routine} (left : first ∈ bindings)
    (right : second ∈ bindings) {i j : Nat} (place : table.position first.line = some i)
    (other_place : table.position second.line = some j) :
    Precedes bindings first second ↔ i < j := by
  have at_i := (position_iff_getElem? lists distinct left i).mp place
  have at_j := (position_iff_getElem? lists distinct right j).mp other_place
  obtain ⟨inside_i, rfl⟩ := List.getElem?_eq_some_iff.mp at_i
  obtain ⟨inside_j, rfl⟩ := List.getElem?_eq_some_iff.mp at_j
  have pairs := List.pairwise_iff_getElem.mp (arranged_pairwise distinct.nodup)
  constructor
  · intro precedes
    by_contra late
    rcases Nat.lt_or_eq_of_le (Nat.le_of_not_lt late) with before | same
    · exact precedes.asymm distinct.nodup (pairs _ _ inside_j inside_i before)
    · subst same
      exact precedes.asymm distinct.nodup precedes
  · exact pairs _ _ inside_i inside_j

theorem exists_position {binding : Binding Routine} (member : binding ∈ bindings) :
    ∃ place, table.position binding.line = some place := by
  obtain ⟨place, there⟩ := List.mem_iff_getElem?.mp (mem_arranged.mpr member)
  exact ⟨place, (position_iff_getElem? lists distinct member place).mpr there⟩

/-- Past the slots the first enabled binding is the one with no enabled line before it there. -/
theorem unslotted_eq_some_iff {enabled : LineSet} {first : Binding Routine}
    (member : first ∈ bindings) (on : enabled.getLsbD first.line = true)
    (behind : ¬ table.HasSlot first.line) :
    unslotted enabled (arranged bindings) = some first ↔
      ∀ other ∈ bindings, enabled.getLsbD other.line = true → Precedes bindings other first →
        table.HasSlot other.line := by
  obtain ⟨place, position⟩ := exists_position lists distinct member
  have there := (position_iff_getElem? lists distinct member place).mp position
  rw [unslotted, find?_drop_eq_some_iff]
  constructor
  · rintro ⟨-, index, past, found, silent⟩ other listed on_other precedes
    have first_at := (position_iff_getElem? lists distinct member index).mpr found
    obtain ⟨k, other_at⟩ := exists_position lists distinct listed
    have before := (precedes_iff_lt lists distinct listed member other_at first_at).mp precedes
    by_contra slotless
    have late : slotCount ≤ k := by
      by_contra early
      exact slotless ⟨⟨k, Nat.lt_of_not_le early⟩, other_at⟩
    have off := silent k late before other
      ((position_iff_getElem? lists distinct listed k).mp other_at)
    exact Bool.false_ne_true (off.symm.trans on_other)
  · intro slotted
    refine ⟨on, place, ?_, there, fun k late before other other_there => ?_⟩
    · by_contra early
      exact behind ⟨⟨place, Nat.lt_of_not_le early⟩, position⟩
    · rw [Bool.eq_false_iff]
      intro on_other
      have listed := mem_arranged.mp (List.mem_of_getElem? other_there)
      have other_at := (position_iff_getElem? lists distinct listed k).mpr other_there
      obtain ⟨slot, at_slot⟩ := slotted other listed on_other
        ((precedes_iff_lt lists distinct listed member other_at position).mpr before)
      have same := Option.some.inj (other_at.symm.trans at_slot)
      exact absurd slot.isLt (Nat.not_lt.mpr (same ▸ late))

/-- If the foremost line has no slot, no pending line has one. -/
theorem slotless_of_foremost {pending : LineSet} {first : Binding Routine}
    (foremost : Foremost pending bindings first) (behind : ¬ table.HasSlot first.line)
    {binding : Binding Routine} (member : binding ∈ bindings)
    (requests : pending.getLsbD binding.line = true) : ¬ table.HasSlot binding.line := by
  rintro ⟨k, slot⟩
  obtain ⟨listed, -, precedes⟩ := foremost
  have apart : binding ≠ first := by
    rintro rfl
    exact behind ⟨k, slot⟩
  obtain ⟨place, position⟩ := exists_position lists distinct listed
  have before := (precedes_iff_lt lists distinct listed member position slot).mp
    (precedes binding member requests apart)
  exact behind ⟨⟨place, before.trans k.isLt⟩, position⟩

/-- So if some pending line has a slot, the foremost one has. -/
theorem exists_foremost_slotted {pending : LineSet} {binding : Binding Routine}
    (member : binding ∈ bindings) (requests : pending.getLsbD binding.line = true)
    (slot : table.HasSlot binding.line) :
    ∃ first, Foremost pending bindings first ∧ table.HasSlot first.line := by
  obtain ⟨first, foremost⟩ := exists_foremost distinct member requests
  refine ⟨first, foremost, ?_⟩
  by_contra behind
  exact slotless_of_foremost lists distinct foremost behind member requests slot

end Ranks

section Presented

variable {controller : Simulated} {registry : Registry} {bindings : List (Binding Routine)}
  (follows : Follows (Entry.EnabledBy id) registry controller)

include follows

/-- As long as no slot is switched off, a line with a slot competes whenever it is pending. -/
theorem competes_iff_of_enabled (binding : Binding Routine) :
    Competes controller registry.vectored binding ↔
      controller.irqStatus.getLsbD binding.line = true ∧
        registry.vectored.HasSlot binding.line := by
  unfold Competes Table.HasSlot
  refine and_congr_right fun pending => exists_congr fun k => and_iff_left_of_imp fun position => ?_
  have occupied := Table.line_get_of_position position
  exact (follows.related k).2 (by rw [occupied]; rfl)

theorem Follows.served : Follows (Entry.ServedBy id) registry controller :=
  ⟨follows.exist, fun k => (follows.related k).1⟩

variable (lists : registry.vectored.Lists (arranged bindings)) (distinct : Distinct bindings)
  (inRange : InRange bindings)

include lists distinct inRange

/-- The routine of the foremost line is presented, if the line has a slot. -/
theorem presented_of_foremost {first : Binding Routine}
    (foremost : Foremost controller.irqStatus bindings first)
    (slot : registry.vectored.HasSlot first.line) :
    controller.currentVector = first.payload.address := by
  obtain ⟨listed, requests, precedes⟩ := foremost
  have competes := (competes_iff_of_enabled follows first).mpr ⟨requests, slot⟩
  obtain ⟨found, listed_found, competes_found, precedes_found, presented⟩ :=
    Simulated.currentVector_of_competing follows.served lists rfl distinct inRange
      ⟨first, listed, competes⟩
  rw [presented]
  by_contra different
  have apart : found ≠ first := by
    rintro rfl
    exact different rfl
  exact (precedes found listed_found competes_found.1 apart).asymm distinct.nodup
    (precedes_found first listed competes apart.symm)

/-- If no pending line has a slot, the default vector is presented. -/
theorem presented_of_slotless
    (slotless : ∀ binding ∈ bindings, controller.irqStatus.getLsbD binding.line = true →
      ¬ registry.vectored.HasSlot binding.line) :
    controller.currentVector = controller.defaultVector := by
  refine Simulated.currentVector_of_none follows.served lists distinct.arranged inRange.arranged
    fun binding member competes => ?_
  obtain ⟨requests, slot⟩ := (competes_iff_of_enabled follows binding).mp competes
  exact slotless binding (mem_arranged.mp member) requests slot

end Presented

/-- The bindings of such a run are to routines of the firmware. -/
theorem payload_of_perLine {requests : List (Request Simulated.BenchAction)}
    (perLine : ∀ request ∈ requests, request.PerLine) {binding : Binding Routine}
    (member : binding ∈ live (requests.filterMap Request.vectoredChange?)) :
    binding.payload ≠ .dummy ∧ binding.payload ≠ .fallback := by
  obtain ⟨change, asked, made⟩ := exists_of_mem_live member
  obtain ⟨request, listed, asks⟩ := List.mem_filterMap.mp asked
  have plain := perLine request listed
  cases request with
  | action => cases asks
  | operation op =>
    cases op with
    | bindVectored line routine priority =>
      obtain rfl := Option.some.inj asks
      rw [Change.binding?] at made
      split at made
      · cases made
        exact plain
      · cases made
    | releaseVectored line =>
      obtain rfl := Option.some.inj asks
      cases made
    | setMode => cases asks
    | _ => exact plain.elim

theorem Simulated.enabled_of_irqStatus {controller : Simulated} {line : Nat}
    (small : line < lineCount) (requests : controller.irqStatus.getLsbD line = true) :
    controller.enabled.getLsbD line = true := by
  rw [getLsbD_irqStatus _ small] at requests
  simp only [Bool.and_eq_true] at requests
  exact requests.1.2

/-- If no line is bound to the dummy routine, it is run past the slots only if nothing is found
there. -/
theorem unslotted_elim_eq_dummy_iff {bindings : List (Binding Routine)} {enabled : LineSet}
    (named : ∀ binding ∈ bindings, binding.payload ≠ .dummy) :
    (unslotted enabled (arranged bindings)).elim .dummy Binding.payload = .dummy ↔
      unslotted enabled (arranged bindings) = none := by
  cases found : unslotted enabled (arranged bindings) with
  | none => exact iff_of_true rfl rfl
  | some binding =>
    have listed := mem_arranged.mp (List.mem_of_mem_drop (List.mem_of_find?_eq_some found))
    exact iff_of_false (named binding listed) nofun

/-- A routine that is run in place of a slotted one tells its binding, if each binding has a routine
of its own. -/
theorem Run.Serves.unslotted_eq_some {γ : Type} {call : Nat → Handler → Run Simulated γ Unit}
    {active : Nat} {system : System Simulated γ} {bindings : List (Binding Routine)}
    {enabled : LineSet}
    (fallback : Serves call active system
      ((unslotted enabled (arranged bindings)).elim .dummy Binding.payload))
    (named : ∀ binding ∈ bindings, binding.payload ≠ .dummy)
    (own : ∀ first ∈ bindings, ∀ second ∈ bindings, first.payload = second.payload →
      first = second)
    {binding : Binding Routine} (member : binding ∈ bindings)
    (serves : Serves call active system binding.payload) :
    unslotted enabled (arranged bindings) = some binding := by
  have same := serves.unique fallback
  cases found : unslotted enabled (arranged bindings) with
  | none =>
    rw [found] at same
    exact absurd same (named binding member)
  | some other =>
    rw [found] at same
    have listed := mem_arranged.mp (List.mem_of_mem_drop (List.mem_of_find?_eq_some found))
    rw [own binding member other listed same]

/-- Which routine a dispatch runs when `bindings` are in force. -/
structure ServesRanked {γ : Type} (call : Nat → Handler → Run Simulated γ Unit) (active : Nat)
    (bindings : List (Binding Routine)) (system : System Simulated γ) : Prop where
  /-- If a line that is bound requests an IRQ, one of them is foremost. -/
  foremost : ∀ binding ∈ bindings, system.machine.bank.irqStatus.getLsbD binding.line = true →
    ∃ first, Foremost system.machine.bank.irqStatus bindings first
  /-- The routine of the foremost line runs if the line has a slot. -/
  slotted : ∀ first, Foremost system.machine.bank.irqStatus bindings first →
    system.vectored.HasSlot first.line → Run.Serves call active system first.payload
  /-- If no requesting line has a slot, the routine of the first enabled line past the slots runs,
  and the dummy routine if there is none. -/
  fallback : (∀ binding ∈ bindings, system.machine.bank.irqStatus.getLsbD binding.line = true →
      ¬ system.vectored.HasSlot binding.line) →
    Run.Serves call active system
      ((unslotted system.machine.bank.enabled (arranged bindings)).elim .dummy Binding.payload)
  /-- So past the slots the foremost line is served unless an enabled line precedes it there. -/
  behind : ∀ first, Foremost system.machine.bank.irqStatus bindings first →
    ¬ system.vectored.HasSlot first.line →
      (Run.Serves call active system first.payload ↔
        ∀ other ∈ bindings, system.machine.bank.enabled.getLsbD other.line = true →
          Precedes bindings other first → system.vectored.HasSlot other.line)
  /-- The routine of a line that does not request an IRQ runs only if no requesting line has a slot
  and it is the first enabled line past the slots. -/
  idle : ∀ binding ∈ bindings, system.machine.bank.irqStatus.getLsbD binding.line = false →
    Run.Serves call active system binding.payload →
      (∀ other ∈ bindings, system.machine.bank.irqStatus.getLsbD other.line = true →
        ¬ system.vectored.HasSlot other.line) ∧
      unslotted system.machine.bank.enabled (arranged bindings) = some binding
  /-- Whatever routine runs, it is marked and called, and then service ends. The dummy routine, and
  no other, has been counted as spurious. -/
  calls : ∀ routine, Run.Serves call active system routine → ∃ chosen,
    Run.Chooses system routine (if routine = .dummy then 1 else 0) chosen ∧
      Run.Calls call active (Run.onMachine Bus.acknowledge) [.routine routine] chosen
        (Run.handleIrq call active system)

/-- **Which line is served.** After setting up, let lines be bound, released, handled and driven in
any order, each bound to a routine of its own, and the mode be vectored in the end. -/
theorem vectored_ranking {γ : Type} [StatusRegister γ] (handlers : Handlers Simulated γ)
    (requests : List (Request Simulated.BenchAction)) (start : System Simulated γ) (active : Nat)
    (perLine : ∀ request ∈ requests, request.PerLine)
    (own : ∀ first ∈ live (requests.filterMap Request.vectoredChange?),
      ∀ second ∈ live (requests.filterMap Request.vectoredChange?),
        first.payload = second.payload → first = second)
    (mode : (handlers.carryOut (.operation .init :: requests) start).mode = .vectored) :
    ServesRanked handlers.call active (live (requests.filterMap Request.vectoredChange?))
      (handlers.carryOut (.operation .init :: requests) start) := by
  have lists := handlers.carryOut_init_vectored requests start
  have distinct := live_distinct (requests.filterMap Request.vectoredChange?)
  have inRange := live_inRange (requests.filterMap Request.vectoredChange?)
  have named : ∀ binding ∈ live (requests.filterMap Request.vectoredChange?),
      binding.payload ≠ .dummy ∧ binding.payload ≠ .fallback :=
    fun _ => payload_of_perLine perLine
  obtain ⟨follows, marker⟩ := handlers.carryOut_perLine_follows perLine start
  generalize handlers.carryOut (.operation .init :: requests) start = reached at *
  generalize live (requests.filterMap Request.vectoredChange?) = bindings at *
  have named_dummy := fun binding member => (named binding member).1
  have chooses_slotted : ∀ first, Foremost reached.machine.bank.irqStatus bindings first →
      reached.vectored.HasSlot first.line → ∃ chosen, Run.Chooses reached first.payload
        (if first.payload = .dummy then 1 else 0) chosen := fun first foremost slot =>
    Run.chooses_of_presented (named first foremost.1).2
      (presented_of_foremost follows lists distinct inRange foremost slot)
  have chooses_fallback : (∀ binding ∈ bindings,
      reached.machine.bank.irqStatus.getLsbD binding.line = true →
        ¬ reached.vectored.HasSlot binding.line) →
      ∃ chosen, Run.Chooses reached
        ((unslotted reached.machine.bank.enabled (arranged bindings)).elim .dummy Binding.payload)
        (if (unslotted reached.machine.bank.enabled (arranged bindings)).elim .dummy
          Binding.payload = .dummy then 1 else 0) chosen := by
    intro slotless
    rw [if_congr (unslotted_elim_eq_dummy_iff named_dummy) rfl rfl]
    exact Run.chooses_of_marker inRange.arranged lists
      ((presented_of_slotless follows lists distinct inRange slotless).trans marker)
  have slotted : ∀ first, Foremost reached.machine.bank.irqStatus bindings first →
      reached.vectored.HasSlot first.line →
        Run.Serves handlers.call active reached first.payload := fun first foremost slot =>
    Run.serves_of_chooses mode handlers.call active (chooses_slotted first foremost slot)
  have fallback : (∀ binding ∈ bindings,
      reached.machine.bank.irqStatus.getLsbD binding.line = true →
        ¬ reached.vectored.HasSlot binding.line) →
      Run.Serves handlers.call active reached
        ((unslotted reached.machine.bank.enabled (arranged bindings)).elim .dummy
          Binding.payload) := fun slotless =>
    Run.serves_of_chooses mode handlers.call active (chooses_fallback slotless)
  refine ⟨fun binding member => exists_foremost distinct member, slotted, fallback,
    fun first foremost behind => ?_, fun binding member quiet serves => ?_,
    fun routine serves => ?_⟩
  · have slotless : ∀ binding ∈ bindings, _ → _ := fun binding member =>
      slotless_of_foremost lists distinct foremost behind member
    have on := Simulated.enabled_of_irqStatus (inRange first foremost.1) foremost.2.1
    rw [← unslotted_eq_some_iff lists distinct foremost.1 on behind]
    refine ⟨(fallback slotless).unslotted_eq_some named_dummy own foremost.1, fun found => ?_⟩
    have serves := fallback slotless
    rwa [found] at serves
  · have slotless : ∀ other ∈ bindings,
        reached.machine.bank.irqStatus.getLsbD other.line = true →
          ¬ reached.vectored.HasSlot other.line := by
      intro other listed requests slot
      obtain ⟨first, foremost, slot_first⟩ :=
        exists_foremost_slotted lists distinct listed requests slot
      have same := own binding member first foremost.1
        (serves.unique (slotted first foremost slot_first))
      have pends := foremost.2.1
      rw [← same, quiet] at pends
      cases pends
    exact ⟨slotless, (fallback slotless).unslotted_eq_some named_dummy own member serves⟩
  · refine serves.calls ?_
    by_cases slotless : ∀ binding ∈ bindings,
        reached.machine.bank.irqStatus.getLsbD binding.line = true →
          ¬ reached.vectored.HasSlot binding.line
    · obtain rfl := serves.unique (fallback slotless)
      exact chooses_fallback slotless
    · simp only [not_forall, not_not] at slotless
      obtain ⟨binding, member, requests, slot⟩ := slotless
      obtain ⟨first, foremost, slot_first⟩ :=
        exists_foremost_slotted lists distinct member requests slot
      obtain rfl := serves.unique (slotted first foremost slot_first)
      exact chooses_slotted first foremost slot_first

/-- Line 4 goes in front of line 3. Both request an IRQ. -/
theorem vectored_ranking_two :
    ServesRanked ((Firmware.idle : Firmware Simulated.BenchAction).handlers 1).call 1
      (live [.bind 3 (.user ⟨0, by decide⟩) 5, .bind 4 (.user ⟨1, by decide⟩) 9])
      (((Firmware.idle : Firmware Simulated.BenchAction).handlers 1).carryOut
        ([.operation .init, .operation (.setMode .vectored),
          .operation (.bindVectored 3 (.user ⟨0, by decide⟩) 5),
          .operation (.bindVectored 4 (.user ⟨1, by decide⟩) 9), .action (.line (.enable 3)),
          .action (.bench (.raise 3)), .action (.line (.enable 4)), .action (.line (.raise 4))] :
            List (Request Simulated.BenchAction))
        (System.fresh (.atPowerUp Simulated.powerUp))) := by
  refine vectored_ranking (Firmware.handlers .idle 1)
    [.operation (.setMode .vectored), .operation (.bindVectored 3 (.user ⟨0, by decide⟩) 5),
      .operation (.bindVectored 4 (.user ⟨1, by decide⟩) 9), .action (.line (.enable 3)),
      .action (.bench (.raise 3)), .action (.line (.enable 4)), .action (.line (.raise 4))]
    (System.fresh (.atPowerUp .powerUp)) 1 ?_ ?_ ?_
  · simp [Request.PerLine]
  · decide +kernel
  · decide +kernel

/-- Lines 0 to 17 are bound, the most urgent first. The last two are enabled, and line 17 is
raised. -/
def crowd : List (Request Simulated.BenchAction) :=
  (List.finRange 18).map (fun line => .operation (.bindVectored line.val
      (.user ⟨line, line.isLt.trans (by decide)⟩) (BitVec.ofNat 8 (100 - line.val)))) ++
    [.operation (.setMode .vectored), .action (.line (.enable 16)), .action (.line (.enable 17)),
      .action (.bench (.raise 17))]

theorem perLine_crowd : ∀ request ∈ crowd, request.PerLine := by
  intro request member
  rcases List.mem_append.mp member with bound | other
  · obtain ⟨line, -, rfl⟩ := List.mem_map.mp bound
    exact ⟨nofun, nofun⟩
  · simp only [List.mem_cons, List.not_mem_nil, or_false] at other
    rcases other with rfl | rfl | rfl | rfl <;> trivial

/-- **The foremost line is not always served:** in its place, line 16 is, which requests no IRQ. -/
theorem vectored_ranking_not_foremost :
    ¬ ∀ (requests : List (Request Simulated.BenchAction)) (first : Binding Routine),
      let handlers : Handlers Simulated ControlField :=
        (Firmware.idle : Firmware Simulated.BenchAction).handlers 1
      let reached := handlers.carryOut (.operation .init :: requests)
        (System.fresh (.atPowerUp .powerUp))
      let bindings := live (requests.filterMap Request.vectoredChange?)
      (∀ request ∈ requests, request.PerLine) →
        (∀ first ∈ bindings, ∀ second ∈ bindings, first.payload = second.payload →
          first = second) →
        reached.mode = .vectored → Foremost reached.machine.bank.irqStatus bindings first →
          Run.Serves handlers.call 1 reached first.payload := by
  intro served
  let reached := ((Firmware.idle : Firmware Simulated.BenchAction).handlers 1).carryOut
    (.operation .init :: crowd) (System.fresh (.atPowerUp Simulated.powerUp))
  have alone : ∀ other ∈ live (crowd.filterMap Request.vectoredChange?),
      reached.machine.bank.irqStatus.getLsbD other.line = true →
        other = ⟨17, 83, .user ⟨17, by decide⟩⟩ := by
    decide +kernel
  obtain ⟨chosen, chooses, -⟩ := served crowd ⟨17, 83, .user ⟨17, by decide⟩⟩ perLine_crowd
    (by decide +kernel) (by decide +kernel) ⟨by decide +kernel, by decide +kernel,
      fun other member requests apart => absurd (alone other member requests) apart⟩
  have serves : EStateM.run' Run.chooseHandler reached =
      some (Handler.routine (.user ⟨17, by decide⟩)) := by
    unfold EStateM.run' EStateM.run
    rw [chooses]
  have serves_idle : EStateM.run' Run.chooseHandler reached =
      some (Handler.routine (.user ⟨16, by decide⟩)) := by
    decide +kernel
  rw [serves] at serves_idle
  cases serves_idle

end VectoredInterrupts
