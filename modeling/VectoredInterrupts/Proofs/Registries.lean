/-
**The registries.**

The operations of both tables go through the same changes (`Operation.polledChange?`,
`Operation.vectoredChange?`). An operation on the vectored table also writes slots, and stops at a
fault of the bank there (`SlotFault`); nothing else stops it.

* `Operation.perform_polled` and `Operation.perform_vectored`: one operation;
* `registrations_arranged`: a sequence of operations leaves the bindings in force arranged, and
  answers every registration with the place of its binding at that time.
-/

import VectoredInterrupts.Proofs.Handlers
import VectoredInterrupts.Proofs.Slots
import VectoredInterrupts.Proofs.Table.Registrations

namespace VectoredInterrupts

/-- The change that an operation asks of the polled table. -/
def Operation.polledChange? : Operation → Option (Change Handler)
  | .bindPolled line handler priority => some (.bind line handler priority)
  | .releasePolled line => some (.release line)
  | .clearPolled | .init => some .clear
  | _ => none

/-- The change that an operation asks of the vectored table. -/
def Operation.vectoredChange? : Operation → Option (Change Routine)
  | .bindVectored line routine priority => some (.bind line routine priority)
  | .releaseVectored line => some (.release line)
  | .releaseAllVectored | .clearVectored | .init => some .clear
  | _ => none

/-- A reply to a change that leaves `bindings` behind: the place of the binding made. -/
def Change.Answered {α : Type} (refusal : Refusal) (bindings : List (Binding α)) :
    Change α → Reply → Prop
  | .bind line payload priority, reply =>
    if line < lineCount then
      ∃ index, reply = .number index ∧
        bindings[index]? = some ⟨line, priority &&& priorityMask, payload⟩
    else reply = .refused refusal
  | .release _, reply => reply = .done
  | .clear, reply => reply = .done

/-- A table that has gone through changes, and the replies to them. -/
structure Registered {α : Type} [Inhabited α] (refusal : Refusal) (changes : List (Change α))
    (replies : List Reply) (table : Table α) : Prop where
  lists : table.Lists (arranged (live changes))
  position : ∀ line, table.position line =
    (arranged (live changes)).findIdx? fun binding => binding.line == line
  length : replies.length = changes.length
  /-- Each reply is about the bindings in force at that time. -/
  answered : ∀ (k : Nat) change reply, changes[k]? = some change → replies[k]? = some reply →
    change.Answered refusal (arranged (live (changes.take (k + 1)))) reply

/-- A step returns, unless it stops at one of certain faults. -/
def Run.ReturnsUnless {β γ α : Type} (step : Run β γ α) (stops : Fault → Prop)
    (system : System β γ) (returns : α → System β γ → Prop) : Prop :=
  (∃ value after, step system = .ok value after ∧ returns value after) ∨
    ∃ fault after, step system = .error fault after ∧ stops fault

theorem Run.ReturnsUnless.bind {β γ α ρ : Type} {stops : Fault → Prop} {first : Run β γ α}
    {next : α → Run β γ ρ} {system : System β γ} {middle : α → System β γ → Prop}
    {returns : ρ → System β γ → Prop} (head : first.ReturnsUnless stops system middle)
    (tail : ∀ value after, middle value after → (next value).ReturnsUnless stops after returns) :
    (first >>= next).ReturnsUnless stops system returns := by
  rcases head with ⟨value, after, result, done⟩ | ⟨fault, after, result, raised⟩
  · rw [ReturnsUnless, bind_ok result]
    exact tail value after done
  · exact .inr ⟨fault, after, bind_error result, raised⟩

/-! ### Answers -/

section Answers

variable {α : Type} [Inhabited α] {table : Table α} {bindings : List (Binding α)}

/-- The answer of an insertion is the place of the binding, among those that are left. -/
theorem Table.Lists.answer_bind (lists : table.Lists (arranged bindings))
    (distinct : Distinct bindings) (inRange : InRange bindings) {line : Nat}
    (small : line < lineCount) (payload : α) (priority : Byte) :
    ∃ index, (table.insert (.binding line (priority &&& priorityMask) payload)).answer = .ok index ∧
      ∀ after, (table.change (.bind line payload priority)).Lists after →
        after[index]? = some ⟨line, priority &&& priorityMask, payload⟩ := by
  obtain ⟨inserted, answer⟩ := lists.insert_binding (arranged_descending bindings)
    distinct.arranged inRange.arranged ⟨line, priority &&& priorityMask, payload⟩ small
  refine ⟨_, answer, fun after listed => ?_⟩
  rw [Table.change, if_pos small] at listed
  rw [listed.unique inserted]
  exact getElem?_placeIdx _ _

/-- The answer of a removal. -/
theorem Table.Lists.answer_release (lists : table.Lists (arranged bindings))
    (distinct : Distinct bindings) (inRange : InRange bindings) (line : Nat) :
    (table.remove line).answer = .ok (table.position line) :=
  (lists.remove_line (arranged_descending bindings) distinct.arranged inRange.arranged line).2

end Answers

/-! ### Operations on the polled table -/

section Polled

variable {β γ : Type} [RegisterBank β] {bindings : List (Binding Handler)}

omit [RegisterBank β] in
theorem Run.bindPolled_ok {system : System β γ} {line index : Nat} {handler : Handler}
    {priority : Byte} (small : line < lineCount)
    (answer : (system.polled.insert (.binding line (priority &&& priorityMask) handler)).answer =
      .ok index) :
    ∃ machine, Run.bindPolled line handler priority system = .ok (.ok index)
      { system with machine, polled := system.polled.change (.bind line handler priority) } := by
  refine ⟨system.machine.logged (.polledBound line index (priority &&& priorityMask)), ?_⟩
  unfold Run.bindPolled
  rw [if_pos small, Table.change, if_pos small, bind_get, bind_modify]
  rw [answer]
  exact bind_ok (Run.log_ok _ _)

omit [RegisterBank β] in
theorem Run.bindPolled_refused {system : System β γ} {line : Nat} {handler : Handler}
    {priority : Byte} (large : ¬ line < lineCount) :
    Run.bindPolled line handler priority system = .ok (.error .polledLineOutOfRange)
      { system with machine := system.machine.logged (.refused .polledLineOutOfRange) } := by
  unfold Run.bindPolled
  rw [if_neg large]
  exact Run.onMachine_ok (bind_ok (Bus.log_ok _ _))

omit [RegisterBank β] in
theorem Run.releasePolled_ok {system : System β γ} {line : Nat}
    (answer : (system.polled.remove line).answer = .ok (system.polled.position line)) :
    ∃ machine, Run.releasePolled line system = .ok ()
      { system with machine, polled := system.polled.change (.release line) } := by
  unfold Run.releasePolled
  rw [bind_get, Table.change]
  cases found : system.polled.position line with
  | none =>
    rw [found] at answer
    refine ⟨system.machine, ?_⟩
    rw [bind_modify, answer]
    rfl
  | some index =>
    rw [found] at answer
    refine ⟨system.machine.logged (.polledReleased line index), ?_⟩
    rw [bind_modify, answer]
    exact Run.log_ok _ _

/-- **One operation on the polled table.** -/
theorem Operation.perform_polled (call : Nat → Handler → Run β γ Unit) {op : Operation}
    {change : Change Handler} (asked : op.polledChange? = some change) (setUp : op ≠ .init)
    {system : System β γ} (lists : system.polled.Lists (arranged bindings))
    (distinct : Distinct bindings) (inRange : InRange bindings) :
    ∃ reply machine, op.perform call system =
        .ok reply { system with machine, polled := system.polled.change change } ∧
      ∀ after, (system.polled.change change).Lists after →
        change.Answered .polledLineOutOfRange after reply := by
  cases op with
  | bindPolled line handler priority =>
    obtain rfl := Option.some.inj asked
    by_cases small : line < lineCount
    · obtain ⟨index, answer, placed⟩ := lists.answer_bind distinct inRange small handler priority
      obtain ⟨machine, returns⟩ := Run.bindPolled_ok small answer
      refine ⟨.number index, machine, bind_ok returns, fun after listed => ?_⟩
      rw [Change.Answered, if_pos small]
      exact ⟨index, rfl, placed after listed⟩
    · refine ⟨.refused .polledLineOutOfRange,
        system.machine.logged (.refused .polledLineOutOfRange), ?_, fun after _ => ?_⟩
      · rw [Table.change, if_neg small]
        exact bind_ok (Run.bindPolled_refused small)
      · rw [Change.Answered, if_neg small]
  | releasePolled line =>
    obtain rfl := Option.some.inj asked
    obtain ⟨machine, returns⟩ := Run.releasePolled_ok (lists.answer_release distinct inRange line)
    exact ⟨.done, machine, bind_ok returns, fun _ _ => rfl⟩
  | clearPolled =>
    obtain rfl := Option.some.inj asked
    exact ⟨.done, system.machine, rfl, fun _ _ => rfl⟩
  | init => exact absurd rfl setUp
  | setMode | handleIrq | servicePolled | polledPosition | bindVectored | releaseVectored
  | releaseAllVectored | clearVectored | serviceUnslotted | vectoredPosition | enableSlot
  | disableSlot | disableAllSlots => cases asked

end Polled

/-! ### Operations on the vectored table -/

section Vectored

variable {β γ : Type} [RegisterBank β] {bindings : List (Binding Routine)}

/-- A write to a slot register returns, or the bank faults. -/
theorem Run.write_returns (slot : Fin 16) {offset : Nat}
    (named : offset = Offset.slotControl slot ∨ offset = Offset.slotAddress slot) (value : Word)
    (system : System β γ) :
    (Run.onMachine (Bus.write offset value)).ReturnsUnless (SlotFault β) system fun _ after =>
      ∃ machine, after = { system with machine } := by
  cases result : RegisterBank.write offset value system.machine.bank with
  | ok _ bank => exact .inl ⟨(), _, Run.onMachine_ok (Bus.write_ok result), _, rfl⟩
  | error fault bank =>
    refine .inr ⟨fault, _, Run.onMachine_error (Bus.write_error result), slot, value,
      system.machine.bank, bank, ?_⟩
    rcases named with rfl | rfl
    · exact .inl result
    · exact .inr result

/-- A write to the table changes the machine besides. -/
theorem Run.writeVectored_returns (write : Write Routine) (system : System β γ) :
    (Run.writeVectored write).ReturnsUnless (SlotFault β) system fun _ after =>
      ∃ machine, after = { system with machine, vectored := system.vectored.write write } := by
  unfold Run.writeVectored
  rw [ReturnsUnless, bind_modify]
  by_cases inside : write.index < slotCount
  · rw [Bus.loadSlot_eq inside, onMachine_bind]
    refine (write_returns ⟨write.index, inside⟩ (.inl rfl) _ _).bind fun _ after changed => ?_
    obtain ⟨machine, rfl⟩ := changed
    rcases write_returns ⟨write.index, inside⟩ (.inr rfl) write.entry.slotWords.2.address
      { system with machine, vectored := system.vectored.write write } with
      ⟨_, after, result, changed⟩ | faults
    · exact .inl ⟨(), after, result, changed⟩
    · exact .inr faults
  · rw [Bus.loadSlot_outside inside]
    exact .inl ⟨(), _, rfl, system.machine, rfl⟩

theorem Run.forM_writeVectored_returns (writes : List (Write Routine)) (system : System β γ) :
    (writes.forM Run.writeVectored).ReturnsUnless (SlotFault β) system fun _ after =>
      ∃ machine, after = { system with machine, vectored := system.vectored.apply writes } := by
  induction writes generalizing system with
  | nil => exact .inl ⟨⟨⟩, system, rfl, system.machine, rfl⟩
  | cons write rest ih =>
    refine (writeVectored_returns write system).bind fun _ after changed => ?_
    obtain ⟨machine, rfl⟩ := changed
    exact ih _

/-- An update that is answered leaves the table it describes. -/
theorem Run.updateVectored_returns {α : Type} {update : Update Routine α} {answer : α}
    (answered : update.answer = .ok answer) (system : System β γ) :
    (Run.updateVectored update).ReturnsUnless (SlotFault β) system fun value after =>
      value = answer ∧ ∃ machine, after =
        { system with machine, vectored := system.vectored.apply update.writes } := by
  refine (forM_writeVectored_returns update.writes system).bind fun _ after changed => ?_
  rw [answered]
  exact .inl ⟨answer, after, rfl, rfl, changed⟩

theorem Run.bindVectored_returns {system : System β γ} {line index : Nat} {routine : Routine}
    {priority : Byte} (small : line < lineCount)
    (answer : (system.vectored.insert (.binding line (priority &&& priorityMask) routine)).answer =
      .ok index) :
    (Run.bindVectored line routine priority).ReturnsUnless (SlotFault β) system
      fun result after => result = .ok index ∧ ∃ machine, after = { system with
        machine, vectored := system.vectored.change (.bind line routine priority) } := by
  unfold Run.bindVectored
  rw [if_pos small, Table.change, if_pos small, ReturnsUnless, bind_get]
  refine (updateVectored_returns answer system).bind fun position after changed => ?_
  obtain ⟨rfl, machine, rfl⟩ := changed
  exact .inl ⟨.ok position, _, bind_ok (log_ok _ _), rfl, _, rfl⟩

theorem Run.bindVectored_refused {system : System β γ} {line : Nat}
    {routine : Routine} {priority : Byte} (large : ¬ line < lineCount) :
    Run.bindVectored line routine priority system = .ok (.error .vectoredLineOutOfRange)
      { system with machine := system.machine.logged (.refused .vectoredLineOutOfRange) } := by
  unfold Run.bindVectored
  rw [if_neg large]
  exact Run.onMachine_ok (bind_ok (Bus.log_ok _ _))

theorem Run.releaseVectored_returns {system : System β γ} {line : Nat} {position : Option Nat}
    (answer : (system.vectored.remove line).answer = .ok position) :
    (Run.releaseVectored line).ReturnsUnless (SlotFault β) system fun _ after =>
      ∃ machine, after =
        { system with machine, vectored := system.vectored.change (.release line) } := by
  unfold Run.releaseVectored
  rw [ReturnsUnless, bind_get]
  refine (updateVectored_returns answer system).bind fun found after changed => ?_
  obtain ⟨-, machine, rfl⟩ := changed
  cases found with
  | none => exact .inl ⟨(), _, rfl, machine, rfl⟩
  | some index => exact .inl ⟨(), _, log_ok _ _, _, rfl⟩

theorem Run.clearVectored_returns (system : System β γ) :
    (Run.clearVectored : Run β γ Unit).ReturnsUnless (SlotFault β) system fun _ after =>
      ∃ machine, after = { system with machine, vectored := system.vectored.change .clear } := by
  have answered : (Table.clear : Update Routine Unit).answer = .ok () := rfl
  rcases updateVectored_returns answered system with ⟨_, after, returned, -, changed⟩ | stopped
  · exact .inl ⟨(), after, returned, changed⟩
  · exact .inr stopped

/-- **One operation on the vectored table.** -/
theorem Operation.perform_vectored (call : Nat → Handler → Run β γ Unit) {op : Operation}
    {change : Change Routine} (asked : op.vectoredChange? = some change) (setUp : op ≠ .init)
    {system : System β γ} (lists : system.vectored.Lists (arranged bindings))
    (distinct : Distinct bindings) (inRange : InRange bindings) :
    (op.perform call).ReturnsUnless (SlotFault β) system fun reply after =>
      (∃ machine, after = { system with machine, vectored := system.vectored.change change }) ∧
        ∀ later, (system.vectored.change change).Lists later →
          change.Answered .vectoredLineOutOfRange later reply := by
  cases op with
  | bindVectored line routine priority =>
    obtain rfl := Option.some.inj asked
    by_cases small : line < lineCount
    · obtain ⟨index, answer, placed⟩ := lists.answer_bind distinct inRange small routine priority
      refine (Run.bindVectored_returns small answer).bind fun result after changed => ?_
      obtain ⟨rfl, changed⟩ := changed
      refine .inl ⟨.number index, after, rfl, changed, fun later listed => ?_⟩
      rw [Change.Answered, if_pos small]
      exact ⟨index, rfl, placed later listed⟩
    · rw [Table.change, if_neg small]
      refine .inl ⟨.refused .vectoredLineOutOfRange, _, bind_ok (Run.bindVectored_refused small),
        ⟨_, rfl⟩, fun _ _ => ?_⟩
      rw [Change.Answered, if_neg small]
  | releaseVectored line =>
    obtain rfl := Option.some.inj asked
    have answer := lists.answer_release distinct inRange line
    exact (Run.releaseVectored_returns answer).bind fun _ after changed =>
      .inl ⟨.done, after, rfl, changed, fun _ _ => rfl⟩
  | releaseAllVectored =>
    obtain rfl := Option.some.inj asked
    have releases : (Run.releaseAllVectored : Run β γ Unit).ReturnsUnless (SlotFault β) system
        fun _ after => ∃ machine, after =
          { system with machine, vectored := system.vectored.change .clear } := by
      refine (Run.clearVectored_returns system).bind fun _ after changed => ?_
      obtain ⟨machine, rfl⟩ := changed
      exact .inl ⟨(), _, Run.log_ok _ _, _, rfl⟩
    exact releases.bind fun _ after changed =>
      .inl ⟨.done, after, rfl, changed, fun _ _ => rfl⟩
  | clearVectored =>
    obtain rfl := Option.some.inj asked
    exact (Run.clearVectored_returns system).bind fun _ after changed =>
      .inl ⟨.done, after, rfl, changed, fun _ _ => rfl⟩
  | init => exact absurd rfl setUp
  | setMode | handleIrq | bindPolled | releasePolled | clearPolled | servicePolled | polledPosition
  | serviceUnslotted | vectoredPosition | enableSlot | disableSlot | disableAllSlots => cases asked

end Vectored

/-! ### Sequences of operations -/

section Sequences

variable {α : Type} [Inhabited α] {refusal : Refusal} {changes : List (Change α)}
  {replies : List Reply} {table : Table α}

theorem registered_nil : Registered refusal [] [] (Table.vacant : Table α) := by
  have lists : (Table.vacant : Table α).Lists (arranged (live [])) := Table.lists_changes []
  exact ⟨lists, lists.position, rfl, fun _ _ _ asked => by simp at asked⟩

/-- One more change, answered. -/
theorem Registered.concat (registered : Registered refusal changes replies table)
    {change : Change α} {reply : Reply}
    (answered : ∀ later, (table.change change).Lists later → change.Answered refusal later reply) :
    Registered refusal (changes ++ [change]) (replies ++ [reply]) (table.change change) := by
  have lists : (table.change change).Lists (arranged (live (changes ++ [change]))) := by
    rw [live_concat]
    exact Table.lists_change registered.lists (live_distinct changes) (live_inRange changes) change
  refine ⟨lists, lists.position, ?_, fun k other answer asked replied => ?_⟩
  · rw [List.length_append, List.length_append, registered.length]
    rfl
  · have same_length := registered.length
    by_cases old : k < changes.length
    · rw [List.getElem?_append_left old] at asked
      rw [List.getElem?_append_left (by omega)] at replied
      rw [List.take_append_of_le_length (by omega)]
      exact registered.answered k other answer asked replied
    · have inside := (List.getElem?_eq_some_iff.mp asked).1
      rw [List.length_append, List.length_singleton] at inside
      obtain rfl : k = changes.length := by omega
      rw [List.getElem?_append_right (Nat.le_refl _), Nat.sub_self] at asked
      rw [List.getElem?_append_right (by omega), same_length, Nat.sub_self] at replied
      obtain rfl := Option.some.inj asked
      obtain rfl := Option.some.inj replied
      rw [List.take_of_length_le (by rw [List.length_append, List.length_singleton])]
      exact answered _ lists

/-- Operations that each make a change, unless they stop. -/
theorem registered_of_steps {β γ : Type} {stops : Fault → Prop}
    {perform : Operation → Run β γ Reply} (asks : Operation → Option (Change α))
    (held : System β γ → Table α) {ops : List Operation}
    (step : ∀ op ∈ ops, ∀ system bindings, (held system).Lists (arranged bindings) →
      Distinct bindings → InRange bindings → ∃ change, asks op = some change ∧
        (perform op).ReturnsUnless stops system fun reply after =>
          held after = (held system).change change ∧
            ∀ later, ((held system).change change).Lists later →
              change.Answered refusal later reply)
    {system : System β γ} (vacant : held system = Table.vacant) :
    (ops.mapM perform).ReturnsUnless stops system fun replies after =>
      Registered refusal (ops.filterMap asks) replies (held after) := by
  induction ops using List.reverseRecOn with
  | nil =>
    refine .inl ⟨[], system, rfl, ?_⟩
    show Registered refusal [] [] (held system)
    rw [vacant]
    exact registered_nil
  | append_singleton ops op ih =>
    rw [List.mapM_append]
    refine (ih fun other member => step other (List.mem_append_left _ member)).bind
      fun replies middle registered => ?_
    obtain ⟨change, asked, performs⟩ := step op (List.mem_append_right _ List.mem_cons_self) middle
      _ registered.lists (live_distinct _) (live_inRange _)
    rw [List.mapM_cons, List.mapM_nil, bind_assoc]
    refine performs.bind fun reply after changed => ?_
    refine .inl ⟨replies ++ [reply], after, rfl, ?_⟩
    show Registered refusal ((ops ++ [op]).filterMap asks) (replies ++ [reply]) (held after)
    rw [changed.1, List.filterMap_append, List.filterMap_cons_some asked, List.filterMap_nil]
    exact registered.concat changed.2

end Sequences

/-- **Registration.** On a fresh system, whatever the order of the operations on the polled table,
none of them faults. They leave the bindings in force from place 0 on, sorted by descending urgency,
equally urgent ones in the order in which they were made, and vacant entries behind them; each
binding was answered with its own place. The same holds of the operations on the vectored table over
any bank, unless the bank faults when a slot is written. -/
theorem registrations_arranged {β γ : Type} [RegisterBank β] (call : Nat → Handler → Run β γ Unit)
    (machine : Machine β γ) (ops : List Operation) :
    ((∀ op ∈ ops, op.polledChange?.isSome ∧ op ≠ .init) →
      ∃ replies after,
        ops.mapM (Operation.perform call) (System.fresh machine) = .ok replies after ∧
          Registered .polledLineOutOfRange (ops.filterMap Operation.polledChange?) replies
            after.polled) ∧
    ((∀ op ∈ ops, op.vectoredChange?.isSome ∧ op ≠ .init) →
      (∃ replies after,
        ops.mapM (Operation.perform call) (System.fresh machine) = .ok replies after ∧
          Registered .vectoredLineOutOfRange (ops.filterMap Operation.vectoredChange?) replies
            after.vectored) ∨
      ∃ fault after, ops.mapM (Operation.perform call) (System.fresh machine) = .error fault after ∧
        SlotFault β fault) := by
  refine ⟨fun polledOps => ?_, fun vectoredOps => ?_⟩
  · have ran : (ops.mapM (Operation.perform call)).ReturnsUnless (fun _ => False)
        (System.fresh machine) fun replies after => Registered .polledLineOutOfRange
          (ops.filterMap Operation.polledChange?) replies after.polled := by
      refine registered_of_steps Operation.polledChange? System.polled
        (fun op member system bindings lists distinct inRange => ?_) rfl
      obtain ⟨asked, setUp⟩ := polledOps op member
      obtain ⟨change, asked⟩ := Option.isSome_iff_exists.mp asked
      obtain ⟨reply, machine, returned, answered⟩ :=
        Operation.perform_polled call asked setUp lists distinct inRange
      exact ⟨change, asked, .inl ⟨reply, _, returned, rfl, answered⟩⟩
    rcases ran with returned | ⟨_, _, _, stopped⟩
    · exact returned
    · exact stopped.elim
  · refine registered_of_steps Operation.vectoredChange? System.vectored
      (fun op member system bindings lists distinct inRange => ?_) rfl
    obtain ⟨asked, setUp⟩ := vectoredOps op member
    obtain ⟨change, asked⟩ := Option.isSome_iff_exists.mp asked
    refine ⟨change, asked, ?_⟩
    rcases Operation.perform_vectored call asked setUp lists distinct inRange with
      ⟨reply, after, returned, ⟨machine, rfl⟩, answered⟩ | stopped
    · exact .inl ⟨reply, _, returned, rfl, answered⟩
    · exact .inr stopped

/-- Line 3 is bound anew at the priority that line 7 has, and goes behind it. -/
theorem registrations_arranged_rebinding :
    (∃ replies after, [.bindPolled 3 (.context 0) 5, .bindPolled 7 (.context 1) 0x85,
          .bindPolled 3 (.context 2) 5, .releasePolled 40].mapM
          (Operation.perform fun _ _ => pure ()) (System.fresh (.atPowerUp Simulated.powerUp)) =
        .ok replies after ∧
      Registered .polledLineOutOfRange [.bind 3 (.context 0) 5, .bind 7 (.context 1) 0x85,
        .bind 3 (.context 2) 5, .release 40] replies after.polled) ∧
    ∃ replies after, [.bindVectored 3 .dummy 5, .bindVectored 40 .dummy 5, .releaseAllVectored].mapM
          (Operation.perform fun _ _ => pure ()) (System.fresh (.atPowerUp Simulated.powerUp)) =
        .ok replies after ∧
      Registered .vectoredLineOutOfRange [.bind 3 .dummy 5, .bind 40 .dummy 5, .clear] replies
        after.vectored :=
  ⟨(registrations_arranged _ _ [.bindPolled 3 (.context 0) 5, .bindPolled 7 (.context 1) 0x85,
      .bindPolled 3 (.context 2) 5, .releasePolled 40]).1 (by decide),
    ((registrations_arranged _ _ [.bindVectored 3 .dummy 5, .bindVectored 40 .dummy 5,
      .releaseAllVectored]).2 (by decide)).resolve_right
      fun ⟨fault, _, _, raised⟩ => SlotBank.not_slotFault fault raised⟩

end VectoredInterrupts
