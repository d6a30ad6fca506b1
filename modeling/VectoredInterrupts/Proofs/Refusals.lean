/-
**Requests that are turned down.**

Binding a line, switching its slot on and most operations on one line may be refused
(`Request.mayRefuse`). Each of them checks on its own whether it has to be, some of them only after
they have read a register or searched a table. When they are refused depends on nothing but the
request, the vectored table and the lines asserted (`Request.refusalKind?`).

* `Table.Lists.slotsOf_eq_singleton`: the slot of a line is the one at its position;
* `DirectOp.refusalKind?_eq`: an operation without state is hardly ever turned down;
* `LineOp.perform_answers`: an operation on one line, over the simulated controller;
* `refusals_without_effect`: after any run a refusal is given exactly when there is a reason for it,
  and leaves everything as it was but for the log. So does giving up what is not there.
-/

import VectoredInterrupts.Proofs.Runs

namespace VectoredInterrupts

/-! ### What is promised -/

/-- The class of the refusal that a reply is, if it is one. -/
def Reply.refusalKind? : Reply → Option RefusalKind
  | .refused reason => some reason.kind
  | _ => none

/-- An event that changes nothing by itself: a read or a notice. -/
def Event.Inert : Event → Prop
  | .read .. | .logged _ => True
  | .wrote .. | .statusRead _ | .statusWrote _ | .dispatched .. | .entered _ | .returned _ => False

/-- Nothing has changed but for some reads and notices at the end of the trace. -/
def System.Unaffected {β γ : Type} (before after : System β γ) : Prop :=
  ∃ events : List Event,
    after = { before with machine.trace := before.machine.trace ++ events.toArray } ∧
      ∀ event ∈ events, event.Inert

/-- Whether there is a way for a request to be turned down. -/
def Request.mayRefuse {ι : Type} : Request ι → Bool
  | .operation (.bindPolled ..) | .operation (.bindVectored ..) | .operation (.enableSlot _) => true
  | .action (.line op) =>
    match op with
    | .enable _ | .disable _ | .setRoute .. | .raise _ | .clear _ => true
    | .isEnabled _ | .route _ => false
  | _ => false

/-- Why an operation on one line is turned down, if it is. -/
def LineOp.refusalKind? (controller : Simulated) : LineOp → Option RefusalKind
  | .enable line | .disable line | .setRoute line _ | .raise line =>
    if line < lineCount then none else some .invalidInput
  | .clear line =>
    if line < lineCount then
      if controller.inputs.getLsbD line ∨ controller.soft.getLsbD line then none
      else some .badState
    else some .invalidInput
  | .isEnabled _ | .route _ => none

/-- Why a request is turned down, if it is. -/
def Request.refusalKind? {ι γ : Type} (system : System Simulated γ) :
    Request ι → Option RefusalKind
  | .operation (.bindPolled line ..) | .operation (.bindVectored line ..) =>
    if line < lineCount then none else some .invalidInput
  | .operation (.enableSlot line) =>
    match system.vectored.position line with
    | some place => if place < slotCount then none else some .notFound
    | none => some .notFound
  | .action (.line op) => op.refusalKind? system.machine.bank
  | _ => none

/-- Of the operations without state only one can be turned down: there may be no request on the
software line to withdraw. -/
theorem DirectOp.refusalKind?_eq {ι γ : Type} (op : DirectOp) (system : System Simulated γ) :
    (Request.action op.action : Request ι).refusalKind? system =
      if op = .clearSoftware ∧
          ¬ (system.machine.bank.inputs.getLsbD Board.Device.software.line ∨
            system.machine.bank.soft.getLsbD Board.Device.software.line)
      then some .badState else none := by
  have served := Board.Device.software.line_lt
  cases op with
  | raiseSoftware =>
    show (if Board.Device.software.line < lineCount then none else some .invalidInput) = none
    exact if_pos served
  | clearSoftware =>
    simp only [action, Request.refusalKind?, LineOp.refusalKind?, if_pos served, true_and, ite_not]
  | disableAllLines | setDefaultRoutine | enableIrq | disableIrq => rfl

/-- How a system turns requests down. -/
structure Handlers.TurnsDown {γ : Type} [StatusRegister γ] (handlers : Handlers Simulated γ)
    (system : System Simulated γ) : Prop where
  /-- A request that may be turned down is answered. It is turned down if there is a reason, with
  the class of that reason, and then it has no effect. -/
  refuses : ∀ request : Request Simulated.BenchAction, request.mayRefuse = true →
    ∃ reply after, handlers.perform request system = .ok reply after ∧
      reply.refusalKind? = request.refusalKind? system ∧
      (reply.refusalKind?.isSome → system.Unaffected after)
  /-- A line that has a slot is answered with the slot. -/
  finds : ∀ line place, system.vectored.position line = some place → place < slotCount →
    ∃ after, handlers.perform (.operation (.enableSlot line) : Request Simulated.BenchAction)
      system = .ok (.number place) after
  /-- A line that is not bound is given up without effect. -/
  polled : ∀ line, system.polled.position line = none → ∃ after, system.Unaffected after ∧
    handlers.perform (.operation (.releasePolled line) : Request Simulated.BenchAction) system =
      .ok .done after
  vectored : ∀ line, system.vectored.position line = none → ∃ after, system.Unaffected after ∧
    handlers.perform (.operation (.releaseVectored line) : Request Simulated.BenchAction) system =
      .ok .done after
  /-- The slot of a line that has none is switched off without effect. -/
  slotless : ∀ line, (∀ place < slotCount, system.vectored.position line ≠ some place) →
    ∃ after, system.Unaffected after ∧
      handlers.perform (.operation (.disableSlot line) : Request Simulated.BenchAction) system =
        .ok .done after

/-! ### Reads and notices -/

namespace System.Unaffected

variable {β γ : Type} {before middle : System β γ}

theorem refl (system : System β γ) : system.Unaffected system :=
  ⟨[], by rw [Array.append_empty], nofun⟩

theorem push (unaffected : before.Unaffected middle) (event : Event) (inert : event.Inert) :
    before.Unaffected { middle with machine.trace := middle.machine.trace.push event } := by
  obtain ⟨events, rfl, each⟩ := unaffected
  have trace : (before.machine.trace ++ events.toArray).push event =
      before.machine.trace ++ (events ++ [event]).toArray :=
    Array.ext' (by simp)
  refine ⟨events ++ [event], by simp only [trace], fun other member => ?_⟩
  · rcases List.mem_append.mp member with early | last
    · exact each other early
    · exact List.mem_singleton.mp last ▸ inert

theorem logged (unaffected : before.Unaffected middle) (notice : Notice) :
    before.Unaffected { middle with machine := middle.machine.logged notice } := by
  unfold Machine.logged
  split
  · exact unaffected.push _ trivial
  · exact unaffected

end System.Unaffected

theorem Bus.refuse_ok {β γ α : Type} (reason : Refusal) (machine : Machine β γ) :
    (Bus.refuse reason : Bus β γ (Except Refusal α)) machine =
      .ok (.error reason) (machine.logged (.refused reason)) :=
  bind_ok (Bus.log_ok _ _)

/-! ### Operations on one line -/

section Lines

variable {γ α : Type}

/-- The word with one bit names one line. -/
theorem Word.lines_bit {line : Nat} (small : line < lineCount) :
    Word.lines (1#64 <<< line) = BitVec.twoPow 32 line := by
  have each : ∀ line : Fin 32, Word.lines (1#64 <<< line.val) = BitVec.twoPow 32 line.val := by
    decide
  exact each ⟨line, small⟩

/-- Taking out a line that is not in a set leaves the set. -/
theorem LineSet.and_not_bit {lines : LineSet} {line : Nat}
    (absent : ¬ lines.getLsbD line = true) : lines &&& ~~~BitVec.twoPow 32 line = lines := by
  refine BitVec.eq_of_getLsbD_eq fun other inside => ?_
  rw [BitVec.getLsbD_and, BitVec.getLsbD_not, BitVec.getLsbD_twoPow]
  by_cases same : line = other
  · subst same
    rw [Bool.eq_false_iff.mpr absent, Bool.false_and]
  · simp [same, inside]

/-- A request that first checks the line, and is carried out if the line exists. -/
theorem answers_of_ite {line : Nat} {body : Bus Simulated γ (Except Refusal α)} (accept : α → Reply)
    (accepts : ∀ value, (accept value).refusalKind? = none) (system : System Simulated γ)
    (returns : line < lineCount → ∃ value machine, body system.machine = .ok (.ok value) machine) :
    ∃ reply machine,
      ((if line < lineCount then body else Bus.refuse .lineOutOfRange) >>= fun result =>
        pure (Reply.ofResult accept result)) system.machine = .ok reply machine ∧
      reply.refusalKind? = (if line < lineCount then none else some .invalidInput) ∧
      (reply.refusalKind?.isSome → system.Unaffected { system with machine }) := by
  by_cases small : line < lineCount
  · obtain ⟨value, machine, returned⟩ := returns small
    rw [if_pos small, if_pos small]
    refine ⟨accept value, machine, bind_ok returned, accepts value, fun refused => ?_⟩
    rw [accepts] at refused
    cases refused
  · rw [if_neg small, if_neg small]
    exact ⟨_, _, bind_ok (Bus.refuse_ok _ _), rfl,
      fun _ => (System.Unaffected.refl system).logged _⟩

/-- Withdrawing a software request reads the lines asserted. Whichever way it is answered, there is
no software request on the line afterwards. -/
theorem clearLine_of_small {line : Nat} (small : line < lineCount) (system : System Simulated γ) :
    ∃ reply machine, (LineOp.clear line).perform system.machine = .ok reply machine ∧
      reply = (if system.machine.bank.inputs.getLsbD line ∨ system.machine.bank.soft.getLsbD line
        then .number line else .refused .lineIdle) ∧
      (reply.refusalKind?.isSome → system.Unaffected { system with machine }) ∧
      machine.bank = { system.machine.bank with
        soft := system.machine.bank.soft &&& ~~~BitVec.twoPow 32 line } := by
  have status : (Bus.rawStatus : Bus Simulated γ LineSet) system.machine =
      .ok system.machine.bank.asserted.word.lines { system.machine with
        trace := system.machine.trace.push
          (.read Offset.rawStatus system.machine.bank.asserted.word) } :=
    bind_ok (Bus.read_ok rfl)
  have test : system.machine.bank.asserted.test line =
      .ok (system.machine.bank.asserted.getLsbD line) :=
    LineSet.test_ok small
  have asserted : system.machine.bank.asserted.getLsbD line = true ↔
      (system.machine.bank.inputs.getLsbD line = true ∨
        system.machine.bank.soft.getLsbD line = true) := by
    rw [Simulated.asserted, BitVec.getLsbD_or, Bool.or_eq_true]
  rw [LineSet.lines_word] at status
  rw [LineOp.perform, Bus.clearLine, if_pos small]
  simp only [bind_assoc]
  rw [bind_ok status, test]
  by_cases active : system.machine.bank.inputs.getLsbD line = true ∨
      system.machine.bank.soft.getLsbD line = true
  · rw [if_pos active, asserted.mpr active, lineBit_ok (Nat.lt_trans small (by decide)),
      ← Word.lines_bit small]
    exact ⟨.number line, _, rfl, rfl, fun refused => (by cases refused), rfl⟩
  · rw [if_neg active, Bool.eq_false_iff.mpr (mt asserted.mp active),
      LineSet.and_not_bit fun requested => active (.inr requested)]
    refine ⟨_, _, bind_ok (Bus.refuse_ok _ _), rfl, fun _ => ?_, Machine.logged_bank _ _⟩
    exact ((System.Unaffected.refl system).push (.read _ _) trivial).logged _

/-- **An operation on one line** answers, and is turned down as described. -/
theorem LineOp.perform_answers {op : LineOp}
    (may : (Request.action (.line op) : Request Simulated.BenchAction).mayRefuse = true)
    (system : System Simulated γ) :
    ∃ reply machine, op.perform system.machine = .ok reply machine ∧
      reply.refusalKind? = op.refusalKind? system.machine.bank ∧
      (reply.refusalKind?.isSome → system.Unaffected { system with machine }) := by
  have bit : ∀ {line}, line < lineCount → lineBit line = .ok (1#64 <<< line) :=
    fun {line} small => lineBit_ok (Nat.lt_trans small (by decide))
  cases op with
  | enable line | disable line =>
    refine answers_of_ite (fun _ => .done) (fun _ => rfl) system fun small => ?_
    rw [bit small]
    exact ⟨(), _, rfl⟩
  | raise line =>
    refine answers_of_ite .number (fun _ => rfl) system fun small => ?_
    rw [bit small]
    exact ⟨line, _, rfl⟩
  | setRoute line target =>
    refine answers_of_ite (fun _ => .done) (fun _ => rfl) system fun small => ?_
    rw [bit small]
    cases target with
    | irq | fiq => exact ⟨(), _, rfl⟩
  | clear line =>
    rw [LineOp.refusalKind?]
    by_cases small : line < lineCount
    · rw [if_pos small]
      obtain ⟨reply, machine, performed, answer, unaffected, -⟩ := clearLine_of_small small system
      refine ⟨reply, machine, performed, ?_, unaffected⟩
      rw [answer, apply_ite Reply.refusalKind?]
      rfl
    · rw [if_neg small, LineOp.perform, Bus.clearLine, if_neg small]
      exact ⟨_, _, bind_ok (Bus.refuse_ok _ _), rfl,
        fun _ => (System.Unaffected.refl system).logged _⟩
  | isEnabled | route => cases may

end Lines

/-! ### Slots of a line -/

/-- A list without repetitions that holds one value only. -/
theorem eq_singleton_of_nodup {α : Type} {list : List α} {value : α} (nodup : list.Nodup)
    (member : value ∈ list) (only : ∀ other ∈ list, other = value) : list = [value] := by
  cases list with
  | nil => cases member
  | cons head rest =>
    obtain rfl := only head List.mem_cons_self
    obtain ⟨fresh, -⟩ := List.nodup_cons.mp nodup
    cases rest with
    | nil => rfl
    | cons next rest =>
      exact absurd (only next (by simp) ▸ List.mem_cons_self) fresh

namespace Table.Lists

variable {table : Table Routine} {bindings : List (Binding Routine)}

theorem mem_slotsOf_iff (lists : table.Lists bindings) (distinct : Distinct bindings)
    {line slot : Nat} :
    slot ∈ Run.slotsOf table line ↔ slot < slotCount ∧ table.position line = some slot := by
  rw [mem_slotsOf]
  exact and_congr_right fun _ =>
    ⟨lists.position_of_line_get distinct, Table.line_get_of_position⟩

/-- **The slot of a line** is the one at its position. -/
theorem slotsOf_eq_singleton (lists : table.Lists bindings) (distinct : Distinct bindings)
    {line place : Nat} (found : table.position line = some place) (inside : place < slotCount) :
    Run.slotsOf table line = [place] := by
  refine eq_singleton_of_nodup (List.nodup_range.filter _)
    ((lists.mem_slotsOf_iff distinct).mpr ⟨inside, found⟩) fun slot member => ?_
  exact Option.some.inj (((lists.mem_slotsOf_iff distinct).mp member).2.symm.trans found)

/-- A line that is bound further back has no slot, and neither has one that is not bound. -/
theorem slotsOf_eq_nil (lists : table.Lists bindings) (distinct : Distinct bindings) {line : Nat}
    (slotless : ∀ place < slotCount, table.position line ≠ some place) :
    Run.slotsOf table line = [] := by
  refine List.eq_nil_iff_forall_not_mem.mpr fun slot member => ?_
  obtain ⟨inside, found⟩ := (lists.mem_slotsOf_iff distinct).mp member
  exact slotless slot inside found

end Table.Lists

section Operations

variable {γ : Type} {system : System Simulated γ} {bindings : List (Binding Routine)}

theorem Run.enableSlotOf_ok {line place : Nat}
    (slots : Run.slotsOf system.vectored line = [place]) (inside : place < slotCount) :
    ∃ after, Run.enableSlotOf line system = .ok (.ok place) after := by
  obtain ⟨machine, switched, -⟩ :=
    Bus.modifyControl_ok ⟨place, inside⟩ (· ||| controlEnable) system.machine
  have enabled : Run.onMachine (Bus.enableSlot place) system = .ok () { system with machine } :=
    Run.onMachine_ok switched
  unfold Run.enableSlotOf
  rw [bind_get, slots]
  exact ⟨_, bind_ok (bind_ok enabled)⟩

theorem Run.enableSlotOf_refused {line : Nat} (slots : Run.slotsOf system.vectored line = []) :
    Run.enableSlotOf line system =
      .ok (.error .noSlot)
        { system with machine := system.machine.logged (.refused .noSlot) } := by
  unfold Run.enableSlotOf
  rw [bind_get, slots]
  exact Run.onMachine_ok (Bus.refuse_ok _ _)

/-- Switching on the slot of a line. -/
theorem enableSlot_answers (call : Nat → Handler → Run Simulated γ Unit)
    (lists : system.vectored.Lists bindings) (distinct : Distinct bindings) (line : Nat) :
    ∃ reply after, (Operation.enableSlot line).perform call system = .ok reply after ∧
      reply.refusalKind? = (Request.operation (.enableSlot line) :
        Request Simulated.BenchAction).refusalKind? system ∧
      (reply.refusalKind?.isSome → system.Unaffected after) := by
  have refused : (∀ place < slotCount, system.vectored.position line ≠ some place) →
      ∃ after, (Operation.enableSlot line).perform call system =
        .ok (.refused .noSlot) after ∧ system.Unaffected after := fun slotless =>
    ⟨_, bind_ok (Run.enableSlotOf_refused (lists.slotsOf_eq_nil distinct slotless)),
      (System.Unaffected.refl system).logged _⟩
  rw [Request.refusalKind?]
  cases found : system.vectored.position line with
  | none =>
    obtain ⟨after, performed, unaffected⟩ := refused fun place _ same => by
      rw [found] at same
      cases same
    exact ⟨_, after, performed, rfl, fun _ => unaffected⟩
  | some place =>
    by_cases inside : place < slotCount
    · obtain ⟨after, enabled⟩ :=
        Run.enableSlotOf_ok (lists.slotsOf_eq_singleton distinct found inside) inside
      refine ⟨.number place, after, bind_ok enabled, (if_pos inside).symm, fun refused => ?_⟩
      cases refused
    · obtain ⟨after, performed, unaffected⟩ := refused fun other small same => by
        rw [found] at same
        exact inside (Option.some.inj same ▸ small)
      exact ⟨_, after, performed, (if_neg inside).symm, fun _ => unaffected⟩

/-- Binding a handler. -/
theorem bindPolled_answers (call : Nat → Handler → Run Simulated γ Unit)
    {bound : List (Binding Handler)} (lists : system.polled.Lists (arranged bound))
    (distinct : Distinct bound) (inRange : InRange bound) (line : Nat) (handler : Handler)
    (priority : Byte) :
    ∃ reply after, (Operation.bindPolled line handler priority).perform call system =
        .ok reply after ∧
      reply.refusalKind? = (if line < lineCount then none else some .invalidInput) ∧
      (reply.refusalKind?.isSome → system.Unaffected after) := by
  by_cases small : line < lineCount
  · obtain ⟨index, answer, -⟩ := lists.answer_bind distinct inRange small handler priority
    obtain ⟨machine, returned⟩ := Run.bindPolled_ok small answer
    refine ⟨.number index, _, bind_ok returned, (if_pos small).symm, fun refused => ?_⟩
    cases refused
  · exact ⟨_, _, bind_ok (Run.bindPolled_refused small), (if_neg small).symm,
      fun _ => (System.Unaffected.refl system).logged _⟩

/-- Binding a routine. -/
theorem bindVectored_answers (call : Nat → Handler → Run Simulated γ Unit)
    (lists : system.vectored.Lists (arranged bindings)) (distinct : Distinct bindings)
    (inRange : InRange bindings) (line : Nat) (routine : Routine) (priority : Byte) :
    ∃ reply after, (Operation.bindVectored line routine priority).perform call system =
        .ok reply after ∧
      reply.refusalKind? = (if line < lineCount then none else some .invalidInput) ∧
      (reply.refusalKind?.isSome → system.Unaffected after) := by
  by_cases small : line < lineCount
  · obtain ⟨index, answer, -⟩ := lists.answer_bind distinct inRange small routine priority
    rcases Run.bindVectored_returns small answer with
      ⟨_, after, returned, rfl, -⟩ | ⟨fault, _, -, raised⟩
    · refine ⟨.number index, _, bind_ok returned, (if_pos small).symm, fun refused => ?_⟩
      cases refused
    · exact absurd raised (SlotBank.not_slotFault fault)
  · exact ⟨_, _, bind_ok (Run.bindVectored_refused small), (if_neg small).symm,
      fun _ => (System.Unaffected.refl system).logged _⟩

end Operations

/-- **Refusals.** After any run on a fresh system, whatever its handlers and its bench have done. -/
theorem refusals_without_effect {γ : Type} [StatusRegister γ] (handlers : Handlers Simulated γ)
    (requests : List (Request Simulated.BenchAction)) (machine : Machine Simulated γ) :
    handlers.TurnsDown (handlers.carryOut requests (System.fresh machine)) := by
  have polled := handlers.carryOut_polled requests (rfl : (System.fresh machine).polled = .vacant)
  have vectored :=
    handlers.carryOut_vectored requests (rfl : (System.fresh machine).vectored = .vacant)
  have distinct := live_distinct (requests.filterMap Request.vectoredChange?)
  generalize handlers.carryOut requests (System.fresh machine) = reached at polled vectored ⊢
  refine ⟨fun request may => ?_, fun line place found inside => ?_, fun line unbound => ?_,
    fun line unbound => ?_, fun line slotless => ?_⟩
  · match request with
    | .operation (.bindPolled line handler priority) =>
      exact bindPolled_answers handlers.call polled (live_distinct _) (live_inRange _) line handler
        priority
    | .operation (.bindVectored line routine priority) =>
      exact bindVectored_answers handlers.call vectored distinct (live_inRange _) line routine
        priority
    | .operation (.enableSlot line) =>
      exact enableSlot_answers handlers.call vectored distinct.arranged line
    | .action (.line op) =>
      obtain ⟨reply, machine, performed, kind, unaffected⟩ := LineOp.perform_answers may reached
      exact ⟨reply, _, Run.onMachine_ok performed, kind, unaffected⟩
  · obtain ⟨after, enabled⟩ := Run.enableSlotOf_ok
      (vectored.slotsOf_eq_singleton distinct.arranged found inside) inside
    exact ⟨after, bind_ok enabled⟩
  · have released : Run.releasePolled line reached = .ok () reached := by
      rw [Run.releasePolled, bind_get, bind_modify, Table.remove, unbound]
      rfl
    exact ⟨reached, .refl reached, bind_ok released⟩
  · have released : Run.releaseVectored line reached = .ok () reached := by
      rw [Run.releaseVectored, bind_get, Table.remove, unbound]
      rfl
    exact ⟨reached, .refl reached, bind_ok released⟩
  · have disabled : Run.disableSlotOf line reached = .ok () reached := by
      rw [Run.disableSlotOf, bind_get, vectored.slotsOf_eq_nil distinct.arranged slotless]
      rfl
    exact ⟨reached, .refl reached, bind_ok disabled⟩

end VectoredInterrupts
