/-
**Steps and what they leave alone.**

A step returns or faults, and leaves a state behind either way (`stateAfter`). It *maintains* a
property if the state it leaves has it whenever the state before had it.

* `Maintains.bind`, `Maintains.ite`, `Maintains.forM`: steps made of maintaining steps maintain. To
  maintain is one of the properties of steps that sequencing passes on (`Sequential`);
* `Machine.Step`: what code does to the machine, one access at a time. A property that is `Closed`
  under it is maintained by all code that keeps to the offsets in question;
* `RegisterOp.perform_sequential`, `LineOp.perform_sequential`: where an operation reads
  (`RegisterOp.reads`, `LineOp.reads`) and writes (`RegisterOp.written?`, `LineOp.written?`);
* `Undisturbed.closed`: a property of the register bank that no read disturbs, and no write at
  certain offsets.
-/

import VectoredInterrupts.Command

namespace VectoredInterrupts

section Steps

variable {ε σ α ρ : Type}

/-- The state that a step leaves, whether it returns or faults. -/
def stateAfter (step : EStateM ε σ α) (state : σ) : σ :=
  match step state with
  | .ok _ after => after
  | .error _ after => after

theorem stateAfter_ok {step : EStateM ε σ α} {state after : σ} {value : α}
    (returns : step state = .ok value after) : stateAfter step state = after := by
  rw [stateAfter, returns]

theorem stateAfter_error {step : EStateM ε σ α} {state after : σ} {fault : ε}
    (faults : step state = .error fault after) : stateAfter step state = after := by
  rw [stateAfter, faults]

theorem bind_ok {first : EStateM ε σ α} {next : α → EStateM ε σ ρ} {state after : σ} {value : α}
    (returns : first state = .ok value after) : (first >>= next) state = next value after := by
  show EStateM.bind first next state = next value after
  rw [EStateM.bind, returns]

theorem bind_error {first : EStateM ε σ α} {next : α → EStateM ε σ ρ} {state after : σ} {fault : ε}
    (faults : first state = .error fault after) : (first >>= next) state = .error fault after := by
  show EStateM.bind first next state = .error fault after
  rw [EStateM.bind, faults]

theorem bind_eq_ok {first : EStateM ε σ α} {next : α → EStateM ε σ ρ} {state after : σ}
    {result : ρ} :
    (first >>= next) state = .ok result after ↔
      ∃ value middle, first state = .ok value middle ∧ next value middle = .ok result after := by
  constructor
  · intro returns
    cases begun : first state with
    | ok value middle => exact ⟨value, middle, rfl, (bind_ok begun).symm.trans returns⟩
    | error fault middle => cases (bind_error begun).symm.trans returns
  · rintro ⟨value, middle, begun, returns⟩
    exact (bind_ok begun).trans returns

theorem stateAfter_bind {first : EStateM ε σ α} {next : α → EStateM ε σ ρ} {state after : σ}
    {value : α} (returns : first state = .ok value after) :
    stateAfter (first >>= next) state = stateAfter (next value) after := by
  rw [stateAfter, bind_ok returns]
  rfl

theorem stateAfter_reply (step : EStateM ε σ α) (reply : α → ρ) (state : σ) :
    stateAfter (step >>= fun value => pure (reply value)) state = stateAfter step state := by
  cases result : step state with
  | ok value after =>
    rw [stateAfter_bind result, stateAfter_ok result]
    rfl
  | error fault after => rw [stateAfter_error result, stateAfter, bind_error result]

theorem bind_get (next : σ → EStateM ε σ ρ) (state : σ) :
    ((get : EStateM ε σ σ) >>= next) state = next state state :=
  rfl

theorem bind_modify (change : σ → σ) (next : PUnit → EStateM ε σ ρ) (state : σ) :
    ((modify change : EStateM ε σ PUnit) >>= next) state = next ⟨⟩ (change state) :=
  rfl

theorem stateAfter_get (next : σ → EStateM ε σ ρ) (state : σ) :
    stateAfter ((get : EStateM ε σ σ) >>= next) state = stateAfter (next state) state :=
  rfl

theorem stateAfter_modify (change : σ → σ) (next : PUnit → EStateM ε σ ρ) (state : σ) :
    stateAfter ((modify change : EStateM ε σ PUnit) >>= next) state =
      stateAfter (next ⟨⟩) (change state) :=
  rfl

/-- A property of steps that sequencing passes on. Steps that just return or fault have it. -/
structure Sequential (holds : (α : Type) → EStateM ε σ α → Prop) : Prop where
  pure : ∀ {α : Type} (value : α), holds α (pure value)
  throw : ∀ {α : Type} (fault : ε), holds α (throw fault)
  bind : ∀ {α ρ : Type} {first : EStateM ε σ α} {next : α → EStateM ε σ ρ}, holds α first →
    (∀ value, holds ρ (next value)) → holds ρ (first >>= next)

namespace Sequential

variable {holds : (α : Type) → EStateM ε σ α → Prop} (sequential : Sequential holds)

include sequential

theorem forM {list : List ρ} {step : ρ → EStateM ε σ PUnit}
    (each : ∀ item ∈ list, holds _ (step item)) : holds _ (list.forM step) := by
  induction list with
  | nil => exact sequential.pure _
  | cons head rest ih =>
    refine sequential.bind (each head List.mem_cons_self) fun _ => ?_
    exact ih fun item member => each item (List.mem_cons_of_mem _ member)

theorem foldlM {list : List ρ} {step : α → ρ → EStateM ε σ α}
    (each : ∀ value, ∀ item ∈ list, holds _ (step value item)) (value : α) :
    holds _ (list.foldlM step value) := by
  induction list generalizing value with
  | nil => exact sequential.pure _
  | cons head rest ih =>
    refine sequential.bind (each value head List.mem_cons_self) ?_
    exact ih fun value item member => each value item (List.mem_cons_of_mem _ member)

omit sequential in
theorem checked {holds : (α : Type) → EStateM Fault σ α → Prop} (sequential : Sequential holds)
    (result : Except Fault α) : holds _ (checked result) := by
  cases result with
  | ok value => exact sequential.pure value
  | error fault => exact sequential.throw fault

end Sequential

/-- Whatever a relation leads to from a state with the property has the property as well. -/
def Closed (leads : σ → σ → Prop) (holds : σ → Prop) : Prop :=
  ∀ ⦃before after⦄, leads before after → holds before → holds after

/-- If the property holds before the step, it holds of the state that the step leaves. -/
def Maintains (holds : σ → Prop) (step : EStateM ε σ α) : Prop :=
  ∀ state, holds state → holds (stateAfter step state)

namespace Maintains

variable {holds : σ → Prop}

theorem of_ok {step : EStateM ε σ α} (maintains : Maintains holds step) {state after : σ}
    {value : α} (before : holds state) (returns : step state = .ok value after) : holds after := by
  have left := maintains state before
  rwa [stateAfter_ok returns] at left

theorem of_error {step : EStateM ε σ α} (maintains : Maintains holds step) {state after : σ}
    {fault : ε} (before : holds state) (faults : step state = .error fault after) :
    holds after := by
  have left := maintains state before
  rwa [stateAfter_error faults] at left

theorem pure (value : α) : Maintains holds (pure value : EStateM ε σ α) := fun _ before => before

theorem throw (fault : ε) : Maintains holds (throw fault : EStateM ε σ α) := fun _ before => before

theorem get : Maintains holds (get : EStateM ε σ σ) := fun _ before => before

theorem modify {change : σ → σ} (keeps : ∀ state, holds state → holds (change state)) :
    Maintains holds (modify change : EStateM ε σ Unit) :=
  keeps

/-- What the first of two steps leaves is left by both, if the second one maintains it. -/
theorem after_bind (holds : σ → Prop) {first : EStateM ε σ α} {next : α → EStateM ε σ ρ}
    {state : σ} (head : holds (stateAfter first state))
    (tail : ∀ value, Maintains holds (next value)) : holds (stateAfter (first >>= next) state) := by
  cases result : first state with
  | ok value after =>
    rw [stateAfter_bind result]
    rw [stateAfter_ok result] at head
    exact tail value after head
  | error fault after =>
    rw [stateAfter_error (bind_error result)]
    rwa [stateAfter_error result] at head

theorem bind {first : EStateM ε σ α} {next : α → EStateM ε σ ρ} (head : Maintains holds first)
    (tail : ∀ value, Maintains holds (next value)) : Maintains holds (first >>= next) :=
  fun state before => after_bind holds (head state before) tail

theorem ite {condition : Prop} [Decidable condition] {first second : EStateM ε σ α}
    (yes : Maintains holds first) (no : Maintains holds second) :
    Maintains holds (if condition then first else second) := by
  by_cases decided : condition
  · rwa [if_pos decided]
  · rwa [if_neg decided]

/-- To maintain a property is passed on by sequencing. -/
theorem sequential (holds : σ → Prop) :
    Sequential fun _ (step : EStateM ε σ _) => Maintains holds step :=
  ⟨pure, throw, bind⟩

theorem forM {list : List ρ} {step : ρ → EStateM ε σ PUnit}
    (each : ∀ item ∈ list, Maintains holds (step item)) : Maintains holds (list.forM step) :=
  (sequential holds).forM each

theorem checked {holds : σ → Prop} (result : Except Fault α) :
    Maintains holds (checked result : EStateM Fault σ α) :=
  (sequential holds).checked result

end Maintains

end Steps

/-! ### Steps of the machine -/

section Machine

variable {β γ α : Type}

/-- The machine once a notice has been logged. -/
def Machine.logged (machine : Machine β γ) (notice : Notice) : Machine β γ :=
  if machine.verbosity.admits notice.level then
    { machine with trace := machine.trace.push (.logged notice) }
  else machine

@[simp]
theorem Machine.logged_bank (machine : Machine β γ) (notice : Notice) :
    (machine.logged notice).bank = machine.bank := by
  unfold Machine.logged
  split <;> rfl

@[simp]
theorem Machine.logged_status (machine : Machine β γ) (notice : Notice) :
    (machine.logged notice).status = machine.status := by
  unfold Machine.logged
  split <;> rfl

/-- Logging never faults. -/
theorem Bus.log_ok (notice : Notice) (machine : Machine β γ) :
    (Bus.log notice : Bus β γ Unit) machine = .ok () (machine.logged notice) := by
  unfold Bus.log Bus.whenLogged Machine.logged
  rw [bind_get]
  by_cases admitted : machine.verbosity.admits notice.level = true
  · rw [if_pos admitted, if_pos admitted]
    rfl
  · rw [if_neg admitted, if_neg admitted]
    rfl

/-- An event that is neither an access to a register nor the mark of a handler that a dispatch
serves. -/
def Event.Silent : Event → Prop
  | .read .. | .wrote .. | .dispatched .. => False
  | .statusRead _ | .statusWrote _ | .logged _ | .entered _ | .returned _ => True

variable [RegisterBank β]

/-- One step of code on the machine: an access at an offset that may be read or written, completed
or not, a silent event, or another status word. -/
inductive Machine.Step (readable writable : Nat → Prop) : Machine β γ → Machine β γ → Prop
  | read {offset : Nat} (allowed : readable offset) (machine : Machine β γ) :
      Step readable writable machine (stateAfter (Bus.read offset) machine)
  | write {offset : Nat} (allowed : writable offset) (value : Word) (machine : Machine β γ) :
      Step readable writable machine (stateAfter (Bus.write offset value) machine)
  | record {event : Event} (silent : event.Silent) (machine : Machine β γ) :
      Step readable writable machine { machine with trace := machine.trace.push event }
  | status (status : γ) (machine : Machine β γ) :
      Step readable writable machine { machine with status }

namespace Bus

section Sequences

variable {kept : (α : Type) → Bus β γ α → Prop} (sequential : Sequential kept)

include sequential

omit [RegisterBank β] in
theorem checkSlot_sequential (slot : Nat) : kept _ (checkSlot slot) := by
  unfold checkSlot
  split
  · exact sequential.pure _
  · exact sequential.throw _

omit [RegisterBank β] in
theorem refuse_sequential (logs : ∀ notice, kept _ (log notice)) (reason : Refusal) :
    kept _ (refuse reason : Bus β γ (Except Refusal α)) :=
  sequential.bind (logs _) fun _ => sequential.pure _

theorem readLines_sequential {offset : Nat} (read : kept _ (Bus.read offset)) :
    kept _ (do return (← Bus.read offset).lines) :=
  sequential.bind read fun _ => sequential.pure _

theorem peripheralId_sequential
    (reads : ∀ place ∈ [0, 1, 2, 3], kept _ (read (Offset.peripheralId + place * 4))) :
    kept _ peripheralId := by
  refine sequential.foldlM (fun _ place member => ?_) _
  exact sequential.bind (reads place member) fun _ => sequential.pure _

end Sequences

omit [RegisterBank β] in
theorem stateAfter_onBank (step : EStateM Fault β α) (machine : Machine β γ) :
    stateAfter (onBank step) machine = { machine with bank := stateAfter step machine.bank } := by
  unfold stateAfter onBank
  cases step machine.bank <;> rfl

omit [RegisterBank β] in
theorem onBank_maintains {holds : β → Prop} {step : EStateM Fault β α}
    (maintains : Maintains holds step) :
    Maintains (fun machine => holds machine.bank) (onBank step : Bus β γ α) := by
  intro machine before
  rw [stateAfter_onBank]
  exact maintains machine.bank before

variable {readable writable : Nat → Prop} {holds : Machine β γ → Prop}

omit [RegisterBank β] in
theorem whenLogged_maintains (level : Level) {step : Bus β γ Unit}
    (maintains : Maintains holds step) : Maintains holds (whenLogged level step) :=
  .bind .get fun _ => .ite maintains (.pure _)

variable (closed : Closed (Machine.Step readable writable) holds)

include closed

theorem read_maintains {offset : Nat} (allowed : readable offset) :
    Maintains holds (read offset : Bus β γ Word) :=
  fun machine => closed (.read allowed machine)

theorem write_maintains {offset : Nat} (value : Word) (allowed : writable offset) :
    Maintains holds (write offset value : Bus β γ Unit) :=
  fun machine => closed (.write allowed value machine)

theorem record_maintains {event : Event} (silent : event.Silent) :
    Maintains holds (record event : Bus β γ Unit) :=
  fun machine => closed (.record silent machine)

theorem log_maintains (notice : Notice) : Maintains holds (log notice : Bus β γ Unit) :=
  whenLogged_maintains _ (record_maintains closed (by trivial))

theorem refuse_maintains (reason : Refusal) :
    Maintains holds (refuse reason : Bus β γ (Except Refusal α)) :=
  refuse_sequential (Maintains.sequential holds) (log_maintains closed) reason

theorem readLines_maintains {offset : Nat} (allowed : readable offset) :
    Maintains holds (do return (← read offset).lines : Bus β γ LineSet) :=
  readLines_sequential (Maintains.sequential holds) (read_maintains closed allowed)

theorem peripheralId_maintains
    (allowed : ∀ place ∈ [0, 1, 2, 3], readable (Offset.peripheralId + place * 4)) :
    Maintains holds (peripheralId : Bus β γ (BitVec 32)) :=
  peripheralId_sequential (Maintains.sequential holds) fun place member =>
    read_maintains closed (allowed place member)

theorem announce_maintains
    (allowed : ∀ place ∈ [0, 1, 2, 3], readable (Offset.peripheralId + place * 4)) :
    Maintains holds (announce : Bus β γ Unit) :=
  whenLogged_maintains _ ((peripheralId_maintains closed allowed).bind fun _ =>
    record_maintains closed (by trivial))

end Bus

omit [RegisterBank β] in
/-- **An operation on the status word** has what sequencing passes on, if the accesses to it do. -/
theorem StatusOp.perform_sequential [StatusRegister γ] {kept : (α : Type) → Bus β γ α → Prop}
    (sequential : Sequential kept) (op : StatusOp) (reads : kept _ Bus.readStatus)
    (writes : ∀ value, kept _ (Bus.writeStatus value)) : kept _ op.perform := by
  have done : ∀ {step : Bus β γ Unit}, kept _ step → kept _ (do step; return Reply.done) :=
    fun step => sequential.bind step fun _ => sequential.pure _
  cases op with
  | read => exact sequential.bind reads fun _ => sequential.pure _
  | write value => exact done (writes value)
  | enableIrq | disableIrq | enableFiq | disableFiq =>
    exact done (sequential.bind reads fun _ => writes _)
  | irqEnabled | fiqEnabled =>
    exact sequential.bind (sequential.bind reads fun _ => sequential.pure _) fun _ =>
      sequential.pure _

theorem StatusOp.perform_maintains [StatusRegister γ] {readable writable : Nat → Prop}
    {holds : Machine β γ → Prop} (closed : Closed (Machine.Step readable writable) holds)
    (op : StatusOp) : Maintains holds (op.perform : Bus β γ Reply) := by
  have reads : Maintains holds (Bus.readStatus : Bus β γ _) :=
    .bind .get fun _ => (Bus.record_maintains closed (by trivial)).bind fun _ => .pure _
  have writes : ∀ value, Maintains holds (Bus.writeStatus value : Bus β γ Unit) := fun value =>
    .bind (.modify fun machine => closed (.status _ machine)) fun _ =>
      Bus.record_maintains closed (by trivial)
  exact op.perform_sequential (Maintains.sequential holds) reads writes

end Machine

/-! ### Operations of the registers -/

/-- The offsets that an operation reads. -/
def RegisterOp.reads : RegisterOp → List Nat
  | .read offset => [offset]
  | .irqStatus => [Offset.irqStatus]
  | .fiqStatus => [Offset.fiqStatus]
  | .rawStatus => [Offset.rawStatus]
  | .select => [Offset.select]
  | .enabledLines => [Offset.enable]
  | .softLines => [Offset.soft]
  | .vector => [Offset.vector]
  | .defaultVector => [Offset.defaultVector]
  | .slotAddress slot => [Offset.slotAddress slot]
  | .slotControl slot => [Offset.slotControl slot]
  | .peripheralId => [0, 1, 2, 3].map fun place => Offset.peripheralId + place * 4
  | .write _ _ | .setSelect _ | .enableLines _ | .disableLines _ | .raiseSoft _ | .clearSoft _
  | .acknowledge | .setDefaultVector _ | .setSlotAddress _ _ | .setSlotControl _ _ => []

/-- The offset that an operation writes, if any. -/
def RegisterOp.written? : RegisterOp → Option Nat
  | .write offset _ => some offset
  | .setSelect _ => some Offset.select
  | .enableLines _ => some Offset.enable
  | .disableLines _ => some Offset.enableClear
  | .raiseSoft _ => some Offset.soft
  | .clearSoft _ => some Offset.softClear
  | .acknowledge => some Offset.vector
  | .setDefaultVector _ => some Offset.defaultVector
  | .setSlotAddress slot _ => some (Offset.slotAddress slot)
  | .setSlotControl slot _ => some (Offset.slotControl slot)
  | .read _ | .irqStatus | .fiqStatus | .rawStatus | .select | .enabledLines | .softLines | .vector
  | .defaultVector | .slotAddress _ | .slotControl _ | .peripheralId => none

/-- The offsets that an operation on one line reads. -/
def LineOp.reads : LineOp → List Nat
  | .isEnabled _ => [Offset.enable]
  | .route _ | .setRoute _ _ => [Offset.select]
  | .clear _ => [Offset.rawStatus]
  | .enable _ | .disable _ | .raise _ => []

/-- The offset that an operation on one line writes, if any. -/
def LineOp.written? : LineOp → Option Nat
  | .enable _ => some Offset.enable
  | .disable _ => some Offset.enableClear
  | .setRoute _ _ => some Offset.select
  | .raise _ => some Offset.soft
  | .clear _ => some Offset.softClear
  | .isEnabled _ | .route _ => none

section Registers

variable {β γ : Type} [RegisterBank β] {readable writable : Nat → Prop}

namespace Bus

theorem read_ok {offset : Nat} {value : Word} {machine : Machine β γ} {bank : β}
    (returns : RegisterBank.read offset machine.bank = .ok value bank) :
    (read offset : Bus β γ Word) machine =
      .ok value { machine with bank, trace := machine.trace.push (.read offset value) } := by
  refine bind_ok (?_ : onBank (RegisterBank.read offset) machine = .ok value { machine with bank })
  rw [onBank, returns]

theorem read_error {offset : Nat} {machine : Machine β γ} {bank : β} {fault : Fault}
    (faults : RegisterBank.read offset machine.bank = .error fault bank) :
    (read offset : Bus β γ Word) machine = .error fault { machine with bank } := by
  refine bind_error (?_ : onBank (RegisterBank.read offset) machine =
    .error fault { machine with bank })
  rw [onBank, faults]

theorem write_ok {offset : Nat} {value : Word} {machine : Machine β γ} {bank : β}
    (returns : RegisterBank.write offset value machine.bank = .ok () bank) :
    (write offset value : Bus β γ Unit) machine =
      .ok () { machine with bank, trace := machine.trace.push (.wrote offset value) } := by
  refine bind_ok (?_ : onBank (RegisterBank.write offset value) machine = .ok ()
    { machine with bank })
  rw [onBank, returns]

theorem write_error {offset : Nat} {value : Word} {machine : Machine β γ} {bank : β} {fault : Fault}
    (faults : RegisterBank.write offset value machine.bank = .error fault bank) :
    (write offset value : Bus β γ Unit) machine = .error fault { machine with bank } := by
  refine bind_error (?_ : onBank (RegisterBank.write offset value) machine =
    .error fault { machine with bank })
  rw [onBank, faults]

end Bus

section Bank

variable {holds : β → Prop}

/-- Code on the machine reaches the bank by its accesses only. -/
theorem Machine.closed_of_bank
    (reads : ∀ offset, readable offset → Maintains holds (RegisterBank.read offset))
    (writes : ∀ offset value, writable offset → Maintains holds (RegisterBank.write offset value)) :
    Closed (Machine.Step (γ := γ) readable writable) fun machine : Machine β γ =>
      holds machine.bank := by
  intro before after step held
  cases step with
  | @read offset allowed _ =>
    cases result : RegisterBank.read offset before.bank with
    | ok value bank =>
      rw [stateAfter_ok (Bus.read_ok result)]
      exact (reads offset allowed).of_ok held result
    | error fault bank =>
      rw [stateAfter_error (Bus.read_error result)]
      exact (reads offset allowed).of_error held result
  | @write offset allowed value _ =>
    cases result : RegisterBank.write offset value before.bank with
    | ok _ bank =>
      rw [stateAfter_ok (Bus.write_ok result)]
      exact (writes offset value allowed).of_ok held result
    | error fault bank =>
      rw [stateAfter_error (Bus.write_error result)]
      exact (writes offset value allowed).of_error held result
  | record => exact held
  | status => exact held

/-- No read disturbs the property of a bank, and no write at a writable offset does. -/
structure Undisturbed (writable : Nat → Prop) (holds : β → Prop) : Prop where
  read : ∀ offset, Maintains holds (RegisterBank.read offset)
  write : ∀ offset value, writable offset → Maintains holds (RegisterBank.write offset value)

theorem Undisturbed.and_left (fact : Prop) (undisturbed : Undisturbed writable holds) :
    Undisturbed writable fun bank => fact ∧ holds bank where
  read offset bank before := ⟨before.1, undisturbed.read offset bank before.2⟩
  write offset value allowed bank before :=
    ⟨before.1, undisturbed.write offset value allowed bank before.2⟩

theorem Undisturbed.mono {others : Nat → Prop} (undisturbed : Undisturbed writable holds)
    (fewer : ∀ offset, others offset → writable offset) : Undisturbed others holds where
  read := undisturbed.read
  write offset value allowed := undisturbed.write offset value (fewer offset allowed)

/-- A property of the bank is undisturbed by code on the machine. -/
theorem Undisturbed.closed (undisturbed : Undisturbed writable holds) :
    Closed (Machine.Step (γ := γ) (fun _ => True) writable) fun machine : Machine β γ =>
      holds machine.bank :=
  Machine.closed_of_bank (fun offset _ => undisturbed.read offset) undisturbed.write

end Bank

section Sequences

variable {kept : (α : Type) → Bus β γ α → Prop} (sequential : Sequential kept)

include sequential

/-- **An access to the registers** has what sequencing passes on, if the accesses it makes do. -/
theorem RegisterOp.perform_sequential (op : RegisterOp)
    (reads : ∀ offset ∈ op.reads, kept _ (Bus.read offset))
    (writes : ∀ offset ∈ op.written?, ∀ value, kept _ (Bus.write offset value)) :
    kept _ op.perform := by
  have done : ∀ {step : Bus β γ Unit}, kept _ step → kept _ (do step; return Reply.done) :=
    fun step => sequential.bind step fun _ => sequential.pure _
  cases op with
  | read | select | softLines | vector | defaultVector =>
    exact sequential.bind (reads _ List.mem_cons_self) fun _ => sequential.pure _
  | irqStatus | fiqStatus | rawStatus | enabledLines =>
    have read := Bus.readLines_sequential sequential (reads _ List.mem_cons_self)
    exact sequential.bind read fun _ => sequential.pure _
  | slotAddress slot | slotControl slot =>
    have read := reads _ List.mem_cons_self
    refine sequential.bind (sequential.bind ?_ fun _ => read) fun _ => sequential.pure _
    exact Bus.checkSlot_sequential sequential slot
  | peripheralId =>
    refine sequential.bind (Bus.peripheralId_sequential sequential fun place member => ?_)
      fun _ => sequential.pure _
    exact reads _ (List.mem_map_of_mem member)
  | write | setSelect | enableLines | disableLines | raiseSoft | clearSoft | acknowledge
  | setDefaultVector => exact done (writes _ rfl _)
  | setSlotAddress slot | setSlotControl slot =>
    refine done (sequential.bind ?_ fun _ => writes _ rfl _)
    exact Bus.checkSlot_sequential sequential slot

/-- **An operation on one line**, likewise. -/
theorem LineOp.perform_sequential (op : LineOp) (logs : ∀ notice, kept _ (Bus.log notice))
    (reads : ∀ offset ∈ op.reads, kept _ (Bus.read offset))
    (writes : ∀ offset ∈ op.written?, ∀ value, kept _ (Bus.write offset value)) :
    kept _ op.perform := by
  have refuses : ∀ {α : Type} reason, kept _ (Bus.refuse reason : Bus β γ (Except Refusal α)) :=
    Bus.refuse_sequential sequential logs
  have guarded : ∀ {line : Nat} {α : Type} {step other : Bus β γ α}, kept _ step → kept _ other →
      kept _ (if line < lineCount then step else other) := by
    intro line α step other inside outside
    split
    · exact inside
    · exact outside
  have writesBit : ∀ {α : Type} {line offset : Nat} (answer : α),
      (∀ value, kept _ (Bus.write offset value)) →
      kept _ (do Bus.write offset (← checked (lineBit line)); return answer) := by
    intro α line offset answer writes
    refine sequential.bind (sequential.checked _) fun bit => ?_
    exact sequential.bind (writes bit) fun _ => sequential.pure _
  cases op with
  | enable line | disable line | raise line =>
    refine sequential.bind (guarded ?_ (refuses _)) fun _ => sequential.pure _
    exact writesBit _ (writes _ rfl)
  | isEnabled line =>
    refine sequential.bind (guarded ?_ (sequential.pure _)) fun _ => sequential.pure _
    have read := Bus.readLines_sequential sequential (reads _ List.mem_cons_self)
    exact sequential.bind read fun _ => sequential.checked _
  | route line =>
    refine sequential.bind (guarded ?_ (sequential.pure _)) fun _ => sequential.pure _
    refine sequential.bind (reads _ List.mem_cons_self) fun mask => ?_
    refine sequential.bind (sequential.checked _) fun bit => ?_
    split
    · exact sequential.pure _
    · exact sequential.pure _
  | setRoute line target =>
    refine sequential.bind (guarded ?_ (refuses _)) fun _ => sequential.pure _
    refine sequential.bind (reads _ List.mem_cons_self) fun mask => ?_
    refine sequential.bind (sequential.checked _) fun bit => ?_
    cases target with
    | irq | fiq => exact sequential.bind (writes _ rfl _) fun _ => sequential.pure _
  | clear line =>
    refine sequential.bind (guarded ?_ (refuses _)) fun _ => sequential.pure _
    have read := Bus.readLines_sequential sequential (reads _ List.mem_cons_self)
    refine sequential.bind read fun lines => ?_
    refine sequential.bind (sequential.checked _) fun asserted => ?_
    split
    · exact writesBit _ (writes _ rfl)
    · exact refuses _

end Sequences

variable {holds : Machine β γ → Prop} (closed : Closed (Machine.Step readable writable) holds)

include closed

/-- An access to the registers keeps to the offsets that it reads and writes. -/
theorem RegisterOp.perform_maintains (op : RegisterOp) (reads : ∀ offset ∈ op.reads, readable offset)
    (writes : ∀ offset ∈ op.written?, writable offset) :
    Maintains holds (op.perform : Bus β γ Reply) :=
  op.perform_sequential (Maintains.sequential holds)
    (fun offset member => Bus.read_maintains closed (reads offset member))
    fun offset member value => Bus.write_maintains closed value (writes offset member)

/-- So does an operation on one line. -/
theorem LineOp.perform_maintains (op : LineOp) (reads : ∀ offset ∈ op.reads, readable offset)
    (writes : ∀ offset ∈ op.written?, writable offset) :
    Maintains holds (op.perform : Bus β γ Reply) :=
  op.perform_sequential (Maintains.sequential holds) (Bus.log_maintains closed)
    (fun offset member => Bus.read_maintains closed (reads offset member))
    fun offset member value => Bus.write_maintains closed value (writes offset member)

end Registers

end VectoredInterrupts
