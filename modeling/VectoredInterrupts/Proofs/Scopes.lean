/-
**Scopes that hold IRQs back.**

A scope reads the status word, sets the mask, runs its body and writes back what it read. The write
reaches the writable bits only (`WritableBits`); the other bits are never changed by anything, so
the status word is restored as a whole.

* `Command.Enters`: which scopes a run of commands enters, and where. Scopes nest in each other;
* `Hold.Passage`: what is true of a scope that is entered and left. Its body keeps IRQs held back if
  it does without the steps that may let them through (`Command.Abstains`);
* `scopes_restore_status`: every scope that a run enters passes like this.
-/

import VectoredInterrupts.Proofs.StatusWord

namespace VectoredInterrupts

/-! ### Bits that can be written -/

/-- Which bits of a status register a write sets; the others stay. -/
class WritableBits (γ : Type) [StatusRegister γ] where
  /-- The bits that a write sets. -/
  writable : StatusWord
  /-- The mask of IRQs can be written. -/
  irqMask_and_writable : irqMask &&& writable = irqMask
  value_write : ∀ (register : γ) (word : StatusWord),
    StatusRegister.value (StatusRegister.write register word) =
      StatusRegister.value register &&& ~~~writable ||| word &&& writable

instance : WritableBits ControlField where
  writable := 0xFF
  irqMask_and_writable := by decide
  value_write _ _ := rfl

instance : WritableBits OpenStatus where
  writable := BitVec.allOnes 32
  irqMask_and_writable := by decide
  value_write register word := by
    show word = register.word &&& ~~~BitVec.allOnes 32 ||| word &&& BitVec.allOnes 32
    rw [BitVec.not_allOnes, BitVec.and_zero, BitVec.zero_or, BitVec.and_allOnes]

/-- IRQs are held back. -/
def HoldsIrq (word : StatusWord) : Prop := word &&& irqMask = irqMask

/-- The word has the bits of another one where nothing can be written. -/
def FixedLike (γ : Type) [StatusRegister γ] [WritableBits γ] (other word : StatusWord) : Prop :=
  word &&& ~~~WritableBits.writable γ = other &&& ~~~WritableBits.writable γ

/-- The property is kept by setting the mask, and by a write of a word that has it. -/
structure Stable (γ : Type) [StatusRegister γ] (fits : StatusWord → Prop) : Prop where
  mask : ∀ word, fits word → fits (word ||| irqMask)
  write : ∀ (register : γ) (word : StatusWord), fits (StatusRegister.value register) → fits word →
    fits (StatusRegister.value (StatusRegister.write register word))

section Bits

variable {γ : Type} [StatusRegister γ] [WritableBits γ]

theorem WritableBits.irqMask_and_not_writable : irqMask &&& ~~~writable γ = 0#32 := by
  have within : irqMask &&& writable γ = irqMask := irqMask_and_writable
  rw [← within, BitVec.and_assoc, BitVec.and_not_self]
  exact BitVec.and_zero

/-- **No write** changes the bits that cannot be written. -/
theorem FixedLike.write {other : StatusWord} {register : γ} (word : StatusWord)
    (fixed : FixedLike γ other (StatusRegister.value register)) :
    FixedLike γ other (StatusRegister.value (StatusRegister.write register word)) := by
  rw [FixedLike, ← fixed, WritableBits.value_write, BitVec.and_or_distrib_right, BitVec.and_assoc,
    BitVec.and_assoc, BitVec.and_self, BitVec.and_not_self]
  simp

/-- Neither does the mask of IRQs. -/
theorem FixedLike.mask (word : StatusWord) : FixedLike γ word (word ||| irqMask) := by
  rw [FixedLike, BitVec.and_or_distrib_right, WritableBits.irqMask_and_not_writable, BitVec.or_zero]

/-- A word is restored where it can be written, and elsewhere it is still the same. -/
theorem FixedLike.value_restore {saved : StatusWord} {register : γ}
    (fixed : FixedLike γ saved (StatusRegister.value register)) :
    StatusRegister.value (StatusRegister.write register saved) = saved := by
  rw [WritableBits.value_write, fixed, ← BitVec.and_or_distrib_left, BitVec.not_or_self,
    BitVec.and_allOnes]

theorem FixedLike.stable (other : StatusWord) : Stable γ (FixedLike γ other) where
  mask word fixed := (FixedLike.mask word).trans fixed
  write _ word fixed _ := fixed.write word

theorem FixedLike.respects (other : StatusWord) (op : StatusOp) :
    op.Respects γ (FixedLike γ other) :=
  fun _ fixed word _ => fixed.write word

omit [StatusRegister γ] [WritableBits γ] in
theorem HoldsIrq.or {word : StatusWord} (held : HoldsIrq word) (more : StatusWord) :
    HoldsIrq (word ||| more) := by
  unfold HoldsIrq at *
  grind

theorem HoldsIrq.write {word : StatusWord} (register : γ) (held : HoldsIrq word) :
    HoldsIrq (StatusRegister.value (StatusRegister.write register word)) := by
  have within : irqMask &&& WritableBits.writable γ = irqMask := WritableBits.irqMask_and_writable
  have outside : irqMask &&& ~~~WritableBits.writable γ = 0#32 :=
    WritableBits.irqMask_and_not_writable
  rw [HoldsIrq, WritableBits.value_write, BitVec.and_or_distrib_right, BitVec.and_assoc,
    BitVec.and_assoc, BitVec.and_comm _ irqMask, outside, BitVec.and_comm _ irqMask, within, held,
    BitVec.and_zero, BitVec.zero_or]

theorem HoldsIrq.stable : Stable γ HoldsIrq where
  mask _ held := held.or irqMask
  write register _ _ held := held.write register

end Bits

/-! ### One scope -/

/-- The ways to hold IRQs back. -/
inductive Hold where
  /-- By the processor. -/
  | withoutIrq
  /-- By the controller's firmware. -/
  | masked

namespace Hold

section Run

variable {β γ α : Type} [StatusRegister γ] (hold : Hold)

/-- A body with IRQs held back. -/
def scope (body : Run β γ α) : Run β γ α :=
  match hold with
  | .withoutIrq => Run.withoutIrq body
  | .masked => Run.masked body

/-- How a scope begins: the status word is read, and the mask is set. -/
def begin : Run β γ StatusWord :=
  match hold with
  | .withoutIrq => do
    let saved ← Run.onMachine Bus.readStatus
    Run.onMachine (Bus.writeStatus (saved ||| irqMask))
    return saved
  | .masked => do
    let saved ← Run.onMachine Bus.readStatus
    Run.onMachine Bus.disableIrq
    return saved

/-- Both scopes write back what they have read first. -/
theorem scope_eq (body : Run β γ α) :
    hold.scope body = (do
      let saved ← hold.begin
      let result ← body
      Run.onMachine (Bus.writeStatus saved)
      return result) := by
  cases hold with
  | withoutIrq => simp only [scope, begin, Run.withoutIrq, bind_assoc, pure_bind]
  | masked => simp only [scope, begin, Run.masked, bind_assoc, pure_bind]

/-- A scope can always begin. -/
theorem begin_ok (system : System β γ) :
    hold.begin system = .ok system.machine.word (stateAfter hold.begin system) := by
  cases hold with
  | withoutIrq => rfl
  | masked => rfl

/-- Whichever way the mask is set, it is set in the status word that has been read. -/
theorem status_begin (system : System β γ) :
    (stateAfter (hold.begin : Run β γ StatusWord) system).machine.status =
      StatusRegister.write system.machine.status (system.machine.word ||| irqMask) := by
  cases hold with
  | withoutIrq => rfl
  | masked => rfl

/-- The mask is set in the status word, and nothing else. -/
theorem word_begin [WritableBits γ] (system : System β γ) :
    (stateAfter (hold.begin : Run β γ StatusWord) system).machine.word =
      system.machine.word ||| irqMask := by
  rw [Machine.word, status_begin]
  exact FixedLike.value_restore (FixedLike.mask system.machine.word).symm

/-- A scope that returns has run its body, and has written back the status word that it found. -/
theorem of_scope_ok {body : Run β γ α} {entered left : System β γ} {result : α}
    (returns : hold.scope body entered = .ok result left) :
    ∃ ended, body (stateAfter hold.begin entered) = .ok result ended ∧
      left.machine.status =
        StatusRegister.write ended.machine.status entered.machine.word := by
  rw [scope_eq, bind_ok (hold.begin_ok entered)] at returns
  obtain ⟨value, ended, inner, closing⟩ := bind_eq_ok.mp returns
  cases closing
  exact ⟨ended, inner, rfl⟩

variable {fits : StatusWord → Prop} {start : Machine β γ}

theorem begin_fits (stable : Stable γ fits) :
    Maintains (System.FitsSince start fits) (hold.begin : Run β γ StatusWord) := by
  have disable : Maintains (System.FitsSince start fits)
      (Run.onMachine Bus.disableIrq : Run β γ Unit) :=
    Run.onMachine_fits (Bus.updateStatus_stays fun register now =>
      stable.write register _ now (stable.mask _ now))
  cases hold with
  | withoutIrq => exact disable
  | masked =>
    exact (Run.onMachine_fits Bus.readStatus_stays).bind fun _ => disable.bind fun _ => .pure _

/-- **A scope**, given what its body does. What it writes back has fitted before. -/
theorem scope_fits (stable : Stable γ fits) {body : Run β γ α}
    (keeps : Maintains (System.FitsSince start fits) body) :
    Maintains (System.FitsSince start fits) (hold.scope body) := by
  intro system before
  rw [scope_eq, stateAfter_bind (hold.begin_ok system)]
  refine (keeps.bind fun _ => ?_) _ (hold.begin_fits stable system before)
  refine (Run.onMachine_fits (Bus.writeStatus_stays fun register now => ?_)).bind fun _ => .pure _
  exact stable.write register _ now before.last

end Run

end Hold

/-! ### Commands -/

section Commands

variable {ι : Type}

/-- A scope in a list of commands. -/
def Hold.command : Hold → List (Command ι) → Command ι
  | .withoutIrq, body => .withoutIrq body
  | .masked, body => .masked body

/-- A request respects the property if it is no action that violates it. -/
def Request.Respects (γ : Type) [StatusRegister γ] (fits : StatusWord → Prop) : Request ι → Prop
  | .action wanted => wanted.Respects γ fits
  | .operation _ => True

variable {β γ : Type} [RegisterBank β] [StatusRegister γ] [Benched ι β]

theorem Hold.run_command (hold : Hold) (firmware : Firmware ι) (frames : Nat)
    (body : List (Command ι)) :
    (hold.command body).run firmware frames = (do
      return .scope (← hold.scope (Command.runAll firmware frames body)) : Run β γ Answer) := by
  cases hold with
  | withoutIrq => rfl
  | masked => rfl

namespace Command

variable {fits : StatusWord → Prop} {start : Machine β γ} {firmware : Firmware ι}

mutual

/-- **A command**, if its requests and the handlers respect the property. -/
theorem run_fits (stable : Stable γ fits)
    (respects : ∀ handler, (firmware.program handler).Uses (Action.Respects γ fits))
    (frames : Nat) :
    (command : Command ι) → (∀ request ∈ command.requests, request.Respects γ fits) →
      Maintains (System.FitsSince start fits) (command.run firmware frames : Run β γ Answer)
  | .action _, each =>
    (Run.perform_fits (Run.invoke_fits respects frames) _ _ (each _ List.mem_cons_self)).bind
      fun _ => .pure _
  | .operation op, _ =>
    (op.perform_fits (Run.invoke_fits respects frames)).bind fun _ => .pure _
  | .withoutIrq body, each =>
    (Hold.scope_fits .withoutIrq stable (runAll_fits stable respects frames body each)).bind
      fun _ => .pure _
  | .masked body, each =>
    (Hold.scope_fits .masked stable (runAll_fits stable respects frames body each)).bind
      fun _ => .pure _

theorem runAll_fits (stable : Stable γ fits)
    (respects : ∀ handler, (firmware.program handler).Uses (Action.Respects γ fits))
    (frames : Nat) :
    (commands : List (Command ι)) → (∀ request ∈ requestsAll commands, request.Respects γ fits) →
      Maintains (System.FitsSince start fits)
        (runAll firmware frames commands : Run β γ (List Answer))
  | [], _ => .pure _
  | command :: rest, each =>
    (run_fits stable respects frames command fun request member =>
      each request (List.mem_append_left _ member)).bind fun _ =>
        (runAll_fits stable respects frames rest fun request member =>
          each request (List.mem_append_right _ member)).bind fun _ => .pure _

end

/-- Nothing that commands do changes the bits that cannot be written. -/
theorem runAll_fixed [WritableBits γ] (other : StatusWord) (frames : Nat)
    (commands : List (Command ι)) :
    Maintains (System.FitsSince start (FixedLike γ other))
      (runAll firmware frames commands : Run β γ (List Answer)) := by
  have every : ∀ action : Action ι, action.Respects γ (FixedLike γ other) := by
    intro action
    cases action with
    | status op => exact FixedLike.respects other op
    | _ => trivial
  refine runAll_fits (FixedLike.stable other) (fun handler => .of_forall every) frames commands
    fun request _ => ?_
  cases request with
  | action action => exact every action
  | operation op => trivial

end Command

/-! ### Steps that may let IRQs through -/

/-- The operation may let IRQs through. -/
def StatusOp.mayUnmask : StatusOp → Bool
  | .enableIrq | .write _ => true
  | .read | .disableIrq | .enableFiq | .disableFiq | .irqEnabled | .fiqEnabled => false

/-- The action, or a failure instead of one that may let IRQs through. -/
def Action.barred : Action ι → Action ι
  | .status op => if op.mayUnmask then .fail else .status op
  | action => action

/-- The request, likewise. -/
def Request.barred : Request ι → Request ι
  | .action wanted => .action wanted.barred
  | .operation op => .operation op

/-- The program, with such failures in it. -/
def Program.barred : Program ι → Program ι
  | .finish => .finish
  | .act action next => .act action.barred fun reply => (next reply).barred

/-- The firmware, with such failures in its handlers. -/
def Firmware.barred (firmware : Firmware ι) : Firmware ι :=
  { firmware with program := fun handler => (firmware.program handler).barred }

namespace Command

mutual

/-- The command, with such failures in it. Scopes stay as they are. -/
def barred : Command ι → Command ι
  | .action request => .action request.barred
  | .operation op => .operation op
  | .withoutIrq body => .withoutIrq (barredAll body)
  | .masked body => .masked (barredAll body)

/-- The commands, likewise. -/
def barredAll : List (Command ι) → List (Command ι)
  | [] => []
  | command :: rest => command.barred :: barredAll rest

end

mutual

theorem requests_barred :
    (command : Command ι) → command.barred.requests = command.requests.map Request.barred
  | .action _ | .operation _ => rfl
  | .withoutIrq body | .masked body => requestsAll_barredAll body

theorem requestsAll_barredAll : (commands : List (Command ι)) →
    requestsAll (barredAll commands) = (requestsAll commands).map Request.barred
  | [] => rfl
  | command :: rest => by
    rw [barredAll, requestsAll, requestsAll, List.map_append, requests_barred command,
      requestsAll_barredAll rest]

end

/-- A run of commands does without the steps that may let IRQs through, in the commands and in the
handlers that it runs: it is the same when each of these steps is made to fail. -/
def Abstains (firmware : Firmware ι) (frames : Nat) (commands : List (Command ι))
    (start : System β γ) : Prop :=
  runAll firmware.barred frames (barredAll commands) start = runAll firmware frames commands start

end Command

section Barred

variable [WritableBits γ]

theorem StatusOp.respects_of_not_mayUnmask {op : StatusOp} (harmless : op.mayUnmask = false) :
    op.Respects γ HoldsIrq := by
  intro register held word writes
  refine HoldsIrq.write register ?_
  cases op with
  | write | enableIrq => cases harmless
  | read | irqEnabled | fiqEnabled => cases writes
  | disableIrq | disableFiq =>
    obtain rfl := Option.some.inj writes
    exact held.or _
  | enableFiq =>
    obtain rfl := Option.some.inj writes
    rw [HoldsIrq, BitVec.and_assoc, show ~~~fiqMask &&& irqMask = irqMask by decide, held]

theorem Action.barred_respects (action : Action ι) : action.barred.Respects γ HoldsIrq := by
  cases action with
  | status op =>
    rw [barred]
    cases unmasks : op.mayUnmask with
    | true => trivial
    | false => exact StatusOp.respects_of_not_mayUnmask unmasks
  | _ => trivial

theorem Request.barred_respects (request : Request ι) : request.barred.Respects γ HoldsIrq := by
  cases request with
  | action wanted => exact wanted.barred_respects
  | operation op => trivial

theorem Program.barred_uses (program : Program ι) :
    program.barred.Uses (Action.Respects γ HoldsIrq) := by
  induction program with
  | finish => trivial
  | act action next ih => exact ⟨action.barred_respects, ih⟩

namespace Command

/-- **Commands that abstain** keep IRQs held back. -/
theorem stays_of_abstains {firmware : Firmware ι} {frames : Nat} {commands : List (Command ι)}
    {begun ended : System β γ} {answers : List Answer}
    (abstains : Abstains firmware frames commands begun) (held : HoldsIrq begun.machine.word)
    (returns : runAll firmware frames commands begun = .ok answers ended) :
    begun.machine.Stays HoldsIrq ended.machine := by
  have keeps : Maintains (System.FitsSince begun.machine HoldsIrq)
      (runAll firmware.barred frames (barredAll commands) : Run β γ (List Answer)) :=
    runAll_fits HoldsIrq.stable (fun handler => (firmware.program handler).barred_uses) frames _
      fun request member => by
        rw [requestsAll_barredAll] at member
        obtain ⟨asked, -, rfl⟩ := List.mem_map.mp member
        exact asked.barred_respects
  have now : System.FitsSince begun.machine HoldsIrq begun := .refl held
  exact keeps.of_ok now (Eq.trans abstains returns)

end Command

end Barred

/-! ### Scopes in a run -/

/-- A run of commands that begins in the first system enters the scope in the second one. -/
inductive Command.Enters (firmware : Firmware ι) (frames : Nat) (hold : Hold)
    (body : List (Command ι)) (entered : System β γ) : List (Command ι) → System β γ → Prop
  /-- The run begins with the scope. -/
  | here (rest : List (Command ι)) : Enters firmware frames hold body entered
      (hold.command body :: rest) entered
  /-- The scope is nested in the first command. -/
  | within {outer : Hold} {scope rest : List (Command ι)} {saved : StatusWord}
      {start begun : System β γ} (begins : outer.begin start = .ok saved begun)
      (enters : Enters firmware frames hold body entered scope begun) :
      Enters firmware frames hold body entered (outer.command scope :: rest) start
  /-- The scope comes after the first command. -/
  | later {command : Command ι} {rest : List (Command ι)} {answer : Answer}
      {start middle : System β γ} (returns : command.run firmware frames start = .ok answer middle)
      (enters : Enters firmware frames hold body entered rest middle) :
      Enters firmware frames hold body entered (command :: rest) start

/-- How a scope passes that is entered in one system and left in another. Its body begins and ends
in the two systems between them. -/
structure Hold.Passage (firmware : Firmware ι) (frames : Nat) (hold : Hold)
    (body : List (Command ι)) (entered begun ended left : System β γ) : Prop where
  begins : hold.begin entered = .ok entered.machine.word begun
  returns : ∃ answers, Command.runAll firmware frames body begun = .ok answers ended ∧
    (hold.command body).run firmware frames entered = .ok (.scope answers) left
  /-- The body begins with the mask set, and the rest of the status word as it was. -/
  masked : begun.machine.word = entered.machine.word ||| irqMask
  /-- The status word is restored, whatever the body did to it. -/
  restored : left.machine.word = entered.machine.word
  /-- IRQs are held back all the time if the body does nothing about it. -/
  held : Command.Abstains firmware frames body begun → begun.machine.Stays HoldsIrq ended.machine

section Runs

variable {firmware : Firmware ι} {frames : Nat} {hold : Hold} {body : List (Command ι)}

theorem Hold.of_run_command_ok {entered left : System β γ} {answer : Answer}
    (runs : (hold.command body).run firmware frames entered = .ok answer left) :
    ∃ answers, answer = .scope answers ∧
      hold.scope (Command.runAll firmware frames body) entered = .ok answers left := by
  rw [run_command] at runs
  obtain ⟨answers, _, inner, result⟩ := bind_eq_ok.mp runs
  cases result
  exact ⟨answers, rfl, inner⟩

/-- A scope that a run enters is left, if the run returns. -/
theorem Command.Enters.left {program : List (Command ι)} {start after entered : System β γ}
    {answers : List Answer} (enters : Enters firmware frames hold body entered program start)
    (returns : runAll firmware frames program start = .ok answers after) :
    ∃ answer left, (hold.command body).run firmware frames entered = .ok answer left := by
  induction enters generalizing after answers with
  | here rest =>
    obtain ⟨answer, left, runs, -⟩ := bind_eq_ok.mp returns
    exact ⟨answer, left, runs⟩
  | within begins _ ih =>
    obtain ⟨answer, middle, runs, -⟩ := bind_eq_ok.mp returns
    obtain ⟨answers, -, scope⟩ := Hold.of_run_command_ok runs
    obtain ⟨ended, inner, -⟩ := Hold.of_scope_ok _ scope
    rw [stateAfter_ok begins] at inner
    exact ih inner
  | later runs _ ih =>
    obtain ⟨answer, middle, first, rest⟩ := bind_eq_ok.mp returns
    obtain ⟨rfl, rfl⟩ : _ = answer ∧ _ = middle := by
      rw [runs] at first
      injection first with value state
      exact ⟨value, state⟩
    obtain ⟨others, _, rest, -⟩ := bind_eq_ok.mp rest
    exact ih rest

variable [WritableBits γ]

/-- **A scope that is left** passes as it should. -/
theorem Hold.passage {entered left : System β γ} {answer : Answer}
    (runs : (hold.command body).run firmware frames entered = .ok answer left) :
    ∃ begun ended, hold.Passage firmware frames body entered begun ended left := by
  obtain ⟨answers, rfl, scope⟩ := of_run_command_ok runs
  obtain ⟨ended, returns, restores⟩ := hold.of_scope_ok scope
  have masked := hold.word_begin entered
  -- What cannot be written is as it was when the scope was entered.
  have now : FixedLike γ entered.machine.word entered.machine.word := rfl
  have begun := hold.begin_fits (FixedLike.stable entered.machine.word) entered (.refl now)
  have fixed := ((Command.runAll_fixed _ frames body).of_ok begun returns).last
  refine ⟨stateAfter hold.begin entered, ended, hold.begin_ok entered, ⟨answers, returns, runs⟩,
    masked, ?_, fun abstains => Command.stays_of_abstains abstains ?_ returns⟩
  · rw [Machine.word, restores]
    exact fixed.value_restore
  · rw [masked, HoldsIrq]
    grind

end Runs

end Commands

/-- The bits above the control field. -/
theorem FixedLike.ushiftRight {other word : StatusWord}
    (fixed : FixedLike ControlField other word) : word >>> 8 = other >>> 8 := by
  have high : ∀ place < 24, (~~~0xFF : StatusWord).getLsbD (8 + place) = true := by decide
  ext place small
  have bit : (word &&& ~~~0xFF).getLsbD (8 + place) = (other &&& ~~~0xFF).getLsbD (8 + place) :=
    congrArg (BitVec.getLsbD · (8 + place)) fixed
  rw [BitVec.getElem_ushiftRight, BitVec.getElem_ushiftRight]
  by_cases inside : place < 24
  · rwa [BitVec.getLsbD_and, BitVec.getLsbD_and, high place inside, Bool.and_true,
      Bool.and_true] at bit
  · rw [BitVec.getLsbD_of_ge word _ (by omega), BitVec.getLsbD_of_ge other _ (by omega)]

/-- **Scopes restore the status word.** -/
theorem scopes_restore_status {ι β : Type} [RegisterBank β] [Benched ι β] (firmware : Firmware ι)
    (frames : Nat) (program : List (Command ι)) :
    (∀ {start after : System β ControlField} {answers : List Answer},
      Command.runAll firmware frames program start = .ok answers after →
      (∀ hold body entered, Command.Enters firmware frames hold body entered program start →
        ∃ begun ended left, hold.Passage firmware frames body entered begun ended left) ∧
      start.machine.Stays (fun word => word >>> 8 = start.machine.word >>> 8) after.machine) ∧
    ∀ {start after : System β OpenStatus} {answers : List Answer},
      Command.runAll firmware frames program start = .ok answers after →
      ∀ hold body entered, Command.Enters firmware frames hold body entered program start →
        ∃ begun ended left, hold.Passage firmware frames body entered begun ended left := by
  have passes : ∀ {γ : Type} [StatusRegister γ] [WritableBits γ] {start after : System β γ}
      {answers : List Answer}, Command.runAll firmware frames program start = .ok answers after →
      ∀ hold body entered, Command.Enters firmware frames hold body entered program start →
        ∃ begun ended left, hold.Passage firmware frames body entered begun ended left := by
    intro γ _ _ start after answers returns hold body entered enters
    obtain ⟨answer, left, runs⟩ := enters.left returns
    obtain ⟨begun, ended, passage⟩ := Hold.passage runs
    exact ⟨begun, ended, left, passage⟩
  refine ⟨fun returns => ⟨passes returns, ?_⟩, passes⟩
  refine Machine.Stays.mono ?_ fun word => FixedLike.ushiftRight
  exact (Command.runAll_fixed _ frames program).of_ok (.refl rfl) returns

/-- Whether a step returns. -/
def succeeds {ε σ α : Type} (step : EStateM ε σ α) (state : σ) : Bool :=
  match step state with
  | .ok _ _ => true
  | .error _ _ => false

theorem exists_of_succeeds {ε σ α : Type} {step : EStateM ε σ α} {state : σ}
    (returned : succeeds step state = true) : ∃ value after, step state = .ok value after := by
  unfold succeeds at returned
  cases result : step state with
  | ok value after => exact ⟨value, after, rfl⟩
  | error fault after =>
    rw [result] at returned
    cases returned

/-- A firmware whose handlers let IRQs through, but not before a vector has been read. -/
def Firmware.hesitant : Firmware Simulated.BenchAction where
  program _ := .act (.bench .vectorReads) fun
    | .number 0 => .finish
    | _ => .ofList [.status .enableIrq]
  nesting := 1

/-- One scope in another. The body of the outer one lets IRQs through at last, and writes to all
bits, those included that cannot be written on the processor. The handler that runs in the inner one
lets nothing through. -/
theorem scopes_restore_status_nested :
    let inner : List (Command Simulated.BenchAction) := [.action (.call (.context 1))]
    let outer : List (Command Simulated.BenchAction) :=
      [.masked inner, .action (.status (.write 0xFFFFFF10))]
    let start : System Simulated ControlField := .fresh ⟨.powerUp, ⟨0x53⟩, .off, #[]⟩
    let openStart : System Simulated OpenStatus := .fresh ⟨.powerUp, ⟨0x53⟩, .off, #[]⟩
    (∃ begun ended left, ended.machine.word = 0x10 ∧ left.machine.word = 0x53 ∧
      Hold.withoutIrq.Passage Firmware.hesitant 2 outer start begun ended left) ∧
    (∃ entered begun ended left : System Simulated ControlField,
      begun.machine.Stays HoldsIrq ended.machine ∧
      Hold.masked.Passage Firmware.hesitant 2 inner entered begun ended left) ∧
    ∃ begun ended left, ended.machine.word = 0xFFFFFF10 ∧ left.machine.word = 0x53 ∧
      Hold.withoutIrq.Passage Firmware.hesitant 2 outer openStart begun ended left := by
  intro inner outer start openStart
  have abstains : ∀ system : System Simulated ControlField, system.machine.bank.vectorReads = 0 →
      Command.Abstains Firmware.hesitant 2 inner system := by
    rintro ⟨⟨⟨⟩⟩⟩ none
    cases none
    rfl
  obtain ⟨processor, every⟩ :=
    scopes_restore_status (β := Simulated) Firmware.hesitant 2 [.withoutIrq outer]
  obtain ⟨answers, after, runs⟩ := exists_of_succeeds (show succeeds
    (Command.runAll Firmware.hesitant 2 [.withoutIrq outer]) start = true by decide +kernel)
  obtain ⟨openAnswers, openAfter, openRuns⟩ := exists_of_succeeds (show succeeds
    (Command.runAll Firmware.hesitant 2 [.withoutIrq outer]) openStart = true by decide +kernel)
  refine ⟨?_, ?_, ?_⟩
  · obtain ⟨begun, ended, left, passage⟩ := (processor runs).1 .withoutIrq outer start (.here [])
    refine ⟨begun, ended, left, ?_, passage.restored, passage⟩
    obtain ⟨inside, runs, -⟩ := passage.returns
    rw [← stateAfter_ok runs, ← stateAfter_ok passage.begins]
    decide +kernel
  · have begins := Hold.withoutIrq.begin_ok start
    obtain ⟨begun, ended, left, passage⟩ :=
      (processor runs).1 .masked inner _ (.within begins (.here _))
    refine ⟨_, begun, ended, left, passage.held (abstains begun ?_), passage⟩
    rw [← stateAfter_ok passage.begins]
    rfl
  · obtain ⟨begun, ended, left, passage⟩ := every openRuns .withoutIrq outer openStart (.here [])
    refine ⟨begun, ended, left, ?_, passage.restored, passage⟩
    obtain ⟨inside, runs, -⟩ := passage.returns
    rw [← stateAfter_ok runs, ← stateAfter_ok passage.begins]
    decide +kernel

end VectoredInterrupts
