/-
**The state of a line.**

Four things are known of a line (`Aspect`): whether a peripheral asserts it, whether software
requests it, whether it is enabled, and whether it is routed to FIQ. A request on the lines settles
one of them (`Request.setting?`) for the lines that it names, by a mask or by number, whether the
controller has a register that sets bits, one that clears them, or one that is read and written back.

* `Handlers.perform_obeys`: a request settles what it says of the lines it names, and nothing of the
  others;
* `Handlers.carryOut_settled`: after a run the last request counts that settled a thing of a line;
* `line_state_last_settled`: what the status registers report then.
-/

import VectoredInterrupts.Proofs.Independence
import VectoredInterrupts.Proofs.Dispatch.Agreement

namespace VectoredInterrupts

/-- What is known of a line. -/
inductive Aspect where
  /-- Asserted by a peripheral. -/
  | input
  /-- Requested by software. -/
  | soft
  | enabled
  /-- Routed to FIQ. -/
  | fiq
deriving DecidableEq

namespace Simulated

/-- The lines of which an aspect is true. -/
def aspect (controller : Simulated) : Aspect → LineSet
  | .input => controller.inputs
  | .soft => controller.soft
  | .enabled => controller.enabled
  | .fiq => controller.select

/-- The controller with other lines in an aspect. -/
def withAspect (controller : Simulated) (lines : LineSet) : Aspect → Simulated
  | .input => { controller with inputs := lines }
  | .soft => { controller with soft := lines }
  | .enabled => { controller with enabled := lines }
  | .fiq => { controller with select := lines }

end Simulated

/-- What a request settles: an aspect, of the lines that it names. -/
structure Setting where
  aspect : Aspect
  /-- What is true of a line from now on, if the line is named. -/
  value? : Nat → Option Bool

namespace Setting

/-- The lines of a mask are set or cleared. Bits from 32 on name no line. -/
def masked (aspect : Aspect) (mask : Word) (value : Bool) : Setting :=
  ⟨aspect, fun line => if mask.getLsbD line then some value else none⟩

/-- One line is set or cleared. -/
def single (aspect : Aspect) (named : Nat) (value : Bool) : Setting :=
  ⟨aspect, fun line => if line = named then some value else none⟩

/-- Every line is set or cleared. -/
def whole (aspect : Aspect) (mask : Word) : Setting :=
  ⟨aspect, fun line => some (mask.getLsbD line)⟩

end Setting

/-- What a request settles, if it is about the lines at all. A software request is withdrawn
whether or not the line is asserted otherwise. -/
def Request.setting? : Request Simulated.BenchAction → Option Setting
  | .action (.bench (.raise line)) => some (.single .input line true)
  | .action (.bench (.lower line)) => some (.single .input line false)
  | .action (.register (.enableLines mask)) => some (.masked .enabled mask true)
  | .action (.register (.disableLines mask)) => some (.masked .enabled mask false)
  | .action (.register (.raiseSoft mask)) => some (.masked .soft mask true)
  | .action (.register (.clearSoft mask)) => some (.masked .soft mask false)
  | .action (.register (.setSelect mask)) => some (.whole .fiq mask)
  | .action (.line (.enable line)) => some (.single .enabled line true)
  | .action (.line (.disable line)) => some (.single .enabled line false)
  | .action (.line (.setRoute line target)) => some (.single .fiq line (target == .fiq))
  | .action (.line (.raise line)) => some (.single .soft line true)
  | .action (.line (.clear line)) => some (.single .soft line false)
  | _ => none

/-- What a request settles of one line, if it names the line. -/
def Request.settles? (aspect : Aspect) (line : Nat) (request : Request Simulated.BenchAction) :
    Option Bool :=
  request.setting?.bind fun setting =>
    if setting.aspect = aspect then setting.value? line else none

/-- What a run has settled of a line: the last request counts that names the line in the aspect. At
first nothing is true of any line. -/
def settled (requests : List (Request Simulated.BenchAction)) (aspect : Aspect) (line : Nat) :
    Bool :=
  (requests.filterMap (Request.settles? aspect line)).getLast?.getD false

/-! ### One request -/

/-- The lines named are as a request settles them, and all others as they were. -/
def Simulated.Obeys (before after : Simulated) (setting : Setting) : Prop :=
  ∀ aspect, ∀ line < lineCount, (after.aspect aspect).getLsbD line =
    (if setting.aspect = aspect then setting.value? line else none).getD
      ((before.aspect aspect).getLsbD line)

namespace Simulated

variable {controller : Simulated}

theorem aspect_withAspect (controller : Simulated) (lines : LineSet) (changed aspect : Aspect) :
    (controller.withAspect lines changed).aspect aspect =
      if changed = aspect then lines else controller.aspect aspect := by
  cases changed <;> cases aspect <;> rfl

theorem Obeys.of_bits {aspect : Aspect} {value? : Nat → Option Bool} {lines : LineSet}
    (bits : ∀ line < lineCount, lines.getLsbD line =
      (value? line).getD ((controller.aspect aspect).getLsbD line)) :
    controller.Obeys (controller.withAspect lines aspect) ⟨aspect, value?⟩ := by
  intro other line small
  rw [aspect_withAspect]
  by_cases same : aspect = other
  · subst same
    rw [if_pos rfl, if_pos rfl]
    exact bits line small
  · rw [if_neg same, if_neg same]
    rfl

/-- A register that sets the bits written as 1. -/
theorem obeys_set (controller : Simulated) (aspect : Aspect) (mask : Word) :
    controller.Obeys (controller.withAspect (controller.aspect aspect ||| mask.lines) aspect)
      (.masked aspect mask true) := by
  refine Obeys.of_bits fun line small => ?_
  rw [BitVec.getLsbD_or, Word.getLsbD_lines mask line small]
  cases mask.getLsbD line <;> simp

/-- A register that clears the bits written as 1. -/
theorem obeys_clear (controller : Simulated) (aspect : Aspect) (mask : Word) :
    controller.Obeys (controller.withAspect (controller.aspect aspect &&& ~~~mask.lines) aspect)
      (.masked aspect mask false) := by
  refine Obeys.of_bits fun line small => ?_
  have inside : line < 32 := small
  rw [BitVec.getLsbD_and, BitVec.getLsbD_not, Word.getLsbD_lines mask line small]
  cases mask.getLsbD line <;> simp [inside]

/-- A register that is written as a whole. -/
theorem obeys_write (controller : Simulated) (aspect : Aspect) (mask : Word) :
    controller.Obeys (controller.withAspect mask.lines aspect) (.whole aspect mask) := by
  refine Obeys.of_bits fun line small => ?_
  exact Word.getLsbD_lines mask line small

/-- A line that does not exist is not named. -/
theorem obeys_beyond (controller : Simulated) (aspect : Aspect) {named : Nat}
    (large : ¬ named < lineCount) (value : Bool) :
    controller.Obeys controller (.single aspect named value) := by
  intro other line small
  have apart : ¬ line = named := fun same => large (same ▸ small)
  simp [Setting.single, apart]

end Simulated

/-! ### Operations on one line -/

/-- The mask of one line names that line. -/
theorem getLsbD_lineBit {named line : Nat} (small : named < lineCount) (inside : line < lineCount) :
    (1#64 <<< named).getLsbD line = decide (line = named) := by
  rw [← Word.getLsbD_lines _ line inside, Word.lines_bit small, BitVec.getLsbD_twoPow]
  simp only [lineCount] at small inside
  simp [small, eq_comm]

theorem LineSet.getLsbD_word (lines : LineSet) {line : Nat} (small : line < lineCount) :
    lines.word.getLsbD line = lines.getLsbD line := by
  rw [← Word.getLsbD_lines _ line small, LineSet.lines_word]

theorem LineSet.and_lineBit_ne_zero (lines : LineSet) {line : Nat} (small : line < lineCount) :
    lines.word &&& 1#64 <<< line ≠ 0 ↔ lines.getLsbD line = true := by
  have each : ∀ line : Fin 32, BitVec.twoPow 64 line.val ≠ 0 := by decide
  rw [← BitVec.twoPow_eq, BitVec.and_twoPow, LineSet.getLsbD_word _ small]
  by_cases member : lines.getLsbD line = true
  · rw [if_pos member]
    exact iff_of_true (each ⟨line, small⟩) member
  · rw [if_neg member]
    exact iff_of_false (fun different => different rfl) member

/-- To name a line by its mask is to name it by its number. -/
theorem Simulated.Obeys.single {before after : Simulated} {aspect : Aspect} {named : Nat}
    {value : Bool} (small : named < lineCount)
    (obeys : before.Obeys after (.masked aspect (1#64 <<< named) value)) :
    before.Obeys after (.single aspect named value) := by
  intro other line inside
  have same : (Setting.masked aspect (1#64 <<< named) value).value? line =
      (Setting.single aspect named value).value? line := by
    show (if (1#64 <<< named).getLsbD line = true then some value else none) =
      if line = named then some value else none
    rw [getLsbD_lineBit small inside]
    simp only [decide_eq_true_eq]
  rw [obeys other line inside, same]
  rfl

/-- A routing is read back, changed in one bit and written. -/
theorem Simulated.obeys_route (controller : Simulated) {named : Nat} (small : named < lineCount)
    (target : Route) :
    controller.Obeys (controller.withAspect (match target with
      | .irq => Word.lines (controller.select.word &&& ~~~(1#64 <<< named))
      | .fiq => Word.lines (controller.select.word ||| 1#64 <<< named)) .fiq)
      (.single .fiq named (target == .fiq)) := by
  have inWord : ∀ line < lineCount, line < 64 := fun line inside => Nat.lt_trans inside (by decide)
  refine Obeys.of_bits fun line inside => ?_
  cases target with
  | irq =>
    rw [Word.getLsbD_lines _ line inside, BitVec.getLsbD_and, BitVec.getLsbD_not,
      getLsbD_lineBit small inside, LineSet.getLsbD_word _ inside,
      decide_eq_true (inWord line inside)]
    by_cases same : line = named <;> simp [same, Simulated.aspect]
  | fiq =>
    rw [Word.getLsbD_lines _ line inside, BitVec.getLsbD_or, getLsbD_lineBit small inside,
      LineSet.getLsbD_word _ inside]
    by_cases same : line = named <;> simp [same, Simulated.aspect]

section Requests

variable {γ α : Type}

/-- An operation that settles something of one line, if the line exists. -/
theorem obeys_of_ite {aspect : Aspect} {named : Nat} {value : Bool}
    {body : Bus Simulated γ (Except Refusal α)} {accept : α → Reply} {machine : Machine Simulated γ}
    (obeys : named < lineCount →
      machine.bank.Obeys (stateAfter body machine).bank (.single aspect named value)) :
    machine.bank.Obeys (stateAfter ((if named < lineCount then body
      else Bus.refuse .lineOutOfRange) >>= fun result => pure (Reply.ofResult accept result))
        machine).bank (.single aspect named value) := by
  rw [stateAfter_reply]
  by_cases small : named < lineCount
  · rw [if_pos small]
    exact obeys small
  · rw [if_neg small, stateAfter_ok (Bus.refuse_ok _ _), Machine.logged_bank]
    exact Simulated.obeys_beyond _ aspect small value

/-- **An operation on one line.** -/
theorem LineOp.perform_obeys {op : LineOp} {setting : Setting}
    (settles : (Request.action (.line op)).setting? = some setting)
    (machine : Machine Simulated γ) :
    machine.bank.Obeys (stateAfter op.perform machine).bank setting := by
  have bit : ∀ {named}, named < lineCount → lineBit named = .ok (1#64 <<< named) :=
    fun small => lineBit_ok (Nat.lt_trans small (by decide))
  cases op with
  | isEnabled | route => cases settles
  | enable named =>
    obtain rfl := Option.some.inj settles
    refine obeys_of_ite fun small => ?_
    rw [bit small]
    exact (Simulated.obeys_set _ .enabled _).single small
  | disable named =>
    obtain rfl := Option.some.inj settles
    refine obeys_of_ite fun small => ?_
    rw [bit small]
    exact (Simulated.obeys_clear _ .enabled _).single small
  | raise named =>
    obtain rfl := Option.some.inj settles
    refine obeys_of_ite fun small => ?_
    rw [bit small]
    exact (Simulated.obeys_set _ .soft _).single small
  | setRoute named target =>
    obtain rfl := Option.some.inj settles
    refine obeys_of_ite fun small => ?_
    rw [bit small]
    cases target with
    | irq => exact Simulated.obeys_route _ small .irq
    | fiq => exact Simulated.obeys_route _ small .fiq
  | clear named =>
    obtain rfl := Option.some.inj settles
    by_cases small : named < lineCount
    · obtain ⟨reply, after, returns, -, -, bank⟩ :=
        clearLine_of_small small ⟨machine, .vacant, .vacant, .polled, 0⟩
      rw [stateAfter_ok returns, bank, ← Word.lines_bit small]
      exact (Simulated.obeys_clear _ .soft _).single small
    · refine obeys_of_ite fun inside => absurd inside small

/-! ### Requests -/

/-- **An access to a whole set of lines.** -/
theorem RegisterOp.perform_obeys {op : RegisterOp} {setting : Setting}
    (settles : (Request.action (.register op)).setting? = some setting)
    (machine : Machine Simulated γ) :
    machine.bank.Obeys (stateAfter op.perform machine).bank setting := by
  cases op with
  | enableLines mask =>
    obtain rfl := Option.some.inj settles
    exact Simulated.obeys_set _ .enabled mask
  | disableLines mask =>
    obtain rfl := Option.some.inj settles
    exact Simulated.obeys_clear _ .enabled mask
  | raiseSoft mask =>
    obtain rfl := Option.some.inj settles
    exact Simulated.obeys_set _ .soft mask
  | clearSoft mask =>
    obtain rfl := Option.some.inj settles
    exact Simulated.obeys_clear _ .soft mask
  | setSelect mask =>
    obtain rfl := Option.some.inj settles
    exact Simulated.obeys_write _ .fiq mask
  | _ => cases settles

/-- **The input of a line**, driven by the bench. A line that does not exist cannot be driven. -/
theorem Simulated.drive_obeys (named : Nat) (level : Bool) (controller : Simulated) :
    controller.Obeys (stateAfter (do drive named level; return Reply.done) controller)
      (.single .input named level) := by
  rw [stateAfter_reply]
  unfold stateAfter drive LineSet.put
  by_cases small : named < lineCount
  · rw [if_pos (show named < 32 from small)]
    refine Obeys.single small ?_
    rw [← BitVec.twoPow_eq, ← Word.lines_bit small]
    cases level with
    | true => exact obeys_set _ .input _
    | false => exact obeys_clear _ .input _
  · rw [if_neg (show ¬ named < 32 from small)]
    exact obeys_beyond _ .input small level

/-! ### Reports -/

/-- A step of the machine returns a value, and has only read. -/
def Bus.Reads (step : Bus Simulated γ α) (machine : Machine Simulated γ) (value : α) : Prop :=
  ∃ events : List Event, (∀ event ∈ events, event.Inert) ∧
    step machine = .ok value { machine with trace := machine.trace ++ events.toArray }

theorem Bus.reads_pure (value : α) (machine : Machine Simulated γ) :
    (pure value : Bus Simulated γ α).Reads machine value :=
  ⟨[], nofun, by rw [Array.append_empty]; rfl⟩

theorem Bus.Reads.bind {ρ : Type} {step : Bus Simulated γ α} {next : α → Bus Simulated γ ρ}
    {machine : Machine Simulated γ} {value : α} {result : ρ} (reads : Bus.Reads step machine value)
    (onwards : ∀ trace, Bus.Reads (next value) { machine with trace } result) :
    Bus.Reads (step >>= next) machine result := by
  obtain ⟨early, inert, returns⟩ := reads
  obtain ⟨late, inert', returns'⟩ := onwards (machine.trace ++ early.toArray)
  have joined : machine.trace ++ early.toArray ++ late.toArray =
      machine.trace ++ (early ++ late).toArray := by simp
  refine ⟨early ++ late, fun event member => ?_, (bind_ok returns).trans (returns'.trans ?_)⟩
  · exact (List.mem_append.mp member).elim (inert event) (inert' event)
  · simp only [joined]

/-- Reading a register that does not change by it. -/
theorem Bus.reads_read {offset : Nat} {value : Word} {machine : Machine Simulated γ}
    (shows : RegisterBank.read offset machine.bank = .ok value machine.bank) :
    (Bus.read offset).Reads machine value :=
  ⟨[.read offset value], by simp [Event.Inert], (Bus.read_ok shows).trans (by simp)⟩

theorem Bus.reads_lines {offset : Nat} {lines : LineSet} {machine : Machine Simulated γ}
    (shows : RegisterBank.read offset machine.bank = .ok lines.word machine.bank) :
    (do return (← Bus.read offset).lines : Bus Simulated γ LineSet).Reads machine lines :=
  (Bus.reads_read shows).bind fun _ => by
    rw [LineSet.lines_word]
    exact Bus.reads_pure lines _

/-- Whether a line is enabled is read off the enabled lines. -/
theorem LineOp.isEnabled_reads (line : Nat) (machine : Machine Simulated γ) :
    Bus.Reads (LineOp.isEnabled line).perform machine
      (.flag (decide (line < lineCount) && machine.bank.enabled.getLsbD line)) := by
  rw [LineOp.perform, Bus.lineEnabled]
  by_cases small : line < lineCount
  · rw [if_pos small, decide_eq_true small, Bool.true_and]
    refine Bus.Reads.bind ((Bus.reads_lines rfl).bind fun _ => ?_) fun _ => Bus.reads_pure _ _
    rw [LineSet.test_ok small]
    exact Bus.reads_pure _ _
  · rw [if_neg small, decide_eq_false small, Bool.false_and]
    exact (Bus.reads_pure false machine).bind fun _ => Bus.reads_pure _ _

/-- How a line is routed is read off the select register. -/
theorem LineOp.route_reads (line : Nat) (machine : Machine Simulated γ) :
    Bus.Reads (LineOp.route line).perform machine (.route (if line < lineCount then
      some (if machine.bank.select.getLsbD line then .fiq else .irq) else none)) := by
  rw [LineOp.perform, Bus.lineRoute]
  by_cases small : line < lineCount
  · rw [if_pos small, if_pos small, lineBit_ok (Nat.lt_trans small (by decide))]
    refine Bus.Reads.bind ((Bus.reads_read rfl).bind fun trace => ?_) fun _ => Bus.reads_pure _ _
    show Bus.Reads (if machine.bank.select.word &&& 1#64 <<< line ≠ 0 then _ else _) _ _
    by_cases fiq : machine.bank.select.getLsbD line = true
    · rw [if_pos ((LineSet.and_lineBit_ne_zero _ small).mpr fiq), if_pos fiq]
      exact Bus.reads_pure _ _
    · rw [if_neg (mt (LineSet.and_lineBit_ne_zero _ small).mp fiq), if_neg fiq]
      exact Bus.reads_pure _ _
  · rw [if_neg small, if_neg small]
    exact (Bus.reads_pure none machine).bind fun _ => Bus.reads_pure _ _

theorem Bus.Reads.bank {step : Bus Simulated γ α} {machine : Machine Simulated γ} {value : α}
    (reads : Bus.Reads step machine value) : (stateAfter step machine).bank = machine.bank := by
  obtain ⟨events, -, returns⟩ := reads
  rw [stateAfter_ok returns]

end Requests

/-! ### Runs -/

section Runs

variable {γ : Type} [StatusRegister γ] (handlers : Handlers Simulated γ)

/-- What a request leaves in the controller that is a step of the machine. -/
theorem Handlers.bank_of_machine (request : Request Simulated.BenchAction)
    (step : Bus Simulated γ Reply) (performs : handlers.perform request = Run.onMachine step)
    (system : System Simulated γ) :
    (stateAfter (handlers.perform request) system).machine.bank =
      (stateAfter step system.machine).bank := by
  rw [performs, Run.stateAfter_onMachine]

/-- A request on the lines that settles nothing leaves the controller alone. -/
theorem Handlers.bank_of_unsettled {request : Request Simulated.BenchAction}
    (owned : request.part? = some .lines) (settles : request.setting? = none)
    (system : System Simulated γ) :
    (stateAfter (handlers.perform request) system).machine.bank = system.machine.bank := by
  cases request with
  | operation op => cases op <;> cases owned
  | action action =>
    cases action with
    | register op =>
      cases op with
      | irqStatus | fiqStatus | rawStatus | select | enabledLines | softLines => rfl
      | setSelect | enableLines | disableLines | raiseSoft | clearSoft => cases settles
      | _ => cases owned
    | line op =>
      rw [handlers.bank_of_machine (.action (.line op)) op.perform rfl]
      cases op with
      | isEnabled line => exact (LineOp.isEnabled_reads line system.machine).bank
      | route line => exact (LineOp.route_reads line system.machine).bank
      | enable | disable | setRoute | raise | clear => cases settles
    | bench drive =>
      cases drive with
      | raise | lower => cases settles
      | vectorReads | acknowledgements | inService => cases owned
    | status | call | interrupt | fail => cases owned

/-- **One request** settles what it says. -/
theorem Handlers.perform_obeys {request : Request Simulated.BenchAction} {setting : Setting}
    (settles : request.setting? = some setting) (system : System Simulated γ) :
    system.machine.bank.Obeys (stateAfter (handlers.perform request) system).machine.bank
      setting := by
  cases request with
  | operation op => cases settles
  | action action =>
    cases action with
    | register op =>
      rw [handlers.bank_of_machine (.action (.register op)) op.perform rfl]
      exact op.perform_obeys settles system.machine
    | line op =>
      rw [handlers.bank_of_machine (.action (.line op)) op.perform rfl]
      exact op.perform_obeys settles system.machine
    | bench drive =>
      rw [handlers.bank_of_machine (.action (.bench drive)) (Bus.onBank (Benched.act drive)) rfl,
        Bus.stateAfter_onBank]
      cases drive with
      | raise line =>
        obtain rfl := Option.some.inj settles
        exact Simulated.drive_obeys line true system.machine.bank
      | lower line =>
        obtain rfl := Option.some.inj settles
        exact Simulated.drive_obeys line false system.machine.bank
      | vectorReads | acknowledgements | inService => cases settles
    | status | call | interrupt | fail => cases settles

/-- A line that a request does not name is as it was, and one that it names as the request says. -/
theorem Handlers.settles_after {request : Request Simulated.BenchAction}
    (owned : request.part? = some .lines) (system : System Simulated γ) (aspect : Aspect)
    {line : Nat} (small : line < lineCount) :
    ((stateAfter (handlers.perform request) system).machine.bank.aspect aspect).getLsbD line =
      (request.settles? aspect line).getD
        ((system.machine.bank.aspect aspect).getLsbD line) := by
  unfold Request.settles?
  cases settles : request.setting? with
  | none =>
    rw [handlers.bank_of_unsettled owned settles]
    rfl
  | some setting => exact handlers.perform_obeys settles system aspect line small

/-- **After a run** on a controller that has just been switched on. -/
theorem Handlers.carryOut_settled {requests : List (Request Simulated.BenchAction)}
    (owned : ∀ request ∈ requests, request.part? = some .lines) {start : System Simulated γ}
    (fresh : start.machine.bank = .powerUp) (aspect : Aspect) {line : Nat}
    (small : line < lineCount) :
    ((handlers.carryOut requests start).machine.bank.aspect aspect).getLsbD line =
      settled requests aspect line := by
  have blank : (start.machine.bank.aspect aspect).getLsbD line = false := by
    rw [fresh]
    cases aspect <;> exact BitVec.getLsbD_zero
  rw [handlers.carryOut_last (fun system => (system.machine.bank.aspect aspect).getLsbD line)
    (Request.settles? aspect line) (fun request member system =>
      handlers.settles_after (owned request member) system aspect small), blank]
  rfl

/-- The request is answered with the reply, and nothing has changed but for reads and notices. -/
def Handlers.Tells (system : System Simulated γ) (request : Action Simulated.BenchAction)
    (reply : Reply) : Prop :=
  ∃ after, handlers.perform (.action request) system = .ok reply after ∧ system.Unaffected after

/-- How a system answers what it is asked about its lines. -/
structure Handlers.ReportsLines (facts : Aspect → Nat → Bool) (system : System Simulated γ) :
    Prop where
  /-- The lines asserted are those that a peripheral asserts or software requests. The ones that are
  enabled request an IRQ or an FIQ, by their routing and never both. -/
  status : ∃ irq fiq raw enabled : LineSet,
    handlers.Tells system (.register .irqStatus) (.bits irq) ∧
    handlers.Tells system (.register .fiqStatus) (.bits fiq) ∧
    handlers.Tells system (.register .rawStatus) (.bits raw) ∧
    handlers.Tells system (.register .enabledLines) (.bits enabled) ∧
    irq &&& fiq = 0 ∧ irq ||| fiq = raw &&& enabled ∧
    ∀ line < lineCount, raw.getLsbD line = (facts .input line || facts .soft line) ∧
      enabled.getLsbD line = facts .enabled line ∧
      irq.getLsbD line = (raw.getLsbD line && enabled.getLsbD line && !facts .fiq line) ∧
      fiq.getLsbD line = (raw.getLsbD line && enabled.getLsbD line && facts .fiq line)
  isEnabled : ∀ line, handlers.Tells system (.line (.isEnabled line))
    (.flag (decide (line < lineCount) && facts .enabled line))
  route : ∀ line, handlers.Tells system (.line (.route line)) (.route (if line < lineCount then
    some (if facts .fiq line then .fiq else .irq) else none))
  /-- Withdrawing a software request succeeds if the line is asserted. It is turned down without
  effect otherwise, and no line but this one is affected. -/
  clear : ∀ line < lineCount, ∃ after, handlers.perform (.action (.line (.clear line)) :
      Request Simulated.BenchAction) system = .ok (if facts .input line || facts .soft line then
        .number line else .refused .lineIdle) after ∧
    after.machine.bank = { system.machine.bank with
      soft := system.machine.bank.soft &&& ~~~BitVec.twoPow 32 line } ∧
    ((facts .input line || facts .soft line) = false → system.Unaffected after)
  beyond : ∀ line, lineCount ≤ line →
    handlers.Tells system (.line (.clear line)) (.refused .lineOutOfRange)

variable {handlers}

theorem Handlers.tells_of_reads {system : System Simulated γ}
    (request : Action Simulated.BenchAction) (step : Bus Simulated γ Reply) {reply : Reply}
    (performs : handlers.perform (.action request) = Run.onMachine step)
    (reads : Bus.Reads step system.machine reply) : handlers.Tells system request reply := by
  obtain ⟨events, inert, returns⟩ := reads
  refine ⟨_, ?_, events, rfl, inert⟩
  rw [performs]
  exact Run.onMachine_ok returns

/-- A set of lines is reported as its register presents it. -/
theorem Handlers.tells_lines {system : System Simulated γ} (op : RegisterOp) {offset : Nat}
    {lines : LineSet} (performs : (op.perform : Bus Simulated γ Reply) =
      (do return (← Bus.read offset).lines) >>= fun lines => pure (.bits lines))
    (shows : RegisterBank.read offset system.machine.bank = .ok lines.word system.machine.bank) :
    handlers.Tells system (.register op) (.bits lines) := by
  refine handlers.tells_of_reads _ op.perform rfl ?_
  rw [performs]
  exact (Bus.reads_lines shows).bind fun _ => Bus.reads_pure _ _

omit [StatusRegister γ] in
/-- No line requests both, and the lines that request one are those asserted and enabled. -/
theorem Simulated.status_splits (controller : Simulated) :
    controller.irqStatus &&& controller.fiqStatus = 0 ∧
      controller.irqStatus ||| controller.fiqStatus =
        controller.asserted &&& controller.enabled := by
  unfold irqStatus fiqStatus
  constructor
  · refine BitVec.eq_of_getLsbD_eq fun line inside => ?_
    simp only [BitVec.getLsbD_and, BitVec.getLsbD_not]
    cases controller.select.getLsbD line <;> simp
  · rw [← BitVec.and_or_distrib_left, BitVec.or_comm, BitVec.or_not_self, BitVec.and_allOnes]

/-- **What is reported** of the lines of a controller. -/
theorem Handlers.reportsLines {facts : Aspect → Nat → Bool} {system : System Simulated γ}
    (agree : ∀ aspect, ∀ line < lineCount,
      (system.machine.bank.aspect aspect).getLsbD line = facts aspect line) :
    handlers.ReportsLines facts system where
  status := by
    obtain ⟨apart, union⟩ := system.machine.bank.status_splits
    refine ⟨_, _, _, _, handlers.tells_lines .irqStatus rfl rfl,
      handlers.tells_lines .fiqStatus rfl rfl, handlers.tells_lines .rawStatus rfl rfl,
      handlers.tells_lines .enabledLines rfl rfl, apart, union, fun line small => ?_⟩
    have input := agree .input line small
    have soft := agree .soft line small
    have fiq := agree .fiq line small
    have inside : line < 32 := small
    refine ⟨?_, agree .enabled line small, ?_, ?_⟩
    · rw [Simulated.asserted, BitVec.getLsbD_or, ← input, ← soft]
      rfl
    · rw [Simulated.irqStatus, BitVec.getLsbD_and, BitVec.getLsbD_and, BitVec.getLsbD_not, ← fiq,
        decide_eq_true inside, Bool.true_and]
      rfl
    · rw [Simulated.fiqStatus, BitVec.getLsbD_and, BitVec.getLsbD_and, ← fiq]
      rfl
  isEnabled line := by
    have reads := LineOp.isEnabled_reads line system.machine
    by_cases small : line < lineCount
    · rw [← agree .enabled line small]
      exact handlers.tells_of_reads _ _ rfl reads
    · rw [decide_eq_false small, Bool.false_and] at reads ⊢
      exact handlers.tells_of_reads _ _ rfl reads
  route line := by
    have reads := LineOp.route_reads line system.machine
    by_cases small : line < lineCount
    · rw [← agree .fiq line small]
      exact handlers.tells_of_reads _ _ rfl reads
    · rw [if_neg small] at reads ⊢
      exact handlers.tells_of_reads _ _ rfl reads
  clear line small := by
    obtain ⟨reply, machine, returns, answer, unaffected, bank⟩ := clearLine_of_small small system
    have active : (facts .input line || facts .soft line) = true ↔
        system.machine.bank.inputs.getLsbD line = true ∨
          system.machine.bank.soft.getLsbD line = true := by
      rw [← agree .input line small, ← agree .soft line small, Bool.or_eq_true]
      rfl
    simp only [← active] at answer
    subst answer
    refine ⟨{ system with machine }, Run.onMachine_ok returns, bank, fun idle => unaffected ?_⟩
    rw [idle]
    rfl
  beyond line large := by
    refine ⟨_, Run.onMachine_ok (?_ : LineOp.perform (.clear line) system.machine = _),
      (System.Unaffected.refl system).logged (.refused .lineOutOfRange)⟩
    rw [LineOp.perform, Bus.clearLine, if_neg (Nat.not_lt.mpr large)]
    exact bind_ok (Bus.refuse_ok _ _)

end Runs

/-- **The state of a line is what was last settled of it.** After any requests on the lines of a
controller that has just been switched on, a line is asserted by a peripheral, requested by
software, enabled or routed to FIQ if and only if the last request that names the line in this
respect made it so. A request leaves the lines that it does not name as they are, and bits of a mask
from 32 on name none. The status registers and the questions about one line report these facts. -/
theorem line_state_last_settled {γ : Type} [StatusRegister γ] (handlers : Handlers Simulated γ)
    (requests : List (Request Simulated.BenchAction))
    (owned : ∀ request ∈ requests, request.part? = some .lines) (start : System Simulated γ)
    (fresh : start.machine.bank = .powerUp) :
    (∀ aspect, ∀ line < lineCount,
      ((handlers.carryOut requests start).machine.bank.aspect aspect).getLsbD line =
        settled requests aspect line) ∧
    (∀ request ∈ requests, ∀ system aspect, ∀ line < lineCount,
      request.settles? aspect line = none →
        ((stateAfter (handlers.perform request) system).machine.bank.aspect aspect).getLsbD line =
          (system.machine.bank.aspect aspect).getLsbD line) ∧
    handlers.ReportsLines (settled requests) (handlers.carryOut requests start) := by
  have facts : ∀ aspect, ∀ line < lineCount,
      ((handlers.carryOut requests start).machine.bank.aspect aspect).getLsbD line =
        settled requests aspect line :=
    fun aspect line small => handlers.carryOut_settled owned fresh aspect small
  refine ⟨facts, fun request member system aspect line small silent => ?_,
    Handlers.reportsLines facts⟩
  rw [handlers.settles_after (owned request member) system aspect small, silent]
  rfl

/-- Masks and single lines, in the low and the high half of a word. -/
theorem line_state_last_settled_mixed :
    let handlers : Handlers Simulated ControlField :=
      (Firmware.idle : Firmware Simulated.BenchAction).handlers 1
    let requests : List (Request Simulated.BenchAction) :=
      [.action (.bench (.raise 3)), .action (.register (.enableLines 0xFF000000FF)),
        .action (.line (.disable 4)), .action (.register (.setSelect 0x8)),
        .action (.line (.setRoute 3 .irq)), .action (.line (.raise 5)),
        .action (.line (.setRoute 5 .fiq)), .action (.bench (.lower 35)),
        .action (.line (.clear 4))]
    let start := System.fresh (.atPowerUp Simulated.powerUp)
    settled requests .enabled 3 = true ∧ settled requests .enabled 4 = false ∧
      settled requests .fiq 3 = false ∧ settled requests .fiq 5 = true ∧
      (∀ aspect, ∀ line < lineCount,
        ((handlers.carryOut requests start).machine.bank.aspect aspect).getLsbD line =
          settled requests aspect line) ∧
      handlers.ReportsLines (settled requests) (handlers.carryOut requests start) := by
  intro handlers requests start
  have owned : ∀ request ∈ requests, request.part? = some .lines := by decide
  obtain ⟨facts, -, reports⟩ := line_state_last_settled handlers requests owned start rfl
  exact ⟨by decide, by decide, by decide, by decide, facts, reports⟩

end VectoredInterrupts
