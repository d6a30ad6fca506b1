/-
**The count of spurious interrupts.**

A dispatch that no handler claims is counted, and the dummy handler serves it. A search may find the
dummy handler as well, where some line has been bound to it, and then it serves a dispatch that is
not counted. So since the system was last set up, dispatches have been counted at most as often as
they have served the dummy handler, and just as often if no search could find it.

* `Run.handleIrq_tally`: a dispatch counts and marks on the trace in one go. This is the step, for
  nested dispatches too;
* `Firmware.perform_tally`: every request, given what a dispatch may find when it begins;
* `spurious_tally`: after any run;
* `spurious_not_tallied`: the count of a run falls short if a search finds the dummy handler.
-/

import VectoredInterrupts.Proofs.Dispatch.Conduct
import Mathlib.Data.List.DropRight

namespace VectoredInterrupts

/-- Whether the handler is that of interrupts that nobody claims. -/
def Handler.isDummy : Handler → Bool
  | .routine .dummy | .spurious => true
  | .routine .fallback | .routine (.user _) | .context _ => false

/-- Whether a dispatch hands an interrupt to the dummy handler. -/
def Event.servesDummy : Event → Bool
  | .dispatched _ handler => handler.isDummy
  | .read .. | .wrote .. | .statusRead _ | .statusWrote _ | .logged _ | .entered _ | .returned _ =>
    false

/-- How often a dispatch has handed an interrupt to the dummy handler. -/
def Machine.dummies {β γ : Type} (machine : Machine β γ) : Nat :=
  machine.trace.toList.countP Event.servesDummy

/-- A dispatch may find the dummy handler by a search. -/
def Registry.FindsDummy (registry : Registry) : Prop :=
  ∃ handler, handler.isDummy = true ∧ registry.Finds handler

/-- Whether a request sets the system up. -/
def Request.setsUp {ι : Type} : Request ι → Bool
  | .operation .init => true
  | _ => false

theorem Request.eq_init_of_setsUp {ι : Type} {request : Request ι}
    (works : request.setsUp = true) : request = .operation .init := by
  unfold setsUp at works
  split at works
  · rfl
  · cases works

/-- A run up to the last time that it sets the system up; none of it, if it never does. -/
def Request.untilSetUp {ι : Type} (requests : List (Request ι)) : List (Request ι) :=
  requests.rdropWhile fun request => !request.setsUp

/-! ### One step -/

section Steps

variable {β γ : Type} {missed : Nat} {exact other : Prop} {system : System β γ}

/-- Of the dispatches that served the dummy handler `missed` have not been counted, or more; no more
of them if `exact` is the case. -/
structure System.Tally (missed : Nat) (exact : Prop) (system : System β γ) : Prop where
  most : system.spurious + missed ≤ system.machine.dummies
  exact : exact → system.spurious + missed = system.machine.dummies

theorem System.Tally.mono (tally : system.Tally missed exact) (weaker : other → exact) :
    system.Tally missed other :=
  ⟨tally.most, fun holds => tally.exact (weaker holds)⟩

theorem System.dummies_marked (active : Nat) (handler : Handler) (system : System β γ) :
    (system.marked active handler).machine.dummies =
      system.machine.dummies + if handler.isDummy then 1 else 0 := by
  rw [Machine.dummies, marked, Array.toList_push, List.countP_append, List.countP_singleton]
  rfl

/-- A mark that is not counted. -/
theorem System.Tally.marked (tally : system.Tally missed exact) (active : Nat) {handler : Handler}
    (real : exact → handler.isDummy = false) :
    (system.marked active handler).Tally missed exact := by
  have most : system.spurious + missed ≤ system.machine.dummies := tally.most
  have marks := System.dummies_marked active handler system
  refine ⟨?_, fun holds => ?_⟩
  · show system.spurious + missed ≤ _
    omega
  · rw [real holds] at marks
    exact (tally.exact holds).trans marks.symm

/-- A mark of the dummy handler that is counted. -/
theorem System.Tally.counted (tally : system.Tally missed exact) (active : Nat) {handler : Handler}
    (dummy : handler.isDummy = true) :
    ({ system with spurious := system.spurious + 1 }.marked active handler).Tally missed exact := by
  have marks := System.dummies_marked active handler { system with spurious := system.spurious + 1 }
  rw [if_pos dummy] at marks
  change _ = system.machine.dummies + 1 at marks
  have most : system.spurious + missed ≤ system.machine.dummies := tally.most
  refine ⟨?_, fun holds => ?_⟩
  · show system.spurious + 1 + missed ≤ _
    omega
  · have equal := tally.exact holds
    show system.spurious + 1 + missed = _
    omega

variable [RegisterBank β] {readable writable : Nat → Prop}

theorem Event.servesDummy_of_within {event : Event} (within : event.Within readable writable) :
    event.servesDummy = false := by
  cases event with
  | dispatched => exact within.elim
  | _ => rfl

/-- Code on the machine neither counts nor marks. -/
theorem System.closed_tally :
    Closed (System.Step readable writable)
      fun system : System β γ => system.Tally missed exact := by
  intro before after step tally
  obtain ⟨events, emits, within⟩ := step.emits
  have dummies : after.machine.dummies = before.machine.dummies := by
    have none : events.countP Event.servesDummy = 0 := List.countP_eq_zero.mpr fun event member =>
      Bool.eq_false_iff.mp (Event.servesDummy_of_within (within event member))
    rw [Machine.dummies, emits.trace, List.countP_append, none]
    rfl
  have spurious : after.spurious = before.spurious := by
    cases step
    rfl
  refine ⟨?_, ?_⟩
  · rw [spurious, dummies]
    exact tally.most
  · rw [spurious, dummies]
    exact tally.exact

/-- The registry is known, and the tally is right. -/
def System.Tallied (registry : Registry) (missed : Nat) (exact : Prop) (system : System β γ) :
    Prop :=
  system.registry = registry ∧ system.Tally missed exact

theorem System.closed_tallied (registry : Registry) :
    Closed (System.Step readable writable)
      fun system : System β γ => system.Tallied registry missed exact := by
  rintro before after step ⟨known, tally⟩
  refine ⟨?_, System.closed_tally step tally⟩
  cases step
  exact known

/-- **A dispatch.** It marks the handler that it serves at once when it has counted, so that what
the handler does begins with a tally that is right again. -/
theorem Run.handleIrq_tally {registry : Registry} (discerns : exact → ¬ registry.FindsDummy)
    {call : Nat → Handler → Run β γ Unit} {active : Nat}
    (calls : ∀ handler, Maintains (System.Tallied registry missed exact) (call active handler)) :
    Maintains (System.Tallied registry missed exact) (handleIrq call active) := by
  have serves : ∀ handler, (exact → handler.isDummy = false) →
      Maintains (System.Tallied registry missed exact) (dispatch call active handler) := by
    intro handler real
    refine Maintains.bind (fun system held => ?_) fun _ => calls handler
    exact ⟨held.1, held.2.marked active real⟩
  have closed : Closed (System.Step (fun _ => True) fun _ => True)
      (System.Tallied (β := β) (γ := γ) registry missed exact) := System.closed_tallied registry
  refine handleIrq_maintains_of_serves closed (fun _ _ => trivial) trivial ?_ ?_ ?_
  · intro begun now begins held handler finds
    refine serves handler fun holds => Bool.eq_false_iff.mpr fun dummy => ?_
    have mode : begun.mode = registry.mode := congrArg Registry.mode begins.1
    rw [held.1, mode] at finds
    exact discerns holds ⟨handler, dummy, finds⟩
  · intro number
    exact serves _ fun _ => rfl
  · intro handler spurious system held
    have dummy : handler.isDummy = true := by
      rcases spurious with rfl | rfl <;> rfl
    exact calls handler _ ⟨held.1, held.2.counted active dummy⟩

end Steps

/-! ### Requests -/

section Requests

variable {ι β γ : Type} [RegisterBank β] [StatusRegister γ] [Benched ι β] {missed : Nat}
  {exact : Prop} (firmware : Firmware ι) (frames : Nat)

omit [RegisterBank β] [StatusRegister γ] in
theorem System.bench_tally (action : ι) :
    Maintains (fun system : System β γ => system.Tally missed exact)
      (Run.onMachine (Bus.onBank (Benched.act action)) : Run β γ Reply) := by
  intro system tally
  rw [Run.stateAfter_onMachine, Bus.stateAfter_onBank]
  exact ⟨tally.most, tally.exact⟩

/-- What a handler runs takes interrupts only while a dispatch is in progress. -/
theorem Firmware.call_tally (registry : Registry) {active : Nat}
    (discerns : 0 < active → exact → ¬ registry.FindsDummy) (handler : Handler) :
    Maintains (System.Tallied (β := β) (γ := γ) registry missed exact)
      ((firmware.handlers frames).call active handler) := by
  have closed : Closed (System.Step (fun _ => True) fun _ => True)
      (System.Tallied (β := β) (γ := γ) registry missed exact) := System.closed_tallied registry
  refine Run.invoke_maintains_of_closed closed (fun action system held => ?_) (fun handler => ?_)
    frames (fun inside call calls active => ?_) handler
  · refine ⟨?_, System.bench_tally action system held.2⟩
    rw [Run.stateAfter_onMachine]
    exact held.1
  · exact .of_forall fun _ => ⟨fun _ _ => trivial, fun _ _ => trivial⟩
  · exact Run.handleIrq_tally (discerns inside) (calls active)

/-- **A request** other than to set the system up. -/
theorem Firmware.perform_tally {request : Request ι} (works : request.setsUp = false)
    {system : System β γ}
    (discerns : request = .operation .handleIrq → exact → ¬ system.registry.FindsDummy)
    (tally : system.Tally missed exact) :
    (stateAfter ((firmware.handlers frames).perform request) system).Tally missed exact := by
  have idle : ¬ 0 < 0 := Nat.lt_irrefl 0
  have closed : Closed (System.Step (fun _ => True) fun _ => True)
      fun system : System β γ => system.Tally missed exact := System.closed_tally
  have calls : ∀ handler, Maintains (fun system : System β γ => system.Tally missed exact)
      ((firmware.handlers frames).call 0 handler) := by
    intro handler now held
    exact (firmware.call_tally frames now.registry (absurd · idle) handler now ⟨rfl, held⟩).2
  cases request with
  | action action =>
    exact Run.perform_maintains_of_closed closed System.bench_tally calls (absurd · idle) action
      (fun _ _ => trivial) (fun _ _ => trivial) system tally
  | operation op =>
    by_cases dispatch : op = .handleIrq
    · subst dispatch
      have calls : ∀ handler, Maintains (System.Tallied system.registry missed exact)
          ((firmware.handlers frames : Handlers β γ).call 1 handler) :=
        firmware.call_tally frames system.registry fun _ => discerns rfl
      have served := (Run.handleIrq_tally (discerns rfl) calls).bind fun _ => .pure Reply.done
      exact (served system ⟨rfl, tally⟩).2
    · refine op.perform_maintains_of_closed closed (fun _ _ => trivial) (fun _ _ => trivial)
        (fun _ => calls) (absurd · dispatch) ?_ ?_ ?_ ?_ system tally
      · intro system mode held
        exact ⟨held.most, held.exact⟩
      · intro change _ system held
        exact ⟨held.most, held.exact⟩
      · intro _ system table held
        exact ⟨held.most, held.exact⟩
      · intro setUp
        subst setUp
        cases works

/-- Since the system was last set up, no dispatch has begun that could find the dummy handler. -/
def Handlers.Discerns (handlers : Handlers β γ) (requests : List (Request ι))
    (start : System β γ) : Prop :=
  ∀ earlier, Request.untilSetUp requests <+: earlier →
    earlier ++ [.operation .handleIrq] <+: requests →
      ¬ (handlers.carryOut earlier start).registry.FindsDummy

/-- Which dispatches a run has begun is known before the last request. -/
theorem Handlers.Discerns.of_concat {handlers : Handlers β γ} {requests : List (Request ι)}
    {request : Request ι} {start : System β γ}
    (discerns : handlers.Discerns (requests ++ [request]) start)
    (same : Request.untilSetUp (requests ++ [request]) = Request.untilSetUp requests) :
    handlers.Discerns requests start := by
  intro earlier since within
  rw [← same] at since
  exact discerns earlier since (within.trans (List.prefix_append _ _))

variable [SlotBank β]

/-- **The count.** After any run, at most as many interrupts are counted as dispatches have handed
to the dummy handler since the system was last set up. Dispatches that could not find the dummy
handler by a search have all been counted. -/
theorem spurious_tally (machine : Machine β γ) (requests : List (Request ι)) :
    let handlers : Handlers β γ := firmware.handlers frames
    let begun := handlers.carryOut (Request.untilSetUp requests) (System.fresh machine)
    let now := handlers.carryOut requests (System.fresh machine)
    now.spurious + begun.machine.dummies ≤ now.machine.dummies ∧
      (handlers.Discerns requests (System.fresh machine) →
        now.spurious + begun.machine.dummies = now.machine.dummies) := by
  intro handlers begun now
  suffices tally : now.Tally begun.machine.dummies
      (handlers.Discerns requests (System.fresh machine)) from ⟨tally.most, tally.exact⟩
  induction requests using List.reverseRecOn with
  | nil => exact ⟨(Nat.zero_add _).le, fun _ => Nat.zero_add _⟩
  | append_singleton requests request ih =>
    have reached : handlers.carryOut (requests ++ [request]) (System.fresh machine) =
        stateAfter (handlers.perform request) (handlers.carryOut requests (System.fresh machine)) :=
      handlers.carryOut_append requests [request] _
    by_cases works : request.setsUp = false
    · have same : Request.untilSetUp (requests ++ [request]) = Request.untilSetUp requests :=
        List.rdropWhile_concat_pos _ _ _ (by rw [works]; rfl)
      have before := ih.mono fun discerns => Handlers.Discerns.of_concat discerns same
      have after := firmware.perform_tally frames works (fun dispatch discerns => ?_) before
      · rwa [← reached, ← same] at after
      · subst dispatch
        refine discerns requests ?_ List.prefix_rfl
        rw [same]
        exact List.rdropWhile_prefix _ _
    · have same : Request.untilSetUp (requests ++ [request]) = requests ++ [request] :=
        List.rdropWhile_concat_neg _ _ _ (by simpa using works)
      obtain rfl := Request.eq_init_of_setsUp (Bool.not_eq_false _ ▸ works)
      obtain ⟨_, after, -⟩ := Run.init_after (handlers.carryOut requests (System.fresh machine))
      have zero : now.spurious = 0 := by
        show (handlers.carryOut (requests ++ [.operation .init]) _).spurious = 0
        rw [reached, handlers.stateAfter_init, after]
      have whole : begun = now := congrArg (handlers.carryOut · _) same
      rw [whole]
      exact ⟨by rw [zero, Nat.zero_add], fun _ => by rw [zero, Nat.zero_add]⟩

end Requests

/-- A line is bound to the dummy handler, and a dispatch that serves it is not counted. -/
theorem spurious_not_tallied :
    ¬ ∀ requests : List (Request Simulated.BenchAction),
      let handlers : Handlers Simulated ControlField :=
        (Firmware.idle : Firmware Simulated.BenchAction).handlers 1
      let start := System.fresh (.atPowerUp Simulated.powerUp)
      let begun := handlers.carryOut (Request.untilSetUp requests) start
      let now := handlers.carryOut requests start
      now.spurious + begun.machine.dummies = now.machine.dummies := by
  intro counted
  have missed := counted [.operation .init, .operation (.bindPolled 4 .spurious 5),
    .action (.line (.enable 4)), .action (.bench (.raise 4)), .operation .handleIrq]
  revert missed
  decide +kernel

end VectoredInterrupts
