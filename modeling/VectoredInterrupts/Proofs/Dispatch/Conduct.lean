/-
**What a completed dispatch has done.**

A dispatch that returns has gone one of two ways (`System.Dispatches`): in vectored mode it chose a
handler, ran it and ended service; in polled mode it read the lines and ran handlers one after
another. Handlers may take interrupts in turn. Those that leave the vector register to the
dispatches nested in them *conduct themselves* (`System.Conducts`), and what they put on the trace
is known then, however deep they nest: the accesses to the vector register are balanced.

* `Run.handleIrq_dispatches`: a dispatch that returns goes one of the two ways;
* `Firmware.conducts`: the handlers of a firmware conduct themselves if its programs keep off the
  vector register;
* `System.Dispatches.handshakes`, `System.Dispatches.scans` and `System.Conducts.minds`: what is on
  the trace afterwards.
-/

import VectoredInterrupts.Proofs.Dispatch.Choice

namespace VectoredInterrupts

/-! ### Events -/

/-- An access at one of certain offsets, or a silent event. -/
def Event.Within (readable writable : Nat → Prop) : Event → Prop
  | .read offset _ => readable offset
  | .wrote offset _ => writable offset
  | .dispatched .. => False
  | .statusRead _ | .statusWrote _ | .logged _ | .entered _ | .returned _ => True

/-- An access to the vector register. -/
def Event.ofVector : Event → Bool
  | .read offset _ | .wrote offset _ => offset == Offset.vector
  | .dispatched .. | .statusRead _ | .statusWrote _ | .logged _ | .entered _ | .returned _ => false

/-- If a handler is marked, a dispatch serves it that is nested in the one at a given level. -/
def Event.Deeper (active : Nat) : Event → Prop
  | .dispatched level _ => active < level
  | .read .. | .wrote .. | .statusRead _ | .statusWrote _ | .logged _ | .entered _ | .returned _ =>
    True

theorem Event.within_of_silent {readable writable : Nat → Prop} {event : Event}
    (silent : event.Silent) : event.Within readable writable := by
  cases event with
  | read | wrote | dispatched => exact silent.elim
  | _ => trivial

theorem Event.ofVector_of_within {readable writable : Nat → Prop} {event : Event}
    (within : event.Within readable writable) (reads : ¬ readable Offset.vector)
    (writes : ¬ writable Offset.vector) : event.ofVector = false := by
  cases event with
  | read offset => exact beq_false_of_ne fun same => reads (same ▸ within)
  | wrote offset => exact beq_false_of_ne fun same => writes (same ▸ within)
  | _ => rfl

theorem Event.deeper_of_within {readable writable : Nat → Prop} {event : Event}
    (within : event.Within readable writable) (active : Nat) : event.Deeper active := by
  cases event with
  | dispatched => exact within.elim
  | _ => trivial

theorem Event.Deeper.mono {outer inner : Nat} {event : Event} (deeper : event.Deeper inner)
    (le : outer ≤ inner) : event.Deeper outer := by
  cases event with
  | dispatched => exact Nat.lt_of_le_of_lt le deeper
  | _ => trivial

/-- Brackets: each read of the vector is followed by an acknowledgement, and what is between the two
is balanced as well. -/
inductive Balanced : List Event → Prop
  | nil : Balanced []
  | bracket (vector : Word) {inner rest : List Event} (between : Balanced inner)
      (behind : Balanced rest) :
      Balanced (.read Offset.vector vector :: inner ++ .wrote Offset.vector acknowledgement :: rest)

theorem Balanced.append {first second : List Event} (left : Balanced first)
    (right : Balanced second) : Balanced (first ++ second) := by
  induction left with
  | nil => exact right
  | bracket vector between _ _ ih =>
    rw [List.append_assoc, List.cons_append]
    exact .bracket vector between ih

/-! ### What is put on the trace -/

section Emits

variable {β γ : Type}

/-- These events have been put on the trace, and the registry is as it was. -/
structure System.Emits (before after : System β γ) (events : List Event) : Prop where
  trace : after.machine.trace.toList = before.machine.trace.toList ++ events
  registry : after.registry = before.registry

theorem System.Emits.refl (system : System β γ) : system.Emits system [] :=
  ⟨(List.append_nil _).symm, rfl⟩

theorem System.Emits.trans {before middle after : System β γ} {first second : List Event}
    (left : before.Emits middle first) (right : middle.Emits after second) :
    before.Emits after (first ++ second) :=
  ⟨by rw [right.trace, left.trace, List.append_assoc], right.registry.trans left.registry⟩

/-- One event more. -/
theorem System.Emits.concat {before middle : System β γ} {events : List Event}
    (emits : before.Emits middle events) (event : Event) {machine : Machine β γ}
    (trace : machine.trace = middle.machine.trace.push event) :
    before.Emits { middle with machine } (events ++ [event]) := by
  refine ⟨?_, emits.registry⟩
  rw [trace, Array.toList_push, emits.trace, List.append_assoc]

variable [RegisterBank β] {readable writable : Nat → Prop}

theorem System.Step.emits {before after : System β γ}
    (step : System.Step readable writable before after) :
    ∃ events, before.Emits after events ∧ ∀ event ∈ events, event.Within readable writable := by
  have one : ∀ (event : Event) {machine : Machine β γ}, event.Within readable writable →
      machine.trace = before.machine.trace.push event → ∃ events,
        before.Emits { before with machine } events ∧
          ∀ event ∈ events, event.Within readable writable :=
    fun event _ within trace => ⟨_, (System.Emits.refl before).concat event trace,
      fun other member => List.mem_singleton.mp member ▸ within⟩
  cases step with
  | machine step =>
    cases step with
    | @read offset allowed =>
      cases result : RegisterBank.read offset before.machine.bank with
      | ok value bank =>
        rw [stateAfter_ok (Bus.read_ok result)]
        exact one (.read offset value) allowed rfl
      | error fault bank =>
        rw [stateAfter_error (Bus.read_error result)]
        exact ⟨[], ⟨(List.append_nil _).symm, rfl⟩, nofun⟩
    | @write offset allowed value =>
      cases result : RegisterBank.write offset value before.machine.bank with
      | ok _ bank =>
        rw [stateAfter_ok (Bus.write_ok result)]
        exact one (.wrote offset value) allowed rfl
      | error fault bank =>
        rw [stateAfter_error (Bus.write_error result)]
        exact ⟨[], ⟨(List.append_nil _).symm, rfl⟩, nofun⟩
    | record silent => exact one _ (Event.within_of_silent silent) rfl
    | status => exact ⟨[], ⟨(List.append_nil _).symm, rfl⟩, nofun⟩

/-- Code that keeps to certain offsets puts accesses there on the trace, and silent events. -/
theorem System.closed_emits (start : System β γ) :
    Closed (System.Step readable writable) fun now =>
      ∃ events, start.Emits now events ∧ ∀ event ∈ events, event.Within readable writable := by
  rintro before after step ⟨events, emits, within⟩
  obtain ⟨more, emits_more, within_more⟩ := step.emits
  exact ⟨events ++ more, emits.trans emits_more, fun event member =>
    (List.mem_append.mp member).elim (within event) (within_more event)⟩

end Emits

/-! ### Dispatches that return -/

section Dispatches

variable {β γ : Type} [RegisterBank β]

/-- The rest of a dispatch in polled mode: it logs, counts, and runs handlers. `runs` says what a
handler does that returns. -/
inductive System.Proceeds (runs : Handler → System β γ → System β γ → Prop) (active : Nat) :
    System β γ → System β γ → Prop
  | rest (system : System β γ) : Proceeds runs active system system
  | logged {before middle : System β γ} (notice : Notice)
      (proceeds : Proceeds runs active before middle) :
      Proceeds runs active before { middle with machine := middle.machine.logged notice }
  | counted {before middle : System β γ} (proceeds : Proceeds runs active before middle) :
      Proceeds runs active before { middle with spurious := middle.spurious + 1 }
  | served {before middle after : System β γ} {handler : Handler}
      (proceeds : Proceeds runs active before middle)
      (ran : runs handler (middle.marked active handler) after) : Proceeds runs active before after

/-- A dispatch that returns. -/
inductive System.Dispatches (runs : Handler → System β γ → System β γ → Prop) (active : Nat) :
    System β γ → System β γ → Prop
  | vectored {before chosen ended after : System β γ} {handler : Handler}
      (mode : before.mode = .vectored) (chooses : Run.chooseHandler before = .ok handler chosen)
      (ran : runs handler (chosen.marked active handler) ended)
      (ends : Run.onMachine Bus.acknowledge ended = .ok () after) :
      Dispatches runs active before after
  | polled {before begun after : System β γ} {status : LineSet} (mode : before.mode = .polled)
      (read : Run.onMachine Bus.irqStatus before = .ok status begun)
      (proceeds : Proceeds runs active begun after) : Dispatches runs active before after

namespace Run

variable {call : Nat → Handler → Run β γ Unit} {active : Nat}

/-- A call of the handler returns. -/
def Completes (call : Nat → Handler → Run β γ Unit) (active : Nat) (handler : Handler)
    (begun ended : System β γ) : Prop :=
  call active handler begun = .ok () ended

omit [RegisterBank β] in
/-- The scan runs handlers, and nothing besides. -/
theorem serviceEntries_proceeds {start begun after : System β γ} {status : LineSet} {served : Nat}
    {entries : List (Entry Handler)}
    (proceeds : System.Proceeds (Completes call active) active start begun)
    (returns : serviceEntries (dispatch call active) status entries begun = .ok served after) :
    System.Proceeds (Completes call active) active start after := by
  induction entries generalizing begun served with
  | nil =>
    cases returns
    exact proceeds
  | cons entry rest ih =>
    unfold serviceEntries at returns
    cases bound : entry.line with
    | none =>
      rw [bound] at returns
      cases returns
      exact proceeds
    | some line =>
      rw [bound] at returns
      obtain ⟨requested, middle, tested, returns⟩ := bind_eq_ok.mp returns
      have kept : Maintains (· = begun) (checked (status.test line) : Run β γ Bool) := .checked _
      obtain rfl := kept.of_ok rfl tested
      cases requested with
      | false => exact ih proceeds returns
      | true =>
        obtain ⟨_, ended, ran, returns⟩ := bind_eq_ok.mp returns
        obtain ⟨count, last, scanned, returns⟩ := bind_eq_ok.mp returns
        cases returns
        exact ih (.served proceeds ran) scanned

/-- **A dispatch that returns** goes one of two ways. -/
theorem handleIrq_dispatches {before after : System β γ}
    (returns : handleIrq call active before = .ok () after) :
    before.Dispatches (Completes call active) active after := by
  cases mode : before.mode with
  | vectored =>
    rw [handleIrq_of_vectored mode, handleVectored_eq] at returns
    obtain ⟨handler, chosen, chooses, served⟩ := bind_eq_ok.mp returns
    obtain ⟨_, ended, ran, ends⟩ := bind_eq_ok.mp served
    exact .vectored mode chooses ran ends
  | polled =>
    rw [handleIrq_of_polled mode] at returns
    obtain ⟨status, begun, read, rest⟩ := bind_eq_ok.mp returns
    refine .polled mode read ?_
    rw [bind_ok (log_ok _ _)] at rest
    obtain ⟨served, scanned, scan, rest⟩ := bind_eq_ok.mp rest
    have proceeds := serviceEntries_proceeds (.logged _ (.rest begun)) scan
    by_cases idle : served = 0
    · rw [if_pos idle] at rest
      exact .served (.counted proceeds) rest
    · rw [if_neg idle] at rest
      cases rest
      exact proceeds

end Run

end Dispatches

/-! ### Handlers that conduct themselves -/

section Conducts

variable {ι β γ : Type} [RegisterBank β] [Benched ι β]

/-- What code does that runs while `active` dispatches are in progress, if it leaves the vector
register to the dispatches that it takes itself. These may have any handlers of the same kind. -/
inductive System.Conducts (ι : Type) {β γ : Type} [RegisterBank β] [Benched ι β] :
    Nat → System β γ → System β γ → Prop
  | rest {active : Nat} (system : System β γ) : Conducts ι active system system
  | step {active : Nat} {before middle after : System β γ}
      (conducts : Conducts ι active before middle)
      (step : System.Step (· ≠ Offset.vector) (· ≠ Offset.vector) middle after) :
      Conducts ι active before after
  | bench {active : Nat} {before middle : System β γ} (action : ι)
      (conducts : Conducts ι active before middle) :
      Conducts ι active before
        (stateAfter (Run.onMachine (Bus.onBank (Benched.act action)) : Run β γ Reply) middle)
  | interrupt {active : Nat} {before middle after : System β γ}
      {runs : Handler → System β γ → System β γ → Prop}
      (conducts : Conducts ι active before middle)
      (handlers : ∀ handler begun ended, runs handler begun ended →
        Conducts ι (active + 1) begun ended)
      (dispatches : middle.Dispatches runs (active + 1) after) : Conducts ι active before after

theorem System.Conducts.trans {active : Nat} {before middle after : System β γ}
    (first : Conducts ι active before middle) (second : Conducts ι active middle after) :
    Conducts ι active before after := by
  induction second with
  | rest => exact first
  | step _ step ih => exact (ih first).step step
  | bench action _ ih => exact (ih first).bench action
  | interrupt _ handlers dispatches ih => exact (ih first).interrupt handlers dispatches

theorem System.closed_conducts (active : Nat) (start : System β γ) :
    Closed (System.Step (· ≠ Offset.vector) (· ≠ Offset.vector)) (System.Conducts ι active start) :=
  fun _ _ step conducts => conducts.step step

variable [StatusRegister γ]

/-- The action keeps off the vector register. -/
def Action.SparesVector (action : Action ι) : Prop :=
  (∀ offset ∈ action.reads, offset ≠ Offset.vector) ∧
    ∀ offset ∈ action.written?, offset ≠ Offset.vector

/-- An action that returns, given what the handlers do that it calls. -/
theorem Run.perform_conducts {nesting active : Nat} {call : Nat → Handler → Run β γ Unit}
    (calls : ∀ active handler begun ended, call active handler begun = .ok () ended →
      System.Conducts ι active begun ended)
    {action : Action ι} (spares : action.SparesVector) {before after : System β γ} {reply : Reply}
    (returns : Run.perform nesting call active action before = .ok reply after) :
    System.Conducts ι active before after := by
  have closed := System.closed_conducts (ι := ι) active before
  cases action with
  | register op =>
    exact (onMachine_maintains fun system => op.perform_maintains (closed.machine system) spares.1
      spares.2).of_ok (.rest before) returns
  | line op =>
    exact (onMachine_maintains fun system => op.perform_maintains (closed.machine system) spares.1
      spares.2).of_ok (.rest before) returns
  | status op =>
    exact (onMachine_maintains fun system => op.perform_maintains (closed.machine system)).of_ok
      (.rest before) returns
  | bench action =>
    have ended : after = stateAfter (Run.onMachine (Bus.onBank (Benched.act action))) before :=
      (stateAfter_ok returns).symm
    exact ended ▸ .bench action (.rest before)
  | call handler =>
    obtain ⟨_, ended, called, replies⟩ := bind_eq_ok.mp returns
    have same : after = ended := by
      split at replies
      · cases replies; rfl
      · cases replies; rfl
    exact same ▸ calls active handler before ended called
  | interrupt =>
    by_cases taken : 0 < active ∧ active < nesting
    · have taken_returns : (do handleIrq call (active + 1); return .done : Run β γ Reply) before =
          .ok reply after := by
        rwa [perform, if_pos taken] at returns
      obtain ⟨_, ended, handled, replies⟩ := bind_eq_ok.mp taken_returns
      cases replies
      exact .interrupt (.rest before) (calls (active + 1)) (handleIrq_dispatches handled)
    · rw [perform, if_neg taken] at returns
      cases returns
      exact .rest before
  | fail => cases returns

/-- A program gets from one moment to another, where `rest` is left of it. -/
inductive Program.Reaches {ι β γ : Type} (perform : Action ι → Run β γ Reply) (rest : Program ι)
    (now : System β γ) : Program ι → System β γ → Prop
  | here : Reaches perform rest now rest now
  | act {action : Action ι} {next : Reply → Program ι} {before middle : System β γ} {reply : Reply}
      (performed : perform action before = .ok reply middle)
      (reaches : Reaches perform rest now (next reply)
        { middle with machine.trace := middle.machine.trace.push (.returned reply) }) :
      Reaches perform rest now (.act action next) before

omit [RegisterBank β] [Benched ι β] [StatusRegister γ] in
/-- A program that returns has got to its end. -/
theorem Program.reaches_of_run {perform : Action ι → Run β γ Reply} {program : Program ι}
    {before after : System β γ} (returns : program.run perform before = .ok () after) :
    Reaches perform .finish after program before := by
  induction program generalizing before with
  | finish =>
    cases returns
    exact .here
  | act action next ih =>
    obtain ⟨reply, middle, performed, returns⟩ := bind_eq_ok.mp returns
    exact .act performed (ih reply returns)

omit [StatusRegister γ] in
/-- At every moment a program has conducted itself, if its actions do. -/
theorem Program.Reaches.conducts {active : Nat} {perform : Action ι → Run β γ Reply}
    (performs : ∀ action, action.SparesVector → ∀ begun ended reply,
      perform action begun = .ok reply ended → System.Conducts ι active begun ended)
    {program rest : Program ι} {before now : System β γ}
    (reaches : Reaches perform rest now program before)
    (uses : program.Uses Action.SparesVector) : System.Conducts ι active before now := by
  induction reaches with
  | here => exact .rest now
  | @act action next before middle reply performed _ ih =>
    have first := performs action uses.1 before middle reply performed
    have recorded : System.Step (· ≠ Offset.vector) (· ≠ Offset.vector) middle
        { middle with machine.trace := middle.machine.trace.push (.returned reply) } :=
      .machine middle (.record (show (Event.returned reply).Silent from trivial) _)
    exact (first.step recorded).trans (ih (uses.2 reply))

/-- **The handlers of a firmware** conduct themselves if its programs keep off the vector register.
The induction is on the frames left. -/
theorem Firmware.conducts {firmware : Firmware ι}
    (uses : ∀ handler, (firmware.program handler).Uses Action.SparesVector)
    (frames active : Nat) (handler : Handler) {before after : System β γ}
    (returns : Run.invoke firmware frames active handler before = .ok () after) :
    System.Conducts ι active before after := by
  induction frames generalizing active handler before after with
  | zero => cases returns
  | succ frames ih =>
    have closed := System.closed_conducts (ι := ι) active before
    have logs : ∀ notice, (Run.onMachine (Bus.log notice) : Run β γ Unit) before = .ok () after →
        System.Conducts ι active before after :=
      fun notice logged => (Run.log_maintains closed notice).of_ok (.rest before) logged
    have user : (do
        Run.onMachine (Bus.record (.entered handler))
        (firmware.program handler).run
          (Run.perform firmware.nesting (Run.invoke firmware frames) active) : Run β γ Unit)
          before = .ok () after → System.Conducts ι active before after := by
      intro returns
      obtain ⟨_, recorded, record, returns⟩ := bind_eq_ok.mp returns
      have entered : System.Conducts ι active before recorded :=
        (Run.onMachine_maintains fun system => Bus.record_maintains (closed.machine system)
          (by trivial)).of_ok (.rest before) record
      refine entered.trans ((Program.reaches_of_run returns).conducts
        (fun action spares begun ended reply performed => ?_) (uses handler))
      exact Run.perform_conducts (fun active handler _ _ => ih active handler) spares performed
    unfold Run.invoke at returns
    split at returns
    · exact logs _ returns
    · exact logs _ returns
    · exact logs _ returns
    · exact user returns
    · exact user returns

end Conducts

/-! ### What is on the trace afterwards -/

section Events

variable {β γ : Type} {runs : Handler → System β γ → System β γ → Prop} {active : Nat}
  {before middle after : System β γ}

/-- These events are what a run of the handler has put on the trace. Its accesses to the vector
register are balanced, and the dispatches that serve are nested in the one that runs it. -/
structure System.RunOf (runs : Handler → System β γ → System β γ → Prop) (active : Nat)
    (handler : Handler) (begun : System β γ) (events : List Event) : Prop where
  ran : ∃ ended, runs handler begun ended ∧ begun.Emits ended events
  balanced : Balanced (events.filter Event.ofVector)
  deeper : ∀ event ∈ events, event.Deeper active

/-- A dispatch in vectored mode: a read of the vector first, an acknowledgement last, and the mark
of one handler between the two. What is before the mark is the choice of the handler, which reads the
enabled lines at most. What follows it is what the handler does. -/
def System.Handshakes [RegisterBank β] (runs : Handler → System β γ → System β γ → Prop)
    (active : Nat) (before after : System β γ) : Prop :=
  ∃ vector lead handler chosen inner,
    Run.chooseHandler before = .ok handler chosen ∧
    before.Emits chosen (.read Offset.vector vector :: lead) ∧
    (∀ event ∈ lead, event.Within (· = Offset.enable) fun _ => False) ∧
    RunOf runs active handler (chosen.marked active handler) inner ∧
    before.Emits after (.read Offset.vector vector :: lead ++ .dispatched active handler :: inner ++
      [.wrote Offset.vector acknowledgement])

/-- A part of a dispatch in polled mode: it logs, or runs a handler, which does not touch the vector
register. -/
def System.Segment (runs : Handler → System β γ → System β γ → Prop) (active : Nat)
    (events : List Event) : Prop :=
  (∃ notice, events = [.logged notice]) ∨
    ∃ handler begun inner, events = .dispatched active handler :: inner ∧
      RunOf runs active handler begun inner ∧ ∀ event ∈ inner, event.ofVector = false

/-- A dispatch in polled mode: one read of the lines that request an IRQ, and nothing but notices
and what handlers do besides. -/
def System.Scans (runs : Handler → System β γ → System β γ → Prop) (active : Nat)
    (before after : System β γ) : Prop :=
  ∃ (status : Word) (segments : List (List Event)),
    before.Emits after (.read Offset.irqStatus status :: segments.flatten) ∧
    ∀ segment ∈ segments, Segment runs active segment

/-- What code does that runs while `active` dispatches are in progress: its accesses to the vector
register are balanced, and there are none in polled mode. Only dispatches nested in it serve. -/
def System.Minds (active : Nat) (before after : System β γ) : Prop :=
  ∃ events, before.Emits after events ∧ Balanced (events.filter Event.ofVector) ∧
    (∀ event ∈ events, event.Deeper active) ∧
    (before.mode = .polled → ∀ event ∈ events, event.ofVector = false)

theorem filter_ofVector_eq_nil {events : List Event}
    (none : ∀ event ∈ events, event.ofVector = false) : events.filter Event.ofVector = [] :=
  List.filter_eq_nil_iff.mpr fun event member => Bool.eq_false_iff.mp (none event member)

namespace System

theorem Emits.mode {events : List Event} (emits : before.Emits after events) :
    after.mode = before.mode :=
  congrArg Registry.mode emits.registry

theorem Minds.refl (active : Nat) (system : System β γ) : system.Minds active system :=
  ⟨[], .refl system, .nil, nofun, fun _ => nofun⟩

theorem Minds.trans (first : before.Minds active middle) (second : middle.Minds active after) :
    before.Minds active after := by
  obtain ⟨events, emits, balanced, deeper, polled⟩ := first
  obtain ⟨more, emits_more, balanced_more, deeper_more, polled_more⟩ := second
  refine ⟨events ++ more, emits.trans emits_more, ?_, fun event member => ?_,
    fun mode event member => ?_⟩
  · rw [List.filter_append]
    exact balanced.append balanced_more
  · exact (List.mem_append.mp member).elim (deeper event) (deeper_more event)
  · exact (List.mem_append.mp member).elim (polled mode event)
      (polled_more (emits.mode.trans mode) event)

/-- Events that have nothing to do with the vector register, nor with handlers. -/
theorem Minds.of_within {events : List Event} {readable writable : Nat → Prop}
    (emits : before.Emits after events) (within : ∀ event ∈ events, event.Within readable writable)
    (reads : ¬ readable Offset.vector) (writes : ¬ writable Offset.vector) :
    before.Minds active after := by
  have elsewhere : ∀ event ∈ events, event.ofVector = false :=
    fun event member => Event.ofVector_of_within (within event member) reads writes
  refine ⟨events, emits, ?_, fun event member => Event.deeper_of_within (within event member) _,
    fun _ => elsewhere⟩
  rw [filter_ofVector_eq_nil elsewhere]
  exact .nil

/-- A dispatch minds what the code minds that takes it. -/
theorem Handshakes.minds [RegisterBank β] (handshakes : before.Handshakes runs (active + 1) after)
    (mode : before.mode = .vectored) : before.Minds active after := by
  obtain ⟨vector, lead, handler, chosen, inner, -, -, quiet, run, emits⟩ := handshakes
  refine ⟨_, emits, ?_, ?_, fun polled => ?_⟩
  · have nothing : lead.filter Event.ofVector = [] := filter_ofVector_eq_nil fun event member =>
      Event.ofVector_of_within (quiet event member) (by decide) id
    rw [List.filter_append, List.cons_append, List.filter_cons_of_pos rfl, List.filter_append,
      nothing, List.filter_cons_of_neg (by simp [Event.ofVector])]
    exact .bracket vector run.balanced .nil
  · simp only [List.forall_mem_append, List.forall_mem_cons, List.cons_append]
    refine ⟨trivial, ⟨fun event member => Event.deeper_of_within (quiet event member) active,
      Nat.lt_succ_self active, fun event member => (run.deeper event member).mono (by omega)⟩,
      trivial, nofun⟩
  · rw [polled] at mode
    cases mode

theorem Scans.minds (scans : before.Scans runs (active + 1) after) : before.Minds active after := by
  obtain ⟨status, segments, emits, each⟩ := scans
  have spare : ∀ event ∈ segments.flatten, event.ofVector = false ∧ event.Deeper active := by
    intro event member
    obtain ⟨segment, listed, inside⟩ := List.mem_flatten.mp member
    rcases each segment listed with ⟨notice, rfl⟩ | ⟨handler, begun, inner, rfl, run, elsewhere⟩
    · obtain rfl := List.mem_singleton.mp inside
      exact ⟨rfl, trivial⟩
    · rcases List.mem_cons.mp inside with rfl | inside
      · exact ⟨rfl, Nat.lt_succ_self active⟩
      · exact ⟨elsewhere event inside, (run.deeper event inside).mono (by omega)⟩
  have elsewhere : ∀ event ∈ Event.read Offset.irqStatus status :: segments.flatten,
      event.ofVector = false :=
    List.forall_mem_cons.mpr ⟨rfl, fun event member => (spare event member).1⟩
  refine ⟨_, emits, ?_, List.forall_mem_cons.mpr ⟨trivial, fun event member =>
    (spare event member).2⟩, fun _ => elsewhere⟩
  rw [filter_ofVector_eq_nil elsewhere]
  exact .nil

end System

end Events

section Dispatched

variable {β γ : Type} [RegisterBank β] {active : Nat} {before middle after : System β γ}

theorem Run.read_eq_ok {offset : Nat} {value : Word}
    (returns : Run.onMachine (Bus.read offset) before = .ok value after) :
    ∃ bank, RegisterBank.read offset before.machine.bank = .ok value bank ∧
      after = { before with machine := { before.machine with
        bank, trace := before.machine.trace.push (.read offset value) } } := by
  cases result : RegisterBank.read offset before.machine.bank with
  | ok word bank =>
    rw [onMachine_ok (Bus.read_ok result)] at returns
    cases returns
    exact ⟨bank, rfl, rfl⟩
  | error fault bank =>
    rw [onMachine_error (Bus.read_error result)] at returns
    cases returns

theorem Run.write_eq_ok {offset : Nat} {value : Word}
    (returns : Run.onMachine (Bus.write offset value) before = .ok () after) :
    ∃ bank, RegisterBank.write offset value before.machine.bank = .ok () bank ∧
      after = { before with machine := { before.machine with
        bank, trace := before.machine.trace.push (.wrote offset value) } } := by
  cases result : RegisterBank.write offset value before.machine.bank with
  | ok word bank =>
    rw [onMachine_ok (Bus.write_ok result)] at returns
    cases returns
    exact ⟨bank, rfl, rfl⟩
  | error fault bank =>
    rw [onMachine_error (Bus.write_error result)] at returns
    cases returns

namespace System

variable {runs : Handler → System β γ → System β γ → Prop}
  (minds : ∀ handler begun ended, runs handler begun ended → begun.Minds active ended)

/-- A choice reads the vector, and then one more register at most. -/
theorem emits_of_chooseHandler {chosen : System β γ} {handler : Handler}
    (chooses : Run.chooseHandler before = .ok handler chosen) :
    ∃ vector lead, before.Emits chosen (.read Offset.vector vector :: lead) ∧
      ∀ event ∈ lead, event.Within (· = Offset.enable) fun _ => False := by
  obtain ⟨vector, begun, read, rest⟩ := Run.vector_of_chooseHandler chooses
  have closed : Closed (System.Step (· = Offset.enable) fun _ => False) fun now =>
      ∃ events, begun.Emits now events ∧
        ∀ event ∈ events, event.Within (· = Offset.enable) fun _ => False := closed_emits begun
  have counted : ∀ now : System β γ,
      (∃ events, begun.Emits now events ∧
        ∀ event ∈ events, event.Within (· = Offset.enable) fun _ => False) →
      ∃ events, begun.Emits { now with spurious := now.spurious + 1 } events ∧
        ∀ event ∈ events, event.Within (· = Offset.enable) fun _ => False :=
    fun _ ⟨events, emits, within⟩ => ⟨events, ⟨emits.trace, emits.registry⟩, within⟩
  obtain ⟨lead, emits, quiet⟩ := (Run.chooseFor_maintains closed counted rfl vector).of_ok
    ⟨[], .refl begun, nofun⟩ rest
  obtain ⟨bank, -, rfl⟩ := Run.read_eq_ok read
  exact ⟨vector, lead, ((Emits.refl before).concat _ rfl).trans emits, quiet⟩

include minds

/-- **A dispatch in vectored mode.** -/
theorem Dispatches.handshakes (dispatches : before.Dispatches runs active after)
    (mode : before.mode = .vectored) : before.Handshakes runs active after := by
  cases dispatches with
  | polled polled => cases polled.symm.trans mode
  | @vectored chosen _ _ handler _ chooses ran ends =>
    obtain ⟨vector, lead, begins, quiet⟩ := emits_of_chooseHandler chooses
    obtain ⟨inner, served, balanced, deeper, -⟩ := minds _ _ _ ran
    obtain ⟨bank, -, rfl⟩ := Run.write_eq_ok ends
    refine ⟨vector, lead, handler, chosen, inner, chooses, begins, quiet,
      ⟨⟨_, ran, served⟩, balanced, deeper⟩, ?_⟩
    have marked : before.Emits (chosen.marked active handler) _ := begins.concat _ rfl
    rw [List.append_cons (.read _ _ :: lead)]
    exact (marked.trans served).concat _ rfl

omit [RegisterBank β] in
/-- The rest of a dispatch in polled mode is made of notices and of what handlers do. -/
theorem Proceeds.segments (proceeds : Proceeds runs active before after)
    (mode : before.mode = .polled) :
    ∃ segments : List (List Event), before.Emits after segments.flatten ∧
      ∀ segment ∈ segments, Segment runs active segment := by
  induction proceeds with
  | rest => exact ⟨[], .refl _, nofun⟩
  | @logged middle notice _ ih =>
    obtain ⟨segments, emits, each⟩ := ih
    unfold Machine.logged
    by_cases admitted : middle.machine.verbosity.admits notice.level = true
    · rw [if_pos admitted]
      refine ⟨segments ++ [[.logged notice]], ?_, List.forall_mem_append.mpr ⟨each,
        fun segment last => .inl ⟨notice, List.mem_singleton.mp last⟩⟩⟩
      rw [List.flatten_append, List.flatten_singleton]
      exact emits.concat (.logged notice) rfl
    · rw [if_neg admitted]
      exact ⟨segments, emits, each⟩
  | counted _ ih =>
    obtain ⟨segments, emits, each⟩ := ih
    exact ⟨segments, ⟨emits.trace, emits.registry⟩, each⟩
  | @served _ _ handler _ ran ih =>
    obtain ⟨segments, emits, each⟩ := ih
    obtain ⟨inner, served, balanced, deeper, polled⟩ := minds _ _ _ ran
    have marked : before.Emits (System.marked active handler _) _ := emits.concat _ rfl
    refine ⟨segments ++ [.dispatched active handler :: inner], ?_, List.forall_mem_append.mpr ⟨each,
      fun segment last => .inr ⟨handler, _, inner, List.mem_singleton.mp last,
        ⟨⟨_, ran, served⟩, balanced, deeper⟩, polled (emits.mode.trans mode)⟩⟩⟩
    rw [List.flatten_append, List.flatten_singleton, ← List.singleton_append, ← List.append_assoc]
    exact marked.trans served

/-- **A dispatch in polled mode.** -/
theorem Dispatches.scans (dispatches : before.Dispatches runs active after)
    (mode : before.mode = .polled) : before.Scans runs active after := by
  cases dispatches with
  | vectored vectored => cases vectored.symm.trans mode
  | @polled begun _ status _ read proceeds =>
    have reads : (Run.onMachine (Bus.read Offset.irqStatus) >>= fun word =>
        Run.onMachine (pure word.lines)) before = .ok status begun := by
      rwa [← Run.onMachine_bind]
    obtain ⟨word, middle, presented, returned⟩ := bind_eq_ok.mp reads
    cases returned
    obtain ⟨bank, -, rfl⟩ := Run.read_eq_ok presented
    obtain ⟨segments, emits, each⟩ := proceeds.segments minds mode
    exact ⟨word, segments, ((Emits.refl before).concat _ rfl).trans emits, each⟩

end System

/-- **Handlers that conduct themselves.** Their accesses to the vector register are balanced,
however deep they nest. -/
theorem System.Conducts.minds {ι : Type} [Benched ι β] (conducts : Conducts ι active before after) :
    before.Minds active after := by
  induction conducts with
  | rest system => exact .refl _ system
  | step _ step ih =>
    obtain ⟨events, emits, within⟩ := step.emits
    exact ih.trans (.of_within emits within (fun other => other rfl) fun other => other rfl)
  | bench action _ ih =>
    refine ih.trans ⟨[], ?_, .nil, nofun, fun _ => nofun⟩
    rw [Run.stateAfter_onMachine, Bus.stateAfter_onBank]
    exact ⟨(List.append_nil _).symm, rfl⟩
  | @interrupt _ _ middle _ _ _ _ dispatches ih handlers =>
    refine ih.trans ?_
    cases mode : middle.mode with
    | vectored => exact (dispatches.handshakes handlers mode).minds mode
    | polled => exact (dispatches.scans handlers mode).minds

end Dispatched

end VectoredInterrupts
