/-
**The tables in a run.**

Only the operations that ask for a change of a table change it, and then as they ask: handlers,
dispatches and accesses to the registers leave the registry alone.

* `Operation.perform_maintains`: what an operation may change in the registry;
* `Handlers.carryOut_polled` and `Handlers.carryOut_vectored`: after a run each table lists the
  bindings in force, arranged, whatever else the run did and wherever it faulted.
-/

import VectoredInterrupts.Proofs.Mirror

namespace VectoredInterrupts

/-- The change that a request asks of the polled table. -/
def Request.polledChange? {ι : Type} : Request ι → Option (Change Handler)
  | .action _ => none
  | .operation op => op.polledChange?

/-- The change that a request asks of the vectored table. -/
def Request.vectoredChange? {ι : Type} : Request ι → Option (Change Routine)
  | .action _ => none
  | .operation op => op.vectoredChange?

section Registry

variable {ι β γ : Type} [RegisterBank β]

/-- **What an operation may change in the registry.** -/
theorem Operation.perform_maintains (holds : Registry → Prop) {call : Nat → Handler → Run β γ Unit}
    (calls : ∀ active handler,
      Maintains (fun system => holds system.registry) (call active handler))
    (op : Operation)
    (mode : ∀ registry mode, holds registry → holds { registry with mode })
    (polled : op.polledChange?.isSome →
      ∀ registry table, holds registry → holds { registry with polled := table })
    (vectored : op.vectoredChange?.isSome →
      ∀ registry table, holds registry → holds { registry with vectored := table }) :
    Maintains (fun system => holds system.registry) (op.perform call) :=
  op.perform_maintains_of_closed
    (System.closed_of_undisturbed (undisturbed_registry holds)).of_move (fun _ _ => trivial)
    (fun _ _ => trivial) (fun _ => calls 0)
    (fun _ => Run.handleIrq_maintains (undisturbed_registry holds) trivial calls 1)
    (fun system target => mode system.registry target)
    (fun _ asks system => polled (asks ▸ rfl) system.registry _)
    (fun asks system => vectored asks system.registry) fun _ _ _ before => before

omit [RegisterBank β] in
theorem Handlers.call_registry (handlers : Handlers β γ) (holds : Registry → Prop) (active : Nat)
    (handler : Handler) :
    Maintains (fun system => holds system.registry) (handlers.call active handler) := by
  intro system before
  rwa [handlers.keeps active handler system]

theorem Handlers.perform_action_registry [StatusRegister γ] [Benched ι β] (handlers : Handlers β γ)
    (holds : Registry → Prop) (action : Action ι) :
    Maintains (fun system => holds system.registry) (handlers.perform (.action action)) :=
  Run.perform_maintains (undisturbed_registry holds) (fun _ _ _ before => before) trivial
    (handlers.call_registry holds) _ _ action fun _ _ => trivial

end Registry

/-! ### Runs -/

section Runs

variable {ι β γ : Type} [RegisterBank β] [SlotBank β] [StatusRegister γ] [Benched ι β]

omit [SlotBank β] in
theorem Handlers.stateAfter_init (handlers : Handlers β γ) (system : System β γ) :
    stateAfter (handlers.perform (.operation .init : Request ι)) system =
      stateAfter Run.init system :=
  handlers.carryOut_init [] system

/-- Setting up changes both tables as it asks. -/
theorem Handlers.tables_after_init (handlers : Handlers β γ) (system : System β γ) :
    (stateAfter (handlers.perform (.operation .init : Request ι)) system).polled =
        system.polled.change .clear ∧
      (stateAfter (handlers.perform (.operation .init : Request ι)) system).vectored =
        system.vectored.change .clear := by
  obtain ⟨machine, after, -⟩ := Run.init_after system
  rw [handlers.stateAfter_init, after, Table.change_clear, Table.change_clear]
  exact ⟨rfl, rfl⟩

/-- A request changes the polled table as it asks. -/
theorem Handlers.polled_after (handlers : Handlers β γ) (request : Request ι)
    {system : System β γ} {bindings : List (Binding Handler)}
    (lists : system.polled.Lists (arranged bindings)) (distinct : Distinct bindings)
    (inRange : InRange bindings) :
    (stateAfter (handlers.perform request) system).polled =
      request.polledChange?.elim system.polled system.polled.change := by
  cases request with
  | action action =>
    exact handlers.perform_action_registry (fun registry => registry.polled = system.polled) action
      system rfl
  | operation op =>
    rw [Request.polledChange?]
    cases asked : op.polledChange? with
    | none =>
      refine op.perform_maintains (fun registry => registry.polled = system.polled)
        (handlers.call_registry fun registry => registry.polled = system.polled)
        (fun _ _ same => same) (fun asks => ?_) (fun _ _ _ same => same) system rfl
      rw [asked] at asks
      cases asks
    | some change =>
      by_cases setUp : op = .init
      · subst setUp
        obtain rfl := Option.some.inj asked
        rw [(handlers.tables_after_init system).1, Option.elim_some]
      · obtain ⟨reply, machine, returns, -⟩ :=
          Operation.perform_polled handlers.call asked setUp lists distinct inRange
        exact congrArg System.polled (stateAfter_ok returns)

/-- A request changes the vectored table as it asks. -/
theorem Handlers.vectored_after (handlers : Handlers β γ) (request : Request ι)
    {system : System β γ} {bindings : List (Binding Routine)}
    (lists : system.vectored.Lists (arranged bindings)) (distinct : Distinct bindings)
    (inRange : InRange bindings) :
    (stateAfter (handlers.perform request) system).vectored =
      request.vectoredChange?.elim system.vectored system.vectored.change := by
  cases request with
  | action action =>
    exact handlers.perform_action_registry (fun registry => registry.vectored = system.vectored)
      action system rfl
  | operation op =>
    rw [Request.vectoredChange?]
    cases asked : op.vectoredChange? with
    | none =>
      refine op.perform_maintains (fun registry => registry.vectored = system.vectored)
        (handlers.call_registry fun registry => registry.vectored = system.vectored)
        (fun _ _ same => same) (fun _ _ _ same => same) (fun asks => ?_) system rfl
      rw [asked] at asks
      cases asks
    | some change =>
      by_cases setUp : op = .init
      · subst setUp
        obtain rfl := Option.some.inj asked
        rw [(handlers.tables_after_init system).2, Option.elim_some]
      · rcases Operation.perform_vectored handlers.call asked setUp lists distinct inRange with
          ⟨reply, after, returns, ⟨machine, rfl⟩, -⟩ | ⟨fault, after, -, raised⟩
        · exact congrArg System.vectored (stateAfter_ok returns)
        · exact absurd raised (SlotBank.not_slotFault fault)

theorem Table.lists_elim {α : Type} [Inhabited α] {table : Table α} {changes : List (Change α)}
    (lists : table.Lists (arranged (live changes))) (change : Option (Change α)) :
    (change.elim table table.change).Lists (arranged (live (changes ++ change.toList))) := by
  cases change with
  | none =>
    rw [Option.toList_none, List.append_nil]
    exact lists
  | some change =>
    rw [Option.toList_some, live_concat]
    exact lists_change lists (live_distinct changes) (live_inRange changes) change

theorem filterMap_concat {ρ τ : Type} (f : ρ → Option τ) (list : List ρ) (last : ρ) :
    (list ++ [last]).filterMap f = list.filterMap f ++ (f last).toList := by
  rw [List.filterMap_append]
  cases value : f last with
  | none => rw [List.filterMap_cons_none value, List.filterMap_nil, Option.toList_none]
  | some item => rw [List.filterMap_cons_some value, List.filterMap_nil, Option.toList_some]

omit [SlotBank β] in
/-- What every request sets or leaves alone is as the last request left it that set it. -/
theorem Handlers.carryOut_last (handlers : Handlers β γ) {τ : Type} (view : System β γ → τ)
    (sets? : Request ι → Option τ) {requests : List (Request ι)}
    (each : ∀ request ∈ requests, ∀ system, view (stateAfter (handlers.perform request) system) =
      (sets? request).getD (view system))
    (system : System β γ) :
    view (handlers.carryOut requests system) =
      (requests.filterMap sets?).getLast?.getD (view system) := by
  induction requests using List.reverseRecOn with
  | nil => rfl
  | append_singleton requests request ih =>
    rw [carryOut_append, filterMap_concat]
    show view (stateAfter (handlers.perform request) _) = _
    rw [each request (by simp), ih fun other member => each other (List.mem_append_left _ member)]
    cases sets? request with
    | none => simp
    | some value => simp

omit [SlotBank β] in
/-- A table that every request changes as it asks lists the bindings in force after a run. -/
theorem Handlers.carryOut_lists (handlers : Handlers β γ) {α : Type} [Inhabited α]
    (asks : Request ι → Option (Change α)) (held : System β γ → Table α)
    (changes : ∀ request system bindings, (held system).Lists (arranged bindings) →
      Distinct bindings → InRange bindings → held (stateAfter (handlers.perform request) system) =
        (asks request).elim (held system) (held system).change)
    (requests : List (Request ι)) {start : System β γ} (vacant : held start = .vacant) :
    (held (handlers.carryOut requests start)).Lists
      (arranged (live (requests.filterMap asks))) := by
  induction requests using List.reverseRecOn with
  | nil =>
    show (held start).Lists _
    rw [vacant]
    exact Table.lists_changes []
  | append_singleton requests request ih =>
    rw [carryOut_append, filterMap_concat]
    show (held (stateAfter (handlers.perform request) _)).Lists _
    rw [changes request _ _ ih (live_distinct _) (live_inRange _)]
    exact Table.lists_elim ih _

/-- **The polled table after a run.** -/
theorem Handlers.carryOut_polled (handlers : Handlers β γ) (requests : List (Request ι))
    {start : System β γ} (vacant : start.polled = .vacant) :
    (handlers.carryOut requests start).polled.Lists
      (arranged (live (requests.filterMap Request.polledChange?))) :=
  handlers.carryOut_lists Request.polledChange? System.polled
    (fun request _ _ => handlers.polled_after request) requests vacant

/-- **The vectored table after a run.** -/
theorem Handlers.carryOut_vectored (handlers : Handlers β γ) (requests : List (Request ι))
    {start : System β γ} (vacant : start.vectored = .vacant) :
    (handlers.carryOut requests start).vectored.Lists
      (arranged (live (requests.filterMap Request.vectoredChange?))) :=
  handlers.carryOut_lists Request.vectoredChange? System.vectored
    (fun request _ _ => handlers.vectored_after request) requests vacant

/-- Setting up vacates both tables, whatever they held. -/
theorem Handlers.carryOut_init_polled (handlers : Handlers β γ) (requests : List (Request ι))
    (start : System β γ) :
    (handlers.carryOut (.operation .init :: requests) start).polled.Lists
      (arranged (live (requests.filterMap Request.polledChange?))) := by
  rw [carryOut_init]
  refine handlers.carryOut_polled requests ?_
  obtain ⟨machine, after, -⟩ := Run.init_after start
  rw [after]

theorem Handlers.carryOut_init_vectored (handlers : Handlers β γ) (requests : List (Request ι))
    (start : System β γ) :
    (handlers.carryOut (.operation .init :: requests) start).vectored.Lists
      (arranged (live (requests.filterMap Request.vectoredChange?))) := by
  rw [carryOut_init]
  refine handlers.carryOut_vectored requests ?_
  obtain ⟨machine, after, -⟩ := Run.init_after start
  rw [after]

end Runs

end VectoredInterrupts
