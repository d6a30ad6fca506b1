/-
**The parts are independent.**

Requests that belong to different parts can be carried out in any order. What a run does in a part
is what the requests of this part do there on their own, and the other requests do not come into it.

* `Interleaves`: a sequence for each part, shuffled together;
* `Handlers.carryOut_part`, `Handlers.answers_part`: a run, as far as one part is concerned;
* `parts_independent`: two interleavings of the same sequences end alike, and answer alike.
-/

import VectoredInterrupts.Proofs.Parts

namespace VectoredInterrupts

/-! ### Interleavings -/

/-- The list takes its items from a sequence for each key, one after another, until all of them are
used up. -/
inductive Interleaves {κ ρ : Type} [DecidableEq κ] : (κ → List ρ) → List ρ → Prop
  | done {sequences : κ → List ρ} (used : ∀ key, sequences key = []) : Interleaves sequences []
  | take {sequences : κ → List ρ} (key : κ) {item : ρ} {tail merged : List ρ}
      (next : sequences key = item :: tail)
      (rest : Interleaves (Function.update sequences key tail) merged) :
      Interleaves sequences (item :: merged)

namespace Interleaves

variable {κ ρ : Type} [DecidableEq κ] {owner : ρ → Option κ} {sequences : κ → List ρ}
  {merged : List ρ}

/-- Who owns an item of what is left still does so. -/
theorem owned_update (owned : ∀ key, ∀ item ∈ sequences key, owner item = some key) {key : κ}
    {item : ρ} {tail : List ρ} (next : sequences key = item :: tail) (other : κ) :
    ∀ item ∈ Function.update sequences key tail other, owner item = some other := by
  intro left member
  refine owned other left ?_
  by_cases same : other = key
  · subst same
    rw [Function.update_self] at member
    rw [next]
    exact List.mem_cons_of_mem _ member
  · rwa [Function.update_of_ne same] at member

theorem exists_owner (interleaves : Interleaves sequences merged)
    (owned : ∀ key, ∀ item ∈ sequences key, owner item = some key) :
    ∀ item ∈ merged, ∃ key, owner item = some key := by
  induction interleaves with
  | done => exact fun _ member => nomatch member
  | take key next rest ih =>
    intro item member
    rcases List.mem_cons.mp member with rfl | later
    · exact ⟨key, owned key item (next ▸ List.mem_cons_self)⟩
    · exact ih (owned_update owned next) item later

/-- What an owner has in an interleaving is its sequence. -/
theorem filter_eq (interleaves : Interleaves sequences merged)
    (owned : ∀ key, ∀ item ∈ sequences key, owner item = some key) (key : κ) :
    merged.filter (owner · == some key) = sequences key := by
  induction interleaves with
  | done used => exact (used key).symm
  | @take sequences other item tail merged next rest ih =>
    have later := ih (owned_update owned next)
    have own : owner item = some other := owned other item (next ▸ List.mem_cons_self)
    by_cases same : key = other
    · subst same
      rw [List.filter_cons_of_pos (by simp [own]), later, Function.update_self, next]
    · have foreign : some other ≠ some key := fun equal => same (Option.some.inj equal).symm
      rw [List.filter_cons_of_neg (by simp [own, Ne.symm same]), later,
        Function.update_of_ne same]

end Interleaves

/-! ### Runs -/

/-- The requests of a run, each with its outcome. -/
def Handlers.answers {ι β γ : Type} [RegisterBank β] [StatusRegister γ] [Benched ι β]
    (handlers : Handlers β γ) :
    List (Request ι) → System β γ → List (Request ι × Except Fault Reply)
  | [], _ => []
  | request :: rest, system =>
    (request, outcome (handlers.perform request) system) ::
      handlers.answers rest (stateAfter (handlers.perform request) system)

/-- The request belongs to the part. -/
def Part.Owns (part : Part) (request : Request Simulated.BenchAction) : Bool :=
  request.part? == some part

section Runs

variable {γ : Type} [StatusRegister γ] (handlers : Handlers Simulated γ) {part : Part}

omit [StatusRegister γ] in
/-- What has changed in one part only is alike in any other part. -/
theorem System.ChangesOnly.alike {before after : System Simulated γ}
    (changes : before.ChangesOnly part after) {other : Part} (different : other ≠ part) :
    after.Alike (· = other) before :=
  changes.others.symm.mono fun _ same => same ▸ different

/-- **The run in one part.** It answers the requests of the part as it answers them when they are
carried out alone, and leaves the part alike. The induction is on the requests: those of other parts
leave the part as it is. -/
theorem Handlers.carryOut_part {requests : List (Request Simulated.BenchAction)}
    (owned : ∀ request ∈ requests, ∃ part, request.part? = some part)
    {first second : System Simulated γ} (agree : first.Alike (· = part) second) :
    (handlers.answers requests first).filter (fun answer => part.Owns answer.1) =
        handlers.answers (requests.filter part.Owns) second ∧
      (handlers.carryOut requests first).Alike (· = part)
        (handlers.carryOut (requests.filter part.Owns) second) := by
  induction requests generalizing first second with
  | nil => exact ⟨rfl, agree⟩
  | cons request rest ih =>
    obtain ⟨owner, owns⟩ := owned request List.mem_cons_self
    have ih {one other} := @ih (fun other member => owned other (List.mem_cons_of_mem _ member)) one
      other
    have confined := handlers.perform_confined owns
    rw [Handlers.answers, handlers.carryOut_cons]
    by_cases same : owner = part
    · subst same
      have mine : owner.Owns request = true := by simp [Part.Owns, owns]
      simp only [List.filter_cons, mine, if_true]
      rw [Handlers.answers, handlers.carryOut_cons, confined.outcome_eq agree]
      obtain ⟨answers, alike⟩ := ih (confined.agree agree)
      exact ⟨congrArg _ answers, alike⟩
    · have foreign : part.Owns request = false := by simp [Part.Owns, owns, same]
      simp only [List.filter_cons, foreign, Bool.false_eq_true, if_false]
      exact ih (((confined.leads first).alike (Ne.symm same)).trans agree)

theorem Handlers.carryOut_rest {requests : List (Request Simulated.BenchAction)}
    (owned : ∀ request ∈ requests, ∃ part, request.part? = some part)
    (start : System Simulated γ) : (handlers.carryOut requests start).rest = start.rest := by
  refine handlers.carryOut_maintains (fun system => system.rest = start.rest)
    (fun request member system same => ?_) rfl
  obtain ⟨part, owns⟩ := owned request member
  exact ((handlers.perform_confined owns).leads system).rest.symm.trans same

/-- A run of requests of one part changes nothing else. -/
theorem Handlers.carryOut_changesOnly {requests : List (Request Simulated.BenchAction)}
    (owned : ∀ request ∈ requests, request.part? = some part) (start : System Simulated γ) :
    start.ChangesOnly part (handlers.carryOut requests start) := by
  refine handlers.carryOut_maintains (fun system => start.ChangesOnly part system)
    (fun request member system changes => ?_) (part.scope.refl start)
  exact part.scope.trans changes ((handlers.perform_confined (owned request member)).leads system)

omit [StatusRegister γ] in
/-- The parts and the rest make up the system, but for the trace. -/
theorem System.eq_of_alike {first second : System Simulated γ}
    (alike : ∀ part, first.Alike (· = part) second) (rest : first.rest = second.rest) :
    ∃ trace, second = { first with machine.trace := trace } := by
  have polled := (alike .polled).polled rfl
  have vectored := (alike .vectored).vectored rfl
  have slots := (alike .vectored).machine.bank.slots rfl
  have lines := (alike .lines).machine.bank.lines rfl
  have status := (alike .status).machine.status rfl
  rcases first with ⟨⟨⟨⟩, _, _, _⟩, _, _, _, _⟩
  rcases second with ⟨⟨⟨⟩, _, _, trace⟩, _, _, _, _⟩
  refine ⟨trace, ?_⟩
  simp only [Simulated.lines, Lines.mk.injEq, System.rest, Simulated.rest, Prod.mk.injEq] at *
  simp only [polled, vectored, slots, lines, status, rest]

end Runs

/-- An operation on the polled table makes no access and runs no handler. -/
theorem Operation.polled_quiet {op : Operation} (owned : op.part? = some .polled) :
    (∀ offset, ¬ op.Reads offset) ∧ (∀ offset, ¬ op.Writes offset) ∧ op.serves = false ∧
      op ≠ .handleIrq ∧ op ≠ .init := by
  cases op with
  | bindPolled | releasePolled | clearPolled | polledPosition =>
    exact ⟨fun _ => id, fun _ => id, rfl, nofun, nofun⟩
  | _ => cases owned

theorem Request.exists_operation {request : Request Simulated.BenchAction}
    (owned : request.part? = some .polled) :
    ∃ op : Operation, request = .operation op ∧ op.part? = some .polled := by
  cases request with
  | operation op => exact ⟨op, rfl, owned⟩
  | action action =>
    cases action with
    | register op => cases op <;> cases owned
    | bench drive => cases drive <;> cases owned
    | _ => cases owned

/-- Requests of the polled table leave any register bank as it is, also one that every access
changes: they make no access. -/
theorem Handlers.carryOut_polled_bank {β γ : Type} [RegisterBank β] [StatusRegister γ]
    [Benched Simulated.BenchAction β] (handlers : Handlers β γ)
    {requests : List (Request Simulated.BenchAction)}
    (owned : ∀ request ∈ requests, request.part? = some .polled) (start : System β γ) :
    (handlers.carryOut requests start).machine.bank = start.machine.bank := by
  refine handlers.carryOut_maintains (fun system => system.machine.bank = start.machine.bank)
    (fun request member => ?_) rfl
  obtain ⟨op, rfl, owned⟩ := Request.exists_operation (owned request member)
  obtain ⟨reads, writes, serves, dispatch, setUp⟩ := Operation.polled_quiet owned
  have unread : ∀ offset, False → Maintains (· = start.machine.bank)
      (RegisterBank.read offset : EStateM Fault β Word) := fun _ => False.elim
  have closed : Closed (System.Move (fun _ => False) fun _ => False)
      fun system : System β γ => system.machine.bank = start.machine.bank :=
    System.closed_of_bank unread fun _ _ => False.elim
  refine op.perform_maintains_of_closed closed.of_move reads writes (fun served => ?_)
    (absurd · dispatch) (fun _ _ same => same) (fun _ _ _ same => same) (fun _ _ _ same => same)
    (absurd · setUp)
  rw [serves] at served
  cases served

/-- **The parts are independent.** Take a sequence of requests for each part. In whatever order they
are interleaved, the requests of each sequence are answered as if it were carried out alone, and the
system ends in the same state but for the trace. A sequence changes its part and nothing else, and
the one of the polled table makes no access to any register. -/
theorem parts_independent {γ : Type} [StatusRegister γ] (handlers : Handlers Simulated γ)
    (sequences : Part → List (Request Simulated.BenchAction))
    (owned : ∀ part, ∀ request ∈ sequences part, request.part? = some part)
    (start : System Simulated γ) :
    (∀ merged, Interleaves sequences merged → ∀ part : Part,
      (handlers.answers merged start).filter (fun answer => part.Owns answer.1) =
        handlers.answers (sequences part) start) ∧
    (∀ first second, Interleaves sequences first → Interleaves sequences second →
      ∃ trace, handlers.carryOut second start =
        { handlers.carryOut first start with machine.trace := trace }) ∧
    (∀ part, start.ChangesOnly part (handlers.carryOut (sequences part) start)) ∧
    (∀ {β : Type} [RegisterBank β] [Benched Simulated.BenchAction β] (others : Handlers β γ)
        (system : System β γ),
      (others.carryOut (sequences .polled) system).machine.bank = system.machine.bank) := by
  have alone : ∀ {merged}, Interleaves sequences merged → ∀ part : Part,
      (handlers.answers merged start).filter (fun answer => part.Owns answer.1) =
          handlers.answers (sequences part) start ∧
        (handlers.carryOut merged start).Alike (· = part)
          (handlers.carryOut (sequences part) start) := by
    intro merged interleaves part
    have own : merged.filter part.Owns = sequences part := interleaves.filter_eq owned part
    have alike : start.Alike (· = part) start := .refl start
    rw [← own]
    exact handlers.carryOut_part (interleaves.exists_owner owned) alike
  have rest : ∀ {merged}, Interleaves sequences merged →
      (handlers.carryOut merged start).rest = start.rest :=
    fun interleaves => handlers.carryOut_rest (interleaves.exists_owner owned) start
  refine ⟨fun merged interleaves part => (alone interleaves part).1, ?_, ?_, ?_⟩
  · intro first second left right
    refine System.eq_of_alike (fun part => ?_) ((rest left).trans (rest right).symm)
    exact (alone left part).2.trans (alone right part).2.symm
  · intro part
    exact handlers.carryOut_changesOnly (owned part) start
  · intro β _ _ others system
    exact others.carryOut_polled_bank (owned .polled) system

/-- A short sequence for each part. -/
def Part.sample : Part → List (Request Simulated.BenchAction)
  | .polled => [.operation (.bindPolled 3 .spurious 5)]
  | .vectored => [.operation (.bindVectored 3 .dummy 7), .operation (.disableSlot 3)]
  | .lines => [.action (.bench (.raise 3)), .action (.line (.clear 3))]
  | .status => [.action (.status .enableIrq)]

/-- One part after the other, and shuffled. -/
theorem parts_independent_sample :
    let handlers : Handlers Simulated ControlField :=
      (Firmware.idle : Firmware Simulated.BenchAction).handlers 1
    let start := System.fresh (.atPowerUp Simulated.powerUp)
    ∃ trace, handlers.carryOut ([.action (.bench (.raise 3)),
        .operation (.bindVectored 3 .dummy 7), .action (.status .enableIrq),
        .action (.line (.clear 3)), .operation (.bindPolled 3 .spurious 5),
        .operation (.disableSlot 3)] : List (Request Simulated.BenchAction)) start =
      { handlers.carryOut (Part.sample .polled ++ Part.sample .vectored ++ Part.sample .lines ++
          Part.sample .status) start with machine.trace := trace } := by
  intro handlers start
  have owned : ∀ part, ∀ request ∈ Part.sample part, request.part? = some part := by
    intro part
    cases part <;> simp [Part.sample, Request.part?, Operation.part?, Simulated.BenchAction.part?]
  refine (parts_independent handlers Part.sample owned start).2.1 _ _ ?_ ?_
  · exact .take .polled rfl (.take .vectored rfl (.take .vectored rfl (.take .lines rfl
      (.take .lines rfl (.take .status rfl (.done fun part => by cases part <;> rfl))))))
  · exact .take .lines rfl (.take .vectored rfl (.take .status rfl (.take .lines rfl
      (.take .polled rfl (.take .vectored rfl (.done fun part => by cases part <;> rfl))))))

end VectoredInterrupts
