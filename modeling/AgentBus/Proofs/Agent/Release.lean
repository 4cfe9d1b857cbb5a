import AgentBus.Proofs.Agent.Dismissal

/-!
# Every dismissed worker stops serving

A doomed worker whose thread acts again and again stops serving (`Attended.releases`), whatever the
others do meanwhile. With every message that the thread offers there is one less that it has to, and
the pass over the chain is a program, which comes to its end. `Pending` is how far the thread is,
and `Hop` how it goes on from there when it acts; moves of the others leave it where it is.
-/

namespace AgentBus

variable {ω σ : Type} {B : Behaviour ω σ}

/-! ## How far a thread is -/

/-- What a thread has to do before it looks for its next message. -/
inductive Pending (ω σ : Type) where
  | opening (main : BusProgram ω (Body ω))
  | work (work : Work ω σ)

namespace Thread

variable {thread after : Thread ω σ} {net net' : Network ω}

def pending (thread : Thread ω σ) : Pending ω σ :=
  match thread.phase with
  | .opening main => .opening main
  | _ => .work thread.work

theorem pending_taskStep (stepped : thread.taskStep net = some (after, net')) :
    after.pending = thread.pending := by
  obtain ⟨job, rest, code, serving, rfl, -⟩ := taskStep_eq_some stepped
  rw [pending, pending, work, work, serving]
  rfl

theorem still_taskStep (stepped : thread.taskStep net = some (after, net')) :
    after.isServing = true := by
  obtain ⟨job, rest, code, -, rfl, -⟩ := taskStep_eq_some stepped
  rfl

/-- A doomed thread does not wait. -/
theorem step_of_doomed (stands : thread.Stands net) (serving : thread.isServing = true)
    (doomed : thread.Doomed net) : ∃ after net', thread.step B net = some (after, net') := by
  obtain ⟨worker, context, phase⟩ := thread
  cases phase with
  | opening main =>
    cases main with
    | ask request next => exact ⟨_, _, rfl⟩
    | done body => exact ⟨_, _, rfl⟩
  | looping loop task code =>
    simp only [step]
    have goes := loop.goes_step (B := B) (context.site net)
    cases looped : loop.step B (context.site net) with
    | working next site => exact ⟨_, _, rfl⟩
    | ended how site => exact ⟨_, _, rfl⟩
    | waiting =>
      rw [looped] at goes
      cases goes with
      | wait same up empty =>
        -- Neither is the endpoint tearing down nor does anything wait, so no exit message does
        obtain ⟨endpoint, found, _⟩ := stands.serves (by simp)
        have nothing : net.queueAt context.own = [] := Site.take_eq_none empty found
        have up' : net.isTearingDown context.own = false := up
        subst same
        rcases doomed with down | exiting | exits
        · cases up'.symm.trans down
        · contradiction
        · have none : Thread.waiting ⟨worker, context, .looping .serving task code⟩ net = [] :=
            nothing
          rw [none] at exits
          contradiction
  | leaving code => contradiction
  | returned code => contradiction
  | panicked => contradiction

/-- How a doomed thread that goes on to serve goes on. At most `count` messages are due. -/
inductive Hop : Nat → Pending ω σ → Nat → Pending ω σ → Prop where
  | open {count : Nat} {request : BusRequest ω}
      {next : request.Response → BusProgram ω (Body ω)} (response : request.Response) :
      Hop count (.opening (.ask request next)) count (.opening (next response))
  | enter {count : Nat} {body : Body ω} : Hop count (.opening (.done body)) count (.work .free)
  | take {count : Nat} (message : Message) : 0 < count →
      Hop count (.work .free) count (.work (.taken message))
  | release {count : Nat} {message : Message} : Hop count (.work (.taken message)) 0 (.work .free)
  | begin {count : Nat} {message : Message} (pass : BusProgram ω (Nat × Chain σ)) :
      Hop (count + 1) (.work (.taken message)) count (.work (.offering message pass))
  | ask {count : Nat} {message : Message} {request : BusRequest ω}
      {next : request.Response → BusProgram ω (Nat × Chain σ)} (response : request.Response) :
      Hop count (.work (.offering message (.ask request next))) count
        (.work (.offering message (next response)))
  | finish {count : Nat} {message : Message} {offered : Nat × Chain σ} :
      Hop count (.work (.offering message (.done offered))) count (.work .free)

theorem due_of_down (down : net.isTearingDown thread.own = true) : thread.due net = [] := by
  rw [due, down]
  rfl

/-- Where there is something to take, something is due. -/
theorem due_pos {message : Message} {rest : List Message}
    (up : net.isTearingDown thread.own = false) (busy : thread.work.isExiting = false)
    (waits : thread.waiting net = message :: rest) : 0 < (thread.due net).length := by
  rw [due, up, busy, waits, if_neg (by decide), Message.upToExit]
  split
  · exact Nat.succ_pos _
  · exact Nat.succ_pos _

theorem hop_step {count : Nat} (steady : thread.Steady) (stands : thread.Stands net)
    (serving : thread.isServing = true) (doomed : thread.Doomed net)
    (bound : (thread.due net).length ≤ count) (stepped : thread.step B net = some (after, net'))
    (still : after.isServing = true) :
    ∃ count', Hop count thread.pending count' after.pending ∧
      (after.due net').length ≤ count' := by
  have onward := onward_step steady stands serving stepped
  have fewer := (onward.due still doomed).2.length_le
  rw [List.length_append] at fewer
  obtain ⟨worker, context, phase⟩ := thread
  cases goes_step stepped with
  | ask => exact ⟨count, .open _, by omega⟩
  | panic => contradiction
  | skip => contradiction
  | serve => exact ⟨count, .enter, by omega⟩
  | @loop loop next task code site looped =>
    have goes := loop.goes_step (B := B) (context.site net)
    rw [looped] at goes
    obtain ⟨mode, work⟩ := loop
    cases goes with
    | poll same =>
      obtain ⟨rfl, rfl⟩ := Loop.mk.inj same
      contradiction
    | take free up _ taken =>
      obtain rfl : work = .free := free
      refine ⟨count, .take _ (Nat.lt_of_lt_of_le ?_ bound), by omega⟩
      cases mode with
      | serving => exact due_pos (up rfl) rfl (Network.queueAt_take taken).1
      | draining => contradiction
    | @drop message taken down =>
      obtain rfl : work = .taken message := taken
      refine ⟨0, .release, Nat.le_of_eq (List.length_eq_zero_iff.mpr ?_)⟩
      exact due_of_down (onward.down down)
    | @begin message taken up =>
      obtain rfl : work = .taken message := taken
      have begun : offers ⟨worker, context, .looping ⟨mode, .taken message⟩ task code⟩ net =
          some message := if_neg (Bool.eq_false_iff.mp up)
      -- The message that it offers now is due no longer
      rw [begun, Option.toList_some, List.length_singleton] at fewer
      obtain ⟨count, rfl⟩ : ∃ fewer, count = fewer + 1 := ⟨count - 1, by omega⟩
      exact ⟨count, .begin _, by omega⟩
    | @ask message request rest offering =>
      obtain rfl : work = .offering message (.ask request rest) := offering
      exact ⟨count, .ask _, by omega⟩
    | @finish message offered offering =>
      obtain rfl : work = .offering message (.done offered) := offering
      exact ⟨count, .finish, by omega⟩
  | @ended loop task code how => cases how <;> contradiction
  | leave => contradiction

end Thread

/-! ## Schedules -/

namespace Agent

variable {agent agent' : Agent ω σ} {index : Nat} {thread : Thread ω σ} {move : Move ω}

/-- A schedule in which nobody panics and the worker at a position acts again and again. -/
structure Fair (index : Nat) (schedule : Nat → Move ω) : Prop where
  calm : ∀ n, (schedule n).IsCalm
  again : ∀ n, ∃ later, n ≤ later ∧ schedule later = .turn (.worker index)

/-- The first moves of a schedule. -/
def opening (schedule : Nat → Move ω) (count : Nat) : List (Move ω) :=
  (List.range count).map schedule

theorem opening_succ (schedule : Nat → Move ω) (count : Nat) :
    opening schedule (count + 1) = schedule 0 :: opening (fun n => schedule (n + 1)) count := by
  rw [opening, List.range_succ_eq_map, List.map_cons, List.map_map]
  rfl

theorem Fair.tail {schedule : Nat → Move ω} (fair : Fair index schedule) :
    Fair index fun n => schedule (n + 1) where
  calm n := fair.calm (n + 1)
  again n := by
    obtain ⟨later, after, own⟩ := fair.again (n + 1)
    obtain ⟨later, rfl⟩ : ∃ before, later = before + 1 := ⟨later - 1, by omega⟩
    exact ⟨later, by omega, own⟩

/-- By every fair schedule the worker at a position stops serving. -/
def Releases (B : Behaviour ω σ) (index : Nat) (agent : Agent ω σ) : Prop :=
  ∀ schedule : Nat → Move ω, Fair index schedule →
    ∃ count, (agent.moves B (opening schedule count)).isServing index = false

theorem Releases.of_ended (ended : agent.isServing index = false) : Releases B index agent :=
  fun _ _ => ⟨0, ended⟩

/-- What the others keep holds until the worker acts. -/
theorem releases_of_kept {P : Agent ω σ → Prop}
    (kept : ∀ {agent : Agent ω σ} {move : Move ω}, P agent → move.IsCalm →
      move ≠ .turn (.worker index) → P (agent.move B move))
    (acts : ∀ {agent : Agent ω σ}, P agent →
      Releases B index (agent.move B (.turn (.worker index)))) (held : P agent) :
    Releases B index agent := by
  intro schedule fair
  obtain ⟨later, -, own⟩ := fair.again 0
  -- By induction on the number of moves before the first one of the worker
  induction later generalizing agent schedule with
  | zero =>
    obtain ⟨count, ended⟩ := acts held _ fair.tail
    refine ⟨count + 1, ?_⟩
    rw [opening_succ, own]
    exact ended
  | succ later ih =>
    have onwards : ∃ count, ((agent.move B (schedule 0)).moves B
        (opening (fun n => schedule (n + 1)) count)).isServing index = false := by
      by_cases first : schedule 0 = .turn (.worker index)
      · rw [first]
        exact acts held _ fair.tail
      · exact ih (kept held (fair.calm 0) first) _ fair.tail own
    obtain ⟨count, ended⟩ := onwards
    refine ⟨count + 1, ?_⟩
    rw [opening_succ]
    exact ended

/-! ## Doomed workers -/

/-- The worker at a position is doomed, it has come so far, and at most `count` messages are due. -/
structure Bound (index count : Nat) (pending : Pending ω σ) (agent : Agent ω σ) : Prop where
  attended : agent.Attended
  thread : ∃ thread, agent.thread? index = some thread ∧ thread.isServing = true ∧
    thread.Doomed agent.network ∧ (thread.due agent.network).length ≤ count ∧
    thread.pending = pending

variable {count : Nat} {pending : Pending ω σ}

/-- Moves of the others leave a worker where it is. -/
theorem Bound.other (bound : agent.Bound index count pending) (calm : move.IsCalm)
    (other : move ≠ .turn (.worker index)) : (agent.move B move).Bound index count pending := by
  obtain ⟨thread, running, serving, doomed, fewer, same⟩ := bound.thread
  have step : agent.Step B move (agent.move B move) := step_move move
  obtain ⟨after, running', onward⟩ := bound.attended.onward running serving calm step
  -- Whoever else moves does at most a job of the thread, which leaves its loop where it is
  have stays : after.isServing = true ∧ after.pending = thread.pending := by
    cases bound.attended.after running step with
    | @act after' acts running'' =>
      obtain rfl := Option.some.inj (running''.symm.trans running')
      cases acts with
      | step => exact absurd rfl other
      | task stepped =>
        exact ⟨Thread.still_taskStep stepped, Thread.pending_taskStep stepped⟩
      | crash => exact absurd rfl (calm index)
    | spared _ running'' =>
      obtain rfl := Option.some.inj (running''.symm.trans running')
      exact ⟨serving, rfl⟩
    | joined _ ended => exact nomatch serving.symm.trans ended
  obtain ⟨doomed', fewer'⟩ := onward.due stays.1 doomed
  have shorter := fewer'.length_le
  rw [List.length_append] at shorter
  exact ⟨bound.attended.step step, after, running', stays.1, doomed', by omega,
    stays.2.trans same⟩

/-- When the worker acts, it stops serving or makes a hop. -/
theorem Bound.acts (bound : agent.Bound index count pending) :
    (agent.move B (.turn (.worker index))).isServing index = false ∨
      ∃ count' pending', Thread.Hop count pending count' pending' ∧
        (agent.move B (.turn (.worker index))).Bound index count' pending' := by
  obtain ⟨thread, running, serving, doomed, fewer, rfl⟩ := bound.thread
  have attended := bound.attended
  have stands := attended.placed.stands running
  have steady := attended.steady running
  have step : agent.Step B (.turn (.worker index)) (agent.move B (.turn (.worker index))) :=
    step_move _
  obtain ⟨after, running', onward⟩ := attended.onward running serving (Move.isCalm_turn _) step
  cases still : after.isServing with
  | false =>
    left
    rw [isServing, running', Option.any_some, still]
  | true =>
    right
    -- A doomed thread that serves is never stuck, so it cannot be spared
    obtain ⟨moved, net', stepped⟩ := Thread.step_of_doomed (B := B) stands serving doomed
    cases attended.after running step with
    | act acts running'' =>
      obtain rfl := Option.some.inj (running''.symm.trans running')
      cases acts with
      | step stepped' =>
        obtain ⟨count', hop, fewer'⟩ :=
          Thread.hop_step steady stands serving doomed fewer stepped' still
        exact ⟨count', _, hop, attended.step step, _, running', still,
          (onward.due still doomed).1, fewer', rfl⟩
    | spared idle => cases stepped.symm.trans (idle rfl)
    | joined _ ended => cases serving.symm.trans ended

/-- A worker is released if it is after whichever hop it makes. -/
theorem Bound.releases
    (onwards : ∀ {count' : Nat} {pending' : Pending ω σ}, Thread.Hop count pending count' pending' →
      ∀ {agent : Agent ω σ}, agent.Bound index count' pending' → Releases B index agent)
    (bound : agent.Bound index count pending) : Releases B index agent := by
  refine releases_of_kept (fun bound => bound.other) (fun bound => ?_) bound
  rcases bound.acts (B := B) with ended | ⟨count', pending', hop, bound'⟩
  · exact .of_ended ended
  · exact onwards hop bound'

/-! ### By the number of messages that are due -/

/-- A pass comes to its end. -/
theorem Bound.releases_offering {message : Message}
    (free : ∀ {agent : Agent ω σ}, agent.Bound index count (.work .free) → Releases B index agent)
    (pass : BusProgram ω (Nat × Chain σ))
    (bound : agent.Bound index count (.work (.offering message pass))) :
    Releases B index agent := by
  induction pass generalizing agent with
  | done offered =>
    refine bound.releases fun hop => ?_
    cases hop with
    | finish => exact free
  | ask request next ih =>
    refine bound.releases fun hop => ?_
    cases hop with
    | ask response => exact ih response

theorem Bound.releases_free (bound : agent.Bound index count (.work .free)) :
    Releases B index agent := by
  -- With nothing due a doomed worker that is free does not take another message
  have released {agent : Agent ω σ} (bound : agent.Bound index 0 (.work .free)) :
      Releases B index agent := by
    refine bound.releases fun hop => ?_
    cases hop with
    | take message due => exact absurd due (Nat.lt_irrefl 0)
  induction count generalizing agent with
  | zero => exact released bound
  | succ count ih =>
    refine bound.releases fun hop => ?_
    cases hop with
    | take message due =>
      refine fun bound => bound.releases fun hop => ?_
      cases hop with
      | release => exact released
      | begin pass => exact Bound.releases_offering ih pass

theorem Bound.releases_opening (main : BusProgram ω (Body ω))
    (bound : agent.Bound index count (.opening main)) : Releases B index agent := by
  induction main generalizing agent with
  | done body =>
    refine bound.releases fun hop => ?_
    cases hop with
    | enter => exact Bound.releases_free
  | ask request next ih =>
    refine bound.releases fun hop => ?_
    cases hop with
    | «open» response => exact ih response

/-- A doomed worker stops serving, if only it acts again and again. -/
theorem Attended.releases (attended : agent.Attended) (running : agent.thread? index = some thread)
    (serving : thread.isServing = true) (doomed : thread.Doomed agent.network) :
    Releases B index agent := by
  obtain ⟨count, bound⟩ : ∃ count, agent.Bound index count thread.pending :=
    ⟨_, attended, thread, running, serving, doomed, Nat.le_refl _, rfl⟩
  generalize thread.pending = pending at bound
  cases pending with
  | opening main => exact bound.releases_opening
  | work work =>
    cases work with
    | free => exact bound.releases_free
    | taken message =>
      refine bound.releases fun hop => ?_
      cases hop with
      | release => exact Bound.releases_free
      | begin pass => exact Bound.releases_offering Bound.releases_free pass
    | offering message pass => exact bound.releases_offering Bound.releases_free

end Agent

end AgentBus
