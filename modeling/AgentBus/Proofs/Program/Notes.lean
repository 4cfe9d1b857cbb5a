import AgentBus.Bus.Network

/-!
# Programs that take notes

Which calls a program makes, and in what order, cannot be seen from what it leaves behind. A program
that takes notes makes the same requests as the plain one and writes down what it does, on an
output of its own beside the outputs there are.

* `Program.interpret` — a program whose requests are made by other programs.
* `BusProgram.widen`, `BusProgram.note` — room for notes, and a note.
* `noteTaker` — any surroundings, with somebody who collects the notes.
* `Annotates` — a program does what another does, whatever the surroundings, and its notes are as
  a predicate says. Its rules follow the way in which programs are put together.
-/

namespace AgentBus

/-! ## Interpretation -/

namespace Program

variable {S T : Signature} {α β : Type}

theorem bind_done (program : Program S α) : program.bind .done = program := by
  induction program with
  | done result => rfl
  | ask request next ih => exact congrArg (Program.ask request) (funext ih)

/-- The program in which each request is made by a program. -/
def interpret (means : (request : S.Request) → Program T (S.Response request)) :
    Program S α → Program T α
  | .done result => .done result
  | .ask request next =>
    (means request).bind fun response => (next response).interpret means

/-- All requests of a program are allowed, and all its results are fine. -/
def Every (allowed : S.Request → Prop) (fine : α → Prop) : Program S α → Prop
  | .done result => fine result
  | .ask request next => allowed request ∧ ∀ response, (next response).Every allowed fine

section Every

variable {allowed : S.Request → Prop} {fine : α → Prop}

theorem Every.bind {fine' : β → Prop} {program : Program S α} {f : α → Program S β}
    (every : program.Every allowed fine)
    (goesOn : ∀ result, fine result → (f result).Every allowed fine') :
    (program.bind f).Every allowed fine' := by
  induction program with
  | done result => exact goesOn result every
  | ask request next ih => exact ⟨every.1, fun response => ih response (every.2 response)⟩

theorem every_interpret {means : (request : T.Request) → Program S (T.Response request)}
    (meant : ∀ request, (means request).Every allowed fun _ => True) (program : Program T α) :
    (program.interpret means).Every allowed fun _ => True := by
  induction program with
  | done result => trivial
  | ask request next ih => exact (meant request).bind fun response _ => ih response

end Every

theorem every_of_all {allowed : S.Request → Prop} {fine : α → Prop}
    (all : ∀ request, allowed request) (all' : ∀ result, fine result) (program : Program S α) :
    program.Every allowed fine := by
  induction program with
  | done result => exact all' result
  | ask request next ih => exact ⟨all request, ih⟩

theorem Every.interpret {allowed : T.Request → Prop} {allowed' : S.Request → Prop}
    {fine : α → Prop} {means : (request : T.Request) → Program S (T.Response request)}
    {program : Program T α} (every : program.Every allowed fine)
    (meant : ∀ request, allowed request → (means request).Every allowed' fun _ => True) :
    (program.interpret means).Every allowed' fine := by
  induction program with
  | done result => exact every
  | ask request next ih =>
    exact (meant request every.1).bind fun response _ => ih response (every.2 response)

/-- What every allowed request keeps, a run keeps. -/
theorem Every.run {state : Type} {perform : Performer S state} {allowed : S.Request → Prop}
    {fine : α → Prop} {program : Program S α} (every : program.Every allowed fine)
    {P : state → Prop} (kept : ∀ request s, allowed request → P s → P (perform request s).2)
    {s : state} (held : P s) : P (program.run perform s).2 := by
  induction program generalizing s with
  | done result => exact held
  | ask request next ih => exact ih _ (every.2 _) (kept request s every.1 held)

end Program

/-! ## Room for notes -/

variable {ω ν α β : Type}

/-- A request, where notes are taken beside it. -/
def BusRequest.widened : (request : BusRequest ω) → BusProgram (ω ⊕ ν) request.Response
  | .send message source destination => BusProgram.send message source destination
  | .look endpoint => BusProgram.look endpoint
  | .tearDown endpoint => BusProgram.tearDown endpoint
  | .context => BusProgram.context
  | .change made => BusProgram.change made
  | .emit output => BusProgram.emit (.inl output)

namespace BusProgram

/-- The program with room for notes, of which it takes none. -/
def widen (program : BusProgram ω α) : BusProgram (ω ⊕ ν) α :=
  program.interpret BusRequest.widened

def note (note : ν) : BusProgram (ω ⊕ ν) Unit :=
  emit (.inr note)

end BusProgram

/-- Surroundings with somebody who collects the notes. -/
def noteTaker {state : Type} (perform : Program.Performer (busSignature ω) state) :
    Program.Performer (busSignature (ω ⊕ ν)) (state × List ν)
  | .emit (.inr note), (s, notes) => ((), s, notes ++ [note])
  | .emit (.inl output), (s, notes) => ((), (perform (.emit output) s).2, notes)
  | .send message source destination, (s, notes) =>
    let answered := perform (.send message source destination) s
    (answered.1, answered.2, notes)
  | .look endpoint, (s, notes) =>
    let answered := perform (.look endpoint) s
    (answered.1, answered.2, notes)
  | .tearDown endpoint, (s, notes) => ((), (perform (.tearDown endpoint) s).2, notes)
  | .context, (s, notes) =>
    let answered := perform .context s
    (answered.1, answered.2, notes)
  | .change change, (s, notes) =>
    let answered := perform (.change change) s
    (answered.1, answered.2, notes)

theorem run_widened {state : Type} (perform : Program.Performer (busSignature ω) state)
    (request : BusRequest ω) (s : state) (past : List ν) :
    (request.widened (ν := ν)).run (noteTaker perform) (s, past) =
      ((perform request s).1, (perform request s).2, past) := by
  cases request <;> rfl

/-! ## Programs with their notes -/

/-- A program does what a plain one does, whatever the surroundings, and takes notes of which this
holds. -/
structure Annotates (plain : BusProgram ω α) (noted : BusProgram (ω ⊕ ν) α)
    (holds : α → List ν → Prop) : Prop where
  run : ∀ {state : Type} (perform : Program.Performer (busSignature ω) state) (s : state)
    (past : List ν), ∃ notes,
      noted.run (noteTaker perform) (s, past) =
        ((plain.run perform s).1, (plain.run perform s).2, past ++ notes) ∧
      holds (plain.run perform s).1 notes

namespace Annotates

theorem done {holds : α → List ν → Prop} {result : α} (nothing : holds result []) :
    Annotates (.done result : BusProgram ω α) (.done result) holds where
  run _ _ past := ⟨[], by simp [Program.run], nothing⟩

theorem note {holds : α → List ν → Prop} {plain : BusProgram ω α} {note : ν}
    {next : Unit → BusProgram (ω ⊕ ν) α}
    (rest : Annotates plain (next ()) fun result notes => holds result (note :: notes)) :
    Annotates plain ((BusProgram.note note).bind next) holds where
  run perform s past := by
    obtain ⟨notes, ran, held⟩ := rest.run perform s (past ++ [note])
    refine ⟨note :: notes, ?_, held⟩
    rw [List.append_assoc] at ran
    exact ran

theorem request {holds : α → List ν → Prop} (request : BusRequest ω)
    {next : request.Response → BusProgram ω α} {next' : request.Response → BusProgram (ω ⊕ ν) α}
    (rest : ∀ response, Annotates (next response) (next' response) holds) :
    Annotates ((Program.ask request .done).bind next) (request.widened.bind next') holds where
  run perform s past := by
    obtain ⟨notes, ran, held⟩ := (rest (perform request s).1).run perform (perform request s).2 past
    refine ⟨notes, ?_, held⟩
    rw [Program.run_bind, run_widened]
    exact ran

/-- One program after another: the notes of the second follow those of the first. -/
theorem bind {holds : α → List ν → Prop} {holds' : β → List ν → Prop}
    {plain : BusProgram ω α} {noted : BusProgram (ω ⊕ ν) α}
    {f : α → BusProgram ω β} {g : α → BusProgram (ω ⊕ ν) β} (first : Annotates plain noted holds)
    (second : ∀ result before, holds result before →
      Annotates (f result) (g result) fun result' after => holds' result' (before ++ after)) :
    Annotates (plain.bind f) (noted.bind g) holds' where
  run perform s past := by
    obtain ⟨before, ran, held⟩ := first.run perform s past
    obtain ⟨after, ran', held'⟩ :=
      (second _ before held).run perform (plain.run perform s).2 (past ++ before)
    refine ⟨before ++ after, ?_, ?_⟩
    · rw [Program.run_bind, ran, ran', Program.run_bind, List.append_assoc]
    · rw [Program.run_bind]
      exact held'

theorem imp {holds holds' : α → List ν → Prop} {plain : BusProgram ω α}
    {noted : BusProgram (ω ⊕ ν) α} (annotates : Annotates plain noted holds)
    (weaker : ∀ result notes, holds result notes → holds' result notes) :
    Annotates plain noted holds' where
  run perform s past := by
    obtain ⟨notes, ran, held⟩ := annotates.run perform s past
    exact ⟨notes, ran, weaker _ _ held⟩

end Annotates

end AgentBus
