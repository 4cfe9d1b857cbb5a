import AgentBus.Proofs.Agent.Orderly
import AgentBus.Proofs.Worker.Lifecycle

/-!
# Agents whose workers have notebooks

Room for notes changes nothing of what a program does: it runs as the plain one does where the notes
are left out of sight (`BusProgram.mirrors_widen`). So workers with notebooks are brought up with
the same results as those without (`Agent.setups_noting`), and they keep to what those keep to
(`Worker.Makes.noting`).
-/

namespace AgentBus

variable {ω ν σ : Type}

/-! ## Out of sight -/

/-- The network without the notes. -/
def Network.plain (net : Network (ω ⊕ ν)) : Network ω where
  context := net.context
  endpoints := net.endpoints
  handles := net.handles
  output :=
    { front := net.output.front.filterMap Sum.getLeft?
      back := net.output.back.filterMap Sum.getLeft? }

theorem Network.plain_send (net : Network (ω ⊕ ν)) (message : Message)
    (source destination : EndpointId) :
    (net.send message source destination).1 = (net.plain.send message source destination).1 ∧
      (net.send message source destination).2.plain =
        (net.plain.send message source destination).2 := by
  have same : net.plain.Accepts destination ↔ net.Accepts destination := Iff.rfl
  by_cases takes : net.Accepts destination
  · rw [send_of_accepts takes, send_of_accepts (same.mpr takes)]
    exact ⟨rfl, rfl⟩
  · rw [send_of_not_accepts takes, send_of_not_accepts (mt same.mp takes)]
    exact ⟨rfl, rfl⟩

namespace BusProgram

variable {α β : Type}

/-- A program that runs as a plain one does, where its notes are out of sight. -/
def Mirrors (noted : BusProgram (ω ⊕ ν) α) (plain : BusProgram ω α) : Prop :=
  ∀ net : Network (ω ⊕ ν),
    (noted.run Network.perform net).1 = (plain.run Network.perform net.plain).1 ∧
      (noted.run Network.perform net).2.plain = (plain.run Network.perform net.plain).2

theorem mirrors_done (result : α) :
    Mirrors (.done result : BusProgram (ω ⊕ ν) α) (.done result) :=
  fun _ => ⟨rfl, rfl⟩

theorem Mirrors.bind {noted : BusProgram (ω ⊕ ν) α} {plain : BusProgram ω α}
    {f : α → BusProgram (ω ⊕ ν) β} {g : α → BusProgram ω β} (first : noted.Mirrors plain)
    (rest : ∀ result, (f result).Mirrors (g result)) :
    Mirrors (noted.bind f) (plain.bind g) := by
  intro net
  obtain ⟨result, after⟩ := first net
  rw [Program.run_bind, Program.run_bind, ← result, ← after]
  exact rest _ _

theorem mirrors_widened (request : BusRequest ω) :
    Mirrors (request.widened (ν := ν)) (.ask request .done) := by
  intro net
  cases request with
  | send message source destination => exact net.plain_send message source destination
  | look endpoint => exact ⟨rfl, rfl⟩
  | tearDown endpoint => exact ⟨rfl, rfl⟩
  | context => exact ⟨rfl, rfl⟩
  | change made => exact ⟨rfl, rfl⟩
  | emit output => exact ⟨rfl, rfl⟩

theorem mirrors_widen (program : BusProgram ω α) : program.widen.Mirrors (ν := ν) program := by
  induction program with
  | done result => exact mirrors_done result
  | ask request next ih => exact (mirrors_widened request).bind ih

theorem mirrors_note (note : ν) :
    Mirrors (BusProgram.note note : BusProgram (ω ⊕ ν) Unit) (.done ()) :=
  fun _ => ⟨rfl, rfl⟩

end BusProgram

/-! ## Passes over widened handlers -/

theorem HandlerProgram.mirrors_collect {α : Type} (program : HandlerProgram ω α)
    (changes : List ChainChange) :
    (collect (program.widen (ν := ν)) changes).Mirrors (collect program changes) := by
  induction program generalizing changes with
  | done result => exact BusProgram.mirrors_done _
  | ask request next ih =>
    cases request with
    | inl request =>
      -- Each request becomes a program of its own, which makes just this request
      have same : collect (widen (ν := ν) (.ask (.inl request) next)) changes =
          (request.widened (ν := ν)).bind fun response =>
            collect (widen (ν := ν) (next response)) changes := by
        cases request <;> rfl
      rw [same]
      exact (BusProgram.mirrors_widened request).bind fun response => ih response changes
    | inr change => exact ih () (changes ++ [change])

theorem Chain.mirrors_startEntries (B : Behaviour ω σ) (own : EndpointId) (bound : Bool)
    (entries : List (Entry σ)) (changes : List ChainChange) :
    (startEntries (B.widen (ν := ν)) own bound entries changes).Mirrors
      (startEntries B own bound entries changes) := by
  induction entries generalizing changes with
  | nil => exact BusProgram.mirrors_done _
  | cons entry rest ih =>
    unfold startEntries
    split
    · apply (HandlerProgram.mirrors_collect _ changes).bind
      intro started
      exact (ih started.2).bind fun _ => BusProgram.mirrors_done _
    · exact (ih changes).bind fun _ => BusProgram.mirrors_done _

theorem Chain.mirrors_startAll (B : Behaviour ω σ) (own : EndpointId) (bound : Bool)
    (chain : Chain σ) :
    (chain.startAll (B.widen (ν := ν)) own bound).Mirrors (chain.startAll B own bound) :=
  (mirrors_startEntries B own bound chain.entries []).bind fun _ => BusProgram.mirrors_done _

/-! ## Workers -/

section Bringing

variable (B : Behaviour ω σ) (core : EndpointId) (number : Nat) (worker : Worker ω σ)

theorem Worker.mirrors_init (post : Post) :
    ((worker.noting number).init post).Mirrors (worker.init post) :=
  (BusProgram.mirrors_note _).bind fun _ => BusProgram.mirrors_widen _

theorem Slot.setup_noting (net : Network (ω ⊕ WorkerNote)) :
    Slot.setup core (worker.noting number) net = Slot.setup core worker net.plain :=
  (worker.mirrors_init number _ _).1

theorem Slot.plain_raising (net : Network (ω ⊕ WorkerNote)) :
    (Slot.raising B.widen core (worker.noting number) net).plain =
      Slot.raising B core worker net.plain := by
  have initialized := worker.mirrors_init number ⟨net.nextId, core⟩ (net.enroll worker.name core)
  have started := Chain.mirrors_startAll (ν := WorkerNote) B net.nextId true
    (WorkerContext.registerAll {} (Slot.setup core (worker.noting number) net).handlers)
  refine (started _).2.trans ?_
  rw [Slot.setup_noting]
  exact congrArg (fun net' => ((Chain.startAll B net.nextId true _).run Network.perform net').2)
    initialized.2

end Bringing

/-- Workers with notebooks return from `init` what those without return. -/
theorem Registry.setups_noting (B : Behaviour ω σ) (core : EndpointId) (workers : List (Worker ω σ))
    (number : Nat → Nat) (net : Network (ω ⊕ WorkerNote)) :
    setups B.widen core (workers.mapIdx fun index worker => worker.noting (number index)) net =
      setups B core workers net.plain := by
  induction workers generalizing number net with
  | nil => rfl
  | cons worker rest ih =>
    rw [List.mapIdx_cons, setups, setups, Slot.setup_noting, ← Slot.plain_raising B core (number 0),
      ← ih fun index => number (index + 1)]

/-! ## What workers keep to -/

theorem BusRequest.Local.widened {own : EndpointId} {request : BusRequest ω}
    (keeps : request.Local own) :
    (request.widened (ν := ν)).Every (BusRequest.Local own) fun _ => True := by
  cases request with
  | change made => cases made <;> exact ⟨keeps, fun _ => trivial⟩
  | send => exact ⟨trivial, fun _ => trivial⟩
  | look => exact ⟨trivial, fun _ => trivial⟩
  | tearDown => exact ⟨trivial, fun _ => trivial⟩
  | context => exact ⟨trivial, fun _ => trivial⟩
  | emit => exact ⟨trivial, fun _ => trivial⟩

theorem BusProgram.local_widen {α : Type} {own : EndpointId} {fine : α → Prop}
    {program : BusProgram ω α} (every : program.Every (BusRequest.Local own) fine) :
    (program.widen (ν := ν)).Every (BusRequest.Local own) fine :=
  every.interpret fun _ => BusRequest.Local.widened

theorem HandlerProgram.local_widen {α : Type} {own : EndpointId} {program : HandlerProgram ω α}
    (every : program.Every (Allowed (BusRequest.Local own)) fun _ => True) :
    Program.Every (Allowed (BusRequest.Local own)) (fun _ => True) (program.widen (ν := ν)) := by
  apply every.interpret
  rintro (request | change) keeps
  · exact every_left (BusRequest.Local.widened keeps)
  · exact ⟨trivial, fun _ => trivial⟩

theorem Behaviour.Makes.widen {B : Behaviour ω σ} (makes : B.Makes BusRequest.Local) :
    (B.widen (ν := ν)).Makes BusRequest.Local where
  init scope handler := HandlerProgram.local_widen (makes.init scope handler)
  handle scope handler message := HandlerProgram.local_widen (makes.handle scope handler message)
  finalize scope handler := HandlerProgram.local_widen (makes.finalize scope handler)

theorem Body.Makes.widen {own : EndpointId} {body : Body ω}
    (makes : body.Makes (BusRequest.Local own)) :
    (body.widen (ν := ν)).Makes (BusRequest.Local own) := by
  cases body with
  | panic => trivial
  | leave code => trivial
  | serve task code =>
    intro job member
    obtain ⟨plain, member', rfl⟩ := List.mem_map.mp member
    exact BusProgram.local_widen (makes plain member')

theorem ClosingProgram.local_widen {α : Type} {own : EndpointId} {program : ClosingProgram ω α}
    (every : program.Every (Allowed (BusRequest.Local own)) fun _ => True) :
    Program.Every (Allowed (BusRequest.Local own)) (fun _ => True) (program.widen (ν := ν)) := by
  apply every.interpret
  rintro (request | request) keeps
  · have plain := BusRequest.Local.widened (ν := ν) keeps
    cases request <;> exact ⟨plain.1, fun _ => trivial⟩
  · exact ⟨trivial, fun _ => trivial⟩

/-- A worker does with a notebook what it does without. -/
theorem Worker.Makes.noting {worker : Worker ω σ} (makes : worker.Makes BusRequest.Local)
    (number : Nat) : (worker.noting number).Makes BusRequest.Local where
  init post := ⟨trivial, fun _ => BusProgram.local_widen (makes.init post)⟩
  main post := by
    refine ⟨trivial, fun _ => ?_⟩
    exact (BusProgram.local_widen (makes.main post)).bind fun _ fine => fine.widen
  deinit post := ⟨trivial, fun _ => ClosingProgram.local_widen (makes.deinit post)⟩

/-! ## Agents -/

namespace Agent

/-- Workers with notebooks, each known by its place. -/
def notingAll (workers : List (Worker ω σ)) : List (Worker (ω ⊕ WorkerNote) σ) :=
  workers.mapIdx fun index worker => worker.noting index

theorem names_notingAll (workers : List (Worker ω σ)) :
    (notingAll workers).map Worker.name = workers.map Worker.name := by
  apply List.ext_getElem?
  intro index
  rw [notingAll, List.getElem?_map, List.getElem?_mapIdx, List.getElem?_map, Option.map_map]
  rfl

theorem setups_notingAll (B : Behaviour ω σ) (config : Config) (workers : List (Worker ω σ)) :
    setups B.widen config (notingAll workers) = setups B config workers :=
  Registry.setups_noting B ⟨0⟩ workers id _

theorem makes_notingAll {workers : List (Worker ω σ)}
    (opens : ∀ worker ∈ workers, worker.Makes BusRequest.Local) :
    ∀ worker ∈ notingAll workers, worker.Makes BusRequest.Local := by
  intro noted member
  obtain ⟨index, bound, rfl⟩ := List.mem_mapIdx.mp member
  exact (opens _ (List.getElem_mem _)).noting index

end Agent

end AgentBus
