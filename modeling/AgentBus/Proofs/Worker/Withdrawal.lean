import AgentBus.Proofs.Worker.Housing
import AgentBus.Proofs.Worker.Lifecycle

/-!
# Workers that were withdrawn

Workers may have equal names. One that is prepared is published in place of any other of its name,
and one that is deinitialized takes the name away, whoever has it. Still the directory has an
endpoint under its worker's name at most, so none is published any more when its worker was
deinitialized (`unpublished_of_deinitialized`). The channels of the endpoint go only if the name
leads to it at that time. It does if no other worker of the name was ever prepared; otherwise they
may stay (`bound_after_deinit`).

`Registry.Housed` is the invariant. That a worker is gone for good is `Registry.Gone`.
-/

namespace AgentBus

variable {ω σ : Type} {B : Behaviour ω σ} {core : EndpointId}

theorem WorkerState.not_next_registered {state : WorkerState} : ¬ state.Next .registered :=
  nofun

/-! ## Registries -/

namespace Registry

variable {registry registry' : Registry ω σ} {net net' : Network ω}
variable {number other : Nat} {name name' : String} {own own' : EndpointId}

/-- The worker at a position has this name, and lives on this endpoint. -/
def Lodges (registry : Registry ω σ) (number : Nat) (name : String) (own : EndpointId) : Prop :=
  ∃ slot, registry.slots[number]? = some slot ∧ slot.name = name ∧ slot.endpoint = some own

theorem lodges_set {slot slot' : Slot ω σ} (found : registry.slots[number]? = some slot) :
    Lodges ⟨registry.slots.set number slot'⟩ other name own ↔
      other ≠ number ∧ registry.Lodges other name own ∨
        other = number ∧ slot'.name = name ∧ slot'.endpoint = some own := by
  constructor
  · rintro ⟨slot, found', named, lives⟩
    obtain ⟨rfl, rfl⟩ | ⟨different, old⟩ := slots_set_eq_some found'
    · exact .inr ⟨rfl, named, lives⟩
    · exact .inl ⟨different, slot, old, named, lives⟩
  · rintro (⟨different, slot, old, lives⟩ | ⟨rfl, lives⟩)
    · exact ⟨slot, by simp [Ne.symm different, old], lives⟩
    · exact ⟨slot', slots_set_self found slot', lives⟩

/-- What a step means to the endpoints of the workers and to the directory. -/
inductive Affects (registry : Registry ω σ) (net : Network ω) (registry' : Registry ω σ)
    (net' : Network ω) : Prop where
  | stays : (∀ {other name own}, registry'.Lodges other name own ↔ registry.Lodges other name own) →
      net'.context.directory.endpoints = net.context.directory.endpoints →
      (∀ channel ∈ net'.context.directory.channels, channel ∈ net.context.directory.channels ∨
        ∃ number name, registry.Lodges number name channel.2) → Affects registry net registry' net'
  | enrolls {number : Nat} {name : String} :
      (∀ {other name' own}, registry'.Lodges other name' own ↔
        registry.Lodges other name' own ∨ other = number ∧ name' = name ∧ own = net.nextId) →
      (∀ name' own, ¬ registry.Lodges number name' own) →
      net'.Knows net.nextId →
      net'.context.directory.endpoints =
        net.context.directory.endpoints.insert name net.nextId →
      (∀ channel ∈ net'.context.directory.channels,
        channel ∈ net.context.directory.channels ∨ channel.2 = net.nextId) →
      Affects registry net registry' net'
  | leaves {number : Nat} {name : String} {own : EndpointId} {between : Network ω} :
      registry.Lodges number name own →
      (∀ {other name' own'}, registry'.Lodges other name' own' ↔
        other ≠ number ∧ registry.Lodges other name' own') →
      net.Binding own between →
      net'.context.directory = between.context.directory.withdraw name →
      net'.isTearingDown own = true → Affects registry net registry' net'

theorem lodges_iff {slot : Slot ω σ} (found : registry.slots[number]? = some slot) :
    registry.Lodges number name own ↔ slot.name = name ∧ slot.endpoint = some own := by
  constructor
  · rintro ⟨_, found', lives⟩
    obtain rfl := Option.some.inj (found.symm.trans found')
    exact lives
  · exact fun lives => ⟨slot, found, lives⟩

theorem affects_set {slot slot' : Slot ω σ} (found : registry.slots[number]? = some slot)
    (named : slot'.name = slot.name) (affects : slot.Affects core net slot' net') :
    net.Grows net' ∧ registry.Affects net ⟨registry.slots.set number slot'⟩ net' := by
  -- A slot that keeps its endpoint lodges whom it lodged
  have same (kept : slot'.endpoint = slot.endpoint) {other : Nat} {name : String}
      {own : EndpointId} :
      Lodges ⟨registry.slots.set number slot'⟩ other name own ↔ registry.Lodges other name own := by
    rw [lodges_set found, kept, named]
    by_cases here : other = number
    · subst here
      simp [lodges_iff found]
    · simp [here]
  cases affects with
  | idles kept => exact ⟨.refl net, .stays (same kept) rfl fun _ => .inl⟩
  | @works own _ has has' grows binding =>
    refine ⟨grows, .stays (same (has'.trans has.symm)) binding.endpoints fun channel member => ?_⟩
    rcases binding.channels channel member with old | rfl
    · exact .inl old
    · exact .inr ⟨number, slot.name, slot, found, rfl, has⟩
  | enrolls vacant has grows binding =>
    have lodges {other : Nat} {name : String} {own : EndpointId} :
        Lodges ⟨registry.slots.set number slot'⟩ other name own ↔
          registry.Lodges other name own ∨
            other = number ∧ name = slot.name ∧ own = net.nextId := by
      rw [lodges_set found, has, named]
      by_cases here : other = number
      · subst here
        simp [lodges_iff found, vacant, eq_comm]
      · simp [here]
    have nobody (name : String) (own : EndpointId) : ¬ registry.Lodges number name own := by
      simp [lodges_iff found, vacant]
    exact ⟨(Network.grows_enroll _ _).trans grows,
      .enrolls lodges nobody (grows.knows (Network.knows_enroll_nextId _ _)) binding.endpoints
        binding.channels⟩
  | @leaves own between _ has vacant grows binding directory down =>
    refine ⟨grows, .leaves ⟨slot, found, rfl, has⟩ ?_ binding directory down⟩
    intro other name own
    rw [lodges_set found, vacant]
    simp

/-- Of all workers of a name, just the one at this position was ever prepared. -/
def Alone (registry : Registry ω σ) (number : Nat) (name : String) : Prop :=
  ∀ other slot, registry.slots[other]? = some slot → slot.name = name → other ≠ number →
    slot.state = .registered

/-- Each worker lives on an endpoint of its own. The directory has created endpoints only, each at
most under the name of its worker; and the name of a worker that is alone leads to it. -/
structure Housed (registry : Registry ω σ) (net : Network ω) : Prop where
  slot : ∀ {number : Nat} {slot : Slot ω σ}, registry.slots[number]? = some slot → slot.Housed
  known : ∀ {number : Nat} {name : String} {own : EndpointId},
    registry.Lodges number name own → net.Knows own
  apart : ∀ {number other : Nat} {name name' : String} {own : EndpointId},
    registry.Lodges number name own → registry.Lodges other name' own → other = number
  published : ∀ entry ∈ net.context.directory.endpoints, net.Knows entry.2
  named : ∀ entry ∈ net.context.directory.endpoints, ∀ {number : Nat} {name : String},
    registry.Lodges number name entry.2 → entry.1 = name
  bound : ∀ channel ∈ net.context.directory.channels, net.Knows channel.2
  leads : ∀ {number : Nat} {name : String} {own : EndpointId},
    registry.Lodges number name own → registry.Alone number name →
      net.context.directory.endpoint? name = some own

section Steps

variable (makes : B.Makes BusRequest.Local)

theorem Housed.knows {slot : Slot ω σ} (housed : registry.Housed net)
    (found : registry.slots[number]? = some slot) (own : EndpointId)
    (has : slot.endpoint = some own) : net.Knows own :=
  housed.known ⟨slot, found, rfl, has⟩

include makes in
/-- A slot keeps its name, and goes on as a worker does. -/
theorem Housed.follows (housed : registry.Housed net)
    (step : Step B core .binding registry net registry' net') {slot : Slot ω σ}
    (found : registry.slots[number]? = some slot) :
    ∃ slot', registry'.slots[number]? = some slot' ∧ slot'.name = slot.name ∧
      slot.Advances slot' := by
  have sound := (housed.slot found).sound
  cases step with
  | register => exact ⟨slot, slots_register _ found, rfl, .of_same sound⟩
  | pass => exact ⟨slot, found, rfl, .of_same sound⟩
  | @slot other before after _ found' step =>
    by_cases same : other = number
    · subst same
      obtain rfl := Option.some.inj (found.symm.trans found')
      obtain ⟨_, _, name⟩ := step.affects makes (housed.slot found) (housed.knows found)
      exact ⟨after, slots_set_self found after, name, step.advances sound⟩
    · exact ⟨slot, by simp [same, found], rfl, .of_same sound⟩

include makes in
theorem Housed.slots (housed : registry.Housed net)
    (step : Step B core .binding registry net registry' net') {slot' : Slot ω σ}
    (found' : registry'.slots[number]? = some slot') : slot'.Housed := by
  cases step with
  | @register worker fine =>
    obtain old | ⟨_, rfl⟩ := slots_register_eq_some found'
    · exact housed.slot old
    · exact .registered fine
  | pass => exact housed.slot found'
  | @slot other before after _ found step =>
    obtain ⟨rfl, rfl⟩ | ⟨_, old⟩ := slots_set_eq_some found'
    · exact (step.affects makes (housed.slot found) (housed.knows found)).2.1
    · exact housed.slot old

include makes in
theorem Housed.affects (housed : registry.Housed net)
    (step : Step B core .binding registry net registry' net') :
    net.Grows net' ∧ registry.Affects net registry' net' := by
  cases step with
  | @register worker fine =>
    refine ⟨.refl net, .stays ?_ rfl fun _ => .inl⟩
    intro other name own
    constructor
    · rintro ⟨slot, found, named, lives⟩
      obtain old | ⟨_, rfl⟩ := slots_register_eq_some found
      · exact ⟨slot, old, named, lives⟩
      · contradiction
    · rintro ⟨slot, found, lives⟩
      exact ⟨slot, slots_register worker found, lives⟩
  | pass quiet =>
    obtain ⟨same, grows⟩ := quiet
    refine ⟨grows, .stays Iff.rfl (congrArg Directory.endpoints same) fun channel member => ?_⟩
    rw [same] at member
    exact .inl member
  | @slot other before after _ found step =>
    obtain ⟨affects, _, name⟩ := step.affects makes (housed.slot found) (housed.knows found)
    exact affects_set found name affects

include makes in
/-- Nobody becomes registered again, so who is alone was alone before. -/
theorem Housed.alone (housed : registry.Housed net)
    (step : Step B core .binding registry net registry' net')
    (alone : registry'.Alone number name) : registry.Alone number name := by
  intro other slot found named different
  obtain ⟨slot', found', same, advances⟩ := housed.follows makes step found
  have registered := alone other slot' found' (same.trans named) different
  rcases advances.moves with kept | moved
  · rw [← kept, registered]
  · rw [registered] at moved
    exact absurd moved WorkerState.not_next_registered

/-- Whoever lives on an endpoint was prepared, so who is alone has another name. -/
theorem Alone.ne (alone : registry.Alone number name) (lodges : registry.Lodges other name' own)
    (different : other ≠ number)
    (housed : ∀ {slot : Slot ω σ}, registry.slots[other]? = some slot → slot.Housed) :
    name ≠ name' := by
  obtain ⟨slot, found, rfl, has⟩ := lodges
  rintro rfl
  have registered := alone other slot found rfl different
  have sound := (housed found).sound
  cases sound <;> contradiction

/-- Whoever lives on an endpoint after a step lived there before, or is the only one on the newest
endpoint. -/
theorem Housed.lodges (housed : registry.Housed net) (affects : registry.Affects net registry' net')
    (lives : registry'.Lodges number name own) :
    registry.Lodges number name own ∨
      own = net.nextId ∧ net'.Knows own ∧
        ∀ other name', registry'.Lodges other name' own → other = number := by
  cases affects with
  | stays lodges => exact .inl (lodges.mp lives)
  | leaves _ lodges => exact .inl (lodges.mp lives).2
  | enrolls lodges _ known =>
    rcases lodges.mp lives with old | ⟨rfl, _, rfl⟩
    · exact .inl old
    · refine .inr ⟨rfl, known, fun other name' lives' => ?_⟩
      rcases lodges.mp lives' with old | ⟨same, _⟩
      · exact absurd (housed.known old) Network.not_knows_nextId
      · exact same

/-- What is published after a step was published before, or is the newest endpoint under the name of
the worker on it. -/
theorem Affects.published (affects : registry.Affects net registry' net')
    {entry : String × EndpointId} (member : entry ∈ net'.context.directory.endpoints) :
    entry ∈ net.context.directory.endpoints ∨
      entry.2 = net.nextId ∧ net'.Knows entry.2 ∧
        ∃ number, registry'.Lodges number entry.1 entry.2 := by
  cases affects with
  | stays _ endpoints => exact .inl (endpoints ▸ member)
  | enrolls lodges _ known endpoints =>
    rw [endpoints] at member
    rcases NameTable.mem_insert member with rfl | old
    · exact .inr ⟨rfl, known, _, lodges.mpr (.inr ⟨rfl, rfl, rfl⟩)⟩
    · exact .inl old
  | leaves _ _ binding directory =>
    rw [directory] at member
    exact .inl (binding.endpoints ▸ Directory.mem_endpoints_withdraw member)

/-- A channel that is bound after a step was bound before, or somebody lives on its endpoint. -/
theorem Affects.bound (affects : registry.Affects net registry' net')
    {channel : String × EndpointId} (member : channel ∈ net'.context.directory.channels) :
    channel ∈ net.context.directory.channels ∨
      (∃ number name, registry.Lodges number name channel.2) ∨
        channel.2 = net.nextId ∧ net'.Knows channel.2 := by
  cases affects with
  | stays _ _ channels => exact (channels channel member).imp id .inl
  | enrolls _ _ known _ channels =>
    rcases channels channel member with old | new
    · exact .inl old
    · exact .inr (.inr ⟨new, new ▸ known⟩)
  | leaves lives _ binding directory =>
    rw [directory] at member
    rcases binding.channels channel (Directory.mem_channels_withdraw member) with old | rfl
    · exact .inl old
    · exact .inr (.inl ⟨_, _, lives⟩)

include makes in
/-- The name of a worker that is alone leads to its endpoint. -/
theorem Housed.leads_step (housed : registry.Housed net)
    (step : Step B core .binding registry net registry' net')
    (lives : registry'.Lodges number name own) (alone : registry'.Alone number name) :
    net'.context.directory.endpoint? name = some own := by
  have before := housed.alone makes step alone
  cases (housed.affects makes step).2 with
  | stays lodges endpoints =>
    rw [Directory.endpoint?, endpoints]
    exact housed.leads (lodges.mp lives) before
  | @enrolls other _ lodges nobody _ endpoints =>
    rw [Directory.endpoint?, endpoints]
    rcases lodges.mp lives with old | ⟨_, rfl, rfl⟩
    · -- The one who enrolls is another one, and so has another name
      have different : other ≠ number := by
        rintro rfl
        exact nobody _ _ old
      have enrolled := lodges.mpr (.inr ⟨rfl, rfl, rfl⟩)
      rw [NameTable.find?_insert_of_ne
        (alone.ne enrolled different (housed.slots makes step))]
      exact housed.leads old before
    · exact NameTable.find?_insert_self _ _ _
  | leaves left lodges binding directory =>
    obtain ⟨different, old⟩ := lodges.mp lives
    have others := before.ne left (Ne.symm different) housed.slot
    rw [directory, Directory.endpoint?_withdraw_of_ne others, Directory.endpoint?,
      binding.endpoints]
    exact housed.leads old before

theorem Lodges.name_eq (lives : registry.Lodges number name own)
    (lives' : registry.Lodges number name' own') : name = name' ∧ own = own' := by
  obtain ⟨slot, found, rfl, has⟩ := lives
  obtain ⟨named, has'⟩ := (lodges_iff found).mp lives'
  exact ⟨named, Option.some.inj (has.symm.trans has')⟩

include makes in
theorem Housed.step (housed : registry.Housed net)
    (step : Step B core .binding registry net registry' net') : registry'.Housed net' := by
  obtain ⟨grows, affects⟩ := housed.affects makes step
  -- Two that live on one endpoint did so before, or the endpoint is the newest
  have apart {number other : Nat} {name name' : String} {own : EndpointId}
      (lives : registry'.Lodges number name own) (lives' : registry'.Lodges other name' own) :
      other = number := by
    rcases housed.lodges affects lives with old | ⟨_, _, single⟩
    · rcases housed.lodges affects lives' with old' | ⟨_, _, single⟩
      · exact housed.apart old old'
      · exact (single _ _ lives).symm
    · exact single _ _ lives'
  refine ⟨housed.slots makes step, ?known, apart, ?published, ?named, ?bound,
    housed.leads_step makes step⟩
  case known =>
    intro number name own lives
    rcases housed.lodges affects lives with old | ⟨_, known, _⟩
    · exact grows.knows (housed.known old)
    · exact known
  case published =>
    intro entry member
    rcases affects.published member with old | ⟨_, known, _⟩
    · exact grows.knows (housed.published entry old)
    · exact known
  case named =>
    intro entry member number name lives
    rcases affects.published member with old | ⟨_, _, other, lives'⟩
    · rcases housed.lodges affects lives with old' | ⟨new, _⟩
      · exact housed.named entry old old'
      · -- What was published before is not the newest endpoint
        exact absurd (new ▸ housed.published entry old) Network.not_knows_nextId
    · obtain rfl := apart lives lives'
      exact (lives'.name_eq lives).1
  case bound =>
    intro channel member
    rcases affects.bound member with old | ⟨_, _, lives⟩ | ⟨_, known⟩
    · exact grows.knows (housed.bound channel old)
    · exact grows.knows (housed.known lives)
    · exact known

/-! ### Who is gone -/

/-- Nobody lives on the endpoint any more, which is tearing down and not published. -/
structure Gone (registry : Registry ω σ) (net : Network ω) (own : EndpointId) : Prop where
  known : net.Knows own
  down : net.isTearingDown own = true
  nobody : ∀ {number name}, ¬ registry.Lodges number name own
  unlisted : ∀ entry ∈ net.context.directory.endpoints, entry.2 ≠ own

def Unbound (net : Network ω) (own : EndpointId) : Prop :=
  ∀ channel ∈ net.context.directory.channels, channel.2 ≠ own

theorem Gone.ne_nextId (gone : registry.Gone net own) : own ≠ net.nextId := by
  rintro rfl
  exact Network.not_knows_nextId gone.known

/-- Who is gone does not come back, and no channel is bound to the endpoint again. -/
theorem Gone.step (gone : registry.Gone net own) (housed : registry.Housed net)
    (grows : net.Grows net') (affects : registry.Affects net registry' net') :
    registry'.Gone net' own ∧ (Unbound net own → Unbound net' own) := by
  refine ⟨⟨grows.knows gone.known, grows.down gone.down, ?_, ?_⟩, ?_⟩
  · intro number name lives
    rcases housed.lodges affects lives with old | ⟨new, _⟩
    · exact gone.nobody old
    · exact gone.ne_nextId new
  · rintro entry member rfl
    rcases affects.published member with old | ⟨new, _⟩
    · exact gone.unlisted entry old rfl
    · exact gone.ne_nextId new
  · rintro unbound channel member rfl
    rcases affects.bound member with old | ⟨_, _, lives⟩ | ⟨new, _⟩
    · exact unbound channel old rfl
    · exact gone.nobody lives
    · exact gone.ne_nextId new

/-- Whoever leaves an endpoint is gone; and if the worker was alone, so are its channels. -/
theorem Housed.departs (housed : registry.Housed net) (grows : net.Grows net')
    (affects : registry.Affects net registry' net') (lives : registry.Lodges number name own) :
    registry'.Lodges number name own ∨
      registry'.Gone net' own ∧ (registry.Alone number name → Unbound net' own) := by
  cases affects with
  | stays lodges => exact .inl (lodges.mpr lives)
  | enrolls lodges => exact .inl (lodges.mpr (.inl lives))
  | @leaves other _ _ _ left lodges binding directory down =>
    by_cases here : number = other
    · subst here
      obtain ⟨rfl, rfl⟩ := left.name_eq lives
      refine .inr ⟨⟨grows.knows (housed.known lives), down, ?_, ?_⟩, ?_⟩
      · intro other name' lives'
        obtain ⟨different, old⟩ := lodges.mp lives'
        exact different (housed.apart lives old)
      · -- An entry of the endpoint would have the name that was withdrawn
        rintro entry member rfl
        rw [directory] at member
        have old := binding.endpoints ▸ Directory.mem_endpoints_withdraw member
        exact Directory.fst_ne_of_mem_withdraw member (housed.named entry old lives)
      · -- The name still led to the endpoint, so the channels went along
        intro alone channel member
        have found : Directory.endpoint? _ _ = some _ := housed.leads lives alone
        rw [directory] at member
        rw [Directory.endpoint?, ← binding.endpoints] at found
        exact Directory.snd_ne_of_mem_withdraw found member
    · exact .inl (lodges.mpr ⟨here, lives⟩)

end Steps

/-! ### Runs -/

section Runs

variable {start : Network ω} {slot slot' : Slot ω σ}

theorem Run.housed (makes : B.Makes BusRequest.Local)
    (published : ∀ entry ∈ start.context.directory.endpoints, start.Knows entry.2)
    (bound : ∀ channel ∈ start.context.directory.channels, start.Knows channel.2)
    (run : Run B core .binding {} start registry net) : registry.Housed net := by
  induction run with
  | nil =>
    have nobody {number : Nat} {name : String} {own : EndpointId} :
        ¬ Lodges ({} : Registry ω σ) number name own := by
      rintro ⟨_, ⟨⟩, _⟩
    exact ⟨nofun, fun lives => absurd lives nobody, fun lives => absurd lives nobody, published,
      fun _ _ _ _ lives => absurd lives nobody, bound, fun lives => absurd lives nobody⟩
  | snoc _ step ih => exact ih.step makes step

theorem Run.departs (makes : B.Makes BusRequest.Local) (housed : registry.Housed net)
    (lives : registry.Lodges number name own)
    (run : Run B core .binding registry net registry' net') :
    registry'.Housed net' ∧
      (registry'.Lodges number name own ∨
        registry'.Gone net' own ∧ (registry'.Alone number name → Unbound net' own)) := by
  induction run with
  | nil => exact ⟨housed, .inl lives⟩
  | snoc _ step ih =>
    obtain ⟨housed, here | ⟨gone, unbound⟩⟩ := ih
    · obtain ⟨grows, affects⟩ := housed.affects makes step
      refine ⟨housed.step makes step, (housed.departs grows affects here).imp id ?_⟩
      exact fun ⟨gone, unbound⟩ => ⟨gone, fun alone => unbound (housed.alone makes step alone)⟩
    · obtain ⟨grows, affects⟩ := housed.affects makes step
      obtain ⟨gone', stays⟩ := gone.step housed grows affects
      exact ⟨housed.step makes step, .inr ⟨gone',
        fun alone => stays (unbound (housed.alone makes step alone))⟩⟩

/-- Workers that bind any channels to their own endpoints, whatever else they do: once a worker is
deinitialized, its endpoint is tearing down and not published, whoever else has its name. No channel
is bound to the endpoint, if no other worker of its name was ever prepared. -/
theorem unpublished_of_deinitialized (makes : B.Makes BusRequest.Local)
    (published : ∀ entry ∈ start.context.directory.endpoints, start.Knows entry.2)
    (bound : ∀ channel ∈ start.context.directory.channels, start.Knows channel.2)
    (before : Run B core .binding {} start registry net)
    (found : registry.slots[number]? = some slot) (has : slot.endpoint = some own)
    (after : Run B core .binding registry net registry' net')
    (found' : registry'.slots[number]? = some slot') (gone : slot'.state = .deinitialized) :
    net'.isTearingDown own = true ∧
      (∀ entry ∈ net'.context.directory.endpoints, entry.2 ≠ own) ∧
      ((∀ other slot', registry'.slots[other]? = some slot' → slot'.name = slot.name →
          other ≠ number → slot'.state = .registered) →
        ∀ channel ∈ net'.context.directory.channels, channel.2 ≠ own) := by
  have housed := before.housed makes published bound
  obtain ⟨housed', stays | ⟨departed, unbound⟩⟩ :=
    after.departs makes housed ⟨slot, found, rfl, has⟩
  · -- Who is deinitialized has no endpoint
    have has' := ((lodges_iff found').mp stays).2
    have sound := (housed'.slot found').sound
    cases sound <;> contradiction
  · exact ⟨departed.down, departed.unlisted, unbound⟩

end Runs

/-! ### A worker with a channel -/

/-- A worker that binds a channel in its `init`. -/
def binder : Worker Unit Unit where
  name := "twin"
  init post := (BusProgram.change (.bind "A" post.own)).bind fun _ => .done {}

theorem makes_silent : silent.Makes (BusRequest.Local (ω := Unit)) :=
  Behaviour.makes_handling _ fun _ _ _ => trivial

theorem makes_binder : binder.Makes BusRequest.Local where
  init _ := ⟨List.mem_singleton_self _, fun _ => trivial⟩
  main _ := List.forall_mem_nil _
  deinit _ := ⟨trivial, fun _ => trivial⟩

theorem run_register_binder :
    Run silent ⟨0⟩ .binding {} {} (Registry.register {} binder) {} :=
  Run.nil.snoc (.register makes_binder)

/-- The worker, prepared on an empty network. -/
def single : Registry Unit Unit × Network Unit :=
  ((Registry.register {} binder).prepare silent ⟨0⟩ {}).2

theorem unpublished_of_deinitialized_binder :
    ("A", ⟨0⟩) ∈ single.2.context.directory.channels ∧
      (single.1.deinit silent single.2).2.isTearingDown ⟨0⟩ = true ∧
      ∀ channel ∈ (single.1.deinit silent single.2).2.context.directory.channels,
        channel.2 ≠ ⟨0⟩ := by
  have before : Run silent ⟨0⟩ .binding {} {} single.1 single.2 :=
    run_register_binder.trans (run_call _ _ .prepare nofun)
  have after : Run silent ⟨0⟩ .binding single.1 single.2 (single.1.deinit silent single.2).1
      (single.1.deinit silent single.2).2 := run_call _ _ .deinit nofun
  have found : single.1.slots[0]? = some _ := rfl
  obtain ⟨down, _, unbound⟩ := unpublished_of_deinitialized makes_silent (List.forall_mem_nil _)
    (List.forall_mem_nil _) before found rfl after rfl rfl
  refine ⟨by decide +kernel, down, unbound fun other slot found named different => ?_⟩
  obtain ⟨index, rfl⟩ := Nat.exists_eq_succ_of_ne_zero different
  contradiction

/-! ### Two workers of one name -/

def namesake : Worker Unit Unit where
  name := "twin"

theorem makes_namesake : namesake.Makes BusRequest.Local where
  init _ := trivial
  main _ := List.forall_mem_nil _
  deinit _ := ⟨trivial, fun _ => trivial⟩

/-- Both workers, prepared one after the other. -/
def twins : Registry Unit Unit × Network Unit :=
  (((Registry.register {} binder).register namesake).prepare silent ⟨0⟩ {}).2

/-- The second worker takes the name over, so the first is withdrawn without its channel. -/
theorem bound_after_deinit :
    Run silent ⟨0⟩ .binding {} {} twins.1 twins.2 ∧
      twins.1.slots.map Slot.endpoint = [some ⟨0⟩, some ⟨1⟩] ∧
      Run silent ⟨0⟩ .binding twins.1 twins.2 (twins.1.deinit silent twins.2).1
        (twins.1.deinit silent twins.2).2 ∧
      (twins.1.deinit silent twins.2).1.slots.map Slot.state = [.deinitialized, .deinitialized] ∧
      (twins.1.deinit silent twins.2).2.context.directory.channels = [("A", ⟨0⟩)] := by
  have registered := run_register_binder.snoc (.register makes_namesake)
  have prepared : Run silent ⟨0⟩ .binding {} {} twins.1 twins.2 :=
    registered.trans (run_call _ _ .prepare nofun)
  exact ⟨prepared, by decide, run_call _ _ .deinit nofun, by decide, by decide +kernel⟩

end Registry

end AgentBus
