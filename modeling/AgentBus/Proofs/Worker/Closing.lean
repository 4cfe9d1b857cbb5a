import AgentBus.Proofs.Bus.Roster
import AgentBus.Proofs.Worker.States
import AgentBus.Proofs.Worker.Touch

/-!
# Bringing workers up and taking them down

What `init` and `deinit` do to the network, for workers that bind channels to their own endpoint at
most. A slot that is deinitialized takes its entry off the roster (`Slot.roster_deinit`), and leaves
nothing to be discarded. So when all slots were deinitialized, none of them is listed any more
(`Registry.roster_deinitSlots`).
-/

namespace AgentBus

variable {ω σ : Type} {B : Behaviour ω σ}

/-! ## What lasts -/

namespace Network

/-- No endpoint comes or goes, and none that is tearing down ceases to. -/
structure Lasts (net net' : Network ω) : Prop where
  names : net'.endpoints.map Endpoint.name = net.endpoints.map Endpoint.name
  down : ∀ {e : EndpointId}, net.isTearingDown e = true → net'.isTearingDown e = true

variable {net net' net'' : Network ω}

theorem Lasts.refl (net : Network ω) : Lasts net net :=
  ⟨rfl, id⟩

theorem Lasts.trans (first : Lasts net net') (second : Lasts net' net'') : Lasts net net'' :=
  ⟨second.names.trans first.names, fun down => second.down (first.down down)⟩

theorem Touch.lasts {allowed : BusRequest ω → Prop} {own : EndpointId}
    (touch : Touch allowed own net net') : Lasts net net' :=
  ⟨touch.names, touch.isTearingDown⟩

theorem lasts_perform (request : BusRequest ω) (net : Network ω) :
    Lasts net (perform request net).2 :=
  ⟨names_perform request, fun down => (Spares.perform request).isTearingDown down⟩

end Network

/-! ## Contexts -/

namespace WorkerContext

variable {allowed : EndpointId → BusRequest ω → Prop} {worker : Worker ω σ}

theorem touch_bringUp (makes : B.Makes allowed) (opens : worker.Makes allowed)
    (context : WorkerContext σ) (net : Network ω) :
    Network.Touch (allowed context.own) context.own net (context.bringUp B worker net).2.2 :=
  (Network.Touch.run (opens.init context.post)).trans
    (.run (Chain.every_startAll makes context.own true _))

/-- Whatever a closing program does, the site stays on its endpoint. -/
theorem touch_closing (makes : B.Makes allowed) {α : Type} {fine : α → Prop}
    {program : ClosingProgram ω α} {site : Site ω σ}
    (every : program.Every (ClosingProgram.Allowed (allowed site.own)) fine) :
    (program.run (performClosing B) site).2.own = site.own ∧
      Network.Touch (allowed site.own) site.own site.network
        (program.run (performClosing B) site).2.network := by
  refine every.run (P := fun after : Site ω σ => after.own = site.own ∧
    Network.Touch (allowed site.own) site.own site.network after.network) ?_ ⟨rfl, .nothing⟩
  rintro (request | request) between fine ⟨own, touch⟩
  · exact ⟨own, touch.request fine⟩
  · refine ⟨own, touch.trans ?_⟩
    rw [← own]
    exact .run (Chain.every_finishAll makes between.own _)

theorem touch_takeDown (makes : B.Makes allowed) (closes : worker.Makes allowed)
    (context : WorkerContext σ) (net : Network ω) :
    (context.takeDown B worker net).1.own = context.own ∧
      Network.Touch (allowed context.own) context.own net (context.takeDown B worker net).2 :=
  touch_closing makes (closes.deinit context.post)

theorem lasts_close (context : WorkerContext σ) (net : Network ω) :
    Network.Lasts net (context.close net) := by
  have touch : Network.Touch (fun _ => True) context.own net (context.close net) := .handles .close
  exact touch.lasts

end WorkerContext

/-! ## Slots -/

/-- Channels are bound to the own endpoint at most. -/
def BusRequest.Local (own : EndpointId) : BusRequest ω → Prop :=
  BusRequest.BindsTo [own]

theorem BusRequest.common_local (own : EndpointId) :
    BusRequest.Common (BusRequest.Local own : BusRequest ω → Prop) :=
  ⟨fun _ => trivial, fun _ _ _ => trivial⟩

theorem Listing.without_middle {first : String × EndpointId} {name : String} {own : EndpointId}
    {rest : Listing} (distinct : Listing.names (first :: (name, own) :: rest) |>.Nodup) :
    Listing.without (first :: (name, own) :: rest) name = first :: rest := by
  simp only [Listing.names, List.map_cons, List.nodup_cons, List.mem_cons, not_or] at distinct
  obtain ⟨⟨differs, _⟩, fresh, _⟩ := distinct
  have others : rest.filter (fun entry => entry.1 ≠ name) = rest := by
    rw [List.filter_eq_self]
    intro entry member
    rw [decide_eq_true_eq]
    rintro rfl
    exact fresh (List.mem_map_of_mem member)
  rw [Listing.without, List.filter_cons_of_pos (by simpa using differs),
    List.filter_cons_of_neg (by simp), others]

namespace Slot

/-- The entry of a worker in the directory. -/
def listed? (slot : Slot ω σ) : Option (String × EndpointId) :=
  slot.endpoint.map fun own => (slot.name, own)

/-- What a slot holds binds channels to the endpoint of the slot at most. -/
structure Binds (slot : Slot ω σ) : Prop where
  worker : ∀ worker, slot.worker = some worker → worker.Makes BusRequest.Local
  thread : ∀ thread, slot.thread = some thread →
    thread.worker.Makes BusRequest.Local ∧ thread.phase.Makes (BusRequest.Local thread.own)

/-- A slot without a thread, which can be deinitialized. -/
structure Idle (slot : Slot ω σ) : Prop where
  sound : slot.Sound
  thread : slot.thread = none
  binds : slot.Binds
  context : ∀ context, slot.context = some context → slot.endpoint = some context.own

variable {slot : Slot ω σ} {net : Network ω} {first : String × EndpointId} {rest : Listing}
variable {own : EndpointId}

theorem Binds.join (binds : slot.Binds) : slot.join.Binds := by
  obtain ⟨same, -⟩ | ⟨thread, code, has, -, same⟩ | ⟨thread, -, -, same⟩ := slot.join_cases
  · rw [same]
    exact binds
  · rw [same]
    refine ⟨?_, fun _ has => nomatch has⟩
    rintro _ ⟨⟩
    exact (binds.thread thread has).1
  · rw [same]
    exact ⟨binds.worker, fun _ has => nomatch has⟩

theorem Binds.start (binds : slot.Binds) : slot.start.Binds := by
  obtain same | ⟨worker, context, -, has, -, same⟩ := slot.start_cases
  · rw [same]
    exact binds
  · rw [same]
    refine ⟨fun _ has => (nomatch has), ?_⟩
    rintro _ ⟨⟩
    have makes := binds.worker worker has
    exact ⟨makes, makes.main context.post⟩

/-- A worker that is withdrawn is taken off the roster. -/
theorem roster_withdraw (has : slot.endpoint = some own)
    (roster : net.Roster (first :: (slot.name, own) :: rest)) :
    (slot.withdraw net).2.Roster (first :: rest) := by
  have down := roster.update own (fun endpoint (_ : endpoint.tearingDown = true) =>
    (rfl : ({ endpoint with tearingDown := true } : Endpoint).tearingDown = true))
  have withdrawn :=
    down.withdraw (List.mem_cons_of_mem _ List.mem_cons_self) fun endpoint found => by
    rw [Network.endpoint?_update, if_pos rfl] at found
    obtain ⟨_, _, rfl⟩ := Option.map_eq_some_iff.mp found
    rfl
  rw [Listing.without_middle roster.lists.names] at withdrawn
  rw [Slot.withdraw, has]
  exact withdrawn.of_same rfl rfl

/-- A worker on its own endpoint is taken down there. -/
theorem Binds.touch_takeDownWorker (makes : B.Makes BusRequest.Local) (binds : slot.Binds)
    (placed : ∀ context, slot.context = some context → slot.endpoint = some context.own)
    (has : slot.endpoint = some own) (net : Network ω) :
    Network.Touch (BusRequest.Local own) own net (slot.takeDownWorker B net).2 := by
  unfold takeDownWorker
  split
  · next worker context has' holds =>
    obtain rfl := Option.some.inj (has.symm.trans (placed context holds))
    exact (WorkerContext.touch_takeDown makes (binds.worker worker has') context net).2
  · exact .nothing

theorem endpoint_takeDownWorker (B : Behaviour ω σ) (slot : Slot ω σ) (net : Network ω) :
    (slot.takeDownWorker B net).1.endpoint = slot.endpoint ∧
      (slot.takeDownWorker B net).1.name = slot.name := by
  unfold takeDownWorker
  split
  · exact ⟨rfl, rfl⟩
  · exact ⟨rfl, rfl⟩

theorem roster_dropContext {listing : Listing} (slot : Slot ω σ) (roster : net.Roster listing) :
    (slot.dropContext net).2.Roster listing := by
  unfold dropContext
  split
  · exact roster
  · next context _ =>
    have closed := roster.update context.own
      (f := fun endpoint => { endpoint with served := false, queue := {} }) fun _ => id
    exact closed.of_same rfl rfl

theorem dropContext_fields (slot : Slot ω σ) (net : Network ω) :
    (slot.dropContext net).1.endpoint = slot.endpoint ∧
    (slot.dropContext net).1.context = none := by
  unfold dropContext
  split
  · next none => exact ⟨rfl, none⟩
  · exact ⟨rfl, rfl⟩

theorem withdraw_endpoint (slot : Slot ω σ) (net : Network ω) :
    (slot.withdraw net).1.endpoint = none := by
  unfold withdraw
  split
  · next none => exact none
  · rfl

theorem Idle.lasts_takeDownWorker (makes : B.Makes BusRequest.Local) (idle : slot.Idle) :
    Network.Lasts net (slot.takeDownWorker B net).2 := by
  unfold takeDownWorker
  split
  · next worker context has _ =>
    exact (WorkerContext.touch_takeDown makes (idle.binds.worker worker has) context net).2.lasts
  · exact .refl net

theorem lasts_withdraw (slot : Slot ω σ) (net : Network ω) :
    Network.Lasts net (slot.withdraw net).2 := by
  unfold withdraw
  split
  · exact .refl net
  · next own _ =>
    have touch : Network.Touch (fun _ => True) own net
        (Network.perform (.change (.withdraw slot.name)) (net.tearDown own)).2 :=
      .request .tearDown trivial
    exact touch.handles.lasts

theorem lasts_dropContext (slot : Slot ω σ) (net : Network ω) :
    Network.Lasts net (slot.dropContext net).2 := by
  unfold dropContext
  split
  · exact .refl net
  · next context _ => exact context.lasts_close net

theorem Idle.lasts_deinit (makes : B.Makes BusRequest.Local) (idle : slot.Idle) :
    Network.Lasts net (slot.deinit B net).2 := by
  unfold deinit
  split
  · exact ((idle.lasts_takeDownWorker makes).trans (lasts_withdraw _ _)).trans
      (lasts_dropContext _ _)
  · exact .refl net

theorem Idle.roster_deinit (makes : B.Makes BusRequest.Local) (idle : slot.Idle)
    (roster : net.Roster (first :: (slot.listed?.toList ++ rest))) :
    (slot.deinit B net).2.Roster (first :: rest) ∧ (slot.deinit B net).1.endpoint = none ∧
      (slot.deinit B net).1.context = none := by
  -- A slot with an endpoint is prepared or stopped, since it has no thread
  have released {own : EndpointId} (due : slot.state = .prepared ∨ slot.state = .stopped)
      (has : slot.endpoint = some own) :
      (slot.deinit B net).2.Roster (first :: rest) ∧ (slot.deinit B net).1.endpoint = none ∧
        (slot.deinit B net).1.context = none := by
    have listed : net.Roster (first :: (slot.name, own) :: rest) := by
      rw [listed?, has] at roster
      exact roster
    obtain ⟨same, name⟩ := endpoint_takeDownWorker B slot net
    have among : own ∈ Listing.ids (first :: (slot.name, own) :: rest) :=
      List.mem_map_of_mem (List.mem_cons_of_mem _ List.mem_cons_self)
    have down := listed.touch among (idle.binds.touch_takeDownWorker makes idle.context has net)
    have withdrawn := roster_withdraw (same.trans has) (name ▸ down)
    rw [deinit, if_pos due]
    exact ⟨roster_dropContext _ withdrawn,
      (dropContext_fields _ _).1.trans (withdraw_endpoint _ _), (dropContext_fields _ _).2⟩
  have sound := idle.sound
  have gone := idle.thread
  cases sound with
  | registered => exact ⟨roster, rfl, rfl⟩
  | prepared => exact released (.inl rfl) rfl
  | running => contradiction
  | stopped => exact released (.inr rfl) rfl
  | lost => exact released (.inr rfl) rfl
  | deinitialized => exact ⟨roster, rfl, rfl⟩

end Slot

/-! ## All slots -/

namespace Registry

/-- The entries of the workers in the directory. -/
def listing (slots : List (Slot ω σ)) : Listing :=
  slots.filterMap Slot.listed?

theorem listing_cons (slot : Slot ω σ) (slots : List (Slot ω σ)) :
    listing (slot :: slots) = slot.listed?.toList ++ listing slots := by
  rw [listing, List.filterMap_cons]
  cases slot.listed? <;> rfl

variable {slots : List (Slot ω σ)} {net : Network ω} {first : String × EndpointId}

/-- Slots that were deinitialized are not listed, and leave nothing to be discarded. -/
theorem roster_deinitSlots (makes : B.Makes BusRequest.Local)
    (idle : ∀ slot ∈ slots, slot.Idle) (roster : net.Roster (first :: listing slots)) :
    (deinitSlots B slots net).2.Roster [first] ∧ Network.Lasts net (deinitSlots B slots net).2 ∧
      ∀ slot ∈ (deinitSlots B slots net).1, slot.endpoint = none ∧ slot.context = none := by
  induction slots generalizing net with
  | nil => exact ⟨roster, .refl net, List.forall_mem_nil _⟩
  | cons slot rest ih =>
    rw [List.forall_mem_cons] at idle
    rw [listing_cons] at roster
    obtain ⟨roster', released⟩ := idle.1.roster_deinit makes roster
    obtain ⟨roster'', lasts, others⟩ := ih idle.2 roster'
    exact ⟨roster'', (idle.1.lasts_deinit makes).trans lasts,
      List.forall_mem_cons.mpr ⟨released, others⟩⟩

theorem teardown_of_released
    (released : ∀ slot ∈ slots, slot.endpoint = none ∧ slot.context = none) (net : Network ω) :
    teardown ⟨slots⟩ net = net := by
  unfold teardown
  induction slots with
  | nil => rfl
  | cons slot rest ih =>
    obtain ⟨⟨noEndpoint, noContext⟩, others⟩ := List.forall_mem_cons.mp released
    have nothing : slot.discard net = net := by
      rw [Slot.discard, Slot.dropContext, noContext, noEndpoint]
    rw [List.foldl_cons, nothing]
    exact ih others

end Registry

end AgentBus
