import AgentBus.Proofs.Bus.EndpointView

/-!
# The order of dispatches

Whatever the threads do, the messages that an endpoint handles are the first ones that were appended
to its queue, in the same order. The proof follows a message through its stations, each with an
invariant of its own:

* `SenderOrder` — what arrived from a thread is what it sent first.
* `QueueOrder` — what was taken, and then the queue, is what arrived first.
* `StageOrder` — what was handled is what was taken, up to the message at work, and up to those that
  were released because the flag was set.
* `TeardownCut` — no dispatch begins once the flag was set.

`dispatch_order` puts them together.
-/

namespace AgentBus

/-! ## What the occurrences tell -/

namespace Occurrence

@[simp] def sending? : Occurrence → Option (ThreadId × Message)
  | .sent thread _ message => some (thread, message)
  | _ => none

@[simp] def arrival? : Occurrence → Option (ThreadId × Message)
  | .appended thread _ message => some (thread, message)
  | _ => none

@[simp] def taking? : Occurrence → Option Message
  | .took _ message => some message
  | _ => none

@[simp] def beginning? : Occurrence → Option Message
  | .began _ message => some message
  | _ => none

@[simp] def handling? : Occurrence → Option Message
  | .handled _ message => some message
  | _ => none

end Occurrence

/-- The messages that were sent, each with its thread. -/
def sendings (history : List Occurrence) : List (ThreadId × Message) :=
  history.filterMap Occurrence.sending?

/-- The messages that were appended to the queue, each with the thread that sent it. -/
def arrivals (history : List Occurrence) : List (ThreadId × Message) :=
  history.filterMap Occurrence.arrival?

def takings (history : List Occurrence) : List Message :=
  history.filterMap Occurrence.taking?

/-- The messages whose dispatch went on to the handlers. -/
def beginnings (history : List Occurrence) : List Message :=
  history.filterMap Occurrence.beginning?

/-- The messages whose dispatch returned after the handlers. -/
def handlings (history : List Occurrence) : List Message :=
  history.filterMap Occurrence.handling?

def ofThread (thread : ThreadId) (marked : List (ThreadId × Message)) : List Message :=
  (marked.filter fun entry => entry.1 = thread).map Prod.snd

section Snoc

variable (history : List Occurrence) (occurrence : Occurrence)

@[simp] theorem sendings_snoc :
    sendings (history ++ [occurrence]) = sendings history ++ occurrence.sending?.toList := by
  cases occurrence <;> simp [sendings]

@[simp] theorem arrivals_snoc :
    arrivals (history ++ [occurrence]) = arrivals history ++ occurrence.arrival?.toList := by
  cases occurrence <;> simp [arrivals]

@[simp] theorem takings_snoc :
    takings (history ++ [occurrence]) = takings history ++ occurrence.taking?.toList := by
  cases occurrence <;> simp [takings]

@[simp] theorem beginnings_snoc :
    beginnings (history ++ [occurrence]) =
      beginnings history ++ occurrence.beginning?.toList := by
  cases occurrence <;> simp [beginnings]

@[simp] theorem handlings_snoc :
    handlings (history ++ [occurrence]) = handlings history ++ occurrence.handling?.toList := by
  cases occurrence <;> simp [handlings]

end Snoc

theorem ofThread_snoc_self (thread : ThreadId) (marked : List (ThreadId × Message))
    (message : Message) :
    ofThread thread (marked ++ [(thread, message)]) = ofThread thread marked ++ [message] := by
  simp [ofThread]

theorem ofThread_snoc_of_ne {thread other : ThreadId} (differs : other ≠ thread)
    (marked : List (ThreadId × Message)) (message : Message) :
    ofThread thread (marked ++ [(other, message)]) = ofThread thread marked := by
  simp [ofThread, differs]

/-! ## From the sender to the queue -/

/-- What arrived from a thread is what it sent first. Nothing else is on its way, unless the
endpoint refuses messages or has lost its mailbox. -/
structure SenderOrder (served down : Bool) (inflight : Option Message)
    (sent arrived : List Message) : Prop where
  first : arrived <+: sent
  complete : served = true → down = true ∧ inflight = none ∨ arrived ++ inflight.toList = sent

namespace SenderOrder

variable {served down : Bool} {inflight : Option Message} {sent arrived : List Message}

theorem refused (order : SenderOrder served true none sent arrived) (message : Message) :
    SenderOrder served true none (sent ++ [message]) arrived :=
  ⟨order.first.trans (List.prefix_append _ _), fun _ => .inl ⟨rfl, rfl⟩⟩

theorem tested (order : SenderOrder served false none sent arrived) (message : Message) :
    SenderOrder served false (some message) (sent ++ [message]) arrived := by
  refine ⟨order.first.trans (List.prefix_append _ _), fun isServed => .inr ?_⟩
  obtain ⟨down, _⟩ | all := order.complete isServed
  · contradiction
  · rw [← all]
    simp

theorem appended {message : Message}
    (order : SenderOrder true down (some message) sent arrived) :
    SenderOrder true down none sent (arrived ++ [message]) := by
  obtain ⟨_, idle⟩ | all := order.complete rfl
  · contradiction
  · have whole : arrived ++ [message] = sent := all
    rw [whole]
    exact ⟨List.prefix_rfl, fun _ => .inr (List.append_nil _)⟩

theorem unserved (order : SenderOrder served down inflight sent arrived)
    (inflight' : Option Message) : SenderOrder false down inflight' sent arrived :=
  ⟨order.first, nofun⟩

theorem tornDown (order : SenderOrder served down inflight sent arrived) :
    SenderOrder served true inflight sent arrived := by
  refine ⟨order.first, fun isServed => ?_⟩
  obtain ⟨_, idle⟩ | all := order.complete isServed
  · exact .inl ⟨rfl, idle⟩
  · exact .inr all

end SenderOrder

/-- Each thread's sends keep their order on the way to the queue. -/
def Sent (view : View) (history : List Occurrence) : Prop :=
  ∀ thread, SenderOrder view.served view.tearingDown (view.inflight thread)
    (ofThread thread (sendings history)) (ofThread thread (arrivals history))

theorem Sent.step {e : EndpointId} {view next : View} {history occurrences : List Occurrence}
    (sent : Sent view history) (step : ViewStep e view occurrences next) :
    Sent next (history ++ occurrences) := by
  intro thread
  have order := sent thread
  -- Only the steps of its own sends matter to a thread
  cases step with
  | quiet => simpa using order
  | @refused sender message down idle =>
    by_cases same : sender = thread
    · subst same
      rw [down, idle] at *
      simpa [ofThread_snoc_self] using order.refused message
    · simpa [ofThread_snoc_of_ne same] using order
  | @tested sender message up idle =>
    by_cases same : sender = thread
    · subst same
      rw [up, idle] at order
      simpa [ofThread_snoc_self, up] using order.tested message
    · simpa [ofThread_snoc_of_ne same, Ne.symm same] using order
  | @appended sender message served underWay =>
    by_cases same : sender = thread
    · subst same
      rw [served, underWay] at order
      simpa [ofThread_snoc_self, served] using order.appended
    · simpa [ofThread_snoc_of_ne same, Ne.symm same] using order
  | lost unserved => simpa [unserved] using order.unserved _
  | took => simpa using order
  | released => simpa using order
  | began => simpa using order
  | handled => simpa using order
  | tornDown => simpa using order.tornDown
  | closed => simpa using order.unserved _

/-! ## Through the queue -/

/-- What was taken, and then the queue, is what arrived first, and all of it as long as the endpoint
has its mailbox. -/
structure QueueOrder (served : Bool) (queue taken arrived : List Message) : Prop where
  first : taken ++ queue <+: arrived
  complete : served = true → taken ++ queue = arrived

namespace QueueOrder

variable {served : Bool} {queue taken arrived : List Message}

theorem appended (order : QueueOrder true queue taken arrived) (message : Message) :
    QueueOrder true (queue ++ [message]) taken (arrived ++ [message]) := by
  have all : taken ++ (queue ++ [message]) = arrived ++ [message] := by
    rw [← List.append_assoc, order.complete rfl]
  exact ⟨all ▸ List.prefix_rfl, fun _ => all⟩

theorem took {message : Message} {rest : List Message}
    (order : QueueOrder served (message :: rest) taken arrived) :
    QueueOrder served rest (taken ++ [message]) arrived := by
  have same : taken ++ [message] ++ rest = taken ++ message :: rest := List.append_assoc _ _ _
  exact ⟨same ▸ order.first, same ▸ order.complete⟩

theorem closed (order : QueueOrder served queue taken arrived) :
    QueueOrder false [] taken arrived := by
  refine ⟨?_, nofun⟩
  rw [List.append_nil]
  exact (List.prefix_append taken queue).trans order.first

end QueueOrder

/-- The queue hands out what arrived, in order. -/
def Queued (view : View) (history : List Occurrence) : Prop :=
  QueueOrder view.served view.queue (takings history) ((arrivals history).map Prod.snd)

theorem Queued.step {e : EndpointId} {view next : View} {history occurrences : List Occurrence}
    (order : Queued view history) (step : ViewStep e view occurrences next) :
    Queued next (history ++ occurrences) := by
  unfold Queued at *
  cases step with
  | appended served =>
    rw [served] at order
    simpa [served] using order.appended _
  | took _ queue =>
    rw [queue] at order
    simpa using order.took
  | closed => simpa using order.closed
  | quiet => simpa using order
  | refused => simpa using order
  | tested => simpa using order
  | lost => simpa using order
  | released => simpa using order
  | began => simpa using order
  | handled => simpa using order
  | tornDown => simpa using order

/-! ## Through the handlers -/

/-- One list is the other, or the flag is set and it is the first part of the other. -/
def Upto (down : Bool) (handled taken : List Message) : Prop :=
  handled = taken ∨ down = true ∧ handled <+: taken

theorem Upto.isPrefix {down : Bool} {handled taken : List Message}
    (upto : Upto down handled taken) : handled <+: taken := by
  obtain rfl | ⟨_, first⟩ := upto
  · exact List.prefix_rfl
  · exact first

/-- A message that is released unseen is passed over. -/
theorem Upto.released {down : Bool} {handled taken : List Message}
    (upto : Upto down handled taken) (message : Message) : Upto true handled (taken ++ [message]) :=
  .inr ⟨rfl, upto.isPrefix.trans (List.prefix_append _ _)⟩

theorem Upto.tornDown {down : Bool} {handled taken : List Message}
    (upto : Upto down handled taken) : Upto true handled taken :=
  .inr ⟨rfl, upto.isPrefix⟩

/-- How what was handled and what was taken compare at a stage of the work. -/
def StageOrder (down : Bool) (taken begun handled : List Message) : Stage → Prop
  | .idle => Upto down handled taken ∧ begun = handled
  | .taken message => ∃ past, taken = past ++ [message] ∧ Upto down handled past ∧ begun = handled
  | .offering message => taken = handled ++ [message] ∧ begun = handled ++ [message]

theorem StageOrder.isPrefix {down : Bool} {taken begun handled : List Message} {stage : Stage}
    (order : StageOrder down taken begun handled stage) : handled <+: taken := by
  cases stage with
  | idle => exact order.1.isPrefix
  | taken message =>
    obtain ⟨past, rfl, upto, _⟩ := order
    exact upto.isPrefix.trans (List.prefix_append _ _)
  | offering message =>
    rw [order.1]
    exact List.prefix_append _ _

/-- All dispatches that began have returned, except perhaps the last. -/
theorem StageOrder.begun {down : Bool} {taken begun handled : List Message} {stage : Stage}
    (order : StageOrder down taken begun handled stage) :
    begun = handled ∨ ∃ message, begun = handled ++ [message] := by
  cases stage with
  | idle => exact .inl order.2
  | taken message =>
    obtain ⟨_, _, _, same⟩ := order
    exact .inl same
  | offering message => exact .inr ⟨message, order.2⟩

theorem StageOrder.tornDown {down : Bool} {taken begun handled : List Message} {stage : Stage}
    (order : StageOrder down taken begun handled stage) :
    StageOrder true taken begun handled stage := by
  cases stage with
  | idle => exact ⟨order.1.tornDown, order.2⟩
  | taken message =>
    obtain ⟨past, split, upto, same⟩ := order
    exact ⟨past, split, upto.tornDown, same⟩
  | offering message => exact order

/-- The handlers get what was taken, in order. -/
def Staged (view : View) (history : List Occurrence) : Prop :=
  StageOrder view.tearingDown (takings history) (beginnings history) (handlings history) view.stage

theorem Staged.step {e : EndpointId} {view next : View} {history occurrences : List Occurrence}
    (order : Staged view history) (step : ViewStep e view occurrences next) :
    Staged next (history ++ occurrences) := by
  unfold Staged at *
  cases step with
  | took idle queue =>
    rw [idle] at order
    obtain ⟨upto, same⟩ := order
    exact ⟨takings history, by simp, by simpa using upto, by simpa using same⟩
  | released taken down =>
    rw [taken, down] at order
    obtain ⟨past, split, upto, same⟩ := order
    simp only [takings_snoc, beginnings_snoc, handlings_snoc, down]
    simpa [split, StageOrder, same] using upto.released _
  | began taken up =>
    rw [taken, up] at order
    obtain ⟨past, split, upto, same⟩ := order
    -- The flag is not set, so nothing was passed over
    have past_eq : handlings history = past := by
      obtain same | ⟨down, _⟩ := upto
      · exact same
      · contradiction
    simp [StageOrder, split, same, past_eq]
  | handled offering =>
    rw [offering] at order
    obtain ⟨split, begun⟩ := order
    simp [StageOrder, Upto, split, begun]
  | tornDown => simpa using order.tornDown
  | closed idle => simpa using order
  | quiet => simpa using order
  | refused => simpa using order
  | tested => simpa using order
  | appended => simpa using order
  | lost => simpa using order

/-! ## The cut -/

/-- Once the flag was set, it stays set, and no dispatch begins. -/
structure TeardownCut (e : EndpointId) (down : Bool) (history : List Occurrence) : Prop where
  flag : .tornDown e ∈ history → down = true
  later : history.Pairwise fun earlier later =>
    earlier = .tornDown e → later.beginning? = none

theorem TeardownCut.snoc {e : EndpointId} {down down' : Bool} {history : List Occurrence}
    (cut : TeardownCut e down history) {occurrence : Occurrence}
    (flag : down = true ∨ occurrence = .tornDown e → down' = true)
    (silent : down = true → occurrence.beginning? = none) :
    TeardownCut e down' (history ++ [occurrence]) where
  flag member := by
    obtain past | present := List.mem_append.mp member
    · exact flag (.inl (cut.flag past))
    · exact flag (.inr (List.mem_singleton.mp present).symm)
  later := by
    rw [List.pairwise_append]
    refine ⟨cut.later, List.pairwise_singleton _ _, ?_⟩
    -- Only the new occurrence is to be compared with the ones before it
    rintro earlier past later present rfl
    rw [List.mem_singleton.mp present]
    exact silent (cut.flag past)

theorem TeardownCut.step {e : EndpointId} {view next : View}
    {history occurrences : List Occurrence} (cut : TeardownCut e view.tearingDown history)
    (step : ViewStep e view occurrences next) :
    TeardownCut e next.tearingDown (history ++ occurrences) := by
  cases step with
  | tornDown => exact cut.snoc (fun _ => rfl) fun _ => rfl
  | began _ up =>
    apply cut.snoc
    · rintro (down | same)
      · exact down
      · contradiction
    · intro down
      rw [up] at down
      contradiction
  | quiet => simpa using cut
  | lost => simpa using cut
  | closed => simpa using cut
  | refused => exact cut.snoc (by simp) fun _ => rfl
  | tested => exact cut.snoc (by simp) fun _ => rfl
  | appended => exact cut.snoc (by simp) fun _ => rfl
  | took => exact cut.snoc (by simp) fun _ => rfl
  | released => exact cut.snoc (by simp) fun _ => rfl
  | handled => exact cut.snoc (by simp) fun _ => rfl

/-- What comes after the flag was set holds no dispatch that begins. -/
theorem TeardownCut.beginnings_eq_nil {e : EndpointId} {down : Bool}
    {before after : List Occurrence} (cut : TeardownCut e down (before ++ .tornDown e :: after)) :
    beginnings after = [] := by
  have rest := (List.pairwise_append.mp cut.later).2.1
  rw [beginnings, List.filterMap_eq_nil_iff]
  intro occurrence member
  exact (List.pairwise_cons.mp rest).1 occurrence member rfl

/-! ## All runs -/

/-- What holds of an endpoint at every point of a run. -/
structure Ordered (e : EndpointId) (view : View) (history : List Occurrence) : Prop where
  sent : Sent view history
  queued : Queued view history
  staged : Staged view history
  cut : TeardownCut e view.tearingDown history

theorem Ordered.step {e : EndpointId} {view next : View} {history occurrences : List Occurrence}
    (ordered : Ordered e view history) (step : ViewStep e view occurrences next) :
    Ordered e next (history ++ occurrences) :=
  ⟨ordered.sent.step step, ordered.queued.step step, ordered.staged.step step,
    ordered.cut.step step⟩

/-- Before anything occurs, everything is in order. -/
theorem ordered_of_empty {e : EndpointId} {view : View} (queue : view.queue = [])
    (stage : view.stage = .idle) (inflight : ∀ thread, view.inflight thread = none) :
    Ordered e view [] where
  sent thread := by
    rw [inflight]
    exact ⟨List.prefix_rfl, fun _ => .inr rfl⟩
  queued := by
    rw [Queued, queue]
    exact ⟨List.prefix_rfl, fun _ => rfl⟩
  staged := by
    rw [Staged, stage]
    exact ⟨.inl rfl, rfl⟩
  cut := ⟨nofun, .nil⟩

namespace World

variable {ω σ : Type} {B : Behaviour ω σ}

theorem Fresh.inflight {world : World ω σ} {e : EndpointId} (fresh : world.Fresh e)
    (thread : ThreadId) : world.inflight e thread = none := by
  cases underWay : world.transfers thread with
  | none => exact inflight_of_no_transfer underWay e
  | some transfer =>
    rw [World.inflight, underWay, Option.bind_some, Transfer.toward,
      if_neg (fresh.transfers underWay)]

theorem Run.ordered {start world : World ω σ} {trace : List Occurrence} {e : EndpointId}
    (fresh : start.Fresh e) (run : Run B start trace world) :
    ∃ endpoint, world.network.endpoint? e = some endpoint ∧
      Ordered e (world.view e endpoint) (heard e trace) := by
  induction run with
  | nil =>
    obtain ⟨endpoint, found, empty⟩ := fresh.queue
    exact ⟨endpoint, found,
      ordered_of_empty empty (Owner.stage_of_rest fresh.loop) fresh.inflight⟩
  | snoc _ step ih =>
    obtain ⟨endpoint, found, ordered⟩ := ih
    obtain ⟨endpoint', found', viewStep⟩ := viewStep_of_step step found
    refine ⟨endpoint', found', ?_⟩
    rw [heard_append]
    exact ordered.step viewStep

/-- In every run, at every endpoint that is fresh when the run begins: the messages that were
handled are the first ones that were appended to the queue, in this order, and so none is handled
twice; those of one thread are the first that it sent; every dispatch that goes on to the handlers
handles its message, except one that is not done yet; and after the flag was set no dispatch goes on
to the handlers. -/
theorem dispatch_order {start world : World ω σ} {trace : List Occurrence} {e : EndpointId}
    (fresh : start.Fresh e) (run : Run B start trace world) :
    handlings (heard e trace) <+: (arrivals (heard e trace)).map Prod.snd ∧
      (∀ message, (handlings (heard e trace)).count message ≤
        ((arrivals (heard e trace)).map Prod.snd).count message) ∧
      (∀ thread,
        ofThread thread ((arrivals (heard e trace)).take (handlings (heard e trace)).length) <+:
          ofThread thread (sendings (heard e trace))) ∧
      (beginnings (heard e trace) = handlings (heard e trace) ∨
        ∃ message, beginnings (heard e trace) = handlings (heard e trace) ++ [message]) ∧
      ∀ before after, trace = before ++ .tornDown e :: after →
        beginnings (heard e after) = [] := by
  obtain ⟨endpoint, _, ordered⟩ := run.ordered fresh
  -- Handled, taken, taken and queued, arrived: each is a prefix of the next
  have inOrder : handlings (heard e trace) <+: (arrivals (heard e trace)).map Prod.snd :=
    ordered.staged.isPrefix.trans ((List.prefix_append _ _).trans ordered.queued.first)
  refine ⟨inOrder, fun message => inOrder.sublist.count_le message, ?_, ordered.staged.begun, ?_⟩
  · intro thread
    have some := List.take_prefix (handlings (heard e trace)).length (arrivals (heard e trace))
    exact ((some.filter _).map _).trans (ordered.sent thread).first
  · rintro before after rfl
    have cut := ordered.cut
    simp only [heard, List.filter_append, List.filter_cons, Occurrence.endpoint, decide_true,
      if_true] at cut
    exact cut.beginnings_eq_nil

/-! ### A run -/

def idleBehaviour : Behaviour Unit Unit :=
  .handling (fun _ => "idle") fun _ handler message => .done ⟨handler, message, none⟩

/-- One endpoint with one handler, and nobody at work. -/
def single : World Unit Unit where
  network := { endpoints := [{ name := "single" }] }
  owners _ := { chain := (({} : Chain Unit).register ()).2 }
  transfers _ := none

def singleExit : Transfer := ⟨.ofPayload .exit, ⟨1⟩, ⟨0⟩⟩

def lateEvent : Transfer := ⟨.ofPayload (.event "late"), ⟨1⟩, ⟨0⟩⟩

/-- Two threads send, and the message of the first one is handled. Then the endpoint is torn down.
The message of the second one, which was tested before, still gets into the queue and is released,
and one more is refused. -/
def lateTrace : List Occurrence :=
  [.sent (.other 0) ⟨0⟩ singleExit.routed, .appended (.other 0) ⟨0⟩ singleExit.routed,
    .sent (.other 1) ⟨0⟩ lateEvent.routed, .took ⟨0⟩ singleExit.routed,
    .began ⟨0⟩ singleExit.routed, .handled ⟨0⟩ singleExit.routed, .tornDown ⟨0⟩,
    .appended (.other 1) ⟨0⟩ lateEvent.routed, .took ⟨0⟩ lateEvent.routed,
    .released ⟨0⟩ lateEvent.routed, .sent (.other 0) ⟨0⟩ singleExit.routed]

theorem fresh_single : single.Fresh ⟨0⟩ where
  queue := ⟨{ name := "single" }, rfl, rfl⟩
  loop := rfl
  transfers := nofun

theorem run_late :
    ∃ world endpoint, Run idleBehaviour single lateTrace world ∧
      world.network.endpoint? ⟨0⟩ = some endpoint ∧ endpoint.served = true ∧
      endpoint.dispatched = 1 ∧ endpoint.dropped = 2 ∧ endpoint.queue.toList = [] ∧
      (world.owners ⟨0⟩).stage = .idle ∧ ∀ thread, world.transfers thread = none := by
  have rests : single.Rests (.other 0) := ⟨rfl, nofun⟩
  -- The first thread sends, and the second one comes as far as the test of the flag
  have sent := Run.nil.snoc (@Step.test _ _ idleBehaviour _ (.other 0) singleExit (.inl rests) rfl)
  have appended := sent.snoc (@Step.deliver _ _ _ _ (.other 0) _ _ _ rfl rfl)
  have tested := appended.snoc (@Step.test _ _ _ _ (.other 1) lateEvent (.inl ⟨rfl, nofun⟩) rfl)
  -- The owner drains its queue
  have resting : ∀ own, ThreadId.owner ⟨0⟩ = .owner own → (single.owners own).loop = none :=
    fun _ _ => rfl
  have entered := tested.snoc (@Step.enter _ _ _ _ ⟨0⟩ (.draining 1) ⟨rfl, resting⟩ rfl)
  have took := entered.snoc (@Step.work _ _ _ _ ⟨0⟩ _ _ _ ⟨rfl, rfl⟩ rfl rfl)
  have began := took.snoc (@Step.work _ _ _ _ ⟨0⟩ _ _ _ ⟨rfl, rfl⟩ rfl rfl)
  have handled := began.snoc (@Step.work _ _ _ _ ⟨0⟩ _ _ _ ⟨rfl, rfl⟩ rfl rfl)
  -- The flag is set before the second message is delivered
  have down := handled.snoc (@Step.ask _ _ _ _ (.other 0) (.tearDown ⟨0⟩) ⟨rfl, nofun⟩ nofun)
  have slipped := down.snoc (@Step.deliver _ _ _ _ (.other 1) _ _ _ rfl rfl)
  have tookLate := slipped.snoc (@Step.work _ _ _ _ ⟨0⟩ _ _ _ ⟨rfl, rfl⟩ rfl rfl)
  have released := tookLate.snoc (@Step.work _ _ _ _ ⟨0⟩ _ _ _ ⟨rfl, rfl⟩ rfl rfl)
  have refused := released.snoc (@Step.refuse _ _ _ _ (.other 0) singleExit (.inl ⟨rfl, nofun⟩) rfl)
  refine ⟨_, _, refused, rfl, rfl, rfl, rfl, rfl, rfl, fun thread => ?_⟩
  match thread with
  | .owner _ | .other 0 | .other 1 | .other (_ + 2) => rfl

/-- The late message has arrived, and no dispatch began for it. -/
theorem dispatch_order_late :
    (arrivals (heard ⟨0⟩ lateTrace)).map Prod.snd = [singleExit.routed, lateEvent.routed] ∧
      handlings (heard ⟨0⟩ lateTrace) = [singleExit.routed] ∧
      handlings (heard ⟨0⟩ lateTrace) <+: (arrivals (heard ⟨0⟩ lateTrace)).map Prod.snd ∧
      beginnings (heard ⟨0⟩ (lateTrace.drop 7)) = [] := by
  obtain ⟨world, _, run, _⟩ := run_late
  have order := dispatch_order fresh_single run
  exact ⟨by decide, by decide, order.1, order.2.2.2.2 (lateTrace.take 6) (lateTrace.drop 7) rfl⟩

end World

end AgentBus
