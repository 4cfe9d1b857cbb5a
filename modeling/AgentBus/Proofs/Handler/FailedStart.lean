import AgentBus.Proofs.Handler.FrozenPass
import AgentBus.Proofs.Worker.Notes

/-!
# Handlers whose start failed

A handler that is not ready after its `init` is disabled at once, but the changes that callbacks ask
for are applied when the pass is over. So a failure is not the last word: a handler that anybody
asked to enable during the pass, itself included, is enabled after it
(`enabled_after_failed_start`). All others that failed are disabled (`labels_started`).

`Behaviour.reporting` gives the handlers a notebook in which those that fail are named.
-/

namespace AgentBus

variable {ω σ ν α β : Type}

/-! ## Handlers that report a failure -/

/-- Names a handler that is not ready. -/
def Started.report (id : HandlerId) (started : Started σ) : BusProgram (ω ⊕ HandlerId) Unit :=
  if started.ready then .done () else BusProgram.note id

/-- Handlers that do what others do, and report it if they are not ready. -/
def Behaviour.reporting (B : Behaviour ω σ) : Behaviour (ω ⊕ HandlerId) σ :=
  { B.widen with
    init := fun scope handler =>
      (B.init scope handler).widen.bind fun started =>
        (started.report scope.id).left.bind fun _ => .done started }

theorem collect_bind (program : HandlerProgram ω α) (f : α → HandlerProgram ω β)
    (changes : List ChainChange) :
    collect (program.bind f) changes =
      (collect program changes).bind fun result => collect (f result.1) result.2 := by
  induction program generalizing changes with
  | done result => rfl
  | ask request next ih =>
    cases request with
    | inl request => exact congrArg (Program.ask _) (funext fun response => ih response changes)
    | inr change => exact ih () (changes ++ [change])

theorem annotates_collect_widen (program : HandlerProgram ω α) (changes : List ChainChange) :
    Annotates (collect program changes) (collect program.widen changes)
      fun _ (notes : List ν) => notes = [] := by
  induction program generalizing changes with
  | done result => exact .done rfl
  | ask request next ih =>
    cases request with
    | inl request =>
      have widened : collect (HandlerProgram.widen (.ask (.inl request) next)) changes =
          (request.widened (ν := ν)).bind fun response =>
            collect (HandlerProgram.widen (next response)) changes :=
        collect_left_bind _ _ _
      rw [widened]
      exact .request request fun response => ih response changes
    | inr change => exact ih () (changes ++ [change])

theorem annotates_report (id : HandlerId) (started : Started σ) :
    Annotates (.done () : BusProgram ω Unit) (started.report id)
      fun _ failed => failed = if started.ready then [] else [id] := by
  unfold Started.report
  split
  · exact .done rfl
  · exact .note (.done rfl)

theorem collect_reporting_init (B : Behaviour ω σ) (scope : Scope) (handler : σ)
    (changes : List ChainChange) :
    collect (B.reporting.init scope handler) changes =
      (collect (B.init scope handler).widen changes).bind fun started =>
        (started.1.report scope.id).bind fun _ => .done started := by
  apply (collect_bind _ _ changes).trans
  congr 1
  funext started
  exact collect_left_bind _ _ _

theorem annotates_reporting_init (B : Behaviour ω σ) (scope : Scope) (handler : σ)
    (changes : List ChainChange) :
    Annotates (collect (B.init scope handler) changes)
      (collect (B.reporting.init scope handler) changes)
      fun started failed => failed = if started.1.ready then [] else [scope.id] := by
  rw [collect_reporting_init, ← Program.bind_done (collect (B.init scope handler) changes)]
  apply (annotates_collect_widen (B.init scope handler) changes).bind
  rintro started - rfl
  apply (annotates_report scope.id started.1).bind (f := fun _ => .done started)
  rintro - failed rfl
  exact .done (List.append_nil _)

/-! ## A pass over handlers that start -/

namespace Chain

/-- The label of a handler after its `init`. -/
def startedLabel (failed : List HandlerId) (entry : Entry σ) : HandlerId × Bool :=
  (entry.id, entry.enabled && entry.id ∉ failed)

/-- Who failed elsewhere makes no difference to a handler. -/
theorem startedLabel_append {before failed : List HandlerId} {entry : Entry σ}
    (elsewhere : entry.id ∉ before) :
    startedLabel (before ++ failed) entry = startedLabel failed entry := by
  simp [startedLabel, elsewhere]

theorem annotates_reporting (B : Behaviour ω σ) (own : EndpointId) (bound : Bool)
    (entries : List (Entry σ)) (changes : List ChainChange)
    (distinct : (entries.map Entry.id).Nodup) :
    Annotates (startEntries B own bound entries changes)
      (startEntries B.reporting own bound entries changes)
      fun started failed =>
        started.1.map Entry.label = entries.map (startedLabel failed) ∧
        failed ⊆ entries.map Entry.id := by
  induction entries generalizing changes with
  | nil => exact .done ⟨rfl, List.nil_subset _⟩
  | cons entry rest ih =>
    obtain ⟨alone, distinct⟩ := List.nodup_cons.mp distinct
    unfold startEntries
    cases enabled : entry.enabled with
    | true =>
      apply (annotates_reporting_init B (scope own bound entry) entry.handler changes).bind
      rintro started before reported
      apply (ih started.2 distinct).bind
      rintro others failed ⟨labels, among⟩
      -- The handlers behind this one have other numbers
      have later : rest.map (startedLabel (before ++ failed)) = rest.map (startedLabel failed) := by
        apply List.map_congr_left
        intro other member
        apply startedLabel_append
        rw [reported]
        split
        · simp
        · rw [List.mem_singleton]
          intro same
          apply alone
          rw [← show other.id = entry.id from same]
          exact List.mem_map_of_mem member
      have unnamed : entry.id ∉ failed := fun named => alone (among named)
      refine .done ⟨?_, ?_⟩
      · rw [List.append_nil, List.map_cons, List.map_cons, later, labels]
        cases ready : started.1.ready with
        | true => simp [Entry.label, startedLabel, enabled, reported, ready, unnamed]
        | false => simp [Entry.label, startedLabel, reported, ready, scope]
      · rw [List.append_nil, reported]
        split
        · exact List.Subset.trans among (List.subset_cons_self _ _)
        · exact List.cons_subset_cons _ among
    | false =>
      apply (ih changes distinct).bind
      rintro others failed ⟨labels, among⟩
      refine .done ⟨?_, ?_⟩
      · simp [labels, startedLabel, Entry.label, enabled]
      · rw [List.append_nil]
        exact List.Subset.trans among (List.subset_cons_self _ _)

/-- After the handlers of a chain were started, whatever they did and whatever went on around them,
those are left that nobody asked to remove. Each is as it was switched last during the pass. One
that nobody switched is enabled if it was enabled before, unless its `init` failed. -/
theorem labels_started {state : Type} (B : Behaviour ω σ) (own : EndpointId) (bound : Bool)
    (chain : Chain σ) (distinct : chain.ids.Nodup)
    (perform : Program.Performer (busSignature ω) state) (s : state) :
    ∃ notes failed,
      (chain.startAll B.noting.reporting own bound).run (noteTaker (noteTaker perform))
          ((s, []), []) =
        (((chain.startAll B own bound).run perform s).1,
          (((chain.startAll B own bound).run perform s).2, notes), failed) ∧
      ((chain.startAll B own bound).run perform s).1.entries.map
          (fun entry => (entry.id, entry.enabled)) =
        (chain.entries.filter fun entry => .deregister entry.id ∉ changesIn notes).map
          fun entry => (entry.id,
            (lastFlag? entry.id (changesIn notes)).getD (entry.enabled && entry.id ∉ failed)) := by
  obtain ⟨notes, noted, -, asked, -⟩ :=
    (annotates_startEntries B own bound chain.entries []).run perform s []
  obtain ⟨failed, reported, labels, -⟩ :=
    (annotates_reporting B.noting own bound chain.entries [] distinct).run (noteTaker perform)
      (s, []) []
  simp only [noted, List.nil_append] at reported asked labels
  refine ⟨notes, failed, ?_, ?_⟩
  · simp only [startAll, Program.run_bind, reported, Program.run]
  · have survived := map_label_amend { chain with
      entries := ((startEntries B own bound chain.entries []).run perform s).1.1
      bound := bound } (changesIn notes)
    rw [labels] at survived
    simp only [startAll, Program.run_bind, Program.run, asked]
    refine survived.trans ?_
    rw [survivors, List.filter_map, List.map_map]
    rfl

/-! ### A handler that asks to be enabled and fails -/

def defiant : Behaviour Unit Unit where
  name _ := "defiant"
  init scope handler :=
    (ChainChange.setEnabled scope.id true).ask.bind fun _ => .done ⟨handler, false⟩
  handle _ handler message := .done ⟨handler, message, none⟩
  finalize := Behaviour.leave

/-- The handler fails, it is enabled nevertheless, and the next dispatch calls it. -/
theorem enabled_after_failed_start :
    ∃ after network notes,
      ((({} : Chain Unit).register ()).2.startAll defiant.noting.reporting ⟨0⟩ true).run
          (noteTaker (noteTaker Network.perform)) ((({} : Network Unit), []), []) =
        (after, (network, notes), [⟨1⟩]) ∧
      after.entries.map Entry.label = [(⟨1⟩, true)] ∧
      ((after.offer defiant ⟨0⟩ (.ofPayload .exit)).run Network.perform network).1.1 = 1 :=
  ⟨_, _, _, rfl, rfl, rfl⟩

theorem labels_started_defiant :
    (({} : Chain Unit).register ()).2.ids.Nodup ∧
      (((({} : Chain Unit).register ()).2.startAll defiant ⟨0⟩ true).run Network.perform
        {}).1.entries.map (fun entry => (entry.id, entry.enabled)) = [(⟨1⟩, true)] := by
  have distinct : (({} : Chain Unit).register ()).2.ids.Nodup := by simp [ids, register]
  obtain ⟨notes, failed, ran, labels⟩ :=
    labels_started defiant ⟨0⟩ true _ distinct Network.perform {}
  -- The only change that was asked for enables the handler
  obtain rfl : [.called .init ⟨⟨1⟩, ⟨0⟩, true⟩, .asked (.setEnabled ⟨1⟩ true)] = notes :=
    congrArg (fun ran => ran.2.1.2) ran
  exact ⟨distinct, labels⟩

end Chain

end AgentBus
