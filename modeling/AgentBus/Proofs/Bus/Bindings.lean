import AgentBus.Proofs.Bus.NameOrder
import AgentBus.Proofs.Bus.Roster

/-!
# Who is bound to a channel

The directory has come about by a history of changes. What it holds is said here in terms of that
history: an endpoint is `Published` under a name if nothing else happened to the name since it was
published there, and it is `Bound` to a channel if the latest binding of the channel names it and it
was not withdrawn since. Channels go by their names in upper case.

Main statement: `Directory.follows_history`, by which a directory that was empty leads to those
endpoints after any history.
-/

namespace AgentBus

/-! ## Ordered tables -/

namespace NameTable

variable {α : Type} {table : NameTable α} {name : String} {value : α}

/-- Each name has one entry, which is found under it. -/
theorem Ordered.find?_eq_some_iff (ordered : table.Ordered) :
    table.find? name = some value ↔ (name, value) ∈ table := by
  refine ⟨mem_of_find?, fun member => find?_of_unique member fun other member' => ?_⟩
  have nodup : (table.map Prod.fst).Nodup := ordered.imp String.ne_of_lt
  exact congrArg Prod.snd (List.inj_on_of_nodup_map nodup member' member rfl)

theorem Ordered.find?_filter_iff (ordered : table.Ordered) (p : String × α → Bool) :
    NameTable.find? (List.filter p table) name = some value ↔
      table.find? name = some value ∧ p (name, value) = true := by
  rw [(ordered.filter p).find?_eq_some_iff, ordered.find?_eq_some_iff, List.mem_filter]

end NameTable

/-! ## Histories -/

/-- Changes of the shared context, the earliest first. -/
abbrev History : Type := List ContextChange

namespace ContextChange

/-- The change is about the endpoint that stands under a published name. -/
def Names (name : String) (change : ContextChange) : Prop :=
  (∃ endpoint, change = .publish name endpoint) ∨ change = .withdraw name

/-- The change binds a channel. -/
def Binds (name : String) (change : ContextChange) : Prop :=
  ∃ channel endpoint, change = .bind channel endpoint ∧ channel.toUpper = name

end ContextChange

namespace History

variable {history : History} {change start : ContextChange} {name : String}
variable {endpoint : EndpointId} {keeps : History → ContextChange → Prop}

/-- A change was made, and every later one keeps what it brought about. Whether it does may depend
on the history up to it. -/
def Since (keeps : History → ContextChange → Prop) (start : ContextChange) (history : History) :
    Prop :=
  ∃ earlier later, history = earlier ++ start :: later ∧
    ∀ before change after, later = before ++ change :: after →
      keeps (earlier ++ start :: before) change

theorem not_since_nil : ¬ Since keeps start [] := by
  rintro ⟨earlier, later, split, -⟩
  simp at split

theorem since_snoc :
    Since keeps start (history ++ [change]) ↔
      change = start ∨ keeps history change ∧ Since keeps start history := by
  constructor
  · rintro ⟨earlier, later, split, kept⟩
    rcases List.eq_nil_or_concat' later with rfl | ⟨others, last, rfl⟩
    -- The last change of the history is the one that was made, or the last of those after it
    · obtain ⟨-, same⟩ := List.append_inj' split rfl
      exact .inl (List.head_eq_of_cons_eq same)
    · have split' : history ++ [change] = (earlier ++ start :: others) ++ [last] := by
        rw [split, List.append_assoc, List.cons_append]
      obtain ⟨rfl, same⟩ := List.append_inj' split' rfl
      obtain rfl := List.head_eq_of_cons_eq same
      refine .inr
        ⟨kept others change [] rfl, earlier, others, rfl, fun before next after among => ?_⟩
      exact kept before next (after ++ [change]) (by rw [among, List.append_assoc]; rfl)
  · rintro (rfl | ⟨keepsLast, earlier, later, rfl, kept⟩)
    · exact ⟨history, [], rfl, fun before _ _ none => absurd none.symm (by simp)⟩
    · refine ⟨earlier, later ++ [change], by simp, fun before next after among => ?_⟩
      rcases List.eq_nil_or_concat' after with rfl | ⟨others, last, rfl⟩
      · obtain ⟨rfl, same⟩ := List.append_inj' among rfl
        obtain rfl := List.head_eq_of_cons_eq same
        exact keepsLast
      · have among' : later ++ [change] = (before ++ next :: others) ++ [last] := by
          rw [among, List.append_assoc, List.cons_append]
        exact kept before next others (List.append_inj' among' rfl).1

/-- The endpoint stands under a name: it was published there, and nothing happened to the name
since. -/
def Published (history : History) (name : String) (endpoint : EndpointId) : Prop :=
  history.Since (fun _ change => ¬ change.Names name) (.publish name endpoint)

/-- The change, if it comes next, withdraws the endpoint under a name that it stands under. -/
def Withdraws (history : History) (change : ContextChange) (endpoint : EndpointId) : Prop :=
  ∃ name, change = .withdraw name ∧ history.Published name endpoint

/-- The latest binding of a channel is to this endpoint, which was not withdrawn since. The channel
goes by its name in upper case. -/
def Bound (history : History) (name : String) (endpoint : EndpointId) : Prop :=
  ∃ channel, channel.toUpper = name ∧
    history.Since (fun earlier change => ¬ change.Binds name ∧ ¬ earlier.Withdraws change endpoint)
      (.bind channel endpoint)

/-- The endpoint was withdrawn, and no channel was bound to it since. -/
def Left (history : History) (endpoint : EndpointId) : Prop :=
  ∃ earlier name later, history = earlier ++ .withdraw name :: later ∧
    Published earlier name endpoint ∧ ∀ channel, .bind channel endpoint ∉ later

/-! ### One change more -/

theorem published_snoc :
    (history ++ [change]).Published name endpoint ↔
      change = .publish name endpoint ∨
        ¬ change.Names name ∧ history.Published name endpoint :=
  since_snoc

theorem bound_snoc :
    (history ++ [change]).Bound name endpoint ↔
      (∃ channel, channel.toUpper = name ∧ change = .bind channel endpoint) ∨
        (¬ change.Binds name ∧ ¬ history.Withdraws change endpoint) ∧
          history.Bound name endpoint := by
  constructor
  · rintro ⟨channel, upper, since⟩
    rcases since_snoc.mp since with now | ⟨keeps, since⟩
    · exact .inl ⟨channel, upper, now⟩
    · exact .inr ⟨keeps, channel, upper, since⟩
  · rintro (⟨channel, upper, now⟩ | ⟨keeps, channel, upper, since⟩)
    · exact ⟨channel, upper, since_snoc.mpr (.inl now)⟩
    · exact ⟨channel, upper, since_snoc.mpr (.inr ⟨keeps, since⟩)⟩

/-- Who was withdrawn after all its bindings is bound to nothing. -/
theorem Left.not_bound (left : history.Left endpoint) : ¬ history.Bound name endpoint := by
  obtain ⟨earlier', withdrawn, later', split', published, unbound⟩ := left
  rintro ⟨channel, _, earlier, later, split, kept⟩
  rw [split, List.append_eq_append_iff] at split'
  obtain ⟨between, rfl, bound⟩ | ⟨between, rfl, bound⟩ := split'
  · -- The withdrawal comes after the binding
    rcases List.cons_eq_append_iff.mp bound with ⟨rfl, same⟩ | ⟨before, rfl, rfl⟩
    · exact nomatch List.head_eq_of_cons_eq same
    · exact (kept before _ later' rfl).2 ⟨withdrawn, rfl, published⟩
  · -- The binding comes after the withdrawal
    rcases List.cons_eq_append_iff.mp bound with ⟨rfl, same⟩ | ⟨before, rfl, rfl⟩
    · exact nomatch List.head_eq_of_cons_eq same
    · exact unbound channel (List.mem_append_right _ List.mem_cons_self)

end History

/-! ## Directories -/

namespace Directory

/-- The directory holds what a history leads to. -/
structure Follows (directory : Directory) (history : History) : Prop where
  ordered : directory.Ordered
  endpoints : ∀ {name : String} {endpoint : EndpointId},
    directory.endpoint? name = some endpoint ↔ history.Published name endpoint
  channels : ∀ {name : String} {endpoint : EndpointId},
    directory.channels.find? name = some endpoint ↔ history.Bound name endpoint

namespace Follows

variable {directory directory' : Directory} {history : History} {change : ContextChange}

theorem empty : ({} : Directory).Follows [] where
  ordered := ⟨.nil, .nil⟩
  endpoints := ⟨nofun, fun since => absurd since History.not_since_nil⟩
  channels := ⟨nofun, fun ⟨_, _, since⟩ => absurd since History.not_since_nil⟩

/-- A change that leaves the published names as they are. -/
theorem endpoints_of_same (follows : directory.Follows history)
    (same : directory'.endpoints = directory.endpoints) (unnamed : ∀ name, ¬ change.Names name)
    {name : String} {endpoint : EndpointId} :
    directory'.endpoint? name = some endpoint ↔ (history ++ [change]).Published name endpoint := by
  have stays : directory'.endpoint? name = directory.endpoint? name := by
    rw [endpoint?, same, ← endpoint?]
  have unpublished : change ≠ .publish name endpoint :=
    fun published => unnamed name (.inl ⟨endpoint, published⟩)
  rw [History.published_snoc, stays, follows.endpoints]
  exact ⟨fun published => .inr ⟨unnamed name, published⟩, fun either =>
    (either.resolve_left unpublished).2⟩

/-- A change that leaves the channels as they are. -/
theorem channels_of_same (follows : directory.Follows history)
    (same : directory'.channels = directory.channels) (unbound : ∀ name, ¬ change.Binds name)
    (stays : ∀ endpoint, ¬ history.Withdraws change endpoint)
    {name : String} {endpoint : EndpointId} :
    directory'.channels.find? name = some endpoint ↔
      (history ++ [change]).Bound name endpoint := by
  have noBinding : ¬ ∃ channel, channel.toUpper = name ∧ change = .bind channel endpoint :=
    fun ⟨channel, upper, bound⟩ => unbound name ⟨channel, endpoint, bound, upper⟩
  rw [History.bound_snoc, same, follows.channels]
  exact ⟨fun bound => .inr ⟨⟨unbound name, stays endpoint⟩, bound⟩, fun either =>
    (either.resolve_left noBinding).2⟩

theorem publish (follows : directory.Follows history) (name : String) (endpoint : EndpointId) :
    (directory.publish name endpoint).Follows (history ++ [.publish name endpoint]) where
  ordered := ⟨follows.ordered.endpoints.insert name endpoint, follows.ordered.channels⟩
  endpoints := by
    intro other found
    rw [History.published_snoc, ← follows.endpoints]
    by_cases here : other = name
    · subst here
      have named : ContextChange.Names other (.publish other endpoint) := .inl ⟨endpoint, rfl⟩
      have stands : (directory.publish other endpoint).endpoint? other = some endpoint :=
        NameTable.find?_insert_self _ _ _
      simp [stands, named]
    · have unnamed : ¬ ContextChange.Names other (.publish name endpoint) := by
        simp [ContextChange.Names, Ne.symm here]
      have stays : (directory.publish name endpoint).endpoint? other = directory.endpoint? other :=
        NameTable.find?_insert_of_ne here _
      simp [stays, unnamed, Ne.symm here]
  channels := follows.channels_of_same rfl (by simp [ContextChange.Binds])
    (by simp [History.Withdraws])

theorem bind (follows : directory.Follows history) (channel : String) (endpoint : EndpointId) :
    (directory.bind channel endpoint).Follows (history ++ [.bind channel endpoint]) where
  ordered := ⟨follows.ordered.endpoints, follows.ordered.channels.insert _ endpoint⟩
  endpoints := follows.endpoints_of_same rfl (by simp [ContextChange.Names])
  channels := by
    intro other found
    have remains : ¬ history.Withdraws (.bind channel endpoint) found := by
      simp [History.Withdraws]
    rw [History.bound_snoc, ← follows.channels]
    -- Only the channel itself gets another endpoint
    by_cases here : other = channel.toUpper
    · subst here
      have binds : ContextChange.Binds channel.toUpper (.bind channel endpoint) :=
        ⟨channel, endpoint, rfl, rfl⟩
      have bound :
          (directory.bind channel endpoint).channels.find? channel.toUpper = some endpoint :=
        NameTable.find?_insert_self _ _ _
      rw [bound]
      constructor
      · rintro ⟨⟩
        exact .inl ⟨channel, rfl, rfl⟩
      · rintro (⟨_, _, same⟩ | ⟨⟨unbound, _⟩, _⟩)
        · rw [(ContextChange.bind.inj same).2]
        · exact absurd binds unbound
    · have unbound : ¬ ContextChange.Binds other (.bind channel endpoint) := by
        rintro ⟨_, _, same, upper⟩
        exact here (upper.symm.trans (congrArg String.toUpper (ContextChange.bind.inj same).1.symm))
      have noBinding : ¬ ∃ channel', channel'.toUpper = other ∧
          ContextChange.bind channel endpoint = .bind channel' found :=
        fun ⟨channel', upper, same⟩ => unbound ⟨channel', found, same, upper⟩
      have stays : (directory.bind channel endpoint).channels.find? other =
          directory.channels.find? other := NameTable.find?_insert_of_ne here _
      rw [stays]
      exact ⟨fun bound => .inr ⟨⟨unbound, remains⟩, bound⟩, fun either =>
        (either.resolve_left noBinding).2⟩

/-- A name that nobody stands under is withdrawn without any effect, and otherwise the endpoint
takes its channels along. -/
theorem withdraw (follows : directory.Follows history) (name : String) :
    (directory.withdraw name).Follows (history ++ [.withdraw name]) := by
  have named {other : String} : ContextChange.Names other (.withdraw name) ↔ name = other := by
    simp [ContextChange.Names]
  have published {other : String} {endpoint : EndpointId} :
      (history ++ [ContextChange.withdraw name]).Published other endpoint ↔
        directory.endpoint? other = some endpoint ∧ other ≠ name := by
    rw [History.published_snoc, named, follows.endpoints, and_comm]
    simp [eq_comm]
  have withdraws {endpoint : EndpointId} :
      history.Withdraws (.withdraw name) endpoint ↔ directory.endpoint? name = some endpoint := by
    simp [History.Withdraws, follows.endpoints]
  have bound {other : String} {endpoint : EndpointId} :
      (history ++ [ContextChange.withdraw name]).Bound other endpoint ↔
        directory.channels.find? other = some endpoint ∧
          directory.endpoint? name ≠ some endpoint := by
    rw [History.bound_snoc, withdraws, ← follows.channels, and_comm]
    simp [ContextChange.Binds]
  unfold Directory.withdraw
  cases found : directory.endpoint? name with
  | none =>
    refine ⟨follows.ordered, ?_, ?_⟩
    · intro other endpoint
      rw [published]
      refine ⟨fun stands => ⟨stands, ?_⟩, And.left⟩
      rintro rfl
      exact nomatch found.symm.trans stands
    · intro other endpoint
      rw [bound, found]
      exact ⟨fun stands => ⟨stands, nofun⟩, And.left⟩
  | some withdrawn =>
    refine ⟨⟨follows.ordered.endpoints.filter _, follows.ordered.channels.filter _⟩, ?_, ?_⟩
    · intro other endpoint
      rw [published]
      refine (follows.ordered.endpoints.find?_filter_iff _).trans (and_congr_right fun _ => ?_)
      simp
    · intro other endpoint
      rw [bound, found]
      refine (follows.ordered.channels.find?_filter_iff _).trans (and_congr_right fun _ => ?_)
      simp only [decide_eq_true_eq, ne_eq, Option.some.injEq, @eq_comm _ withdrawn]

theorem apply {context : Context} (follows : context.directory.Follows history)
    (change : ContextChange) : (context.apply change).directory.Follows (history ++ [change]) := by
  have still (unnamed : ∀ name, ¬ change.Names name) (unbound : ∀ name, ¬ change.Binds name) :
      context.directory.Follows (history ++ [change]) :=
    ⟨follows.ordered, follows.endpoints_of_same rfl unnamed,
      follows.channels_of_same rfl unbound fun endpoint ⟨name, same, _⟩ => unnamed name (.inr same)⟩
  cases change with
  | takeEventId => exact still (by simp [ContextChange.Names]) (by simp [ContextChange.Binds])
  | requestShutdown => exact still (by simp [ContextChange.Names]) (by simp [ContextChange.Binds])
  | publish name endpoint => exact follows.publish name endpoint
  | withdraw name => exact follows.withdraw name
  | bind channel endpoint => exact follows.bind channel endpoint

theorem foldl {context : Context} (follows : context.directory.Follows history)
    (later : History) :
    (later.foldl Context.apply context).directory.Follows (history ++ later) := by
  induction later generalizing context history with
  | nil => simpa using follows
  | cons change later ih =>
    rw [List.append_cons]
    exact ih (follows.apply change)

end Follows

/-- A directory that was empty holds what its history leads to. -/
theorem follows_history {fresh : Context} (empty : fresh.directory = {}) (history : History) :
    (history.foldl Context.apply fresh).directory.Follows history := by
  have start : fresh.directory.Follows [] := by
    rw [empty]
    exact .empty
  exact start.foldl history

end Directory

end AgentBus
