import AgentBus.Proofs.Bus.NameTable
import AgentBus.Proofs.Bus.Touch
import Mathlib.Data.List.Nodup

/-!
# Who is listed in the directory

`Directory.Lists` says that a directory publishes just some entries and that its channels are bound
to their endpoints; `Network.Roster` that moreover every other endpoint is tearing down. Threads
that bind channels to listed endpoints only keep the roster as it is (`Roster.touch`), an endpoint
that is enrolled is added to it, and one that is withdrawn is taken off (`Roster.enroll`,
`Roster.withdraw`). So when everybody was withdrawn, the directory is empty and all endpoints are
tearing down.
-/

namespace AgentBus

/-! ## Name tables -/

namespace NameTable

variable {α : Type} {table : NameTable α} {name : String} {value : α} {entry : String × α}

theorem mem_insert_self : (name, value) ∈ table.insert name value :=
  mem_of_find? (find?_insert_self table name value)

theorem mem_insert_of_ne (member : entry ∈ table) (other : entry.1 ≠ name) :
    entry ∈ table.insert name value := by
  fun_induction insert name value table with
  | case1 => contradiction
  | case2 => exact List.mem_cons_of_mem _ member
  | case3 old rest =>
    rcases List.mem_cons.mp member with rfl | later
    · exact absurd rfl other
    · exact List.mem_cons_of_mem _ later
  | case4 first old rest _ _ ih =>
    rcases List.mem_cons.mp member with rfl | later
    · exact List.mem_cons_self
    · exact List.mem_cons_of_mem _ (ih later)

/-- The only entry of a name is found under it. -/
theorem find?_of_unique (member : (name, value) ∈ table)
    (unique : ∀ other, (name, other) ∈ table → other = value) : table.find? name = some value := by
  cases found : table.find? name with
  | some other => rw [unique other (mem_of_find? found)]
  | none =>
    rw [find?, Option.map_eq_none_iff, List.find?_eq_none] at found
    exact absurd (by simp) (found _ member)

end NameTable

/-! ## Directories -/

/-- The endpoints that are listed. -/
abbrev Listing : Type := List (String × EndpointId)

def Listing.names (listing : Listing) : List String :=
  listing.map Prod.fst

def Listing.ids (listing : Listing) : List EndpointId :=
  listing.map Prod.snd

/-- The listing without a name. -/
def Listing.without (listing : Listing) (name : String) : Listing :=
  listing.filter fun entry => entry.1 ≠ name

namespace Directory

/-- The directory publishes the endpoints of a listing, and binds channels to no others. -/
structure Lists (directory : Directory) (listing : Listing) : Prop where
  names : listing.names.Nodup
  endpoints : ∀ entry, entry ∈ directory.endpoints ↔ entry ∈ listing
  channels : ∀ channel ∈ directory.channels, channel.2 ∈ listing.ids

variable {directory : Directory} {listing : Listing} {name : String} {endpoint : EndpointId}

theorem Lists.eq_empty (lists : directory.Lists []) : directory = {} := by
  obtain ⟨endpoints, channels⟩ := directory
  have noEndpoint : endpoints = [] :=
    List.eq_nil_iff_forall_not_mem.mpr fun entry member =>
      List.not_mem_nil ((lists.endpoints entry).mp member)
  have noChannel : channels = [] :=
    List.eq_nil_iff_forall_not_mem.mpr fun channel member =>
      List.not_mem_nil (lists.channels channel member)
  rw [noEndpoint, noChannel]

theorem Lists.publish (lists : directory.Lists listing) (fresh : name ∉ listing.names) :
    (directory.publish name endpoint).Lists (listing ++ [(name, endpoint)]) where
  names := by
    rw [Listing.names, List.map_append]
    exact List.nodup_append.mpr ⟨lists.names, List.nodup_singleton _, by
      rintro other member _ (_ | ⟨_, ⟨⟩⟩) rfl
      exact fresh member⟩
  endpoints entry := by
    rw [List.mem_append, List.mem_singleton, ← lists.endpoints]
    constructor
    · exact fun member => (NameTable.mem_insert member).symm
    · rintro (old | rfl)
      · refine NameTable.mem_insert_of_ne old ?_
        rintro rfl
        exact fresh (List.mem_map_of_mem ((lists.endpoints entry).mp old))
      · exact NameTable.mem_insert_self
  channels channel member := by
    rw [Listing.ids, List.map_append]
    exact List.mem_append_left _ (lists.channels channel member)

theorem Lists.bind (lists : directory.Lists listing) (known : endpoint ∈ listing.ids)
    (channel : String) : (directory.bind channel endpoint).Lists listing where
  names := lists.names
  endpoints := lists.endpoints
  channels bound member := by
    rcases NameTable.mem_insert member with rfl | old
    · exact known
    · exact lists.channels bound old

/-- Who is withdrawn takes the channels along. -/
theorem Lists.withdraw (lists : directory.Lists listing) (listed : (name, endpoint) ∈ listing) :
    (directory.withdraw name).Lists (listing.without name) := by
  have unique {other : EndpointId} (member : (name, other) ∈ listing) : other = endpoint :=
    congrArg Prod.snd (List.inj_on_of_nodup_map lists.names member listed rfl)
  have found : directory.endpoint? name = some endpoint :=
    NameTable.find?_of_unique ((lists.endpoints _).mpr listed) fun other member =>
      unique ((lists.endpoints _).mp member)
  rw [Directory.withdraw, found]
  constructor
  · exact lists.names.sublist (List.filter_sublist.map _)
  · intro entry
    simp only [NameTable.erase, Listing.without, List.mem_filter, lists.endpoints]
  · intro channel member
    obtain ⟨bound, other⟩ := List.mem_filter.mp member
    obtain ⟨⟨owner, id⟩, member', same⟩ := List.mem_map.mp (lists.channels channel bound)
    refine List.mem_map.mpr ⟨(owner, id), List.mem_filter.mpr ⟨member', ?_⟩, same⟩
    -- The endpoint of a channel that stays is another one, and so its owner has another name
    have differs : channel.2 ≠ endpoint := of_decide_eq_true other
    rw [decide_eq_true_eq]
    rintro rfl
    exact differs (same.symm.trans (unique member'))

end Directory

/-! ## Networks -/

/-- A request that changes the directory at most by binding channels to these endpoints. -/
def BusRequest.BindsTo {ω : Type} (owners : List EndpointId) : BusRequest ω → Prop
  | .change (.publish _ _) => False
  | .change (.withdraw _) => False
  | .change (.bind _ endpoint) => endpoint ∈ owners
  | _ => True

namespace Network

variable {ω : Type} {net net' : Network ω} {listing : Listing} {own : EndpointId}

/-- The directory is that of the listing, and all other endpoints are tearing down. -/
structure Roster (net : Network ω) (listing : Listing) : Prop where
  lists : net.context.directory.Lists listing
  down : ∀ e endpoint, net.endpoint? e = some endpoint →
    endpoint.tearingDown = true ∨ e ∈ listing.ids

theorem Roster.of_same (roster : net.Roster listing)
    (directory : net'.context.directory = net.context.directory)
    (endpoints : net'.endpoints = net.endpoints) : net'.Roster listing where
  lists := directory ▸ roster.lists
  down e endpoint found := by
    rw [endpoint?, endpoints] at found
    exact roster.down e endpoint found

theorem Roster.update (roster : net.Roster listing) (changed : EndpointId)
    {f : Endpoint → Endpoint}
    (flag : ∀ endpoint, endpoint.tearingDown = true → (f endpoint).tearingDown = true) :
    (net.update changed f).Roster listing where
  lists := roster.lists
  down e endpoint found := by
    rw [endpoint?_update] at found
    split at found
    · obtain ⟨old, found', rfl⟩ := Option.map_eq_some_iff.mp found
      exact (roster.down e old found').imp (flag old) id
    · exact roster.down e endpoint found

theorem Roster.perform (roster : net.Roster listing) {owners : List EndpointId}
    (known : ∀ e ∈ owners, e ∈ listing.ids) {request : BusRequest ω}
    (binds : request.BindsTo owners) : (Network.perform request net).2.Roster listing := by
  cases request with
  | send message source destination =>
    simp only [Network.perform, Network.send, deliver]
    split
    · exact roster.update destination fun _ => id
    · split
      · exact roster.update destination fun _ => id
      · exact roster.update destination fun _ => id
  | tearDown id => exact roster.update id fun _ _ => rfl
  | look id => exact roster
  | context => exact roster
  | emit output => exact roster.of_same rfl rfl
  | change made =>
    cases made with
    | takeEventId => exact roster.of_same rfl rfl
    | requestShutdown => exact roster.of_same rfl rfl
    | publish name endpoint => exact binds.elim
    | withdraw name => exact binds.elim
    | bind channel endpoint => exact ⟨roster.lists.bind (known _ binds) channel, roster.down⟩

/-- A thread that binds channels only to its own endpoint, which is listed. -/
theorem Roster.touch (roster : net.Roster listing) (known : own ∈ listing.ids)
    (touch : Touch (BusRequest.BindsTo [own]) own net net') : net'.Roster listing := by
  have knowns : ∀ e ∈ [own], e ∈ listing.ids := by simpa using known
  induction touch with
  | nothing => exact roster
  | request _ fine ih => exact ih.perform knowns fine
  | update _ _ flag ih => exact ih.update own flag
  | handles _ ih => exact ih.of_same rfl rfl

/-- An endpoint that is tearing down can be withdrawn. -/
theorem Roster.withdraw (roster : net.Roster listing) {name : String}
    (listed : (name, own) ∈ listing)
    (down : ∀ endpoint, net.endpoint? own = some endpoint → endpoint.tearingDown = true) :
    Roster { net with context := net.context.apply (.withdraw name) } (listing.without name) where
  lists := roster.lists.withdraw listed
  down e endpoint found := by
    refine (roster.down e endpoint found).elim .inl fun member => ?_
    by_cases here : e = own
    · subst here
      exact .inl (down endpoint found)
    · right
      obtain ⟨⟨other, id⟩, member', rfl⟩ := List.mem_map.mp member
      refine List.mem_map.mpr ⟨(other, id), List.mem_filter.mpr ⟨member', ?_⟩, rfl⟩
      rw [decide_eq_true_eq]
      rintro rfl
      exact here (congrArg Prod.snd
        (List.inj_on_of_nodup_map roster.lists.names member' listed rfl))

end Network

end AgentBus
