import AgentBus.Channel.Basic
import AgentBus.Proofs.Bus.Arrivals
import AgentBus.Proofs.Bus.Bindings
import AgentBus.Proofs.Protocol.SourceTags

/-!
# Handing texts over

A channel hands a peer's text to the core under a tag of its own: the peer chooses its address, but
not the channel that stands before it. The core passes the tag on as it is, so the router sends the
answer to whatever endpoint the channel is bound to, and nowhere else. A text that is not handed
over changes no queue.

Main statement: `Channel.handOver_tags`.
-/

namespace AgentBus

open CoreHandler

variable {ω : Type}

/-! ## Routes of tagged texts -/

namespace SourceTag

/-- The tag says what it was made of, and is made of its own text again. -/
structure Names (tag : SourceTag) (name peer : String) (limits : Limits) : Prop where
  channel : '=' ∉ name.toList → tag.channel = fold name
  address : '=' ∉ name.toList → tag.address = fold peer
  again : ofText? tag.raw limits.maxSourceLength.toNat = some tag

/-- The router sends a text with this tag to one endpoint and does nothing else, or does nothing at
all. -/
def Leads (tag : SourceTag) (net : Network ω) (endpoint? : Option EndpointId) : Prop :=
  ∀ (scope : Scope) (text : String) (route : Option Route), scope.bound = true →
    (handle scope .router ⟨.sendText ⟨text, some tag.raw⟩, route⟩).run Network.perform net =
      (⟨.router, ⟨.sendText ⟨text, some tag.raw⟩, route⟩, none⟩,
        match endpoint? with
        | none => net
        | some endpoint =>
          (net.send (.ofPayload (.transportText ⟨text, some tag.raw⟩)) scope.endpoint endpoint).2)

/-- A core passes the tag on with all that it sends for a message that carries it. -/
def PassedOn (tag : SourceTag) (site : Site ω CoreHandler) : Prop :=
  ∀ message : Message, message.payload.source? = some tag.raw →
    ∃ transfers : List Transfer,
      (site.dispatch behaviour message).2.network =
        ((promptedBy site.network message.payload).sendAll transfers).recordDispatched site.own ∧
      ∀ transfer ∈ transfers, transfer.message.payload.source? = some tag.raw

variable {tag : SourceTag} {name peer : String} {limits : Limits} {net : Network ω}

theorem names_ofChannel?
    (made : ofChannel? name peer limits.maxSourceLength.toNat = some tag) :
    tag.Names name peer limits :=
  ⟨channel_ofChannel? made, address_ofChannel? made, ofText?_raw made⟩

/-- The router looks the channel of the tag up in the directory. -/
theorem Names.leads (names : tag.Names name peer net.context.limits) :
    tag.Leads net (net.context.directory.channel? tag.channel) := by
  intro scope text route bound
  have found : channelFor? net.context ⟨text, some tag.raw⟩ =
      net.context.directory.channel? tag.channel := by
    rw [channelFor?, Option.bind_some, names.again, Option.bind_some]
  rw [run_router bound, routerSends, found]
  cases net.context.directory.channel? tag.channel with
  | none => rfl
  | some endpoint => rfl

theorem Names.passedOn {site : Site ω CoreHandler} (names : tag.Names name peer limits)
    (ready : CoreReady site) : tag.PassedOn site := by
  intro message has
  have plain : fold tag.raw = tag.raw := by
    have again := names.again
    rw [ofText?_eq] at again
    split at again
    · exact congrArg raw (Option.some.inj again)
    · contradiction
  refine ⟨responses site.network site.own message, ?_, fun transfer member =>
    source_of_responses plain has member⟩
  rw [dispatch_core ready]
  rfl

/-- A channel with a printable name goes by this name, in any case. -/
theorem Names.channel?_eq (names : tag.Names name.toUpper peer limits)
    (plain : '=' ∉ name.toUpper.toList) (printable : name.toList.all Text.isPrintable = true)
    (directory : Directory) :
    directory.channel? tag.channel = directory.channels.find? name.toUpper := by
  rw [names.channel plain, fold_of_printable fun _ => Text.isPrintable_of_mem_toUpper printable,
    Directory.channel?, Text.toUpper_toUpper]

end SourceTag

/-! ## Handing over -/

namespace Channel

/-- What handing a peer's text over comes to: why it is not handed over, or under which tag it
is. -/
inductive Hands (channel : Channel) (peer text : String) (net : Network ω) :
    Except ChannelError Unit → Network ω → Prop where
  | denied : channel.allows peer = false →
      Hands channel peer text net (.error (.accessDenied peer)) net
  | unfit : channel.allows peer = true →
      SourceTag.ofChannel? channel.name peer channel.limits.maxSourceLength.toNat = none →
      Hands channel peer text net
        (.error (.invalidSource channel.limits.maxSourceLength.toNat)) net
  | refused {core : String} : ¬ net.Accepts channel.core →
      Hands channel peer text net (.error (.notAccepted core)) (net.recordDropped channel.core)
  | handed {tag : SourceTag} : net.Accepts channel.core →
      SourceTag.ofChannel? channel.name peer channel.limits.maxSourceLength.toNat = some tag →
      Hands channel peer text net (.ok ())
        (net.update channel.core
          (·.enqueue ⟨.recvText ⟨text, some tag.raw⟩, some ⟨channel.endpoint, channel.core⟩⟩))

theorem hands_run (channel : Channel) (peer text : String) (net : Network ω) :
    channel.Hands peer text net ((channel.handOver peer text).run Network.perform net).1
      ((channel.handOver peer text).run Network.perform net).2 := by
  unfold handOver
  split
  case isFalse denied => exact .denied (Bool.eq_false_iff.mpr denied)
  case isTrue allowed =>
    cases made : SourceTag.ofChannel? channel.name peer channel.limits.maxSourceLength.toNat with
    | none => exact .unfit allowed made
    | some tag =>
      simp only [Program.run_bind, BusProgram.send, Program.run, Network.perform]
      cases sent : net.send (.ofPayload (.recvText ⟨text, some tag.raw⟩)) channel.endpoint
          channel.core with
      | mk delivery after =>
        cases delivery with
        | queued =>
          obtain ⟨accepts, rfl⟩ := Network.send_of_queued sent
          exact .handed accepts made
        | dropped =>
          obtain ⟨refuses, rfl⟩ := Network.send_of_dropped sent
          exact .refused refuses

/-- A channel under the limits of the shared context hands a text over with a tag of its own. What
stands before the first equals sign of the tag is the channel's name, unless there is one in the
name itself; the rest is the peer's address. The core passes the tag on unchanged, and if the name
is printable the router sends texts with the tag to the endpoint that the channel is bound to, in
whatever case, or nowhere if it is bound to none. If the text is not handed over, no queue has
changed, and at most one drop was counted, for the core that does not accept it. -/
theorem handOver_tags {name peer text : String} {allowFrom : List String}
    {endpoint core : EndpointId} {net after : Network ω} {result : Except ChannelError Unit}
    (ran : ((make name allowFrom endpoint core net.context.limits).handOver peer text).run
      Network.perform net = (result, after)) :
    match result with
    | .ok () => ∃ tag : SourceTag,
        net.Accepts core ∧
        after = net.update core
          (·.enqueue ⟨.recvText ⟨text, some tag.raw⟩, some ⟨endpoint, core⟩⟩) ∧
        tag.Names name.toUpper peer net.context.limits ∧
        (∀ site : Site ω CoreHandler, CoreReady site → tag.PassedOn site) ∧
        ('=' ∉ name.toUpper.toList → name.toList.all Text.isPrintable = true →
          ∀ later : Network ω, later.context.limits = net.context.limits →
            (∀ spelled : String, spelled.toUpper = name.toUpper →
              tag.Leads later (later.context.directory.channel? spelled)) ∧
            ∀ (fresh : Context) (history : History), fresh.directory = {} →
              later.context.directory = (history.foldl Context.apply fresh).directory →
              ∃ bound : Option EndpointId, tag.Leads later bound ∧
                ∀ e, bound = some e ↔ history.Bound name.toUpper e)
    | .error (.accessDenied address) => address = peer ∧ after = net
    | .error (.invalidSource limit) =>
      limit = net.context.limits.maxSourceLength.toNat ∧
        limit < (SourceTag.fold name.toUpper ++ "=" ++ SourceTag.fold peer).length ∧ after = net
    | .error (.notAccepted _) =>
      ¬ net.Accepts core ∧ after = net.recordDropped core ∧
        ∀ e, after.queueAt e = net.queueAt e := by
  have hands : (make name allowFrom endpoint core net.context.limits).Hands peer text net result
      after := by
    have hands := hands_run (make name allowFrom endpoint core net.context.limits) peer text net
    rw [ran] at hands
    exact hands
  cases hands with
  | denied => exact ⟨rfl, rfl⟩
  | unfit _ unmade => exact ⟨rfl, SourceTag.ofChannel?_eq_none_iff.mp unmade, rfl⟩
  | refused refuses =>
    refine ⟨refuses, rfl, fun e => ?_⟩
    apply Network.queueAt_update
    intro record
    rfl
  | @handed tag accepts made =>
    have names : tag.Names name.toUpper peer net.context.limits := SourceTag.names_ofChannel? made
    refine ⟨tag, accepts, rfl, names, fun site ready => names.passedOn ready, ?_⟩
    intro plain printable later same
    have leads : tag.Leads later (later.context.directory.channels.find? name.toUpper) := by
      rw [← names.channel?_eq plain printable]
      rw [← same] at names
      exact names.leads
    constructor
    · intro spelled upper
      rw [Directory.channel?, upper]
      exact leads
    · intro fresh history empty built
      have follows := Directory.follows_history empty history
      rw [← built] at follows
      exact ⟨_, leads, fun e => follows.channels⟩

/-- A core that accepts messages. The channel is bound in some case. -/
def typing : Network Unit where
  context := [.bind "Tty" ⟨1⟩].foldl Context.apply {}
  endpoints := [{ name := "core" }, { name := "tty" }]


/-- The peer puts a second equals sign into its address, and characters that are folded. -/
theorem handOver_tags_folded :
    ∃ (after : Network Unit) (tag : SourceTag),
      ((make "tty" [] ⟨1⟩ ⟨0⟩ typing.context.limits).handOver "a=\u0007é" "hello").run
        Network.perform typing = (.ok (), after) ∧
      tag.channel = "TTY" ∧ tag.address = "a=?" ∧ tag.Leads after (some ⟨1⟩) := by
  have upper : "tty".toUpper = "TTY" := by decide +kernel
  have spelled : "Tty".toUpper = "TTY" := by decide +kernel
  have plain : '=' ∉ "tty".toUpper.toList := by decide +kernel
  have printable : "tty".toList.all Text.isPrintable = true := by decide +kernel
  have channel : SourceTag.fold "tty".toUpper = "TTY" := by decide +kernel
  have address : SourceTag.fold "a=\u0007é" = "a=?" := by decide +kernel
  have bound : typing.context.directory.channel? "Tty" = some ⟨1⟩ := by
    simp [typing, Context.apply, Directory.bind, Directory.channel?, NameTable.insert,
      NameTable.find?, spelled]
  have ok : (((make "tty" [] ⟨1⟩ ⟨0⟩ typing.context.limits).handOver "a=\u0007é" "hello").run
      Network.perform typing).1 = .ok () := by decide +kernel
  generalize ran : ((make "tty" [] ⟨1⟩ ⟨0⟩ typing.context.limits).handOver "a=\u0007é" "hello").run
    Network.perform typing = sent at ok
  obtain ⟨result, after⟩ := sent
  obtain rfl : result = .ok () := ok
  obtain ⟨tag, -, rfl, names, -, routed⟩ := handOver_tags ran
  obtain ⟨leads, -⟩ := routed plain printable (typing.update ⟨0⟩ _) rfl
  have leads := leads "Tty" (spelled.trans upper.symm)
  exact ⟨_, tag, rfl, (names.channel plain).trans channel, (names.address plain).trans address,
    bound ▸ leads⟩

end Channel

end AgentBus
