import AgentBus.Proofs.Bus.Amid
import AgentBus.Proofs.Bus.Arrivals
import AgentBus.Proofs.Bus.Bindings
import AgentBus.Proofs.Core.Dispatch

/-!
# Events on all channels

The router sends one copy of an event for each bound channel, in the order of the names. It reads
the directory once and then makes the sends, whatever becomes of each of them, so an endpoint that
takes no messages keeps no other one from its copies. The directory has come about by a history of
changes, which tells who the `Recipients` are.

Main statement: `CoreHandler.event_fan_out`.
-/

namespace AgentBus

variable {ω : Type}

/-! ## Recipients -/

namespace History

/-- One entry for each channel that is bound, in the order of the names, with the endpoint of its
latest binding. Who was withdrawn after all its bindings has none. -/
structure Recipients (history : History) (channels : NameTable EndpointId) : Prop where
  ordered : channels.Ordered
  bound : ∀ name endpoint, (name, endpoint) ∈ channels ↔ history.Bound name endpoint
  left : ∀ endpoint, history.Left endpoint → ∀ name, (name, endpoint) ∉ channels

end History

theorem Directory.Follows.recipients {directory : Directory} {history : History}
    (follows : directory.Follows history) : history.Recipients directory.channels := by
  have bound : ∀ name endpoint,
      (name, endpoint) ∈ directory.channels ↔ history.Bound name endpoint := by
    intro name endpoint
    rw [← follows.ordered.channels.find?_eq_some_iff, follows.channels]
  refine ⟨follows.ordered.channels, bound, fun endpoint left name member => ?_⟩
  exact left.not_bound ((bound name endpoint).mp member)

/-! ## Landings -/

namespace Network

/-- Sends that land one after the other, while others act before each of them. -/
inductive LandsAll (others : Network ω → Network ω → Prop) :
    Network ω → List Transfer → Network ω → Prop where
  | nil {net : Network ω} : LandsAll others net [] net
  | cons {net between after : Network ω} {transfer : Transfer} {rest : List Transfer} :
      net.Lands others transfer.routed transfer.destination between →
      LandsAll others between rest after → LandsAll others net (transfer :: rest) after

theorem Lands.ages {others : Network ω → Network ω → Prop} (interference : Interference others)
    {net after : Network ω} {message : Message} {e : EndpointId}
    (lands : net.Lands others message e after) : net.Ages after := by
  have updated {between : Network ω} (f : Endpoint → Endpoint)
      (same : ∀ endpoint, (f endpoint).tearingDown = endpoint.tearingDown ∧
        (f endpoint).served = endpoint.served) : between.Ages (between.update e f) := by
    intro other endpoint found
    by_cases here : e = other
    · subst here
      refine ⟨f endpoint, endpoint?_update_self found f, ?_, ?_⟩
      · rw [(same endpoint).1]
        exact id
      · rw [(same endpoint).2]
        exact id
    · exact ⟨endpoint, (endpoint?_update_of_ne here _ f).trans found, id, id⟩
  cases lands with
  | appended _ acts _ =>
    exact (interference.ages acts).trans (updated _ fun _ => ⟨rfl, rfl⟩)
  | dropped acts _ =>
    exact (interference.ages acts).trans (updated _ fun _ => ⟨rfl, rfl⟩)

end Network

/-! ## Copies -/

namespace CoreHandler

variable {own : EndpointId} {text : String} {channels : NameTable EndpointId}

/-- The copies of an event, one for each of some channels. -/
def copies (own : EndpointId) (text : String) (channels : NameTable EndpointId) : List Transfer :=
  channels.map fun channel => ⟨.ofPayload (.event text), own, channel.2⟩

/-- An endpoint gets as many copies as it has channels. -/
theorem filterMap_copies (e : EndpointId) :
    (copies own text channels).filterMap (Transfer.toward e) =
      List.replicate ((channels.map Prod.snd).count e)
        ((Message.ofPayload (.event text)).routed own e) := by
  induction channels with
  | nil => rfl
  | cons channel channels ih =>
    rw [copies, List.map_cons, ← copies, List.map_cons]
    by_cases here : channel.2 = e
    · subst here
      have toward : Transfer.toward channel.2 ⟨.ofPayload (.event text), own, channel.2⟩ =
          some ((Message.ofPayload (.event text)).routed own channel.2) := if_pos rfl
      rw [List.filterMap_cons_some toward, ih, List.count_cons_self, List.replicate_succ]
    · have elsewhere : Transfer.toward e ⟨.ofPayload (.event text), own, channel.2⟩ = none :=
        if_neg here
      rw [List.filterMap_cons_none elsewhere, ih, List.count_cons_of_ne here]

section Amid

variable {others : Network ω → Network ω → Prop} {net after : Network ω}
variable {log : List (BusRequest ω)}

theorem performs_fanOut (interference : Network.Interference others)
    (performs : Performs others (fanOut own text channels) net log () after) :
    log = (copies own text channels).map
        (fun copy => .send copy.message copy.source copy.destination) ∧
      ((∀ channel ∈ channels, ∃ endpoint, net.endpoint? channel.2 = some endpoint) →
        net.LandsAll others (copies own text channels) after) := by
  induction channels generalizing net log with
  | nil =>
    obtain ⟨rfl, _, rfl⟩ := performs.of_done
    exact ⟨rfl, fun _ => .nil⟩
  | cons channel channels ih =>
    obtain ⟨_, rest, _, between, rfl, sends, continues⟩ := performs.of_bind
    obtain ⟨rfl, sent⟩ := sends.of_ask
    obtain ⟨rfl, landing⟩ := ih continues
    refine ⟨rfl, fun known => ?_⟩
    have lands := sent.lands interference (known channel List.mem_cons_self)
    refine .cons lands (landing fun other member => ?_)
    exact (lands.ages interference).exists_endpoint (known other (List.mem_cons_of_mem _ member))

/-- The router reads the directory once, and then sends the copies for what it has read. -/
theorem performs_router_event (interference : Network.Interference others) {scope : Scope}
    (bound : scope.bound = true) {route : Option Route} {handled : Handled CoreHandler}
    (performs : Performs others (handle scope .router ⟨.event text, route⟩) net log handled after) :
    handled = ⟨.router, ⟨.event text, route⟩, none⟩ ∧ ∃ seen, others net seen ∧
      log = .context :: (copies scope.endpoint text seen.context.directory.channels).map
        (fun copy => .send copy.message copy.source copy.destination) ∧
      ((∀ channel ∈ seen.context.directory.channels,
          ∃ endpoint, seen.endpoint? channel.2 = some endpoint) →
        seen.LandsAll others (copies scope.endpoint text seen.context.directory.channels)
          after) := by
  unfold handle context? at performs
  simp only [if_pos bound] at performs
  obtain ⟨_, _, context, seen, rfl, reads, continues⟩ := performs.of_bind
  obtain ⟨_, _, read, _, rfl, asks, returns⟩ := reads.of_bind
  obtain ⟨rfl, rfl, rfl⟩ := returns.of_done
  obtain ⟨rfl, got⟩ := asks.of_ask
  obtain ⟨_, _, _, _, rfl, sends, ends⟩ := continues.of_bind
  obtain ⟨rfl, rfl, rfl⟩ := ends.of_done
  obtain ⟨acts, rfl⟩ := got.context
  obtain ⟨rfl, landing⟩ := performs_fanOut interference sends
  exact ⟨rfl, seen, acts, by simp, landing⟩

end Amid

/-- An event is sent once for each channel that is bound, from the endpoint of the router, in the
order of the names and to the endpoint of the latest binding, whatever others do in between: each
copy lands in its queue, or is dropped and counted as such where the endpoint is tearing down or has
lost its mailbox. When the router works at one go, nothing else happens to any endpoint. -/
theorem event_fan_out {scope : Scope} (bound : scope.bound = true) {fresh : Context}
    (empty : fresh.directory = {}) (text : String) (route : Option Route) :
    (∀ (others : Network ω → Network ω → Prop) (net : Network ω) (log : List (BusRequest ω))
        (handled : Handled CoreHandler) (after : Network ω), Network.Interference others →
      Performs others (handle scope .router ⟨.event text, route⟩) net log handled after →
      handled = ⟨.router, ⟨.event text, route⟩, none⟩ ∧
      ∃ seen channels, others net seen ∧ channels = seen.context.directory.channels ∧
        log = .context :: channels.map
          (fun channel => .send (.ofPayload (.event text)) scope.endpoint channel.2) ∧
        (∀ history : History,
          seen.context.directory = (history.foldl Context.apply fresh).directory →
          history.Recipients channels) ∧
        ((∀ channel ∈ channels, ∃ endpoint, seen.endpoint? channel.2 = some endpoint) →
          seen.LandsAll others (copies scope.endpoint text channels) after)) ∧
    ∀ (net : Network ω) (history : History),
      net.context.directory = (history.foldl Context.apply fresh).directory →
      ∃ channels, channels = net.context.directory.channels ∧ history.Recipients channels ∧
        ∀ e endpoint, net.endpoint? e = some endpoint →
          ∃ endpoint', ((handle scope .router ⟨.event text, route⟩).run
              Network.perform net).2.endpoint? e = some endpoint' ∧
            (endpoint.tearingDown = false ∧ endpoint.served = true →
              ∃ queue, queue.toList = endpoint.queue.toList ++
                  List.replicate ((channels.map Prod.snd).count e)
                    ⟨.event text, some ⟨scope.endpoint, e⟩⟩ ∧
                endpoint' = { endpoint with
                  queued := endpoint.queued + (channels.map Prod.snd).count e, queue }) ∧
            (endpoint.tearingDown = true ∨ endpoint.served = false →
              endpoint' = { endpoint with
                dropped := endpoint.dropped + (channels.map Prod.snd).count e }) := by
  have recipients {net : Network ω} {history : History}
      (same : net.context.directory = (history.foldl Context.apply fresh).directory) :
      history.Recipients net.context.directory.channels := by
    rw [same]
    exact (Directory.follows_history empty history).recipients
  constructor
  · intro others net log handled after interference performs
    obtain ⟨rfl, seen, acts, rfl, landing⟩ := performs_router_event interference bound performs
    exact ⟨rfl, seen, _, acts, rfl, by simp [copies], fun history same => recipients same, landing⟩
  · intro net history same
    refine ⟨_, rfl, recipients same, fun e endpoint found => ?_⟩
    have ran : ((handle scope .router ⟨.event text, route⟩).run Network.perform net).2.endpoint? e =
        some ((List.replicate ((net.context.directory.channels.map Prod.snd).count e)
          ((Message.ofPayload (.event text)).routed scope.endpoint e)).foldl
            Endpoint.receive endpoint) := by
      rw [run_router bound, Network.endpoint?_sendAll, found, ← filterMap_copies]
      rfl
    refine ⟨_, ran, fun takes => ?_, fun refuses => ?_⟩
    · exact Endpoint.receive_replicate_up takes.1 takes.2 _ _
    · refine Endpoint.receive_replicate_down (fun takes => ?_) _ _
      rcases refuses with down | unserved
      · exact nomatch takes.1.symm.trans down
      · exact nomatch takes.2.symm.trans unserved

/-- A channel is bound once more, and an endpoint leaves together with another channel. -/
def rebound : History :=
  [.publish "news" ⟨1⟩, .bind "tty" ⟨1⟩, .bind "TTY" ⟨2⟩, .bind "board" ⟨3⟩, .bind "old" ⟨1⟩,
    .withdraw "news"]

/-- Of the two endpoints that are left, one is tearing down. -/
def reboundNetwork : Network Unit where
  context := rebound.foldl Context.apply {}
  endpoints :=
    [{ name := "core" }, { name := "news" }, { name := "down", tearingDown := true },
      { name := "board" }]

theorem event_fan_out_rebound :
    rebound.Recipients [("BOARD", ⟨3⟩), ("TTY", ⟨2⟩)] ∧
      ∃ after, ((handle ⟨⟨1⟩, ⟨0⟩, true⟩ .router ⟨.event "AT*1", none⟩).run Network.perform
          reboundNetwork).2 = after ∧
        after.endpoint? ⟨2⟩ = some { name := "down", tearingDown := true, dropped := 1 } ∧
        after.queueAt ⟨3⟩ = [⟨.event "AT*1", some ⟨⟨0⟩, ⟨3⟩⟩⟩] := by
  have scope : (⟨⟨1⟩, ⟨0⟩, true⟩ : Scope).bound = true := rfl
  have left : reboundNetwork.context.directory.channels = [("BOARD", ⟨3⟩), ("TTY", ⟨2⟩)] := by
    have tty : "tty".toUpper = "TTY" := by decide +kernel
    have again : "TTY".toUpper = "TTY" := by decide +kernel
    have board : "board".toUpper = "BOARD" := by decide +kernel
    have old : "old".toUpper = "OLD" := by decide +kernel
    have same : ¬ "TTY" < "TTY" := String.lt_irrefl "TTY"
    have first : "BOARD" < "TTY" := by decide +kernel
    have second : ¬ "OLD" < "BOARD" := by decide +kernel
    have apart : ¬ "OLD" = "BOARD" := by decide +kernel
    have third : "OLD" < "TTY" := by decide +kernel
    simp only [reboundNetwork, rebound, List.foldl_cons, List.foldl_nil, Context.apply,
      Directory.publish, Directory.bind, Directory.withdraw, Directory.endpoint?, NameTable.insert,
      NameTable.find?, NameTable.eraseValue, tty, again, board, old, same, first, second, apart,
      third, if_true, if_false]
    rfl
  have empty : ({} : Context).directory = {} := rfl
  have same : reboundNetwork.context = rebound.foldl Context.apply {} := rfl
  obtain ⟨channels, read, recipients, received⟩ :=
    (event_fan_out scope empty "AT*1" none).2 reboundNetwork rebound
      (congrArg Context.directory same)
  obtain rfl := read.trans left
  obtain ⟨down, downFound, -, dropped⟩ := received ⟨2⟩ _ rfl
  obtain ⟨board, boardFound, queued, -⟩ := received ⟨3⟩ _ rfl
  obtain ⟨queue, holds, rfl⟩ := queued ⟨rfl, rfl⟩
  refine ⟨recipients, _, rfl, downFound.trans (congrArg some (dropped (.inl rfl))), ?_⟩
  exact (Network.queueAt_eq boardFound).trans holds

end CoreHandler

end AgentBus
