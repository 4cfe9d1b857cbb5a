import AgentBus.Proofs.Core.Tracking
import AgentBus.Proofs.Protocol.SourceTags

/-!
# Lines of nobody

The endpoint that sent a line may be gone when the core dispatches it. The command then goes to the
core on its own behalf, the answer comes back to the core, and the router passes it on to the
channel of the source tag. So the line takes three turns, with any other traffic in between, and
these are all that comes of it (`orphan_answered`).
-/

namespace AgentBus

open CoreHandler

variable {ω : Type}

/-! ## Three turns -/

section Turns

variable {own e : EndpointId} {limits : Limits} {turn : CoreTurn ω} {turns : List (CoreTurn ω)}

/-- Nothing is sent to anybody but the core, and no other endpoint is touched. -/
def CoreTurn.Within (own : EndpointId) (turn : CoreTurn ω) : Prop :=
  ∀ e, e ≠ own → turn.after.endpoint? e = turn.before.endpoint? e

/-- An endpoint that is not the core receives what the core sends to it. -/
theorem CoreTurn.Made.endpoint?_after (made : turn.Made own limits) (other : e ≠ own) :
    turn.after.endpoint? e = (turn.before.endpoint? e).map
      (((responses turn.before own turn.message).filterMap (Transfer.toward e)).foldl
        Endpoint.receive) := by
  rw [made.after, Network.recordDispatched, Network.endpoint?_update_of_ne (Ne.symm other),
    Network.endpoint?_sendAll, endpoint?_promptedBy]

theorem CoreTurn.Made.endpoint?_of_silent (made : turn.Made own limits) (other : e ≠ own)
    (silent : ∀ transfer ∈ responses turn.before own turn.message, transfer.destination ≠ e) :
    turn.after.endpoint? e = turn.before.endpoint? e := by
  have none : (responses turn.before own turn.message).filterMap (Transfer.toward e) = [] :=
    List.filterMap_eq_nil_iff.mpr fun transfer member => if_neg (silent transfer member)
  rw [made.endpoint?_after other, none]
  exact Option.map_id'

/-- A turn in which the core sends one message to itself leaves that message and touches no other
endpoint. -/
theorem CoreTurn.Made.of_own (made : turn.Made own limits) {message : Message}
    (sends : responses turn.before own turn.message = [⟨message, own, own⟩]) :
    (responses turn.before own turn.message).filterMap (Transfer.toward own) =
      [message.routed own own] ∧ turn.Within own := by
  constructor
  · rw [sends, List.filterMap_cons_some (toward_self _ _ _), List.filterMap_nil]
  · refine fun e other => made.endpoint?_of_silent other ?_
    rw [sends]
    simpa using Ne.symm other

/-- One marked message alone takes the first of the turns. -/
theorem Settles.of_one {message : Message} (settles : Settles own limits [message] turns) :
    ∃ turn rest, turns = turn :: rest ∧ turn.message = message ∧ turn.Made own limits ∧
      Settles own limits
        ((responses turn.before own turn.message).filterMap (Transfer.toward own)) rest := by
  cases settles with
  | cons made settles => exact ⟨_, _, rfl, rfl, made, settles⟩

theorem Settles.of_nil (settles : Settles own limits [] turns) : turns = [] := by
  cases settles with
  | nil => rfl

variable {net : Network ω} {line text : TextPayload} {route : Option Route} {command : Command}

/-- The command of a line goes to the core on its own behalf if the one who sent the line is
gone. -/
theorem responses_orphan (read : commandOf net.context.limits line = .ok command)
    (orphan : ∀ r, route = some r → r.source = own ∨ net.living? r.source = none) :
    responses net own ⟨.recvText line, route⟩ =
      [⟨.ofPayload (.sendCommand command), own, own⟩] := by
  have requester : net.requesterOf own route = own := by
    unfold Network.requesterOf
    split
    · rfl
    · next r =>
      rcases orphan r rfl with itself | gone
      · rw [itself, ite_self]
      · rw [gone]
        exact if_neg (by simp)
  simp only [responses, ingressSends, read, requester]

/-- What the core asked of itself is answered to itself. -/
theorem responses_own (accepts : net.Accepts own) :
    responses net own ⟨.sendCommand command, some ⟨own, own⟩⟩ =
      [⟨.ofPayload (.sendText (answerText (executed net.context command))), own, own⟩] := by
  simp only [responses, answerSends, accepts.isSome_living, if_true]

theorem channelFor?_answer (read : commandOf net.context.limits line = .ok command)
    (source : text.source = command.source.map SourceTag.raw) :
    channelFor? net.context text =
      command.source.bind fun tag => net.context.directory.channel? tag.channel := by
  rw [channelFor?, source]
  cases tagged : command.source with
  | none => rfl
  | some tag => simp [ofText?_source read tagged]

end Turns

/-- The endpoint bound to the channel that a command's tag names. -/
def Command.channelIn (directory : Directory) (command : Command) : Option EndpointId :=
  command.source.bind fun tag => directory.channel? tag.channel

/-- How the turn of an answer ends that has come back to the core. -/
structure CoreTurn.Routes (own : EndpointId) (command : Command) (text : TextPayload)
    (turn : CoreTurn ω) (rest : List (CoreTurn ω)) : Prop where
  /-- Without a channel nothing follows, and nobody has got anything. -/
  unbound : command.channelIn turn.before.context.directory = none → rest = [] ∧ turn.Within own
  /-- With one nothing follows either, and nobody but the channel has got anything. -/
  bound : ∀ e, command.channelIn turn.before.context.directory = some e → e ≠ own →
    rest = [] ∧
    (∀ other, other ≠ own → other ≠ e →
      turn.after.endpoint? other = turn.before.endpoint? other) ∧
    (turn.before.Accepts e → ∃ record, turn.before.endpoint? e = some record ∧
      turn.after.endpoint? e = some (record.enqueue ⟨.transportText text, some ⟨own, e⟩⟩))

/-- The turns of a line that comes from nobody: the line is received, its command is executed on the
core's own behalf, and the answer is routed to the channel of the tag. -/
structure OrphanTurns (own : EndpointId) (line : TextPayload) (route : Option Route)
    (command : Command) (text : TextPayload) (first second third : CoreTurn ω)
    (rest : List (CoreTurn ω)) : Prop where
  received : first.message = ⟨.recvText line, route⟩
  ordered : second.message = ⟨.sendCommand command, some ⟨own, own⟩⟩
  answered : third.message = ⟨.sendText text, some ⟨own, own⟩⟩
  rendered : text =
    ⟨(executed second.before.context command).answer.render, line.source.map SourceTag.fold⟩
  within : first.Within own ∧ second.Within own
  routes : third.Routes own command text rest

section Settling

variable {own : EndpointId} {limits : Limits} {line text : TextPayload} {route : Option Route}
variable {command : Command} {turn : CoreTurn ω} {rest turns : List (CoreTurn ω)}

theorem Settles.routes (made : turn.Made own limits) (read : commandOf limits line = .ok command)
    (answered : turn.message = ⟨.sendText text, some ⟨own, own⟩⟩)
    (source : text.source = command.source.map SourceTag.raw)
    (settles : Settles own limits
      ((responses turn.before own turn.message).filterMap (Transfer.toward own)) rest) :
    turn.Routes own command text rest := by
  have channel : channelFor? turn.before.context text =
      command.channelIn turn.before.context.directory := by
    rw [← made.limits] at read
    exact channelFor?_answer read source
  constructor
  · intro unbound
    -- Without a channel the router sends nothing
    have silent : responses turn.before own turn.message = [] := by
      rw [unbound] at channel
      simp only [answered, responses, routerSends, channel]
    rw [silent] at settles
    refine ⟨settles.of_nil, fun e other => made.endpoint?_of_silent other ?_⟩
    rw [silent]
    exact fun _ none => absurd none List.not_mem_nil
  · intro e bound other
    -- With one, the answer leaves the core for the endpoint of the channel
    have sends : responses turn.before own turn.message =
        [⟨.ofPayload (.transportText text), own, e⟩] := by
      rw [bound] at channel
      simp only [answered, responses, routerSends, channel]
    have outward :
        (responses turn.before own turn.message).filterMap (Transfer.toward own) = [] := by
      rw [sends]
      exact List.filterMap_cons_none (toward_of_ne other _ _)
    rw [outward] at settles
    refine ⟨settles.of_nil, fun e' away apart => made.endpoint?_of_silent away ?_, ?_⟩
    · rw [sends]
      simpa using Ne.symm apart
    · rintro ⟨record, found, served, up⟩
      have toward : (responses turn.before own turn.message).filterMap (Transfer.toward e) =
          [⟨.transportText text, some ⟨own, e⟩⟩] := by
        rw [sends]
        exact List.filterMap_cons_some (toward_self _ _ _)
      refine ⟨record, found, ?_⟩
      rw [made.endpoint?_after other, toward, found]
      exact congrArg some (if_pos ⟨up, served⟩)

/-- All turns of a line whose sender is gone when it is received. -/
theorem Settles.orphanTurns (settles : Settles own limits [⟨.recvText line, route⟩] turns)
    (read : commandOf limits line = .ok command)
    (orphan : ∀ turn ∈ turns, turn.message = ⟨.recvText line, route⟩ →
      ∀ r, route = some r → r.source = own ∨ turn.before.living? r.source = none) :
    ∃ first second third rest text, turns = first :: second :: third :: rest ∧
      OrphanTurns own line route command text first second third rest := by
  obtain ⟨first, _, rfl, received, firstMade, settles⟩ := settles.of_one
  have ordering : responses first.before own first.message =
      [⟨.ofPayload (.sendCommand command), own, own⟩] := by
    rw [received]
    rw [← firstMade.limits] at read
    exact responses_orphan read (orphan first List.mem_cons_self received)
  obtain ⟨order, firstWithin⟩ := firstMade.of_own ordering
  rw [order] at settles
  obtain ⟨second, _, rfl, ordered, secondMade, settles⟩ := settles.of_one
  have answering : responses second.before own second.message =
      [⟨.ofPayload (.sendText (answerText (executed second.before.context command))),
        own, own⟩] := by
    rw [ordered]
    exact responses_own secondMade.accepts
  obtain ⟨answer, secondWithin⟩ := secondMade.of_own answering
  rw [answer] at settles
  obtain ⟨third, rest, rfl, answered, thirdMade, settles⟩ := settles.of_one
  refine ⟨first, second, third, rest, _, rfl, received, ordered, answered, ?_,
    ⟨firstWithin, secondWithin⟩, settles.routes thirdMade read answered rfl⟩
  rw [← (of_ofText read).2]
  rfl

end Settling

/-- Whatever else is in the core's queue and comes to it, and whatever others do between two
dispatches: a line that is a command, and whose sender is gone when it is received or is the core
itself, has had three turns when the queue is empty. Its answer goes to the endpoint that the
channel of its tag is bound to then, as one message, and if there is none no other endpoint is
touched for it. A pump that ends is a run of this kind, in which the bindings stay, who accepts
messages goes on doing so, and who is gone stays so. -/
theorem orphan_answered {start : Site ω CoreHandler} (ready : CoreReady start)
    {ahead behind : List Message} {line : TextPayload} {route : Option Route} {command : Command}
    (queue : start.network.queueAt start.own = ahead ++ ⟨.recvText line, route⟩ :: behind)
    (read : commandOf start.network.context.limits line = .ok command) :
    (∀ (final : Site ω CoreHandler) (left : List MarkedMessage) (turns : List (CoreTurn ω)),
      Tracked start (onlyMarked ahead ⟨.recvText line, route⟩ behind) final left turns →
      final.network.queueAt start.own = [] →
      (∀ turn ∈ turns, turn.before.Accepts start.own) →
      (∀ turn ∈ turns, turn.message = ⟨.recvText line, route⟩ →
        ∀ r, route = some r → r.source = start.own ∨ turn.before.living? r.source = none) →
      ∃ first second third rest text, turns = first :: second :: third :: rest ∧
        OrphanTurns start.own line route command text first second third rest) ∧
    ∀ (fuel : Nat) (how : LoopEnd) (final : Site ω CoreHandler),
      start.pump behaviour fuel = .ended how final →
      ∃ left turns,
        Tracked start (onlyMarked ahead ⟨.recvText line, route⟩ behind) final left turns ∧
        final.network.queueAt start.own = [] ∧
        ∀ turn ∈ turns, start.network.Steady turn.before := by
  have holds : start.network.queueAt start.own =
      (onlyMarked ahead ⟨.recvText line, route⟩ behind).map Prod.fst := by
    rw [queue, map_fst_onlyMarked]
  constructor
  · intro final left turns tracked empty accepts orphan
    obtain ⟨mailbox, remains, _⟩ := tracked.keeps ready.isCore holds
    have own : final.own = start.own := congrArg Mailbox.endpoint mailbox
    rw [own, empty] at remains
    obtain rfl : left = [] := List.map_eq_nil_iff.mp remains.symm
    have settles := tracked.settles ready holds accepts .nil
    rw [List.append_nil, marked_onlyMarked] at settles
    exact settles.orphanTurns read orphan
  · exact fun fuel how final ended => Tracked.of_pump ready holds ended

/-- A line whose sender has lost its mailbox, between two events. -/
def orphanedCore : Site Unit CoreHandler where
  mailbox := coreAndClients.mailbox
  network :=
    { context := { directory := { channels := [("TTY", ⟨1⟩)] } }
      endpoints :=
        [{ name := "core"
           queue :=
             { front :=
                 [⟨.event "AT*1", some ⟨⟨1⟩, ⟨0⟩⟩⟩,
                   ⟨.recvText ⟨"AT=(7,\"ping\")", some "TTY=é"⟩, some ⟨⟨2⟩, ⟨0⟩⟩⟩,
                   ⟨.event "AT*2", some ⟨⟨1⟩, ⟨0⟩⟩⟩] } },
          { name := "tty" }, { name := "gone", served := false }] }

theorem orphan_answered_gone :
    ∃ fuel how final, orphanedCore.pump behaviour fuel = .ended how final ∧
      final.network.queueAt ⟨0⟩ = [] ∧
      ∃ left first second third text,
        Tracked orphanedCore
          (onlyMarked [⟨.event "AT*1", some ⟨⟨1⟩, ⟨0⟩⟩⟩]
            ⟨.recvText ⟨"AT=(7,\"ping\")", some "TTY=é"⟩, some ⟨⟨2⟩, ⟨0⟩⟩⟩
            [⟨.event "AT*2", some ⟨⟨1⟩, ⟨0⟩⟩⟩])
          final left [first, second, third] ∧
        ∃ record, third.before.endpoint? ⟨1⟩ = some record ∧
          third.after.endpoint? ⟨1⟩ =
            some (record.enqueue ⟨.transportText text, some ⟨⟨0⟩, ⟨1⟩⟩⟩) := by
  have ready : CoreReady orphanedCore := ⟨rfl, rfl, _, rfl, rfl, rfl⟩
  have queue : orphanedCore.network.queueAt orphanedCore.own = [⟨.event "AT*1", some ⟨⟨1⟩, ⟨0⟩⟩⟩] ++
      ⟨.recvText ⟨"AT=(7,\"ping\")", some "TTY=é"⟩, some ⟨⟨2⟩, ⟨0⟩⟩⟩ ::
        [⟨.event "AT*2", some ⟨⟨1⟩, ⟨0⟩⟩⟩] := rfl
  have read : commandOf orphanedCore.network.context.limits
      ⟨"AT=(7,\"ping\")", some "TTY=é"⟩ = .ok ⟨7, "ping", [], some ⟨"TTY=?"⟩, none⟩ := by
    decide +kernel
  have away : ¬ orphanedCore.network.context.directory.LeadsTo ⟨0⟩ := by
    simp [orphanedCore, Directory.LeadsTo]
  have tty : orphanedCore.network.Accepts ⟨1⟩ := ⟨_, rfl, rfl, rfl⟩
  have gone : orphanedCore.network.living? ⟨2⟩ = none := rfl
  have channel : Command.channelIn orphanedCore.network.context.directory
      ⟨7, "ping", [], some ⟨"TTY=?"⟩, none⟩ = some ⟨1⟩ := by
    have name : SourceTag.channel ⟨"TTY=?"⟩ = "TTY" := by decide +kernel
    have upper : "TTY".toUpper = "TTY" := by decide +kernel
    simp [Command.channelIn, name, orphanedCore, Directory.channel?, NameTable.find?, upper]
  obtain ⟨fuel, dispatches, final, ended, -, -⟩ := ready.isCore.drains away 0
  obtain ⟨answers, pumped⟩ := orphan_answered ready queue read
  have ended := ended 0
  obtain ⟨left, turns, tracked, empty, steady⟩ := pumped _ _ _ ended
  obtain ⟨first, second, third, rest, text, rfl, orphan⟩ := answers final left turns tracked empty
    (fun turn member => (steady turn member).accepts ready.accepts) (by
      rintro turn member - r ⟨⟩
      exact .inr ((steady turn member).gone gone))
  have here := steady third (by simp)
  rw [← here.directory] at channel
  obtain ⟨rfl, -, received⟩ := orphan.routes.bound ⟨1⟩ channel (by decide)
  exact ⟨_, _, final, ended, empty, left, first, second, third, text, tracked,
    received (here.accepts tty)⟩

end AgentBus
