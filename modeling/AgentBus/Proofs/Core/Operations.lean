import AgentBus.Proofs.Bus.NameOrder
import AgentBus.Proofs.Core.Answers
import AgentBus.Proofs.Config.RoundTrip
import AgentBus.Proofs.Json.Compact

/-!
# What operations answer

Each command is answered with one frame on one line, under the command's id
(`operations_answer`). `status` answers with raw data, which stays on that line because JSON escapes
whatever would end it, and which is read back as the names in the directory.

A frame without parts is written with a sentinel instead. Of all commands just `echo` without
arguments is answered so (`sentinel_iff`).
-/

namespace AgentBus

open CoreHandler

variable {ω : Type}

/-! ## Frames -/

theorem FrameBody.foldl_addText (texts : List String) (body : FrameBody) :
    texts.foldl .addText body = { body with parts := body.parts ++ texts } := by
  induction texts generalizing body with
  | nil => rw [List.foldl_nil, List.append_nil]
  | cons text texts ih =>
    rw [List.foldl_cons, ih, FrameBody.addText, List.append_assoc, List.singleton_append]

/-- Every frame begins with its keyword, its id and its status. -/
theorem head_prefix_render (body : FrameBody) (kind : FrameKind) (id : Nat) :
    (kind.keyword ++ " = ( " ++ toString id ++ ", " ++ body.status.text ++ ", ").toList <+:
      (body.render kind id).toList := by
  unfold FrameBody.render
  split
  · simp only [String.toList_append, List.append_assoc, List.prefix_append_right_inj,
      List.prefix_append]
  · simp only [String.toList_append, List.append_assoc, List.prefix_append_right_inj,
      List.prefix_append]

/-! ## Operations -/

/-- The name that asks for an operation. -/
def Operation.name : Operation → String
  | .ping => "ping"
  | .echo => "echo"
  | .version => "version"
  | .uptime => "uptime"
  | .status => "status"
  | .help => "help"
  | .quit => "quit"

theorem Operation.ofName?_eq_some_iff {name : String} {operation : Operation} :
    Operation.ofName? name = some operation ↔ name = operation.name := by
  constructor
  · intro found
    unfold Operation.ofName? at found
    split at found <;> cases found <;> rfl
  · rintro rfl
    cases operation <;> rfl

/-- The names that `help` lists are the names that ask for an operation. -/
theorem Operation.mem_names_iff {name : String} :
    name ∈ Operation.names ↔ ∃ operation, Operation.ofName? name = some operation := by
  constructor
  · intro listed
    have asking : ∀ name ∈ Operation.names, (Operation.ofName? name).isSome = true := by decide
    exact Option.isSome_iff_exists.mp (asking name listed)
  · rintro ⟨operation, found⟩
    rw [Operation.ofName?_eq_some_iff.mp found]
    cases operation <;> decide

theorem Operation.ne_name_of_ofName?_eq_none {name : String}
    (unknown : Operation.ofName? name = none) (operation : Operation) : name ≠ operation.name := by
  rintro rfl
  rw [Operation.ofName?_eq_some_iff.mpr rfl] at unknown
  contradiction

section Writing

variable (arguments : List Arg) (survey : Survey)

theorem Operation.status_write (operation : Operation) :
    (operation.write arguments survey {}).status = .ok := by
  cases operation with
  | echo =>
    rw [Operation.write, FrameBody.foldl_addText]
    rfl
  | _ => rfl

theorem Operation.isData_write (operation : Operation) :
    (operation.write arguments survey {}).isData = decide (operation = .status) := by
  cases operation with
  | echo =>
    rw [Operation.write, FrameBody.foldl_addText]
    rfl
  | _ => rfl

theorem Operation.parts_write_eq_nil_iff (operation : Operation) :
    (operation.write arguments survey {}).parts = [] ↔ operation = .echo ∧ arguments = [] := by
  cases operation with
  | echo => simp [Operation.write, FrameBody.foldl_addText, FrameBody.setStatus]
  | _ =>
    simp [Operation.write, FrameBody.setStatus, FrameBody.setData, FrameBody.addText,
      Operation.names]

end Writing

/-- The content of the frame that answers a command. -/
def Command.replyBody (command : Command) (survey : Survey) : FrameBody :=
  match Operation.ofName? command.operation with
  | some operation => operation.write command.arguments survey {}
  | none => FrameBody.addText (FrameBody.setStatus {} .unknown) "unknown operation"

theorem Command.replyBody_eq {command : Command} {operation : Operation}
    (asked : command.operation = operation.name) (survey : Survey) :
    command.replyBody survey = operation.write command.arguments survey {} := by
  rw [Command.replyBody, Operation.ofName?_eq_some_iff.mpr asked]

theorem Command.answer_execute {command : Command} (fresh : command.pending = none)
    (survey : Survey) :
    (command.execute survey).answer = ⟨command.id, command.replyBody survey⟩ := by
  obtain ⟨_, _, _, _, pending⟩ := command
  obtain rfl : pending = none := fresh
  rfl

theorem Command.status_replyBody (command : Command) (survey : Survey) :
    (command.replyBody survey).status =
      if command.operation ∈ Operation.names then .ok else .unknown := by
  unfold Command.replyBody
  split
  · next operation found =>
    rw [if_pos (Operation.mem_names_iff.mpr ⟨operation, found⟩), Operation.status_write]
  · next found =>
    have unlisted : command.operation ∉ Operation.names := by
      simp [Operation.mem_names_iff, found]
    rw [if_neg unlisted]
    rfl

/-- Just `echo` without arguments is answered without any part. -/
theorem Command.parts_replyBody_eq_nil_iff (command : Command) (survey : Survey) :
    (command.replyBody survey).parts = [] ↔
      command.operation = "echo" ∧ command.arguments = [] := by
  unfold Command.replyBody
  split
  · next operation found =>
    rw [Operation.parts_write_eq_nil_iff, Operation.ofName?_eq_some_iff.mp found]
    refine and_congr_left' ?_
    cases operation <;> decide
  · next found =>
    have other : command.operation ≠ "echo" := Operation.ne_name_of_ofName?_eq_none found .echo
    simp [FrameBody.addText, other]

/-- Just `status` is answered with raw data. -/
theorem Command.isData_replyBody (command : Command) (survey : Survey) :
    (command.replyBody survey).isData = decide (command.operation = "status") := by
  unfold Command.replyBody
  split
  · next operation found =>
    rw [Operation.isData_write, Operation.ofName?_eq_some_iff.mp found]
    cases operation <;> decide
  · next found =>
    have other : command.operation ≠ "status" := Operation.ne_name_of_ofName?_eq_none found .status
    rw [decide_eq_false other]
    rfl

/-! ## The report -/

theorem Survey.plain_report {survey : Survey} (clock : survey.uptimeSeconds < UInt64.size) :
    Json.Plain Json.maxDepth survey.report := by
  have least : Int64.minValue.toInt ≤ 0 := by decide
  have uptime : Json.Plain 126 (.number (.integer survey.uptimeSeconds)) :=
    .integer (by omega) (by omega)
  have channels : Json.Plain 126 (.array (survey.channels.map .string)) :=
    Json.plain_ofStrings survey.channels
  have endpoints : Json.Plain 126 (.array (survey.endpoints.map .string)) :=
    Json.plain_ofStrings survey.endpoints
  exact .object (by simp) (by simp [channels, endpoints, uptime, Json.Plain.string])

theorem render_status {command : Command} (asked : command.operation = "status")
    (survey : Survey) :
    Answer.render ⟨command.id, command.replyBody survey⟩ =
      "IH = ( " ++ toString command.id.toNat ++ ", 200, \"DATA\" )" ++ survey.report.compact := by
  have body : command.replyBody survey = ⟨.ok, [survey.report.compact], true⟩ := by
    have named : command.operation = Operation.status.name := asked
    rw [Command.replyBody_eq named]
    rfl
  have code : ", " ++ Status.ok.text ++ ", " ++ quote dataMarker ++ " )" = ", 200, \"DATA\" )" := by
    decide
  have keyword : FrameKind.answer.keyword ++ " = ( " = "IH = ( " := rfl
  rw [body, ← code, ← keyword]
  simp [Answer.render, FrameBody.render, FrameBody.renderedParts, String.join, String.append_assoc]

/-- The answer to a command is one line, also where it is raw data. -/
theorem oneLine_reply (command : Command) {survey : Survey}
    (clock : survey.uptimeSeconds < UInt64.size) :
    OneLine (Answer.render ⟨command.id, command.replyBody survey⟩).toList := by
  by_cases asked : command.operation = "status"
  · have opening : NoControl "IH = ( ".toList := noControl_of_all rfl
    have closing : NoControl ", 200, \"DATA\" )".toList := noControl_of_all rfl
    have frame := (opening.append (noControl_toString_nat command.id.toNat)).append closing
    rw [render_status asked, String.toList_append, String.toList_append, String.toList_append]
    exact (OneLine.of_noControl frame).append (Json.oneLine_compact (Survey.plain_report clock))
  · have noData : (command.replyBody survey).isData = false := by
      rw [Command.isData_replyBody, decide_eq_false asked]
    exact .of_noControl (noControl_render noData .answer _)

/-! ## Commands that were read -/

/-- What the operations know of the agent: nothing, unless the context is bound. -/
def surveyIn (scope : Scope) (context : Context) : Survey :=
  if scope.bound then Survey.ofContext context else {}

/-- The answer that the operations handler gives to a command. -/
def answerIn (scope : Scope) (context : Context) (command : Command) : Answer :=
  (command.execute (surveyIn scope context)).answer

/-- Executing a command changes nothing but the request for a shutdown, which `quit` makes. -/
theorem prompted_eq (net : Network ω) (command : Command) :
    prompted net command = { net with
      context := { net.context with
        shutdownRequested := (prompted net command).context.shutdownRequested } } ∧
    ((prompted net command).context.shutdownRequested = true ↔
      net.context.shutdownRequested = true ∨ command.operation = "quit") := by
  unfold prompted
  split
  · next asked =>
    rw [Operation.ofName?_eq_some_iff] at asked
    exact ⟨rfl, fun _ => .inr asked, fun _ => rfl⟩
  · next unasked =>
    rw [Operation.ofName?_eq_some_iff] at unasked
    exact ⟨rfl, .inl, fun requested => requested.resolve_right unasked⟩

section Handler

variable {text : String} {source : Option String} {limits : Limits} {command : Command}
variable (read : Command.ofText text source limits = .ok command)

include read in
/-- The handler leaves a command as it was read, sends the answer to it, and changes nothing but
that one operation asks for a shutdown. -/
theorem run_operations_read (scope : Scope) (route : Option Route) (net : Network ω) :
    (handle scope .operations ⟨.sendCommand command, route⟩).run Network.perform net =
      (⟨.operations, ⟨.sendCommand command, route⟩,
        some (.ofPayload (.sendText
          ⟨(answerIn scope net.context command).render,
            command.source.map SourceTag.raw⟩))⟩,
        if scope.bound then prompted net command else net) := by
  have fresh : command.pending = none := (of_ofText read).1
  have kept : ∀ survey, (command.execute survey).withoutAnswer = command := by
    intro survey
    cases command
    cases fresh
    rfl
  cases bound : scope.bound with
  | true =>
    rw [run_operations bound, answerIn, surveyIn, bound, if_pos rfl, if_pos rfl, executed, kept]
    rfl
  | false =>
    simp only [handle, execute, context?, quit, answerIn, surveyIn, bound, Bool.false_eq_true,
      and_false, if_false]
    simp only [Program.bind, Program.run, Option.map_none, Option.getD_none, kept]
    rfl

include read in
/-- Every command that was read is answered with one text, a frame on one line under the command's
id that says whether the operation is known. The command stays as it was, and nothing else happens
but that `quit` asks a bound context for the shutdown. `status` shows the names of the directory in
their order, whatever was published, bound and withdrawn. -/
theorem operations_answer {net : Network ω} (clock : net.context.uptimeSeconds < UInt64.size)
    {changes : List ContextChange}
    (listed : net.context.directory = (changes.foldl Context.apply {}).directory)
    (scope : Scope) (route : Option Route) :
    ∃ line after,
      (handle scope .operations ⟨.sendCommand command, route⟩).run Network.perform net =
        (⟨.operations, ⟨.sendCommand command, route⟩,
          some (.ofPayload (.sendText ⟨line, command.source.map SourceTag.raw⟩))⟩, after) ∧
      command.pending = none ∧
      OneLine line.toList ∧
      ("IH = ( " ++ toString command.id.toNat ++ ", " ++
          (if command.operation ∈ Operation.names then "200" else "380") ++
          ", ").toList <+: line.toList ∧
      after = { net with
        context := { net.context with
          shutdownRequested := after.context.shutdownRequested } } ∧
      (after.context.shutdownRequested = true ↔
        net.context.shutdownRequested = true ∨ command.operation = "quit" ∧ scope.bound = true) ∧
      (command.operation = "status" → scope.bound = true →
        ∃ data report,
          line = "IH = ( " ++ toString command.id.toNat ++ ", 200, \"DATA\" )" ++ data ∧
          Json.read data = some report ∧
          report.get? "endpoints" =
            some (.array (net.context.directory.endpoints.names.map .string)) ∧
          net.context.directory.endpoints.names.Pairwise (· < ·) ∧
          report.get? "channels" =
            some (.array (net.context.directory.channels.names.map .string)) ∧
          net.context.directory.channels.names.Pairwise (· < ·)) := by
  have fresh : command.pending = none := (of_ofText read).1
  have surveyed : (surveyIn scope net.context).uptimeSeconds < UInt64.size := by
    unfold surveyIn
    split
    · exact clock
    · decide
  have answer : answerIn scope net.context command =
      ⟨command.id, command.replyBody (surveyIn scope net.context)⟩ :=
    Command.answer_execute fresh _
  refine ⟨_, _, run_operations_read read scope route net, fresh, ?line, ?head, ?same, ?asked,
    ?status⟩
  case line =>
    rw [answer]
    exact oneLine_reply command surveyed
  case head =>
    have code : (if command.operation ∈ Operation.names then "200" else "380") =
        (command.replyBody (surveyIn scope net.context)).status.text := by
      rw [Command.status_replyBody]
      split
      · decide
      · decide
    rw [answer, code]
    exact head_prefix_render _ .answer _
  case same =>
    split
    · exact (prompted_eq net command).1
    · rfl
  case asked =>
    cases scope.bound with
    | true => simpa using (prompted_eq net command).2
    | false => simp
  case status =>
    intro asked bound
    have empty : ({} : Context).directory.Ordered := ⟨.nil, .nil⟩
    have ordered : net.context.directory.Ordered := listed ▸ Directory.ordered_changes empty changes
    have known : surveyIn scope net.context = Survey.ofContext net.context := if_pos bound
    rw [known] at answer surveyed
    refine ⟨_, _, ?_, Json.read_compact (Survey.plain_report surveyed), rfl, ordered.endpoints, rfl,
      ordered.channels⟩
    rw [answer, render_status asked]

include read in
/-- Of all commands that are read, just `echo` without arguments is answered with a frame without
parts, and so with the sentinel. -/
theorem sentinel_iff (scope : Scope) (route : Option Route) (net : Network ω) :
    ((handle scope .operations ⟨.sendCommand command, route⟩).run Network.perform net).1.answer =
        some (.ofPayload (.sendText
          ⟨(answerIn scope net.context command).render,
            command.source.map SourceTag.raw⟩)) ∧
      ((answerIn scope net.context command).body.parts = [] ↔
        command.operation = "echo" ∧ command.arguments = []) ∧
      ((answerIn scope net.context command).body.parts = [] →
        (answerIn scope net.context command).render =
          "IH = ( " ++ toString command.id.toNat ++ ", 200, \"BUG: empty answer\" )") := by
  have fresh : command.pending = none := (of_ofText read).1
  rw [run_operations_read read, answerIn, Command.answer_execute fresh]
  have bare := command.parts_replyBody_eq_nil_iff (surveyIn scope net.context)
  refine ⟨rfl, bare, fun empty => ?_⟩
  obtain ⟨echo, unargued⟩ := bare.mp empty
  have body : command.replyBody (surveyIn scope net.context) = ⟨.ok, [], false⟩ := by
    have named : command.operation = Operation.echo.name := echo
    rw [Command.replyBody_eq named, unargued]
    rfl
  have tail : ", " ++ Status.ok.text ++ ", " ++ quote FrameKind.answer.sentinel ++ " )" =
      ", 200, \"BUG: empty answer\" )" := by decide
  have keyword : FrameKind.answer.keyword ++ " = ( " = "IH = ( " := rfl
  rw [body, ← tail, ← keyword]
  simp [Answer.render, FrameBody.render, FrameBody.renderedParts, String.append_assoc]

end Handler

/-! ### Commands on the wire -/

/-- The operations handler in a chain that the shared context is bound to. -/
def boundScope : Scope := ⟨⟨1⟩, ⟨0⟩, true⟩

/-- Two names are published out of order, and one channel is bound. -/
def published : Network Unit where
  context := [.publish "ticker" ⟨1⟩, .publish "core" ⟨0⟩, .bind "tty" ⟨1⟩].foldl Context.apply {}

theorem operations_answer_status :
    ∃ data report after,
      (handle boundScope .operations
          ⟨.sendCommand ⟨7, "status", [], none, none⟩, none⟩).run Network.perform published =
        (⟨.operations, ⟨.sendCommand ⟨7, "status", [], none, none⟩, none⟩,
          some (.ofPayload (.sendText ⟨"IH = ( 7, 200, \"DATA\" )" ++ data, none⟩))⟩, after) ∧
      Json.read data = some report ∧
      report.get? "endpoints" = some (.array [.string "core", .string "ticker"]) ∧
      report.get? "channels" = some (.array [.string "TTY"]) := by
  have read : Command.ofText "AT = ( 7, \"status\" )" = .ok ⟨7, "status", [], none, none⟩ := by
    decide +kernel
  have clock : published.context.uptimeSeconds < UInt64.size := by decide
  obtain ⟨line, after, answered, _, _, _, _, _, status⟩ :=
    operations_answer read clock rfl boundScope none
  obtain ⟨data, report, rfl, written, endpoints, _, channels, _⟩ := status rfl rfl
  have upper : published.context.directory.channels.names = ["TTY"] := by decide +kernel
  rw [upper] at channels
  exact ⟨data, report, after, answered, written, endpoints, channels⟩

/-- Arguments are parts, so an `echo` of them is answered without the sentinel. -/
theorem sentinel_iff_arguments :
    Command.ofText "AT = ( 7, \"echo\", 5 )" = .ok ⟨7, "echo", [.int 5], none, none⟩ ∧
      (answerIn boundScope {} ⟨7, "echo", [.int 5], none, none⟩).body.parts ≠ [] := by
  have read : Command.ofText "AT = ( 7, \"echo\", 5 )" = .ok ⟨7, "echo", [.int 5], none, none⟩ := by
    decide +kernel
  refine ⟨read, fun empty => ?_⟩
  have unargued := ((sentinel_iff read boundScope none ({} : Network Unit)).2.1.mp empty).2
  exact absurd unargued (by decide)

/-- A command that is read, and whose answer is the sentinel. -/
theorem sentinel_bare_echo :
    Command.ofText "AT = ( 1, \"echo\" )" = .ok ⟨1, "echo", [], none, none⟩ ∧
      (answerIn boundScope {} ⟨1, "echo", [], none, none⟩).body.parts = [] ∧
      ((handle boundScope .operations
          ⟨.sendCommand ⟨1, "echo", [], none, none⟩, none⟩).run Network.perform
            ({} : Network Unit)).1.answer =
        some (.ofPayload (.sendText ⟨"IH = ( 1, 200, \"BUG: empty answer\" )", none⟩)) :=
  ⟨by decide +kernel, rfl, by decide⟩

end AgentBus
