import AgentBus.Protocol.Frame
import AgentBus.Protocol.SourceTag
import AgentBus.Settings.Read

/-!
# Commands

A command is a line `AT = ( id, "operation", argument, … )`. `Command.ofText` accepts a line by
seven rules and reports the first one that is broken as a `Rejection`.
-/

namespace AgentBus

/-- How large a line and its parts may be. -/
structure Limits where
  maxTextLength : UInt64 := 120
  maxOperationLength : UInt64 := 10
  maxSourceLength : UInt64 := 64
  deriving DecidableEq

/-- Why a line is no command, in the order in which the rules are tested. -/
inductive Rejection where
  | tooLong (length limit : Nat)
  | malformed (error : Malformed)
  | settingCount (found : Nat)
  | keyword (found : String)
  | notAList
  | tooFewElements (found : Nat)
  | invalidId
  | invalidOperation (limit : Nat)
  | invalidSource (limit : Nat)
  deriving DecidableEq

/-- The wording of each rejection. -/
def Rejection.message : Rejection → String
  | .tooLong length limit =>
    "text is " ++ toString length ++ " bytes long, limit is " ++ toString limit
  | .malformed error =>
    "syntax error at offset " ++ toString error.offset ++ ": " ++ error.fault.message
  | .settingCount found =>
    "expected exactly one top-level setting, found " ++ toString found
  | .keyword found => "unexpected keyword '" ++ found ++ "'"
  | .notAList => "command value is not a list"
  | .tooFewElements found =>
    "command list has " ++ toString found ++ " element(s), at least 2 are required"
  | .invalidId => "command id must be an integer >= 1"
  | .invalidOperation limit => "operation must be a string of 1 to " ++ toString limit ++ " bytes"
  | .invalidSource limit => "source tag must be 1 to " ++ toString limit ++ " bytes"

/-- A request: its id, operation and arguments, where it came from, and the answer begun for it. -/
structure Command where
  id : UInt32
  operation : String
  arguments : List Arg
  source : Option SourceTag := none
  pending : Option Answer := none
  deriving DecidableEq

namespace Command

/-- The keyword of every command. -/
def keyword : String := "AT"

/-- The id given by the first element of a command's list: a narrow integer from one upwards. -/
def id? : Arg → Option UInt32
  | .int value => if 1 ≤ value.toInt then some value.toUInt32 else none
  | _ => none

/-- The operation given by the second element: a string of 1 to `limit` bytes. -/
def operation? (limit : Nat) : Arg → Option String
  | .str text => if 1 ≤ text.utf8ByteSize ∧ text.utf8ByteSize ≤ limit then some text else none
  | _ => none

/-- The tag of the source, if one is given. -/
def sourceTag (source : Option String) (limits : Limits) : Except Rejection (Option SourceTag) :=
  match source with
  | none => .ok none
  | some text =>
    match SourceTag.ofText? text limits.maxSourceLength.toNat with
    | some tag => .ok (some tag)
    | none => .error (.invalidSource limits.maxSourceLength.toNat)

/-- The command of a list of elements. -/
def ofElements (elements : List Arg) (source : Option String) (limits : Limits) :
    Except Rejection Command :=
  match elements with
  | first :: second :: arguments =>
    match id? first with
    | none => .error .invalidId
    | some id =>
      match operation? limits.maxOperationLength.toNat second with
      | none => .error (.invalidOperation limits.maxOperationLength.toNat)
      | some operation =>
        (sourceTag source limits).map fun source => { id, operation, arguments, source }
  | few => .error (.tooFewElements few.length)

/-- The command of a line within the limits, tagged with its source. -/
def ofText (text : String) (source : Option String := none) (limits : Limits := {}) :
    Except Rejection Command :=
  if limits.maxTextLength.toNat < text.utf8ByteSize then
    .error (.tooLong text.utf8ByteSize limits.maxTextLength.toNat)
  else
    match Settings.read text with
    | .error error => .error (.malformed error)
    | .ok [setting] =>
      if setting.name ≠ keyword then .error (.keyword setting.name)
      else
        match setting.value with
        | .scalar _ => .error .notAList
        | .list elements => ofElements elements source limits
    | .ok settings => .error (.settingCount settings.length)

/-! ## Arguments -/

/-- The argument at a position from one upwards; position zero is the operation and is no
argument. -/
def argument? (command : Command) (position : Nat) : Option Arg :=
  match position with
  | 0 => none
  | index + 1 => command.arguments[index]?

/-! ## The pending answer -/

/-- The pending answer, or a new one. -/
def answer (command : Command) : Answer :=
  command.pending.getD ⟨command.id, {}⟩

/-- Begins an answer unless there is one already. -/
def touch (command : Command) : Command :=
  { command with pending := some command.answer }

/-- Changes the pending answer, which is begun if there is none. -/
def updateAnswer (command : Command) (change : FrameBody → FrameBody) : Command :=
  let answer := command.answer
  { command with pending := some { answer with body := change answer.body } }

/-- The command without its pending answer. -/
def withoutAnswer (command : Command) : Command :=
  { command with pending := none }

/-! ## Equality -/

/-- Equality of commands, with float arguments compared as numbers. -/
def same (x y : Command) : Bool :=
  x.id = y.id && x.operation = y.operation && x.arguments.length = y.arguments.length &&
    (x.arguments.zip y.arguments).all (fun (a, b) => a.same b) &&
    x.source = y.source && x.pending = y.pending

end Command

end AgentBus
