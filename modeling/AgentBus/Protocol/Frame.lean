import AgentBus.Text.Basic

/-!
# Frames

A frame is one line of the protocol that leaves the agent:

    KEYWORD = ( id, status, "part", … )
    KEYWORD = ( id, status, "DATA" )data

* `quote` writes a text as a string of the settings language, on one line whatever it holds.
* `Frame.render` writes a frame; a frame without parts carries the sentinel of its kind instead.
* `Answer` and `Event` are the two kinds of frames.
-/

namespace AgentBus

/-! ## Quoting -/

/-- Two hexadecimal digits, lower case. -/
def twoHexDigits (n : Nat) : List Char :=
  [Nat.digitChar (n / 16), Nat.digitChar (n % 16)]

/-- How one character stands in a quoted string. -/
def quoteChar (c : Char) : List Char :=
  if c = '"' then ['\\', '"']
  else if c = '\\' then ['\\', '\\']
  else if c = '\n' then ['\\', 'n']
  else if c = '\r' then ['\\', 'r']
  else if c = '\t' then ['\\', 't']
  else if c = '\x0c' then ['\\', 'f']
  else if Text.isControl c then '\\' :: 'x' :: twoHexDigits c.toNat
  else [c]

/-- The text as a string of the settings language. -/
def quote (text : String) : String :=
  String.ofList ('"' :: (text.toList.flatMap quoteChar ++ ['"']))

/-! ## Status codes -/

/-- The outcome that an answer or event reports. -/
structure Status where
  code : Int32
  deriving DecidableEq

namespace Status

def ok : Status := ⟨200⟩

/-- Not decided yet, or an operation that nobody knows. -/
def unknown : Status := ⟨380⟩

def isOk (status : Status) : Bool :=
  status = ok

def text (status : Status) : String :=
  toString status.code.toInt

end Status

/-! ## Frames -/

/-- The kind of a frame: its keyword, and what stands in for missing parts. -/
inductive FrameKind where
  | answer
  | event
  deriving DecidableEq

namespace FrameKind

def keyword : FrameKind → String
  | .answer => "IH"
  | .event => "EVENT"

def sentinel : FrameKind → String
  | .answer => "BUG: empty answer"
  | .event => "BUG: empty event"

end FrameKind

/-- Announces raw data behind the closing parenthesis. -/
def dataMarker : String := "DATA"

/-- The content of a frame: its status, its text parts in order, and whether they are raw data. -/
structure FrameBody where
  status : Status := .unknown
  parts : List String := []
  isData : Bool := false
  deriving DecidableEq

namespace FrameBody

def setStatus (body : FrameBody) (status : Status) : FrameBody :=
  { body with status }

/-- Appends a text part. -/
def addText (body : FrameBody) (text : String) : FrameBody :=
  { body with parts := body.parts ++ [text] }

def setData (body : FrameBody) (isData : Bool) : FrameBody :=
  { body with isData }

/-- The parts that are rendered: the sentinel if there are none. -/
def renderedParts (body : FrameBody) (kind : FrameKind) : List String :=
  if body.parts.isEmpty then [kind.sentinel] else body.parts

/-- The line of a frame. -/
def render (body : FrameBody) (kind : FrameKind) (id : Nat) : String :=
  let head := kind.keyword ++ " = ( " ++ toString id ++ ", " ++ body.status.text ++ ", "
  let parts := body.renderedParts kind
  if body.isData then head ++ quote dataMarker ++ " )" ++ String.join parts
  else head ++ ", ".intercalate (parts.map quote) ++ " )"

end FrameBody

/-! ## Answers and events -/

/-- The reply to a command, under the command's id. -/
structure Answer where
  id : UInt32
  body : FrameBody := {}
  deriving DecidableEq

def Answer.render (answer : Answer) : String :=
  answer.body.render .answer answer.id.toNat

/-- A notification that no command asked for; its first part is the event's name. -/
structure Event where
  id : UInt64
  body : FrameBody := {}
  deriving DecidableEq

def Event.render (event : Event) : String :=
  event.body.render .event event.id.toNat

/-- The source of event ids: they are handed out in order, from one. -/
structure EventIds where
  next : UInt64 := 1
  deriving DecidableEq

/-- A new event, and the ids that are left. -/
def EventIds.prepare (ids : EventIds) : Event × EventIds :=
  (⟨ids.next, {}⟩, ⟨ids.next + 1⟩)

end AgentBus
