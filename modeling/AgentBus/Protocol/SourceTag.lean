import AgentBus.Text.Basic

/-!
# Source tags

A source tag `CHANNEL=address` says where a command came from. It is plain printable ASCII: control
characters are removed from the text it is made of, and other characters become question marks.
The channel is what stands before the first equals sign.
-/

namespace AgentBus

/-- Where a command came from. -/
structure SourceTag where
  raw : String
  deriving DecidableEq

namespace SourceTag

/-- The character in a tag for a character that is not a control. -/
def foldChar (c : Char) : Char :=
  if c.toNat < 0x80 then c else '?'

/-- The text of a tag: without controls, and with question marks for what is not ASCII. -/
def fold (text : String) : String :=
  String.ofList ((text.toList.filter fun c => !Text.isControl c).map foldChar)

/-- The tag made of a text, if it has 1 to `maxLength` characters. -/
def ofText? (text : String) (maxLength : Nat) : Option SourceTag :=
  let raw := fold text
  if raw.toList = [] ∨ maxLength < raw.length then none else some ⟨raw⟩

/-- The tag of an address on a channel. -/
def ofChannel? (channel address : String) (maxLength : Nat) : Option SourceTag :=
  ofText? (channel ++ "=" ++ address) maxLength

/-- The part before the first equals sign. -/
def channel (tag : SourceTag) : String :=
  String.ofList (tag.raw.toList.takeWhile (· ≠ '='))

/-- The part after the first equals sign, empty if there is none. -/
def address (tag : SourceTag) : String :=
  String.ofList ((tag.raw.toList.dropWhile (· ≠ '=')).drop 1)

end SourceTag

end AgentBus
