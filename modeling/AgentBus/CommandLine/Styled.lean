/-!
# Styled texts

What the program says is made of spans, each with what sets it off on a terminal. `Styled.text` is
the text that is sent in the end, with colours or without.
-/

namespace AgentBus.CommandLine

/-- A way to set a span off. -/
inductive Mark where
  | bold
  | underlined
  | red
  | green
  | yellow
  | cyan
  deriving DecidableEq

/-- The number by which a terminal knows a mark. -/
def Mark.number : Mark → Nat
  | .bold => 1
  | .underlined => 4
  | .red => 31
  | .green => 32
  | .yellow => 33
  | .cyan => 36

/-- The sequence that begins a mark. -/
def Mark.opening (mark : Mark) : String :=
  "\x1b[" ++ toString mark.number ++ "m"

/-- The sequence that ends all marks. -/
def endOfMarks : String := "\x1b[0m"

/-- A text with marks, in the order in which they begin. -/
structure Span where
  text : String
  marks : List Mark := []
  deriving DecidableEq

/-- The text of a span between the sequences for its marks. -/
def Span.painted (span : Span) : String :=
  if span.marks = [] then span.text
  else String.join (span.marks.map Mark.opening) ++ span.text ++ endOfMarks

/-- A text in spans. -/
abbrev Styled := List Span

instance : Coe String Styled := ⟨fun text => [{ text }]⟩

/-- A text with marks. -/
def marked (marks : List Mark) (text : String) : Styled := [{ text, marks }]

/-- The text in which spans are sent. -/
def Styled.text (colours : Bool) (styled : Styled) : String :=
  String.join (styled.map fun span => if colours then span.painted else span.text)

/-- A text of several lines. -/
def unlines (lines : List Styled) : Styled :=
  lines.flatMap fun line => line ++ "\n"

/-- Texts with something between them. -/
def separated (between : Styled) : List Styled → Styled
  | [] => []
  | first :: others => first ++ others.flatMap fun other => between ++ other

/-! ## Whether to use colours -/

/-- What a variable of the environment is set to. -/
def valueOf? (environment : List (String × String)) (name : String) : Option String :=
  (environment.find? fun entry => entry.1 = name).map Prod.snd

/-- Whether an environment asks for colours: a variable is there for it, and is not zero. -/
def wantsColours (environment : List (String × String)) : Bool :=
  (valueOf? environment "CLICOLOR_FORCE").any fun value => value ≠ "0"

/-- Whether an environment asks for colours in what is said about the arguments: there any text in
the variable asks for them, zero included, unless another variable holds a text that refuses. -/
def wantsUsageColours (environment : List (String × String)) : Bool :=
  let holdsText (name : String) : Bool := (valueOf? environment name).any fun value => value ≠ ""
  holdsText "CLICOLOR_FORCE" && !holdsText "NO_COLOR"

end AgentBus.CommandLine
