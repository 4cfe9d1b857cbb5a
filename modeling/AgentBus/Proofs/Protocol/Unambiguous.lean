import AgentBus.Proofs.Protocol.RoundTrip

/-!
# Frames are unambiguous

Two frames have the same line only if they agree in kind, id, status and content, with one
exception: a text frame with the single part `DATA` looks like a data frame without any data.

A line is taken apart from left to right. Each piece is known by its end: an id and a status by the
comma behind them, a quoted text by its closing quote, a list of texts by the parenthesis that comes
where a comma would be.

* `quote_append_eq_iff` — a quoted text is told from what follows it.
* `listed_eq_iff` — a list of quoted texts holds just these texts.
* `content_eq_iff` — what two frames carry behind their statuses.
* `render_eq_render_iff` — the lines of any two frames.
-/

namespace AgentBus

open Settings

/-- A line that leaves the agent. -/
inductive Frame where
  | answer (reply : Answer)
  | event (notice : Event)

namespace Frame

def kind : Frame → FrameKind
  | .answer _ => .answer
  | .event _ => .event

def id : Frame → Nat
  | .answer reply => reply.id.toNat
  | .event notice => notice.id.toNat

def body : Frame → FrameBody
  | .answer reply => reply.body
  | .event notice => notice.body

def render : Frame → String
  | .answer reply => reply.render
  | .event notice => notice.render

/-- The parts of a frame, or the one sentinel of its kind if it has none. -/
def parts : Frame → List String
  | .answer reply => reply.body.partsOr "BUG: empty answer"
  | .event notice => notice.body.partsOr "BUG: empty event"

theorem renderedParts_body (frame : Frame) : frame.body.renderedParts frame.kind = frame.parts := by
  cases frame with
  | answer reply => exact renderedParts_eq reply.body .answer
  | event notice => exact renderedParts_eq notice.body .event

theorem render_eq (frame : Frame) : frame.render = frame.body.render frame.kind frame.id := by
  cases frame with
  | answer => rfl
  | event => rfl

end Frame

/-! ## Quoted texts -/

/-- The text of a quoted string is read behind its opening quote. -/
theorem readString_quote (start : List Char) (text : String) (rest : List Char) :
    readString start (((quote text).toList ++ rest).drop 1) = .ok (text.toList, rest) := by
  have written := readString_of_writtenText (writtenText_quote text.toList) start rest
  rw [quote, String.toList_ofList]
  simpa using written

theorem quote_append_eq_iff {text other : String} {rest more : List Char} :
    (quote text).toList ++ rest = (quote other).toList ++ more ↔ text = other ∧ rest = more := by
  constructor
  · intro same
    have read := readString_quote [] text rest
    rw [same, readString_quote [] other more] at read
    simp only [Except.ok.injEq, Prod.mk.injEq, String.toList_inj] at read
    exact ⟨read.1.symm, read.2.symm⟩
  · rintro ⟨rfl, rfl⟩
    rfl

/-- The quoted texts of a list up to the parenthesis that closes it. -/
def listed (texts : List String) : List Char :=
  (", ".intercalate (texts.map quote)).toList ++ [' ', ')']

theorem listed_singleton (text : String) :
    listed [text] = (quote text).toList ++ [' ', ')'] := by
  rw [listed, List.map_singleton, String.intercalate_singleton]

theorem listed_cons (text next : String) (texts : List String) :
    listed (text :: next :: texts) =
      (quote text).toList ++ ',' :: ' ' :: listed (next :: texts) := by
  rw [listed, List.map_cons, List.map_cons, String.intercalate_cons_cons]
  simp only [String.toList_append, List.append_assoc]
  rfl

theorem listed_eq_iff {text other : String} {texts others : List String} :
    listed (text :: texts) = listed (other :: others) ↔ text :: texts = other :: others := by
  induction texts generalizing text other others with
  | nil =>
    cases others with
    | nil =>
      rw [listed_singleton, listed_singleton, quote_append_eq_iff]
      simp
    | cons next others => simp [listed_singleton, listed_cons, quote_append_eq_iff]
  | cons next texts ih =>
    cases others with
    | nil => simp [listed_singleton, listed_cons, quote_append_eq_iff]
    | cons next' others =>
      rw [listed_cons, listed_cons, quote_append_eq_iff, List.cons_inj_right, List.cons_inj_right,
        ih, List.cons.injEq text]

/-! ## Content -/

/-- What a frame carries behind its status. -/
def FrameBody.content (body : FrameBody) (kind : FrameKind) : List Char :=
  if body.isData then
    (quote dataMarker).toList ++ ' ' :: ')' :: (String.join (body.renderedParts kind)).toList
  else listed (body.renderedParts kind)

/-- A list of texts looks like raw data only if it is the marker alone, and there are no data. -/
theorem listed_eq_data_iff {text : String} {texts : List String} {data : List Char} :
    listed (text :: texts) = (quote dataMarker).toList ++ ' ' :: ')' :: data ↔
      text :: texts = [dataMarker] ∧ data = [] := by
  cases texts with
  | nil => simp [listed_singleton, quote_append_eq_iff, eq_comm]
  | cons next texts => simp [listed_cons, quote_append_eq_iff]

/-- A text frame and a data frame with the same content: the text is the marker alone, and there are
no data. -/
def Frame.Imitates (text data : Frame) : Prop :=
  text.body.isData = false ∧ data.body.isData = true ∧ text.parts = ["DATA"] ∧
    String.join data.parts = ""

/-- Both frames are texts with the same parts, or both are the same data however they are divided,
or one of them imitates the other. -/
def Frame.SameContent (x y : Frame) : Prop :=
  (x.body.isData = false ∧ y.body.isData = false ∧ x.parts = y.parts) ∨
    (x.body.isData = true ∧ y.body.isData = true ∧ String.join x.parts = String.join y.parts) ∨
      x.Imitates y ∨ y.Imitates x

namespace Frame

theorem exists_parts (frame : Frame) : ∃ first others, frame.parts = first :: others := by
  rw [← frame.renderedParts_body]
  exact List.exists_cons_of_ne_nil (renderedParts_ne_nil frame.body frame.kind)

theorem content_of_text {frame : Frame} (text : frame.body.isData = false) :
    frame.body.content frame.kind = listed frame.parts := by
  rw [FrameBody.content, text, frame.renderedParts_body]
  rfl

theorem content_of_data {frame : Frame} (data : frame.body.isData = true) :
    frame.body.content frame.kind =
      (quote dataMarker).toList ++ ' ' :: ')' :: (String.join frame.parts).toList := by
  rw [FrameBody.content, data, frame.renderedParts_body]
  rfl

theorem content_eq_iff_imitates {text data : Frame} (isText : text.body.isData = false)
    (isData : data.body.isData = true) :
    text.body.content text.kind = data.body.content data.kind ↔ text.Imitates data := by
  obtain ⟨first, others, parts⟩ := text.exists_parts
  have noData : (String.join data.parts).toList = [] ↔ String.join data.parts = "" := by
    rw [← String.toList_inj, String.toList_empty]
  rw [content_of_text isText, content_of_data isData, parts, listed_eq_data_iff, noData, Imitates,
    parts]
  simp only [isText, isData, true_and]
  rfl

theorem content_eq_iff (x y : Frame) :
    x.body.content x.kind = y.body.content y.kind ↔ x.SameContent y := by
  unfold SameContent
  cases xData : x.body.isData with
  | false =>
    cases yData : y.body.isData with
    | false =>
      obtain ⟨text, texts, xParts⟩ := x.exists_parts
      obtain ⟨other, others, yParts⟩ := y.exists_parts
      rw [content_of_text xData, content_of_text yData, xParts, yParts, listed_eq_iff]
      simp [Imitates, xData, yData]
    | true =>
      rw [content_eq_iff_imitates xData yData]
      simp [Imitates, xData, yData]
  | true =>
    cases yData : y.body.isData with
    | false =>
      rw [eq_comm, content_eq_iff_imitates yData xData]
      simp [Imitates, xData, yData]
    | true =>
      rw [content_of_data xData, content_of_data yData, quote_append_eq_iff, List.cons_inj_right,
        List.cons_inj_right, String.toList_inj]
      simp [Imitates, xData, yData]

end Frame

/-! ## The line -/

theorem nat_append_eq_iff {n m : Nat} {rest more : List Char} :
    (toString n).toList ++ ',' :: rest = (toString m).toList ++ ',' :: more ↔
      n = m ∧ rest = more := by
  have digits (n : Nat) (rest : List Char) :
      ((toString n).toList ++ ',' :: rest).takeWhile Char.isDigit = Nat.toDigits 10 n := by
    rw [toList_toString_nat]
    exact takeWhile_run (allDigits_toDigits n) rfl
  constructor
  · intro same
    have sameDigits : Nat.toDigits 10 n = Nat.toDigits 10 m := by
      rw [← digits n rest, same, digits m more]
    obtain rfl : n = m := by
      rw [← decimalValue_toDigits n, sameDigits, decimalValue_toDigits]
    simpa using same
  · rintro ⟨rfl, rfl⟩
    rfl

theorem status_append_eq_iff {status other : Status} {rest more : List Char} :
    status.text.toList ++ ',' :: rest = other.text.toList ++ ',' :: more ↔
      status = other ∧ rest = more := by
  have ends (rest : List Char) : Ends (',' :: rest) := rfl
  constructor
  · intro same
    have read := readNumber_of_form (numberForm_status status) (ends rest)
    rw [same, readNumber_of_form (numberForm_status other) (ends more)] at read
    simp only [Except.ok.injEq, Prod.mk.injEq, Arg.int.injEq, List.cons.injEq, true_and] at read
    exact ⟨congrArg Status.mk read.1.symm, read.2.symm⟩
  · rintro ⟨rfl, rfl⟩
    rfl

theorem keyword_append_eq_iff {kind other : FrameKind} {rest more : List Char} :
    kind.keyword.toList ++ rest = other.keyword.toList ++ more ↔ kind = other ∧ rest = more := by
  cases kind with
  | answer => cases other <;> simp [FrameKind.keyword]
  | event => cases other <;> simp [FrameKind.keyword]

theorem toList_render_content (body : FrameBody) (kind : FrameKind) (id : Nat) :
    (body.render kind id).toList =
      kind.keyword.toList ++ (' ' :: '=' :: ' ' :: '(' :: ' ' :: ((toString id).toList ++
        (',' :: ' ' :: (body.status.text.toList ++ (',' :: ' ' :: body.content kind))))) := by
  unfold FrameBody.render FrameBody.content listed
  cases body.isData with
  | false =>
    simp only [Bool.false_eq_true, if_false, String.toList_append, List.append_assoc]
    rfl
  | true =>
    simp only [if_true, String.toList_append, List.append_assoc]
    rfl

/-- The line of a frame tells its kind, its id, its status and its content. -/
theorem render_eq_render_iff (x y : Frame) :
    x.render = y.render ↔
      x.kind = y.kind ∧ x.id = y.id ∧ x.body.status = y.body.status ∧ x.SameContent y := by
  rw [← x.content_eq_iff y, x.render_eq, y.render_eq, ← String.toList_inj, toList_render_content,
    toList_render_content, keyword_append_eq_iff]
  simp only [List.cons_inj_right, nat_append_eq_iff, status_append_eq_iff]

example : Answer.render ⟨7, ⟨.ok, ["DATA"], false⟩⟩ = Answer.render ⟨7, ⟨.ok, ["", ""], true⟩⟩ := by
  decide

end AgentBus
