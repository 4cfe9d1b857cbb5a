import AgentBus.Proofs.Core.Answers
import AgentBus.Proofs.Protocol.Rules

/-!
# Source tags that are made again

The tag of an address on a channel is cut at the first equals sign, and whatever the address holds,
that is the one behind the channel (`SourceTag.channel_ofChannel?`). The text of a tag is plain, so
a tag that is made of it again is the same one (`SourceTag.ofText?_raw`), and a message that carries
it makes the core send messages that carry it too (`source_of_responses`).
-/

namespace AgentBus

/-! ## Upper case -/

namespace Text

theorem toUpper_cases (c : Char) :
    c.toUpper = c ∨ 65 ≤ c.toUpper.toNat ∧ c.toUpper.toNat ≤ 90 := by
  unfold Char.toUpper
  split
  · next lower =>
    have low : 97 ≤ c.toNat := UInt32.le_iff_toNat_le.mp lower.1
    have high : c.toNat ≤ 122 := UInt32.le_iff_toNat_le.mp lower.2
    refine .inr ?_
    simp only [Char.toNat, UInt32.toNat_add, UInt32.toNat_sub]
    simp
    omega
  · exact .inl rfl

theorem toUpper_of_capital {c : Char} (capital : 65 ≤ c.toNat ∧ c.toNat ≤ 90) :
    c.toUpper = c := by
  refine dif_neg fun lower => ?_
  have low : 97 ≤ c.toNat := UInt32.le_iff_toNat_le.mp lower.1
  omega

theorem toUpper_toUpper (text : String) : text.toUpper.toUpper = text.toUpper := by
  have twice (c : Char) : c.toUpper.toUpper = c.toUpper := by
    rcases toUpper_cases c with same | capital
    · rw [same, same]
    · exact toUpper_of_capital capital
  rw [String.toUpper, String.toUpper, String.map_map]
  exact congrArg (String.map · text) (funext twice)

/-- The characters from the space to the tilde. -/
def isPrintable (c : Char) : Bool :=
  0x20 ≤ c.toNat && c.toNat < 0x7f

theorem isPrintable_of_mem_toUpper {text : String} (printable : text.toList.all isPrintable = true)
    {c : Char} (member : c ∈ text.toUpper.toList) : isPrintable c = true := by
  rw [String.toUpper, String.toList_map] at member
  obtain ⟨original, among, rfl⟩ := List.mem_map.mp member
  rcases toUpper_cases original with same | capital
  · rw [same]
    exact List.all_eq_true.mp printable original among
  · simp only [isPrintable, Bool.and_eq_true, decide_eq_true_eq]
    omega

end Text

/-! ## Folded texts -/

namespace SourceTag

open Text (isControl)

theorem fold_append (first second : String) :
    fold (first ++ second) = fold first ++ fold second := by
  simp only [fold, String.toList_append, List.filter_append, List.map_append, String.ofList_append]

/-- A character of a folded text is plain. -/
theorem plain_of_mem_fold {text : String} {c : Char} (member : c ∈ (fold text).toList) :
    c.toNat < 0x80 ∧ isControl c = false := by
  rw [toList_fold] at member
  obtain ⟨original, kept, rfl⟩ := List.mem_map.mp member
  have visible : isControl original = false := by simpa using (List.mem_filter.mp kept).2
  unfold foldChar
  split
  · next ascii => exact ⟨ascii, visible⟩
  · decide

theorem fold_of_plain {text : String}
    (plain : ∀ c ∈ text.toList, c.toNat < 0x80 ∧ isControl c = false) : fold text = text := by
  have kept : (text.toList.filter fun c => !isControl c) = text.toList :=
    List.filter_eq_self.mpr fun c member => by simp [(plain c member).2]
  have same : text.toList.map foldChar = text.toList := by
    have each : ∀ c ∈ text.toList, foldChar c = c := fun c member => if_pos (plain c member).1
    exact (List.map_congr_left each).trans (List.map_id _)
  rw [fold, kept, same, String.ofList_toList]

theorem fold_of_printable {text : String}
    (printable : ∀ c ∈ text.toList, Text.isPrintable c = true) : fold text = text := by
  refine fold_of_plain fun c member => ?_
  have within := printable c member
  simp only [Text.isPrintable, Bool.and_eq_true, decide_eq_true_eq] at within
  simp only [isControl, Bool.or_eq_false_iff, Bool.and_eq_false_iff, decide_eq_false_iff_not]
  omega

theorem fold_fold (text : String) : fold (fold text) = fold text :=
  fold_of_plain fun _ member => plain_of_mem_fold member

/-- A tag that is made of the text of a tag is that tag. -/
theorem ofText?_raw {text : String} {limit : Nat} {tag : SourceTag}
    (made : ofText? text limit = some tag) : ofText? tag.raw limit = some tag := by
  rw [ofText?_eq] at made ⊢
  split at made
  · next within =>
    obtain rfl := Option.some.inj made
    rw [fold_fold, if_pos within]
  · contradiction

/-! ## Channels and addresses -/

/-- No character becomes an equals sign. -/
theorem equals_mem_fold_iff {text : String} : '=' ∈ (fold text).toList ↔ '=' ∈ text.toList := by
  rw [toList_fold, List.mem_map]
  constructor
  · rintro ⟨c, kept, folded⟩
    unfold foldChar at folded
    split at folded
    · exact folded ▸ (List.mem_filter.mp kept).1
    · contradiction
  · intro member
    exact ⟨'=', List.mem_filter.mpr ⟨member, by decide⟩, by decide⟩

variable {name peer : String} {limit : Nat} {tag : SourceTag}

theorem raw_ofChannel? (made : ofChannel? name peer limit = some tag) :
    tag.raw = fold name ++ "=" ++ fold peer := by
  rw [ofChannel?, ofText?_eq] at made
  split at made
  · obtain rfl := Option.some.inj made
    have separator : fold "=" = "=" := by decide +kernel
    rw [fold_append, fold_append, separator]
  · contradiction

theorem ofChannel?_eq_none_iff : ofChannel? name peer limit = none ↔
    limit < (fold name ++ "=" ++ fold peer).length := by
  have separator : fold "=" = "=" := by decide +kernel
  have filled : fold name ++ "=" ++ fold peer ≠ "" := by
    intro empty
    have characters := congrArg String.toList empty
    simp at characters
  rw [ofChannel?, ofText?_eq, fold_append, fold_append, separator]
  simp [filled]

section Plain

variable (made : ofChannel? name peer limit = some tag) (plain : '=' ∉ name.toList)
include made plain

/-- The equals sign behind the channel is the first one in a tag. -/
theorem toList_raw : tag.raw.toList = (fold name).toList ++ '=' :: (fold peer).toList ∧
    ∀ c ∈ (fold name).toList, decide (c ≠ '=') = true := by
  constructor
  · rw [raw_ofChannel? made, String.toList_append, String.toList_append, List.append_assoc]
    rfl
  · rintro c member
    refine decide_eq_true ?_
    rintro rfl
    exact plain (equals_mem_fold_iff.mp member)

theorem channel_ofChannel? : tag.channel = fold name := by
  obtain ⟨split, before⟩ := toList_raw made plain
  rw [channel, split, List.takeWhile_append_of_pos before, List.takeWhile_cons_of_neg (by simp),
    List.append_nil, String.ofList_toList]

theorem address_ofChannel? : tag.address = fold peer := by
  obtain ⟨split, before⟩ := toList_raw made plain
  rw [address, split, List.dropWhile_append_of_pos before, List.dropWhile_cons_of_neg (by simp),
    List.drop_one, List.tail_cons, String.ofList_toList]

end Plain

end SourceTag

/-! ## Tags on their way through the core -/

open CoreHandler

/-- The text of the tag that a message carries. -/
def Payload.source? : Payload → Option String
  | .recvText text | .sendText text | .transportText text => text.source
  | .sendCommand command => command.source.map SourceTag.raw
  | .event _ | .exit => none

/-- The tag of a command that was read is made of its own text again. -/
theorem ofText?_source {text : String} {source : Option String} {limits : Limits}
    {command : Command} (read : Command.ofText text source limits = .ok command) {tag : SourceTag}
    (tagged : command.source = some tag) :
    SourceTag.ofText? tag.raw limits.maxSourceLength.toNat = some tag := by
  have made := (sourceTag_of_ofText read).2
  rw [tagged] at made
  unfold Command.sourceTag at made
  split at made
  · exact nomatch made
  · split at made
    · next found =>
      obtain rfl := Option.some.inj (Except.ok.inj made)
      exact SourceTag.ofText?_raw found
    · exact nomatch made

/-- Whatever the core sends for a message carries the same tag. -/
theorem source_of_responses {ω : Type} {net : Network ω} {own : EndpointId} {message : Message}
    {raw : String} (plain : SourceTag.fold raw = raw) (has : message.payload.source? = some raw)
    {transfer : Transfer} (member : transfer ∈ responses net own message) :
    transfer.message.payload.source? = some raw := by
  obtain ⟨payload, route⟩ := message
  cases payload with
  | recvText line =>
    simp only [responses, ingressSends] at member
    cases read : commandOf net.context.limits line with
    | error rejection => simp [read] at member
    | ok command =>
      rw [read] at member
      obtain rfl := List.mem_singleton.mp member
      have source : line.source = some raw := has
      exact (of_ofText read).2.trans (by rw [source, Option.map_some, plain])
  | sendCommand command =>
    simp only [responses, answerSends] at member
    split at member
    · contradiction
    split at member
    · obtain rfl := List.mem_singleton.mp member
      exact has
    · contradiction
  | sendText text =>
    simp only [responses, routerSends] at member
    split at member
    · contradiction
    · obtain rfl := List.mem_singleton.mp member
      exact has
  | event text | exit => simp [Payload.source?] at has
  | transportText text => exact absurd member List.not_mem_nil

end AgentBus
