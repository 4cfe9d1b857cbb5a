import Mathlib.Algebra.Group.Int.Defs
import Mathlib.Algebra.Group.Nat.Defs
import AgentBus.Protocol.Command
import AgentBus.Proofs.Settings.Spelling

/-!
# The rules for commands

A line is a command if it keeps nine rules, and otherwise the first rule that it breaks is reported,
whatever other rules it breaks as well.

* `Folded` — what is left of a text in a source tag;
* `Rule.Kept` — what each rule asks of a line, said by the grammar of settings;
* `FirstBroken` — the first of some rules that a line breaks;
* `Rule.Reports` — the rejection by which a broken rule is reported;
* `WrittenIn` — what a command has from its line;
* `ofText_iff` — `Command.ofText` accepts and rejects by these rules.

The proof goes through the tests of the reader one by one (`Verdict.kept`, `Verdict.broken`).
-/

namespace AgentBus

open Settings

/-! ## Tags -/

/-- What is left of a text in a source tag: controls are taken out, the other characters of ASCII
stay, and all others become question marks. -/
inductive Folded : List Char → List Char → Prop where
  | nil : Folded [] []
  | control {c : Char} {cs ds : List Char} :
      c.toNat < 0x20 ∨ 0x7f ≤ c.toNat ∧ c.toNat < 0xa0 → Folded cs ds → Folded (c :: cs) ds
  | plain {c : Char} {cs ds : List Char} :
      0x20 ≤ c.toNat ∧ c.toNat < 0x7f → Folded cs ds → Folded (c :: cs) (c :: ds)
  | other {c : Char} {cs ds : List Char} :
      0xa0 ≤ c.toNat → Folded cs ds → Folded (c :: cs) ('?' :: ds)

theorem Folded.unique {cs ds ds' : List Char} (folded : Folded cs ds) (folded' : Folded cs ds') :
    ds = ds' := by
  induction folded generalizing ds' with
  | nil =>
    cases folded' with
    | nil => rfl
  | control isControl _ ih =>
    cases folded' with
    | control _ rest => exact ih rest
    | plain | other => omega
  | plain isPlain _ ih =>
    cases folded' with
    | plain _ rest => rw [ih rest]
    | control | other => omega
  | other isOther _ ih =>
    cases folded' with
    | other _ rest => rw [ih rest]
    | control | plain => omega

namespace SourceTag

open Text (isControl)

theorem toList_fold (text : String) :
    (fold text).toList = (text.toList.filter fun c => !isControl c).map foldChar :=
  String.toList_ofList

theorem folded_fold (text : String) : Folded text.toList (fold text).toList := by
  rw [toList_fold]
  induction text.toList with
  | nil => exact .nil
  | cons c cs ih =>
    cases control : isControl c with
    | true =>
      rw [List.filter_cons_of_neg (by simp [control])]
      simp only [isControl, Bool.or_eq_true, Bool.and_eq_true, decide_eq_true_eq] at control
      exact .control control ih
    | false =>
      rw [List.filter_cons_of_pos (by simp [control]), List.map_cons, foldChar]
      simp only [isControl, Bool.or_eq_false_iff, Bool.and_eq_false_iff, decide_eq_false_iff_not]
        at control
      split
      · exact .plain (by omega) ih
      · exact .other (by omega) ih

/-- A text leaves what it is folded to. -/
theorem folded_iff {text : String} {ds : List Char} :
    Folded text.toList ds ↔ ds = (fold text).toList :=
  ⟨fun folded => folded.unique (folded_fold text), fun same => same ▸ folded_fold text⟩

theorem ofText?_eq (raw : String) (limit : Nat) :
    ofText? raw limit =
      if fold raw ≠ "" ∧ (fold raw).length ≤ limit then some ⟨fold raw⟩ else none := by
  have empty : (fold raw).toList = [] ↔ fold raw = "" := by
    rw [← String.toList_inj, String.toList_empty]
  simp only [ofText?, empty]
  split
  · next unfit => rw [if_neg fun fits => unfit.elim fits.1 (Nat.not_lt.mpr fits.2)]
  · next fits =>
    rw [not_or, Nat.not_lt] at fits
    rw [if_pos fits]

end SourceTag

namespace Command

/-! ## Rules -/

/-- The rules for a line. -/
inductive Rule where
  | length
  | grammar
  | single
  | keyword
  | list
  | elements
  | id
  | operation
  | source
  deriving DecidableEq

/-- All rules, in the order in which they are tested. -/
def Rule.all : List Rule :=
  [.length, .grammar, .single, .keyword, .list, .elements, .id, .operation, .source]

/-- The first element of a list is written as an integer without a long suffix, from one up to the
largest of 32 bits. -/
def IdWritten (text : String) (value : Int) : Prop :=
  ∃ spelling, FirstElement text spelling ∧ IntegerForm spelling value ∧
    1 ≤ value ∧ value ≤ 2 ^ 31 - 1

section

variable (text : String) (source : Option String) (limits : Limits)

/-- What a rule asks of a line. A rule about a part of a line asks nothing if the line has no such
part, which is for an earlier rule to find. -/
def Rule.Kept : Rule → Prop
  | .length => text.utf8ByteSize ≤ limits.maxTextLength.toNat
  | .grammar => ∃ settings, IsSettings text settings
  | .single => ∀ settings, IsSettings text settings → settings.length = 1
  | .keyword => ∀ setting, IsSettings text [setting] → setting.name = "AT"
  | .list => ∀ setting, IsSettings text [setting] → ∃ elements, setting.value = .list elements
  | .elements => ∀ name elements, IsSettings text [⟨name, .list elements⟩] → 2 ≤ elements.length
  | .id => ∀ name first others, IsSettings text [⟨name, .list (first :: others)⟩] →
      ∃ value, IdWritten text value
  | .operation => ∀ name first second others,
      IsSettings text [⟨name, .list (first :: second :: others)⟩] →
        ∃ operation, second = .str operation ∧ 1 ≤ operation.utf8ByteSize ∧
          operation.utf8ByteSize ≤ limits.maxOperationLength.toNat
  | .source => ∀ raw, source = some raw → ∃ tag, Folded raw.toList tag ∧
      1 ≤ tag.length ∧ tag.length ≤ limits.maxSourceLength.toNat

/-- The first of some rules that a line breaks. -/
inductive FirstBroken : List Rule → Rule → Prop where
  | here {rule : Rule} {rules : List Rule} : ¬ rule.Kept text source limits →
      FirstBroken (rule :: rules) rule
  | later {rule first : Rule} {rules : List Rule} : rule.Kept text source limits →
      FirstBroken rules first → FirstBroken (rule :: rules) first

/-- The rejection by which a broken rule is reported. -/
inductive Rule.Reports : Rule → Rejection → Prop where
  | length : Reports .length (.tooLong text.utf8ByteSize limits.maxTextLength.toNat)
  | grammar {error : Malformed} : Settings.read text = .error error →
      Reports .grammar (.malformed error)
  | single {settings : List Setting} : IsSettings text settings →
      Reports .single (.settingCount settings.length)
  | keyword {setting : Setting} : IsSettings text [setting] →
      Reports .keyword (.keyword setting.name)
  | list : Reports .list .notAList
  | elements {name : String} {elements : List Arg} : IsSettings text [⟨name, .list elements⟩] →
      Reports .elements (.tooFewElements elements.length)
  | id : Reports .id .invalidId
  | operation : Reports .operation (.invalidOperation limits.maxOperationLength.toNat)
  | source : Reports .source (.invalidSource limits.maxSourceLength.toNat)

/-- What a command has from its line: the id, the operation and the arguments are the elements of
the list, and the tag is what is left of the source. -/
structure WrittenIn (command : Command) : Prop where
  id : IdWritten text command.id.toNat
  elements : ∃ first,
    IsSettings text [⟨"AT", .list (first :: .str command.operation :: command.arguments)⟩]
  source : Option.Rel (fun raw tag => Folded raw.toList tag.raw.toList) source command.source
  pending : command.pending = none

end

/-! ## Verdicts -/

section

variable {text : String} {source : Option String} {limits : Limits}

theorem FirstBroken.unique {rules : List Rule} {rule other : Rule}
    (first : FirstBroken text source limits rules rule)
    (firstOther : FirstBroken text source limits rules other) : rule = other := by
  induction first with
  | here broken =>
    cases firstOther with
    | here => rfl
    | later kept => exact absurd kept broken
  | later kept _ ih =>
    cases firstOther with
    | here broken => exact absurd kept broken
    | later _ firstOther => exact ih firstOther

theorem FirstBroken.not_kept {rules : List Rule} {rule : Rule}
    (first : FirstBroken text source limits rules rule) : ¬ rule.Kept text source limits := by
  induction first with
  | here broken => exact broken
  | later _ _ ih => exact ih

theorem Rule.Reports.unique {rule : Rule} {rejection other : Rejection}
    (reports : rule.Reports text limits rejection) (reportsOther : rule.Reports text limits other) :
    rejection = other := by
  cases reports with
  | grammar read =>
    cases reportsOther with
    | grammar readOther =>
      rw [read] at readOther
      rw [Except.error.inj readOther]
  | single isSettings =>
    cases reportsOther with
    | single isOthers => rw [isSettings.unique isOthers]
  | keyword isSettings =>
    cases reportsOther with
    | keyword isOthers => cases isSettings.unique isOthers; rfl
  | elements isSettings =>
    cases reportsOther with
    | elements isOthers => cases isSettings.unique isOthers; rfl
  | length | list | id | operation | source =>
    cases reportsOther
    rfl

/-- A result that is right by some rules: a command if they are all kept, and else the rejection of
the first one that is broken. -/
def Verdict (text : String) (source : Option String) (limits : Limits) (rules : List Rule) :
    Except Rejection Command → Prop
  | .ok command =>
    (∀ rule ∈ rules, rule.Kept text source limits) ∧ command.WrittenIn text source
  | .error rejection =>
    ∃ rule, FirstBroken text source limits rules rule ∧ rule.Reports text limits rejection

theorem Verdict.kept {rule : Rule} {rules : List Rule} {result : Except Rejection Command}
    (kept : rule.Kept text source limits) (verdict : Verdict text source limits rules result) :
    Verdict text source limits (rule :: rules) result := by
  cases result with
  | ok command => exact ⟨List.forall_mem_cons.mpr ⟨kept, verdict.1⟩, verdict.2⟩
  | error rejection =>
    obtain ⟨first, broken, reports⟩ := verdict
    exact ⟨first, .later kept broken, reports⟩

theorem Verdict.broken {rule : Rule} {rejection : Rejection}
    (broken : ¬ rule.Kept text source limits) (reports : rule.Reports text limits rejection)
    (rules : List Rule) : Verdict text source limits (rule :: rules) (.error rejection) :=
  ⟨rule, .here broken, reports⟩

/-! ## The id -/

theorem toInt_toInt32 {id : UInt32} (bound : id.toNat < 2 ^ 31) : id.toInt32.toInt = id.toNat := by
  have asBits : id.toBitVec.toInt =
      if 2 * id.toNat < 2 ^ 32 then (id.toNat : Int) else id.toNat - (2 ^ 32 : Nat) :=
    id.toBitVec.toInt_eq_toNat_cond
  rw [if_pos (by omega)] at asBits
  exact asBits

theorem toNat_toUInt32 {narrow : Int32} (positive : 1 ≤ narrow.toInt) :
    (narrow.toUInt32.toNat : Int) = narrow.toInt := by
  have asBits : narrow.toInt =
      if 2 * narrow.toUInt32.toNat < 2 ^ 32 then (narrow.toUInt32.toNat : Int)
      else narrow.toUInt32.toNat - (2 ^ 32 : Nat) :=
    narrow.toBitVec.toInt_eq_toNat_cond
  have bound : narrow.toUInt32.toNat < 2 ^ 32 := narrow.toUInt32.toNat_lt
  split at asBits
  · exact asBits.symm
  · omega

theorem id?_eq_some_iff {name : String} {first : Arg} {others : List Arg}
    (isSettings : IsSettings text [⟨name, .list (first :: others)⟩]) (id : UInt32) :
    id? first = some id ↔ IdWritten text id.toNat := by
  constructor
  · intro found
    unfold id? at found
    split at found
    · next narrow =>
      split at found
      · next positive =>
        obtain rfl := Option.some.inj found
        obtain ⟨spelling, isFirst, form⟩ := (int_iff_written isSettings positive).mp rfl
        have upper : narrow.toInt ≤ 2 ^ 31 - 1 := narrow.toInt_le
        rw [IdWritten, toNat_toUInt32 positive]
        exact ⟨spelling, isFirst, form, positive, upper⟩
      · contradiction
    · contradiction
  · rintro ⟨spelling, isFirst, form, positive, upper⟩
    have value : id.toInt32.toInt = id.toNat := toInt_toInt32 (by omega)
    rw [← value] at form positive
    rw [(int_iff_written isSettings positive).mpr ⟨spelling, isFirst, form⟩, id?, if_pos positive,
      UInt32.toUInt32_toInt32]

theorem not_idWritten {name : String} {first : Arg} {others : List Arg}
    (isSettings : IsSettings text [⟨name, .list (first :: others)⟩]) (noId : id? first = none)
    (value : Int) : ¬ IdWritten text value := by
  intro written
  have bounds : 1 ≤ value ∧ value ≤ 2 ^ 31 - 1 := written.choose_spec.2.2
  have small : value.toNat < UInt32.size := by
    simp only [UInt32.size]
    omega
  have same : ((UInt32.ofNat value.toNat).toNat : Int) = value := by
    rw [UInt32.toNat_ofNat_of_lt' small]
    omega
  rw [← same, ← id?_eq_some_iff isSettings, noId] at written
  cases written

/-! ## The tests one by one -/

theorem kept_source_iff (raw : String) :
    Rule.Kept text (some raw) limits .source ↔
      SourceTag.fold raw ≠ "" ∧ (SourceTag.fold raw).length ≤ limits.maxSourceLength.toNat := by
  have nonempty : 1 ≤ (SourceTag.fold raw).length ↔ SourceTag.fold raw ≠ "" := by
    rw [Nat.one_le_iff_ne_zero, ne_eq, String.length_eq_zero_iff]
  simp only [Rule.Kept, SourceTag.folded_iff, Option.some.injEq, forall_eq', exists_eq_left,
    String.length_toList, nonempty]

theorem source_unique {tag other : Option SourceTag}
    (left : Option.Rel (fun raw tag => Folded raw.toList tag.raw.toList) source tag)
    (leftOther : Option.Rel (fun raw tag => Folded raw.toList tag.raw.toList) source other) :
    tag = other := by
  cases left with
  | none =>
    cases leftOther with
    | none => rfl
  | @some raw tag folded =>
    cases leftOther with
    | @some _ other foldedOther =>
      have same : tag.raw = other.raw := String.toList_inj.mp (folded.unique foldedOther)
      exact congrArg (fun raw => some (SourceTag.mk raw)) same

theorem operation?_eq_some_iff {limit : Nat} {second : Arg} {operation : String} :
    operation? limit second = some operation ↔
      second = .str operation ∧ 1 ≤ operation.utf8ByteSize ∧ operation.utf8ByteSize ≤ limit := by
  unfold operation?
  split
  · next text =>
    split
    · next fits => simp; rintro rfl; exact fits
    · next unfit => simp; rintro rfl; simpa using unfit
  · next noString => simp; intro same; exact absurd same (noString operation)

theorem verdict_sourceTag (command : Command) (id : IdWritten text command.id.toNat)
    (elements : ∃ first, IsSettings text
      [⟨"AT", .list (first :: .str command.operation :: command.arguments)⟩])
    (fresh : command.pending = none) :
    Verdict text source limits [.source]
      ((sourceTag source limits).map fun tag => { command with source := tag }) := by
  have accepted (tag : Option SourceTag) (kept : Rule.Kept text source limits .source)
      (left : Option.Rel (fun raw tag => Folded raw.toList tag.raw.toList) source tag) :
      Verdict text source limits [.source] (.ok { command with source := tag }) :=
    .kept kept ⟨nofun, id, elements, left, fresh⟩
  cases source with
  | none => exact accepted none (fun _ => nofun) .none
  | some raw =>
    rw [sourceTag, SourceTag.ofText?_eq]
    split
    · next found =>
      split at found
      · next fits =>
        obtain rfl := Option.some.inj found
        exact accepted _ ((kept_source_iff raw).mpr fits) (.some (SourceTag.folded_fold raw))
      · contradiction
    · next found =>
      split at found
      · contradiction
      · next unfit =>
        have broken : ¬ Rule.Kept text (some raw) limits .source :=
          fun kept => unfit ((kept_source_iff raw).mp kept)
        exact .broken broken .source _

theorem verdict_ofElements {elements : List Arg}
    (isSettings : IsSettings text [⟨"AT", .list elements⟩]) :
    Verdict text source limits [.elements, .id, .operation, .source]
      (ofElements elements source limits) := by
  have known {name : String} {others : List Arg}
      (isOther : IsSettings text [⟨name, .list others⟩]) :
      others = elements := by
    cases isOther.unique isSettings
    rfl
  -- Each test that is passed keeps its rule, and the first that fails breaks it
  unfold ofElements
  split
  · next first second arguments =>
    have enough : Rule.Kept text source limits .elements := by
      intro name others isOther
      simp [known isOther]
    apply Verdict.kept enough
    split
    · next noId =>
      have broken : ¬ Rule.Kept text source limits .id := by
        intro kept
        obtain ⟨value, written⟩ := kept _ _ _ isSettings
        exact not_idWritten isSettings noId value written
      exact .broken broken .id _
    next id found =>
    have written := (id?_eq_some_iff isSettings id).mp found
    apply Verdict.kept (show Rule.Kept text source limits .id from fun _ _ _ _ => ⟨_, written⟩)
    split
    · next noOperation =>
      have broken : ¬ Rule.Kept text source limits .operation := by
        intro kept
        obtain ⟨operation, fits⟩ := kept _ _ _ _ isSettings
        rw [operation?_eq_some_iff.mpr fits] at noOperation
        cases noOperation
      exact .broken broken .operation _
    next operation found =>
    obtain ⟨rfl, fits⟩ := operation?_eq_some_iff.mp found
    have named : Rule.Kept text source limits .operation := by
      intro name first' second' others isOther
      cases known isOther
      exact ⟨operation, rfl, fits⟩
    apply Verdict.kept named
    exact verdict_sourceTag { id, operation, arguments } written ⟨first, isSettings⟩ rfl
  · next tooFew =>
    have broken : ¬ Rule.Kept text source limits .elements := by
      intro kept
      have enough : 2 ≤ elements.length := kept _ _ isSettings
      match elements with
      | [] | [_] => exact absurd enough (by simp)
      | first :: second :: arguments => exact tooFew first second arguments rfl
    exact .broken broken (.elements isSettings) _

theorem verdict_ofText (text : String) (source : Option String) (limits : Limits) :
    Verdict text source limits Rule.all (ofText text source limits) := by
  unfold ofText Rule.all
  split
  · next long =>
    have broken : ¬ Rule.Kept text source limits .length := Nat.not_le.mpr long
    exact .broken broken .length _
  next short =>
  apply Verdict.kept (show Rule.Kept text source limits .length from Nat.not_lt.mp short)
  split
  · next error failed =>
    have broken : ¬ Rule.Kept text source limits .grammar := by
      rintro ⟨settings, isSettings⟩
      simp [read_of_isSettings isSettings] at failed
    exact .broken broken (.grammar failed) _
  · next setting read =>
    -- All further rules are about this one setting
    have isSettings := (read_eq_ok_iff _ _).mp read
    have known {other : Setting} (isOther : IsSettings text [other]) : other = setting :=
      (List.cons.inj (isOther.unique isSettings)).1
    apply Verdict.kept (show Rule.Kept text source limits .grammar from ⟨_, isSettings⟩)
    have alone : Rule.Kept text source limits .single := by
      intro others isOthers
      rw [isOthers.unique isSettings]
      rfl
    apply Verdict.kept alone
    split
    · next noKeyword =>
      have broken : ¬ Rule.Kept text source limits .keyword :=
        fun kept => noKeyword (kept setting isSettings)
      exact .broken broken (.keyword isSettings) _
    next keyword =>
    have named : Rule.Kept text source limits .keyword :=
      fun other isOther => known isOther ▸ Classical.not_not.mp keyword
    apply Verdict.kept named
    split
    · next scalar isScalar =>
      have broken : ¬ Rule.Kept text source limits .list := by
        intro kept
        obtain ⟨elements, isList⟩ := kept setting isSettings
        rw [isScalar] at isList
        cases isList
      exact .broken broken .list _
    · next elements isList =>
      have listed : Rule.Kept text source limits .list :=
        fun other isOther => ⟨elements, known isOther ▸ isList⟩
      have isCommand : setting = ⟨"AT", .list elements⟩ := by
        rw [Setting.mk.injEq]
        exact ⟨Classical.not_not.mp keyword, isList⟩
      exact .kept listed (verdict_ofElements (isCommand ▸ isSettings))
  · next settings several read =>
    -- The text has the form of settings, but of none or several
    have isSettings := (read_eq_ok_iff _ _).mp read
    apply Verdict.kept (show Rule.Kept text source limits .grammar from ⟨_, isSettings⟩)
    have broken : ¬ Rule.Kept text source limits .single := by
      intro kept
      obtain ⟨setting, rfl⟩ := List.length_eq_one_iff.mp (kept settings isSettings)
      exact several setting rfl
    exact .broken broken (.single isSettings) _

/-- What a command has from its line is no less than the command. -/
theorem WrittenIn.unique {command other : Command} (written : command.WrittenIn text source)
    (writtenOther : other.WrittenIn text source) : command = other := by
  obtain ⟨first, isSettings⟩ := written.elements
  obtain ⟨firstOther, isOther⟩ := writtenOther.elements
  have same := isSettings.unique isOther
  simp only [List.cons.injEq, Setting.mk.injEq, SettingValue.list.injEq, Arg.str.injEq, true_and,
    and_true] at same
  obtain ⟨rfl, operation, arguments⟩ := same
  have id : some command.id = some other.id := by
    rw [← (id?_eq_some_iff isSettings _).mpr written.id,
      (id?_eq_some_iff isOther _).mpr writtenOther.id]
  have source := source_unique written.source writtenOther.source
  have pending := written.pending.trans writtenOther.pending.symm
  cases command
  cases other
  simp_all

/-- A line is a command if it keeps all rules, and then the command is what is written in it.
Otherwise the first rule that it breaks is reported. -/
theorem ofText_iff (text : String) (source : Option String) (limits : Limits) :
    ((∃ command, ofText text source limits = .ok command) ↔
      ∀ rule : Rule, rule.Kept text source limits) ∧
    (∀ command, ofText text source limits = .ok command ↔
      (∀ rule : Rule, rule.Kept text source limits) ∧ command.WrittenIn text source) ∧
    ∀ rejection, ofText text source limits = .error rejection ↔
      ∃ rule, FirstBroken text source limits Rule.all rule ∧
        rule.Reports text limits rejection := by
  have every (rule : Rule) : rule ∈ Rule.all := by cases rule <;> decide
  have verdict := verdict_ofText text source limits
  cases read : ofText text source limits with
  | ok command =>
    rw [read] at verdict
    obtain ⟨kept, written⟩ := verdict
    have keptAll (rule : Rule) := kept rule (every rule)
    refine ⟨⟨fun _ => keptAll, fun _ => ⟨command, rfl⟩⟩, fun other => ⟨?_, ?_⟩,
      fun rejection => ⟨nofun, ?_⟩⟩
    · rintro ⟨rfl⟩
      exact ⟨keptAll, written⟩
    · rintro ⟨_, writtenOther⟩
      rw [written.unique writtenOther]
    · rintro ⟨rule, first, _⟩
      exact absurd (keptAll rule) first.not_kept
  | error rejection =>
    rw [read] at verdict
    obtain ⟨rule, first, reports⟩ := verdict
    have broken := first.not_kept
    refine ⟨⟨nofun, fun kept => absurd (kept rule) broken⟩,
      fun command => ⟨nofun, fun accepted => absurd (accepted.1 rule) broken⟩,
      fun other => ⟨?_, ?_⟩⟩
    · rintro ⟨rfl⟩
      exact ⟨rule, first, reports⟩
    · rintro ⟨rule', first', reports'⟩
      obtain rfl := first.unique first'
      rw [reports.unique reports']

end

end Command

end AgentBus
