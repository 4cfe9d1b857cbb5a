import AgentBus.Proofs.Files.Disk
import Mathlib.Algebra.Group.Nat.Defs
import Mathlib.Data.List.Nodup

/-!
# What the removal of old log files takes

The turn of an entry takes nothing but that entry, since no two entries of a directory have one
name. So the loop takes what goes and leaves the others in their order, wherever they stand.

The names decide by how they begin, so that a file is taken for a log file if its name goes on from
`stem` in any way. On a disk the removal changes one directory and no other node
(`Disk.node?_cleanLogs`).

Main statement: `Logs.cleanUp_removes_expired`.
-/

namespace AgentBus.Logs

variable {days : UInt64} {canRemove : Entry → Bool}

/-! ## The names and the ages -/

theorem isLogName_iff {name : EntryName} :
    isLogName name = true ↔ ∃ rest, name = .text (stem ++ rest) := by
  cases name with
  | bytes name => simp [isLogName]
  | text name =>
    rw [isLogName, List.isPrefixOf_iff_prefix]
    constructor
    · rintro ⟨rest, spelled⟩
      refine ⟨String.ofList rest, congrArg EntryName.text ?_⟩
      rw [← String.toList_inj, String.toList_append, String.toList_ofList, spelled]
    · rintro ⟨rest, named⟩
      cases named
      exact ⟨rest.toList, String.toList_append.symm⟩

theorem isExpired_iff {entry : Entry} :
    isExpired days entry = true ↔
      entry.isFile = true ∧ (∃ rest, entry.name = .text (stem ++ rest)) ∧
        ∃ age, entry.age = some age ∧
          min (days.toNat * 86400) (2 ^ 64 - 1) * 10 ^ 9 < age := by
  simp only [isExpired, Bool.and_eq_true, isLogName_iff, and_assoc, Option.any_eq_true,
    decide_eq_true_eq]
  rfl

/-! ## The loop -/

/-- The turn of an entry takes that entry, and none that came before it or comes behind it. -/
theorem visit_of_goes {entry : Entry} {kept rest : List Entry} {removed : Nat}
    (distinct : ((kept ++ entry :: rest).map Entry.name).Nodup)
    (gone : goes days canRemove entry = true) :
    Cleanup.visit days canRemove { removed, left := kept ++ entry :: rest } entry =
      { removed := removed + 1, left := kept ++ rest } := by
  rw [List.map_append, List.map_cons, List.nodup_middle, List.nodup_cons, ← List.map_append]
    at distinct
  have others : ∀ other ∈ kept ++ rest, other.name ≠ entry.name := fun other member same =>
    distinct.1 (same ▸ List.mem_map_of_mem member)
  have passed : (kept ++ rest).filter (fun other => other.name ≠ entry.name) = kept ++ rest :=
    List.filter_eq_self.2 fun other member => decide_eq_true (others other member)
  rw [Cleanup.visit, if_pos gone]
  simpa [List.filter_append] using passed

theorem visit_of_not_goes {entry : Entry} {cleanup : Cleanup}
    (stays : ¬ goes days canRemove entry = true) :
    Cleanup.visit days canRemove cleanup entry = cleanup :=
  if_neg stays

/-- The induction is on the entries that the loop has not come to; those that it has passed by are
among what is kept. -/
theorem foldl_visit {entries kept : List Entry} {removed : Nat}
    (distinct : ((kept ++ entries).map Entry.name).Nodup) :
    entries.foldl (Cleanup.visit days canRemove) { removed, left := kept ++ entries } =
      { removed := removed + (entries.filter (goes days canRemove)).length
        left := kept ++ entries.filter fun entry => !goes days canRemove entry } := by
  induction entries generalizing kept removed with
  | nil => simp
  | cons entry rest ih =>
    rw [List.foldl_cons]
    by_cases gone : goes days canRemove entry = true
    · have fewer : ((kept ++ rest).map Entry.name).Nodup :=
        distinct.sublist (((List.sublist_cons_self entry rest).append_left kept).map _)
      rw [visit_of_goes distinct gone, ih fewer, List.filter_cons_of_pos gone,
        List.filter_cons_of_neg (by simp [gone]), List.length_cons]
      congr 1
      omega
    · have shifted : kept ++ entry :: rest = (kept ++ [entry]) ++ rest := by simp
      rw [shifted] at distinct ⊢
      rw [visit_of_not_goes gone, ih distinct, List.filter_cons_of_neg gone,
        List.filter_cons_of_pos (by simp [gone]), List.append_assoc]
      rfl

theorem cleanUp_eq_filter {entries : List Entry} (distinct : (entries.map Entry.name).Nodup) :
    cleanUp days canRemove entries =
      { removed := (entries.filter (goes days canRemove)).length
        left := entries.filter fun entry => !goes days canRemove entry } := by
  have named : (([] ++ entries).map Entry.name).Nodup := distinct
  have run : cleanUp days canRemove entries = { removed := 0 + _, left := [] ++ _ } :=
    foldl_visit named
  rwa [Nat.zero_add] at run

/-- An entry of a directory is removed if it is a file whose name begins like those of the log
files, if its age exceeds the retention time, which is exact up to the most seconds that are
counted, and if it can be removed. No other entry is. Those that are removed are counted, and the
others are left in their order. -/
theorem cleanUp_removes_expired (days : UInt64) (canRemove : Entry → Bool) {entries : List Entry}
    (distinct : (entries.map Entry.name).Nodup) :
    (∀ entry ∈ entries, entry ∉ (cleanUp days canRemove entries).left ↔
      (entry.isFile = true ∧ (∃ rest, entry.name = .text (stem ++ rest)) ∧
        ∃ age, entry.age = some age ∧
          min (days.toNat * 86400) (2 ^ 64 - 1) * 10 ^ 9 < age) ∧
      canRemove entry = true) ∧
    (cleanUp days canRemove entries).left.Sublist entries ∧
    (cleanUp days canRemove entries).removed + (cleanUp days canRemove entries).left.length =
      entries.length := by
  rw [cleanUp_eq_filter distinct]
  refine ⟨fun entry member => ?_, List.filter_sublist, ?_⟩
  · rw [← isExpired_iff, ← Bool.and_eq_true, ← goes]
    simp [member]
  · exact (List.length_eq_length_filter_add _).symm

theorem cleanUp_removes_expired_week :
    let old : Entry := { name := .text "agh.log.2026-01-01", age := some (8 * 86400 * 10 ^ 9) }
    let other : Entry := { name := .text "other.txt", age := some (8 * 86400 * 10 ^ 9) }
    ([old, other].map Entry.name).Nodup ∧
      old ∉ (cleanUp 7 (fun _ => true) [old, other]).left ∧
      other ∈ (cleanUp 7 (fun _ => true) [old, other]).left := by
  intro old other
  have distinct : ([old, other].map Entry.name).Nodup := by decide
  obtain ⟨taken, -, -⟩ := cleanUp_removes_expired 7 (fun _ => true) distinct
  refine ⟨distinct, ?_, ?_⟩
  · rw [taken old (by simp)]
    exact ⟨⟨rfl, ⟨".2026-01-01", by decide⟩, 8 * 86400 * 10 ^ 9, rfl, by decide⟩, rfl⟩
  · refine not_not.1 fun gone => ?_
    obtain ⟨⟨-, named, -⟩, -⟩ := (taken other (by simp)).1 gone
    exact absurd (isLogName_iff.2 named) (by decide)

/-- A file that is not the log file of any date, and that is removed as an old one. -/
theorem cleanUp_takes_foreign_file :
    let foreign : Entry := { name := .text "agh.logistics.csv", age := some (30 * 86400 * 10 ^ 9) }
    (∀ date, foreign.name ≠ .text (fileName date)) ∧
      cleanUp 7 (fun _ => true) [foreign] = { removed := 1, left := [] } := by
  intro foreign
  refine ⟨fun date same => ?_, by decide⟩
  have spelled := congrArg String.toList (EntryName.text.inj same)
  rw [fileName, String.toList_append, String.toList_append] at spelled
  simp [stem] at spelled

end AgentBus.Logs

/-! ## On a disk -/

namespace AgentBus.Disk

theorem logEntry_name (disk : Disk) (entry : String × NodeId) :
    (disk.logEntry entry).name = .text entry.1 := by
  unfold logEntry
  split <;> rfl

/-- The directory keeps what has not expired, and every other node stays what it is. -/
theorem node?_cleanLogs {disk : Disk} {dir parent : NodeId} {entries : NameTable NodeId}
    (here : disk.node? dir = some (.directory parent entries)) (distinct : entries.names.Nodup)
    (days : UInt64) (id : NodeId) :
    (disk.cleanLogs dir days).node? id =
      if dir = id then
        some (.directory parent
          (entries.filter fun entry => !Logs.isExpired days (disk.logEntry entry)))
      else disk.node? id := by
  have inside : dir < disk.nodes.size := (Array.getElem?_eq_some_iff.1 here).1
  have named : ((entries.map disk.logEntry).map Logs.Entry.name).Nodup := by
    have names : (entries.map disk.logEntry).map Logs.Entry.name =
        entries.names.map Logs.EntryName.text := by
      simp [NameTable.names, logEntry_name]
    rw [names]
    exact distinct.map fun _ _ => Logs.EntryName.text.inj
  have kept : entries.filter (fun entry =>
        (Logs.cleanUp days (fun _ => true) (entries.map disk.logEntry)).left.contains
          (disk.logEntry entry)) =
      entries.filter fun entry => !Logs.isExpired days (disk.logEntry entry) := by
    rw [Logs.cleanUp_eq_filter named]
    refine List.filter_congr fun entry member => ?_
    rw [Bool.eq_iff_iff, List.contains_iff_mem, List.mem_filter]
    simp [Logs.goes, List.mem_map_of_mem member]
  unfold cleanLogs
  simp only [here, kept]
  exact node?_set inside

end AgentBus.Disk
