import AgentBus.Files.Disk
import AgentBus.Proofs.Bus.NameTable

/-!
# A disk returns what was written

A disk is `Sound` if every node that it mentions is there. Making a directory and writing a file
keep it sound, and a path that could be walked before is walked to the same node afterwards
(`Disk.Extends`). So a file that was written is read back as it was written (`Disk.read_of_write`).
-/

namespace AgentBus.Disk

variable {disk changed : Disk} {workdir : NodeId} {path : Path}

/-- Every node that the disk mentions is there, and so is the working directory. -/
structure Sound (disk : Disk) (workdir : NodeId) : Prop where
  root : root < disk.nodes.size
  workdir : workdir < disk.nodes.size
  parent {id parent entries} :
    disk.node? id = some (.directory parent entries) → parent < disk.nodes.size
  entry {id parent entries name child} :
    disk.node? id = some (.directory parent entries) → (name, child) ∈ entries →
      child < disk.nodes.size

theorem sound_empty : ({} : Disk).Sound Disk.root := by
  have single {id : NodeId} {node : Node} (here : ({} : Disk).node? id = some node) :
      node = .directory 0 [] := by
    obtain ⟨inside, rfl⟩ := Array.getElem?_eq_some_iff.1 here
    obtain rfl : id = 0 := Nat.lt_one_iff.1 inside
    rfl
  refine ⟨by decide, by decide, fun here => ?_, fun here member => ?_⟩
  · cases single here
    decide
  · cases single here
    contradiction

/-! ## Walking -/

theorem Sound.step (sound : disk.Sound workdir) {id next : NodeId} {piece : String}
    (inside : id < disk.nodes.size) (stepped : disk.step id piece = .ok next) :
    next < disk.nodes.size := by
  unfold Disk.step at stepped
  split at stepped
  · contradiction
  · contradiction
  · next parent entries here =>
    split at stepped
    · cases stepped
      exact inside
    split at stepped
    · cases stepped
      exact sound.parent here
    split at stepped
    · contradiction
    split at stepped
    · contradiction
    · next found =>
      cases stepped
      exact sound.entry here (NameTable.mem_of_find? found)

theorem Sound.foldlM_step (sound : disk.Sound workdir) {id next : NodeId} {pieces : List String}
    (inside : id < disk.nodes.size) (walked : pieces.foldlM disk.step id = .ok next) :
    next < disk.nodes.size := by
  induction pieces generalizing id with
  | nil =>
    cases walked
    exact inside
  | cons piece rest ih =>
    rw [List.foldlM_cons] at walked
    cases stepped : disk.step id piece with
    | error error =>
      rw [stepped] at walked
      contradiction
    | ok middle =>
      rw [stepped] at walked
      exact ih (sound.step inside stepped) walked

theorem Sound.walk (sound : disk.Sound workdir) {pieces : List String} {next : NodeId}
    (walked : disk.walk workdir path pieces = .ok next) : next < disk.nodes.size := by
  unfold Disk.walk at walked
  split at walked
  · contradiction
  · apply sound.foldlM_step _ walked
    split
    · exact sound.root
    · exact sound.workdir

/-- Every step that can be gone on the one disk leads to the same node on the other. -/
def Extends (disk changed : Disk) : Prop :=
  ∀ (id next : NodeId) (piece : String),
    disk.step id piece = .ok next → changed.step id piece = .ok next

theorem Extends.foldlM_step (more : disk.Extends changed) {id next : NodeId}
    {pieces : List String} (walked : pieces.foldlM disk.step id = .ok next) :
    pieces.foldlM changed.step id = .ok next := by
  induction pieces generalizing id with
  | nil => exact walked
  | cons piece rest ih =>
    rw [List.foldlM_cons] at walked ⊢
    cases stepped : disk.step id piece with
    | error error =>
      rw [stepped] at walked
      contradiction
    | ok middle =>
      rw [stepped] at walked
      rw [more _ _ _ stepped]
      exact ih walked

theorem Extends.walk (more : disk.Extends changed) {pieces : List String} {next : NodeId}
    (walked : disk.walk workdir path pieces = .ok next) :
    changed.walk workdir path pieces = .ok next := by
  unfold Disk.walk at walked ⊢
  split at walked
  · contradiction
  · exact more.foldlM_step walked

/-! ## Changes -/

theorem node?_set {id other : NodeId} {node : Node} (inside : id < disk.nodes.size) :
    node? { nodes := disk.nodes.setIfInBounds id node } other =
      if id = other then some node else disk.node? other := by
  unfold node?
  rw [Array.getElem?_setIfInBounds]
  split
  · next same =>
    subst same
    simp
  · rfl

theorem node?_add {dir id parent : NodeId} {entries : NameTable NodeId} {name : String}
    {node : Node} (here : disk.node? dir = some (.directory parent entries)) :
    (disk.add dir name node).node? id =
      if id = disk.nodes.size then some node
      else if dir = id then some (.directory parent (entries.insert name disk.nodes.size))
      else disk.node? id := by
  have inside : dir < disk.nodes.size := (Array.getElem?_eq_some_iff.1 here).1
  unfold add
  simp only [here]
  unfold node?
  rw [Array.getElem?_push, Array.size_setIfInBounds]
  split
  · rfl
  · exact node?_set inside

/-- The file under a name is replaced. -/
theorem extends_set {id : NodeId} {old new : String} {age newAge : Nat}
    (here : disk.node? id = some (.file old age)) :
    disk.Extends { nodes := disk.nodes.setIfInBounds id (.file new newAge) } := by
  intro start next piece stepped
  have inside : id < disk.nodes.size := (Array.getElem?_eq_some_iff.1 here).1
  have other : id ≠ start := by
    rintro rfl
    rw [step, here] at stepped
    contradiction
  rw [step, node?_set inside, if_neg other]
  exact stepped

/-- What is missing behind a walk is a name that a directory could hold. -/
theorem Sound.missing (sound : disk.Sound workdir) {pieces : List String} {dir : NodeId}
    {name : String} (walked : disk.walk workdir path pieces = .ok dir)
    (missing : disk.step dir name = .error .notFound) :
    ∃ parent entries, disk.node? dir = some (.directory parent entries) ∧
      entries.find? name = none ∧
      ¬(name = "" ∨ name = ".") ∧ name ≠ ".." ∧ ¬maxNameBytes < name.utf8ByteSize := by
  cases here : disk.node? dir with
  | none => exact absurd (sound.walk walked) (Nat.not_lt.2 (Array.getElem?_eq_none_iff.1 here))
  | some node =>
    cases node with
    | file content age =>
      simp [Disk.step, here] at missing
    | directory parent entries =>
      simp only [Disk.step, here] at missing
      refine ⟨parent, entries, rfl, ?_⟩
      grind

theorem extends_add {dir parent : NodeId} {entries : NameTable NodeId} {name : String} {node : Node}
    (here : disk.node? dir = some (.directory parent entries))
    (missing : entries.find? name = none) : disk.Extends (disk.add dir name node) := by
  intro start next piece stepped
  -- No step starts at the node that is added
  have old : start ≠ disk.nodes.size := by
    rintro rfl
    have nothing : disk.node? disk.nodes.size = none := Array.getElem?_eq_none (Nat.le_refl _)
    rw [step, nothing] at stepped
    contradiction
  by_cases same : dir = start
  · subst same
    simp only [step, here] at stepped
    simp only [step, node?_add here, if_neg old, if_pos]
    by_cases new : piece = name
    · -- A name that is missing could not be gone to
      subst new
      rw [missing] at stepped
      grind
    · rw [NameTable.find?_insert_of_ne new]
      exact stepped
  · rw [step, node?_add here, if_neg old, if_neg same]
    exact stepped

theorem size_add {dir parent : NodeId} {entries : NameTable NodeId}
    (here : disk.node? dir = some (.directory parent entries)) (name : String) (node : Node) :
    (disk.add dir name node).nodes.size = disk.nodes.size + 1 := by
  unfold add
  simp only [here]
  rw [Array.size_push, Array.size_setIfInBounds]

theorem Sound.addDirectory (sound : disk.Sound workdir) {dir parent : NodeId}
    {entries : NameTable NodeId} (here : disk.node? dir = some (.directory parent entries))
    (name : String) : (disk.add dir name (.directory dir [])).Sound workdir := by
  have inside : dir < disk.nodes.size := (Array.getElem?_eq_some_iff.1 here).1
  have size := size_add here name (.directory dir [])
  refine ⟨?_, ?_, ?_, ?_⟩
  · exact size ▸ Nat.lt_succ_of_lt sound.root
  · exact size ▸ Nat.lt_succ_of_lt sound.workdir
  · -- The new directory is the parent of nothing, and a child of the one it was made in
    intro id above listed found
    rw [node?_add here] at found
    rw [size]
    split at found
    · cases found
      exact Nat.lt_succ_of_lt inside
    split at found
    · cases found
      exact Nat.lt_succ_of_lt (sound.parent here)
    · exact Nat.lt_succ_of_lt (sound.parent found)
  · intro id above listed entry child found member
    rw [node?_add here] at found
    rw [size]
    split at found
    · cases found
      contradiction
    split at found
    · cases found
      rcases NameTable.mem_insert member with new | old
      · cases new
        exact Nat.lt_succ_self _
      · exact Nat.lt_succ_of_lt (sound.entry here old)
    · exact Nat.lt_succ_of_lt (sound.entry found member)

theorem Sound.makeDir (sound : disk.Sound workdir)
    (made : disk.makeDir workdir path = .ok changed) : changed.Sound workdir := by
  unfold Disk.makeDir at made
  cases walked : disk.walk workdir path path.parting.1 with
  | error error => simp [walked] at made
  | ok dir =>
    simp only [walked] at made
    split at made
    · contradiction
    · next missing =>
      cases made
      obtain ⟨parent, entries, here, _⟩ := sound.missing walked missing
      exact sound.addDirectory here _
    · contradiction

/-! ## Reading -/

theorem parting_of_pieces {before : List String} {name : String} (proper : name ≠ "")
    (pieces : path.pieces = before ++ [name]) : path.parting = (before, name) := by
  simp [Path.parting, pieces, proper]

/-- What leads to a name in the directory of a path. -/
theorem follow_of_walk {before : List String} {name : String} {dir : NodeId}
    (pieces : path.pieces = before ++ [name]) (walked : disk.walk workdir path before = .ok dir) :
    disk.follow workdir path = disk.step dir name := by
  unfold follow walk at *
  split at walked
  · contradiction
  · rw [pieces, List.foldlM_append, walked]
    exact bind_pure (disk.step dir name)

theorem read_of_follow {id : NodeId} {content : String} {age : Nat}
    (followed : disk.follow workdir path = .ok id)
    (here : disk.node? id = some (.file content age)) :
    disk.read workdir path = .ok (some content) := by
  have found : disk.at? workdir path = some (.file content age) := by
    rw [at?, followed]
    exact here
  rw [Disk.read, found]

/-- A file that was written by its name is read back as it was written. -/
theorem read_of_write (sound : disk.Sound workdir) {before : List String} {name : String}
    (proper : name ≠ "") (pieces : path.pieces = before ++ [name]) {content : String} {age : Nat}
    (written : disk.write workdir path content age = .ok changed) :
    changed.read workdir path = .ok (some content) := by
  unfold Disk.write at written
  rw [parting_of_pieces proper pieces] at written
  cases walked : disk.walk workdir path before with
  | error error => simp [walked] at written
  | ok dir =>
    simp only [walked] at written
    split at written
    · next missing =>
      -- The file is new, and its directory has its name now
      cases written
      obtain ⟨parent, entries, here, free, noDot, noDots, short⟩ := sound.missing walked missing
      have inside : dir ≠ disk.nodes.size := Nat.ne_of_lt (sound.walk walked)
      have more : disk.Extends (disk.add dir name (.file content age)) := extends_add here free
      have stepped : (disk.add dir name (.file content age)).step dir name =
          .ok disk.nodes.size := by
        rw [step, node?_add here, if_neg inside, if_pos rfl]
        simp only [if_neg noDot, if_neg noDots, if_neg short, NameTable.find?_insert_self]
      have followed := (follow_of_walk pieces (more.walk walked)).trans stepped
      exact read_of_follow followed ((node?_add here).trans (if_pos rfl))
    · contradiction
    · next id stepped =>
      -- The file was there, and its node holds the new content now
      split at written
      · next old oldAge here =>
        cases written
        have inside : id < disk.nodes.size := (Array.getElem?_eq_some_iff.1 here).1
        have more : disk.Extends { nodes := disk.nodes.setIfInBounds id (.file content age) } :=
          extends_set here
        have followed :=
          (follow_of_walk pieces (more.walk walked)).trans (more _ _ _ stepped)
        exact read_of_follow followed ((node?_set inside).trans (if_pos rfl))
      · contradiction

end AgentBus.Disk
