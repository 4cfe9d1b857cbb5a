import AgentBus.CommandLine.Outcome
import AgentBus.Proofs.Config.RoundTrip
import AgentBus.Proofs.Files.Disk

/-!
# Saving and loading a configuration

A configuration that was saved on a disk is loaded from there as it was saved, or refused for
exactly its own faults (`load_saved`). The directories that are made for it on the way keep the disk
sound, so the file is there behind them.
-/

namespace AgentBus.CommandLine

variable {workdir : NodeId}

/-! ## Making directories -/

/-- Something done with a disk that leaves it sound. -/
def KeepsSound (workdir : NodeId) {α : Type} (action : StateM Disk α) : Prop :=
  ∀ disk : Disk, disk.Sound workdir → (action.run disk).2.Sound workdir

theorem KeepsSound.pure {α : Type} (a : α) : KeepsSound workdir (Pure.pure a) :=
  fun _ sound => sound

theorem KeepsSound.bind {α β : Type} {action : StateM Disk α} {next : α → StateM Disk β}
    (first : KeepsSound workdir action) (later : ∀ a, KeepsSound workdir (next a)) :
    KeepsSound workdir (action >>= next) :=
  fun disk sound => later _ _ (first disk sound)

theorem run_attempt (change : Disk → Except FileError Disk) (disk : Disk) :
    (Disk.attempt change).run disk =
      match change disk with
      | .error error => (.error error, disk)
      | .ok changed => (.ok (), changed) := by
  show (match change disk with
    | .error error => _
    | .ok changed => _ : StateM Disk (Except FileError Unit)).run disk = _
  cases change disk with
  | error error => rfl
  | ok changed => rfl

theorem keepsSound_makeDir (path : Path) :
    KeepsSound workdir ((Disk.files workdir).makeDir path) := by
  intro disk sound
  show ((Disk.attempt fun disk => disk.makeDir workdir path).run disk).2.Sound workdir
  rw [run_attempt]
  cases made : disk.makeDir workdir path with
  | error error => exact sound
  | ok changed => exact sound.makeDir made

theorem keepsSound_isDirectory (path : Path) :
    KeepsSound workdir ((Disk.files workdir).isDirectory path) :=
  fun _ sound => sound

theorem keepsSound_ensureDir (path : Path) :
    KeepsSound workdir ((Disk.files workdir).ensureDir path) := by
  apply (keepsSound_makeDir path).bind
  intro result
  split
  · apply (keepsSound_isDirectory path).bind
    intro isDirectory
    cases isDirectory with
    | true => exact .pure _
    | false => exact .pure _
  · exact .pure _

theorem keepsSound_ensureNested (paths : List Path) :
    KeepsSound workdir ((Disk.files workdir).ensureNested paths) := by
  induction paths with
  | nil => exact .pure _
  | cons path above ih =>
    -- Where a directory above is missing, that is made first, and then this one is tried again
    apply (keepsSound_ensureDir path).bind
    intro result
    split
    · apply ih.bind
      intro result
      split
      · exact .pure _
      · exact keepsSound_ensureDir path
    · exact .pure _

theorem keepsSound_makeDirs (path : Path) :
    KeepsSound workdir ((Disk.files workdir).makeDirs path) := by
  unfold Files.makeDirs
  split
  · exact .pure _
  · exact keepsSound_ensureNested _

/-! ## Saving and loading -/

/-- The file of a directory is behind all pieces of the directory that count. -/
theorem pieces_join (dir : Path) (name : String) :
    ∃ before, (dir.join name).pieces = before ++ [name] := by
  unfold Path.join
  split
  · exact ⟨_, rfl⟩
  · exact ⟨_, rfl⟩

theorem run_bind_of_run {α β : Type} {action : StateM Disk α} {next : α → StateM Disk β}
    {disk after : Disk} {a : α} (done : action.run disk = (a, after)) :
    (action >>= next).run disk = (next a).run after := by
  rw [StateT.run_bind, done]
  rfl

/-- A save goes on to the file once the directories are made. -/
theorem run_save {dir : Path} {config : Config} {disk made : Disk} {result : Except FileError Unit}
    (dirs : ((Disk.files workdir).makeDirs dir).run disk = (result, made)) :
    (save (Disk.files workdir) dir config).run disk =
      match result with
      | .error error => (.error (.unreadable error.message), made)
      | .ok () =>
        match made.write workdir (dir.join configFileName) config.fileText 0 with
        | .error error => (.error (.unreadable error.message), made)
        | .ok saved => (.ok (), saved) := by
  rw [save, run_bind_of_run dirs]
  cases result with
  | error error => rfl
  | ok done =>
    cases writing : made.write workdir (dir.join configFileName) config.fileText 0 with
    | error error =>
      have write : ((Disk.files workdir).write (dir.join configFileName) config.fileText).run made =
          (.error error, made) := (run_attempt _ made).trans (by simp only [writing])
      exact run_bind_of_run write
    | ok saved =>
      have write : ((Disk.files workdir).write (dir.join configFileName) config.fileText).run made =
          (.ok (), saved) := (run_attempt _ made).trans (by simp only [writing])
      exact run_bind_of_run write

/-- A save succeeds if the directories can be made and then the file be written. -/
theorem run_save_eq_ok {dir : Path} {config : Config} {disk saved : Disk} :
    (save (Disk.files workdir) dir config).run disk = (.ok (), saved) ↔
      ∃ made, ((Disk.files workdir).makeDirs dir).run disk = (.ok (), made) ∧
        made.write workdir (dir.join configFileName) config.fileText 0 = .ok saved := by
  cases dirs : ((Disk.files workdir).makeDirs dir).run disk with
  | mk result made =>
    rw [run_save dirs]
    cases result with
    | error error => exact ⟨nofun, fun ⟨_, same, _⟩ => nomatch same⟩
    | ok done =>
      cases writing : made.write workdir (dir.join configFileName) config.fileText 0 with
      | error error =>
        refine ⟨nofun, ?_⟩
        rintro ⟨_, same, written⟩
        cases same
        exact nomatch writing.symm.trans written
      | ok written =>
        constructor
        · intro same
          cases same
          exact ⟨made, rfl, writing⟩
        · rintro ⟨_, same, again⟩
          cases same
          cases writing.symm.trans again
          rfl

/-- What a save leaves behind in the file of its directory. -/
theorem read_of_save {dir : Path} {config : Config} {disk saved : Disk}
    (sound : disk.Sound workdir)
    (done : (save (Disk.files workdir) dir config).run disk = (.ok (), saved)) :
    saved.read workdir (dir.join configFileName) = .ok (some config.fileText) := by
  -- The file is written behind directories that may just have been made
  have kept := keepsSound_makeDirs dir disk sound
  obtain ⟨before, pieces⟩ := pieces_join dir configFileName
  obtain ⟨made, dirs, writing⟩ := run_save_eq_ok.1 done
  rw [dirs] at kept
  exact Disk.read_of_write kept (by decide) pieces writing

/-- A saved configuration is loaded as it was saved if it is valid, and refused for its faults if it
is not. -/
theorem load_saved {dir : Path} {config : Config} {disk saved : Disk}
    (sound : disk.Sound workdir)
    (done : (save (Disk.files workdir) dir config).run disk = (.ok (), saved)) :
    (load (Disk.files workdir) dir []).run saved =
      (if config.isValid then .ok config else .error (.invalid config.faults), saved) := by
  have read := read_of_save sound done
  have loaded : (load (Disk.files workdir) dir []).run saved =
      (Config.load (configFileOf (saved.read workdir (dir.join configFileName))) [], saved) := rfl
  rw [loaded, read, configFileOf, Config.load_fileText, Config.validate]

/-- The default configuration, saved in a new directory on an empty disk. -/
theorem load_saved_default :
    ∃ saved : Disk,
      (save (Disk.files Disk.root) ⟨["conf"]⟩ {}).run ({} : Disk) = (.ok (), saved) ∧
        (load (Disk.files Disk.root) ⟨["conf"]⟩ []).run saved = (.ok {}, saved) := by
  have sound : ({} : Disk).Sound Disk.root := Disk.sound_empty
  have dirFits : Path.fault? ⟨["conf"]⟩ = none := by
    simp only [Path.fault?, String.contains_char_eq]
    decide
  have fileFits : Path.fault? ⟨["conf", "config.json"]⟩ = none := by
    simp only [Path.fault?, String.contains_char_eq]
    decide
  let made : Disk := ({} : Disk).add Disk.root "conf" (.directory Disk.root [])
  let saved := made.add 1 "config.json" (.file ({} : Config).fileText 0)
  have making : ({} : Disk).makeDir Disk.root ⟨["conf"]⟩ = .ok made := by
    simp only [Disk.makeDir, Disk.walk, dirFits]
    rfl
  have makingRun : ((Disk.files Disk.root).makeDir ⟨["conf"]⟩).run {} = (.ok (), made) := by
    refine (run_attempt _ _).trans ?_
    rw [making]
  have dirs : ((Disk.files Disk.root).makeDirs ⟨["conf"]⟩).run {} = (.ok (), made) := by
    have stages : Path.stages ⟨["conf"]⟩ = [⟨["conf"]⟩] := by decide
    rw [Files.makeDirs, stages]
    simp only [Files.ensureNested, Files.ensureDir, StateT.run_bind, makingRun]
    rfl
  have writing : made.write Disk.root ((Path.mk ["conf"]).join configFileName)
      ({} : Config).fileText 0 = .ok saved := by
    have file : (Path.mk ["conf"]).join configFileName = ⟨["conf", "config.json"]⟩ := by decide
    simp only [file, Disk.write, Disk.walk, fileFits]
    rfl
  have done : (save (Disk.files Disk.root) ⟨["conf"]⟩ {}).run ({} : Disk) = (.ok (), saved) :=
    run_save_eq_ok.2 ⟨made, dirs, writing⟩
  have valid : ({} : Config).isValid = true := by decide +kernel
  have loaded := load_saved sound done
  rw [if_pos valid] at loaded
  exact ⟨saved, done, loaded⟩

end AgentBus.CommandLine
