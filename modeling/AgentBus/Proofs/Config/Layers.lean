import AgentBus.Proofs.Config.EnvironmentOrder
import AgentBus.Proofs.Config.Leaves
import AgentBus.Proofs.Config.RoundTrip
import AgentBus.Proofs.Json.Overlay
import AgentBus.Proofs.Text.ByteOrder

/-!
# Where a setting comes from

The defaults, the file and the variables are put into one tree before any setting is read. As long
as the file keeps the sections, each leaf of a configuration comes from one layer alone: from the
greatest value that a variable gives it, else from the file, else from the defaults
(`Config.load_layers`).

The overrides are applied in ascending order. A leaf gets the value of every override at its path,
of which the last one is the greatest, and none of the others changes it, unless a value is an
object: that one stays there, and then nothing is loaded (`atPath?_foldl_apply`).
-/

namespace AgentBus

/-! ## The variables -/

namespace Environment

theorem bytes_le_of_overrideLe {path : List String} {raw other : String}
    (ascending : overrideLe (path, raw) (path, other) = true) :
    Text.bytes raw ≤ Text.bytes other := by
  have self : compare path path = .eq := Std.ReflCmp.compare_self
  rw [overrideLe] at ascending
  dsimp only at ascending
  rw [self] at ascending
  exact Text.bytes_le ((isLE_compareOfLessAndEq String.le_antisymm String.not_le
    String.le_total).1 ascending)

/-- The greatest value, by its bytes, that a variable gives the setting at the path. -/
structure Greatest (environment : List (String × String)) (path : List String) (raw : String) :
    Prop where
  given : Given environment path raw
  upper : ∀ other, Given environment path other → Text.bytes other ≤ Text.bytes raw

theorem Greatest.unique {environment other : List (String × String)} {path : List String}
    {raw second : String} (greatest : Greatest environment path raw)
    (alike : ∀ raw, Given environment path raw ↔ Given other path raw)
    (greatestToo : Greatest other path second) : raw = second := by
  have upward : Text.bytes raw ≤ Text.bytes second :=
    greatestToo.upper raw ((alike raw).1 greatest.given)
  have downward : Text.bytes second ≤ Text.bytes raw :=
    greatest.upper second ((alike second).2 greatestToo.given)
  exact Text.bytes_injective (List.le_antisymm upward downward)

/-- What the overrides leave at a path: the last value put there, else what was there. -/
inductive Remains (overrides : List (List String × String)) (path : List String) (old : Json) :
    Json → Prop where
  | last {raw : String} (given : (path, raw) ∈ overrides)
      (upper : ∀ other, (path, other) ∈ overrides → Text.bytes other ≤ Text.bytes raw) :
      Remains overrides path old (valueTree raw)
  | old (none : ∀ raw, (path, raw) ∉ overrides) : Remains overrides path old old

theorem Remains.cons {first : List String × String} {later : List (List String × String)}
    {path : List String} {old final : Json}
    (sorted : (first :: later).Pairwise (overrideLe · · = true))
    (remains : Remains later path (if first.1 = path then valueTree first.2 else old) final) :
    Remains (first :: later) path old final := by
  obtain ⟨place, raw⟩ := first
  rw [List.pairwise_cons] at sorted
  cases remains with
  | @last greatest given upper =>
    -- Another override of the path comes later, and so is no less than the first
    refine .last (List.mem_cons_of_mem _ given) fun other member => ?_
    rcases List.mem_cons.1 member with same | behind
    · cases same
      exact bytes_le_of_overrideLe (sorted.1 _ given)
    · exact upper other behind
  | old none =>
    split
    · next here =>
      cases here
      refine .last List.mem_cons_self fun other member => ?_
      rcases List.mem_cons.1 member with same | behind
      · cases same
        exact List.le_refl _
      · exact absurd behind (none other)
    · next elsewhere =>
      refine .old fun other member => ?_
      rcases List.mem_cons.1 member with same | behind
      · cases same
        exact elsewhere rfl
      · exact none other behind

/-- The overrides leave something at a path that leads somewhere. If it is not an object, then
nothing has ever been one there. -/
theorem atPath?_foldl_apply {overrides : List (List String × String)}
    (sorted : overrides.Pairwise (overrideLe · · = true)) {tree old : Json} {path : List String}
    (found : tree.atPath? path = some old) :
    ∃ final, (overrides.foldl apply tree).atPath? path = some final ∧
      (final.isObject = false → old.isObject = false ∧ Remains overrides path old final) := by
  induction overrides generalizing tree old with
  | nil => exact ⟨old, found, fun leaf => ⟨leaf, .old fun _ member => by cases member⟩⟩
  | cons first later ih =>
    have behind := (List.pairwise_cons.1 sorted).2
    rw [List.foldl_cons]
    cases inner : old.isObject with
    | true =>
      obtain ⟨next, there, still⟩ :=
        Json.isObject_overrideAt found inner first.1 (valueTree first.2)
      obtain ⟨final, reached, clean⟩ := ih behind there
      exact ⟨final, reached, fun leaf => by cases still.symm.trans (clean leaf).1⟩
    | false =>
      have there := Json.atPath?_overrideAt_of_leaf found inner first.1 (valueTree first.2)
      obtain ⟨final, reached, clean⟩ := ih behind there
      exact ⟨final, reached, fun leaf => ⟨rfl, (clean leaf).2.cons sorted⟩⟩

end Environment

open Environment (Given Greatest overrides valueTree)

/-! ## The file -/

/-- The tree of a configuration file: a file that is not there sets nothing. -/
def ConfigFile.tree? : ConfigFile → Option Json
  | .absent => some (.object [])
  | .unreadable _ => none
  | .text content => Json.read content

/-- The paths of the sections, from the whole file on. -/
def Config.sections : List (List String) :=
  [[], ["logging"], ["protocol"], ["bus"], ["heartbeat"], ["channels"], ["channels", "console"]]

/-- Every section that is in the file is an object. -/
def Config.Sectioned (file : Json) : Prop :=
  ∀ path ∈ sections, ∀ value, file.atPath? path = some value → value.isObject = true

theorem Leaf.take_mem_sections {α : Type} (leaf : Leaf α) :
    ∀ count < leaf.path.length, leaf.path.take count ∈ Config.sections := by
  cases leaf <;> decide

theorem ConfigFile.distinct_of_tree? {file : ConfigFile} {tree : Json}
    (contents : file.tree? = some tree) : tree.Distinct := by
  cases file with
  | absent =>
    cases contents
    exact Json.distinct_emptyObject
  | unreadable reason => contradiction
  | text content => exact Json.distinct_of_read contents

theorem Config.fileTree_eq {file : ConfigFile} {tree : Json} (contents : file.tree? = some tree) :
    fileTree file = .ok (({} : Config).toJson.overlay tree) := by
  cases file with
  | absent =>
    cases contents
    rfl
  | unreadable reason => contradiction
  | text content =>
    rw [fileTree, show Json.read content = some tree from contents]

/-- What the file leaves at a leaf of the defaults. -/
theorem Config.atPath?_overlay {file : Json} (distinct : file.Distinct) (sectioned : Sectioned file)
    {α : Type} (leaf : Leaf α) {base old : Json} (found : base.atPath? leaf.path = some old)
    (isLeaf : old.isObject = false) :
    (base.overlay file).atPath? leaf.path = some ((file.atPath? leaf.path).getD old) := by
  cases upper : file.atPath? leaf.path with
  | some value =>
    apply Json.atPath?_overlay_of_found distinct upper
    intro lower same
    rw [found, Option.some.injEq] at same
    exact Json.leaf_overlay (same ▸ isLeaf) value
  | none =>
    apply Json.atPath?_overlay_of_lacks distinct _ found
    exact Json.lacks_of_objects
      (fun count short => sectioned _ (leaf.take_mem_sections count short)) upper

/-! ## All layers -/

/-- The layer a leaf comes from, and its value there. -/
inductive Config.Layered (file : Json) (environment : List (String × String)) {α : Type}
    (leaf : Leaf α) (value : α) : Prop where
  | overridden {raw : String} (greatest : Greatest environment leaf.path raw)
      (read : leaf.decode (valueTree raw) = some value)
  | written (unnamed : ∀ raw, ¬ Given environment leaf.path raw) {tree : Json}
      (found : file.atPath? leaf.path = some tree) (read : leaf.decode tree = some value)
  | defaulted (unnamed : ∀ raw, ¬ Given environment leaf.path raw)
      (missing : file.atPath? leaf.path = none) (same : leaf.get {} = value)

/-- A leaf has one value in all environments that give it the same values. -/
theorem Config.Layered.unique {file : Json} {environment other : List (String × String)} {α : Type}
    {leaf : Leaf α} {value second : α}
    (alike : ∀ raw, Given environment leaf.path raw ↔ Given other leaf.path raw)
    (layered : Layered file environment leaf value) (layeredToo : Layered file other leaf second) :
    value = second := by
  cases layered with
  | overridden greatest read =>
    cases layeredToo with
    | overridden greatestToo readToo =>
      cases greatest.unique alike greatestToo
      exact Option.some.inj (read.symm.trans readToo)
    | written unnamed => exact absurd ((alike _).1 greatest.given) (unnamed _)
    | defaulted unnamed => exact absurd ((alike _).1 greatest.given) (unnamed _)
  | written unnamed found read =>
    cases layeredToo with
    | overridden greatestToo => exact absurd ((alike _).2 greatestToo.given) (unnamed _)
    | written _ foundToo readToo =>
      cases Option.some.inj (found.symm.trans foundToo)
      exact Option.some.inj (read.symm.trans readToo)
    | defaulted _ missing => cases found.symm.trans missing
  | defaulted unnamed missing same =>
    cases layeredToo with
    | overridden greatestToo => exact absurd ((alike _).2 greatestToo.given) (unnamed _)
    | written _ foundToo => cases missing.symm.trans foundToo
    | defaulted _ _ sameToo => exact same.symm.trans sameToo

theorem Config.described_of_load {file : ConfigFile} {environment : List (String × String)}
    {config : Config} (loaded : load file environment = .ok config) :
    ∃ tree, fileTree file = .ok tree ∧ ofJson? (overriddenTree tree environment) = some config := by
  rw [load] at loaded
  split at loaded
  · contradiction
  · next tree laid =>
    split at loaded
    · contradiction
    · next described =>
      rw [validate] at loaded
      split at loaded
      · cases loaded
        exact ⟨tree, laid, described⟩
      · contradiction

theorem Config.layered_of_load {file : ConfigFile} {tree : Json}
    {environment : List (String × String)} {config : Config} (contents : file.tree? = some tree)
    (sectioned : Sectioned tree) (loaded : load file environment = .ok config) {α : Type}
    (leaf : Leaf α) : Layered tree environment leaf (leaf.get config) := by
  obtain ⟨laid, same, described⟩ := described_of_load loaded
  cases (fileTree_eq contents).symm.trans same
  obtain ⟨fallback, found, isLeaf⟩ := leaf.default_found
  have below := atPath?_overlay (ConfigFile.distinct_of_tree? contents) sectioned leaf found isLeaf
  obtain ⟨final, reached, clean⟩ :=
    Environment.atPath?_foldl_apply (Environment.pairwise_overrides environment) below
  have read : leaf.decode final = some (leaf.get config) := leaf.reads described reached
  -- What is read at a leaf is no object, so no value was refused there on the way
  cases (clean (leaf.decode_object read)).2 with
  | last given upper =>
    exact .overridden ⟨Environment.mem_overrides.1 given, fun other also =>
      upper other (Environment.mem_overrides.2 also)⟩ read
  | old none =>
    have unnamed raw : ¬ Given environment leaf.path raw := fun given =>
      none raw (Environment.mem_overrides.2 given)
    cases upper : tree.atPath? leaf.path with
    | some value =>
      rw [upper] at read
      exact .written unnamed upper read
    | none =>
      rw [upper] at read
      have default : leaf.decode fallback = some (leaf.get {}) :=
        leaf.reads (ofJson?_toJson {}) found
      exact .defaulted unnamed upper (Option.some.inj (default.symm.trans read))

/-- Each leaf of a loaded configuration comes from one layer: from the greatest value that a
variable gives it, else from the file, else from the defaults. A variable that names something else
has no part in it: another environment with the same values for the leaf gives it the same value. -/
theorem Config.load_layers {file : ConfigFile} {tree : Json} {environment : List (String × String)}
    {config : Config} (contents : file.tree? = some tree) (sectioned : Sectioned tree)
    (loaded : load file environment = .ok config) {α : Type} (leaf : Leaf α) :
    Layered tree environment leaf (leaf.get config) ∧
      ∀ {other : List (String × String)} {otherConfig : Config},
        load file other = .ok otherConfig →
        (∀ raw, Given environment leaf.path raw ↔ Given other leaf.path raw) →
        leaf.get otherConfig = leaf.get config := by
  have layered := layered_of_load contents sectioned loaded leaf
  refine ⟨layered, fun loadedToo alike => ?_⟩
  exact (layered.unique alike (layered_of_load contents sectioned loadedToo leaf)).symm

/-- The greatest value is not the greatest number, and a variable that names a section is passed
over. -/
theorem Config.load_layers_text_limit :
    let file := Json.object
      [("protocol", .object [("max_text_len", .ofUInt64 80), ("max_from_len", .ofUInt64 20)])]
    let environment := [("AGH__PROTOCOL", "7"), ("AGH__PROTOCOL__MAX_TEXT_LEN", "200"),
      ("AGH__protocol____max_text_len", "90")]
    let config : Config := { protocol := { maxTextLength := 90, maxSourceLength := 20 } }
    (ConfigFile.text file.pretty).tree? = some file ∧ Sectioned file ∧
      load (.text file.pretty) environment = .ok config ∧
      Layered file environment Leaf.maxTextLength 90 := by
  intro file environment config
  have plain : Json.Plain Json.maxDepth file :=
    .object (by simp) (by simp [Json.Plain.object, Json.plain_ofUInt64])
  have contents : (ConfigFile.text file.pretty).tree? = some file := Json.read_pretty plain
  have sectioned : Sectioned file := by
    have objects : ∀ path ∈ sections, (file.atPath? path).all Json.isObject = true := by
      decide
    intro path member value found
    have object := objects path member
    rwa [found] at object
  have sorted : overrides environment = [(["protocol"], "7"), (["protocol", "max_text_len"], "200"),
      (["protocol", "max_text_len"], "90")] := by
    have named : (environment.filterMap fun entry =>
        (Environment.path? entry.1).map fun path => (path, entry.2)) = [(["protocol"], "7"),
          (["protocol", "max_text_len"], "200"), (["protocol", "max_text_len"], "90")] := by
      decide +kernel
    rw [Environment.overrides_eq, named]
    exact List.mergeSort_of_pairwise (by decide +kernel)
  have described : ofJson? (overriddenTree (({} : Config).toJson.overlay file) environment) =
      some config := by
    rw [overriddenTree_eq, sorted]
    decide +kernel
  have valid : config.validate = .ok config := if_pos (by decide +kernel)
  have loaded : load (.text file.pretty) environment = .ok config :=
    (load_of_fileTree (fileTree_eq contents) described).trans valid
  exact ⟨contents, sectioned, loaded, (load_layers contents sectioned loaded .maxTextLength).1⟩

end AgentBus
