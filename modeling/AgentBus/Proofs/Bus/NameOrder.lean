import AgentBus.Bus.Context
import AgentBus.Proofs.Bus.NameTable

/-!
# Names in order

A name table keeps its names in ascending order, whatever is set and taken out. So a directory
always lists the published names and the bound channels in order (`Directory.ordered_changes`).
-/

namespace AgentBus

namespace NameTable

variable {α : Type} {table : NameTable α}

/-- The names ascend, so each of them stands in the table once. -/
def Ordered (table : NameTable α) : Prop :=
  table.names.Pairwise (· < ·)

theorem Ordered.filter (ordered : table.Ordered) (p : String × α → Bool) :
    Ordered (List.filter p table) :=
  List.Pairwise.sublist (List.filter_sublist.map Prod.fst) ordered

theorem Ordered.insert (ordered : table.Ordered) (name : String) (value : α) :
    (table.insert name value).Ordered := by
  fun_induction NameTable.insert name value table with
  | case1 => exact List.pairwise_singleton _ _
  | case2 other old rest before =>
    -- What is behind `other` is behind `name` too
    obtain ⟨first, _⟩ := List.pairwise_cons.mp ordered
    refine List.pairwise_cons.mpr ⟨List.forall_mem_cons.mpr ⟨before, ?_⟩, ordered⟩
    exact fun later member => String.lt_trans before (first later member)
  | case3 old rest => exact ordered
  | case4 other old rest notBefore different ih =>
    obtain ⟨first, later⟩ := List.pairwise_cons.mp ordered
    refine List.pairwise_cons.mpr ⟨fun found member => ?_, ih later⟩
    obtain ⟨entry, member', rfl⟩ := List.mem_map.mp member
    rcases mem_insert member' with rfl | old
    · exact Std.lt_of_le_of_ne (String.not_lt.mp notBefore) (Ne.symm different)
    · exact first _ (List.mem_map_of_mem old)

end NameTable

namespace Directory

/-- The published names and the bound channels are in order. -/
structure Ordered (directory : Directory) : Prop where
  endpoints : directory.endpoints.Ordered
  channels : directory.channels.Ordered

variable {directory : Directory}

theorem Ordered.withdraw (ordered : directory.Ordered) (name : String) :
    (directory.withdraw name).Ordered := by
  unfold Directory.withdraw
  split
  · exact ordered
  · exact ⟨ordered.endpoints.filter _, ordered.channels.filter _⟩

theorem Ordered.apply {context : Context} (ordered : context.directory.Ordered)
    (change : ContextChange) : (context.apply change).directory.Ordered := by
  cases change with
  | takeEventId => exact ordered
  | requestShutdown => exact ordered
  | publish name endpoint => exact ⟨ordered.endpoints.insert name endpoint, ordered.channels⟩
  | withdraw name => exact ordered.withdraw name
  | bind channel endpoint => exact ⟨ordered.endpoints, ordered.channels.insert _ endpoint⟩

/-- Whatever is changed in whatever order, the directory stays in order. -/
theorem ordered_changes {context : Context} (ordered : context.directory.Ordered)
    (changes : List ContextChange) : (changes.foldl Context.apply context).directory.Ordered := by
  induction changes generalizing context with
  | nil => exact ordered
  | cons change changes ih => exact ih (ordered.apply change)

end Directory

end AgentBus
