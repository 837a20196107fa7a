import GoIdl.Proofs.Disk.Places
import GoIdl.Proofs.Members

/-!
# Trees of directories

In a tree whose directories have distinct entries, the names that lead from its top to a node lead
there on the disk, too, from any path to the top.
-/

namespace GoIdl.Disk

variable {disk : Disk} {p : Path} {here names : List String} {name : String} {node inner : Node}
  {entries : List (String × Node)}

/-! ### Induction -/

mutual

theorem Node.induct {holds : Node → Prop} (leaf : ∀ node : Node, node.isDir = false → holds node)
    (dir : ∀ entries, (∀ name node, (name, node) ∈ entries → holds node) → holds (.dir entries))
    (node : Node) : holds node :=
  match node with
  | .file bytes => leaf (.file bytes) rfl
  | .special reading => leaf (.special reading) rfl
  | .dir entries => dir entries (Node.inductBelow leaf dir entries)

theorem Node.inductBelow {holds : Node → Prop}
    (leaf : ∀ node : Node, node.isDir = false → holds node)
    (dir : ∀ entries, (∀ name node, (name, node) ∈ entries → holds node) → holds (.dir entries))
    (entries : List (String × Node)) : ∀ name node, (name, node) ∈ entries → holds node :=
  match entries with
  | [] => nofun
  | (name, node) :: rest => by
    intro name' node' member
    rcases List.mem_cons.mp member with same | later
    · cases same
      exact Node.induct leaf dir node
    · exact Node.inductBelow leaf dir rest name' node' later

end

/-! ### Trees in order -/

/-- The entries of every directory have distinct names, which a path can go by. -/
def Node.Orderly (node : Node) : Prop :=
  ∀ names entries, nodeFrom node names = some (.dir entries) →
    (Json.keys entries).Nodup ∧ ∀ name ∈ Json.keys entries, name ≠ ".." ∧ isTooLong name = false

theorem lookup_eq_some_iff (distinct : (Json.keys entries).Nodup) :
    entries.lookup name = some node ↔ (name, node) ∈ entries :=
  Json.find?_eq_some_iff distinct

theorem Node.orderly_leaf (leaf : node.isDir = false) : node.Orderly := by
  intro names entries below
  cases names with
  | nil =>
    cases below
    cases leaf
  | cons name names =>
    rw [nodeFrom_leaf leaf] at below
    cases below

theorem Node.orderly_file (bytes : List UInt8) : (Node.file bytes).Orderly := orderly_leaf rfl

theorem Node.orderly_dir_iff : (Node.dir entries).Orderly ↔
    ((Json.keys entries).Nodup ∧ ∀ name ∈ Json.keys entries, name ≠ ".." ∧ isTooLong name = false) ∧
      ∀ entry ∈ entries, entry.2.Orderly := by
  have step : ∀ name names inner, nodeFrom (.dir entries) (name :: names) = some inner ↔
      ∃ node, entries.lookup name = some node ∧ nodeFrom node names = some inner :=
    fun _ _ _ => Option.bind_eq_some_iff
  constructor
  · intro orderly
    have top := orderly [] entries rfl
    refine ⟨top, fun entry member names inside below => ?_⟩
    exact orderly (entry.1 :: names) inside
      ((step _ _ _).mpr ⟨entry.2, (lookup_eq_some_iff top.1).mpr member, below⟩)
  · rintro ⟨top, each⟩ names inside below
    cases names with
    | nil =>
      cases below
      exact top
    | cons name names =>
      obtain ⟨node, listed, below⟩ := (step _ _ _).mp below
      exact each (name, node) (Json.mem_of_find? listed) names inside below

theorem Node.Orderly.entry (orderly : (Node.dir entries).Orderly) (member : (name, node) ∈ entries) :
    node.Orderly := (Node.orderly_dir_iff.mp orderly).2 (name, node) member

/-! ### From the top of a tree -/

theorem walk_below (orderly : node.Orderly) (found : disk.node? here = some node)
    (below : nodeFrom node names = some inner) :
    names.foldlM disk.enter here = .ok (here ++ names) := by
  induction names generalizing here node with
  | nil =>
    rw [List.append_nil]
    rfl
  | cons name names ih =>
    cases node with
    | file bytes => cases below
    | special reading => cases below
    | dir entries =>
      obtain ⟨child, listed, below⟩ := Option.bind_eq_some_iff.mp below
      obtain ⟨distinct, usable⟩ := orderly [] entries rfl
      have member := (lookup_eq_some_iff distinct).mp listed
      obtain ⟨down, short⟩ := usable name (List.mem_map.mpr ⟨_, member, rfl⟩)
      have entered : disk.enter here name = .ok (here ++ [name]) := by
        simp [enter, found, down, short, listed]
      have step : disk.node? (here ++ [name]) = some child := by
        rw [node?_below found]
        show (entries.lookup name).bind (nodeFrom · []) = some child
        rw [listed]
        rfl
      have rest := ih (orderly.entry member) step below
      rw [List.append_assoc] at rest
      rw [List.foldlM_cons, entered]
      exact rest

/-- What a tree holds at some names is found there on the disk, and that place is known by them. -/
theorem find_below (orderly : node.Orderly) (found : disk.find p = .ok node)
    (below : nodeFrom node names = some inner) :
    disk.find (p.append ⟨.relative, names⟩) = .ok inner ∧
      disk.resolve (p.append ⟨.relative, names⟩) = ⟨.root, (disk.resolve p).names ++ names⟩ := by
  obtain ⟨place, located, top⟩ := find_eq_ok.mp found
  have located' : disk.locate (p.append ⟨.relative, names⟩) = .ok (place ++ names) := by
    rw [locate_append, located]
    exact walk_below orderly top below
  refine ⟨find_eq_ok.mpr ⟨_, located', (node?_below top names).trans below⟩, ?_⟩
  rw [resolve_of_locate located', resolve_of_locate located]

end GoIdl.Disk
