import GoIdl.Proofs.Package.Enlarging
import GoIdl.Proofs.Text.Lines

/-!
# Import paths and directories

The import paths of a module stand for the directories at and below its root, one for each: from a
directory to its path and on to the directory of that path leads back, and so does the way from a path
to its directory, if the segments of the path are names that entries of directories can have.
-/

namespace GoIdl

open Disk (Path)

/-! ### Resolved paths -/

namespace Disk

/-- A name that an entry of a directory can have. -/
def IsEntryName (name : String) : Prop := name ≠ "" ∧ name ≠ "." ∧ name ≠ ".." ∧ '/' ∉ name.toList

/-- An absolute path that leads from entry to entry. -/
structure Path.IsResolved (p : Path) : Prop where
  anchor : p.anchor = .root
  names : ∀ name ∈ p.names, IsEntryName name

variable {p : Path} {names : List String}

theorem follow_entries (down : ∀ name ∈ names, name ≠ "..") (place : List String) :
    names.foldl Path.follow place = place ++ names := by
  induction names generalizing place with
  | nil => rw [List.foldl_nil, List.append_nil]
  | cons name names ih =>
    obtain ⟨here, further⟩ := List.forall_mem_cons.mp down
    rw [List.foldl_cons, Path.follow, if_neg here, ih further, List.append_assoc, List.singleton_append]

theorem Path.IsResolved.resolve_eq (resolved : p.IsResolved) (disk : Disk) : disk.resolve p = p := by
  obtain ⟨anchor, names⟩ := p
  obtain rfl : anchor = .root := resolved.anchor
  exact congrArg (Path.mk .root) (follow_entries (fun name member => (resolved.names name member).2.2.1) [])

theorem Path.IsResolved.append (resolved : p.IsResolved) (entries : ∀ name ∈ names, IsEntryName name) :
    (p.append ⟨.relative, names⟩).IsResolved :=
  ⟨resolved.anchor, List.forall_mem_append.mpr ⟨resolved.names, entries⟩⟩

theorem Path.below?_eq_some_iff {base : Path} :
    base.below? p = some names ↔ p = base.append ⟨.relative, names⟩ := by
  obtain ⟨anchor, place⟩ := base
  obtain ⟨anchor', place'⟩ := p
  have whole : (⟨anchor, place⟩ : Path).append ⟨.relative, names⟩ = ⟨anchor, place ++ names⟩ := rfl
  rw [whole, below?, Path.mk.injEq]
  constructor
  · intro found
    split at found
    · rename_i inside
      obtain ⟨rfl, start⟩ := inside
      obtain ⟨more, rfl⟩ := List.isPrefixOf_iff_prefix.mp start
      rw [List.drop_left] at found
      exact ⟨rfl, congrArg (place ++ ·) (Option.some.inj found)⟩
    · cases found
  · rintro ⟨rfl, rfl⟩
    rw [if_pos ⟨rfl, List.isPrefixOf_iff_prefix.mpr (List.prefix_append place names)⟩, List.drop_left]

end Disk

/-! ### Segments of import paths -/

namespace GoModule

variable {m : GoModule} {p q : String} {names : List String}

/-- What follows the path of the module in an import path, cut at slashes. The path of the module itself
is followed by nothing. -/
def segments (m : GoModule) (p : String) : List String :=
  if p = m.path then []
  else Text.splitString '/' (String.ofList (p.toList.drop (m.path.toList.length + 1)))

/-- The segments of an import path are neither empty nor `.` or `..`. -/
def Ordinary (m : GoModule) (p : String) : Prop :=
  ∀ segment ∈ m.segments p, segment ≠ "" ∧ segment ≠ "." ∧ segment ≠ ".."

theorem Ordinary.isEntryName (ordinary : m.Ordinary p) : ∀ name ∈ m.segments p, Disk.IsEntryName name := by
  intro name member
  obtain ⟨filled, here, above⟩ := ordinary name member
  refine ⟨filled, here, above, ?_⟩
  unfold segments at member
  split at member
  · cases member
  · obtain ⟨piece, listed, rfl⟩ := List.mem_map.mp member
    rw [String.toList_ofList] at listed ⊢
    exact Text.not_mem_of_mem_splitOn listed

theorem toList_path_append (m : GoModule) (rest : String) :
    (m.path ++ "/" ++ rest).toList = m.path.toList ++ '/' :: rest.toList := by
  simp

/-- A path in the module is the path of the module, or goes on behind a slash. -/
theorem contains_iff : m.contains p = true ↔ p = m.path ∨ ∃ rest, p = m.path ++ "/" ++ rest := by
  have behind : (m.path.toList ++ ['/']).isPrefixOf p.toList = true ↔
      ∃ rest, p = m.path ++ "/" ++ rest := by
    rw [List.isPrefixOf_iff_prefix]
    constructor
    · rintro ⟨rest, whole⟩
      refine ⟨String.ofList rest, String.toList_inj.mp ?_⟩
      rw [toList_path_append, String.toList_ofList, ← whole, List.append_assoc, List.singleton_append]
    · rintro ⟨rest, rfl⟩
      exact ⟨rest.toList, by rw [toList_path_append, List.append_assoc, List.singleton_append]⟩
  rw [← behind, ← String.toList_inj, contains, remainder?]
  split
  · rename_i same
    exact iff_of_true rfl (.inl same)
  · rename_i other
    rw [or_iff_right other]
    split
    · rename_i start
      exact iff_of_true rfl start
    · rename_i away
      exact iff_of_false nofun away

theorem append_ne_path (m : GoModule) (rest : String) : m.path ++ "/" ++ rest ≠ m.path := by
  rw [ne_eq, ← String.toList_inj, toList_path_append]
  simp

theorem segments_append (m : GoModule) (rest : String) :
    m.segments (m.path ++ "/" ++ rest) = Text.splitString '/' rest := by
  have after : (m.path ++ "/" ++ rest).toList.drop (m.path.toList.length + 1) = rest.toList := by
    rw [toList_path_append, ← List.drop_drop, List.drop_left]
    rfl
  rw [segments, if_neg (m.append_ne_path rest), after, String.ofList_toList]

theorem intercalate_eq (names : List String) :
    "/".intercalate names = String.ofList (Text.joinWith ['/'] (names.map String.toList)) := by
  rw [← String.toList_inj, String.toList_intercalate]
  show List.intercalate ['/'] (names.map String.toList) = (String.ofList _).toList
  rw [String.toList_ofList, List.intercalate, Text.joinWith]

theorem packagePathOf_of_ne_nil (some : names ≠ []) :
    m.packagePathOf names = m.path ++ "/" ++ "/".intercalate names := by
  rw [packagePathOf, if_neg (List.isEmpty_iff.not.mpr some)]

theorem packagePathOf_segments (inside : m.contains p = true) : m.packagePathOf (m.segments p) = p := by
  rcases contains_iff.mp inside with rfl | ⟨rest, rfl⟩
  · rw [segments, if_pos rfl]
    rfl
  · have some : Text.splitString '/' rest ≠ [] := by
      have more := Text.length_splitOn '/' rest.toList
      intro none
      rw [List.map_eq_nil_iff.mp none] at more
      cases more
    have joined : "/".intercalate (Text.splitString '/' rest) = rest := by
      rw [intercalate_eq, Text.splitString, List.map_map]
      simp [Function.comp_def, Text.joinWith_splitOn]
    rw [segments_append, packagePathOf_of_ne_nil some, joined]

theorem segments_packagePathOf (apart : ∀ name ∈ names, '/' ∉ name.toList) :
    m.segments (m.packagePathOf names) = names := by
  by_cases none : names = []
  · rw [none]
    exact if_pos rfl
  · rw [packagePathOf_of_ne_nil none, segments_append, intercalate_eq, Text.splitString,
      String.toList_ofList, Text.splitOn_joinWith (by simpa using none) (by simpa using apart)]
    simp [Function.comp_def]

theorem directoryFor_eq (entries : ∀ name ∈ m.segments p, Disk.IsEntryName name) :
    m.directoryFor p = m.root.append ⟨.relative, m.segments p⟩ := by
  have kept : (m.segments p).filter (fun name => name != "" && name != ".") = m.segments p :=
    List.filter_eq_self.mpr fun name member => by
      obtain ⟨filled, here, -⟩ := entries name member
      simp [filled, here]
  rw [← kept]
  unfold directoryFor segments
  split
  · show m.root = ⟨m.root.anchor, m.root.names ++ []⟩
    rw [List.append_nil]
  · rw [Text.splitString, String.toList_ofList]

end GoModule

namespace Loading

variable {disk : Disk} {m : GoModule} {names : List String}

theorem pathIn_append (root : m.root.IsResolved) (entries : ∀ name ∈ names, Disk.IsEntryName name) :
    pathIn disk (some (m.root.append ⟨.relative, names⟩)) (some m) = some (m.packagePathOf names) := by
  have below : m.root.below? (disk.resolve (m.root.append ⟨.relative, names⟩)) = some names := by
    rw [(root.append entries).resolve_eq, Disk.Path.below?_eq_some_iff]
  show m.packagePath? _ = _
  rw [GoModule.packagePath?, below, Option.map_some]

/-- Below a resolved root, directories and import paths are each other's inverse: a directory has a path
in the module, which leads to it, and a path in the module with ordinary segments is the path of the
directory that it leads to. So no two of these paths lead to one directory. -/
theorem paths_correspond (disk : Disk) (root : m.root.IsResolved) :
    (∀ d : Path, d.IsResolved → m.root.names <+: d.names →
      ∃ p, pathIn disk (some d) (some m) = some p ∧ m.contains p = true ∧ m.directoryFor p = d) ∧
    (∀ p, m.contains p = true → m.Ordinary p →
      pathIn disk (some (m.directoryFor p)) (some m) = some p) ∧
    ∀ p q, m.contains p = true → m.Ordinary p → m.contains q = true → m.Ordinary q →
      disk.resolve (m.directoryFor p) = disk.resolve (m.directoryFor q) → p = q := by
  have forth : ∀ p, m.contains p = true → m.Ordinary p →
      pathIn disk (some (m.directoryFor p)) (some m) = some p := by
    intro p inside ordinary
    rw [GoModule.directoryFor_eq ordinary.isEntryName, pathIn_append root ordinary.isEntryName,
      GoModule.packagePathOf_segments inside]
  refine ⟨fun d resolved below => ?_, forth, fun p q inside ordinary inside' ordinary' same => ?_⟩
  · obtain ⟨names, more⟩ := below
    have whole : d = m.root.append ⟨.relative, names⟩ := by
      obtain ⟨anchor, place⟩ := d
      obtain rfl : anchor = .root := resolved.anchor
      exact congrArg₂ Disk.Path.mk root.anchor.symm more.symm
    have entries : ∀ name ∈ names, Disk.IsEntryName name := fun name member =>
      resolved.names name (more ▸ List.mem_append_right _ member)
    have cut : m.segments (m.packagePathOf names) = names :=
      GoModule.segments_packagePathOf fun name member => (entries name member).2.2.2
    refine ⟨m.packagePathOf names, whole ▸ pathIn_append root entries, m.contains_packagePathOf names, ?_⟩
    rw [GoModule.directoryFor_eq (by rwa [cut]), cut, whole]
  · have first : m.packagePath? (disk.resolve (m.directoryFor p)) = some p := forth p inside ordinary
    have second : m.packagePath? (disk.resolve (m.directoryFor q)) = some q := forth q inside' ordinary'
    rw [same, second] at first
    exact (Option.some.inj first).symm

/-- Segments may repeat the name of the root; a path that only starts as the path of the module does is
not in it. -/
theorem paths_correspond_nested :
    let m : GoModule := ⟨"example.com/m", ⟨.root, ["w", "m"]⟩⟩
    let disk : Disk := ⟨[("w", .dir [("m", .dir [("a", .dir [("m", .dir [])])])])], ["w"]⟩
    let d : Path := ⟨.root, ["w", "m", "a", "m"]⟩
    m.root.IsResolved ∧ d.IsResolved ∧ m.root.names <+: d.names ∧
      m.contains "example.com/m/a/m" = true ∧ m.Ordinary "example.com/m/a/m" ∧
      m.contains "example.com/my" = false ∧
      pathIn disk (some d) (some m) = some "example.com/m/a/m" ∧ m.directoryFor "example.com/m/a/m" = d ∧
      pathIn disk (some (m.directoryFor "example.com/m/a/m")) (some m) = some "example.com/m/a/m" ∧
      disk.resolve (m.directoryFor "example.com/m/a/m") ≠ disk.resolve (m.directoryFor "example.com/m/a") := by
  intro m disk d
  have root : m.root.IsResolved := ⟨rfl, by unfold Disk.IsEntryName; decide⟩
  have resolved : d.IsResolved := ⟨rfl, by unfold Disk.IsEntryName; decide⟩
  have below : m.root.names <+: d.names := by decide
  have inside : m.contains "example.com/m/a/m" = true := by decide
  have ordinary : m.Ordinary "example.com/m/a/m" := by unfold GoModule.Ordinary; decide
  have inside' : m.contains "example.com/m/a" = true := by decide
  have ordinary' : m.Ordinary "example.com/m/a" := by unfold GoModule.Ordinary; decide
  obtain ⟨back, forth, apart⟩ := paths_correspond disk root
  obtain ⟨p, named, -, leads⟩ := back d resolved below
  have path : pathIn disk (some d) (some m) = some "example.com/m/a/m" := by decide
  cases path.symm.trans named
  refine ⟨root, resolved, below, inside, ordinary, by decide, path, leads, forth _ inside ordinary, ?_⟩
  intro same
  have merged := apart _ _ inside ordinary inside' ordinary' same
  revert merged
  decide

end Loading

end GoIdl
