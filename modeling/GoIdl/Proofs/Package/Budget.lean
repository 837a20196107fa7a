import GoIdl.Proofs.Disk.Places
import GoIdl.Proofs.Package.Loading
import GoIdl.Proofs.Text.Utf8
import Mathlib.Algebra.Order.BigOperators.Group.List

/-!
# The budget of declarations

The declarations of loaded packages and the bytes that are still unread bound the declarations that
can ever be met: an import that is loaded moves from the latter to the former, since a file has no
more declarations than bytes, and a directory is loaded once.
-/

namespace GoIdl

open Syntax (SourceFile Location)
open Disk (Path Node)

variable {disk : Disk} {w v : World} {l l' : Loader} {p importer : Package}

/-- Whether the directory at a place has been loaded. -/
def Loader.visited (l : Loader) (place : List String) : Bool :=
  (l.byDirectory.lookup ⟨.root, place⟩).isSome

/-- The declarations that can be met from here on. -/
def Loader.budget (disk : Disk) (l : Loader) : Nat := l.declared + disk.unread l.visited

theorem Loader.declared_le_budget (disk : Disk) (l : Loader) : l.declared ≤ l.budget disk :=
  Nat.le_add_right _ _

theorem Loader.budget_le (disk : Disk) (l : Loader) : l.budget disk ≤ l.declared + disk.size :=
  Nat.add_le_add_left (Disk.unread_le_size disk _) _

theorem Loader.declared_of_packages (added : l'.packages = l.packages ++ [p]) :
    l'.declared = l.declared + p.scope.length := by
  rw [Loader.declared, Loader.declared, added]
  induction l.packages with
  | nil => exact (Nat.zero_add _).symm
  | cons q rest ih => rw [List.cons_append, List.foldr_cons, List.foldr_cons, ih, Nat.add_assoc]

namespace Loading

/-! ### Reading files -/

theorem readFile_ok {path : Path} {file : SourceFile} (read : readFile disk path = .ok file) :
    ∃ bytes text, disk.readBytes path = .ok bytes ∧ Text.decode bytes = .ok text ∧
      Syntax.Source.ofPath path (String.ofList text) = .ok file := by
  obtain ⟨text, given, read⟩ := bind_eq_ok.mp read
  unfold readText at given
  split at given
  · cases given
  · rename_i bytes found
    split at given
    · rename_i chars decoded
      cases given
      exact ⟨bytes, chars, found, decoded, read⟩
    · cases given

/-- The names that a file of these bytes declares; none if it cannot be read. -/
def declaredIn (path : Path) (bytes : List UInt8) : List String :=
  match Text.decode bytes with
  | .ok text =>
    match Syntax.Source.ofPath path (String.ofList text) with
    | .ok file => file.types.map (·.name)
    | .error _ => []
  | .error _ => []

theorem length_declaredIn (path : Path) (bytes : List UInt8) :
    (declaredIn path bytes).length ≤ bytes.length := by
  unfold declaredIn
  split
  · rename_i text decoded
    split
    · rename_i file read
      have few := Syntax.Source.ofPath_length read
      have short := Text.decode_length decoded
      rw [String.toList_ofList] at few
      rw [List.length_map]
      omega
    · exact Nat.zero_le _
  · exact Nat.zero_le _

theorem isSourceName_ne_up {name : String} (source : isSourceName name = true) : name ≠ ".." := by
  rintro rfl
  exact absurd source (by decide)

theorem mem_sourceFiles {directory path : Path} (member : path ∈ sourceFiles disk directory) :
    ∃ name, name ≠ ".." ∧ path = directory.append ⟨.relative, [name]⟩ := by
  obtain ⟨name, listed, rfl⟩ := List.mem_map.mp member
  obtain ⟨⟨name', node⟩, _, kept⟩ := List.mem_filterMap.mp (mem_sortBy.mp listed)
  dsimp only at kept
  split at kept
  · rename_i source
    cases kept
    exact ⟨_, isSourceName_ne_up (Bool.and_eq_true_iff.mp source).2, rfl⟩
  · cases kept

/-- A package of files in a directory has no more declarations than these files have bytes. -/
theorem scope_length_le {directory : Path} {entries : List (String × Node)}
    {files : List SourceFile} {serial : Nat} {path : Option String} {place : Option Path}
    {module : Option GoModule} (found : disk.find directory = .ok (.dir entries))
    (read : ∀ file ∈ files, ∃ path ∈ sourceFiles disk directory, readFile disk path = .ok file)
    (formed : Package.ofFiles serial files path place module = .ok p) :
    p.scope.length ≤ Disk.ownBytes entries := by
  obtain ⟨-, -, scope, distinct⟩ := Package.ofFiles_ok formed
  have declared : Json.keys p.scope ⊆ (Disk.ownFiles entries).flatMap fun own =>
      declaredIn (directory.append ⟨.relative, [own.1]⟩) own.2 := by
    intro key listed
    obtain ⟨⟨_, declaration⟩, member, rfl⟩ := List.mem_map.mp listed
    rw [scope] at member
    simp only [Package.declarations, List.mem_flatMap, List.mem_map, List.mem_filter] at member
    obtain ⟨file, given, spec, ⟨holds, _⟩, same⟩ := member
    cases same
    obtain ⟨path, source, fileRead⟩ := read file given
    obtain ⟨name, down, rfl⟩ := mem_sourceFiles source
    obtain ⟨bytes, text, here, decoded, parsed⟩ := readFile_ok fileRead
    obtain ⟨node, listed, gives⟩ := Disk.readBytes_entry found down here
    obtain ⟨before, after, rfl, _⟩ := List.lookup_eq_some_iff.mp listed
    have own : (name, bytes) ∈ Disk.ownFiles (before ++ (name, node) :: after) :=
      List.mem_filterMap.mpr ⟨(name, node), by simp, by simp [gives, Except.toOption]⟩
    refine List.mem_flatMap.mpr ⟨(name, bytes), own, ?_⟩
    rw [declaredIn, decoded]
    dsimp only
    rw [parsed]
    exact List.mem_map_of_mem holds
  have names := distinct.length_le_of_subset declared
  rw [Json.keys, List.length_map] at names
  exact names.trans (Disk.length_flatMap_le_ownBytes (fun _ => length_declaredIn _ _) entries)

/-! ### Loading -/

theorem formFiles_loader {paths : List Path} {directory : Option Path}
    (run : (formFiles paths directory).runOn disk w = (.ok p, v)) :
    ∃ files serial path module, (∀ file ∈ files, ∃ path ∈ paths, readFile disk path = .ok file) ∧
      Package.ofFiles serial files path directory module = .ok p ∧
      v.loader.packages = w.loader.packages ++ [p] ∧
      v.loader.byDirectory = w.loader.byDirectory := by
  obtain ⟨files, module, _, _, read, -, formed, rfl⟩ := formFiles_steps run
  rw [form_run] at formed
  split at formed
  · rename_i outcome
    cases formed
    have each := mapM_eq_ok.mp read
    refine ⟨files, _, _, module, fun file => exists_left_of_forall₂ each, outcome, ?_⟩
    constructor <;> dsimp only <;> split <;> rfl
  · cases formed

/-- A directory that is loaded is paid for with the bytes of its files. -/
theorem loadDirectory_budget {directory : Path}
    (run : (loadDirectory directory).runOn disk w = (.ok p, v)) :
    v.loader.budget disk ≤ w.loader.budget disk := by
  obtain ⟨answer, ⟨-, rfl⟩ | ⟨unknown, u, formed, rfl⟩⟩ := loadDirectory_cases run
  · exact Nat.le_refl _
  · obtain ⟨files, serial, path, module, read, outcome, packages, known⟩ := formFiles_loader formed
    obtain ⟨entries, found⟩ := Disk.isDir_eq_true answer
    obtain ⟨place, located, here⟩ := Disk.find_eq_ok.mp found
    rw [Disk.resolve_of_locate located] at unknown ⊢
    have visits : ∀ l : Loader, l.byDirectory = w.loader.byDirectory ++ [(⟨.root, place⟩, p)] →
        disk.unread l.visited + Disk.ownBytes entries ≤ disk.unread w.loader.visited := by
      intro l same
      refine Disk.unread_visit (fun other before => ?_) here ?_ ?_
      · rw [Loader.visited] at before ⊢
        rw [same, List.lookup_append, Option.isSome_or, before, Bool.true_or]
      · rw [Loader.visited, unknown]
        rfl
      · rw [Loader.visited, same, List.lookup_append, unknown]
        simp
    have few := scope_length_le found read outcome
    have paid := visits { u.loader with
      byDirectory := u.loader.byDirectory ++ [(⟨.root, place⟩, p)] } (by rw [known])
    have grown := Loader.declared_of_packages packages
    simp only [Loader.budget, Loader.declared] at *
    omega

theorem loadImport_budget {path : String} {location : Location}
    (run : (loadImport importer path location).runOn disk w = (.ok p, v)) :
    v.loader.budget disk ≤ w.loader.budget disk := by
  obtain ⟨-, rfl⟩ | ⟨-, m, u, -, loaded, rfl⟩ := loadImport_cases run
  · exact Nat.le_refl _
  · have paid := loadDirectory_budget loaded
    exact paid

end Loading

end GoIdl
