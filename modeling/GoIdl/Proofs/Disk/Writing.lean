import GoIdl.Proofs.Disk.Links
import GoIdl.Proofs.Members

/-!
# Writing a file

A text that is written becomes that of the file where the path leads, under all its names, or a new
file there. It changes nothing else: no directory, and no path leads elsewhere.
-/

namespace GoIdl.Disk

variable {links : Links} {disk disk' : Disk} {p : Path} {place other : List String} {name : String}
  {node : Node} {entries : List (String × Node)} {bytes : List UInt8}

/-! ### Entries -/

theorem lookup_cons_eq (entry : String × Node) (name : String) :
    (entry :: entries).lookup name = if name = entry.1 then some entry.2 else entries.lookup name :=
  Json.find?_cons entry.1 entry.2

theorem lookup_putEntry (name other : String) (node : Node) (entries : List (String × Node)) :
    (putEntry name node entries).lookup other =
      if other = name then some node else entries.lookup other := by
  induction entries with
  | nil => exact lookup_cons_eq (name, node) other
  | cons entry entries ih =>
    obtain ⟨n, old⟩ := entry
    rw [putEntry]
    by_cases here : n = name
    · rw [if_pos here, lookup_cons_eq, lookup_cons_eq, here]
      by_cases same : other = name
      · rw [if_pos same, if_pos same]
      · rw [if_neg same, if_neg same, if_neg same]
    · rw [if_neg here, lookup_cons_eq, lookup_cons_eq, ih]
      by_cases same : other = n
      · rw [if_pos same, if_pos same, if_neg fun named => here (same.symm.trans named)]
      · rw [if_neg same, if_neg same]

theorem nodeFrom_putEntry (name other : String) (names : List String) (node : Node) :
    nodeFrom (.dir (putEntry name node entries)) (other :: names) =
      if other = name then nodeFrom node names else nodeFrom (.dir entries) (other :: names) := by
  rw [nodeFrom, lookup_putEntry]
  split <;> rfl

/-- A file where no directory stood changes what stands at its own place only. -/
theorem status_putAt {inside : List (String × Node)} {other : List String}
    (found : nodeFrom (.dir entries) place = some (.dir inside))
    (free : (inside.lookup name).map Node.status ≠ some .directory) :
    (nodeFrom (.dir (putAt (.file bytes) entries (place ++ [name]))) other).map Node.status =
      if other = place ++ [name] then some (.file bytes)
      else (nodeFrom (.dir entries) other).map Node.status := by
  induction place generalizing entries other with
  | nil =>
    cases found
    cases other with
    | nil => rfl
    | cons first rest =>
      rw [List.nil_append, putAt, nodeFrom_putEntry]
      by_cases same : first = name
      · subst same
        rw [if_pos rfl]
        cases rest with
        | nil => rw [if_pos rfl]; rfl
        | cons second rest =>
          rw [if_neg (by simp), nodeFrom]
          cases before : inside.lookup first with
          | none => rfl
          | some node =>
            cases node with
            | file bytes => rfl
            | special reading => rfl
            | dir entries => exact absurd (congrArg (Option.map Node.status) before) free
      · rw [if_neg same, if_neg fun whole => same (List.cons.inj whole).1]
  | cons directory place ih =>
    obtain ⟨child, listed, below⟩ := Option.bind_eq_some_iff.mp found
    cases child with
    | file bytes => cases place <;> cases below
    | special reading => cases place <;> cases below
    | dir children =>
      have put : putAt (.file bytes) entries (directory :: place ++ [name]) =
          putEntry directory (.dir (putAt (.file bytes) children (place ++ [name]))) entries := by
        rw [List.cons_append, putAt, listed]
        simp
      rw [put]
      cases other with
      | nil => rfl
      | cons first rest =>
        rw [nodeFrom_putEntry]
        by_cases same : first = directory
        · subst same
          have here : nodeFrom (.dir entries) (first :: rest) = nodeFrom (.dir children) rest := by
            rw [nodeFrom, listed]
            rfl
          rw [if_pos rfl, ih below, here]
          simp
        · rw [List.cons_append, if_neg same, if_neg fun whole => same (List.cons.inj whole).1]

/-- A new text does not stand in the way of a directory or a special file. -/
def Free (disk : Disk) (place : List String) : Prop :=
  disk.status place = none ∨ ∃ bytes, disk.status place = some (.file bytes)

theorem Free.not_directory (free : disk.Free place) : disk.status place ≠ some .directory := by
  intro directory
  rcases free with none | ⟨before, file⟩
  · cases none.symm.trans directory
  · cases file.symm.trans directory

/-- Some places, which were free, have got these bytes. -/
structure Written (disk : Disk) (bytes : List UInt8) (taken : List String → Prop) (disk' : Disk) :
    Prop where
  home : disk'.home = disk.home
  changed : ∀ other, taken other → disk'.status other = some (.file bytes)
  kept : ∀ other, ¬ taken other → disk'.status other = disk.status other
  free : ∀ other, taken other → disk.Free other

theorem put_written (inside : place ≠ []) (stands : disk.status place.dropLast = some .directory)
    (free : disk.Free place) : Written disk bytes (· = place) (disk.put place (.file bytes)) := by
  obtain ⟨name, whole⟩ : ∃ name, place = place.dropLast ++ [name] :=
    ⟨_, (List.dropLast_append_getLast inside).symm⟩
  generalize place.dropLast = above at stands whole
  subst whole
  obtain ⟨entries, found⟩ := status_eq_directory.mp stands
  have open' : (entries.lookup name).map Node.status ≠ some .directory := by
    rw [← status_entry found]
    exact free.not_directory
  have after (other : List String) : (disk.put (above ++ [name]) (.file bytes)).status other =
      if other = above ++ [name] then some (.file bytes) else disk.status other :=
    status_putAt found open'
  refine ⟨rfl, ?_, fun other apart => (after other).trans (if_neg apart), ?_⟩
  · rintro _ rfl
    exact (after _).trans (if_pos rfl)
  · rintro _ rfl
    exact free

namespace Written

variable {taken : List String → Prop} (written : Written disk bytes taken disk')
include written

theorem sameDirs : SameDirs disk disk' := by
  refine ⟨written.home, fun other => ?_⟩
  by_cases here : taken other
  · rw [written.changed other here]
    exact iff_of_false nofun (written.free other here).not_directory
  · rw [written.kept other here]

theorem stays_free (free : disk.Free other) : disk'.Free other := by
  by_cases here : taken other
  · exact .inr ⟨bytes, written.changed other here⟩
  · rw [Free, written.kept other here]
    exact free

theorem stays_file (file : ∃ before, disk.status other = some (.file before)) :
    ∃ after, disk'.status other = some (.file after) := by
  by_cases here : taken other
  · exact ⟨bytes, written.changed other here⟩
  · rw [written.kept other here]
    exact file

theorem trans {taken' : List String → Prop} {disk'' : Disk} (later : Written disk' bytes taken' disk'') :
    Written disk bytes (fun other => taken other ∨ taken' other) disk'' := by
  refine ⟨later.home.trans written.home, fun other here => ?_, fun other apart => ?_, fun other here => ?_⟩
  · by_cases again : taken' other
    · exact later.changed other again
    · rw [later.kept other again]
      exact written.changed other (here.resolve_right again)
  · rw [not_or] at apart
    rw [later.kept other apart.2, written.kept other apart.1]
  · by_cases before : taken other
    · exact written.free other before
    · have free := later.free other (here.resolve_left before)
      rw [Free, written.kept other before] at free
      exact free

theorem congr {taken' : List String → Prop} (same : ∀ other, taken other ↔ taken' other) :
    Written disk bytes taken' disk' := by
  rw [← funext fun other => propext (same other)]
  exact written

end Written

/-! ### Files with several names -/

theorem overwrite_written (disk : Disk) (bytes : List UInt8) (places : List (List String)) :
    Written disk bytes (fun other => other ∈ places ∧ ∃ before, disk.status other = some (.file before))
      (disk.overwrite bytes places) := by
  induction places generalizing disk with
  | nil => exact ⟨rfl, nofun, fun _ _ => rfl, nofun⟩
  | cons place places ih =>
    rw [overwrite, List.foldl_cons, ← overwrite]
    split
    · rename_i regular
      obtain ⟨before, file⟩ := isRegular_iff.mp regular
      have found := status_eq_file.mp file
      have inside : place ≠ [] := by
        rintro rfl
        cases found
      have first : Written disk bytes (· = place) (disk.put place (.file bytes)) :=
        put_written inside (status_dropLast (by rw [found]; rfl)) (.inr ⟨before, file⟩)
      refine (first.trans (ih (disk.put place (.file bytes)))).congr fun other => ?_
      rw [List.mem_cons]
      by_cases here : other = place
      · subst here
        simp [file]
      · rw [first.kept other here]
        simp [here]
    · rename_i irregular
      refine (ih disk).congr fun other => ?_
      rw [List.mem_cons, or_and_right, or_iff_right]
      rintro ⟨rfl, file⟩
      exact irregular (isRegular_iff.mpr file)

/-- What stands at a place gets a text that is written to `place`. -/
inductive Links.Takes (links : Links) (disk : Disk) (place : List String) : List String → Prop
  | new (none : disk.status place = none) : Takes links disk place place
  /-- Each name of a file that is there stands for it. -/
  | name {other : List String} {before bytes : List UInt8} (file : disk.status place = some (.file bytes))
      (named : other ∈ links.placesOf place) (stands : disk.status other = some (.file before)) :
      Takes links disk place other

/-- A path leads to a place of the file that `other` is a place of. -/
def Links.Reaches (links : Links) (disk : Disk) (p : Path) (other : List String) : Prop :=
  ∃ place, links.locate disk p = .ok place ∧ other ∈ links.placesOf place

theorem Links.Takes.mem_placesOf (takes : links.Takes disk place other) : other ∈ links.placesOf place := by
  cases takes with
  | new none => exact List.mem_cons_self
  | name file named stands => exact named

theorem Written.takes {taken : List String → Prop} (written : Written disk bytes taken disk')
    (takes : links.Takes disk place other) : links.Takes disk' place other := by
  cases takes with
  | new none =>
    rcases written.stays_free (.inl none) with none | ⟨after, file⟩
    · exact .new none
    · exact .name file List.mem_cons_self file
  | name file named stands =>
    obtain ⟨after, file⟩ := written.stays_file ⟨_, file⟩
    obtain ⟨_, stands⟩ := written.stays_file ⟨_, stands⟩
    exact .name file named stands

theorem Written.reaches_iff {taken : List String → Prop} (written : Written disk bytes taken disk') :
    links.Reaches disk' p other ↔ links.Reaches disk p other := by
  simp only [Links.Reaches, Links.locate_sameDirs written.sameDirs]

theorem writeText_written {text : String} (succeeded : disk.writeText p text links = .ok disk') :
    ∃ place, links.locate disk p = .ok place ∧ disk.status place ≠ some .directory ∧
      Written disk (Text.encode text.toList) (links.Takes disk place) disk' := by
  unfold writeText at succeeded
  dsimp only at succeeded
  split at succeeded
  · cases succeeded
  · rename_i place located
    have above := Links.follow_place located
    refine ⟨place, located, ?_⟩
    split at succeeded
    · rename_i found
      cases succeeded
      have none : disk.status place = none := by rw [status, found]; rfl
      have inside : place ≠ [] := by
        rintro rfl
        cases found
      refine ⟨by simp [none], (put_written inside above (.inl none)).congr fun other => ⟨?_, ?_⟩⟩
      · rintro rfl
        exact .new none
      · rintro (_ | ⟨file, -, -⟩)
        · rfl
        · cases none.symm.trans file
    · rename_i before found
      cases succeeded
      have file := status_eq_file.mpr found
      refine ⟨by simp [file], (overwrite_written disk _ _).congr fun other => ⟨?_, ?_⟩⟩
      · rintro ⟨named, before, stands⟩
        exact .name file named stands
      · rintro (none | ⟨-, named, stands⟩)
        · cases file.symm.trans none
        · exact ⟨named, _, stands⟩
    · rename_i reading found
      cases succeeded
      have special : disk.status place = some (.special reading) := by rw [status, found]; rfl
      refine ⟨by simp [special], rfl, fun other takes => ?_, fun _ _ => rfl, fun other takes => ?_⟩
      all_goals
        rcases takes with none | ⟨file, -, -⟩
        · cases special.symm.trans none
        · cases special.symm.trans file
    · cases succeeded

end GoIdl.Disk
