import GoIdl.Disk.Write
import GoIdl.Proofs.Outcomes

/-!
# Places on the disk

Where a path leads, if it leads anywhere, is where resolving it leads. The directories that have
been visited are kept apart from the others: the bytes of files in the latter are still unread, and
visiting a directory takes the bytes of its own files off them.
-/

namespace GoIdl.Disk

variable {disk : Disk} {p : Path} {place here there : List String} {name : String} {node : Node}
  {entries : List (String × Node)} {bytes : List UInt8}

/-! ### Nodes -/

theorem Node.isRegular_iff : node.isRegular = true ↔ ∃ bytes, node = .file bytes := by
  cases node <;> simp [isRegular]

theorem Node.isDir_iff : node.isDir = true ↔ ∃ entries, node = .dir entries := by
  cases node <;> simp [isDir]

theorem nodeFrom_leaf (leaf : node.isDir = false) (name : String) (names : List String) :
    nodeFrom node (name :: names) = none := by
  cases node with
  | dir entries => cases leaf
  | file bytes => rfl
  | special reading => rfl

/-! ### Paths that lead somewhere -/

theorem enter_ok (entered : disk.enter here name = .ok there) : there = Path.follow here name := by
  unfold enter at entered
  unfold Path.follow
  split at entered
  · split at entered
    · rename_i up
      cases entered
      rw [if_pos up]
    · rename_i down
      rw [if_neg down]
      split at entered
      · cases entered
      · split at entered
        · cases entered
          rfl
        · cases entered
  · cases entered
  · cases entered

theorem resolve_of_locate (located : disk.locate p = .ok place) :
    disk.resolve p = ⟨.root, place⟩ := by
  have walk : ∀ (names : List String) {here}, names.foldlM disk.enter here = .ok place →
      names.foldl Path.follow here = place := by
    intro names
    induction names with
    | nil =>
      intro here walked
      cases walked
      rfl
    | cons name rest ih =>
      intro here walked
      rw [List.foldlM_cons] at walked
      cases entered : disk.enter here name with
      | error fault =>
        rw [entered] at walked
        cases walked
      | ok there =>
        rw [entered] at walked
        rw [List.foldl_cons, ← enter_ok entered]
        exact ih walked
  rw [resolve, walk p.names located]

theorem find_eq_ok :
    disk.find p = .ok node ↔ ∃ place, disk.locate p = .ok place ∧ disk.node? place = some node := by
  unfold find
  cases disk.locate p with
  | error fault => simp [bind, Except.bind]
  | ok place =>
    simp only [bind, Except.bind, Except.ok.injEq, exists_eq_left']
    split
    · rename_i found
      rw [found, Except.ok.injEq, Option.some.injEq]
    · rename_i found
      rw [found]
      simp

theorem isDir_eq_true (answer : disk.isDir p = .ok true) : ∃ entries, disk.find p = .ok (.dir entries) := by
  unfold isDir leadsTo passes at answer
  split at answer
  · rename_i node found
    obtain ⟨entries, rfl⟩ := Node.isDir_iff.mp (Except.ok.inj answer)
    exact ⟨entries, found⟩
  · cases answer
  · cases answer

theorem nodeFrom_append (node : Node) (above below : List String) :
    nodeFrom node (above ++ below) = (nodeFrom node above).bind (nodeFrom · below) := by
  induction above generalizing node with
  | nil => rfl
  | cons name above ih =>
    cases node with
    | file bytes => rfl
    | special reading => rfl
    | dir entries =>
      show (entries.lookup name).bind (nodeFrom · (above ++ below)) =
        ((entries.lookup name).bind (nodeFrom · above)).bind (nodeFrom · below)
      cases entries.lookup name with
      | none => rfl
      | some child => exact ih child

theorem node?_below (found : disk.node? place = some node) (names : List String) :
    disk.node? (place ++ names) = nodeFrom node names := by
  rw [node?, nodeFrom_append, show nodeFrom (.dir disk.entries) place = some node from found]
  rfl

theorem locate_append (p : Path) (names : List String) :
    disk.locate (p.append ⟨.relative, names⟩) =
      (do names.foldlM disk.enter (← disk.locate p)) := by
  have whole : disk.locate (p.append ⟨.relative, names⟩) =
      (p.names ++ names).foldlM disk.enter (disk.start p) := rfl
  rw [whole, List.foldlM_append, locate]

theorem readBytes_entry (found : disk.find p = .ok (.dir entries)) (down : name ≠ "..")
    (read : disk.readBytes (p.append ⟨.relative, [name]⟩) = .ok bytes) :
    ∃ node, entries.lookup name = some node ∧ node.reading = .ok bytes := by
  obtain ⟨place, located, here⟩ := find_eq_ok.mp found
  unfold readBytes at read
  split at read
  · rename_i node found'
    obtain ⟨inside, located', there⟩ := find_eq_ok.mp found'
    rw [locate_append] at located'
    obtain ⟨place', walked, located'⟩ := bind_eq_ok.mp located'
    cases located.symm.trans walked
    obtain ⟨inside', step, located'⟩ := bind_eq_ok.mp located'
    cases located'
    have same := enter_ok step
    rw [Path.follow, if_neg down] at same
    rw [same, node?_below here] at there
    exact ⟨node, by simpa [nodeFrom] using there, read⟩
  · cases read

/-! ### Unread bytes -/

/-- The files of a directory with what reading gives, those of its subdirectories left aside. -/
def ownFiles (entries : List (String × Node)) : List (String × List UInt8) :=
  entries.filterMap fun (name, node) => node.reading.toOption.map (name, ·)

def ownBytes (entries : List (String × Node)) : Nat :=
  (ownFiles entries).foldr (fun (_, bytes) n => bytes.length + n) 0

/-- What each file gives no more of than it has bytes, all files give no more of. -/
theorem length_flatMap_le_ownBytes {α : Type} {given : String × List UInt8 → List α}
    (few : ∀ own, (given own).length ≤ own.2.length) (entries : List (String × Node)) :
    ((ownFiles entries).flatMap given).length ≤ ownBytes entries := by
  unfold ownBytes
  induction ownFiles entries with
  | nil => exact Nat.le_refl 0
  | cons own rest ih =>
    rw [List.flatMap_cons, List.length_append, List.foldr_cons]
    exact Nat.add_le_add (few own) ih

mutual

/-- The bytes of files in directories at or below a place that have not been visited. -/
def unreadAt (visited : List String → Bool) (place : List String) : Node → Nat
  | .file _ | .special _ => 0
  | .dir entries =>
    (if visited place then 0 else ownBytes entries) + unreadBelow visited place entries

def unreadBelow (visited : List String → Bool) (place : List String) :
    List (String × Node) → Nat
  | [] => 0
  | (name, node) :: rest =>
    unreadAt visited (place ++ [name]) node + unreadBelow visited place rest

end

/-- The bytes of files in directories that have not been visited. -/
def unread (disk : Disk) (visited : List String → Bool) : Nat :=
  unreadAt visited [] (.dir disk.entries)

section

variable {visited visited' : List String → Bool}

mutual

theorem unreadAt_le_size (visited : List String → Bool) (place : List String) (node : Node) :
    unreadAt visited place node ≤ node.size := by
  cases node with
  | file bytes => exact Nat.zero_le _
  | special reading => exact Nat.zero_le _
  | dir entries =>
    have below := unreadBelow_le_size visited place entries
    rw [unreadAt, Node.size]
    split <;> omega

theorem unreadBelow_le_size (visited : List String → Bool) (place : List String)
    (entries : List (String × Node)) :
    ownBytes entries + unreadBelow visited place entries ≤ sizeOfEntries entries := by
  match entries with
  | [] => exact Nat.le_refl _
  | (name, node) :: rest =>
    have later := unreadBelow_le_size visited place rest
    have own : ownBytes ((name, node) :: rest) + unreadAt visited (place ++ [name]) node ≤
        node.size + ownBytes rest := by
      match node with
      | .file bytes | .special (.ok bytes) =>
        show bytes.length + ownBytes rest + 0 ≤ bytes.length + 1 + ownBytes rest
        omega
      | .special (.error _) =>
        show ownBytes rest + 0 ≤ 1 + ownBytes rest
        omega
      | .dir inside =>
        have here := unreadAt_le_size visited (place ++ [name]) (.dir inside)
        show ownBytes rest + _ ≤ _
        omega
    rw [unreadBelow, sizeOfEntries]
    omega

end

theorem unread_le_size (disk : Disk) (visited : List String → Bool) :
    disk.unread visited ≤ disk.size := by
  have below := unreadBelow_le_size visited [] disk.entries
  rw [unread, unreadAt, size]
  split <;> omega

mutual

theorem unreadAt_mono (more : ∀ place, visited place = true → visited' place = true)
    (place : List String) (node : Node) : unreadAt visited' place node ≤ unreadAt visited place node := by
  cases node with
  | file bytes => exact Nat.le_refl _
  | special reading => exact Nat.le_refl _
  | dir entries =>
    have below := unreadBelow_mono more place entries
    rw [unreadAt, unreadAt]
    by_cases before : visited place = true
    · rw [if_pos before, if_pos (more place before)]
      exact Nat.add_le_add_left below _
    · rw [if_neg before]
      split <;> omega

theorem unreadBelow_mono (more : ∀ place, visited place = true → visited' place = true)
    (place : List String) (entries : List (String × Node)) :
    unreadBelow visited' place entries ≤ unreadBelow visited place entries := by
  match entries with
  | [] => exact Nat.le_refl _
  | (name, node) :: rest =>
    exact Nat.add_le_add (unreadAt_mono more _ node) (unreadBelow_mono more place rest)

end

theorem unreadBelow_append (visited : List String → Bool) (place : List String)
    (before after : List (String × Node)) :
    unreadBelow visited place (before ++ after) =
      unreadBelow visited place before + unreadBelow visited place after := by
  induction before with
  | nil => exact (Nat.zero_add _).symm
  | cons entry before ih =>
    rw [List.cons_append, unreadBelow, unreadBelow, ih, Nat.add_assoc]

theorem unreadAt_visit (more : ∀ place, visited place = true → visited' place = true)
    {inside : List String} (found : nodeFrom node inside = some (.dir entries))
    (fresh : visited (place ++ inside) = false) (now : visited' (place ++ inside) = true) :
    unreadAt visited' place node + ownBytes entries ≤ unreadAt visited place node := by
  induction inside generalizing node place with
  | nil =>
    cases found
    rw [List.append_nil] at fresh now
    have below := unreadBelow_mono more place entries
    rw [unreadAt, unreadAt, fresh, if_pos now, if_neg Bool.false_ne_true]
    omega
  | cons name inside ih =>
    cases node with
    | file bytes => cases found
    | special reading => cases found
    | dir above =>
      obtain ⟨child, listed, below⟩ := Option.bind_eq_some_iff.mp found
      obtain ⟨before, after, rfl, _⟩ := List.lookup_eq_some_iff.mp listed
      have here : unreadAt visited' (place ++ [name]) child + ownBytes entries ≤
          unreadAt visited (place ++ [name]) child :=
        ih below (by simpa using fresh) (by simpa using now)
      have own : (if visited' place then 0 else ownBytes (before ++ (name, child) :: after)) ≤
          if visited place then 0 else ownBytes (before ++ (name, child) :: after) := by
        by_cases known : visited place = true
        · rw [if_pos (more place known)]
          exact Nat.zero_le _
        · rw [if_neg known]
          split <;> omega
      have others := unreadBelow_mono more place before
      have later := unreadBelow_mono more place after
      rw [unreadAt, unreadAt, unreadBelow_append, unreadBelow_append, unreadBelow, unreadBelow]
      omega

theorem unread_visit (more : ∀ place, visited place = true → visited' place = true)
    (found : disk.node? place = some (.dir entries)) (fresh : visited place = false)
    (now : visited' place = true) : disk.unread visited' + ownBytes entries ≤ disk.unread visited :=
  unreadAt_visit more found fresh now

end

end GoIdl.Disk
