import GoIdl.Disk.Write
import GoIdl.Proofs.Disk.Places

/-!
# Following links

What stands at a place is a directory or a file, with its bytes if it is a regular one. Where a path
leads depends on the directories and the symbolic links alone, so that it stays the same while files
come and change. On a disk without links, a path leads to a directory exactly if reading finds one.
-/

namespace GoIdl.Disk

variable {links : Links} {disk disk' : Disk} {p : Path} {here place names more : List String}
  {name : String} {node : Node} {entries : List (String × Node)} {left : Nat} {r : Stretch}

/-! ### What stands at a place -/

/-- What can be seen of a node from outside. -/
inductive Status where
  | directory
  | file (bytes : List UInt8)
  | special (reading : Except String (List UInt8))

def Node.status : Node → Status
  | .file bytes => .file bytes
  | .special reading => .special reading
  | .dir _ => .directory

/-- What stands at a place, if anything does. -/
def status (disk : Disk) (place : List String) : Option Status := (disk.node? place).map Node.status

theorem status_eq_directory : disk.status place = some .directory ↔
    ∃ entries, disk.node? place = some (.dir entries) := by
  rw [status, Option.map_eq_some_iff]
  constructor
  · rintro ⟨node, found, same⟩
    cases node with
    | file bytes => cases same
    | special reading => cases same
    | dir entries => exact ⟨entries, found⟩
  · rintro ⟨entries, found⟩
    exact ⟨_, found, rfl⟩

theorem status_eq_file {bytes : List UInt8} : disk.status place = some (.file bytes) ↔
    disk.node? place = some (.file bytes) := by
  rw [status, Option.map_eq_some_iff]
  constructor
  · rintro ⟨node, found, same⟩
    cases node with
    | file bytes =>
      cases same
      exact found
    | special reading => cases same
    | dir entries => cases same
  · exact fun found => ⟨_, found, rfl⟩

theorem isRegular_iff : (disk.node? place).any Node.isRegular = true ↔
    ∃ bytes, disk.status place = some (.file bytes) := by
  simp only [status_eq_file, Option.any_eq_true, Node.isRegular_iff]
  constructor
  · rintro ⟨_, found, bytes, rfl⟩
    exact ⟨bytes, found⟩
  · rintro ⟨bytes, found⟩
    exact ⟨_, found, bytes, rfl⟩

theorem status_entry (found : disk.node? place = some (.dir entries)) (name : String) :
    disk.status (place ++ [name]) = (entries.lookup name).map Node.status := by
  rw [status, node?_below found, nodeFrom]
  cases entries.lookup name <;> rfl

theorem checkDir_eq_ok : disk.checkDir here = .ok () ↔ disk.status here = some .directory := by
  rw [status_eq_directory, checkDir]
  split
  · rename_i entries found
    exact ⟨fun _ => ⟨entries, found⟩, fun _ => rfl⟩
  · rename_i node other found
    refine iff_of_false nofun ?_
    rintro ⟨entries, same⟩
    exact other entries (Option.some.inj (found.symm.trans same))
  · rename_i found
    rw [found]
    exact iff_of_false nofun nofun

/-- What stands at a place stands in a directory, and so does the root in itself. -/
theorem status_dropLast (stands : (disk.node? place).isSome = true) :
    disk.status place.dropLast = some .directory := by
  rw [status_eq_directory]
  rcases List.eq_nil_or_concat place with rfl | ⟨above, name, rfl⟩
  · exact ⟨_, rfl⟩
  · obtain ⟨inner, found⟩ := Option.isSome_iff_exists.mp stands
    rw [List.concat_eq_append, node?, nodeFrom_append] at found
    obtain ⟨node, there, below⟩ := Option.bind_eq_some_iff.mp found
    rw [List.concat_eq_append, List.dropLast_concat]
    cases leaf : node.isDir with
    | false =>
      rw [nodeFrom_leaf leaf] at below
      cases below
    | true =>
      obtain ⟨inside, rfl⟩ := Node.isDir_iff.mp leaf
      exact ⟨inside, there⟩

/-- The directories of two disks are the same. -/
structure SameDirs (disk disk' : Disk) : Prop where
  home : disk'.home = disk.home
  status (place : List String) :
    disk'.status place = some .directory ↔ disk.status place = some .directory

/-! ### Following names -/

namespace Links

theorem stretch_nil : links.stretch disk here [] = .ok r ↔
    disk.status here = some .directory ∧ r = .arrives here := by
  rw [stretch, bind_eq_ok, ← checkDir_eq_ok]
  constructor
  · rintro ⟨⟨⟩, checked, same⟩
    exact ⟨checked, (Except.ok.inj same).symm⟩
  · rintro ⟨checked, rfl⟩
    exact ⟨(), checked, rfl⟩

theorem stretch_cons {rest : List String} : links.stretch disk here (name :: rest) = .ok r ↔
    disk.status here = some .directory ∧
      (name = ".." ∧ links.stretch disk here.dropLast rest = .ok r ∨
        name ≠ ".." ∧ isTooLong name = false ∧
          match links.symbolic.lookup (here ++ [name]) with
          | some path => r = .turns here path rest
          | none =>
            if rest.isEmpty then r = .arrives (here ++ [name])
            else links.stretch disk (here ++ [name]) rest = .ok r) := by
  rw [stretch, bind_eq_ok, ← checkDir_eq_ok]
  have once : ∀ holds : Unit → Prop, (∃ u, holds u) ↔ holds () := fun _ =>
    ⟨fun ⟨(), here⟩ => here, fun here => ⟨(), here⟩⟩
  rw [once]
  refine and_congr_right fun _ => ?_
  by_cases up : name = ".."
  · simp [up]
  · cases long : isTooLong name with
    | true => simp [up, throw, throwThe, MonadExceptOf.throw]
    | false =>
      cases links.symbolic.lookup (here ++ [name]) with
      | some path => simp [up, pure, Except.pure, eq_comm]
      | none => cases rest <;> simp [up, pure, Except.pure, eq_comm]

/-- Names lead to a place in a directory. -/
theorem stretch_place (led : links.stretch disk here names = .ok (.arrives place)) :
    disk.status place.dropLast = some .directory := by
  induction names generalizing here with
  | nil =>
    obtain ⟨stands, same⟩ := stretch_nil.mp led
    cases same
    obtain ⟨entries, found⟩ := status_eq_directory.mp stands
    exact status_dropLast (by rw [found]; rfl)
  | cons name rest ih =>
    obtain ⟨stands, ⟨-, led⟩ | ⟨-, -, led⟩⟩ := stretch_cons.mp led
    · exact ih led
    · split at led
      · cases led
      · split at led
        · cases led
          rw [List.dropLast_concat]
          exact stands
        · exact ih led

/-- Names lead on from the directory that the first of them lead to. -/
theorem stretch_append (led : links.stretch disk here names = .ok (.arrives place))
    (stands : disk.status place = some .directory) :
    links.stretch disk here (names ++ more) = links.stretch disk place more := by
  induction names generalizing here with
  | nil =>
    obtain ⟨-, same⟩ := stretch_nil.mp led
    cases same
    rfl
  | cons name rest ih =>
    obtain ⟨here_stands, ways⟩ := stretch_cons.mp led
    rw [List.cons_append, stretch, checkDir_eq_ok.mpr here_stands]
    rcases ways with ⟨up, led⟩ | ⟨down, short, led⟩
    · exact (if_pos up).trans (ih led)
    · refine (if_neg down).trans ((if_neg (by simp [short])).trans ?_)
      cases linked : links.symbolic.lookup (here ++ [name]) with
      | some path =>
        rw [linked] at led
        cases led
      | none =>
        rw [linked] at led
        cases rest with
        | cons next rest => exact ih led
        | nil =>
          cases led
          cases more with
          | cons next more => rfl
          | nil => exact (stretch_nil.mpr ⟨stands, rfl⟩).symm

/-- Names that come to a link lead on by the names behind them. -/
theorem stretch_append_turns {path : Path} {rest : List String}
    (led : links.stretch disk here names = .ok (.turns place path rest)) :
    links.stretch disk here (names ++ more) = .ok (.turns place path (rest ++ more)) := by
  induction names generalizing here with
  | nil => cases (stretch_nil.mp led).2
  | cons name names ih =>
    obtain ⟨stands, ways⟩ := stretch_cons.mp led
    refine stretch_cons.mpr ⟨stands, ways.imp (And.imp_right ih) ?_⟩
    refine And.imp_right (And.imp_right fun led => ?_)
    cases linked : links.symbolic.lookup (here ++ [name]) with
    | some path =>
      rw [linked] at led
      cases led
      rfl
    | none =>
      rw [linked] at led
      cases names with
      | nil => cases led
      | cons next names => exact ih led

theorem stretch_sameDirs (same : SameDirs disk disk') :
    links.stretch disk' here names = .ok r ↔ links.stretch disk here names = .ok r := by
  induction names generalizing here with
  | nil => rw [stretch_nil, stretch_nil, same.status]
  | cons name rest ih => simp only [stretch_cons, same.status, ih]

theorem follow_eq_ok : links.follow disk left here names = .ok place ↔
    links.stretch disk here names = .ok (.arrives place) ∨
      ∃ there path rest left', links.stretch disk here names = .ok (.turns there path rest) ∧
        left = left' + 1 ∧ links.follow disk left' (if path.isAbsolute then [] else there)
          (path.names ++ rest) = .ok place := by
  rw [follow]
  split
  · rename_i fault failed
    simp [failed]
  · rename_i there led
    simp [led]
  · rename_i there path rest led
    cases left with
    | zero => simp [led]
    | succ left => simp [led]

theorem follow_sameDirs (same : SameDirs disk disk') :
    links.follow disk' left here names = .ok place ↔
      links.follow disk left here names = .ok place := by
  induction left generalizing here names with
  | zero =>
    rw [follow_eq_ok, follow_eq_ok, stretch_sameDirs same]
    simp
  | succ left ih =>
    rw [follow_eq_ok, follow_eq_ok, stretch_sameDirs same]
    simp only [stretch_sameDirs same]
    refine or_congr Iff.rfl (exists₄_congr fun there path rest left' => ?_)
    refine and_congr_right fun _ => and_congr_right fun fewer => ?_
    cases fewer
    exact ih

theorem locate_sameDirs (same : SameDirs disk disk') :
    links.locate disk' p = .ok place ↔ links.locate disk p = .ok place := by
  have start : disk'.start p = disk.start p := by rw [start, same.home]; rfl
  rw [locate, locate, start]
  exact follow_sameDirs same

theorem follow_place (led : links.follow disk left here names = .ok place) :
    disk.status place.dropLast = some .directory := by
  induction left generalizing here names with
  | zero =>
    rcases follow_eq_ok.mp led with led | ⟨_, _, _, _, -, ⟨⟩, -⟩
    exact stretch_place led
  | succ left ih =>
    rcases follow_eq_ok.mp led with led | ⟨_, _, _, _, -, ⟨⟩, led⟩
    · exact stretch_place led
    · exact ih led

theorem follow_append (led : links.follow disk left here names = .ok place)
    (stands : disk.status place = some .directory) (more : List String) :
    ∃ left', links.follow disk left here (names ++ more) = links.follow disk left' place more := by
  induction left generalizing here names with
  | zero =>
    rcases follow_eq_ok.mp led with led | ⟨_, _, _, _, -, ⟨⟩, -⟩
    exact ⟨0, by rw [follow, stretch_append led stands, follow]⟩
  | succ left ih =>
    rcases follow_eq_ok.mp led with led | ⟨there, path, rest, _, turned, ⟨⟩, led⟩
    · exact ⟨left + 1, by rw [follow, stretch_append led stands, follow]⟩
    · obtain ⟨left', same⟩ := ih led
      refine ⟨left', ?_⟩
      rw [follow, stretch_append_turns turned]
      simpa using same

/-- An entry of a directory that is no symbolic link is where its path leads. -/
theorem locate_entry (located : links.locate disk p = .ok place)
    (stands : disk.status place = some .directory) (down : name ≠ "..")
    (unlinked : links.symbolic.lookup (place ++ [name]) = none)
    (led : links.locate disk (p.append ⟨.relative, [name]⟩) = .ok here) : here = place ++ [name] := by
  obtain ⟨left', same⟩ := follow_append located stands [name]
  have led : links.follow disk linkLimit (disk.start p) (p.names ++ [name]) = .ok here := led
  rw [same] at led
  rcases follow_eq_ok.mp led with led | ⟨_, _, _, _, turned, -⟩
  · obtain ⟨-, ⟨up, -⟩ | ⟨-, -, led⟩⟩ := stretch_cons.mp led
    · exact absurd up down
    · rw [unlinked] at led
      cases led
      rfl
  · obtain ⟨-, ⟨up, -⟩ | ⟨-, -, turned⟩⟩ := stretch_cons.mp turned
    · exact absurd up down
    · rw [unlinked] at turned
      cases turned

theorem isDir_eq_true (answer : links.isDir disk p = .ok true) :
    ∃ place, links.locate disk p = .ok place ∧ disk.status place = some .directory := by
  unfold Links.isDir passes at answer
  split at answer
  · rename_i node found
    obtain ⟨entries, rfl⟩ := Node.isDir_iff.mp (Except.ok.inj answer)
    obtain ⟨place, located, found⟩ := bind_eq_ok.mp found
    split at found
    · rename_i node stands
      cases found
      exact ⟨place, located, status_eq_directory.mpr ⟨entries, stands⟩⟩
    · cases found
  · cases answer
  · cases answer

/-! ### Without links -/

/-- The node at a place. -/
def standing (disk : Disk) (place : List String) : Except PathFault Node :=
  match disk.node? place with
  | some node => .ok node
  | none => .error .missing

/-- The node that a stretch without links comes to. -/
def arrival (disk : Disk) : Stretch → Except PathFault Node
  | .arrives place => standing disk place
  | .turns .. => .error .tooManyLinks

theorem stretch_enter (here : List String) (name : String) (rest : List String) :
    ({} : Links).stretch disk here (name :: rest) >>= arrival disk = (do
      let there ← disk.enter here name
      if rest.isEmpty then standing disk there
      else ({} : Links).stretch disk there rest >>= arrival disk) := by
  rw [stretch, checkDir, enter]
  cases found : disk.node? here with
  | none => rfl
  | some node =>
    cases node with
    | file bytes => rfl
    | special reading => rfl
    | dir entries =>
      have below : disk.node? (here ++ [name]) = entries.lookup name := by
        rw [node?_below found, nodeFrom]
        cases entries.lookup name <;> rfl
      by_cases up : name = ".."
      · obtain ⟨above, stands⟩ := status_eq_directory.mp (status_dropLast (by rw [found]; rfl))
        cases rest <;>
          simp [up, stretch, checkDir, arrival, stands, bind, Except.bind, pure, Except.pure]
      · cases long : isTooLong name with
        | true => simp [up, bind, Except.bind, throw, throwThe, MonadExceptOf.throw]
        | false =>
          cases listed : entries.lookup name <;> cases rest <;>
            simp [up, stretch, checkDir, arrival, standing, below, listed, bind, Except.bind, pure,
              Except.pure]

/-- Without links, names lead to the node that reading enters. -/
theorem stretch_unlinked (here : List String) (name : String) (rest : List String) :
    ({} : Links).stretch disk here (name :: rest) >>= arrival disk =
      (name :: rest).foldlM disk.enter here >>= standing disk := by
  induction rest generalizing here name with
  | nil =>
    rw [stretch_enter, List.foldlM_cons, bind_assoc]
    rfl
  | cons next rest ih =>
    rw [stretch_enter, List.foldlM_cons, bind_assoc]
    exact bind_congr fun there => ih there next

theorem not_turns_unlinked {there : List String} {path : Path} {rest : List String} :
    ({} : Links).stretch disk here names ≠ .ok (.turns there path rest) := by
  intro turned
  induction names generalizing here with
  | nil => cases (stretch_nil.mp turned).2
  | cons name names ih =>
    obtain ⟨-, ⟨-, led⟩ | ⟨-, -, led⟩⟩ := stretch_cons.mp turned
    · exact ih led
    · cases names with
      | nil => cases led
      | cons next names => exact ih led

theorem find_unlinked (disk : Disk) (p : Path) : ({} : Links).find disk p =
    ({} : Links).stretch disk (disk.start p) p.names >>= arrival disk := by
  rw [find, locate, follow]
  split
  · rename_i fault failed
    rw [failed]
    rfl
  · rename_i place led
    rw [led]
    rfl
  · rename_i turned
    exact absurd turned not_turns_unlinked

/-- Without links, a path leads to a directory for writing exactly if it does for reading. -/
theorem isDir_unlinked (disk : Disk) (p : Path) : ({} : Links).isDir disk p = disk.isDir p := by
  rw [Links.isDir, Disk.isDir, leadsTo, find_unlinked]
  have read : disk.find p = p.names.foldlM disk.enter (disk.start p) >>= standing disk := rfl
  rw [read]
  cases p.names with
  | cons name rest => rw [stretch_unlinked]
  | nil =>
    rw [stretch, checkDir]
    cases found : disk.node? (disk.start p) with
    | none => simp [standing, found, bind, Except.bind, pure, Except.pure]
    | some node =>
      cases node <;> simp [standing, arrival, found, bind, Except.bind, pure, Except.pure, passes,
        Node.isDir]

end Links

end GoIdl.Disk
