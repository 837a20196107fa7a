import GoIdl.Output.Delivery
import GoIdl.Proofs.Disk.Writing
import GoIdl.Proofs.Output.Segments
import GoIdl.Proofs.Text.Lines

/-!
# Delivering into a directory

A text that is delivered into a directory writes the files of its segments there, the last one of a name
counting. It leaves everything else as it was, also where it fails midway. An entry of the directory
that is a link stands for what it leads to: then the text is found there, also outside the directory.
-/

namespace GoIdl.Output

open Disk (Links Path Written)

variable {links : Links} {disk disk' : Disk} {target : Path} {place : List String}
  {segments : List Segment}

/-- What a delivery does to the disk before it when it writes segments into a directory. -/
structure Delivers (links : Links) (disk : Disk) (target : Path) (segments : List Segment)
    (d : Delivery) : Prop where
  home : d.disk.home = disk.home
  /-- Failed or not, it changes nothing but files, or makes them, that the paths of segments lead to;
  directories and special files stay. -/
  confined : ∀ other, d.disk.status other ≠ disk.status other →
    disk.Free other ∧ ∃ s ∈ segments, links.Reaches disk (target.child s.name) other
  listed : ∀ paths, d.outcome = .ok paths → paths = segments.map fun s => target.child s.name
  /-- The path of each segment leads to a place for a text, and what takes the text holds it in the end
  unless the path of a later segment leads there. -/
  last : ∀ paths, d.outcome = .ok paths → ∀ before s after, segments = before ++ s :: after →
    ∃ place, links.locate disk (target.child s.name) = .ok place ∧
      disk.status place ≠ some .directory ∧
      ∀ other, links.Takes disk place other →
        (∀ later ∈ after, ¬ links.Reaches disk (target.child later.name) other) →
        d.disk.status other = some (.file (Text.encode s.content.toList))

theorem child_eq_append {name : String} (valid : IsFileName name.toList)
    (usable : isReserved name = false) : target.child name = target.append ⟨.relative, [name]⟩ := by
  have apart : '/' ∉ name.toList := valid.not_mem (by decide)
  have pieces : Text.splitString '/' name = [name] := by
    have single : Text.splitOn '/' (Text.joinWith ['/'] [name.toList]) = [name.toList] :=
      Text.splitOn_joinWith (List.cons_ne_nil name.toList []) (by simpa using apart)
    rw [Text.joinWith, List.intersperse_singleton, List.flatten_singleton] at single
    rw [Text.splitString, single, List.map_singleton, String.ofList_toList]
  have relative : name.toList.takeWhile (· == '/') = [] := by
    cases chars : name.toList with
    | nil => rfl
    | cons c rest =>
      rw [chars, List.mem_cons, not_or] at apart
      exact List.takeWhile_cons_of_neg (by simpa using Ne.symm apart.1)
  have kept : [name].filter (fun name => name != "" && name != ".") = [name] := by
    rw [isReserved, Bool.or_eq_false_iff] at usable
    refine List.filter_cons_of_pos ?_
    rw [Bool.and_eq_true, bne_iff_ne, bne, usable.1]
    exact ⟨fun empty => valid.nonempty (by rw [empty]; rfl), rfl⟩
  rw [Path.child, Path.ofString, Path.anchorOf, relative, pieces, kept]
  rfl

namespace Delivers

variable {d : Delivery}

theorem of_unchanged (unchanged : d.disk = disk)
    (empty : ∀ paths, d.outcome = .ok paths → paths = [] ∧ segments = []) :
    Delivers links disk target segments d := by
  refine ⟨by rw [unchanged], fun other changed => absurd (by rw [unchanged]) changed, ?_, ?_⟩
  · intro paths delivered
    obtain ⟨rfl, rfl⟩ := empty paths delivered
    rfl
  · intro paths delivered before s after whole
    obtain ⟨-, rfl⟩ := empty paths delivered
    simp at whole

/-- A file is written before a delivery. -/
theorem after {s : Segment} (located : links.locate disk (target.child s.name) = .ok place)
    (open' : disk.status place ≠ some .directory)
    (written : Written disk (Text.encode s.content.toList) (links.Takes disk place) disk')
    (rest : Delivers links disk' target segments d) :
    Delivers links disk target (s :: segments) (d.after (target.child s.name)) := by
  constructor
  · exact rest.home.trans written.home
  · intro other changed
    by_cases here : links.Takes disk place other
    · exact ⟨written.free other here, s, List.mem_cons_self, place, located, here.mem_placesOf⟩
    · have kept := written.kept other here
      obtain ⟨free, s', member, reached⟩ := rest.confined other (kept ▸ changed)
      rw [Disk.Free, kept] at free
      exact ⟨free, s', List.mem_cons_of_mem _ member, written.reaches_iff.mp reached⟩
  · intro paths delivered
    obtain ⟨paths, succeeded, rfl⟩ := map_eq_ok.mp delivered
    rw [rest.listed paths succeeded, List.map_cons]
  · intro paths delivered before s' after whole
    obtain ⟨paths, succeeded, rfl⟩ := map_eq_ok.mp delivered
    cases before with
    | nil =>
      -- the text that has just been written stays, since no later segment leads to it
      cases whole
      refine ⟨place, located, open', fun other takes final => ?_⟩
      have stays : d.disk.status other = disk'.status other := by
        by_contra changed
        obtain ⟨-, later, member, reached⟩ := rest.confined other changed
        exact final later member (written.reaches_iff.mp reached)
      exact stays.trans (written.changed other takes)
    | cons first before =>
      obtain ⟨place', located', open'', holds⟩ :=
        rest.last paths succeeded before s' after (List.cons.inj whole).2
      refine ⟨place', (Links.locate_sameDirs written.sameDirs).mp located',
        mt (written.sameDirs.status place').mpr open'', fun other takes final => ?_⟩
      exact holds other (written.takes takes) fun later member =>
        mt written.reaches_iff.mp (final later member)

end Delivers

theorem deliverSegments_delivers (valid : ∀ s ∈ segments, IsFileName s.name.toList) :
    Delivers links disk target (segments.filter fun s => !isReserved s.name)
      (deliverSegments links disk target segments) := by
  induction segments generalizing disk with
  | nil =>
    refine .of_unchanged rfl ?_
    rintro _ ⟨⟩
    exact ⟨rfl, rfl⟩
  | cons s segments ih =>
    have later : ∀ s ∈ segments, IsFileName s.name.toList := fun s member =>
      valid s (List.mem_cons_of_mem _ member)
    rw [deliverSegments]
    split
    · rename_i reserved
      have rest := @ih disk later
      rw [List.filter_cons_of_neg (by simp [reserved])]
      exact ⟨rest.home, rest.confined, rest.listed, rest.last⟩
    · rename_i usable
      have usable : isReserved s.name = false := by simpa using usable
      rw [List.filter_cons_of_pos (by simp [usable])]
      dsimp only
      rw [← child_eq_append (valid s List.mem_cons_self) usable]
      split
      · exact .of_unchanged rfl nofun
      · rename_i disk' succeeded
        obtain ⟨place, located, open', written⟩ := Disk.writeText_written succeeded
        exact .after located open' written (ih later)

/-- Delivering a text into a directory that exists writes the texts of its honoured segments where
their paths lead, and these are entries of the directory as far as they are no symbolic links. -/
theorem deliver_confined {text : String} (directory : links.isDir disk target = .ok true) :
    Segmented text.toList (split text) ∧ ∃ place, links.locate disk target = .ok place ∧
      disk.status place = some .directory ∧
      (∀ s ∈ split text, isReserved s.name = false →
        links.symbolic.lookup (place ++ [s.name]) = none → ∀ there,
          links.locate disk (target.child s.name) = .ok there → there = place ++ [s.name]) ∧
      Delivers links disk target ((split text).filter fun s => !isReserved s.name)
        (deliver disk text (some target) links) := by
  have valid := (segmented_split text).isFileName
  obtain ⟨place, located, stands⟩ := Links.isDir_eq_true directory
  refine ⟨segmented_split text, place, located, stands, fun s member usable unlinked there led => ?_, ?_⟩
  · rw [child_eq_append (valid s member) usable] at led
    refine Links.locate_entry located stands ?_ unlinked led
    intro up
    rw [up] at usable
    cases usable
  · rw [deliver, directory]
    exact deliverSegments_delivers valid

/-- Of two segments with one name the later one stays, also where the name is a symbolic link, and a
segment named as the directory above is skipped. -/
theorem deliver_confined_later_wins :
    let disk : Disk := ⟨[("out", .dir [("b", .file [])])], []⟩
    let links : Links := { symbolic := [(["out", "a"], ⟨.relative, ["..", "c"]⟩)] }
    let target : Path := ⟨.root, ["out"]⟩
    let text := ">>>BEGIN a\n1\n<<<END a\n>>>BEGIN ..\n<<<END ..\n>>>BEGIN a\n2\n<<<END a\n"
    links.isDir disk target = .ok true ∧
      Delivers links disk target [⟨"a", "1"⟩, ⟨"a", "2"⟩] (deliver disk text (some target) links) := by
  intro disk links target text
  have directory : links.isDir disk target = .ok true := by rfl
  have kept : ((split text).filter fun s => !isReserved s.name) = [⟨"a", "1"⟩, ⟨"a", "2"⟩] := by
    decide
  obtain ⟨-, place, -, -, -, delivers⟩ := @deliver_confined links disk target text directory
  rw [kept] at delivers
  exact ⟨directory, delivers⟩

/-- Links lead a text out of the directory, and not every honoured segment is written: a symbolic link
makes a file beside the directory, a hard link changes one there, and the path of a segment that is
named as the directory itself is not returned. -/
theorem deliver_follows_links :
    let disk : Disk := ⟨[("out", .dir [("h", .file [])]), ("kept", .file [])], []⟩
    let target : Path := ⟨.root, ["out"]⟩
    let text := ">>>BEGIN .\nx\n<<<END .\n>>>BEGIN h\ny\n<<<END h\n"
    let symbolic : Links := { symbolic := [(["out", "h"], ⟨.relative, ["..", "made"]⟩)] }
    let hard : Links := { hard := [[["out", "h"], ["kept"]]] }
    (disk.isDir target = .ok true ∧ split text = [⟨".", "x"⟩, ⟨"h", "y"⟩]) ∧
      (disk.status ["made"] = none ∧
        (deliver disk text (some target) symbolic).disk.status ["made"] =
          some (.file (Text.encode ['y']))) ∧
      (deliver disk text (some target) hard).disk.status ["kept"] = some (.file (Text.encode ['y'])) ∧
      (deliver disk text (some target)).outcome = .ok [⟨.root, ["out", "h"]⟩] := by
  refine ⟨⟨rfl, by decide⟩, ⟨rfl, rfl⟩, rfl, rfl⟩

end GoIdl.Output
