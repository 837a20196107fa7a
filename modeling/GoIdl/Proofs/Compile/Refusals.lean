import GoIdl.Proofs.Compile.Alone
import GoIdl.Proofs.Compile.Termination
import GoIdl.Proofs.Compile.Unaided
import GoIdl.Proofs.Package.Enlarging
import GoIdl.Proofs.Syntax.BadEscapes

/-!
# Refused texts

Compiling texts in memory opens no file. It comes to a definition or to an error in the definitions,
unless the texts hold a value that cannot be represented: an escape beyond the last character in a
literal or in the value of a tag, or an integer of too many digits in a doc.
-/

namespace GoIdl

open Syntax (SourceFile TypeSpec Location EscapeFault)
open Syntax.Parser (LiteralSite)

/-- A declaration that is written in one of these texts. -/
def Syntax.TypeSpec.WrittenIn (sources : List (String × String)) (spec : TypeSpec) : Prop :=
  ∃ source ∈ sources, ∃ file, Syntax.Source.read source.1 source.2 = .ok file ∧ spec ∈ file.types

namespace Compile

/-- What the compilation of texts may come to. -/
inductive Accounted (sources : List (String × String)) : Except Failure Compiled → Prop
  | compiled (compiled : Compiled) : Accounted sources (.ok compiled)
  | definition (error : DefinitionError) : Accounted sources (.error (.definition error))
  /-- A literal in a text holds an escape that names no character. -/
  | literal {source : String × String} {fault : EscapeFault} (site : LiteralSite)
      (listed : source ∈ sources) (inside : fault.In source.2.toList)
      (beyond : 0x110000 ≤ fault.number) : Accounted sources (.error (.literal site fault))
  /-- The value of a tag holds such an escape. -/
  | tag {spec : TypeSpec} {tag : String} {fault : EscapeFault} (written : spec.WrittenIn sources)
      (tagged : tag ∈ spec.tags) (refused : Tag.split? tag = .error (.escape fault))
      (beyond : 0x110000 ≤ fault.number) : Accounted sources (.error (.escape fault))
  /-- A line of a doc holds an integer of too many digits. -/
  | doc {spec : TypeSpec} {doc : String} {location : Location} {m : Metadata} {count : Nat}
      (written : spec.WrittenIn sources) (documented : doc ∈ spec.docs)
      (refused : Metadata.upToFailure doc (some location) = (m, some (.tooManyDigits count)))
      (many : Json.digitLimit < count) : Accounted sources (.error (.tooManyDigits count))

variable {sources : List (String × String)} {files : List SourceFile} {p : Package}

theorem writtenIn_of_formed {serial : Nat} {d : DeclaredType}
    (read : sources.mapM (fun source => Syntax.Source.read source.1 source.2) = .ok files)
    (formed : Package.ofFiles serial files none none none = .ok p) (of : d.Of p) :
    d.spec.WrittenIn sources := by
  obtain ⟨name, found⟩ := of
  obtain ⟨declaration, entered, rfl⟩ := Option.map_eq_some_iff.mp found
  have member := Json.mem_of_find? entered
  rw [(Package.ofFiles_ok formed).2.2.1, Package.declarations, List.mem_flatMap] at member
  obtain ⟨file, listed, entry⟩ := member
  obtain ⟨spec, declared, same⟩ := List.mem_map.mp entry
  cases same
  obtain ⟨source, given, reading⟩ := exists_left_of_forall₂ (mapM_eq_ok.mp read) listed
  exact ⟨source, given, file, reading, List.mem_of_mem_filter declared⟩

theorem loading_accounted {disk : Disk} {failure : Failure} {w : World}
    (run : (Loading.loadSources sources).runOn disk {} = (.error failure, w)) :
    Accounted sources (.error failure) := by
  rw [Loading.loadSources_run] at run
  split at run
  · rename_i read
    cases run
    obtain ⟨source, listed, refused⟩ := exists_of_mapM_eq_error read
    rcases Syntax.Source.ofPath_refused refused with ⟨error, rfl⟩ | ⟨site, fault, rfl, inside⟩
    · exact .definition error
    · exact .literal site listed inside inside.beyond
  · split at run
    · cases run
      exact .definition _
    · cases run

theorem extraction_accounted {disk : Disk} {failure : Failure} {u v : World}
    {exclusions : List String} (loading : (Loading.loadSources sources).runOn disk {} = (.ok p, u))
    (run : (Extract.package exclusions p).runOn disk u = (.error failure, v)) :
    Accounted sources (.error failure) := by
  obtain ⟨files, read, formed, alone⟩ := Loading.loadSources_eq_ok loading
  have ended := (Extract.package_unaided (Package.ofFiles_given formed).2.2.2 exclusions).failed
    disk u failure v run
  have sound := (Loading.loadSources_ok .empty loading).1.sound
  have ends : Extract.Ends disk u.log u (Extract.package exclusions p) :=
    Extract.package_ends (Extract.orderly_start sound alone.session) (by simp [alone.packages])
  have ofInput := (ends.failed failure v run).1
  cases ended with
  | definition error => exact .definition error
  | tag of tagged refused =>
    exact .tag (writtenIn_of_formed read formed of) tagged refused (Tag.split?_refused refused)
  | doc of documented refused =>
    obtain ⟨count, rfl, many⟩ := Metadata.upToFailure_refused refused
    exact .doc (writtenIn_of_formed read formed of) documented refused many
  | tooDeep => exact ofInput.elim

/-- Compiling texts comes to a definition or an error in the definitions, unless one of the texts
holds a value out of bounds. -/
theorem sources_accounted (disk : Disk) (sources : List (String × String)) (options : Options) :
    Accounted sources ((Compile.sources sources options).runOn disk {}).1 := by
  simp only [Compile.sources, compile, extract, bind_assoc, pure_bind]
  rw [runOn_bind]
  rcases loading : (Loading.loadSources sources).runOn disk {} with ⟨failure | p, u⟩
  · exact loading_accounted loading
  · dsimp only
    rw [runOn_bind]
    rcases run : (Extract.package (exclusionsOf options) p).runOn disk u with ⟨failure | ⟨⟩, v⟩
    · exact extraction_accounted loading run
    · exact .compiled _

/-- An import whose path names a character beyond the last one. -/
def unreadableImport : List (String × String) := [("a.go", "package a; import \"\\U00110000\"")]

/-- Compiling texts may fail without an error in the definitions. -/
theorem unreadable_import_let_through :
    ∃ failure w, (Compile.sources unreadableImport {}).runOn ⟨[], []⟩ {} = (.error failure, w) ∧
      ∀ error, failure ≠ .definition error := by
  have shape : (((Compile.sources unreadableImport {}).runOn ⟨[], []⟩ {}).1.map fun _ => ()).mapError
      Extract.isDefinitionError == .error false := by
    decide +kernel
  rcases run : (Compile.sources unreadableImport {}).runOn ⟨[], []⟩ {} with ⟨failure | compiled, w⟩
  · rw [run] at shape
    refine ⟨failure, w, rfl, ?_⟩
    rintro error rfl
    cases shape
  · rw [run] at shape
    cases shape

end Compile

end GoIdl
