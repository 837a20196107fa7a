import GoIdl.Proofs.Syntax.RereadingLists

/-!
# A declaration of a printed type

A file that declares `X` as a printed type expression is read as that declaration. The text of the
expression may come from anywhere inside a type of a file that has been read, with two exceptions: a
result list with a variadic entry, and a name that is only a name because no type can stand in its
place.
-/

namespace GoIdl.Syntax

namespace Parser

open Reading

/-- What stands before the type in the text of a single declaration. -/
def declarationHead : List Char := "package p\ntype X ".toList

theorem scan_package (rest : List Char) :
    scan Mode.start.expects ("package".toList ++ ' ' :: rest) =
      some (.token .packageKeyword "package".toList, ' ' :: rest) := rfl

theorem scan_type (file : SourceFile) (rest : List Char) :
    scan (Mode.imports file).expects ("type".toList ++ ' ' :: rest) =
      some (.token .typeKeyword "type".toList, ' ' :: rest) := rfl

theorem head_read {rest : List Char} (solid : ∀ c ∈ rest.head?, isLayout c = false) :
    ∃ s pos doc file, (Reading.start (declarationHead ++ rest)).Leads s ∧
      s.At (.specName ⟨"X", pos⟩ doc (.single file)) rest ∧
      file.package = "p" ∧ file.imports = [] ∧ file.types = [] := by
  have place : (Reading.start (declarationHead ++ rest)).At .start ("package".toList ++ ' ' ::
      ("p".toList ++ '\n' :: ("type".toList ++ ' ' :: ("X".toList ++ ' ' :: rest)))) :=
    ⟨rfl, rfl, rfl⟩
  obtain ⟨a, toPackage, atPackage, -⟩ := leads_token place (scan_package _) (by decide) (by decide)
    (by decide) rfl
  obtain ⟨b, toName, atName, -⟩ := leads_blank atPackage (Mode.unexpected rfl)
    (by rintro c ⟨⟩; rfl)
  obtain ⟨c, toLine, atLine, last⟩ := leads_word atName (Mode.unexpected rfl)
    (Mode.expected rfl) (by decide) (by simp only [Mode.expects]; decide)
    (breaks_cons (by decide) _) rfl
  -- The line ends behind a name, so the line break is the semicolon of the package clause.
  obtain ⟨d, toType, atType, -⟩ := leads_newline atLine (Mode.unexpected rfl)
    (ends_of_last last rfl) (Mode.expected rfl) rfl
  obtain ⟨e, toBlank, atBlank, -⟩ := leads_token atType (scan_type _ _) (by decide) (by decide)
    (Mode.expected rfl) rfl
  obtain ⟨f, toSpec, atSpec, -⟩ := leads_blank atBlank (Mode.unexpected rfl)
    (by rintro c ⟨⟩; rfl)
  obtain ⟨g, toSpecName, atSpecName, -⟩ := leads_word atSpec (Mode.unexpected rfl)
    (Mode.expected rfl) (by decide) (by simp only [Mode.expects]; decide)
    (breaks_cons (by decide) _) rfl
  obtain ⟨h, toRest, atRest, -⟩ := leads_blank atSpecName (Mode.noOperator rfl) solid
  exact ⟨h, _, _, _, ((((((toPackage.trans toName).trans toLine).trans toType).trans toBlank).trans
    toSpec).trans toSpecName).trans toRest, atRest, rfl, rfl, rfl⟩

theorem finish_decls {r : Reading} {file : SourceFile} {pos : Position} (place : r.At (.decls file) [])
    (last : r.last = some (semicolonAt pos)) :
    ∃ s, r.finish = .ok s ∧ s.mode = .done file ∧ s.fault = none := by
  have advanced : advance (Comment.above r.comments) r.mode r.endToken = goto (.done file) := by
    rw [place.mode]
    rfl
  have ended : atEnd r.last = none := by
    rw [last]
    rfl
  refine ⟨{ r with mode := .done file, fault := none, last := some r.endToken }, ?_, rfl, rfl⟩
  unfold Reading.finish
  rw [ended]
  refine bind_eq_ok.mpr ⟨r, rfl, ?_⟩
  simp only [feed, advanced, goto, place.sound]
  rfl

theorem parse_of_leads {source : List Char} {r : Reading} {file : SourceFile} {pos : Position}
    (leads : (Reading.start source).Leads r) (place : r.At (.decls file) [])
    (last : r.last = some (semicolonAt pos)) :
    ∃ parsed, parse source = .ok parsed ∧ parsed.file = .ok file := by
  obtain ⟨s, finished, mode, sound⟩ := finish_decls place last
  have ran : (Reading.start source).run source.length = .ok r := leads.run place.rest (Nat.le_refl _)
  refine ⟨⟨s.comments, .ok file⟩, bind_eq_ok.mpr ⟨r, ran, bind_eq_ok.mpr ⟨s, finished, ?_⟩⟩, rfl⟩
  simp only [mode, sound]
  rfl

/-- A declaration of an expression that is read wherever a type may start. -/
theorem declaration_read {type : TypeExpr} (solid : Solid type.text) (readsBack : ReadsBack type) :
    ∃ parsed file spec, parse (declarationHead ++ (type.text.toList ++ ['\n'])) = .ok parsed ∧
      parsed.file = .ok file ∧ file.package = "p" ∧ file.imports = [] ∧ file.types = [spec] ∧
      spec.name = "X" ∧ spec.isAlias = false ∧ spec.type.bare = type.bare := by
  obtain ⟨r, pos, doc, file, toType, place, package, imports, types⟩ := head_read (solid.head ['\n'])
  obtain ⟨s, type', toEnd, bare, ends, awaits⟩ := readsBack (begins_specName place.mode type.first_mem)
    place.rest place.sound (breaks_cons (by decide) [])
  let spec : TypeSpec := { pos, name := "X", type := type', isAlias := false, doc }
  have closes : (semicolonAt s.pos).terminal ∈ typeClosers := by simp only [semicolonAt]; decide
  have taken : accept (Comment.above s.comments) (semicolonAt s.pos) s.mode =
      goto (.decls { file with types := file.types ++ [spec] }) := by
    rw [awaits.accepts _ _ closes, typeRead]
    rfl
  obtain ⟨u, toDecls, behind, last⟩ := leads_newline ⟨rfl, awaits.rest, awaits.sound⟩ awaits.noOperator
    ends (awaits.expects _ closes) taken
  obtain ⟨parsed, done, whole⟩ := parse_of_leads ((toType.trans toEnd).trans toDecls) behind last
  exact ⟨parsed, _, spec, done, whole, package, imports, by rw [types]; rfl, rfl, rfl, bare⟩

end Parser

namespace Source

/-- A legible type without variadic results is read from the text of its declaration. -/
theorem read_legible_text {type : TypeExpr} (legible : type.Legible)
    (fixed : ∀ σ ∈ type.signatures, ∀ p ∈ σ.results, p.variadic = false) (name : String) :
    ∃ file spec, read name ("package p\ntype X " ++ type.text ++ "\n") = .ok file ∧
      file.package = "p" ∧ file.imports = [] ∧ file.types = [spec] ∧ spec.name = "X" ∧
      spec.isAlias = false ∧ spec.type.bare = type.bare := by
  obtain ⟨parsed, file, spec, done, whole, package, imports, types, facts⟩ :=
    Parser.declaration_read legible.solid (Parser.readsBack_legible legible fixed)
  have letters : ("package p\ntype X " ++ type.text ++ "\n").toList =
      Parser.declarationHead ++ (type.text.toList ++ ['\n']) := by
    rw [String.toList_append, String.toList_append, List.append_assoc]
    rfl
  refine ⟨{ file with path := (Disk.Path.ofString name).text }, spec, ?_, package, imports, types, facts⟩
  have parsing : Source.parse (.ofString name) ("package p\ntype X " ++ type.text ++ "\n") = .ok parsed := by
    refine mapError_eq_ok.mpr ?_
    rw [letters]
    exact done
  exact bind_eq_ok.mpr ⟨parsed, parsing, bind_eq_ok.mpr ⟨file, mapError_eq_ok.mpr whole, rfl⟩⟩

/-- Every expression in a type that has been read is read again from its text, up to positions, docs
and tags, unless a result in it is variadic or it is an embedded name that starts like another
type. -/
theorem read_printed {name text : String} {file : SourceFile} {spec : TypeSpec} {type : TypeExpr}
    (done : read name text = .ok file) (declared : spec ∈ file.types) (part : type ∈ spec.type.parts)
    (fixed : ∀ σ ∈ type.signatures, ∀ p ∈ σ.results, p.variadic = false)
    (plain : ∀ n ∈ type.name?, n.first ∉ typeWords) (name' : String) :
    ∃ file' spec', read name' ("package p\ntype X " ++ type.text ++ "\n") = .ok file' ∧
      file'.package = "p" ∧ file'.imports = [] ∧ file'.types = [spec'] ∧ spec'.name = "X" ∧
      spec'.isAlias = false ∧ spec'.type.bare = type.bare := by
  have legible : type.Legible := (read_legible done spec declared).part part plain
  exact read_legible_text legible fixed name'

/-- The parameters of the callback share their type where it is read, and not where it is written. -/
theorem read_printed_callback :
    ∃ file spec type, read "a.go" "package p\ntype T []func(a, b K) *L\n" = .ok file ∧
      spec ∈ file.types ∧ type ∈ spec.type.parts ∧ type.text = "func(a K, b K) *L" ∧
      ∃ file' spec', read "b.go" ("package p\ntype X " ++ type.text ++ "\n") = .ok file' ∧
        file'.package = "p" ∧ file'.imports = [] ∧ file'.types = [spec'] ∧ spec'.name = "X" ∧
        spec'.isAlias = false ∧ spec'.type.bare = type.bare := by
  have found : ((read "a.go" "package p\ntype T []func(a, b K) *L\n").toOption.any fun file =>
      file.types.any fun spec => spec.type.parts.any fun type =>
        type.text == "func(a K, b K) *L" && type.name?.isNone &&
          type.signatures.all fun σ => σ.results.all fun p => !p.variadic) = true := by
    decide +kernel
  cases done : read "a.go" "package p\ntype T []func(a, b K) *L\n" with
  | error failure =>
    rw [done] at found
    cases found
  | ok file =>
    rw [done] at found
    obtain ⟨spec, declared, inside⟩ := List.any_eq_true.mp found
    obtain ⟨type, part, held⟩ := List.any_eq_true.mp inside
    simp only [Bool.and_eq_true, beq_iff_eq, Option.isNone_iff_eq_none, List.all_eq_true,
      Bool.not_eq_true'] at held
    obtain ⟨⟨text, noName⟩, fixed⟩ := held
    have plain : ∀ n ∈ type.name?, n.first ∉ typeWords := by simp [noName]
    exact ⟨file, spec, type, rfl, declared, part, text,
      read_printed done declared part fixed plain "b.go"⟩

/-- A name that is only a name where no other type can stand. -/
def mapName : TypeExpr := .named ⟨⟨2, 15⟩, none, "map"⟩

/-- An embedded type may go by a word that starts other types. By itself the word is no type. -/
theorem embedded_word_not_reread :
    read "a.go" "package p\ntype T struct\x7bmap\x7d\n" =
        .ok ⟨"a.go", ⟨1, 1⟩, "p", [], [⟨⟨2, 6⟩, "T",
          .struct ⟨2, 8⟩ [⟨⟨2, 15⟩, "map", mapName, none, true, ""⟩], false, ""⟩]⟩ ∧
      mapName ∈ (TypeExpr.struct ⟨2, 8⟩ [⟨⟨2, 15⟩, "map", mapName, none, true, ""⟩]).parts ∧
      mapName.signatures = [] ∧
      ∀ file, read "b.go" ("package p\ntype X " ++ mapName.text ++ "\n") ≠ .ok file := by
  have refused : (read "b.go" "package p\ntype X map\n").toOption.isNone = true := by decide +kernel
  have text : "package p\ntype X " ++ mapName.text ++ "\n" = "package p\ntype X map\n" := by
    decide +kernel
  have part : mapName ∈ (TypeExpr.struct ⟨2, 8⟩ [⟨⟨2, 15⟩, "map", mapName, none, true, ""⟩]).parts := by
    rw [TypeExpr.parts, fieldParts, fieldParts, mapName, TypeExpr.parts]
    simp
  refine ⟨rfl, part, rfl, fun file done => ?_⟩
  rw [← text, done] at refused
  cases refused

end Source

end GoIdl.Syntax
