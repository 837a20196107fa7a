import GoIdl.Proofs.Compile.Reordering
import GoIdl.Proofs.Compile.WiderExtraction
import GoIdl.Proofs.Package.Budget

/-!
# Irrelevant declarations

A declaration that nothing names, and that is an alias or no more than a composition of other types, has
no effect: files with it and files without it come to one definition, or one error.
-/

namespace GoIdl

open Syntax (TypeExpr TypeSpec SourceFile)

/-- Pointers, slices, arrays, maps, channels and functions. -/
def Syntax.TypeExpr.isComposite : TypeExpr → Bool
  | .pointer .. | .slice .. | .array .. | .map .. | .chan .. | .func .. => true
  | .named .. | .struct .. | .interface .. => false

/-- A declaration that describes neither a service nor an object. -/
def Syntax.TypeSpec.Irrelevant (spec : TypeSpec) : Prop :=
  spec.isAlias = true ∨ spec.type.isComposite = true

/-- The file neither declares a name nor has it in one of its types. -/
def Syntax.SourceFile.Lacks (file : SourceFile) (name : String) : Prop :=
  ∀ spec ∈ file.types, spec.name ≠ name ∧ Avoids name spec.type

instance (file : SourceFile) (name : String) : Decidable (file.Lacks name) :=
  inferInstanceAs (Decidable (∀ spec ∈ file.types, spec.name ≠ name ∧ Avoids name spec.type))

variable {disk : Disk} {left : Nat} {more : Bool} {extra name : String} {p p' : Package}
  {file file' : SourceFile} {files files' : List SourceFile} {xs ys : List (String × Declaration)}
  {seen seen' : List String}

/-! ### One declaration more -/

/-- One declaration in files that look names up alike. -/
structure SameDeclaration (d d' : Declaration) : Prop where
  spec : d.spec = d'.spec
  file : FilesAlike True d.file d'.file

/-- The second list has the declarations of the first one, and if `more`, an irrelevant one of `extra`. -/
inductive Adds (extra : String) :
    Bool → List (String × Declaration) → List (String × Declaration) → Prop
  | nil : Adds extra false [] []
  | added {xs ys : List (String × Declaration)} {d : Declaration} (irrelevant : d.spec.Irrelevant)
      (rest : Adds extra false xs ys) : Adds extra true xs ((extra, d) :: ys)
  | cons {more : Bool} {xs ys : List (String × Declaration)} {d d' : Declaration} (name : String)
      (same : SameDeclaration d d') (rest : Adds extra more xs ys) :
      Adds extra more ((name, d) :: xs) ((name, d') :: ys)

namespace Adds

theorem append (entries : List (String × Declaration)) (adds : Adds extra more xs ys) :
    Adds extra more (entries ++ xs) (entries ++ ys) := by
  induction entries with
  | nil => exact adds
  | cons entry rest ih => exact .cons entry.1 ⟨rfl, rfl, fun _ => rfl⟩ ih

/-- Before come declarations of a file that has changed. -/
theorem append_inside (alike : FilesAlike True file file') (specs : List TypeSpec)
    (adds : Adds extra more xs ys) :
    Adds extra more (specs.map (fun spec => (spec.name, ⟨spec, file⟩)) ++ xs)
      (specs.map (fun spec => (spec.name, ⟨spec, file'⟩)) ++ ys) := by
  induction specs with
  | nil => exact adds
  | cons spec rest ih => exact .cons spec.name ⟨rfl, alike⟩ ih

theorem length_le (adds : Adds extra more xs ys) : xs.length ≤ ys.length := by
  induction adds with
  | nil => exact Nat.le_refl _
  | added _ _ ih => exact Nat.le_succ_of_le ih
  | cons _ _ _ ih => exact Nat.succ_le_succ ih

theorem keys (adds : Adds extra more xs ys) (absent : extra ∉ Json.keys xs) :
    Json.keys xs = (Json.keys ys).filter (· != extra) := by
  unfold Json.keys at absent ⊢
  induction adds with
  | nil => rfl
  | added _ _ ih =>
    rw [List.map_cons, List.filter_cons_of_neg (by simp)]
    exact ih absent
  | cons name _ _ ih =>
    obtain ⟨other, absent⟩ := List.ne_and_not_mem_of_not_mem_cons absent
    rw [List.map_cons, List.map_cons, List.filter_cons_of_pos (by simpa using other.symm)]
    exact congrArg (name :: ·) (ih absent)

theorem lookup (adds : Adds extra more xs ys) (other : name ≠ extra) :
    Option.Rel SameDeclaration (Json.find? name xs) (Json.find? name ys) := by
  induction adds with
  | nil => exact .none
  | added _ _ ih =>
    rw [Json.find?_cons, if_neg other]
    exact ih
  | cons key same _ ih =>
    rw [Json.find?_cons, Json.find?_cons]
    split
    · exact .some same
    · exact ih

theorem lookup_extra {d : Declaration} (adds : Adds extra more xs ys) (absent : extra ∉ Json.keys xs)
    (found : Json.find? extra ys = some d) : d.spec.Irrelevant := by
  induction adds with
  | nil => cases found
  | added irrelevant _ _ =>
    rw [Json.find?_cons, if_pos rfl] at found
    cases found
    exact irrelevant
  | cons name _ _ ih =>
    obtain ⟨other, absent⟩ := List.ne_and_not_mem_of_not_mem_cons absent
    rw [Json.find?_cons, if_neg other] at found
    exact ih absent found

theorem redeclared? (adds : Adds extra more xs ys) (absent : extra ∉ Json.keys xs)
    (fresh : more = true → extra ∉ seen') (alike : ∀ name ≠ extra, name ∈ seen ↔ name ∈ seen') :
    Option.Rel SameDeclaration (Package.redeclared? seen xs) (Package.redeclared? seen' ys) := by
  induction adds generalizing seen seen' with
  | nil => exact .none
  | added _ _ ih =>
    rw [Package.redeclared?.eq_2, if_neg (mt List.contains_iff_mem.mp (fresh rfl))]
    refine ih absent (fun added => absurd added Bool.false_ne_true) fun name other => ?_
    rw [List.mem_cons, or_iff_right other, alike name other]
  | cons name same _ ih =>
    obtain ⟨other, absent⟩ := List.ne_and_not_mem_of_not_mem_cons absent
    unfold Package.redeclared?
    simp only [List.contains_iff_mem, alike name other.symm]
    split
    · exact .some same
    · refine ih absent (fun added => ?_) fun later different => ?_
      · exact List.not_mem_cons_of_ne_of_not_mem other (fresh added)
      · rw [List.mem_cons, List.mem_cons, alike later different]

end Adds

/-- Files with one package clause, in one place, that look names up alike. -/
structure SameFile (file file' : SourceFile) : Prop extends FilesAlike True file file' where
  package : file.package = file'.package
  pos : file.pos = file'.pos

/-- The second files declare what the first ones do, and maybe an irrelevant `extra`. -/
structure Grown (extra : String) (files files' : List SourceFile) : Prop where
  alike : List.Forall₂ SameFile files files'
  adds : ∃ more, Adds extra more (Package.declarations files) (Package.declarations files')
  lacking : ∀ file ∈ files, file.Lacks extra

namespace Grown

/-- A declaration more in one of the files. -/
theorem of_added {before after : List SourceFile} {types types' : List TypeSpec} {spec : TypeSpec}
    (declared : file.types = types ++ types') (irrelevant : spec.Irrelevant)
    (lacking : ∀ f ∈ before ++ file :: after, f.Lacks spec.name) :
    Grown spec.name (before ++ file :: after)
      (before ++ { file with types := types ++ spec :: types' } :: after) where
  alike := by
    have same : ∀ files, List.Forall₂ SameFile files files := fun files =>
      List.forall₂_same.mpr fun _ _ => ⟨⟨rfl, fun _ => rfl⟩, rfl, rfl⟩
    exact List.rel_append (same before) (.cons ⟨⟨rfl, fun _ => rfl⟩, rfl, rfl⟩ (same after))
  adds := by
    obtain ⟨file', grown⟩ : ∃ file', { file with types := types ++ spec :: types' } = file' := ⟨_, rfl⟩
    have inside : FilesAlike True file file' := by
      rw [← grown]
      exact ⟨rfl, fun _ => rfl⟩
    have declared' : file'.types = types ++ spec :: types' := by rw [← grown]
    have rest : Adds spec.name false (Package.declarations after) (Package.declarations after) := by
      simpa using Adds.append (Package.declarations after) .nil
    rw [grown]
    simp only [Package.declarations, List.flatMap_append, List.flatMap_cons, declared, declared',
      List.filter_append, List.map_append, List.append_assoc]
    by_cases blank : spec.name = "_"
    · rw [List.filter_cons_of_neg (by simp [blank])]
      exact ⟨_, .append _ (.append_inside inside _ (.append_inside inside _ rest))⟩
    · rw [List.filter_cons_of_pos (by simp [blank])]
      exact ⟨_, .append _ (.append_inside inside _ (.added irrelevant (.append_inside inside _ rest)))⟩
  lacking := lacking

theorem absent (grown : Grown extra files files') : extra ∉ Json.keys (Package.declarations files) := by
  intro member
  obtain ⟨⟨_, declaration⟩, listed, rfl⟩ := List.mem_map.mp member
  obtain ⟨held, spec, -, named⟩ := Package.mem_declarations_iff.mp listed
  exact (grown.lacking _ held _ spec).1 named

/-- A package of the grown files is wider. -/
theorem widens (grown : Grown extra files files') {serial serial' : Nat} (path : String) :
    Widens extra ⟨serial, path, path, files, none, none, Package.declarations files⟩
      ⟨serial', path, path, files', none, none, Package.declarations files'⟩ where
  module := rfl
  module' := rfl
  name := rfl
  path := rfl
  names := by
    obtain ⟨more, adds⟩ := grown.adds
    exact (congrArg sortStrings (adds.keys grown.absent)).trans
      (filter_sortBy stringLe_total stringLe_trans _ _).symm
  lookup name other := by
    obtain ⟨more, adds⟩ := grown.adds
    have held : ∀ {files : List SourceFile} {d : Declaration},
        Json.find? name (Package.declarations files) = some d →
          d.file ∈ files ∧ d.spec ∈ d.file.types ∧ d.spec.name = name := fun found => by
      obtain ⟨held, listed, -, named⟩ := Package.mem_declarations_iff.mp (Json.mem_of_find? found)
      exact ⟨held, listed, named⟩
    have sought := adds.lookup other
    unfold Package.lookup
    dsimp only
    change Option.Rel _ (Option.map _ (Json.find? name _)) (Option.map _ (Json.find? name _))
    rcases found : Json.find? name (Package.declarations files) with _ | d <;>
      rcases found' : Json.find? name (Package.declarations files') with _ | d' <;>
        rw [found, found'] at sought
    · exact .none
    · cases sought
    · cases sought
    · obtain ⟨member, listed, named⟩ := held found
      obtain ⟨member', -⟩ := held found'
      cases sought with
      | some same =>
        refine .some ⟨?_, ⟨rfl, rfl, member, member', same.file⟩, same.spec,
          (grown.lacking _ member _ listed).2⟩
        exact congrArg (Option.map _) (named.symm ▸ found)

/-- Files that have grown form a package that is wider, or fail as before. -/
theorem ofFiles (grown : Grown extra files files') (serial : Nat) :
    (∃ error, Package.ofFiles serial files none none none = .error error ∧
      Package.ofFiles serial files' none none none = .error error) ∨
    ∃ p p', Package.ofFiles serial files none none none = .ok p ∧
      Package.ofFiles serial files' none none none = .ok p' ∧ Widens extra p p' ∧
      p.scope.length ≤ p'.scope.length ∧ ∀ d, p'.lookup extra = some d → d.spec.Irrelevant := by
  obtain ⟨more, adds⟩ := grown.adds
  have taken := adds.redeclared? grown.absent (fun _ => List.not_mem_nil) fun _ _ => Iff.rfl
  have packages : files.map (·.package) = files'.map (·.package) := by
    rw [← List.forall₂_eq_eq_eq, List.forall₂_map_left_iff, List.forall₂_map_right_iff]
    exact grown.alike.imp fun _ _ same => same.package
  have extras : ∀ {p : Package}, p.scope = Package.declarations files' → ∀ d, p.lookup extra = some d →
      d.spec.Irrelevant := by
    intro p scope d found
    obtain ⟨declaration, held, rfl⟩ := Option.map_eq_some_iff.mp found
    rw [scope] at held
    exact adds.lookup_extra grown.absent held
  have alike := grown.alike
  cases alike with
  | nil => exact .inl ⟨_, rfl, rfl⟩
  | @cons first first' rest rest' same _ =>
    unfold Package.ofFiles
    dsimp only
    rw [← packages, ← same.path trivial, ← same.pos]
    revert taken
    generalize Package.redeclared? [] (Package.declarations (first :: rest)) = again,
      Package.redeclared? [] (Package.declarations (first' :: rest')) = again',
      sortStrings (distinct ((first :: rest).map (·.package))) = names
    intro taken
    match names with
    | _ :: _ :: _ => exact .inl ⟨_, rfl, rfl⟩
    | [] | [_] =>
      cases taken with
      | none => exact .inr ⟨_, _, rfl, rfl, grown.widens _, adds.length_le, extras rfl⟩
      | some twice => exact .inl ⟨_, rfl, by rw [twice.spec, twice.file.path trivial]⟩

end Grown

namespace Extract

/-! ### Extraction -/

theorem declaration_irrelevant {d : DeclaredType} (irrelevant : d.spec.Irrelevant)
    (exclusions : List String) :
    ∃ message, ∀ disk w, (declaration exclusions d).runOn disk w =
      (Compile.note .debug .extracting message).runOn disk w := by
  obtain ⟨package, ⟨pos, name, type, isAlias, doc⟩, file⟩ := d
  rcases isAlias with _ | _
  · have composite : type.isComposite = true := irrelevant.resolve_left Bool.false_ne_true
    refine ⟨s!"skipping {name}: neither interface nor struct", fun disk w => ?_⟩
    cases type with
    | pointer | slice | array | map | chan | func => rfl
    | named | struct | interface => cases composite
  · exact ⟨s!"skipping alias {name}", fun _ _ => rfl⟩

theorem package_widened (widens : Widens extra p p')
    (irrelevant : ∀ d, p'.lookup extra = some d → d.spec.Irrelevant) (exclusions : List String) :
    Mimics disk True (World.Deeper p p.scope.length) (fun _ _ => True) (package exclusions p)
      (package exclusions p') := by
  unfold package
  rw [← widens.path, ← widens.name, widens.names]
  refine .bind (World.Deeper.modifySession fun _ _ => id) fun _ _ _ => ?_
  refine .forM_filter (fun name _ other => ?_) fun name _ same => ?_
  · have kept := widens.lookup name (bne_iff_ne.mp other)
    revert kept
    generalize p.lookup name = found, p'.lookup name = found'
    intro kept
    cases kept with
    | none => exact .pure trivial
    | some kept => exact declaration_widened widens (Nat.le_refl _) exclusions kept
  · obtain rfl : extra = name := (not_not.mp (mt bne_iff_ne.mpr same)).symm
    rcases found : p'.lookup extra with _ | d
    · exact .pure trivial
    · obtain ⟨message, noted⟩ := declaration_irrelevant (irrelevant d found) exclusions
      exact (World.Deeper.noted .debug .extracting message).of_runs (fun _ => rfl) (noted disk)

end Extract

namespace Compile

theorem finalize_outcome (options : Options) {u v : World} (same : u.session = v.session) :
    ((finalize options).runOn disk u).1 = ((finalize options).runOn disk v).1 := by
  show Except.ok _ = Except.ok _
  rw [same]

/-- A declaration that nothing names, and that describes neither a service nor an object, has no effect
wherever it stands. -/
theorem irrelevant_declaration {before after : List SourceFile} {types types' : List TypeSpec}
    {spec : TypeSpec} (declared : file.types = types ++ types') (irrelevant : spec.Irrelevant)
    (lacking : ∀ f ∈ before ++ file :: after, f.Lacks spec.name) (options : Options) (disk : Disk)
    (w : World) :
    ((assemble (before ++ file :: after) options).runOn disk w).1 =
      ((assemble (before ++ { file with types := types ++ spec :: types' } :: after) options).runOn
        disk w).1 := by
  have grown := Grown.of_added declared irrelevant lacking
  rw [assemble, assemble, runOn_bind, runOn_bind, Loading.form_run, Loading.form_run]
  rcases grown.ofFiles w.loader.packages.length with
    ⟨error, formed, formed'⟩ | ⟨p, p', formed, formed', widens, more, extras⟩
  · rw [formed, formed']
  · have declared : ∀ q : Package,
        Loader.declared { w.loader with packages := w.loader.packages ++ [q] } =
          w.loader.declared + q.scope.length := fun _ => Loader.declared_of_packages rfl
    rw [formed, formed']
    refine (Extract.package_widened widens extras _).outcome_bind_eq ⟨rfl, ?_, ?_, List.countP_le_length⟩
      fun _ _ _ _ deeper _ => finalize_outcome options deeper.session
    · rw [declared]
      exact Nat.le_add_left _ _
    · rw [declared, declared]
      exact Nat.add_le_add_left more _

/-- A map of types that nothing declares, and of itself. -/
def idleMap : TypeSpec :=
  ⟨⟨3, 6⟩, "M", .map ⟨3, 8⟩ (.named ⟨⟨3, 12⟩, none, "Missing"⟩)
    (.func ⟨3, 20⟩ ⟨[⟨⟨3, 25⟩, none, false, .named ⟨⟨3, 25⟩, none, "M"⟩⟩], []⟩), false, ""⟩

theorem irrelevant_declaration_idleMap :
    (∀ f ∈ [users, used], f.Lacks idleMap.name) ∧
      ((assemble [users, used] {}).runOn ⟨[], []⟩ {}).1.isOk = true ∧
      ((assemble [users, used] {}).runOn ⟨[], []⟩ {}).1 =
        ((assemble [users, { used with types := idleMap :: used.types }] {}).runOn ⟨[], []⟩ {}).1 := by
  have lacking : ∀ f ∈ [users, used], f.Lacks idleMap.name := by decide +kernel
  exact ⟨lacking, by decide +kernel,
    @irrelevant_declaration used [users] [] [] used.types idleMap rfl (.inr rfl) lacking {} ⟨[], []⟩ {}⟩

end Compile

end GoIdl
