import GoIdl.Compile.Run
import GoIdl.Proofs.Compile.Resolving
import GoIdl.Proofs.Session.Registry

/-!
# Compiling side by side

One compilation sets some services aside, another one sets none aside. Step by step both end with
the same outcome, and with states that differ in where the services are kept.
-/

namespace GoIdl

open Syntax (TypeExpr TypeName FieldDecl MethodDecl SourceFile Location Param)
open Disk (Path)

variable {α β : Type} {exclusions : List String}

/-- The session with the excluded ones of its services set aside. -/
def Session.exclude (exclusions : List String) (s : Session) : Session :=
  { s with
    services := s.services.filter fun service => !exclusions.contains service.name
    excludedServices := s.services.filter fun service => exclusions.contains service.name }

/-- `w` is `w₀`, in which no services are set aside, with the excluded ones set aside. The logs may
differ. -/
structure Excludes (exclusions : List String) (w w₀ : World) : Prop where
  loader : w.loader = w₀.loader
  session : w.session = w₀.session.exclude exclusions
  none : w₀.session.excludedServices = []

/-- From such worlds on, both computations have one outcome and end with such worlds. -/
structure Simulates (exclusions : List String) (c c₀ : Compile α) : Prop where
  run : ∀ disk w w₀, Excludes exclusions w w₀ →
    (c.runOn disk w).1 = (c₀.runOn disk w₀).1 ∧
      Excludes exclusions (c.runOn disk w).2 (c₀.runOn disk w₀).2

/-- A computation that does not depend on which services are set aside. -/
def Steady (exclusions : List String) (c : Compile α) : Prop := Simulates exclusions c c

theorem Simulates.bind {c c₀ : Compile α} {f f₀ : α → Compile β} (first : Simulates exclusions c c₀)
    (later : ∀ a, Simulates exclusions (f a) (f₀ a)) :
    Simulates exclusions (c >>= f) (c₀ >>= f₀) := by
  refine ⟨fun disk w w₀ excludes => ?_⟩
  have both := first.run disk w w₀ excludes
  rw [Compile.runOn_bind, Compile.runOn_bind]
  generalize c.runOn disk w = left, c₀.runOn disk w₀ = right at both
  obtain ⟨outcome, v⟩ := left
  obtain ⟨_, v₀⟩ := right
  obtain ⟨rfl, ended⟩ := both
  cases outcome with
  | error failure => exact ⟨rfl, ended⟩
  | ok a => exact (later a).run disk v v₀ ended

theorem Simulates.forM {f f₀ : α → Compile Unit} (xs : List α)
    (each : ∀ x, Simulates exclusions (f x) (f₀ x)) :
    Simulates exclusions (xs.forM f) (xs.forM f₀) := by
  induction xs with
  | nil => exact ⟨fun _ _ _ excludes => ⟨rfl, excludes⟩⟩
  | cons x rest ih => exact .bind (each x) fun _ => ih

namespace Steady

variable {c : Compile α} {f : α → Compile β}

theorem pure (a : α) : Steady exclusions (pure a : Compile α) :=
  ⟨fun _ _ _ excludes => ⟨rfl, excludes⟩⟩

theorem throw (failure : Failure) : Steady exclusions (throw failure : Compile α) :=
  ⟨fun _ _ _ excludes => ⟨rfl, excludes⟩⟩

theorem bind (first : Steady exclusions c) (later : ∀ a, Steady exclusions (f a)) :
    Steady exclusions (c >>= f) := Simulates.bind first later

theorem forM {f : α → Compile Unit} (xs : List α) (each : ∀ x, Steady exclusions (f x)) :
    Steady exclusions (xs.forM f) := Simulates.forM xs each

theorem mapM {f : α → Compile β} (xs : List α) (each : ∀ x, Steady exclusions (f x)) :
    Steady exclusions (xs.mapM f) := by
  induction xs with
  | nil =>
    rw [List.mapM_nil]
    exact .pure _
  | cons x rest ih =>
    rw [List.mapM_cons]
    exact .bind (each x) fun _ => .bind ih fun _ => .pure _

theorem read : Steady exclusions (read : Compile Disk) :=
  ⟨fun _ _ _ excludes => ⟨rfl, excludes⟩⟩

theorem loader : Steady exclusions Compile.loader :=
  ⟨fun _ _ _ excludes => ⟨congrArg Except.ok excludes.loader, excludes⟩⟩

theorem depth : Steady exclusions Compile.depth := by
  refine ⟨fun disk w w₀ excludes => ⟨?_, excludes⟩⟩
  rw [Compile.runOn_depth, Compile.runOn_depth, excludes.loader]

theorem rootPath : Steady exclusions Compile.rootPath := by
  refine ⟨fun disk w w₀ excludes => ⟨?_, excludes⟩⟩
  rw [Compile.runOn_rootPath, Compile.runOn_rootPath, excludes.session]
  rfl

theorem note (level : LogLevel) (source : LogSource) (message : String) :
    Steady exclusions (Compile.note level source message) :=
  ⟨fun _ _ _ excludes => ⟨rfl, excludes.loader, excludes.session, excludes.none⟩⟩

theorem ensure (condition : Bool) (error : DefinitionError) :
    Steady exclusions (Compile.ensure condition error) := by
  unfold Compile.ensure
  split
  · exact .pure ()
  · exact .throw _

theorem ofExcept (outcome : Except Failure α) : Steady exclusions (Compile.ofExcept outcome) := by
  cases outcome
  · exact .throw _
  · exact .pure _

theorem ofDefinition (outcome : Except DefinitionError α) :
    Steady exclusions (Compile.ofDefinition outcome) := by
  cases outcome
  · exact .throw _
  · exact .pure _

theorem modifyLoader (change : Loader → Loader) : Steady exclusions (Compile.modifyLoader change) :=
  ⟨fun _ _ _ excludes => ⟨rfl, congrArg change excludes.loader, excludes.session, excludes.none⟩⟩

/-- A session may change in any way that has nothing to do with services. -/
theorem modifySession {change : Session → Session}
    (apart : ∀ s, change (s.exclude exclusions) = (change s).exclude exclusions)
    (keeps : ∀ s, (change s).excludedServices = s.excludedServices) :
    Steady exclusions (Compile.modifySession change) := by
  refine ⟨fun disk w w₀ excludes => ⟨rfl, excludes.loader, ?_, (keeps _).trans excludes.none⟩⟩
  show change w.session = (change w₀.session).exclude exclusions
  rw [excludes.session, apart]

end Steady

/-! ### Loading -/

namespace Loading

theorem moduleOf_steady (directory : Option Path) : Steady exclusions (moduleOf directory) := by
  unfold moduleOf
  split
  · exact .bind .read fun _ => .ofExcept _
  · exact .pure _

theorem form_steady (files : List SourceFile) (path : Option String) (directory : Option Path)
    (module : Option GoModule) : Steady exclusions (form files path directory module) :=
  .bind .loader fun _ => .bind (.ofDefinition _) fun _ => .bind (.modifyLoader _) fun _ => .pure _

theorem formFiles_steady (paths : List Path) (directory : Option Path) :
    Steady exclusions (formFiles paths directory) :=
  .bind .read fun _ => .bind (.mapM _ fun _ => .ofExcept _) fun _ =>
    .bind (moduleOf_steady _) fun _ => .bind (form_steady ..) fun _ =>
      .bind (.modifyLoader _) fun _ => .bind (.note ..) fun _ => .pure _

theorem loadDirectory_steady (directory : Path) : Steady exclusions (loadDirectory directory) := by
  refine .bind .read fun _ => .bind (.ofExcept _) fun _ => .bind (.ensure ..) fun _ =>
    .bind .loader fun _ => ?_
  split
  · exact .pure _
  · exact .bind (.ensure ..) fun _ => .bind (formFiles_steady ..) fun _ =>
      .bind (.modifyLoader _) fun _ => .pure _

theorem loadImport_steady (importer : Package) (path : String) (location : Location) :
    Steady exclusions (loadImport importer path location) := by
  refine .bind .read fun _ => .bind .loader fun _ => ?_
  split
  · exact .pure _
  · split
    · exact .throw _
    · exact .bind (.ofExcept _) fun _ => .bind (.ensure ..) fun _ =>
        .bind (loadDirectory_steady _) fun _ => .bind (.modifyLoader _) fun _ => .pure _

end Loading

theorem Resolving.steady {c : Compile α} (resolving : Resolving c) : Steady exclusions c := by
  induction resolving with
  | pure a => exact .pure a
  | throw failure => exact .throw failure
  | «import» importer path location => exact Loading.loadImport_steady importer path location
  | bind _ _ first later => exact .bind first later
  | deep _ _ each => exact .bind .depth each

/-! ### Extracting -/

namespace Extract

open Resolve

theorem registerImports_exclude (s : Session) (packages : List (String × String)) :
    (s.exclude exclusions).registerImports packages =
      (s.registerImports packages).exclude exclusions := by
  induction packages generalizing s with
  | nil => rfl
  | cons entry rest ih => exact ih (s.registerImport entry.1 entry.2)

theorem registerImports_excluded (s : Session) (packages : List (String × String)) :
    (s.registerImports packages).excludedServices = s.excludedServices := by
  induction packages generalizing s with
  | nil => rfl
  | cons entry rest ih => exact ih (s.registerImport entry.1 entry.2)

section

variable {extract : DeclaredType → Compile Unit} (each : ∀ d, Steady exclusions (extract d))

include each

theorem fieldType_steady (expr : TypeExpr) (ctx : Context) (location : Location) :
    Steady exclusions (fieldType extract expr ctx location) := by
  refine .bind (peel_resolving ..).steady fun _ => .bind (refuseStruct_resolving ..).steady fun _ =>
    .bind (structNamed_resolving ..).steady fun target => .bind ?_ fun _ =>
      .bind (render_resolving ..).steady fun _ => .bind .rootPath fun _ =>
        .bind (.modifySession (registerImports_exclude · _) (registerImports_excluded · _)) fun _ =>
          .pure _
  cases target with
  | none => exact .pure _
  | some d => exact each d

omit each in
theorem readDoc_steady (doc : String) (location : Location) :
    Steady exclusions (readDoc doc location) := by
  unfold readDoc
  split
  refine .bind (.forM _ fun note => ?_) fun _ => ?_
  · cases note <;> exact .note ..
  · split
    · exact .pure _
    · exact .throw _

omit each in
theorem parseTag_steady (tag : String) (location : Location) (ctx : Context) :
    Steady exclusions (parseTag tag location ctx) := by
  unfold parseTag
  split
  · exact .pure _
  · exact .throw _
  · exact .throw _

theorem field_steady (ctx : Context) (f : FieldDecl TypeExpr) :
    Steady exclusions (field extract ctx f) :=
  .bind (.ensure ..) fun _ => .bind (parseTag_steady ..) fun _ => .bind (readDoc_steady ..) fun _ =>
    .bind (fieldType_steady each ..) fun _ => .pure _

theorem fillObject_steady (d : DeclaredType) : Steady exclusions (fillObject extract d) := by
  refine .bind (readDoc_steady ..) fun _ => .bind .rootPath fun _ =>
    .bind (.modifySession (fun _ => rfl) fun _ => rfl) fun _ => .bind (.note ..) fun _ =>
      .bind (structOf_resolving d).steady fun shape => ?_
  split
  · exact .throw _
  · exact .forM _ fun f => .bind (field_steady each _ f) fun _ =>
      .modifySession (fun _ => rfl) fun _ => rfl

end

theorem reserve_exclude (s : Session) (typeId name : String) (location : Option Location) :
    (s.exclude exclusions).reserve typeId name location =
      (s.reserve typeId name location).map (Option.map (·.exclude exclusions)) := by
  have objects : (s.exclude exclusions).object? typeId = s.object? typeId := rfl
  have names : (s.exclude exclusions).idsByName = s.idsByName := rfl
  rw [Session.reserve, Session.reserve, objects, names]
  split
  · rfl
  · cases Json.find? name s.idsByName <;> rfl

theorem reserve_steady (d : DeclaredType) : Steady exclusions (reserve d) := by
  refine ⟨fun disk w w₀ excludes => ?_⟩
  rw [reserve, Compile.get_bind, Compile.get_bind, excludes.session]
  dsimp only
  rw [reserve_exclude]
  rcases outcome : w₀.session.reserve (typeIdOf d) d.name (some d.location) with error | _ | t
  · exact ⟨rfl, excludes⟩
  · exact ⟨rfl, excludes⟩
  · obtain ⟨_, _, rfl⟩ := Session.reserve_eq_some outcome
    exact ⟨rfl, excludes.loader, rfl, excludes.none⟩

theorem objectWithin_steady (fuel : Nat) (d : DeclaredType) :
    Steady exclusions (objectWithin fuel d) := by
  induction fuel generalizing d with
  | zero => exact .throw _
  | succ fuel ih =>
    refine .bind (reserve_steady d) fun fresh => ?_
    split
    · exact fillObject_steady ih d
    · exact .pure _

theorem object_steady (d : DeclaredType) : Steady exclusions (object d) :=
  .bind .depth fun fuel => objectWithin_steady fuel d

theorem recordOutput_steady (service : String) (output : FieldType) :
    Steady exclusions (recordOutput service output) := by
  unfold recordOutput
  split
  · exact .modifySession (fun _ => rfl) fun _ => rfl
  · exact .pure _

theorem method_steady (service : String) (c : Collected) : Steady exclusions (method service c) := by
  unfold method
  dsimp only
  split
  · exact .bind (readDoc_steady ..) fun _ => .bind (fieldType_steady object_steady ..) fun _ =>
      .bind (fieldType_steady object_steady ..) fun _ => .bind (recordOutput_steady ..) fun _ =>
        .bind (.note ..) fun _ => .pure _
  · exact .throw _

/-! ### Services -/

theorem addService_simulates (made : Service) :
    Simulates exclusions (addService made (exclusions.contains made.name)) (addService made false) := by
  refine ⟨fun disk w w₀ excludes => ?_⟩
  cases excluded : exclusions.contains made.name
  · refine ⟨rfl, excludes.loader, ?_, excludes.none⟩
    show w.session.addService made false = (w₀.session.addService made false).exclude exclusions
    simp only [excludes.session, Session.addService, Session.exclude, Bool.false_eq_true, if_false,
      List.filter_append, List.filter_cons, List.filter_nil, excluded, Bool.not_false, if_true,
      List.append_nil]
  · refine ⟨rfl, excludes.loader, ?_, excludes.none⟩
    show w.session.addService made true = (w₀.session.addService made false).exclude exclusions
    simp only [excludes.session, Session.addService, Session.exclude, Bool.false_eq_true, if_false,
      List.filter_append, List.filter_cons, List.filter_nil, excluded, Bool.not_true, if_true,
      List.append_nil]

theorem declaration_simulates (d : DeclaredType) :
    Simulates exclusions (declaration exclusions d) (declaration [] d) := by
  unfold declaration
  split
  · exact Steady.note ..
  · refine .bind (underlying_resolving d).steady fun found => ?_
    split
    · simp only [service, bind_assoc, pure_bind]
      exact .bind (readDoc_steady ..) fun doc => .bind (Steady.note ..) fun _ =>
        .bind (collectMethods_resolving ..).steady fun _ =>
          .bind (Steady.mapM _ fun c => method_steady _ c) fun methods =>
            addService_simulates
              { name := d.name, methods, comment := doc.description, metadata := doc.values }
    · exact object_steady d
    · exact Steady.note ..

theorem package_simulates (p : Package) :
    Simulates exclusions (package exclusions p) (package [] p) := by
  refine .bind (Steady.modifySession (fun _ => rfl) fun _ => rfl) fun _ => .forM _ fun name => ?_
  cases p.lookup name with
  | none => exact Steady.pure ()
  | some d => exact declaration_simulates d

end Extract

end GoIdl
