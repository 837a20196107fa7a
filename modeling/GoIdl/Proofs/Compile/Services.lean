import GoIdl.Compile.Run
import GoIdl.Proofs.Compile.Extraction

/-!
# Extracting packages

Services and objects are extracted from the declarations of root packages one after another. When
this has succeeded, the types of all methods, retained or excluded, are registered, and every
service is recorded to answer with exactly the objects that its methods return.
-/

namespace GoIdl

open Syntax (TypeExpr TypeName FieldDecl MethodDecl Param Position Location IsIdentifier)

variable {disk : Disk} {u v w : World} {l l' : Loader} {ctx : Context} {expr : TypeExpr}
  {d e : DeclaredType} {s t : Session} {exclusions : List String}

namespace Session

/-- A service is recorded to answer with an object. -/
def Records (s : Session) (typeId service : String) : Prop :=
  service ∈ (Json.find? typeId s.responses).getD []

/-- The object that a type refers to is registered. Its identifier is a path, a dot and the bare name
of the type. -/
structure Holds (s : Session) (t : FieldType) : Prop where
  registered : (s.object? t.typeId).isSome
  qualified : ∃ path, t.typeId = path ++ "." ++ t.bareObjectName
  name : IsIdentifier t.bareObjectName

/-- The objects that a method takes and answers with are registered. -/
structure HoldsTypesOf (s : Session) (m : Method) : Prop where
  input : m.input.isObject = true → s.Holds m.input
  output : m.output.isObject = true → s.Holds m.output

/-- A service has a method that answers with an object. -/
def AnswersWith (service : Service) (typeId : String) : Prop :=
  ∃ m ∈ service.methods, m.output.isObject = true ∧ m.output.typeId = typeId

/-- The services of a session, retained ones and excluded ones, are complete. -/
structure Serviced (exclusions : List String) (s : Session) : Prop where
  types : ∀ service ∈ s.services ++ s.excludedServices, ∀ m ∈ service.methods, s.HoldsTypesOf m
  records : ∀ typeId name, s.Records typeId name ↔
    ∃ service ∈ s.services ++ s.excludedServices, service.name = name ∧ AnswersWith service typeId
  named : ∀ service ∈ s.services ++ s.excludedServices, service.name ≠ ""
  retained : ∀ service ∈ s.services, service.name ∉ exclusions
  excluded : ∀ service ∈ s.excludedServices, service.name ∈ exclusions

theorem recordOutput_records (s : Session) (typeId service id name : String) :
    (s.recordOutput typeId service).Records id name ↔
      s.Records id name ∨ (id = typeId ∧ name = service) := by
  simp only [Records, recordOutput, Json.find?_put]
  by_cases same : id = typeId
  · subst same
    simp only [if_true, Option.getD_some, true_and]
    by_cases known : ((Json.find? id s.responses).getD []).contains service
    · simp only [known, if_true]
      constructor
      · exact Or.inl
      · rintro (old | rfl)
        · exact old
        · exact List.contains_iff_mem.mp known
    · rw [if_neg known, List.mem_append, List.mem_singleton]
  · simp [same]

theorem Holds.mono {type : FieldType} (holds : s.Holds type)
    (registered : ∀ id, (s.object? id).isSome → (t.object? id).isSome) : t.Holds type :=
  ⟨registered _ holds.registered, holds.qualified, holds.name⟩

theorem HoldsTypesOf.mono {m : Method} (holds : s.HoldsTypesOf m)
    (registered : ∀ id, (s.object? id).isSome → (t.object? id).isSome) : t.HoldsTypesOf m :=
  ⟨fun isObject => (holds.input isObject).mono registered,
    fun isObject => (holds.output isObject).mono registered⟩

namespace Serviced

theorem empty (path name : String) : Serviced exclusions { rootPath := path, packageName := name } where
  types := by simp
  records := by simp [Records]
  named := by simp
  retained := by simp
  excluded := by simp

/-- Extracting objects keeps services as they are. -/
theorem mono (serviced : Serviced exclusions s) (services : t.services = s.services)
    (excludedServices : t.excludedServices = s.excludedServices)
    (responses : t.responses = s.responses)
    (registered : ∀ id, (s.object? id).isSome → (t.object? id).isSome) : Serviced exclusions t where
  types := fun service member m method => by
    rw [services, excludedServices] at member
    exact (serviced.types service member m method).mono registered
  records := by simpa only [Records, services, excludedServices, responses] using serviced.records
  named := by simpa only [services, excludedServices] using serviced.named
  retained := by simpa only [services] using serviced.retained
  excluded := by simpa only [excludedServices] using serviced.excluded

theorem mem_addService (service made : Service) (excluded : Bool) :
    service ∈ (s.addService made excluded).services ++ (s.addService made excluded).excludedServices ↔
      service ∈ s.services ++ s.excludedServices ∨ service = made := by
  cases excluded
  · simp only [addService, Bool.false_eq_true, if_false, List.mem_append, List.mem_singleton]
    tauto
  · simp only [addService, if_true, List.mem_append, List.mem_singleton]
    tauto

/-- A service is complete when it is added: its methods have been extracted. -/
theorem add {made : Service} (serviced : Serviced exclusions s) (services : t.services = s.services)
    (excludedServices : t.excludedServices = s.excludedServices)
    (registered : ∀ id, (s.object? id).isSome → (t.object? id).isSome) (named : made.name ≠ "")
    (types : ∀ m ∈ made.methods, t.HoldsTypesOf m)
    (records : ∀ id name, t.Records id name ↔
      s.Records id name ∨ (name = made.name ∧ AnswersWith made id)) :
    Serviced exclusions (t.addService made (exclusions.contains made.name)) := by
  have objects : ∀ id, (t.addService made (exclusions.contains made.name)).object? id = t.object? id := by
    intro id
    unfold addService
    split <;> rfl
  have members : ∀ service, service ∈ (t.addService made (exclusions.contains made.name)).services ++
      (t.addService made (exclusions.contains made.name)).excludedServices ↔
        service ∈ s.services ++ s.excludedServices ∨ service = made := by
    intro service
    rw [mem_addService, services, excludedServices]
  refine ⟨fun service member m method => ?_, fun id name => ?_, fun service member => ?_, ?_, ?_⟩
  · have holds : t.HoldsTypesOf m := by
      rcases (members service).mp member with old | rfl
      · exact (serviced.types service old m method).mono registered
      · exact types m method
    exact holds.mono fun id known => by rw [objects id]; exact known
  · have same : (t.addService made (exclusions.contains made.name)).Records id name ↔ t.Records id name := by
      unfold addService
      split <;> rfl
    simp only [same, records, serviced.records, members]
    constructor
    · rintro (⟨service, member, answer⟩ | ⟨rfl, answer⟩)
      · exact ⟨service, Or.inl member, answer⟩
      · exact ⟨made, Or.inr rfl, rfl, answer⟩
    · rintro ⟨service, member | rfl, rfl, answer⟩
      · exact Or.inl ⟨service, member, rfl, answer⟩
      · exact Or.inr ⟨rfl, answer⟩
  · rcases (members service).mp member with old | rfl
    · exact serviced.named service old
    · exact named
  · unfold addService
    split
    · rw [services]
      exact serviced.retained
    · rename_i retained
      rw [services]
      intro service member
      rcases List.mem_append.mp member with old | new
      · exact serviced.retained service old
      · rw [List.mem_singleton.mp new]
        exact fun excluded => retained (List.contains_iff_mem.mpr excluded)
  · unfold addService
    split
    · rename_i left
      rw [excludedServices]
      intro service member
      rcases List.mem_append.mp member with old | new
      · exact serviced.excluded service old
      · rw [List.mem_singleton.mp new]
        exact List.contains_iff_mem.mp left
    · rw [excludedServices]
      exact serviced.excluded

end Serviced

end Session

namespace Extract

open Resolve Session

/-! ### What extraction starts from -/

/-- The structs that a method takes or answers with. -/
def MethodLeadsTo (disk : Disk) (l : Loader) (c : Collected) (e : DeclaredType) : Prop :=
  ∃ param ∈ c.method.signature.params ++ c.method.signature.results,
    LeadsTo disk l (typeOf param) c.context e

/-- The structs that extraction starts from at a declaration: itself, or what the methods of the
interface lead to. -/
inductive Starts (disk : Disk) (l : Loader) (d : DeclaredType) : DeclaredType → Prop where
  | struct (plain : d.spec.isAlias = false) (isStruct : IsStruct disk l d) : Starts disk l d d
  | method {pos : Position} {methods : List (MethodDecl TypeExpr)} {embeds : List TypeName}
      {origin e : DeclaredType} {collected : List Collected} {c : Collected}
      (plain : d.spec.isAlias = false)
      (isInterface : Yields disk l (underlying d) (some (.interface pos methods embeds), origin))
      (collects : Yields disk l (collectMethods methods embeds origin.context) collected)
      (member : c ∈ collected) (leads : MethodLeadsTo disk l c e) : Starts disk l d e

theorem MethodLeadsTo.mono {c : Collected} (leads : MethodLeadsTo disk l c e) (le : l.Le l') :
    MethodLeadsTo disk l' c e := by
  obtain ⟨param, member, leads⟩ := leads
  exact ⟨param, member, leads.mono le⟩

theorem Starts.mono (starts : Starts disk l d e) (le : l.Le l') : Starts disk l' d e := by
  cases starts with
  | struct plain isStruct => exact .struct plain (isStruct.mono le)
  | method plain isInterface collects member leads =>
    exact .method plain (isInterface.mono le) (collects.mono le) member (leads.mono le)

/-- All that `seeds` lead to is registered, whatever may be loaded later. -/
def Covers (v : World) (seeds : Loader → DeclaredType → Prop) : Prop :=
  ∀ l e, v.loader.Le l → l.Sound → seeds l e → (v.session.object? (typeIdOf e)).isSome

theorem Covers.mono {seeds : Loader → DeclaredType → Prop} (covers : Covers u seeds)
    (le : u.loader.Le v.loader)
    (registered : ∀ id, (u.session.object? id).isSome → (v.session.object? id).isSome) :
    Covers v seeds :=
  fun l e more sound seed => registered _ (covers l e (le.trans more) sound seed)

/-! ### Methods -/

/-- If the identifier of a type is registered, so is the struct that it leads to. -/
theorem registered_of_leadsTo {shape : Shape} {root : String} (shaped : HasShape disk l expr ctx shape)
    (sound : l.Sound) (context : ctx.package ∈ l.packages)
    (known : (shape.type root).isObject = true → (s.object? (shape.type root).typeId).isSome)
    (leads : LeadsTo disk l expr ctx e) : (s.object? (typeIdOf e)).isSome := by
  have target := (shaped.leadsTo_iff sound).mp leads
  rw [← shaped.typeId sound context target root]
  refine known ?_
  rw [HasShape.isObject, target]
  rfl

theorem holds_of_shape {shape : Shape} {root : String} (shaped : HasShape disk l expr ctx shape)
    (sound : l.Sound) (context : ctx.package ∈ l.packages)
    (registered : (s.object? (shape.type root).typeId).isSome)
    (isObject : (shape.type root).isObject = true) : s.Holds (shape.type root) := by
  obtain ⟨d, target⟩ := Option.isSome_iff_exists.mp isObject
  have bare := shaped.bareObjectName sound context target root
  refine ⟨registered, ⟨d.package.path, ?_⟩, ?_⟩
  · rw [bare]
    exact shaped.typeId sound context target root
  · rw [bare]
    exact (shaped.known sound context target).identifier sound

theorem object_extracts : Extracts disk object := fun d u v sound known registry run =>
  objectWithin_extracts _ d u v sound known registry ((Compile.depth_bind _).symm.trans run)

/-- The type of a parameter is resolved, and the struct that it leads to is registered. -/
theorem paramType_ok {param : Param TypeExpr} {type : FieldType} (sound : u.loader.Sound)
    (context : ctx.package ∈ u.loader.packages) (registry : u.session.Registry)
    (run : (paramType object param ctx).runOn disk u = (.ok type, v)) :
    Extraction disk none (LeadsTo disk v.loader (typeOf param) ctx) u v ∧
      (type.isObject = true → v.session.Holds type) ∧
      Covers v fun l => LeadsTo disk l (typeOf param) ctx := by
  obtain ⟨shape, shaped, rfl, known, extraction⟩ :=
    fieldType_ok object_extracts sound context registry run
  have context' := extraction.le.mem context
  refine ⟨extraction, fun isObject => ?_, fun l e le sound' leads => ?_⟩
  · exact holds_of_shape shaped extraction.sound context' (known isObject) isObject
  · exact registered_of_leadsTo (shaped.mono le) sound' (le.mem context') known leads

theorem recordOutput_ok {service : String} {output : FieldType} (registry : u.session.Registry)
    (run : (Extract.recordOutput service output).runOn disk u = (.ok (), v)) :
    v.loader = u.loader ∧ v.session.Registry ∧ u.session.Frame v.session ∧
      (∀ id, v.session.object? id = u.session.object? id) ∧
      ∀ id name, v.session.Records id name ↔ u.session.Records id name ∨
        (name = service ∧ output.isObject = true ∧ output.typeId = id) := by
  unfold Extract.recordOutput at run
  split at run
  · rename_i isObject
    cases run
    refine ⟨rfl, registry.step (.recordOutput _ _ _), ⟨rfl, rfl, rfl, rfl⟩, fun _ => rfl,
      fun id name => ?_⟩
    rw [Session.recordOutput_records, isObject]
    simp only [true_and, eq_comm (a := id), and_comm]
  · rename_i plain
    obtain ⟨_, rfl⟩ := Compile.pure_ok.mp run
    exact ⟨rfl, registry, .refl _, fun _ => rfl, fun id name => by simp [plain]⟩

/-- The types of its one parameter and its one result are resolved, and the answer is recorded. -/
theorem method_run {service : String} {c : Collected} {m : Method}
    (run : (Extract.method service c).runOn disk u = (.ok m, v)) :
    ∃ param result log u₁ u₂ u₃ more, c.method.signature.params = [param] ∧
      c.method.signature.results = [result] ∧
      (paramType object param c.context).runOn disk { u with log } = (.ok m.input, u₁) ∧
      (paramType object result c.context).runOn disk u₁ = (.ok m.output, u₂) ∧
      (Extract.recordOutput service m.output).runOn disk u₂ = (.ok (), u₃) ∧
      v = { u₃ with log := more } := by
  unfold Extract.method at run
  dsimp only at run
  split at run
  · rename_i param result params results
    obtain ⟨doc, _, read, run⟩ := Compile.bind_ok.mp run
    obtain ⟨_, log, same⟩ := readDoc_ok read
    rw [same] at run
    obtain ⟨input, u₁, taken, run⟩ := Compile.bind_ok.mp run
    obtain ⟨output, u₂, given, run⟩ := Compile.bind_ok.mp run
    obtain ⟨_, u₃, recorded, run⟩ := Compile.bind_ok.mp run
    rw [Compile.note_bind] at run
    obtain ⟨rfl, rfl⟩ := Compile.pure_ok.mp run
    exact ⟨param, result, log, u₁, u₂, u₃, _, params, results, taken, given, recorded, rfl⟩
  · cases run

theorem method_ok {service : String} {c : Collected} {m : Method} (sound : u.loader.Sound)
    (context : c.context.package ∈ u.loader.packages) (registry : u.session.Registry)
    (run : (Extract.method service c).runOn disk u = (.ok m, v)) :
    Additions disk (· = u.session.rootPath) none (MethodLeadsTo disk v.loader c) u v ∧
      u.session.Frame v.session ∧ v.session.HoldsTypesOf m ∧
      Covers v (fun l => MethodLeadsTo disk l c) ∧
      ∀ id name, v.session.Records id name ↔ u.session.Records id name ∨
        (name = service ∧ m.output.isObject = true ∧ m.output.typeId = id) := by
  obtain ⟨param, result, log, u₁, u₂, u₃, _, params, results, resolvedInput, resolvedOutput, recorded,
    rfl⟩ := method_run run
  obtain ⟨taken, holdsInput, coversInput⟩ :=
    paramType_ok (u := { u with log }) sound context registry resolvedInput
  obtain ⟨given, holdsOutput, coversOutput⟩ :=
    paramType_ok taken.sound (taken.le.mem context) taken.registry resolvedOutput
  obtain ⟨loader, registry₃, frame, objects, records⟩ := recordOutput_ok given.registry recorded
  have le : u₂.loader.Le u₃.loader := by rw [loader]; exact .refl _
  have known₃ : ∀ id, (u₂.session.object? id).isSome → (u₃.session.object? id).isSome :=
    fun id known => by rw [objects id]; exact known
  have known₂ : ∀ id, (u₁.session.object? id).isSome → (u₃.session.object? id).isSome :=
    fun id known => known₃ id (given.registered id known)
  have leads : ∀ l e, MethodLeadsTo disk l c e ↔
      LeadsTo disk l (typeOf param) c.context e ∨ LeadsTo disk l (typeOf result) c.context e := by
    intro l e
    rw [MethodLeadsTo, params, results]
    simp
  have first : Additions disk (· = u.session.rootPath) none (MethodLeadsTo disk u₃.loader c) u u₁ :=
    (taken.toAdditions.logs u.log u₁.log).imp
      (fun e here => (leads _ e).mpr (Or.inl (here.mono (given.le.trans le)))) fun _ => id
  have second : Additions disk (· = u.session.rootPath) none (MethodLeadsTo disk u₃.loader c) u₁ u₂ :=
    given.toAdditions.imp (fun e here => (leads _ e).mpr (Or.inr (here.mono le)))
      fun _ same => same.trans taken.frame.rootPath
  have third : Additions disk (· = u.session.rootPath) none (MethodLeadsTo disk u₃.loader c) u₂ u₃ :=
    .of_objects le (by rw [loader]; exact given.sound) registry₃ objects
  refine ⟨((first.trans second (by simp)).trans third (by simp)).logs u.log _,
    (taken.frame.trans given.frame).trans frame,
    ⟨fun isObject => (holdsInput isObject).mono known₂, fun isObject => (holdsOutput isObject).mono known₃⟩,
    fun l e more sound here => ?_, fun id name => ?_⟩
  · rcases (leads l e).mp here with input | output
    · exact coversInput.mono (given.le.trans le) known₂ l e more sound input
    · exact coversOutput.mono le known₃ l e more sound output
  · rw [records]
    have same : u₂.session.responses = u.session.responses :=
      given.responses.trans taken.responses
    simp only [Records, same]

theorem methods_ok {service : String} {collected : List Collected} {methods : List Method}
    (sound : u.loader.Sound) (context : ∀ c ∈ collected, c.context.package ∈ u.loader.packages)
    (registry : u.session.Registry)
    (run : (collected.mapM (Extract.method service)).runOn disk u = (.ok methods, v)) :
    Additions disk (· = u.session.rootPath) none (fun e => ∃ c ∈ collected, MethodLeadsTo disk v.loader c e) u v ∧
      u.session.Frame v.session ∧ (∀ m ∈ methods, v.session.HoldsTypesOf m) ∧
      Covers v (fun l e => ∃ c ∈ collected, MethodLeadsTo disk l c e) ∧
      ∀ id name, v.session.Records id name ↔ u.session.Records id name ∨
        (name = service ∧ ∃ m ∈ methods, m.output.isObject = true ∧ m.output.typeId = id) := by
  induction collected generalizing u methods with
  | nil =>
    rw [List.mapM_nil] at run
    obtain ⟨rfl, rfl⟩ := Compile.pure_ok.mp run
    exact ⟨.of_objects (.refl _) sound registry fun _ => rfl, .refl _, by simp, by simp [Covers],
      by simp⟩
  | cons c rest ih =>
    rw [List.mapM_cons] at run
    obtain ⟨m, u₁, first, run⟩ := Compile.bind_ok.mp run
    obtain ⟨more, u₂, later, run⟩ := Compile.bind_ok.mp run
    obtain ⟨rfl, rfl⟩ := Compile.pure_ok.mp run
    obtain ⟨added, frame, holds, registered, records⟩ :=
      method_ok sound (context c List.mem_cons_self) registry first
    obtain ⟨added', frame', holds', registered', records'⟩ := ih added.sound
      (fun c' member => added.le.mem (context c' (List.mem_cons_of_mem _ member))) added.registry later
    have here : Additions disk (· = u.session.rootPath) none
        (fun e => ∃ c' ∈ c :: rest, MethodLeadsTo disk v.loader c' e) u u₁ :=
      added.imp (fun e leads => ⟨c, List.mem_cons_self, leads.mono added'.le⟩) fun _ => id
    have after : Additions disk (· = u.session.rootPath) none
        (fun e => ∃ c' ∈ c :: rest, MethodLeadsTo disk v.loader c' e) u₁ v :=
      added'.imp (fun e ⟨c', member, leads⟩ => ⟨c', List.mem_cons_of_mem _ member, leads⟩)
        fun _ same => same.trans frame.rootPath
    refine ⟨here.trans after (by simp), frame.trans frame', ?_, ?_, fun id name => ?_⟩
    · exact List.forall_mem_cons.mpr ⟨holds.mono added'.registered, holds'⟩
    · rintro l e more sound ⟨c', member, leads⟩
      rcases List.mem_cons.mp member with rfl | after
      · exact registered.mono added'.le added'.registered l e more sound leads
      · exact registered' l e more sound ⟨c', after, leads⟩
    · rw [records', records]
      simp only [List.mem_cons, exists_eq_or_imp, or_assoc, ← and_or_left]

/-! ### Services -/

theorem service_ok {methods : List (MethodDecl TypeExpr)} {embeds : List TypeName} {made : Service}
    (sound : u.loader.Sound) (context : ctx.package ∈ u.loader.packages)
    (registry : u.session.Registry)
    (run : (service d methods embeds ctx).runOn disk u = (.ok made, v)) :
    made.name = d.name ∧ u.session.Frame v.session ∧
      (∀ m ∈ made.methods, v.session.HoldsTypesOf m) ∧
      (∀ id name, v.session.Records id name ↔
        u.session.Records id name ∨ (name = d.name ∧ AnswersWith made id)) ∧
      ∃ collected, Yields disk v.loader (collectMethods methods embeds ctx) collected ∧
        Additions disk (· = u.session.rootPath) none
          (fun e => ∃ c ∈ collected, MethodLeadsTo disk v.loader c e) u v ∧
        Covers v (fun l e => ∃ c ∈ collected, MethodLeadsTo disk l c e) := by
  obtain ⟨doc, _, read, run⟩ := Compile.bind_ok.mp run
  obtain ⟨_, log, same⟩ := readDoc_ok read
  rw [same, Compile.note_bind] at run
  obtain ⟨collected, u₁, collects, run⟩ := Compile.bind_ok.mp run
  obtain ⟨grows, collects⟩ : Grows _ u₁ ∧ Yields disk u₁.loader _ collected :=
    (collectMethods_resolving methods embeds ctx).ok (by exact sound) collects
  obtain ⟨all, u₂, each, run⟩ := Compile.bind_ok.mp run
  obtain ⟨rfl, rfl⟩ := Compile.pure_ok.mp run
  have session : u₁.session = u.session := grows.session
  have known := collectMethods_known grows.sound (grows.le.mem context) collects
  obtain ⟨added, frame, holds, covers, records⟩ :=
    methods_ok grows.sound known (by rw [session]; exact registry) each
  have before : Additions disk (· = u.session.rootPath) none
      (fun e => ∃ c ∈ collected, MethodLeadsTo disk v.loader c e) u u₁ :=
    .of_objects grows.le grows.sound (by rw [session]; exact registry) fun _ => by rw [session]
  rw [session] at added frame records
  exact ⟨rfl, frame, holds, records, collected, collects.mono added.le,
    before.trans added (by simp), covers⟩

/-! ### Declarations -/

theorem starts_plain (starts : Starts disk l d e) : d.spec.isAlias = false := by
  cases starts with
  | struct plain => exact plain
  | method plain => exact plain

/-- What extraction starts from is told by the type behind the declaration. -/
theorem starts_cases {shape : Option TypeExpr} {origin : DeclaredType} (sound : l.Sound)
    (behind : Yields disk l (underlying d) (shape, origin)) (starts : Starts disk l d e) :
    (∃ pos fields, shape = some (.struct pos fields) ∧ e = d) ∨
      ∃ pos methods embeds collected, shape = some (.interface pos methods embeds) ∧
        Yields disk l (collectMethods methods embeds origin.context) collected ∧
        ∃ c ∈ collected, MethodLeadsTo disk l c e := by
  cases starts with
  | struct _ isStruct =>
    obtain ⟨fields, origin', yields⟩ := isStruct
    obtain ⟨pos, yields⟩ := yields_structOf sound yields
    cases behind.unique yields
    exact Or.inl ⟨pos, fields, rfl, rfl⟩
  | method _ isInterface collects member leads =>
    cases behind.unique isInterface
    exact Or.inr ⟨_, _, _, _, rfl, collects, _, member, leads⟩

theorem addService_ok {made : Service} {excluded : Bool}
    (run : (addService made excluded).runOn disk u = (.ok (), v)) :
    v.loader = u.loader ∧ v.session = u.session.addService made excluded := by
  unfold addService at run
  cases excluded <;> cases run <;> exact ⟨rfl, rfl⟩

/-- From `u` on, services have been added and what `seeds` lead to. -/
structure Declares (disk : Disk) (exclusions : List String) (seeds : Loader → DeclaredType → Prop)
    (u v : World) : Prop where
  added : Additions disk (· = u.session.rootPath) none (seeds v.loader) u v
  rootPath : v.session.rootPath = u.session.rootPath
  serviced : Serviced exclusions v.session
  covers : Covers v seeds

/-- A declaration that extraction starts nothing from. -/
theorem Declares.of_grows (grows : Grows u v) (registry : u.session.Registry)
    (serviced : Serviced exclusions u.session) {seeds : Loader → DeclaredType → Prop}
    (nothing : ∀ l e, v.loader.Le l → l.Sound → ¬ seeds l e) : Declares disk exclusions seeds u v where
  added := .of_objects grows.le grows.sound (by rw [grows.session]; exact registry) fun _ => by
    rw [grows.session]
  rootPath := by rw [grows.session]
  serviced := by rw [grows.session]; exact serviced
  covers := fun l e le sound starts => absurd starts (nothing l e le sound)

/-- Loading comes before. -/
theorem Declares.after (declares : Declares disk exclusions (fun l => Starts disk l d) v w)
    (grows : Grows u v) (registry : u.session.Registry) :
    Declares disk exclusions (fun l => Starts disk l d) u w where
  added := by
    have before : Additions disk (· = u.session.rootPath) none (Starts disk w.loader d) u v :=
      .of_objects grows.le grows.sound (by rw [grows.session]; exact registry) fun _ => by
        rw [grows.session]
    exact before.trans (declares.added.imp (fun _ => id) fun _ same => by rw [same, grows.session])
      (by simp)
  rootPath := by rw [declares.rootPath, grows.session]
  serviced := declares.serviced
  covers := declares.covers

section

variable {pos : Position} {methods : List (MethodDecl TypeExpr)} {embeds : List TypeName}
  {fields : List (FieldDecl TypeExpr)} {origin : DeclaredType}

theorem interface_ok (plain : d.spec.isAlias = false)
    (behind : Yields disk u.loader (underlying d) (some (.interface pos methods embeds), origin))
    (sound : u.loader.Sound) (known : d.Known u.loader) (registry : u.session.Registry)
    (serviced : Serviced exclusions u.session)
    (run : (do
      let made ← service d methods embeds origin.context
      addService made (exclusions.contains d.name)).runOn disk u = (.ok (), v)) :
    Declares disk exclusions (fun l => Starts disk l d) u v := by
  obtain ⟨made, u₁, extracted, run⟩ := Compile.bind_ok.mp run
  obtain ⟨name, frame, types, records, collected, collects, added, covers⟩ :=
    service_ok sound (underlying_known sound known behind).package registry extracted
  obtain ⟨loader, ended⟩ := addService_ok run
  rw [← name] at records ended
  have objects : ∀ id, v.session.object? id = u₁.session.object? id := by
    intro id
    rw [ended]
    unfold Session.addService
    split <;> rfl
  have registry₂ : v.session.Registry := by
    rw [ended]
    exact added.registry.step (.addService _ _ _)
  have first : Additions disk (· = u.session.rootPath) none (Starts disk v.loader d) u u₁ :=
    added.imp (fun e ⟨c, member, leads⟩ => by
      rw [loader]
      exact .method plain (behind.mono added.le) collects member leads) fun _ => id
  have second : Additions disk (· = u.session.rootPath) none (Starts disk v.loader d) u₁ v :=
    .of_objects (by rw [loader]; exact .refl _) (by rw [loader]; exact added.sound) registry₂ objects
  refine ⟨first.trans second (by simp), ?_, ?_, fun l e le sound' starts => ?_⟩
  · rw [ended, ← frame.rootPath]
    unfold Session.addService
    split <;> rfl
  · rw [ended]
    refine serviced.add frame.services frame.excludedServices added.registered ?_ types records
    rw [name]
    exact (known.identifier sound).ne_empty
  · rw [loader] at le
    rw [objects]
    rcases starts_cases sound' (behind.mono (added.le.trans le)) starts with
      ⟨_, _, other, _⟩ | ⟨_, _, _, collected', same, collects', leads⟩
    · cases other
    · cases same
      cases (collects.mono le).unique collects'
      exact covers l e le sound' leads

theorem struct_ok (plain : d.spec.isAlias = false)
    (behind : Yields disk u.loader (underlying d) (some (.struct pos fields), origin))
    (sound : u.loader.Sound) (known : d.Known u.loader) (registry : u.session.Registry)
    (serviced : Serviced exclusions u.session) (run : (object d).runOn disk u = (.ok (), v)) :
    Declares disk exclusions (fun l => Starts disk l d) u v := by
  obtain ⟨extraction, registered⟩ := object_extracts d u v sound known registry run
  have isStruct : IsStruct disk u.loader d := ⟨fields, origin, behind.bind (.pure _)⟩
  refine ⟨extraction.toAdditions.imp ?_ fun _ => id, extraction.frame.rootPath,
    serviced.mono extraction.frame.services extraction.frame.excludedServices extraction.responses
      extraction.registered, fun l e le sound' starts => ?_⟩
  · rintro e rfl
    exact .struct plain (isStruct.mono extraction.le)
  · rcases starts_cases sound' (behind.mono (extraction.le.trans le)) starts with
      ⟨_, _, _, same⟩ | ⟨_, _, _, _, other, _⟩
    · rw [same]
      exact registered
    · cases other

end

/-- What comes of a declaration is told by the type behind it. -/
inductive Visits (disk : Disk) (exclusions : List String) (d : DeclaredType) (u v : World) : Prop where
  | skipped (isAlias : d.spec.isAlias = true) (grows : Grows u v)
  | service {u' : World} {pos : Position} {methods : List (MethodDecl TypeExpr)}
      {embeds : List TypeName} {origin : DeclaredType} (plain : d.spec.isAlias = false)
      (grows : Grows u u')
      (behind : Yields disk u'.loader (underlying d) (some (.interface pos methods embeds), origin))
      (run : (do
        let made ← service d methods embeds origin.context
        addService made (exclusions.contains d.name)).runOn disk u' = (.ok (), v))
  | object {u' : World} {pos : Position} {fields : List (FieldDecl TypeExpr)} {origin : DeclaredType}
      (plain : d.spec.isAlias = false) (grows : Grows u u')
      (behind : Yields disk u'.loader (underlying d) (some (.struct pos fields), origin))
      (run : (object d).runOn disk u' = (.ok (), v))
  | other {shape : Option TypeExpr} {origin : DeclaredType} (grows : Grows u v)
      (behind : Yields disk v.loader (underlying d) (shape, origin))
      (notInterface : ∀ pos methods embeds, shape ≠ some (.interface pos methods embeds))
      (notStruct : ∀ pos fields, shape ≠ some (.struct pos fields))

theorem declaration_visits (sound : u.loader.Sound)
    (run : (declaration exclusions d).runOn disk u = (.ok (), v)) : Visits disk exclusions d u v := by
  unfold declaration at run
  split at run
  · rename_i isAlias
    obtain ⟨log, rfl⟩ := Compile.note_ok run
    exact .skipped isAlias ⟨.refl _, sound, rfl⟩
  · rename_i notAlias
    have plain : d.spec.isAlias = false := by simpa using notAlias
    obtain ⟨⟨shape, origin⟩, u₁, read, run⟩ := Compile.bind_ok.mp run
    obtain ⟨grows, behind⟩ := (underlying_resolving d).ok sound read
    clear read
    split at run
    · rename_i same
      cases same
      exact .service plain grows behind run
    · rename_i same
      cases same
      exact .object plain grows behind run
    · rename_i notInterface notStruct
      obtain ⟨log, rfl⟩ := Compile.note_ok run
      exact .other ⟨grows.le, grows.sound, grows.session⟩ behind
        (fun pos methods embeds same => notInterface pos methods embeds origin (congrArg (·, origin) same))
        fun pos fields same => notStruct pos fields origin (congrArg (·, origin) same)

theorem declaration_ok (sound : u.loader.Sound) (known : d.Known u.loader)
    (registry : u.session.Registry) (serviced : Serviced exclusions u.session)
    (run : (declaration exclusions d).runOn disk u = (.ok (), v)) :
    Declares disk exclusions (fun l => Starts disk l d) u v := by
  cases declaration_visits sound run with
  | skipped isAlias grows =>
    refine .of_grows grows registry serviced fun l e _ _ starts => ?_
    have plain := starts_plain starts
    simp [plain] at isAlias
  | service plain grows behind run =>
    have session := grows.session
    exact (interface_ok plain behind grows.sound (known.mono grows.le) (by rw [session]; exact registry)
      (by rw [session]; exact serviced) run).after grows registry
  | object plain grows behind run =>
    have session := grows.session
    exact (struct_ok plain behind grows.sound (known.mono grows.le) (by rw [session]; exact registry)
      (by rw [session]; exact serviced) run).after grows registry
  | other grows behind notInterface notStruct =>
    refine .of_grows grows registry serviced fun l e le sound' starts => ?_
    rcases starts_cases sound' (behind.mono le) starts with
      ⟨pos, fields, same, _⟩ | ⟨pos, methods, embeds, _, same, _⟩
    · exact notStruct pos fields same
    · exact notInterface pos methods embeds same

end Extract

end GoIdl
