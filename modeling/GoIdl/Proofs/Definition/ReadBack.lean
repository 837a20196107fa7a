import GoIdl.Definition.Tree
import GoIdl.Scalar
import GoIdl.Proofs.Json.ReadBack

/-!
# Definitions read back

The text of a definition is read as the definition's tree, and the tree tells the definition: no
text stands for two of them.
-/

namespace GoIdl

open Json (Exact keys)

/-! ### What has an exact tree -/

/-- A type has one spelling for each target. -/
def FieldType.Exact (t : FieldType) : Prop := (keys t.scalarTypes).Nodup

structure Field.Exact (f : Field) : Prop where
  type : f.type.Exact
  tags : (keys f.parsedTags).Nodup
  sample : Json.Exact f.sample
  metadata : Json.Exact (.obj f.metadata)

structure Object.Exact (o : Object) : Prop where
  fields : ∀ f ∈ o.fields, f.Exact
  metadata : Json.Exact (.obj o.metadata)

structure Method.Exact (m : Method) : Prop where
  input : m.input.Exact
  output : m.output.Exact
  metadata : Json.Exact (.obj m.metadata)

structure Service.Exact (s : Service) : Prop where
  methods : ∀ m ∈ s.methods, m.Exact
  metadata : Json.Exact (.obj s.metadata)

/-- The metadata, samples and parameters have no floating-point numbers, and no name is twice in a
list of members. -/
structure Definition.Exact (d : Definition) : Prop where
  services : ∀ s ∈ d.services, s.Exact
  objects : ∀ o ∈ d.objects, o.Exact
  imports : (keys d.imports).Nodup
  params : Json.Exact (.obj d.params)

namespace Json

theorem exact_map_arr {α : Type} {tree : α → Json} {items : List α}
    (each : ∀ item ∈ items, Exact (tree item)) : Exact (.arr (items.map tree)) := by
  refine .arr fun v member => ?_
  obtain ⟨item, inside, rfl⟩ := List.mem_map.mp member
  exact each item inside

theorem exact_map_obj {α : Type} {tree : α → Json} {members : List (String × α)}
    (distinct : (keys members).Nodup) (each : ∀ v, Exact (tree v)) :
    Exact (.obj (members.map fun (k, v) => (k, tree v))) := by
  have same : keys (members.map fun (k, v) => (k, tree v)) = keys members :=
    keys_map fun _ => tree
  refine .obj (same ▸ distinct) fun entry member => ?_
  obtain ⟨item, _, rfl⟩ := List.mem_map.mp member
  exact each item.2

theorem exact_ofStringMap {m : List (String × String)} (distinct : (keys m).Nodup) :
    Exact (ofStringMap m) := exact_map_obj distinct .str

end Json

/-! ### Trees are exact -/

theorem FieldTag.exact_tree (t : FieldTag) : Json.Exact t.tree := by
  refine .obj (by simp [keys]) ?_
  simp only [List.forall_mem_cons]
  exact ⟨.str _, Json.exact_map_arr fun _ _ => .str _, List.forall_mem_nil _⟩

namespace FieldType

/-- The names of the members that every type has. -/
def ownNames : List String :=
  ["typeID", "typeName", "objectName", "cleanObjectName", "objectNameLowerCamel", "multiple",
   "isObject", "isOptional", "package", "scalarTypes"]

theorem derived_not_mem_ownNames (target : String) : target ++ "Type" ∉ ownNames := by
  have apart : ∀ name ∈ ownNames, "Type".toList.isSuffixOf name.toList = false := by decide
  intro member
  have ends : "Type".toList.isSuffixOf (target ++ "Type").toList = true := by
    rw [List.isSuffixOf_iff_suffix, String.toList_append]
    exact List.suffix_append _ _
  rw [apart _ member] at ends
  cases ends

theorem Exact.tree {t : FieldType} (exact : t.Exact) : Json.Exact t.tree := by
  refine .obj ?_ ?_
  · have derived : ((keys t.scalarTypes).map (· ++ "Type")).Nodup :=
      List.Nodup.map (fun _ _ same => (String.append_left_inj _).mp same) exact
    have distinct : (ownNames ++ (keys t.scalarTypes).map (· ++ "Type")).Nodup := by
      refine List.nodup_append.mpr ⟨by decide, derived, fun name own other member => ?_⟩
      obtain ⟨target, -, rfl⟩ := List.mem_map.mp member
      rintro rfl
      exact derived_not_mem_ownNames target own
    simpa [keys, ownNames, Function.comp_def] using distinct
  · refine List.forall_mem_append.mpr ⟨?_, ?_⟩
    · simp only [List.forall_mem_cons]
      exact ⟨.str _, .str _, .str _, .str _, .str _, .bool _, .bool _, .bool _, .str _,
        Json.exact_ofStringMap exact, List.forall_mem_nil _⟩
    · intro entry derived
      obtain ⟨_, _, rfl⟩ := List.mem_map.mp derived
      exact .str _

end FieldType

theorem Field.Exact.tree {f : Field} (exact : f.Exact) : Json.Exact f.tree := by
  refine .obj (by simp [keys]) ?_
  simp only [List.forall_mem_cons]
  exact ⟨.str _, .str _, exact.type.tree, .bool _, .str _, .str _,
    Json.exact_map_obj exact.tags FieldTag.exact_tree, exact.sample, exact.metadata,
    List.forall_mem_nil _⟩

theorem Object.Exact.tree {o : Object} (exact : o.Exact) : Json.Exact o.tree := by
  refine .obj (by simp [keys]) ?_
  simp only [List.forall_mem_cons]
  exact ⟨.str _, .str _, .bool _, Json.exact_map_arr fun f member => (exact.fields f member).tree,
    .str _, exact.metadata, List.forall_mem_nil _⟩

theorem Method.Exact.tree {m : Method} (exact : m.Exact) : Json.Exact m.tree := by
  refine .obj (by simp [keys]) ?_
  simp only [List.forall_mem_cons]
  exact ⟨.str _, .str _, exact.input.tree, exact.output.tree, .str _, exact.metadata,
    List.forall_mem_nil _⟩

theorem Service.Exact.tree {s : Service} (exact : s.Exact) : Json.Exact s.tree := by
  refine .obj (by simp [keys]) ?_
  simp only [List.forall_mem_cons]
  exact ⟨.str _, Json.exact_map_arr fun m member => (exact.methods m member).tree, .str _,
    exact.metadata, List.forall_mem_nil _⟩

theorem Definition.Exact.tree {d : Definition} (exact : d.Exact) : Json.Exact d.tree := by
  refine .obj (by simp [keys]) ?_
  simp only [List.forall_mem_cons]
  exact ⟨.str _, Json.exact_map_arr fun s member => (exact.services s member).tree,
    Json.exact_map_arr fun o member => (exact.objects o member).tree,
    Json.exact_ofStringMap exact.imports, exact.params, List.forall_mem_nil _⟩

/-! ### Trees tell apart -/

open Function (Injective)

namespace Json

theorem ofStrings_injective : Injective ofStrings := by
  intro xs ys same
  exact List.map_injective_iff.mpr (fun _ _ => Json.str.inj) (Json.arr.inj same)

theorem map_tree_injective {α : Type} {tree : α → Json} (injective : Injective tree) :
    Injective fun members : List (String × α) => members.map fun (k, v) => (k, tree v) := by
  refine List.map_injective_iff.mpr ?_
  rintro ⟨k, v⟩ ⟨l, w⟩ same
  obtain ⟨rfl, values⟩ := Prod.mk.inj same
  rw [injective values]

theorem ofStringMap_injective : Injective ofStringMap := by
  intro m n same
  exact map_tree_injective (fun _ _ => Json.str.inj) (Json.obj.inj same)

end Json

theorem FieldTag.tree_injective : Injective FieldTag.tree := by
  rintro ⟨value, options⟩ ⟨value', options'⟩ same
  simp only [tree, Json.obj.injEq, List.cons.injEq, Prod.mk.injEq, Json.str.injEq, true_and,
    and_true] at same
  obtain ⟨rfl, values⟩ := same
  rw [Json.ofStrings_injective values]

theorem FieldType.tree_injective : Injective FieldType.tree := by
  intro t t' same
  simp only [tree, List.cons_append, List.nil_append, Json.obj.injEq, List.cons.injEq, Prod.mk.injEq,
    Json.str.injEq, Json.bool.injEq, true_and] at same
  have scalars : t.scalarTypes = t'.scalarTypes := Json.ofStringMap_injective (by tauto)
  cases t
  cases t'
  simp only at same scalars
  simp only [FieldType.mk.injEq]
  tauto

theorem Field.tree_injective : Injective Field.tree := by
  intro f f' same
  simp only [tree, Json.obj.injEq, List.cons.injEq, Prod.mk.injEq, Json.str.injEq, Json.bool.injEq,
    true_and, and_true] at same
  have type : f.type = f'.type := FieldType.tree_injective same.2.2.1
  have tags : f.parsedTags = f'.parsedTags := Json.map_tree_injective FieldTag.tree_injective (by tauto)
  cases f
  cases f'
  simp only at same type tags
  simp only [Field.mk.injEq]
  tauto

theorem Object.tree_injective : Injective Object.tree := by
  intro o o' same
  simp only [tree, Json.obj.injEq, List.cons.injEq, Prod.mk.injEq, Json.str.injEq, Json.bool.injEq,
    Json.arr.injEq, true_and, and_true] at same
  have fields : o.fields = o'.fields := List.map_injective_iff.mpr Field.tree_injective same.2.2.2.1
  cases o
  cases o'
  simp only at same fields
  simp only [Object.mk.injEq]
  tauto

theorem Method.tree_injective : Injective Method.tree := by
  intro m m' same
  simp only [tree, Json.obj.injEq, List.cons.injEq, Prod.mk.injEq, Json.str.injEq, true_and,
    and_true] at same
  have input : m.input = m'.input := FieldType.tree_injective same.2.2.1
  have output : m.output = m'.output := FieldType.tree_injective same.2.2.2.1
  cases m
  cases m'
  simp only at same input output
  simp only [Method.mk.injEq]
  tauto

theorem Service.tree_injective : Injective Service.tree := by
  intro s s' same
  simp only [tree, Json.obj.injEq, List.cons.injEq, Prod.mk.injEq, Json.str.injEq, Json.arr.injEq,
    true_and, and_true] at same
  have methods : s.methods = s'.methods := List.map_injective_iff.mpr Method.tree_injective same.2.1
  cases s
  cases s'
  simp only at same methods
  simp only [Service.mk.injEq]
  tauto

theorem Definition.tree_injective : Injective Definition.tree := by
  intro d d' same
  simp only [tree, Json.obj.injEq, List.cons.injEq, Prod.mk.injEq, Json.str.injEq, Json.arr.injEq,
    true_and, and_true] at same
  have services : d.services = d'.services := List.map_injective_iff.mpr Service.tree_injective same.2.1
  have objects : d.objects = d'.objects := List.map_injective_iff.mpr Object.tree_injective same.2.2.1
  have imports : d.imports = d'.imports := Json.ofStringMap_injective same.2.2.2.1
  cases d
  cases d'
  simp only at same services objects imports
  simp only [Definition.mk.injEq]
  tauto

/-! ### The text of a definition -/

namespace Definition

/-- The text is read as the tree of the definition, and no other definition has it as its text. -/
theorem read_text {d : Definition} {unit : List Char} (exact : d.Exact)
    (blank : ∀ c ∈ unit, c = ' ' ∨ c = '\t') :
    Json.read (d.text (.indented unit)) = .ok d.tree ∧
      ∀ (other : Definition) (unit' : List Char), other.Exact → (∀ c ∈ unit', c = ' ' ∨ c = '\t') →
        other.text (.indented unit') = d.text (.indented unit) → other = d := by
  have blanks : ∀ unit : List Char, (∀ c ∈ unit, c = ' ' ∨ c = '\t') →
      (Json.Layout.indented unit).Blank := by
    rintro unit blank _ ⟨⟩ c member
    rcases blank c member with rfl | rfl <;> rfl
  have reads : Json.read (d.text (.indented unit)) = .ok d.tree :=
    Json.read_write exact.tree (blanks unit blank)
  refine ⟨reads, fun other unit' otherExact otherBlank sameText => ?_⟩
  have readsOther : Json.read (other.text (.indented unit')) = .ok other.tree :=
    Json.read_write otherExact.tree (blanks unit' otherBlank)
  rw [sameText, reads] at readsOther
  exact Definition.tree_injective (Except.ok.inj readsOther).symm

/-- A definition with marks in its comment, options in a tag, and a list of lists in its metadata. -/
def greeting : Definition :=
  let text : FieldType := { typeName := "string", scalarTypes := scalarTypes "string" false }
  { packageName := "greeting"
    services := [{
      name := "Greeter"
      methods := [{ name := "Greet", nameLowerCamel := "greet", input := text, output := text }]
      comment := "Says \"hello\"\n\tto\x01 \\ \x7f you." }]
    objects := [{
      typeId := "greeting.Name"
      name := "Name"
      fields := [{
        name := "First", nameLowerCamel := "first", type := text
        parsedTags := [("json", ⟨"first", ["omitempty", ""]⟩)], sample := .int (-120) }]
      metadata := [("", .arr [.arr [], .obj [("a", .null), ("b", .bool false)]])] }]
    imports := [("time", "time")] }

theorem read_text_greeting :
    Json.read (greeting.text (.indented [' ', '\t'])) = .ok greeting.tree ∧
      ∀ (other : Definition) (unit' : List Char), other.Exact → (∀ c ∈ unit', c = ' ' ∨ c = '\t') →
        other.text (.indented unit') = greeting.text (.indented [' ', '\t']) → other = greeting := by
  have spelled : (keys (scalarTypes "string" false)).Nodup := by decide
  have none : Json.Exact (.obj []) := .obj .nil (List.forall_mem_nil _)
  refine read_text ⟨?_, ?_, by decide, none⟩ (by simp)
  · simp only [greeting, List.mem_singleton, forall_eq]
    refine ⟨?_, none⟩
    simp only [List.mem_singleton, forall_eq]
    exact ⟨spelled, spelled, none⟩
  · simp only [greeting, List.mem_singleton, forall_eq]
    refine ⟨?_, .obj (by decide) ?_⟩
    · simp only [List.mem_singleton, forall_eq]
      exact ⟨spelled, by decide, .int (by decide), none⟩
    · simp only [List.mem_singleton, forall_eq]
      refine .arr ?_
      simp only [List.forall_mem_cons]
      refine ⟨.arr (List.forall_mem_nil _), .obj (by decide) ?_, List.forall_mem_nil _⟩
      simp only [List.forall_mem_cons]
      exact ⟨.null, .bool false, List.forall_mem_nil _⟩

end Definition

end GoIdl
