import GoIdl.Definition.Session
import GoIdl.Proofs.Members
import Mathlib.Logic.Relation

/-!
# Reachable objects

`reachable` answers with exactly the registered objects that lead from registered roots along the
fields of objects, and `excludedIds` with those that only excluded services lead to. A search for
them ends, and ends the same, in whatever order it takes what is pending.
-/

namespace GoIdl.Session

variable {s : Session} {fuel : Nat} {roots pending reached : List String}

/-- An object has a field whose type is another registered object. -/
def Mentions (s : Session) (typeId other : String) : Prop :=
  ∃ o, s.object? typeId = some o ∧
    ∃ f ∈ o.fields, f.type.isObject = true ∧ f.type.typeId = other ∧ (s.object? other).isSome

/-- A registered root leads to the object. -/
def Reaches (s : Session) (roots : List String) (typeId : String) : Prop :=
  ∃ root ∈ roots, (s.object? root).isSome ∧ Relation.ReflTransGen s.Mentions root typeId

theorem mem_mentions_iff {typeId other : String} :
    other ∈ s.mentions typeId ↔ s.Mentions typeId other := by
  unfold mentions Mentions
  cases found : s.object? typeId with
  | none => simp
  | some o =>
    simp only [List.mem_map, List.mem_filter, Bool.and_eq_true, Option.some.injEq,
      exists_eq_left']
    constructor
    · rintro ⟨t, ⟨⟨f, member, rfl⟩, isObject, known⟩, rfl⟩
      exact ⟨f, member, isObject, rfl, known⟩
    · rintro ⟨f, member, isObject, rfl, known⟩
      exact ⟨f.type, ⟨⟨f, member, rfl⟩, isObject, known⟩, rfl⟩

theorem Reaches.tail {typeId other : String} (reaches : s.Reaches roots typeId)
    (mentions : s.Mentions typeId other) : s.Reaches roots other := by
  obtain ⟨root, member, known, path⟩ := reaches
  exact ⟨root, member, known, path.tail mentions⟩

/-! ### What is left to reach -/

/-- How many fields the objects hold that have not been reached. -/
def fieldsLeft (objects : List (String × Object)) (reached : List String) : Nat :=
  match objects with
  | [] => 0
  | (id, o) :: rest => (if id ∈ reached then 0 else o.fields.length) + fieldsLeft rest reached

theorem fieldsLeft_cons_le (objects : List (String × Object)) (reached : List String)
    (typeId : String) : fieldsLeft objects (typeId :: reached) ≤ fieldsLeft objects reached := by
  induction objects with
  | nil => exact Nat.le_refl _
  | cons entry rest ih =>
    obtain ⟨id, o⟩ := entry
    simp only [fieldsLeft, List.mem_cons]
    by_cases old : id ∈ reached <;> by_cases same : id = typeId <;> simp [old, same] <;> omega

theorem fieldsLeft_reach {objects : List (String × Object)} {typeId : String} {o : Object}
    (member : (typeId, o) ∈ objects) (fresh : typeId ∉ reached) :
    fieldsLeft objects (typeId :: reached) + o.fields.length ≤ fieldsLeft objects reached := by
  induction objects with
  | nil => cases member
  | cons entry rest ih =>
    obtain ⟨id, p⟩ := entry
    simp only [fieldsLeft, List.mem_cons]
    rcases List.mem_cons.mp member with first | later
    · cases first
      have rest := fieldsLeft_cons_le rest reached typeId
      simp only [true_or, if_true, fresh, if_false]
      omega
    · have rest := ih later
      by_cases old : id ∈ reached <;> by_cases same : id = typeId <;> simp [old, same] <;> omega

theorem mentions_length_le (typeId : String) (fresh : typeId ∉ reached) :
    fieldsLeft s.objects (typeId :: reached) + (s.mentions typeId).length ≤
      fieldsLeft s.objects reached := by
  unfold mentions
  cases found : s.object? typeId with
  | none => simpa using fieldsLeft_cons_le s.objects reached typeId
  | some o =>
    have step := fieldsLeft_reach (Json.mem_of_find? found) fresh
    have shorter := List.length_filter_le
      (fun t : FieldType => t.isObject && (s.object? t.typeId).isSome) (o.fields.map (·.type))
    simp only [List.length_map] at shorter ⊢
    omega

theorem fieldsLeft_nil (s : Session) : fieldsLeft s.objects [] = s.fieldCount := by
  unfold fieldCount
  induction s.objects with
  | nil => rfl
  | cons entry rest ih => simp [fieldsLeft, ih]

/-! ### Searches

A search takes what is pending in any order, so that its end does not hang on the order in which
`reachFrom` takes it. -/

/-- What a search has still to visit and what it has reached. -/
structure Search where
  pending : List String
  reached : List String

namespace Search

variable {now next : Search}

/-- A search begins with the roots that are registered. -/
def start (s : Session) (roots : List String) : Search :=
  ⟨roots.filter fun typeId => (s.object? typeId).isSome, []⟩

/-- Some pending identifier is taken off: nothing happens if it has been reached; otherwise it is
reached now, and everything it mentions is pending. -/
inductive Step (s : Session) : Search → Search → Prop
  | again {pending rest reached : List String} {typeId : String} :
      pending.Perm (typeId :: rest) → typeId ∈ reached → Step s ⟨pending, reached⟩ ⟨rest, reached⟩
  | visit {pending rest reached : List String} {typeId : String} :
      pending.Perm (typeId :: rest) → typeId ∉ reached →
        Step s ⟨pending, reached⟩ ⟨s.mentions typeId ++ rest, typeId :: reached⟩

/-- What is pending, and what visits may still make pending. -/
def weight (s : Session) (search : Search) : Nat :=
  search.pending.length + fieldsLeft s.objects search.reached

theorem Step.lighter (step : Step s now next) : next.weight s < now.weight s := by
  cases step with
  | again taken old =>
    have length := taken.length_eq
    simp only [weight, length, List.length_cons]
    omega
  | @visit _ _ _ typeId taken fresh =>
    have length := taken.length_eq
    have less := mentions_length_le (s := s) typeId fresh
    simp only [weight, length, List.length_cons, List.length_append]
    omega

/-- No search goes on for ever. -/
theorem step_wellFounded (s : Session) : WellFounded fun next now => Step s now next :=
  Subrelation.wf (fun {_ _} step => step.lighter) (measure (weight s)).wf

/-- What holds of a search all along: only what the roots lead to is reached or pending, the
registered roots are among it, and so is everything that what has been reached mentions. -/
structure Valid (s : Session) (roots : List String) (search : Search) : Prop where
  distinct : search.reached.Nodup
  sound : ∀ typeId, typeId ∈ search.reached ∨ typeId ∈ search.pending → s.Reaches roots typeId
  started : ∀ root ∈ roots, (s.object? root).isSome → root ∈ search.reached ∨ root ∈ search.pending
  covered : ∀ typeId ∈ search.reached, ∀ other, s.Mentions typeId other →
    other ∈ search.reached ∨ other ∈ search.pending

theorem start_valid (s : Session) (roots : List String) : Valid s roots (start s roots) where
  distinct := List.nodup_nil
  sound := by
    intro typeId member
    obtain ⟨listed, known⟩ := List.mem_filter.mp (member.resolve_left List.not_mem_nil)
    exact ⟨typeId, listed, known, .refl⟩
  started := fun root listed known => Or.inr (List.mem_filter.mpr ⟨listed, known⟩)
  covered := fun _ none => absurd none List.not_mem_nil

/-- Dropping what has been reached before leaves everything reached or pending that was so. -/
theorem Valid.again {pending rest reached : List String} {typeId : String}
    (valid : Valid s roots ⟨pending, reached⟩) (taken : pending.Perm (typeId :: rest))
    (old : typeId ∈ reached) : Valid s roots ⟨rest, reached⟩ := by
  have kept : ∀ {other}, other ∈ reached ∨ other ∈ pending → other ∈ reached ∨ other ∈ rest := by
    rintro other (before | waiting)
    · exact Or.inl before
    · rcases List.mem_cons.mp (taken.mem_iff.mp waiting) with rfl | later
      · exact Or.inl old
      · exact Or.inr later
  refine ⟨valid.distinct, ?_, fun root listed known => kept (valid.started root listed known),
    fun id member other mentions => kept (valid.covered id member other mentions)⟩
  rintro other (before | later)
  · exact valid.sound other (Or.inl before)
  · exact valid.sound other (Or.inr (taken.mem_iff.mpr (List.mem_cons_of_mem _ later)))

theorem Valid.visit {pending rest reached : List String} {typeId : String}
    (valid : Valid s roots ⟨pending, reached⟩) (taken : pending.Perm (typeId :: rest))
    (fresh : typeId ∉ reached) :
    Valid s roots ⟨s.mentions typeId ++ rest, typeId :: reached⟩ := by
  have reaches : s.Reaches roots typeId :=
    valid.sound typeId (Or.inr (taken.mem_iff.mpr List.mem_cons_self))
  have kept : ∀ {other}, other ∈ reached ∨ other ∈ pending →
      other ∈ typeId :: reached ∨ other ∈ s.mentions typeId ++ rest := by
    rintro other (before | waiting)
    · exact Or.inl (List.mem_cons_of_mem _ before)
    · rcases List.mem_cons.mp (taken.mem_iff.mp waiting) with rfl | later
      · exact Or.inl List.mem_cons_self
      · exact Or.inr (List.mem_append_right _ later)
  refine ⟨List.nodup_cons.mpr ⟨fresh, valid.distinct⟩, ?_,
    fun root listed known => kept (valid.started root listed known), ?_⟩
  · rintro other (before | waiting)
    · rcases List.mem_cons.mp before with rfl | before
      · exact reaches
      · exact valid.sound other (Or.inl before)
    · rcases List.mem_append.mp waiting with mentioned | later
      · exact reaches.tail (mem_mentions_iff.mp mentioned)
      · exact valid.sound other (Or.inr (taken.mem_iff.mpr (List.mem_cons_of_mem _ later)))
  · intro id member other mentions
    rcases List.mem_cons.mp member with rfl | before
    · exact Or.inr (List.mem_append_left _ (mem_mentions_iff.mpr mentions))
    · exact kept (valid.covered id before other mentions)

theorem Valid.step (valid : Valid s roots now) (step : Step s now next) : Valid s roots next := by
  cases step with
  | again taken old => exact valid.again taken old
  | visit taken fresh => exact valid.visit taken fresh

theorem Valid.run (valid : Valid s roots now) (run : Relation.ReflTransGen (Step s) now next) :
    Valid s roots next := by
  induction run with
  | refl => exact valid
  | tail _ last ih => exact ih.step last

/-- A search with nothing pending has reached exactly what the roots lead to. -/
theorem Valid.mem_reached_iff (valid : Valid s roots ⟨[], reached⟩) {typeId : String} :
    typeId ∈ reached ↔ s.Reaches roots typeId := by
  constructor
  · intro member
    exact valid.sound typeId (Or.inl member)
  · rintro ⟨root, listed, known, path⟩
    induction path with
    | refl => exact (valid.started root listed known).resolve_right List.not_mem_nil
    | tail _ last ih => exact (valid.covered _ ih _ last).resolve_right List.not_mem_nil

end Search

/-! ### Reachability -/

/-- With fuel for its weight, `reachFrom` carries a search to its end. -/
theorem reachFrom_search (enough : Search.weight s ⟨pending, reached⟩ < fuel) :
    Relation.ReflTransGen (Search.Step s) ⟨pending, reached⟩
      ⟨[], s.reachFrom fuel pending reached⟩ := by
  induction fuel generalizing pending reached with
  | zero => omega
  | succ fuel ih =>
    cases pending with
    | nil => exact .refl
    | cons first rest =>
      unfold reachFrom
      by_cases old : first ∈ reached
      · have step : Search.Step s ⟨first :: rest, reached⟩ ⟨rest, reached⟩ := .again .rfl old
        have lighter := step.lighter
        rw [if_pos (List.contains_iff_mem.mpr old)]
        exact .head step (ih (by omega))
      · have step : Search.Step s ⟨first :: rest, reached⟩
            ⟨s.mentions first ++ rest, first :: reached⟩ := .visit .rfl old
        have lighter := step.lighter
        rw [if_neg (fun contained => old (List.contains_iff_mem.mp contained))]
        exact .head step (ih (by omega))

/-- `reachable` is what one of the searches reaches. -/
theorem reachable_search (s : Session) (roots : List String) :
    Relation.ReflTransGen (Search.Step s) (Search.start s roots) ⟨[], s.reachable roots⟩ := by
  apply reachFrom_search
  simp only [Search.weight, fieldsLeft_nil]
  omega

theorem reachable_valid (s : Session) (roots : List String) :
    Search.Valid s roots ⟨[], s.reachable roots⟩ :=
  (Search.start_valid s roots).run (reachable_search s roots)

/-- Exactly what registered roots lead to is reachable. -/
theorem mem_reachable_iff {typeId : String} :
    typeId ∈ s.reachable roots ↔ s.Reaches roots typeId :=
  (reachable_valid s roots).mem_reached_iff

theorem mem_excludedIds_iff {typeId : String} :
    typeId ∈ s.excludedIds ↔
      s.Reaches (ioTypeIds s.excludedServices) typeId ∧
        ¬ s.Reaches (ioTypeIds s.services) typeId := by
  simp only [excludedIds, List.mem_filter, Bool.not_eq_true', List.contains_eq_mem,
    decide_eq_false_iff_not, mem_reachable_iff]

theorem mem_ioTypeIds_iff {services : List Service} {typeId : String} :
    typeId ∈ ioTypeIds services ↔
      ∃ service ∈ services, ∃ m ∈ service.methods, ∃ t, (t = m.input ∨ t = m.output) ∧
        t.isObject = true ∧ t.typeId = typeId := by
  simp only [ioTypeIds, List.mem_flatMap, List.mem_map, List.mem_filter, List.mem_cons,
    List.not_mem_nil, or_false, and_assoc]

end GoIdl.Session
