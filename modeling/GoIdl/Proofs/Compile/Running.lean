import GoIdl.Compile.World
import GoIdl.Proofs.Outcomes

/-!
# Running a compilation

What it takes for a compilation to succeed, read off the way it is put together.
-/

namespace GoIdl

namespace Compile

variable {α β : Type} {disk : Disk} {w w' : World} {a : α} {b : β}

@[simp] theorem runOn_pure (a : α) : (pure a : Compile α).runOn disk w = (.ok a, w) := rfl

@[simp] theorem runOn_throw (failure : Failure) :
    (throw failure : Compile α).runOn disk w = (.error failure, w) := rfl

@[simp] theorem runOn_fail (error : DefinitionError) :
    (fail error : Compile α).runOn disk w = (.error (.definition error), w) := rfl

@[simp] theorem runOn_rootPath : rootPath.runOn disk w = (.ok w.session.rootPath, w) := rfl

@[simp] theorem runOn_depth :
    depth.runOn disk w = (.ok (w.loader.declared + disk.size + 2), w) := rfl

theorem runOn_bind (c : Compile α) (f : α → Compile β) :
    (c >>= f).runOn disk w =
      match c.runOn disk w with
      | (.ok a, v) => (f a).runOn disk v
      | (.error failure, v) => (.error failure, v) := by
  show (ExceptT.bind (c.run disk) fun a => (f a).run disk).run w = _
  unfold runOn ExceptT.bind ExceptT.run ExceptT.mk
  simp only [bind, StateT.bind]
  rcases (c.run disk) w with ⟨_ | _, _⟩ <;> rfl

theorem bind_ok {c : Compile α} {f : α → Compile β} :
    (c >>= f).runOn disk w = (.ok b, w') ↔
      ∃ a v, c.runOn disk w = (.ok a, v) ∧ (f a).runOn disk v = (.ok b, w') := by
  rw [runOn_bind]
  rcases c.runOn disk w with ⟨_ | a, v⟩
  · simp
  · simp

theorem pure_ok {a b : α} : (pure a : Compile α).runOn disk w = (.ok b, w') ↔ b = a ∧ w' = w := by
  simp [eq_comm]

/-! ### Steps that leave the state alone or change it in one way -/

section

variable {f : Unit → Compile β}

@[simp] theorem read_bind (f : Disk → Compile β) :
    (read >>= f).runOn disk w = (f disk).runOn disk w := rfl

@[simp] theorem get_bind (f : World → Compile β) :
    (get >>= f).runOn disk w = (f w).runOn disk w := rfl

@[simp] theorem loader_bind (f : Loader → Compile β) :
    (loader >>= f).runOn disk w = (f w.loader).runOn disk w := rfl

@[simp] theorem rootPath_bind (f : String → Compile β) :
    (rootPath >>= f).runOn disk w = (f w.session.rootPath).runOn disk w := rfl

@[simp] theorem depth_bind (f : Nat → Compile β) :
    (depth >>= f).runOn disk w = (f (w.loader.declared + disk.size + 2)).runOn disk w := rfl

@[simp] theorem note_bind (level : LogLevel) (source : LogSource) (message : String) :
    (note level source message >>= f).runOn disk w =
      (f ()).runOn disk { w with log := w.log ++ [⟨level, source, message⟩] } := rfl

@[simp] theorem modifySession_bind (change : Session → Session) :
    (modifySession change >>= f).runOn disk w =
      (f ()).runOn disk { w with session := change w.session } := rfl

@[simp] theorem modifyLoader_bind (change : Loader → Loader) :
    (modifyLoader change >>= f).runOn disk w =
      (f ()).runOn disk { w with loader := change w.loader } := rfl

theorem note_ok {level : LogLevel} {source : LogSource} {message : String} {u : Unit}
    (run : (note level source message).runOn disk w = (.ok u, w')) : ∃ log, w' = { w with log } := by
  cases run
  exact ⟨_, rfl⟩

theorem ensure_ok {condition : Bool} {error : DefinitionError} {u : Unit} :
    (ensure condition error).runOn disk w = (.ok u, w') ↔ condition = true ∧ w' = w := by
  cases condition <;> simp [ensure, eq_comm]

theorem ensure_bind_ok {condition : Bool} {error : DefinitionError} :
    (ensure condition error >>= f).runOn disk w = (.ok b, w') ↔
      condition = true ∧ (f ()).runOn disk w = (.ok b, w') := by
  rw [runOn_bind]
  cases condition <;> simp [ensure]

theorem ofExcept_bind_ok {outcome : Except Failure α} {f : α → Compile β} :
    (ofExcept outcome >>= f).runOn disk w = (.ok b, w') ↔
      ∃ a, outcome = .ok a ∧ (f a).runOn disk w = (.ok b, w') := by
  rw [runOn_bind]
  cases outcome <;> simp [ofExcept]

theorem ofDefinition_bind_ok {outcome : Except DefinitionError α} {f : α → Compile β} :
    (ofDefinition outcome >>= f).runOn disk w = (.ok b, w') ↔
      ∃ a, outcome = .ok a ∧ (f a).runOn disk w = (.ok b, w') := by
  rw [runOn_bind]
  cases outcome <;> simp [ofDefinition]

theorem ofExcept_ok {outcome : Except Failure α} :
    (ofExcept outcome).runOn disk w = (.ok a, w') ↔ outcome = .ok a ∧ w' = w := by
  cases outcome <;> simp [ofExcept, eq_comm]

end

/-! ### One after another -/

/-- What every step keeps, the whole run keeps. -/
theorem forM_ok {f : α → Compile Unit} (keeps : List α → World → Prop) {xs : List α} {u : Unit}
    (step : ∀ x rest v v', keeps (x :: rest) v → (f x).runOn disk v = (.ok (), v') → keeps rest v')
    (start : keeps xs w) (run : (xs.forM f).runOn disk w = (.ok u, w')) : keeps [] w' := by
  induction xs generalizing w with
  | nil =>
    cases run
    exact start
  | cons x rest ih =>
    obtain ⟨_, v, first, later⟩ := bind_ok.mp run
    exact ih (step x rest w v start first) later

/-- Outcomes that are read off one after another leave the state alone. -/
theorem runOn_mapM_ofExcept (f : α → Except Failure β) (xs : List α) :
    (xs.mapM fun x => ofExcept (f x)).runOn disk w = (xs.mapM f, w) := by
  induction xs with
  | nil => rfl
  | cons x rest ih =>
    rw [List.mapM_cons, List.mapM_cons, runOn_bind]
    cases f x with
    | error failure => rfl
    | ok y =>
      show ((rest.mapM fun x => ofExcept (f x)) >>= fun ys => pure (y :: ys)).runOn disk w = _
      rw [runOn_bind, ih]
      cases rest.mapM f <;> rfl

/-- What holds at the end of a run over a list and not at its start has come about at some entry. -/
theorem forM_first {f : α → Compile Unit} (holds : World → Prop) {xs : List α}
    (start : ¬ holds w) (last : holds w') (run : (xs.forM f).runOn disk w = (.ok (), w')) :
    ∃ before x after v v', xs = before ++ x :: after ∧ (before.forM f).runOn disk w = (.ok (), v) ∧
      (f x).runOn disk v = (.ok (), v') ∧ (after.forM f).runOn disk v' = (.ok (), w') ∧
      ¬ holds v ∧ holds v' := by
  induction xs generalizing w with
  | nil =>
    cases run
    exact absurd last start
  | cons x rest ih =>
    obtain ⟨_, u, first, later⟩ := bind_ok.mp run
    by_cases here : holds u
    · exact ⟨[], x, rest, w, u, rfl, rfl, first, later, start, here⟩
    · obtain ⟨before, y, after, v, v', same, early, now, late, without, reached⟩ := ih here later
      exact ⟨x :: before, y, after, v, v', by rw [same, List.cons_append],
        bind_ok.mpr ⟨(), u, first, early⟩, now, late, without, reached⟩

/-- A run over a list keeps an invariant and goes along a preorder; what it says of every result
lasts to its end. -/
theorem mapM_ok {f : α → Compile β} (keeps : World → Prop) (le : World → World → Prop)
    (holds : World → α → β → Prop) {xs : List α} {ys : List β} (refl : ∀ v, keeps v → le v v)
    (trans : ∀ {u v v'}, le u v → le v v' → le u v')
    (lasts : ∀ {v v' x y}, le v v' → holds v x y → holds v' x y)
    (step : ∀ x ∈ xs, ∀ y v v', keeps v → (f x).runOn disk v = (.ok y, v') →
      keeps v' ∧ le v v' ∧ holds v' x y)
    (start : keeps w) (run : (xs.mapM f).runOn disk w = (.ok ys, w')) :
    keeps w' ∧ le w w' ∧ List.Forall₂ (holds w') xs ys := by
  induction xs generalizing w ys with
  | nil =>
    rw [List.mapM_nil] at run
    obtain ⟨rfl, rfl⟩ := pure_ok.mp run
    exact ⟨start, refl _ start, .nil⟩
  | cons x rest ih =>
    rw [List.mapM_cons] at run
    obtain ⟨y, v, first, run⟩ := bind_ok.mp run
    obtain ⟨more, v', later, run⟩ := bind_ok.mp run
    obtain ⟨rfl, rfl⟩ := pure_ok.mp run
    obtain ⟨kept, grown, done⟩ := step x List.mem_cons_self y w v start first
    obtain ⟨ended, grows, others⟩ := ih (fun x member => step x (List.mem_cons_of_mem _ member)) kept later
    exact ⟨ended, trans grown grows, .cons (lasts grows done) others⟩

end Compile

end GoIdl
