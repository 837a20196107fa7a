import Mathlib.Data.List.Forall2

/-!
# Outcomes

What it takes for steps that may fail to succeed. What a row of steps makes of a list agrees with it
entry by entry.
-/

namespace GoIdl

/-! ### Lists that agree entry by entry -/

theorem exists_left_of_forall₂ {α β : Type} {rel : α → β → Prop} {xs : List α} {ys : List β} {y : β}
    (all : List.Forall₂ rel xs ys) (member : y ∈ ys) : ∃ x ∈ xs, rel x y := by
  induction all with
  | nil => cases member
  | cons here _ ih =>
    rcases List.mem_cons.mp member with rfl | later
    · exact ⟨_, List.mem_cons_self, here⟩
    · obtain ⟨x, listed, there⟩ := ih later
      exact ⟨x, List.mem_cons_of_mem _ listed, there⟩

theorem exists_right_of_forall₂ {α β : Type} {rel : α → β → Prop} {xs : List α} {ys : List β} {x : α}
    (all : List.Forall₂ rel xs ys) (member : x ∈ xs) : ∃ y ∈ ys, rel x y :=
  exists_left_of_forall₂ all.flip member

/-- What an entry in the midst of a list is paired with is in the midst of the other. -/
theorem forall₂_midst {α β : Type} {rel : α → β → Prop} {before after : List α} {x : α} {ys : List β}
    (all : List.Forall₂ rel (before ++ x :: after) ys) : ∃ earlier y later,
      ys = earlier ++ y :: later ∧ List.Forall₂ rel before earlier ∧ rel x y := by
  induction before generalizing ys with
  | nil =>
    cases all with
    | cons here _ => exact ⟨[], _, _, rfl, .nil, here⟩
  | cons first rest ih =>
    cases all with
    | cons here others =>
      obtain ⟨earlier, y, later, rfl, paired, there⟩ := ih others
      exact ⟨_ :: earlier, y, later, rfl, .cons here paired, there⟩

/-- Lists that are paired with one list are paired with each other. -/
theorem forall₂_along {α β γ : Type} {left : α → β → Prop} {right : α → γ → Prop}
    {rel : β → γ → Prop} {xs : List α} {ys : List β} {zs : List γ} (first : List.Forall₂ left xs ys)
    (second : List.Forall₂ right xs zs)
    (both : ∀ x ∈ xs, ∀ y z, left x y → right x z → rel y z) : List.Forall₂ rel ys zs := by
  induction first generalizing zs with
  | nil =>
    cases second
    exact .nil
  | cons here _ ih =>
    cases second with
    | cons there others =>
      exact .cons (both _ List.mem_cons_self _ _ here there)
        (ih others fun x member => both x (List.mem_cons_of_mem _ member))

/-! ### Steps -/

variable {ε ε' α β : Type} {x : Except ε α} {a : α} {b : β} {e : ε} {e' : ε'}

theorem bind_eq_ok {f : α → Except ε β} : x >>= f = .ok b ↔ ∃ a, x = .ok a ∧ f a = .ok b := by
  cases x <;> simp [bind, Except.bind]

theorem map_eq_ok {f : α → β} : x.map f = .ok b ↔ ∃ a, x = .ok a ∧ f a = b := by
  cases x <;> simp [Except.map]

theorem mapError_eq_ok {f : ε → ε'} : x.mapError f = .ok a ↔ x = .ok a := by
  cases x <;> simp [Except.mapError]

theorem bind_eq_error {f : α → Except ε β} :
    x >>= f = .error e ↔ x = .error e ∨ ∃ a, x = .ok a ∧ f a = .error e := by
  cases x <;> simp [bind, Except.bind]

theorem map_eq_error {f : α → β} : x.map f = .error e ↔ x = .error e := by
  cases x <;> simp [Except.map]

theorem mapError_eq_error {f : ε → ε'} :
    x.mapError f = .error e' ↔ ∃ e, x = .error e ∧ f e = e' := by
  cases x <;> simp [Except.mapError]

theorem mapM_eq_ok {f : α → Except ε β} {xs : List α} {ys : List β} :
    xs.mapM f = .ok ys ↔ List.Forall₂ (fun x y => f x = .ok y) xs ys := by
  induction xs generalizing ys with
  | nil =>
    rw [List.mapM_nil, List.forall₂_nil_left_iff]
    exact ⟨fun same => (Except.ok.inj same).symm, fun same => same ▸ rfl⟩
  | cons x rest ih =>
    rw [List.mapM_cons, bind_eq_ok, List.forall₂_cons_left_iff]
    constructor
    · rintro ⟨y, here, later⟩
      obtain ⟨more, later, same⟩ := bind_eq_ok.mp later
      exact ⟨y, more, here, ih.mp later, (Except.ok.inj same).symm⟩
    · rintro ⟨y, more, here, later, rfl⟩
      exact ⟨y, here, bind_eq_ok.mpr ⟨more, ih.mpr later, rfl⟩⟩

theorem exists_of_mapM_eq_error {f : α → Except ε β} {xs : List α} (failed : xs.mapM f = .error e) :
    ∃ x ∈ xs, f x = .error e := by
  induction xs with
  | nil => cases failed
  | cons x rest ih =>
    rw [List.mapM_cons] at failed
    rcases bind_eq_error.mp failed with here | ⟨y, _, failed⟩
    · exact ⟨x, List.mem_cons_self, here⟩
    · rcases bind_eq_error.mp failed with later | ⟨_, _, done⟩
      · obtain ⟨x', listed, refused⟩ := ih later
        exact ⟨x', List.mem_cons_of_mem _ listed, refused⟩
      · cases done

theorem exists_mapM_iff {f : α → Except ε β} {xs : List α} :
    (∃ ys, xs.mapM f = .ok ys) ↔ ∀ x ∈ xs, ∃ y, f x = .ok y := by
  simp only [mapM_eq_ok]
  constructor
  · rintro ⟨ys, all⟩ x member
    obtain ⟨y, -, here⟩ := exists_right_of_forall₂ all member
    exact ⟨y, here⟩
  · intro each
    induction xs with
    | nil => exact ⟨[], .nil⟩
    | cons x rest ih =>
      obtain ⟨y, here⟩ := each x List.mem_cons_self
      obtain ⟨ys, others⟩ := ih fun x member => each x (List.mem_cons_of_mem _ member)
      exact ⟨y :: ys, .cons here others⟩

end GoIdl
