import GoIdl.Syntax.Source

/-!
# Grouped parameters

A list without names is left alone. As soon as one entry has a name, the others are names, too: each
takes its type and its ellipsis from the next entry with a name of its own. That fails exactly if the
list ends in an entry without a name, or an entry without a name is no bare word.
-/

namespace GoIdl.Syntax

variable {listPos : Position} {pending : List (Position × String)} {p closer : Param TypeExpr}
  {params rest : List (Param TypeExpr)} {name : String}

/-! ### Entries -/

/-- An entry whose type is a bare word, without an ellipsis. -/
def Param.Bare (p : Param TypeExpr) (name : String) : Prop :=
  p.variadic = false ∧ ∃ pos, p.type = .named ⟨pos, none, name⟩

/-- The name of an entry in a list with names: its own, or else the word that stands in the place of
its type. -/
def Param.GoesBy (p : Param TypeExpr) (name : String) : Prop :=
  p.name = some name ∨ p.name = none ∧ p.Bare name

/-- Whether an entry has a name of its own. -/
def Param.isNamed (p : Param TypeExpr) : Bool := p.name.isSome

/-- Whether an entry neither has a name nor can be one. -/
def Param.isMixed (p : Param TypeExpr) : Bool := p.name.isNone && p.asName?.isNone

theorem Param.asName?_eq_some : p.asName? = some name ↔ p.Bare name := by
  unfold Param.asName? Param.Bare
  split
  · rename_i word plain type
    rw [plain, type]
    simp
  · rename_i other
    constructor
    · exact nofun
    · rintro ⟨plain, pos, type⟩
      exact absurd type (other pos name plain)

theorem Param.isMixed_eq_false :
    p.isMixed = false ↔ (p.name = none → ∃ name, p.Bare name) := by
  simp only [← Param.asName?_eq_some]
  cases own : p.name <;> cases word : p.asName? <;> simp [Param.isMixed, own, word]

/-! ### Lists with names -/

theorem last_of_rest {q : Param TypeExpr} (final : q ∈ rest.getLast?) : q ∈ (p :: rest).getLast? := by
  cases rest with
  | nil => cases final
  | cons r more => exact final

/-- The entries as they are in a list with names, each with the closing entry of its group. -/
def closedAll : List (Param TypeExpr) → List (Param TypeExpr)
  | [] => []
  | p :: rest =>
    (((p :: rest).find? Param.isNamed).getD p).named (p.pos, (p.name <|> p.asName?).getD "") ::
      closedAll rest

theorem closedAll_named (own : p.name = some name) :
    closedAll (p :: rest) = p :: closedAll rest := by
  have first : (p :: rest).find? Param.isNamed = some p :=
    List.find?_cons_of_pos (by simp [Param.isNamed, own])
  have same : p.named (p.pos, name) = p := by
    rw [Param.named, ← own]
  rw [closedAll, first, own]
  exact congrArg (· :: closedAll rest) same

theorem closedAll_bare (unnamed : p.name = none) (word : p.asName? = some name)
    (found : rest.find? Param.isNamed = some closer) :
    closedAll (p :: rest) = closer.named (p.pos, name) :: closedAll rest := by
  have later : (p :: rest).find? Param.isNamed = some closer := by
    rw [List.find?_cons_of_neg (by simp [Param.isNamed, unnamed]), found]
  rw [closedAll, later, unnamed, word]
  rfl

theorem groupFrom_closed (able : ∀ p ∈ params, p.isMixed = false)
    (last : ∀ p ∈ params.getLast?, p.isNamed = true)
    (found : params.find? Param.isNamed = some closer) :
    groupFrom listPos pending params =
      .ok (pending.reverse.map closer.named ++ closedAll params) := by
  induction params generalizing pending closer with
  | nil => cases found
  | cons p rest ih =>
    have able' : ∀ q ∈ rest, q.isMixed = false := fun q member => able q (List.mem_cons_of_mem _ member)
    have last' : ∀ q ∈ rest.getLast?, q.isNamed = true := fun q final => last q (last_of_rest final)
    unfold groupFrom
    cases own : p.name with
    | some name =>
      have first : closer = p := by
        rw [List.find?_cons_of_pos (by simp [Param.isNamed, own])] at found
        exact (Option.some.inj found).symm
      have more : groupFrom listPos [] rest = .ok (closedAll rest) := by
        cases rest with
        | nil => rfl
        | cons r more =>
          have final := last' _ (List.getLast?_eq_some_getLast (List.cons_ne_nil r more))
          obtain ⟨next, found'⟩ := Option.isSome_iff_exists.mp
            (List.find?_isSome.mpr ⟨_, List.getLast_mem (List.cons_ne_nil r more), final⟩)
          exact ih able' last' found'
      rw [first, closedAll_named own]
      dsimp only
      rw [more]
      rfl
    | none =>
      obtain ⟨name, bare⟩ := Param.isMixed_eq_false.mp (able p List.mem_cons_self) own
      have word := Param.asName?_eq_some.mpr bare
      rw [List.find?_cons_of_neg (by simp [Param.isNamed, own])] at found
      rw [word, closedAll_bare own word found]
      dsimp only
      rw [ih able' last' found, List.reverse_cons, List.map_append, List.append_assoc]
      rfl

/-! ### Lists that mix -/

theorem groupFrom_mixed (found : params.find? Param.isMixed = some p) :
    groupFrom listPos pending params = .error p.pos := by
  induction params generalizing pending with
  | nil => cases found
  | cons q rest ih =>
    unfold groupFrom
    cases own : q.name with
    | some name =>
      rw [List.find?_cons_of_neg (by simp [Param.isMixed, own])] at found
      dsimp only
      rw [ih found]
      rfl
    | none =>
      cases word : q.asName? with
      | some name =>
        rw [List.find?_cons_of_neg (by simp [Param.isMixed, word])] at found
        exact ih found
      | none =>
        rw [List.find?_cons_of_pos (by simp [Param.isMixed, own, word])] at found
        rw [Option.some.inj found]

theorem groupFrom_open (able : ∀ p ∈ params, p.isMixed = false)
    (last : ∀ p ∈ params.getLast?, p.isNamed = false) (some_left : pending ≠ [] ∨ params ≠ []) :
    groupFrom listPos pending params = .error listPos := by
  induction params generalizing pending with
  | nil =>
    have waiting : pending ≠ [] := some_left.resolve_right (· rfl)
    rw [groupFrom, if_neg (by simpa using waiting)]
  | cons p rest ih =>
    have able' : ∀ q ∈ rest, q.isMixed = false := fun q member => able q (List.mem_cons_of_mem _ member)
    have last' : ∀ q ∈ rest.getLast?, q.isNamed = false := fun q final => last q (last_of_rest final)
    unfold groupFrom
    cases own : p.name with
    | some name =>
      have more : rest ≠ [] := by
        rintro rfl
        have unnamed := last p rfl
        rw [Param.isNamed, own] at unnamed
        cases unnamed
      dsimp only
      rw [ih able' last' (.inr more)]
      rfl
    | none =>
      obtain ⟨name, bare⟩ := Param.isMixed_eq_false.mp (able p List.mem_cons_self) own
      rw [Param.asName?_eq_some.mpr bare]
      exact ih able' last' (.inl (List.cons_ne_nil _ _))

/-! ### Whole lists -/

theorem getElem?_closedAll {i : Nat} (given : params[i]? = some p)
    (able : ∀ p ∈ params, p.isMixed = false) (last : ∀ p ∈ params.getLast?, p.isNamed = true) :
    ∃ name closer, p.GoesBy name ∧ (params.drop i).find? Param.isNamed = some closer ∧
      (closedAll params)[i]? = some (closer.named (p.pos, name)) := by
  induction params generalizing i with
  | nil => cases given
  | cons q rest ih =>
    cases i with
    | zero =>
      cases given
      cases own : p.name with
      | some name =>
        refine ⟨name, p, .inl own, List.find?_cons_of_pos (by simp [Param.isNamed, own]), ?_⟩
        rw [closedAll_named own, List.getElem?_cons_zero, Param.named, ← own]
      | none =>
        obtain ⟨name, bare⟩ := Param.isMixed_eq_false.mp (able p List.mem_cons_self) own
        have follows : (p :: rest).find? Param.isNamed ≠ none := by
          rw [ne_eq, List.find?_eq_none]
          intro none_named
          have final := List.getLast?_eq_some_getLast (List.cons_ne_nil p rest)
          exact none_named _ (List.mem_of_getLast? final) (last _ final)
        obtain ⟨closer, found⟩ := Option.ne_none_iff_exists'.mp follows
        refine ⟨name, closer, .inr ⟨own, bare⟩, found, ?_⟩
        rw [closedAll, found, own, Param.asName?_eq_some.mpr bare]
        rfl
    | succ i =>
      exact ih given (fun q member => able q (List.mem_cons_of_mem _ member))
        fun q final => last q (last_of_rest final)

theorem length_closedAll (params : List (Param TypeExpr)) :
    (closedAll params).length = params.length := by
  induction params with
  | nil => rfl
  | cons p rest ih => rw [closedAll, List.length_cons, List.length_cons, ih]

/-- What becomes of a list with names: it is closed, or the first entry that mixes is at fault, or else
the list. -/
theorem groupParams_named (listPos : Position) (named : ∃ p ∈ params, p.name ≠ none) :
    (∀ p ∈ params.getLast?, p.isNamed = true) ∧ (∀ p ∈ params, p.isMixed = false) ∧
        groupParams listPos params = .ok (closedAll params) ∨
      ¬ ((∀ p ∈ params.getLast?, p.isNamed = true) ∧ ∀ p ∈ params, p.isMixed = false) ∧
        groupParams listPos params =
          .error (((params.find? Param.isMixed).map (·.pos)).getD listPos) := by
  obtain ⟨p, member, own⟩ := named
  have own' : p.isNamed = true := Option.isSome_iff_ne_none.mpr own
  have some_named : params.any (·.name.isSome) = true := List.any_eq_true.mpr ⟨p, member, own'⟩
  rw [groupParams, if_pos some_named]
  cases mixes : params.find? Param.isMixed with
  | some q =>
    refine .inr ⟨fun whole => ?_, groupFrom_mixed mixes⟩
    have mixed := List.find?_some mixes
    rw [whole.2 q (List.mem_of_find?_eq_some mixes)] at mixed
    cases mixed
  | none =>
    have able : ∀ q ∈ params, q.isMixed = false := by
      intro q listed
      simpa using List.find?_eq_none.mp mixes q listed
    have final := List.getLast?_eq_some_getLast (List.ne_nil_of_mem member)
    cases closes : (params.getLast (List.ne_nil_of_mem member)).isNamed with
    | true =>
      have last : ∀ q ∈ params.getLast?, q.isNamed = true := by
        rw [final]
        rintro q ⟨⟩
        exact closes
      obtain ⟨closer, found⟩ := Option.isSome_iff_exists.mp
        (List.find?_isSome.mpr ⟨p, member, own'⟩)
      exact .inl ⟨last, able, groupFrom_closed able last found⟩
    | false =>
      have last : ∀ q ∈ params.getLast?, q.isNamed = false := by
        rw [final]
        rintro q ⟨⟩
        exact closes
      refine .inr ⟨fun whole => ?_, groupFrom_open able last (.inr (List.ne_nil_of_mem member))⟩
      have open' := last _ final
      rw [whole.1 _ final] at open'
      cases open'

/-- A list in which no entry has a name stays as it is. Any other list is grouped exactly if its last
entry has a name and every entry without one is a bare word. Grouping keeps length and order; every
entry keeps its place, goes by its own name or by its word, and takes type and ellipsis from the first
entry with a name from there on. A list that is not grouped is an error of loading, at the first entry
that neither has a name nor can be one, or else at the list. -/
theorem groupParams_exactly (listPos : Position) (params : List (Param TypeExpr)) :
    ((∀ p ∈ params, p.name = none) → groupParams listPos params = .ok params) ∧
    ((∃ p ∈ params, p.name ≠ none) →
      ((∃ grouped, groupParams listPos params = .ok grouped) ↔
        (∃ p ∈ params.getLast?, p.name ≠ none) ∧
          ∀ p ∈ params, p.name = none → ∃ name, p.Bare name) ∧
      ∀ grouped, groupParams listPos params = .ok grouped →
        grouped.length = params.length ∧
          ∀ i p, params[i]? = some p → ∃ name closer, p.GoesBy name ∧
            (params.drop i).find? Param.isNamed = some closer ∧
            grouped[i]? = some
              { pos := p.pos, name := some name, variadic := closer.variadic, type := closer.type }) ∧
    ((∀ grouped, groupParams listPos params ≠ .ok grouped) → ∃ place,
      place = ((params.find? Param.isMixed).map (·.pos)).getD listPos ∧
      groupParams listPos params = .error place ∧
      Parser.grouped listPos params = ([], some (.mixedParams place)) ∧
      ∀ path, ∃ error, Source.contentFailure path (.mixedParams place) = .definition error ∧
        error.kind = .load none ∧ error.text = "mixed named and unnamed parameters" ∧
        error.location = some (place.inFile path)) := by
  have unnamed_kept : (∀ p ∈ params, p.name = none) → groupParams listPos params = .ok params := by
    intro unnamed
    have none_named : ¬ params.any (·.name.isSome) = true := by
      rw [List.any_eq_true]
      rintro ⟨p, member, own⟩
      rw [unnamed p member] at own
      cases own
    rw [groupParams, if_neg none_named]
  refine ⟨unnamed_kept, fun named => ?_, fun refused => ?_⟩
  · have final := List.getLast?_eq_some_getLast (List.ne_nil_of_mem named.choose_spec.1)
    have last_iff : (∀ p ∈ params.getLast?, p.isNamed = true) ↔ ∃ p ∈ params.getLast?, p.name ≠ none := by
      rw [final]
      simp [Param.isNamed, Option.isSome_iff_ne_none]
    simp only [← last_iff, ← Param.isMixed_eq_false]
    rcases groupParams_named listPos named with ⟨last, able, closed⟩ | ⟨open', failed⟩
    · rw [closed]
      refine ⟨⟨fun _ => ⟨last, able⟩, fun _ => ⟨_, rfl⟩⟩, ?_⟩
      rintro grouped ⟨⟩
      exact ⟨length_closedAll params, fun i p given => getElem?_closedAll given able last⟩
    · rw [failed]
      exact ⟨⟨nofun, fun whole => absurd whole open'⟩, nofun⟩
  · have named : ∃ p ∈ params, p.name ≠ none := by
      apply Classical.byContradiction
      intro none_named
      refine refused params (unnamed_kept fun p member => ?_)
      exact Classical.byContradiction fun own => none_named ⟨p, member, own⟩
    rcases groupParams_named listPos named with ⟨-, -, closed⟩ | ⟨-, failed⟩
    · exact absurd closed (refused _)
    · refine ⟨_, rfl, failed, ?_, fun path => ⟨_, rfl, rfl, rfl, rfl⟩⟩
      rw [Parser.grouped, failed]

end GoIdl.Syntax
