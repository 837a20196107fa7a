import GoIdl.Proofs.Compile.Running

/-!
# Computations that mimic each other

Two computations run from related worlds. The second mimics the first if it succeeds where the first
does, with a related answer, and if it also fails as the first does where failures count.
-/

namespace GoIdl

variable {α α' β β' γ γ' : Type} {disk : Disk} {strict : Prop}

/-- Worlds with one session and as many declarations, `least` of them at least. -/
structure World.Alike (least : Nat) (u v : World) : Prop where
  session : u.session = v.session
  declared : u.loader.declared = v.loader.declared
  enough : least ≤ u.loader.declared

theorem World.Alike.symm {least : Nat} {u v : World} (alike : World.Alike least u v) :
    World.Alike least v u :=
  ⟨alike.session.symm, alike.declared.symm, alike.declared ▸ alike.enough⟩

/-- From related `worlds` on, `c'` does what `c` does: if `c` succeeds, `c'` succeeds with a related
answer and leaves a related world, and if `strict`, it fails as `c` fails. -/
structure Mimics (disk : Disk) (strict : Prop) (worlds : World → World → Prop) (rel : α → β → Prop)
    (c : Compile α) (c' : Compile β) : Prop where
  ok : ∀ {u u'}, worlds u u' → ∀ {a v}, c.runOn disk u = (.ok a, v) →
    ∃ b v', c'.runOn disk u' = (.ok b, v') ∧ rel a b ∧ worlds v v'
  failed : ∀ {u u'}, worlds u u' → strict → ∀ {failure v},
    c.runOn disk u = (.error failure, v) → ∃ v', c'.runOn disk u' = (.error failure, v')

namespace Mimics

variable {least : Nat} {worlds : World → World → Prop} {rel rel' : α → β → Prop} {c : Compile α}
  {c' : Compile β}

theorem pure {a : α} {b : β} (related : rel a b) :
    Mimics disk strict worlds rel (pure a) (pure b) where
  ok alike _ _ run := by
    cases run
    exact ⟨b, _, rfl, related, alike⟩
  failed _ _ _ _ run := nomatch run

theorem throw {failure failure' : Failure} (same : strict → failure = failure') :
    Mimics disk strict worlds rel (throw failure) (throw failure') where
  ok _ _ _ run := nomatch run
  failed _ counts _ _ run := by
    cases run
    exact ⟨_, by rw [same counts]; rfl⟩

theorem fail {error error' : DefinitionError} (same : strict → error = error') :
    Mimics disk strict worlds rel (Compile.fail error) (Compile.fail error') :=
  throw fun counts => congrArg Failure.definition (same counts)

/-- What never succeeds is mimicked by everything, if failures do not count. -/
theorem never (fails : ∀ u a v, c.runOn disk u ≠ (.ok a, v)) :
    Mimics disk False worlds rel c c' where
  ok _ _ _ run := absurd run (fails _ _ _)
  failed _ counts := counts.elim

/-- Mimicking is about runs. -/
theorem of_runs {c₁ : Compile α} {c₁' : Compile β} (mimics : Mimics disk strict worlds rel c₁ c₁')
    (left : ∀ u, c.runOn disk u = c₁.runOn disk u)
    (right : ∀ u, c'.runOn disk u = c₁'.runOn disk u) : Mimics disk strict worlds rel c c' where
  ok related _ _ run := by
    rw [left] at run
    simpa only [right] using mimics.ok related run
  failed related counts _ _ run := by
    rw [left] at run
    simpa only [right] using mimics.failed related counts run

theorem bind {rel' : γ → γ' → Prop} {f : α → Compile γ} {f' : β → Compile γ'}
    (first : Mimics disk strict worlds rel c c')
    (later : ∀ a b, rel a b → Mimics disk strict worlds rel' (f a) (f' b)) :
    Mimics disk strict worlds rel' (c >>= f) (c' >>= f') where
  ok alike x w run := by
    obtain ⟨a, v, here, run⟩ := Compile.bind_ok.mp run
    obtain ⟨b, v', there, related, alike⟩ := first.ok alike here
    obtain ⟨y, w', ends, final, last⟩ := (later a b related).ok alike run
    exact ⟨y, w', Compile.bind_ok.mpr ⟨b, v', there, ends⟩, final, last⟩
  failed alike counts failure w run := by
    rw [Compile.runOn_bind] at run
    rcases here : c.runOn disk _ with ⟨_ | a, v⟩
    · rw [here] at run
      cases run
      obtain ⟨v', there⟩ := first.failed alike counts here
      exact ⟨v', by rw [Compile.runOn_bind, there]⟩
    · rw [here] at run
      obtain ⟨b, v', there, related, alike⟩ := first.ok alike here
      obtain ⟨w', ends⟩ := (later a b related).failed alike counts run
      exact ⟨w', by rw [Compile.runOn_bind, there]; exact ends⟩

theorem mono (mimics : Mimics disk strict worlds rel c c') (weaker : ∀ a b, rel a b → rel' a b) :
    Mimics disk strict worlds rel' c c' where
  ok alike _ _ run := by
    obtain ⟨b, v', there, related, alike⟩ := mimics.ok alike run
    exact ⟨b, v', there, weaker _ _ related, alike⟩
  failed := mimics.failed

/-! ### Steps -/

/-- What follows a check may rely on it. -/
theorem ensured {condition condition' : Bool} {error error' : DefinitionError}
    (agree : condition = condition') (same : strict → error = error') :
    Mimics disk strict worlds (fun _ _ => condition = true) (Compile.ensure condition error)
      (Compile.ensure condition' error') := by
  subst agree
  cases condition with
  | false => exact fail same
  | true => exact pure rfl

theorem ensure {condition condition' : Bool} {error error' : DefinitionError}
    (agree : condition = condition') (same : strict → error = error') :
    Mimics disk strict worlds (fun _ _ => True) (Compile.ensure condition error)
      (Compile.ensure condition' error') :=
  (ensured agree same).mono fun _ _ _ => trivial

theorem ofExcept (outcome : Except Failure α) :
    Mimics disk strict worlds Eq (Compile.ofExcept outcome) (Compile.ofExcept outcome) := by
  cases outcome with
  | error failure => exact throw fun _ => rfl
  | ok a => exact pure rfl

theorem withDisk {f : Disk → Compile α} {f' : Disk → Compile β}
    (mimics : Mimics disk strict worlds rel (f disk) (f' disk)) :
    Mimics disk strict worlds rel (read >>= f) (read >>= f') :=
  mimics.of_runs (fun _ => rfl) fun _ => rfl

/-- Logs do not count. -/
theorem note (level level' : LogLevel) (source source' : LogSource) (message message' : String) :
    Mimics disk strict (World.Alike least) (fun _ _ => True) (Compile.note level source message)
      (Compile.note level' source' message') where
  ok alike _ _ run := by
    cases run
    exact ⟨(), _, rfl, trivial, alike.session, alike.declared, alike.enough⟩
  failed _ _ _ _ run := nomatch run

theorem depth : Mimics disk strict (World.Alike least) Eq Compile.depth Compile.depth where
  ok alike _ _ run := by
    cases run
    exact ⟨_, _, rfl, by rw [alike.declared], alike⟩
  failed _ _ _ _ run := nomatch run

theorem rootPath : Mimics disk strict (World.Alike least) Eq Compile.rootPath Compile.rootPath where
  ok alike _ _ run := by
    cases run
    exact ⟨_, _, rfl, congrArg Session.rootPath alike.session, alike⟩
  failed _ _ _ _ run := nomatch run

theorem modifySession {change change' : Session → Session} (same : ∀ s, change s = change' s) :
    Mimics disk strict (World.Alike least) (fun _ _ => True) (Compile.modifySession change)
      (Compile.modifySession change') where
  ok alike _ _ run := by
    cases run
    exact ⟨(), _, rfl, trivial, (same _).trans (congrArg change' alike.session), alike.declared,
      alike.enough⟩
  failed _ _ _ _ run := nomatch run

/-! ### One after another -/

variable {xs : List γ} {ys : List γ'} {each : γ → γ' → Prop}

theorem forM {f : γ → Compile Unit} {f' : γ' → Compile Unit} (paired : List.Forall₂ each xs ys)
    (step : ∀ x y, each x y → Mimics disk strict worlds (fun _ _ => True) (f x) (f' y)) :
    Mimics disk strict worlds (fun _ _ => True) (xs.forM f) (ys.forM f') := by
  induction paired with
  | nil => exact pure trivial
  | cons here _ ih => exact (step _ _ here).bind fun _ _ _ => ih

theorem forM_filter {f f' : γ → Compile Unit} {keep : γ → Bool}
    (step : ∀ x ∈ xs, keep x = true → Mimics disk strict worlds (fun _ _ => True) (f x) (f' x))
    (idle : ∀ x ∈ xs, ¬ keep x = true →
      Mimics disk strict worlds (fun _ _ => True) (Pure.pure ()) (f' x)) :
    Mimics disk strict worlds (fun _ _ => True) ((xs.filter keep).forM f) (xs.forM f') := by
  induction xs with
  | nil => exact pure trivial
  | cons x rest ih =>
    have later := ih (fun y member => step y (List.mem_cons_of_mem _ member))
      fun y member => idle y (List.mem_cons_of_mem _ member)
    by_cases kept : keep x = true
    · rw [List.filter_cons_of_pos kept]
      exact (step x List.mem_cons_self kept).bind fun _ _ _ => later
    · rw [List.filter_cons_of_neg kept]
      exact (idle x List.mem_cons_self kept).bind fun _ _ _ => later

theorem mapM {f : γ → Compile α} {f' : γ' → Compile β} (paired : List.Forall₂ each xs ys)
    (step : ∀ x y, each x y → Mimics disk strict worlds rel (f x) (f' y)) :
    Mimics disk strict worlds (List.Forall₂ rel) (xs.mapM f) (ys.mapM f') := by
  induction paired with
  | nil =>
    rw [List.mapM_nil, List.mapM_nil]
    exact pure .nil
  | cons here _ ih =>
    rw [List.mapM_cons, List.mapM_cons]
    exact (step _ _ here).bind fun _ _ first => ih.bind fun _ _ others => pure (.cons first others)

theorem foldlM {f : α → γ → Compile α} {f' : β → γ' → Compile β} {a : α} {b : β}
    (paired : List.Forall₂ each xs ys) (start : rel a b)
    (step : ∀ a b x y, rel a b → each x y → Mimics disk strict worlds rel (f a x) (f' b y)) :
    Mimics disk strict worlds rel (xs.foldlM f a) (ys.foldlM f' b) := by
  induction paired generalizing a b with
  | nil => exact pure start
  | cons here _ ih => exact (step _ _ _ _ start here).bind fun _ _ related => ih related

/-! ### Outcomes -/

section

variable {worlds' : World → World → Prop} {c c' : Compile α} {u u' : World}

/-- Where failures count, there is one outcome. -/
theorem outcome_eq (mimics : Mimics disk True worlds Eq c c') (related : worlds u u') :
    (c.runOn disk u).1 = (c'.runOn disk u').1 := by
  rcases run : c.runOn disk u with ⟨failure | a, v⟩
  · obtain ⟨v', run'⟩ := mimics.failed related trivial run
    rw [run']
  · obtain ⟨b, v', run', rfl, -⟩ := mimics.ok related run
    rw [run']

theorem outcome_bind_eq {d : Compile α'} {d' : Compile β'} {rel : α' → β' → Prop} {f : α' → Compile α}
    {f' : β' → Compile α} (mimics : Mimics disk True worlds rel d d') (related : worlds u u')
    (rest : ∀ a b v v', worlds v v' → rel a b → ((f a).runOn disk v).1 = ((f' b).runOn disk v').1) :
    ((d >>= f).runOn disk u).1 = ((d' >>= f').runOn disk u').1 := by
  rw [Compile.runOn_bind, Compile.runOn_bind]
  rcases run : d.runOn disk u with ⟨failure | a, v⟩
  · obtain ⟨v', run'⟩ := mimics.failed related trivial run
    rw [run']
  · obtain ⟨b, v', run', answers, ends⟩ := mimics.ok related run
    rw [run']
    exact rest a b v v' ends answers

/-- Computations that mimic each other have one answer or none. -/
theorem answer_eq (forth : Mimics disk strict worlds Eq c c')
    (back : Mimics disk strict worlds' Eq c' c) (related : worlds u u') (related' : worlds' u' u) :
    (c.runOn disk u).1.toOption = (c'.runOn disk u').1.toOption := by
  rcases run : c.runOn disk u with ⟨failure | a, v⟩
  · rcases run' : c'.runOn disk u' with ⟨failure' | b, v'⟩
    · rfl
    · obtain ⟨a, v, again, -⟩ := back.ok related' run'
      rw [run] at again
      cases again
  · obtain ⟨b, v', run', rfl, -⟩ := forth.ok related run
    rw [run']

end

end Mimics

end GoIdl
