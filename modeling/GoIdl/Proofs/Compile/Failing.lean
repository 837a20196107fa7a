import GoIdl.Proofs.Compile.Ending
import GoIdl.Proofs.Package.Caches

/-!
# Failing resolutions

A failed import changes nothing. So whatever looks names up and fails, fails in the same way in the
world that it leaves, in which all that it found on the way is known.
-/

namespace GoIdl

open Syntax (TypeExpr TypeName)

variable {α β : Type} {disk : Disk} {u v : World} {failure : Failure} {fuel more : Nat}
  {seen : List (String × String)} {d root current : DeclaredType}

/-- Every failure of `c` in `u`, with the world that it leaves, is as `tells` has it. -/
def FailsAs (disk : Disk) (u : World) (c : Compile α) (tells : Failure → World → Prop) : Prop :=
  ∀ failure v, c.runOn disk u = (.error failure, v) → tells failure v

namespace FailsAs

variable {c : Compile α} {f : α → Compile β} {tells : Failure → World → Prop}

theorem pure (a : α) : FailsAs disk u (pure a : Compile α) tells := fun _ _ run => nomatch run

theorem fail {error : DefinitionError} (here : tells (.definition error) u) :
    FailsAs disk u (Compile.fail error : Compile α) tells := by
  intro failure v run
  cases run
  exact here

theorem bind (first : FailsAs disk u c tells)
    (later : ∀ a v, c.runOn disk u = (.ok a, v) → FailsAs disk v (f a) tells) :
    FailsAs disk u (c >>= f) tells := by
  intro failure v run
  rw [Compile.runOn_bind] at run
  rcases here : c.runOn disk u with ⟨failure' | a, u'⟩
  · rw [here] at run
    cases run
    exact first _ _ here
  · rw [here] at run
    exact later a u' here failure v run

/-- After an answer that is settled. -/
theorem settled {a : α} (run : c.runOn disk u = (.ok a, u)) (later : FailsAs disk u (f a) tells) :
    FailsAs disk u (c >>= f) tells := by
  intro failure v failed
  rw [Compile.runOn_bind, run] at failed
  exact later failure v failed

theorem deep {f : Nat → Compile α} (each : FailsAs disk u (f (u.loader.declared + disk.size + 2)) tells) :
    FailsAs disk u (Compile.depth >>= f) tells := by
  intro failure v run
  rw [Compile.depth_bind] at run
  exact each failure v run

end FailsAs

/-- Whatever comes of a resolution, nothing is forgotten. -/
theorem Resolving.leaves {c : Compile α} (resolving : Resolving c) (sound : u.loader.Sound) :
    Leaves disk u c := by
  induction resolving generalizing u with
  | pure a => exact .pure sound a
  | throw failure => exact .same sound rfl
  | «import» importer path location => exact Loading.loadImport_leaves importer path location sound
  | bind _ _ first later => exact (first sound).bind fun a v _ onward => later a onward.sound
  | deep _ _ each =>
    rw [Leaves, Compile.depth_bind]
    exact each _ sound

/-- What resolves either answers, and is settled then, or fails as is told. -/
theorem FailsAs.outcome {c : Compile α} {tells : Failure → World → Prop} (fails : FailsAs disk u c tells)
    (resolving : Resolving c) (sound : u.loader.Sound) :
    (∃ a v, c.runOn disk u = (.ok a, v) ∧ Grows u v ∧ Yields disk v.loader c a) ∨
      ∃ failure v, c.runOn disk u = (.error failure, v) ∧ Grows u v ∧ tells failure v := by
  have leaves : Leaves disk u c := resolving.leaves sound
  rw [Leaves] at leaves
  rcases run : c.runOn disk u with ⟨failure | a, v⟩
  · rw [run] at leaves
    exact .inr ⟨failure, v, rfl, leaves.toGrows, fails failure v run⟩
  · obtain ⟨grows, settled⟩ := resolving.ok sound run
    exact .inl ⟨a, v, rfl, grows, settled⟩

theorem Asking.fails_again {c : Compile α} (asking : Asking c) (sound : u.loader.Sound)
    (run : c.runOn disk u = (.error failure, v)) :
    Grows u v ∧ c.runOn disk v = (.error failure, v) := by
  induction asking generalizing u v with
  | pure a => cases run
  | fail error =>
    cases run
    exact ⟨.refl sound, rfl⟩
  | «import» importer path location =>
    cases Loading.loadImport_failsCleanly importer path location u failure v run
    exact ⟨.refl sound, run⟩
  | @bind _ _ c f first later ihFirst ihLater =>
    rw [Compile.runOn_bind] at run
    rcases here : c.runOn disk u with ⟨failure' | a, u'⟩
    · rw [here] at run
      cases run
      obtain ⟨grows, again⟩ := ihFirst sound here
      refine ⟨grows, ?_⟩
      rw [Compile.runOn_bind, again]
    · rw [here] at run
      obtain ⟨grows, settled⟩ := first.resolving.ok sound here
      obtain ⟨grows', again⟩ := ihLater a grows.sound run
      refine ⟨grows.trans grows', ?_⟩
      rw [Compile.runOn_bind, settled v grows'.le]
      exact again

namespace Resolve

/-- Names that cannot be followed to their end, but not for want of fuel. -/
theorem followNames_fails_again (sound : u.loader.Sound) (shallow : failure ≠ .tooDeep)
    (enough : fuel ≤ more)
    (run : (followNames fuel seen root current).runOn disk u = (.error failure, v)) :
    Grows u v ∧ (followNames more seen root current).runOn disk v = (.error failure, v) := by
  induction fuel generalizing u seen current more with
  | zero =>
    cases run
    exact absurd rfl shallow
  | succ fuel ih =>
    obtain ⟨more, rfl⟩ : ∃ n, more = n + 1 := ⟨more - 1, by omega⟩
    unfold followNames at run ⊢
    by_cases inside : seen.contains current.key = true
    · rw [if_pos inside] at run ⊢
      cases run
      exact ⟨.refl sound, rfl⟩
    · rw [if_neg inside] at run ⊢
      split at run
      · rename_i name shape
        rw [Compile.runOn_bind] at run
        rcases here : (lookupDeclared name current.context).runOn disk u with ⟨failure' | found, u'⟩
        · rw [here] at run
          cases run
          obtain ⟨grows, again⟩ := (lookupDeclared_asks ..).fails_again sound here
          refine ⟨grows, ?_⟩
          rw [Compile.runOn_bind, again]
        · rw [here] at run
          obtain ⟨grows, settled⟩ := (lookupDeclared_resolving ..).ok sound here
          cases found with
          | none => cases run
          | some next =>
            obtain ⟨grows', again⟩ := ih grows.sound (Nat.le_of_succ_le_succ enough) run
            refine ⟨grows.trans grows', ?_⟩
            rw [Compile.runOn_bind, settled v grows'.le]
            exact again
      · cases run

theorem underlying_fails_again (sound : u.loader.Sound) (known : d.Known u.loader)
    (run : (underlying d).runOn disk u = (.error failure, v)) :
    Grows u v ∧ (underlying d).runOn disk v = (.error failure, v) := by
  have ends : EndsAt disk u (underlying d) := underlying_ends sound known
  rw [EndsAt, run] at ends
  have shallow : failure ≠ .tooDeep := by
    rintro rfl
    exact ends.ofInput _ rfl
  rw [underlying, Compile.depth_bind] at run
  obtain ⟨grows, -⟩ := followNames_fails_again sound shallow (Nat.le_refl _) run
  have declared := grows.le.declared
  rw [underlying, Compile.depth_bind]
  exact followNames_fails_again sound shallow (by omega) run

end Resolve

end GoIdl
