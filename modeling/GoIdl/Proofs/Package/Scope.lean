import GoIdl.Package.Basic
import GoIdl.Proofs.Members
import GoIdl.Proofs.Order
import GoIdl.Proofs.Syntax.DeclaredNames

/-!
# Scopes of packages

A package formed from files that have been read has a path, and every declaration in its scope
stands under its own name, which is an identifier and stands for no other declaration.
-/

namespace GoIdl

open Syntax (SourceFile IsIdentifier)

namespace Package

structure WellFormed (p : Package) : Prop where
  path : p.path ≠ ""
  scope : ∀ name declaration, (name, declaration) ∈ p.scope →
    declaration.spec.name = name ∧ IsIdentifier name
  distinct : (Json.keys p.scope).Nodup

variable {p : Package} {name : String} {d : DeclaredType}

theorem lookup_package (found : p.lookup name = some d) : d.package = p := by
  obtain ⟨_, _, rfl⟩ := Option.map_eq_some_iff.mp found
  rfl

theorem WellFormed.lookup_name (formed : p.WellFormed) (found : p.lookup name = some d) :
    d.name = name ∧ IsIdentifier name := by
  obtain ⟨declaration, member, rfl⟩ := Option.map_eq_some_iff.mp found
  exact formed.scope name declaration (Json.mem_of_find? member)

/-! ### Forming a package -/

theorem mem_declarations {files : List SourceFile} {declaration : Declaration}
    (named : ∀ file ∈ files, file.Named) (member : (name, declaration) ∈ declarations files) :
    declaration.spec.name = name ∧ IsIdentifier name := by
  simp only [declarations, List.mem_flatMap, List.mem_map, List.mem_filter] at member
  obtain ⟨file, read, spec, ⟨declared, _⟩, same⟩ := member
  cases same
  exact ⟨rfl, (named file read).types spec declared⟩

theorem mem_distinct {α : Type} [BEq α] [LawfulBEq α] {x : α} {xs : List α} :
    x ∈ distinct xs ↔ x ∈ xs := by
  have collect : ∀ (rest seen : List α),
      x ∈ rest.foldl (fun seen y => if seen.contains y then seen else seen ++ [y]) seen ↔
        x ∈ seen ∨ x ∈ rest := by
    intro rest
    induction rest with
    | nil => simp
    | cons y rest ih =>
      intro seen
      rw [List.foldl_cons, ih]
      by_cases known : seen.contains y
      · have known' := List.contains_iff_mem.mp known
        simp only [known, if_true, List.mem_cons]
        constructor
        · exact fun member => member.imp id Or.inr
        · rintro (old | rfl | later)
          · exact Or.inl old
          · exact Or.inl known'
          · exact Or.inr later
      · rw [if_neg known]
        simp [or_assoc]
  rw [distinct, collect xs []]
  simp

/-- Where no declaration takes the name of one before it, names are distinct. -/
theorem redeclared?_eq_none {seen : List String} {entries : List (String × Declaration)}
    (fresh : redeclared? seen entries = none) :
    (Json.keys entries).Nodup ∧ ∀ name ∈ Json.keys entries, name ∉ seen := by
  induction entries generalizing seen with
  | nil => exact ⟨List.nodup_nil, by simp [Json.keys]⟩
  | cons entry rest ih =>
    obtain ⟨name, declaration⟩ := entry
    unfold redeclared? at fresh
    split at fresh
    · cases fresh
    · rename_i unseen
      obtain ⟨distinct, others⟩ := ih fresh
      have later : ∀ other ∈ Json.keys rest, other ≠ name ∧ other ∉ seen := fun other member =>
        not_or.mp (mt List.mem_cons.mpr (others other member))
      refine ⟨List.nodup_cons.mpr ⟨fun member => (later name member).1 rfl, distinct⟩, ?_⟩
      intro other member
      rcases List.mem_cons.mp member with rfl | member
      · exact fun listed => unseen (List.contains_iff_mem.mpr listed)
      · exact (later other member).2

theorem redeclared?_of_nodup {seen : List String} {entries : List (String × Declaration)}
    (distinct : (Json.keys entries).Nodup) (fresh : ∀ name ∈ Json.keys entries, name ∉ seen) :
    redeclared? seen entries = none := by
  induction entries generalizing seen with
  | nil => rfl
  | cons entry rest ih =>
    obtain ⟨name, declaration⟩ := entry
    obtain ⟨first, distinct⟩ := List.nodup_cons.mp distinct
    have unseen : ¬ seen.contains name :=
      mt List.contains_iff_mem.mp (fresh name List.mem_cons_self)
    rw [redeclared?, if_neg unseen]
    refine ih distinct fun other member known => ?_
    rcases List.mem_cons.mp known with rfl | known
    · exact first member
    · exact fresh other (List.mem_cons_of_mem _ member) known

theorem distinct_nodup {α : Type} [BEq α] [LawfulBEq α] (xs : List α) : (distinct xs).Nodup := by
  have collect : ∀ (rest seen : List α), seen.Nodup →
      (rest.foldl (fun seen y => if seen.contains y then seen else seen ++ [y]) seen).Nodup := by
    intro rest
    induction rest with
    | nil => exact fun _ => id
    | cons y rest ih =>
      intro seen nodup
      refine ih _ ?_
      dsimp only
      split
      · exact nodup
      · rename_i unknown
        rw [← List.concat_eq_append]
        exact nodup.concat (mt List.contains_iff_mem.mpr unknown)
  exact collect xs [] List.nodup_nil

/-- Files form a package exactly if there are any, all of one name, and no two declarations share a
name. -/
theorem ofFiles_eq_ok {serial : Nat} {files : List SourceFile} {directory : Option Disk.Path}
    {module : Option GoModule} :
    ofFiles serial files none directory module = .ok p ↔
      files ≠ [] ∧ ∃ name, (∀ file ∈ files, file.package = name) ∧
        (Json.keys (declarations files)).Nodup ∧
        p = ⟨serial, name, name, files, directory, module, declarations files⟩ := by
  cases files with
  | nil => simp [ofFiles]
  | cons first rest =>
    have listed : ∀ name, name ∈ sortStrings (distinct ((first :: rest).map (·.package))) ↔
        ∃ file ∈ first :: rest, file.package = name := fun name => by
      rw [sortStrings, mem_sortBy, mem_distinct, List.mem_map]
    have nodup : (sortStrings (distinct ((first :: rest).map (·.package)))).Nodup :=
      (sortBy_perm _).nodup_iff.mpr (distinct_nodup _)
    unfold ofFiles
    dsimp only
    generalize sortStrings (distinct ((first :: rest).map (·.package))) = names at listed nodup
    match names with
    | [] => exact absurd ((listed first.package).mpr ⟨first, List.mem_cons_self, rfl⟩) (by simp)
    | a :: b :: more =>
      have differ : a ≠ b := by
        rintro rfl
        simp at nodup
      constructor
      · exact nofun
      · rintro ⟨-, name, agree, -⟩
        obtain ⟨file, member, here⟩ := (listed a).mp List.mem_cons_self
        obtain ⟨file', member', here'⟩ := (listed b).mp (by simp)
        exact absurd (by rw [← here, ← here', agree file member, agree file' member']) differ
    | [a] =>
      have agree : ∀ name, (∀ file ∈ first :: rest, file.package = name) ↔ name = a := by
        intro name
        constructor
        · intro all
          obtain ⟨file, member, here⟩ := (listed a).mp List.mem_cons_self
          rw [← all file member, here]
        · rintro rfl file member
          simpa using (listed file.package).mpr ⟨file, member, rfl⟩
      simp only [agree, List.headD_cons, Option.getD_none]
      cases taken : redeclared? [] (declarations (first :: rest)) with
      | none =>
        obtain ⟨distinct, -⟩ := redeclared?_eq_none taken
        simp [distinct, eq_comm]
      | some d =>
        have repeated : ¬ (Json.keys (declarations (first :: rest))).Nodup := fun distinct =>
          nomatch taken.symm.trans (redeclared?_of_nodup distinct fun _ _ => List.not_mem_nil)
        simp [repeated]

/-- The package clauses of the files agree on the name, and no two declarations on theirs. -/
theorem ofFiles_ok {serial : Nat} {files : List SourceFile} {path : Option String}
    {directory : Option Disk.Path} {module : Option GoModule}
    (formed : ofFiles serial files path directory module = .ok p) :
    (∃ file ∈ files, p.name = file.package) ∧ p.path = path.getD p.name ∧
      p.scope = declarations files ∧ (Json.keys p.scope).Nodup := by
  unfold ofFiles at formed
  split at formed
  · cases formed
  · rename_i first rest
    split at formed
    · cases formed
    · rename_i names names_eq several
      dsimp only at formed
      split at formed
      · cases formed
      · rename_i fresh
        cases formed
        refine ⟨?_, rfl, rfl, (redeclared?_eq_none fresh).1⟩
        have listed : first.package ∈ sortStrings (distinct ((first :: rest).map (·.package))) :=
          mem_sortBy.mpr (mem_distinct.mpr List.mem_cons_self)
        cases same : sortStrings (distinct ((first :: rest).map (·.package))) with
        | nil =>
          rw [same] at listed
          cases listed
        | cons a more =>
          have chosen : a ∈ sortStrings (distinct ((first :: rest).map (·.package))) := by
            rw [same]
            exact List.mem_cons_self
          obtain ⟨file, member, rfl⟩ := List.mem_map.mp (mem_distinct.mp (mem_sortBy.mp chosen))
          exact ⟨file, member, rfl⟩

theorem ofFiles_given {serial : Nat} {files : List SourceFile} {path : Option String}
    {directory : Option Disk.Path} {module : Option GoModule}
    (formed : ofFiles serial files path directory module = .ok p) :
    p.serial = serial ∧ p.files = files ∧ p.directory = directory ∧ p.module = module := by
  unfold ofFiles at formed
  split at formed
  · cases formed
  · split at formed
    · cases formed
    · dsimp only at formed
      split at formed <;> cases formed
      exact ⟨rfl, rfl, rfl, rfl⟩

/-- The serial of a package decides nothing. -/
theorem ofFiles_renumbered {serial serial' : Nat} {files : List SourceFile} {path : Option String}
    {directory : Option Disk.Path} {module : Option GoModule}
    (formed : ofFiles serial files path directory module = .ok p) :
    ofFiles serial' files path directory module = .ok { p with serial := serial' } := by
  unfold ofFiles at formed ⊢
  split at formed
  · cases formed
  · split at formed
    · cases formed
    · dsimp only at formed ⊢
      split at formed <;> cases formed
      rfl

theorem ofFiles_wellFormed {serial : Nat} {files : List SourceFile} {path : Option String}
    {directory : Option Disk.Path} {module : Option GoModule} (named : ∀ file ∈ files, file.Named)
    (given : ∀ s, path = some s → s ≠ "")
    (formed : ofFiles serial files path directory module = .ok p) : p.WellFormed := by
  obtain ⟨⟨file, member, clause⟩, place, scope, distinct⟩ := ofFiles_ok formed
  refine ⟨?_, ?_, distinct⟩
  · cases path with
    | none =>
      rw [place, Option.getD_none, clause]
      exact (named file member).package.ne_empty
    | some s =>
      rw [place, Option.getD_some]
      exact given s rfl
  · intro name declaration member
    rw [scope] at member
    exact mem_declarations named member

end Package

/-! ### Modules -/

namespace GoModule

theorem directive?_ne_nil {s path : List Char} (found : directive? s = some path) : path ≠ [] := by
  unfold directive? at found
  dsimp only at found
  split at found
  · split at found
    · split at found
      · cases found
      · rename_i read
        cases found
        exact read
    · cases found
  · cases found

theorem pathFrom_ne_nil {lineStart : Bool} {text path : List Char}
    (found : pathFrom lineStart text = some path) : path ≠ [] := by
  induction text generalizing lineStart with
  | nil => cases found
  | cons c rest ih =>
    unfold pathFrom at found
    split at found
    · rename_i read
      cases found
      split at read
      · exact directive?_ne_nil read
      · cases read
    · exact ih found

theorem pathOfText?_ne_empty {text : List Char} {path : String}
    (found : pathOfText? text = some path) : path ≠ "" := by
  obtain ⟨chars, read, rfl⟩ := Option.map_eq_some_iff.mp found
  simpa using pathFrom_ne_nil read

theorem packagePathOf_ne_empty {m : GoModule} (path : m.path ≠ "") (below : List String) :
    m.packagePathOf below ≠ "" := by
  unfold packagePathOf
  split
  · exact path
  · intro none
    have length := congrArg String.length none
    have slash : "/".length = 1 := rfl
    simp only [String.length_append, slash] at length
    exact absurd length (by simp)

end GoModule

end GoIdl
