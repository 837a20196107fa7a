import GoIdl.Proofs.Compile.Embedding

/-!
# Collected methods

An interface has its own methods and those of all interfaces that it embeds, at any depth. Of several
methods of one name it takes its own first one, or else the one that the first interface takes among
those embedded that have it. Collecting comes to exactly these methods, in the order of their names.
-/

namespace GoIdl.Extract

open Syntax (TypeExpr TypeName MethodDecl Position)
open Resolve

variable {disk : Disk} {l : Loader} {v w : World} {r : Reading} {i j root : Embedded}
  {c : Collected} {all into more : List Collected} {n : String} {name : TypeName}
  {visiting : List (String × String)} {fuel : Nat}

/-! ### What an interface has -/

/-- The interface has a method of the name, of its own or by way of one that it embeds. -/
inductive Offers (r : Reading) : Embedded → String → Prop where
  | own {i : Embedded} {m : MethodDecl TypeExpr} : m ∈ i.methods → Offers r i m.name
  | embedded {i j : Embedded} {name : TypeName} {n : String} : name ∈ i.embeds →
      Denotes r name i.context j → Offers r j n → Offers r i n

/-- Among all methods of its name the interface takes this one. -/
inductive Chooses (r : Reading) : Embedded → Collected → Prop where
  | own {i : Embedded} {m : MethodDecl TypeExpr} :
      i.methods.find? (·.name == m.name) = some m → Chooses r i ⟨m, i.context⟩
  | embedded {i j : Embedded} {c : Collected} {before after : List TypeName} {name : TypeName} :
      (∀ m ∈ i.methods, m.name ≠ c.method.name) → i.embeds = before ++ name :: after →
      (∀ earlier ∈ before, ∀ k, Denotes r earlier i.context k → ¬ Offers r k c.method.name) →
      Denotes r name i.context j → Chooses r j c → Chooses r i c

/-- What has been collected from an interface is what it has, each name once and in order. -/
structure Collects (r : Reading) (i : Embedded) (all : List Collected) : Prop where
  ascending : all.Pairwise fun a b => a.method.name < b.method.name
  names : ∀ n, (∃ c ∈ all, c.method.name = n) ↔ Offers r i n
  chosen : ∀ c, c ∈ all ↔ Chooses r i c

/-! ### The first of a name -/

def firstOf (n : String) (all : List Collected) : Option Collected :=
  all.find? (·.method.name == n)

theorem firstOf_name (found : firstOf n all = some c) : c ∈ all ∧ c.method.name = n :=
  ⟨List.mem_of_find?_eq_some found, by simpa using List.find?_some found⟩

theorem firstOf_eq_none : firstOf n all = none ↔ ∀ c ∈ all, c.method.name ≠ n := by
  simp [firstOf]

def ownOf (n : String) (i : Embedded) : Option Collected :=
  (i.methods.find? (·.name == n)).map (⟨·, i.context⟩)

theorem ownOf_eq_none : ownOf n i = none ↔ ∀ m ∈ i.methods, m.name ≠ n := by
  simp [ownOf]

theorem exists_ownOf : (∃ c, ownOf n i = some c) ↔ ∃ m ∈ i.methods, m.name = n := by
  rw [← Option.isSome_iff_exists, ownOf, Option.isSome_map, List.find?_isSome]
  simp

theorem exists_firstOf : (∃ c, firstOf n all = some c) ↔ ∃ c ∈ all, c.method.name = n := by
  constructor
  · rintro ⟨c, found⟩
    exact ⟨c, firstOf_name found⟩
  · rintro ⟨c, member, named⟩
    exact Option.ne_none_iff_exists'.mp fun none => firstOf_eq_none.mp none c member named

theorem firstOf_append (n : String) (all more : List Collected) :
    firstOf n (all ++ more) = (firstOf n all).or (firstOf n more) := List.find?_append

theorem mem_iff_firstOf (nodup : (all.map (·.method.name)).Nodup) :
    c ∈ all ↔ firstOf c.method.name all = some c := by
  constructor
  · intro member
    obtain ⟨other, found⟩ := exists_firstOf.mpr ⟨c, member, rfl⟩
    obtain ⟨member', same⟩ := firstOf_name found
    rw [found, List.inj_on_of_nodup_map nodup member' member same]
  · exact fun found => (firstOf_name found).1

/-! ### Entering methods -/

theorem addNew_cons (into : List Collected) (c : Collected) (rest : List Collected) :
    addNew into (c :: rest) =
      addNew (if into.any (·.method.name == c.method.name) then into else into ++ [c]) rest := rfl

theorem firstOf_addNew (n : String) (into more : List Collected) :
    firstOf n (addNew into more) = (firstOf n into).or (firstOf n more) := by
  induction more generalizing into with
  | nil => simp [addNew, firstOf]
  | cons c rest ih =>
    have first : firstOf n (c :: rest) = (firstOf n [c]).or (firstOf n rest) := firstOf_append n [c] rest
    rw [addNew_cons, ih, first, ← Option.or_assoc]
    split
    · rename_i taken
      obtain ⟨other, member, same⟩ := List.any_eq_true.mp taken
      by_cases named : c.method.name = n
      · obtain ⟨found, here⟩ : ∃ found, firstOf n into = some found :=
          exists_firstOf.mpr ⟨other, member, (beq_iff_eq.mp same).trans named⟩
        rw [here]
        rfl
      · have none : firstOf n [c] = none := firstOf_eq_none.mpr (by simpa using named)
        rw [none, Option.or_none]
    · rw [firstOf_append]

theorem addNew_nodup (nodup : (into.map (·.method.name)).Nodup) :
    ((addNew into more).map (·.method.name)).Nodup := by
  induction more generalizing into with
  | nil => exact nodup
  | cons c rest ih =>
    rw [addNew_cons]
    refine ih ?_
    split
    · exact nodup
    · rename_i new
      rw [List.map_append, List.map_singleton]
      refine nodup.append (List.nodup_singleton _) ?_
      rw [List.disjoint_singleton]
      intro taken
      obtain ⟨other, member, same⟩ := List.mem_map.mp taken
      exact new (List.any_eq_true.mpr ⟨other, member, beq_iff_eq.mpr same⟩)

/-! ### One level -/

theorem gather_nodup {parts : List Part} (nodup : (into.map (·.method.name)).Nodup) :
    ((gather into parts).map (·.method.name)).Nodup := by
  induction parts generalizing into with
  | nil => exact nodup
  | cons part rest ih => exact ih (addNew_nodup nodup)

theorem gather_cons (into : List Collected) (part : Part) (rest : List Part) :
    gather into (part :: rest) = gather (addNew into part.2) rest := rfl

theorem firstOf_gather (n : String) (into : List Collected) (parts : List Part) :
    firstOf n (gather into parts) = (firstOf n into).or (parts.findSome? (firstOf n ·.2)) := by
  induction parts generalizing into with
  | nil => simp [gather]
  | cons part rest ih =>
    have first : (part :: rest).findSome? (firstOf n ·.2) =
        (firstOf n part.2).or (rest.findSome? (firstOf n ·.2)) := by
      rw [List.findSome?_cons]
      cases firstOf n part.2 <;> rfl
    rw [gather_cons, ih, firstOf_addNew, Option.or_assoc, first]

/-- The methods of an interface before they are sorted. -/
def gathered (i : Embedded) (parts : List Part) : List Collected :=
  gather (addNew [] (i.methods.map (⟨·, i.context⟩))) parts

theorem gathered_nodup (i : Embedded) (parts : List Part) :
    ((gathered i parts).map (·.method.name)).Nodup := gather_nodup (addNew_nodup List.nodup_nil)

theorem firstOf_gathered (n : String) (i : Embedded) (parts : List Part) :
    firstOf n (gathered i parts) = (ownOf n i).or (parts.findSome? (firstOf n ·.2)) := by
  have own : firstOf n (i.methods.map (⟨·, i.context⟩)) = ownOf n i := by
    rw [firstOf, List.find?_map]
    rfl
  rw [gathered, firstOf_gather, firstOf_addNew, own]
  rfl

theorem Collects.nodup (collects : Collects r i all) : (all.map (·.method.name)).Nodup := by
  have ascending : (all.map (·.method.name)).Pairwise (· < ·) :=
    List.pairwise_map.mpr collects.ascending
  refine ascending.imp fun {a b} less same => ?_
  rw [same] at less
  exact String.lt_irrefl b less

theorem exists_gathered (i : Embedded) (parts : List Part) :
    (∃ c ∈ gathered i parts, c.method.name = n) ↔
      (∃ m ∈ i.methods, m.name = n) ∨ ∃ part ∈ parts, ∃ c ∈ part.2, c.method.name = n := by
  have inside : (∃ c, parts.findSome? (firstOf n ·.2) = some c) ↔
      ∃ part ∈ parts, ∃ c ∈ part.2, c.method.name = n := by
    rw [← Option.isSome_iff_exists, List.findSome?_isSome_iff]
    simp only [Option.isSome_iff_exists, exists_firstOf]
  rw [← exists_firstOf, firstOf_gathered, ← exists_ownOf, ← inside]
  cases ownOf n i <;> simp

section

variable (functional : r.Functional) {parts : List Part}
  (each : List.Forall₂ (fun name part => Denotes r name i.context part.1 ∧ Collects r part.1 part.2)
    i.embeds parts)

include functional each

theorem exists_gathered_iff : (∃ c ∈ gathered i parts, c.method.name = n) ↔ Offers r i n := by
  rw [exists_gathered]
  constructor
  · rintro (⟨m, member, rfl⟩ | ⟨part, listed, has⟩)
    · exact .own member
    · obtain ⟨name, embedded, denotes, collects⟩ := exists_left_of_forall₂ each listed
      exact .embedded embedded denotes ((collects.names n).mp has)
  · intro offers
    cases offers with
    | own member => exact .inl ⟨_, member, rfl⟩
    | embedded embedded denotes offers =>
      obtain ⟨part, listed, denotes', collects⟩ := exists_right_of_forall₂ each embedded
      cases denotes.unique functional denotes'
      exact .inr ⟨part, listed, (collects.names n).mpr offers⟩

theorem mem_gathered_iff : c ∈ gathered i parts ↔ Chooses r i c := by
  rw [mem_iff_firstOf (gathered_nodup i parts), firstOf_gathered, Option.or_eq_some_iff]
  -- An own method comes first, else the first part that has one; the parts before it have none.
  constructor
  · rintro (own | ⟨other, inside⟩)
    · obtain ⟨m, found, rfl⟩ := Option.map_eq_some_iff.mp own
      exact .own found
    · obtain ⟨before, part, after, rfl, found, none⟩ := List.findSome?_eq_some_iff.mp inside
      obtain ⟨names, name, rest, shape, paired, denotes, collects⟩ := forall₂_midst each.flip
      refine .embedded (ownOf_eq_none.mp other) shape (fun earlier listed k denotes' offers => ?_)
        denotes ((collects.chosen c).mp (firstOf_name found).1)
      obtain ⟨part', listed', denotes'', collects'⟩ := exists_right_of_forall₂ paired.flip listed
      cases denotes'.unique functional denotes''
      obtain ⟨c', member, named⟩ := (collects'.names _).mpr offers
      exact firstOf_eq_none.mp (none part' listed') c' member named
  · intro chooses
    cases chooses with
    | own found => exact .inl (by rw [ownOf, found]; rfl)
    | embedded other shape earlier denotes chooses =>
      rw [shape] at each
      obtain ⟨before, part, after, rfl, paired, denotes', collects⟩ := forall₂_midst each
      cases denotes.unique functional denotes'
      have found : firstOf c.method.name part.2 = some c :=
        (mem_iff_firstOf collects.nodup).mp ((collects.chosen c).mpr chooses)
      refine .inr ⟨ownOf_eq_none.mpr other, List.findSome?_eq_some_iff.mpr
        ⟨before, part, after, rfl, found, ?_⟩⟩
      rintro ⟨k, others⟩ listed
      obtain ⟨name', listed', denotes', collects'⟩ := exists_left_of_forall₂ paired listed
      exact firstOf_eq_none.mpr fun c' member' named =>
        earlier name' listed' k denotes' ((collects'.names _).mp ⟨c', member', named⟩)

theorem sorted_collects : Collects r i (sortCollected (gathered i parts)) where
  ascending := (sortBy_name_strict_iff (fun c : Collected => c.method.name) _).mpr
    (gathered_nodup i parts)
  names n := by
    rw [← exists_gathered_iff functional each]
    simp [sortCollected]
  chosen c := by
    rw [← mem_gathered_iff functional each]
    exact mem_sortBy

end

/-- What is collected from an interface is what it has, wherever all that is settled is read. -/
theorem methodsWithin_collects (functional : r.Functional)
    (settled : ∀ {α : Type} {c : Compile α} {a : α}, Yields disk l c a → r α c a) (sound : l.Sound)
    (yields : Yields disk l (methodsWithin fuel visiting i.methods i.embeds i.context) all) :
    Collects r i all := by
  induction fuel generalizing visiting i all with
  | zero => exact (yields_throw yields).elim
  | succ fuel ih =>
    obtain ⟨parts, each, rfl⟩ := methodsWithin_parts sound yields
    refine sorted_collects functional (each.imp fun name part here => ?_)
    exact ⟨(embedded_denotes sound here.1).imp settled, ih here.2⟩

theorem collectMethods_collects (functional : r.Functional)
    (settled : ∀ {α : Type} {c : Compile α} {a : α}, Yields disk l c a → r α c a) (sound : l.Sound)
    (yields : Yields disk l (collectMethods i.methods i.embeds i.context) all) :
    Collects r i all := by
  obtain ⟨fuel, yields⟩ :=
    yields_deep (methodsWithin_resolving · [] i.methods i.embeds i.context) sound yields
  exact methodsWithin_collects functional settled sound yields

/-! ### Where methods are written -/

structure Collected.WrittenBy (c : Collected) (e : DeclaredType) : Prop where
  place : c.context = e.context
  listed : ∃ pos methods embeds, e.spec.type = .interface pos methods embeds ∧ c.method ∈ methods

/-- A method that an interface takes comes with the place where it is written. -/
theorem Chooses.written (chooses : Chooses (settledBy disk l) i c) (sound : l.Sound)
    (known : i.target.Known l) (behind : Behind (settledBy disk l) i) :
    ∃ e, e.Known l ∧ c.WrittenBy e := by
  induction chooses with
  | own found =>
    obtain ⟨pos, origin, within, same⟩ := behind
    exact ⟨origin, underlying_known sound known within, same, pos, _, _,
      underlying_type sound known within, List.mem_of_find?_eq_some found⟩
  | embedded _ _ _ denotes _ ih =>
    exact ih (denotes.known sound (behind.known sound known)).1 denotes.behind

/-! ### Whole interfaces -/

/-- No interface among those that `root` embeds is inside itself, as far as `tag` tells them apart. -/
def Acyclic {τ : Type} (tag : Embedded → τ) (r : Reading) (root : Embedded) : Prop :=
  ∀ a b, Relation.TransGen (Embeds r) root a → Relation.TransGen (Embeds r) a b → tag b ≠ tag a

/-- Collecting is not stopped where all names denote interfaces and none is inside itself. -/
theorem Stopped.not {failure : Failure} (denote : AllDenote (readIn disk v) root)
    (acyclic : Acyclic (·.target.key) (readIn disk v) root) : ¬ Stopped disk root failure v := by
  have more : ∀ a b, Embeds (settledBy disk v.loader) a b → Embeds (readIn disk v) a b :=
    fun a b ⟨name, listed, denotes⟩ =>
      ⟨name, listed, denotes.imp fun settled => readIn_of_settledBy settled (.refl _)⟩
  intro stopped
  cases stopped with
  | @cycle a i name d of reached path listed stands again =>
    have come : Relation.TransGen (Embeds (readIn disk v)) root a :=
      Relation.TransGen.mono more _ _ reached
    have inside : Relation.ReflTransGen (Embeds (readIn disk v)) a i :=
      Relation.ReflTransGen.mono more _ _ path
    obtain ⟨j, denotes⟩ := denote i (come.to_reflTransGen.trans inside) name listed
    have target : j.target = d := Option.some.inj
      (readIn_functional disk v denotes.declared (readIn_of_settledBy stands (.refl _)))
    exact acyclic a j come (.tail' inside ⟨name, listed, denotes⟩)
      ((congrArg DeclaredType.key target).trans again)
  | unresolved reached listed nothing =>
    obtain ⟨j, denotes⟩ := denote _ (Relation.ReflTransGen.mono more _ _ reached) _ listed
    exact nothing j denotes

/-- Where all names denote interfaces and none is inside itself, what an interface has is collected,
each method with the place where it is written. -/
theorem collectMethods_answers {outcome : Except Failure (List Collected)} (sound : w.loader.Sound)
    (known : i.target.Known w.loader) (behind : Behind (settledBy disk w.loader) i)
    (run : (collectMethods i.methods i.embeds i.context).runOn disk w = (outcome, v))
    (denote : AllDenote (readIn disk v) i) (acyclic : Acyclic (·.target.key) (readIn disk v) i) :
    ∃ all, outcome = .ok all ∧ Collects (readIn disk v) i all ∧
      ∀ c ∈ all, ∃ e, e.Known v.loader ∧ c.WrittenBy e := by
  cases outcome with
  | error failure =>
    have stopped := collectMethods_fails sound (behind.known sound known) failure v run
    exact absurd stopped (Stopped.not denote acyclic)
  | ok all =>
    obtain ⟨grows, yields⟩ := (collectMethods_resolving ..).ok sound run
    have collects : Collects (readIn disk v) i all :=
      collectMethods_collects (readIn_functional disk v)
        (fun settled => readIn_of_settledBy settled (.refl _)) grows.sound yields
    have settled : Collects (settledBy disk v.loader) i all :=
      collectMethods_collects (settledBy_functional disk v.loader) id grows.sound yields
    -- Where methods are written is told by what is settled, since a reading may yet load more.
    refine ⟨all, rfl, collects, fun c member => ?_⟩
    exact ((settled.chosen c).mp member).written grows.sound (known.mono grows.le)
      (behind.imp fun within => Yields.mono within grows.le)

/-! ### Exploring interfaces -/

/-- The interface behind a declaration, read in a world. -/
def behind? (disk : Disk) (v : World) (d : DeclaredType) : Option Embedded :=
  match ((underlying d).runOn disk v).1 with
  | .ok (some (.interface _ methods embeds), origin) => some ⟨d, methods, embeds, origin.context⟩
  | _ => none

/-- The interface that a name denotes, read in a world. -/
def denoted? (disk : Disk) (v : World) (name : TypeName) (ctx : Context) : Option Embedded :=
  match ((lookupDeclared name ctx).runOn disk v).1 with
  | .ok (some d) => behind? disk v d
  | _ => none

theorem behind_of_behind? {d : DeclaredType} (found : behind? disk v d = some i) :
    i.target = d ∧ Behind (readIn disk v) i := by
  unfold behind? at found
  split at found
  · rename_i pos methods embeds origin same
    cases found
    exact ⟨rfl, pos, origin, ⟨_, Prod.ext same rfl⟩, rfl⟩
  · cases found

theorem denotes_of_denoted? {ctx : Context} (found : denoted? disk v name ctx = some i) :
    Denotes (readIn disk v) name ctx i := by
  unfold denoted? at found
  split at found
  · rename_i d same
    obtain ⟨rfl, behind⟩ := behind_of_behind? found
    exact ⟨⟨_, Prod.ext same rfl⟩, behind⟩
  · cases found

/-- Goes through all that an interface embeds. It comes to interfaces only, and on no way to one of
the tags in `seen` or to one tag twice. -/
def explores {τ : Type} [DecidableEq τ] (tag : Embedded → τ) (disk : Disk) (v : World) :
    Nat → List τ → Embedded → Bool
  | 0, _, _ => false
  | fuel + 1, seen, i => i.embeds.all fun name =>
    (denoted? disk v name i.context).any fun j =>
      !seen.contains (tag j) && explores tag disk v fuel (tag j :: seen) j

theorem explores_ok {τ : Type} [DecidableEq τ] {tag : Embedded → τ} {seen : List τ}
    (explored : explores tag disk v fuel seen i = true) :
    AllDenote (readIn disk v) i ∧ Acyclic tag (readIn disk v) i ∧
      ∀ b, Relation.TransGen (Embeds (readIn disk v)) i b → tag b ∉ seen := by
  induction fuel generalizing seen i with
  | zero => cases explored
  | succ fuel ih =>
    have inside : ∀ name ∈ i.embeds, ∃ j, Denotes (readIn disk v) name i.context j ∧ tag j ∉ seen ∧
        explores tag disk v fuel (tag j :: seen) j = true := by
      intro name listed
      obtain ⟨j, found, here⟩ := (Option.any_eq_true _ _).mp (List.all_eq_true.mp explored name listed)
      obtain ⟨new, later⟩ := Bool.and_eq_true_iff.mp here
      exact ⟨j, denotes_of_denoted? found, by simpa using new, later⟩
    have step : ∀ j, Embeds (readIn disk v) i j → tag j ∉ seen ∧
        explores tag disk v fuel (tag j :: seen) j = true := by
      rintro j ⟨name, listed, denotes⟩
      obtain ⟨k, denotes', here⟩ := inside name listed
      cases denotes.unique (readIn_functional disk v) denotes'
      exact here
    refine ⟨fun j reached name listed => ?_, fun a b come further => ?_, fun b come => ?_⟩
    · rcases Relation.ReflTransGen.cases_head reached with rfl | ⟨k, first, path⟩
      · obtain ⟨j, denotes, _⟩ := inside name listed
        exact ⟨j, denotes⟩
      · exact (ih (step k first).2).1 j path name listed
    · obtain ⟨k, first, path⟩ := Relation.TransGen.head'_iff.mp come
      obtain ⟨_, acyclic, apart⟩ := ih (step k first).2
      rcases Relation.reflTransGen_iff_eq_or_transGen.mp path with rfl | path
      · exact fun same => apart b further (same ▸ List.mem_cons_self)
      · exact acyclic a b path further
    · obtain ⟨k, first, path⟩ := Relation.TransGen.head'_iff.mp come
      obtain ⟨new, later⟩ := step k first
      rcases Relation.reflTransGen_iff_eq_or_transGen.mp path with rfl | path
      · exact new
      · exact fun listed => (ih later).2.2 b path (List.mem_cons_of_mem _ listed)

end GoIdl.Extract
