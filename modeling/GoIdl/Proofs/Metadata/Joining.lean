import GoIdl.Metadata
import GoIdl.Proofs.Members
import GoIdl.Proofs.Outcomes
import GoIdl.Proofs.Text.Lines

/-!
# Docs in two parts

What a doc of two parts says is what the parts say, one after the other: prose follows prose, a key of
the first part keeps its value, and every value that is no JSON is passed over where it stands. Prose
and annotations have nothing to do with each other.
-/

namespace GoIdl

namespace Metadata

variable {location : Option Syntax.Location} {g h whole : Gathered} {line : List Char}
  {before after : List (List Char)}

theorem linesOf_joined (a b : String) : linesOf (a ++ "\n" ++ b) = linesOf a ++ linesOf b := by
  have whole : (a ++ "\n" ++ b).toList = a.toList ++ '\n' :: b.toList := by simp
  have blank : Text.trim [] = [] := rfl
  rw [linesOf, linesOf, linesOf, whole]
  rcases Text.lines_joined a.toList b.toList with same | same <;> simp [same, blank]

/-- A line with a separator is an annotation, any other is prose. -/
def annotates (line : List Char) : Bool := (Text.splitFirst separator line).isSome

def proseOf (doc : String) : List (List Char) := (linesOf doc).filter fun line => !annotates line

def annotationsOf (doc : String) : List (List Char) := (linesOf doc).filter annotates

/-! ### Adding lines -/

/-- Passes a value over that is no JSON. -/
def Gathered.skip (g : Gathered) (error : DefinitionError) : Gathered :=
  { g with notes := g.notes ++ [.skipped error] }

/-- Enters a value unless its key has one. -/
def Gathered.enter (g : Gathered) (key : String) (json : Json) : Gathered :=
  if (Json.find? key g.values).isSome then { g with notes := g.notes ++ [.repeated key] }
  else { g with values := g.values ++ [(key, json)] }

/-- Goes on with what has been decoded for a key. -/
def Gathered.take (g : Gathered) (key : String) : Except DefinitionError Json → Gathered
  | .error error => g.skip error
  | .ok json => g.enter key json

theorem addLine_prose (prose : annotates line = false) :
    addLine location g line = .ok { g with prose := g.prose ++ [line] } := by
  have none : Text.splitFirst separator line = none := by simpa [annotates] using prose
  rw [addLine, none]

/-- An annotation is decoded first, whatever has been gathered. -/
theorem addLine_annotates (location : Option Syntax.Location) (marked : annotates line = true) :
    ∃ key outcome, ∀ g, addLine location g line =
      Except.map (g.take key) outcome := by
  obtain ⟨⟨key, value⟩, split⟩ := Option.isSome_iff_exists.mp marked
  refine ⟨String.ofList key, decode (String.ofList key) (String.ofList (Text.trim value)) location,
    fun g => ?_⟩
  rw [addLine, split]
  dsimp only
  cases decode (String.ofList key) (String.ofList (Text.trim value)) location with
  | error failure => rfl
  | ok outcome =>
    cases outcome with
    | error error => rfl
    | ok json =>
      simp only [bind, Except.bind, Except.map, Gathered.take, Gathered.enter]
      split <;> rfl

def Gathered.skipped (g : Gathered) : List DefinitionError := Metadata.skipped (ofGathered g)

@[simp] theorem skipped_skip (g : Gathered) (error : DefinitionError) :
    (g.skip error).skipped = g.skipped ++ [error] := by
  simp [Gathered.skipped, Gathered.skip, Metadata.skipped, ofGathered]

@[simp] theorem skipped_enter (g : Gathered) (key : String) (json : Json) :
    (g.enter key json).skipped = g.skipped := by
  unfold Gathered.enter
  split <;> simp [Gathered.skipped, Metadata.skipped, ofGathered]

@[simp] theorem prose_enter (g : Gathered) (key : String) (json : Json) :
    (g.enter key json).prose = g.prose := by
  unfold Gathered.enter
  split <;> rfl

theorem values_enter (g : Gathered) (key : String) (json : Json) : (g.enter key json).values =
    if key ∈ Json.keys g.values then g.values else g.values ++ [(key, json)] := by
  unfold Gathered.enter
  simp only [Json.find?_isSome_iff]
  split <;> rfl

/-- What has been gathered is one part and then the other. -/
structure Follows (g h whole : Gathered) : Prop where
  prose : whole.prose = g.prose ++ h.prose
  values : whole.values = g.values ++ h.values.filter fun entry => entry.1 ∉ Json.keys g.values
  skipped : whole.skipped = g.skipped ++ h.skipped

namespace Follows

theorem skip (follows : Follows g h whole) (error : DefinitionError) :
    Follows g (h.skip error) (whole.skip error) :=
  ⟨follows.prose, follows.values, by simp [follows.skipped]⟩

theorem enter (follows : Follows g h whole) (key : String) (json : Json) :
    Follows g (h.enter key json) (whole.enter key json) := by
  refine ⟨by simp [follows.prose], ?_, by simp [follows.skipped]⟩
  have known : key ∈ Json.keys whole.values ↔ key ∈ Json.keys g.values ∨ key ∈ Json.keys h.values := by
    rw [follows.values]
    simp only [Json.keys, List.map_append, List.mem_append, List.mem_map, List.mem_filter]
    grind
  rw [values_enter, values_enter, if_congr known rfl rfl, follows.values]
  by_cases first : key ∈ Json.keys g.values <;> by_cases second : key ∈ Json.keys h.values <;>
    simp [first, second]

theorem addLine (follows : Follows g h whole) (location : Option Syntax.Location) (line : List Char) :
    (∃ failure, Metadata.addLine location h line = .error failure ∧
        Metadata.addLine location whole line = .error failure) ∨
      ∃ h' whole', Metadata.addLine location h line = .ok h' ∧
        Metadata.addLine location whole line = .ok whole' ∧ Follows g h' whole' := by
  cases kind : annotates line with
  | false =>
    rw [addLine_prose kind, addLine_prose kind]
    exact .inr ⟨_, _, rfl, rfl, by simp [follows.prose], follows.values, follows.skipped⟩
  | true =>
    obtain ⟨key, outcome, added⟩ := addLine_annotates location kind
    rw [added, added]
    cases outcome with
    | error failure => exact .inl ⟨failure, rfl, rfl⟩
    | ok outcome =>
      cases outcome with
      | error error => exact .inr ⟨_, _, rfl, rfl, follows.skip error⟩
      | ok json => exact .inr ⟨_, _, rfl, rfl, follows.enter key json⟩

theorem addLines (follows : Follows g h whole) (location : Option Syntax.Location)
    (lines : List (List Char)) :
    Follows g (Metadata.addLines location h lines).1 (Metadata.addLines location whole lines).1 ∧
      (Metadata.addLines location h lines).2 = (Metadata.addLines location whole lines).2 := by
  induction lines generalizing h whole with
  | nil => exact ⟨follows, rfl⟩
  | cons line lines ih =>
    unfold Metadata.addLines
    rcases follows.addLine location line with ⟨failure, here, there⟩ | ⟨h', whole', here, there, next⟩
    · rw [here, there]
      exact ⟨follows, rfl⟩
    · rw [here, there]
      exact ih next

end Follows

theorem addLines_append (location : Option Syntax.Location) (g : Gathered) (first second : List (List Char)) :
    addLines location g (first ++ second) =
      match addLines location g first with
      | (g, none) => addLines location g second
      | failed => failed := by
  induction first generalizing g with
  | nil => rfl
  | cons line first ih =>
    rw [List.cons_append, addLines, addLines]
    cases addLine location g line with
    | error => rfl
    | ok g => exact ih g

/-! ### Prose and annotations -/

theorem addLines_prose {lines : List (List Char)} (added : addLines location g lines = (h, none)) :
    h.prose = g.prose ++ lines.filter fun line => !annotates line := by
  induction lines generalizing g with
  | nil =>
    cases added
    simp
  | cons line lines ih =>
    unfold addLines at added
    split at added
    · rename_i next here
      rw [ih added]
      cases kind : annotates line with
      | false =>
        rw [addLine_prose kind] at here
        cases here
        simp [kind]
      | true =>
        obtain ⟨key, outcome, read⟩ := addLine_annotates location kind
        rw [read] at here
        obtain ⟨outcome, -, rfl⟩ := map_eq_ok.mp here
        cases outcome <;> simp [kind, Gathered.take, Gathered.skip]
    · cases added

/-- Gathering, but for prose. -/
structure SameAnnotations (g h : Gathered) : Prop where
  values : g.values = h.values
  notes : g.notes = h.notes

theorem addLines_annotations (same : SameAnnotations g h) (location : Option Syntax.Location)
    (lines : List (List Char)) :
    SameAnnotations (addLines location g lines).1 (addLines location h (lines.filter annotates)).1 ∧
      (addLines location g lines).2 = (addLines location h (lines.filter annotates)).2 := by
  induction lines generalizing g h with
  | nil => exact ⟨same, rfl⟩
  | cons line lines ih =>
    cases kind : annotates line with
    | false =>
      rw [List.filter_cons_of_neg (by simp [kind]), addLines, addLine_prose kind]
      exact ih ⟨same.values, same.notes⟩
    | true =>
      obtain ⟨key, outcome, read⟩ := addLine_annotates location kind
      rw [List.filter_cons_of_pos kind, addLines, addLines, read, read]
      cases outcome with
      | error failure => exact ⟨same, rfl⟩
      | ok outcome =>
        refine ih ?_
        cases outcome with
        | error error => exact ⟨same.values, congrArg (· ++ _) same.notes⟩
        | ok json =>
          simp only [Gathered.take, Gathered.enter, same.values]
          split
          · exact ⟨rfl, congrArg (· ++ _) same.notes⟩
          · exact ⟨rfl, same.notes⟩

/-! ### Docs -/

/-- What a doc in two parts says, by what the parts say. -/
structure Joins (x y m : Metadata) : Prop where
  description : m.description = "\n".intercalate ([x.description, y.description].filter (· ≠ ""))
  values : m.values = x.values ++ y.values.filter fun entry => entry.1 ∉ Json.keys x.values
  skipped : m.skipped = x.skipped ++ y.skipped

theorem ofDoc_eq (doc : String) (location : Option Syntax.Location) :
    ofDoc doc location = match addLines location {} (linesOf doc) with
      | (g, none) => .ok (ofGathered g)
      | (_, some failure) => .error failure := by
  rw [ofDoc, upToFailure]
  obtain ⟨g, failure⟩ := addLines location {} (linesOf doc)
  cases failure <;> rfl

theorem ofDoc_eq_ok {doc : String} {m : Metadata} : ofDoc doc location = .ok m ↔
    ∃ g, addLines location {} (linesOf doc) = (g, none) ∧ ofGathered g = m := by
  rw [ofDoc_eq]
  split <;> simp_all

theorem ofDoc_eq_error {doc : String} {failure : Failure} : ofDoc doc location = .error failure ↔
    (addLines location {} (linesOf doc)).2 = some failure := by
  rw [ofDoc_eq]
  split <;> simp_all

theorem proseOf_filled (doc : String) : ∀ line ∈ proseOf doc, line ≠ [] := by
  intro line member
  have listed := (List.mem_filter.mp (List.mem_filter.mp member).1).2
  simpa using listed

theorem description_eq {doc : String} {m : Metadata} (read : ofDoc doc location = .ok m) :
    m.description = String.ofList (Text.joinWith ['\n'] (proseOf doc)) := by
  obtain ⟨g, added, rfl⟩ := ofDoc_eq_ok.mp read
  have prose := addLines_prose added
  rw [ofGathered, prose]
  rfl

theorem description_joined {first second : List (List Char)} (filled : ∀ line ∈ first, line ≠ [])
    (more : ∀ line ∈ second, line ≠ []) :
    String.ofList (Text.joinWith ['\n'] (first ++ second)) =
      "\n".intercalate ([String.ofList (Text.joinWith ['\n'] first),
        String.ofList (Text.joinWith ['\n'] second)].filter (· ≠ "")) := by
  have blank : ∀ {lines : List (List Char)}, (∀ line ∈ lines, line ≠ []) →
      (String.ofList (Text.joinWith ['\n'] lines) = "" ↔ lines = []) := by
    intro lines filled
    rw [← Text.joinWith_eq_nil filled ['\n'], ← String.toList_inj, String.toList_ofList]
    rfl
  by_cases none : first = [] <;> by_cases nothing : second = []
  · simp [none, nothing, Text.joinWith]
  · have some := (blank more).not.mpr nothing
    have kept : [String.ofList (Text.joinWith ['\n'] first),
        String.ofList (Text.joinWith ['\n'] second)].filter (· ≠ "") =
          [String.ofList (Text.joinWith ['\n'] second)] := by
      simp [(blank filled).mpr none, some]
    rw [kept, none]
    rfl
  · have some := (blank filled).not.mpr none
    have kept : [String.ofList (Text.joinWith ['\n'] first),
        String.ofList (Text.joinWith ['\n'] second)].filter (· ≠ "") =
          [String.ofList (Text.joinWith ['\n'] first)] := by
      simp [(blank more).mpr nothing, some]
    rw [kept, nothing, List.append_nil]
    rfl
  · have some := (blank filled).not.mpr none
    have others := (blank more).not.mpr nothing
    have kept : [String.ofList (Text.joinWith ['\n'] first),
        String.ofList (Text.joinWith ['\n'] second)].filter (· ≠ "") =
          [String.ofList (Text.joinWith ['\n'] first), String.ofList (Text.joinWith ['\n'] second)] := by
      simp [some, others]
    rw [kept, Text.joinWith_append ['\n'] none nothing, String.ofList_append, String.ofList_append]
    rfl

theorem ofDoc_annotations (doc : String) (location : Option Syntax.Location) :
    (ofDoc doc location).map (fun m => (m.values, m.skipped)) =
      match addLines location {} (annotationsOf doc) with
      | (g, none) => .ok (g.values, g.skipped)
      | (_, some failure) => .error failure := by
  have alike : SameAnnotations (addLines location {} (linesOf doc)).1
      (addLines location {} (annotationsOf doc)).1 ∧ (addLines location {} (linesOf doc)).2 =
        (addLines location {} (annotationsOf doc)).2 := addLines_annotations ⟨rfl, rfl⟩ location _
  rw [ofDoc_eq]
  generalize addLines location {} (linesOf doc) = whole at alike ⊢
  generalize addLines location {} (annotationsOf doc) = part at alike ⊢
  obtain ⟨g, refused⟩ := whole
  obtain ⟨h, refused'⟩ := part
  obtain ⟨⟨values, notes⟩, ended⟩ := alike
  dsimp only at values notes ended
  subst ended
  cases refused with
  | none => simp [Except.map, ofGathered, Gathered.skipped, Metadata.skipped, values, notes]
  | some => rfl

theorem addLines_joined (a b : String) (location : Option Syntax.Location) :
    addLines location {} (linesOf (a ++ "\n" ++ b)) =
      match addLines location {} (linesOf a) with
      | (g, none) => addLines location g (linesOf b)
      | failed => failed := by
  rw [linesOf_joined, addLines_append]

theorem follows_start (g : Gathered) : Follows g {} g :=
  ⟨by simp, by simp, by simp [Gathered.skipped, Metadata.skipped, ofGathered]⟩

/-- The prose of a doc in two parts is that of the parts, and so are the values passed over; a value
of the second part counts if the first has none for its key. The doc is refused for what the first of
its parts that is refused is refused for. Neither prose nor annotations depend on the other. -/
theorem ofDoc_joined (location : Option Syntax.Location) :
    (∀ a b x y, ofDoc a location = .ok x → ofDoc b location = .ok y →
        ∃ m, ofDoc (a ++ "\n" ++ b) location = .ok m ∧ Joins x y m) ∧
      (∀ a b failure, ofDoc (a ++ "\n" ++ b) location = .error failure ↔
        ofDoc a location = .error failure ∨
          ∃ x, ofDoc a location = .ok x ∧ ofDoc b location = .error failure) ∧
      (∀ a b x y, ofDoc a location = .ok x → ofDoc b location = .ok y → proseOf a = proseOf b →
        x.description = y.description) ∧
      ∀ a b, annotationsOf a = annotationsOf b →
        (ofDoc a location).map (fun m => (m.values, m.skipped)) =
          (ofDoc b location).map fun m => (m.values, m.skipped) := by
  refine ⟨fun a b x y first second => ?_, fun a b failure => ?_, fun a b x y first second same => ?_,
    fun a b same => ?_⟩
  · have described := description_joined (proseOf_filled a) (proseOf_filled b)
    rw [← description_eq first, ← description_eq second] at described
    obtain ⟨g, added, rfl⟩ := ofDoc_eq_ok.mp first
    obtain ⟨h, more, rfl⟩ := ofDoc_eq_ok.mp second
    obtain ⟨follows, ended⟩ := (follows_start g).addLines location (linesOf b)
    rw [more] at follows ended
    have joined := addLines_joined a b location
    rw [added] at joined
    have read : ofDoc (a ++ "\n" ++ b) location = .ok (ofGathered (addLines location g (linesOf b)).1) :=
      ofDoc_eq_ok.mpr ⟨_, joined.trans (Prod.ext rfl ended.symm), rfl⟩
    refine ⟨_, read, ?_, follows.values, follows.skipped⟩
    rw [description_eq read, ← described, proseOf, linesOf_joined, List.filter_append]
    rfl
  · simp only [ofDoc_eq_error, ofDoc_eq_ok, addLines_joined]
    cases first : addLines location {} (linesOf a) with
    | mk g refused =>
      cases refused with
      | some => simp
      | none =>
        obtain ⟨-, ended⟩ := (follows_start g).addLines location (linesOf b)
        simp [← ended]
  · rw [description_eq first, description_eq second, same]
  · rw [ofDoc_annotations, ofDoc_annotations, same]

end Metadata

end GoIdl
