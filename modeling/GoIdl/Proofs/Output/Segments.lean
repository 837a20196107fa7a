import GoIdl.Output.Segment
import GoIdl.Proofs.Spans
import Mathlib.Data.List.Infix

/-!
# Files put between markers

A text in which files stand between their markers splits into these files again, if no file holds the
marker that would end it and no text between the files holds one that would begin another. No marker
reaches from one piece into the next: a line break closes a marker, and only its mark holds the sign
that a mark begins with.
-/

namespace GoIdl.Output

variable {mark name rest s t u v p : List Char} {c : Char}

/-- What may stand as a name in a marker. -/
structure IsFileName (name : List Char) : Prop where
  nonempty : name ≠ []
  chars : ∀ c ∈ name, isNameChar c = true

instance : Decidable (IsFileName name) :=
  decidable_of_iff (name ≠ [] ∧ name.all isNameChar = true)
    ⟨fun ⟨nonempty, chars⟩ => ⟨nonempty, List.all_eq_true.mp chars⟩,
      fun valid => ⟨valid.nonempty, List.all_eq_true.mpr valid.chars⟩⟩

theorem IsFileName.not_mem (valid : IsFileName name) (other : isNameChar c = false) : c ∉ name := by
  intro member
  have kept := valid.chars c member
  rw [other] at kept
  cases kept

/-- The text holds a whole marker line. -/
def HasMarker (mark s : List Char) : Prop :=
  ∃ name, IsFileName name ∧ mark ++ name ++ ['\n'] <:+: s

theorem HasMarker.mono (held : HasMarker mark s) (part : s <:+: t) : HasMarker mark t := by
  obtain ⟨name, valid, inside⟩ := held
  exact ⟨name, valid, inside.trans part⟩

/-! ### Markers at a place -/

theorem marker?_eq_some_iff :
    marker? mark s = some (name, rest) ↔ IsFileName name ∧ s = mark ++ name ++ '\n' :: rest := by
  have breaks : isNameChar '\n' = false := by decide
  constructor
  · intro found
    unfold marker? at found
    split at found
    · rename_i starts
      obtain ⟨after, rfl⟩ := List.isPrefixOf_iff_prefix.mp starts
      rw [List.drop_left] at found
      split at found
      · rename_i first more rest' spanned
        cases found
        obtain ⟨rfl, chars, -⟩ := span_eq_iff.mp spanned
        exact ⟨⟨List.cons_ne_nil _ _, chars⟩, (List.append_assoc ..).symm⟩
      · cases found
    · cases found
  · rintro ⟨valid, rfl⟩
    have starts : mark.isPrefixOf (mark ++ name ++ '\n' :: rest) = true := by
      rw [List.isPrefixOf_iff_prefix, List.append_assoc]
      exact List.prefix_append _ _
    have spanned : (name ++ '\n' :: rest).span isNameChar = (name, '\n' :: rest) :=
      span_of_append valid.chars (by simpa using breaks)
    rw [marker?, if_pos starts, List.append_assoc, List.drop_left, spanned]
    cases name with
    | nil => exact absurd rfl valid.nonempty
    | cons first more => rfl

/-- A text holds a marker if one stands at the start of some end of it. -/
theorem hasMarker_iff : HasMarker mark s ↔ s.tails.any fun t => (marker? mark t).isSome := by
  simp only [List.any_eq_true, List.mem_tails]
  constructor
  · rintro ⟨name, valid, before, after, rfl⟩
    refine ⟨mark ++ name ++ '\n' :: after, ⟨before, by simp⟩, ?_⟩
    rw [marker?_eq_some_iff.mpr ⟨valid, rfl⟩]
    rfl
  · rintro ⟨t, ending, found⟩
    obtain ⟨⟨name, rest⟩, found⟩ := Option.isSome_iff_exists.mp found
    obtain ⟨valid, rfl⟩ := marker?_eq_some_iff.mp found
    obtain ⟨before, rfl⟩ := ending
    exact ⟨name, valid, before, rest, by simp⟩

instance : Decidable (HasMarker mark s) := decidable_of_iff' _ hasMarker_iff

theorem marker?_eq_none (absent : ¬ HasMarker mark s) : marker? mark s = none := by
  cases found : marker? mark s with
  | none => rfl
  | some marker =>
    obtain ⟨name, rest⟩ := marker
    obtain ⟨valid, rfl⟩ := marker?_eq_some_iff.mp found
    refine absurd ⟨name, valid, ?_⟩ absent
    exact ⟨[], rest, by simp⟩

/-- What has no `c` ends before the first `c` of a text that it starts. -/
theorem prefix_of_append_eq (same : p ++ t = u ++ c :: v) (other : c ∉ p) : p <+: u := by
  rcases List.append_eq_append_iff.mp same with ⟨more, rfl, _⟩ | ⟨more, rfl, rest⟩
  · exact List.prefix_append _ _
  · cases more with
    | nil => simp
    | cons d more =>
      obtain ⟨rfl, _⟩ := List.cons.inj rest
      exact absurd (by simp) other

/-! ### To the end of a file -/

theorem toEnd?_marker (found : marker? endMark s = some (name, rest)) :
    toEnd? s = some ([], name, rest) := by
  cases s with
  | nil => cases found
  | cons c s => rw [toEnd?, found]

/-- The marker that ends a file is found behind its content, which a line break closes. -/
theorem toEnd?_content (valid : IsFileName name) (absent : ¬ HasMarker endMark (s ++ ['\n'])) :
    toEnd? (s ++ '\n' :: (endMark ++ name ++ '\n' :: rest)) = some (s ++ ['\n'], name, rest) := by
  induction s with
  | nil =>
    have here : marker? endMark ('\n' :: (endMark ++ name ++ '\n' :: rest)) = none := rfl
    rw [List.nil_append, toEnd?, here, toEnd?_marker (marker?_eq_some_iff.mpr ⟨valid, rfl⟩)]
    rfl
  | cons c s ih =>
    have later : ¬ HasMarker endMark (s ++ ['\n']) := fun held =>
      absent (held.mono (List.suffix_cons _ _).isInfix)
    have here : marker? endMark (c :: s ++ '\n' :: (endMark ++ name ++ '\n' :: rest)) = none := by
      cases found : marker? endMark (c :: s ++ '\n' :: (endMark ++ name ++ '\n' :: rest)) with
      | none => rfl
      | some marker =>
        obtain ⟨name', rest'⟩ := marker
        obtain ⟨valid', same⟩ := marker?_eq_some_iff.mp found
        -- the marker would be over by the line break that closes the content
        have unbroken : '\n' ∉ endMark ++ name' := by
          rw [List.mem_append]
          rintro (inMark | inName)
          · exact absurd inMark (by decide)
          · exact valid'.not_mem (by decide) inName
        obtain ⟨more, whole⟩ := prefix_of_append_eq same.symm unbroken
        refine absurd ⟨name', valid', ?_⟩ absent
        refine List.IsPrefix.isInfix ?_
        rw [← whole, List.append_assoc _ more, List.append_cancel_left_eq] at same
        rw [← whole, List.append_assoc (endMark ++ name') more, List.prefix_append_right_inj]
        cases more with
        | nil => exact List.prefix_rfl
        | cons d more =>
          obtain ⟨rfl, _⟩ := List.cons.inj same
          exact ⟨more ++ ['\n'], by simp⟩
    rw [List.cons_append, toEnd?, ← List.cons_append, here, ih later]
    rfl

theorem withoutLastBreak_append (s : List Char) : withoutLastBreak (s ++ ['\n']) = s := by
  simp [withoutLastBreak]

/-! ### Up to the beginning of a file -/

/-- A text without a marker that is followed by a mark has none at its start either. -/
theorem marker?_before_begin (absent : ¬ HasMarker beginMark (c :: s)) :
    marker? beginMark (c :: s ++ (beginMark ++ rest)) = none := by
  cases found : marker? beginMark (c :: s ++ (beginMark ++ rest)) with
  | none => rfl
  | some marker =>
    exfalso
    obtain ⟨name, after⟩ := marker
    obtain ⟨valid, same⟩ := marker?_eq_some_iff.mp found
    -- behind the three signs that it begins with, no mark can begin inside the marker
    have tail : '>' ∉ "BEGIN ".toList ++ name ++ ['\n'] := by
      simp only [List.mem_append, not_or]
      exact ⟨⟨by decide, valid.not_mem (by decide)⟩, by decide⟩
    have shape : beginMark = '>' :: '>' :: '>' :: "BEGIN ".toList := rfl
    rw [show beginMark ++ name ++ '\n' :: after =
      '>' :: '>' :: '>' :: ("BEGIN ".toList ++ name ++ ['\n'] ++ after) by simp [shape]] at same
    match s with
    | [] => simp [shape] at same
    | [_] => simp [shape] at same
    | a :: b :: s =>
      simp only [List.cons_append, List.cons.injEq] at same
      obtain ⟨rfl, rfl, rfl, same⟩ := same
      obtain ⟨more, whole⟩ := prefix_of_append_eq (u := s) same.symm tail
      refine absent ⟨name, valid, ⟨[], more, ?_⟩⟩
      rw [← whole]
      simp [shape]

/-- Nothing is taken from a text without a marker that begins a file. -/
theorem segmentsOf_filler {fuel : Nat} (absent : ¬ HasMarker beginMark s) (enough : s.length ≤ fuel) :
    segmentsOf fuel s = [] := by
  induction s generalizing fuel with
  | nil =>
    cases fuel
    · rfl
    · rfl
  | cons c s ih =>
    obtain ⟨fuel, rfl⟩ : ∃ more, fuel = more + 1 :=
      ⟨fuel - 1, by rw [List.length_cons] at enough; omega⟩
    have later : ¬ HasMarker beginMark s := fun held =>
      absent (held.mono (List.suffix_cons _ _).isInfix)
    rw [segmentsOf, marker?_eq_none absent]
    exact ih later (by rw [List.length_cons] at enough; omega)

theorem segmentsOf_skip {fuel : Nat} (absent : ¬ HasMarker beginMark s) :
    segmentsOf (fuel + s.length) (s ++ (beginMark ++ rest)) = segmentsOf fuel (beginMark ++ rest) := by
  induction s generalizing fuel with
  | nil => rfl
  | cons c s ih =>
    have later : ¬ HasMarker beginMark s := fun held =>
      absent (held.mono (List.suffix_cons _ _).isInfix)
    have here : marker? beginMark (c :: s ++ (beginMark ++ rest)) = none := marker?_before_begin absent
    rw [List.cons_append] at here ⊢
    rw [List.length_cons, ← Nat.add_assoc, segmentsOf, here]
    exact ih later

/-- A file between its markers is taken, and what follows is split on its own. -/
theorem segmentsOf_file {fuel : Nat} (valid : IsFileName name)
    (absent : ¬ HasMarker endMark (s ++ ['\n'])) :
    segmentsOf (fuel + 1)
        (beginMark ++ (name ++ '\n' :: (s ++ '\n' :: (endMark ++ name ++ '\n' :: rest)))) =
      ⟨String.ofList name, String.ofList s⟩ :: segmentsOf fuel rest := by
  generalize opened : beginMark ++ (name ++ '\n' :: (s ++ '\n' :: (endMark ++ name ++ '\n' :: rest))) = whole
  have begins : marker? beginMark whole =
      some (name, s ++ '\n' :: (endMark ++ name ++ '\n' :: rest)) := by
    rw [marker?_eq_some_iff, List.append_assoc]
    exact ⟨valid, opened.symm⟩
  cases whole with
  | nil => cases begins
  | cons c whole =>
    rw [segmentsOf, begins]
    dsimp only
    rw [toEnd?_content valid absent]
    dsimp only
    rw [if_pos rfl, withoutLastBreak_append]

/-! ### What a text is cut into -/

/-- What a text is cut into. A begin marker reaches to the nearest end marker behind it, and what stands
between the two is a segment if both have the same name. -/
inductive Segmented : List Char → List Segment → Prop
  /-- No end marker stands behind a begin marker. -/
  | done {s : List Char} (none : ∀ before name body, IsFileName name →
      s = before ++ (beginMark ++ name ++ '\n' :: body) → ¬ HasMarker endMark body) : Segmented s []
  | honoured {name body after : List Char} {segments : List Segment} (before : List Char)
      (valid : IsFileName name) (first : ¬ HasMarker beginMark before) (nearest : ¬ HasMarker endMark body)
      (rest : Segmented after segments) :
      Segmented (before ++ (beginMark ++ name ++ '\n' :: (body ++ (endMark ++ name ++ '\n' :: after))))
        (⟨String.ofList name, String.ofList (withoutLastBreak body)⟩ :: segments)
  | mismatched {name endName body after : List Char} {segments : List Segment} (before : List Char)
      (valid : IsFileName name) (validEnd : IsFileName endName) (different : name ≠ endName)
      (first : ¬ HasMarker beginMark before) (nearest : ¬ HasMarker endMark body)
      (rest : Segmented after segments) :
      Segmented (before ++ (beginMark ++ name ++ '\n' :: (body ++ (endMark ++ endName ++ '\n' :: after))))
        segments

theorem Segmented.isFileName {s : List Char} {segments : List Segment} (cut : Segmented s segments) :
    ∀ segment ∈ segments, IsFileName segment.name.toList := by
  induction cut with
  | done _ => exact nofun
  | honoured _ valid _ _ _ ih =>
    intro segment member
    rcases List.mem_cons.mp member with rfl | later
    · rw [String.toList_ofList]
      exact valid
    · exact ih segment later
  | mismatched _ _ _ _ _ _ _ ih => exact ih

theorem not_hasMarker_nil : ¬ HasMarker mark [] := by
  rintro ⟨name, -, inside⟩
  have empty := List.infix_nil.mp inside
  simp at empty

theorem not_hasMarker_cons (none : marker? mark (c :: s ++ t) = none) (absent : ¬ HasMarker mark s) :
    ¬ HasMarker mark (c :: s) := by
  rintro ⟨name, valid, inside⟩
  rcases List.infix_cons_iff.mp inside with ⟨after, starts⟩ | later
  · have found : marker? mark (c :: s ++ t) = some (name, after ++ t) :=
      marker?_eq_some_iff.mpr ⟨valid, by rw [← starts]; simp⟩
    rw [none] at found
    cases found
  · exact absent ⟨name, valid, later⟩

theorem toEnd?_eq_none (none : toEnd? s = none) : ¬ HasMarker endMark s := by
  induction s with
  | nil => exact not_hasMarker_nil
  | cons c s ih =>
    rw [toEnd?] at none
    split at none
    · cases none
    · rename_i absent
      exact not_hasMarker_cons (t := []) (by rwa [List.append_nil]) (ih (Option.map_eq_none_iff.mp none))

theorem toEnd?_eq_some {body endName after : List Char} (found : toEnd? s = some (body, endName, after)) :
    IsFileName endName ∧ s = body ++ (endMark ++ endName ++ '\n' :: after) ∧ ¬ HasMarker endMark body := by
  induction s generalizing body with
  | nil => cases found
  | cons c s ih =>
    rw [toEnd?] at found
    split at found
    · rename_i here
      cases found
      obtain ⟨valid, whole⟩ := marker?_eq_some_iff.mp here
      exact ⟨valid, whole, not_hasMarker_nil⟩
    · rename_i absent
      obtain ⟨⟨body', endName', after'⟩, found, same⟩ := Option.map_eq_some_iff.mp found
      cases same
      obtain ⟨valid, rfl, nearest⟩ := ih found
      exact ⟨valid, rfl, not_hasMarker_cons absent nearest⟩

/-- An end marker in a text that a begin marker starts stands behind that marker. -/
theorem hasMarker_behind {endName body after : List Char} (before : List Char) (valid : IsFileName name)
    (validEnd : IsFileName endName)
    (same : before ++ (endMark ++ endName ++ '\n' :: after) = beginMark ++ name ++ '\n' :: body) :
    HasMarker endMark body := by
  have line : '<' ∉ beginMark ++ name ++ ['\n'] := by
    simp only [List.mem_append, not_or]
    exact ⟨⟨by decide, valid.not_mem (by decide)⟩, by decide⟩
  have shape : endMark = '<' :: "<<END ".toList := rfl
  have opened : beginMark ++ name ++ '\n' :: body = beginMark ++ name ++ ['\n'] ++ body := by simp
  obtain ⟨more, rfl⟩ : beginMark ++ name ++ ['\n'] <+: before :=
    prefix_of_append_eq (t := body) (v := "<<END ".toList ++ endName ++ '\n' :: after)
      (opened.symm.trans same.symm) line
  rw [opened, List.append_assoc _ more, List.append_cancel_left_eq] at same
  exact ⟨endName, validEnd, more, after, by rw [← same]; simp⟩

/-- A text is cut as what follows its first character, unless a begin marker with an end marker behind it
starts it. -/
theorem Segmented.cons {segments : List Segment} (cut : Segmented s segments)
    (unended : ∀ name body, marker? beginMark (c :: s) = some (name, body) → ¬ HasMarker endMark body) :
    Segmented (c :: s) segments := by
  have first : ∀ {before endName} behind after,
      s = before ++ behind ++ (endMark ++ endName ++ '\n' :: after) → IsFileName endName →
        ¬ HasMarker beginMark before → ¬ HasMarker beginMark (c :: before) := by
    rintro before endName behind after rfl validEnd absent
    refine not_hasMarker_cons (t := behind ++ (endMark ++ endName ++ '\n' :: after)) ?_ absent
    cases found : marker? beginMark (c :: before ++ (behind ++ (endMark ++ endName ++ '\n' :: after))) with
    | none => rfl
    | some marker =>
      obtain ⟨name, body⟩ := marker
      rw [← List.append_assoc, List.cons_append, List.cons_append] at found
      obtain ⟨valid, whole⟩ := marker?_eq_some_iff.mp found
      exact absurd (hasMarker_behind (c :: (before ++ behind)) valid validEnd whole)
        (unended name body found)
  cases cut with
  | done none =>
    refine .done fun before name body valid whole => ?_
    cases before with
    | nil => exact unended name body (marker?_eq_some_iff.mpr ⟨valid, whole⟩)
    | cons d before => exact none before name body valid (List.cons.inj whole).2
  | @honoured name body after _ before valid absent nearest rest =>
    refine .honoured (c :: before) valid ?_ nearest rest
    exact first (beginMark ++ name ++ '\n' :: body) after (by simp) valid absent
  | @mismatched name endName body after _ before valid validEnd different absent nearest rest =>
    refine .mismatched (c :: before) valid validEnd different ?_ nearest rest
    exact first (beginMark ++ name ++ '\n' :: body) after (by simp) validEnd absent

theorem segmented_segmentsOf {fuel : Nat} (enough : s.length ≤ fuel) :
    Segmented s (segmentsOf fuel s) := by
  induction fuel generalizing s with
  | zero =>
    cases List.eq_nil_of_length_eq_zero (Nat.le_zero.mp enough)
    exact .done fun before name body _ whole => by simp at whole
  | succ fuel ih =>
    cases s with
    | nil => exact .done fun before name body _ whole => by simp at whole
    | cons c s =>
      have shorter : s.length ≤ fuel := Nat.le_of_succ_le_succ enough
      rw [segmentsOf]
      split
      · rename_i absent
        exact (ih shorter).cons fun name body found => by rw [absent] at found; cases found
      · rename_i name body found
        obtain ⟨valid, whole⟩ := marker?_eq_some_iff.mp found
        split
        · rename_i open_
          refine (ih shorter).cons fun name' body' found' => ?_
          cases found.symm.trans found'
          exact toEnd?_eq_none open_
        · rename_i body endName after ended
          obtain ⟨validEnd, rfl, nearest⟩ := toEnd?_eq_some ended
          have left : after.length ≤ fuel := by
            have lengths := congrArg List.length whole
            simp only [List.length_append, List.length_cons] at lengths enough
            omega
          rw [whole]
          split
          · rename_i same
            subst same
            exact .honoured [] valid not_hasMarker_nil nearest (ih left)
          · rename_i different
            exact .mismatched [] valid validEnd different not_hasMarker_nil nearest (ih left)

theorem segmented_split (content : String) : Segmented content.toList (split content) :=
  segmented_segmentsOf (Nat.le_refl _)

/-! ### Whole texts -/

/-- A text that opens with `filler`; after it come files between their markers, each with a text
behind it. -/
def assemble (filler : String) : List (Segment × String) → String
  | [] => filler
  | (file, next) :: files =>
    filler ++ (beginFile [file.name] ++ file.content ++ "\n" ++ endFile [file.name] ++
      assemble next files)

/-- A file that can stand between its markers. -/
structure Segment.Markable (file : Segment) : Prop where
  name : IsFileName file.name.toList
  content : ¬ HasMarker endMark (file.content ++ "\n").toList

theorem toList_assemble_cons (filler next : String) (file : Segment) (files : List (Segment × String)) :
    (assemble filler ((file, next) :: files)).toList =
      filler.toList ++ (beginMark ++ (file.name.toList ++ '\n' :: (file.content.toList ++
        '\n' :: (endMark ++ file.name.toList ++ '\n' :: (assemble next files).toList)))) := by
  simp [assemble, beginFile, endFile]

theorem segmentsOf_assemble {fuel : Nat} {filler : String} {files : List (Segment × String)}
    (before : ¬ HasMarker beginMark filler.toList) (markable : ∀ part ∈ files, part.1.Markable)
    (between : ∀ part ∈ files, ¬ HasMarker beginMark part.2.toList)
    (enough : (assemble filler files).toList.length ≤ fuel) :
    segmentsOf fuel (assemble filler files).toList = files.map (·.1) := by
  induction files generalizing filler fuel with
  | nil => exact segmentsOf_filler before enough
  | cons part files ih =>
    obtain ⟨file, next⟩ := part
    have here : file.Markable := markable _ List.mem_cons_self
    have content : ¬ HasMarker endMark (file.content.toList ++ ['\n']) := by
      have absent := here.content
      rwa [String.toList_append] at absent
    rw [toList_assemble_cons] at enough ⊢
    simp only [List.length_append, List.length_cons] at enough
    obtain ⟨fuel, rfl⟩ : ∃ more, fuel = more + 1 + filler.toList.length :=
      ⟨fuel - 1 - filler.toList.length, by omega⟩
    have room : (assemble next files).toList.length ≤ fuel := by omega
    rw [segmentsOf_skip before, segmentsOf_file here.name content,
      ih (between _ List.mem_cons_self) (fun part member => markable part (List.mem_cons_of_mem _ member))
        (fun part member => between part (List.mem_cons_of_mem _ member)) room]
    simp

/-- Splitting finds the files that were put between their markers, in order and with their contents. -/
theorem split_assemble {filler : String} {files : List (Segment × String)}
    (before : ¬ HasMarker beginMark filler.toList) (markable : ∀ part ∈ files, part.1.Markable)
    (between : ∀ part ∈ files, ¬ HasMarker beginMark part.2.toList) :
    split (assemble filler files) = files.map (·.1) := by
  rw [split]
  exact segmentsOf_assemble before markable between (Nat.le_refl _)

/-- A file may hold the beginning of another and a mark without a name, and texts may break off
inside a mark. -/
theorem split_assemble_broken_marks :
    split (assemble ">" [(⟨"a.txt", ">>>BEGIN b\n<<<END \n"⟩, "<<<END a.txt\n>>>BEGIN b"), (⟨"b", ""⟩, ">")]) =
      [⟨"a.txt", ">>>BEGIN b\n<<<END \n"⟩, ⟨"b", ""⟩] := by
  refine split_assemble ?_ ?_ ?_
  · decide
  · intro part member
    simp only [List.mem_cons, List.not_mem_nil, or_false] at member
    rcases member with rfl | rfl
    · exact ⟨by decide, by decide⟩
    · exact ⟨by decide, by decide⟩
  · intro part member
    simp only [List.mem_cons, List.not_mem_nil, or_false] at member
    rcases member with rfl | rfl
    · decide
    · decide

end GoIdl.Output
