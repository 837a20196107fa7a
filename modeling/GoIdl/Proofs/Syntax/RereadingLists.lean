import GoIdl.Proofs.Syntax.Rereading

/-!
# Printed lists are read again

Parameters, fields and the elements of an interface are printed as lists in brackets. One statement
about such lists covers all three: if each item is read where an item may start, then the list is read
up to what closes it.
-/

namespace GoIdl.Syntax.Parser

open Reading

variable {pos : Position}

/-! ### Lists -/

/-- Items in brackets with a separator between them. -/
structure Listing (Item Hole : Type) where
  place : Hole → Mode
  text : Item → String
  bare : Item → Item
  add : Hole → Item → Hole
  finish : Hole → Outcome
  separator : Char × Terminal
  closer : Char × Terminal
  separates : separator ∈ signMarks
  closes : closer ∈ signMarks
  apart : separator.2 ≠ closer.2
  noOperator : ∀ hole, .operator ∉ (place hole).expects
  expects : ∀ hole, closer.2 ∈ (place hole).expects
  finished : ∀ docs hole t, t.terminal = closer.2 → accept docs t (place hole) = finish hole

namespace Listing

variable {Item Hole : Type}

/-- The items as they are printed. -/
def joined (l : Listing Item Hole) (items : List Item) : String :=
  (String.ofList [l.separator.1, ' ']).intercalate (items.map l.text)

/-- What an item leads to before a separator and before what closes the list. -/
def after (l : Listing Item Hole) (hole : Hole) (t : Token) : Outcome :=
  if t.terminal = l.closer.2 then l.finish hole else goto (l.place hole)

def Reads (l : Listing Item Hole) (x : Item) : Prop :=
  ∀ ⦃r : Reading⦄ ⦃hole : Hole⦄ ⦃rest : List Char⦄, r.At (l.place hole) ((l.text x).toList ++ rest) →
    Breaks rest → ∃ s x', r.Leads s ∧ l.bare x' = l.bare x ∧
      s.Awaits [l.separator.2, l.closer.2] rest (l.after (l.add hole x'))

theorem foldl_add (l : Listing Item Hole) (into : List Item → Hole)
    (step : ∀ before x, l.add (into before) x = into (before ++ [x])) (before items : List Item) :
    items.foldl l.add (into before) = into (before ++ items) := by
  induction items generalizing before with
  | nil => rw [List.append_nil, List.foldl_nil]
  | cons x items ih => rw [List.foldl_cons, step, ih, List.append_assoc, List.singleton_append]

theorem reads_all {l : Listing Item Hole} {items : List Item} {r : Reading} {hole : Hole}
    {rest : List Char} (solid : ∀ x ∈ items, Solid (l.text x)) (reads : ∀ x ∈ items, l.Reads x)
    (place : r.At (l.place hole) ((l.joined items).toList ++ l.closer.1 :: rest)) :
    ∃ (s : Reading) (items' : List Item), r.Leads s ∧ items'.map l.bare = items.map l.bare ∧
      s.Awaits [l.closer.2] (l.closer.1 :: rest) fun _ => l.finish (items'.foldl l.add hole) := by
  have breaks : ∀ mark ∈ signMarks, Text.isWord mark.1 = false := by decide
  -- The hole grows with each item, so the induction is for every hole. The last item is a case of
  -- its own: only the others have a separator behind them.
  induction items generalizing r hole with
  | nil =>
    have listed : ∀ t ∈ [l.closer.2], t ∈ (l.place hole).expects := by
      intro t member
      rw [List.mem_singleton.mp member]
      exact l.expects hole
    exact ⟨r, [], .refl r, rfl, place.awaits (l.noOperator hole) listed fun docs t member =>
      l.finished docs hole t (List.mem_singleton.mp member)⟩
  | cons x items ih =>
    have here : l.Reads x := reads x List.mem_cons_self
    cases items with
    | nil =>
      have text : (l.joined [x]).toList = (l.text x).toList := by simp [joined]
      rw [text] at place
      obtain ⟨s, x', leads, bare, awaits⟩ := here place (breaks_cons (breaks _ l.closes) _)
      refine ⟨s, [x'], leads, by simp [bare], awaits.congr (by simp) fun t member => ?_⟩
      rw [after, if_pos (List.mem_singleton.mp member)]
      rfl
    | cons y items =>
      have text : (l.joined (x :: y :: items)).toList ++ l.closer.1 :: rest =
          (l.text x).toList ++ (l.separator.1 :: ' ' ::
            ((l.joined (y :: items)).toList ++ l.closer.1 :: rest)) := by
        simp [joined]
      rw [text] at place
      obtain ⟨s, x', toSeparator, bare, awaits⟩ := here place (breaks_cons (breaks _ l.separates) _)
      obtain ⟨u, toBlank, behind, -⟩ := awaits.close l.separates (by simp)
        (by rw [after, if_neg l.apart])
      have solidRest : ∀ c ∈ ((l.joined (y :: items)).toList ++ l.closer.1 :: rest).head?,
          isLayout c = false := by
        have first := solid y (by simp)
        cases items with
        | nil => simpa [joined] using first.head (l.closer.1 :: rest)
        | cons z items =>
          have whole := first.head ((String.ofList [l.separator.1, ' ']).toList ++
            ((l.joined (z :: items)).toList ++ l.closer.1 :: rest))
          simpa [joined] using whole
      obtain ⟨v, toItem, behindBlank, -⟩ := leads_blank behind (l.noOperator _) solidRest
      obtain ⟨w, items', toEnd, bareRest, awaitsRest⟩ := ih
        (fun z member => solid z (List.mem_cons_of_mem _ member))
        (fun z member => reads z (List.mem_cons_of_mem _ member)) behindBlank
      refine ⟨w, x' :: items', ((toSeparator.trans toBlank).trans toItem).trans toEnd, ?_, awaitsRest⟩
      rw [List.map_cons, bare, bareRest, ← List.map_cons]

end Listing

/-! ### Parameters -/

def paramList : Listing (Param TypeExpr) ParamsHole where
  place := .param
  text p := paramText p.name p.variadic p.type.text
  bare := Param.bare
  add hole p := hole.add p
  finish hole := .ok hole.close
  separator := (',', .comma)
  closer := (')', .rightParen)
  separates := by decide
  closes := by decide
  apart := by decide
  noOperator _ := Mode.noOperator rfl
  expects _ := Mode.expected rfl
  finished docs hole t same := by rw [accept, if_pos same]

theorem scan_ellipsis_param (hole : ParamsHole) (rest : List Char) :
    scan (Mode.param hole).expects ('.' :: '.' :: '.' :: rest) =
      some (.token .ellipsis ['.', '.', '.'], rest) := rfl

theorem scan_ellipsis_paramName (name : Ident) (hole : ParamsHole) (rest : List Char) :
    scan (Mode.paramName name hole).expects ('.' :: '.' :: '.' :: rest) =
      some (.token .ellipsis ['.', '.', '.'], rest) := rfl

/-- A word that an entry starts with may be its name or the start of its type. -/
theorem param_word {word : String} {r : Reading} {hole : ParamsHole} {rest : List Char}
    (isName : IsPlainName word) (place : r.At (.param hole) (word.toList ++ rest))
    (breaks : Breaks rest) :
    ∃ s, r.Leads s ∧ s.At (.paramName ⟨word, r.pos⟩ hole) rest ∧ s.Ends := by
  obtain ⟨s, leads, behind, last⟩ := leads_word place (Mode.noOperator rfl)
    (Mode.expects_typeFirst rfl _ (by decide)) isName.toIsName
    (fun entry keyword expected same => isName.plain (same ▸ Mode.keyword_mem rfl keyword expected))
    breaks rfl
  exact ⟨s, leads, behind, ends_of_last last rfl⟩

theorem param_named {name : String} {variadic : Bool} {type : TypeExpr} {r : Reading} {hole : ParamsHole}
    {rest : List Char} (isName : IsPlainName name) (solid : Solid type.text) (inner : ReadsBack type)
    (place : r.At (.param hole) ((paramText (some name) variadic type.text).toList ++ rest))
    (breaks : Breaks rest) :
    ∃ s type', r.Leads s ∧ type'.bare = type.bare ∧
      s.Awaits typeClosers rest (typeRead type' (.param r.pos (some name) variadic hole)) := by
  cases variadic with
  | true =>
    have text : (paramText (some name) true type.text).toList ++ rest =
        name.toList ++ ' ' :: '.' :: '.' :: '.' :: (type.text.toList ++ rest) := by
      simp [paramText, ellipsisText]
    rw [text] at place
    obtain ⟨s, toBlank, behind, -⟩ := param_word isName place (breaks_cons (by decide) _)
    obtain ⟨u, toDots, behindBlank, -⟩ := leads_blank behind (Mode.noOperator rfl) (by rintro c ⟨⟩; rfl)
    obtain ⟨v, toType, behindDots, -⟩ := leads_token behindBlank (scan_ellipsis_paramName _ hole _)
      (by simp) (by decide) (Mode.expected rfl) rfl
    obtain ⟨w, type', toEnd, bare, -, awaits⟩ :=
      inner (begins_type behindDots.mode) behindDots.rest behindDots.sound breaks
    exact ⟨w, type', ((toBlank.trans toDots).trans toType).trans toEnd, bare, awaits⟩
  | false =>
    have text : (paramText (some name) false type.text).toList ++ rest =
        name.toList ++ ' ' :: (type.text.toList ++ rest) := by
      simp [paramText, ellipsisText]
    rw [text] at place
    obtain ⟨s, toBlank, behind, -⟩ := param_word isName place (breaks_cons (by decide) _)
    obtain ⟨u, toType, behindBlank, -⟩ := leads_blank behind (Mode.noOperator rfl) (solid.head rest)
    obtain ⟨v, type', toEnd, bare, -, awaits⟩ :=
      inner (begins_paramName behindBlank.mode type.first_mem) behindBlank.rest behindBlank.sound breaks
    exact ⟨v, type', (toBlank.trans toType).trans toEnd, bare, awaits⟩

theorem param_unnamed {variadic : Bool} {type : TypeExpr} {r : Reading} {hole : ParamsHole}
    {rest : List Char} (legible : type.Legible) (inner : ReadsBack type)
    (place : r.At (.param hole) ((paramText none variadic type.text).toList ++ rest))
    (breaks : Breaks rest) :
    ∃ s type', r.Leads s ∧ type'.bare = type.bare ∧
      s.Awaits [.comma, .rightParen] rest (typeRead type' (.param r.pos none variadic hole)) := by
  have among : ∀ t ∈ [Terminal.comma, .rightParen], t ∈ typeClosers := by decide
  cases variadic with
  | true =>
    have text : (paramText none true type.text).toList ++ rest =
        '.' :: '.' :: '.' :: (type.text.toList ++ rest) := by
      simp [paramText, ellipsisText]
    rw [text] at place
    obtain ⟨s, toType, behind, -⟩ := leads_token place (scan_ellipsis_param hole _)
      (by simp) (by decide) (Mode.expected rfl) rfl
    obtain ⟨u, type', toEnd, bare, -, awaits⟩ :=
      inner (begins_type behind.mode) behind.rest behind.sound breaks
    exact ⟨u, type', toType.trans toEnd, bare, awaits.congr among fun _ _ => rfl⟩
  | false =>
    have text : (paramText none false type.text).toList ++ rest = type.text.toList ++ rest := by
      simp [paramText, ellipsisText]
    rw [text] at place
    -- A name at the start of an entry may be the entry's own: it is a type if the entry ends there.
    by_cases isName : type.first = .name
    · cases legible with
      | @named n spelled plain =>
        rw [TypeExpr.text, TypeName.toList_text, List.append_assoc] at place
        obtain ⟨s, toWord, behind, ends⟩ := param_word ⟨spelled.first, plain⟩ place (n.breaks_tail breaks)
        obtain ⟨u, n', toEnd, bare, -, awaits⟩ := name_read spelled (namesType_paramName _ hole) among
          behind ends breaks
        exact ⟨u, .named n', toWord.trans toEnd, congrArg TypeExpr.named bare, awaits⟩
      | _ => cases isName
    · obtain ⟨s, type', leads, bare, -, awaits⟩ :=
        inner (begins_param place.mode type.first_mem isName) place.rest place.sound breaks
      exact ⟨s, type', leads, bare, awaits.congr among fun _ _ => rfl⟩

theorem paramRead_after (p : Param TypeExpr) (hole : ParamsHole) {t : Token}
    (closes : t.terminal ∈ [Terminal.comma, .rightParen]) :
    paramRead p hole t.terminal = paramList.after (hole.add p) t := by
  simp only [List.mem_cons, List.not_mem_nil, or_false] at closes
  rcases closes with same | same <;> simp only [paramRead, Listing.after, same] <;> rfl

theorem param_reads {p : Param TypeExpr} (named : ∀ n ∈ p.name, IsPlainName n) (legible : p.type.Legible)
    (inner : ReadsBack p.type) : paramList.Reads p := by
  intro r hole rest place breaks
  obtain ⟨pos, name, variadic, type⟩ := p
  have ended : ∃ s type', r.Leads s ∧ type'.bare = type.bare ∧
      s.Awaits [.comma, .rightParen] rest (typeRead type' (.param r.pos name variadic hole)) := by
    cases name with
    | none => exact param_unnamed legible inner place breaks
    | some name =>
      obtain ⟨s, type', leads, bare, awaits⟩ :=
        param_named (named name rfl) legible.solid inner place breaks
      exact ⟨s, type', leads, bare, awaits.congr (by decide) fun _ _ => rfl⟩
  obtain ⟨s, type', leads, bare, awaits⟩ := ended
  refine ⟨s, ⟨r.pos, name, variadic, type'⟩, leads, congrArg (Param.mk nowhere name variadic) bare, ?_⟩
  refine awaits.congr (fun _ => id) fun t closes => ?_
  rw [typeRead]
  exact paramRead_after _ hole closes

theorem param_solid {p : Param TypeExpr} (named : ∀ n ∈ p.name, IsPlainName n)
    (solid : Solid p.type.text) : Solid (paramList.text p) := by
  obtain ⟨pos, name, variadic, type⟩ := p
  cases name with
  | some name =>
    have first : Solid name := (named name rfl).toIsName.solid
    exact ((first.append " ").append (ellipsisText variadic)).append type.text
  | none =>
    cases variadic with
    | true => exact ⟨'.', _, by simp [paramList, paramText, ellipsisText]; rfl, by decide⟩
    | false => simpa [paramList, paramText, ellipsisText] using solid

/-! ### Signatures -/

theorem groupFrom_named {listPos : Position} {ps : List (Param TypeExpr)}
    (named : ∀ p ∈ ps, p.name ≠ none) : groupFrom listPos [] ps = .ok ps := by
  induction ps with
  | nil => rfl
  | cons p ps ih =>
    obtain ⟨name, found⟩ := Option.ne_none_iff_exists'.mp (named p List.mem_cons_self)
    rw [groupFrom, found, ih fun q member => named q (List.mem_cons_of_mem _ member)]
    rfl

theorem grouped_uniform {ps ps' : List (Param TypeExpr)} (uniform : Uniform ps)
    (same : ps'.map Param.bare = ps.map Param.bare) (pos : Position) : grouped pos ps' = (ps', none) := by
  have names : ps'.map (·.name) = ps.map (·.name) := by
    have same := congrArg (List.map fun p : Param TypeExpr => p.name) same
    simpa [Function.comp_def, Param.bare] using same
  -- Grouping looks at names only, and these are the ones that were printed.
  have kept : groupParams pos ps' = .ok ps' := by
    have among : ∀ p' ∈ ps', ∃ p ∈ ps, p.name = p'.name := by
      intro p' member
      have listed : p'.name ∈ ps.map (·.name) := names ▸ List.mem_map_of_mem member
      exact List.mem_map.mp listed
    unfold groupParams
    cases uniform with
    | unnamed all =>
      rw [if_neg]
      intro some
      obtain ⟨p', member, held⟩ := List.any_eq_true.mp some
      obtain ⟨p, listed, sameName⟩ := among p' member
      rw [← sameName, all p listed] at held
      cases held
    | named all =>
      split
      · refine groupFrom_named fun p' member => ?_
        obtain ⟨p, listed, sameName⟩ := among p' member
        obtain ⟨name, found, -⟩ := all p listed
        rw [← sameName, found]
        exact Option.some_ne_none name
      · rfl
  rw [grouped, kept]

theorem joined_params (ps : List (Param TypeExpr)) :
    ", ".intercalate (paramTexts ps) = paramList.joined ps := by
  rw [paramTexts_eq]
  rfl

/-- What is needed of the entries of a list for them to be read. -/
structure Readable (ps : List (Param TypeExpr)) : Prop where
  uniform : Uniform ps
  types : ∀ p ∈ ps, p.type.Legible
  reads : ∀ p ∈ ps, ReadsBack p.type

theorem Readable.named {ps : List (Param TypeExpr)} (readable : Readable ps) :
    ∀ p ∈ ps, ∀ n ∈ p.name, IsPlainName n := by
  intro p member n found
  cases readable.uniform with
  | unnamed all =>
    rw [all p member] at found
    cases found
  | named all =>
    obtain ⟨name, same, isName⟩ := all p member
    rw [same] at found
    cases found
    exact isName

theorem params_read {ps : List (Param TypeExpr)} {r : Reading} {hole : ParamsHole} {rest : List Char}
    (done : List (Param TypeExpr) → Mode) (readable : Readable ps)
    (closed : ∀ ps', ps'.map Param.bare = ps.map Param.bare →
      (.ok (ps'.foldl paramList.add hole).close : Outcome) = goto (done ps'))
    (place : r.At (.param hole) ((", ".intercalate (paramTexts ps)).toList ++ ')' :: rest)) :
    ∃ s ps', r.Leads s ∧ bareParams ps' = bareParams ps ∧ s.At (done ps') rest ∧ s.Ends := by
  rw [joined_params] at place
  have solid : ∀ p ∈ ps, Solid (paramList.text p) := fun p member =>
    param_solid (readable.named p member) (readable.types p member).solid
  have reads : ∀ p ∈ ps, paramList.Reads p := fun p member =>
    param_reads (readable.named p member) (readable.types p member) (readable.reads p member)
  obtain ⟨s, ps', leads, bare, awaits⟩ := Listing.reads_all solid reads place
  obtain ⟨u, toEnd, behind, last⟩ :=
    awaits.close (t := .rightParen) (by decide) (by decide) (closed ps' bare)
  exact ⟨u, ps', leads.trans toEnd, by rwa [bareParams_eq, bareParams_eq], behind, ends_of_last last rfl⟩

variable {params results : List (Param TypeExpr)} {r : Reading} {hole : SignatureHole} {rest : List Char}

theorem results_none (place : r.At (.params params hole) rest) :
    r.Awaits typeClosers rest (signatureRead ⟨params, []⟩ hole) := by
  refine place.awaits (Mode.unexpected rfl) (Mode.expected_all rfl) fun docs t member => ?_
  have others : ∀ u ∈ typeClosers, u ≠ .leftParen ∧ ¬ typeFirst.contains u = true := by decide
  obtain ⟨paren, noType⟩ := others _ member
  rw [accept, if_neg paren, if_neg noType]

theorem results_single {type : TypeExpr} (solid : Solid type.text) (inner : ReadsBack type)
    (place : r.At (.params params hole) (' ' :: (type.text.toList ++ rest))) (breaks : Breaks rest) :
    ∃ s type', r.Leads s ∧ type'.bare = type.bare ∧ s.Ends ∧ s.Awaits typeClosers rest
      (signatureRead ⟨params, [⟨type'.pos, none, false, type'⟩]⟩ hole) := by
  obtain ⟨s, toType, behind, -⟩ := leads_blank place (Mode.noOperator rfl) (solid.head rest)
  obtain ⟨u, type', toEnd, bare, ends, awaits⟩ :=
    inner (begins_params behind.mode type.first_mem) behind.rest behind.sound breaks
  refine ⟨u, type', toType.trans toEnd, bare, ends, awaits.congr (fun _ => id) fun t _ => ?_⟩
  rw [typeRead]

theorem results_listed (readable : Readable results)
    (place : r.At (.params params hole)
      (' ' :: '(' :: ((", ".intercalate (paramTexts results)).toList ++ ')' :: rest))) :
    ∃ s results', r.Leads s ∧ bareParams results' = bareParams results ∧ s.Ends ∧
      s.Awaits typeClosers rest (signatureRead ⟨params, results'⟩ hole) := by
  obtain ⟨s, toParen, behind, -⟩ := leads_blank place (Mode.noOperator rfl) (by rintro c ⟨⟩; rfl)
  obtain ⟨u, toList, behindParen, -⟩ := leads_mark (t := .leftParen) behind (Mode.noOperator rfl)
    (by decide) (Mode.expected rfl) (by rw [accept, if_pos rfl])
  have closed : ∀ ps, ps.map Param.bare = results.map Param.bare →
      (.ok (ps.foldl paramList.add (.results s.pos [] params hole)).close : Outcome) =
        goto (.results params ps hole) := by
    intro ps same
    rw [paramList.foldl_add (.results s.pos · params hole) fun _ _ => rfl, List.nil_append,
      ParamsHole.close, grouped_uniform readable.uniform same]
    rfl
  obtain ⟨v, results', toEnd, bare, behindList, ends⟩ :=
    params_read (.results params · hole) readable closed behindParen
  refine ⟨v, results', (toParen.trans toList).trans toEnd, bare, ends,
    behindList.awaits (Mode.unexpected rfl) (Mode.expected_all rfl) fun docs t member => ?_⟩
  have follows : ∀ u ∈ typeClosers, typeFollow.contains u = true := by decide
  rw [accept, if_pos (follows _ member)]

theorem results_read (readable : Readable results) (fixed : ∀ p ∈ results, p.variadic = false)
    (place : r.At (.params params hole) (resultsText (paramTexts results) (isBare results) ++ rest))
    (ended : r.Ends) (breaks : Breaks rest) :
    ∃ s results', r.Leads s ∧ bareParams results' = bareParams results ∧ s.Ends ∧
      s.Awaits typeClosers rest (signatureRead ⟨params, results'⟩ hole) := by
  -- Printed are no results, or a single one, or a list in parentheses; the last is what is left
  -- when there are more results than one or the only one has a name.
  by_cases listed : resultsText (paramTexts results) (isBare results) =
      ' ' :: '(' :: ((", ".intercalate (paramTexts results)).toList ++ [')'])
  · rw [listed] at place
    exact results_listed readable (by simpa using place)
  · cases results with
    | nil => exact ⟨r, [], .refl r, rfl, ended, results_none place⟩
    | cons result more =>
      obtain ⟨pos, name, variadic, type⟩ := result
      cases more with
      | cons => exact absurd rfl listed
      | nil =>
        cases name with
        | some name => exact absurd (by simp [paramTexts, resultsText, isBare]) listed
        | none =>
          obtain rfl : variadic = false := fixed _ List.mem_cons_self
          have text : resultsText (paramTexts [⟨pos, none, false, type⟩])
              (isBare [⟨pos, none, false, type⟩]) ++ rest = ' ' :: (type.text.toList ++ rest) := by
            simp [paramTexts, resultsText, isBare, paramText, ellipsisText]
          rw [text] at place
          have solid : Solid type.text := (readable.types _ List.mem_cons_self).solid
          obtain ⟨s, type', leads, bare, ends, awaits⟩ :=
            results_single solid (readable.reads _ List.mem_cons_self) place breaks
          exact ⟨s, _, leads, by simp only [bareParams, bare], ends, awaits⟩

theorem signature_read {pos : Position} (readable : Readable params) (readableResults : Readable results)
    (fixed : ∀ p ∈ results, p.variadic = false)
    (place : r.At (.param (.params pos [] hole)) ((", ".intercalate (paramTexts params)).toList ++ ')' ::
      (resultsText (paramTexts results) (isBare results) ++ rest)))
    (breaks : Breaks rest) :
    ∃ s params' results', r.Leads s ∧ bareParams params' = bareParams params ∧
      bareParams results' = bareParams results ∧ s.Ends ∧
      s.Awaits typeClosers rest (signatureRead ⟨params', results'⟩ hole) := by
  have closed : ∀ ps, ps.map Param.bare = params.map Param.bare →
      (.ok (ps.foldl paramList.add (.params pos [] hole)).close : Outcome) = goto (.params ps hole) := by
    intro ps same
    rw [paramList.foldl_add (.params pos · hole) fun _ _ => rfl, List.nil_append, ParamsHole.close,
      grouped_uniform readable.uniform same]
    rfl
  obtain ⟨s, params', toResults, bare, behind, ended⟩ :=
    params_read (.params · hole) readable closed place
  obtain ⟨u, results', toEnd, bareResults, ends, awaits⟩ :=
    results_read readableResults fixed behind ended breaks
  exact ⟨u, params', results', toResults.trans toEnd, bare, bareResults, ends, awaits⟩

theorem readsBack_func {σ : Signature TypeExpr} (params : Readable σ.params)
    (results : Readable σ.results) (fixed : ∀ p ∈ σ.results, p.variadic = false) : ReadsBack (.func pos σ) := by
  intro r hole rest (begins : r.Begins hole .funcKeyword) text sound breaks
  have text : r.rest = "func".toList ++ '(' :: ((", ".intercalate (paramTexts σ.params)).toList ++ ')' ::
      (resultsText (paramTexts σ.results) (isBare σ.results) ++ rest)) := by
    rw [text, TypeExpr.text, String.toList_append, toList_signatureText]
    simp
  obtain ⟨s, toParen, behind⟩ := begins.keyword text sound (by decide) (by decide)
    (breaks_cons (by decide) _) rfl
  obtain ⟨u, toParams, behindParen, -⟩ := leads_mark (t := .leftParen) behind
    (Mode.unexpected rfl) (by decide) (Mode.expected rfl) rfl
  obtain ⟨v, params', results', toEnd, bare, bareResults, ends, awaits⟩ :=
    signature_read params results fixed behindParen breaks
  refine ⟨v, .func r.pos ⟨params', results'⟩, (toParen.trans toParams).trans toEnd,
    by simp only [TypeExpr.bare, bare, bareResults], ends, ?_⟩
  exact awaits.congr (fun _ => id) fun t _ => by rw [signatureRead]

/-! ### Structs -/

def StructHole.add (f : FieldDecl TypeExpr) : StructHole → StructHole
  | .fields pos members outer => .fields pos (members ++ [f]) outer

def fieldList : Listing (FieldDecl TypeExpr) StructHole where
  place := .field
  text := fieldText
  bare := FieldDecl.bare
  add hole f := hole.add f
  finish hole := fieldClosed hole .rightBrace
  separator := (';', .semicolon)
  closer := ('}', .rightBrace)
  separates := by decide
  closes := by decide
  apart := by decide
  noOperator _ := Mode.unexpected rfl
  expects _ := Mode.expected rfl
  finished docs hole t same := by rw [accept, if_pos same]

theorem fieldRead_after {declare : Option String → List (FieldDecl TypeExpr)} {f : FieldDecl TypeExpr}
    {t : Token} (declared : declare none = [f]) (hole : StructHole)
    (closes : t.terminal ∈ [Terminal.semicolon, .rightBrace]) :
    fieldRead declare hole t = fieldList.after (hole.add f) t := by
  obtain ⟨pos, members, outer⟩ := hole
  simp only [List.mem_cons, List.not_mem_nil, or_false] at closes
  rcases closes with same | same
  · simp only [fieldRead, Listing.after, same, declared]
    rfl
  · simp only [fieldRead, Listing.after, same, declared]
    rfl

/-- No keyword is told from a name among the members of a struct or an interface. -/
theorem member_free {word : String} {mode : Mode} (noType : mode.expects = [.name, .rightBrace, .star] ∨
    mode.expects = [.name, .rightBrace] ∨ mode.expects = [.name]) :
    ∀ entry ∈ Terminal.keywords, entry.2 ∈ mode.expects → entry.1 ≠ word := by
  have noKeyword : ∀ entry ∈ Terminal.keywords, entry.2 ∉ [Terminal.name, .rightBrace, .star] := by decide
  intro entry keyword expected
  refine absurd ?_ (noKeyword entry keyword)
  rcases noType with same | same | same <;> rw [same] at expected <;> simp at expected ⊢ <;> tauto

theorem field_word {word : String} {r : Reading} {hole : StructHole} {rest : List Char}
    (isName : IsName word) (place : r.At (.field hole) (word.toList ++ rest)) (breaks : Breaks rest) :
    ∃ s doc, r.Leads s ∧ s.At (.fieldName ⟨word, r.pos⟩ doc hole) rest ∧ s.Ends := by
  obtain ⟨s, leads, behind, last⟩ := leads_word place (Mode.unexpected rfl)
    (Mode.expected rfl) isName (member_free (.inl rfl)) breaks rfl
  exact ⟨s, _, leads, behind, ends_of_last last rfl⟩

theorem field_star {r : Reading} {hole : StructHole} {rest : List Char}
    (place : r.At (.field hole) ('*' :: rest)) :
    ∃ s doc, r.Leads s ∧ s.At (.fieldStar r.pos doc hole) rest := by
  obtain ⟨s, leads, behind, -⟩ := leads_mark (t := .star) place (Mode.unexpected rfl) (by decide)
    (Mode.expected rfl) rfl
  exact ⟨s, _, leads, behind⟩

theorem memberClosers_mem : ∀ t ∈ [Terminal.semicolon, .rightBrace], t ∈ typeClosers := by decide

section

variable {pos starPos : Position} {name doc : String} {tag : Option String} {type : TypeExpr}
  {n : TypeName}

theorem named_reads (isName : IsName name) (solid : Solid type.text) (inner : ReadsBack type) :
    fieldList.Reads ⟨pos, name, type, tag, false, doc⟩ := by
  intro r hole rest place breaks
  have text : (fieldText ⟨pos, name, type, tag, false, doc⟩).toList ++ rest =
      name.toList ++ ' ' :: (type.text.toList ++ rest) := by
    simp [fieldText]
  rw [fieldList, text] at place
  obtain ⟨s, doc', toBlank, behind, -⟩ := field_word isName place (breaks_cons (by decide) _)
  obtain ⟨u, toType, behindBlank, -⟩ := leads_blank behind (Mode.noOperator rfl) (solid.head rest)
  obtain ⟨v, type', toEnd, bare, -, awaits⟩ := inner
    (begins_fieldName behindBlank.mode type.first_mem) behindBlank.rest behindBlank.sound breaks
  refine ⟨v, ⟨r.pos, name, type', none, false, doc'⟩, (toBlank.trans toType).trans toEnd, ?_, ?_⟩
  · simp only [fieldList, FieldDecl.bare, bare]
  · refine awaits.congr memberClosers_mem fun t closes => ?_
    rw [typeRead]
    exact fieldRead_after rfl hole closes

theorem embedded_reads (spelled : n.Spelled) :
    fieldList.Reads ⟨pos, n.name, .named n, tag, true, doc⟩ := by
  intro r hole rest place breaks
  have text : (fieldText ⟨pos, n.name, .named n, tag, true, doc⟩).toList ++ rest =
      n.first.toList ++ (n.tail ++ rest) := by
    simp [fieldText, TypeExpr.text, TypeName.toList_text]
  rw [fieldList, text] at place
  obtain ⟨s, doc', toName, behind, ends⟩ := field_word spelled.first place (n.breaks_tail breaks)
  obtain ⟨u, n', toEnd, bare, -, awaits⟩ :=
    name_read spelled (namesType_fieldName _ doc' hole) memberClosers_mem behind ends breaks
  refine ⟨u, ⟨r.pos, n'.name, .named n', none, true, doc'⟩, toName.trans toEnd, ?_, ?_⟩
  · simp only [fieldList, FieldDecl.bare, TypeExpr.bare, bare, TypeName.name_eq_of_bare bare]
  · exact awaits.congr (fun _ => id) fun t closes => fieldRead_after rfl hole closes

theorem embeddedPointer_reads (spelled : n.Spelled) :
    fieldList.Reads ⟨pos, n.name, .pointer starPos (.named n), tag, true, doc⟩ := by
  intro r hole rest place breaks
  have text : (fieldText ⟨pos, n.name, .pointer starPos (.named n), tag, true, doc⟩).toList ++ rest =
      '*' :: (n.first.toList ++ (n.tail ++ rest)) := by
    simp [fieldText, TypeExpr.text, TypeName.toList_text]
  rw [fieldList, text] at place
  obtain ⟨s, doc', toWord, behindStar⟩ := field_star place
  obtain ⟨u, toTail, behind, last⟩ := leads_word behindStar (Mode.unexpected rfl)
    (Mode.expected rfl) spelled.first (member_free (.inr (.inr rfl))) (n.breaks_tail breaks) rfl
  obtain ⟨v, n', toEnd, bare, -, awaits⟩ := name_read spelled (namesType_typeName _ _) (fun _ => id)
    behind (ends_of_last last rfl) breaks
  refine ⟨v, ⟨r.pos, n'.name, .pointer r.pos (.named n'), none, true, doc'⟩,
    (toWord.trans toTail).trans toEnd, ?_, ?_⟩
  · simp only [fieldList, FieldDecl.bare, TypeExpr.bare, bare, TypeName.name_eq_of_bare bare]
  · exact awaits.congr memberClosers_mem fun t closes => fieldRead_after rfl hole closes

end

theorem field_reads {f : FieldDecl TypeExpr} (spelled : f.Spelled)
    (legible : f.embedded = false → f.type.Legible) (inner : f.embedded = false → ReadsBack f.type) :
    fieldList.Reads f := by
  obtain ⟨pos, name, type, tag, embedded, doc⟩ := f
  cases spelled with
  | named same isName =>
    cases same
    exact named_reads isName (legible rfl).solid (inner rfl)
  | embedded same n spelled sameName sameType =>
    cases same
    cases sameName
    rcases sameType with same | ⟨starPos, same⟩
    · cases same
      exact embedded_reads spelled
    · cases same
      exact embeddedPointer_reads spelled

theorem field_solid {f : FieldDecl TypeExpr} (spelled : f.Spelled) : Solid (fieldList.text f) := by
  cases spelled with
  | named same isName =>
    simp only [fieldList, fieldText, same, Bool.false_eq_true, if_false]
    exact (isName.solid.append " ").append f.type.text
  | embedded same n spelled _ sameType =>
    simp only [fieldList, fieldText, same, if_true]
    rcases sameType with same | ⟨starPos, same⟩
    · rw [same]
      exact spelled.solid
    · rw [same]
      exact ⟨'*', n.text.toList, by simp [TypeExpr.text], by decide⟩

theorem readsBack_struct {fields : List (FieldDecl TypeExpr)} (spelled : ∀ f ∈ fields, f.Spelled)
    (legible : ∀ f ∈ fields, f.embedded = false → f.type.Legible)
    (inner : ∀ f ∈ fields, f.embedded = false → ReadsBack f.type) : ReadsBack (.struct pos fields) := by
  intro r hole rest (begins : r.Begins hole .structKeyword) text sound breaks
  have text : r.rest = "struct".toList ++ '{' :: ((fieldList.joined fields).toList ++ '}' :: rest) := by
    have joined : "; ".intercalate (fieldTexts fields) = fieldList.joined fields := by
      rw [fieldTexts_eq]
      rfl
    rw [text, TypeExpr.text, joined]
    simp
  obtain ⟨s, toBrace, behind⟩ := begins.keyword text sound (by decide) (by decide)
    (breaks_cons (by decide) _) rfl
  obtain ⟨u, toFields, behindBrace, -⟩ := leads_mark (t := .leftBrace) behind
    (Mode.unexpected rfl) (by decide) (Mode.expected rfl) rfl
  have solid : ∀ f ∈ fields, Solid (fieldList.text f) := fun f member => field_solid (spelled f member)
  have reads : ∀ f ∈ fields, fieldList.Reads f := fun f member =>
    field_reads (spelled f member) (legible f member) (inner f member)
  obtain ⟨v, fields', toCloser, bare, awaits⟩ := Listing.reads_all solid reads behindBrace
  rw [fieldList.foldl_add (.fields _ · hole) fun _ _ => rfl, List.nil_append] at awaits
  obtain ⟨w, toEnd, behindFields, last⟩ := awaits.close (t := .rightBrace) (by decide) (by decide) rfl
  have same : (TypeExpr.struct r.pos fields').bare = (TypeExpr.struct pos fields).bare := by
    rw [TypeExpr.bare, TypeExpr.bare, bareFields_eq, bareFields_eq]
    exact congrArg _ bare
  exact ⟨w, .struct r.pos fields', ((toBrace.trans toFields).trans toCloser).trans toEnd, same,
    ends_of_last last rfl,
    behindFields.awaits (Mode.unexpected rfl) (Mode.expected_all rfl) fun _ _ _ => rfl⟩

/-! ### Interfaces -/

/-- An element of an interface: a method, or an interface that it embeds. -/
abbrev Elem := MethodDecl TypeExpr ⊕ TypeName

namespace Elem

def text : Elem → String := Sum.elim MethodDecl.text TypeName.text

def bare : Elem → Elem := Sum.map MethodDecl.bare TypeName.bare

end Elem

def InterfaceHole.add : Elem → InterfaceHole → InterfaceHole
  | .inl m, .elems pos methods embeds outer => .elems pos (methods ++ [m]) embeds outer
  | .inr n, .elems pos methods embeds outer => .elems pos methods (embeds ++ [n]) outer

def elemList : Listing Elem InterfaceHole where
  place := .elem
  text := Elem.text
  bare := Elem.bare
  add hole x := hole.add x
  finish hole := elemRead hole .rightBrace
  separator := (';', .semicolon)
  closer := ('}', .rightBrace)
  separates := by decide
  closes := by decide
  apart := by decide
  noOperator _ := Mode.unexpected rfl
  expects _ := Mode.expected rfl
  finished docs hole t same := by rw [accept, if_pos same]

theorem elemRead_after (hole : InterfaceHole) {t : Token}
    (closes : t.terminal ∈ [Terminal.semicolon, .rightBrace]) :
    elemRead hole t.terminal = elemList.after hole t := by
  simp only [List.mem_cons, List.not_mem_nil, or_false] at closes
  rcases closes with same | same
  · simp only [Listing.after, same]
    rfl
  · simp only [Listing.after, same]
    rfl

theorem elem_word {word : String} {r : Reading} {hole : InterfaceHole} {rest : List Char}
    (isName : IsName word) (place : r.At (.elem hole) (word.toList ++ rest)) (breaks : Breaks rest) :
    ∃ s doc, r.Leads s ∧ s.At (.elemName ⟨word, r.pos⟩ doc hole) rest ∧ s.Ends := by
  obtain ⟨s, leads, behind, last⟩ := leads_word place (Mode.unexpected rfl)
    (Mode.expected rfl) isName (member_free (.inr (.inl rfl))) breaks rfl
  exact ⟨s, _, leads, behind, ends_of_last last rfl⟩

theorem method_reads {m : MethodDecl TypeExpr} (isName : IsName m.name)
    (params : Readable m.signature.params) (results : Readable m.signature.results)
    (fixed : ∀ p ∈ m.signature.results, p.variadic = false) :
    elemList.Reads (.inl m) := by
  intro r hole rest place breaks
  have text : (elemList.text (.inl m)).toList ++ rest =
      m.name.toList ++ '(' :: ((", ".intercalate (paramTexts m.signature.params)).toList ++ ')' ::
        (resultsText (paramTexts m.signature.results) (isBare m.signature.results) ++ rest)) := by
    simp [elemList, Elem.text, MethodDecl.text, toList_signatureText]
  rw [text] at place
  obtain ⟨s, doc, toParen, behind, -⟩ := elem_word isName place (breaks_cons (by decide) _)
  obtain ⟨u, toParams, behindParen, -⟩ := leads_mark (t := .leftParen) behind
    (Mode.unexpected rfl) (by decide) (Mode.expected rfl) rfl
  obtain ⟨v, params', results', toEnd, bareParams, bareResults, -, awaits⟩ :=
    signature_read params results fixed behindParen breaks
  refine ⟨v, .inl ⟨r.pos, m.name, ⟨params', results'⟩, doc⟩, (toParen.trans toParams).trans toEnd, ?_, ?_⟩
  · simp only [elemList, Elem.bare, Sum.map_inl, MethodDecl.bare, bareParams, bareResults]
  · refine awaits.congr memberClosers_mem fun t closes => ?_
    obtain ⟨at_, methods, embeds, outer⟩ := hole
    rw [signatureRead]
    exact elemRead_after _ closes

theorem embed_reads {n : TypeName} (spelled : n.Spelled) : elemList.Reads (.inr n) := by
  intro r hole rest place breaks
  have text : (elemList.text (.inr n)).toList ++ rest = n.first.toList ++ (n.tail ++ rest) := by
    simp [elemList, Elem.text, TypeName.toList_text]
  rw [text] at place
  obtain ⟨s, doc, toTail, behind, ends⟩ := elem_word spelled.first place (n.breaks_tail breaks)
  obtain ⟨u, n', toEnd, bare, -, awaits⟩ :=
    name_read spelled (namesType_elemName _ doc hole) memberClosers_mem behind ends breaks
  refine ⟨u, .inr n', toTail.trans toEnd, congrArg Sum.inr bare,
    awaits.congr (fun _ => id) fun t closes => ?_⟩
  obtain ⟨at_, methods, embeds, outer⟩ := hole
  exact elemRead_after _ closes

theorem foldl_add_elems (pos : Position) (methods : List (MethodDecl TypeExpr)) (embeds : List TypeName)
    (items : List Elem) (outer : TypeHole) :
    items.foldl elemList.add (.elems pos methods embeds outer) =
      .elems pos (methods ++ items.filterMap Sum.getLeft?)
        (embeds ++ items.filterMap Sum.getRight?) outer := by
  induction items generalizing methods embeds with
  | nil => simp
  | cons x items ih =>
    cases x with
    | inl m =>
      have added : elemList.add (.elems pos methods embeds outer) (.inl m) =
          .elems pos (methods ++ [m]) embeds outer := rfl
      rw [List.foldl_cons, added, ih, List.append_assoc]
      rfl
    | inr n =>
      have added : elemList.add (.elems pos methods embeds outer) (.inr n) =
          .elems pos methods (embeds ++ [n]) outer := rfl
      rw [List.foldl_cons, added, ih, List.append_assoc]
      rfl

/-- Equal elements have equal methods and embed equal interfaces. -/
theorem elems_bare {methods : List (MethodDecl TypeExpr)} {embeds : List TypeName} {items : List Elem}
    (same : items.map Elem.bare = (methods.map Sum.inl ++ embeds.map Sum.inr).map Elem.bare) :
    (items.filterMap Sum.getLeft?).map MethodDecl.bare = methods.map MethodDecl.bare ∧
      (items.filterMap Sum.getRight?).map TypeName.bare = embeds.map TypeName.bare := by
  have lefts : ∀ xs : List Elem, (xs.map Elem.bare).filterMap Sum.getLeft? =
      (xs.filterMap Sum.getLeft?).map MethodDecl.bare := by
    intro xs
    rw [List.filterMap_map, List.map_filterMap]
    refine List.filterMap_congr fun x _ => ?_
    cases x <;> rfl
  have rights : ∀ xs : List Elem, (xs.map Elem.bare).filterMap Sum.getRight? =
      (xs.filterMap Sum.getRight?).map TypeName.bare := by
    intro xs
    rw [List.filterMap_map, List.map_filterMap]
    refine List.filterMap_congr fun x _ => ?_
    cases x <;> rfl
  rw [← lefts, ← rights, same, lefts, rights]
  simp [List.filterMap_append, List.filterMap_map, Function.comp_def]

theorem readsBack_interface {methods : List (MethodDecl TypeExpr)} {embeds : List TypeName}
    (names : ∀ m ∈ methods, IsName m.name) (params : ∀ m ∈ methods, Readable m.signature.params)
    (results : ∀ m ∈ methods, Readable m.signature.results)
    (fixed : ∀ m ∈ methods, ∀ p ∈ m.signature.results, p.variadic = false)
    (spelled : ∀ n ∈ embeds, n.Spelled) : ReadsBack (.interface pos methods embeds) := by
  intro r hole rest (begins : r.Begins hole .interfaceKeyword) text sound breaks
  have text : r.rest = "interface".toList ++ '{' ::
      ((elemList.joined (methods.map .inl ++ embeds.map .inr)).toList ++ '}' :: rest) := by
    have joined : "; ".intercalate (methodTexts methods ++ embeds.map TypeName.text) =
        elemList.joined (methods.map .inl ++ embeds.map .inr) := by
      rw [methodTexts_eq, Listing.joined, List.map_append, List.map_map, List.map_map]
      rfl
    rw [text, TypeExpr.text, joined]
    simp
  have solid : ∀ x ∈ methods.map Sum.inl ++ embeds.map Sum.inr, Solid (elemList.text x) := by
    intro x member
    rcases List.mem_append.mp member with inMethods | inEmbeds
    · obtain ⟨m, listed, rfl⟩ := List.mem_map.mp inMethods
      exact (names m listed).solid.append _
    · obtain ⟨n, listed, rfl⟩ := List.mem_map.mp inEmbeds
      exact (spelled n listed).solid
  have reads : ∀ x ∈ methods.map Sum.inl ++ embeds.map Sum.inr, elemList.Reads x := by
    intro x member
    rcases List.mem_append.mp member with inMethods | inEmbeds
    · obtain ⟨m, listed, rfl⟩ := List.mem_map.mp inMethods
      exact method_reads (names m listed) (params m listed) (results m listed) (fixed m listed)
    · obtain ⟨n, listed, rfl⟩ := List.mem_map.mp inEmbeds
      exact embed_reads (spelled n listed)
  obtain ⟨s, toBrace, behind⟩ := begins.keyword text sound (by decide) (by decide)
    (breaks_cons (by decide) _) rfl
  obtain ⟨u, toElems, behindBrace, -⟩ := leads_mark (t := .leftBrace) behind
    (Mode.unexpected rfl) (by decide) (Mode.expected rfl) rfl
  obtain ⟨v, items, toCloser, same, awaits⟩ := Listing.reads_all solid reads behindBrace
  rw [foldl_add_elems, List.nil_append, List.nil_append] at awaits
  obtain ⟨w, toEnd, behindElems, last⟩ := awaits.close (t := .rightBrace) (by decide) (by decide) rfl
  obtain ⟨sameMethods, sameEmbeds⟩ := elems_bare same
  refine ⟨w, .interface r.pos (items.filterMap Sum.getLeft?) (items.filterMap Sum.getRight?),
    ((toBrace.trans toElems).trans toCloser).trans toEnd, ?_, ends_of_last last rfl,
    behindElems.awaits (Mode.unexpected rfl) (Mode.expected_all rfl) fun _ _ _ => rfl⟩
  rw [TypeExpr.bare, TypeExpr.bare, bareMethods_eq, bareMethods_eq, sameMethods, sameEmbeds]

/-! ### All legible types -/

/-- Legible types without variadic results are read again. -/
theorem readsBack_legible {type : TypeExpr} (legible : type.Legible)
    (fixed : ∀ σ ∈ type.signatures, ∀ p ∈ σ.results, p.variadic = false) : ReadsBack type := by
  induction legible with
  | named spelled plain => exact readsBack_named spelled plain
  | pointer _ ih =>
    rw [TypeExpr.signatures] at fixed
    exact readsBack_pointer (ih fixed)
  | slice _ ih =>
    rw [TypeExpr.signatures] at fixed
    exact readsBack_slice (ih fixed)
  | array sized _ ih =>
    rw [TypeExpr.signatures] at fixed
    exact readsBack_array sized (ih fixed)
  | map _ _ ihKey ihValue =>
    rw [TypeExpr.signatures] at fixed
    exact readsBack_map (ihKey fun σ among => fixed σ (List.mem_append_left _ among))
      (ihValue fun σ among => fixed σ (List.mem_append_right _ among))
  | chan inner ih =>
    rw [TypeExpr.signatures] at fixed
    exact readsBack_chan inner.solid (ih fixed)
  | @func _ σ uniform params results ihParams ihResults =>
    rw [TypeExpr.signatures, paramSignatures_eq, paramSignatures_eq] at fixed
    have inParams : Readable σ.params := by
      refine ⟨uniform.params, params, fun p member => ihParams p member fun τ among => fixed τ ?_⟩
      exact List.mem_cons_of_mem _ (List.mem_append_left _ (List.mem_flatMap.mpr ⟨p, member, among⟩))
    have inResults : Readable σ.results := by
      refine ⟨uniform.results, results, fun p member => ihResults p member fun τ among => fixed τ ?_⟩
      exact List.mem_cons_of_mem _ (List.mem_append_right _ (List.mem_flatMap.mpr ⟨p, member, among⟩))
    exact readsBack_func inParams inResults (fixed σ List.mem_cons_self)
  | struct spelled types ih =>
    rw [TypeExpr.signatures, fieldSignatures_eq] at fixed
    exact readsBack_struct spelled types fun f member named =>
      ih f member named fun τ among => fixed τ (List.mem_flatMap.mpr ⟨f, member, among⟩)
  | @interface _ methods _ spelled params results embedded ihParams ihResults =>
    rw [TypeExpr.signatures, methodSignatures_eq] at fixed
    have fixed : ∀ m ∈ methods, ∀ τ ∈ m.signature ::
        (paramSignatures m.signature.params ++ paramSignatures m.signature.results),
        ∀ p ∈ τ.results, p.variadic = false :=
      fun m member τ among => fixed τ (List.mem_flatMap.mpr ⟨m, member, among⟩)
    simp only [paramSignatures_eq] at fixed
    have inParams : ∀ m ∈ methods, Readable m.signature.params := by
      intro m listed
      refine ⟨(spelled m listed).signature.params, params m listed,
        fun p member => ihParams m listed p member fun τ among => fixed m listed τ ?_⟩
      exact List.mem_cons_of_mem _ (List.mem_append_left _ (List.mem_flatMap.mpr ⟨p, member, among⟩))
    have inResults : ∀ m ∈ methods, Readable m.signature.results := by
      intro m listed
      refine ⟨(spelled m listed).signature.results, results m listed,
        fun p member => ihResults m listed p member fun τ among => fixed m listed τ ?_⟩
      exact List.mem_cons_of_mem _ (List.mem_append_right _ (List.mem_flatMap.mpr ⟨p, member, among⟩))
    exact readsBack_interface (fun m listed => (spelled m listed).name) inParams inResults
      (fun m listed => fixed m listed _ List.mem_cons_self) embedded

end GoIdl.Syntax.Parser
