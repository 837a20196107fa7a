import GoIdl.Proofs.Syntax.LegibleReading

/-!
# Steps of reading

What one token, or a blank, does to the place of reading. A word ends where no word character
follows; a sign is one character, whatever follows.
-/

namespace GoIdl.Syntax

/-! ### Scanning one token -/

/-- No word goes on with `rest`. -/
def Breaks (rest : List Char) : Prop := ∀ c ∈ rest.head?, Text.isWord c = false

/-- No comment starts with the character, and no pattern but that of operators. -/
def opensNothing (c : Char) : Bool :=
  !(c == '/' || c == '\'' || c == '"' || c == '`' || Text.isDecimal c || Text.isWordStart c)

def isSign (c : Char) : Bool := opensNothing c && !isLayout c && c != '\n'

/-- The signs of one character that start no other. -/
def signMarks : List (Char × Terminal) :=
  [(',', .comma), ('*', .star), (';', .semicolon), ('(', .leftParen), (')', .rightParen),
   ('[', .leftBracket), (']', .rightBracket), ('{', .leftBrace), ('}', .rightBrace)]

variable {accepted : List Terminal} {rest s : List Char} {c : Char} {t : Terminal} {word : String}

theorem run?_append_of {first more : Char → Bool} {inside : List Char} (starts : first c = true)
    (goes : ∀ d ∈ inside, more d = true) (ends : ∀ d ∈ rest.head?, more d = false) :
    run? first more (c :: (inside ++ rest)) = some (c :: inside, rest) := by
  rw [run?, if_pos starts, span_of_append goes ends]

theorem run?_eq_none {first more : Char → Bool} (other : first c = false) :
    run? first more (c :: rest) = none := by
  rw [run?, if_neg (by simp [other])]

theorem isWordStart_ne {d : Char} (starts : Text.isWordStart c = true)
    (other : Text.isWordStart d = false) : c ≠ d := by
  rintro rfl
  rw [starts] at other
  cases other

theorem comment?_eq_none (other : c ≠ '/') : comment? (c :: rest) = none := by
  unfold comment?
  split
  · rename_i same
    exact absurd (List.cons.inj same).1 other
  · rename_i same
    exact absurd (List.cons.inj same).1 other
  · rfl

theorem quotedLiteral?_eq_none {mark : Char} (other : c ≠ mark) :
    quotedLiteral? mark (c :: rest) = none := by
  simp [quotedLiteral?, other]

theorem rawLiteral?_eq_none (other : c ≠ '`') : rawLiteral? (c :: rest) = none := by
  unfold rawLiteral?
  split
  · rename_i same
    exact absurd (List.cons.inj same).1 other
  · rfl

/-- A word is scanned up to its end. It is a name unless it spells an accepted keyword. -/
theorem scan_word (noOperator : .operator ∉ accepted) (named : .name ∈ accepted) (isName : IsName word)
    (breaks : Breaks rest) :
    scan accepted (word.toList ++ rest) =
      some (.token (reading Terminal.keywords accepted word.toList .name) word.toList, rest) := by
  obtain ⟨c, more, spelled, starts, goes⟩ := isName.spelled
  have notDecimal : Text.isDecimal c = false := by
    simp only [Text.isWordStart, Bool.and_eq_true, Bool.not_eq_true'] at starts
    exact starts.2
  have matched : pattern? .name (c :: (more ++ rest)) = some (c :: more, rest) :=
    run?_append_of starts goes breaks
  have first : (patterned.filter accepted.contains).findSome?
      (fun t => (pattern? t (c :: (more ++ rest))).map (t, ·)) = some (.name, c :: more, rest) := by
    have others : ∀ t ∈ [Terminal.number, .rune, .string], pattern? t (c :: (more ++ rest)) = none := by
      intro t member
      simp only [List.mem_cons, List.not_mem_nil, or_false] at member
      rcases member with rfl | rfl | rfl
      · exact run?_eq_none notDecimal
      · rw [pattern?, quotedLiteral?_eq_none (isWordStart_ne starts (by decide))]
        rfl
      · exact quotedLiteral?_eq_none (isWordStart_ne starts (by decide))
    rw [List.findSome?_eq_some_iff]
    refine ⟨[Terminal.number, .rune, .string].filter accepted.contains, .name,
      [Terminal.rawString].filter accepted.contains, ?_, by rw [matched]; rfl, ?_⟩
    · have without : accepted.contains .operator = false := by simpa using noOperator
      have within : accepted.contains .name = true := by simpa using named
      rw [patterned, List.filter_cons_of_neg (without ▸ Bool.false_ne_true)]
      simp only [List.filter_cons, within]
      split <;> split <;> split <;> simp
    · intro t member
      rw [others t (List.mem_of_mem_filter member)]
      rfl
  rw [spelled, List.cons_append]
  unfold scan
  rw [comment?_eq_none (isWordStart_ne starts (by decide))]
  simp only [first]
  rfl

theorem patterns_eq_none (noOperator : .operator ∉ accepted) (plain : opensNothing c = true) :
    ((patterned.filter accepted.contains).findSome? fun t => (pattern? t (c :: rest)).map (t, ·)) =
      none := by
  simp only [opensNothing, Bool.not_eq_true', Bool.or_eq_false_iff, beq_eq_false_iff_ne] at plain
  obtain ⟨⟨⟨⟨⟨_, rune⟩, quote⟩, raw⟩, decimal⟩, starts⟩ := plain
  rw [List.findSome?_eq_none_iff]
  intro t member
  obtain ⟨listed, accepts⟩ := List.mem_filter.mp member
  have unmatched : pattern? t (c :: rest) = none := by
    simp only [patterned, List.mem_cons, List.not_mem_nil, or_false] at listed
    rcases listed with rfl | rfl | rfl | rfl | rfl | rfl
    · exact absurd (List.contains_iff_mem.mp accepts) noOperator
    · exact run?_eq_none decimal
    · rw [pattern?, quotedLiteral?_eq_none rune]
      rfl
    · exact quotedLiteral?_eq_none quote
    · exact run?_eq_none starts
    · exact rawLiteral?_eq_none raw
  rw [unmatched]
  rfl

theorem opensNothing_ne_slash (plain : opensNothing c = true) : c ≠ '/' := by
  rintro rfl
  exact absurd plain (by decide)

theorem scan_sign (noOperator : .operator ∉ accepted) (sign : isSign c = true) :
    scan accepted (c :: rest) = (spelled accepted).findSome? fun (word, t) =>
      if word.toList.isPrefixOf (c :: rest) then
        some (.token t word.toList, (c :: rest).drop word.toList.length)
      else none := by
  simp only [isSign, Bool.and_eq_true, Bool.not_eq_true', bne_iff_ne] at sign
  obtain ⟨⟨plain, layout⟩, line⟩ := sign
  unfold scan
  rw [comment?_eq_none (opensNothing_ne_slash plain)]
  simp only [patterns_eq_none noOperator plain, run?_eq_none layout]
  split
  · rename_i same
    exact absurd (List.cons.inj same).1 line
  · rfl

theorem mem_spelled (noOperator : .operator ∉ accepted) (accepts : t ∈ accepted)
    (member : (word, t) ∈ Terminal.signs ++ Terminal.brackets) : (word, t) ∈ spelled accepted := by
  have without : accepted.contains .operator = false := by simpa using noOperator
  rw [spelled, List.mem_filter, without]
  refine ⟨?_, by simpa using accepts⟩
  rw [List.append_assoc]
  exact List.mem_append_right _ member

theorem findSome?_spelled (member : (word, t) ∈ spelled accepted) (starts : word.toList <+: s)
    (only : ∀ entry ∈ spelled accepted, entry.1.toList <+: s → entry = (word, t)) :
    ((spelled accepted).findSome? fun (word, t) =>
      if word.toList.isPrefixOf s then
        some (Lexeme.token t word.toList, s.drop word.toList.length)
      else none) = some (.token t word.toList, s.drop word.toList.length) := by
  generalize spelled accepted = entries at member only
  induction entries with
  | nil => cases member
  | cons entry entries ih =>
    obtain ⟨other, u⟩ := entry
    rw [List.findSome?_cons]
    dsimp only
    by_cases here : other.toList <+: s
    · cases only _ List.mem_cons_self here
      rw [if_pos (List.isPrefixOf_iff_prefix.mpr here)]
    · have different : (word, t) ≠ (other, u) := by
        rintro ⟨⟩
        exact here starts
      rw [if_neg (by rwa [List.isPrefixOf_iff_prefix])]
      exact ih ((List.mem_cons.mp member).resolve_left different)
        fun other among => only other (List.mem_cons_of_mem _ among)

/-- A spelling that a text starts with starts with the text's first character. -/
theorem head_of_spelled {entry : String × Terminal} (member : entry ∈ spelled accepted)
    (starts : entry.1.toList <+: c :: rest) : entry.1.toList.head? = some c := by
  have filled : ∀ entry ∈ Terminal.keywords ++ Terminal.signs ++ Terminal.brackets,
      entry.1.toList ≠ [] := by
    decide
  obtain ⟨more, same⟩ := starts
  cases letters : entry.1.toList with
  | nil => exact absurd letters (filled entry (mem_of_spelled member))
  | cons d inside =>
    rw [letters] at same
    rw [List.head?_cons, (List.cons.inj same).1]

theorem scan_mark (noOperator : .operator ∉ accepted) (accepts : t ∈ accepted)
    (mark : (c, t) ∈ signMarks) : scan accepted (c :: rest) = some (.token t [c], rest) := by
  have facts : ∀ mark ∈ signMarks, isSign mark.1 = true ∧
      (String.singleton mark.1, mark.2) ∈ Terminal.signs ++ Terminal.brackets ∧
      ∀ entry ∈ Terminal.keywords ++ Terminal.signs ++ Terminal.brackets,
        entry.1.toList.head? = some mark.1 → entry = (String.singleton mark.1, mark.2) := by
    decide
  obtain ⟨sign, member, unique⟩ := facts _ mark
  have starts : (String.singleton c).toList <+: c :: rest := ⟨rest, by simp⟩
  have found := findSome?_spelled (mem_spelled noOperator accepts member) starts
    fun entry listed begins => unique entry (mem_of_spelled listed) (head_of_spelled listed begins)
  rw [scan_sign noOperator sign, found]
  simp

/-- A dot with no dot behind it. -/
theorem scan_dot (noOperator : .operator ∉ accepted) (accepts : .dot ∈ accepted) (alone : c ≠ '.') :
    scan accepted ('.' :: c :: rest) = some (.token .dot ['.'], c :: rest) := by
  have unique : ∀ entry ∈ Terminal.keywords ++ Terminal.signs ++ Terminal.brackets,
      entry.1.toList.head? = some '.' → entry = ("...", .ellipsis) ∨ entry = (".", .dot) := by
    decide
  have member : (".", .dot) ∈ spelled accepted := mem_spelled noOperator accepts (by decide)
  have starts : ".".toList <+: '.' :: c :: rest := ⟨c :: rest, rfl⟩
  rw [scan_sign noOperator (by decide), findSome?_spelled member starts]
  · rfl
  · intro entry listed begins
    rcases unique entry (mem_of_spelled listed) (head_of_spelled listed begins) with rfl | rfl
    · obtain ⟨more, same⟩ := begins
      exact absurd (List.cons.inj (List.cons.inj same).2).1.symm alone
    · rfl

theorem scan_blank (noOperator : .operator ∉ accepted) (solid : ∀ c ∈ rest.head?, isLayout c = false) :
    scan accepted (' ' :: rest) = some (.layout [' '], rest) := by
  have blank : run? isLayout isLayout (' ' :: ([] ++ rest)) = some ([' '], rest) :=
    run?_append_of (by decide) (by simp) solid
  rw [List.nil_append] at blank
  unfold scan
  rw [comment?_eq_none (by decide)]
  simp only [patterns_eq_none noOperator (show opensNothing ' ' = true by decide), blank]

theorem scan_newline (noOperator : .operator ∉ accepted) :
    scan accepted ('\n' :: rest) = some (.token .newline ['\n'], rest) := by
  unfold scan
  rw [comment?_eq_none (by decide)]
  simp only [patterns_eq_none noOperator (show opensNothing '\n' = true by decide),
    run?_eq_none (show isLayout '\n' = false by decide)]

theorem reading_eq_name (free : ∀ entry ∈ Terminal.keywords, entry.2 ∈ accepted → entry.1 ≠ word) :
    reading Terminal.keywords accepted word.toList .name = .name := by
  unfold reading
  have absent : (Terminal.keywords.find? fun (other, t) =>
      other.toList == word.toList && accepted.contains t) = none := by
    rw [List.find?_eq_none]
    rintro ⟨other, u⟩ member held
    simp only [Bool.and_eq_true, beq_iff_eq, List.contains_iff_mem] at held
    exact free _ member held.2 (String.toList_inj.mp held.1)
  rw [absent]

theorem reading_keyword (keyword : (word, t) ∈ Terminal.keywords) (accepts : t ∈ accepted) :
    reading Terminal.keywords accepted word.toList .name = t := by
  have unique : ∀ e ∈ Terminal.keywords, ∀ f ∈ Terminal.keywords, e.1 = f.1 → e.2 = f.2 := by decide
  unfold reading
  split
  · rename_i other u found
    have held := List.find?_some found
    simp only [Bool.and_eq_true, beq_iff_eq] at held
    exact unique _ (List.mem_of_find?_eq_some found) _ keyword (String.toList_inj.mp held.1)
  · rename_i absent
    have missed := List.find?_eq_none.mp absent _ keyword
    simp [accepts] at missed

theorem scan_length (length : IsLength word) :
    ∃ t, (t = .name ∨ t = .number) ∧
      scan [.name, .number, .rightBracket] (word.toList ++ ']' :: rest) =
        some (.token t word.toList, ']' :: rest) := by
  cases length with
  | name isName =>
    refine ⟨.name, .inl rfl, ?_⟩
    have breaks : Breaks (']' :: rest) := by
      rintro c ⟨⟩
      rfl
    have noKeyword : ∀ entry ∈ Terminal.keywords, entry.2 ∉ [Terminal.name, .number, .rightBracket] := by
      decide
    rw [scan_word (by decide) (by decide) isName breaks, reading_eq_name]
    exact fun entry keyword accepts => absurd accepts (noKeyword entry keyword)
  | number spelled =>
    refine ⟨.number, .inr rfl, ?_⟩
    obtain ⟨c, more, letters, starts, goes⟩ := spelled
    have slash : c ≠ '/' := by
      rintro rfl
      exact absurd starts (by decide)
    have ends : ∀ d ∈ (']' :: rest).head?, isNumberRest d = false := by
      rintro d ⟨⟩
      rfl
    have matched : pattern? .number (c :: (more ++ ']' :: rest)) = some (c :: more, ']' :: rest) :=
      run?_append_of starts goes ends
    have first : (patterned.filter [Terminal.name, .number, .rightBracket].contains).findSome?
        (fun t => (pattern? t (c :: (more ++ ']' :: rest))).map (t, ·)) =
          some (.number, c :: more, ']' :: rest) := by
      have only : patterned.filter [Terminal.name, .number, .rightBracket].contains =
          [.number, .name] := by
        decide
      rw [only, List.findSome?_cons, matched]
      rfl
    rw [letters, List.cons_append]
    unfold scan
    rw [comment?_eq_none slash]
    simp only [first]
    rfl

/-! ### From place to place -/

namespace Parser

namespace Mode

variable {mode : Mode}

theorem expected (listed : mode.expects.contains t = true) : t ∈ mode.expects :=
  List.contains_iff_mem.mp listed

theorem expected_all {ts : List Terminal} (listed : ts.all mode.expects.contains = true) :
    ∀ t ∈ ts, t ∈ mode.expects := fun t member => expected (List.all_eq_true.mp listed t member)

theorem unexpected (absent : mode.expects.contains t = false) : t ∉ mode.expects := by
  intro member
  rw [List.contains_iff_mem.mpr member] at absent
  cases absent

end Mode

namespace Reading

/-- Some steps lead from one place to the other, and each takes characters off. -/
inductive Leads : Reading → Reading → Prop where
  | refl (r : Reading) : Leads r r
  | step {r s u : Reading} (shorter : s.rest.length < r.rest.length) (stepped : r.step = .ok s)
      (later : Leads s u) : Leads r u

theorem Leads.trans {r s u : Reading} (first : r.Leads s) (second : s.Leads u) : r.Leads u := by
  induction first with
  | refl => exact second
  | step shorter stepped _ ih => exact .step shorter stepped (ih second)

theorem Leads.run {fuel : Nat} {r s : Reading} (leads : r.Leads s) (done : s.rest = [])
    (enough : r.rest.length ≤ fuel) : r.run fuel = .ok s := by
  induction leads generalizing fuel with
  | refl r =>
    cases fuel with
    | zero => rfl
    | succ fuel => simp [Reading.run, done]
  | @step r s u shorter stepped _ ih =>
    obtain ⟨fuel, rfl⟩ := Nat.exists_eq_add_one.mpr (by omega : 0 < fuel)
    have more : r.rest.isEmpty = false := by
      rw [List.isEmpty_eq_false_iff, ← List.length_pos_iff]
      omega
    rw [Reading.run, more, stepped]
    exact ih done (by omega)

/-- What is known of a place while nothing has gone wrong. -/
structure At (mode : Mode) (rest : List Char) (r : Reading) : Prop where
  mode : r.mode = mode
  rest : r.rest = rest
  sound : r.fault = none

variable {r : Reading} {mode next : Mode} {s rest text : List Char} {t : Terminal} {c : Char}
  {word : String}

theorem leads_token (place : r.At mode s) (scanned : scan mode.expects s = some (.token t text, rest))
    (filled : text ≠ []) (other : t ≠ .newline) (expected : t ∈ mode.expects)
    (taken : accept (Comment.above r.comments) ⟨t, String.ofList text, r.pos⟩ mode = goto next) :
    ∃ r', r.Leads r' ∧ r'.At next rest ∧ r'.last = some ⟨t, String.ofList text, r.pos⟩ := by
  have stands : afterToken r.last ⟨t, String.ofList text, r.pos⟩ =
      some ⟨t, String.ofList text, r.pos⟩ := by
    rw [afterToken, if_neg other]
  have advanced : advance (Comment.above r.comments) r.mode ⟨t, String.ofList text, r.pos⟩ =
      goto next := by
    rw [place.mode, advance, if_pos (List.contains_iff_mem.mpr expected), taken]
  let behind : Reading :=
    { r with mode := next, fault := none, last := some ⟨t, String.ofList text, r.pos⟩ }
  have stepped : r.step = .ok (behind.move text rest) := by
    unfold Reading.step
    rw [place.mode, place.rest, scanned]
    simp only [emit, stands, feed, advanced, goto, place.sound]
    rfl
  have positive : 0 < text.length := List.length_pos_iff.mpr filled
  refine ⟨_, .step ?_ stepped (.refl _), ⟨rfl, rfl, rfl⟩, rfl⟩
  rw [place.rest, scan_append scanned]
  simp only [move, Lexeme.text, List.length_append]
  omega

theorem leads_word (place : r.At mode (word.toList ++ rest)) (noOperator : .operator ∉ mode.expects)
    (named : .name ∈ mode.expects) (isName : IsName word)
    (free : ∀ entry ∈ Terminal.keywords, entry.2 ∈ mode.expects → entry.1 ≠ word) (breaks : Breaks rest)
    (taken : accept (Comment.above r.comments) ⟨.name, word, r.pos⟩ mode = goto next) :
    ∃ r', r.Leads r' ∧ r'.At next rest ∧ r'.last = some ⟨.name, word, r.pos⟩ := by
  have scanned := scan_word noOperator named isName breaks
  rw [reading_eq_name free] at scanned
  obtain ⟨c, more, letters, -⟩ := isName.spelled
  have filled : word.toList ≠ [] := by simp [letters]
  rw [← @String.ofList_toList word] at taken ⊢
  simpa using leads_token place scanned filled (by decide) named (by simpa using taken)

theorem leads_keyword (place : r.At mode (word.toList ++ rest)) (noOperator : .operator ∉ mode.expects)
    (named : .name ∈ mode.expects) (keyword : (word, t) ∈ Terminal.keywords) (expected : t ∈ mode.expects)
    (breaks : Breaks rest)
    (taken : accept (Comment.above r.comments) ⟨t, word, r.pos⟩ mode = goto next) :
    ∃ r', r.Leads r' ∧ r'.At next rest := by
  have words : ∀ entry ∈ Terminal.keywords, entry.2 ≠ .newline ∧ IsName entry.1 := by decide
  obtain ⟨other, isName⟩ := words _ keyword
  have scanned := scan_word noOperator named isName breaks
  rw [reading_keyword keyword expected] at scanned
  obtain ⟨c, more, letters, -⟩ := isName.spelled
  have filled : word.toList ≠ [] := by simp [letters]
  obtain ⟨r', leads, after, -⟩ := leads_token place scanned filled other expected (by simpa using taken)
  exact ⟨r', leads, after⟩

theorem leads_mark (place : r.At mode (c :: rest)) (noOperator : .operator ∉ mode.expects)
    (mark : (c, t) ∈ signMarks) (expected : t ∈ mode.expects)
    (taken : accept (Comment.above r.comments) ⟨t, String.ofList [c], r.pos⟩ mode = goto next) :
    ∃ r', r.Leads r' ∧ r'.At next rest ∧ r'.last = some ⟨t, String.ofList [c], r.pos⟩ := by
  have other : ∀ mark ∈ signMarks, mark.2 ≠ .newline := by decide
  exact leads_token place (scan_mark noOperator expected mark) (by simp) (other _ mark) expected taken

theorem leads_blank (place : r.At mode (' ' :: rest)) (noOperator : .operator ∉ mode.expects)
    (solid : ∀ c ∈ rest.head?, isLayout c = false) :
    ∃ r', r.Leads r' ∧ r'.At mode rest ∧ r'.last = r.last := by
  have stepped : r.step = .ok (r.move [' '] rest) := by
    unfold Reading.step
    rw [place.mode, place.rest, scan_blank noOperator solid]
  refine ⟨_, .step ?_ stepped (.refl _), ⟨place.mode, rfl, place.sound⟩, rfl⟩
  rw [place.rest]
  exact Nat.lt_succ_self _

/-- A line break after a token that ends a statement is a semicolon. -/
theorem leads_newline (place : r.At mode ('\n' :: rest)) (noOperator : .operator ∉ mode.expects)
    (ends : r.last.any Token.endsStatement = true) (expected : .semicolon ∈ mode.expects)
    (taken : accept (Comment.above r.comments) (semicolonAt r.pos) mode = goto next) :
    ∃ r', r.Leads r' ∧ r'.At next rest ∧ r'.last = some (semicolonAt r.pos) := by
  have stands : afterToken r.last ⟨.newline, String.ofList ['\n'], r.pos⟩ = some (semicolonAt r.pos) := by
    rw [afterToken, if_pos rfl, if_pos ends]
  have advanced : advance (Comment.above r.comments) r.mode (semicolonAt r.pos) = goto next := by
    have listed : mode.expects.contains (semicolonAt r.pos).terminal = true :=
      List.contains_iff_mem.mpr expected
    rw [place.mode, advance, if_pos listed, taken]
  have stepped : r.step = .ok (({ r with
      mode := next, fault := none, last := some (semicolonAt r.pos) } : Reading).move ['\n'] rest) := by
    unfold Reading.step
    rw [place.mode, place.rest, scan_newline noOperator]
    simp only [emit, stands, feed, advanced, goto, place.sound]
    rfl
  refine ⟨_, .step ?_ stepped (.refl _), ⟨rfl, rfl, rfl⟩, rfl⟩
  rw [place.rest]
  exact Nat.lt_succ_self _

end Reading

end Parser

end GoIdl.Syntax
