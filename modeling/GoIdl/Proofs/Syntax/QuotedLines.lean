import GoIdl.Proofs.Syntax.Semicolons
import GoIdl.Proofs.Syntax.Standing
import GoIdl.Proofs.Text.Lines
import GoIdl.Syntax.Source

/-!
# Quoted lines

The reader counts line feeds; a message takes its lines from the text cut at every line end. It quotes
the line of the error where nothing but line feeds, with carriage returns before them, ends a line up
to there. A form feed or another line end in a line above makes it quote a line above instead.
-/

namespace GoIdl.Syntax

variable {source : List Char} {pos : Position} {r r' : Parser.Reading} {fault : Parser.SyntaxFault}

/-! ### Where faults stand -/

/-- A position of this source. -/
def Position.In (source : List Char) (pos : Position) : Prop :=
  ∃ before, before <+: source ∧ pos = .behind before

namespace Parser.Reading

variable {t u : Token}

/-- Tokens and the reading itself are at positions of the source. -/
structure Traced (source : List Char) (r : Reading) : Prop where
  within : r.Within source
  last : ∀ t ∈ r.last, t.pos.In source

theorem Within.pos_in (within : r.Within source) : r.pos.In source := by
  obtain ⟨before, whole, pos, -⟩ := within.read
  exact ⟨before, ⟨r.rest, whole.symm⟩, pos⟩

theorem feed_fault (fed : r.feed t = .error fault) : fault.pos = t.pos := by
  unfold feed at fed
  split at fed <;> cases fed
  rfl

theorem afterToken_pos {last : Option Token} (stands : afterToken last t = some u) : u.pos = t.pos := by
  unfold afterToken at stands
  split at stands
  · split at stands <;> cases stands
    rfl
  · cases stands
    rfl

theorem emit_fault (fed : r.emit t = .error fault) : fault.pos = t.pos := by
  unfold emit at fed
  split at fed
  · rename_i stands
    rw [feed_fault fed, afterToken_pos stands]
  · cases fed

theorem stray_pos (r : Reading) (c : Char) : (r.stray c).pos = r.pos := by
  unfold stray
  split <;> rfl

theorem step_fault (failed : r.step = .error fault) : fault.pos = r.pos := by
  unfold step at failed
  split at failed
  · cases failed
  · cases failed
  · rcases bind_eq_error.mp failed with refused | ⟨_, _, done⟩
    · exact emit_fault refused
    · cases done
  · split at failed
    · cases failed
    · cases failed
      exact stray_pos r _

namespace Traced

theorem start (source : List Char) : (Reading.start source).Traced source :=
  ⟨.start source, nofun⟩

theorem feed (traced : r.Traced source) (placed : t.pos.In source) (fed : r.feed t = .ok r') :
    r'.Traced source := by
  refine ⟨?_, fun u listed => ?_⟩
  · rw [feed_same fed]
    exact ⟨traced.within.read, traced.within.comments⟩
  · rw [feed_last fed] at listed
    exact Option.mem_some.mp listed ▸ placed

theorem emit (traced : r.Traced source) (placed : t.pos.In source) (emitted : r.emit t = .ok r') :
    r'.Traced source := by
  cases emits_of_ok emitted with
  | token _ fed => exact traced.feed placed fed
  | semicolon _ fed =>
    have here : (semicolonAt t.pos).pos.In source := placed
    exact traced.feed here fed
  | nothing => exact traced

theorem steps (traced : r.Traced source) (step : r.Steps r') : r'.Traced source := by
  refine ⟨traced.within.steps step, ?_⟩
  cases step with
  | token found emitted => exact (traced.emit traced.within.pos_in emitted).last
  | _ => exact traced.last

theorem run {fuel : Nat} (traced : r.Traced source) (ran : r.run fuel = .ok r') : r'.Traced source :=
  run_keeps _ (fun _ _ held step => held.steps step) traced ran

theorem run_fault {fuel : Nat} (traced : r.Traced source) (failed : r.run fuel = .error fault) :
    fault.pos.In source := by
  induction fuel generalizing r with
  | zero => cases failed
  | succ fuel ih =>
    unfold Reading.run at failed
    split at failed
    · cases failed
    · rcases bind_eq_error.mp failed with refused | ⟨next, stepped, later⟩
      · rw [step_fault refused]
        exact traced.within.pos_in
      · exact ih (traced.steps (steps_of_ok stepped)) later

theorem endToken_in (traced : r.Traced source) : r.endToken.pos.In source := by
  cases known : r.last with
  | none =>
    rw [endToken, known]
    exact ⟨[], List.nil_prefix, rfl⟩
  | some t =>
    rw [endToken, known]
    exact traced.last t known

theorem atEnd_in (traced : r.Traced source) (stands : atEnd r.last = some t) : t.pos.In source := by
  obtain ⟨last, known, rfl⟩ := Option.map_eq_some_iff.mp stands
  exact traced.last last (Option.mem_def.mpr (Option.filter_eq_some_iff.mp known).1)

/-- The end is read after the semicolon that it may stand for. -/
theorem finish_cases (traced : r.Traced source) :
    (∃ closed : Reading, r.finish = closed.feed closed.endToken ∧ closed.Traced source) ∨
      ∃ fault, r.finish = .error fault ∧ fault.pos.In source := by
  unfold finish
  cases stands : atEnd r.last with
  | none => exact .inl ⟨r, rfl, traced⟩
  | some t =>
    have placed := traced.atEnd_in stands
    cases fed : r.feed t with
    | ok closed => exact .inl ⟨closed, by simp [fed, bind, Except.bind], traced.feed placed fed⟩
    | error fault =>
      exact .inr ⟨fault, by simp [fed, bind, Except.bind], feed_fault fed ▸ placed⟩

theorem finish (traced : r.Traced source) (read : r.finish = .ok r') : r'.Traced source := by
  rcases traced.finish_cases with ⟨closed, same, traced⟩ | ⟨fault, failed, -⟩
  · exact traced.feed traced.endToken_in (same.symm.trans read)
  · rw [failed] at read
    cases read

theorem finish_fault (traced : r.Traced source) (failed : r.finish = .error fault) :
    fault.pos.In source := by
  rcases traced.finish_cases with ⟨closed, same, traced⟩ | ⟨other, failed', placed⟩
  · rw [feed_fault (same.symm.trans failed)]
    exact traced.endToken_in
  · rw [failed'] at failed
    cases failed
    exact placed

end Traced

end Parser.Reading

/-- A text is refused at a position in it. -/
theorem Parser.parse_fault (failed : parse source = .error fault) : fault.pos.In source := by
  rcases bind_eq_error.mp failed with failed | ⟨read, ran, failed⟩
  · exact (Reading.Traced.start source).run_fault failed
  have traced := (Reading.Traced.start source).run ran
  rcases bind_eq_error.mp failed with failed | ⟨closed, finished, failed⟩
  · exact traced.finish_fault failed
  split at failed
  · cases failed
  · cases failed
  · cases failed
    exact (traced.finish finished).endToken_in

/-! ### Lines by number -/

theorem exists_line (placed : pos.In source) : ∃ above line below,
    Text.splitOn '\n' source = above ++ line :: below ∧ pos.line = above.length + 1 := by
  obtain ⟨before, upTo, rfl⟩ := placed
  have inside : before.count '\n' < (Text.splitOn '\n' source).length := by
    rw [Text.length_splitOn]
    exact Nat.lt_succ_of_le (upTo.sublist.count_le '\n')
  generalize Text.splitOn '\n' source = pieces at inside ⊢
  refine ⟨pieces.take (before.count '\n'), pieces[before.count '\n'], pieces.drop (before.count '\n' + 1), ?_, ?_⟩
  · rw [List.getElem_cons_drop inside, List.take_append_drop]
  · rw [List.length_take_of_le inside.le]
    rfl

namespace Diagnosis

open GoIdl.Text (PlainLine isLineEnd withoutReturn)
open GoIdl.Syntax.Parser (SyntaxFault)

variable {above below : List (List Char)} {line : List Char}

theorem lineAt_succ (source : List Char) (n : Nat) :
    lineAt source (n + 1 : Nat) = (Text.lines source)[n]?.getD [] := by
  have index : (((n + 1 : Nat) : Int) - 1).toNat = n := by omega
  rw [lineAt, if_pos (by omega), index]

/-- The lines above a line of the source are cut further, each for itself. -/
theorem lines_of_splitOn (pieces : Text.splitOn '\n' source = above ++ line :: below) :
    ∃ rest, (∀ c ∈ rest.head?, c = '\n') ∧ Text.lines source =
      above.flatMap (fun earlier => Text.lines (earlier ++ ['\n'])) ++ Text.lines (line ++ rest) := by
  obtain ⟨rest, next, whole⟩ := Text.exists_joinWith_append '\n' above line below
  refine ⟨rest, next, ?_⟩
  rw [← Text.lines_flatMap_feed, ← whole, ← pieces, Text.joinWith_splitOn]

theorem lineAt_of_plain (pieces : Text.splitOn '\n' source = above ++ line :: below)
    (plain : ∀ earlier ∈ above, PlainLine earlier) :
    lineAt source (above.length + 1 : Nat) = line.takeWhile (!isLineEnd ·) := by
  obtain ⟨rest, next, whole⟩ := lines_of_splitOn pieces
  have one : above.flatMap (fun earlier => Text.lines (earlier ++ ['\n'])) = above.map withoutReturn := by
    rw [List.flatMap_congr fun earlier listed => Text.lines_of_plain (plain earlier listed),
      List.map_eq_flatMap]
  have stops : rest.takeWhile (!isLineEnd ·) = [] := by
    cases rest with
    | nil => rfl
    | cons c rest =>
      rw [next c rfl]
      rfl
  rw [lineAt_succ, whole, one, List.getElem?_append_right (by simp), List.length_map, Nat.sub_self,
    Text.head_lines, List.takeWhile_append]
  split
  · rename_i all
    rw [stops, List.append_nil, List.IsPrefix.eq_of_length (List.takeWhile_prefix _) all]
  · rfl

theorem lineAt_of_not_plain (pieces : Text.splitOn '\n' source = above ++ line :: below)
    (other : ∃ earlier ∈ above, ¬ PlainLine earlier) :
    ∃ earlier ∈ above, lineAt source (above.length + 1 : Nat) ∈ Text.lines (earlier ++ ['\n']) := by
  obtain ⟨rest, -, whole⟩ := lines_of_splitOn pieces
  have single : ∀ earlier ∈ above, '\n' ∉ earlier := fun earlier listed =>
    Text.not_mem_of_mem_splitOn (pieces ▸ List.mem_append_left _ listed)
  have some : ∀ earlier : List Char, 1 ≤ (Text.lines (earlier ++ ['\n'])).length := fun earlier =>
    List.length_pos_of_ne_nil (Text.lines_ne_nil (by simp))
  have enough : ∀ pieces : List (List Char),
      pieces.length ≤ (pieces.flatMap fun earlier => Text.lines (earlier ++ ['\n'])).length := by
    intro pieces
    induction pieces with
    | nil => exact Nat.zero_le _
    | cons piece pieces ih =>
      have here := some piece
      rw [List.flatMap_cons, List.length_append, List.length_cons]
      omega
  have inside : above.length <
      (above.flatMap fun earlier => Text.lines (earlier ++ ['\n'])).length := by
    obtain ⟨earlier, listed, other⟩ := other
    have several := Text.length_lines_of_not_plain (single earlier listed) other
    obtain ⟨first, last, rfl⟩ := List.append_of_mem listed
    have before := enough first
    have behind := enough last
    rw [List.flatMap_append, List.flatMap_cons, List.length_append, List.length_append,
      List.length_append, List.length_cons]
    omega
  rw [lineAt_succ, whole, List.getElem?_append_left inside, List.getElem?_eq_getElem inside,
    Option.getD_some]
  exact List.mem_flatMap.mp (List.getElem_mem inside)

/-! ### Messages by the line that they quote -/

/-- The lines on either side of a line, if the text has both. -/
def neighbours (source : List Char) (line : Nat) : Option (List Char × List Char) :=
  if 1 < line ∧ line < (Text.lines source).length then
    some (lineAt source (line - 1), lineAt source (line + 1))
  else none

/-- A line under a mark between its neighbours, or on its own. -/
def quotation (line : List Char) : Option (List Char × List Char) → String
  | some (above, below) =>
    "\nContexto:\n" ++ s!"   {String.ofList above}\n" ++ s!">>> {String.ofList line}\n" ++
      s!"   {String.ofList below}\n"
  | none => s!"    {String.ofList line}\n"

/-- The message of a fault on a line. The rest of the source does not matter. -/
def explained (line : List Char) (around : Option (List Char × List Char)) : SyntaxFault → String
  | .unexpectedCharacter c pos =>
    s!"Caractere inesperado {Text.quoted (String.singleton c)}\n" ++
      s!"    {String.ofList line}\n    {marker pos.column} aqui\n" ++
      "\nVerifique:\n  - Aspas ou crases abertas mas nao fechadas\n" ++
      "  - Caracteres que nao existem na sintaxe de Go"
  | .unexpectedToken t expected =>
    match suggestion? line t with
    | some best => misspelt line t.text best
    | none =>
      if isGeneric line then generic line t.pos.column
      else if expected.contains .packageKeyword then missingPackage line
      else if hasDirection line then direction line t.pos.column
      else
        let shown := if t.terminal = .endOfInput then "<EOF>" else Text.quoted t.text
        Text.onString (Text.dropEndWhile (· == '\n'))
          (s!"Token inesperado {shown}\n" ++ quotation line around ++ expectedText (labels expected))

/-- The context of a line holds it between its neighbours, or less than three lines. -/
theorem context_cases (source : List Char) (line : Nat) :
    (context source line 1).length < 3 ∧ neighbours source line = none ∨
      ∃ above below, neighbours source line = some (above, below) ∧
        context source line 1 = [above, lineAt source line, below] := by
  have whole : context source line 1 =
      ((Text.lines source).take (min (Text.lines source).length (line + 1))).drop (line - 2) := by
    have start : (max (0 : Int) ((line : Int) - 1 - 1)).toNat = line - 2 := by omega
    have stop : (min ((Text.lines source).length : Int) ((line : Int) - 1 + 1 + 1)).toNat =
        min (Text.lines source).length (line + 1) := by omega
    unfold context slice
    dsimp only
    rw [if_neg (by omega), start, stop]
  unfold neighbours
  split
  · rename_i inside
    obtain ⟨n, rfl⟩ : ∃ n, line = n + 2 := ⟨line - 2, by omega⟩
    refine .inr ⟨_, _, rfl, ?_⟩
    have first : ((n + 2 : Nat) : Int) - 1 = (n + 1 : Nat) := by omega
    have third : ((n + 2 : Nat) : Int) + 1 = (n + 2 + 1 : Nat) := by omega
    have all : n + 3 ≤ (Text.lines source).length := by omega
    have read : ∀ i (inside : i < (Text.lines source).length),
        (Text.lines source)[i]?.getD [] = (Text.lines source)[i] := fun i inside => by
      rw [List.getElem?_eq_getElem inside, Option.getD_some]
    have three : n + 2 + 1 - n = 3 := by omega
    rw [first, third, lineAt_succ, lineAt_succ, lineAt_succ, read n (by omega), read (n + 1) (by omega),
      read (n + 2) (by omega), whole, Nat.min_eq_right all, List.drop_take, Nat.add_sub_cancel, three,
      List.drop_eq_getElem_cons (by omega), List.drop_eq_getElem_cons (by omega),
      List.drop_eq_getElem_cons (by omega)]
    rfl
  · rename_i outside
    refine .inl ⟨?_, rfl⟩
    rw [whole, List.length_drop, List.length_take]
    omega

theorem contextText_eq (above line below : List Char) :
    "\nContexto:\n" ++ contextText [above, line, below] = quotation line (some (above, below)) := by
  have outer : ∀ s, toString "  " ++ (toString " " ++ s) = toString "   " ++ s := fun s => by
    rw [← String.append_assoc]
    rfl
  have inner : ∀ s, toString ">>>" ++ (toString " " ++ s) = toString ">>> " ++ s := fun s => by
    rw [← String.append_assoc]
    rfl
  simp only [contextText, quotation, String.join, List.map, List.foldl, outer, inner, String.append_assoc,
    String.empty_append]

/-- A message depends on the source through the line that it quotes and its neighbours only. -/
theorem message_eq (source : List Char) (fault : SyntaxFault) :
    message source fault =
      explained (lineAt source fault.pos.line) (neighbours source fault.pos.line) fault := by
  cases fault with
  | unexpectedCharacter c pos => rfl
  | unexpectedToken t expected =>
    have body : (if 3 ≤ (context source t.pos.line 1).length
          then "\nContexto:\n" ++ contextText (context source t.pos.line 1)
          else s!"    {String.ofList (lineAt source t.pos.line)}\n") =
        quotation (lineAt source t.pos.line) (neighbours source t.pos.line) := by
      rcases context_cases source t.pos.line with ⟨few, none⟩ | ⟨above, below, some, all⟩
      · rw [if_neg (Nat.not_le.mpr few), none]
        rfl
      · rw [all, some, if_pos (by exact Nat.le_refl 3)]
        exact contextText_eq ..
    unfold message explained unexpected
    dsimp only
    rw [body]
    rfl

/-- An error stands on a line of the source. If all lines above are plain, the message quotes this line
up to its first line end, and so the whole line, a carriage return at its end apart, if it is plain
too. Otherwise it quotes a part of a line above. -/
theorem quotes_line {path : Disk.Path} {text : String} {failure : Failure}
    (rejected : Source.parse path text = .error failure) :
    let source := Parser.withoutMark text.toList
    ∃ fault above line below, failure = Source.syntaxFailure path.text source fault ∧
      Text.splitOn '\n' source = above ++ line :: below ∧ fault.pos.line = above.length + 1 ∧
      (Cause.badSyntax fault source).message =
        explained (lineAt source fault.pos.line) (neighbours source fault.pos.line) fault ∧
      ((∀ earlier ∈ above, PlainLine earlier) →
        lineAt source fault.pos.line = line.takeWhile (!isLineEnd ·) ∧
        (lineAt source fault.pos.line = withoutReturn line ↔ PlainLine line)) ∧
      ((∃ earlier ∈ above, ¬ PlainLine earlier) →
        ∃ earlier ∈ above, lineAt source fault.pos.line ∈ Text.lines (earlier ++ ['\n'])) := by
  intro source
  obtain ⟨fault, failed, rfl⟩ := mapError_eq_error.mp rejected
  obtain ⟨above, line, below, pieces, number⟩ := exists_line (Parser.parse_fault failed)
  refine ⟨fault, above, line, below, rfl, pieces, number, message_eq source fault, ?_, ?_⟩
  · intro plain
    rw [number, lineAt_of_plain pieces plain]
    exact ⟨rfl, Text.takeWhile_eq_withoutReturn⟩
  · intro other
    rw [number]
    exact lineAt_of_not_plain pieces other

/-- How a text is refused. -/
def fault? (source : List Char) : Option SyntaxFault :=
  match Parser.parse source with
  | .ok _ => none
  | .error fault => some fault

theorem parse_of_fault (path : Disk.Path) {text : String} {fault : SyntaxFault}
    (known : fault? (Parser.withoutMark text.toList) = some fault) : Source.parse path text =
      .error (Source.syntaxFailure path.text (Parser.withoutMark text.toList) fault) := by
  unfold fault? at known
  rw [Source.parse]
  split at known
  · cases known
  · rename_i failed
    cases known
    rw [failed]
    rfl

/-- Carriage returns before the line feeds are left out. -/
theorem quotes_line_closed :
    let source := "package p\r\n$\r\n".toList
    let fault := SyntaxFault.unexpectedCharacter '$' ⟨2, 1⟩
    Source.parse (.ofString "a.go") "package p\r\n$\r\n" =
        .error (Source.syntaxFailure "a.go" source fault) ∧
      (Cause.badSyntax fault source).message = explained ['$'] none fault := by
  intro source fault
  have known : fault? (Parser.withoutMark "package p\r\n$\r\n".toList) = some fault := by decide +kernel
  have rejected := parse_of_fault (.ofString "a.go") known
  refine ⟨rejected, ?_⟩
  obtain ⟨fault, above, line, below, same, pieces, number, words, quoted, -⟩ := quotes_line rejected
  cases same
  have split : Text.splitOn '\n' source = ["package p\r".toList, ['$', '\r'], []] := by decide +kernel
  have first : above = ["package p\r".toList] ∧ line = ['$', '\r'] := by
    match above, number, split.symm.trans pieces with
    | [_], _, rfl => exact ⟨rfl, rfl⟩
  obtain ⟨rfl, rfl⟩ := first
  have shown : lineAt source 2 = ['$'] :=
    ((quoted (by decide +kernel)).2.mpr (by decide +kernel)).trans (by decide +kernel)
  exact words.trans (congrArg (fun line => explained line none fault) shown)

/-- A form feed in a comment ends a line for the message, so that it quotes the rest of the comment. -/
theorem quotes_line_above : ¬ ∀ (path : Disk.Path) (text : String) (fault : SyntaxFault) line,
    Source.parse path text =
      .error (Source.syntaxFailure path.text (Parser.withoutMark text.toList) fault) →
    (Text.splitOn '\n' (Parser.withoutMark text.toList))[fault.pos.line - 1]? = some line →
    ∃ around, (Cause.badSyntax fault (Parser.withoutMark text.toList)).message =
      explained (withoutReturn line) around fault := by
  intro right
  have known : fault? (Parser.withoutMark "package p // \x0c\n$".toList) =
      some (.unexpectedCharacter '$' ⟨2, 1⟩) := by
    decide +kernel
  have rejected := parse_of_fault (.ofString "a.go") known
  obtain ⟨around, same⟩ := right _ _ _ ['$'] rejected (by decide +kernel)
  have other : explained [] none (.unexpectedCharacter '$' ⟨2, 1⟩) ≠
      explained ['$'] none (.unexpectedCharacter '$' ⟨2, 1⟩) := by
    decide +kernel
  exact other same

end Diagnosis

end GoIdl.Syntax
