import GoIdl.Proofs.Syntax.Locations
import Mathlib.Data.List.Infix

/-!
# What docs are taken from

The doc of a declaration is the text of a group of comments that stand alone and end on the line above
its name, whatever else stands on these two lines. A type that is declared alone in parentheses has the
doc above its keyword if it has none of its own. Of fields that are declared together the first one
counts, and of an embedded pointer the star.
-/

namespace GoIdl.Syntax

variable {source : List Char} {comments group : List Comment} {pos : Position} {doc : String}
  {mark rule rule' alone alone' : Position → String → Prop}

/-! ### Groups -/

namespace Comment

theorem gathered_forall {holds : Comment → Prop} {before : List Comment}
    (old : ∀ c ∈ before, holds c) : ∀ group ∈ gathered before, group ≠ [] ∧ ∀ c ∈ group, holds c := by
  intro group member
  rw [gathered] at member
  split at member
  · cases member
  · rename_i filled
    rw [List.mem_singleton.mp member]
    exact ⟨by simpa using filled, fun c listed => old c (List.mem_reverse.mp listed)⟩

theorem groupsFrom_forall {holds : Comment → Prop} {before cs : List Comment}
    (old : ∀ c ∈ before, holds c) (new : ∀ c ∈ cs, c.standalone = true → holds c) :
    ∀ group ∈ groupsFrom before cs, group ≠ [] ∧ ∀ c ∈ group, holds c := by
  induction cs generalizing before with
  | nil => exact gathered_forall old
  | cons c cs ih =>
    have later : ∀ d ∈ cs, d.standalone = true → holds d :=
      fun d listed => new d (List.mem_cons_of_mem _ listed)
    rw [groupsFrom]
    split
    · exact List.forall_mem_append.mpr ⟨gathered_forall old, ih (by simp) later⟩
    · rename_i alone
      have here : holds c := new c List.mem_cons_self (by simpa using alone)
      split
      · exact List.forall_mem_append.mpr
          ⟨gathered_forall old, ih (List.forall_mem_singleton.mpr here) later⟩
      · exact ih (List.forall_mem_cons.mpr ⟨here, old⟩) later

theorem groups_alone (listed : group ∈ groups comments) :
    group ≠ [] ∧ ∀ c ∈ group, c ∈ comments ∧ c.standalone = true :=
  groupsFrom_forall nofun (fun _ member alone => ⟨member, alone⟩) group listed

/-- A group ends on the line above a position: one line break lies between its last comment and the
position. -/
def Precedes (source : List Char) (group : List Comment) (pos : Position) : Prop :=
  ∃ last ∈ group.getLast?, ∃ before between after,
    source = before ++ last.text.toList ++ between ++ after ∧ last.pos = .behind before ∧
      pos = .behind (before ++ last.text.toList ++ between) ∧ between.count '\n' = 1

theorem prefix_of_line_lt {first second : List Char} (before : first <+: source)
    (before' : second <+: source)
    (above : (Position.behind first).line < (Position.behind second).line) : first <+: second := by
  rcases List.prefix_or_prefix_of_prefix before before' with shorter | ⟨more, longer⟩
  · exact shorter
  · rw [← longer, Position.behind_line] at above
    omega

theorem precedes_of_lastLine (stands : ∀ c ∈ comments, c.Stands source)
    (listed : group ∈ groups comments) (ends : lastLine group + 1 = pos.line)
    (inside : Syntax.Stands source pos "") : Precedes source group pos := by
  obtain ⟨filled, each⟩ := groups_alone listed
  have found : group.getLast? = some (group.getLast filled) := List.getLast?_eq_some_getLast filled
  obtain ⟨before, after, whole, placed, endLine, _⟩ :=
    stands _ (each _ (List.getLast_mem filled)).1
  obtain ⟨upTo, rest, whole', placed'⟩ := inside
  rw [lastLine, found, Option.map_some, Option.getD_some, endLine, placed'] at ends
  have upToHere : upTo <+: source := ⟨rest, by rw [whole', String.toList_empty, List.append_nil]⟩
  obtain ⟨between, same⟩ := prefix_of_line_lt ⟨after, whole.symm⟩ upToHere
    (Nat.lt_of_succ_le (Nat.le_of_eq ends))
  have below := Position.behind_line (before ++ (group.getLast filled).text.toList) between
  refine ⟨_, found, before, between, rest, ?_, placed, ?_, ?_⟩
  · rw [same, whole', String.toList_empty, List.append_nil]
  · rw [same, placed']
  · rw [same] at below
    omega

end Comment

/-- A doc that is looked up at a position: it is the one above, among all comments. If it is not empty,
it is the cleaned text of a group of comments that stand alone, which ends on the line above. -/
structure DocAt (source : List Char) (comments : List Comment) (pos : Position) (doc : String) : Prop where
  above : doc = Comment.above comments pos.line
  group : doc ≠ "" → ∃ group ∈ Comment.groups comments, (∀ c ∈ group, c.standalone = true) ∧
    doc = Comment.clean (group.map (·.text)) ∧ Comment.Precedes source group pos

/-- A doc of the declaration in parentheses whose first name is at a position: the one at its keyword. -/
def HeadedAt (source : List Char) (comments : List Comment) (pos : Position) (doc : String) : Prop :=
  ∃ keyword, DocAt source comments keyword doc ∧ Lead source ["type", "("] keyword pos

theorem docAt_of_lookedUp (stands : ∀ c ∈ comments, c.Stands source)
    (lookedUp : LookedUp source comments pos doc) : DocAt source comments pos doc := by
  obtain ⟨above, inside⟩ := lookedUp
  refine ⟨above, fun filled => ?_⟩
  rw [Comment.above] at above
  split at above
  · rename_i group found
    have listed := List.mem_reverse.mp (List.mem_of_find?_eq_some found)
    have ends := List.find?_some found
    exact ⟨group, listed, fun c among => ((Comment.groups_alone listed).2 c among).2, above,
      Comment.precedes_of_lastLine stands listed (beq_iff_eq.mp ends) inside⟩
  · exact absurd above filled

/-! ### Weaker rules -/

theorem DeclaredFields.mono {fields : List (FieldDecl TypeExpr)}
    (weaker : ∀ pos doc, rule pos doc → rule' pos doc) (declared : DeclaredFields mark rule fields) :
    DeclaredFields mark rule' fields := by
  induction declared with
  | nil => exact .nil
  | named _ docs alike ih => exact .named ih (weaker _ _ docs) alike
  | embedded _ docs embeds type ih => exact .embedded ih (weaker _ _ docs) embeds type

theorem TypeExpr.Documented.mono {type : TypeExpr} (weaker : ∀ pos doc, rule pos doc → rule' pos doc)
    (documented : type.Documented mark rule) : type.Documented mark rule' := by
  cases type with
  | struct pos fields => exact DeclaredFields.mono weaker documented
  | interface pos methods embeds => exact fun m member => weaker _ _ (documented m member)
  | _ => trivial

theorem TypeSpec.Documented.mono {spec : TypeSpec} (weaker : ∀ pos doc, rule pos doc → rule' pos doc)
    (also : ∀ pos doc, alone pos doc → alone' pos doc) (documented : spec.Documented alone rule) :
    spec.Documented alone' rule' := by
  rcases documented with own | ⟨without, group⟩
  · exact .inl (weaker _ _ own)
  · exact .inr ⟨weaker _ _ without, also _ _ group⟩

namespace Source

/-- Every doc of a type, of a method and of fields that are declared together is looked up where the
declaration has its name, or its star, or its keyword if it is alone in parentheses; it is the text of
the group of comments above. The comments stand in the source where they say. -/
theorem docs_precede {path : Disk.Path} {text : String} {parsed : Parser.Parsed} {file : SourceFile}
    (read : Source.parse path text = .ok parsed) (whole : parsed.file = .ok file) :
    (∀ c ∈ parsed.comments, c.Stands (Parser.withoutMark text.toList)) ∧
      ∀ spec ∈ file.types,
        spec.Documented (HeadedAt (Parser.withoutMark text.toList) parsed.comments)
            (DocAt (Parser.withoutMark text.toList) parsed.comments) ∧
          ∀ part ∈ spec.type.parts, part.Documented (Stands (Parser.withoutMark text.toList))
            (DocAt (Parser.withoutMark text.toList) parsed.comments) := by
  obtain ⟨stands, placed⟩ := Parser.parse_placed (mapError_eq_ok.mp read) whole
  have looked : ∀ pos doc, LookedUp (Parser.withoutMark text.toList) parsed.comments pos doc →
      DocAt (Parser.withoutMark text.toList) parsed.comments pos doc :=
    fun _ _ => docAt_of_lookedUp stands
  refine ⟨stands, fun spec declared => ?_⟩
  have here := placed spec declared
  refine ⟨here.doc.mono looked ?_, fun part inside => (here.type part inside).2.mono looked⟩
  rintro pos doc ⟨keyword, above, leads⟩
  exact ⟨keyword, looked _ _ above, leads⟩

/-- A declaration in parentheses, with docs at its keyword, at two fields and at a star. -/
def grouping : String :=
  "package p\n// D\ntype (\nT struct\x7b\n// f\nA, B int\n// e\n*C\n\x7d\n)\n"

theorem docs_precede_group : ∃ parsed file,
    Source.parse (.ofString "a.go") grouping = .ok parsed ∧ parsed.file = .ok file ∧
      file.types.map (·.doc) = ["D"] ∧
      ∀ spec ∈ file.types,
        spec.Documented (HeadedAt (Parser.withoutMark grouping.toList) parsed.comments)
            (DocAt (Parser.withoutMark grouping.toList) parsed.comments) ∧
          ∀ part ∈ spec.type.parts, part.Documented (Stands (Parser.withoutMark grouping.toList))
            (DocAt (Parser.withoutMark grouping.toList) parsed.comments) := by
  have shape : ((Source.parse (.ofString "a.go") grouping).toOption.any fun parsed =>
      parsed.file.toOption.any fun file => file.types.map (·.doc) == ["D"]) = true := by
    decide +kernel
  cases read : Source.parse (.ofString "a.go") grouping with
  | error failure =>
    rw [read] at shape
    cases shape
  | ok parsed =>
    rw [read] at shape
    cases whole : parsed.file with
    | error fault => simp [Except.toOption, whole] at shape
    | ok file =>
      simp only [Except.toOption, whole, Option.any_some, beq_iff_eq] at shape
      exact ⟨parsed, file, rfl, whole, shape, (docs_precede read whole).2⟩

end Source

/-! ### Tokens between a doc and its declaration -/

theorem Between.mem {tokens : List String} {s rest : List Char} {c : Char} (between : Between tokens s rest)
    (plain : '/' ∉ s) (filled : Text.isBlank c = false) (inside : c ∈ s) :
    c ∈ tokens.flatMap (·.toList) ++ rest := by
  induction between with
  | nil => exact inside
  | @blank _ d _ _ blank _ ih =>
    rcases List.mem_cons.mp inside with rfl | later
    · rw [filled] at blank
      cases blank
    · exact ih (fun slash => plain (List.mem_cons_of_mem _ slash)) later
  | @comment _ s _ _ _ found =>
    cases s with
    | nil => cases found
    | cons d s =>
      rw [comment?_eq_none (fun same => plain (by simp [same]))] at found
      cases found
  | token word _ ih =>
    rw [List.flatMap_cons, List.append_assoc]
    rcases List.mem_append.mp inside with here | later
    · exact List.mem_append_left _ here
    · exact List.mem_append_right _ (ih (fun slash => plain (List.mem_append_right _ slash)) later)

namespace Source

/-- A comment before one declaration becomes the doc of the next one. -/
def neighbours : String := "package p\n/* d */ type A int\ntype B int\n"

theorem neighbours_read : ∃ parsed file spec, Source.parse (.ofString "a.go") neighbours = .ok parsed ∧
    parsed.file = .ok file ∧ spec ∈ file.types ∧ spec.pos = ⟨3, 6⟩ ∧ spec.doc = "d" ∧
    ∀ c ∈ parsed.comments, c.text = "/* d */" ∧ c.pos = ⟨2, 1⟩ := by
  have shape : ((Source.parse (.ofString "a.go") neighbours).toOption.any fun parsed =>
      parsed.file.toOption.any fun file =>
        (file.types.any fun spec => spec.pos == ⟨3, 6⟩ && spec.doc == "d") &&
          parsed.comments.all fun c => c.text == "/* d */" && c.pos == ⟨2, 1⟩) = true := by
    decide +kernel
  cases read : Source.parse (.ofString "a.go") neighbours with
  | error failure =>
    rw [read] at shape
    cases shape
  | ok parsed =>
    rw [read] at shape
    cases whole : parsed.file with
    | error fault => simp [Except.toOption, whole] at shape
    | ok file =>
      simp only [Except.toOption, whole, Option.any_some, Bool.and_eq_true, List.any_eq_true,
        List.all_eq_true, beq_iff_eq] at shape
      obtain ⟨⟨spec, declared, placed, doc⟩, comments⟩ := shape
      exact ⟨parsed, file, spec, rfl, whole, declared, placed, doc, comments⟩

/-- Tokens may lie between a group of comments and the declaration that it becomes the doc of, others
than the keyword of the declaration and its parenthesis. -/
theorem doc_not_adjacent :
    ¬ ∀ path text parsed file, Source.parse path text = .ok parsed → parsed.file = .ok file →
      ∀ spec ∈ file.types, spec.doc ≠ "" →
        ∃ group ∈ Comment.groups parsed.comments, (∀ c ∈ group, c.standalone = true) ∧
          spec.doc = Comment.clean (group.map (·.text)) ∧
          ∃ last ∈ group.getLast?, ∃ before,
            before ++ last.text.toList <+: Parser.withoutMark text.toList ∧ last.pos = .behind before ∧
              ∃ tokens, (tokens = [] ∨ tokens = ["type"] ∨ tokens = ["type", "("]) ∧
                Lead (Parser.withoutMark text.toList) tokens
                  (.behind (before ++ last.text.toList)) spec.pos := by
  intro adjacent
  obtain ⟨parsed, file, spec, read, whole, declared, placed, doc, comments⟩ := neighbours_read
  obtain ⟨group, listed, _, _, last, ends, before, upTo, start, tokens, own, first, s, second, rest,
    source, from', source', to', between⟩ :=
    adjacent _ _ parsed file read whole spec declared (by rw [doc]; decide)
  obtain ⟨text, pos⟩ := comments last ((Comment.groups_alone listed).2 last (List.mem_of_getLast? ends)).1
  have bare : Parser.withoutMark neighbours.toList = neighbours.toList := by decide +kernel
  rw [bare] at upTo source source'
  rw [text] at upTo from'
  rw [pos] at start
  rw [placed] at to'
  have begins : before = "package p\n".toList :=
    Position.behind_inj ((List.prefix_append _ _).trans upTo) (by decide +kernel)
      (start.symm.trans (by decide))
  have behind : first = "package p\n/* d */".toList := by
    rw [begins] at upTo from'
    exact Position.behind_inj ⟨s, source.symm⟩ (by decide +kernel) from'.symm
  have reaches : second = "package p\n/* d */ type A int\ntype ".toList :=
    Position.behind_inj ⟨rest, source'.symm⟩ (by decide +kernel) (to'.symm.trans (by decide +kernel))
  have after : s = " type A int\ntype B int\n".toList := by
    rw [behind] at source
    exact List.append_cancel_left source.symm
  have onward : rest = "B int\n".toList := by
    rw [reaches] at source'
    exact List.append_cancel_left source'.symm
  rw [after, onward] at between
  have left := between.mem (by decide) (show Text.isBlank 'A' = false by decide) (by decide)
  rcases own with rfl | rfl | rfl
  · exact absurd left (by decide)
  · exact absurd left (by decide)
  · exact absurd left (by decide)

end Source

end GoIdl.Syntax
