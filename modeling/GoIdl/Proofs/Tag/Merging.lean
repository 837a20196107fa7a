import GoIdl.Tag
import GoIdl.Proofs.Members
import GoIdl.Proofs.Outcomes
import GoIdl.Proofs.Spans
import GoIdl.Proofs.Text.Lines
import Mathlib.Data.List.Infix

/-!
# Merged tags

Reading a tag resolves the escapes of its values, and writing one resolves nothing back: the text of
a value is put between quotes as it is. So the text of merged tags reads back exactly if every value
stands for itself between quotes (`Plain`), and the raw literal around this text does so exactly if,
besides, no value holds what a raw literal drops or ends with.
-/

namespace GoIdl

/-! ### Escapes -/

namespace Syntax

variable {s value : List Char} {n width skip : Nat}

theorem hexNumber_ne_quote (read : Text.hexNumber s = some n) : '"' ∉ s := by
  have each : ∀ (s : List Char) (m : Nat),
      s.foldlM (fun n c => (Text.hexValue c).map (n * 16 + ·)) m = some n → '"' ∉ s := by
    intro s
    induction s with
    | nil => simp
    | cons c rest ih =>
      intro m read
      rw [List.foldlM_cons] at read
      obtain ⟨k, first, later⟩ := Option.bind_eq_some_iff.mp read
      obtain ⟨d, digit, -⟩ := Option.map_eq_some_iff.mp first
      have other : '"' ≠ c := by
        rintro rfl
        cases digit
      simp [other, ih k later]
  exact each s 0 read

theorem hexEscape_takes {count : Nat} (read : hexEscape count s = some (n, width)) :
    width ≤ s.length ∧ '"' ∉ s.take width := by
  simp only [hexEscape] at read
  split at read
  · cases read
  · rename_i long
    obtain ⟨_, number, same⟩ := Option.map_eq_some_iff.mp read
    obtain ⟨rfl, rfl⟩ := Prod.mk.inj same
    simp only [List.length_take] at long
    exact ⟨by omega, hexNumber_ne_quote number⟩

/-- An escape takes a character at least, and a quote only as the character that it stands for. -/
structure EscapeTakes (s : List Char) (n width : Nat) : Prop where
  positive : 0 < width
  room : width ≤ s.length
  quote : '"' ∉ s.take width ∨ n = '"'.toNat ∧ s.take width = ['"']

theorem takes_letter {count : Nat} {c : Char} (other : c ≠ '"')
    (read : (hexEscape count s).map (fun p => (p.1, p.2 + 1)) = some (n, width)) :
    EscapeTakes (c :: s) n width := by
  obtain ⟨⟨m, w⟩, inside, same⟩ := Option.map_eq_some_iff.mp read
  obtain ⟨rfl, rfl⟩ := Prod.mk.inj same
  obtain ⟨room, none⟩ := hexEscape_takes inside
  refine ⟨Nat.succ_pos w, Nat.succ_le_succ room, .inl ?_⟩
  rw [List.take_succ_cons, List.mem_cons, not_or]
  exact ⟨Ne.symm other, none⟩

theorem takes_simple {c d : Char} (simple : simpleEscape c = some d) : EscapeTakes (c :: s) d.toNat 1 := by
  refine ⟨Nat.one_pos, by simp, ?_⟩
  by_cases quote : c = '"'
  · subst quote
    obtain rfl := Option.some.inj simple
    exact .inr ⟨rfl, rfl⟩
  · exact .inl (by simpa using Ne.symm quote)

theorem takes_octal {a b c : Char} (octal : isOctal a && isOctal b && isOctal c) :
    EscapeTakes (a :: b :: c :: s) n 3 := by
  have other : ∀ e, isOctal e = true → '"' ≠ e := by
    rintro e digit rfl
    cases digit
  simp only [Bool.and_eq_true] at octal
  refine ⟨by decide, by simp, .inl ?_⟩
  simp [other _ octal.1.1, other _ octal.1.2, other _ octal.2]

theorem escape?_takes (found : escape? s = some (n, width)) : EscapeTakes s n width := by
  unfold escape? at found
  split at found
  · cases found
  · rename_i c rest
    split at found
    · rename_i d simple
      obtain ⟨rfl, rfl⟩ := Prod.mk.inj (Option.some.inj found)
      exact takes_simple simple
    · split at found
      · rename_i kind
        exact takes_letter (by rw [kind]; decide) found
      · split at found
        · rename_i kind
          exact takes_letter (by rw [kind]; decide) found
        · split at found
          · rename_i kind
            exact takes_letter (by rw [kind]; decide) found
          · split at found
            · split at found
              · rename_i octal
                obtain ⟨rfl, rfl⟩ := Prod.mk.inj (Option.some.inj found)
                exact takes_octal octal
              · cases found
            · cases found

theorem resolveEscapes_length (resolved : resolveEscapes skip s = .ok value) :
    value.length ≤ s.length - skip := by
  induction s generalizing skip value with
  | nil =>
    cases resolved
    exact Nat.zero_le _
  | cons c rest ih =>
    unfold resolveEscapes at resolved
    split at resolved
    · have shorter := ih resolved
      rw [List.length_cons]
      omega
    · rw [List.length_cons]
      split at resolved
      · split at resolved
        · rename_i found
          obtain ⟨d, -, resolved⟩ := bind_eq_ok.mp resolved
          obtain ⟨more, later, same⟩ := bind_eq_ok.mp resolved
          cases same
          have shorter := ih later
          have ⟨positive, room, _⟩ := escape?_takes found
          rw [List.length_cons]
          omega
        · obtain ⟨more, later, rfl⟩ := map_eq_ok.mp resolved
          have shorter := ih later
          rw [List.length_cons]
          omega
      · obtain ⟨more, later, rfl⟩ := map_eq_ok.mp resolved
        have shorter := ih later
        rw [List.length_cons]
        omega

/-- No quote gets lost in resolving, those of skipped characters apart. -/
theorem resolveEscapes_quotes (resolved : resolveEscapes skip s = .ok value) :
    s.count '"' ≤ value.count '"' + (s.take skip).count '"' := by
  induction s generalizing skip value with
  | nil => simp
  | cons c rest ih =>
    unfold resolveEscapes at resolved
    split at resolved
    · have fewer := ih resolved
      rw [List.take_succ_cons, List.count_cons, List.count_cons]
      omega
    · split at resolved
      · rename_i backslash
        subst backslash
        have other : List.count '"' ('\\' :: rest) = List.count '"' rest := by simp
        rw [other]
        split at resolved
        · rename_i found
          obtain ⟨d, number, resolved⟩ := bind_eq_ok.mp resolved
          obtain ⟨more, later, same⟩ := bind_eq_ok.mp resolved
          cases same
          have fewer := ih later
          rcases (escape?_takes found).quote with none | ⟨rfl, quote⟩
          · rw [List.count_eq_zero.mpr none] at fewer
            rw [List.count_cons]
            omega
          · cases number
            rw [quote] at fewer
            simpa using fewer
        · obtain ⟨more, later, rfl⟩ := map_eq_ok.mp resolved
          have fewer := ih later
          simpa using fewer
      · obtain ⟨more, later, rfl⟩ := map_eq_ok.mp resolved
        have fewer := ih later
        rw [List.count_cons, List.count_cons]
        simp only [List.take_zero, List.count_nil] at fewer ⊢
        omega

/-- A text stands for itself exactly if no backslash in it starts an escape. -/
theorem resolveEscapes_eq_self_iff :
    resolveEscapes 0 s = .ok s ↔ ∀ after, '\\' :: after <:+ s → escape? after = none := by
  induction s with
  | nil => simp [resolveEscapes]
  | cons c rest ih =>
    have step : (∀ after, '\\' :: after <:+ c :: rest → escape? after = none) ↔
        (c = '\\' → escape? rest = none) ∧ ∀ after, '\\' :: after <:+ rest → escape? after = none := by
      constructor
      · intro all
        refine ⟨?_, fun after ending => all after (List.suffix_cons_iff.mpr (.inr ending))⟩
        rintro rfl
        exact all rest List.suffix_rfl
      · rintro ⟨here, later⟩ after ending
        rcases List.suffix_cons_iff.mp ending with same | ending
        · obtain ⟨rfl, rfl⟩ := List.cons.inj same
          exact here rfl
        · exact later after ending
    rw [step, ← ih]
    by_cases backslash : c = '\\'
    · subst backslash
      cases found : escape? rest with
      | none => simp [resolveEscapes, found, map_eq_ok]
      | some escape =>
        obtain ⟨n, width⟩ := escape
        simp only [resolveEscapes, if_true, found]
        constructor
        · intro resolved
          exfalso
          obtain ⟨d, -, resolved⟩ := bind_eq_ok.mp resolved
          obtain ⟨more, later, same⟩ := bind_eq_ok.mp resolved
          obtain ⟨rfl, rfl⟩ := List.cons.inj (Except.ok.inj same)
          have shorter := resolveEscapes_length later
          have ⟨positive, room, _⟩ := escape?_takes found
          omega
        · rintro ⟨unescaped, -⟩
          cases unescaped trivial
    · simp [resolveEscapes, backslash, map_eq_ok]

end Syntax

namespace Tag

open Syntax (resolveEscapes)

variable {body rest s : List Char}

/-! ### Between quotes -/

theorem valueBody_append {more : List Char} (found : valueBody s = some (body, more)) :
    s = body ++ '"' :: more := by
  induction s using valueBody.induct generalizing body with
  | case1 => cases found
  | case2 => cases found; rfl
  | case3 => cases found
  | case4 c s ih =>
    obtain ⟨⟨inside, after⟩, found, same⟩ := Option.map_eq_some_iff.mp found
    cases same
    rw [ih found]
    rfl
  | case5 c s quote single double ih =>
    rw [valueBody.eq_5 _ _ quote single double] at found
    obtain ⟨⟨inside, after⟩, found, same⟩ := Option.map_eq_some_iff.mp found
    cases same
    rw [ih found]
    rfl

theorem valueBody_ordinary {c : Char} (quote : c ≠ '"') (backslash : c ≠ '\\') :
    valueBody (c :: s) = (valueBody s).map fun (body, rest) => (c :: body, rest) := by
  rw [valueBody.eq_5]
  · exact quote
  · rintro rfl
    exact absurd rfl backslash
  · rintro _ _ rfl
    exact absurd rfl backslash

/-- A text that reads as itself between quotes. -/
structure Plain (body : List Char) : Prop where
  unquoted : '"' ∉ body
  closed : body.getLast? ≠ some '\\'
  unescaped : ∀ after, '\\' :: after <:+ body → Syntax.escape? after = none

/-- Only what is plain is all that is read between quotes and stands for itself. -/
theorem plain_iff : Plain body ↔
    valueBody (body ++ '"' :: rest) = some (body, rest) ∧ resolveEscapes 0 body = .ok body := by
  have same : Plain body ↔ ('"' ∉ body ∧ body.getLast? ≠ some '\\') ∧ resolveEscapes 0 body = .ok body := by
    rw [Syntax.resolveEscapes_eq_self_iff]
    exact ⟨fun plain => ⟨⟨plain.unquoted, plain.closed⟩, plain.unescaped⟩,
      fun ⟨⟨unquoted, closed⟩, unescaped⟩ => ⟨unquoted, closed, unescaped⟩⟩
  rw [same, and_congr_left_iff, Syntax.resolveEscapes_eq_self_iff]
  clear same
  induction body with
  | nil => simp [valueBody]
  | cons c body ih =>
    intro unescaped
    have later := ih fun after ending => unescaped after (List.suffix_cons_iff.mpr (.inr ending))
    by_cases quote : c = '"'
    · simp [quote, valueBody]
    · by_cases backslash : c = '\\'
      · subst backslash
        have starts := unescaped body List.suffix_rfl
        cases body with
        | nil => cases read : valueBody rest <;> simp [valueBody, read]
        | cons d body =>
          -- neither a quote nor a backslash can follow: either would be an escape
          have other : d ≠ '"' := by
            rintro rfl
            cases starts
          have another : d ≠ '\\' := by
            rintro rfl
            cases starts
          have tail : valueBody ('\\' :: d :: (body ++ '"' :: rest)) =
              (valueBody (d :: (body ++ '"' :: rest))).map fun (body, rest) => ('\\' :: body, rest) := by
            rw [valueBody_ordinary other another, valueBody, Option.map_map]
            rfl
          rw [List.cons_append] at later
          rw [List.cons_append, List.cons_append, tail, List.getLast?_cons_cons,
            List.mem_cons, not_or]
          simp only [ne_eq, Char.reduceEq, not_false_eq_true, true_and, later]
          cases valueBody (d :: (body ++ '"' :: rest)) <;> simp [Prod.ext_iff]
      · have last : (c :: body).getLast? ≠ some '\\' ↔ body.getLast? ≠ some '\\' := by
          cases body with
          | nil => simp [backslash]
          | cons d body => rw [List.getLast?_cons_cons]
        rw [List.cons_append, valueBody_ordinary quote backslash, last, List.mem_cons, not_or]
        simp only [Ne.symm quote, not_false_eq_true, true_and, later]
        cases valueBody (body ++ '"' :: rest) <;> simp [Prod.ext_iff]

end Tag

/-! ### Pairs -/

/-- The text of a value with its options. -/
def FieldTag.body (tag : FieldTag) : List Char :=
  Text.joinWith [','] ((tag.value :: tag.options).map String.toList)

namespace Tag

open Syntax (resolveEscapes)

variable {key : String} {tag : FieldTag} {pair : String × FieldTag} {ps : List (String × FieldTag)}
  {rest s : List Char} {keep : Char → Bool}

theorem body_fieldTag (value : List Char) : (fieldTag value).body = value := by
  unfold fieldTag FieldTag.body
  split
  · rename_i none
    cases value with
    | nil => cases none
    | cons c rest =>
      have whole := Text.joinWith_splitOn ',' (c :: rest)
      rw [none] at whole
      cases whole
  · rename_i name options split
    have whole := Text.joinWith_splitOn ',' value
    rw [split] at whole
    simpa [Function.comp_def] using whole

/-- A pair as it is read: the key is a word, and the value and its options hold no comma. -/
structure Formed (pair : String × FieldTag) : Prop where
  named : pair.1.toList ≠ []
  key : ∀ c ∈ pair.1.toList, isKeyChar c = true
  cut : ∀ piece ∈ pair.2.value :: pair.2.options, ',' ∉ piece.toList

theorem Formed.fieldTag_body (formed : Formed pair) : fieldTag pair.2.body = pair.2 := by
  have split : Text.splitOn ',' pair.2.body = (pair.2.value :: pair.2.options).map String.toList := by
    refine Text.splitOn_joinWith (by simp) ?_
    intro piece member
    obtain ⟨text, listed, rfl⟩ := List.mem_map.mp member
    exact formed.cut text listed
  rw [fieldTag, split]
  simp [Function.comp_def]

theorem fieldTag_cut (value : List Char) :
    ∀ piece ∈ (fieldTag value).value :: (fieldTag value).options, ',' ∉ piece.toList := by
  intro piece member
  unfold fieldTag at member
  split at member
  · simp only [List.mem_singleton] at member
    subst member
    simp
  · rename_i name options split
    rw [← List.map_cons (f := String.ofList), ← split] at member
    obtain ⟨chars, listed, rfl⟩ := List.mem_map.mp member
    rw [String.toList_ofList]
    exact Text.not_mem_of_mem_splitOn listed

theorem firstPair_eq_ok :
    firstPair s = .ok ((key, tag), rest) ↔
      (key.toList ≠ [] ∧ ∀ c ∈ key.toList, isKeyChar c = true) ∧
        ∃ body value, s = key.toList ++ ':' :: '"' :: (body ++ '"' :: rest) ∧
          valueBody (body ++ '"' :: rest) = some (body, rest) ∧
          resolveEscapes 0 body = .ok value ∧ tag = fieldTag value := by
  have colon : isKeyChar ':' = false := by decide
  constructor
  · intro read
    unfold firstPair at read
    dsimp only at read
    split at read
    · cases read
    · rename_i named
      split at read
      · rename_i inside left
        split at read
        · cases read
        · rename_i body rest' bodied
          split at read
          · rename_i value resolved
            cases read
            rw [String.toList_ofList]
            refine ⟨⟨by simpa using named, span_passes isKeyChar s⟩, body, value, ?_, ?_, resolved, rfl⟩
            · rw [← valueBody_append bodied, ← left, span_append]
            · rw [← valueBody_append bodied, bodied]
          · cases read
      · cases read
      · cases read
  · rintro ⟨⟨named, chars⟩, body, value, rfl, bodied, resolved, rfl⟩
    have spanned : (key.toList ++ ':' :: '"' :: (body ++ '"' :: rest)).span isKeyChar =
        (key.toList, ':' :: '"' :: (body ++ '"' :: rest)) :=
      span_of_append chars (by simpa using colon)
    unfold firstPair
    rw [spanned]
    simp [named, bodied, resolved]

theorem firstPair_formed (read : firstPair s = .ok (pair, rest)) : Formed pair := by
  obtain ⟨key, tag⟩ := pair
  obtain ⟨⟨named, chars⟩, _, value, _, _, _, rfl⟩ := firstPair_eq_ok.mp read
  exact ⟨named, chars, fieldTag_cut value⟩

theorem pairs_formed {fuel : Nat} (read : pairs fuel s = .ok ps) : ∀ pair ∈ ps, Formed pair := by
  induction fuel generalizing s ps with
  | zero =>
    unfold pairs at read
    split at read <;> cases read <;> simp
  | succ fuel ih =>
    unfold pairs at read
    split at read
    · cases read
      simp
    · obtain ⟨⟨pair, rest⟩, first, read⟩ := bind_eq_ok.mp read
      obtain ⟨more, later, same⟩ := bind_eq_ok.mp read
      cases same
      intro other member
      rcases List.mem_cons.mp member with rfl | listed
      · exact firstPair_formed first
      · exact ih later other listed

theorem split_eq_ok {text : String} {location : Option Syntax.Location} :
    split text location = .ok ps ↔ split? text = .ok ps := by
  unfold split
  split <;> simp_all

theorem mem_enter {into entries : List (String × FieldTag)} (member : pair ∈ enter into entries) :
    pair ∈ into ∨ pair ∈ entries := by
  induction entries generalizing into with
  | nil => exact .inl member
  | cons entry entries ih =>
    rcases ih member with entered | later
    · rcases Json.mem_put entered with rfl | before
      · exact .inr List.mem_cons_self
      · exact .inl before
    · exact .inr (List.mem_cons_of_mem _ later)

theorem merge_formed {tags : List String} (merged : merge tags = .ok ps) : ∀ pair ∈ ps, Formed pair := by
  have each : ∀ (tags : List String) (into : List (String × FieldTag)),
      tags.foldlM (fun into tag => (split tag none).map (enter into)) into = .ok ps →
      (∀ pair ∈ into, Formed pair) → ∀ pair ∈ ps, Formed pair := by
    intro tags
    induction tags with
    | nil =>
      intro into merged
      cases merged
      exact id
    | cons tag tags ih =>
      intro into merged formed
      rw [List.foldlM_cons] at merged
      obtain ⟨next, first, later⟩ := bind_eq_ok.mp merged
      obtain ⟨entries, read, rfl⟩ := map_eq_ok.mp first
      refine ih _ later fun pair member => ?_
      rcases mem_enter member with before | new
      · exact formed pair before
      · exact pairs_formed (split_eq_ok.mp read) pair new
  exact each tags [] merged (by simp)

/-! ### Writing and reading back -/

theorem toList_pairText (pair : String × FieldTag) :
    (pairText pair).toList = pair.1.toList ++ ':' :: '"' :: (pair.2.body ++ ['"']) := by
  obtain ⟨key, tag⟩ := pair
  simp [pairText, FieldTag.body, Text.joinWith, List.intercalate]

/-- What is written after a pair. -/
def textAfter (ps : List (String × FieldTag)) : List Char :=
  if ps.isEmpty then [] else ' ' :: (text ps).toList

theorem toList_text_cons (pair : String × FieldTag) (ps : List (String × FieldTag)) :
    (text (pair :: ps)).toList =
      pair.1.toList ++ ':' :: '"' :: (pair.2.body ++ '"' :: textAfter ps) := by
  cases ps with
  | nil => simp [text, toList_pairText, textAfter]
  | cons next ps => simp [text, toList_pairText, textAfter]

theorem pairs_blank {fuel : Nat} : pairs fuel (' ' :: s) = pairs fuel s := by
  unfold pairs
  simp

/-- A pair whose text has lost some characters reads back only if it has lost none and is plain: what
is read in its place has other quotes or is shorter. -/
theorem firstPair_kept_iff {more : List Char} (quote : keep '"' = true) (formed : Formed pair) :
    firstPair (pair.1.toList ++ ':' :: '"' :: (pair.2.body.filter keep ++ '"' :: rest)) =
        .ok (pair, more) ↔
      more = rest ∧ Plain pair.2.body ∧ ∀ c ∈ pair.2.body, keep c = true := by
  obtain ⟨key, tag⟩ := pair
  dsimp only at formed ⊢
  rw [firstPair_eq_ok]
  constructor
  · rintro ⟨-, read, value, same, bodied, resolved, rfl⟩
    rw [body_fieldTag] at same ⊢
    simp only [List.append_cancel_left_eq, List.cons.injEq, true_and] at same
    have shorter := Syntax.resolveEscapes_length resolved
    have quotes := Syntax.resolveEscapes_quotes resolved
    have fewer := List.length_filter_le keep value
    have kept : (value.filter keep).count '"' = value.count '"' := List.count_filter quote
    simp only [List.take_zero, List.count_nil, Nat.add_zero] at quotes
    have whole : read = value.filter keep → '"' :: rest = '"' :: more →
        more = rest ∧ Plain value ∧ ∀ c ∈ value, keep c = true := by
      rintro rfl after
      have all : value.filter keep = value :=
        List.filter_sublist.eq_of_length (Nat.le_antisymm fewer shorter)
      obtain ⟨-, rfl⟩ := List.cons.inj after
      rw [all] at bodied resolved
      exact ⟨rfl, plain_iff.mpr ⟨bodied, resolved⟩, List.filter_eq_self.mp all⟩
    -- Read and written value end at a quote: more text has a quote too many, less is too short.
    rcases List.append_eq_append_iff.mp same with ⟨inside, longer, after⟩ | ⟨inside, longer, after⟩
    · cases inside with
      | nil => exact whole (by rw [longer, List.append_nil]) after
      | cons c inside =>
        obtain ⟨rfl, -⟩ := List.cons.inj after
        simp only [longer, List.count_append, List.count_cons_self, kept] at quotes
        omega
    · cases inside with
      | nil => exact whole (by rw [longer, List.append_nil]) after.symm
      | cons c inside =>
        rw [longer, List.length_append, List.length_cons] at fewer
        omega
  · rintro ⟨rfl, plain, all⟩
    obtain ⟨bodied, resolved⟩ := plain_iff.mp plain
    rw [List.filter_eq_self.mpr all]
    exact ⟨⟨formed.named, formed.key⟩, _, _, rfl, bodied, resolved, formed.fieldTag_body.symm⟩

theorem pairs_textAfter (blank : keep ' ' = true) (fuel : Nat) :
    pairs fuel ((textAfter ps).filter keep) = pairs fuel ((text ps).toList.filter keep) := by
  cases ps with
  | nil => rfl
  | cons pair ps => simp [textAfter, blank, pairs_blank]

/-- A step of reading takes the first pair, which does not start with a blank. -/
theorem pairs_cons_iff {fuel : Nat} (formed : Formed pair) :
    pairs (fuel + 1) (pair.1.toList ++ s) = .ok (pair :: ps) ↔
      ∃ more, firstPair (pair.1.toList ++ s) = .ok (pair, more) ∧ pairs fuel more = .ok ps := by
  have word : (pair.1.toList ++ s).dropWhile (· == ' ') = pair.1.toList ++ s := by
    cases first : pair.1.toList with
    | nil => exact absurd first formed.named
    | cons c key =>
      have kept : isKeyChar c = true := formed.key c (first ▸ List.mem_cons_self)
      have other : c ≠ ' ' := by
        rintro rfl
        cases kept
      simp [other]
  have some : pair.1.toList ++ s ≠ [] := by simp [formed.named]
  rw [pairs, word]
  generalize pair.1.toList ++ s = whole at some
  cases whole with
  | nil => exact absurd rfl some
  | cons c whole =>
    constructor
    · intro read
      obtain ⟨⟨first, more⟩, here, read⟩ := bind_eq_ok.mp read
      obtain ⟨others, later, same⟩ := bind_eq_ok.mp read
      cases same
      exact ⟨more, here, later⟩
    · rintro ⟨more, here, later⟩
      exact bind_eq_ok.mpr ⟨(pair, more), here, bind_eq_ok.mpr ⟨ps, later, rfl⟩⟩

/-- The text of pairs without the characters that are not kept reads as the pairs exactly if all of
them are kept and every value is plain. -/
theorem pairs_text_iff {fuel : Nat} (marks : keep '"' = true ∧ keep ':' = true ∧ keep ' ' = true)
    (formed : ∀ pair ∈ ps, Formed pair) (keys : ∀ pair ∈ ps, ∀ c ∈ pair.1.toList, keep c = true)
    (enough : ((text ps).toList.filter keep).length ≤ fuel) :
    pairs fuel ((text ps).toList.filter keep) = .ok ps ↔
      ∀ pair ∈ ps, Plain pair.2.body ∧ ∀ c ∈ pair.2.body, keep c = true := by
  obtain ⟨quote, colon, blank⟩ := marks
  induction ps generalizing fuel with
  | nil =>
    cases fuel <;> simp [text, pairs]
  | cons pair ps ih =>
    have here := formed pair List.mem_cons_self
    have key : pair.1.toList.filter keep = pair.1.toList :=
      List.filter_eq_self.mpr (keys pair List.mem_cons_self)
    have whole : (text (pair :: ps)).toList.filter keep =
        pair.1.toList ++ ':' :: '"' :: (pair.2.body.filter keep ++ '"' :: (textAfter ps).filter keep) := by
      rw [toList_text_cons]
      simp [key, quote, colon]
    rw [whole] at enough ⊢
    simp only [List.length_append, List.length_cons] at enough
    obtain ⟨fuel, rfl⟩ : ∃ less, fuel = less + 1 := ⟨fuel - 1, by omega⟩
    have room : ((text ps).toList.filter keep).length ≤ fuel := by
      have length : ((text ps).toList.filter keep).length ≤ ((textAfter ps).filter keep).length := by
        unfold textAfter
        split
        · rename_i none
          rw [List.isEmpty_iff.mp none]
          simp [text]
        · simp [blank]
      omega
    have later := ih (fun other member => formed other (List.mem_cons_of_mem _ member))
      (fun other member => keys other (List.mem_cons_of_mem _ member)) room
    rw [pairs_cons_iff here]
    simp only [firstPair_kept_iff quote here, and_assoc, exists_eq_left, pairs_textAfter blank, later,
      List.forall_mem_cons]

/-! ### Literals -/

/-- A text between two backticks that holds none. -/
def IsRawLiteral (s : String) : Prop :=
  ∃ inside, s.toList = '`' :: (inside ++ ['`']) ∧ '`' ∉ inside

theorem literal_eq (some : literal ps ≠ "") : (literal ps).toList = '`' :: ((text ps).toList ++ ['`']) := by
  unfold literal at some ⊢
  split
  · rename_i none
    rw [none] at some
    exact absurd rfl some
  · simp

theorem unquote_raw {s : String} {inside : List Char} (raw : s.toList = '`' :: (inside ++ ['`'])) :
    Syntax.unquote s = .ok (String.ofList (inside.filter (· != '\r'))) := by
  have between : Syntax.isBetween '`' s.toList = true := by
    have last : ('`' :: (inside ++ ['`'])).getLast? = some '`' :=
      List.getLast?_concat (l := '`' :: inside)
    rw [raw]
    simp [Syntax.isBetween, last]
  have inner : Syntax.inner s.toList = inside := by
    rw [raw]
    simp [Syntax.inner]
  rw [Syntax.unquote, Syntax.unquoteChars, if_pos between, inner]
  rfl

theorem mem_text {c : Char} (other : c ≠ '"' ∧ c ≠ ':' ∧ c ≠ ' ') :
    c ∈ (text ps).toList ↔ ∃ pair ∈ ps, c ∈ pair.1.toList ∨ c ∈ pair.2.body := by
  obtain ⟨quote, colon, blank⟩ := other
  induction ps with
  | nil => simp [text]
  | cons pair ps ih =>
    have after : c ∈ textAfter ps ↔ c ∈ (text ps).toList := by
      unfold textAfter
      split
      · rename_i none
        rw [List.isEmpty_iff.mp none]
        simp [text]
      · simp [blank]
    rw [toList_text_cons]
    simp [quote, colon, after, ih, or_assoc]

/-- A value that a raw literal can hold, too. -/
structure Rawable (pair : String × FieldTag) : Prop where
  plain : Plain pair.2.body
  unbroken : '\r' ∉ pair.2.body
  key : '`' ∉ pair.1.toList
  body : '`' ∉ pair.2.body

/-- Merged tags are written as a text that reads back exactly if every value is plain. The literal of
such a text is a raw one that reads back exactly if no key holds a backtick, and no value a backtick
or a carriage return. -/
theorem merged_reads_back {tags : List String} (merged : merge tags = .ok ps) :
    (split? (text ps) = .ok ps ↔ ∀ pair ∈ ps, Plain pair.2.body) ∧
      format tags = .ok (literal ps) ∧
      (literal ps ≠ "" →
        ((IsRawLiteral (literal ps) ∧
            ∃ inside, Syntax.unquote (literal ps) = .ok inside ∧ split? inside = .ok ps) ↔
          ∀ pair ∈ ps, Rawable pair)) := by
  have formed := merge_formed merged
  refine ⟨?_, map_eq_ok.mpr ⟨ps, merged, rfl⟩, fun some => ?_⟩
  · have all : pairs (text ps).toList.length ((text ps).toList.filter fun _ => true) = .ok ps ↔
        ∀ pair ∈ ps, Plain pair.2.body ∧ ∀ c ∈ pair.2.body, true = true :=
      pairs_text_iff (by simp) formed (by simp) (by simp)
    simpa [split?] using all
  · have unquoted := unquote_raw (literal_eq some)
    have keys : ∀ pair ∈ ps, ∀ c ∈ pair.1.toList, (c != '\r') = true := by
      intro pair member c inKey
      have kept := (formed pair member).key c inKey
      rw [bne_iff_ne]
      rintro rfl
      cases kept
    have reads := pairs_text_iff (by decide) formed keys (Nat.le_refl _)
    have raw : IsRawLiteral (literal ps) ↔ ∀ pair ∈ ps, '`' ∉ pair.1.toList ∧ '`' ∉ pair.2.body := by
      have inside : IsRawLiteral (literal ps) ↔ '`' ∉ (text ps).toList := by
        simp [IsRawLiteral, literal_eq some]
      rw [inside, mem_text (by decide)]
      simp
    have read : (∃ inside, Syntax.unquote (literal ps) = .ok inside ∧ split? inside = .ok ps) ↔
        ∀ pair ∈ ps, Plain pair.2.body ∧ ∀ c ∈ pair.2.body, (c != '\r') = true := by
      rw [unquoted, ← reads]
      simp [split?]
    rw [raw, read]
    constructor
    · rintro ⟨backticks, values⟩ pair member
      refine ⟨(values pair member).1, fun held => ?_, (backticks pair member).1,
        (backticks pair member).2⟩
      have kept := (values pair member).2 _ held
      simp at kept
    · intro all
      refine ⟨fun pair member => ⟨(all pair member).key, (all pair member).body⟩,
        fun pair member => ⟨(all pair member).plain, fun c held => ?_⟩⟩
      rw [bne_iff_ne]
      rintro rfl
      exact (all pair member).unbroken held

/-- A carriage return is kept by the text and lost by the literal. -/
theorem merged_reads_back_unless_raw :
    merge ["a:\"x\"", "b:\"\\r\" a:\"\\\\d,\""] =
        .ok [("a", ⟨"\\d", [""]⟩), ("b", ⟨"\r", []⟩)] ∧
      split? (text [("a", ⟨"\\d", [""]⟩), ("b", ⟨"\r", []⟩)]) =
        .ok [("a", ⟨"\\d", [""]⟩), ("b", ⟨"\r", []⟩)] ∧
      ¬ ∃ inside, Syntax.unquote (literal [("a", ⟨"\\d", [""]⟩), ("b", ⟨"\r", []⟩)]) = .ok inside ∧
        split? inside = .ok [("a", ⟨"\\d", [""]⟩), ("b", ⟨"\r", []⟩)] := by
  have merged : merge ["a:\"x\"", "b:\"\\r\" a:\"\\\\d,\""] =
      .ok [("a", ⟨"\\d", [""]⟩), ("b", ⟨"\r", []⟩)] := by rfl
  have ⟨reads, _, raw⟩ := merged_reads_back merged
  refine ⟨merged, reads.mpr ?_, ?_⟩
  · intro pair member
    simp only [List.mem_cons, List.not_mem_nil, or_false] at member
    rcases member with rfl | rfl
    · exact (@plain_iff _ []).mpr ⟨rfl, rfl⟩
    · exact (@plain_iff _ []).mpr ⟨rfl, rfl⟩
  · intro inside
    have isRaw : IsRawLiteral (literal [("a", ⟨"\\d", [""]⟩), ("b", ⟨"\r", []⟩)]) :=
      ⟨_, literal_eq (by decide), by decide⟩
    have all := (raw (by decide)).mp ⟨isRaw, inside⟩
    exact (all ("b", ⟨"\r", []⟩) (by simp)).unbroken (by decide)

/-- The text of a value with a quote does not read back. -/
theorem quoted_value_not_reread :
    ∃ ps, merge ["k:\"a\\\"b\""] = .ok ps ∧ split? (text ps) ≠ .ok ps :=
  ⟨[("k", ⟨"a\"b", []⟩)], by rfl, by decide⟩

end Tag

end GoIdl
