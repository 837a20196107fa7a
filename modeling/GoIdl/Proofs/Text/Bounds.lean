import GoIdl.Metadata
import GoIdl.Tag
import GoIdl.Proofs.Outcomes

/-!
# Values out of bounds

What is written in a literal, a tag or a doc is refused for its shape, or for a value that cannot be
represented. Such a value is out of bounds indeed: a character beyond the last one, or an integer of
more digits than are read.
-/

namespace GoIdl

open Syntax (EscapeFault)

/-! ### Characters -/

namespace Syntax

variable {fault : EscapeFault}

theorem charOfNumber_refused {n : Nat} (refused : charOfNumber n = .error fault) :
    0x110000 ≤ fault.number := by
  unfold charOfNumber at refused
  split at refused
  · rename_i beyond
    cases refused
    exact beyond
  · split at refused <;> cases refused

theorem resolveEscapes_refused {skip : Nat} {s : List Char}
    (refused : resolveEscapes skip s = .error fault) : 0x110000 ≤ fault.number := by
  induction s generalizing skip with
  | nil => cases refused
  | cons c rest ih =>
    unfold resolveEscapes at refused
    split at refused
    · exact ih refused
    · split at refused
      · split at refused
        · rcases bind_eq_error.mp refused with beyond | ⟨_, _, refused⟩
          · exact charOfNumber_refused beyond
          · rcases bind_eq_error.mp refused with refused | ⟨_, _, done⟩
            · exact ih refused
            · cases done
        · exact ih (map_eq_error.mp refused)
      · exact ih (map_eq_error.mp refused)

theorem unquoteChars_refused {s : List Char} (refused : unquoteChars s = .error fault) :
    0x110000 ≤ fault.number := by
  unfold unquoteChars at refused
  split at refused
  · cases refused
  · split at refused
    · exact resolveEscapes_refused refused
    · cases refused

end Syntax

/-! ### Tags -/

namespace Tag

variable {fault : EscapeFault}

theorem firstPair_refused {s : List Char} (refused : firstPair s = .error (.escape fault)) :
    0x110000 ≤ fault.number := by
  unfold firstPair at refused
  dsimp only at refused
  split at refused
  · cases refused
  · split at refused
    · split at refused
      · cases refused
      · split at refused
        · cases refused
        · rename_i escapes
          cases refused
          exact Syntax.resolveEscapes_refused escapes
    · cases refused
    · cases refused

theorem pairs_refused {fuel : Nat} {s : List Char} (refused : pairs fuel s = .error (.escape fault)) :
    0x110000 ≤ fault.number := by
  induction fuel generalizing s with
  | zero =>
    unfold pairs at refused
    split at refused <;> cases refused
  | succ fuel ih =>
    unfold pairs at refused
    split at refused
    · cases refused
    · rcases bind_eq_error.mp refused with first | ⟨⟨pair, rest⟩, _, refused⟩
      · exact firstPair_refused first
      · rcases bind_eq_error.mp refused with later | ⟨_, _, done⟩
        · exact ih later
        · cases done

theorem split?_refused {tag : String} (refused : split? tag = .error (.escape fault)) :
    0x110000 ≤ fault.number := pairs_refused refused

/-- A tag is refused for an error in the definitions or for an escape in one of its values. -/
theorem parse_refused {tag : String} {location : Option Syntax.Location} {failure : Failure}
    (refused : parse tag location = .error failure) :
    (∃ error, failure = .definition error) ∨
      ∃ fault, failure = .escape fault ∧ split? tag = .error (.escape fault) := by
  have refused := map_eq_error.mp refused
  unfold split at refused
  split at refused
  · cases refused
  · cases refused
    exact .inl ⟨_, rfl⟩
  · rename_i fault escapes
    cases refused
    exact .inr ⟨fault, rfl, escapes⟩

end Tag

/-! ### Integers -/

namespace Json

variable {α β : Type}

/-- If it fails for the number of digits, they are too many. -/
structure Limited (outcome : Except Fault α) : Prop where
  exceeds : ∀ count, outcome = .error (.tooManyDigits count) → digitLimit < count

namespace Limited

theorem ok (a : α) : Limited (.ok a) := ⟨nofun⟩

theorem error {fault : Fault} (other : ∀ count, fault ≠ .tooManyDigits count) :
    Limited (.error fault : Except Fault α) :=
  ⟨fun count same => absurd (Except.error.inj same) (other count)⟩

theorem bind {outcome : Except Fault α} {f : α → Except Fault β} (first : Limited outcome)
    (later : ∀ a, Limited (f a)) : Limited (outcome >>= f) := by
  refine ⟨fun count failed => ?_⟩
  rcases bind_eq_error.mp failed with here | ⟨a, _, there⟩
  · exact first.exceeds count here
  · exact (later a).exceeds count there

end Limited

theorem readNumber_limited (s : List Char) : Limited (readNumber s) := by
  unfold readNumber
  dsimp only
  split
  · exact .error nofun
  · split
    · split
      · rename_i many
        exact ⟨fun count same => by cases same; exact many⟩
      · exact .ok _
    · exact .ok _

theorem readString_limited (fuel : Nat) (before s : List Char) :
    Limited (readString fuel before s) := by
  induction fuel generalizing before s with
  | zero => exact .error nofun
  | succ fuel ih =>
    unfold readString
    split
    · exact .error nofun
    · exact .ok _
    · exact .error nofun
    · split
      · exact .error nofun
      · exact ih _ _
    · split
      · exact .error nofun
      · exact ih _ _
    · split
      · exact .error nofun
      · exact ih _ _

theorem values_limited (fuel : Nat) :
    (∀ s, Limited (readValue fuel s)) ∧ (∀ members s, Limited (readMembers fuel members s)) ∧
      ∀ items s, Limited (readItems fuel items s) := by
  induction fuel with
  | zero =>
    refine ⟨fun s => ?_, fun members s => ?_, fun items s => ?_⟩
    · unfold readValue
      exact .error nofun
    · unfold readMembers
      exact .error nofun
    · unfold readItems
      exact .error nofun
  | succ fuel ih =>
    obtain ⟨value, members, items⟩ := ih
    refine ⟨fun s => ?_, fun before s => ?_, fun before s => ?_⟩
    · unfold readValue
      split
      · exact .error nofun
      · exact .bind (readString_limited ..) fun _ => .ok _
      · split
        · exact .ok _
        · exact members _ _
      · split
        · exact .ok _
        · exact items _ _
      · split
        · exact .ok _
        · exact readNumber_limited _
    · unfold readMembers
      split
      · refine .bind (readString_limited ..) fun (_, _) => ?_
        dsimp only
        split
        · refine .bind (value _) fun (_, _) => ?_
          dsimp only
          split
          · exact .ok _
          · exact members _ _
          · exact .error nofun
        · exact .error nofun
      · exact .error nofun
    · unfold readItems
      refine .bind (value _) fun (_, _) => ?_
      dsimp only
      split
      · exact .ok _
      · exact items _ _
      · exact .error nofun

theorem read_limited (s : String) : Limited (read s) := by
  unfold read readAll
  split
  · exact .error nofun
  · refine .bind ((values_limited _).1 _) fun (_, _) => ?_
    dsimp only
    split
    · exact .ok _
    · exact .error nofun

end Json

namespace Metadata

variable {location : Option Syntax.Location} {failure : Failure}

theorem addLine_refused {g : Gathered} {line : List Char}
    (refused : addLine location g line = .error failure) :
    ∃ count, failure = .tooManyDigits count ∧ Json.digitLimit < count := by
  unfold addLine at refused
  split at refused
  · cases refused
  · rcases bind_eq_error.mp refused with undecoded | ⟨outcome, _, done⟩
    · unfold decode at undecoded
      split at undecoded
      · cases undecoded
      · rename_i count many
        cases undecoded
        exact ⟨count, rfl, (Json.read_limited _).exceeds count many⟩
      · cases undecoded
    · split at done
      · cases done
      · split at done <;> cases done

theorem addLines_refused {g : Gathered} {lines : List (List Char)}
    (refused : (addLines location g lines).2 = some failure) :
    ∃ count, failure = .tooManyDigits count ∧ Json.digitLimit < count := by
  induction lines generalizing g with
  | nil => cases refused
  | cons line rest ih =>
    unfold addLines at refused
    split at refused
    · exact ih refused
    · rename_i here
      cases refused
      exact addLine_refused here

theorem upToFailure_refused {doc : String} {m : Metadata}
    (refused : upToFailure doc location = (m, some failure)) :
    ∃ count, failure = .tooManyDigits count ∧ Json.digitLimit < count :=
  addLines_refused (congrArg Prod.snd refused)

end Metadata

end GoIdl
