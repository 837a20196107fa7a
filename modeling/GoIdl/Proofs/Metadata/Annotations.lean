import GoIdl.Proofs.Json.Standard

/-!
# Values of annotations

An annotation has a value if its text is JSON, or one of three words that JSON does not have, and holds
no integer of too many digits. What has a value can be written as JSON again if its numbers are finite.
-/

namespace GoIdl.Metadata

open Json (Dialect)
open Syntax (Location)

/-- The texts that are decoded are those of the dialect that is read. Any other text is refused as
malformed, with its key, and is then no JSON, even with those words and without the limit on digits; or
decoding fails at an integer in it that is beyond the limit. A decoded value is written as standard JSON
exactly if its numbers are finite. -/
theorem decode_exactly (key value : String) (location : Option Location) :
    ((∃ json, decode key value location = .ok (.ok json)) ↔ Json.IsText Dialect.accepted value.toList) ∧
    (∀ error, decode key value location = .ok (.error error) →
      ¬ Json.IsText Dialect.standard value.toList ∧ ¬ Json.IsText Dialect.extended value.toList ∧
        ∃ reason, error = { cause := .malformedMetadata key value reason, location }) ∧
    (∀ failure, decode key value location = .error failure →
      ∃ count, failure = .tooManyDigits count ∧ Json.digitLimit < count ∧ Json.HasRun value.toList count) ∧
    ∀ json, decode key value location = .ok (.ok json) → ∀ layout : Json.Layout, layout.Blank →
      (Json.IsText Dialect.standard (Json.write layout json).toList ↔ json.Finite) := by
  rw [← Json.read_ok_iff]
  refine ⟨?_, fun error refused => ?_, fun failure failed => ?_,
    fun json _ layout blank => Json.isText_write_iff blank⟩
  · unfold decode
    cases outcome : Json.read value with
    | ok json => simp
    | error fault => cases fault <;> simp
  · unfold decode at refused
    split at refused
    · cases refused
    · cases refused
    · rename_i fault other outcome
      cases refused
      have no : ¬ Json.IsText Dialect.extended value.toList := by
        intro isText
        rcases Json.read_isText (D := .extended) (t := value) (List.Subset.refl _) isText with
          ⟨json, read⟩ | ⟨_, count, read⟩
        · rw [outcome] at read
          cases read
        · rw [outcome] at read
          cases read
          exact other count rfl
      exact ⟨fun isText => no (isText.within Dialect.standard_within), no, fault.message, rfl⟩
  · unfold decode at failed
    split at failed
    · cases failed
    · rename_i count outcome
      cases failed
      exact ⟨count, rfl, (Json.read_limited value).exceeds count outcome, Json.read_run outcome⟩
    · cases failed

/-- A word that no JSON text is, and that is written as it was read. -/
theorem nan_decoded : decode "k" "NaN" none = .ok (.ok (.float .nan)) ∧
    ¬ Json.IsText Dialect.standard "NaN".toList ∧
    ¬ Json.IsText Dialect.standard (Json.write .compact (.float .nan)).toList := by
  have word : ¬ Json.IsText Dialect.standard "NaN".toList := fun isText => by
    have letters : Json.Scans False "NaN".toList := (Json.Scans.plain (by decide)).iff (by decide)
    exact letters.unique isText.scans |>.mpr trivial
  exact ⟨rfl, word, word⟩

end GoIdl.Metadata
