import GoIdl.Failure

/-!
# Taking the value of an outcome
-/

namespace GoIdl.Outcome

def value (outcome : Except String String) : Except Failure String :=
  match outcome with
  | .ok value => .ok value
  | .error shown => .error (.noValue shown)

def valueOr (outcome : Except String String) (other : Option String) : Option String :=
  match outcome with
  | .ok value => some value
  | .error _ => other

end GoIdl.Outcome
