import GoIdl.Syntax.TypeExpr

/-!
# Grouping parameters

In `(a, b int)` the entry `a` reads as a type but is a name whose type follows. As soon as one
entry has a name, every entry needs one.
-/

namespace GoIdl.Syntax

/-- The name that an entry without a name may turn out to be. -/
def Param.asName? (p : Param TypeExpr) : Option String :=
  match p.variadic, p.type with
  | false, .named ⟨_, none, name⟩ => some name
  | _, _ => none

/-- A name takes type and ellipsis of the entry that ends its group. -/
def Param.named (entry : Param TypeExpr) : Position × String → Param TypeExpr
  | (pos, name) => { entry with pos, name := some name }

/-- Gives every entry a name. `pending` holds the bare names before the rest, the last first; the
position of an entry that cannot be a name, or of the list if names are left over, is a fault. -/
def groupFrom (listPos : Position) (pending : List (Position × String)) :
    List (Param TypeExpr) → Except Position (List (Param TypeExpr))
  | [] => if pending.isEmpty then .ok [] else .error listPos
  | entry :: rest =>
    match entry.name with
    | some _ => do
      let more ← groupFrom listPos [] rest
      return pending.reverse.map entry.named ++ entry :: more
    | none =>
      match entry.asName? with
      | some name => groupFrom listPos ((entry.pos, name) :: pending) rest
      | none => .error entry.pos

def groupParams (listPos : Position) (params : List (Param TypeExpr)) :
    Except Position (List (Param TypeExpr)) :=
  if params.any (·.name.isSome) then groupFrom listPos [] params else .ok params

end GoIdl.Syntax
