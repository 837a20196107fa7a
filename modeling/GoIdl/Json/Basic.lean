import GoIdl.Decimal.Binary64

/-!
# JSON values

Objects keep their members in order of first appearance. Integers are exact; a number written with
a point or an exponent is a binary floating-point number.
-/

namespace GoIdl

open Decimal (Binary64)

inductive Json where
  | null
  | bool (value : Bool)
  | int (value : Int)
  | float (value : Binary64)
  | str (value : String)
  | arr (items : List Json)
  | obj (members : List (String × Json))
  deriving Inhabited

namespace Json

/-- Enters a member: a known key keeps its place and takes the new value. -/
def put {α : Type} (key : String) (value : α) : List (String × α) → List (String × α)
  | [] => [(key, value)]
  | (k, v) :: rest => if k = key then (k, value) :: rest else (k, v) :: put key value rest

/-- The value of a key in a list of members. -/
def find? {α : Type} (key : String) (members : List (String × α)) : Option α :=
  members.lookup key

def get? (key : String) : Json → Option Json
  | .obj members => find? key members
  | _ => none

end Json

end GoIdl
