import TrustRegistry.Lib.Json

/-!
# JSON documents up to their numbers

A document that is written out as text and parsed again comes back with the same
strings, the same members and the same items; only a number may be rounded.  Two
documents are compared here by what is left of them without their numbers, and
whatever is read from strings is read from both alike.

## Main definitions

* `Json.shape` — a document without its numbers.

## Main results

* `Json.member_shapeMembers`, `Json.get_shape` — members are found by shape.
* `Json.asStr_shape`, `Json.asBool_shape` — strings and booleans are kept.
* `Json.asStr_get_of_shape_eq` — a string member is the same in documents of one
  shape.
-/

namespace Json

mutual

/-- The document with every number replaced by zero. -/
def shape : Json → Json
  | null => null
  | bool b => bool b
  | num _ _ => num 0 0
  | str s => str s
  | arr l => arr (shapeItems l)
  | obj l => obj (shapeMembers l)

/-- The same for the items of an array. -/
def shapeItems : List Json → List Json
  | [] => []
  | j :: l => shape j :: shapeItems l

/-- The same for the members of an object. -/
def shapeMembers : List (String × Json) → List (String × Json)
  | [] => []
  | (name, j) :: l => (name, shape j) :: shapeMembers l

end

theorem shapeMembers_eq_map (l : List (String × Json)) :
    shapeMembers l = l.map fun m => (m.1, m.2.shape) := by
  induction l with
  | nil => rfl
  | cons m l ih => rw [shapeMembers, ih, List.map_cons]

/-- A member is found by the shape of the object. -/
theorem member_shapeMembers (name : String) (l : List (String × Json)) :
    member name (shapeMembers l) = (member name l).map shape := by
  induction l with
  | nil => rfl
  | cons m l ih =>
    rw [shapeMembers, member_cons, member_cons, ih]
    split <;> rfl

theorem get_shape (name : String) (j : Json) : j.shape.get name = (j.get name).map shape := by
  cases j with
  | obj l => exact member_shapeMembers name l
  | _ => rfl

@[simp] theorem asStr_shape (j : Json) : j.shape.asStr = j.asStr := by cases j <;> rfl

@[simp] theorem asBool_shape (j : Json) : j.shape.asBool = j.asBool := by cases j <;> rfl

/-- Members of one shape are both there or both missing, and have one shape. -/
theorem member_of_shape_eq {l l' : List (String × Json)} (h : shapeMembers l' = shapeMembers l)
    (name : String) : (member name l').map shape = (member name l).map shape := by
  rw [← member_shapeMembers, h, member_shapeMembers]

/-- What is read from a member in terms of its shape is read from both alike. -/
theorem bind_member_of_shape_eq {β : Type*} {l l' : List (String × Json)}
    (h : shapeMembers l' = shapeMembers l) (name : String) {read : Json → Option β}
    (hread : ∀ j, read j.shape = read j) :
    (member name l').bind read = (member name l).bind read := by
  have hshape : ∀ o : Option Json, o.bind read = (o.map shape).bind read := by
    intro o
    cases o with
    | none => rfl
    | some j => exact (hread j).symm
  rw [hshape, member_of_shape_eq h, ← hshape]

/-- **A string member is the same in documents of one shape.** -/
theorem asStr_get_of_shape_eq {j j' : Json} (h : j'.shape = j.shape) (name : String) :
    (j'.get name).bind asStr = (j.get name).bind asStr := by
  have hshape : ∀ i : Json, (i.get name).bind asStr = (i.shape.get name).bind asStr := by
    intro i
    rw [get_shape]
    cases i.get name with
    | none => rfl
    | some m => exact (asStr_shape m).symm
  rw [hshape, h, ← hshape]

end Json
