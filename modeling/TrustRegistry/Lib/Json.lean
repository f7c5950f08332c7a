import Mathlib.Data.List.Basic

/-!
# JSON documents

Documents as trees, and the part of typed decoding that every record shares: a
document stands for a record with given field names when it is an object (the
fields by name, unknown ones ignored) or an array with one item per field (the
fields by position; the last ones may be left out if they have a default).

## Main definitions

* `Json` — the documents.
* `Json.get` — a member of an object.
* `Json.fields`, `Json.fieldsFrom` — the members a record with the given field names is
  read from.

## Main results

* `Json.fields_obj`, `Json.member_cons` — reading back what an object was
  written with.
-/

/-- A JSON document.  A number is a decimal mantissa and exponent. -/
inductive Json where
  /-- `null` -/
  | null
  /-- `true` and `false` -/
  | bool (b : Bool)
  /-- a number -/
  | num (mantissa exponent : Int)
  /-- a string -/
  | str (s : String)
  /-- an array -/
  | arr (items : List Json)
  /-- an object -/
  | obj (members : List (String × Json))
  deriving Inhabited

namespace Json

/-! ### Equality is decidable -/

mutual

/-- Equality of documents, by comparison of the trees. -/
def decEq : (a b : Json) → Decidable (a = b)
  | null, null => isTrue rfl
  | bool a, bool b => decidable_of_iff (a = b) (by simp)
  | num m e, num m' e' => decidable_of_iff (m = m' ∧ e = e') (by simp)
  | str a, str b => decidable_of_iff (a = b) (by simp)
  | arr a, arr b => have := decEqItems a b; decidable_of_iff (a = b) (by simp)
  | obj a, obj b => have := decEqMembers a b; decidable_of_iff (a = b) (by simp)
  | null, bool _ | null, num _ _ | null, str _ | null, arr _ | null, obj _
  | bool _, null | bool _, num _ _ | bool _, str _ | bool _, arr _ | bool _, obj _
  | num _ _, null | num _ _, bool _ | num _ _, str _ | num _ _, arr _ | num _ _, obj _
  | str _, null | str _, bool _ | str _, num _ _ | str _, arr _ | str _, obj _
  | arr _, null | arr _, bool _ | arr _, num _ _ | arr _, str _ | arr _, obj _
  | obj _, null | obj _, bool _ | obj _, num _ _ | obj _, str _ | obj _, arr _ =>
    isFalse (by simp)

/-- Equality of arrays. -/
def decEqItems : (a b : List Json) → Decidable (a = b)
  | [], [] => isTrue rfl
  | [], _ :: _ => isFalse (by simp)
  | _ :: _, [] => isFalse (by simp)
  | x :: a, y :: b =>
    have := decEq x y
    have := decEqItems a b
    decidable_of_iff (x = y ∧ a = b) (by simp)

/-- Equality of objects. -/
def decEqMembers : (a b : List (String × Json)) → Decidable (a = b)
  | [], [] => isTrue rfl
  | [], _ :: _ => isFalse (by simp)
  | _ :: _, [] => isFalse (by simp)
  | (k, x) :: a, (j, y) :: b =>
    have := decEq x y
    have := decEqMembers a b
    decidable_of_iff (k = j ∧ x = y ∧ a = b) (by simp [and_assoc])

end

instance : DecidableEq Json := decEq

/-! ### Reading members -/

/-- Is the document an object? -/
def isObject : Json → Bool
  | obj _ => true
  | _ => false

/-- Is the document an array? -/
def isArray : Json → Bool
  | arr _ => true
  | _ => false

/-- The string a document is, if it is one. -/
def asStr : Json → Option String
  | str s => some s
  | _ => none

/-- The boolean a document is, if it is one. -/
def asBool : Json → Option Bool
  | bool b => some b
  | _ => none

/-- The member called `name`. -/
def member (name : String) : List (String × Json) → Option Json
  | [] => none
  | (k, v) :: l => if k = name then some v else member name l

@[simp] theorem member_nil (name : String) : member name [] = none := rfl

theorem member_cons (name k : String) (v : Json) (l : List (String × Json)) :
    member name ((k, v) :: l) = if k = name then some v else member name l := rfl

/-- The member called `name`, of an object that has it. -/
def get (name : String) : Json → Option Json
  | obj l => member name l
  | _ => none

/-- The items of the array called `name`, none where there is no array. -/
def items (name : String) (j : Json) : List Json :=
  match j.get name with
  | some (arr l) => l
  | _ => []

/-- The members from which a record with the fields `names` is read: those of an
object, or the items of an array that has one for every field. -/
def fields (names : List String) : Json → Option (List (String × Json))
  | obj l => some l
  | arr l => if l.length = names.length then some (names.zip l) else none
  | _ => none

@[simp] theorem fields_obj (names : List String) (l : List (String × Json)) :
    fields names (obj l) = some l := rfl

/-- The same where the fields from the place `least` on have a default: an array may
leave these out. -/
def fieldsFrom (least : ℕ) (names : List String) : Json → Option (List (String × Json))
  | obj l => some l
  | arr l => if least ≤ l.length ∧ l.length ≤ names.length then some (names.zip l) else none
  | _ => none

/-- An optional member: absent and `null` both count as none, and one that is
there must decode. -/
def optional {β : Type*} (read : Json → Option β) : Option Json → Option (Option β)
  | none => some none
  | some null => some none
  | some j => (read j).map some

@[simp] theorem optional_none {β : Type*} (read : Json → Option β) :
    optional read none = some none := rfl

@[simp] theorem optional_bool (b : Bool) : optional asBool (some (bool b)) = some (some b) := rfl

end Json
