import TrustRegistry.Lib.Json

/-!
# Paths into JSON documents

A path goes into a document by the names of members and the positions of items.
What a parsed document has besides its tree is that no object in it has two members
of one name.  Facts about members are proved by induction through them.

## Main definitions

* `Json.Step`, `Json.child`, `Json.valueAt` — steps, and what stands at a path.
* `Json.distinct` — no object has two members of one name.
* `Json.Document` — the documents that have this.

## Main results

* `Json.distinct_obj_iff` — what that says of an object.
* `Json.member_of_mem` — where names stand once, every member is found by its name.
* `Json.member_induction` — induction through the members of objects.
-/

namespace Json

/-- A step into a document. -/
inductive Step
  | key (name : String)
  | item (index : ℕ)
  deriving DecidableEq

/-- What a document has behind a step. -/
def child : Json → Step → Option Json
  | j, .key name => j.get name
  | .arr items, .item index => items[index]?
  | _, .item _ => none

/-- What a document has at a path. -/
def valueAt : Json → List Step → Option Json
  | j, [] => some j
  | j, s :: path => (j.child s).bind fun j' => j'.valueAt path

theorem valueAt_cons (j : Json) (s : Step) (path : List Step) :
    j.valueAt (s :: path) = (j.child s).bind fun j' => j'.valueAt path := rfl

/-- Behind the name of a member stands the member. -/
theorem valueAt_key_cons (members : List (String × Json)) (name : String) (path : List Step) :
    (obj members).valueAt (.key name :: path) =
      (member name members).bind fun j => j.valueAt path := rfl

/-- An object has no items. -/
theorem valueAt_item_cons (members : List (String × Json)) (index : ℕ) (path : List Step) :
    (obj members).valueAt (.item index :: path) = none := rfl

/-- A document is an object or it is not. -/
theorem eq_obj_or_not (j : Json) : (∃ members, j = obj members) ∨ j.isObject = false := by
  cases j with
  | obj members => exact Or.inl ⟨members, rfl⟩
  | _ => exact Or.inr rfl

theorem valueAt_cons_eq_some {j v : Json} {s : Step} {path : List Step} :
    j.valueAt (s :: path) = some v ↔ ∃ j', j.child s = some j' ∧ j'.valueAt path = some v := by
  rw [valueAt_cons, Option.bind_eq_some_iff]

/-! ### Members of changed objects -/

theorem member_append (name : String) (members members' : List (String × Json)) :
    member name (members ++ members') = (member name members).or (member name members') := by
  induction members with
  | nil => rfl
  | cons m members ih =>
    obtain ⟨k, v⟩ := m
    rw [List.cons_append, member_cons, member_cons, ih]
    split
    · rfl
    · rfl

/-- Members whose values are changed, each by its name. -/
theorem member_map (name : String) (f : String → Json → Json) (members : List (String × Json)) :
    member name (members.map fun m => (m.1, f m.1 m.2)) = (member name members).map (f name) := by
  induction members with
  | nil => rfl
  | cons m members ih =>
    obtain ⟨k, v⟩ := m
    rw [List.map_cons, member_cons, member_cons, ih]
    split
    · next h => rw [h, Option.map_some]
    · rfl

/-- Members chosen by their names. -/
theorem member_filter (name : String) (p : String → Bool) (members : List (String × Json)) :
    member name (members.filter fun m => p m.1) = if p name then member name members else none := by
  induction members with
  | nil => simp
  | cons m members ih =>
    obtain ⟨k, v⟩ := m
    rw [List.filter_cons, member_cons]
    by_cases hk : k = name
    · subst hk
      by_cases hp : p k = true
      · rw [if_pos hp, if_pos hp, member_cons, if_pos rfl, if_pos rfl]
      · rw [if_neg hp, ih, if_neg hp, if_neg hp]
    · rw [if_neg hk, ← ih]
      by_cases hp : p k = true
      · rw [if_pos hp, member_cons, if_neg hk]
      · rw [if_neg hp]

/-! ### Documents with distinct names -/

mutual

/-- No object in the document has two members of one name. -/
def distinct : Json → Bool
  | arr items => distinctItems items
  | obj members => decide (members.map Prod.fst).Nodup && distinctMembers members
  | _ => true

/-- The same of the items of an array. -/
def distinctItems : List Json → Bool
  | [] => true
  | j :: items => distinct j && distinctItems items

/-- The same of the members of an object. -/
def distinctMembers : List (String × Json) → Bool
  | [] => true
  | (_, j) :: members => distinct j && distinctMembers members

end

theorem distinctMembers_iff {members : List (String × Json)} :
    distinctMembers members = true ↔ ∀ name j, (name, j) ∈ members → distinct j = true := by
  induction members with
  | nil => simp [distinctMembers]
  | cons m members ih =>
    obtain ⟨k, v⟩ := m
    rw [distinctMembers, Bool.and_eq_true, ih]
    constructor
    · rintro ⟨hv, hmembers⟩ name j hmem
      rcases List.mem_cons.mp hmem with heq | hmem
      · obtain ⟨rfl, rfl⟩ := Prod.mk.inj heq
        exact hv
      · exact hmembers name j hmem
    · intro h
      exact ⟨h k v List.mem_cons_self, fun name j hmem => h name j (List.mem_cons_of_mem _ hmem)⟩

/-- **An object with distinct names**: names stand once in it, and the same holds of its
members. -/
theorem distinct_obj_iff {members : List (String × Json)} :
    distinct (obj members) = true ↔
      (members.map Prod.fst).Nodup ∧ ∀ name j, (name, j) ∈ members → distinct j = true := by
  rw [distinct, Bool.and_eq_true, decide_eq_true_eq, distinctMembers_iff]

/-- A document as it is parsed: no object in it has two members of one name. -/
structure Document where
  /-- the tree -/
  value : Json
  /-- names stand once in an object -/
  distinct : value.distinct = true

@[ext] theorem Document.ext {d d' : Document} (h : d.value = d'.value) : d = d' := by
  cases d
  cases d'
  cases h
  rfl

/-- A name that an object does not have is none of the names of its members. -/
theorem member_eq_none_iff {name : String} {members : List (String × Json)} :
    member name members = none ↔ name ∉ members.map Prod.fst := by
  induction members with
  | nil => simp
  | cons m members ih =>
    obtain ⟨k, v⟩ := m
    rw [member_cons]
    split
    · next h => simp [h]
    · next h => simp [ih, Ne.symm h]

theorem mem_of_member {name : String} {j : Json} {members : List (String × Json)}
    (h : member name members = some j) : (name, j) ∈ members := by
  induction members with
  | nil => cases h
  | cons m members ih =>
    obtain ⟨k, v⟩ := m
    rw [member_cons] at h
    split at h
    · next hk =>
      obtain rfl := Option.some.inj h
      rw [hk]
      exact List.mem_cons_self
    · exact List.mem_cons_of_mem _ (ih h)

theorem member_of_mem {name : String} {j : Json} {members : List (String × Json)}
    (hnodup : (members.map Prod.fst).Nodup) (h : (name, j) ∈ members) :
    member name members = some j := by
  induction members with
  | nil => cases h
  | cons m members ih =>
    obtain ⟨k, v⟩ := m
    rw [List.map_cons, List.nodup_cons] at hnodup
    rw [member_cons]
    rcases List.mem_cons.mp h with heq | hmem
    · obtain ⟨rfl, rfl⟩ := Prod.mk.inj heq
      rw [if_pos rfl]
    · have hne : k ≠ name := fun hk => hnodup.1 (hk ▸ List.mem_map.mpr ⟨(name, j), hmem, rfl⟩)
      rw [if_neg hne]
      exact ih hnodup.2 hmem

/-- **Induction through the members of objects.** -/
theorem member_induction {P : Json → Prop} (leaf : ∀ j, j.isObject = false → P j)
    (obj : ∀ members, (∀ name j, (name, j) ∈ members → P j) → P (obj members)) :
    ∀ j, P j
  | .null => leaf .null rfl
  | .bool b => leaf (.bool b) rfl
  | .num m e => leaf (.num m e) rfl
  | .str s => leaf (.str s) rfl
  | .arr items => leaf (.arr items) rfl
  | .obj members => obj members fun name j hmember => by
    have hmem := List.sizeOf_lt_of_mem hmember
    exact member_induction leaf obj j
termination_by j => sizeOf j
decreasing_by
  simp only [Prod.mk.sizeOf_spec, Json.obj.sizeOf_spec] at hmem ⊢
  omega

end Json
