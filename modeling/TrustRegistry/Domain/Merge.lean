import TrustRegistry.Storage.Repository

/-!
# Merging contexts

A caller of the REST surface may send a context along.  It is merged into the one
of the record: objects member by member, and anything else of the caller's
replaces what was there.

## Main definitions

* `mergeJsonValues` — the merge of two documents.
* `Context.merge`, `TrustRecord.mergeContexts` — the same of contexts, and of a
  record with a context.

## Main results

* `get_mergeJsonValues` — members that the caller does not name are kept.
* `TrustRecord.query_mergeContexts` and its companions — only the context of the
  record changes.
-/

namespace TrustRegistry

/-- The members without the one called `key`. -/
def removeMember (key : String) (members : List (String × Json)) : List (String × Json) :=
  members.filter fun m => m.1 ≠ key

/-- The members with the one called `key` set. -/
def insertMember (key : String) (value : Json) (members : List (String × Json)) :
    List (String × Json) :=
  removeMember key members ++ [(key, value)]

mutual

/-- The second document merged into the first. -/
def mergeJsonValues : (base additional : Json) → Json
  | .obj base, .obj additional => .obj (mergeMembers base additional)
  | _, additional => additional

/-- The members of the second object merged into those of the first, one after
the other. -/
def mergeMembers : (base additional : List (String × Json)) → List (String × Json)
  | base, [] => base
  | base, (key, value) :: additional =>
    let merged := match Json.member key base with
      | some baseValue => mergeJsonValues baseValue value
      | none => value
    mergeMembers (insertMember key merged base) additional

end

theorem member_removeMember {name key : String} (h : name ≠ key)
    (members : List (String × Json)) :
    Json.member name (removeMember key members) = Json.member name members := by
  induction members with
  | nil => rfl
  | cons m members ih =>
    obtain ⟨k, v⟩ := m
    rw [Json.member_cons, ← ih]
    unfold removeMember
    by_cases hk : k = key
    · have hne : k ≠ name := fun hkn => h (hkn ▸ hk)
      rw [List.filter_cons_of_neg (by simp [hk]), if_neg hne]
    · rw [List.filter_cons_of_pos (by simp [hk]), Json.member_cons]

theorem member_append_cons_of_ne {name key : String} (h : key ≠ name) (value : Json)
    (before after : List (String × Json)) :
    Json.member name (before ++ (key, value) :: after) = Json.member name (before ++ after) := by
  induction before with
  | nil => simp [Json.member_cons, h]
  | cons m before ih =>
    obtain ⟨k, v⟩ := m
    simp [Json.member_cons, ih]

theorem member_mergeMembers {name : String} (additional : List (String × Json)) :
    ∀ base, name ∉ additional.map Prod.fst →
      Json.member name (mergeMembers base additional) = Json.member name base := by
  induction additional with
  | nil =>
    intro base _
    rw [mergeMembers]
  | cons m additional ih =>
    intro base hname
    obtain ⟨key, value⟩ := m
    simp only [List.map_cons, List.mem_cons, not_or] at hname
    rw [mergeMembers, ih _ hname.2, insertMember,
      member_append_cons_of_ne (Ne.symm hname.1), List.append_nil, member_removeMember hname.1]

/-- **Members that the caller does not name are kept.** -/
theorem get_mergeJsonValues {name : String} {base additional : List (String × Json)}
    (h : name ∉ additional.map Prod.fst) :
    (mergeJsonValues (.obj base) (.obj additional)).get name = Json.get name (.obj base) := by
  rw [mergeJsonValues]
  exact member_mergeMembers additional base h

/-- One context merged into another. -/
def Context.merge (base additional : Context) : Context :=
  ⟨mergeJsonValues base.value additional.value⟩

namespace TrustRecord

/-- A record with a context merged into its own. -/
def mergeContexts (r : TrustRecord) (additional : Context) : TrustRecord :=
  { r with context := r.context.merge additional }

@[simp] theorem query_mergeContexts (r : TrustRecord) (additional : Context) :
    (r.mergeContexts additional).query = r.query := rfl

@[simp] theorem isRecognized_mergeContexts (r : TrustRecord) (additional : Context) :
    (r.mergeContexts additional).isRecognized = r.isRecognized := rfl

@[simp] theorem isAuthorized_mergeContexts (r : TrustRecord) (additional : Context) :
    (r.mergeContexts additional).isAuthorized = r.isAuthorized := rfl

end TrustRecord

example : mergeJsonValues (.obj [("a", .obj [("x", .bool true), ("y", .null)])])
    (.obj [("a", .obj [("x", .str "z")])]) =
      .obj [("a", .obj [("y", .null), ("x", .str "z")])] := by decide

end TrustRegistry
