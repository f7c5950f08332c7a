import TrustRegistry.Domain.Merge
import TrustRegistry.Lib.JsonPath

/-!
# The laws of merging contexts

What `mergeJsonValues` leaves at every path of the merged document, and that merging
the same document once more changes nothing.  The documents are those that can be
parsed, where a name stands once in an object.

## Main definitions

* `mergedValue` — what a merge puts under a name.
* `mergeDocuments` — the merge of two documents, again a document.
* `MergeLaws` — what holds of the merge, path by path.

## Main results

* `mergeMembers_eq` — a merged object: the members that are kept, then those of the
  caller.
* `mergeJsonValues_again` — the same document merged twice.
* `mergeLaws` — the laws of the merge.
-/

namespace TrustRegistry

/-! ### Setting a member -/

theorem member_insertMember_self (key : String) (value : Json) (members : List (String × Json)) :
    Json.member key (insertMember key value members) = some value := by
  have hremoved : Json.member key (removeMember key members) = none := by
    rw [removeMember, Json.member_filter key fun k => decide (k ≠ key), if_neg (by simp)]
  rw [insertMember, Json.member_append, hremoved, Option.none_or, Json.member_cons, if_pos rfl]

theorem member_insertMember_of_ne {name key : String} (h : name ≠ key) (value : Json)
    (members : List (String × Json)) :
    Json.member name (insertMember key value members) = Json.member name members := by
  rw [insertMember, member_append_cons_of_ne (Ne.symm h), List.append_nil, member_removeMember h]

/-! ### Members of a merged object -/

/-- What stands under a name after a merge, by what stood there before. -/
def mergedValue : Option Json → Json → Json
  | some baseValue, value => mergeJsonValues baseValue value
  | none, value => value

theorem mergeMembers_cons (base additional : List (String × Json)) (key : String) (value : Json) :
    mergeMembers base ((key, value) :: additional) =
      mergeMembers (insertMember key (mergedValue (Json.member key base) value) base)
        additional := by
  rw [mergeMembers]
  cases Json.member key base with
  | none => rfl
  | some baseValue => rfl

/-- **A merged object**: the members of the base that are not named, then those that
are, each merged with what was there. -/
theorem mergeMembers_eq (additional : List (String × Json)) :
    ∀ base, (additional.map Prod.fst).Nodup →
      mergeMembers base additional =
        (base.filter fun m => decide (m.1 ∉ additional.map Prod.fst)) ++
          additional.map fun m => (m.1, mergedValue (Json.member m.1 base) m.2) := by
  induction additional with
  | nil =>
    intro base _
    rw [mergeMembers]
    simp
  | cons m additional ih =>
    intro base hnodup
    obtain ⟨key, value⟩ := m
    rw [List.map_cons, List.nodup_cons] at hnodup
    obtain ⟨hkey, hnodup⟩ := hnodup
    -- the named member goes to the end, and nothing later names it again
    rw [mergeMembers_cons, ih _ hnodup, insertMember, removeMember, List.filter_append,
      List.filter_filter]
    have hkept : List.filter (fun m : String × Json => decide (m.1 ∉ additional.map Prod.fst))
        [(key, mergedValue (Json.member key base) value)] =
          [(key, mergedValue (Json.member key base) value)] :=
      List.filter_cons_of_pos (decide_eq_true hkey)
    have hlater : (additional.map fun m => (m.1, mergedValue (Json.member m.1
        (insertMember key (mergedValue (Json.member key base) value) base)) m.2)) =
          additional.map fun m => (m.1, mergedValue (Json.member m.1 base) m.2) := by
      refine List.map_congr_left fun m hm => ?_
      have hne : m.1 ≠ key := fun h => hkey (h ▸ List.mem_map.mpr ⟨m, hm, rfl⟩)
      rw [member_insertMember_of_ne hne]
    rw [insertMember, removeMember] at hlater
    rw [hkept, hlater, List.map_cons, List.append_assoc, List.singleton_append]
    congr 1
    refine List.filter_congr fun m _ => ?_
    simp only [List.mem_cons, not_or, Bool.decide_and, Bool.and_comm]

/-- **The member called `name` of a merged object.** -/
theorem member_mergeMembers_eq (name : String) {base additional : List (String × Json)}
    (hnodup : (additional.map Prod.fst).Nodup) :
    Json.member name (mergeMembers base additional) =
      match Json.member name additional with
      | some value => some (mergedValue (Json.member name base) value)
      | none => Json.member name base := by
  cases h : Json.member name additional with
  | none => exact member_mergeMembers additional base (Json.member_eq_none_iff.mp h)
  | some value =>
    have hname : name ∈ additional.map Prod.fst :=
      List.mem_map.mpr ⟨(name, value), Json.mem_of_member h, rfl⟩
    rw [mergeMembers_eq additional base hnodup, Json.member_append,
      Json.member_filter name fun k => decide (k ∉ additional.map Prod.fst),
      if_neg (by simpa using hname),
      Json.member_map name fun k => mergedValue (Json.member k base), h]
    rfl

/-- Where not both are objects, the caller's document replaces the other. -/
theorem mergeJsonValues_of_not_object {base additional : Json}
    (h : additional.isObject = false ∨ base.isObject = false) :
    mergeJsonValues base additional = additional := by
  cases base with
  | obj base =>
    cases additional with
    | obj additional => simp [Json.isObject] at h
    | _ => rw [mergeJsonValues]; simp
  | _ => rw [mergeJsonValues]; simp

/-- Both are objects, or one replaces the other. -/
theorem mergeJsonValues_cases (base additional : Json) :
    (∃ baseMembers members, base = .obj baseMembers ∧ additional = .obj members) ∨
      mergeJsonValues base additional = additional := by
  rcases Json.eq_obj_or_not base with ⟨baseMembers, rfl⟩ | hbase
  · rcases Json.eq_obj_or_not additional with ⟨members, rfl⟩ | hadditional
    · exact Or.inl ⟨baseMembers, members, rfl, rfl⟩
    · exact Or.inr (mergeJsonValues_of_not_object (Or.inl hadditional))
  · exact Or.inr (mergeJsonValues_of_not_object (Or.inr hbase))

@[simp] theorem mergeJsonValues_null (additional : Json) :
    mergeJsonValues .null additional = additional :=
  mergeJsonValues_of_not_object (Or.inr rfl)

/-! ### The merge of two documents is a document -/

theorem distinct_mergedValue {b : Option Json} {value : Json} (hvalue : value.distinct = true)
    (hb : ∀ baseValue, b = some baseValue → (mergeJsonValues baseValue value).distinct = true) :
    (mergedValue b value).distinct = true := by
  cases b with
  | none => exact hvalue
  | some baseValue => exact hb baseValue rfl

/-- Names stand once in a merged object. -/
theorem nodup_mergeMembers {base additional : List (String × Json)}
    (hbase : (base.map Prod.fst).Nodup) (hadditional : (additional.map Prod.fst).Nodup) :
    ((mergeMembers base additional).map Prod.fst).Nodup := by
  rw [mergeMembers_eq additional base hadditional, List.map_append, List.map_map,
    List.nodup_append]
  refine ⟨hbase.sublist (List.filter_sublist.map Prod.fst), hadditional, ?_⟩
  intro name hkept name' hnamed heq
  obtain ⟨m, hm, rfl⟩ := List.mem_map.mp hkept
  have hnot : m.1 ∉ additional.map Prod.fst := of_decide_eq_true (List.mem_filter.mp hm).2
  exact hnot (heq ▸ hnamed)

theorem distinct_mergeJsonValues (additional : Json) :
    ∀ base : Json, base.distinct = true → additional.distinct = true →
      (mergeJsonValues base additional).distinct = true := by
  induction additional using Json.member_induction with
  | leaf additional hleaf =>
    intro base _ hadditional
    rw [mergeJsonValues_of_not_object (Or.inl hleaf)]
    exact hadditional
  | obj additional ih =>
    intro base hbase hadditional
    rcases Json.eq_obj_or_not base with ⟨base, rfl⟩ | hobj
    · rw [Json.distinct_obj_iff] at hbase hadditional
      rw [mergeJsonValues, Json.distinct_obj_iff]
      refine ⟨nodup_mergeMembers hbase.1 hadditional.1, fun name j hmem => ?_⟩
      rw [mergeMembers_eq additional base hadditional.1] at hmem
      rcases List.mem_append.mp hmem with hkept | hnamed
      · exact hbase.2 name j (List.mem_of_mem_filter hkept)
      · obtain ⟨m, hm, heq⟩ := List.mem_map.mp hnamed
        obtain ⟨rfl, rfl⟩ := Prod.mk.inj heq
        refine distinct_mergedValue (hadditional.2 m.1 m.2 hm) fun baseValue hb => ?_
        exact ih m.1 m.2 hm baseValue
          (hbase.2 m.1 baseValue (Json.mem_of_member hb)) (hadditional.2 m.1 m.2 hm)
    · rw [mergeJsonValues_of_not_object (Or.inr hobj)]
      exact hadditional

/-- The merge of two documents. -/
def mergeDocuments (base additional : Json.Document) : Json.Document where
  value := mergeJsonValues base.value additional.value
  distinct := distinct_mergeJsonValues additional.value base.value base.distinct
    additional.distinct

/-! ### Merging the same document again -/

/-- The members of an object merged once more into what the object gave. -/
theorem mergeMembers_again {base additional : List (String × Json)}
    (hnodup : (additional.map Prod.fst).Nodup)
    (ih : ∀ name value, (name, value) ∈ additional → ∀ b, mergeJsonValues
      (mergeJsonValues b value) value = mergeJsonValues b value) :
    mergeMembers (mergeMembers base additional) additional = mergeMembers base additional := by
  have hvalue : ∀ m ∈ additional,
      mergedValue (Json.member m.1 (mergeMembers base additional)) m.2 =
        mergedValue (Json.member m.1 base) m.2 := by
    intro m hm
    rw [member_mergeMembers_eq m.1 hnodup, Json.member_of_mem hnodup hm]
    show mergeJsonValues (mergedValue (Json.member m.1 base) m.2) m.2 = _
    cases Json.member m.1 base with
    | none =>
      have hnull := ih m.1 m.2 hm .null
      rw [mergeJsonValues_null] at hnull
      exact hnull
    | some baseValue => exact ih m.1 m.2 hm baseValue
  have hnamed : (additional.map fun m => (m.1, mergedValue (Json.member m.1
      (mergeMembers base additional)) m.2)) =
        additional.map fun m => (m.1, mergedValue (Json.member m.1 base) m.2) :=
    List.map_congr_left fun m hm => by rw [hvalue m hm]
  rw [mergeMembers_eq additional (mergeMembers base additional) hnodup, hnamed,
    mergeMembers_eq additional base hnodup, List.filter_append, List.filter_filter]
  -- what the first merge has named, the second one takes out before naming it
  have hout : (additional.map fun m => (m.1, mergedValue (Json.member m.1 base) m.2)).filter
      (fun m => decide (m.1 ∉ additional.map Prod.fst)) = [] := by
    rw [List.filter_eq_nil_iff]
    intro m hm
    obtain ⟨m', hm', rfl⟩ := List.mem_map.mp hm
    simpa using ⟨m'.2, hm'⟩
  rw [hout, List.append_nil]
  simp only [Bool.and_self]

/-- **Merging the same document again changes nothing.** -/
theorem mergeJsonValues_again (additional : Json) :
    additional.distinct = true → ∀ base : Json,
      mergeJsonValues (mergeJsonValues base additional) additional =
        mergeJsonValues base additional := by
  induction additional using Json.member_induction with
  | leaf additional hleaf =>
    intro _ base
    rw [mergeJsonValues_of_not_object (Or.inl hleaf), mergeJsonValues_of_not_object (Or.inl hleaf)]
  | obj additional ih =>
    intro hadditional base
    rw [Json.distinct_obj_iff] at hadditional
    have hmembers : ∀ base, mergeMembers (mergeMembers base additional) additional =
        mergeMembers base additional := fun base =>
      mergeMembers_again hadditional.1 fun name value hmem =>
        ih name value hmem (hadditional.2 name value hmem)
    rcases Json.eq_obj_or_not base with ⟨base, rfl⟩ | hobj
    · rw [mergeJsonValues, mergeJsonValues, hmembers]
    · -- the object itself is what merging it into no members gives
      have hempty : mergeMembers [] additional = additional := by
        rw [mergeMembers_eq additional [] hadditional.1]
        simp [mergedValue]
      have hself := hmembers []
      rw [hempty] at hself
      rw [mergeJsonValues_of_not_object (Or.inr hobj), mergeJsonValues, hself]

/-- Merging a document into itself changes nothing. -/
theorem mergeJsonValues_self {v : Json} (hv : v.distinct = true) : mergeJsonValues v v = v := by
  have h := mergeJsonValues_again v hv .null
  rw [mergeJsonValues_null] at h
  exact h

/-- A record that has been merged with a context is not changed by the same context. -/
theorem TrustRecord.mergeContexts_again (r : TrustRecord) {additional : Context}
    (h : additional.value.distinct = true) :
    (r.mergeContexts additional).mergeContexts additional = r.mergeContexts additional := by
  unfold TrustRecord.mergeContexts Context.merge
  rw [mergeJsonValues_again additional.value h]

/-! ### Path by path -/

/-- Behind a name of a merged object stands what the merge has put under it. -/
theorem child_merge_of_named {name : String} {base additional : List (String × Json)}
    {value : Json} (hnodup : (additional.map Prod.fst).Nodup)
    (h : Json.member name additional = some value) :
    (mergeJsonValues (.obj base) (.obj additional)).child (.key name) =
      some (mergedValue (Json.member name base) value) := by
  rw [mergeJsonValues]
  show Json.member name (mergeMembers base additional) = _
  rw [member_mergeMembers_eq name hnodup, h]

/-- Behind a name that the caller does not have stands what was there before. -/
theorem child_merge_of_not_named {name : String} {base additional : List (String × Json)}
    (h : Json.member name additional = none) :
    (mergeJsonValues (.obj base) (.obj additional)).child (.key name) =
      Json.member name base :=
  get_mergeJsonValues (Json.member_eq_none_iff.mp h)

/-- **Where not both hold an object, the merge holds what the caller's document does.** -/
theorem valueAt_merge_of_replaced (path : List Json.Step) :
    ∀ base additional v : Json, additional.distinct = true →
      additional.valueAt path = some v →
      (v.isObject = false ∨ ∀ b, base.valueAt path = some b → b.isObject = false) →
      (mergeJsonValues base additional).valueAt path = some v := by
  induction path with
  | nil =>
    intro base additional v _ hv hnot
    obtain rfl := Option.some.inj hv
    rw [mergeJsonValues_of_not_object (hnot.imp_right fun h => h base rfl)]
    rfl
  | cons s path ih =>
    intro base additional v hadditional hv hnot
    rcases mergeJsonValues_cases base additional with ⟨base, additional, rfl, rfl⟩ | hreplaced
    · rw [Json.distinct_obj_iff] at hadditional
      obtain ⟨value, hchild, hpath⟩ := Json.valueAt_cons_eq_some.mp hv
      cases s with
      | item index => cases hchild
      | key name =>
        rw [Json.valueAt_cons, child_merge_of_named hadditional.1 hchild, Option.bind_some]
        have hdistinct := hadditional.2 name value (Json.mem_of_member hchild)
        cases hb : Json.member name base with
        | none => exact hpath
        | some baseValue =>
          refine ih baseValue value v hdistinct hpath (hnot.imp_right fun h b hbv => h b ?_)
          rw [Json.valueAt_key_cons, hb]
          exact hbv
    · rw [hreplaced, hv]

/-- **What the caller's document does not name is kept**, at the end of names that
lead through objects of both. -/
theorem valueAt_merge_of_kept (through : List String) (name : String) (path : List Json.Step) :
    ∀ base additional : Json, additional.distinct = true →
      (∃ baseMembers, base.valueAt (through.map .key) = some (.obj baseMembers)) →
      (∃ members, additional.valueAt (through.map .key) = some (.obj members) ∧
        Json.member name members = none) →
      (mergeJsonValues base additional).valueAt (through.map .key ++ .key name :: path) =
        base.valueAt (through.map .key ++ .key name :: path) := by
  induction through with
  | nil =>
    rintro base additional _ ⟨baseMembers, hbase⟩ ⟨members, hmembers, hname⟩
    obtain rfl := Option.some.inj hbase
    obtain rfl := Option.some.inj hmembers
    show Json.valueAt _ (.key name :: path) = _
    rw [Json.valueAt_cons, child_merge_of_not_named hname]
    rfl
  | cons next through ih =>
    rintro base additional hadditional ⟨baseMembers, hbase⟩ ⟨members, hmembers, hname⟩
    obtain ⟨baseValue, hb, hbelow⟩ := Json.valueAt_cons_eq_some.mp hbase
    obtain ⟨value, hvalue, hlacks⟩ := Json.valueAt_cons_eq_some.mp hmembers
    cases base with
    | obj base =>
      cases additional with
      | obj additional =>
        rw [Json.distinct_obj_iff] at hadditional
        have hdistinct := hadditional.2 next value (Json.mem_of_member hvalue)
        have hkept := ih baseValue value hdistinct ⟨baseMembers, hbelow⟩ ⟨members, hlacks, hname⟩
        show Json.valueAt _ (.key next :: (through.map .key ++ .key name :: path)) =
          Json.valueAt _ (.key next :: (through.map .key ++ .key name :: path))
        replace hb : Json.member next base = some baseValue := hb
        rw [Json.valueAt_cons, child_merge_of_named hadditional.1 hvalue, Json.valueAt_key_cons, hb]
        exact hkept
      | _ => cases hvalue
    | _ => cases hb

/-- **Every path of the merge is one of the two documents.** -/
theorem valueAt_merge_some (path : List Json.Step) :
    ∀ base additional v : Json, additional.distinct = true →
      (mergeJsonValues base additional).valueAt path = some v →
      (base.valueAt path).isSome = true ∨ (additional.valueAt path).isSome = true := by
  induction path with
  | nil =>
    intro base additional v _ _
    exact Or.inl rfl
  | cons s path ih =>
    intro base additional v hadditional hv
    rcases mergeJsonValues_cases base additional with ⟨base, additional, rfl, rfl⟩ | hreplaced
    · rw [Json.distinct_obj_iff] at hadditional
      cases s with
      | item index =>
        rw [mergeJsonValues, Json.valueAt_item_cons] at hv
        cases hv
      | key name =>
        rw [Json.valueAt_key_cons, Json.valueAt_key_cons]
        obtain ⟨merged, hmerged, hv⟩ := Json.valueAt_cons_eq_some.mp hv
        cases hvalue : Json.member name additional with
        | none =>
          rw [child_merge_of_not_named hvalue] at hmerged
          rw [hmerged]
          exact Or.inl (Option.isSome_of_eq_some hv)
        | some value =>
          rw [child_merge_of_named hadditional.1 hvalue] at hmerged
          obtain rfl := Option.some.inj hmerged
          have hdistinct := hadditional.2 name value (Json.mem_of_member hvalue)
          cases hb : Json.member name base with
          | none =>
            rw [hb] at hv
            exact Or.inr (Option.isSome_of_eq_some hv)
          | some baseValue =>
            rw [hb] at hv
            exact ih baseValue value v hdistinct hv
    · rw [hreplaced] at hv
      exact Or.inr (Option.isSome_of_eq_some hv)

/-- What holds of the merge of two documents. -/
structure MergeLaws (base additional : Json.Document) : Prop where
  /-- what the caller's document holds replaces what was there, objects for objects
  apart -/
  replaces : ∀ path v, additional.value.valueAt path = some v →
    (v.isObject = false ∨ ∀ b, base.value.valueAt path = some b → b.isObject = false) →
    (mergeDocuments base additional).value.valueAt path = some v
  /-- what lies under a name that the caller's object lacks is kept, where names lead to
  objects of both -/
  keeps : ∀ (through : List String) name path baseMembers members,
    base.value.valueAt (through.map Json.Step.key) = some (.obj baseMembers) →
    additional.value.valueAt (through.map Json.Step.key) = some (.obj members) →
    Json.member name members = none →
    (mergeDocuments base additional).value.valueAt (through.map .key ++ .key name :: path) =
      base.value.valueAt (through.map .key ++ .key name :: path)
  /-- nothing comes from elsewhere -/
  from_either : ∀ path v, (mergeDocuments base additional).value.valueAt path = some v →
    (base.value.valueAt path).isSome = true ∨ (additional.value.valueAt path).isSome = true
  /-- the same document merged again changes nothing -/
  again : mergeDocuments (mergeDocuments base additional) additional =
    mergeDocuments base additional

/-- **The laws of the merge**, for every two documents; and a document merged into itself
is unchanged. -/
theorem mergeLaws (base additional : Json.Document) :
    MergeLaws base additional ∧ mergeDocuments additional additional = additional where
  left :=
    { replaces := fun path v hv hnot =>
        valueAt_merge_of_replaced path base.value additional.value v additional.distinct hv hnot
      keeps := fun through name path baseMembers members hbase hmembers hname =>
        valueAt_merge_of_kept through name path base.value additional.value additional.distinct
          ⟨baseMembers, hbase⟩ ⟨members, hmembers, hname⟩
      from_either := fun path v hv =>
        valueAt_merge_some path base.value additional.value v additional.distinct hv
      again := Json.Document.ext
        (mergeJsonValues_again additional.value additional.distinct base.value) }
  right := Json.Document.ext (mergeJsonValues_self additional.distinct)

end TrustRegistry
