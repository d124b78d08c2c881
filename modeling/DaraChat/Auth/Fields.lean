import DaraChat.Auth.JwtAuth

set_option autoImplicit false

/-! # The fields of a login frame

What follows `connect:` is a list of fields `key=value` with different keys and a `;` between
them (`LoginFields`). `parseFields_getlines_iff`: the field loop of `VerifyLogin` accepts these
texts and no others, and its map looks up what the list does.
-/

namespace DaraChat

/-- A field as it is written. -/
def fieldText (field : Str × Str) : Str := field.1 ++ '=' :: field.2

/-- `key=value` with a non-empty key. -/
structure IsField (field : Str × Str) : Prop where
  key : field.1 ≠ []
  equals : '=' ∉ field.1

/-- `body` is the text of these fields: keys are different, the fields stand with a `;` between
them, and one more may follow the last. -/
structure LoginFields (body : Str) (fields : List (Str × Str)) : Prop where
  each : ∀ field ∈ fields, IsField field
  separator : ∀ field ∈ fields, ';' ∉ fieldText field
  distinct : (fields.map Prod.fst).Nodup
  text : body = [';'].intercalate (fields.map fieldText) ∨
    fields ≠ [] ∧ body = [';'].intercalate (fields.map fieldText) ++ [';']

/-- Fields in a row are the fields of their text. -/
theorem loginFields_intercalate {fields : List (Str × Str)}
    (hkeys : (fields.map Prod.fst).Nodup ∧
      ∀ key ∈ fields.map Prod.fst, key ≠ [] ∧ '=' ∉ key ∧ ';' ∉ key)
    (hvalues : ∀ field ∈ fields, ';' ∉ field.2) :
    LoginFields ([';'].intercalate (fields.map fieldText)) fields where
  each field hmem :=
    have hkey := hkeys.2 field.1 (List.mem_map_of_mem hmem)
    ⟨hkey.1, hkey.2.1⟩
  separator field hmem := by
    rw [fieldText, List.mem_append, List.mem_cons, not_or, not_or]
    exact ⟨(hkeys.2 field.1 (List.mem_map_of_mem hmem)).2.2, by decide, hvalues field hmem⟩
  distinct := hkeys.1
  text := .inl rfl

/-- The map of a list of fields. -/
def fieldMap (fields : FieldMap) (list : List (Str × Str)) : FieldMap :=
  list.foldl (fun fields field => fields.insert field.1 field.2) fields

/-- The first `=` of a field ends its key. -/
theorem find_fieldText {field : Str × Str} (h : IsField field) :
    find (fieldText field) '=' 0 = some field.1.length := by
  simpa [fieldText] using find_append_cons (b := field.2) h.equals []

/-- The field loop on one part: it is a field whose key is new, and the loop goes on. -/
theorem parseFields_cons {fields m : FieldMap} {part : Str} {parts : List Str} :
    parseFields fields (part :: parts) = some m ↔
      ∃ field, part = fieldText field ∧ IsField field ∧ field.1 ∉ fields ∧
        parseFields (fields.insert field.1 field.2) parts = some m := by
  constructor
  · intro h
    unfold parseFields at h
    split at h
    -- no `=` in the field: refused
    · cases h
    · rename_i pos hpos
      obtain ⟨key, value, hpart, hkey, rfl⟩ := eq_of_find hpos
      rw [List.drop_zero] at hpart
      subst hpart
      rw [Nat.zero_add, List.take_left, drop_past] at h
      split at h
      -- an empty or a repeated key: refused
      · cases h
      · rename_i hnew
        rw [not_or, AList.lookup_isSome] at hnew
        exact ⟨(key, value), rfl, ⟨fun hnil => hnew.1 (List.length_eq_zero_iff.mpr hnil), hkey⟩,
          hnew.2, h⟩
  · rintro ⟨field, rfl, hfield, hnew, h⟩
    have hpos : ¬ (field.1.length = 0 ∨ (fields.lookup field.1).isSome = true) := by
      rw [not_or, AList.lookup_isSome]
      exact ⟨fun h => hfield.key (List.length_eq_zero_iff.mp h), hnew⟩
    have htake : (fieldText field).take field.1.length = field.1 := List.take_left
    have hdrop : (fieldText field).drop (field.1.length + 1) = field.2 := drop_past _ _ _
    simp only [parseFields, find_fieldText hfield]
    rw [htake, hdrop, if_neg hpos]
    exact h

/-- The field loop reads a list of fields with different, new keys, and nothing else. -/
theorem parseFields_iff {fields m : FieldMap} {parts : List Str} :
    parseFields fields parts = some m ↔
      ∃ list, parts = list.map fieldText ∧ (∀ field ∈ list, IsField field ∧ field.1 ∉ fields) ∧
        (list.map Prod.fst).Nodup ∧ m = fieldMap fields list := by
  -- the fields read so far grow with the list, so the keys must avoid them as well as each other
  induction parts generalizing fields with
  | nil =>
      constructor
      · intro h
        cases h
        exact ⟨[], rfl, by simp, List.nodup_nil, rfl⟩
      · rintro ⟨list, hparts, -, -, rfl⟩
        obtain rfl := List.map_eq_nil_iff.mp hparts.symm
        rfl
  | cons part parts ih =>
      rw [parseFields_cons]
      constructor
      · rintro ⟨field, rfl, hfield, hnew, h⟩
        obtain ⟨list, rfl, hall, hnodup, rfl⟩ := ih.mp h
        refine ⟨field :: list, rfl, ?_, ?_, rfl⟩
        · intro field' hmem
          rcases List.mem_cons.mp hmem with rfl | hmem
          · exact ⟨hfield, hnew⟩
          · obtain ⟨hfield', hnew'⟩ := hall field' hmem
            exact ⟨hfield', fun h => hnew' (AList.mem_insert _ |>.mpr (.inr h))⟩
        · rw [List.map_cons, List.nodup_cons]
          refine ⟨fun hmem => ?_, hnodup⟩
          obtain ⟨field', hmem', heq⟩ := List.mem_map.mp hmem
          exact (hall field' hmem').2 (AList.mem_insert _ |>.mpr (.inl heq))
      · rintro ⟨list, hparts, hall, hnodup, rfl⟩
        obtain _ | ⟨field, list⟩ := list
        · cases hparts
        obtain ⟨rfl, rfl⟩ := List.cons.inj hparts
        obtain ⟨hfield, hnew⟩ := hall field List.mem_cons_self
        rw [List.map_cons, List.nodup_cons] at hnodup
        refine ⟨field, rfl, hfield, hnew, ih.mpr ⟨list, rfl, ?_, hnodup.2, rfl⟩⟩
        intro field' hmem
        obtain ⟨hfield', hnew'⟩ := hall field' (List.mem_cons_of_mem _ hmem)
        refine ⟨hfield', fun h => ?_⟩
        rcases (AList.mem_insert _).mp h with heq | h
        · exact hnodup.1 (List.mem_map.mpr ⟨field', hmem, heq⟩)
        · exact hnew' h

/-- The parts of a frame are its fields. -/
theorem getlines_of_loginFields {body : Str} {fields : List (Str × Str)}
    (h : LoginFields body fields) : getlines ';' [] body = fields.map fieldText := by
  have hsep : ∀ p ∈ fields.map fieldText, ';' ∉ p := by
    intro p hp
    obtain ⟨field, hmem, rfl⟩ := List.mem_map.mp hp
    exact h.separator field hmem
  obtain htext | ⟨hne, htext⟩ := h.text
  · rw [htext]
    refine getlines_intercalate hsep fun p hp => ?_
    obtain ⟨field, -, rfl⟩ := List.mem_map.mp (List.mem_of_mem_getLast? hp)
    exact List.append_ne_nil_of_right_ne_nil _ (List.cons_ne_nil _ _)
  · rw [htext]
    exact getlines_intercalate_append hsep (List.map_eq_nil_iff.not.mpr hne)

/-- **The field loop accepts the frames that are a list of fields**, and returns its map. -/
theorem parseFields_getlines_iff {body : Str} {m : FieldMap} :
    parseFields ∅ (getlines ';' [] body) = some m ↔
      ∃ fields, LoginFields body fields ∧ m = fieldMap ∅ fields := by
  rw [parseFields_iff]
  constructor
  · rintro ⟨fields, hparts, hall, hnodup, rfl⟩
    refine ⟨fields, ⟨fun field hmem => (hall field hmem).1, fun field hmem => ?_, hnodup, ?_⟩, rfl⟩
    · refine delim_notMem_getlines body [] List.not_mem_nil _ ?_
      rw [hparts]
      exact List.mem_map_of_mem hmem
    · have htext := eq_of_getlines ';' body []
      rw [hparts, List.reverse_nil, List.nil_append, ne_eq, List.map_eq_nil_iff] at htext
      exact htext
  · rintro ⟨fields, h, rfl⟩
    exact ⟨fields, getlines_of_loginFields h, fun field hmem => ⟨h.each field hmem, by simp⟩,
      h.distinct, rfl⟩

theorem lookup_fieldMap {m : FieldMap} {list : List (Str × Str)} (key : Str)
    (hnodup : (list.map Prod.fst).Nodup) :
    (fieldMap m list).lookup key = (list.lookup key).or (m.lookup key) := by
  induction list generalizing m with
  | nil => rfl
  | cons field list ih =>
      rw [List.map_cons, List.nodup_cons] at hnodup
      show (fieldMap (m.insert field.1 field.2) list).lookup key = _
      rw [ih hnodup.2]
      by_cases hkey : key = field.1
      · subst hkey
        have hnone : list.lookup field.1 = none := by
          rw [List.lookup_eq_none_iff]
          intro p hp
          rw [bne_iff_ne]
          exact fun h => hnodup.1 (h ▸ List.mem_map_of_mem hp)
        rw [hnone, AList.lookup_insert, List.lookup_cons_self]
        rfl
      · have hbeq : (key == field.1) = false := beq_eq_false_iff_ne.mpr hkey
        rw [AList.lookup_insert_ne hkey, List.lookup_cons, hbeq]

/-- The map of the fields of a frame looks up what the list does. -/
theorem LoginFields.lookup_eq {body : Str} {fields : List (Str × Str)} (h : LoginFields body fields)
    (key : Str) : (fieldMap ∅ fields).lookup key = fields.lookup key := by
  rw [lookup_fieldMap key h.distinct, AList.lookup_empty, Option.or_none]

/-- A text is the fields of one map only. -/
theorem LoginFields.lookup_unique {body : Str} {fields fields' : List (Str × Str)}
    (h : LoginFields body fields) (h' : LoginFields body fields') (key : Str) :
    fields.lookup key = fields'.lookup key := by
  -- the map of the fields is what the field loop returns for the body
  have hmap : some (fieldMap ∅ fields) = some (fieldMap ∅ fields') :=
    (parseFields_getlines_iff.mpr ⟨fields, h, rfl⟩).symm.trans
      (parseFields_getlines_iff.mpr ⟨fields', h', rfl⟩)
  rw [← h.lookup_eq, ← h'.lookup_eq, Option.some.inj hmap]

end DaraChat
