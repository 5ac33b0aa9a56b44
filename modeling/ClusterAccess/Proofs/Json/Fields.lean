import ClusterAccess.Proofs.Json.RoundTrip

/-!
Objects that are put together field by field. The last value that a key is given is its value, and
the object can be read back if all its values can.
-/

namespace ClusterAccess.Json

variable {key : String} {value : Json} {fields : List (String × Json)} {room : Nat}

theorem lookup_putField (key other : String) (value : Json) (fields : List (String × Json)) :
    lookup other (putField key value fields) =
      if key = other then some value else lookup other fields := by
  induction fields with
  | nil => rfl
  | cons field rest ih =>
      obtain ⟨k, v⟩ := field
      unfold putField
      split
      next => rfl
      next =>
        split
        next hkey =>
          subst hkey
          simp only [lookup]
          split <;> rfl
        next hne =>
          simp only [lookup, ih]
          by_cases hother : k = other
          · subst hother
            rw [if_pos rfl, if_pos rfl, if_neg hne]
          · rw [if_neg hother, if_neg hother]

theorem fieldsAreReadable_putField (hvalue : value.isReadable room = true)
    (hfields : fieldsAreReadable room fields = true) (key : String) :
    fieldsAreReadable room (putField key value fields) = true := by
  induction fields with
  | nil => simp [putField, fieldsAreReadable, hvalue]
  | cons field rest ih =>
      obtain ⟨k, v⟩ := field
      obtain ⟨hv, hrest⟩ := Bool.and_eq_true_iff.mp hfields
      unfold putField
      split
      next => simp [fieldsAreReadable, hvalue, hv, hrest]
      next =>
        split
        next => simp [fieldsAreReadable, hvalue, hrest]
        next => simp [fieldsAreReadable, hv, ih hrest]

theorem fieldsAreReadable_foldl_putField {later : List (String × Json)}
    (hlater : fieldsAreReadable room later = true)
    (hfields : fieldsAreReadable room fields = true) :
    fieldsAreReadable room (later.foldl (fun done (k, v) => putField k v done) fields) = true := by
  induction later generalizing fields with
  | nil => exact hfields
  | cons field rest ih =>
      obtain ⟨k, v⟩ := field
      obtain ⟨hv, hrest⟩ := Bool.and_eq_true_iff.mp hlater
      exact ih hrest (fieldsAreReadable_putField hv hfields k)

theorem isReadable_ofFields (hfields : fieldsAreReadable room fields = true) :
    (ofFields fields).isReadable (room + 1) = true := by
  rw [ofFields, isReadable, sortFields]
  exact fieldsAreReadable_foldl_putField hfields rfl

end ClusterAccess.Json
