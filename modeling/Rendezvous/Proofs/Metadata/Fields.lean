import Mathlib
import Rendezvous.Metadata

/-!
# The fields that metadata is made of

Every field that comes with a call counts for the size of its metadata, whether or not its name has
come before (`Metadata.size_ofFields`). The letters of a name count alike in either case. The first
value of a name is the one that came first (`Metadata.first?_ofFields`).
-/

namespace Rendezvous

theorem utf8Size_toLower (character : Char) :
    character.toLower.utf8Size = character.utf8Size := by
  unfold Char.toLower
  split
  · rename_i capital
    -- A capital letter and its small letter take one byte each.
    have bounds : 65 ≤ character.val.toNat ∧ character.val.toNat ≤ 90 := capital
    have lowered : (character.val + ('a'.val - 'A'.val)).toNat = character.val.toNat + 32 := by
      have distance : ('a'.val - 'A'.val : UInt32).toNat = 32 := by decide
      rw [UInt32.toNat_add, distance]
      omega
    simp only [Char.utf8Size, UInt32.le_iff_toNat_le, lowered]
    rw [if_pos, if_pos]
    · change _ ≤ 127
      omega
    · change _ ≤ 127
      omega
  · rfl

theorem utf8ByteSize_toLower (name : String) :
    (String.ofList (name.toList.map Char.toLower)).utf8ByteSize = name.utf8ByteSize := by
  have lowered : ∀ characters : List Char,
      String.utf8Len (characters.map Char.toLower) = String.utf8Len characters := by
    intro characters
    induction characters with
    | nil => rfl
    | cons first rest ih =>
        rw [List.map_cons, String.utf8Len_cons, String.utf8Len_cons, ih, utf8Size_toLower]
  rw [String.utf8ByteSize_ofList, lowered, String.utf8Len_toList]

namespace Metadata

theorem size_eq_sum (metadata : Metadata) : metadata.size = (metadata.fields.map fieldSize).sum := by
  rw [size, List.sum, List.foldr_map]

theorem fieldSize_lowered (name : String) (value : HeaderValue) :
    fieldSize (String.ofList (name.toList.map Char.toLower), value) = fieldSize (name, value) := by
  simp only [fieldSize, utf8ByteSize_toLower]

/-- A value that is added to those of its name counts with the name. -/
theorem sum_fields_assign (name : String) (value : HeaderValue)
    (entries : List (String × List HeaderValue)) :
    (((Directory.assign name ((entries.lookup name).getD [] ++ [value]) entries).flatMap
      fun entry => entry.2.map fun value => (entry.1, value)).map fieldSize).sum =
    ((entries.flatMap fun entry => entry.2.map fun value => (entry.1, value)).map fieldSize).sum +
      fieldSize (name, value) := by
  induction entries with
  | nil => simp [Directory.assign]
  | cons entry rest ih =>
      by_cases same : entry.1 = name
      · subst same
        simp only [Directory.assign, Directory.lookup_cons, if_true, Option.getD_some,
          List.flatMap_cons, List.map_append, List.sum_append, List.map_cons, List.map_nil,
          List.sum_singleton]
        omega
      · simp only [Directory.assign, Directory.lookup_cons, if_neg same, List.flatMap_cons,
          List.map_append, List.sum_append, ih]
        omega

theorem size_append (metadata : Metadata) (name : String) (value : HeaderValue) :
    (metadata.append name value).size = metadata.size + fieldSize (name, value) := by
  rw [size_eq_sum, size_eq_sum, ← fieldSize_lowered name value]
  exact sum_fields_assign _ value metadata.entries

/-- The size of metadata is that of all fields that it was made of. -/
theorem size_ofFields (fields : List (String × HeaderValue)) :
    (ofFields fields).size = (fields.map fieldSize).sum := by
  have total : ∀ metadata : Metadata,
      (fields.foldl (fun metadata field => metadata.append field.1 field.2) metadata).size =
        metadata.size + (fields.map fieldSize).sum := by
    induction fields with
    | nil => exact fun _ => rfl
    | cons field rest ih =>
        intro metadata
        rw [List.foldl_cons, ih, size_append, List.map_cons, List.sum_cons, Nat.add_assoc]
  rw [ofFields, total]
  exact Nat.zero_add _

theorem first?_append (metadata : Metadata) (key name : String) (value : HeaderValue) :
    (metadata.append name value).first? key =
      (metadata.first? key).or
        (if String.ofList (name.toList.map Char.toLower) = key then some value else none) := by
  rw [first?, append, Directory.find?_put]
  split
  · rename_i same
    rw [if_pos same.symm, same, first?]
    cases metadata.find? (String.ofList (name.toList.map Char.toLower)) with
    | none => rfl
    | some values => cases values <;> rfl
  · rename_i other
    rw [if_neg (Ne.symm other), Option.or_none]
    rfl

/-- The first value of a name is that of the first field with this name in either case. -/
theorem first?_ofFields (fields : List (String × HeaderValue)) (key : String) :
    (ofFields fields).first? key =
      (fields.find? fun field =>
        String.ofList (field.1.toList.map Char.toLower) == key).map Prod.snd := by
  have first : ∀ metadata : Metadata,
      (fields.foldl (fun metadata field => metadata.append field.1 field.2) metadata).first? key =
        (metadata.first? key).or ((fields.find? fun field =>
          String.ofList (field.1.toList.map Char.toLower) == key).map Prod.snd) := by
    induction fields with
    | nil => exact fun _ => Option.or_none.symm
    | cons field rest ih =>
        intro metadata
        rw [List.foldl_cons, ih, first?_append, Option.or_assoc, List.find?_cons]
        congr 1
        by_cases same : String.ofList (field.1.toList.map Char.toLower) = key
        · rw [if_pos same, beq_iff_eq.mpr same]
          rfl
        · rw [if_neg same, beq_eq_false_iff_ne.mpr same]
          rfl
  rw [ofFields, first]
  rfl

end Metadata

end Rendezvous
