/-!
# Directories

A directory keeps at most one value under a key and remembers the order in which the keys first
came. Every operation is described by what it does to `find?` and to `size`: a value that is put is
found under its key alone (`find?_put`), an erased key has no value (`find?_erase`), and an entry
that comes or goes counts for one (`size_put`, `size_erase`).
-/

namespace Rendezvous

universe u v

namespace Directory

variable {Key : Type u} {Value : Type v} [DecidableEq Key]

/-- The entries with a value under a key: in place of the old value, else at the end. -/
def assign (key : Key) (value : Value) : List (Key × Value) → List (Key × Value)
  | [] => [(key, value)]
  | entry :: rest =>
      if entry.1 = key then (entry.1, value) :: rest else entry :: assign key value rest

/-- The entries without those of a key. -/
def discard (key : Key) : List (Key × Value) → List (Key × Value)
  | [] => []
  | entry :: rest => if entry.1 = key then discard key rest else entry :: discard key rest

theorem mem_keys_assign {key other : Key} {value : Value} {entries : List (Key × Value)}
    (member : other ∈ (assign key value entries).map Prod.fst) :
    other = key ∨ other ∈ entries.map Prod.fst := by
  induction entries with
  | nil => simpa [assign] using member
  | cons entry rest ih =>
      by_cases same : entry.1 = key
      · simp only [assign, if_pos same, List.map_cons, List.mem_cons] at member
        rcases member with head | tail
        · exact Or.inl (head.trans same)
        · exact Or.inr (List.mem_cons_of_mem _ tail)
      · simp only [assign, if_neg same, List.map_cons, List.mem_cons] at member
        rcases member with head | tail
        · exact Or.inr (head ▸ List.mem_cons_self)
        · exact (ih tail).imp id (List.mem_cons_of_mem _)

theorem mem_keys_discard {key other : Key} {entries : List (Key × Value)}
    (member : other ∈ (discard key entries).map Prod.fst) : other ∈ entries.map Prod.fst := by
  induction entries with
  | nil => simp [discard] at member
  | cons entry rest ih =>
      by_cases same : entry.1 = key
      · simp only [discard, if_pos same] at member
        exact List.mem_cons_of_mem _ (ih member)
      · simp only [discard, if_neg same, List.map_cons, List.mem_cons] at member
        rcases member with head | tail
        · exact head ▸ List.mem_cons_self
        · exact List.mem_cons_of_mem _ (ih tail)

theorem nodup_assign (key : Key) (value : Value) {entries : List (Key × Value)}
    (distinct : (entries.map Prod.fst).Nodup) :
    ((assign key value entries).map Prod.fst).Nodup := by
  induction entries with
  | nil => simp [assign]
  | cons entry rest ih =>
      rw [List.map_cons, List.nodup_cons] at distinct
      by_cases same : entry.1 = key
      · simp only [assign, if_pos same, List.map_cons]
        exact List.nodup_cons.mpr distinct
      · simp only [assign, if_neg same, List.map_cons]
        refine List.nodup_cons.mpr ⟨?_, ih distinct.2⟩
        intro member
        rcases mem_keys_assign member with equal | tail
        · exact same equal
        · exact distinct.1 tail

theorem nodup_discard (key : Key) {entries : List (Key × Value)}
    (distinct : (entries.map Prod.fst).Nodup) : ((discard key entries).map Prod.fst).Nodup := by
  induction entries with
  | nil => simp [discard]
  | cons entry rest ih =>
      rw [List.map_cons, List.nodup_cons] at distinct
      by_cases same : entry.1 = key
      · simpa only [discard, if_pos same] using ih distinct.2
      · simp only [discard, if_neg same, List.map_cons]
        exact List.nodup_cons.mpr
          ⟨fun member => distinct.1 (mem_keys_discard member), ih distinct.2⟩

/-- Where no key is listed twice, a value is found under a key if and only if it is listed with
it. -/
theorem lookup_eq_some_iff {Key : Type u} [BEq Key] [LawfulBEq Key] {key : Key} {value : Value}
    {entries : List (Key × Value)} (distinct : (entries.map Prod.fst).Nodup) :
    entries.lookup key = some value ↔ (key, value) ∈ entries := by
  rw [List.lookup_eq_some_iff]
  constructor
  · rintro ⟨earlier, later, rfl, _⟩
    simp
  · intro member
    rcases List.append_of_mem member with ⟨earlier, later, rfl⟩
    refine ⟨earlier, later, rfl, fun entry before => bne_iff_ne.mpr ?_⟩
    rintro rfl
    rw [List.map_append, List.nodup_append] at distinct
    exact distinct.2.2 _ (List.mem_map_of_mem before) _ List.mem_cons_self rfl

end Directory

/-- A finite map whose keys are kept in the order of their first appearance. -/
structure Directory (Key : Type u) (Value : Type v) where
  /-- The keys with their values, oldest key first. -/
  entries : List (Key × Value)
  /-- No key is listed twice. -/
  distinct : (entries.map Prod.fst).Nodup

namespace Directory

variable {Key : Type u} {Value : Type v}

/-- The directory without entries. -/
def empty : Directory Key Value :=
  ⟨[], List.Pairwise.nil⟩

instance : Inhabited (Directory Key Value) :=
  ⟨empty⟩

/-- The number of entries. -/
def size (directory : Directory Key Value) : Nat :=
  directory.entries.length

/-- The keys in the order of their first appearance. -/
def keys (directory : Directory Key Value) : List Key :=
  directory.entries.map Prod.fst

@[simp]
theorem size_empty : (empty : Directory Key Value).size = 0 :=
  rfl

variable [DecidableEq Key]

/-- The value kept under a key. -/
def find? (directory : Directory Key Value) (key : Key) : Option Value :=
  directory.entries.lookup key

/-- Whether a value is kept under a key. -/
def contains (directory : Directory Key Value) (key : Key) : Bool :=
  (directory.find? key).isSome

/-- The directory with a value kept under a key: in place of the old value if there is one. -/
def put (directory : Directory Key Value) (key : Key) (value : Value) : Directory Key Value :=
  ⟨assign key value directory.entries, nodup_assign key value directory.distinct⟩

/-- The directory without the entry of a key. -/
def erase (directory : Directory Key Value) (key : Key) : Directory Key Value :=
  ⟨discard key directory.entries, nodup_discard key directory.distinct⟩

/-- The directory that keeps the values of a list, where a later value replaces an earlier one. -/
def ofList (entries : List (Key × Value)) : Directory Key Value :=
  entries.foldl (fun directory entry => directory.put entry.1 entry.2) empty

/-! ## What each operation does -/

@[simp]
theorem find?_empty (key : Key) : (empty : Directory Key Value).find? key = none :=
  rfl

theorem lookup_cons (key : Key) (entry : Key × Value) (rest : List (Key × Value)) :
    (entry :: rest).lookup key = if entry.1 = key then some entry.2 else rest.lookup key := by
  rcases entry with ⟨first, value⟩
  by_cases same : first = key
  · simp [same]
  · simp [List.lookup_cons, same, beq_false_of_ne (Ne.symm same)]

theorem lookup_assign (key other : Key) (value : Value) (entries : List (Key × Value)) :
    (assign key value entries).lookup other =
      if other = key then some value else entries.lookup other := by
  induction entries with
  | nil => simp [assign, lookup_cons, eq_comm]
  | cons entry rest ih =>
      by_cases here : entry.1 = key
      · rw [assign, if_pos here, lookup_cons, lookup_cons, here]
        by_cases same : other = key
        · simp [same]
        · simp [same, Ne.symm same]
      · by_cases found : entry.1 = other
        · have different : ¬other = key := fun equal => here (found.trans equal)
          simp [assign, lookup_cons, found, different]
        · simp [assign, lookup_cons, here, found, ih]

theorem lookup_discard (key other : Key) (entries : List (Key × Value)) :
    (discard key entries).lookup other =
      if other = key then none else entries.lookup other := by
  induction entries with
  | nil => simp [discard]
  | cons entry rest ih =>
      by_cases erased : entry.1 = key
      · by_cases same : other = key
        · subst same
          simpa [discard, erased] using ih
        · simp [discard, lookup_cons, erased, ih, same, Ne.symm same]
      · by_cases found : entry.1 = other
        · have different : ¬other = key := fun equal => erased (found.trans equal)
          simp [discard, lookup_cons, found, different]
        · simp [discard, lookup_cons, erased, found, ih]

theorem find?_put (directory : Directory Key Value) (key other : Key) (value : Value) :
    (directory.put key value).find? other =
      if other = key then some value else directory.find? other :=
  lookup_assign key other value directory.entries

theorem find?_erase (directory : Directory Key Value) (key other : Key) :
    (directory.erase key).find? other = if other = key then none else directory.find? other :=
  lookup_discard key other directory.entries

theorem length_assign (key : Key) (value : Value) (entries : List (Key × Value)) :
    (assign key value entries).length =
      entries.length + if (entries.lookup key).isSome then 0 else 1 := by
  induction entries with
  | nil => rfl
  | cons entry rest ih =>
      by_cases same : entry.1 = key
      · simp [assign, lookup_cons, same]
      · simp only [assign, lookup_cons, if_neg same, List.length_cons, ih]
        omega

/-- A value is found under a key if and only if they are listed together. -/
theorem find?_eq_some_iff {directory : Directory Key Value} {key : Key} {value : Value} :
    directory.find? key = some value ↔ (key, value) ∈ directory.entries :=
  lookup_eq_some_iff directory.distinct

theorem discard_of_not_mem {key : Key} {entries : List (Key × Value)}
    (absent : key ∉ entries.map Prod.fst) : discard key entries = entries := by
  induction entries with
  | nil => rfl
  | cons entry rest ih =>
      rw [List.map_cons, List.mem_cons, not_or] at absent
      simp [discard, Ne.symm absent.1, ih absent.2]

theorem length_discard (key : Key) {entries : List (Key × Value)}
    (distinct : (entries.map Prod.fst).Nodup) :
    (discard key entries).length + (if (entries.lookup key).isSome then 1 else 0) =
      entries.length := by
  induction entries with
  | nil => rfl
  | cons entry rest ih =>
      rw [List.map_cons, List.nodup_cons] at distinct
      by_cases same : entry.1 = key
      · have absent : key ∉ rest.map Prod.fst := same ▸ distinct.1
        simp [discard, lookup_cons, same, discard_of_not_mem absent]
      · have tail := ih distinct.2
        simp only [discard, lookup_cons, if_neg same, List.length_cons]
        omega

theorem discard_comm (key other : Key) (entries : List (Key × Value)) :
    discard key (discard other entries) = discard other (discard key entries) := by
  induction entries with
  | nil => rfl
  | cons entry rest ih =>
      by_cases first : entry.1 = key <;> by_cases second : entry.1 = other <;>
        simp_all [discard]

/-- Entries may be erased in any order. -/
theorem erase_comm (directory : Directory Key Value) (key other : Key) :
    (directory.erase key).erase other = (directory.erase other).erase key := by
  simp only [erase, discard_comm]

theorem assign_of_lookup {key : Key} {value : Value} {entries : List (Key × Value)}
    (found : entries.lookup key = some value) : assign key value entries = entries := by
  induction entries with
  | nil => cases found
  | cons entry rest ih =>
      by_cases same : entry.1 = key
      · rw [lookup_cons, if_pos same, Option.some.injEq] at found
        rw [assign, if_pos same, ← found]
      · rw [lookup_cons, if_neg same] at found
        simp [assign, same, ih found]

/-- Nothing changes when the value is put that is there already. -/
theorem put_of_find? {directory : Directory Key Value} {key : Key} {value : Value}
    (found : directory.find? key = some value) : directory.put key value = directory := by
  simp only [put, assign_of_lookup found]

theorem size_put (directory : Directory Key Value) (key : Key) (value : Value) :
    (directory.put key value).size =
      directory.size + if directory.contains key then 0 else 1 :=
  length_assign key value directory.entries

theorem size_erase (directory : Directory Key Value) (key : Key) :
    (directory.erase key).size + (if directory.contains key then 1 else 0) = directory.size :=
  length_discard key directory.distinct

/-! ## Directories made of lists -/

theorem find?_foldl_put (entries : List (Key × Value)) (directory : Directory Key Value)
    (key : Key) :
    (entries.foldl (fun directory entry => directory.put entry.1 entry.2) directory).find? key =
      ((entries.filter fun entry => decide (entry.1 = key)).map Prod.snd).getLast?.or
        (directory.find? key) := by
  induction entries generalizing directory with
  | nil => rfl
  | cons entry rest ih =>
      rw [List.foldl_cons, ih, find?_put]
      by_cases same : entry.1 = key
      · subst same
        simp only [List.filter_cons, decide_true, if_true, List.map_cons, List.getLast?_cons]
        cases ((rest.filter fun other => decide (other.1 = entry.1)).map Prod.snd).getLast? <;> rfl
      · simp [same, Ne.symm same]

/-- The value that comes last under a key is the one that is found. -/
theorem find?_ofList (entries : List (Key × Value)) (key : Key) :
    (ofList entries).find? key =
      ((entries.filter fun entry => decide (entry.1 = key)).map Prod.snd).getLast? := by
  rw [ofList, find?_foldl_put, find?_empty, Option.or_none]

end Directory

end Rendezvous
