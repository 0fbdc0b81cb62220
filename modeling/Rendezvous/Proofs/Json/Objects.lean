import Rendezvous.Directory
import Rendezvous.Proofs.Json.Integers

/-!
# Objects are read by what they list

An object lists members in any order, with white space wherever JSON has it. Of the members a record
takes those whose names its fields have, as the values that they spell (`Json.Gives`), and the others
are skipped, whatever they hold. If no field is listed twice, the record gets the listed values and
the defaults of the other fields (`Json.readRecord_of_gives`); if one is listed twice, nothing is
read (`Json.readRecord_of_repeated`).
-/

namespace Rendezvous.Json

/-! ## Values of fields -/

/-- A text writes the value of a field: a string with any escapes, an integer in decimal. -/
inductive FieldValue.Writes : FieldValue → List Char → Prop
  | text {body characters : List Char} (spells : Spells body characters) :
      Writes (.text characters) ('"' :: (body ++ ['"']))
  | integer (number : Int) : Writes (.integer number) (Text.showInteger number)

/-- A field of a kind can hold a value; of an integer, 64 bits can. -/
def FieldKind.Admits : FieldKind → FieldValue → Prop
  | .text, .text _ => True
  | .integer least greatest, .integer number =>
      least ≤ number ∧ number ≤ greatest ∧ number.natAbs < UInt64.size
  | _, _ => False

variable {text before between ahead rest : List Char} {kind : FieldKind} {value : FieldValue}

theorem readString_quoted (body rest : List Char) :
    readString ('"' :: (body ++ '"' :: rest)) = readStringBody 0 (body ++ '"' :: rest) := by
  rw [readString, skipSpace_cons (by decide)]
  rfl

theorem FieldKind.read_spaces (spaces : Spaces before) (rest : List Char) :
    kind.read (before ++ rest) = kind.read rest := by
  cases kind with
  | text => simp only [FieldKind.read, readString, skipSpace_of_spaces spaces]
  | integer => simp only [FieldKind.read, readInteger, skipSpace_of_spaces spaces]

/-- A value is read as what it is, if the field can hold it. -/
theorem FieldKind.read_of_writes (admits : kind.Admits value) (writes : value.Writes text)
    (stops : EndsNumber rest) : kind.read (text ++ rest) = .ok (value, rest) := by
  cases writes with
  | @text body characters spells =>
      cases kind with
      | text =>
          have read := readStringBody_of_spells spells rest
          rw [← readString_quoted] at read
          simp [FieldKind.read, read, bind, Except.bind]
      | integer => cases admits
  | integer number =>
      cases kind with
      | text => cases admits
      | integer least greatest =>
          have read := readInteger_showInteger ⟨admits.1, admits.2.1⟩ admits.2.2 stops
          simp [FieldKind.read, read, bind, Except.bind]

theorem leaves_readString (written : Written .value text) (rest : List Char) :
    Leaves (readString (text ++ rest)) rest := by
  rcases written.value_cons with ⟨first, others, rfl, ⟨visible, _⟩, quoted, _⟩
  by_cases quote : first = '"'
  · rcases quoted quote with ⟨body, rfl, plain⟩
    have leaves := leaves_readStringBody plain rest
    rw [← readString_quoted] at leaves
    simpa [quote] using leaves
  · intro value after read
    rw [List.cons_append, readString, skipSpace_cons visible] at read
    split at read
    · simp_all
    · cases read

theorem leaves_readInteger (least greatest : Int) (written : Written .value text)
    (stops : EndsNumber rest) : Leaves (readInteger least greatest (text ++ rest)) rest := by
  rcases written.value_cons with ⟨first, others, rfl, ⟨visible, _⟩, _, number⟩
  intro value after read
  rw [List.cons_append, readInteger, skipSpace_cons visible] at read
  by_cases opens : opensNumber first = true
  · have leaves := leaves_readNumeral (number opens) stops
    rw [List.cons_append] at leaves
    simp only [if_pos opens] at read
    cases taken : readNumeral (first :: (others ++ rest)) with
    | error fault => simp [taken, bind, Except.bind] at read
    | ok result =>
        have left := leaves result.1 result.2 taken
        simp only [taken, bind, Except.bind] at read
        split at read
        · split at read
          · cases read
            exact left
          · cases read
        · cases read
  · simp [opens] at read

/-- Whatever value stands there, it is read as a whole or refused. -/
theorem FieldKind.leaves_read (kind : FieldKind) (written : Written .value text)
    (stops : EndsNumber rest) : Leaves (kind.read (text ++ rest)) rest := by
  cases kind with
  | text =>
      have parts : ∀ text, FieldKind.text.read text =
          (readString text).map fun read => (.text read.1, read.2) := by
        intro text
        rw [FieldKind.read]
        cases readString text <;> rfl
      rw [parts]
      exact (leaves_readString written rest).map _
  | integer least greatest =>
      have parts : ∀ text, (FieldKind.integer least greatest).read text =
          (readInteger least greatest text).map fun read => (.integer read.1, read.2) := by
        intro text
        rw [FieldKind.read]
        cases readInteger least greatest text <;> rfl
      rw [parts]
      exact (leaves_readInteger least greatest written stops).map _

/-! ## Members -/

/-- A member of an object: its name, and the text of its value. -/
structure Member where
  name : List Char
  value : List Char

/-- A text is a member, with any white space on both sides of its parts. Its name spells characters,
which a lone surrogate does not; inside its value names and strings need not. -/
inductive MemberText (member : Member) : List Char → Prop
  | mk {before body between ahead after : List Char} (left : Spaces before)
      (spells : Spells body member.name) (gap : Spaces between) (space : Spaces ahead)
      (written : Written .value member.value) (right : Spaces after) :
      MemberText member (before ++ '"' :: (body ++ '"' :: (between ++ ':' ::
        (ahead ++ (member.value ++ after)))))

/-- A text is some members with a comma between each two of them. -/
inductive MembersText : List Member → List Char → Prop
  | last {member : Member} {text : List Char} (written : MemberText member text) :
      MembersText [member] text
  | more {member : Member} {members : List Member} {text later : List Char}
      (written : MemberText member text) (others : MembersText members later) :
      MembersText (member :: members) (text ++ ',' :: later)

/-- A text is an object with some members. -/
inductive ObjectText : List Member → List Char → Prop
  | empty {between : List Char} (spaces : Spaces between) :
      ObjectText [] ('\x7b' :: (between ++ ['\x7d']))
  | filled {members : List Member} {text : List Char} (written : MembersText members text) :
      ObjectText members ('\x7b' :: (text ++ ['\x7d']))

/-- A member gives a field of a record a value that the field can hold. -/
def Holds (fields : List Field) (member : List Char × FieldValue) : Prop :=
  ∃ field, (fields.find? fun field => field.name == member.1) = some field ∧
    field.kind.Admits member.2

/-- What members give the fields of a record. The members with other names give nothing. -/
inductive Gives (fields : List Field) : List Member → Given → Prop
  | nil : Gives fields [] []
  | known {member : Member} {members : List Member} {value : FieldValue} {given : Given}
      (holds : Holds fields (member.name, value)) (writes : value.Writes member.value)
      (later : Gives fields members given) :
      Gives fields (member :: members) ((member.name, value) :: given)
  | unknown {member : Member} {members : List Member} {given : Given}
      (foreign : ∀ field ∈ fields, field.name ≠ member.name) (later : Gives fields members given) :
      Gives fields (member :: members) given

variable {fields : List Field} {field : Field} {given acc more : Given} {name : List Char}

theorem find?_eq_none_iff : (fields.find? fun field => field.name == name) = none ↔
    ∀ field ∈ fields, field.name ≠ name := by
  simp [List.find?_eq_none]

theorem readMember_of_unknown (foreign : ∀ field ∈ fields, field.name ≠ name)
    (gap : Spaces between) (space : Spaces ahead) (written : Written .value text)
    (stops : EndsNumber rest) :
    readMember fields acc name (between ++ ':' :: (ahead ++ (text ++ rest))) = .ok (acc, rest) := by
  simp [readMember, find?_eq_none_iff.mpr foreign, skipColon_append gap,
    skipValue_of_written space written stops, bind, Except.bind]

theorem readMember_of_known
    (found : (fields.find? fun field => field.name == name) = some field)
    (fresh : acc.lookup name = none) (gap : Spaces between) (space : Spaces ahead) :
    readMember fields acc name (between ++ ':' :: (ahead ++ rest)) =
      (field.kind.read rest).map fun read => ((name, read.1) :: acc, read.2) := by
  simp only [readMember, found, fresh, skipColon_append gap, FieldKind.read_spaces space, bind,
    Except.bind]
  cases field.kind.read rest <;> rfl

/-- What reading a member can do: it fails, or leaves the rest and adds nothing but a field that was
not given before. -/
theorem readMember_cases (gap : Spaces between) (space : Spaces ahead)
    (written : Written .value text) (stops : EndsNumber rest) :
    (∃ fault, readMember fields acc name (between ++ ':' :: (ahead ++ (text ++ rest))) =
      .error fault) ∨
    ∃ more, readMember fields acc name (between ++ ':' :: (ahead ++ (text ++ rest))) =
        .ok (more, rest) ∧
      (∀ other, other ≠ name → more.lookup other = acc.lookup other) ∧
      ((∃ field ∈ fields, field.name = name) →
        acc.lookup name = none ∧ (more.lookup name).isSome = true) := by
  cases found : fields.find? fun field => field.name == name with
  | none =>
      have foreign := find?_eq_none_iff.mp found
      refine Or.inr ⟨acc, readMember_of_unknown foreign gap space written stops, fun _ _ => rfl, ?_⟩
      rintro ⟨field, member, same⟩
      exact absurd same (foreign field member)
  | some field =>
      cases fresh : acc.lookup name with
      | some value => exact Or.inl ⟨.mismatch, by simp [readMember, found, fresh]⟩
      | none =>
          rw [readMember_of_known found fresh gap space]
          have leaves := field.kind.leaves_read written stops
          cases read : field.kind.read (text ++ rest) with
          | error fault => exact Or.inl ⟨fault, rfl⟩
          | ok result =>
              rw [← leaves result.1 result.2 read]
              refine Or.inr ⟨(name, result.1) :: acc, rfl, fun other different => ?_, fun _ => ?_⟩
              · rw [List.lookup_cons, beq_eq_false_iff_ne.mpr different]
              · exact ⟨rfl, by simp⟩

/-- What reading a member comes to decides how the members after it are read. The mark after the
member says whether there are any. -/
theorem MemberText.read {member : Member} {mark : Char} (written : MemberText member text)
    (marks : mark = ',' ∨ mark = ']' ∨ mark = '\x7d') (fuel : Nat) (acc : Given)
    (rest : List Char) :
    ∃ between ahead after : List Char, Spaces between ∧ Spaces ahead ∧
      Written .value member.value ∧ EndsNumber (after ++ mark :: rest) ∧
      let tail := between ++ ':' :: (ahead ++ (member.value ++ (after ++ mark :: rest)))
      (∀ more, readMember fields acc member.name tail = .ok (more, after ++ mark :: rest) →
        readMembersWithin fields (fuel + 1) acc (text ++ mark :: rest) =
          if mark = ',' then readMembersWithin fields fuel more rest
          else if mark = '\x7d' then .ok (more, rest)
          else .error .malformed) ∧
      ∀ fault, readMember fields acc member.name tail = .error fault →
        readMembersWithin fields (fuel + 1) acc (text ++ mark :: rest) = .error fault := by
  have visible : isSpace mark = false := by
    rcases marks with rfl | rfl | rfl <;> rfl
  cases written with
  | @mk before body between ahead after left spells gap space written right =>
      refine ⟨between, ahead, after, gap, space, written, endsNumber_append right marks rest, ?_⟩
      intro tail
      have parts : before ++ '"' :: (body ++ '"' :: (between ++ ':' ::
          (ahead ++ (member.value ++ after)))) ++ mark :: rest =
            before ++ '"' :: (body ++ '"' :: tail) := by
        simp [tail]
      rw [parts, readMembersWithin, skipSpace_append left (by decide)]
      refine ⟨fun more read => ?_, fun fault read => ?_⟩
      · simp only [if_true, readStringBody_of_spells spells, read, skipSpace_append right visible,
          bind, Except.bind]
      · simp only [if_true, readStringBody_of_spells spells, read, bind, Except.bind]

/-- The first of some members gives a field its value or nothing, and so it is read. -/
theorem Gives.read_first {member : Member} {members : List Member} {mark : Char}
    (gives : Gives fields (member :: members) given) (written : MemberText member text)
    (marks : mark = ',' ∨ mark = ']' ∨ mark = '\x7d')
    (fresh : ∀ entry ∈ given, acc.lookup entry.1 = none) (fuel : Nat) (rest : List Char) :
    ∃ (own : Option (List Char × FieldValue)) (later : Given), given = own.toList ++ later ∧
      Gives fields members later ∧
      readMembersWithin fields (fuel + 1) acc (text ++ mark :: rest) =
        if mark = ',' then readMembersWithin fields fuel (own.toList ++ acc) rest
        else if mark = '\x7d' then .ok (own.toList ++ acc, rest)
        else .error .malformed := by
  cases gives with
  | @known _ _ value later holds writes gives =>
      rcases written.read marks fuel acc rest with
        ⟨between, ahead, after, gap, space, written, stops, succeeds, _⟩
      rcases holds with ⟨field, found, admits⟩
      refine ⟨some (member.name, value), later, rfl, gives, succeeds _ ?_⟩
      rw [readMember_of_known found (fresh _ List.mem_cons_self) gap space,
        FieldKind.read_of_writes admits writes stops]
      rfl
  | unknown foreign gives =>
      rcases written.read marks fuel acc rest with
        ⟨between, ahead, after, gap, space, written, stops, succeeds, _⟩
      exact ⟨none, given, rfl, gives,
        succeeds _ (readMember_of_unknown foreign gap space written stops)⟩

theorem lookup_append_of_distinct {own : Option (List Char × FieldValue)} {later : Given}
    (distinct : ((own.toList ++ later).map Prod.fst).Nodup)
    (fresh : ∀ entry ∈ own.toList ++ later, acc.lookup entry.1 = none) :
    ∀ entry ∈ later, (own.toList ++ acc).lookup entry.1 = none := by
  intro entry listed
  have absent := fresh entry (List.mem_append_right _ listed)
  cases own with
  | none => exact absent
  | some first =>
      simp only [Option.toList_some, List.cons_append, List.nil_append, List.map_cons,
        List.nodup_cons] at distinct ⊢
      have other : entry.1 ≠ first.1 := by
        intro same
        apply distinct.1
        rw [← same]
        exact List.mem_map_of_mem listed
      rw [List.lookup_cons, beq_eq_false_iff_ne.mpr other]
      exact absent

/-- The members of an object are read one after another up to its closing brace. -/
theorem readMembersWithin_of_gives {members : List Member} {fuel : Nat}
    (written : MembersText members text) (gives : Gives fields members given)
    (enough : members.length ≤ fuel) (distinct : (given.map Prod.fst).Nodup)
    (fresh : ∀ entry ∈ given, acc.lookup entry.1 = none) (rest : List Char) :
    readMembersWithin fields fuel acc (text ++ '\x7d' :: rest) =
      .ok (given.reverse ++ acc, rest) := by
  induction written generalizing fuel given acc with
  | last member =>
      obtain ⟨fuel, rfl⟩ := Nat.exists_eq_succ_of_ne_zero (Nat.ne_of_gt enough)
      rcases gives.read_first member (Or.inr (Or.inr rfl)) fresh fuel rest with
        ⟨own, later, rfl, none, read⟩
      cases none
      rw [read]
      cases own <;> rfl
  | @more member members text laterText first others ih =>
      obtain ⟨fuel, rfl⟩ := Nat.exists_eq_succ_of_ne_zero (Nat.ne_of_gt (Nat.zero_lt_of_lt enough))
      rcases gives.read_first first (Or.inl rfl) fresh fuel (laterText ++ '\x7d' :: rest) with
        ⟨own, later, rfl, gives, read⟩
      have apart := lookup_append_of_distinct distinct fresh
      rw [List.map_append, List.nodup_append] at distinct
      have remaining := ih gives (Nat.le_of_succ_le_succ enough) distinct.2.1 apart
      rw [List.append_assoc, List.cons_append, read, if_pos rfl, remaining]
      cases own <;> simp

/-! ## Fields that are listed twice -/

/-- A field is given already and listed again, or it is listed twice. -/
def Repeats (acc : Given) (members : List Member) (name : List Char) : Prop :=
  (acc.lookup name).isSome = true ∧ name ∈ members.map Member.name ∨
    2 ≤ (members.map Member.name).count name

/-- A member that is read leaves a repeated field repeated. -/
theorem Repeats.later {member : Member} {members : List Member}
    (repeated : Repeats acc (member :: members) name)
    (kept : ∀ other, other ≠ member.name → more.lookup other = acc.lookup other)
    (added : name = member.name → acc.lookup member.name = none ∧
      (more.lookup member.name).isSome = true) : Repeats more members name := by
  rw [Repeats, List.map_cons, List.count_cons] at repeated
  by_cases same : name = member.name
  · rcases added same with ⟨fresh, given⟩
    subst same
    rcases repeated with ⟨earlier, _⟩ | twice
    · rw [fresh] at earlier
      cases earlier
    · refine Or.inl ⟨given, List.count_pos_iff.mp ?_⟩
      rw [beq_self_eq_true, if_pos rfl] at twice
      omega
  · have other : (member.name == name) = false := by simpa using Ne.symm same
    rw [other] at repeated
    rw [Repeats, kept name same]
    simpa [same] using repeated

/-- An object that lists a field twice is not read. -/
theorem readMembersWithin_of_repeated {members : List Member} (written : MembersText members text)
    (known : ∃ field ∈ fields, field.name = name) (repeated : Repeats acc members name)
    (fuel : Nat) (rest : List Char) :
    ∃ fault, readMembersWithin fields fuel acc (text ++ '\x7d' :: rest) = .error fault := by
  induction written generalizing fuel acc with
  | @last member text first =>
      cases fuel with
      | zero => exact ⟨_, rfl⟩
      | succ fuel =>
          rcases first.read (Or.inr (Or.inr rfl)) fuel acc rest with
            ⟨between, ahead, after, gap, space, value, stops, succeeds, fails⟩
          rcases readMember_cases gap space value stops with
            ⟨fault, failed⟩ | ⟨more, read, kept, added⟩
          · exact ⟨fault, fails fault failed⟩
          · rcases repeated.later kept fun same => added (same ▸ known) with ⟨_, listed⟩ | twice
            · cases listed
            · cases twice
  | @more member members text laterText first others ih =>
      rw [List.append_assoc, List.cons_append]
      cases fuel with
      | zero => exact ⟨_, rfl⟩
      | succ fuel =>
          rcases first.read (Or.inl rfl) fuel acc (laterText ++ '\x7d' :: rest) with
            ⟨between, ahead, after, gap, space, value, stops, succeeds, fails⟩
          rcases readMember_cases gap space value stops with
            ⟨fault, failed⟩ | ⟨more, read, kept, added⟩
          · exact ⟨fault, fails fault failed⟩
          · rw [succeeds more read, if_pos rfl]
            exact ih (repeated.later kept fun same => added (same ▸ known)) fuel

/-! ## Records -/

/-- The order of what is given does not count. -/
theorem collect_perm {other : Given} (permuted : other.Perm given)
    (distinct : (given.map Prod.fst).Nodup) : collect fields other = collect fields given := by
  have also : (other.map Prod.fst).Nodup := (permuted.map Prod.fst).nodup_iff.mpr distinct
  have same : ∀ name, other.lookup name = given.lookup name := by
    intro name
    apply Option.ext
    intro value
    rw [Directory.lookup_eq_some_iff also, Directory.lookup_eq_some_iff distinct,
      permuted.mem_iff]
  have value : ∀ field, Field.value other field = Field.value given field := by
    intro field
    rw [Field.value, Field.value, same]
  exact congrArg (fields.mapM ·) (funext value)

theorem readRecord_spaces (spaces : Spaces before) (rest : List Char) :
    readRecord fields (before ++ rest) = readRecord fields rest := by
  rw [readRecord, readRecord, skipSpace_of_spaces spaces]

theorem readRecord_brace (fields : List Field) (text : List Char) :
    readRecord fields ('\x7b' :: text) = readObject fields text := by
  rw [readRecord, skipSpace_cons (by decide)]
  rfl

theorem MembersText.opens {members : List Member} (written : MembersText members text) :
    ∃ before others, text = before ++ '"' :: others ∧ Spaces before := by
  cases written with
  | last first =>
      cases first with
      | mk left => exact ⟨_, _, rfl, left⟩
  | more first =>
      cases first with
      | mk left => exact ⟨_, _, List.append_assoc _ _ _, left⟩

theorem MembersText.length_le {members : List Member} (written : MembersText members text) :
    members.length ≤ text.length := by
  induction written with
  | last first =>
      cases first with
      | mk =>
          simp
          omega
  | more first others ih =>
      simp only [List.length_cons, List.length_append]
      omega

/-- An object with members is read by reading them. -/
theorem readObject_of_members {members : List Member} (written : MembersText members text)
    (rest : List Char) :
    readObject fields (text ++ '\x7d' :: rest) =
      (readMembersWithin fields ((text ++ '\x7d' :: rest).length + 1) []
        (text ++ '\x7d' :: rest)).bind fun read => (collect fields read.1).map (·, read.2) := by
  rcases written.opens with ⟨before, others, rfl, spaces⟩
  rw [List.append_assoc, List.cons_append, readObject, skipSpace_append spaces (by decide)]
  have other : '"' ≠ '\x7d' := by decide
  simp only [if_neg other, bind, Except.bind]
  cases readMembersWithin fields _ [] (before ++ '"' :: (others ++ '\x7d' :: rest)) with
  | error => rfl
  | ok read => cases collect fields read.1 <;> rfl

/-- A record gets from an object the listed values and the defaults of the other fields. -/
theorem readRecord_of_gives {members : List Member} (spaces : Spaces before)
    (object : ObjectText members text) (gives : Gives fields members given)
    (distinct : (given.map Prod.fst).Nodup) (rest : List Char) :
    readRecord fields (before ++ (text ++ rest)) = (collect fields given).map (·, rest) := by
  rw [readRecord_spaces spaces]
  cases object with
  | @empty between gap =>
      cases gives
      rw [List.cons_append, List.append_assoc, readRecord_brace, readObject]
      rw [List.cons_append, List.nil_append, skipSpace_append gap (by decide)]
      cases collected : collect fields [] <;> simp [collected, bind, Except.bind, Except.map]
  | @filled _ text written =>
      have enough : members.length ≤ (text ++ '\x7d' :: rest).length + 1 := by
        have short := written.length_le
        simp only [List.length_append]
        omega
      have read := readMembersWithin_of_gives written gives enough distinct
        (fun _ _ => List.lookup_nil) rest
      have order : collect fields given.reverse = collect fields given :=
        collect_perm (List.reverse_perm given) distinct
      rw [List.cons_append, List.append_assoc, readRecord_brace, List.cons_append, List.nil_append,
        readObject_of_members written, read]
      simp [Except.bind, order]

/-- No record is read from an object that lists one of its fields twice. -/
theorem readRecord_of_repeated {members : List Member} (spaces : Spaces before)
    (object : ObjectText members text) (known : ∃ field ∈ fields, field.name = name)
    (twice : 2 ≤ (members.map Member.name).count name) (rest : List Char) :
    ∃ fault, readRecord fields (before ++ (text ++ rest)) = .error fault := by
  rw [readRecord_spaces spaces]
  cases object with
  | empty => cases twice
  | @filled _ text written =>
      rcases readMembersWithin_of_repeated written known (Or.inr twice)
        ((text ++ '\x7d' :: rest).length + 1) rest with ⟨fault, failed⟩
      refine ⟨fault, ?_⟩
      rw [List.cons_append, List.append_assoc, readRecord_brace, List.cons_append, List.nil_append,
        readObject_of_members written, failed]
      rfl

/-! ## Documents -/

/-- A document is an object with some members. -/
inductive DocumentText (members : List Member) : List Char → Prop
  | mk {before text after : List Char} (left : Spaces before) (object : ObjectText members text)
      (right : Spaces after) : DocumentText members (before ++ (text ++ after))

variable {Record : Type} {members : List Member} {document : List Char}

/-- What the fields of a record give, and the rest of the text. -/
def readFields (fields : List Field) (ofValues : List FieldValue → Except Fault Record)
    (text : List Char) : Except Fault (Record × List Char) := do
  let (values, rest) ← readRecord fields text
  let record ← ofValues values
  .ok (record, rest)

/-- A document is read as the record of what it lists. -/
theorem readWholeText_of_gives (ofValues : List FieldValue → Except Fault Record)
    (written : DocumentText members document) (gives : Gives fields members given)
    (distinct : (given.map Prod.fst).Nodup) :
    readWholeText (readFields fields ofValues) document = (collect fields given).bind ofValues := by
  cases written with
  | @mk before text after left object right =>
      have read := readRecord_of_gives left object gives distinct after
      simp only [readWholeText, readFields, read, bind, Except.bind]
      cases collect fields given with
      | error => rfl
      | ok values =>
          simp only [Except.map]
          cases ofValues values with
          | error => rfl
          | ok record => simp [skipSpace_spaces right]

/-- A document that lists a field twice is refused. -/
theorem readWholeText_of_repeated (ofValues : List FieldValue → Except Fault Record)
    (written : DocumentText members document) (known : ∃ field ∈ fields, field.name = name)
    (twice : 2 ≤ (members.map Member.name).count name) :
    ∃ fault, readWholeText (readFields fields ofValues) document = .error fault := by
  cases written with
  | @mk before text after left object right =>
      rcases readRecord_of_repeated left object known twice after with ⟨fault, failed⟩
      exact ⟨fault, by simp [readWholeText, readFields, failed, bind, Except.bind]⟩

theorem Field.value_of_listed (listed : given.lookup field.name = some value) :
    Field.value given field = .ok value := by
  rw [Field.value, listed]

theorem Field.value_of_default (optional : field.default = some value) :
    Field.value given field = .ok ((given.lookup field.name).getD value) := by
  rw [Field.value, optional]
  cases given.lookup field.name <;> rfl

theorem collect_cons_of_value {later : List FieldValue}
    (first : Field.value given field = .ok value) (others : collect fields given = .ok later) :
    collect (field :: fields) given = .ok (value :: later) := by
  rw [collect] at others ⊢
  rw [List.mapM_cons, first, others]
  rfl

/-- A field without a default has to be listed. -/
theorem collect_of_missing (listed : field ∈ fields) (required : field.default = none)
    (missing : given.lookup field.name = none) : ∃ fault, collect fields given = .error fault := by
  induction fields with
  | nil => cases listed
  | cons first fields ih =>
      rw [collect, List.mapM_cons]
      cases value : Field.value given first with
      | error fault => exact ⟨fault, rfl⟩
      | ok value =>
          rcases List.mem_cons.mp listed with rfl | later
          · simp [Field.value, missing, required] at *
          · rcases ih later with ⟨fault, failed⟩
            rw [collect] at failed
            rw [failed]
            exact ⟨fault, rfl⟩

/-- If every field is listed or has a default, a document is read as the record of these values. -/
theorem readWholeText_of_collected (ofValues : List FieldValue → Except Fault Record)
    (written : DocumentText members document) (gives : Gives fields members given)
    (distinct : (given.map Prod.fst).Nodup) {values : List FieldValue}
    (collected : collect fields given = .ok values) :
    readWholeText (readFields fields ofValues) document = ofValues values := by
  rw [readWholeText_of_gives ofValues written gives distinct, collected]
  rfl

/-- A document that leaves out a field without a default is refused. -/
theorem readWholeText_of_missing (ofValues : List FieldValue → Except Fault Record)
    (written : DocumentText members document) (gives : Gives fields members given)
    (distinct : (given.map Prod.fst).Nodup) (listed : field ∈ fields)
    (required : field.default = none) (missing : given.lookup field.name = none) :
    ∃ fault, readWholeText (readFields fields ofValues) document = .error fault := by
  rcases collect_of_missing listed required missing with ⟨fault, failed⟩
  exact ⟨fault, by rw [readWholeText_of_gives ofValues written gives distinct, failed]; rfl⟩

/-- What is given to a field, the field can hold. -/
theorem Gives.holds (gives : Gives fields members given) :
    ∀ entry ∈ given, Holds fields entry := by
  induction gives with
  | nil => simp
  | known holds _ _ ih => exact List.forall_mem_cons.mpr ⟨holds, ih⟩
  | unknown _ _ ih => exact ih

end Rendezvous.Json
