import Mathlib.Data.List.Forall2
import Rendezvous.Proofs.Metadata.Augmentation

/-!
# Quoted lists, entry by entry

A quoted list is read piece by piece between its commas. The pieces know nothing of each other, so
that a list in two parts is read as its parts are, and the way in which an entry is quoted does not
show (`QuotedList.read_by_entries`).
-/

namespace Rendezvous

namespace QuotedList

/-- A text is wrapped in a pair of equal quotes. -/
def IsQuoted (entry : List Char) : Prop :=
  ∃ quote inner, (quote = '\'' ∨ quote = '"') ∧ entry = quote :: (inner ++ [quote])

/-- The entry that a piece of a list holds. -/
def entryOf (piece : List Char) : List Char :=
  unquote (Text.trim piece)

/-- An entry has something in it, but nothing before its first colon if it has one. -/
def IsMalformed (entry : List Char) : Prop :=
  entry ≠ [] ∧ ∀ name value, entry = name ++ ':' :: value → ':' ∉ name →
    ∀ character ∈ name, Text.isBlank character = true

/-- An entry gives a value to a name. -/
def Gives (entry : List Char) (name value : String) : Prop :=
  ∃ before after, entry = before ++ ':' :: after ∧ ':' ∉ before ∧ Text.trim before ≠ [] ∧
    name = String.ofList (Text.trim before) ∧ value = String.ofList (Text.trim after)

/-- The last of some pieces whose entry gives a value to a name gives it this value. -/
def LastGives (pieces : List (List Char)) (name value : String) : Prop :=
  ∃ before piece after, pieces = before ++ piece :: after ∧ Gives (entryOf piece) name value ∧
    ∀ later ∈ after, ∀ other, ¬Gives (entryOf later) name other

variable {entry piece : List Char} {pieces more : List (List Char)} {name value : String}
  {properties : Directory String String} {error : HeaderError}

/-! ## One entry -/

theorem inside?_eq_some_iff {quote : Char} {inner : List Char} :
    inside? quote entry = some inner ↔ entry = quote :: (inner ++ [quote]) := by
  constructor
  · intro inside
    cases entry with
    | nil => cases inside
    | cons first rest =>
        simp only [inside?] at inside
        split at inside
        · rename_i wrapped
          rcases List.getLast?_eq_some_iff.mp wrapped.2 with ⟨middle, rfl⟩
          simp_all
        · cases inside
  · rintro rfl
    exact inside?_enclosed quote inner

theorem unquote_of_not_isQuoted (bare : ¬IsQuoted entry) : unquote entry = entry := by
  have outside : ∀ quote, quote = '\'' ∨ quote = '"' → inside? quote entry = none := by
    intro quote kind
    apply Option.eq_none_iff_forall_ne_some.mpr
    intro inner inside
    exact bare ⟨quote, inner, kind, inside?_eq_some_iff.mp inside⟩
  simp [unquote, outside]

theorem unquote_enclosed {quote : Char} (kind : quote = '\'' ∨ quote = '"') (inner : List Char) :
    unquote (quote :: (inner ++ [quote])) = Text.trim inner := by
  rcases kind with rfl | rfl
  · simp [unquote, inside?_enclosed]
  · have other : inside? '\'' ('"' :: (inner ++ ['"'])) = none := by simp [inside?]
    simp [unquote, inside?_enclosed, other]

/-- An entry is the same whether it stands in single quotes, in double quotes or in none. -/
theorem entryOf_quoted (bare : ¬IsQuoted (Text.trim piece)) {quoting : List Char}
    (kind : quoting ∈ [[], ['\''], ['"']]) :
    entryOf (quoting ++ piece ++ quoting) = entryOf piece := by
  have alone : entryOf piece = Text.trim piece := unquote_of_not_isQuoted bare
  rw [alone]
  have enclosed : ∀ quote, quote = '\'' ∨ quote = '"' → 
      entryOf ([quote] ++ piece ++ [quote]) = Text.trim piece := by
    intro quote kind
    have visible : Text.isBlank quote = false := by rcases kind with rfl | rfl <;> decide
    change unquote (Text.trim (quote :: (piece ++ [quote]))) = _
    rw [Text.trim_enclosed visible visible, unquote_enclosed kind]
  simp only [List.mem_cons, List.not_mem_nil, or_false] at kind
  rcases kind with rfl | rfl | rfl
  · simpa using alone
  · exact enclosed '\'' (Or.inl rfl)
  · exact enclosed '"' (Or.inr rfl)

/-- What is read of an entry. -/
theorem property?_cases (entry : List Char) :
    (entry = [] ∧ property? entry = .ok none) ∨
      (IsMalformed entry ∧ property? entry = .error (.malformed (String.ofList entry))) ∨
      ∃ name value, Gives entry name value ∧ property? entry = .ok (some (name, value)) := by
  cases cut : Text.splitFirst [':'] entry with
  | none =>
      have whole := Text.splitFirst_eq_none_iff.mp cut
      cases entry with
      | nil => exact Or.inl ⟨rfl, rfl⟩
      | cons first rest =>
          refine Or.inr (Or.inl ⟨⟨List.cons_ne_nil _ _, ?_⟩, ?_⟩)
          · intro name value parts
            simp [parts] at whole
          · simp [property?, cut]
  | some parts =>
      rcases Text.splitFirst_eq_some_iff.mp cut with ⟨joined, absent⟩
      have nonempty : entry ≠ [] := by simp [joined]
      right
      by_cases blank : Text.trim parts.1 = []
      · left
        refine ⟨⟨nonempty, ?_⟩, ?_⟩
        · intro name value other foreign
          have again := Text.splitFirst_eq_some_iff.mpr ⟨other, foreign⟩
          rw [cut, Option.some.injEq] at again
          rw [again] at blank
          exact Text.trim_eq_nil_iff.mp blank
        · simp [property?, nonempty, cut, blank]
      · right
        refine ⟨_, _, ⟨parts.1, parts.2, joined, absent, blank, rfl, rfl⟩, ?_⟩
        simp [property?, nonempty, cut, blank]

theorem Gives.unique {other another : String} (gives : Gives entry name value)
    (also : Gives entry other another) : other = name ∧ another = value := by
  rcases gives with ⟨before, after, joined, absent, _, rfl, rfl⟩
  rcases also with ⟨left, right, same, missing, _, rfl, rfl⟩
  have first := Text.splitFirst_eq_some_iff.mpr ⟨joined, absent⟩
  rw [Text.splitFirst_eq_some_iff.mpr ⟨same, missing⟩] at first
  cases first
  exact ⟨rfl, rfl⟩

theorem Gives.not_isMalformed (gives : Gives entry name value) : ¬IsMalformed entry := by
  rcases gives with ⟨before, after, joined, absent, visible, _⟩
  intro malformed
  exact visible (Text.trim_eq_nil_iff.mpr (malformed.2 before after joined absent))

/-! ## Whole lists -/

/-- What is wrong with a piece of a list, if anything is. -/
def fault? (piece : List Char) : Option HeaderError :=
  match property? (entryOf piece) with
  | .ok _ => none
  | .error error => some error

/-- The value that a piece of a list gives to a name, if it does. -/
def value? (name : String) (piece : List Char) : Option String :=
  match property? (entryOf piece) with
  | .ok (some (given, value)) => if given = name then some value else none
  | _ => none

theorem fault?_eq_some_iff : fault? piece = some error ↔
    IsMalformed (entryOf piece) ∧ error = .malformed (String.ofList (entryOf piece)) := by
  rcases property?_cases (entryOf piece) with
    ⟨empty, read⟩ | ⟨malformed, read⟩ | ⟨name, value, gives, read⟩
  · simp only [fault?, read]
    simp [IsMalformed, empty]
  · simp [fault?, read, malformed, eq_comm]
  · simp [fault?, read, gives.not_isMalformed]

theorem fault?_eq_none_iff : fault? piece = none ↔ ¬IsMalformed (entryOf piece) := by
  simp [Option.eq_none_iff_forall_ne_some, fault?_eq_some_iff]

theorem value?_eq_some_iff : value? name piece = some value ↔ Gives (entryOf piece) name value := by
  rcases property?_cases (entryOf piece) with
    ⟨empty, read⟩ | ⟨malformed, read⟩ | ⟨given, own, gives, read⟩
  · simp only [value?, read]
    simp [Gives, empty]
  · simp only [value?, read, reduceCtorEq, false_iff]
    exact fun gives => gives.not_isMalformed malformed
  · simp only [value?, read, Option.ite_none_right_eq_some, Option.some.injEq]
    constructor
    · rintro ⟨rfl, rfl⟩
      exact gives
    · intro also
      have same := gives.unique also
      exact ⟨same.1.symm, same.2.symm⟩

theorem addPiece_of_fault? (faulty : fault? piece = some error)
    (properties : Directory String String) : addPiece properties piece = .error error := by
  change property? (entryOf piece) >>= _ = _
  rw [fault?] at faulty
  split at faulty
  · cases faulty
  · rename_i failed
    rw [failed, ← Option.some.inj faulty]
    rfl

theorem addPiece_of_sound (sound : fault? piece = none) (properties : Directory String String) :
    ∃ next, addPiece properties piece = .ok next ∧
      ∀ name, next.find? name = (value? name piece).or (properties.find? name) := by
  change ∃ next, property? (entryOf piece) >>= _ = _ ∧ _
  rw [fault?] at sound
  split at sound
  · rename_i held read
    simp only [value?, read]
    cases held with
    | none => exact ⟨properties, rfl, fun name => rfl⟩
    | some given =>
        refine ⟨properties.put given.1 given.2, rfl, ?_⟩
        intro name
        rw [Directory.find?_put]
        by_cases same : given.1 = name
        · simp [same]
        · simp [same, Ne.symm same]
  · cases sound

/-- A list is refused for its first malformed entry, whatever has been read before; otherwise its
last value of a name replaces the one from before. -/
theorem foldlM_addPiece (pieces : List (List Char)) (properties : Directory String String) :
    (∀ error, pieces.findSome? fault? = some error →
      pieces.foldlM addPiece properties = .error error) ∧
    (pieces.findSome? fault? = none →
      ∃ all, pieces.foldlM addPiece properties = .ok all ∧
        ∀ name, all.find? name =
          (pieces.filterMap (value? name)).getLast?.or (properties.find? name)) := by
  induction pieces generalizing properties with
  | nil =>
      constructor
      · intro error faulty
        cases faulty
      · intro _
        exact ⟨properties, rfl, fun name => rfl⟩
  | cons piece rest ih =>
      cases fault : fault? piece with
      | some first =>
          simp only [List.findSome?_cons, fault, Option.some.injEq, List.foldlM_cons,
            addPiece_of_fault? fault]
          constructor
          · rintro error rfl
            rfl
          · intro sound
            cases sound
      | none =>
          rcases addPiece_of_sound fault properties with ⟨next, added, found⟩
          have step : (piece :: rest).foldlM addPiece properties = rest.foldlM addPiece next := by
            rw [List.foldlM_cons, added]
            rfl
          simp only [List.findSome?_cons, fault, step]
          refine ⟨(ih next).1, fun sound => ?_⟩
          rcases (ih next).2 sound with ⟨all, read, later⟩
          refine ⟨all, read, fun name => ?_⟩
          rw [later, found, List.filterMap_cons]
          cases value? name piece with
          | none => rfl
          | some value =>
              rw [List.getLast?_cons]
              cases (rest.filterMap (value? name)).getLast? <;> rfl

theorem values_eq_nil_iff : pieces.filterMap (value? name) = [] ↔
    ∀ piece ∈ pieces, ∀ value, ¬Gives (entryOf piece) name value := by
  simp [List.filterMap_eq_nil_iff, Option.eq_none_iff_forall_ne_some, value?_eq_some_iff]

theorem getLast?_values_eq_some_iff :
    (pieces.filterMap (value? name)).getLast? = some value ↔ LastGives pieces name value := by
  rw [List.getLast?_eq_some_iff]
  constructor
  · rintro ⟨former, parts⟩
    rcases List.filterMap_eq_append_iff.mp parts with ⟨front, back, rfl, _, last⟩
    rcases List.filterMap_eq_cons_iff.mp last with ⟨skipped, piece, later, rfl, _, given, none⟩
    refine ⟨front ++ skipped, piece, later, by simp, value?_eq_some_iff.mp given, ?_⟩
    exact values_eq_nil_iff.mp none
  · rintro ⟨before, piece, after, rfl, gives, none⟩
    refine ⟨before.filterMap (value? name), ?_⟩
    rw [List.filterMap_append, List.filterMap_cons_some (value?_eq_some_iff.mpr gives),
      values_eq_nil_iff.mpr none]

theorem foldlM_addPiece_empty (sound : pieces.findSome? fault? = none) :
    ∃ all, pieces.foldlM addPiece Directory.empty = .ok all ∧
      ∀ name, all.find? name = (pieces.filterMap (value? name)).getLast? := by
  rcases (foldlM_addPiece pieces Directory.empty).2 sound with ⟨all, read, found⟩
  refine ⟨all, read, fun name => ?_⟩
  rw [found, Directory.find?_empty, Option.or_none]

/-- Two parts of a list are read as each of them is. -/
theorem foldlM_addPiece_append (pieces more : List (List Char)) :
    let joined := (pieces ++ more).foldlM addPiece Directory.empty
    (∀ error, pieces.foldlM addPiece Directory.empty = .error error → joined = .error error) ∧
    ∀ first, pieces.foldlM addPiece Directory.empty = .ok first →
      (∀ error, more.foldlM addPiece Directory.empty = .error error → joined = .error error) ∧
      ∀ second, more.foldlM addPiece Directory.empty = .ok second →
        ∃ all, joined = .ok all ∧
          ∀ name, all.find? name = (second.find? name).or (first.find? name) := by
  simp only [List.foldlM_append]
  refine ⟨?_, fun first read => ⟨?_, ?_⟩⟩
  · intro error failed
    rw [failed]
    rfl
  · intro error failed
    rw [read]
    cases fault : more.findSome? fault? with
    | some own =>
        rw [(foldlM_addPiece more _).1 own fault] at failed
        cases failed
        exact (foldlM_addPiece more first).1 error fault
    | none =>
        rcases foldlM_addPiece_empty fault with ⟨all, whole, _⟩
        rw [whole] at failed
        cases failed
  · intro second also
    rw [read]
    cases fault : more.findSome? fault? with
    | some own =>
        rw [(foldlM_addPiece more _).1 own fault] at also
        cases also
    | none =>
        rcases foldlM_addPiece_empty fault with ⟨whole, alone, values⟩
        rw [alone] at also
        cases also
        rcases (foldlM_addPiece more first).2 fault with ⟨all, joined, found⟩
        refine ⟨all, joined, fun name => ?_⟩
        rw [found, values]

/-- A text without commas is a list of one piece. -/
theorem parse_single (noComma : ',' ∉ piece) :
    parse (String.ofList piece) = (property? (entryOf piece)).map fun held =>
      held.elim Directory.empty fun given => Directory.empty.put given.1 given.2 := by
  rw [parse, String.toList_ofList, List.splitOn_eq_singleton noComma, List.foldlM_cons]
  change (property? (entryOf piece) >>= _) >>= _ = _
  cases property? (entryOf piece) with
  | error error => rfl
  | ok held => cases held <;> rfl

/-! ## Extraction -/

/-- Why the requested properties cannot be taken from a list in pieces. -/
def Refused (pieces : List (List Char)) (requested : List String) (error : HeaderError) : Prop :=
  (∃ before piece after, pieces = before ++ piece :: after ∧
    (∀ earlier ∈ before, ¬IsMalformed (entryOf earlier)) ∧ IsMalformed (entryOf piece) ∧
      error = .malformed (String.ofList (entryOf piece))) ∨
  ((∀ piece ∈ pieces, ¬IsMalformed (entryOf piece)) ∧
    ∃ before name after, requested = before ++ name :: after ∧
      (∀ other ∈ before, ∃ value, LastGives pieces other value) ∧
      (∀ piece ∈ pieces, ∀ value, ¬Gives (entryOf piece) name value) ∧
        error = .missingProperty name)

/-- The report of a name to which no piece of a list gives a value. -/
def missing? (pieces : List (List Char)) (name : String) : Option HeaderError :=
  if pieces.filterMap (value? name) = [] then some (.missingProperty name) else none

theorem missing?_eq_some_iff : missing? pieces name = some error ↔
    (∀ piece ∈ pieces, ∀ value, ¬Gives (entryOf piece) name value) ∧
      error = .missingProperty name := by
  rw [← values_eq_nil_iff, missing?]
  split
  · rename_i silent
    simp [silent, eq_comm]
  · rename_i given
    simp [given]

theorem missing?_eq_none_iff : missing? pieces name = none ↔
    ∃ value, LastGives pieces name value := by
  simp only [missing?, ← getLast?_values_eq_some_iff, ← Option.isSome_iff_exists,
    List.getLast?_isSome, ite_eq_right_iff, reduceCtorEq, imp_false, ne_eq]

/-- The first fault of the pieces, and else the first name that is missing. -/
def refusal? (pieces : List (List Char)) (requested : List String) : Option HeaderError :=
  (pieces.findSome? fault?).or (requested.findSome? (missing? pieces))

theorem refusal?_eq_some_iff {requested : List String} :
    refusal? pieces requested = some error ↔ Refused pieces requested error := by
  have sound : pieces.findSome? fault? = none ↔ ∀ piece ∈ pieces, ¬IsMalformed (entryOf piece) := by
    simp [List.findSome?_eq_none_iff, fault?_eq_none_iff]
  rw [refusal?, Option.or_eq_some_iff, sound, List.findSome?_eq_some_iff,
    List.findSome?_eq_some_iff, Refused]
  simp only [fault?_eq_some_iff, fault?_eq_none_iff, missing?_eq_some_iff, missing?_eq_none_iff]
  constructor
  · rintro (⟨before, piece, after, parts, malformed, earlier⟩ |
      ⟨plain, before, name, after, parts, missing, earlier⟩)
    · exact Or.inl ⟨before, piece, after, parts, earlier, malformed⟩
    · exact Or.inr ⟨plain, before, name, after, parts, earlier, missing⟩
  · rintro (⟨before, piece, after, parts, earlier, malformed⟩ |
      ⟨plain, before, name, after, parts, earlier, missing⟩)
    · exact Or.inl ⟨before, piece, after, parts, malformed, earlier⟩
    · exact Or.inr ⟨plain, before, name, after, parts, missing, earlier⟩

theorem refusal?_eq_none_iff {requested : List String} : refusal? pieces requested = none ↔
    (∀ piece ∈ pieces, ¬IsMalformed (entryOf piece)) ∧
      ∀ name ∈ requested, ∃ value, LastGives pieces name value := by
  simp [refusal?, List.findSome?_eq_none_iff, fault?_eq_none_iff, missing?_eq_none_iff]

theorem forall₂_lastGives_iff {requested values : List String} :
    List.Forall₂ (LastGives pieces) requested values ↔
      values.map some = requested.map fun name => (pieces.filterMap (value? name)).getLast? := by
  induction requested generalizing values with
  | nil => cases values <;> simp
  | cons name rest ih =>
      cases values with
      | nil => simp
      | cons value others => simp [ih, ← getLast?_values_eq_some_iff, eq_comm]

theorem exists_lastGives {requested values : List String}
    (given : List.Forall₂ (LastGives pieces) requested values) :
    ∀ name ∈ requested, ∃ value, LastGives pieces name value := by
  induction given with
  | nil => simp
  | cons here _ ih => exact List.forall_mem_cons.mpr ⟨⟨_, here⟩, ih⟩

/-- Either there is a refusal, or every requested name gets its last value. -/
theorem extract_cases (headers : String) (requested : List String) :
    let pieces := headers.toList.splitOn ','
    (∃ error, refusal? pieces requested = some error ∧
      extract headers requested = .error error) ∨
    (refusal? pieces requested = none ∧ ∃ values, extract headers requested = .ok values ∧
      List.Forall₂ (LastGives pieces) requested values) := by
  intro pieces
  cases fault : pieces.findSome? fault? with
  | some error =>
      left
      refine ⟨error, by simp [refusal?, fault], ?_⟩
      rw [extract, parse, (foldlM_addPiece _ _).1 error fault]
      rfl
  | none =>
      rcases foldlM_addPiece_empty fault with ⟨all, read, found⟩
      have opened : extract headers requested = requested.mapM (property all) := by
        rw [extract, parse, read]
        rfl
      simp only [refusal?, fault, Option.none_or, opened]
      rcases mapM_property all requested with
        ⟨values, taken, same⟩ | ⟨before, name, after, rfl, there, absent, failed⟩
      · right
        rw [funext found] at same
        have given := forall₂_lastGives_iff.mpr same
        refine ⟨?_, values, taken, given⟩
        rw [List.findSome?_eq_none_iff]
        intro name member
        exact missing?_eq_none_iff.mpr (exists_lastGives given name member)
      · left
        refine ⟨_, ?_, failed⟩
        refine List.findSome?_eq_some_iff.mpr ⟨before, name, after, rfl, ?_, ?_⟩
        · rw [found, List.getLast?_eq_none_iff] at absent
          rw [missing?, if_pos absent]
        · intro other member
          have present := there other member
          rw [found, Option.isSome_iff_exists] at present
          rcases present with ⟨value, last⟩
          exact missing?_eq_none_iff.mpr ⟨value, getLast?_values_eq_some_iff.mp last⟩

/-- A list in two parts with a comma between them is refused as its first part or else as its
second, and otherwise gives the properties of both, where those of the second part hold. An entry
without commas is read in the same way in single quotes, in double quotes and in none, unless it is
quoted already. Properties are extracted unless an entry is malformed or a name is missing, of which
the first is reported, and each is the value of the last entry of its name. -/
theorem read_by_entries :
    (∀ first second : String,
      let joined := parse (first ++ "," ++ second)
      (∀ error, parse first = .error error → joined = .error error) ∧
      ∀ properties, parse first = .ok properties →
        (∀ error, parse second = .error error → joined = .error error) ∧
        ∀ others, parse second = .ok others → ∃ all, joined = .ok all ∧
          ∀ name, all.find? name = (others.find? name).or (properties.find? name)) ∧
    (∀ entry before after : List Char, ',' ∉ entry → ¬IsQuoted (Text.trim entry) →
      (∀ character ∈ before, Text.isBlank character = true) →
      (∀ character ∈ after, Text.isBlank character = true) →
      ∀ quoting ∈ [[], ['\''], ['"']],
        parse (String.ofList (before ++ (quoting ++ entry ++ quoting) ++ after)) =
          parse (String.ofList entry)) ∧
    ∀ (headers : String) (requested : List String),
      let pieces := headers.toList.splitOn ','
      (∀ error, extract headers requested = .error error ↔ Refused pieces requested error) ∧
      ∀ values, extract headers requested = .ok values ↔
        (∀ piece ∈ pieces, ¬IsMalformed (entryOf piece)) ∧
          List.Forall₂ (LastGives pieces) requested values := by
  refine ⟨?_, ?_, ?_⟩
  · intro first second joined
    have parts : joined = (first.toList.splitOn ',' ++ second.toList.splitOn ',').foldlM addPiece
        Directory.empty := by
      simp only [joined, parse]
      rw [← List.splitOn_append_cons_self]
      simp
    rw [parts]
    exact foldlM_addPiece_append _ _
  · intro entry before after noComma bare blankBefore blankAfter quoting kind
    have same : entryOf (before ++ (quoting ++ entry ++ quoting) ++ after) = entryOf entry := by
      rw [entryOf, Text.trim_surrounded blankBefore blankAfter]
      exact entryOf_quoted bare kind
    have visible : Text.isBlank ',' = false := by decide
    have outside : ',' ∉ before ++ (quoting ++ entry ++ quoting) ++ after := by
      have before : ',' ∉ before := fun member => by simp [blankBefore _ member] at visible
      have after : ',' ∉ after := fun member => by simp [blankAfter _ member] at visible
      have quotes : ',' ∉ quoting := by
        simp only [List.mem_cons, List.not_mem_nil, or_false] at kind
        rcases kind with rfl | rfl | rfl <;> decide
      simp [before, after, quotes, noComma]
    rw [parse_single outside, parse_single noComma, same]
  · intro headers requested pieces
    rcases extract_cases headers requested with
      ⟨error, refused, failed⟩ | ⟨accepted, values, taken, given⟩
    · rw [failed]
      constructor
      · simp [← refusal?_eq_some_iff, pieces, refused]
      · simp only [reduceCtorEq, false_iff, not_and]
        intro values plain given
        have accepted := refusal?_eq_none_iff.mpr ⟨plain, exists_lastGives given⟩
        rw [refused] at accepted
        cases accepted
    · rw [taken]
      constructor
      · simp [← refusal?_eq_some_iff, pieces, accepted]
      · intro others
        rw [Except.ok.injEq]
        constructor
        · rintro rfl
          exact ⟨(refusal?_eq_none_iff.mp accepted).1, given⟩
        · rintro ⟨_, also⟩
          rw [forall₂_lastGives_iff] at given also
          exact (List.map_inj_right fun _ _ => Option.some.inj).mp (given.trans also.symm)

/-- The second part of a list has the last word on a name, a lone quote may be quoted, and a
malformed entry is reported before a name that is missing. -/
theorem read_by_entries_of_lone_quote :
    (∃ all, parse "a:1, b:,'a: 2'" = .ok all ∧ all.find? "a" = some "2" ∧
      all.find? "b" = some "") ∧
    parse " \"'\"" = parse "'" ∧ extract "a:1,:" ["b"] = .error (.malformed ":") := by
  refine ⟨?_, ?_, ?_⟩
  · have first : parse "a:1, b:" = .ok ((Directory.empty.put "a" "1").put "b" "") := by rfl
    have second : parse "'a: 2'" = .ok (Directory.empty.put "a" "2") := by rfl
    have joined := (read_by_entries.1 "a:1, b:" "'a: 2'").2 _ first
    rcases joined.2 _ second with ⟨all, read, found⟩
    exact ⟨all, read, (found "a").trans rfl, (found "b").trans rfl⟩
  · have bare : ¬IsQuoted (Text.trim ['\'']) := by
      rintro ⟨quote, inner, _, same⟩
      have length := congrArg List.length same
      simp [show Text.trim ['\''] = ['\''] by decide] at length
    exact read_by_entries.2.1 ['\''] [' '] [] (by decide) bare
      (by simp [Text.isBlank, Text.blankRanges]) (by simp) ['"'] (by decide)
  · refine ((read_by_entries.2.2 "a:1,:" ["b"]).1 _).mpr (Or.inl ?_)
    refine ⟨["a:1".toList], [':'], [], by rfl, ?_, ?_⟩
    · exact List.forall_mem_singleton.mpr (fault?_eq_none_iff.mp (by rfl))
    · exact fault?_eq_some_iff.mp (by rfl)

end QuotedList

end Rendezvous
