import Rendezvous.Json.Reader

/-!
# How strings are spelled

White space and strings as JSON has them, said without a reader. A string is read as the characters
that it spells, with whatever escapes it spells them (`Json.readStringBody_of_spells`). An escape may
also name half a surrogate pair, which spells nothing: a string with such an escape is skipped like
any other (`Json.skipStringBody_of_body`), and a reader that asks for its characters refuses it. In
no case does a reader take more or less than the string (`Json.leaves_readStringBody`).
-/

namespace Rendezvous.Json

/-! ## White space -/

/-- A text of white space. -/
def Spaces (text : List Char) : Prop :=
  ∀ character ∈ text, isSpace character = true

theorem skipSpace_cons {character : Char} (visible : isSpace character = false)
    (rest : List Char) : skipSpace (character :: rest) = character :: rest := by
  simp [skipSpace, visible]

theorem skipSpace_of_spaces {before : List Char} (spaces : Spaces before) (rest : List Char) :
    skipSpace (before ++ rest) = skipSpace rest :=
  List.dropWhile_append_of_pos spaces

theorem skipSpace_spaces {text : List Char} (spaces : Spaces text) : skipSpace text = [] := by
  have skipped := skipSpace_of_spaces spaces []
  rwa [List.append_nil] at skipped

theorem skipSpace_append {before : List Char} {character : Char} (spaces : Spaces before)
    (visible : isSpace character = false) (rest : List Char) :
    skipSpace (before ++ character :: rest) = character :: rest := by
  rw [skipSpace_of_spaces spaces, skipSpace_cons visible]

/-! ## Strings -/

/-- Each escape of one letter, with the character that it spells. -/
def shortEscapes : List (Char × Char) :=
  [('"', '"'), ('\\', '\\'), ('/', '/'), ('b', '\x08'), ('f', '\x0c'), ('n', '\n'), ('r', '\r'),
    ('t', '\t')]

/-- Four hexadecimal digits with their value. -/
structure CodeUnit (digits : List Char) (unit : Nat) : Prop where
  length : digits.length = 4
  plain : ∀ digit ∈ digits, Text.isDigitIn 16 digit = true
  value : Text.ofDigits 16 digits = unit

/-- What may stand between the quotes of a string. -/
inductive Body : List Char → Prop
  | nil : Body []
  | plain {character : Char} {body : List Char} (quote : character ≠ '"')
      (backslash : character ≠ '\\') (printable : 0x20 ≤ character.toNat) (later : Body body) :
      Body (character :: body)
  | short {letter character : Char} {body : List Char}
      (listed : (letter, character) ∈ shortEscapes) (later : Body body) :
      Body ('\\' :: letter :: body)
  | unit {digits body : List Char} {unit : Nat} (code : CodeUnit digits unit)
      (later : Body body) : Body ('\\' :: 'u' :: (digits ++ body))

/-- What stands between the quotes of a string spells its characters: as themselves, by an escape of
one letter, by a code point, or by the two surrogates of one. -/
inductive Spells : List Char → List Char → Prop
  | nil : Spells [] []
  | plain {character : Char} {body characters : List Char} (quote : character ≠ '"')
      (backslash : character ≠ '\\') (printable : 0x20 ≤ character.toNat)
      (later : Spells body characters) : Spells (character :: body) (character :: characters)
  | short {letter character : Char} {body characters : List Char}
      (listed : (letter, character) ∈ shortEscapes) (later : Spells body characters) :
      Spells ('\\' :: letter :: body) (character :: characters)
  | unit {digits : List Char} {character : Char} {body characters : List Char}
      (code : CodeUnit digits character.toNat) (later : Spells body characters) :
      Spells ('\\' :: 'u' :: (digits ++ body)) (character :: characters)
  | pair {first second : List Char} {high low : Nat} {character : Char}
      {body characters : List Char} (one : CodeUnit first (0xD800 + high))
      (another : CodeUnit second (0xDC00 + low)) (small : low < 0x400)
      (point : character.toNat = 0x10000 + high * 0x400 + low) (later : Spells body characters) :
      Spells ('\\' :: 'u' :: (first ++ '\\' :: 'u' :: (second ++ body))) (character :: characters)

/-- If a reader succeeds, it leaves just the rest of the text. -/
def Leaves {α : Type} (result : Except Fault (α × List Char)) (rest : List Char) : Prop :=
  ∀ value after, result = .ok (value, after) → after = rest

variable {body characters digits rest text : List Char} {unit : Nat} {letter character : Char}

theorem body_of_spells (spells : Spells body characters) : Body body := by
  induction spells with
  | nil => exact .nil
  | plain quote backslash printable _ ih => exact .plain quote backslash printable ih
  | short listed _ ih => exact .short listed ih
  | unit code _ ih => exact .unit code ih
  | pair one another _ _ _ ih => exact .unit one (.unit another ih)

theorem readCodeUnit_of_codeUnit (code : CodeUnit digits unit) (rest : List Char) :
    readCodeUnit (digits ++ rest) = .ok unit := by
  have front : (digits ++ rest).take 4 = digits := List.take_left' code.length
  simp only [readCodeUnit, front, code.length, code.value, List.all_eq_true.mpr code.plain]
  simp

theorem readEscape_short (listed : (letter, character) ∈ shortEscapes) (rest : List Char) :
    readEscape (letter :: rest) = .ok (character, 1) := by
  simp only [shortEscapes, List.mem_cons, Prod.mk.injEq, List.not_mem_nil, or_false] at listed
  rcases listed with ⟨rfl, rfl⟩ | ⟨rfl, rfl⟩ | ⟨rfl, rfl⟩ | ⟨rfl, rfl⟩ | ⟨rfl, rfl⟩ |
    ⟨rfl, rfl⟩ | ⟨rfl, rfl⟩ | ⟨rfl, rfl⟩ <;> rfl

/-- An escape of a code unit is the character itself, or it goes on with another escape. -/
theorem readEscape_codeUnit (code : CodeUnit digits unit) (rest : List Char) :
    readEscape ('u' :: (digits ++ rest)) =
      if isLowSurrogate unit then .error .malformed
      else if isHighSurrogate unit then
        (readLowSurrogate rest).map fun low => (ofSurrogates unit low, 11)
      else .ok (Char.ofNat unit, 5) := by
  have read := readCodeUnit_of_codeUnit code rest
  have dropped : (digits ++ rest).drop 4 = rest := List.drop_left' code.length
  simp only [readEscape, read, dropped, bind, Except.bind]
  cases readLowSurrogate rest <;> rfl

theorem readEscape_unit (code : CodeUnit digits character.toNat) (rest : List Char) :
    readEscape ('u' :: (digits ++ rest)) = .ok (character, 5) := by
  have valid : character.toNat < 0xD800 ∨ 0xDFFF < character.toNat := by
    rcases character.valid with below | above
    · exact Or.inl below
    · exact Or.inr above.1
  have low : isLowSurrogate character.toNat = false := by
    simp [isLowSurrogate]
    omega
  have high : isHighSurrogate character.toNat = false := by
    simp [isHighSurrogate]
    omega
  simp [readEscape_codeUnit code, low, high]

theorem readLowSurrogate_unit (code : CodeUnit digits unit) (rest : List Char) :
    readLowSurrogate ('\\' :: 'u' :: (digits ++ rest)) =
      if isLowSurrogate unit then .ok unit else .error .malformed := by
  simp [readLowSurrogate, readCodeUnit_of_codeUnit code, bind, Except.bind]

theorem readEscape_pair {first second : List Char} {high low : Nat}
    (one : CodeUnit first (0xD800 + high)) (another : CodeUnit second (0xDC00 + low))
    (small : low < 0x400) (point : character.toNat = 0x10000 + high * 0x400 + low)
    (rest : List Char) :
    readEscape ('u' :: (first ++ '\\' :: 'u' :: (second ++ rest))) = .ok (character, 11) := by
  have within : character.toNat < 0x110000 := by
    rcases character.valid with below | above
    · exact Nat.lt_of_lt_of_le below (by decide)
    · exact above.2
  have opens : isHighSurrogate (0xD800 + high) = true := by
    simp [isHighSurrogate]
    omega
  have single : isLowSurrogate (0xD800 + high) = false := by
    simp [isLowSurrogate]
    omega
  have closes : isLowSurrogate (0xDC00 + low) = true := by
    simp [isLowSurrogate]
    omega
  have joined : ofSurrogates (0xD800 + high) (0xDC00 + low) = character := by
    have value : (0xD800 + high - 0xD800) * 0x400 + (0xDC00 + low - 0xDC00) + 0x10000 =
        character.toNat := by
      omega
    rw [ofSurrogates, value, Char.ofNat_toNat]
  simp [readEscape_codeUnit one, opens, single, readLowSurrogate_unit another, closes, joined,
    Except.map]

theorem readStringBody_pending (code rest : List Char) :
    readStringBody code.length (code ++ rest) = readStringBody 0 rest := by
  induction code with
  | nil => rfl
  | cons character code ih => exact ih

/-- An escape is read with its backslash, and then its other characters are passed over. -/
theorem readStringBody_escape (code rest : List Char)
    (read : readEscape (code ++ rest) = .ok (character, code.length)) :
    readStringBody 0 ('\\' :: (code ++ rest)) =
      (readStringBody 0 rest).map fun result => (character :: result.1, result.2) := by
  have passed := readStringBody_pending code rest
  rw [readStringBody]
  simp only [read, passed, bind, Except.bind]
  cases readStringBody 0 rest <;> simp [Except.map]

theorem readStringBody_plain (quote : character ≠ '"') (backslash : character ≠ '\\')
    (printable : 0x20 ≤ character.toNat) (rest : List Char) :
    readStringBody 0 (character :: rest) =
      (readStringBody 0 rest).map fun result => (character :: result.1, result.2) := by
  rw [readStringBody, if_neg quote, if_neg backslash, if_neg (Nat.not_lt.mpr printable)]
  cases readStringBody 0 rest <;> rfl

/-- A string is read as the characters that it spells. -/
theorem readStringBody_of_spells (spells : Spells body characters) (rest : List Char) :
    readStringBody 0 (body ++ '"' :: rest) = .ok (characters, rest) := by
  induction spells with
  | nil => rfl
  | plain quote backslash printable _ ih =>
      rw [List.cons_append, readStringBody_plain quote backslash printable, ih]
      rfl
  | @short letter character body _ listed _ ih =>
      have read := readEscape_short listed (body ++ '"' :: rest)
      have escaped := readStringBody_escape [letter] (body ++ '"' :: rest) read
      simpa [ih, Except.map] using escaped
  | @unit digits character body _ code _ ih =>
      have read := readEscape_unit code (body ++ '"' :: rest)
      have escaped := readStringBody_escape ('u' :: digits) (body ++ '"' :: rest)
        (by simpa [code.length] using read)
      simpa [ih, Except.map] using escaped
  | @pair first second _ _ character body _ one another small point _ ih =>
      have read := readEscape_pair one another small point (body ++ '"' :: rest)
      have escaped := readStringBody_escape ('u' :: (first ++ '\\' :: 'u' :: second))
        (body ++ '"' :: rest) (by simpa [one.length, another.length] using read)
      simpa [ih, Except.map] using escaped

theorem readStringBody_of_fault {fault : Fault} (failed : readEscape rest = .error fault) :
    readStringBody 0 ('\\' :: rest) = .error fault := by
  rw [readStringBody]
  simp [failed, bind, Except.bind]

theorem leaves_error {α : Type} (fault : Fault) (rest : List Char) :
    Leaves (.error fault : Except Fault (α × List Char)) rest := by
  intro value after read
  cases read

theorem Leaves.map {α β : Type} {result : Except Fault (α × List Char)} (leaves : Leaves result rest)
    (change : α → β) : Leaves (result.map fun read => (change read.1, read.2)) rest := by
  intro value after read
  cases result with
  | error => cases read
  | ok taken =>
      cases read
      exact leaves _ _ rfl

theorem leaves_escape (code : List Char) {later : List Char}
    (read : readEscape (code ++ later) = .ok (character, code.length))
    (leaves : Leaves (readStringBody 0 later) rest) :
    Leaves (readStringBody 0 ('\\' :: (code ++ later))) rest := by
  rw [readStringBody_escape code later read]
  exact leaves.map _

/-- After a high surrogate only another escape of a code unit goes on. -/
theorem readLowSurrogate_of_body (body : Body text) (rest : List Char) :
    (∃ fault, readLowSurrogate (text ++ '"' :: rest) = .error fault) ∨
      ∃ digits later unit, text = '\\' :: 'u' :: (digits ++ later) ∧ CodeUnit digits unit ∧
        Body later := by
  cases body with
  | nil => exact Or.inl ⟨_, rfl⟩
  | plain quote backslash printable later =>
      refine Or.inl ⟨.malformed, ?_⟩
      rw [List.cons_append, readLowSurrogate.eq_def]
      split <;> simp_all
  | @short letter character body listed later =>
      refine Or.inl ⟨.malformed, ?_⟩
      have other : letter ≠ 'u' := by
        rintro rfl
        simp [shortEscapes] at listed
      rw [List.cons_append, List.cons_append, readLowSurrogate.eq_def]
      split <;> simp_all
  | @unit digits later unit code body => exact Or.inr ⟨digits, later, unit, rfl, code, body⟩

/-- Whatever stands in a string, a reader takes it up to the closing quote or not at all. -/
theorem leaves_readStringBody (body : Body text) (rest : List Char) :
    Leaves (readStringBody 0 (text ++ '"' :: rest)) rest := by
  -- A high surrogate is read together with the next escape, hence not one part after another.
  generalize length : text.length = size
  induction size using Nat.strongRecOn generalizing text with
  | ind size ih =>
      cases body with
      | nil =>
          intro value after read
          cases read
          rfl
      | plain quote backslash printable later =>
          rw [List.cons_append, readStringBody_plain quote backslash printable]
          exact (ih _ (by simp [← length]) later rfl).map _
      | @short letter character body listed later =>
          have shorter : body.length < size := by
            rw [← length, List.length_cons, List.length_cons]
            omega
          exact leaves_escape [letter] (readEscape_short listed _) (ih _ shorter later rfl)
      | @unit digits body unit code later =>
          have escape := readEscape_codeUnit code (body ++ '"' :: rest)
          rw [List.cons_append, List.cons_append, List.append_assoc]
          split at escape
          · rw [readStringBody_of_fault escape]
            exact leaves_error _ _
          · split at escape
            · rcases readLowSurrogate_of_body later rest with
                ⟨fault, failed⟩ | ⟨second, body, low, rfl, another, later⟩
              · rw [failed] at escape
                rw [readStringBody_of_fault escape]
                exact leaves_error _ _
              · rw [List.cons_append, List.cons_append, List.append_assoc] at escape ⊢
                rw [readLowSurrogate_unit another] at escape
                split at escape
                · have shorter : body.length < size := by
                    simp only [← length, List.length_cons, List.length_append]
                    omega
                  have both := leaves_escape ('u' :: (digits ++ '\\' :: 'u' :: second))
                    (by simpa [code.length, another.length, Except.map] using escape)
                    (ih _ shorter later rfl)
                  simpa using both
                · rw [readStringBody_of_fault escape]
                  exact leaves_error _ _
            · have shorter : body.length < size := by
                simp only [← length, List.length_cons, List.length_append]
                omega
              exact leaves_escape ('u' :: digits) (by simpa [code.length] using escape)
                (ih _ shorter later rfl)

/-! ## Strings that are skipped -/

theorem skipStringBody_pending (code rest : List Char) :
    skipStringBody code.length (code ++ rest) = skipStringBody 0 rest := by
  induction code with
  | nil => rfl
  | cons character code ih => exact ih

theorem skipEscape_short (listed : (letter, character) ∈ shortEscapes) (rest : List Char) :
    skipEscape (letter :: rest) = .ok 1 := by
  simp only [shortEscapes, List.mem_cons, Prod.mk.injEq, List.not_mem_nil, or_false] at listed
  rcases listed with ⟨rfl, _⟩ | ⟨rfl, _⟩ | ⟨rfl, _⟩ | ⟨rfl, _⟩ | ⟨rfl, _⟩ | ⟨rfl, _⟩ | ⟨rfl, _⟩ |
    ⟨rfl, _⟩ <;> rfl

theorem skipStringBody_of_body (body : Body text) (rest : List Char) :
    skipStringBody 0 (text ++ '"' :: rest) = .ok rest := by
  induction body with
  | nil => rfl
  | plain quote backslash printable _ ih =>
      rw [List.cons_append, skipStringBody, if_neg quote, if_neg backslash,
        if_neg (Nat.not_lt.mpr printable), ih]
  | @short letter character body listed _ ih =>
      have escape := skipEscape_short listed (body ++ '"' :: rest)
      have passed := skipStringBody_pending [letter] (body ++ '"' :: rest)
      simp only [List.cons_append, skipStringBody]
      simp only [escape, bind, Except.bind]
      exact passed.trans ih
  | @unit digits body _ code _ ih =>
      have read := readCodeUnit_of_codeUnit code (body ++ '"' :: rest)
      have passed := skipStringBody_pending ('u' :: digits) (body ++ '"' :: rest)
      rw [List.length_cons, code.length] at passed
      simp only [List.cons_append, List.append_assoc, skipStringBody]
      simp only [skipEscape, read, bind, Except.bind]
      exact passed.trans ih

end Rendezvous.Json
