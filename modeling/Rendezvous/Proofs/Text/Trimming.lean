import Mathlib.Data.List.DropRight
import Rendezvous.Text.Blank
import Rendezvous.Text.Split

/-!
# Trimming and splitting

Trimming stops at a character that is not blank, so a text between two such characters is left as
it is (`trim_enclosed`). Where a text is cut at the first or at the last occurrence of a character,
the cut is known by a part that does not have that character (`splitFirst_eq_some_iff`,
`splitLast_eq_some_iff`).
-/

namespace Rendezvous.Text

variable {character : Char} {left right text : List Char}

theorem trimStart_cons (visible : isBlank character = false) (rest : List Char) :
    trimStart (character :: rest) = character :: rest := by
  simp [trimStart, visible]

theorem trimStart_blank (blank : isBlank character = true) (rest : List Char) :
    trimStart (character :: rest) = trimStart rest := by
  simp [trimStart, blank]

/-- Blanks are taken from the end up to the last character that is not blank. -/
theorem trimEnd_append_cons (visible : isBlank character = false) (left right : List Char) :
    trimEnd (left ++ character :: right) = left ++ character :: trimEnd right := by
  rw [trimEnd, trimEnd, List.reverse_append, List.reverse_cons, List.append_assoc,
    List.dropWhile_append]
  cases rest : right.reverse.dropWhile isBlank with
  | nil => simp [visible]
  | cons last others => simp

theorem trimEnd_trimEnd (text : List Char) : trimEnd (trimEnd text) = trimEnd text :=
  List.rdropWhile_idempotent isBlank text

/-- A text has only blanks, or a first character that is not blank. -/
theorem blank_or_split (text : List Char) :
    (∀ character ∈ text, isBlank character = true) ∨
      ∃ blanks character rest, text = blanks ++ character :: rest ∧
        (∀ blank ∈ blanks, isBlank blank = true) ∧ isBlank character = false := by
  induction text with
  | nil => exact Or.inl fun _ member => absurd member List.not_mem_nil
  | cons first rest ih =>
      cases visible : isBlank first with
      | false =>
          exact Or.inr ⟨[], first, rest, rfl, fun _ member => absurd member List.not_mem_nil,
            visible⟩
      | true =>
          rcases ih with blank | ⟨blanks, character, tail, rfl, blank, seen⟩
          · exact Or.inl (List.forall_mem_cons.mpr ⟨visible, blank⟩)
          · exact Or.inr ⟨first :: blanks, character, tail, rfl,
              List.forall_mem_cons.mpr ⟨visible, blank⟩, seen⟩

theorem trimStart_append (blank : ∀ character ∈ left, isBlank character = true) :
    trimStart (left ++ right) = trimStart right :=
  List.dropWhile_append_of_pos blank

/-- It does not matter whether the blanks at the end have been taken away before. -/
theorem trim_trimEnd (text : List Char) : trim (trimEnd text) = trim text := by
  rcases blank_or_split text with blank | ⟨blanks, character, rest, rfl, blank, visible⟩
  · have none : trimEnd text = [] := List.rdropWhile_eq_nil_iff.mpr blank
    have start : trimStart text = [] := List.dropWhile_eq_nil_iff.mpr blank
    rw [none, trim, trim, start]
    rfl
  · rw [trimEnd_append_cons visible, trim, trim, trimStart_append blank, trimStart_append blank,
      trimStart_cons visible, trimStart_cons visible]
    have kept := trimEnd_append_cons visible [] (trimEnd rest)
    have cut := trimEnd_append_cons visible [] rest
    rw [List.nil_append] at kept cut
    rw [kept, cut, trimEnd_trimEnd, List.nil_append]

/-- A text between two characters that are not blank has nothing to be trimmed. -/
theorem trim_enclosed {first last : Char} (start : isBlank first = false)
    (stop : isBlank last = false) (middle : List Char) :
    trim (first :: (middle ++ [last])) = first :: (middle ++ [last]) := by
  rw [trim, trimStart_cons start]
  exact trimEnd_append_cons stop (first :: middle) []

theorem visible_of_any (blankless : text.any isBlank = false) :
    ∀ character ∈ text, isBlank character = false := by
  simpa using blankless

/-- A text that neither begins nor ends with a blank has nothing to be trimmed. -/
theorem trim_of_ends (start : ∀ first ∈ text.head?, isBlank first = false)
    (stop : ∀ last ∈ text.getLast?, isBlank last = false) : trim text = text := by
  cases text with
  | nil => rfl
  | cons first rest =>
      rw [trim, trimStart_cons (start first rfl)]
      refine List.rdropWhile_eq_self_iff.mpr fun nonempty blank => ?_
      rw [stop _ (List.getLast_mem_getLast? nonempty)] at blank
      cases blank

/-- A text without blanks has nothing to be trimmed. -/
theorem trim_of_visible (visible : ∀ character ∈ text, isBlank character = false) :
    trim text = text := by
  apply trim_of_ends
  · intro first member
    exact visible first (List.mem_of_mem_head? member)
  · intro last member
    exact visible last (List.mem_of_mem_getLast? member)

theorem trim_blank (blank : isBlank character = true) (text : List Char) :
    trim (character :: text) = trim text := by
  rw [trim, trim, trimStart_blank blank]

/-- Blanks on either side of a text do not count. -/
theorem trim_surrounded {before after : List Char}
    (blankBefore : ∀ character ∈ before, isBlank character = true)
    (blankAfter : ∀ character ∈ after, isBlank character = true) (text : List Char) :
    trim (before ++ text ++ after) = trim text := by
  have back : trimEnd (text ++ after) = trimEnd text := by
    simp only [trimEnd, List.reverse_append]
    rw [List.dropWhile_append_of_pos]
    simpa using blankAfter
  calc trim (before ++ text ++ after)
      = trim (text ++ after) := by rw [trim, trim, List.append_assoc, trimStart_append blankBefore]
    _ = trim (trimEnd (text ++ after)) := (trim_trimEnd _).symm
    _ = trim (trimEnd text) := by rw [back]
    _ = trim text := trim_trimEnd text

theorem trim_eq_nil_iff : trim text = [] ↔ ∀ character ∈ text, isBlank character = true := by
  constructor
  · intro empty
    rcases blank_or_split text with blank | ⟨blanks, character, rest, rfl, blank, visible⟩
    · exact blank
    · have cut := trimEnd_append_cons visible [] rest
      rw [trim, trimStart_append blank, trimStart_cons visible, ← List.nil_append (_ :: _), cut]
        at empty
      cases empty
  · intro blank
    rw [trim, show trimStart text = [] from List.dropWhile_eq_nil_iff.mpr blank]
    rfl

/-! ## Joining and splitting -/

/-- Joined texts are the first of them and the others, each after the separator. -/
theorem intercalate_cons (separator : Char) (first : List Char) (others : List (List Char)) :
    List.intercalate [separator] (first :: others) =
      first ++ others.flatMap (separator :: ·) := by
  induction others generalizing first with
  | nil => simp
  | cons next others ih =>
      rw [List.intercalate_cons_cons, ih]
      simp

/-- The cut is at the first occurrence of a separator if its first character does not come before.
-/
theorem splitFirst_separator (absent : character ∉ left) (more right : List Char) :
    splitFirst (character :: more) (left ++ (character :: more ++ right)) = some (left, right) := by
  induction left with
  | nil => simp [splitFirst]
  | cons first rest ih =>
      rw [List.mem_cons, not_or] at absent
      simpa [splitFirst, absent.1] using ih absent.2

/-- The cut is at the first occurrence of the separating character. -/
theorem splitFirst_append (absent : character ∉ left) (right : List Char) :
    splitFirst [character] (left ++ character :: right) = some (left, right) :=
  splitFirst_separator absent [] right

theorem eq_of_splitFirst {separator : List Char}
    (cut : splitFirst separator text = some (left, right)) :
    text = left ++ (separator ++ right) := by
  induction text generalizing left with
  | nil => cases cut
  | cons first rest ih =>
      rw [splitFirst] at cut
      split at cut
      · rename_i here
        rcases List.isPrefixOf_iff_prefix.mp here with ⟨tail, joined⟩
        rw [← joined, List.drop_left] at cut
        cases cut
        exact joined.symm
      · rcases Option.map_eq_some_iff.mp cut with ⟨parts, later, same⟩
        cases same
        rw [List.cons_append, ← ih later]

theorem not_mem_of_splitFirst (cut : splitFirst [character] text = some (left, right)) :
    character ∉ left := by
  induction text generalizing left with
  | nil => cases cut
  | cons first rest ih =>
      rw [splitFirst] at cut
      split at cut
      · cases cut
        exact List.not_mem_nil
      · rename_i elsewhere
        rcases Option.map_eq_some_iff.mp cut with ⟨parts, later, same⟩
        cases same
        intro member
        rcases List.mem_cons.mp member with rfl | tail
        · exact elsewhere (by simp)
        · exact ih later tail

theorem splitFirst_eq_some_iff : splitFirst [character] text = some (left, right) ↔
    text = left ++ character :: right ∧ character ∉ left := by
  constructor
  · intro cut
    exact ⟨eq_of_splitFirst cut, not_mem_of_splitFirst cut⟩
  · rintro ⟨rfl, absent⟩
    exact splitFirst_append absent right

theorem splitFirst_eq_none_iff : splitFirst [character] text = none ↔ character ∉ text := by
  constructor
  · intro uncut member
    rcases List.eq_append_cons_of_mem member with ⟨left, right, joined, absent⟩
    rw [splitFirst_eq_some_iff.mpr ⟨joined, absent⟩] at uncut
    cases uncut
  · intro absent
    apply Option.eq_none_iff_forall_ne_some.mpr
    intro parts cut
    apply absent
    rw [eq_of_splitFirst cut]
    simp

/-- The other cut is at the last occurrence of the separating character. -/
theorem splitLast_eq_some_iff : splitLast character text = some (left, right) ↔
    text = left ++ character :: right ∧ character ∉ right := by
  rw [splitLast, Option.map_eq_some_iff]
  constructor
  · rintro ⟨parts, cut, same⟩
    cases same
    rcases splitFirst_eq_some_iff.mp cut with ⟨joined, absent⟩
    refine ⟨?_, by simpa using absent⟩
    rw [← text.reverse_reverse, joined]
    simp
  · rintro ⟨rfl, absent⟩
    refine ⟨(right.reverse, left.reverse), splitFirst_eq_some_iff.mpr ⟨?_, ?_⟩, ?_⟩
    · simp
    · simpa using absent
    · simp

end Rendezvous.Text
