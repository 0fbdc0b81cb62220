import Rendezvous.Json.Printer
import Rendezvous.Proofs.Json.Objects
import Rendezvous.Proofs.Text.Trimming

/-!
# Printed documents are read back

A printed string spells its characters (`Json.spells_escape`), and an object that gives some fields
of a record their values lists just these (`Json.objectText_printGiven`). So it is read as these
values and the defaults of the other fields, in whatever order it gives them
(`Json.readRecord_printGiven`).
-/

namespace Rendezvous.Json

/-! ## Strings -/

theorem codeUnit_showPadded {number : Nat} (small : number < 16 ^ 4) :
    CodeUnit (Text.showPadded 16 4 number) number where
  length := Text.length_showPadded ((Nat.length_toDigits_le_iff (by decide) (by decide)).mpr small)
  plain := Text.isDigitIn_showPadded (by decide) (by decide) 4 number
  value := Text.ofDigits_showPadded (by decide) (by decide) 4 number

/-- What is printed for a character spells it, in front of any other string. -/
theorem Spells.escape {body characters : List Char} (spells : Spells body characters)
    (character : Char) : Spells (escape character ++ body) (character :: characters) := by
  rw [Json.escape]
  split_ifs with quote backslash backspace formFeed newline carriageReturn tab low
  · exact .short (by simp [shortEscapes, quote]) spells
  · exact .short (by simp [shortEscapes, backslash]) spells
  · exact .short (by simp [shortEscapes, backspace]) spells
  · exact .short (by simp [shortEscapes, formFeed]) spells
  · exact .short (by simp [shortEscapes, newline]) spells
  · exact .short (by simp [shortEscapes, carriageReturn]) spells
  · exact .short (by simp [shortEscapes, tab]) spells
  · exact .unit (codeUnit_showPadded (by omega)) spells
  · exact .plain quote backslash (Nat.not_lt.mp low) spells

theorem spells_escape (characters : List Char) :
    Spells (characters.flatMap escape) characters := by
  induction characters with
  | nil => exact .nil
  | cons character characters ih => exact ih.escape character

theorem readString_string (characters rest : List Char) :
    readString (string characters ++ rest) = .ok (characters, rest) := by
  have read := readStringBody_of_spells (spells_escape characters) rest
  rw [← readString_quoted] at read
  simpa [string] using read

/-! ## Objects -/

/-- The printed value of a field. -/
def FieldValue.print : FieldValue → List Char
  | .text characters => string characters
  | .integer number => Text.showInteger number

/-- The printed member of an object. -/
def memberText (member : List Char × FieldValue) : List Char :=
  string member.1 ++ ':' :: member.2.print

/-- The object that gives fields their values. -/
def printGiven (given : Given) : List Char :=
  object (given.map fun member => (String.ofList member.1, member.2.print))

/-- Members with a comma before each. -/
def laterText (members : Given) : List Char :=
  members.flatMap fun member => ',' :: memberText member

/-- The members that are printed for what is given. -/
def printed (given : Given) : List Member :=
  given.map fun member => ⟨member.1, member.2.print⟩

theorem printGiven_cons (member : List Char × FieldValue) (members : Given) :
    printGiven (member :: members) =
      '\x7b' :: (memberText member ++ (laterText members ++ ['\x7d'])) := by
  rw [printGiven, object]
  simp only [List.map_cons, List.map_map]
  rw [Text.intercalate_cons, List.flatMap_map]
  simp [memberText, laterText]

variable {fields : List Field} {given : Given}

theorem FieldValue.writes_print (value : FieldValue) : value.Writes value.print := by
  cases value with
  | text characters => exact .text (spells_escape characters)
  | integer number => exact .integer number

theorem FieldValue.written_print (value : FieldValue) : Written .value value.print := by
  cases value with
  | text characters => exact .string (body_of_spells (spells_escape characters))
  | integer number => exact .number (number_showInteger number)

theorem memberText_print (member : List Char × FieldValue) :
    MemberText ⟨member.1, member.2.print⟩ (memberText member) := by
  have none : Spaces [] := by simp [Spaces]
  have text : memberText member = [] ++ '"' :: (member.1.flatMap escape ++ '"' ::
      ([] ++ ':' :: ([] ++ (member.2.print ++ [])))) := by
    simp [memberText, string]
  rw [text]
  exact .mk none (spells_escape member.1) none none member.2.written_print none

theorem membersText_print (member : List Char × FieldValue) (members : Given) :
    MembersText (printed (member :: members)) (memberText member ++ laterText members) := by
  induction members generalizing member with
  | nil =>
      rw [laterText, List.flatMap_nil, List.append_nil]
      exact .last (memberText_print member)
  | cons next members ih => exact .more (memberText_print member) (ih next)

theorem objectText_printGiven (given : Given) : ObjectText (printed given) (printGiven given) := by
  cases given with
  | nil => exact .empty (by simp [Spaces] : Spaces [])
  | cons member members =>
      rw [printGiven_cons, ← List.append_assoc]
      exact .filled (membersText_print member members)

/-- What is printed for what is given is a document that lists it. -/
theorem documentText_printGiven (given : Given) :
    DocumentText (printed given) (printGiven given) := by
  have none : Spaces [] := by simp [Spaces]
  rw [← List.append_nil (printGiven given)]
  exact .mk none (objectText_printGiven given) none

theorem gives_printed (holds : ∀ member ∈ given, Holds fields member) :
    Gives fields (printed given) given := by
  induction given with
  | nil => exact .nil
  | cons member given ih =>
      rw [List.forall_mem_cons] at holds
      exact .known holds.1 member.2.writes_print (ih holds.2)

/-- An object that gives some fields their values is read as these values and the defaults of the
other fields. -/
theorem readRecord_printGiven (holds : ∀ member ∈ given, Holds fields member)
    (distinct : (given.map Prod.fst).Nodup) (rest : List Char) :
    readRecord fields (printGiven given ++ rest) =
      (collect fields given).map (·, rest) :=
  readRecord_of_gives (by simp [Spaces] : Spaces []) (objectText_printGiven given)
    (gives_printed holds) distinct rest

end Rendezvous.Json
