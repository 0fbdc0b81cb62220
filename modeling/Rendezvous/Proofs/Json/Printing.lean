import Mathlib.Data.List.Infix
import Rendezvous.Wire

/-!
# Printed strings can be told apart

No escape of a character is the beginning of another, so a printed string determines its characters
(`Json.string_injective`) and a printed message its payload (`EventMessage.toJson_injective`).
-/

namespace Rendezvous

namespace Json

/-- The characters that are escaped in a string. -/
def escaped : List Char :=
  '"' :: '\\' :: (List.range 32).map Char.ofNat

theorem escape_of_not_escaped {character : Char} (plain : character ∉ escaped) :
    escape character = [character] ∧ character ≠ '\\' := by
  have printable : ¬character.toNat < 32 := fun low => plain (List.mem_cons_of_mem _
    (List.mem_cons_of_mem _ (List.mem_map.mpr ⟨_, List.mem_range.mpr low, Char.ofNat_toNat _⟩)))
  have different : ∀ other : Char, other.toNat < 32 → character ≠ other := by
    rintro other low rfl
    exact printable low
  simp only [escaped, List.mem_cons, not_or] at plain
  refine ⟨?_, plain.2.1⟩
  simp [escape, plain.1, plain.2.1, different '\x08' (by decide), different '\x0c' (by decide),
    different '\n' (by decide), different '\r' (by decide), different '\t' (by decide), printable]

/-- The escape of an escaped character starts with a backslash and is not the beginning of the
escape of another. -/
theorem escape_of_escaped : ∀ character ∈ escaped, (escape character).head? = some '\\' ∧
    ∀ other ∈ escaped, escape character <+: escape other → character = other := by
  have checked : escaped.all (fun character => (escape character).head? == some '\\' &&
      escaped.all fun other =>
        !(escape character).isPrefixOf (escape other) || character == other) = true := by
    decide +kernel
  simp only [List.all_eq_true, Bool.and_eq_true, beq_iff_eq, Bool.or_eq_true,
    Bool.not_eq_true', ← Bool.not_eq_true, List.isPrefixOf_iff_prefix] at checked
  intro character member
  have own := checked character member
  exact ⟨own.1, fun other also contained => (own.2 other also).resolve_left fun apart =>
    apart contained⟩

theorem escape_ne_nil (character : Char) : escape character ≠ [] := by
  intro empty
  by_cases special : character ∈ escaped
  · have first := (escape_of_escaped character special).1
    rw [empty] at first
    cases first
  · rw [(escape_of_not_escaped special).1] at empty
    cases empty

/-- A text that starts with the escape of a character starts with no other. -/
theorem eq_of_escape_append {character other : Char} {rest last : List Char}
    (same : escape character ++ rest = escape other ++ last) : character = other := by
  have heads : (escape character).head? = (escape other).head? := by
    have equal := congrArg List.head? same
    rwa [List.head?_append_of_ne_nil _ (escape_ne_nil _),
      List.head?_append_of_ne_nil _ (escape_ne_nil _)] at equal
  by_cases special : character ∈ escaped <;> by_cases also : other ∈ escaped
  · have first : escape character <+: escape other ++ last := same ▸ List.prefix_append _ _
    rcases List.prefix_or_prefix_of_prefix first (List.prefix_append _ _) with shorter | longer
    · exact (escape_of_escaped character special).2 other also shorter
    · exact ((escape_of_escaped other also).2 character special longer).symm
  · rw [(escape_of_escaped character special).1, (escape_of_not_escaped also).1] at heads
    exact absurd (Option.some.inj heads).symm (escape_of_not_escaped also).2
  · rw [(escape_of_escaped other also).1, (escape_of_not_escaped special).1] at heads
    exact absurd (Option.some.inj heads) (escape_of_not_escaped special).2
  · rw [(escape_of_not_escaped special).1, (escape_of_not_escaped also).1] at heads
    exact Option.some.inj heads

theorem flatMap_escape_injective : Function.Injective fun characters : List Char =>
    characters.flatMap escape := by
  intro characters
  induction characters with
  | nil =>
      intro others same
      cases others with
      | nil => rfl
      | cons other rest => simp [escape_ne_nil] at same
  | cons character rest ih =>
      intro others same
      cases others with
      | nil => simp [escape_ne_nil] at same
      | cons other last =>
          simp only [List.flatMap_cons] at same
          have first := eq_of_escape_append same
          subst first
          rw [ih (List.append_cancel_left same)]

theorem string_injective : Function.Injective string := by
  intro characters others same
  rw [string, string, List.cons_append, List.cons_append, List.cons.injEq,
    List.append_cancel_right_eq] at same
  exact flatMap_escape_injective same.2

end Json

namespace EventMessage

theorem toJson_injective : Function.Injective toJson := by
  intro message other same
  have printed : message.printJson = other.printJson := String.ofList_injective same
  have payload : Json.string message.payload.toList = Json.string other.payload.toList := by
    simpa [printJson, Json.object] using printed
  have text : message.payload = other.payload :=
    String.toList_injective (Json.string_injective payload)
  exact congrArg EventMessage.mk text

end EventMessage

end Rendezvous
