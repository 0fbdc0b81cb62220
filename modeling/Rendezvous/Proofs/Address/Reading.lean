import Rendezvous.Address.Reader

/-!
# The texts that addresses are read from

Whatever a reader of addresses takes from the front of a text is made of hexadecimal digits, points
and colons (`IpAddress.ReadUpTo`). So is a whole text that denotes an address
(`IpAddress.isAddressCharacter_of_parse?`): there is no bracket, letter beyond `f`, zone or blank in
it.
-/

namespace Rendezvous.IpAddress

/-- Whether a character occurs in texts of addresses. -/
def isAddressCharacter (character : Char) : Bool :=
  Text.isDigitIn 16 character || character == '.' || character == ':'

/-- A text is read up to a rest of it, and what is read is made of characters of addresses. -/
def ReadUpTo (text rest : List Char) : Prop :=
  ∃ taken, text = taken ++ rest ∧ ∀ character ∈ taken, isAddressCharacter character = true

namespace ReadUpTo

variable {text middle rest : List Char}

theorem refl (text : List Char) : ReadUpTo text text :=
  ⟨[], rfl, fun _ member => absurd member List.not_mem_nil⟩

theorem trans (first : ReadUpTo text middle) (second : ReadUpTo middle rest) :
    ReadUpTo text rest := by
  rcases first with ⟨taken, rfl, plain⟩
  rcases second with ⟨more, rfl, also⟩
  refine ⟨taken ++ more, by simp, ?_⟩
  intro character member
  rcases List.mem_append.mp member with here | there
  · exact plain character here
  · exact also character there

theorem of_afterCharacter {separator : Char} (plain : isAddressCharacter separator = true)
    (read : afterCharacter separator text = some rest) : ReadUpTo text rest := by
  cases text with
  | nil => cases read
  | cons first others =>
      simp only [afterCharacter] at read
      split at read
      · rename_i same
        cases read
        refine ⟨[first], rfl, ?_⟩
        simpa [same] using plain
      · cases read

theorem of_colon (read : afterCharacter ':' text = some rest) : ReadUpTo text rest :=
  of_afterCharacter (by decide) read

theorem of_point (read : afterCharacter '.' text = some rest) : ReadUpTo text rest :=
  of_afterCharacter (by decide) read

theorem of_afterColon {isFirst : Bool} (read : afterColon isFirst text = some rest) :
    ReadUpTo text rest := by
  cases isFirst with
  | true =>
      cases read
      exact refl text
  | false => exact of_colon read

/-- A digit of a base up to sixteen is a hexadecimal digit. -/
theorem of_readGroup {base places number : Nat} {leadingZero : Bool} (small : base ≤ 16)
    (read : readGroup base places leadingZero text = some (number, rest)) :
    ReadUpTo text rest := by
  simp only [readGroup] at read
  split at read
  · cases read
  · split at read
    · cases read
    · cases read
      refine ⟨text.takeWhile (Text.isDigitIn base), List.takeWhile_append_dropWhile.symm, ?_⟩
      intro character member
      have digit := List.all_eq_true.mp List.all_takeWhile character member
      have hexadecimal : Text.isDigitIn 16 character = true := by
        simp only [Text.isDigitIn, Text.digitIn, Option.isSome_filter, Option.any_eq_true,
          decide_eq_true_eq] at digit ⊢
        rcases digit with ⟨value, known, below⟩
        exact ⟨value, known, by omega⟩
      simp [isAddressCharacter, hexadecimal]

theorem of_readOctet {octet : UInt8} (read : readOctet text = some (octet, rest)) :
    ReadUpTo text rest := by
  simp only [readOctet] at read
  split at read
  · rename_i group
    split at read
    · cases read
      exact of_readGroup (by decide) group
    · cases read
  · cases read

theorem of_readHextet {group : UInt16} (read : readHextet text = some (group, rest)) :
    ReadUpTo text rest := by
  rcases Option.map_eq_some_iff.mp read with ⟨taken, group, same⟩
  cases same
  exact of_readGroup (by decide) group

theorem of_readOctets {octets : UInt8 × UInt8 × UInt8 × UInt8}
    (read : readOctets text = some (octets, rest)) : ReadUpTo text rest := by
  simp only [readOctets, Option.bind_eq_bind, Option.bind_eq_some_iff, Option.some.injEq,
    Prod.mk.injEq] at read
  rcases read with
    ⟨_, first, _, point, _, second, _, another, _, third, _, last, _, fourth, _, rfl⟩
  apply (of_readOctet first).trans
  apply (of_point point).trans
  apply (of_readOctet second).trans
  apply (of_point another).trans
  apply (of_readOctet third).trans
  exact (of_point last).trans (of_readOctet fourth)

theorem of_readGroups {limit : Nat} {isFirst ended : Bool} {groups : List UInt16}
    (read : readGroups limit isFirst text = (groups, ended, rest)) : ReadUpTo text rest := by
  induction limit generalizing isFirst text groups ended rest with
  | zero =>
      cases read
      exact refl text
  | succ limit ih =>
      simp only [readGroups] at read
      split at read
      · -- An IPv4 address ends the groups.
        rename_i octets _ found
        cases read
        split at found
        · cases found
        · rcases Option.bind_eq_some_iff.mp found with ⟨middle, colon, octets⟩
          exact (of_afterColon colon).trans (of_readOctets octets)
      · split at read
        · cases read
          exact refl text
        · rename_i group _ found
          cases read
          rcases Option.bind_eq_some_iff.mp found with ⟨middle, colon, hextet⟩
          apply (of_afterColon colon).trans
          exact (of_readHextet hextet).trans (ih rfl)

theorem of_readV6 {address : IpAddress} (read : readV6 text = some (address, rest)) :
    ReadUpTo text rest := by
  simp only [readV6] at read
  have front := of_readGroups (rfl : readGroups 8 true text = _)
  split at read
  · rcases Option.map_eq_some_iff.mp read with ⟨_, _, same⟩
    cases same
    exact front
  · split at read
    · cases read
    · simp only [Option.bind_eq_bind, Option.bind_eq_some_iff, Option.some.injEq,
        Prod.mk.injEq] at read
      rcases read with ⟨_, colon, _, another, _, _, _, rfl⟩
      apply front.trans
      apply (of_colon colon).trans
      exact (of_colon another).trans (of_readGroups rfl)

theorem of_read {address : IpAddress} (found : read text = some (address, rest)) :
    ReadUpTo text rest := by
  simp only [read] at found
  split at found
  · rename_i result four
    cases found
    rcases Option.map_eq_some_iff.mp four with ⟨octets, taken, same⟩
    cases same
    exact of_readOctets taken
  · exact of_readV6 found

end ReadUpTo

variable {text : List Char} {address : IpAddress}

/-- The text of an address is made of hexadecimal digits, points and colons. -/
theorem isAddressCharacter_of_parse? (parsed : parse? text = some address) :
    ∀ character ∈ text, isAddressCharacter character = true := by
  simp only [parse?] at parsed
  split at parsed
  · rename_i found
    rcases ReadUpTo.of_read found with ⟨taken, rfl, plain⟩
    simpa using plain
  · cases parsed

theorem ne_nil_of_parse? (parsed : parse? text = some address) : text ≠ [] := by
  rintro rfl
  cases parsed

end Rendezvous.IpAddress
