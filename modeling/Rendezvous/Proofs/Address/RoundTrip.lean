import Mathlib.Data.List.Infix
import Rendezvous.Proofs.Address.Reading
import Rendezvous.Proofs.Text.Number
import Rendezvous.Proofs.Text.Trimming

/-!
# The text of an address is read as that address

The readers take exactly what the printers write, whatever comes after it, as long as this does not
go on with the number that was written last. From single numbers this is carried over to groups and
to whole addresses (`IpAddress.parse?_characters`): the zero groups that a text leaves out are put
back, and the places of an IPv4 address in an IPv6 one are found again.
-/

namespace Rendezvous.IpAddress

/-! ## Single numbers -/

open Text (Ends ends_cons ends_nil)

variable {base : Nat} {rest : List Char}

theorem readGroup_of_ends (ends : Ends base rest) (places : Nat) (leadingZero : Bool) :
    readGroup base places leadingZero rest = none := by
  have none := (Text.span_of_ends (fun _ member => absurd member List.not_mem_nil) ends).1
  rw [List.nil_append] at none
  simp [readGroup, none]

theorem readGroup_toDigits {places number : Nat} (wide : 1 < base) (few : base ≤ 16)
    (short : number < base ^ places) (readable : 0 < places) (leadingZero : Bool)
    (ends : Ends base rest) :
    readGroup base places leadingZero (Nat.toDigits base number ++ rest) = some (number, rest) := by
  have digits := Text.isDigitIn_toDigits wide few number
  have length := (Nat.length_toDigits_le_iff wide readable).mpr short
  have nonempty : Nat.toDigits base number ≠ [] := Nat.toDigits_ne_nil
  have unpadded : ¬((Nat.toDigits base number).head? = some '0' ∧
      1 < (Nat.toDigits base number).length) := by
    rintro ⟨zero, long⟩
    rcases Nat.eq_zero_or_pos number with rfl | positive
    · simp at long
    · exact Text.head?_toDigits wide few positive zero
  rw [readGroup, (Text.span_of_ends digits ends).1, (Text.span_of_ends digits ends).2,
    Text.ofDigits_toDigits wide few]
  have fits : ((Nat.toDigits base number).isEmpty ||
      decide (places < (Nat.toDigits base number).length)) = false := by
    simp [nonempty, length]
  have plain : (!leadingZero && (Nat.toDigits base number).head? == some '0' &&
      decide (1 < (Nat.toDigits base number).length)) = false := by
    simp only [Bool.and_eq_false_iff, beq_eq_false_iff_ne, decide_eq_false_iff_not]
    by_cases zero : (Nat.toDigits base number).head? = some '0'
    · exact Or.inr fun long => unpadded ⟨zero, long⟩
    · exact Or.inl (Or.inr zero)
  simp only [fits, plain]
  rfl

theorem readOctet_showNatural {octet : Nat} (small : octet < 256) (ends : Ends 10 rest) :
    readOctet (Text.showNatural octet ++ rest) = some (UInt8.ofNat octet, rest) := by
  have short : octet < 10 ^ 3 := by omega
  rw [readOctet, Text.showNatural,
    readGroup_toDigits (by decide) (by decide) short (by decide) false ends]
  exact if_pos small

theorem readHextet_toDigits (group : UInt16) (ends : Ends 16 rest) :
    readHextet (Nat.toDigits 16 group.toNat ++ rest) = some (group, rest) := by
  have short : group.toNat < 16 ^ 4 := group.toNat_lt
  rw [readHextet, readGroup_toDigits (by decide) (by decide) short (by decide) true ends]
  simp

/-! ## Octets -/

theorem readOctets_showOctets {first second third fourth : Nat} (one : first < 256)
    (two : second < 256) (three : third < 256) (four : fourth < 256) (ends : Ends 10 rest) :
    readOctets (showOctets first second third fourth ++ rest) =
      some ((UInt8.ofNat first, UInt8.ofNat second, UInt8.ofNat third, UInt8.ofNat fourth),
        rest) := by
  have point : ∀ rest, Ends 10 ('.' :: rest) := ends_cons (by decide)
  have parts : showOctets first second third fourth ++ rest =
      Text.showNatural first ++ '.' :: (Text.showNatural second ++ '.' ::
        (Text.showNatural third ++ '.' :: (Text.showNatural fourth ++ rest))) := by
    simp [showOctets]
  rw [parts, readOctets, readOctet_showNatural one (point _)]
  simp only [Option.bind_eq_bind, Option.bind_some, afterCharacter, if_true]
  rw [readOctet_showNatural two (point _)]
  simp only [Option.bind_some, if_true]
  rw [readOctet_showNatural three (point _)]
  simp only [Option.bind_some, if_true]
  rw [readOctet_showNatural four ends]
  rfl

theorem readOctets_of_pointless {text : List Char} (pointless : '.' ∉ text) :
    readOctets text = none := by
  apply Option.eq_none_iff_forall_ne_some.mpr
  rintro ⟨octets, rest⟩ read
  simp only [readOctets, Option.bind_eq_bind, Option.bind_eq_some_iff] at read
  rcases read with ⟨⟨first, after⟩, octet, next, point, _⟩
  rcases ReadUpTo.of_readOctet octet with ⟨taken, rfl, _⟩
  cases after with
  | nil => cases point
  | cons character others =>
      simp only [afterCharacter] at point
      split at point
      · rename_i same
        exact pointless (by simp [same])
      · cases point

theorem readOctets_of_ends {text : List Char} (ends : Ends 10 text) : readOctets text = none := by
  simp [readOctets, readOctet, readGroup_of_ends ends]

theorem groupsOfOctets_of_groups (high low : UInt16) :
    groupsOfOctets (UInt8.ofNat (high.toNat / 256), UInt8.ofNat (high.toNat % 256),
      UInt8.ofNat (low.toNat / 256), UInt8.ofNat (low.toNat % 256)) = [high, low] := by
  have joined : ∀ group : UInt16, (UInt8.ofNat (group.toNat / 256)).toUInt16 * 256 +
      (UInt8.ofNat (group.toNat % 256)).toUInt16 = group := by
    intro group
    have bound := group.toNat_lt
    apply UInt16.toNat_inj.mp
    simp
    omega
  simp [groupsOfOctets, joined]

/-! ## Groups -/

/-- Groups with a colon before each. -/
def showLater (groups : List UInt16) : List Char :=
  groups.flatMap fun group => ':' :: Nat.toDigits 16 group.toNat

theorem showGroups_cons (group : UInt16) (groups : List UInt16) :
    showGroups (group :: groups) = Nat.toDigits 16 group.toNat ++ showLater groups := by
  rw [showGroups, List.map_cons, Text.intercalate_cons, List.flatMap_map]
  rfl

/-- Groups as they stand at the beginning of a text or after other groups. -/
def showFrom (isFirst : Bool) (groups : List UInt16) : List Char :=
  if isFirst then showGroups groups else showLater groups

theorem afterColon_showFrom (isFirst : Bool) (group : UInt16) (groups : List UInt16)
    (rest : List Char) : afterColon isFirst (showFrom isFirst (group :: groups) ++ rest) =
      some (Nat.toDigits 16 group.toNat ++ (showFrom false groups ++ rest)) := by
  cases isFirst with
  | true => simp [afterColon, showFrom, showGroups_cons]
  | false => simp [afterColon, showFrom, showLater, afterCharacter]

/-- A text of groups may end here: nothing follows, or two colons do. -/
def Closes (rest : List Char) : Prop :=
  rest = [] ∨ ∃ more, rest = ':' :: ':' :: more

theorem Closes.ends (closes : Closes rest) : Ends 16 rest := by
  rcases closes with rfl | ⟨more, rfl⟩
  · exact ends_nil 16
  · exact ends_cons (by decide) _

theorem ends_showLater (groups : List UInt16) (ends : Ends 16 rest) :
    Ends 16 (showLater groups ++ rest) := by
  cases groups with
  | nil => exact ends
  | cons group groups => exact ends_cons (by decide) _

theorem readHextet_of_closes (closes : Closes rest) (isFirst : Bool) :
    (afterColon isFirst rest >>= readHextet) = none := by
  have none : ∀ rest, Ends 16 rest → readHextet rest = none := by
    intro rest ends
    simp [readHextet, readGroup_of_ends ends]
  cases isFirst with
  | true => exact none rest closes.ends
  | false =>
      rcases closes with rfl | ⟨more, rfl⟩
      · rfl
      · have colon : Ends 16 (':' :: more) := ends_cons (by decide) more
        exact none _ colon

theorem readGroups_of_none {isFirst : Bool} {text : List Char} (limit : Nat)
    (octets : (afterColon isFirst text >>= readOctets) = none)
    (hextet : (afterColon isFirst text >>= readHextet) = none) :
    readGroups limit isFirst text = ([], false, text) := by
  cases limit with
  | zero => rfl
  | succ limit => simp [readGroups, octets, hextet]

theorem afterColon_octets_of_pointless {text : List Char} (pointless : '.' ∉ text)
    (isFirst : Bool) : (afterColon isFirst text >>= readOctets) = none := by
  apply Option.eq_none_iff_forall_ne_some.mpr
  intro read found
  rcases Option.bind_eq_some_iff.mp found with ⟨middle, colon, octets⟩
  rcases ReadUpTo.of_afterColon colon with ⟨taken, rfl, _⟩
  rw [List.mem_append, not_or] at pointless
  rw [readOctets_of_pointless pointless.2] at octets
  cases octets

/-- Groups are read one after another up to where their text ends. -/
theorem readGroups_showFrom {limit : Nat} {isFirst : Bool} {groups : List UInt16}
    (few : groups.length ≤ limit) (pointless : '.' ∉ showFrom isFirst groups ++ rest)
    (closes : Closes rest) :
    readGroups limit isFirst (showFrom isFirst groups ++ rest) = (groups, false, rest) := by
  -- Without a point no group is taken for the first octet of an IPv4 address.
  induction groups generalizing limit isFirst with
  | nil =>
      have bare : showFrom isFirst [] ++ rest = rest := by cases isFirst <;> rfl
      rw [bare] at pointless ⊢
      exact readGroups_of_none limit (afterColon_octets_of_pointless pointless isFirst)
        (readHextet_of_closes closes isFirst)
  | cons group groups ih =>
      cases limit with
      | zero => simp at few
      | succ limit =>
          have colon := afterColon_showFrom isFirst group groups rest
          have octets := afterColon_octets_of_pointless pointless isFirst
          have hextet : readHextet (Nat.toDigits 16 group.toNat ++
              (showFrom false groups ++ rest)) = some (group, showFrom false groups ++ rest) :=
            readHextet_toDigits group (ends_showLater groups closes.ends)
          have later : '.' ∉ showFrom false groups ++ rest := by
            rcases ReadUpTo.of_afterColon colon with ⟨taken, whole, _⟩
            intro point
            apply pointless
            rw [whole]
            simp [point]
          have tail : readGroups limit false (showFrom false groups ++ rest) =
              (groups, false, rest) := ih (by simpa using few) later
          simp only [readGroups, octets, ite_self]
          simp only [colon, Option.bind_eq_bind, Option.bind_some, hextet, tail]

theorem point_not_mem_toDigits (number : Nat) : '.' ∉ Nat.toDigits 16 number := by
  intro point
  have foreign : Text.isDigitIn 16 '.' = false := by decide
  rw [Text.isDigitIn_toDigits (by decide) (by decide) number '.' point] at foreign
  cases foreign

theorem point_not_mem_showGroups (groups : List UInt16) : '.' ∉ showGroups groups := by
  cases groups with
  | nil => exact List.not_mem_nil
  | cons group groups => simp [showGroups_cons, showLater, point_not_mem_toDigits]

theorem readGroups_showGroups {limit : Nat} {groups : List UInt16} (few : groups.length ≤ limit)
    (pointless : '.' ∉ rest) (closes : Closes rest) :
    readGroups limit true (showGroups groups ++ rest) = (groups, false, rest) := by
  apply readGroups_showFrom few _ closes
  simp [showFrom, point_not_mem_showGroups, pointless]

/-! ## Zero groups -/

/-- Zero groups from a place on, by the place and their number. -/
def IsZeroRun (groups : List UInt16) (run : Nat × Nat) : Prop :=
  groups = groups.take run.1 ++ (List.replicate run.2 0 ++ groups.drop (run.1 + run.2))

theorem isZeroRun_leadingZeros (groups : List UInt16) (start : Nat) :
    IsZeroRun groups (start, leadingZeros (groups.drop start)) := by
  have zeros : (groups.drop start).takeWhile (· == 0) =
      List.replicate (leadingZeros (groups.drop start)) 0 := by
    refine List.eq_replicate_iff.mpr ⟨rfl, ?_⟩
    intro group member
    simpa using List.all_eq_true.mp List.all_takeWhile group member
  have cut := List.prefix_append_drop (List.takeWhile_prefix (l := groups.drop start) (· == 0))
  calc groups
      = groups.take start ++ groups.drop start := (List.take_append_drop ..).symm
    _ = groups.take start ++ (List.replicate (leadingZeros (groups.drop start)) 0 ++
          (groups.drop start).drop (leadingZeros (groups.drop start))) := by
      rw [← zeros]
      exact congrArg _ cut
    _ = _ := by rw [List.drop_drop]

theorem isZeroRun_longestZeroRun (groups : List UInt16) :
    IsZeroRun groups (longestZeroRun groups) := by
  rw [longestZeroRun]
  -- Whichever run is kept consists of zeros; that none is longer does not matter to the readers.
  apply List.foldlRecOn
  · simp [IsZeroRun]
  · intro longest run start _
    dsimp only
    split
    · exact isZeroRun_leadingZeros groups start
    · exact run

/-! ## Whole addresses -/

theorem readV6_showGroups {groups : List UInt16} (eight : groups.length = 8) :
    readV6 (showGroups groups) = (ofGroups? groups).map (·, []) := by
  have whole := readGroups_showGroups (Nat.le_of_eq eight) List.not_mem_nil (Or.inl rfl)
  rw [List.append_nil] at whole
  simp [readV6, whole, eight]

/-- The groups on both sides of two colons are read with zero groups between them. -/
theorem readV6_compressed {front back : List UInt16} {zeros : Nat} (positive : 0 < zeros)
    (eight : front.length + zeros + back.length = 8) :
    readV6 (showGroups front ++ ':' :: ':' :: showGroups back) =
      (ofGroups? (front ++ (List.replicate zeros 0 ++ back))).map (·, []) := by
  have pointless : '.' ∉ ':' :: ':' :: showGroups back := by
    simp [point_not_mem_showGroups]
  have before : readGroups 8 true (showGroups front ++ ':' :: ':' :: showGroups back) =
      (front, false, ':' :: ':' :: showGroups back) :=
    readGroups_showGroups (by omega) pointless (Or.inr ⟨_, rfl⟩)
  have after : readGroups (7 - front.length) true (showGroups back) = (back, false, []) := by
    have few : back.length ≤ 7 - front.length := by omega
    simpa using readGroups_showGroups few List.not_mem_nil (Or.inl rfl)
  have missing : 8 - front.length - back.length = zeros := by omega
  have short : front.length ≠ 8 := by omega
  simp [readV6, before, short, afterCharacter, after, missing, Option.map_eq_bind]

/-- An IPv4 address that is written in an IPv6 address stands for two groups. -/
theorem readV6_mapped (high low : UInt16) :
    readV6 (':' :: ':' :: 'f' :: 'f' :: 'f' :: 'f' :: ':' :: showOctets (high.toNat / 256)
      (high.toNat % 256) (low.toNat / 256) (low.toNat % 256)) =
      (ofGroups? [0, 0, 0, 0, 0, 0xffff, high, low]).map (·, []) := by
  have bounds : ∀ group : UInt16, group.toNat / 256 < 256 ∧ group.toNat % 256 < 256 := by
    intro group
    have bound := group.toNat_lt
    omega
  have octets := readOctets_showOctets (bounds high).1 (bounds high).2 (bounds low).1
    (bounds low).2 (ends_nil 10)
  rw [List.append_nil] at octets
  generalize showOctets (high.toNat / 256) (high.toNat % 256) (low.toNat / 256)
    (low.toNat % 256) = written at octets ⊢
  -- No group stands before the two colons, and the octets end the groups after them.
  have before : readGroups 8 true (':' :: ':' :: 'f' :: 'f' :: 'f' :: 'f' :: ':' :: written) =
      ([], false, ':' :: ':' :: 'f' :: 'f' :: 'f' :: 'f' :: ':' :: written) := by
    have none : ∀ rest, readOctets (':' :: rest) = none :=
      fun rest => readOctets_of_ends (ends_cons (by decide) rest)
    apply readGroups_of_none
    · simp [afterColon, none]
    · exact readHextet_of_closes (Or.inr ⟨_, rfl⟩) true
  have after : readGroups 7 true ('f' :: 'f' :: 'f' :: 'f' :: ':' :: written) =
      ([0xffff, high, low], true, []) := by
    have none : readOctets ('f' :: 'f' :: 'f' :: 'f' :: ':' :: written) = none :=
      readOctets_of_ends (ends_cons (by decide) _)
    have mark : readHextet ('f' :: 'f' :: 'f' :: 'f' :: ':' :: written) =
        some (0xffff, ':' :: written) :=
      readHextet_toDigits 0xffff (ends_cons (by decide) _)
    simp [readGroups, afterColon, afterCharacter, none, mark, octets, groupsOfOctets_of_groups]
  simp [readV6, before, afterCharacter, after, Option.map_eq_bind]

theorem eq_of_mappedOctets? {groups : List UInt16} {first second third fourth : Nat}
    (mapped : mappedOctets? groups = some (first, second, third, fourth)) :
    ∃ high low : UInt16, groups = [0, 0, 0, 0, 0, 0xffff, high, low] ∧
      first = high.toNat / 256 ∧ second = high.toNat % 256 ∧ third = low.toNat / 256 ∧
        fourth = low.toNat % 256 := by
  rw [mappedOctets?.eq_def] at mapped
  split at mapped
  · rename_i high low
    cases mapped
    exact ⟨high, low, rfl, rfl, rfl, rfl, rfl⟩
  · cases mapped

theorem readV6_showV6 {groups : List UInt16} (eight : groups.length = 8) :
    readV6 (showV6 groups) = (ofGroups? groups).map (·, []) := by
  rw [showV6]
  split
  · rename_i mapped
    rcases eq_of_mappedOctets? mapped with ⟨high, low, rfl, rfl, rfl, rfl, rfl⟩
    exact readV6_mapped high low
  · have run := isZeroRun_longestZeroRun groups
    generalize longestZeroRun groups = found at run ⊢
    rcases found with ⟨start, length⟩
    dsimp only at run ⊢
    split
    · rename_i long
      have lengths := congrArg List.length run
      simp only [List.length_append, List.length_replicate] at lengths
      rw [readV6_compressed (by omega : 0 < length) (by omega)]
      exact congrArg (fun groups => (ofGroups? groups).map (·, [])) run.symm
    · exact readV6_showGroups eight

/-- No text of an IPv6 address begins with an IPv4 address. -/
theorem readV4_showV6 (groups : List UInt16) : readV4 (showV6 groups) = none := by
  have none : readOctets (showV6 groups) = none := by
    rw [showV6]
    split
    · exact readOctets_of_ends (ends_cons (by decide) _)
    · dsimp only
      split
      · apply readOctets_of_pointless
        simp [point_not_mem_showGroups]
      · exact readOctets_of_pointless (point_not_mem_showGroups groups)
  rw [readV4, none]
  rfl

/-- The text of an address denotes it. -/
theorem parse?_characters (address : IpAddress) : parse? address.characters = some address := by
  cases address with
  | v4 first second third fourth =>
      have octets := readOctets_showOctets first.toNat_lt second.toNat_lt third.toNat_lt
        fourth.toNat_lt (ends_nil 10)
      rw [List.append_nil] at octets
      simp [parse?, read, readV4, characters, octets]
  | v6 groups =>
      have eight : ofGroups? groups.toList = some (.v6 groups) := by
        rcases groups with ⟨groups, count⟩
        simp [ofGroups?, count]
      rw [parse?, read, characters, readV4_showV6, readV6_showV6 (by simp), eight]
      rfl

end Rendezvous.IpAddress
