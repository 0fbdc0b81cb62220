import Rendezvous.Proofs.Address.Reading
import Rendezvous.Proofs.Endpoint.Layout

/-!
# Hosts that can only be IP literals

A host with a colon or a bracket is no host name, so it ought to be an IP literal, bare or in
brackets. If it is one, the interface that it denotes is bound. If it is none, the address may be
read all the same, and then it is taken for a host name and binds every interface
(`Endpoint.keepsLiteral_iff`).
-/

namespace Rendezvous

/-- The only letter that is written small as an `l`, besides the small one, is the capital. -/
theorem Text.eq_of_toLower_eq_l {character : Char} (lowered : character.toLower = 'l') :
    character = 'l' ∨ character = 'L' := by
  by_cases capital : character.val ≥ 'A'.val ∧ character.val ≤ 'Z'.val
  · right
    have changed : character.toLower = _ := dif_pos capital
    have value := congrArg Char.val (changed.symm.trans lowered)
    apply Char.ext
    simp at value
    grind
  · left
    have same : character.toLower = character := dif_neg capital
    exact same.symm.trans lowered

namespace Endpoint

/-- The address that a host denotes as an IP literal, bare or in one pair of brackets. -/
def literal? : List Char → Option IpAddress
  | '[' :: rest => if rest.getLast? = some ']' then IpAddress.parse? rest.dropLast else none
  | host => IpAddress.parse? host

/-- Whether a host has a character that no host name has. -/
def isNoName (host : List Char) : Bool :=
  host.any fun character => character == ':' || character == '[' || character == ']'

/-- Where the host of an address can only be an IP literal, the address is read with the interface
that the literal denotes, or is not read. -/
def KeepsLiteral (url : String) : Prop :=
  ∀ (layout : Layout) (endpoint : Endpoint), layout.Of url → isNoName layout.host = true →
    Endpoint.parse url = .ok endpoint → literal? layout.host = some endpoint.host

variable {host name : List Char} {address : IpAddress}

theorem bracketless_of_parse? (parsed : IpAddress.parse? name = some address) :
    ∀ character ∈ name, character ≠ '[' ∧ character ≠ ']' := by
  intro character member
  have known := IpAddress.isAddressCharacter_of_parse? parsed character member
  constructor
  · rintro rfl
    revert known
    decide
  · rintro rfl
    revert known
    decide

/-- From a text without brackets none are dropped, and around it a pair is. -/
theorem dropBrackets_of_bracketless
    (bracketless : ∀ character ∈ host, character ≠ '[' ∧ character ≠ ']') (nonempty : host ≠ []) :
    dropBrackets host = host ∧ dropBrackets ('[' :: (host ++ [']'])) = host := by
  have front : ∀ rest : List Char, (host ++ rest).dropWhile (· == '[') = host ++ rest := by
    intro rest
    cases host with
    | nil => exact absurd rfl nonempty
    | cons first others => simp [(bracketless first List.mem_cons_self).1]
  have back : host.reverse.dropWhile (· == ']') = host.reverse := by
    apply List.dropWhile_eq_self_iff.mpr
    intro inside last
    have member : host.reverse[0] ∈ host := by
      apply List.mem_reverse.mp
      exact List.getElem_mem inside
    exact (bracketless _ member).2 (eq_of_beq last)
  have bare := front []
  rw [List.append_nil] at bare
  constructor
  · rw [dropBrackets, bare, back, List.reverse_reverse]
  · rw [dropBrackets, List.dropWhile_cons_of_pos (by rfl), front]
    simp [back]

/-- No address is written like the name of the host itself. -/
theorem not_localhost_of_parse? (parsed : IpAddress.parse? name = some address) :
    Text.sameLetters name "localhost".toList = false := by
  apply Bool.eq_false_iff.mpr
  intro same
  have small : 'l' ∈ name.map Char.toLower := by
    rw [eq_of_beq same]
    decide
  rcases List.mem_map.mp small with ⟨character, member, lowered⟩
  have known := IpAddress.isAddressCharacter_of_parse? parsed character member
  rcases Text.eq_of_toLower_eq_l lowered with rfl | rfl
  · revert known
    decide
  · revert known
    decide

theorem bindHost?_of_parse? (parsed : IpAddress.parse? name = some address)
    (bare : dropBrackets host = name) : bindHost? host = some address := by
  have foreign := not_localhost_of_parse? parsed
  have nonempty := IpAddress.ne_nil_of_parse? parsed
  simp only [bindHost?, bare, foreign, parsed]
  simp [nonempty]

/-- An IP literal binds the interface that it denotes. -/
theorem bindHost?_of_literal? (denotes : literal? host = some address) :
    bindHost? host = some address := by
  rw [literal?.eq_def] at denotes
  split at denotes
  · rename_i rest
    split at denotes
    · rename_i closed
      rcases List.getLast?_eq_some_iff.mp closed with ⟨inner, rfl⟩
      rw [List.dropLast_concat] at denotes
      have nonempty := IpAddress.ne_nil_of_parse? denotes
      apply bindHost?_of_parse? denotes
      exact (dropBrackets_of_bracketless (bracketless_of_parse? denotes) nonempty).2
    · cases denotes
  · have nonempty := IpAddress.ne_nil_of_parse? denotes
    apply bindHost?_of_parse? denotes
    exact (dropBrackets_of_bracketless (bracketless_of_parse? denotes) nonempty).1

/-- What is bound for a host that is read. -/
theorem eq_of_bindHost? (bound : bindHost? host = some address) :
    let name := dropBrackets host
    address = if Text.sameLetters name "localhost".toList then IpAddress.localhost
      else (IpAddress.parse? name).getD IpAddress.unspecified := by
  intro name
  simp only [bindHost?] at bound
  split at bound
  · cases bound
  · split at bound
    · rename_i own
      rw [if_pos own]
      exact (Option.some.inj bound).symm
    · rename_i other
      rw [if_neg other]
      exact (Option.some.inj bound).symm

/-- An address whose host is an IP literal is read with the interface that the literal denotes, if
its port and path can be read. Every address that is read has a host, and if this can only be a
literal, the address keeps to it exactly if the host is one; otherwise the host without its outer
brackets binds what it would bind as a name or as an address, which is every interface where it is
neither the host itself nor an address. -/
theorem keepsLiteral_iff (url : String) :
    (∀ layout : Layout, layout.Of url → ∀ address, literal? layout.host = some address →
      ∀ endpoint, Endpoint.parse url = .ok endpoint ↔
        Text.readNatural 65535 layout.port = some endpoint.port.toNat ∧
          address = endpoint.host ∧
            targetOfPath? (layout.path.getD []) = some endpoint.named) ∧
    ∀ endpoint, Endpoint.parse url = .ok endpoint → ∃ layout : Layout, layout.Of url ∧
      (isNoName layout.host = true →
        (KeepsLiteral url ↔ (literal? layout.host).isSome = true) ∧
          (literal? layout.host = none →
            let name := dropBrackets layout.host
            endpoint.host = if Text.sameLetters name "localhost".toList then IpAddress.localhost
              else (IpAddress.parse? name).getD IpAddress.unspecified)) := by
  constructor
  · intro layout described address denotes endpoint
    rw [described.parse_eq_ok_iff, bindHost?_of_literal? denotes, Option.some.injEq]
  · intro endpoint accepted
    rcases Layout.exists_of_parse accepted with ⟨layout, described⟩
    refine ⟨layout, described, fun marked => ⟨⟨?_, ?_⟩, fun _ => ?_⟩⟩
    · intro keeps
      rw [keeps layout endpoint described marked accepted]
      rfl
    · intro denotes other another also _ read
      cases described.unique also
      rcases Option.isSome_iff_exists.mp denotes with ⟨address, known⟩
      have bound := (described.parse_eq_ok_iff.mp read).2.1
      rw [bindHost?_of_literal? known] at bound
      rw [known, bound]
    · exact eq_of_bindHost? (described.parse_eq_ok_iff.mp accepted).2.1

/-- A literal in brackets is kept, on a port of its own. -/
theorem keepsLiteral_of_bracketed :
    let url := "grpc://[fe80::1]:8080"
    let layout : Layout := ⟨"grpc".toList, "[fe80::1]".toList, "8080".toList, none⟩
    let endpoint : Endpoint := ⟨.v6 #v[0xfe80, 0, 0, 0, 0, 0, 0, 1], 8080, none⟩
    layout.Of url ∧ isNoName layout.host = true ∧ Endpoint.parse url = .ok endpoint ∧
      KeepsLiteral url := by
  intro url layout endpoint
  have described : layout.Of url := ⟨by decide, by rfl, by decide, by decide⟩
  have denotes : literal? layout.host = some endpoint.host := by rfl
  have law := keepsLiteral_iff url
  have read := (law.1 layout described endpoint.host denotes endpoint).mpr ⟨by rfl, rfl, by rfl⟩
  have marked : isNoName layout.host = true := by rfl
  rcases law.2 endpoint read with ⟨other, also, keeps⟩
  cases described.unique also
  refine ⟨described, marked, read, (keeps marked).1.mpr ?_⟩
  rw [denotes]
  rfl

/-- An IPv6 address without a port is cut at its last colon and binds every interface. -/
theorem not_keepsLiteral_of_portless :
    Endpoint.parse "grpc://::1" = .ok ⟨.unspecified, 1, none⟩ ∧ ¬KeepsLiteral "grpc://::1" := by
  have described : Layout.Of ⟨"grpc".toList, ":".toList, "1".toList, none⟩ "grpc://::1" :=
    ⟨by rfl, by rfl, by decide, by decide⟩
  have read : Endpoint.parse "grpc://::1" = .ok ⟨.unspecified, 1, none⟩ := by rfl
  refine ⟨read, fun keeps => ?_⟩
  have denotes := keeps _ _ described (by rfl) read
  cases denotes

end Endpoint

end Rendezvous
