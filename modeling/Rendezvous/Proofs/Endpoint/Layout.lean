import Rendezvous.Endpoint
import Rendezvous.Proofs.Text.Trimming

/-!
# The layout of an endpoint address

An address that is read is laid out as `<scheme>://<host>:<port>`, perhaps with a path behind
(`Layout.exists_of_parse`), in one way only (`Layout.Of.unique`). Host, port and path are then read
each on its own (`Layout.Of.parse_eq_ok_iff`).
-/

namespace Rendezvous

theorem Text.le_of_readNatural {limit number : Nat} {text : List Char}
    (read : readNatural limit text = some number) : number ≤ limit := by
  simp only [readNatural] at read
  split at read
  · cases read
  · split at read
    · rename_i digits
      cases read
      simp only [Bool.and_eq_true, decide_eq_true_eq] at digits
      exact digits.2
    · cases read

namespace Endpoint

/-- The parts of an address. -/
structure Layout where
  scheme : List Char
  host : List Char
  port : List Char
  /-- What comes after the first slash, if there is one. -/
  path : Option (List Char)

namespace Layout

/-- Host and port. -/
def authority (layout : Layout) : List Char :=
  layout.host ++ ':' :: layout.port

/-- All that comes after `://`. -/
def remainder (layout : Layout) : List Char :=
  layout.authority ++ layout.path.elim [] ('/' :: ·)

/-- An address is made of these parts, and its scheme is the one that is served. -/
structure Of (layout : Layout) (url : String) : Prop where
  written : Text.trim url.toList = layout.scheme ++ ("://".toList ++ layout.remainder)
  served : Text.sameLetters layout.scheme Endpoint.scheme.toList = true
  /-- The path begins at the first slash. -/
  slash : '/' ∉ layout.authority
  /-- The port begins after the last colon. -/
  colon : ':' ∉ layout.port

variable {layout other : Layout} {url : String} {endpoint : Endpoint}

namespace Of

theorem colon_not_mem_scheme (described : layout.Of url) : ':' ∉ layout.scheme := by
  intro member
  have lowered : Char.toLower ':' ∈ Endpoint.scheme.toList.map Char.toLower := by
    rw [← eq_of_beq described.served]
    exact List.mem_map_of_mem member
  revert lowered
  decide

theorem splitFirst_url (described : layout.Of url) :
    Text.splitFirst "://".toList (Text.trim url.toList) =
      some (layout.scheme, layout.remainder) := by
  rw [described.written]
  exact Text.splitFirst_separator described.colon_not_mem_scheme _ _

theorem splitFirst_remainder (described : layout.Of url) :
    (Text.splitFirst ['/'] layout.remainder).getD (layout.remainder, []) =
      (layout.authority, layout.path.getD []) := by
  have slash := described.slash
  cases path : layout.path with
  | none =>
      have bare : layout.remainder = layout.authority := by simp [remainder, path]
      rw [bare, Text.splitFirst_eq_none_iff.mpr slash]
      rfl
  | some rest =>
      have joined : layout.remainder = layout.authority ++ '/' :: rest := by
        simp [remainder, path]
      rw [Text.splitFirst_eq_some_iff.mpr ⟨joined, slash⟩]
      rfl

theorem splitLast_authority (described : layout.Of url) :
    Text.splitLast ':' layout.authority = some (layout.host, layout.port) :=
  Text.splitLast_eq_some_iff.mpr ⟨rfl, described.colon⟩

/-- An address has one layout. -/
theorem unique (described : layout.Of url) (also : other.Of url) : other = layout := by
  have first := described.splitFirst_url
  rw [also.splitFirst_url, Option.some.injEq, Prod.mk.injEq] at first
  have second := described.splitFirst_remainder
  rw [← first.2, also.splitFirst_remainder, Prod.mk.injEq] at second
  have third := described.splitLast_authority
  rw [← second.1, also.splitLast_authority, Option.some.injEq, Prod.mk.injEq] at third
  have paths : other.path.elim [] ('/' :: ·) = layout.path.elim [] ('/' :: ·) := by
    have joined := first.2
    rw [remainder, remainder, second.1] at joined
    exact List.append_cancel_left joined
  have path : other.path = layout.path := by
    cases mine : other.path <;> cases yours : layout.path <;> simp_all
  cases layout
  cases other
  simp_all

/-- An address is read part by part. -/
theorem parse_eq_ok_iff (described : layout.Of url) :
    Endpoint.parse url = .ok endpoint ↔
      Text.readNatural 65535 layout.port = some endpoint.port.toNat ∧
        bindHost? layout.host = some endpoint.host ∧
          targetOfPath? (layout.path.getD []) = some endpoint.named := by
  rw [parse, parseTrimmed]
  simp only [described.splitFirst_url, described.served, described.splitFirst_remainder,
    described.splitLast_authority]
  cases port : Text.readNatural 65535 layout.port with
  | none => simp
  | some number =>
      cases host : bindHost? layout.host with
      | none => simp
      | some address =>
          cases path : targetOfPath? (layout.path.getD []) with
          | none => simp
          | some named =>
              have bound := Text.le_of_readNatural port
              have small : (UInt16.ofNat number).toNat = number := by
                simp
                omega
              constructor
              · intro same
                cases same
                simp [small]
              · rintro ⟨number, host, path⟩
                simp_all

end Of

/-- What comes after `://` is an authority without slashes, and perhaps a path. -/
theorem exists_authority (remainder : List Char) :
    ∃ (authority : List Char) (path : Option (List Char)),
      remainder = authority ++ path.elim [] ('/' :: ·) ∧ '/' ∉ authority ∧
        ((Text.splitFirst ['/'] remainder).getD (remainder, [])).1 = authority := by
  cases cut : Text.splitFirst ['/'] remainder with
  | none =>
      refine ⟨remainder, none, ?_, Text.splitFirst_eq_none_iff.mp cut, rfl⟩
      simp
  | some parts =>
      rcases Text.splitFirst_eq_some_iff.mp cut with ⟨joined, slash⟩
      exact ⟨parts.1, some parts.2, joined, slash, rfl⟩

/-- Only an address that has a layout is read. -/
theorem exists_of_parse (read : Endpoint.parse url = .ok endpoint) :
    ∃ layout : Layout, layout.Of url := by
  rw [parse, parseTrimmed] at read
  cases apart : Text.splitFirst "://".toList (Text.trim url.toList) with
  | none =>
      simp only [apart] at read
      cases read
  | some parts =>
      obtain ⟨scheme, remainder⟩ := parts
      have written := Text.eq_of_splitFirst apart
      rcases exists_authority remainder with ⟨authority, path, joined, slash, first⟩
      simp only [apart, first] at read
      cases served : Text.sameLetters scheme Endpoint.scheme.toList with
      | false =>
          simp only [served] at read
          cases read
      | true =>
          cases last : Text.splitLast ':' authority with
          | none =>
              simp only [served, last] at read
              cases read
          | some place =>
              rcases Text.splitLast_eq_some_iff.mp last with ⟨rfl, colon⟩
              refine ⟨⟨scheme, place.1, place.2, path⟩, ?_, served, slash, colon⟩
              rw [written, joined]
              rfl

end Layout

end Endpoint

end Rendezvous
