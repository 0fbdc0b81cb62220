import Rendezvous.Proofs.Address.RoundTrip
import Rendezvous.Proofs.Endpoint.Literal

/-!
# Endpoint addresses are read back

An address that spells out a socket address, and perhaps a service and a method, is read as just
these, whatever the case of its scheme, the slashes around its names and the blanks around the
whole. So is the address that is put together from what another one was read as
(`Endpoint.reads_back`).
-/

namespace Rendezvous

/-- A name can stand between slashes. -/
def IsSegment (name : List Char) : Prop :=
  name ≠ [] ∧ '/' ∉ name

/-- Service and method can stand between slashes. -/
structure Target.Fits (target : Target) : Prop where
  service : IsSegment target.service.toList
  method : IsSegment target.method.toList

/-- A text does not end in a blank. -/
def Text.EndsVisibly (text : List Char) : Prop :=
  ∀ last ∈ text.getLast?, isBlank last = false

namespace Text.EndsVisibly

variable {left right : List Char}

theorem of_forall (visible : ∀ character ∈ right, isBlank character = false) :
    EndsVisibly right :=
  fun last member => visible last (List.mem_of_mem_getLast? member)

theorem append_of_ne_nil (visible : EndsVisibly right) (nonempty : right ≠ [])
    (left : List Char) : EndsVisibly (left ++ right) := by
  rwa [EndsVisibly, List.getLast?_append_of_ne_nil _ nonempty]

theorem append (before : EndsVisibly left) (visible : EndsVisibly right) :
    EndsVisibly (left ++ right) := by
  rcases eq_or_ne right [] with rfl | nonempty
  · rwa [List.append_nil]
  · exact visible.append_of_ne_nil nonempty left

end Text.EndsVisibly

theorem Target.fits_builtIn : Target.builtIn.Fits :=
  ⟨by simp [IsSegment, builtIn], by simp [IsSegment, builtIn]⟩

namespace Endpoint

/-! ## Paths -/

def slashes (count : Nat) : List Char :=
  List.replicate count '/'

/-- The text of a path: service and method with slashes around them, or slashes only. -/
def pathText (before between after : Nat) : Option Target → List Char
  | none => slashes before
  | some target =>
      '/' :: (slashes before ++ (target.service.toList ++
        '/' :: (slashes between ++ (target.method.toList ++ slashes after))))

/-- The segments of a path that are not empty. -/
def segments (path : List Char) : List (List Char) :=
  (path.splitOn '/').filter (!·.isEmpty)

variable {name path : List Char} {target : Target} {named : Option Target}

theorem segments_append_slash (left right : List Char) :
    segments (left ++ '/' :: right) = segments left ++ segments right := by
  rw [segments, List.splitOn_append_cons_self, List.filter_append]
  rfl

theorem segments_slashes_append (count : Nat) (rest : List Char) :
    segments (slashes count ++ rest) = segments rest := by
  induction count with
  | zero => rfl
  | succ count ih => exact (segments_append_slash [] _).trans ih

theorem segments_slashes (count : Nat) : segments (slashes count) = [] := by
  have none := segments_slashes_append count []
  rw [List.append_nil] at none
  exact none

theorem segments_of_isSegment (fits : IsSegment name) : segments name = [name] := by
  simp [segments, List.splitOn_eq_singleton fits.2, fits.1]

/-- The slashes after a name do not count, nor what comes before the first of them. -/
theorem segments_name_slashes (fits : IsSegment name) (count : Nat) :
    segments (name ++ slashes count) = [name] := by
  cases count with
  | zero => simpa [slashes] using segments_of_isSegment fits
  | succ count =>
      rw [slashes, List.replicate_succ, segments_append_slash, segments_of_isSegment fits]
      exact congrArg _ (segments_slashes count)

theorem not_mem_of_mem_splitOn {separator : Char} (member : name ∈ path.splitOn separator) :
    separator ∉ name := by
  induction path generalizing name with
  | nil =>
      rw [List.splitOn_nil, List.mem_singleton] at member
      simp [member]
  | cons first rest ih =>
      rw [List.splitOn_cons_eq_if_modifyHead] at member
      split at member
      · rcases List.mem_cons.mp member with rfl | later
        · exact List.not_mem_nil
        · exact ih later
      · rename_i different
        cases pieces : rest.splitOn separator with
        | nil => exact absurd pieces (List.splitOn_ne_nil _ _)
        | cons head tail =>
            rw [pieces] at ih member
            rcases List.mem_cons.mp member with rfl | later
            · have free := ih List.mem_cons_self
              simp at different
              simp [free, Ne.symm different]
            · exact ih (List.mem_cons_of_mem _ later)

theorem isSegment_of_mem_segments (member : name ∈ segments path) : IsSegment name := by
  rw [segments, List.mem_filter] at member
  exact ⟨by simpa using member.2, not_mem_of_mem_splitOn member.1⟩

/-- The target of a path is made of its segments, if they are two, and there is none if there are no
segments. -/
theorem targetOfPath?_eq_some_iff : targetOfPath? path = some named ↔
    segments path = named.elim [] fun target => [target.service.toList, target.method.toList] := by
  rw [targetOfPath?.eq_def, ← segments]
  generalize segments path = names
  split
  · cases named <;> simp
  · rename_i service method
    cases named with
    | none => simp
    | some target =>
        rcases target with ⟨own, other⟩
        simp [String.ext_iff]
  · cases named <;> simp_all

theorem targetOfPath?_pathText (fits : ∀ target ∈ named, target.Fits) (before between after : Nat) :
    ∃ path : Option (List Char), pathText before between after named = path.elim [] ('/' :: ·) ∧
      targetOfPath? (path.getD []) = some named := by
  cases named with
  | none =>
      cases before with
      | zero => exact ⟨none, rfl, rfl⟩
      | succ before =>
          refine ⟨some (slashes before), rfl, ?_⟩
          exact targetOfPath?_eq_some_iff.mpr (segments_slashes before)
  | some target =>
      refine ⟨some _, rfl, targetOfPath?_eq_some_iff.mpr ?_⟩
      rcases fits target rfl with ⟨service, method⟩
      simp [segments_slashes_append, segments_append_slash, segments_of_isSegment service,
        segments_name_slashes method]

/-! ## Socket addresses -/

/-- The text of a host in a socket address. -/
def hostText (host : IpAddress) : List Char :=
  match host with
  | .v4 .. => host.characters
  | .v6 _ => '[' :: host.characters ++ [']']

theorem characters_eq (address : SocketAddress) :
    address.characters = hostText address.host ++ ':' :: Text.showNatural address.port.toNat :=
  rfl

theorem isAddressCharacter_characters (host : IpAddress) :
    ∀ character ∈ host.characters, IpAddress.isAddressCharacter character = true :=
  IpAddress.isAddressCharacter_of_parse? (IpAddress.parse?_characters host)

theorem literal?_hostText (host : IpAddress) : literal? (hostText host) = some host := by
  have denotes := IpAddress.parse?_characters host
  cases host with
  | v4 first second third fourth =>
      have bare := bracketless_of_parse? denotes
      rw [hostText, literal?.eq_def]
      split
      · rename_i whole
        rw [whole] at bare
        exact absurd rfl (bare '[' List.mem_cons_self).1
      · exact denotes
  | v6 groups =>
      rw [hostText, List.cons_append, literal?]
      simp [denotes]

theorem slash_not_mem_hostText (host : IpAddress) : '/' ∉ hostText host := by
  have bare : '/' ∉ host.characters := by
    intro member
    have known := isAddressCharacter_characters host '/' member
    revert known
    decide
  cases host with
  | v4 => exact bare
  | v6 => simp [hostText, bare]

/-- The digits of a port are neither slashes nor colons nor blanks. -/
theorem portText_plain (number : Nat) : ∀ digit ∈ Text.showNatural number,
    digit ≠ '/' ∧ digit ≠ ':' ∧ Text.isBlank digit = false :=
  Text.forall_toDigits (by decide) (by decide) number

/-! ## Whole addresses -/

/-- A character is not blank if its small form is not. -/
theorem visible_of_toLower {character : Char} (visible : Text.isBlank character.toLower = false) :
    Text.isBlank character = false := by
  by_cases capital : character.val ≥ 'A'.val ∧ character.val ≤ 'Z'.val
  · have bounds : 65 ≤ character.toNat ∧ character.toNat ≤ 90 := capital
    simp [Text.isBlank, Text.blankRanges]
    omega
  · rw [show character.toLower = character from dif_neg capital] at visible
    exact visible

theorem served_head {scheme : List Char}
    (served : Text.sameLetters scheme Endpoint.scheme.toList = true) :
    ∃ first rest, scheme = first :: rest ∧ Text.isBlank first = false := by
  have lowered : scheme.map Char.toLower = ['g', 'r', 'p', 'c'] :=
    (eq_of_beq served).trans (by decide)
  cases scheme with
  | nil => cases lowered
  | cons first rest =>
      refine ⟨first, rest, rfl, visible_of_toLower ?_⟩
      rw [(List.cons.inj lowered).1]
      decide

theorem endsVisibly_slashes (count : Nat) : Text.EndsVisibly (slashes count) := by
  apply Text.EndsVisibly.of_forall
  intro character member
  rw [List.eq_of_mem_replicate member]
  decide

theorem endsVisibly_pathText (fits : ∀ target ∈ named, target.Fits)
    (visible : ∀ target ∈ named, Text.EndsVisibly target.method.toList)
    (before between after : Nat) : Text.EndsVisibly (pathText before between after named) := by
  cases named with
  | none => exact endsVisibly_slashes before
  | some target =>
      have behind := (visible target rfl).append (endsVisibly_slashes after)
      have nonempty : target.method.toList ++ slashes after ≠ [] := by
        simp [(fits target rfl).method.1]
      have joined : pathText before between after (some target) =
          ('/' :: slashes before ++ target.service.toList ++ '/' :: slashes between) ++
            (target.method.toList ++ slashes after) := by
        simp [pathText]
      rw [joined]
      exact behind.append_of_ne_nil nonempty _

theorem endsVisibly_characters (address : SocketAddress) :
    Text.EndsVisibly address.characters := by
  have port : Text.EndsVisibly (Text.showNatural address.port.toNat) :=
    Text.EndsVisibly.of_forall fun digit member => (portText_plain _ digit member).2.2
  have joined : address.characters =
      hostText address.host ++ [':'] ++ Text.showNatural address.port.toNat := by
    simp [characters_eq]
  rw [joined]
  exact port.append_of_ne_nil Nat.toDigits_ne_nil _

/-- The text of an endpoint address without blanks around it. -/
def addressText (scheme : List Char) (address : SocketAddress) (path : List Char) : List Char :=
  scheme ++ ("://".toList ++ (address.characters ++ path))

theorem trim_addressText {scheme path : List Char} {address : SocketAddress}
    (served : Text.sameLetters scheme Endpoint.scheme.toList = true)
    (visible : Text.EndsVisibly path) :
    Text.trim (addressText scheme address path) =
      addressText scheme address path := by
  apply Text.trim_of_ends
  · rcases served_head served with ⟨first, rest, rfl, letter⟩
    intro character member
    cases member
    exact letter
  · have behind := (endsVisibly_characters address).append visible
    have nonempty : address.characters ++ path ≠ [] := by simp [characters_eq]
    have joined : addressText scheme address path =
        scheme ++ "://".toList ++ (address.characters ++ path) := by
      simp [addressText]
    rw [joined]
    exact behind.append_of_ne_nil nonempty _

/-- An address is read as what it spells out. -/
theorem parse_addressText {scheme : List Char} {url : String} (address : SocketAddress)
    (served : Text.sameLetters scheme Endpoint.scheme.toList = true)
    (fits : ∀ target ∈ named, target.Fits)
    (before between after : Nat)
    (written : Text.trim url.toList =
      addressText scheme address (pathText before between after named)) :
    parse url = .ok ⟨address.host, address.port, named⟩ := by
  rcases targetOfPath?_pathText fits before between after with ⟨path, joined, denotes⟩
  let layout : Layout := ⟨scheme, hostText address.host, Text.showNatural address.port.toNat, path⟩
  have described : layout.Of url := by
    refine ⟨?_, served, ?_, ?_⟩
    · rw [written, addressText, joined]
      rfl
    · intro member
      rcases List.mem_append.mp member with host | port
      · exact slash_not_mem_hostText address.host host
      · rcases List.mem_cons.mp port with same | digit
        · cases same
        · exact (portText_plain _ '/' digit).1 rfl
    · intro member
      exact (portText_plain _ ':' member).2.1 rfl
  refine described.parse_eq_ok_iff.mpr ⟨?_, ?_, denotes⟩
  · have small := address.port.toNat_lt
    exact Text.readNatural_showNatural (by omega)
  · exact bindHost?_of_literal? (literal?_hostText address.host)

/-- Whatever target an address names has a service and a method that can stand between slashes. -/
theorem fits_of_parse {url : String} {endpoint : Endpoint} (read : parse url = .ok endpoint) :
    ∀ target ∈ endpoint.named, target.Fits := by
  rcases Layout.exists_of_parse read with ⟨layout, described⟩
  have denotes := targetOfPath?_eq_some_iff.mp (described.parse_eq_ok_iff.mp read).2.2
  intro target member
  rw [Option.mem_def.mp member] at denotes
  have pieces : ∀ name ∈ [target.service.toList, target.method.toList], IsSegment name := by
    intro name listed
    apply isSegment_of_mem_segments
    rw [denotes]
    exact listed
  exact ⟨pieces _ (by simp), pieces _ (by simp)⟩

/-- An address is read as the socket address that it spells out and the service and method that it
names, if it names any, with the scheme in any letter case, any number of slashes more and blanks
around the whole. Whatever is read names a service and a method that are not empty and have no
slashes, or neither; and the address that is put together from it is read as the same again. -/
theorem reads_back :
    (∀ (address : SocketAddress) (named : Option Target) (scheme ahead behind : List Char)
      (before between after : Nat),
      Text.sameLetters scheme Endpoint.scheme.toList = true →
      (∀ target ∈ named, target.Fits ∧ Text.EndsVisibly target.method.toList) →
      (∀ character ∈ ahead ++ behind, Text.isBlank character = true) →
      parse (String.ofList (ahead ++
        addressText scheme address (pathText before between after named) ++ behind)) =
          .ok ⟨address.host, address.port, named⟩) ∧
    ∀ url endpoint, parse url = .ok endpoint →
      (∀ target ∈ endpoint.named, target.Fits) ∧
      (Text.EndsVisibly endpoint.target.method.toList →
        ∃ again,
          parse ("grpc://" ++ endpoint.socketAddress.text ++ endpoint.routePath) = .ok again ∧
          again.host = endpoint.host ∧ again.port = endpoint.port ∧
            again.target = endpoint.target ∧ again.isBuiltIn = endpoint.isBuiltIn) := by
  constructor
  · intro address named scheme ahead behind before between after served plain blank
    have fits : ∀ target ∈ named, target.Fits := fun target member => (plain target member).1
    apply parse_addressText address served fits before between after
    rw [String.toList_ofList, Text.trim_surrounded]
    · apply trim_addressText served
      exact endsVisibly_pathText fits (fun target member => (plain target member).2) before
        between after
    · exact fun character member => blank character (List.mem_append_left _ member)
    · exact fun character member => blank character (List.mem_append_right _ member)
  · intro url endpoint read
    have fits := fits_of_parse read
    refine ⟨fits, fun visible => ?_⟩
    have served : Text.sameLetters "grpc".toList Endpoint.scheme.toList = true := by decide
    have whole : ∀ target ∈ some endpoint.target, target.Fits := by
      intro target member
      cases member
      cases named : endpoint.named with
      | none => simpa [target, named] using Target.fits_builtIn
      | some own => simpa [target, named] using fits own named
    have written : ("grpc://" ++ endpoint.socketAddress.text ++ endpoint.routePath).toList =
        addressText "grpc".toList endpoint.socketAddress
          (pathText 0 0 0 (some endpoint.target)) := by
      simp [addressText, pathText, slashes, routePath, Target.path, SocketAddress.text]
    refine ⟨⟨endpoint.host, endpoint.port, some endpoint.target⟩, ?_, rfl, rfl, rfl, rfl⟩
    apply parse_addressText endpoint.socketAddress served whole 0 0 0
    rw [written]
    apply trim_addressText served
    apply endsVisibly_pathText whole
    intro target member
    cases member
    exact visible

/-- An IPv6 address with blanks and slashes around is read, and so is the plain form of it. -/
theorem reads_back_of_bracketed :
    let address : SocketAddress := ⟨.v6 #v[0x2001, 0xdb8, 0, 0, 0, 0, 0, 1], 7000⟩
    let endpoint : Endpoint := ⟨address.host, 7000, some ⟨"Svc", "call"⟩⟩
    parse " GRPC://[2001:db8::1]:7000//Svc/call//\n" = .ok endpoint ∧
      ∃ again, parse "grpc://[2001:db8::1]:7000/Svc/call" = .ok again ∧
        again.host = endpoint.host ∧ again.port = endpoint.port ∧
          again.target = endpoint.target ∧ again.isBuiltIn = endpoint.isBuiltIn := by
  intro address endpoint
  have visible : Text.EndsVisibly endpoint.target.method.toList := by
    simp [Text.EndsVisibly, endpoint, target, Text.isBlank, Text.blankRanges]
  have plain : ∀ target ∈ endpoint.named, target.Fits ∧
      Text.EndsVisibly target.method.toList := by
    intro target member
    cases member
    exact ⟨⟨by simp [IsSegment], by simp [IsSegment]⟩, visible⟩
  have read := reads_back.1 address endpoint.named "GRPC".toList [' '] ['\n'] 1 0 2 (by decide)
    plain (by simp [Text.isBlank, Text.blankRanges])
  have spelled : String.ofList ([' '] ++ addressText "GRPC".toList address
      (pathText 1 0 2 endpoint.named) ++ ['\n']) =
        " GRPC://[2001:db8::1]:7000//Svc/call//\n" := by
    decide +kernel
  have put : "grpc://" ++ endpoint.socketAddress.text ++ endpoint.routePath =
      "grpc://[2001:db8::1]:7000/Svc/call" := by
    decide +kernel
  rw [spelled] at read
  have again := (reads_back.2 _ endpoint read).2 visible
  rw [put] at again
  exact ⟨read, again⟩

end Endpoint

end Rendezvous
