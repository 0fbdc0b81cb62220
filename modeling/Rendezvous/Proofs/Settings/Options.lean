import Rendezvous.Proofs.Text.Number
import Rendezvous.Proofs.Text.Trimming
import Rendezvous.Settings

/-!
# What an option map gives

An option map gives settings if it holds both texts and every number that it holds is a decimal text
of 64 bits (`Settings.Gives`); these settings are then loaded if they pass their check
(`Settings.ofOptions_eq_ok_iff`). Otherwise the first complaint is reported, where all complaints
about reading come before those of the check (`Settings.ofOptions_eq_error_iff`).
-/

namespace Rendezvous

/-! ## Numeric options -/

/-- The options that hold numbers. -/
inductive NumberKey
  | maxMessageSize
  | maxMetadataSize
  | serviceTimeout
  | shutdownWaitingTime
deriving DecidableEq

namespace NumberKey

/-- The numeric options in the order in which they are read and checked. -/
def all : List NumberKey :=
  [.maxMessageSize, .maxMetadataSize, .serviceTimeout, .shutdownWaitingTime]

theorem mem_all (key : NumberKey) : key ∈ all := by
  cases key <;> decide

def option : NumberKey → OptionKey
  | .maxMessageSize => .maxMessageSize
  | .maxMetadataSize => .maxMetadataSize
  | .serviceTimeout => .serviceTimeout
  | .shutdownWaitingTime => .shutdownWaitingTime

/-- What is reported if the number is zero. -/
def zeroFault : NumberKey → SettingsError
  | .maxMessageSize => .invalidLimit "max_inbound_message_size cannot be 0"
  | .maxMetadataSize => .invalidLimit "max_inbound_metadata_size cannot be 0"
  | .serviceTimeout => .invalidTimeout "service timeout cannot be 0"
  | .shutdownWaitingTime => .invalidTimeout "server shutdown waiting time cannot be 0"

end NumberKey

namespace Settings

def number (settings : Settings) : NumberKey → UInt64
  | .maxMessageSize => settings.maxMessageSize
  | .maxMetadataSize => settings.maxMetadataSize
  | .serviceTimeout => settings.serviceTimeoutMs
  | .shutdownWaitingTime => settings.shutdownWaitingTime

/-- The number of an option that is not given. -/
def defaultNumber (key : NumberKey) : UInt64 :=
  ({} : Settings).number key

theorem ext_number {settings other : Settings} (url : settings.url = other.url)
    (sourceId : settings.sourceId = other.sourceId)
    (number : ∀ key, settings.number key = other.number key) : settings = other := by
  have message := number .maxMessageSize
  have metadata := number .maxMetadataSize
  have timeout := number .serviceTimeout
  have waiting := number .shutdownWaitingTime
  cases settings
  cases other
  simp_all [Settings.number]

/-! ## The settings that options give -/

/-- An option gives a number: its text denotes it, apart from blanks around, or there is no text and
it is the default. -/
def GivesNumber (options : Directory String String) (key : NumberKey) (number : UInt64) : Prop :=
  match options.find? key.option.name with
  | none => number = defaultNumber key
  | some text => Text.Denotes (Text.trim text.toList) number.toNat

/-- An option map gives settings. -/
structure Gives (options : Directory String String) (settings : Settings) : Prop where
  url : options.find? OptionKey.url.name = some settings.url
  sourceId : options.find? OptionKey.sourceId.name = some settings.sourceId
  number : ∀ key, GivesNumber options key (settings.number key)

variable {options : Directory String String} {settings : Settings} {number : UInt64}
  {error : SettingsError}

theorem toNat_ofNat_of_le {number : Nat} (small : number ≤ UInt64.size - 1) :
    (UInt64.ofNat number).toNat = number := by
  apply UInt64.toNat_ofNat_of_lt'
  exact Nat.lt_of_le_pred (by decide) small

theorem numberOption_eq_ok_iff (key : NumberKey) :
    numberOption options key.option (defaultNumber key) = .ok number ↔
      GivesNumber options key number := by
  rw [numberOption, GivesNumber]
  cases options.find? key.option.name with
  | none => simp [eq_comm]
  | some text =>
      dsimp only
      constructor
      · intro read
        split at read
        · rename_i value found
          cases read
          rcases Text.readNatural_eq_some_iff.mp found with ⟨denotes, small⟩
          rwa [toNat_ofNat_of_le small]
        · cases read
      · intro denotes
        have small : number.toNat ≤ UInt64.size - 1 := Nat.le_pred_of_lt number.toNat_lt
        rw [Text.readNatural_eq_some_iff.mpr ⟨denotes, small⟩]
        simp

/-- An option gives no number of 64 bits. -/
def Unreadable (options : Directory String String) (key : NumberKey) : Prop :=
  ∀ number, ¬GivesNumber options key number

/-- The fault of a number that cannot be read. -/
def numberFault (options : Directory String String) (key : NumberKey) : SettingsError :=
  .invalidNumber key.option ((options.find? key.option.name).getD "")

theorem eq_numberFault {key : NumberKey}
    (failed : numberOption options key.option (defaultNumber key) = .error error) :
    numberFault options key = error := by
  rw [numberOption] at failed
  rw [numberFault]
  split at failed
  · cases failed
  · rename_i value found
    split at failed
    · cases failed
    · cases failed
      rw [found]
      rfl

theorem numberOption_eq_error_iff (key : NumberKey) :
    numberOption options key.option (defaultNumber key) = .error error ↔
      Unreadable options key ∧ numberFault options key = error := by
  constructor
  · intro failed
    refine ⟨fun number given => ?_, eq_numberFault failed⟩
    rw [(numberOption_eq_ok_iff key).mpr given] at failed
    cases failed
  · rintro ⟨unreadable, rfl⟩
    cases read : numberOption options key.option (defaultNumber key) with
    | ok number => exact absurd ((numberOption_eq_ok_iff key).mp read) (unreadable number)
    | error error => rw [eq_numberFault read]

theorem requiredOption_eq_ok_iff {key : OptionKey} {value : String} :
    requiredOption options key = .ok value ↔ options.find? key.name = some value := by
  rw [requiredOption]
  cases options.find? key.name <;> simp

theorem requiredOption_eq_error_iff {key : OptionKey} :
    requiredOption options key = .error error ↔
      options.find? key.name = none ∧ .missingOption key = error := by
  rw [requiredOption]
  cases options.find? key.name <;> simp

/-! ## The first complaint -/

/-- A fault, and the condition under which there is cause to report it. -/
abbrev Complaint := Prop × SettingsError

/-- The fault of the first complaint in a list whose condition holds. -/
def FirstOf : List Complaint → SettingsError → Prop
  | [], _ => False
  | complaint :: later, error =>
      complaint.1 ∧ complaint.2 = error ∨ ¬complaint.1 ∧ FirstOf later error

/-- What may keep options from being read. -/
def readingComplaints (options : Directory String String) : List Complaint :=
  (options.find? OptionKey.url.name = none, .missingOption .url) ::
    (options.find? OptionKey.sourceId.name = none, .missingOption .sourceId) ::
      NumberKey.all.map fun key => (Unreadable options key, numberFault options key)

/-- What may be wrong with the address. -/
def addressComplaints (settings : Settings) : List Complaint :=
  match Endpoint.parse settings.url with
  | .ok _ => []
  | .error error => [(True, error)]

/-- What may be wrong with settings that have been read. -/
def checkComplaints (settings : Settings) : List Complaint :=
  (Text.trim settings.url.toList = [], .missingOption .url) ::
    (Text.trim settings.sourceId.toList = [], .missingOption .sourceId) ::
      (NumberKey.all.map fun key => (settings.number key = 0, key.zeroFault)) ++
        addressComplaints settings

/-- Nothing is reported exactly if there is no cause to. -/
theorem forall_not_firstOf_iff {complaints : List Complaint} :
    (∀ error, ¬FirstOf complaints error) ↔ ∀ complaint ∈ complaints, ¬complaint.1 := by
  induction complaints with
  | nil => simp [FirstOf]
  | cons complaint later ih =>
      by_cases holds : complaint.1
      · simp [FirstOf, holds]
      · simpa [FirstOf, holds] using ih

section Steps

variable {Value Result : Type} {step : Except SettingsError Value}
  {next : Value → Except SettingsError Result} {result : Result}

theorem bind_eq_ok_iff :
    (step >>= next) = .ok result ↔ ∃ value, step = .ok value ∧ next value = .ok result := by
  cases step <;> simp [bind, Except.bind]

/-- A step reports its complaint before all that come later. -/
theorem FirstOf.bind {complaint : Complaint} {later : List Complaint}
    (own : ∀ error, step = .error error ↔ complaint.1 ∧ complaint.2 = error)
    (others : ∀ value, step = .ok value → (next value = .error error ↔ FirstOf later error)) :
    (step >>= next) = .error error ↔ FirstOf (complaint :: later) error := by
  cases step with
  | error fault =>
      rcases (own fault).mp rfl with ⟨holds, same⟩
      simp [Bind.bind, Except.bind, FirstOf, holds, same]
  | ok value =>
      have fine : ¬complaint.1 := by
        intro holds
        cases (own complaint.2).mpr ⟨holds, rfl⟩
      simp [Bind.bind, Except.bind, FirstOf, fine, others value rfl]

/-- So does a condition that is tested. -/
theorem FirstOf.ite {condition cause : Prop} [Decidable condition] {fault : SettingsError}
    {later : List Complaint} (own : condition ↔ cause)
    (others : step = .error error ↔ FirstOf later error) :
    (if condition then .error fault else step) = .error error ↔
      FirstOf ((cause, fault) :: later) error := by
  by_cases holds : condition
  · simp [FirstOf, holds, own.mp holds]
  · simp [FirstOf, holds, own.not.mp holds, others]

end Steps

theorem readOptions_eq_ok_iff : readOptions options = .ok settings ↔ Gives options settings := by
  simp only [readOptions, bind_eq_ok_iff, requiredOption_eq_ok_iff, Except.ok.injEq]
  constructor
  · rintro ⟨url, hasUrl, sourceId, hasSourceId, _, message, _, metadata, _, timeout, _, waiting,
      rfl⟩
    refine ⟨hasUrl, hasSourceId, fun key => (numberOption_eq_ok_iff key).mp ?_⟩
    cases key with
    | maxMessageSize => exact message
    | maxMetadataSize => exact metadata
    | serviceTimeout => exact timeout
    | shutdownWaitingTime => exact waiting
  · rintro ⟨url, sourceId, number⟩
    have read : ∀ key, numberOption options key.option (defaultNumber key) =
        .ok (settings.number key) :=
      fun key => (numberOption_eq_ok_iff key).mpr (number key)
    exact ⟨_, url, _, sourceId, _, read .maxMessageSize, _, read .maxMetadataSize, _,
      read .serviceTimeout, _, read .shutdownWaitingTime, rfl⟩

theorem readOptions_eq_error_iff :
    readOptions options = .error error ↔ FirstOf (readingComplaints options) error := by
  rw [readOptions]
  apply FirstOf.bind fun _ => requiredOption_eq_error_iff
  intro url _
  apply FirstOf.bind fun _ => requiredOption_eq_error_iff
  intro sourceId _
  apply FirstOf.bind fun _ => numberOption_eq_error_iff .maxMessageSize
  intro maxMessageSize _
  apply FirstOf.bind fun _ => numberOption_eq_error_iff .maxMetadataSize
  intro maxMetadataSize _
  apply FirstOf.bind fun _ => numberOption_eq_error_iff .serviceTimeout
  intro serviceTimeoutMs _
  apply FirstOf.bind fun _ => numberOption_eq_error_iff .shutdownWaitingTime
  intro shutdownWaitingTime _
  simp [FirstOf]

/-! ## The check -/

theorem allBlank_iff {text : List Char} : Text.allBlank text = true ↔ Text.trim text = [] := by
  rw [Text.trim_eq_nil_iff, Text.allBlank, List.all_eq_true]

theorem endpoint_eq_error_iff :
    settings.endpoint = .error error ↔ FirstOf (addressComplaints settings) error := by
  rw [endpoint, addressComplaints]
  cases Endpoint.parse settings.url <;> simp [FirstOf]

/-- The check reports its first complaint. -/
theorem check_eq_error_iff :
    settings.check = .error error ↔ FirstOf (checkComplaints settings) error := by
  rw [check]
  apply FirstOf.ite allBlank_iff
  apply FirstOf.ite allBlank_iff
  apply FirstOf.ite Iff.rfl
  apply FirstOf.ite Iff.rfl
  apply FirstOf.ite Iff.rfl
  apply FirstOf.ite Iff.rfl
  exact endpoint_eq_error_iff

theorem exists_ok_iff {Value : Type} {result : Except SettingsError Value} :
    (∃ value, result = .ok value) ↔ ∀ error, result ≠ .error error := by
  cases result <;> simp

/-- Settings can be kept if nothing is blank or zero and the address can be read. -/
theorem exists_check_iff :
    (∃ endpoint, settings.check = .ok endpoint) ↔
      Text.trim settings.url.toList ≠ [] ∧ Text.trim settings.sourceId.toList ≠ [] ∧
        (∀ key, settings.number key ≠ 0) ∧
          ∃ endpoint, Endpoint.parse settings.url = .ok endpoint := by
  have address : (∀ complaint ∈ addressComplaints settings, ¬complaint.1) ↔
      ∃ endpoint, Endpoint.parse settings.url = .ok endpoint := by
    rw [addressComplaints]
    cases Endpoint.parse settings.url <;> simp
  have numbers : (∀ complaint ∈ NumberKey.all.map fun key =>
      ((settings.number key = 0, key.zeroFault) : Complaint), ¬complaint.1) ↔
        ∀ key, settings.number key ≠ 0 := by
    simp only [List.forall_mem_map]
    exact ⟨fun nonzero key => nonzero key key.mem_all, fun nonzero key _ => nonzero key⟩
  simp only [exists_ok_iff, ne_eq, check_eq_error_iff, forall_not_firstOf_iff]
  rw [← exists_ok_iff, ← address, ← numbers]
  simp only [checkComplaints, List.cons_append, List.forall_mem_cons, List.forall_mem_append]

/-! ## Loading -/

theorem ofOptions_eq_ok_iff : ofOptions options = .ok settings ↔
    Gives options settings ∧ ∃ endpoint, settings.check = .ok endpoint := by
  simp only [ofOptions, bind_eq_ok_iff, readOptions_eq_ok_iff, Except.ok.injEq]
  constructor
  · rintro ⟨_, given, endpoint, checked, rfl⟩
    exact ⟨given, endpoint, checked⟩
  · rintro ⟨given, endpoint, checked⟩
    exact ⟨settings, given, endpoint, checked, rfl⟩

/-- All complaints about reading are reported before those of the check. -/
theorem ofOptions_eq_error_iff : ofOptions options = .error error ↔
    FirstOf (readingComplaints options) error ∨
      ∃ settings, Gives options settings ∧ FirstOf (checkComplaints settings) error := by
  rw [← readOptions_eq_error_iff]
  simp only [← readOptions_eq_ok_iff, ← check_eq_error_iff, ofOptions]
  cases readOptions options with
  | error => simp [bind, Except.bind]
  | ok settings =>
      cases checked : settings.check <;> simp [bind, Except.bind, checked]

example : ofOptions (.ofList [("url", " "), ("source.id", "1"), ("service.timeout", "soon")]) =
    .error (.invalidNumber .serviceTimeout "soon") := by
  decide +kernel

/-- Only the options of a source count. -/
theorem ofOptions_congr {others : Directory String String}
    (same : ∀ key : OptionKey, others.find? key.name = options.find? key.name) :
    ofOptions others = ofOptions options := by
  simp only [ofOptions, readOptions, requiredOption, numberOption, same]

end Settings

end Rendezvous
