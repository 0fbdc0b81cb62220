import Rendezvous.Proofs.Json.Reading
import Rendezvous.Proofs.Settings.Options
import Rendezvous.Wire

/-!
# Settings are loaded from what spells them out

An option map that spells settings out gives these settings, and so does every document that gives
the same fields in any order; a number that both leave out takes its default
(`Settings.ofOptions_of_spells`, `Settings.ofJson_printGiven`). Together with what is accepted and
what is reported this describes how options are loaded (`Settings.loads`).
-/

namespace Rendezvous

/-- The name of the field that holds the number in a document. -/
def NumberKey.fieldName : NumberKey → String
  | .maxMessageSize => "max_inbound_message_size"
  | .maxMetadataSize => "max_inbound_metadata_size"
  | .serviceTimeout => "service_timeout_ms"
  | .shutdownWaitingTime => "server_shutdown_waiting_time"

namespace Settings

/-- The settings with the defaults in place of the numbers that are not kept. -/
def keeping (settings : Settings) (kept : NumberKey → Bool) : Settings :=
  let choose (key : NumberKey) : UInt64 :=
    if kept key then settings.number key else defaultNumber key
  { settings with
    maxMessageSize := choose .maxMessageSize
    maxMetadataSize := choose .maxMetadataSize
    serviceTimeoutMs := choose .serviceTimeout
    shutdownWaitingTime := choose .shutdownWaitingTime }

variable {options : Directory String String} {settings : Settings} {kept : NumberKey → Bool}

theorem number_keeping (key : NumberKey) : (settings.keeping kept).number key =
    if kept key then settings.number key else defaultNumber key := by
  cases key <;> rfl

theorem keeping_all : (settings.keeping fun _ => true) = settings :=
  ext_number rfl rfl fun key => number_keeping key

/-- Settings that can be kept can be kept with any of the defaults. -/
theorem exists_check_keeping (checked : ∃ endpoint, settings.check = .ok endpoint) :
    ∃ endpoint, (settings.keeping kept).check = .ok endpoint := by
  rw [exists_check_iff] at checked ⊢
  rcases checked with ⟨url, sourceId, numbers, address⟩
  refine ⟨url, sourceId, fun key => ?_, address⟩
  rw [number_keeping]
  split
  · exact numbers key
  · cases key <;> decide

/-! ## Options -/

/-- Options hold the texts of settings as they are, and of the numbers those that are kept, in
decimal and with any blanks around. -/
structure Spells (options : Directory String String) (settings : Settings)
    (kept : NumberKey → Bool) : Prop where
  url : options.find? OptionKey.url.name = some settings.url
  sourceId : options.find? OptionKey.sourceId.name = some settings.sourceId
  number : ∀ key, kept key = true → ∃ before after : List Char,
    (∀ character ∈ before ++ after, Text.isBlank character = true) ∧
      options.find? key.option.name = some (String.ofList
        (before ++ Text.showNatural (settings.number key).toNat ++ after))
  absent : ∀ key, kept key = false → options.find? key.option.name = none

theorem trim_showNatural (number : Nat) :
    Text.trim (Text.showNatural number) = Text.showNatural number :=
  Text.trim_of_visible (Text.forall_toDigits (by decide) (by decide) number)

theorem gives_of_spells (spells : Spells options settings kept) :
    Gives options (settings.keeping kept) := by
  refine ⟨spells.url, spells.sourceId, fun key => ?_⟩
  rw [GivesNumber, number_keeping]
  cases keep : kept key with
  | false =>
      rw [spells.absent key keep]
      rfl
  | true =>
      rcases spells.number key keep with ⟨before, after, blank, found⟩
      rw [found, if_pos rfl]
      dsimp only
      rw [String.toList_ofList, Text.trim_surrounded, trim_showNatural]
      · exact Text.denotes_showNatural _
      · exact fun character member => blank character (List.mem_append_left _ member)
      · exact fun character member => blank character (List.mem_append_right _ member)

theorem ofOptions_of_spells (checked : ∃ endpoint, settings.check = .ok endpoint)
    (spells : Spells options settings kept) :
    ofOptions options = .ok (settings.keeping kept) :=
  ofOptions_eq_ok_iff.mpr ⟨gives_of_spells spells, exists_check_keeping checked⟩

/-! ## Documents -/

/-- What a document gives that leaves out the numbers that are not kept. -/
def given (settings : Settings) (kept : NumberKey → Bool) : Json.Given :=
  ("url".toList, .text settings.url.toList) ::
    ("source_id".toList, .text settings.sourceId.toList) ::
      (NumberKey.all.filter kept).map fun key =>
        (key.fieldName.toList, .integer (settings.number key).toNat)

theorem printGiven_given : Json.printGiven (settings.given fun _ => true) = settings.printJson := by
  simp [Json.printGiven, given, printJson, NumberKey.all, NumberKey.fieldName, number,
    Json.FieldValue.print, Text.showInteger]

theorem nodup_given : ((settings.given kept).map Prod.fst).Nodup := by
  have names : ("url".toList :: "source_id".toList ::
      NumberKey.all.map fun key => key.fieldName.toList).Nodup := by
    decide
  apply List.Nodup.sublist _ names
  rw [given, List.map_cons, List.map_cons, List.map_map]
  exact ((List.filter_sublist.map _).cons_cons _).cons_cons _

theorem holds_given : ∀ member ∈ settings.given kept, Json.Holds fields member := by
  intro member listed
  rcases List.mem_cons.mp listed with rfl | listed
  · exact ⟨_, rfl, trivial⟩
  · rcases List.mem_cons.mp listed with rfl | listed
    · exact ⟨_, rfl, trivial⟩
    · rcases List.mem_map.mp listed with ⟨key, _, rfl⟩
      have bound := (settings.number key).toNat_lt
      refine ⟨numberField key.fieldName (defaultNumber key), ?_, ?_⟩
      · cases key <;> rfl
      · change (0 : Int) ≤ _ ∧ _ ∧ _
        simp [UInt64.size]
        omega

/-- No name of a numeric field is the name of another field. -/
theorem fieldName_unique (key : NumberKey) :
    key.fieldName.toList ≠ "url".toList ∧ key.fieldName.toList ≠ "source_id".toList ∧
      ∀ other : NumberKey, other.fieldName.toList = key.fieldName.toList → other = key := by
  refine ⟨?_, ?_, fun other => ?_⟩
  · cases key <;> decide
  · cases key <;> decide
  · cases key <;> cases other <;> decide

theorem value_number (key : NumberKey) :
    Json.Field.value (settings.given kept) (numberField key.fieldName (defaultNumber key)) =
      .ok (.integer ((settings.keeping kept).number key).toNat) := by
  rw [number_keeping]
  cases keep : kept key with
  | true =>
      have listed : (key.fieldName.toList, Json.FieldValue.integer (settings.number key).toNat) ∈
          settings.given kept := by
        apply List.mem_cons_of_mem
        apply List.mem_cons_of_mem
        exact List.mem_map.mpr ⟨key, List.mem_filter.mpr ⟨key.mem_all, keep⟩, rfl⟩
      rw [Json.Field.value, numberField, (Directory.lookup_eq_some_iff nodup_given).mpr listed]
      rfl
  | false =>
      have absent : (settings.given kept).lookup key.fieldName.toList = none := by
        rcases fieldName_unique key with ⟨url, sourceId, unique⟩
        apply Option.eq_none_iff_forall_ne_some.mpr
        intro value found
        have listed := (Directory.lookup_eq_some_iff nodup_given).mp found
        simp only [given, List.mem_cons, List.mem_map, List.mem_filter, Prod.mk.injEq, url,
          sourceId, false_and, false_or] at listed
        rcases listed with ⟨other, ⟨_, taken⟩, name, _⟩
        rw [unique other name, keep] at taken
        cases taken
      rw [Json.Field.value, numberField, absent]
      rfl

/-- A document without some of the numbers is collected with their defaults. -/
theorem collect_given : Json.collect fields (settings.given kept) = .ok
    [.text settings.url.toList, .text settings.sourceId.toList,
      .integer ((settings.keeping kept).number .maxMessageSize).toNat,
      .integer ((settings.keeping kept).number .maxMetadataSize).toNat,
      .integer ((settings.keeping kept).number .serviceTimeout).toNat,
      .integer ((settings.keeping kept).number .shutdownWaitingTime).toNat] := by
  have numbers : fields = [⟨"url".toList, .text, some (.text [])⟩,
      ⟨"source_id".toList, .text, some (.text [])⟩] ++
        NumberKey.all.map fun key => numberField key.fieldName (defaultNumber key) := rfl
  have url : Json.Field.value (settings.given kept) ⟨"url".toList, .text, some (.text [])⟩ =
      .ok (.text settings.url.toList) := rfl
  have sourceId : Json.Field.value (settings.given kept)
      ⟨"source_id".toList, .text, some (.text [])⟩ = .ok (.text settings.sourceId.toList) := rfl
  rw [Json.collect, numbers, NumberKey.all]
  simp only [List.map_cons, List.map_nil, List.cons_append, List.nil_append, List.mapM_cons,
    List.mapM_nil, url, sourceId, value_number]
  rfl

/-- A document that gives settings, in any order, is read as these settings, with the defaults of
the numbers that it leaves out. -/
theorem ofJson_printGiven {listed : Json.Given} (permuted : listed.Perm (settings.given kept)) :
    ofJson (String.ofList (Json.printGiven listed)) = .ok (settings.keeping kept) := by
  have distinct : (listed.map Prod.fst).Nodup :=
    (permuted.map Prod.fst).nodup_iff.mpr nodup_given
  have holds : ∀ member ∈ listed, Json.Holds fields member :=
    fun member also => holds_given member (permuted.mem_iff.mp also)
  have read := Json.readRecord_printGiven holds distinct []
  rw [List.append_nil, Json.collect_perm permuted nodup_given, collect_given] at read
  have number : ∀ number : UInt64, ofFieldNumber (.integer number.toNat) = number := by
    intro number
    simp [ofFieldNumber, Json.FieldValue.number]
  rw [ofJson, String.toList_ofList, Json.readWholeText, readJson, read]
  simp only [Except.map, bind, Except.bind, ofValues, number]
  simp [Json.FieldValue.characters, Json.skipSpace, keeping, Settings.number]

/-- The document that is printed of settings is read as these settings. -/
theorem ofJson_toJson (settings : Settings) : ofJson settings.toJson = .ok settings := by
  have read := ofJson_printGiven (List.Perm.refl (settings.given fun _ => true))
  rwa [printGiven_given, keeping_all] at read

/-! ## What is accepted -/

/-- An option map holds what is needed, in a form that can be used. -/
structure Acceptable (options : Directory String String) : Prop where
  url : ∃ url, options.find? OptionKey.url.name = some url ∧ Text.trim url.toList ≠ [] ∧
    ∃ endpoint, Endpoint.parse url = .ok endpoint
  sourceId : ∃ sourceId, options.find? OptionKey.sourceId.name = some sourceId ∧
    Text.trim sourceId.toList ≠ []
  number : ∀ (key : NumberKey) (text : String), options.find? key.option.name = some text →
    ∃ number, Text.Denotes (Text.trim text.toList) number ∧ 1 ≤ number ∧ number ≤ 2 ^ 64 - 1

theorem Acceptable.exists_number (acceptable : Acceptable options) (key : NumberKey) :
    ∃ number, GivesNumber options key number ∧ number ≠ 0 := by
  simp only [GivesNumber]
  cases found : options.find? key.option.name with
  | none => exact ⟨defaultNumber key, rfl, by cases key <;> decide⟩
  | some text =>
      rcases acceptable.number key text found with ⟨number, denotes, positive, small⟩
      have whole : (UInt64.ofNat number).toNat = number := toNat_ofNat_of_le small
      refine ⟨UInt64.ofNat number, whole.symm ▸ denotes, fun zero => ?_⟩
      rw [zero] at whole
      simp at whole
      omega

theorem acceptable_iff : (∃ settings, ofOptions options = .ok settings) ↔ Acceptable options := by
  simp only [ofOptions_eq_ok_iff, exists_check_iff]
  constructor
  · rintro ⟨settings, ⟨url, sourceId, number⟩, visible, named, nonzero, address⟩
    refine ⟨⟨_, url, visible, address⟩, ⟨_, sourceId, named⟩, fun key text found => ?_⟩
    have denotes := number key
    simp only [GivesNumber, found] at denotes
    have bound := (settings.number key).toNat_lt
    have positive : (settings.number key).toNat ≠ 0 := by
      intro zero
      apply nonzero key
      exact UInt64.toNat_inj.mp zero
    exact ⟨_, denotes, by omega, by omega⟩
  · intro acceptable
    rcases acceptable.url with ⟨url, hasUrl, visible, address⟩
    rcases acceptable.sourceId with ⟨sourceId, hasSourceId, named⟩
    choose number gives nonzero using acceptable.exists_number
    let settings : Settings :=
      { url, sourceId
        maxMessageSize := number .maxMessageSize
        maxMetadataSize := number .maxMetadataSize
        serviceTimeoutMs := number .serviceTimeout
        shutdownWaitingTime := number .shutdownWaitingTime }
    have same : ∀ key, settings.number key = number key := by
      intro key
      cases key <;> rfl
    refine ⟨settings, ⟨hasUrl, hasSourceId, fun key => ?_⟩, visible, named, fun key => ?_, address⟩
    · rw [same]
      exact gives key
    · rw [same]
      exact nonzero key

/-- Options are loaded exactly if both texts are there and not blank, all numbers are decimal and
within their bounds, and the address can be read; what is loaded is what they say, and it passes the
check. Nothing else in the map counts. What is reported first is what keeps the options from being
read, and then what the check finds, in its own order. Settings that pass the check are loaded from
any options that spell them out and from the documents of them, and numbers that are left out of
both take their defaults. -/
theorem loads (options : Directory String String) :
    ((∃ settings, ofOptions options = .ok settings) ↔ Acceptable options) ∧
    (∀ settings, ofOptions options = .ok settings →
      Gives options settings ∧ ∃ endpoint, settings.check = .ok endpoint) ∧
    (∀ others : Directory String String,
      (∀ key : OptionKey, others.find? key.name = options.find? key.name) →
        ofOptions others = ofOptions options) ∧
    (∀ error, ofOptions options = .error error ↔
      FirstOf (readingComplaints options) error ∨
        ∃ settings, Gives options settings ∧ settings.check = .error error) ∧
    (∀ settings error, settings.check = .error error ↔
      FirstOf (checkComplaints settings) error) ∧
    ∀ (settings : Settings) (kept : NumberKey → Bool),
      (∃ endpoint, settings.check = .ok endpoint) → Spells options settings kept →
        ofOptions options = .ok (settings.keeping kept) ∧
        (∀ listed : Json.Given, listed.Perm (settings.given kept) →
          ofJson (String.ofList (Json.printGiven listed)) = .ok (settings.keeping kept)) ∧
        ((∀ key, kept key = true) →
          settings.keeping kept = settings ∧ ofJson settings.toJson = .ok settings) := by
  refine ⟨acceptable_iff, fun settings => ofOptions_eq_ok_iff.mp,
    fun others same => ofOptions_congr same, fun error => ?_,
    fun settings error => check_eq_error_iff, fun settings kept checked spells => ⟨?_, ?_, ?_⟩⟩
  · simp only [ofOptions_eq_error_iff, check_eq_error_iff]
  · exact ofOptions_of_spells checked spells
  · exact fun listed permuted => ofJson_printGiven permuted
  · intro all
    rw [funext all, keeping_all]
    exact ⟨rfl, ofJson_toJson settings⟩

/-- Options with one number are loaded, and so is a document that gives the same in another order.
-/
theorem loads_of_timeout :
    let options := Directory.ofList [("url", "grpc://localhost:8888"), ("source.id", "orders"),
      ("service.timeout", " 2500\t"), ("unknown", "")]
    let settings : Settings :=
      { url := "grpc://localhost:8888", sourceId := "orders", serviceTimeoutMs := 2500 }
    let listed : Json.Given := [("service_timeout_ms".toList, .integer 2500),
      ("source_id".toList, .text "orders".toList),
      ("url".toList, .text "grpc://localhost:8888".toList)]
    ofOptions options = .ok settings ∧
      ofJson (String.ofList (Json.printGiven listed)) = .ok settings := by
  intro options settings listed
  let kept : NumberKey → Bool := fun key => key = .serviceTimeout
  have checked : ∃ endpoint, settings.check = .ok endpoint :=
    ⟨⟨.localhost, 8888, none⟩, by decide +kernel⟩
  have spells : Spells options settings kept := by
    refine ⟨by decide, by decide, fun key keep => ?_, fun key absent => ?_⟩
    · cases of_decide_eq_true keep
      exact ⟨[' '], ['\t'], by simp [Text.isBlank, Text.blankRanges], by decide⟩
    · cases key with
      | serviceTimeout => cases absent
      | maxMessageSize => decide
      | maxMetadataSize => decide
      | shutdownWaitingTime => decide
  have permuted : listed.Perm (settings.given kept) := by decide
  have loaded := (loads options).2.2.2.2.2 settings kept checked spells
  exact ⟨loaded.1, loaded.2.1 listed permuted⟩

end Settings

end Rendezvous
