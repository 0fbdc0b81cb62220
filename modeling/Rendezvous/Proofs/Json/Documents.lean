import Rendezvous.Proofs.CorrelationId
import Rendezvous.Proofs.Settings.Loading

/-!
# Documents on the wire are read as they are written

Settings, messages, status bodies and ids are read back from their own documents, whatever characters
and numbers are in them. Others may write the documents of the first three in their own way, with
white space, escapes, unknown members and in any order: what they list is what is read
(`Json.documents_read_as_listed`). Settings have defaults for what is not listed, messages and status
bodies have none, and a document that lists a field twice is never read.
-/

namespace Rendezvous

namespace Json

variable {value : FieldValue} {least greatest : Int}

theorem FieldKind.exists_text (admits : FieldKind.text.Admits value) :
    ∃ characters, value = .text characters := by
  cases value with
  | text characters => exact ⟨characters, rfl⟩
  | integer number => cases admits

theorem FieldKind.exists_integer (admits : (FieldKind.integer least greatest).Admits value) :
    ∃ number, value = .integer number ∧ least ≤ number ∧ number ≤ greatest := by
  cases value with
  | text characters => cases admits
  | integer number => exact ⟨number, rfl, admits.1, admits.2.1⟩

/-- What a document lists under the name of a field, the field can hold. -/
theorem Gives.admits {fields : List Field} {members : List Member} {given : Given}
    (gives : Gives fields members given) (distinct : (given.map Prod.fst).Nodup)
    {name : List Char} {kind : FieldKind} {default : Option FieldValue}
    (found : (fields.find? fun field => field.name == name) = some ⟨name, kind, default⟩)
    (listed : given.lookup name = some value) : kind.Admits value := by
  have member := (Directory.lookup_eq_some_iff distinct).mp listed
  rcases gives.holds _ member with ⟨field, same, admits⟩
  cases found.symm.trans same
  exact admits

end Json

open Json

variable {members : List Json.Member} {given : Given} {document : String}

/-! ## Settings -/

/-- The field that holds an option in a document. -/
def OptionKey.fieldName : OptionKey → String
  | .url => "url"
  | .sourceId => "source_id"
  | .maxMessageSize => "max_inbound_message_size"
  | .maxMetadataSize => "max_inbound_metadata_size"
  | .serviceTimeout => "service_timeout_ms"
  | .shutdownWaitingTime => "server_shutdown_waiting_time"

def OptionKey.fieldKind : OptionKey → FieldKind
  | .url | .sourceId => .text
  | _ => Settings.numberKind

namespace Settings

/-- The value of the field that holds an option. -/
def fieldValue (settings : Settings) : OptionKey → FieldValue
  | .url => .text settings.url.toList
  | .sourceId => .text settings.sourceId.toList
  | .maxMessageSize => .integer settings.maxMessageSize.toNat
  | .maxMetadataSize => .integer settings.maxMetadataSize.toNat
  | .serviceTimeout => .integer settings.serviceTimeoutMs.toNat
  | .shutdownWaitingTime => .integer settings.shutdownWaitingTime.toNat

/-- The field that holds an option. It takes the default of the option. -/
def field (key : OptionKey) : Field :=
  ⟨key.fieldName.toList, key.fieldKind, some (({} : Settings).fieldValue key)⟩

theorem fields_eq : fields = OptionKey.all.map field :=
  rfl

theorem find?_field (key : OptionKey) :
    (fields.find? fun other => other.name == (field key).name) = some (field key) := by
  cases key <;> rfl

/-- What is listed for an option, or its default. -/
def listed (given : Given) (key : OptionKey) : FieldValue :=
  (given.lookup key.fieldName.toList).getD (({} : Settings).fieldValue key)

/-- Each field can hold the values of its option, the default among them. -/
theorem admits_fieldValue (settings : Settings) (key : OptionKey) :
    key.fieldKind.Admits (settings.fieldValue key) := by
  have number : ∀ number : UInt64, numberKind.Admits (.integer number.toNat) := by
    intro number
    have bound := number.toNat_lt
    refine ⟨?_, ?_, ?_⟩
    · omega
    · simp [UInt64.size]
      omega
    · simp [UInt64.size]
      omega
  cases key with
  | url => trivial
  | sourceId => trivial
  | maxMessageSize => exact number _
  | maxMetadataSize => exact number _
  | serviceTimeout => exact number _
  | shutdownWaitingTime => exact number _

/-- Settings hold any values that their fields can hold. -/
theorem exists_ofValues {values : OptionKey → FieldValue}
    (admits : ∀ key : OptionKey, key.fieldKind.Admits (values key)) :
    ∃ settings, ofValues (OptionKey.all.map values) = .ok settings ∧
      ∀ key, settings.fieldValue key = values key := by
  have number : ∀ value, numberKind.Admits value →
      FieldValue.integer (ofFieldNumber value).toNat = value := by
    intro value admitted
    rcases FieldKind.exists_integer admitted with ⟨number, rfl, least, greatest⟩
    have small : number.toNat < UInt64.size := by omega
    rw [ofFieldNumber, FieldValue.number, UInt64.toNat_ofNat_of_lt' small, Int.toNat_of_nonneg least]
  have text : ∀ value, FieldKind.text.Admits value →
      FieldValue.text (String.ofList value.characters).toList = value := by
    intro value admitted
    rcases FieldKind.exists_text admitted with ⟨characters, rfl⟩
    rw [String.toList_ofList, FieldValue.characters]
  refine ⟨_, rfl, fun key => ?_⟩
  cases key with
  | url => exact text _ (admits .url)
  | sourceId => exact text _ (admits .sourceId)
  | maxMessageSize => exact number _ (admits .maxMessageSize)
  | maxMetadataSize => exact number _ (admits .maxMetadataSize)
  | serviceTimeout => exact number _ (admits .serviceTimeout)
  | shutdownWaitingTime => exact number _ (admits .shutdownWaitingTime)

/-- A document is read as the settings that it lists, with the defaults of the other options. -/
theorem ofJson_of_gives (written : DocumentText members document.toList)
    (gives : Json.Gives fields members given) (distinct : (given.map Prod.fst).Nodup) :
    ∃ settings, ofJson document = .ok settings ∧
      ∀ key, settings.fieldValue key = listed given key := by
  have admits : ∀ key : OptionKey, key.fieldKind.Admits (listed given key) := by
    intro key
    rw [listed]
    cases found : given.lookup key.fieldName.toList with
    | none => exact admits_fieldValue {} key
    | some value => exact gives.admits distinct (find?_field key) found
  have collected : ∀ keys : List OptionKey,
      collect (keys.map field) given = .ok (keys.map (listed given)) := by
    intro keys
    induction keys with
    | nil => rfl
    | cons key keys ih => exact collect_cons_of_value (Field.value_of_default rfl) ih
  rcases exists_ofValues admits with ⟨settings, made, same⟩
  have read := readWholeText_of_collected ofValues written gives distinct
    (fields_eq ▸ collected OptionKey.all)
  exact ⟨settings, read.trans made, same⟩

end Settings

/-! ## Messages -/

namespace EventMessage

/-- A document is read as the message whose payload it lists. -/
theorem ofJson_of_gives (written : DocumentText members document.toList)
    (gives : Gives fields members given) (distinct : (given.map Prod.fst).Nodup)
    {payload : FieldValue} (listed : given.lookup "payload".toList = some payload) :
    ∃ message, ofJson document = .ok message ∧ payload = .text message.payload.toList := by
  have collected : collect fields given = .ok [payload] :=
    collect_cons_of_value (Field.value_of_listed listed) rfl
  rcases FieldKind.exists_text (gives.admits distinct rfl listed) with ⟨characters, rfl⟩
  have read := readWholeText_of_collected ofValues written gives distinct collected
  exact ⟨⟨String.ofList characters⟩, read, by rw [String.toList_ofList]⟩

theorem ofJson_of_missing (written : DocumentText members document.toList)
    (gives : Gives fields members given) (distinct : (given.map Prod.fst).Nodup)
    (missing : given.lookup "payload".toList = none) : ∃ fault, ofJson document = .error fault :=
  readWholeText_of_missing ofValues written gives distinct List.mem_cons_self rfl missing

/-- What the document of a message gives. -/
def contents (message : EventMessage) : Given :=
  [("payload".toList, .text message.payload.toList)]

theorem printGiven_contents (message : EventMessage) :
    printGiven message.contents = message.printJson := by
  simp [printGiven, contents, printJson, FieldValue.print]

theorem holds_contents (message : EventMessage) : ∀ member ∈ message.contents, Holds fields member :=
  List.forall_mem_singleton.mpr ⟨_, rfl, trivial⟩

theorem ofJson_toJson (message : EventMessage) : ofJson message.toJson = .ok message := by
  have written : DocumentText (printed message.contents) message.toJson.toList := by
    rw [toJson, String.toList_ofList, ← printGiven_contents]
    exact documentText_printGiven _
  have distinct : (message.contents.map Prod.fst).Nodup := by
    simp [contents]
  rcases ofJson_of_gives written (gives_printed message.holds_contents) distinct rfl with
    ⟨⟨payload⟩, read, same⟩
  cases String.toList_inj.mp (FieldValue.text.inj same)
  exact read

end EventMessage

/-! ## Bodies of failed calls -/

namespace StatusBody

/-- A document is read as the body whose code and message it lists. -/
theorem ofJson_of_gives (written : DocumentText members document.toList)
    (gives : Gives fields members given) (distinct : (given.map Prod.fst).Nodup)
    {code message : FieldValue} (listedCode : given.lookup "code".toList = some code)
    (listedMessage : given.lookup "message".toList = some message) :
    ∃ body, ofJson document = .ok body ∧ code = .integer body.code.toInt ∧
      message = .text body.message.toList := by
  have collected : collect fields given = .ok [code, message] :=
    collect_cons_of_value (Field.value_of_listed listedCode)
      (collect_cons_of_value (Field.value_of_listed listedMessage) rfl)
  have admits : (FieldKind.integer Int32.minValue.toInt Int32.maxValue.toInt).Admits code :=
    gives.admits distinct rfl listedCode
  rcases FieldKind.exists_integer admits with ⟨number, rfl, least, greatest⟩
  rcases FieldKind.exists_text (gives.admits distinct rfl listedMessage) with ⟨characters, rfl⟩
  have whole : (Int32.ofInt number).toInt = number :=
    Int32.toInt_ofInt_of_le least (Int.lt_add_one_of_le greatest)
  have read := readWholeText_of_collected ofValues written gives distinct collected
  exact ⟨⟨Int32.ofInt number, String.ofList characters⟩, read, by rw [whole],
    by rw [String.toList_ofList]⟩

theorem ofJson_of_missing (written : DocumentText members document.toList)
    (gives : Gives fields members given) (distinct : (given.map Prod.fst).Nodup)
    (missing : given.lookup "code".toList = none ∨ given.lookup "message".toList = none) :
    ∃ fault, ofJson document = .error fault := by
  rcases missing with code | message
  · exact readWholeText_of_missing ofValues written gives distinct List.mem_cons_self rfl code
  · exact readWholeText_of_missing ofValues written gives distinct
      (List.mem_cons_of_mem _ List.mem_cons_self) rfl message

/-- What the document of a body gives. -/
def contents (body : StatusBody) : Given :=
  [("code".toList, .integer body.code.toInt), ("message".toList, .text body.message.toList)]

theorem printGiven_contents (body : StatusBody) : printGiven body.contents = body.printJson := by
  simp [printGiven, contents, printJson, FieldValue.print]

theorem holds_contents (body : StatusBody) : ∀ member ∈ body.contents, Holds fields member := by
  have least := body.code.minValue_le_toInt
  have greatest := body.code.toInt_le
  refine List.forall_mem_cons.mpr ⟨⟨_, rfl, least, greatest, ?_⟩, ?_⟩
  · rw [Int32.toInt_minValue] at least
    have bound := body.code.toInt_lt
    simp only [UInt64.size]
    omega
  · exact List.forall_mem_singleton.mpr ⟨_, rfl, trivial⟩

theorem ofJson_toJson (body : StatusBody) : ofJson body.toJson = .ok body := by
  have written : DocumentText (printed body.contents) body.toJson.toList := by
    rw [toJson, String.toList_ofList, ← printGiven_contents]
    exact documentText_printGiven _
  have distinct : (body.contents.map Prod.fst).Nodup := by
    simp [contents]
  rcases ofJson_of_gives written (gives_printed body.holds_contents) distinct rfl rfl with
    ⟨⟨code, message⟩, read, sameCode, sameMessage⟩
  cases Int32.toInt_inj.mp (FieldValue.integer.inj sameCode)
  cases String.toList_inj.mp (FieldValue.text.inj sameMessage)
  exact read

end StatusBody

/-! ## Ids -/

namespace CorrelationId

theorem ofJson_toJson (id : CorrelationId) : ofJson id.toJson = .ok id := by
  have parsed : parseExact? id.characters = some id := by
    have parsed := id.parse?_text
    rwa [parse?, text, String.toList_ofList, trim_characters] at parsed
  have read := readString_string id.characters []
  rw [List.append_nil] at read
  rw [ofJson, toJson, String.toList_ofList, printJson, readWholeText, readJson, read]
  simp [parsed, bind, Except.bind, skipSpace]

end CorrelationId

/-! ## All documents -/

/-- Settings, messages, status bodies and ids are read back from their own documents. Any document
that lists some fields, each at most once, is read as what it lists, whatever else is in it: settings
take defaults for the rest, and a message or a status body is refused if it misses a field. A document
that lists a field twice is refused. -/
theorem Json.documents_read_as_listed :
    ((∀ settings : Settings, Settings.ofJson settings.toJson = .ok settings) ∧
      (∀ message : EventMessage, EventMessage.ofJson message.toJson = .ok message) ∧
      (∀ body : StatusBody, StatusBody.ofJson body.toJson = .ok body) ∧
      ∀ id : CorrelationId, CorrelationId.ofJson id.toJson = .ok id) ∧
    (∀ (members : List Json.Member) (given : Given) (document : String),
      DocumentText members document.toList → (given.map Prod.fst).Nodup →
        (Gives Settings.fields members given →
          ∃ settings, Settings.ofJson document = .ok settings ∧
            ∀ key, settings.fieldValue key = Settings.listed given key) ∧
        (Gives EventMessage.fields members given →
          (∀ payload, given.lookup "payload".toList = some payload →
            ∃ message, EventMessage.ofJson document = .ok message ∧
              payload = .text message.payload.toList) ∧
          (given.lookup "payload".toList = none →
            ∃ fault, EventMessage.ofJson document = .error fault)) ∧
        (Gives StatusBody.fields members given →
          (∀ code message, given.lookup "code".toList = some code →
            given.lookup "message".toList = some message →
              ∃ body, StatusBody.ofJson document = .ok body ∧ code = .integer body.code.toInt ∧
                message = .text body.message.toList) ∧
          (given.lookup "code".toList = none ∨ given.lookup "message".toList = none →
            ∃ fault, StatusBody.ofJson document = .error fault))) ∧
    ∀ (members : List Json.Member) (document : String) (name : List Char),
      DocumentText members document.toList → 2 ≤ (members.map Json.Member.name).count name →
        ((∃ field ∈ Settings.fields, field.name = name) →
          ∃ fault, Settings.ofJson document = .error fault) ∧
        ((∃ field ∈ EventMessage.fields, field.name = name) →
          ∃ fault, EventMessage.ofJson document = .error fault) ∧
        ((∃ field ∈ StatusBody.fields, field.name = name) →
          ∃ fault, StatusBody.ofJson document = .error fault) := by
  refine ⟨⟨Settings.ofJson_toJson, EventMessage.ofJson_toJson, StatusBody.ofJson_toJson,
    CorrelationId.ofJson_toJson⟩, ?_, ?_⟩
  · intro members given document written distinct
    refine ⟨fun gives => ?_, fun gives => ⟨fun payload listed => ?_, fun missing => ?_⟩,
      fun gives => ⟨fun code message listedCode listedMessage => ?_, fun missing => ?_⟩⟩
    · exact Settings.ofJson_of_gives written gives distinct
    · exact EventMessage.ofJson_of_gives written gives distinct listed
    · exact EventMessage.ofJson_of_missing written gives distinct missing
    · exact StatusBody.ofJson_of_gives written gives distinct listedCode listedMessage
    · exact StatusBody.ofJson_of_missing written gives distinct missing
  · intro members document name written twice
    refine ⟨fun known => ?_, fun known => ?_, fun known => ?_⟩
    · exact readWholeText_of_repeated Settings.ofValues written known twice
    · exact readWholeText_of_repeated EventMessage.ofValues written known twice
    · exact readWholeText_of_repeated StatusBody.ofValues written known twice

/-- A document that is read in three ways, with escaped names and characters, a lone surrogate where
nobody looks, and the greatest number; and one that lists a field under two spellings of its name. -/
theorem Json.documents_read_as_listed_of_disorder :
    let document := " \x7b\"m\\u0065ssage\" : \"\\ud83d\\ude00\",\"note\":[ null,\"\\ud800\"]," ++
      "\"service_timeout_ms\":18446744073709551615,\"code\":-7\x7d"
    let repeated := "\x7b\"code\":1,\"cod\\u0065\":2\x7d"
    (∃ settings, Settings.ofJson document = .ok settings ∧
      settings.fieldValue .serviceTimeout = .integer 18446744073709551615 ∧
      settings.fieldValue .maxMessageSize = .integer 4194304) ∧
    (∃ fault, EventMessage.ofJson document = .error fault) ∧
    (∃ body, StatusBody.ofJson document = .ok body ∧
      FieldValue.integer (-7) = .integer body.code.toInt ∧
      FieldValue.text ['😀'] = .text body.message.toList) ∧
    ∃ fault, StatusBody.ofJson repeated = .error fault := by
  intro document repeated
  have nothing : Spaces [] := by simp [Spaces]
  have blank : Spaces [' '] := by simp [Spaces, isSpace]
  have high : CodeUnit "d83d".toList (0xD800 + 0x3D) := ⟨rfl, List.all_eq_true.mp rfl, by decide⟩
  have low : CodeUnit "de00".toList (0xDC00 + 0x200) := ⟨rfl, List.all_eq_true.mp rfl, by decide⟩
  have lone : CodeUnit "d800".toList 0xD800 := ⟨rfl, List.all_eq_true.mp rfl, by decide⟩
  have letter : CodeUnit "0065".toList 'e'.toNat := ⟨rfl, List.all_eq_true.mp rfl, by decide⟩
  have face : Spells _ ['😀'] := .pair high low (by decide) (by decide) .nil
  -- The members as they stand in the first document.
  let message : Json.Member := ⟨"message".toList, "\"\\ud83d\\ude00\"".toList⟩
  have messageText : MemberText message _ :=
    .mk nothing (((spells_escape "ssage".toList).unit letter).escape 'm') blank blank
      (.string (body_of_spells face)) nothing
  let note : Json.Member := ⟨"note".toList, "[ null,\"\\ud800\"]".toList⟩
  have noteText : MemberText note _ :=
    .mk nothing (spells_escape "note".toList) nothing nothing
      (.array (.elements blank nothing (.word List.mem_cons_self)
        (.element nothing nothing (.string (.unit lone .nil))))) nothing
  let greatest : FieldValue := .integer 18446744073709551615
  let timeout : Json.Member := ⟨"service_timeout_ms".toList, greatest.print⟩
  have timeoutText : MemberText timeout _ :=
    memberText_print ("service_timeout_ms".toList, greatest)
  let code : Json.Member := ⟨"code".toList, FieldValue.print (.integer (-7))⟩
  have codeText : MemberText code _ := memberText_print ("code".toList, .integer (-7))
  let members := [message, note, timeout, code]
  have written := DocumentText.mk blank (.filled (.more messageText (.more noteText
    (.more timeoutText (.last codeText))))) nothing
  have written : DocumentText members document.toList :=
    (congrArg (DocumentText _) (by decide +kernel)).mpr written
  -- Each record finds its own fields among the members.
  have read := documents_read_as_listed.2.1 members
  have holdsTimeout : Holds Settings.fields ("service_timeout_ms".toList, greatest) :=
    ⟨_, rfl, by decide, by decide, by decide⟩
  have settingsGiven : Gives Settings.fields members [("service_timeout_ms".toList, greatest)] :=
    .unknown (by decide) (.unknown (by decide) (.known holdsTimeout greatest.writes_print
      (.unknown (by decide) .nil)))
  have nothingGiven : Gives EventMessage.fields members [] :=
    .unknown (by decide) (.unknown (by decide) (.unknown (by decide) (.unknown (by decide) .nil)))
  have holdsCode : Holds StatusBody.fields ("code".toList, .integer (-7)) :=
    ⟨_, rfl, by decide, by decide, by decide⟩
  have bodyGiven : Gives StatusBody.fields members
      [("message".toList, .text ['😀']), ("code".toList, .integer (-7))] :=
    .known ⟨_, rfl, trivial⟩ (.text face) (.unknown (by decide) (.unknown (by decide)
      (.known holdsCode (FieldValue.writes_print _) .nil)))
  rcases (read _ document written (by decide)).1 settingsGiven with ⟨settings, made, values⟩
  have refused := ((read _ document written (by decide)).2.1 nothingGiven).2 rfl
  have body := ((read _ document written (by decide)).2.2 bodyGiven).1 _ _ rfl rfl
  -- The second name is the first one with its last letter as an escape.
  let first : Json.Member := ⟨"code".toList, FieldValue.print (.integer 1)⟩
  let second : Json.Member := ⟨"code".toList, FieldValue.print (.integer 2)⟩
  have secondText : MemberText second _ :=
    .mk nothing ((((Spells.nil.unit letter).escape 'd').escape 'o').escape 'c') nothing nothing
      (FieldValue.written_print (.integer 2)) nothing
  have twice := DocumentText.mk nothing (.filled (.more
    (memberText_print ("code".toList, .integer 1)) (.last secondText))) nothing
  have twice : DocumentText [first, second] repeated.toList :=
    (congrArg (DocumentText _) (by decide +kernel)).mpr twice
  have conflict := (documents_read_as_listed.2.2 _ repeated "code".toList twice (by decide)).2.2
    ⟨_, List.mem_cons_self, rfl⟩
  exact ⟨⟨settings, made, values .serviceTimeout, values .maxMessageSize⟩, refused, body, conflict⟩

end Rendezvous
