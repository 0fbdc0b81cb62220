import Rendezvous.Proofs.CorrelationId
import Rendezvous.Source.Echo

/-!
# Transport properties of a call

The metadata of a call is rendered as a quoted list, followed by the id of the call, and transport
properties are read from that list again. Nothing is escaped on the way, so what a client sends could
change the meaning of the list. It does not: the names of header fields have no commas, colons or
capitals, and values with commas are left out, so each entry is read as it was meant
(`QuotedList.parse_joinEntries`), and the id cannot be forged (`Augmentation.properties_resolved`).
-/

namespace Rendezvous

/-! ## Entries of a quoted list -/

namespace QuotedList

/-- A name that an entry of a quoted list can have: it is not empty, and no character of it is blank,
a comma or a colon. -/
structure IsName (name : List Char) : Prop where
  nonempty : name ≠ []
  visible : ∀ character ∈ name, Text.isBlank character = false
  noComma : ',' ∉ name
  noColon : ':' ∉ name

variable {name value piece : List Char}

theorem trim_quotedEntry (name value : List Char) :
    Text.trim (Metadata.quotedEntry name value) = Metadata.quotedEntry name value :=
  Text.trim_enclosed (by decide) (by decide) (name ++ ':' :: value)

theorem inside?_enclosed (quote : Char) (inner : List Char) :
    inside? quote (quote :: (inner ++ [quote])) = some inner := by
  simp [inside?]

/-- One pair of quotes is taken off, whatever quotes there are inside it. -/
theorem unquote_quotedEntry (named : IsName name) (value : List Char) :
    unquote (Metadata.quotedEntry name value) = name ++ ':' :: Text.trimEnd value := by
  have quoted : Metadata.quotedEntry name value = '\'' :: ((name ++ ':' :: value) ++ ['\'']) := rfl
  rw [quoted, unquote, inside?_enclosed]
  cases name with
  | nil => exact absurd rfl named.nonempty
  | cons first rest =>
      have start := named.visible first List.mem_cons_self
      change Text.trimEnd (Text.trimStart (first :: (rest ++ ':' :: value))) = _
      rw [Text.trimStart_cons start]
      exact Text.trimEnd_append_cons (by decide) (first :: rest) value

/-- An entry is read as the name and the value that it was made of. -/
theorem property?_quotedEntry (named : IsName name) (value : List Char) :
    property? (unquote (Text.trim (Metadata.quotedEntry name value))) =
      .ok (some (String.ofList name, String.ofList (Text.trim value))) := by
  rw [trim_quotedEntry, unquote_quotedEntry named, property?,
    Text.splitFirst_append named.noColon]
  simp [Text.trim_of_visible named.visible, named.nonempty, Text.trim_trimEnd]

theorem addPiece_quotedEntry (named : IsName name) (value : List Char)
    (properties : Directory String String) :
    addPiece properties (Metadata.quotedEntry name value) =
      .ok (properties.put (String.ofList name) (String.ofList (Text.trim value))) := by
  rw [addPiece, property?_quotedEntry named]
  rfl

theorem addPiece_blank (properties : Directory String String) (piece : List Char) :
    addPiece properties (' ' :: piece) = addPiece properties piece := by
  rw [addPiece, addPiece, Text.trim_blank (by decide)]

/-! ## Whole lists -/

/-- Entries with a comma and a blank between them are the pieces between the commas, where all but
the first have a blank in front. -/
theorem splitOn_joinEntries {first : List Char} {rest : List (List Char)}
    (noCommas : ∀ entry ∈ first :: rest, ',' ∉ entry) :
    (Metadata.joinEntries (first :: rest)).splitOn ',' = first :: rest.map (' ' :: ·) := by
  have joined : ∀ (first : List Char) (rest : List (List Char)),
      Metadata.joinEntries (first :: rest) =
        List.intercalate [','] (first :: rest.map (' ' :: ·)) := by
    intro first rest
    induction rest generalizing first with
    | nil => rfl
    | cons second others ih =>
        have later := ih second
        rw [Metadata.joinEntries] at later ⊢
        rw [List.map_cons, List.intercalate_cons_cons, List.intercalate_cons_cons, later]
        cases others <;> simp
  rw [joined, List.splitOn_intercalate ',' _ (List.cons_ne_nil _ _)]
  refine List.forall_mem_cons.mpr ⟨noCommas first List.mem_cons_self, fun entry member => ?_⟩
  rcases List.mem_map.mp member with ⟨bare, present, rfl⟩
  rw [List.mem_cons, not_or]
  exact ⟨by decide, noCommas bare (List.mem_cons_of_mem _ present)⟩

theorem foldlM_addPiece_blank (properties : Directory String String)
    (pieces : List (List Char)) :
    (pieces.map (' ' :: ·)).foldlM addPiece properties = pieces.foldlM addPiece properties := by
  have same : (fun properties piece => addPiece properties (' ' :: piece)) = addPiece :=
    funext fun properties => funext fun piece => addPiece_blank properties piece
  rw [List.foldlM_map, same]

/-- An entry with its name and its value as texts. -/
def textual (entry : List Char × List Char) : String × String :=
  (String.ofList entry.1, String.ofList (Text.trim entry.2))

theorem foldlM_addPiece_quotedEntry {entries : List (List Char × List Char)}
    (named : ∀ entry ∈ entries, IsName entry.1) (properties : Directory String String) :
    (entries.map fun entry => Metadata.quotedEntry entry.1 entry.2).foldlM addPiece properties =
      .ok ((entries.map textual).foldl (fun directory entry => directory.put entry.1 entry.2)
        properties) := by
  induction entries generalizing properties with
  | nil => rfl
  | cons entry rest ih =>
      have here := addPiece_quotedEntry (named entry List.mem_cons_self) entry.2 properties
      rw [List.map_cons, List.foldlM_cons, here]
      exact ih (fun other member => named other (List.mem_cons_of_mem _ member)) _

/-- A list of entries without commas is read as those entries, where the last value of a name is the
one that holds. -/
theorem parse_joinEntries {entries : List (List Char × List Char)} (nonempty : entries ≠ [])
    (plain : ∀ entry ∈ entries, IsName entry.1 ∧ ',' ∉ entry.2) :
    parse (String.ofList (Metadata.joinEntries
        (entries.map fun entry => Metadata.quotedEntry entry.1 entry.2))) =
      .ok (Directory.ofList (entries.map textual)) := by
  have noCommas : ∀ piece ∈ entries.map fun entry => Metadata.quotedEntry entry.1 entry.2,
      ',' ∉ piece := by
    intro piece member
    rcases List.mem_map.mp member with ⟨entry, present, rfl⟩
    have name := (plain entry present).1.noComma
    have value := (plain entry present).2
    simp [Metadata.quotedEntry, name, value]
  rw [parse, String.toList_ofList, Directory.ofList,
    ← foldlM_addPiece_quotedEntry fun entry member => (plain entry member).1]
  cases entries with
  | nil => exact absurd rfl nonempty
  | cons entry rest =>
      rw [List.map_cons] at noCommas ⊢
      rw [splitOn_joinEntries noCommas, List.foldlM_cons, List.foldlM_cons]
      congr
      funext properties
      exact foldlM_addPiece_blank properties _

/-- Either every requested property is there, or the first one that is not is reported. -/
theorem mapM_property (properties : Directory String String) (requested : List String) :
    (∃ values, requested.mapM (property properties) = .ok values ∧
      values.map some = requested.map properties.find?) ∨
    ∃ before name after, requested = before ++ name :: after ∧
      (∀ other ∈ before, (properties.find? other).isSome = true) ∧
      properties.find? name = none ∧
      requested.mapM (property properties) = .error (.missingProperty name) := by
  induction requested with
  | nil => exact Or.inl ⟨[], rfl, rfl⟩
  | cons first rest ih =>
      cases found : properties.find? first with
      | none =>
          refine Or.inr ⟨[], first, rest, rfl, fun _ member => absurd member List.not_mem_nil,
            found, ?_⟩
          simp [property, found, bind, Except.bind]
      | some value =>
          rcases ih with ⟨values, read, all⟩ | ⟨before, name, after, rfl, there, missing, read⟩
          · refine Or.inl ⟨value :: values, ?_, by simp [found, all]⟩
            simp [property, found, read, bind, Except.bind, pure, Except.pure]
          · refine Or.inr ⟨first :: before, name, after, rfl, ?_, missing, ?_⟩
            · exact List.forall_mem_cons.mpr ⟨by rw [found]; rfl, there⟩
            · simp only [List.mapM_cons, property, found, read]
              rfl

end QuotedList

/-! ## The fields that a list can hold -/

namespace HeaderValue

/-- The characters of a value that a quoted list can hold: visible ASCII without a comma. -/
def listed? (value : HeaderValue) : Option (List Char) :=
  value.visible?.filter fun text => decide (',' ∉ text)

/-- The text that is read from a quoted list for a value. -/
def listedText? (value : HeaderValue) : Option String :=
  value.listed?.map fun text => String.ofList (Text.trim text)

theorem listed?_eq_some_iff {value : HeaderValue} {text : List Char} :
    value.listed? = some text ↔ value.visible? = some text ∧ ',' ∉ text := by
  simp [listed?, Option.filter_eq_some_iff]

end HeaderValue

namespace Metadata

variable {metadata : Metadata}

/-- A character that the name of a header field can have: it is visible ASCII and neither a comma nor
a colon. HTTP allows fewer, and has small letters only. -/
def isNameCharacter (character : Char) : Bool :=
  decide ('!' ≤ character ∧ character ≤ '~' ∧ character ≠ ',' ∧ character ≠ ':')

/-- A text that can be the name of a header field. -/
def IsHeaderName (name : String) : Prop :=
  name.toList ≠ [] ∧ ∀ character ∈ name.toList, isNameCharacter character = true

instance (name : String) : Decidable (IsHeaderName name) :=
  decidable_of_iff (name.toList ≠ [] ∧ name.toList.all isNameCharacter = true)
    (and_congr_right fun _ => List.all_eq_true)

/-- All names are names of header fields. -/
def HasHeaderNames (metadata : Metadata) : Prop :=
  ∀ name ∈ metadata.keys, IsHeaderName name

/-- The texts that are read for the values of a name that a quoted list can hold. -/
def listedTexts (metadata : Metadata) (name : String) : List String :=
  ((metadata.find? name).getD []).filterMap HeaderValue.listedText?

/-- The transport property of a name: the text of the id under its own name, and else the last text
of the header fields of the name. -/
def resolve? (metadata : Metadata) (id : CorrelationId) (name : String) : Option String :=
  if name = CorrelationId.propertyName then some id.text else (metadata.listedTexts name).getLast?

/-- A name stands for a transport property: it is the name of the id, or a header field of the name
has a value that a quoted list can hold. -/
def Offers (metadata : Metadata) (name : String) : Prop :=
  name = CorrelationId.propertyName ∨
    ∃ values, metadata.find? name = some values ∧
      ∃ value ∈ values, ∃ text, value.visible? = some text ∧ ',' ∉ text

/-- The fields that a quoted list can hold, with their values before these are trimmed. -/
def listedFields (metadata : Metadata) : List (List Char × List Char) :=
  metadata.fields.filterMap fun field => field.2.listed?.map (field.1.toList, ·)

theorem toNat_of_isNameCharacter {character : Char}
    (allowed : isNameCharacter character = true) :
    33 ≤ character.toNat ∧ character.toNat ≤ 126 ∧ character ≠ ',' ∧ character ≠ ':' := by
  rw [isNameCharacter, decide_eq_true_iff] at allowed
  exact ⟨allowed.1, allowed.2.1, allowed.2.2⟩

theorem IsHeaderName.isName {name : String} (header : IsHeaderName name) :
    QuotedList.IsName name.toList where
  nonempty := header.1
  visible character member := by
    have bounds := toNat_of_isNameCharacter (header.2 character member)
    simp only [Text.isBlank, Text.blankRanges, List.any_cons, List.any_nil, Bool.or_eq_false_iff,
      Bool.and_eq_false_iff, decide_eq_false_iff_not, Bool.or_false]
    omega
  noComma member := (toNat_of_isNameCharacter (header.2 _ member)).2.2.1 rfl
  noColon member := (toNat_of_isNameCharacter (header.2 _ member)).2.2.2 rfl

theorem isName_propertyName : QuotedList.IsName CorrelationId.propertyName.toList :=
  ⟨by decide, Text.visible_of_any (by decide), by decide, by decide⟩

theorem isNameCharacter_toLower {character : Char} (allowed : isNameCharacter character = true) :
    isNameCharacter character.toLower = true := by
  have visible : ∀ code < 127, isNameCharacter (Char.ofNat code) = true →
      isNameCharacter (Char.ofNat code).toLower = true := by decide
  have bounds := toNat_of_isNameCharacter allowed
  rw [← Char.ofNat_toNat character] at allowed ⊢
  exact visible _ (by omega) allowed

theorem IsHeaderName.lowered {name : String} (header : IsHeaderName name) :
    IsHeaderName (String.ofList (name.toList.map Char.toLower)) := by
  rw [IsHeaderName, String.toList_ofList]
  refine ⟨fun none => header.1 (List.map_eq_nil_iff.mp none), fun lowered member => ?_⟩
  rcases List.mem_map.mp member with ⟨character, present, rfl⟩
  exact isNameCharacter_toLower (header.2 character present)

/-- Metadata that is made of fields has the names of those fields. -/
theorem hasHeaderNames_ofFields {fields : List (String × HeaderValue)}
    (valid : ∀ field ∈ fields, IsHeaderName field.1) : (ofFields fields).HasHeaderNames := by
  have kept : ∀ metadata : Metadata, metadata.HasHeaderNames →
      (fields.foldl (fun metadata field => metadata.append field.1 field.2)
        metadata).HasHeaderNames := by
    induction fields with
    | nil => exact fun _ named => named
    | cons field rest ih =>
        intro metadata named
        refine ih (fun other member => valid other (List.mem_cons_of_mem _ member)) _ ?_
        intro name member
        rcases Directory.mem_keys_assign member with rfl | old
        · exact (valid field List.mem_cons_self).lowered
        · exact named name old
  exact kept Directory.empty fun _ member => absurd member List.not_mem_nil

theorem renderField_eq (field : String × HeaderValue) :
    renderField field = field.2.listed?.map (quotedEntry field.1.toList) := by
  cases visible : field.2.visible? with
  | none => simp [renderField, HeaderValue.listed?, visible]
  | some text =>
      by_cases comma : ',' ∈ text <;>
        simp [renderField, HeaderValue.listed?, visible, comma, Option.filter]

theorem renderedFields_eq (metadata : Metadata) :
    metadata.renderedFields =
      metadata.listedFields.map fun entry => quotedEntry entry.1 entry.2 := by
  rw [renderedFields, listedFields, List.map_filterMap]
  congr
  funext field
  rw [renderField_eq, Option.map_map]
  rfl

theorem mem_keys_of_mem_fields {field : String × HeaderValue} (member : field ∈ metadata.fields) :
    field.1 ∈ metadata.keys := by
  rcases List.mem_flatMap.mp member with ⟨entry, present, value⟩
  rcases List.mem_map.mp value with ⟨_, _, rfl⟩
  exact List.mem_map_of_mem present

/-- The values of a name among all fields are the values that are kept under it. -/
theorem fields_of_name (metadata : Metadata) (name : String) :
    (metadata.fields.filter fun field => decide (field.1 = name)).map Prod.snd =
      (metadata.find? name).getD [] := by
  rcases metadata with ⟨entries, distinct⟩
  simp only [fields, Directory.find?]
  induction entries with
  | nil => rfl
  | cons entry rest ih =>
      rw [List.map_cons, List.nodup_cons] at distinct
      rw [List.flatMap_cons, List.filter_append, List.map_append, ih distinct.2,
        List.filter_map, List.map_map]
      by_cases same : entry.1 = name
      · subst same
        have absent : rest.lookup entry.1 = none := by
          apply List.lookup_eq_none_iff.mpr
          intro other listed
          exact bne_iff_ne.mpr fun equal => distinct.1 (equal ▸ List.mem_map_of_mem listed)
        simp [Directory.lookup_cons, absent, Function.comp_def]
      · simp [Directory.lookup_cons, same, Function.comp_def]

theorem listedFields_of_name (metadata : Metadata) (name : String) :
    ((metadata.listedFields.map QuotedList.textual).filter fun entry =>
        decide (entry.1 = name)).map Prod.snd = metadata.listedTexts name := by
  rw [listedTexts, ← fields_of_name, listedFields]
  induction metadata.fields with
  | nil => rfl
  | cons field rest ih =>
      cases listed : field.2.listed? with
      | none =>
          by_cases same : field.1 = name <;>
            simpa [listed, same, HeaderValue.listedText?] using ih
      | some text =>
          by_cases same : field.1 = name <;>
            simpa [listed, same, HeaderValue.listedText?, QuotedList.textual] using ih

theorem HasHeaderNames.entry_of_mem_listedFields (named : metadata.HasHeaderNames)
    {entry : List Char × List Char} (member : entry ∈ metadata.listedFields) :
    QuotedList.IsName entry.1 ∧ ',' ∉ entry.2 := by
  rcases List.mem_filterMap.mp member with ⟨field, present, kept⟩
  rcases Option.map_eq_some_iff.mp kept with ⟨text, listed, rfl⟩
  exact ⟨(named field.1 (mem_keys_of_mem_fields present)).isName,
    (HeaderValue.listed?_eq_some_iff.mp listed).2⟩

/-- The properties in the header string of a call. -/
theorem parse_headerString (named : metadata.HasHeaderNames) (id : CorrelationId) :
    ∃ properties, QuotedList.parse (metadata.headerString id) = .ok properties ∧
      ∀ name, properties.find? name = metadata.resolve? id name := by
  let own := (CorrelationId.propertyName.toList, id.characters)
  have nonempty : metadata.listedFields ++ [own] ≠ [] := by simp
  have entries : ∀ entry ∈ metadata.listedFields ++ [own],
      QuotedList.IsName entry.1 ∧ ',' ∉ entry.2 := by
    intro entry member
    rcases List.mem_append.mp member with listed | last
    · exact named.entry_of_mem_listedFields listed
    · rw [List.mem_singleton.mp last]
      exact ⟨isName_propertyName, id.comma_not_mem_characters⟩
  have read := QuotedList.parse_joinEntries nonempty entries
  rw [List.map_append, List.map_singleton, ← renderedFields_eq] at read
  have text : QuotedList.textual own = (CorrelationId.propertyName, id.text) := by
    simp [QuotedList.textual, own, id.trim_characters, CorrelationId.text, String.ofList_toList]
  refine ⟨_, read, fun name => ?_⟩
  rw [Directory.find?_ofList, List.map_append, List.filter_append, List.map_append,
    listedFields_of_name, resolve?, List.map_singleton, text]
  by_cases same : name = CorrelationId.propertyName
  · subst same
    simp
  · simp [same, Ne.symm same]

theorem offers_iff (metadata : Metadata) (id : CorrelationId) (name : String) :
    metadata.Offers name ↔ (metadata.resolve? id name).isSome = true := by
  rw [Offers, resolve?]
  by_cases same : name = CorrelationId.propertyName
  · simp [same]
  · rw [if_neg same, List.getLast?_isSome, or_iff_right same]
    cases found : metadata.find? name with
    | none => simp [listedTexts, found]
    | some values =>
        simp [listedTexts, found, List.filterMap_eq_nil_iff, HeaderValue.listedText?,
          Option.ne_none_iff_exists', HeaderValue.listed?_eq_some_iff]

end Metadata

namespace Augmentation

/-- The transport properties of a call, for any metadata with names of header fields. Taking them
never fails because of what the client sent, but only for a requested name that stands for no
property, and then the first such name is reported; otherwise every requested name gets its own
property. -/
theorem properties_resolved {metadata : Metadata} (named : metadata.HasHeaderNames)
    (id : CorrelationId) (requested : List String) :
    let properties := (quoted requested).properties metadata id
    (∀ entry, properties ≠ .error (.malformed entry)) ∧
    ((∃ values, properties = .ok values) ↔ ∀ name ∈ requested, metadata.Offers name) ∧
    (∀ values, properties = .ok values →
      values.map some = requested.map (metadata.resolve? id)) ∧
    ∀ error, properties = .error error →
      ∃ before name after, requested = before ++ name :: after ∧
        (∀ other ∈ before, metadata.Offers other) ∧ ¬metadata.Offers name ∧
          error = .missingProperty name := by
  intro properties
  rcases Metadata.parse_headerString named id with ⟨directory, parsed, found⟩
  have resolved : directory.find? = metadata.resolve? id := funext found
  have read : properties = requested.mapM (QuotedList.property directory) := by
    change QuotedList.extract (metadata.headerString id) requested = _
    rw [QuotedList.extract, parsed]
    rfl
  rcases QuotedList.mapM_property directory requested with
    ⟨values, success, all⟩ | ⟨before, name, after, parts, there, missing, failure⟩
  · rw [← read] at success
    rw [resolved] at all
    refine ⟨by simp [success], ⟨fun _ name member => ?_, fun _ => ⟨values, success⟩⟩, ?_, ?_⟩
    · rw [metadata.offers_iff id]
      have listed : metadata.resolve? id name ∈ values.map some := by
        rw [all]
        exact List.mem_map_of_mem member
      rcases List.mem_map.mp listed with ⟨value, _, same⟩
      rw [← same]
      rfl
    · intro others also
      rw [success] at also
      cases also
      exact all
    · intro error failed
      rw [success] at failed
      cases failed
  · rw [← read] at failure
    rw [resolved] at there missing
    have absent : ¬metadata.Offers name := by
      rw [metadata.offers_iff id, missing]
      exact Bool.false_ne_true
    refine ⟨by simp [failure], ⟨fun success => ?_, fun offered => ?_⟩, ?_, ?_⟩
    · rcases success with ⟨values, success⟩
      rw [failure] at success
      cases success
    · exact absurd (offered name (by simp [parts])) absent
    · intro values success
      rw [failure] at success
      cases success
    · intro error failed
      rw [failure] at failed
      cases failed
      exact ⟨before, name, after, parts,
        fun other member => (metadata.offers_iff id other).mpr (there other member), absent, rfl⟩

/-- A client sends names with quotes and an id of its own making. -/
theorem properties_resolved_of_forged_id :
    let metadata := Metadata.ofFields [("X-'Tag'", .ofString " a:b' "), ("MessageId", .ofString "1"),
      ("x", .ofString "'messageId:2'"), ("X", .ofString "3, 'messageId:4'")]
    let properties := (quoted ["x", "messageId", "x-'tag'", "messageid"]).properties metadata ⟨7⟩
    metadata.HasHeaderNames ∧ properties = .ok
      ["'messageId:2'", "00000000-0000-0000-0000-000000000007", "a:b'", "1"] := by
  intro metadata properties
  have named : metadata.HasHeaderNames := Metadata.hasHeaderNames_ofFields (by decide)
  have resolved := properties_resolved named ⟨7⟩ ["x", "messageId", "x-'tag'", "messageid"]
  have offered : ∀ name ∈ ["x", "messageId", "x-'tag'", "messageid"], metadata.Offers name := by
    simp only [metadata.offers_iff ⟨7⟩]
    decide +kernel
  rcases resolved.2.1.mpr offered with ⟨values, read⟩
  have texts : values.map some = ["'messageId:2'", "00000000-0000-0000-0000-000000000007", "a:b'",
      "1"].map some := (resolved.2.2.1 values read).trans (by decide +kernel)
  have same := (List.map_inj_right fun _ _ equal => Option.some.inj equal).mp texts
  exact ⟨named, read.trans (congrArg Except.ok same)⟩

end Augmentation

end Rendezvous
