import Rendezvous.Source

/-!
# Listeners that answer at once

A listener that answers has to know under which id an event was accepted. Without augmentation the
id is the only transport property; with it the id is the property that was requested under its name,
or the last entry of the header string if that is handed on whole.
-/

namespace Rendezvous

/-- Where the id of a call stands in its event. -/
inductive IdPlace
  /-- It is the property of the given number. -/
  | property (index : Nat)
  /-- It is the last entry of a header string, which is the first property. -/
  | headerString
  /-- It is not there. -/
  | nowhere
deriving DecidableEq, Repr

namespace IdPlace

/-- The place of the id among properties that were requested. -/
def amongRequested (requested : List String) : IdPlace :=
  match requested.findIdx? (· == CorrelationId.propertyName) with
  | some index => .property index
  | none => .nowhere

/-- The number of characters of an id. -/
def idLength : Nat :=
  36

/-- The text of the id that stands at a place of an event. -/
def text? (place : IdPlace) (event : Event) : Option String :=
  match place with
  | .property index => event.properties[index]?
  | .headerString =>
      event.properties.head?.map fun headers =>
        String.ofList ((headers.toList.reverse.drop 1).take idLength).reverse
  | .nowhere => none

end IdPlace

namespace Augmentation

/-- The augmentation that hands on the whole header string, followed by the requested names. -/
def whole (requested : List String) : Augmentation :=
  ⟨fun headers names => .ok (headers :: names), requested⟩

/-- The augmentation that takes the requested properties from a quoted list. -/
def quoted (requested : List String) : Augmentation :=
  ⟨QuotedList.extract, requested⟩

end Augmentation

namespace Listener

/-- The listener that answers each event a number of times, with the number of the answer before the
payload. -/
def echoing (source : SourceName) (place : IdPlace) (times : Nat) : Listener where
  reactions event := (List.range times).map fun number =>
    .textual source ((place.text? event).getD "")
      ("echo" ++ String.ofList (Text.showNatural number) ++ ":" ++ event.payload)

end Listener

end Rendezvous
