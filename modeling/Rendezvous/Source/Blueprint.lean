import Rendezvous.Ingress
import Rendezvous.Settings
import Rendezvous.Source.Error

/-!
# Building sources

A blueprint says how a source is set up. What is wrong with its settings is reported first; then a
service that is not built in has to be given, and the built-in service needs a listener.
-/

namespace Rendezvous

/-- How a source is to be set up. -/
structure Blueprint where
  settings : Settings
  /-- Who gets the events of the built-in service. -/
  listener : Option Listener := none
  /-- How transport properties are taken from a header string. -/
  extract : String → List String → Except HeaderError (List String) := QuotedList.extract
  /-- The transport properties that the listener wants, if they are to be taken from metadata. -/
  requested : Option (List String) := none
  /-- What is served instead of the built-in service. -/
  custom : Option Router := none

/-- A source that can be started. -/
structure Assembly where
  settings : Settings
  /-- Where the source is called. -/
  endpoint : Endpoint
  source : Source
  /-- What the source serves. -/
  service : Service

namespace Settings

/-- The greatest sizes that a source takes. -/
def limits (settings : Settings) : Limits :=
  ⟨settings.maxMessageSize.toNat, settings.maxMetadataSize.toNat⟩

end Settings

namespace Blueprint

/-- How transport properties are found. -/
def augmentation (blueprint : Blueprint) : Option Augmentation :=
  blueprint.requested.map fun requested => ⟨blueprint.extract, requested⟩

/-- The source of a service of its own, which takes no responses and arms no deadlines. -/
def customSource (blueprint : Blueprint) : Source where
  id := blueprint.settings.sourceId
  enabled := false
  timeout := blueprint.settings.serviceTimeout
  handler := none
  task := { phase := .dropped, schedulers := 0 }

def builtInSource (blueprint : Blueprint) (listener : Listener) : Source where
  id := blueprint.settings.sourceId
  timeout := blueprint.settings.serviceTimeout
  handler := some { augmentation := blueprint.augmentation, listener }

def build (blueprint : Blueprint) : Except SettingsError Assembly := do
  let settings := blueprint.settings
  let endpoint ← settings.check
  match blueprint.custom with
  | some router =>
      .ok { settings, endpoint, source := blueprint.customSource, service := .custom router }
  | none =>
      unless endpoint.isBuiltIn do
        .error (.unknownService endpoint.target.service endpoint.target.method)
      match blueprint.listener with
      | none => .error .missingListener
      | some listener =>
          .ok {
            settings, endpoint
            source := blueprint.builtInSource listener
            service := .builtIn endpoint.routePath }

end Blueprint

end Rendezvous
