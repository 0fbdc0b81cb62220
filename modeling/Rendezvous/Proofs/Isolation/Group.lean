import Rendezvous.Proofs.Occurrence.Frame

/-!
# Groups of sources

Some of the sources that share a registry and a clock form a group. An exchange fits the group if
its sources and its registry keep the ids of the group apart from the others. Whatever happens, an
exchange goes on fitting (`Group.Fits.perform`).
-/

namespace Rendezvous

/-- A group of sources, with the ids under which they register. -/
structure Group where
  member : SourceName → Bool
  owns : String → Bool

namespace Group

/-- Whether a dispatch goes to a source of the group. -/
def receives (group : Group) : Dispatch → Bool
  | .typed source _ _ => group.member source
  | .textual source _ _ => group.member source
  | .registered sourceId _ _ => group.owns sourceId

/-- Whether an action concerns the group. Time passes for all sources. -/
def concerns (group : Group) : Action → Bool
  | .advance _ => true
  | .dispatch attempt => group.receives attempt
  | .deregister sourceId => group.owns sourceId
  | .handle source _ _ _ => group.member source
  | .echo source => group.member source
  | .insert source _ => group.member source
  | .arm source _ => group.member source
  | .withdraw source _ => group.member source
  | .resolve source _ _ => group.member source
  | .drop source _ => group.member source
  | .hangUp source _ => group.member source
  | .poll source _ => group.member source
  | .spawn source => group.member source
  | .abandonTask source => group.member source
  | .close source => group.member source
  | .receive source => group.member source
  | .fire source => group.member source
  | .stopAccepting source => group.member source
  | .finish source => group.member source
  | .register source => group.member source

/-- An exchange in which the sources of the group have the ids of the group and the others have not,
and in which only sources of the group are registered under its ids. -/
structure Fits (group : Group) (exchange : Exchange) : Prop where
  ids : ∀ name source, exchange.sources.find? name = some source →
    group.owns source.id = group.member name
  /-- What is registered under an id of the group is a source of the group. -/
  registered : ∀ sourceId name, exchange.registry.find? sourceId = some name →
    group.owns sourceId = group.member name

variable {group : Group} {exchange : Exchange} {name other : SourceName}

theorem Fits.setSource (fits : group.Fits exchange) {source changed : Source}
    (found : exchange.sources.find? other = some source) (same : changed.id = source.id) :
    group.Fits (exchange.setSource other changed) where
  ids name state present := by
    rw [Exchange.find?_setSource] at present
    split at present
    · rename_i here
      cases present
      rw [here, same]
      exact fits.ids other source found
    · exact fits.ids name state present
  registered := fits.registered

end Group

/-! ## What an action does to the registry -/

namespace Exchange

/-- The registry after an action. -/
def registryAfter (exchange : Exchange) : Action → Registry
  | .register name =>
      match exchange.sources.find? name with
      | none => exchange.registry
      | some source =>
          if exchange.registry.contains source.id then exchange.registry
          else exchange.registry.put source.id name
  | .deregister sourceId => exchange.registry.erase sourceId
  | _ => exchange.registry

@[simp]
theorem registry_setSource (exchange : Exchange) (name : SourceName) (source : Source) :
    (exchange.setSource name source).registry = exchange.registry :=
  rfl

theorem registry_changeSource (exchange : Exchange) (name : SourceName)
    (change : Source → Source) :
    (exchange.changeSource name change).registry = exchange.registry := by
  cases found : exchange.sources.find? name <;> simp [changeSource, found, setSource]

theorem registry_onSource (exchange : Exchange) (name : SourceName)
    (act : Source → Source × Notice) :
    (exchange.onSource name act).1.registry = exchange.registry := by
  cases found : exchange.sources.find? name <;> simp [onSource, found, setSource]

theorem registry_dispatchAll (exchange : Exchange) (attempts : List Dispatch) :
    (exchange.dispatchAll attempts).1.registry = exchange.registry := by
  induction attempts generalizing exchange with
  | nil => rfl
  | cons attempt rest ih =>
      exact (ih (exchange.dispatch attempt).1).trans (exchange.dispatch_registry attempt)

theorem registry_notify (exchange : Exchange) (name : SourceName) (listener : Listener)
    (event : Event) : (exchange.notify name listener event).1.registry = exchange.registry :=
  (registry_changeSource _ name _).trans (exchange.registry_dispatchAll _)

theorem registry_handle (exchange : Exchange) (name : SourceName) (payload : String)
    (metadata : Metadata) (id : CorrelationId) :
    (exchange.perform (.handle name payload metadata id)).1.registry = exchange.registry := by
  cases found : exchange.sources.find? name with
  | none => simp [perform, handle?, found]
  | some source =>
      cases handled : source.handler with
      | none => simp [perform, handle?, found, handled]
      | some handler =>
          cases accepted : source.accept handler exchange.now payload metadata id with
          | mk changed event =>
              cases event with
              | none => simp [perform, handle?, found, handled, accepted, setSource]
              | some event =>
                  simpa [perform, handle?, found, handled, accepted] using
                    (exchange.setSource name changed).registry_notify name handler.listener event

theorem registry_echoOldest (exchange : Exchange) (name : SourceName) :
    (exchange.echoOldest name).registry = exchange.registry := by
  cases found : exchange.sources.find? name with
  | none => simp [echoOldest, found]
  | some source =>
      cases taken : source.takeEvent? with
      | none => simp [echoOldest, found, taken]
      | some oldest =>
          cases response : echo? source.id oldest.1 with
          | none => simp [echoOldest, found, taken, response, setSource]
          | some attempt =>
              simpa [echoOldest, found, taken, response] using
                (exchange.setSource name oldest.2).dispatch_registry attempt

theorem registry_perform (exchange : Exchange) (action : Action) :
    (exchange.perform action).1.registry = exchange.registryAfter action := by
  cases action with
  | handle name payload metadata id => exact exchange.registry_handle name payload metadata id
  | dispatch attempt => exact exchange.dispatch_registry attempt
  | echo name => exact exchange.registry_echoOldest name
  | register name =>
      cases found : exchange.sources.find? name with
      | none => simp [perform, registryAfter, found]
      | some source =>
          cases taken : exchange.registry.contains source.id <;>
            simp [perform, registryAfter, found, register, Registry.register, taken]
  | deregister sourceId => rfl
  | advance duration => rfl
  | _ => exact exchange.registry_onSource _ _

end Exchange

namespace Group

variable {group : Group} {exchange : Exchange} {name : SourceName}

theorem Fits.registryAfter (fits : group.Fits exchange) (action : Action) (sourceId : String)
    (name : SourceName) (found : (exchange.registryAfter action).find? sourceId = some name) :
    group.owns sourceId = group.member name := by
  cases action with
  | register other =>
      cases present : exchange.sources.find? other with
      | none =>
          simp only [Exchange.registryAfter, present] at found
          exact fits.registered sourceId name found
      | some source =>
          simp only [Exchange.registryAfter, present] at found
          split at found
          · exact fits.registered sourceId name found
          · rw [Directory.find?_put] at found
            split at found
            · rename_i same
              rw [same, ← Option.some.inj found]
              exact fits.ids other source present
            · exact fits.registered sourceId name found
  | deregister removed =>
      rw [Exchange.registryAfter, Directory.find?_erase] at found
      split at found
      · cases found
      · exact fits.registered sourceId name found
  | _ => exact fits.registered sourceId name found

/-- An exchange goes on fitting, whatever happens. -/
theorem Fits.perform (fits : group.Fits exchange) (action : Action) :
    group.Fits (exchange.perform action).1 where
  ids name source found := by
    have law := exchange.follows_perform name action
    rw [Exchange.Follows, Exchange.snapshot?, found, Option.map_some] at law
    rcases Option.map_eq_some_iff.mp law.symm with ⟨snapshot, was, after⟩
    rcases Option.map_eq_some_iff.mp was with ⟨former, present, rfl⟩
    have same := Snapshot.id_undergoAll ⟨exchange.now, former⟩ (exchange.occurrences name action)
    rw [after] at same
    rw [show source.id = former.id from same]
    exact fits.ids name former present
  registered := by
    rw [exchange.registry_perform action]
    exact fits.registryAfter action

end Group

end Rendezvous
