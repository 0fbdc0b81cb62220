import Rendezvous.Proofs.Occurrence

/-!
# The chronicle of a source

The chronicle of a source is what happens to it in a run of the exchange it belongs to. A call that
is handled is an occurrence for the source that it is made to, and so is each dispatch that the
listener of that source makes meanwhile, for the source that the dispatch names.

`snapshot?_performAll` is the law of the chronicle: replayed from the first snapshot of a source, it
leads to the last one.
-/

namespace Rendezvous

namespace Exchange

/-- A source of an exchange, at the present moment. -/
def snapshot? (exchange : Exchange) (name : SourceName) : Option Snapshot :=
  (exchange.sources.find? name).map fun source => ⟨exchange.now, source⟩

/-- The occurrence, if it is one for the source of the given name. -/
def forSource (name other : SourceName) (occurrence : Occurrence) : List Occurrence :=
  if other = name then [occurrence] else []

/-- What a dispatch is for a source. -/
def completions (exchange : Exchange) (name : SourceName) (attempt : Dispatch) :
    List Occurrence :=
  match exchange.destination? attempt with
  | none => []
  | some (other, id) => forSource name other (.complete id attempt.payload)

/-- The event of a call that is made to a source, with the listener that gets it. -/
def event? (exchange : Exchange) (other : SourceName) (payload : String) (metadata : Metadata)
    (id : CorrelationId) : Option (Listener × Event) :=
  (exchange.sources.find? other).bind fun source =>
    source.handler.bind fun handler =>
      (source.accept handler exchange.now payload metadata id).2.map (handler.listener, ·)

/-- What the reaction of a listener to an event of another source is for a source. -/
def reactions (exchange : Exchange) (name other : SourceName) (listener : Listener)
    (event : Event) : List Occurrence :=
  (listener.reactions event).flatMap (exchange.completions name) ++
    if listener.keeps then forSource name other (.keep event) else []

/-- What an action is for a source. -/
def occurrences (exchange : Exchange) (name : SourceName) : Action → List Occurrence
  | .handle other payload metadata id =>
      forSource name other (.accept payload metadata id) ++
        match exchange.event? other payload metadata id with
        | none => []
        | some (listener, event) => exchange.reactions name other listener event
  | .dispatch attempt => exchange.completions name attempt
  | .echo other =>
      match (exchange.sources.find? other).bind fun source =>
          source.takeEvent?.map (source.id, ·.1) with
      | none => []
      | some (sourceId, event) =>
          forSource name other .takeEvent ++
            ((echo? sourceId event).elim [] (exchange.completions name))
  | .insert other id => forSource name other (.insert id)
  | .arm other id => forSource name other (.arm id)
  | .withdraw other id => forSource name other (.withdraw id)
  | .resolve other ticket outcome => forSource name other (.resolve ticket outcome)
  | .drop other ticket => forSource name other (.drop ticket)
  | .hangUp other ticket => forSource name other (.hangUp ticket)
  | .poll other ticket => forSource name other (.poll ticket)
  | .spawn other => forSource name other .spawn
  | .abandonTask other => forSource name other .abandon
  | .close other => forSource name other .close
  | .receive other => forSource name other .receive
  | .fire other => forSource name other .fire
  | .stopAccepting other => forSource name other .stopAccepting
  | .finish other => forSource name other .finish
  | .advance duration => [.pass duration]
  | .register _ => []
  | .deregister _ => []

/-- What a run of actions is for a source. -/
def chronicle (exchange : Exchange) (name : SourceName) : List Action → List Occurrence
  | [] => []
  | action :: rest =>
      exchange.occurrences name action ++ (exchange.perform action).1.chronicle name rest

theorem chronicle_append (exchange : Exchange) (name : SourceName) (earlier later : List Action) :
    exchange.chronicle name (earlier ++ later) =
      exchange.chronicle name earlier ++ (exchange.performAll earlier).1.chronicle name later := by
  induction earlier generalizing exchange with
  | nil => rfl
  | cons action rest ih =>
      rw [List.cons_append, chronicle, ih, chronicle, List.append_assoc]
      rfl

/-! ## Single operations -/

/-- An exchange has changed as a list of occurrences says. -/
def Follows (before after : Exchange) (name : SourceName) (occurrences : List Occurrence) : Prop :=
  after.snapshot? name = (before.snapshot? name).map (·.undergoAll occurrences)

variable {exchange middle final : Exchange} {name other : SourceName}

theorem Follows.refl (exchange : Exchange) (name : SourceName) :
    Follows exchange exchange name [] := by
  cases found : exchange.snapshot? name <;> simp [Follows, found]

theorem Follows.trans {earlier later : List Occurrence}
    (first : Follows exchange middle name earlier)
    (second : Follows middle final name later) :
    Follows exchange final name (earlier ++ later) := by
  rw [Follows] at *
  rw [second, first]
  cases exchange.snapshot? name <;> simp

theorem follows_setSource (name : SourceName) {source changed : Source} {occurrence : Occurrence}
    (found : exchange.sources.find? other = some source)
    (timeless : (⟨exchange.now, source⟩ : Snapshot).after occurrence = exchange.now)
    (change : changed = source.undergo exchange.now occurrence) :
    Follows exchange (exchange.setSource other changed) name (forSource name other occurrence) := by
  by_cases same : other = name
  · subst same
    simp [Follows, forSource, snapshot?, setSource, found, Directory.find?_put, Snapshot.undergo,
      timeless, change]
  · have different : ¬name = other := fun equal => same equal.symm
    cases kept : exchange.sources.find? name <;>
      simp [Follows, forSource, snapshot?, setSource, same, different, kept, Directory.find?_put]

theorem follows_unchanged {source : Source} (found : exchange.sources.find? other = some source) :
    Follows exchange (exchange.setSource other source) name [] := by
  by_cases same : name = other
  · subst same
    simp [Follows, snapshot?, setSource, found, Directory.find?_put]
  · cases kept : exchange.sources.find? name <;>
      simp [Follows, snapshot?, setSource, same, kept, Directory.find?_put]

theorem follows_of_absent {occurrence : Occurrence} (absent : exchange.sources.find? other = none) :
    Follows exchange exchange name (forSource name other occurrence) := by
  by_cases same : other = name
  · subst same
    simp [Follows, snapshot?, absent]
  · simpa [forSource, same] using Follows.refl exchange name

theorem follows_changeSource {change : Source → Source} {occurrence : Occurrence}
    (timeless : ∀ snapshot : Snapshot, snapshot.after occurrence = snapshot.now)
    (changes : ∀ source, change source = source.undergo exchange.now occurrence) :
    Follows exchange (exchange.changeSource other change) name
      (forSource name other occurrence) := by
  cases found : exchange.sources.find? other with
  | none => simpa [changeSource, found] using follows_of_absent found
  | some source =>
      simpa [changeSource, found] using
        follows_setSource name found (timeless ⟨exchange.now, source⟩) (changes source)

theorem follows_onSource {act : Source → Source × Notice} {occurrence : Occurrence}
    (timeless : ∀ snapshot : Snapshot, snapshot.after occurrence = snapshot.now)
    (acts : ∀ source, (act source).1 = source.undergo exchange.now occurrence) :
    Follows exchange (exchange.onSource other act).1 name (forSource name other occurrence) := by
  cases found : exchange.sources.find? other with
  | none => simpa [onSource, found] using follows_of_absent found
  | some source =>
      simpa [onSource, found] using
        follows_setSource name found (timeless ⟨exchange.now, source⟩) (acts source)

theorem follows_onTask {step? : DeadlineTask → Option DeadlineTask} {occurrence : Occurrence}
    (timeless : ∀ snapshot : Snapshot, snapshot.after occurrence = snapshot.now)
    (works : ∀ source : Source, source.work step? = source.undergo exchange.now occurrence) :
    Follows exchange (exchange.onTask other step?).1 name (forSource name other occurrence) := by
  refine follows_onSource timeless fun source => ?_
  rw [← works source, Source.work]
  cases step? source.task <;> rfl

/-! ## Dispatches -/

theorem destination?_congr {left right : Exchange} (same : left.registry = right.registry)
    (attempt : Dispatch) : left.destination? attempt = right.destination? attempt := by
  cases attempt <;> simp [destination?, same]

theorem completions_congr {left right : Exchange} (same : left.registry = right.registry) :
    left.completions name = right.completions name := by
  funext attempt
  rw [completions, completions, destination?_congr same]

theorem dispatch_registry (exchange : Exchange) (attempt : Dispatch) :
    (exchange.dispatch attempt).1.registry = exchange.registry := by
  cases destination : exchange.destination? attempt with
  | none => simp [dispatch, destination]
  | some place =>
      cases found : exchange.sources.find? place.1 <;>
        simp [dispatch, destination, found, setSource]

theorem follows_dispatch (exchange : Exchange) (attempt : Dispatch) (name : SourceName) :
    Follows exchange (exchange.dispatch attempt).1 name (exchange.completions name attempt) := by
  cases destination : exchange.destination? attempt with
  | none => simpa [dispatch, completions, destination] using Follows.refl exchange name
  | some place =>
      cases found : exchange.sources.find? place.1 with
      | none => simpa [dispatch, completions, destination, found] using follows_of_absent found
      | some source =>
          simpa [dispatch, completions, destination, found] using
            follows_setSource name found rfl (rfl : (source.complete place.2 attempt.payload).1 = _)

theorem follows_dispatchAll (exchange : Exchange) (attempts : List Dispatch) (name : SourceName) :
    Follows exchange (exchange.dispatchAll attempts).1 name
      (attempts.flatMap (exchange.completions name)) := by
  induction attempts generalizing exchange with
  | nil => exact Follows.refl exchange name
  | cons attempt rest ih =>
      have later := ih (exchange.dispatch attempt).1
      rw [completions_congr (exchange.dispatch_registry attempt)] at later
      exact (follows_dispatch exchange attempt name).trans later

/-! ## Calls -/

@[simp]
theorem completions_setSource (exchange : Exchange) (name other : SourceName) (source : Source) :
    (exchange.setSource other source).completions name = exchange.completions name :=
  completions_congr rfl

theorem follows_keep (exchange : Exchange) (name other : SourceName) (listener : Listener)
    (event : Event) :
    Follows exchange (exchange.changeSource other (·.keep listener event)) name
      (if listener.keeps then forSource name other (.keep event) else []) := by
  cases keeps : listener.keeps with
  | true =>
      refine follows_changeSource (fun _ => rfl) fun source => ?_
      simp [Source.keep, keeps, Source.undergo]
  | false =>
      cases found : exchange.sources.find? other with
      | none => simpa [changeSource, found] using Follows.refl exchange name
      | some source =>
          simpa [changeSource, found, Source.keep, keeps] using follows_unchanged found

theorem follows_notify (exchange : Exchange) (name other : SourceName) (listener : Listener)
    (event : Event) :
    Follows exchange (exchange.notify other listener event).1 name
      (exchange.reactions name other listener event) :=
  (follows_dispatchAll exchange (listener.reactions event) name).trans
    (follows_keep _ name other listener event)

/-- The event of a call reaches the listener after the call has been accepted, and what the listener
then does depends on the registry only, which has not changed. -/
theorem follows_handle (exchange : Exchange) (name other : SourceName) (payload : String)
    (metadata : Metadata) (id : CorrelationId) :
    Follows exchange (exchange.perform (.handle other payload metadata id)).1 name
      (exchange.occurrences name (.handle other payload metadata id)) := by
  cases found : exchange.sources.find? other with
  | none => simpa [perform, occurrences, handle?, event?, found] using follows_of_absent found
  | some source =>
      cases handled : source.handler with
      | none =>
          have idle : source = source.undergo exchange.now (.accept payload metadata id) := by
            simp [Source.undergo, handled]
          have unchanged := follows_setSource name found rfl idle
          by_cases same : other = name
          · subst same
            simpa [perform, occurrences, handle?, event?, found, handled, forSource, Follows,
              snapshot?, setSource, Directory.find?_put] using unchanged
          · simpa [perform, occurrences, handle?, event?, found, handled, forSource, same] using
              Follows.refl exchange name
      | some handler =>
          have undergone :
              (source.accept handler exchange.now payload metadata id).1 =
                source.undergo exchange.now (.accept payload metadata id) := by
            simp [Source.undergo, handled]
          have entered := follows_setSource name found rfl undergone
          cases accepted : source.accept handler exchange.now payload metadata id with
          | mk changed event =>
              rw [accepted] at entered
              cases event with
              | none =>
                  simpa [perform, occurrences, handle?, event?, found, handled, accepted] using
                    entered
              | some event =>
                  have told := follows_notify (exchange.setSource other changed) name other
                    handler.listener event
                  simpa [perform, occurrences, handle?, event?, found, handled, accepted,
                    reactions] using entered.trans told

theorem follows_echo (exchange : Exchange) (name other : SourceName) :
    Follows exchange (exchange.echoOldest other) name
      (exchange.occurrences name (.echo other)) := by
  cases found : exchange.sources.find? other with
  | none => simpa [occurrences, echoOldest, found] using Follows.refl exchange name
  | some source =>
      cases taken : source.takeEvent? with
      | none => simpa [occurrences, echoOldest, found, taken] using Follows.refl exchange name
      | some oldest =>
          have undergone : oldest.2 = source.undergo exchange.now .takeEvent := by
            simp [Source.undergo, taken]
          have first := follows_setSource name found rfl undergone
          cases response : echo? source.id oldest.1 with
          | none => simpa [occurrences, echoOldest, found, taken, response] using first
          | some attempt =>
              simpa [occurrences, echoOldest, found, taken, response] using
                first.trans (follows_dispatch (exchange.setSource other oldest.2) attempt name)

/-! ## Actions and runs -/

theorem follows_perform (exchange : Exchange) (name : SourceName) (action : Action) :
    Follows exchange (exchange.perform action).1 name (exchange.occurrences name action) := by
  cases action with
  | handle other payload metadata id => exact follows_handle exchange name other payload metadata id
  | dispatch attempt => exact follows_dispatch exchange attempt name
  | echo other => exact follows_echo exchange name other
  | insert other id =>
      refine follows_onSource (fun _ => rfl) fun source => ?_
      cases inserted : source.insert id with
      | mk called result => cases result <;> simp [Source.undergo, inserted]
  | arm other id =>
      refine follows_onSource (fun _ => rfl) fun source => ?_
      change (if source.task.schedulers = 0 then (source, Notice.impossible)
        else (source.arm exchange.now id, Notice.done)).1 = _
      by_cases last : source.task.schedulers = 0 <;> simp [Source.undergo, last]
  | withdraw other id =>
      refine follows_onSource (fun _ => rfl) fun source => ?_
      cases withdrawn : source.withdraw? id <;> simp [Source.undergo, withdrawn]
  | resolve other ticket outcome => exact follows_onSource (fun _ => rfl) fun _ => rfl
  | drop other ticket => exact follows_onSource (fun _ => rfl) fun _ => rfl
  | hangUp other ticket => exact follows_onSource (fun _ => rfl) fun _ => rfl
  | poll other ticket => exact follows_onSource (fun _ => rfl) fun _ => rfl
  | spawn other => exact follows_onTask (fun _ => rfl) fun _ => rfl
  | abandonTask other => exact follows_onTask (fun _ => rfl) fun _ => rfl
  | close other => exact follows_onSource (fun _ => rfl) fun _ => rfl
  | receive other => exact follows_onTask (fun _ => rfl) fun _ => rfl
  | fire other =>
      refine follows_onSource (fun _ => rfl) fun source => ?_
      cases fired : source.fire? exchange.now <;> simp [Source.undergo, fired]
  | stopAccepting other => exact follows_onTask (fun _ => rfl) fun _ => rfl
  | finish other => exact follows_onTask (fun _ => rfl) fun _ => rfl
  | advance duration =>
      cases found : exchange.sources.find? name <;>
        simp [Follows, perform, occurrences, snapshot?, found, Snapshot.undergo, Snapshot.after,
          Source.undergo]
  | register other =>
      cases found : exchange.sources.find? other with
      | none => simpa [perform, occurrences, found] using Follows.refl exchange name
      | some source =>
          cases registered : exchange.registry.register source.id other <;>
            simp [Follows, perform, occurrences, register, found, registered, snapshot?,
              Function.comp_def]
  | deregister sourceId => exact Follows.refl exchange name

/-- Replayed from the first snapshot of a source, its chronicle leads to the last one. -/
theorem snapshot?_performAll (exchange : Exchange) (name : SourceName) (actions : List Action) :
    (exchange.performAll actions).1.snapshot? name =
      (exchange.snapshot? name).map (·.undergoAll (exchange.chronicle name actions)) := by
  induction actions generalizing exchange with
  | nil => exact Follows.refl exchange name
  | cons action rest ih =>
      exact (follows_perform exchange name action).trans (ih (exchange.perform action).1)

/-- A source that is there after a run was there before it. -/
theorem exists_start {actions : List Action} {source : Source}
    (found : (exchange.performAll actions).1.sources.find? name = some source) :
    ∃ start, exchange.snapshot? name = some start ∧
      (start.undergoAll (exchange.chronicle name actions)).source = source := by
  have law := exchange.snapshot?_performAll name actions
  rw [snapshot?, found, Option.map_some] at law
  rcases Option.map_eq_some_iff.mp law.symm with ⟨start, began, ended⟩
  exact ⟨start, began, congrArg Snapshot.source ended⟩

end Exchange

end Rendezvous
