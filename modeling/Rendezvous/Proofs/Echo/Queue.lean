import Rendezvous.Proofs.CorrelationId
import Rendezvous.Proofs.Isolation.Group
import Rendezvous.Proofs.Ledger.Custody

/-!
# Events that wait for the echo stage

A source passes its events on to an echo stage: its listener keeps them, and the echo stage answers
the oldest one, through the registry. In a run in which calls are made, callers leave, deadlines are
handed out and the echo stage works, every call leaves one event, and the events are answered in the
order of their calls, each once and under the id of its call (`Exchange.EchoRun.passes`).
-/

namespace Rendezvous

/-- What a call brings, and the id that it is entered under. -/
structure Carried where
  payload : String
  id : CorrelationId
deriving DecidableEq, Repr

/-- The event of a call whose only transport property is its id. -/
def Carried.event (carried : Carried) : Event :=
  ⟨carried.payload, [carried.id.text]⟩

theorem Carried.eq_of_event {left right : Carried} (same : left.event = right.event) :
    left = right := by
  obtain ⟨payload, id⟩ := left
  obtain ⟨other, another⟩ := right
  rw [event, event, Event.mk.injEq, List.singleton_inj] at same
  rcases same with ⟨rfl, text⟩
  cases CorrelationId.text_injective text
  rfl

namespace Occurrence

/-- The event that is kept. -/
def kept? : Occurrence → Option Event
  | .keep event => some event
  | _ => none

/-- What a dispatch completes a call with. -/
def answer? : Occurrence → Option Carried
  | .complete id payload => some ⟨payload, id⟩
  | _ => none

/-- Whether an event is taken up. -/
def takesEvent : Occurrence → Bool
  | .takeEvent => true
  | _ => false

end Occurrence

namespace Action

/-- What a call to a source brings. -/
def carried? (name : SourceName) : Action → Option Carried
  | .handle other payload _ id => if other = name then some ⟨payload, id⟩ else none
  | _ => none

/-- A call is made to a source, its echo stage answers an event, a caller leaves or looks, the
deadline task goes on, or time passes. -/
def isEchoing (name : SourceName) : Action → Bool
  | .handle other _ _ _ | .echo other | .hangUp other _ | .poll other _ | .spawn other
  | .receive other | .fire other | .stopAccepting other | .finish other => decide (other = name)
  | .advance _ => true
  | _ => false

/-- An action leaves a source to its callers and to its deadlines, and is one occurrence for it. -/
inductive IsQuiet (name : SourceName) : Action → Occurrence → Prop
  | hangUp (ticket : Ticket) : IsQuiet name (.hangUp name ticket) (.hangUp ticket)
  | poll (ticket : Ticket) : IsQuiet name (.poll name ticket) (.poll ticket)
  | spawn : IsQuiet name (.spawn name) .spawn
  | receive : IsQuiet name (.receive name) .receive
  | fire : IsQuiet name (.fire name) .fire
  | stopAccepting : IsQuiet name (.stopAccepting name) .stopAccepting
  | finish : IsQuiet name (.finish name) .finish
  | advance (duration : Duration) : IsQuiet name (.advance duration) (.pass duration)

variable {name : SourceName} {action : Action}

theorem eq_of_isEchoing (echoing : action.isEchoing name = true) :
    (∃ payload metadata id, action = .handle name payload metadata id) ∨ action = .echo name ∨
      ∃ occurrence, action.IsQuiet name occurrence := by
  cases action with
  | advance duration => exact Or.inr (Or.inr ⟨_, .advance duration⟩)
  | dispatch | insert | arm | withdraw | resolve | drop | abandonTask | close | register
  | deregister => cases echoing
  | _ =>
      cases of_decide_eq_true echoing
      first
        | exact Or.inl ⟨_, _, _, rfl⟩
        | exact Or.inr (Or.inl rfl)
        | exact Or.inr (Or.inr ⟨_, by constructor⟩)

theorem isOrdinary_of_isEchoing (echoing : action.isEchoing name = true) :
    action.isOrdinary name = true := by
  cases action with
  | insert | arm | withdraw | resolve | drop => cases echoing
  | _ => rfl

end Action

namespace Exchange

variable {exchange : Exchange} {name : SourceName} {snapshot : Snapshot} {waiting : List Carried}
  {action : Action} {actions : List Action} {occurrence : Occurrence}

theorem occurrences_of_isQuiet (quiet : action.IsQuiet name occurrence) :
    exchange.occurrences name action = [occurrence] := by
  cases quiet with
  | advance => rfl
  | _ => exact if_pos rfl

/-- A source whose listener keeps the events and which answers to its id in the registry, with a run
of actions before it. The events that it keeps are those of given calls, and the run makes its calls
under ids of their own. -/
structure EchoRun (exchange : Exchange) (name : SourceName) (snapshot : Snapshot)
    (waiting : List Carried) (actions : List Action) : Prop where
  found : exchange.snapshot? name = some snapshot
  registered : exchange.registry.find? snapshot.source.id = some name
  enabled : snapshot.source.enabled = true
  handler : snapshot.source.handler = some { listener := {} }
  events : snapshot.source.events = waiting.map Carried.event
  echoing : ∀ action ∈ actions, action.isEchoing name = true
  /-- No two calls whose events wait or that the run makes have one id. -/
  distinct : (waiting.map Carried.id ++ actions.filterMap (Action.minted? name)).Nodup
  attended : snapshot.Attended
  /-- No call of the run is made under an id that is in the table at first. -/
  fresh : ∀ id ∈ actions.filterMap (Action.minted? name), snapshot.source.ledger.find? id = none
  /-- Nor is it made under an id whose deadline is outstanding. -/
  unarmed : ∀ deadline ∈ snapshot.source.task.outstanding,
    deadline.id ∉ actions.filterMap (Action.minted? name)

/-- What an action of such a run is for the source, and what it does to the events that wait. -/
inductive EchoMove (name : SourceName) :
    List Carried → Action → List Occurrence → List Carried → Prop
  | called (waiting : List Carried) (call : Carried) (metadata : Metadata) :
      EchoMove name waiting (.handle name call.payload metadata call.id)
        [.accept call.payload metadata call.id, .keep call.event] (waiting ++ [call])
  | answered (oldest : Carried) (waiting : List Carried) :
      EchoMove name (oldest :: waiting) (.echo name)
        [.takeEvent, .complete oldest.id oldest.payload] waiting
  | idle : EchoMove name [] (.echo name) [] []
  | quiet (waiting : List Carried) {action : Action} {occurrence : Occurrence}
      (quiet : action.IsQuiet name occurrence) :
      EchoMove name waiting action [occurrence] waiting

namespace EchoMove

variable {waiting' : List Carried} {occurrences : List Occurrence}

theorem registryAfter (move : EchoMove name waiting action occurrences waiting') :
    exchange.registryAfter action = exchange.registry := by
  cases move with
  | quiet _ quiet => cases quiet <;> rfl
  | _ => rfl

/-- The events that wait afterwards. -/
theorem events (move : EchoMove name waiting action occurrences waiting')
    (kept : snapshot.source.events = waiting.map Carried.event) :
    (snapshot.undergoAll occurrences).source.events = waiting'.map Carried.event := by
  cases move with
  | called _ call metadata =>
      simp [Snapshot.events_undergo, Source.eventsAfter, kept]
  | answered oldest _ => simp [Snapshot.events_undergo, Source.eventsAfter, kept]
  | idle => exact kept
  | quiet _ quiet =>
      rw [Snapshot.undergoAll_cons, Snapshot.undergoAll_nil, Snapshot.events_undergo]
      cases quiet <;> exact kept

theorem kept (move : EchoMove name waiting action occurrences waiting') :
    ∀ occurrence ∈ occurrences, occurrence ≠ .abandon := by
  cases move with
  | called _ call metadata => simp
  | answered oldest _ => simp
  | idle => simp
  | quiet _ quiet =>
      rw [List.forall_mem_singleton]
      rintro rfl
      cases quiet

/-- No id appears that did not wait and was not to come. -/
theorem ids (move : EchoMove name waiting action occurrences waiting') (actions : List Action) :
    (waiting'.map Carried.id ++ actions.filterMap (Action.minted? name)).Sublist
      (waiting.map Carried.id ++ (action :: actions).filterMap (Action.minted? name)) := by
  cases move with
  | called _ call metadata => simp [Action.minted?]
  | answered oldest _ => exact List.sublist_cons_self _ _
  | idle => exact List.Sublist.refl _
  | quiet _ quiet => cases quiet <;> exact List.Sublist.refl _

end EchoMove

namespace EchoRun

theorem source? (run : EchoRun exchange name snapshot waiting actions) :
    exchange.sources.find? name = some snapshot.source ∧ exchange.now = snapshot.now := by
  rcases Option.map_eq_some_iff.mp run.found with ⟨source, found, rfl⟩
  exact ⟨found, rfl⟩

section Called

variable {payload : String} {metadata : Metadata} {id : CorrelationId}

/-- Every call is accepted. -/
theorem refusal?_eq_none
    (run : EchoRun exchange name snapshot waiting (.handle name payload metadata id :: actions)) :
    snapshot.source.refusal? { listener := {} } metadata id = none := by
  have absent : snapshot.source.pending.entries.find? id = none := by
    refine run.fresh id ?_
    rw [List.filterMap_cons, Action.minted?, if_pos rfl]
    exact List.mem_cons_self
  have free : snapshot.source.pending.contains id = false := by
    rw [Pending.contains, Directory.contains, absent]
    rfl
  simp [Source.refusal?, Handler.properties, free]

theorem accept_eq
    (run : EchoRun exchange name snapshot waiting (.handle name payload metadata id :: actions)) :
    ∃ accepted, snapshot.source.accept { listener := {} } snapshot.now payload metadata id =
      (accepted, some (Carried.event ⟨payload, id⟩)) :=
  ⟨_, by rw [Source.accept_eq, run.refusal?_eq_none]; rfl⟩

theorem occurrences_handle
    (run : EchoRun exchange name snapshot waiting (.handle name payload metadata id :: actions)) :
    exchange.occurrences name (.handle name payload metadata id) =
      [.accept payload metadata id, .keep (Carried.event ⟨payload, id⟩)] := by
  rcases run.accept_eq with ⟨accepted, accepts⟩
  have told : exchange.event? name payload metadata id =
      some ({}, Carried.event ⟨payload, id⟩) := by
    simp [event?, run.source?.1, run.source?.2, run.handler, accepts]
  rw [occurrences, told, forSource, if_pos rfl]
  simp [reactions, forSource]

theorem move_handle
    (run : EchoRun exchange name snapshot waiting (.handle name payload metadata id :: actions)) :
    EchoMove name waiting (.handle name payload metadata id)
      (exchange.occurrences name (.handle name payload metadata id))
      (waiting ++ [⟨payload, id⟩]) := by
  rw [run.occurrences_handle]
  exact .called waiting ⟨payload, id⟩ metadata

/-- The caller is told that the call is accepted. -/
theorem notice_handle
    (run : EchoRun exchange name snapshot waiting (.handle name payload metadata id :: actions)) :
    (exchange.perform (.handle name payload metadata id)).2 =
      .called ⟨snapshot.source.nextTicket, true, []⟩ := by
  rcases run.accept_eq with ⟨accepted, accepts⟩
  simp [perform, handle?, run.source?.1, run.source?.2, run.handler, accepts, notify, dispatchAll]

end Called

theorem occurrences_echo (run : EchoRun exchange name snapshot waiting actions) :
    exchange.occurrences name (.echo name) =
      match waiting with
      | [] => []
      | oldest :: _ => [.takeEvent, .complete oldest.id oldest.payload] := by
  cases waiting with
  | nil => simp [occurrences, run.source?.1, Source.takeEvent?, run.events]
  | cons oldest rest =>
      have response : exchange.completions name
          (.registered snapshot.source.id oldest.id.text oldest.payload) =
            [.complete oldest.id oldest.payload] := by
        simp [completions, destination?, run.registered, CorrelationId.parse?_text, forSource,
          Dispatch.payload]
      simp [occurrences, run.source?.1, Source.takeEvent?, run.events, Carried.event, echo?,
        forSource, response]

/-- The first action of a run. -/
theorem move (run : EchoRun exchange name snapshot waiting (action :: actions)) :
    ∃ waiting', EchoMove name waiting action (exchange.occurrences name action) waiting' := by
  rcases Action.eq_of_isEchoing (run.echoing action List.mem_cons_self) with
    ⟨payload, metadata, id, rfl⟩ | rfl | ⟨occurrence, quiet⟩
  · exact ⟨_, run.move_handle⟩
  · rw [run.occurrences_echo]
    cases waiting with
    | nil => exact ⟨[], .idle⟩
    | cons oldest rest => exact ⟨rest, .answered oldest rest⟩
  · rw [occurrences_of_isQuiet quiet]
    exact ⟨waiting, .quiet waiting quiet⟩

theorem handler_of_move {waiting' : List Carried} {occurrences : List Occurrence}
    (run : EchoRun exchange name snapshot waiting (action :: actions))
    (move : EchoMove name waiting action occurrences waiting') :
    (snapshot.undergoAll occurrences).source.handler = some { listener := {} } := by
  cases move with
  | called _ call metadata =>
      simp [Snapshot.handler_undergo, Source.handlerAfter, Source.admits, run.handler,
        run.refusal?_eq_none]
  | answered oldest _ => simp [Snapshot.handler_undergo, Source.handlerAfter, run.handler]
  | idle => exact run.handler
  | quiet _ quiet =>
      rw [Snapshot.undergoAll_cons, Snapshot.undergoAll_nil, Snapshot.handler_undergo]
      cases quiet <;> exact run.handler

/-- A call that is made later has an id of its own. -/
theorem unminted_of_later {id : CorrelationId}
    (run : EchoRun exchange name snapshot waiting (action :: actions))
    (minted : id ∈ actions.filterMap (Action.minted? name)) :
    id ∉ (exchange.occurrences name action).filterMap Occurrence.minted? := by
  rw [minted_occurrences]
  intro made
  have distinct := (List.nodup_append.mp run.distinct).2.1
  rw [List.filterMap_cons, Option.mem_toList.mp made] at distinct
  exact (List.nodup_cons.mp distinct).1 minted

theorem ordinary (run : EchoRun exchange name snapshot waiting (action :: actions)) :
    ∀ occurrence ∈ exchange.occurrences name action, occurrence.isOrdinary = true :=
  have echoing := run.echoing action List.mem_cons_self
  fun _ member => ordinary_occurrences (Action.isOrdinary_of_isEchoing echoing) member

/-- What remains of a run after its first action is such a run as well. -/
theorem step {waiting' : List Carried}
    (run : EchoRun exchange name snapshot waiting (action :: actions))
    (move : EchoMove name waiting action (exchange.occurrences name action) waiting') :
    EchoRun (exchange.perform action).1 name
      (snapshot.undergoAll (exchange.occurrences name action)) waiting' actions := by
  have attended := run.attended.undergoAll move.kept
  have later := ((List.sublist_cons_self action actions).filterMap (Action.minted? name)).subset
  exact {
    found := by
      have follows := follows_perform exchange name action
      rwa [Follows, run.found] at follows
    registered := by
      rw [registry_perform, move.registryAfter, Snapshot.id_undergoAll]
      exact run.registered
    enabled := (snapshot.enabled_undergoAll _).trans run.enabled
    handler := run.handler_of_move move
    events := move.events run.events
    echoing := fun other member => run.echoing other (List.mem_cons_of_mem _ member)
    distinct := run.distinct.sublist (move.ids actions)
    attended := attended
    fresh := by
      intro id minted
      refine Option.eq_none_iff_forall_ne_some.mpr fun ticket found => ?_
      have pending := Snapshot.find?_of_find?_undergoAll run.ordinary
        (run.unminted_of_later minted) found
      cases (run.fresh id (later minted)).symm.trans pending
    unarmed := by
      intro deadline outstanding minted
      have accounts := Snapshot.accounts run.attended.task attended.alive
      rcases List.mem_append.mp (accounts.mem_iff.mpr (List.mem_append_right _ outstanding)) with
        before | armed
      · exact run.unarmed deadline before (later minted)
      · exact run.unminted_of_later minted (Snapshot.minted_of_mem_armings run.ordinary armed) }

end EchoRun

/-! ## What passes through the queue -/

/-- What waited and what was called is what has been answered and what waits, in this order, and
every call leaves one event. -/
structure Passed (name : SourceName) (waiting : List Carried) (actions : List Action)
    (trace : List Occurrence) (left : List Carried) : Prop where
  answers : waiting ++ actions.filterMap (Action.carried? name) =
    trace.filterMap Occurrence.answer? ++ left
  /-- Every event that is taken up is answered. -/
  taken : trace.countP Occurrence.takesEvent = (trace.filterMap Occurrence.answer?).length
  kept : trace.filterMap Occurrence.kept? =
    (actions.filterMap (Action.carried? name)).map Carried.event

theorem EchoMove.passed {waiting' : List Carried} {occurrences : List Occurrence}
    (move : EchoMove name waiting action occurrences waiting') :
    Passed name waiting [action] occurrences waiting' := by
  cases move with
  | called _ call metadata =>
      have brought : (Action.handle name call.payload metadata call.id).carried? name = some call :=
        if_pos rfl
      have carried : [Action.handle name call.payload metadata call.id].filterMap
          (Action.carried? name) = [call] := by
        rw [List.filterMap_cons, brought]
        rfl
      exact ⟨by rw [carried]; rfl, rfl, by rw [carried]; rfl⟩
  | answered oldest _ => exact ⟨List.append_nil _, rfl, rfl⟩
  | idle => exact ⟨rfl, rfl, rfl⟩
  | quiet _ quiet => cases quiet <;> exact ⟨List.append_nil _, rfl, rfl⟩

theorem Passed.trans {middle left : List Carried} {earlier later : List Action}
    {first second : List Occurrence} (here : Passed name waiting earlier first middle)
    (there : Passed name middle later second left) :
    Passed name waiting (earlier ++ later) (first ++ second) left where
  answers := by
    rw [List.filterMap_append, List.filterMap_append, ← List.append_assoc, here.answers,
      List.append_assoc, there.answers, List.append_assoc]
  taken := by
    rw [List.countP_append, List.filterMap_append, List.length_append, here.taken, there.taken]
  kept := by
    rw [List.filterMap_append, List.filterMap_append, List.map_append, here.kept, there.kept]

/-- Events are answered in the order of their calls, and what remains of a run is such a run as
well. -/
theorem EchoRun.passes {earlier later : List Action}
    (run : EchoRun exchange name snapshot waiting (earlier ++ later)) :
    ∃ left, Passed name waiting earlier (exchange.chronicle name earlier) left ∧
      EchoRun (exchange.performAll earlier).1 name
        (snapshot.undergoAll (exchange.chronicle name earlier)) left later := by
  induction earlier generalizing exchange snapshot waiting with
  | nil => exact ⟨waiting, ⟨List.append_nil _, rfl, rfl⟩, run⟩
  | cons action rest ih =>
      rcases run.move with ⟨middle, move⟩
      rcases ih (run.step move) with ⟨left, passed, final⟩
      refine ⟨left, move.passed.trans passed, ?_⟩
      rwa [chronicle, Snapshot.undergoAll_append]

end Exchange

end Rendezvous
