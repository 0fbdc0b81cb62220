import Rendezvous.Node
import Rendezvous.Proofs.Echo.Queue

/-!
# How the calls of an echo end

While a call waits for the echo stage it is held by the table and by its deadline, and its event is
in the queue. What comes first decides: if the echo stage answers the event, the call is completed
with the payload that it brought, and if its deadline is handed out, it times out. Hence an echo
answers its calls in their order, each with its own payload or not at all
(`Exchange.echo_answers_own_calls`).
-/

namespace Rendezvous

/-- How a call ends, and whether its caller still waits then. -/
structure Ending where
  closing : Closing
  waits : Bool
deriving DecidableEq, Repr

/-- The reply that the caller gets. -/
def Ending.reply (ending : Ending) : Reply :=
  if ending.waits then .resolved ending.closing.outcome else .lost

/-- How an action ends a call whose event waits for the echo stage, if it does: the echo stage
answers the event, or the deadline of the call is handed out. -/
def Snapshot.ends? (snapshot : Snapshot) (name : SourceName) (event : Event) (own : Deadline) :
    Action → Option Closing
  | .echo other =>
      if other = name ∧ snapshot.source.events.head? = some event then
        some (.completed event.payload)
      else none
  | .fire other =>
      if other = name ∧ own ∈ snapshot.source.handedOut snapshot.now then some .expired else none
  | _ => none

namespace Exchange

/-- What ends such a call first in a run. -/
def ending? (exchange : Exchange) (name : SourceName) (event : Event) (own : Deadline)
    (ticket : Ticket) : List Action → Option Ending
  | [] => none
  | action :: rest =>
      match exchange.snapshot? name with
      | none => none
      | some snapshot =>
          match snapshot.ends? name event own action with
          | some closing => some ⟨closing, snapshot.source.listens ticket⟩
          | none => (exchange.perform action).1.ending? name event own ticket rest

variable {exchange : Exchange} {name : SourceName} {snapshot : Snapshot} {waiting : List Carried}
  {action : Action} {actions : List Action} {occurrence : Occurrence} {call : Carried}
  {own : Deadline} {ticket : Ticket}

theorem closing_of_ends? {event : Event} {closing : Closing}
    (ends : snapshot.ends? name event own action = some closing) :
    closing = .completed event.payload ∨ closing = .expired := by
  cases action with
  | echo other =>
      rw [Snapshot.ends?, Option.ite_none_right_eq_some] at ends
      exact Or.inl (Option.some.inj ends.2).symm
  | fire other =>
      rw [Snapshot.ends?, Option.ite_none_right_eq_some] at ends
      exact Or.inr (Option.some.inj ends.2).symm
  | _ => cases ends

theorem closing_of_ending? {event : Event} {ending : Ending}
    (ended : exchange.ending? name event own ticket actions = some ending) :
    ending.closing = .completed event.payload ∨ ending.closing = .expired := by
  induction actions generalizing exchange with
  | nil => cases ended
  | cons action rest ih =>
      rw [ending?] at ended
      split at ended
      · cases ended
      · split at ended
        · rename_i closing ends
          cases ended
          exact closing_of_ends? ends
        · exact ih ended

/-! ## One step -/

/-- A call is held, and its event waits for the echo stage. -/
structure Open (snapshot : Snapshot) (waiting : List Carried) (call : Carried) (own : Deadline)
    (ticket : Ticket) : Prop where
  held : snapshot.Held own ticket
  named : own.id = call.id
  queued : call ∈ waiting

/-- An action does not end a call and leaves it open, or it ends the call and decides its reply. -/
def OpenOrEnded (snapshot : Snapshot) (name : SourceName) (call : Carried) (own : Deadline)
    (ticket : Ticket) (action : Action) (occurrences : List Occurrence) (waiting : List Carried) :
    Prop :=
  match snapshot.ends? name call.event own action with
  | none => Open (snapshot.undergoAll occurrences) waiting call own ticket
  | some closing =>
      (snapshot.undergoAll occurrences).source.ledger.Ended ticket
        (Ending.reply ⟨closing, snapshot.source.listens ticket⟩)

namespace Open

/-- A call that is made leaves the others open. -/
theorem called {payload : String} {metadata : Metadata} {id : CorrelationId} {event : Event}
    (opened : Open snapshot waiting call own ticket) (other : id ≠ call.id) :
    Open (snapshot.undergoAll [.accept payload metadata id, .keep event])
      (waiting ++ [⟨payload, id⟩]) call own ticket := by
  have unminted : (Occurrence.accept payload metadata id).minted? ≠ some own.id := by
    rw [opened.named]
    exact fun same => other (Option.some.inj same)
  have accepted : (snapshot.undergo (.accept payload metadata id)).Held own ticket :=
    opened.held.undergo_of_untaken nofun rfl unminted nofun
  have kept : ((snapshot.undergo (.accept payload metadata id)).undergo (.keep event)).Held own
      ticket := accepted.undergo_of_untaken nofun rfl nofun nofun
  exact ⟨kept, opened.named, List.mem_append_left _ opened.queued⟩

theorem held_undergo_takeEvent (opened : Open snapshot waiting call own ticket) :
    (snapshot.undergo .takeEvent).Held own ticket :=
  opened.held.undergo_of_untaken nofun rfl nofun nofun

/-- The echo stage answers the event of the call. -/
theorem answered (opened : Open snapshot waiting call own ticket)
    (enabled : snapshot.source.enabled = true) :
    (snapshot.undergoAll [.takeEvent, .complete call.id call.payload]).source.ledger.Ended ticket
      (Ending.reply ⟨.completed call.payload, snapshot.source.listens ticket⟩) := by
  have taken := opened.held_undergo_takeEvent
  have still := (snapshot.enabled_undergoAll [.takeEvent]).trans enabled
  have done : ((snapshot.undergo .takeEvent).source.complete own.id call.payload).2 = true :=
    (Source.complete_iff _).mpr ⟨still, ticket, taken.awaits.pending⟩
  have ended := taken.ended_of_takes (.completed call.payload still done)
  rwa [opened.named, Snapshot.ledger_undergo snapshot .takeEvent] at ended

/-- The echo stage answers the event of another call. -/
theorem passed {oldest : Carried} {rest : List Carried}
    (opened : Open snapshot (oldest :: rest) call own ticket) (other : oldest.id ≠ call.id) :
    Open (snapshot.undergoAll [.takeEvent, .complete oldest.id oldest.payload]) rest call own
      ticket := by
  have held : ((snapshot.undergo .takeEvent).undergo (.complete oldest.id oldest.payload)).Held own
      ticket := by
    refine opened.held_undergo_takeEvent.undergo_of_untaken nofun rfl nofun fun _ takes => ?_
    exact other (takes.id_eq.trans opened.named)
  refine ⟨held, opened.named, (List.mem_cons.mp opened.queued).resolve_left ?_⟩
  rintro rfl
  exact other rfl

end Open

/-- A call that is left to its caller and to its deadline ends when the deadline is handed out. -/
theorem Open.rested (opened : Open snapshot waiting call own ticket)
    (quiet : action.IsQuiet name occurrence) :
    OpenOrEnded snapshot name call own ticket action [occurrence] waiting := by
  have plain : occurrence ≠ .abandon ∧ occurrence.isOrdinary = true ∧
      occurrence.minted? ≠ some own.id := by
    cases quiet <;> exact ⟨nofun, rfl, nofun⟩
  have contains := Source.contains_iff.mpr ⟨ticket, opened.held.awaits.pending⟩
  rw [OpenOrEnded]
  rcases opened.held.undergo plain.1 plain.2.1 plain.2.2 with
    ⟨untaken, still⟩ | ⟨closing, takes, ended⟩
  · have unended : snapshot.ends? name call.event own action = none := by
      cases quiet with
      | fire => exact if_neg fun handed => untaken .expired (.expired handed.2 contains)
      | _ => rfl
    rw [unended]
    exact ⟨still, opened.named, opened.queued⟩
  · cases takes with
    | completed => cases quiet
    | expired handed _ =>
        cases quiet
        have ends : snapshot.ends? name call.event own (.fire name) = some .expired :=
          if_pos ⟨rfl, handed⟩
        rw [ends]
        exact ended

/-- An action of an echo run leaves an open call open or ends it. -/
theorem EchoRun.openOrEnded {waiting' : List Carried} {occurrences : List Occurrence}
    (run : EchoRun exchange name snapshot waiting (action :: actions))
    (opened : Open snapshot waiting call own ticket)
    (move : EchoMove name waiting action occurrences waiting') :
    OpenOrEnded snapshot name call own ticket action occurrences waiting' := by
  have distinct := run.distinct
  cases move with
  | called _ other metadata =>
      refine opened.called fun same => ?_
      have minted : (Action.handle name other.payload metadata other.id).minted? name =
          some other.id := if_pos rfl
      rw [List.filterMap_cons, minted, same] at distinct
      exact (List.nodup_append.mp distinct).2.2 _ (List.mem_map_of_mem opened.queued) _
        List.mem_cons_self rfl
  | answered oldest _ =>
      have head : snapshot.source.events.head? = some oldest.event := by
        rw [run.events]
        rfl
      by_cases same : oldest = call
      · -- The event of the call is the oldest one.
        subst same
        have ends : snapshot.ends? name oldest.event own (.echo name) =
            some (.completed oldest.payload) := if_pos ⟨rfl, head⟩
        rw [OpenOrEnded, ends]
        exact opened.answered run.enabled
      · have ends : snapshot.ends? name call.event own (.echo name) = none :=
          if_neg fun ended => same (Carried.eq_of_event (Option.some.inj (head.symm.trans ended.2)))
        rw [OpenOrEnded, ends]
        -- Both events wait, so the two calls have ids of their own.
        refine opened.passed fun shared => ?_
        have queued := (List.mem_cons.mp opened.queued).resolve_left fun eq => same eq.symm
        have ids := (List.nodup_append.mp distinct).1
        rw [List.map_cons, shared] at ids
        exact (List.nodup_cons.mp ids).1 (List.mem_map_of_mem queued)
  | idle => cases opened.queued
  | quiet _ quiet => exact opened.rested quiet

/-! ## A run -/

/-- An open call stays open in a run until something ends it, which decides its reply for good. -/
theorem EchoRun.ends (run : EchoRun exchange name snapshot waiting actions)
    (opened : Open snapshot waiting call own ticket) :
    let final := snapshot.undergoAll (exchange.chronicle name actions)
    let ending := exchange.ending? name call.event own ticket actions
    (ending = none → final.Held own ticket) ∧
      ∀ ended, ending = some ended → final.source.ledger.Ended ticket ended.reply := by
  induction actions generalizing exchange snapshot waiting with
  | nil =>
      refine ⟨fun _ => opened.held, fun ended none => ?_⟩
      cases none
  | cons action rest ih =>
      rcases run.move with ⟨waiting', move⟩
      have first := run.openOrEnded opened move
      rw [OpenOrEnded] at first
      rw [chronicle, Snapshot.undergoAll_append, ending?, run.found]
      cases ends : snapshot.ends? name call.event own action with
      | none =>
          simp only [ends] at first ⊢
          exact ih (run.step move) first
      | some closing =>
          simp only [ends] at first ⊢
          have decided : Ending.reply ⟨closing, snapshot.source.listens ticket⟩ ≠ .awaited :=
            Ledger.verdict_ne_awaited snapshot.source.ledger ticket closing.outcome
          refine ⟨fun open' => absurd open' (Option.some_ne_none _), fun ended same => ?_⟩
          cases same
          exact (Snapshot.undergoAll_ended first decided call.id _).2

/-- A call that is made in an echo run is open. -/
theorem EchoRun.open_of_called {payload : String} {metadata : Metadata} {id : CorrelationId}
    (run : EchoRun exchange name snapshot waiting (.handle name payload metadata id :: actions)) :
    Open (snapshot.undergoAll (exchange.occurrences name (.handle name payload metadata id)))
      (waiting ++ [⟨payload, id⟩]) ⟨payload, id⟩ (snapshot.deadline id)
        snapshot.source.nextTicket := by
  have minted : (Action.handle name payload metadata id).minted? name = some id := if_pos rfl
  have unarmed : ∀ deadline ∈ snapshot.source.task.outstanding, deadline.id ≠ id := by
    rintro deadline outstanding rfl
    refine run.unarmed deadline outstanding ?_
    rw [List.filterMap_cons, minted]
    exact List.mem_cons_self
  have accepts : snapshot.Accepts payload metadata id :=
    Snapshot.accepts_iff.mpr ⟨_, run.handler, run.refusal?_eq_none⟩
  have held := Snapshot.held_of_accepts run.attended accepts unarmed
  rw [run.occurrences_handle]
  exact ⟨held.undergo_of_untaken nofun rfl nofun nofun, rfl,
    List.mem_append_right _ List.mem_cons_self⟩

/-- What becomes of a call that is made in an echo run. -/
theorem EchoRun.outcome_of_called {payload : String} {metadata : Metadata} {id : CorrelationId}
    (run : EchoRun exchange name snapshot waiting (.handle name payload metadata id :: actions)) :
    let final := snapshot.undergoAll
      (exchange.chronicle name (.handle name payload metadata id :: actions))
    let ticket := snapshot.source.nextTicket
    let own := snapshot.deadline id
    let ending := (exchange.perform (.handle name payload metadata id)).1.ending? name
      (Carried.event ⟨payload, id⟩) own ticket actions
    (final.source.ledger.find? id = some ticket ↔ ending = none) ∧
      final.source.ledger.reply? ticket = some ((ending.map Ending.reply).getD .awaited) ∧
      (final.IsIdle → own.due ≤ final.now → ending ≠ none) := by
  intro final ticket own ending
  have ends := (run.step run.move_handle).ends run.open_of_called
  rw [← Snapshot.undergoAll_append] at ends
  cases decided : ending with
  | none =>
      have held := ends.1 decided
      refine ⟨iff_of_true held.awaits.pending rfl, held.awaits.awaited, fun idle due => ?_⟩
      exact absurd due (Nat.not_le.mpr (held.early_of_idle idle))
  | some ended =>
      have out := ends.2 ended decided
      exact ⟨iff_of_false (out.gone id) (Option.some_ne_none ended), out.replied,
        fun _ _ => Option.some_ne_none ended⟩

/-- A source that has not been called yet, whose listener only keeps the events, and which answers
to its id in the registry. -/
structure Echoes (exchange : Exchange) (name : SourceName) (source : Source) : Prop where
  found : exchange.sources.find? name = some source
  registered : exchange.registry.find? source.id = some name
  enabled : source.enabled = true
  handler : source.handler = some { listener := {} }
  events : source.events = []
  new : source.IsNew

/-- The source of a node is one of these. -/
theorem echoes_of_node (values : CommandLine.Values) :
    let source := (Node.blueprint values).builtInSource {}
    Echoes
      { sources := Directory.ofList [(name, source)]
        registry := Directory.ofList [(source.id, name)] } name source := by
  refine ⟨?_, ?_, rfl, rfl, rfl, rfl, rfl, rfl⟩ <;>
    simp [Directory.ofList, Directory.find?_put]

theorem Echoes.run {source : Source} (echoes : Echoes exchange name source)
    (echoing : ∀ action ∈ actions, action.isEchoing name = true)
    (fresh : (actions.filterMap (Action.minted? name)).Nodup) :
    EchoRun exchange name ⟨exchange.now, source⟩ [] actions where
  found := by rw [snapshot?, echoes.found, Option.map_some]
  registered := echoes.registered
  enabled := echoes.enabled
  handler := echoes.handler
  events := echoes.events
  echoing := echoing
  distinct := fresh
  attended := Snapshot.attended_of_new echoes.new
  fresh id _ := by
    rw [Ledger.find?, Source.ledger, echoes.new.pending]
    rfl
  unarmed deadline outstanding := by
    rw [echoes.new.task] at outstanding
    cases outstanding

/-- What an echo does in every run in which calls with ids of their own are made, callers look and
leave, time passes and deadlines are handed out. Every call is accepted and leaves one event. The
events are answered in the order of the calls, each once, with the payload and under the id of its
call, and those that are not answered yet wait. A call is pending until its event is answered or
its deadline is handed out, and whichever comes first decides its reply, if the caller still waits
then: its own payload, or that the deadline was exceeded. At an idle moment at its deadline or later
a call has ended. -/
theorem echo_answers_own_calls {source : Source} (echoes : Echoes exchange name source)
    (echoing : ∀ action ∈ actions, action.isEchoing name = true)
    (fresh : (actions.filterMap (Action.minted? name)).Nodup) :
    let calls := actions.filterMap (Action.carried? name)
    let trace := exchange.chronicle name actions
    let answers := trace.filterMap Occurrence.answer?
    ∃ final waiting, (exchange.performAll actions).1.snapshot? name = some final ∧
      trace.filterMap Occurrence.kept? = calls.map Carried.event ∧
      calls = answers ++ waiting ∧
      trace.countP Occurrence.takesEvent = answers.length ∧
      final.source.events = waiting.map Carried.event ∧
      ∀ earlier payload metadata id later,
        actions = earlier ++ .handle name payload metadata id :: later →
          let before := (exchange.performAll earlier).1
          let handled := before.perform (.handle name payload metadata id)
          ∃ moment, before.snapshot? name = some moment ∧
            let ticket := moment.source.nextTicket
            let own := moment.deadline id
            let ending := handled.1.ending? name (Carried.event ⟨payload, id⟩) own ticket later
            handled.2 = .called ⟨ticket, true, []⟩ ∧
            (final.source.ledger.find? id = some ticket ↔ ending = none) ∧
            final.source.ledger.reply? ticket =
              some ((ending.map Ending.reply).getD .awaited) ∧
            (∀ ended, ending = some ended →
              ended.closing = .completed payload ∨ ended.closing = .expired) ∧
            (final.IsIdle → own.due ≤ final.now → ending ≠ none) := by
  intro calls trace answers
  have run := echoes.run echoing fresh
  have whole := run
  rw [← List.append_nil actions] at whole
  rcases whole.passes with ⟨waiting, passed, final⟩
  refine ⟨_, waiting, final.found, passed.kept, passed.answers, passed.taken, final.events, ?_⟩
  rintro earlier payload metadata id later rfl before handled
  rcases run.passes with ⟨left, _, called⟩
  have outcome := called.outcome_of_called
  rw [← Snapshot.undergoAll_append, ← chronicle_append] at outcome
  exact ⟨_, called.found, called.notice_handle, outcome.1, outcome.2.1,
    fun _ => closing_of_ending?, outcome.2.2⟩

/-- Two calls are made to a node with the usual options. The echo stage answers the first one in
time and the second one too late. -/
theorem echo_answers_own_calls_of_late_echo :
    let source := (Node.blueprint Directory.empty).builtInSource {}
    let exchange : Exchange :=
      { sources := Directory.ofList [("a", source)]
        registry := Directory.ofList [(source.id, "a")] }
    let actions : List Action :=
      [.spawn "a", .handle "a" "one" Directory.empty ⟨7⟩, .handle "a" "two" Directory.empty ⟨8⟩,
        .echo "a", .receive "a", .receive "a", .advance ⟨10000000000⟩, .fire "a", .echo "a"]
    exchange.Echoes "a" source ∧ (∀ action ∈ actions, action.isEchoing "a" = true) ∧
      (actions.filterMap (Action.minted? "a")).Nodup ∧
      ∃ final, (exchange.performAll actions).1.snapshot? "a" = some final ∧
        final.source.ledger.reply? 0 = some (.resolved (.completed "one")) ∧
        final.source.ledger.reply? 1 = some (.resolved (.failed .deadlineExceeded)) := by
  intro source exchange actions
  have echoes : exchange.Echoes "a" source := echoes_of_node Directory.empty
  have echoing : ∀ action ∈ actions, action.isEchoing "a" = true := by decide
  have fresh : (actions.filterMap (Action.minted? "a")).Nodup := by decide
  rcases echo_answers_own_calls echoes echoing fresh with ⟨final, _, found, _, _, _, _, outcomes⟩
  rcases outcomes (actions.take 1) "one" Directory.empty ⟨7⟩ (actions.drop 2) rfl with
    ⟨first, madeFirst, _, _, one, _⟩
  rcases outcomes (actions.take 2) "two" Directory.empty ⟨8⟩ (actions.drop 3) rfl with
    ⟨second, madeSecond, _, _, two, _⟩
  cases madeFirst
  cases madeSecond
  refine ⟨echoes, echoing, fresh, final, found, one.trans ?_, two.trans ?_⟩
  · decide +kernel
  · decide +kernel

end Exchange

end Rendezvous
