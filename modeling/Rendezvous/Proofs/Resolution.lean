import Rendezvous.Proofs.Acceptance
import Rendezvous.Proofs.Occurrence.Ordinary

/-!
# Every call is resolved once

In an ordinary run an accepted call is in the table until one dispatch or its own deadline takes it
out, and that decides its reply for good (`Exchange.calls_resolved_once`). All that is asked of the
run is that the ids of its calls differ.
-/

namespace Rendezvous

/-! ## Ids that are not entered again -/

namespace Ledger

variable {ledger : Ledger} {id : CorrelationId} {ticket : Ticket}

theorem find?_of_find?_postAll {postings : List Posting} (unentered : .entered id ∉ postings)
    (found : (ledger.postAll postings).find? id = some ticket) : ledger.find? id = some ticket := by
  induction postings generalizing ledger with
  | nil => exact found
  | cons posting rest ih =>
      rw [List.mem_cons, not_or] at unentered
      rcases find?_of_find?_post (ih unentered.2 found) with before | ⟨entered, _⟩
      · exact before
      · exact absurd entered.symm unentered.1

/-- An id whose call is closed is not in the table afterwards, unless it is entered again. -/
theorem find?_postAll_closed {postings : List Posting} {closing : Closing}
    (closed : .closed id closing ∈ postings) (unentered : .entered id ∉ postings) :
    (ledger.postAll postings).find? id = none := by
  rcases List.append_of_mem closed with ⟨earlier, later, rfl⟩
  cases found : (ledger.postAll (earlier ++ .closed id closing :: later)).find? id with
  | none => rfl
  | some ticket =>
      rw [List.mem_append, List.mem_cons, not_or, not_or] at unentered
      rw [postAll_append, postAll_cons] at found
      have before := find?_of_find?_postAll unentered.2.2 found
      rw [find?_closed, if_pos rfl] at before
      cases before

end Ledger

namespace Snapshot

variable {snapshot : Snapshot} {id : CorrelationId} {ticket : Ticket} {occurrence : Occurrence}

theorem not_entered_of_ordinary (ordinary : occurrence.isOrdinary = true)
    (unminted : occurrence.minted? ≠ some id) :
    .entered id ∉ snapshot.source.postings snapshot.now occurrence := by
  intro entered
  cases occurrence with
  | accept payload metadata other =>
      rcases mem_postings_accept entered with ⟨status, absurd⟩ | same
      · cases absurd
      · cases same
        exact unminted rfl
  | complete other payload => cases (mem_postings_complete entered).2
  | fire =>
      rcases mem_postings_fire entered with ⟨deadline, _, absurd⟩
      cases absurd
  | _ => simp_all [Source.postings, Occurrence.isOrdinary]

/-- What is pending under an id that is not made now was pending before. -/
theorem find?_of_find?_undergo (ordinary : occurrence.isOrdinary = true)
    (unminted : occurrence.minted? ≠ some id)
    (found : (snapshot.undergo occurrence).source.ledger.find? id = some ticket) :
    snapshot.source.ledger.find? id = some ticket := by
  rw [ledger_undergo] at found
  exact Ledger.find?_of_find?_postAll (not_entered_of_ordinary ordinary unminted) found

theorem find?_of_find?_undergoAll {run : List Occurrence}
    (ordinary : ∀ occurrence ∈ run, occurrence.isOrdinary = true)
    (unminted : id ∉ run.filterMap Occurrence.minted?)
    (found : (snapshot.undergoAll run).source.ledger.find? id = some ticket) :
    snapshot.source.ledger.find? id = some ticket := by
  induction run generalizing snapshot with
  | nil => exact found
  | cons occurrence rest ih =>
      have rare := Occurrence.unminted_cons unminted
      have after := ih (fun other member => ordinary other (List.mem_cons_of_mem _ member)) rare.2
        found
      exact find?_of_find?_undergo (ordinary occurrence List.mem_cons_self) rare.1 after

/-! ## Who takes a call -/

/-- Somebody takes the call with the deadline `own` out of the table: a dispatch to a source that
takes responses, which names the id of the call and finds it, or the handing out of its deadline
while it is pending. -/
inductive Takes (snapshot : Snapshot) (own : Deadline) : Occurrence → Closing → Prop
  /-- A dispatch completes the call. -/
  | completed (payload : String) (enabled : snapshot.source.enabled = true)
      (done : (snapshot.source.complete own.id payload).2 = true) :
      Takes snapshot own (.complete own.id payload) (.completed payload)
  /-- Its deadline fails the call. -/
  | expired (handed : own ∈ snapshot.source.handedOut snapshot.now)
      (pending : snapshot.source.pending.contains own.id = true) : Takes snapshot own .fire .expired

/-- In a run the call with the deadline `own` is taken out of the table by what happens after the
occurrences `earlier`. -/
def TakenAfter (snapshot : Snapshot) (own : Deadline) (run earlier : List Occurrence)
    (closing : Closing) : Prop :=
  ∃ occurrence later, run = earlier ++ occurrence :: later ∧
    (snapshot.undergoAll earlier).Takes own occurrence closing

variable {own : Deadline} {closing : Closing}

theorem Takes.contains (takes : snapshot.Takes own occurrence closing) :
    snapshot.source.pending.contains own.id = true := by
  cases takes with
  | completed payload enabled done =>
      exact Source.contains_iff.mpr ((Source.complete_iff payload).mp done).2
  | expired handed pending => exact pending

/-- Once it is taken, the id of a call is no longer in the table. -/
theorem Takes.find?_undergo (takes : snapshot.Takes own occurrence closing) :
    (snapshot.undergo occurrence).source.ledger.find? own.id = none := by
  rw [ledger_undergo]
  cases takes with
  | completed payload enabled done =>
      have closed : .closed own.id (.completed payload) ∈
          snapshot.source.postings snapshot.now (.complete own.id payload) := by
        simp [Source.postings, enabled]
      exact Ledger.find?_postAll_closed closed (by simp [Source.postings, enabled])
  | expired handed pending =>
      have closed : .closed own.id .expired ∈ snapshot.source.postings snapshot.now .fire :=
        List.mem_map.mpr ⟨own, handed, rfl⟩
      exact Ledger.find?_postAll_closed closed (by simp [Source.postings])

/-- Once it is taken, a call is not taken again. -/
theorem Takes.not_contains (takes : snapshot.Takes own occurrence closing) {run : List Occurrence}
    (ordinary : ∀ occurrence ∈ run, occurrence.isOrdinary = true)
    (unminted : own.id ∉ run.filterMap Occurrence.minted?) :
    ¬((snapshot.undergo occurrence).undergoAll run).source.pending.contains own.id = true := by
  intro contains
  rcases Source.contains_iff.mp contains with ⟨ticket, found⟩
  have before := find?_of_find?_undergoAll ordinary unminted found
  rw [takes.find?_undergo] at before
  cases before

theorem Takes.closing_eq {other : Closing} (takes : snapshot.Takes own occurrence closing)
    (again : snapshot.Takes own occurrence other) : other = closing := by
  cases takes with
  | completed payload _ _ =>
      cases again with
      | completed _ _ _ => rfl
  | expired _ _ =>
      cases again with
      | expired _ _ => rfl

theorem TakenAfter.nil_of_append {run earlier extra : List Occurrence} {another : Closing}
    (taken : snapshot.TakenAfter own run earlier closing)
    (again : snapshot.TakenAfter own run (earlier ++ extra) another)
    (ordinary : ∀ occurrence ∈ run, occurrence.isOrdinary = true)
    (unminted : own.id ∉ run.filterMap Occurrence.minted?) : extra = [] ∧ another = closing := by
  rcases taken with ⟨occurrence, later, rfl, takes⟩
  rcases again with ⟨second, last, same, also⟩
  rw [List.append_assoc, List.append_cancel_left_eq] at same
  cases extra with
  | nil =>
      cases same
      rw [List.append_nil] at also
      exact ⟨rfl, takes.closing_eq also⟩
  | cons first middle =>
      cases same
      rw [undergoAll_append, undergoAll_cons] at also
      have part : middle.Sublist (earlier ++ occurrence :: (middle ++ second :: last)) :=
        (List.sublist_append_left _ _).trans
          ((List.sublist_cons_self _ _).trans (List.sublist_append_right _ _))
      exact absurd also.contains (takes.not_contains
        (fun other member => ordinary other (part.subset member))
        fun minted => unminted ((part.filterMap _).subset minted))

/-- A call is taken only once. -/
theorem TakenAfter.unique {run earlier other : List Occurrence} {another : Closing}
    (taken : snapshot.TakenAfter own run earlier closing)
    (again : snapshot.TakenAfter own run other another)
    (ordinary : ∀ occurrence ∈ run, occurrence.isOrdinary = true)
    (unminted : own.id ∉ run.filterMap Occurrence.minted?) :
    other = earlier ∧ another = closing := by
  have first : earlier <+: run := by
    rcases taken with ⟨_, _, rfl, _⟩
    exact List.prefix_append _ _
  have second : other <+: run := by
    rcases again with ⟨_, _, rfl, _⟩
    exact List.prefix_append _ _
  rcases List.prefix_or_prefix_of_prefix first second with ⟨extra, rfl⟩ | ⟨extra, rfl⟩
  · have same := taken.nil_of_append again ordinary unminted
    exact ⟨by rw [same.1, List.append_nil], same.2⟩
  · have same := again.nil_of_append taken ordinary unminted
    exact ⟨by rw [same.1, List.append_nil], same.2.symm⟩

/-! ## One call in an ordinary run -/

theorem spares_of_ordinary (ordinary : occurrence.isOrdinary = true) :
    occurrence.Spares ticket := by
  cases occurrence with
  | resolve other outcome => cases ordinary
  | drop other => cases ordinary
  | _ => trivial

/-- In an ordinary run deadlines are armed for the calls that are made, and for nothing else. -/
theorem minted_of_mem_armings {run : List Occurrence} {deadline : Deadline}
    (ordinary : ∀ occurrence ∈ run, occurrence.isOrdinary = true)
    (armed : deadline ∈ snapshot.armings run) :
    deadline.id ∈ run.filterMap Occurrence.minted? := by
  induction run generalizing snapshot with
  | nil => cases armed
  | cons occurrence rest ih =>
      rw [List.mem_filterMap]
      rcases List.mem_append.mp armed with here | later
      · refine ⟨occurrence, List.mem_cons_self, ?_⟩
        have plain := ordinary occurrence List.mem_cons_self
        rw [Option.mem_toList] at here
        cases occurrence with
        | accept payload metadata id =>
            rcases Option.bind_eq_some_iff.mp here with ⟨handler, _, free⟩
            split at free
            · cases free
              rfl
            · cases free
        | arm id => cases plain
        | _ => cases here
      · rcases List.mem_filterMap.mp (ih (fun other member =>
          ordinary other (List.mem_cons_of_mem _ member)) later) with ⟨other, member, same⟩
        exact ⟨other, List.mem_cons_of_mem _ member, same⟩

section OneCall

variable {start : Snapshot} {payload : String} {metadata : Metadata}
  {before later : List Occurrence}

theorem unminted_of_nodup
    (fresh : ((before ++ .accept payload metadata id :: later).filterMap
      Occurrence.minted?).Nodup) :
    id ∉ before.filterMap Occurrence.minted? ∧ id ∉ later.filterMap Occurrence.minted? := by
  rw [List.filterMap_append, List.nodup_append] at fresh
  rcases fresh with ⟨_, tail, apart⟩
  have minted : (Occurrence.accept payload metadata id :: later).filterMap Occurrence.minted? =
      id :: later.filterMap Occurrence.minted? := rfl
  rw [minted] at tail apart
  refine ⟨fun earlier => apart id earlier id List.mem_cons_self rfl, ?_⟩
  exact (List.nodup_cons.mp tail).1

/-- A call is accepted in an ordinary run whose calls have ids of their own. -/
structure OrdinaryCall (start : Snapshot) (before : List Occurrence) (payload : String)
    (metadata : Metadata) (id : CorrelationId) (later : List Occurrence) : Prop where
  /-- The deadline task has not been started at first. -/
  new : start.source.task = {}
  /-- The table is sound at first. -/
  sound : start.source.ledger.Sound
  accepts : (start.undergoAll before).Accepts payload metadata id
  ordinary : ∀ occurrence ∈ before ++ .accept payload metadata id :: later,
    occurrence.isOrdinary = true
  /-- No two calls are made under one id. -/
  fresh : ((before ++ .accept payload metadata id :: later).filterMap Occurrence.minted?).Nodup

namespace OrdinaryCall

theorem ordinary_before (call : OrdinaryCall start before payload metadata id later) :
    ∀ occurrence ∈ before, occurrence.isOrdinary = true :=
  fun occurrence member => call.ordinary occurrence (List.mem_append_left _ member)

theorem ordinary_later (call : OrdinaryCall start before payload metadata id later) :
    ∀ occurrence ∈ later, occurrence.isOrdinary = true :=
  fun occurrence member =>
    call.ordinary occurrence (List.mem_append_right _ (List.mem_cons_of_mem _ member))

theorem unminted (call : OrdinaryCall start before payload metadata id later) :
    id ∉ later.filterMap Occurrence.minted? :=
  (unminted_of_nodup call.fresh).2

/-- A deadline that is handed out for the call is its own. -/
theorem eq_deadline (call : OrdinaryCall start before payload metadata id later)
    {fired : Snapshot} {deadline : Deadline}
    (member : (fired, .fire) ∈
      ((start.undergoAll before).undergo (.accept payload metadata id)).departures id
        (start.undergoAll before).source.nextTicket later)
    (handed : deadline ∈ fired.source.handedOut fired.now) (named : deadline.id = id) :
    deadline = (start.undergoAll before).deadline id := by
  have unminted := unminted_of_nodup call.fresh
  refine eq_deadline_of_fired call.new call.accepts ?_ ?_ member handed named
  · intro deadline armed named
    exact unminted.1 (named ▸ minted_of_mem_armings call.ordinary_before armed)
  · intro deadline armed named
    exact unminted.2 (named ▸ minted_of_mem_armings call.ordinary_later armed)

/-- Nobody takes the call out of the table by hand. -/
theorem not_withdrawn (call : OrdinaryCall start before payload metadata id later)
    (departure : Snapshot × Occurrence)
    (departed : departure ∈ ((start.undergoAll before).undergo
      (.accept payload metadata id)).departures id (start.undergoAll before).source.nextTicket
        later) : departure.2 ≠ .withdraw id := by
  intro same
  rcases split_of_mem_departures departed with ⟨earlier, rest, rfl, _⟩
  have plain := call.ordinary_later departure.2 (by simp)
  rw [same] at plain
  cases plain

/-- The call is pending and nobody has taken it, or it was taken and whoever took it has decided its
reply. -/
theorem pending_or_taken (call : OrdinaryCall start before payload metadata id later) :
    let moment := start.undergoAll before
    let own := moment.deadline id
    let ticket := moment.source.nextTicket
    let accepted := moment.undergo (.accept payload metadata id)
    let present := accepted.undergoAll later
    (present.source.ledger.Awaits id ticket ∧
        ∀ earlier closing, ¬accepted.TakenAfter own later earlier closing) ∨
      ∃ earlier closing, accepted.TakenAfter own later earlier closing ∧
        present.source.ledger.Ended ticket
          ((accepted.undergoAll earlier).source.ledger.verdict ticket closing.outcome) := by
  intro moment own ticket accepted present
  rcases undergoAll_awaits (sound_undergo (sound_undergoAll call.sound before) _)
    (awaits_undergo_accept call.accepts)
    (fun other member => spares_of_ordinary (call.ordinary_later other member))
    call.not_withdrawn with ⟨_, awaits⟩ | ⟨taken, occurrence, closing, departed, closes, ended⟩
  · refine Or.inl ⟨awaits, ?_⟩
    -- Had it been taken before, its id would not be in the table any more.
    rintro earlier closing ⟨occurrence, rest, rfl, takes⟩
    have last : rest.Sublist (earlier ++ occurrence :: rest) :=
      (List.sublist_cons_self _ _).trans (List.sublist_append_right _ _)
    refine takes.not_contains (fun other member => call.ordinary_later other (last.subset member))
      (fun minted => call.unminted ((last.filterMap _).subset minted)) ?_
    rw [undergoAll_append] at awaits
    exact Source.contains_iff.mpr ⟨ticket, awaits.pending⟩
  · have member := List.mem_singleton_self (taken, occurrence)
    rw [← departed] at member
    rcases split_of_mem_departures member with ⟨earlier, rest, rfl, rfl, pending⟩
    have contains : (accepted.undergoAll earlier).source.pending.contains id = true :=
      Source.contains_iff.mpr ⟨ticket, pending⟩
    refine Or.inr ⟨earlier, closing, ⟨occurrence, rest, rfl, ?_⟩, ended⟩
    cases closes with
    | completed payload enabled =>
        have done := (Source.complete_iff payload).mpr ⟨enabled, ticket, pending⟩
        exact .completed payload enabled done
    | expired handed named =>
        rw [call.eq_deadline member handed named] at handed
        exact .expired handed contains

/-- The id of the call is in the table if and only if nobody has taken the call. -/
theorem contains_iff_untaken (call : OrdinaryCall start before payload metadata id later) :
    let moment := start.undergoAll before
    let accepted := moment.undergo (.accept payload metadata id)
    (accepted.undergoAll later).source.pending.contains id = true ↔
      ¬∃ earlier closing, accepted.TakenAfter (moment.deadline id) later earlier closing := by
  intro moment accepted
  constructor
  · rintro contains ⟨earlier, closing, taken⟩
    rcases call.pending_or_taken with ⟨_, untaken⟩ | ⟨_, _, _, ended⟩
    · exact untaken earlier closing taken
    · rcases Source.contains_iff.mp contains with ⟨other, held⟩
      have before := find?_of_find?_undergoAll call.ordinary_later call.unminted held
      have same := (awaits_undergo_accept call.accepts).pending.symm.trans before
      exact ended.gone id (held.trans same.symm)
  · intro untaken
    rcases call.pending_or_taken with ⟨awaits, _⟩ | ⟨earlier, closing, taken, _⟩
    · exact Source.contains_iff.mpr ⟨moment.source.nextTicket, awaits.pending⟩
    · exact absurd ⟨earlier, closing, taken⟩ untaken

/-- Whoever takes the call decides its reply. -/
theorem reply_of_taken (call : OrdinaryCall start before payload metadata id later) :
    let moment := start.undergoAll before
    let ticket := moment.source.nextTicket
    let accepted := moment.undergo (.accept payload metadata id)
    ∀ earlier closing, accepted.TakenAfter (moment.deadline id) later earlier closing →
      (accepted.undergoAll later).source.ledger.reply? ticket =
        some (if (accepted.undergoAll earlier).source.listens ticket then
          .resolved closing.outcome else .lost) := by
  intro moment ticket accepted earlier closing taken
  rcases call.pending_or_taken with ⟨_, untaken⟩ | ⟨first, decided, takenFirst, ended⟩
  · exact absurd taken (untaken earlier closing)
  · have same := takenFirst.unique taken call.ordinary_later call.unminted
    rw [same.1, same.2]
    exact ended.replied

/-- A reply stays as it is, whatever happens. -/
theorem reply_stays (call : OrdinaryCall start before payload metadata id later)
    (rest : List Occurrence) :
    let moment := start.undergoAll before
    let ticket := moment.source.nextTicket
    let present := (moment.undergo (.accept payload metadata id)).undergoAll later
    ∀ reply, present.source.ledger.reply? ticket = some reply → reply ≠ .awaited →
      (present.undergoAll rest).source.ledger.reply? ticket = some reply := by
  intro moment ticket present reply replied decided
  rcases call.pending_or_taken with ⟨awaits, _⟩ | ⟨earlier, closing, _, ended⟩
  · have waiting := awaits.awaited.symm.trans replied
    exact absurd (Option.some.inj waiting).symm decided
  · rw [← replied, ended.replied]
    have final := undergoAll_ended ended (Ledger.verdict_ne_awaited _ _ _) id rest
    exact final.2.replied

/-- A reply with an outcome is the doing of whoever took the call. -/
theorem taken_of_reply (call : OrdinaryCall start before payload metadata id later) :
    let moment := start.undergoAll before
    let accepted := moment.undergo (.accept payload metadata id)
    ∀ outcome, (accepted.undergoAll later).source.ledger.reply? moment.source.nextTicket =
        some (.resolved outcome) →
      ∃ earlier closing, accepted.TakenAfter (moment.deadline id) later earlier closing ∧
        closing.outcome = outcome := by
  intro moment accepted outcome replied
  rcases call.pending_or_taken with ⟨awaits, _⟩ | ⟨earlier, closing, taken, ended⟩
  · cases awaits.awaited.symm.trans replied
  · have decided := Ledger.eq_of_verdict (Option.some.inj (ended.replied.symm.trans replied))
    exact ⟨earlier, closing, taken, decided⟩

end OrdinaryCall

end OneCall

end Snapshot

/-- Nothing has happened to a source. -/
structure Source.IsNew (source : Source) : Prop where
  /-- The table is empty. -/
  pending : source.pending = {}
  /-- No calls were made. -/
  calls : source.calls = []
  /-- The deadline task has not been started. -/
  task : source.task = {}

namespace Exchange

/-- What holds of every call that is accepted in an ordinary run whose calls have ids of their own.
The id of the call is in the table if and only if nobody has taken the call. It is taken once at
most, by a dispatch that names it or by its own deadline, and whoever takes it decides its reply. A
reply stays as it is, and it says by whom the call was taken. -/
theorem calls_resolved_once {exchange : Exchange} {name : SourceName} {start : Snapshot}
    (found : exchange.snapshot? name = some start) (new : start.source.IsNew)
    {actions : List Action} (ordinary : ∀ action ∈ actions, action.isOrdinary name = true)
    (fresh : (actions.filterMap (Action.minted? name)).Nodup) :
    (exchange.performAll actions).1.snapshot? name =
        some (start.undergoAll (exchange.chronicle name actions)) ∧
      ∀ before payload metadata id later rest,
        exchange.chronicle name actions =
            before ++ .accept payload metadata id :: (later ++ rest) →
          let moment := start.undergoAll before
          let own := moment.deadline id
          let ticket := moment.source.nextTicket
          let accepted := moment.undergo (.accept payload metadata id)
          let present := accepted.undergoAll later
          let final := present.undergoAll rest
          moment.Accepts payload metadata id →
            (present.source.pending.contains id = true ↔
              ¬∃ earlier closing, accepted.TakenAfter own later earlier closing) ∧
            (∀ earlier closing, accepted.TakenAfter own later earlier closing →
              (∀ other another, accepted.TakenAfter own later other another →
                other = earlier ∧ another = closing) ∧
              present.source.ledger.reply? ticket =
                some (if (accepted.undergoAll earlier).source.listens ticket then
                  .resolved closing.outcome else .lost)) ∧
            (∀ reply, present.source.ledger.reply? ticket = some reply → reply ≠ .awaited →
              final.source.ledger.reply? ticket = some reply) ∧
            (∀ response,
              present.source.ledger.reply? ticket = some (.resolved (.completed response)) →
                ∃ earlier, accepted.TakenAfter own later earlier (.completed response)) ∧
            ∀ status, present.source.ledger.reply? ticket = some (.resolved (.failed status)) →
              status = .deadlineExceeded ∧
                ∃ earlier, accepted.TakenAfter own later earlier .expired := by
  refine ⟨by rw [snapshot?_performAll, found, Option.map_some], ?_⟩
  intro before payload metadata id later rest parts moment own ticket accepted present final accepts
  have part : (before ++ .accept payload metadata id :: later).Sublist
      (exchange.chronicle name actions) := by
    rw [parts]
    exact ((List.sublist_append_left later rest).cons_cons _).append_left before
  have distinct : ((exchange.chronicle name actions).filterMap Occurrence.minted?).Nodup := by
    rwa [minted_chronicle]
  have call : start.OrdinaryCall before payload metadata id later :=
    { new := new.task
      sound := Ledger.sound_of_empty (by rw [Source.ledger, new.pending])
      accepts := accepts
      ordinary := fun occurrence member => ordinary_chronicle ordinary (part.subset member)
      fresh := distinct.sublist (part.filterMap _) }
  refine ⟨call.contains_iff_untaken, ?_, call.reply_stays rest, ?_, ?_⟩
  · intro earlier closing taken
    refine ⟨fun other another again => ?_, call.reply_of_taken earlier closing taken⟩
    exact taken.unique again call.ordinary_later call.unminted
  · intro response replied
    rcases call.taken_of_reply _ replied with ⟨earlier, closing, taken, decided⟩
    cases closing with
    | completed payload =>
        cases decided
        exact ⟨earlier, taken⟩
    | expired => cases decided
  · intro status replied
    rcases call.taken_of_reply _ replied with ⟨earlier, closing, taken, decided⟩
    cases closing with
    | completed payload => cases decided
    | expired =>
        cases decided
        exact ⟨rfl, earlier, taken⟩

/-- One call is made to a source, and a dispatch completes it. -/
theorem calls_resolved_once_of_dispatch :
    let source : Source :=
      { id := "echo", timeout := ⟨5⟩, handler := some { listener := { keeps := false } } }
    let exchange : Exchange := { sources := Directory.ofList [("a", source)] }
    let actions : List Action :=
      [.handle "a" "in" Directory.empty ⟨7⟩, .dispatch (.typed "a" ⟨7⟩ "out")]
    exchange.snapshot? "a" = some ⟨0, source⟩ ∧ source.IsNew ∧
      (∀ action ∈ actions, action.isOrdinary "a" = true) ∧
      (actions.filterMap (Action.minted? "a")).Nodup ∧
      ∃ earlier, ((⟨0, source⟩ : Snapshot).undergo (.accept "in" Directory.empty ⟨7⟩)).TakenAfter
        ⟨5, ⟨7⟩⟩ [.complete ⟨7⟩ "out"] earlier (.completed "out") := by
  intro source exchange actions
  have found : exchange.snapshot? "a" = some ⟨0, source⟩ := rfl
  have new : source.IsNew := ⟨rfl, rfl, rfl⟩
  have ordinary : ∀ action ∈ actions, action.isOrdinary "a" = true := by
    intro action member
    simp only [actions, List.mem_cons, List.not_mem_nil, or_false] at member
    rcases member with rfl | rfl <;> rfl
  have fresh : (actions.filterMap (Action.minted? "a")).Nodup := by decide
  have resolved := (calls_resolved_once found new ordinary fresh).2 [] "in" Directory.empty ⟨7⟩
    [.complete ⟨7⟩ "out"] [] rfl ⟨_, rfl, rfl⟩
  exact ⟨found, new, ordinary, fresh, resolved.2.2.2.1 "out" rfl⟩

end Exchange

end Rendezvous
