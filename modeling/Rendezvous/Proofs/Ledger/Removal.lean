import Rendezvous.Proofs.Deadlines.Progress
import Rendezvous.Proofs.Ledger.Leaving
import Rendezvous.Proofs.Ledger.Settlement

/-!
# How a pending call is settled

In an ordinary run a call is pending because it was accepted (`Snapshot.accepted_of_find?`). It has
no settlement while it is pending, and exactly one once it is not: by a dispatch that names its id
or by its own deadline (`Snapshot.OrdinaryCall.pending_or_settled`). So nothing is pending at an idle
moment after all deadlines (`Snapshot.size_eq_zero_of_idle`), and a deadline task that was started
can always get there (`Snapshot.exists_empty`).
-/

namespace Rendezvous

namespace Source

variable {source : Source} {id : CorrelationId} {ticket : Ticket}

theorem settlement?_of_find? (found : source.ledger.find? id = some ticket) (cause : Cause) :
    source.settlement? id cause = some ⟨id, ticket, cause, source.ledger.listens ticket⟩ := by
  rw [settlement?, found]
  rfl

theorem settlement?_of_none (absent : source.ledger.find? id = none) (cause : Cause) :
    source.settlement? id cause = none := by
  rw [settlement?, absent]
  rfl

theorem id_of_settlement? {cause : Cause} {settled : Settlement}
    (here : source.settlement? id cause = some settled) : settled.id = id := by
  rcases Option.map_eq_some_iff.mp here with ⟨_, _, rfl⟩
  rfl

theorem find?_expire (source : Source) (id other : CorrelationId) :
    (source.expire other).ledger.find? id =
      if id = other then none else source.ledger.find? id := by
  rw [expire_eq, ledger_withLedger, Ledger.find?_closed]

theorem listens_expire (source : Source) (other : CorrelationId) (ticket : Ticket) :
    (source.expire other).ledger.listens ticket = source.ledger.listens ticket := by
  rw [expire_eq, ledger_withLedger, Ledger.listens_closed]

theorem named_of_expiration {deadlines : List Deadline} {settled : Settlement}
    (member : settled ∈ source.expirations deadlines) :
    ∃ deadline ∈ deadlines, deadline.id = settled.id := by
  induction deadlines generalizing source with
  | nil => cases member
  | cons deadline rest ih =>
      rcases List.mem_append.mp member with here | later
      · exact ⟨deadline, List.mem_cons_self,
          (id_of_settlement? (Option.mem_toList.mp here)).symm⟩
      · rcases ih later with ⟨other, present, same⟩
        exact ⟨other, List.mem_cons_of_mem _ present, same⟩

/-- What is not in the table is not settled by a deadline. -/
theorem expirations_of_absent (absent : source.ledger.find? id = none) (deadlines : List Deadline) :
    (source.expirations deadlines).filter (fun settled => decide (settled.id = id)) = [] := by
  induction deadlines generalizing source with
  | nil => rfl
  | cons deadline rest ih =>
      have later : (source.expire deadline.id).ledger.find? id = none := by
        rw [find?_expire, absent, ite_self]
      rw [expirations, List.filter_append, ih later, List.append_nil, List.filter_eq_nil_iff]
      intro settled here same
      rw [Option.mem_toList] at here
      have own := of_decide_eq_true same
      rw [id_of_settlement? here] at own
      rw [settlement?_of_none (own ▸ absent)] at here
      cases here

/-- Of the deadlines that are handed out together the first one for its id settles a call. -/
theorem expirations_of_pending (found : source.ledger.find? id = some ticket)
    {deadlines : List Deadline} (named : ∃ deadline ∈ deadlines, deadline.id = id) :
    ∃ deadline ∈ deadlines, deadline.id = id ∧
      (source.expirations deadlines).filter (fun settled => decide (settled.id = id)) =
        [⟨id, ticket, .deadline deadline.due, source.ledger.listens ticket⟩] := by
  induction deadlines generalizing source with
  | nil => simp at named
  | cons deadline rest ih =>
      by_cases same : deadline.id = id
      · refine ⟨deadline, List.mem_cons_self, same, ?_⟩
        have gone : (source.expire deadline.id).ledger.find? id = none := by
          rw [find?_expire, if_pos same.symm]
        rw [expirations, List.filter_append, expirations_of_absent gone, List.append_nil, same,
          settlement?_of_find? found]
        simp
      · have still : (source.expire deadline.id).ledger.find? id = some ticket := by
          rw [find?_expire, if_neg (Ne.symm same), found]
        have later : ∃ other ∈ rest, other.id = id := by
          rcases named with ⟨other, member, own⟩
          rcases List.mem_cons.mp member with rfl | member
          · exact absurd own same
          · exact ⟨other, member, own⟩
        rcases ih still later with ⟨other, member, own, settled⟩
        refine ⟨other, List.mem_cons_of_mem _ member, own, ?_⟩
        have first : (source.settlement? deadline.id (.deadline deadline.due)).toList.filter
            (fun settled => decide (settled.id = id)) = [] := by
          rw [List.filter_eq_nil_iff]
          intro settled here also
          rw [Option.mem_toList] at here
          exact same ((id_of_settlement? here).symm.trans (of_decide_eq_true also))
        rw [expirations, List.filter_append, first, List.nil_append, settled, listens_expire]

end Source

namespace Snapshot

variable {snapshot start : Snapshot} {id : CorrelationId} {ticket : Ticket}
  {occurrence : Occurrence}

/-! ## One settlement -/

/-- An occurrence settles the call that is pending under an id: a dispatch to a source that takes
responses, or the firing of a deadline for the id. -/
inductive Settles (snapshot : Snapshot) (id : CorrelationId) : Occurrence → Cause → Prop
  /-- A dispatch names the id. -/
  | dispatched (payload : String) (enabled : snapshot.source.enabled = true) :
      Settles snapshot id (.complete id payload) (.dispatch payload)
  /-- A deadline for the id is handed out. -/
  | expired {deadline : Deadline} (handed : deadline ∈ snapshot.source.handedOut snapshot.now)
      (named : deadline.id = id) : Settles snapshot id .fire (.deadline deadline.due)

/-- The settlements of the call under an id. -/
def settlementsOf (snapshot : Snapshot) (id : CorrelationId) (run : List Occurrence) :
    List Settlement :=
  (snapshot.settlements run).filter fun settled => decide (settled.id = id)

theorem settlementsOf_append (snapshot : Snapshot) (id : CorrelationId)
    (earlier later : List Occurrence) :
    snapshot.settlementsOf id (earlier ++ later) =
      snapshot.settlementsOf id earlier ++ (snapshot.undergoAll earlier).settlementsOf id later := by
  rw [settlementsOf, settlements_append, List.filter_append]
  rfl

theorem settlementsOf_cons (snapshot : Snapshot) (id : CorrelationId) (occurrence : Occurrence)
    (rest : List Occurrence) :
    snapshot.settlementsOf id (occurrence :: rest) =
      (snapshot.source.settlements snapshot.now occurrence).filter
          (fun settled => decide (settled.id = id)) ++
        (snapshot.undergo occurrence).settlementsOf id rest := by
  rw [settlementsOf, settlements, List.filter_append]
  rfl

/-- What is not in the table is not settled. -/
theorem settlements_of_absent (absent : snapshot.source.ledger.find? id = none) :
    (snapshot.source.settlements snapshot.now occurrence).filter
      (fun settled => decide (settled.id = id)) = [] := by
  cases occurrence with
  | complete other payload =>
      rw [List.filter_eq_nil_iff]
      intro settled here same
      rw [Source.settlements] at here
      split at here
      · rw [Option.mem_toList] at here
        have own := of_decide_eq_true same
        rw [Source.id_of_settlement? here] at own
        rw [Source.settlement?_of_none (own ▸ absent)] at here
        cases here
      · cases here
  | fire => exact Source.expirations_of_absent absent _
  | _ => rfl

/-- A call that is settled is not in the table afterwards. -/
theorem find?_of_settled {settled : Settlement}
    (member : settled ∈ snapshot.source.settlements snapshot.now occurrence) :
    (snapshot.undergo occurrence).source.ledger.find? settled.id = none := by
  rw [ledger_undergo]
  cases occurrence with
  | complete other payload =>
      rw [Source.settlements] at member
      split at member
      · rename_i enabled
        rw [Option.mem_toList] at member
        rw [Source.id_of_settlement? member]
        have closed : .closed other (.completed payload) ∈
            snapshot.source.postings snapshot.now (.complete other payload) := by
          simp [Source.postings, enabled]
        exact Ledger.find?_postAll_closed closed (by simp [Source.postings, enabled])
      · cases member
  | fire =>
      rcases Source.named_of_expiration member with ⟨deadline, handed, same⟩
      have closed : .closed settled.id .expired ∈
          snapshot.source.postings snapshot.now .fire :=
        List.mem_map.mpr ⟨deadline, handed, by rw [same]⟩
      exact Ledger.find?_postAll_closed closed (by simp [Source.postings])
  | _ => cases member

/-- A pending call stays pending and is not settled, unless somebody takes it out of the table; and
if it was not taken by hand, it is settled once. -/
theorem settlements_of_awaits (sound : snapshot.source.ledger.Sound)
    (awaits : snapshot.source.ledger.Awaits id ticket)
    (ordinary : occurrence.isOrdinary = true) :
    ((snapshot.undergo occurrence).source.ledger.Awaits id ticket ∧
        (snapshot.source.settlements snapshot.now occurrence).filter
          (fun settled => decide (settled.id = id)) = []) ∨
      ∃ cause, snapshot.Settles id occurrence cause ∧
        (snapshot.source.settlements snapshot.now occurrence).filter
            (fun settled => decide (settled.id = id)) =
          [⟨id, ticket, cause, snapshot.source.ledger.listens ticket⟩] ∧
        (snapshot.undergo occurrence).source.ledger.Ended ticket
          (snapshot.source.ledger.verdict ticket cause.closing.outcome) := by
  rcases undergo_awaits sound awaits (spares_of_ordinary ordinary) with
    still | rfl | ⟨closing, closes, ended⟩
  · refine Or.inl ⟨still, ?_⟩
    rw [List.filter_eq_nil_iff]
    intro settled member same
    have gone := find?_of_settled member
    rw [of_decide_eq_true same, still.pending] at gone
    cases gone
  · cases ordinary
  · cases closes with
    | completed payload enabled =>
        refine Or.inr ⟨.dispatch payload, .dispatched payload enabled, ?_, ended⟩
        rw [Source.settlements, if_pos enabled, Source.settlement?_of_find? awaits.pending]
        simp
    | expired handed named =>
        rcases Source.expirations_of_pending awaits.pending ⟨_, handed, named⟩ with
          ⟨deadline, member, own, settled⟩
        exact Or.inr ⟨.deadline deadline.due, .expired member own, settled, ended⟩

/-! ## A run -/

/-- A call that is not in the table and is not made in an ordinary run is not settled in it. -/
theorem settlementsOf_of_absent (absent : snapshot.source.ledger.find? id = none)
    {run : List Occurrence} (ordinary : ∀ occurrence ∈ run, occurrence.isOrdinary = true)
    (unminted : id ∉ run.filterMap Occurrence.minted?) : snapshot.settlementsOf id run = [] := by
  induction run generalizing snapshot with
  | nil => rfl
  | cons occurrence rest ih =>
      have rare := Occurrence.unminted_cons unminted
      have later : (snapshot.undergo occurrence).source.ledger.find? id = none := by
        cases found : (snapshot.undergo occurrence).source.ledger.find? id with
        | none => rfl
        | some ticket =>
            have before := find?_of_find?_undergo (ordinary occurrence List.mem_cons_self) rare.1
              found
            rw [absent] at before
            cases before
      rw [settlementsOf_cons, settlements_of_absent absent, List.nil_append]
      exact ih later (fun other member => ordinary other (List.mem_cons_of_mem _ member)) rare.2

/-- A call that awaits its reply does so at the end of an ordinary run and is not settled in it, or
it is settled once. -/
theorem settlementsOf_of_awaits (sound : snapshot.source.ledger.Sound)
    (awaits : snapshot.source.ledger.Awaits id ticket) {run : List Occurrence}
    (ordinary : ∀ occurrence ∈ run, occurrence.isOrdinary = true)
    (unminted : id ∉ run.filterMap Occurrence.minted?) :
    ((snapshot.undergoAll run).source.ledger.Awaits id ticket ∧
        snapshot.settlementsOf id run = []) ∨
      ∃ earlier occurrence later cause, run = earlier ++ occurrence :: later ∧
        let before := snapshot.undergoAll earlier
        before.Settles id occurrence cause ∧ before.source.ledger.find? id = some ticket ∧
          snapshot.settlementsOf id run =
            [⟨id, ticket, cause, before.source.ledger.listens ticket⟩] ∧
          (before.undergo occurrence).source.ledger.Ended ticket
            (before.source.ledger.verdict ticket cause.closing.outcome) := by
  induction run generalizing snapshot with
  | nil => exact Or.inl ⟨awaits, rfl⟩
  | cons occurrence rest ih =>
      have plain := ordinary occurrence List.mem_cons_self
      have later : ∀ other ∈ rest, other.isOrdinary = true :=
        fun other member => ordinary other (List.mem_cons_of_mem _ member)
      have absent := (Occurrence.unminted_cons unminted).2
      rw [settlementsOf_cons]
      rcases settlements_of_awaits sound awaits plain with
        ⟨still, none⟩ | ⟨cause, settles, settled, ended⟩
      · rw [none, List.nil_append]
        rcases ih (sound_undergo sound occurrence) still later absent with
          ⟨final, untouched⟩ | ⟨earlier, other, last, cause, rfl, settles⟩
        · exact Or.inl ⟨final, untouched⟩
        · exact Or.inr ⟨occurrence :: earlier, other, last, cause, rfl, settles⟩
      · have gone : (snapshot.undergo occurrence).source.ledger.find? id = none := by
          have member : (⟨id, ticket, cause, snapshot.source.ledger.listens ticket⟩ : Settlement) ∈
              snapshot.source.settlements snapshot.now occurrence :=
            (List.mem_filter.mp (settled ▸ List.mem_singleton_self _)).1
          exact find?_of_settled member
        refine Or.inr ⟨[], occurrence, rest, cause, rfl, settles, awaits.pending, ?_, ended⟩
        rw [settled, settlementsOf_of_absent gone later absent, List.append_nil]
        rfl

/-- A call whose caller has left is settled without a caller. -/
theorem not_waited_of_left (sound : snapshot.source.ledger.Sound)
    (awaits : snapshot.source.ledger.Awaits id ticket)
    (left : snapshot.source.ledger.listens ticket = false) {run : List Occurrence}
    (ordinary : ∀ occurrence ∈ run, occurrence.isOrdinary = true)
    (unminted : id ∉ run.filterMap Occurrence.minted?) {settled : Settlement}
    (member : settled ∈ snapshot.settlementsOf id run) : settled.waited = false := by
  rcases settlementsOf_of_awaits sound awaits ordinary unminted with
    ⟨_, none⟩ | ⟨earlier, _, _, _, rfl, _, _, once, _⟩
  · rw [none] at member
    cases member
  · rw [once, List.mem_singleton] at member
    subst member
    refine Bool.eq_false_iff.mpr fun waits => ?_
    have made := Ledger.made_of_reply? awaits.awaited
    rw [listens_of_listens_undergoAll made waits] at left
    cases left

theorem mem_departures {earlier : List Occurrence}
    (pending : (snapshot.undergoAll earlier).source.ledger.find? id = some ticket)
    (gone : ((snapshot.undergoAll earlier).undergo occurrence).source.ledger.find? id ≠
      some ticket) (later : List Occurrence) :
    (snapshot.undergoAll earlier, occurrence) ∈
      snapshot.departures id ticket (earlier ++ occurrence :: later) := by
  induction earlier generalizing snapshot with
  | nil =>
      rw [undergoAll_nil] at pending gone
      rw [undergoAll_nil, List.nil_append, departures_of_gone pending gone]
      exact List.mem_cons_self
  | cons first rest ih => exact List.mem_append_right _ (ih pending gone)

/-! ## One call in an ordinary run -/

end Snapshot

/-- A cause for which a call with a deadline may be settled: any dispatch, but its own deadline
only. -/
def Cause.IsFor (due : Instant) : Cause → Prop
  | .dispatch _ => True
  | .deadline other => other = due

namespace Snapshot

variable {start : Snapshot} {before later : List Occurrence} {payload : String}
  {metadata : Metadata} {id : CorrelationId}

/-- A call is made under an id at one place of a run only. -/
theorem eq_of_split {before other later last : List Occurrence} {payload another : String}
    {metadata fields : Metadata}
    (distinct : ((before ++ .accept payload metadata id :: later).filterMap
      Occurrence.minted?).Nodup)
    (same : before ++ .accept payload metadata id :: later =
      other ++ .accept another fields id :: last) :
    before = other ∧ payload = another ∧ metadata = fields ∧ later = last := by
  have first := unminted_of_nodup distinct
  rw [same] at distinct
  have second := unminted_of_nodup distinct
  have minted : ∀ payload metadata (rest : List Occurrence),
      id ∈ (.accept payload metadata id :: rest).filterMap Occurrence.minted? := by
    intro payload metadata rest
    exact List.mem_cons_self
  rcases List.append_eq_append_iff.mp same with ⟨extra, rfl, rest⟩ | ⟨extra, rfl, rest⟩
  · cases extra with
    | nil =>
        cases rest
        exact ⟨(List.append_nil _).symm, rfl, rfl, rfl⟩
    | cons occurrence more =>
        cases rest
        rw [List.filterMap_append, List.mem_append, not_or] at second
        exact absurd (minted _ _ _) second.1.2
  · cases extra with
    | nil =>
        cases rest
        exact ⟨List.append_nil _, rfl, rfl, rfl⟩
    | cons occurrence more =>
        cases rest
        rw [List.filterMap_append, List.mem_append, not_or] at first
        exact absurd (minted _ _ _) first.1.2

namespace OrdinaryCall

/-- The call is pending and has not been settled, or it has been settled once, and that has decided
its reply. -/
theorem pending_or_settled (call : OrdinaryCall start before payload metadata id later) :
    let moment := start.undergoAll before
    let ticket := moment.source.nextTicket
    let accepted := moment.undergo (.accept payload metadata id)
    let present := accepted.undergoAll later
    (present.source.ledger.Awaits id ticket ∧ accepted.settlementsOf id later = []) ∨
      ∃ cause waited, cause.IsFor (moment.deadline id).due ∧
        accepted.settlementsOf id later = [⟨id, ticket, cause, waited⟩] ∧
        present.source.ledger.Ended ticket
          (if waited then .resolved cause.closing.outcome else .lost) := by
  intro moment ticket accepted present
  rcases settlementsOf_of_awaits (sound_undergo (sound_undergoAll call.sound before) _)
    (awaits_undergo_accept call.accepts) call.ordinary_later call.unminted with
    awaits | ⟨earlier, occurrence, rest, cause, rfl, settles, pending, settled, ended⟩
  · exact Or.inl awaits
  · refine Or.inr ⟨cause, _, ?_, settled, ?_⟩
    · cases settles with
      | dispatched payload enabled => trivial
      | expired handed named =>
          have departed := mem_departures pending (ended.gone id) rest
          exact congrArg Deadline.due (call.eq_deadline departed handed named)
    · have final := ended.postAll (Ledger.verdict_ne_awaited _ _ _)
        (((accepted.undergoAll earlier).undergo occurrence).postings rest)
      rw [← ledger_undergoAll, Ledger.verdict] at final
      simpa [present, undergoAll_append] using final

/-- The call is settled after it was made. -/
theorem settlementsOf_eq (call : OrdinaryCall start before payload metadata id later)
    (absent : start.source.ledger.find? id = none) :
    start.settlementsOf id (before ++ .accept payload metadata id :: later) =
      ((start.undergoAll before).undergo (.accept payload metadata id)).settlementsOf id later := by
  rw [settlementsOf_append, settlementsOf_of_absent absent call.ordinary_before
    (unminted_of_nodup call.fresh).1, List.nil_append, settlementsOf_cons]
  rfl

/-- While the id of the call is in the table, the call awaits its reply. -/
theorem awaits_of_contains (call : OrdinaryCall start before payload metadata id later) :
    let moment := start.undergoAll before
    let present := (moment.undergo (.accept payload metadata id)).undergoAll later
    present.source.pending.contains id = true →
      present.source.ledger.Awaits id moment.source.nextTicket := by
  intro moment present contains
  rcases call.pending_or_taken with ⟨awaits, _⟩ | ⟨_, _, taken, _⟩
  · exact awaits
  · exact absurd ⟨_, _, taken⟩ (call.contains_iff_untaken.mp contains)

/-- While the id of the call is in the table, nobody has disturbed the call. -/
theorem undisturbed_of_awaits (call : OrdinaryCall start before payload metadata id later)
    (awaits : (((start.undergoAll before).undergo (.accept payload metadata id)).undergoAll
      later).source.ledger.Awaits id (start.undergoAll before).source.nextTicket) :
    start.Undisturbed before payload metadata id later where
  accepts := call.accepts
  unarmed deadline armed named :=
    (unminted_of_nodup call.fresh).1 (named ▸ minted_of_mem_armings call.ordinary_before armed)
  alone deadline armed named :=
    call.unminted (named ▸ minted_of_mem_armings call.ordinary_later armed)
  spares occurrence member := spares_of_ordinary (call.ordinary_later occurrence member)
  kept departure departed := by
    rcases undergoAll_awaits (sound_undergo (sound_undergoAll call.sound before) _)
      (awaits_undergo_accept call.accepts)
      (fun other member => spares_of_ordinary (call.ordinary_later other member))
      call.not_withdrawn with ⟨none, _⟩ | ⟨_, _, _, _, _, ended⟩
    · rw [none] at departed
      cases departed
    · exact absurd awaits.pending (ended.gone id)

end OrdinaryCall

/-- In an ordinary run a call is pending because it was accepted. -/
theorem accepted_of_find? {run : List Occurrence} {ticket : Ticket}
    (ordinary : ∀ occurrence ∈ run, occurrence.isOrdinary = true)
    (found : (start.undergoAll run).source.ledger.find? id = some ticket) :
    start.source.ledger.find? id = some ticket ∨
      ∃ before payload metadata later, run = before ++ .accept payload metadata id :: later ∧
        (start.undergoAll before).Accepts payload metadata id := by
  induction run generalizing start with
  | nil => exact Or.inl found
  | cons occurrence rest ih =>
      rcases ih (fun other member => ordinary other (List.mem_cons_of_mem _ member)) found with
        here | ⟨before, payload, metadata, later, rfl, accepts⟩
      · rcases find?_undergo here with already | ⟨entered, _⟩
        · exact Or.inl already
        · right
          by_cases minted : occurrence.minted? = some id
          · cases occurrence with
            | accept payload metadata other =>
                cases minted
                cases handled : start.source.handler with
                | none => simp [Source.postings, handled] at entered
                | some handler =>
                    cases free : start.source.refusal? handler metadata id with
                    | some status =>
                        simp [Source.postings, handled, Source.admission, free] at entered
                    | none =>
                        exact ⟨[], payload, metadata, rest, rfl,
                          accepts_iff.mpr ⟨handler, handled, free⟩⟩
            | _ => cases minted
          · have absent : .entered id ∉ start.source.postings start.now occurrence :=
              not_entered_of_ordinary (ordinary occurrence List.mem_cons_self) minted
            rw [entered] at absent
            exact absurd (List.mem_singleton_self _) absent
      · exact Or.inr ⟨occurrence :: before, payload, metadata, later, rfl, accepts⟩

/-- The deadlines of all calls that were accepted in a run have passed. -/
def AllDue (start : Snapshot) (run : List Occurrence) : Prop :=
  ∀ before payload metadata id later, run = before ++ .accept payload metadata id :: later →
    (start.undergoAll before).Accepts payload metadata id →
      ((start.undergoAll before).deadline id).due ≤ (start.undergoAll run).now

/-- At an idle moment after the deadlines of all calls the table is empty. -/
theorem size_eq_zero_of_idle (new : start.source.IsNew) {run : List Occurrence}
    (ordinary : ∀ occurrence ∈ run, occurrence.isOrdinary = true)
    (distinct : (run.filterMap Occurrence.minted?).Nodup) (idle : (start.undergoAll run).IsIdle)
    (allDue : start.AllDue run) : (start.undergoAll run).source.pending.size = 0 := by
  have empty : start.source.pending.entries = Directory.empty := by rw [new.pending]
  have sound : start.source.ledger.Sound := Ledger.sound_of_empty empty
  have absent : ∀ id, (start.undergoAll run).source.ledger.find? id = none := by
    intro id
    cases found : (start.undergoAll run).source.ledger.find? id with
    | none => rfl
    | some ticket =>
        rcases accepted_of_find? ordinary found with
          already | ⟨before, payload, metadata, later, rfl, accepts⟩
        · simp [Ledger.find?, Source.ledger, empty] at already
        · have call : OrdinaryCall start before payload metadata id later :=
            { new := new.task, sound, accepts, ordinary, fresh := distinct }
          have due := allDue before payload metadata id later rfl accepts
          rw [undergoAll_append, undergoAll_cons] at found idle due
          have awaits := call.awaits_of_contains (Source.contains_iff.mpr ⟨ticket, found⟩)
          rw [deadline, timeout_undergoAll] at due
          rcases (call.undisturbed_of_awaits awaits).ended_of_idle new.task sound idle due with
            ⟨_, _, ended⟩
          exact absurd awaits.pending (ended.gone id)
  cases entries : (start.undergoAll run).source.pending.entries.entries with
  | nil => simp [Pending.size, Directory.size, entries]
  | cons entry rest =>
      have held : (start.undergoAll run).source.ledger.find? entry.1 = some entry.2 :=
        Directory.find?_eq_some_iff.mpr (entries ▸ List.mem_cons_self)
      rw [absent] at held
      cases held

/-- The deadline task accepts no calls. -/
theorem AllDue.append_steps {run steps : List Occurrence} (allDue : start.AllDue run)
    (own : ∀ step ∈ steps, step.isStep = true) : start.AllDue (run ++ steps) := by
  intro before payload metadata id later parts accepts
  have foreign : .accept payload metadata id ∉ steps := by
    intro member
    cases own _ member
  have passed : (start.undergoAll run).now ≤ (start.undergoAll (run ++ steps)).now := by
    rw [undergoAll_append]
    exact now_le_undergoAll _ steps
  rcases List.append_eq_append_iff.mp parts with ⟨extra, rfl, rest⟩ | ⟨extra, rfl, rest⟩
  · exact absurd (rest ▸ List.mem_append_right _ List.mem_cons_self) foreign
  · cases extra with
    | nil =>
        rw [List.nil_append] at rest
        exact absurd (rest ▸ List.mem_cons_self) foreign
    | cons first more =>
        cases rest
        exact Nat.le_trans (allDue before payload metadata id more rfl accepts) passed

/-- Once the deadlines of all calls have passed, a deadline task that was started can empty the table
by its own steps alone. -/
theorem exists_empty (new : start.source.IsNew) {run : List Occurrence}
    (ordinary : ∀ occurrence ∈ run, occurrence.isOrdinary = true)
    (distinct : (run.filterMap Occurrence.minted?).Nodup)
    (started : (start.undergoAll run).source.task.Started) (allDue : start.AllDue run) :
    ∃ steps, (∀ step ∈ steps, step.isStep = true) ∧
      ((start.undergoAll run).undergoAll steps).source.pending.size = 0 := by
  rcases exists_idle started with ⟨steps, own, idle⟩
  have silent : steps.filterMap Occurrence.minted? = [] :=
    List.filterMap_eq_nil_iff.mpr fun step member => (Occurrence.plain_of_step (own step member)).2
  refine ⟨steps, own, ?_⟩
  rw [← undergoAll_append] at idle ⊢
  refine size_eq_zero_of_idle new ?_ ?_ idle (allDue.append_steps own)
  · intro occurrence member
    rcases List.mem_append.mp member with earlier | step
    · exact ordinary occurrence earlier
    · exact (Occurrence.plain_of_step (own occurrence step)).1
  · rwa [List.filterMap_append, silent, List.append_nil]

end Snapshot

end Rendezvous
