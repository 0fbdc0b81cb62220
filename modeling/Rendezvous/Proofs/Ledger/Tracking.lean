import Rendezvous.Proofs.Ledger

/-!
# Following one call through the ledger

A call that is entered waits in the table until a posting takes its id out. Whoever closes it
decides its reply once and for all: `post_awaits` says what the first posting that matters does, and
`Ended.post` that none matters afterwards. `undergoAll_awaits` is the same for a run of occurrences.
-/

namespace Rendezvous

namespace Ledger

variable {ledger : Ledger} {id other : CorrelationId} {ticket : Ticket} {reply : Reply}

/-! ## What a posting does to the table -/

theorem find?_withdrawn :
    (ledger.post (.withdrawn other)).find? id = if id = other then none else ledger.find? id := by
  cases taken : ledger.pending.entries.find? other with
  | none => by_cases same : id = other <;> simp [post, find?, Pending.take?, taken, same]
  | some held => simp [post, find?, Pending.take?, taken, Directory.find?_erase]

theorem find?_closed (closing : Closing) :
    (ledger.post (.closed other closing)).find? id =
      if id = other then none else ledger.find? id := by
  cases taken : ledger.pending.entries.find? other with
  | none => by_cases same : id = other <;> simp [post, find?, Pending.take?, taken, same]
  | some held => simp [post, find?, Pending.take?, taken, change, Directory.find?_erase]

theorem find?_entered :
    (ledger.post (.entered other)).find? id =
      if id = other ∧ ledger.find? other = none then some ledger.calls.length
      else ledger.find? id := by
  cases taken : ledger.pending.entries.find? other with
  | none =>
      simp [post, find?, Pending.insert, Pending.contains, Directory.contains, taken,
        Directory.find?_put]
  | some held => simp [post, find?, Pending.insert, Pending.contains, Directory.contains, taken]

/-- What is in the table after a posting was in it before, unless it was just made. -/
theorem find?_of_find?_post {posting : Posting}
    (found : (ledger.post posting).find? id = some ticket) :
    ledger.find? id = some ticket ∨ (posting = .entered id ∧ ticket = ledger.calls.length) := by
  cases posting with
  | refused status => exact Or.inl found
  | altered changed alteration => exact Or.inl found
  | entered other =>
      rw [find?_entered] at found
      split at found
      · simp_all
      · exact Or.inl found
  | withdrawn other =>
      rw [find?_withdrawn] at found
      split at found
      · cases found
      · exact Or.inl found
  | closed other closing =>
      rw [find?_closed] at found
      split at found
      · cases found
      · exact Or.inl found

/-! ## What a posting does to the calls -/

theorem calls_entered (id : CorrelationId) :
    (ledger.post (.entered id)).calls = ledger.calls ++ [({} : Call)] := by
  rw [post]
  cases ledger.pending.insert id ledger.calls.length <;> rfl

theorem calls_withdrawn (id : CorrelationId) :
    (ledger.post (.withdrawn id)).calls = ledger.calls := by
  rw [post]
  cases ledger.pending.take? id <;> rfl

theorem calls_closed (id : CorrelationId) (closing : Closing) :
    (ledger.post (.closed id closing)).calls =
      match ledger.find? id with
      | none => ledger.calls
      | some ticket => ledger.calls.modify ticket (Alteration.resolve closing.outcome).apply := by
  cases taken : ledger.pending.entries.find? id <;>
    simp [post, find?, Pending.take?, taken, change]

theorem length_calls_le (posting : Posting) :
    ledger.calls.length ≤ (ledger.post posting).calls.length := by
  cases posting with
  | refused status => simp [post]
  | entered id => simp [calls_entered]
  | withdrawn id => simp [calls_withdrawn]
  | closed id closing =>
      rw [calls_closed]
      cases ledger.find? id <;> simp
  | altered ticket alteration => simp [post, change]

/-! ## Sound ledgers -/

/-- The table names calls that were made, and no call twice. -/
structure Sound (ledger : Ledger) : Prop where
  /-- A pending call was made. -/
  made : ∀ {id ticket}, ledger.find? id = some ticket → ticket < ledger.calls.length
  /-- A call is pending under one id. -/
  single : ∀ {id other ticket},
    ledger.find? id = some ticket → ledger.find? other = some ticket → id = other

theorem sound_of_empty (empty : ledger.pending.entries = Directory.empty) : ledger.Sound := by
  refine ⟨fun found => ?_, fun found => ?_⟩ <;> simp [find?, empty] at found

theorem length_calls_entered (id : CorrelationId) :
    (ledger.post (.entered id)).calls.length = ledger.calls.length + 1 := by
  rw [calls_entered, List.length_append]
  rfl

/-- A call that is entered has a number of its own, so only old calls could be named twice. -/
theorem Sound.post (sound : ledger.Sound) (posting : Posting) : (ledger.post posting).Sound where
  made found := by
    rcases find?_of_find?_post found with before | ⟨rfl, rfl⟩
    · exact Nat.lt_of_lt_of_le (sound.made before) (length_calls_le posting)
    · rw [length_calls_entered]
      exact Nat.lt_succ_self _
  single found another := by
    rcases find?_of_find?_post found with before | ⟨rfl, rfl⟩ <;>
      rcases find?_of_find?_post another with old | ⟨same, fresh⟩
    · exact sound.single before old
    · subst fresh
      exact absurd (sound.made before) (Nat.lt_irrefl _)
    · exact absurd (sound.made old) (Nat.lt_irrefl _)
    · exact (Posting.entered.inj same)

theorem Sound.postAll (sound : ledger.Sound) (postings : List Posting) :
    (ledger.postAll postings).Sound := by
  induction postings generalizing ledger with
  | nil => exact sound
  | cons posting rest ih => exact ih (sound.post posting)

/-! ## One call -/

/-- A call is pending under an id and has got no reply. -/
structure Awaits (ledger : Ledger) (id : CorrelationId) (ticket : Ticket) : Prop where
  /-- The call is pending under the id. -/
  pending : ledger.find? id = some ticket
  /-- The call has got no reply. -/
  awaited : ledger.reply? ticket = some .awaited

/-- A call is no longer pending and has got a reply. -/
structure Ended (ledger : Ledger) (ticket : Ticket) (reply : Reply) : Prop where
  /-- The call is pending under no id. -/
  gone : ∀ id, ledger.find? id ≠ some ticket
  /-- The call has got the reply. -/
  replied : ledger.reply? ticket = some reply

theorem made_of_reply? (found : ledger.reply? ticket = some reply) :
    ticket < ledger.calls.length := by
  rw [reply?, Option.map_eq_some_iff] at found
  rcases found with ⟨_, present, _⟩
  exact (List.getElem?_eq_some_iff.mp present).1

theorem reply?_append {calls : List Call} (found : ledger.reply? ticket = some reply)
    (grown : ∃ call, calls = ledger.calls ++ [call]) :
    (calls[ticket]?).map Call.reply = some reply := by
  rcases grown with ⟨call, rfl⟩
  rw [List.getElem?_append_left (made_of_reply? found)]
  exact found

theorem reply?_modify_ne {alteration : Alteration} {changed : Ticket}
    (different : changed ≠ ticket) :
    ((ledger.calls.modify changed alteration.apply)[ticket]?).map Call.reply =
      ledger.reply? ticket := by
  rw [List.getElem?_modify_ne _ _ different, reply?]

theorem verdict_of_resolve (awaited : ledger.reply? ticket = some .awaited) (outcome : Outcome) :
    ((ledger.calls.modify ticket (Alteration.resolve outcome).apply)[ticket]?).map Call.reply =
      some (ledger.verdict ticket outcome) := by
  rw [reply?, Option.map_eq_some_iff] at awaited
  rcases awaited with ⟨call, present, reply⟩
  cases waits : call.listening <;>
    simp [present, verdict, listens, Alteration.apply, Call.resolve, reply, waits]

theorem reply_apply_of_ne_awaited {call : Call} (decided : call.reply ≠ .awaited)
    (alteration : Alteration) : (alteration.apply call).reply = call.reply := by
  cases alteration with
  | resolve outcome =>
      cases reply : call.reply <;> simp_all [Alteration.apply, Call.resolve]
  | drop => cases reply : call.reply <;> simp_all [Alteration.apply, Call.drop]
  | hangUp => rfl
  | poll =>
      cases waits : call.listening <;> cases reply : call.reply <;>
        simp_all [Alteration.apply, Call.poll, Call.hangUp]

theorem reply?_modify_of_ne_awaited (found : ledger.reply? ticket = some reply)
    (decided : reply ≠ .awaited) (changed : Ticket) (alteration : Alteration) :
    ((ledger.calls.modify changed alteration.apply)[ticket]?).map Call.reply = some reply := by
  by_cases same : changed = ticket
  · subst same
    rw [reply?, Option.map_eq_some_iff] at found
    rcases found with ⟨call, present, rfl⟩
    simp [present, reply_apply_of_ne_awaited decided]
  · rw [reply?_modify_ne same, found]

end Ledger

/-- A posting leaves the end of a call alone that is in the table. -/
def Posting.Spares (ticket : Ticket) : Posting → Prop
  | .altered other (.resolve _) => other ≠ ticket
  | .altered other .drop => other ≠ ticket
  | _ => True

namespace Ledger

variable {ledger : Ledger} {id : CorrelationId} {ticket : Ticket} {reply : Reply}

theorem reply?_altered_of_spares {other : Ticket} {alteration : Alteration}
    (spares : (Posting.altered other alteration).Spares ticket) :
    (ledger.post (.altered other alteration)).reply? ticket = ledger.reply? ticket := by
  by_cases same : other = ticket
  · subst same
    cases alteration with
    | resolve outcome => exact absurd rfl spares
    | drop => exact absurd rfl spares
    | hangUp =>
        cases present : ledger.calls[other]? <;>
          simp [post, change, reply?, present, Alteration.apply, Call.hangUp]
    | poll =>
        cases present : ledger.calls[other]? with
        | none => simp [post, change, reply?, present]
        | some call =>
            cases waits : call.listening <;> cases reply : call.reply <;>
              simp [post, change, reply?, present, Alteration.apply, Call.poll, Call.hangUp, waits,
                reply]
  · exact reply?_modify_ne same

/-- A pending call stays pending until its id is taken out. Whoever closes it decides its reply. -/
theorem post_awaits (sound : ledger.Sound) (awaits : ledger.Awaits id ticket) {posting : Posting}
    (spares : posting.Spares ticket) :
    (ledger.post posting).Awaits id ticket ∨
      posting = .withdrawn id ∨
        ∃ closing, posting = .closed id closing ∧
          (ledger.post posting).Ended ticket (ledger.verdict ticket closing.outcome) := by
  cases posting with
  | refused status =>
      exact Or.inl ⟨awaits.pending, reply?_append awaits.awaited ⟨_, rfl⟩⟩
  | entered other =>
      refine Or.inl ⟨?_, reply?_append awaits.awaited ⟨_, calls_entered other⟩⟩
      rw [find?_entered, if_neg, awaits.pending]
      rintro ⟨rfl, free⟩
      rw [awaits.pending] at free
      cases free
  | withdrawn other =>
      by_cases same : id = other
      · exact Or.inr (Or.inl (by rw [same]))
      · refine Or.inl ⟨?_, ?_⟩
        · rw [find?_withdrawn, if_neg same, awaits.pending]
        · rw [reply?, calls_withdrawn]
          exact awaits.awaited
  | altered other alteration =>
      exact Or.inl ⟨awaits.pending, (reply?_altered_of_spares spares).trans awaits.awaited⟩
  | closed other closing =>
      by_cases same : id = other
      · subst same
        refine Or.inr (Or.inr ⟨closing, rfl, ?_, ?_⟩)
        · intro key found
          rw [find?_closed] at found
          split at found
          · cases found
          · exact absurd (sound.single found awaits.pending) ‹_›
        · rw [reply?, calls_closed, awaits.pending]
          exact verdict_of_resolve awaits.awaited closing.outcome
      · refine Or.inl ⟨?_, ?_⟩
        · rw [find?_closed, if_neg same, awaits.pending]
        · rw [reply?, calls_closed]
          cases found : ledger.find? other with
          | none => exact awaits.awaited
          | some changed =>
              have different : changed ≠ ticket := by
                rintro rfl
                exact same (sound.single awaits.pending found)
              exact (reply?_modify_ne different).trans awaits.awaited

theorem reply?_post_of_ne_awaited (found : ledger.reply? ticket = some reply)
    (decided : reply ≠ .awaited) (posting : Posting) :
    (ledger.post posting).reply? ticket = some reply := by
  cases posting with
  | refused status => exact reply?_append found ⟨_, rfl⟩
  | entered other => exact reply?_append found ⟨_, calls_entered other⟩
  | withdrawn other =>
      rw [reply?, calls_withdrawn]
      exact found
  | altered other alteration => exact reply?_modify_of_ne_awaited found decided other alteration
  | closed other closing =>
      rw [reply?, calls_closed]
      cases ledger.find? other with
      | none => exact found
      | some changed =>
          exact reply?_modify_of_ne_awaited found decided changed (.resolve closing.outcome)

theorem reply?_postAll_of_ne_awaited (found : ledger.reply? ticket = some reply)
    (decided : reply ≠ .awaited) (postings : List Posting) :
    (ledger.postAll postings).reply? ticket = some reply := by
  induction postings generalizing ledger with
  | nil => exact found
  | cons posting rest ih => exact ih (reply?_post_of_ne_awaited found decided posting)

theorem postAll_awaits (sound : ledger.Sound) (awaits : ledger.Awaits id ticket)
    {postings : List Posting} (spares : ∀ posting ∈ postings, posting.Spares ticket)
    (kept : .withdrawn id ∉ postings) (unclosed : ∀ closing, .closed id closing ∉ postings) :
    (ledger.postAll postings).Awaits id ticket := by
  induction postings generalizing ledger with
  | nil => exact awaits
  | cons posting rest ih =>
      simp only [List.mem_cons, forall_eq_or_imp, not_or] at spares kept unclosed
      rcases post_awaits sound awaits spares.1 with still | withdrawn | ⟨closing, closed, _⟩
      · exact ih (sound.post posting) still spares.2 kept.2 fun closing => (unclosed closing).2
      · exact absurd withdrawn.symm kept.1
      · exact absurd closed.symm (unclosed closing).1

/-- A call that has its reply keeps it, and is never pending again. -/
theorem Ended.post (ended : ledger.Ended ticket reply) (decided : reply ≠ .awaited)
    (posting : Posting) : (ledger.post posting).Ended ticket reply where
  gone id found := by
    rcases find?_of_find?_post found with before | ⟨_, rfl⟩
    · exact ended.gone id before
    · exact Nat.lt_irrefl _ (made_of_reply? ended.replied)
  replied := reply?_post_of_ne_awaited ended.replied decided posting

theorem Ended.postAll (ended : ledger.Ended ticket reply) (decided : reply ≠ .awaited)
    (postings : List Posting) : (ledger.postAll postings).Ended ticket reply := by
  induction postings generalizing ledger with
  | nil => exact ended
  | cons posting rest ih => exact ih (ended.post decided posting)

theorem verdict_ne_awaited (ledger : Ledger) (ticket : Ticket) (outcome : Outcome) :
    ledger.verdict ticket outcome ≠ .awaited := by
  rw [verdict]
  split <;> simp

theorem eq_of_verdict {outcome other : Outcome}
    (resolved : ledger.verdict ticket outcome = .resolved other) : outcome = other := by
  rw [verdict] at resolved
  split at resolved
  · exact Reply.resolved.inj resolved
  · cases resolved

/-! ## Whether the caller still waits -/

theorem listening_apply {call : Call} {alteration : Alteration}
    (waits : (alteration.apply call).listening = true) : call.listening = true := by
  cases alteration with
  | resolve outcome =>
      cases reply : call.reply <;> cases listening : call.listening <;>
        simp_all [Alteration.apply, Call.resolve]
  | drop => cases reply : call.reply <;> simp_all [Alteration.apply, Call.drop]
  | hangUp => simp [Alteration.apply, Call.hangUp] at waits
  | poll => cases listening : call.listening <;> simp_all [Alteration.apply, Call.poll]

theorem listens_modify {calls : List Call} {changed : Ticket} {alteration : Alteration}
    (waits : ((calls.modify changed alteration.apply)[ticket]?).any Call.listening = true) :
    (calls[ticket]?).any Call.listening = true := by
  by_cases same : changed = ticket
  · subst same
    cases present : calls[changed]? with
    | none => simp [present] at waits
    | some call =>
        simp only [List.getElem?_modify_eq, present, Option.any_some] at waits ⊢
        exact listening_apply waits
  · rwa [List.getElem?_modify_ne _ _ same] at waits

/-- A caller that has left does not come back. -/
theorem listens_of_listens_post (made : ticket < ledger.calls.length) {posting : Posting}
    (waits : (ledger.post posting).listens ticket = true) : ledger.listens ticket = true := by
  cases posting with
  | refused status => rwa [listens, post, List.getElem?_append_left made] at waits
  | entered other => rwa [listens, calls_entered, List.getElem?_append_left made] at waits
  | withdrawn other => rwa [listens, calls_withdrawn] at waits
  | altered other alteration => exact listens_modify waits
  | closed other closing =>
      rw [listens, calls_closed] at waits
      cases found : ledger.find? other with
      | none => simpa [found, listens] using waits
      | some changed =>
          rw [found] at waits
          exact listens_modify waits

theorem listens_of_listens_postAll (made : ticket < ledger.calls.length)
    {postings : List Posting} (waits : (ledger.postAll postings).listens ticket = true) :
    ledger.listens ticket = true := by
  induction postings generalizing ledger with
  | nil => exact waits
  | cons posting rest ih =>
      exact listens_of_listens_post made
        (ih (Nat.lt_of_lt_of_le made (length_calls_le posting)) waits)

theorem listens_closed (other : CorrelationId) (closing : Closing) (ticket : Ticket) :
    (ledger.post (.closed other closing)).listens ticket = ledger.listens ticket := by
  rw [listens, calls_closed, listens]
  cases ledger.find? other with
  | none => rfl
  | some changed =>
      by_cases same : changed = ticket
      · subst same
        cases present : ledger.calls[changed]? with
        | none => simp [present]
        | some call =>
            cases reply : call.reply <;> cases waits : call.listening <;>
              simp [present, Alteration.apply, Call.resolve, reply, waits]
      · rw [List.getElem?_modify_ne _ _ same]

/-! ## Deadlines that are handed out together -/

/-- When deadlines are handed out, a pending call is failed if one of them is for its id, and is
left alone otherwise. -/
theorem postAll_expired (sound : ledger.Sound) (awaits : ledger.Awaits id ticket)
    (deadlines : List Deadline) :
    let after := ledger.postAll (deadlines.map fun deadline => .closed deadline.id .expired)
    if ∃ deadline ∈ deadlines, deadline.id = id then
      after.Ended ticket (ledger.verdict ticket Closing.expired.outcome)
    else after.Awaits id ticket := by
  induction deadlines generalizing ledger with
  | nil => simpa using awaits
  | cons deadline rest ih =>
      have spares : (Posting.closed deadline.id .expired).Spares ticket := trivial
      have first := post_awaits sound awaits spares
      have later := ih (sound.post (.closed deadline.id .expired))
      by_cases named : deadline.id = id
      · rcases first with still | withdrawn | ⟨closing, same, ended⟩
        · have pending := still.pending
          rw [find?_closed, if_pos named.symm] at pending
          cases pending
        · cases withdrawn
        · cases same
          have final := ended.postAll (verdict_ne_awaited _ _ _)
            (rest.map fun deadline => .closed deadline.id .expired)
          simpa [named] using final
      · rcases first with still | withdrawn | ⟨closing, same, ended⟩
        · have final := later still
          rw [verdict, listens_closed] at final
          simpa [named, verdict] using final
        · cases withdrawn
        · exact absurd (Posting.closed.inj same).1 named

end Ledger

/-- An occurrence leaves the end of a call alone that is in the table. -/
def Occurrence.Spares (ticket : Ticket) : Occurrence → Prop
  | .resolve other _ => other ≠ ticket
  | .drop other => other ≠ ticket
  | _ => True

namespace Snapshot

/-- An occurrence closes the call that is pending under an id: a dispatch to a source that takes
responses, or the firing of a deadline for the id. -/
inductive Closes (snapshot : Snapshot) (id : CorrelationId) : Occurrence → Closing → Prop
  /-- A dispatch names the id. -/
  | completed (payload : String) (enabled : snapshot.source.enabled = true) :
      Closes snapshot id (.complete id payload) (.completed payload)
  /-- A deadline for the id is handed out. -/
  | expired {deadline : Deadline} (handed : deadline ∈ snapshot.source.handedOut snapshot.now)
      (named : deadline.id = id) : Closes snapshot id .fire .expired

/-- The occurrences at which a call leaves the table under an id, each with the snapshot before. -/
def departures (snapshot : Snapshot) (id : CorrelationId) (ticket : Ticket) :
    List Occurrence → List (Snapshot × Occurrence)
  | [] => []
  | occurrence :: rest =>
      let after := snapshot.undergo occurrence
      (if snapshot.source.ledger.find? id = some ticket ∧
          after.source.ledger.find? id ≠ some ticket then [(snapshot, occurrence)] else []) ++
        after.departures id ticket rest

variable {snapshot : Snapshot} {id : CorrelationId} {ticket : Ticket} {reply : Reply}

theorem mem_postings_accept {payload : String} {metadata : Metadata} {posting : Posting}
    (member : posting ∈ snapshot.source.postings snapshot.now (.accept payload metadata id)) :
    (∃ status, posting = .refused status) ∨ posting = .entered id := by
  cases handled : snapshot.source.handler with
  | none => simp [Source.postings, handled] at member
  | some handler =>
      simp only [Source.postings, handled, List.mem_singleton] at member
      subst member
      rw [Source.admission]
      split
      · exact Or.inl ⟨_, rfl⟩
      · exact Or.inr rfl

theorem mem_postings_complete {payload : String} {posting : Posting}
    (member : posting ∈ snapshot.source.postings snapshot.now (.complete id payload)) :
    snapshot.source.enabled = true ∧ posting = .closed id (.completed payload) := by
  cases enabled : snapshot.source.enabled <;> simp_all [Source.postings]

theorem mem_postings_fire {posting : Posting}
    (member : posting ∈ snapshot.source.postings snapshot.now .fire) :
    ∃ deadline ∈ snapshot.source.handedOut snapshot.now,
      posting = .closed deadline.id .expired := by
  simp only [Source.postings, List.mem_map] at member
  rcases member with ⟨deadline, handed, rfl⟩
  exact ⟨deadline, handed, rfl⟩

theorem spares_of_mem_postings {occurrence : Occurrence} (spares : occurrence.Spares ticket)
    {posting : Posting} (member : posting ∈ snapshot.source.postings snapshot.now occurrence) :
    posting.Spares ticket := by
  cases occurrence with
  | accept payload metadata id =>
      rcases mem_postings_accept member with ⟨status, rfl⟩ | rfl <;> trivial
  | complete id payload =>
      rcases mem_postings_complete member with ⟨_, rfl⟩
      trivial
  | fire =>
      rcases mem_postings_fire member with ⟨deadline, _, rfl⟩
      trivial
  | _ => simp_all [Source.postings, Occurrence.Spares, Posting.Spares]

theorem eq_withdraw_of_mem_postings {occurrence : Occurrence}
    (member : .withdrawn id ∈ snapshot.source.postings snapshot.now occurrence) :
    occurrence = .withdraw id := by
  cases occurrence with
  | accept payload metadata id =>
      rcases mem_postings_accept member with ⟨status, absurd⟩ | absurd <;> cases absurd
  | complete id payload => cases (mem_postings_complete member).2
  | fire =>
      rcases mem_postings_fire member with ⟨deadline, _, absurd⟩
      cases absurd
  | _ => simp_all [Source.postings]

theorem closes_of_mem_postings {occurrence : Occurrence} {closing : Closing}
    (member : .closed id closing ∈ snapshot.source.postings snapshot.now occurrence) :
    snapshot.Closes id occurrence closing := by
  cases occurrence with
  | accept payload metadata id =>
      rcases mem_postings_accept member with ⟨status, absurd⟩ | absurd <;> cases absurd
  | complete other payload =>
      rcases mem_postings_complete member with ⟨enabled, same⟩
      cases same
      exact .completed payload enabled
  | fire =>
      rcases mem_postings_fire member with ⟨deadline, handed, same⟩
      cases same
      exact .expired handed rfl
  | _ => simp [Source.postings] at member

/-- A pending call stays pending until somebody takes it out, and only a dispatch that names its id
and a deadline for its id take it out by resolving it. -/
theorem undergo_awaits (sound : snapshot.source.ledger.Sound)
    (awaits : snapshot.source.ledger.Awaits id ticket) {occurrence : Occurrence}
    (spares : occurrence.Spares ticket) :
    (snapshot.undergo occurrence).source.ledger.Awaits id ticket ∨
      occurrence = .withdraw id ∨
        ∃ closing, snapshot.Closes id occurrence closing ∧
          (snapshot.undergo occurrence).source.ledger.Ended ticket
            (snapshot.source.ledger.verdict ticket closing.outcome) := by
  rw [ledger_undergo]
  by_cases withdrawn : .withdrawn id ∈ snapshot.source.postings snapshot.now occurrence
  · exact Or.inr (Or.inl (eq_withdraw_of_mem_postings withdrawn))
  · by_cases closed :
        ∃ closing, .closed id closing ∈ snapshot.source.postings snapshot.now occurrence
    · rcases closed with ⟨closing, member⟩
      refine Or.inr (Or.inr ⟨closing, closes_of_mem_postings member, ?_⟩)
      cases closes_of_mem_postings member with
      | completed payload enabled =>
          simp only [Source.postings, enabled, if_true, Ledger.postAll_cons, Ledger.postAll_nil]
          have spared : (Posting.closed id (.completed payload)).Spares ticket := trivial
          rcases Ledger.post_awaits sound awaits spared with still | absurd | ⟨closing, same, ended⟩
          · have pending := still.pending
            rw [Ledger.find?_closed, if_pos rfl] at pending
            cases pending
          · cases absurd
          · cases same
            exact ended
      | expired handed named =>
          have fired := Ledger.postAll_expired sound awaits
            (snapshot.source.handedOut snapshot.now)
          rwa [if_pos ⟨_, handed, named⟩] at fired
    · exact Or.inl (Ledger.postAll_awaits sound awaits
        (fun posting member => spares_of_mem_postings spares member) withdrawn
        fun closing member => closed ⟨closing, member⟩)

theorem sound_undergo (sound : snapshot.source.ledger.Sound) (occurrence : Occurrence) :
    (snapshot.undergo occurrence).source.ledger.Sound := by
  rw [ledger_undergo]
  exact sound.postAll _

theorem sound_undergoAll (sound : snapshot.source.ledger.Sound) (run : List Occurrence) :
    (snapshot.undergoAll run).source.ledger.Sound := by
  rw [ledger_undergoAll]
  exact sound.postAll _

theorem departures_of_not_pending {occurrence : Occurrence}
    (absent : snapshot.source.ledger.find? id ≠ some ticket) (rest : List Occurrence) :
    snapshot.departures id ticket (occurrence :: rest) =
      (snapshot.undergo occurrence).departures id ticket rest := by
  simp [departures, absent]

theorem departures_of_still_pending {occurrence : Occurrence}
    (still : (snapshot.undergo occurrence).source.ledger.find? id = some ticket)
    (rest : List Occurrence) :
    snapshot.departures id ticket (occurrence :: rest) =
      (snapshot.undergo occurrence).departures id ticket rest := by
  simp [departures, still]

theorem departures_of_gone {occurrence : Occurrence}
    (pending : snapshot.source.ledger.find? id = some ticket)
    (gone : (snapshot.undergo occurrence).source.ledger.find? id ≠ some ticket)
    (rest : List Occurrence) :
    snapshot.departures id ticket (occurrence :: rest) =
      (snapshot, occurrence) :: (snapshot.undergo occurrence).departures id ticket rest := by
  simp [departures, pending, gone]

/-- A call that has its reply keeps it, and does not leave the table again. -/
theorem undergoAll_ended (ended : snapshot.source.ledger.Ended ticket reply)
    (decided : reply ≠ .awaited) (id : CorrelationId) (run : List Occurrence) :
    snapshot.departures id ticket run = [] ∧
      (snapshot.undergoAll run).source.ledger.Ended ticket reply := by
  induction run generalizing snapshot with
  | nil => exact ⟨rfl, ended⟩
  | cons occurrence rest ih =>
      have later : (snapshot.undergo occurrence).source.ledger.Ended ticket reply := by
        rw [ledger_undergo]
        exact ended.postAll decided _
      rw [departures_of_not_pending (ended.gone id)]
      exact ih later

/-- In a run in which nobody takes the call under an id away, the call is still pending and has not
left the table, or it has left once, and whoever closed it then decided its reply. -/
theorem undergoAll_awaits (sound : snapshot.source.ledger.Sound)
    (awaits : snapshot.source.ledger.Awaits id ticket) {run : List Occurrence}
    (spares : ∀ occurrence ∈ run, occurrence.Spares ticket)
    (kept : ∀ departure ∈ snapshot.departures id ticket run, departure.2 ≠ .withdraw id) :
    (snapshot.departures id ticket run = [] ∧
        (snapshot.undergoAll run).source.ledger.Awaits id ticket) ∨
      ∃ before occurrence closing,
        snapshot.departures id ticket run = [(before, occurrence)] ∧
          before.Closes id occurrence closing ∧
            (snapshot.undergoAll run).source.ledger.Ended ticket
              (before.source.ledger.verdict ticket closing.outcome) := by
  induction run generalizing snapshot with
  | nil => exact Or.inl ⟨rfl, awaits⟩
  | cons occurrence rest ih =>
      have spared := spares occurrence List.mem_cons_self
      have later := ih (sound_undergo sound occurrence)
      rcases undergo_awaits sound awaits spared with still | rfl | ⟨closing, closes, ended⟩
      · rw [departures_of_still_pending still.pending] at kept ⊢
        exact later still (fun other member => spares other (List.mem_cons_of_mem _ member)) kept
      · -- Had it been taken away, it would have departed in a way that is ruled out.
        refine absurd rfl (kept (snapshot, .withdraw id) ?_)
        have gone : (snapshot.undergo (.withdraw id)).source.ledger.find? id ≠ some ticket := by
          rw [ledger_undergo]
          simp [Source.postings, Ledger.find?_withdrawn]
        rw [departures_of_gone awaits.pending gone]
        exact List.mem_cons_self
      · have final := undergoAll_ended ended (Ledger.verdict_ne_awaited _ _ _) id rest
        refine Or.inr ⟨snapshot, occurrence, closing, ?_, closes, final.2⟩
        rw [departures_of_gone awaits.pending (ended.gone id), final.1]

end Snapshot

end Rendezvous
