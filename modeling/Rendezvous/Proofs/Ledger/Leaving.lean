import Rendezvous.Proofs.Resolution

/-!
# Callers who leave

While a call is pending its caller waits, unless the caller has hung up since the call was made
(`Snapshot.listens_eq_false_iff`). This presupposes that nobody resolves or drops the end of a call
that is still in the table.
-/

namespace Rendezvous

/-- The caller of a call leaves. -/
def Occurrence.leaves (ticket : Ticket) : Occurrence → Bool
  | .hangUp other => decide (other = ticket)
  | _ => false

namespace Ledger

variable {ledger : Ledger} {id : CorrelationId} {ticket : Ticket}

/-- A call that is pending after some postings and was made before them was pending all along. -/
theorem find?_of_made {postings : List Posting}
    (found : (ledger.postAll postings).find? id = some ticket)
    (made : ticket < ledger.calls.length) : ledger.find? id = some ticket := by
  induction postings generalizing ledger with
  | nil => exact found
  | cons posting rest ih =>
      have later := ih found (Nat.lt_of_lt_of_le made (length_calls_le posting))
      rcases find?_of_find?_post later with before | ⟨_, fresh⟩
      · exact before
      · exact absurd fresh (Nat.ne_of_lt made)

theorem length_calls_le_postAll (postings : List Posting) :
    ledger.calls.length ≤ (ledger.postAll postings).calls.length := by
  induction postings generalizing ledger with
  | nil => exact Nat.le_refl _
  | cons posting rest ih => exact Nat.le_trans (length_calls_le posting) ih

theorem listens_altered_of_awaits (awaits : ledger.Awaits id ticket) (other : Ticket)
    (alteration : Alteration) :
    (ledger.post (.altered other alteration)).listens ticket =
      (ledger.listens ticket && !decide (other = ticket ∧ alteration = .hangUp)) := by
  by_cases same : other = ticket
  · subst same
    have awaited := awaits.awaited
    rw [reply?, Option.map_eq_some_iff] at awaited
    rcases awaited with ⟨call, present, reply⟩
    cases alteration <;> cases waits : call.listening <;>
      simp [listens, post, change, present, Alteration.apply, Call.resolve, Call.drop,
        Call.hangUp, Call.poll, reply, waits]
  · simp [listens, post, change, List.getElem?_modify_ne _ _ same, same]

theorem listens_postAll_expired (deadlines : List Deadline) :
    (ledger.postAll (deadlines.map fun deadline => .closed deadline.id .expired)).listens ticket =
      ledger.listens ticket := by
  induction deadlines generalizing ledger with
  | nil => rfl
  | cons deadline rest ih => exact ih.trans (listens_closed deadline.id .expired ticket)

end Ledger

namespace Snapshot

/-- Whoever resolves or drops the end of a call by hand has taken the call out of the table. -/
def Owned (snapshot : Snapshot) : List Occurrence → Prop
  | [] => True
  | occurrence :: rest =>
      (∀ id ticket, snapshot.source.ledger.find? id = some ticket → occurrence.Spares ticket) ∧
        (snapshot.undergo occurrence).Owned rest

/-- In a run the caller of a call leaves. -/
def Leaves (snapshot : Snapshot) (ticket : Ticket) : List Occurrence → Prop
  | [] => False
  | occurrence :: rest =>
      (occurrence.leaves ticket = true ∧ ticket < snapshot.source.calls.length) ∨
        (snapshot.undergo occurrence).Leaves ticket rest

variable {snapshot : Snapshot} {id : CorrelationId} {ticket : Ticket} {occurrence : Occurrence}

/-- In an ordinary run nobody has an end in hand. -/
theorem owned_of_ordinary {run : List Occurrence}
    (ordinary : ∀ occurrence ∈ run, occurrence.isOrdinary = true) : snapshot.Owned run := by
  induction run generalizing snapshot with
  | nil => trivial
  | cons occurrence rest ih =>
      refine ⟨?_, ih fun other member => ordinary other (List.mem_cons_of_mem _ member)⟩
      intro _ _ _
      exact spares_of_ordinary (ordinary occurrence List.mem_cons_self)

theorem postings_of_entered
    (entered : .entered id ∈ snapshot.source.postings snapshot.now occurrence) :
    snapshot.source.postings snapshot.now occurrence = [.entered id] := by
  cases occurrence with
  | accept payload metadata other =>
      cases handled : snapshot.source.handler with
      | none => simp [Source.postings, handled] at entered
      | some handler =>
          simp only [Source.postings, handled, List.mem_singleton] at entered ⊢
          rw [← entered]
  | complete other payload => cases (mem_postings_complete entered).2
  | fire =>
      rcases mem_postings_fire entered with ⟨deadline, _, absurd⟩
      cases absurd
  | _ => simp_all [Source.postings]

/-- A call that is pending after something has happened was pending before, or it has just been
made. -/
theorem find?_undergo
    (found : (snapshot.undergo occurrence).source.ledger.find? id = some ticket) :
    snapshot.source.ledger.find? id = some ticket ∨
      (snapshot.source.postings snapshot.now occurrence = [.entered id] ∧
        ticket = snapshot.source.ledger.calls.length) := by
  rw [ledger_undergo] at found
  by_cases entered : .entered id ∈ snapshot.source.postings snapshot.now occurrence
  · have alone := postings_of_entered entered
    rw [alone, Ledger.postAll_cons, Ledger.postAll_nil] at found
    rcases Ledger.find?_of_find?_post found with before | ⟨_, fresh⟩
    · exact Or.inl before
    · exact Or.inr ⟨alone, fresh⟩
  · exact Or.inl (Ledger.find?_of_find?_postAll entered found)

/-- A call that is pending throughout awaits its reply throughout. -/
theorem awaits_undergo (sound : snapshot.source.ledger.Sound)
    (awaits : snapshot.source.ledger.Awaits id ticket) (spares : occurrence.Spares ticket)
    (found : (snapshot.undergo occurrence).source.ledger.find? id = some ticket) :
    (snapshot.undergo occurrence).source.ledger.Awaits id ticket := by
  rcases undergo_awaits sound awaits spares with still | rfl | ⟨closing, _, ended⟩
  · exact still
  · rw [ledger_undergo] at found
    simp [Source.postings, Ledger.find?_withdrawn] at found
  · exact absurd found (ended.gone id)

/-- A call that has just been made awaits its reply, and its caller waits. -/
theorem awaits_entered
    (entered : snapshot.source.postings snapshot.now occurrence = [.entered id])
    (found : (snapshot.undergo occurrence).source.ledger.find? id =
      some snapshot.source.ledger.calls.length) :
    (snapshot.undergo occurrence).source.ledger.Awaits id snapshot.source.ledger.calls.length ∧
      (snapshot.undergo occurrence).source.ledger.listens snapshot.source.ledger.calls.length =
        true := by
  refine ⟨⟨found, ?_⟩, ?_⟩ <;> rw [ledger_undergo, entered] <;>
    simp [Ledger.reply?, Ledger.listens, Ledger.calls_entered]

/-- If all pending calls await their replies, they still do after something has happened that leaves
their ends alone. -/
theorem awaited_undergo (sound : snapshot.source.ledger.Sound)
    (awaited : ∀ id ticket, snapshot.source.ledger.find? id = some ticket →
      snapshot.source.ledger.Awaits id ticket)
    (spared : ∀ id ticket, snapshot.source.ledger.find? id = some ticket →
      occurrence.Spares ticket) :
    ∀ id ticket, (snapshot.undergo occurrence).source.ledger.find? id = some ticket →
      (snapshot.undergo occurrence).source.ledger.Awaits id ticket := by
  intro id ticket present
  rcases find?_undergo present with before | ⟨entered, rfl⟩
  · exact awaits_undergo sound (awaited id ticket before) (spared id ticket before) present
  · exact (awaits_entered entered present).1

theorem listens_undergo_of_awaits (awaits : snapshot.source.ledger.Awaits id ticket)
    (occurrence : Occurrence) :
    (snapshot.undergo occurrence).source.ledger.listens ticket =
      (snapshot.source.ledger.listens ticket && !occurrence.leaves ticket) := by
  have made := Ledger.made_of_reply? awaits.awaited
  rw [ledger_undergo]
  cases occurrence with
  | accept payload metadata other =>
      cases handled : snapshot.source.handler with
      | none => simp [Source.postings, handled, Occurrence.leaves]
      | some handler =>
          simp only [Source.postings, handled, Source.admission, Ledger.postAll_cons,
            Ledger.postAll_nil, Occurrence.leaves, Bool.not_false, Bool.and_true]
          cases snapshot.source.refusal? handler metadata other with
          | some status => simp [Ledger.listens, Ledger.post, List.getElem?_append_left made]
          | none =>
              simp [Ledger.listens, Ledger.calls_entered, List.getElem?_append_left made]
  | complete other payload =>
      cases enabled : snapshot.source.enabled <;>
        simp [Source.postings, enabled, Occurrence.leaves, Ledger.listens_closed]
  | insert other =>
      simp [Source.postings, Occurrence.leaves, Ledger.listens, Ledger.calls_entered,
        List.getElem?_append_left made]
  | withdraw other =>
      simp [Source.postings, Occurrence.leaves, Ledger.listens, Ledger.calls_withdrawn]
  | fire => simp [Source.postings, Occurrence.leaves, Ledger.listens_postAll_expired]
  | resolve other outcome =>
      simp [Source.postings, Occurrence.leaves, Ledger.listens_altered_of_awaits awaits]
  | drop other =>
      simp [Source.postings, Occurrence.leaves, Ledger.listens_altered_of_awaits awaits]
  | hangUp other =>
      simp [Source.postings, Occurrence.leaves, Ledger.listens_altered_of_awaits awaits]
  | poll other =>
      simp [Source.postings, Occurrence.leaves, Ledger.listens_altered_of_awaits awaits]
  | _ => simp [Source.postings, Occurrence.leaves]

/-- Whether the caller of a call has left that will still be pending, before and after something has
happened. -/
theorem left_undergo_iff (sound : snapshot.source.ledger.Sound)
    (awaited : ∀ id ticket, snapshot.source.ledger.find? id = some ticket →
      snapshot.source.ledger.Awaits id ticket)
    (pending : ticket < (snapshot.undergo occurrence).source.ledger.calls.length →
      (snapshot.undergo occurrence).source.ledger.find? id = some ticket) :
    (ticket < (snapshot.undergo occurrence).source.ledger.calls.length ∧
        (snapshot.undergo occurrence).source.ledger.listens ticket = false) ↔
      (ticket < snapshot.source.ledger.calls.length ∧
          snapshot.source.ledger.listens ticket = false) ∨
        (occurrence.leaves ticket = true ∧ ticket < snapshot.source.calls.length) := by
  have grown : snapshot.source.ledger.calls.length ≤
      (snapshot.undergo occurrence).source.ledger.calls.length := by
    rw [ledger_undergo]
    exact Ledger.length_calls_le_postAll _
  by_cases made : ticket < snapshot.source.ledger.calls.length
  · have present := pending (Nat.lt_of_lt_of_le made grown)
    rcases find?_undergo present with before | ⟨_, rfl⟩
    · have listens := listens_undergo_of_awaits (awaited id ticket before) occurrence
      have early : ticket < snapshot.source.calls.length := made
      cases waits : snapshot.source.ledger.listens ticket <;>
        simp [listens, waits, made, early, Nat.lt_of_lt_of_le made grown]
    · exact absurd made (Nat.lt_irrefl _)
  · have late : ¬ticket < snapshot.source.calls.length := made
    simp only [made, late, false_and, and_false, or_false, iff_false, not_and,
      Bool.not_eq_false]
    intro madeNow
    rcases find?_undergo (pending madeNow) with before | ⟨entered, rfl⟩
    · exact absurd (sound.made before) made
    · exact (awaits_entered entered (pending madeNow)).2

/-- The caller of a call that is pending at the end of a run has left if and only if it had left at
the beginning or leaves in the run. -/
theorem left_undergoAll_iff (sound : snapshot.source.ledger.Sound)
    (awaited : ∀ id ticket, snapshot.source.ledger.find? id = some ticket →
      snapshot.source.ledger.Awaits id ticket)
    {run : List Occurrence} (owned : snapshot.Owned run)
    (found : (snapshot.undergoAll run).source.ledger.find? id = some ticket) :
    (snapshot.undergoAll run).source.ledger.listens ticket = false ↔
      (ticket < snapshot.source.ledger.calls.length ∧
        snapshot.source.ledger.listens ticket = false) ∨ snapshot.Leaves ticket run := by
  induction run generalizing snapshot with
  | nil =>
      have made : ticket < snapshot.source.ledger.calls.length := sound.made found
      simp [Leaves, made]
  | cons occurrence rest ih =>
      have awaitedAfter := awaited_undergo sound awaited owned.1
      have pending : ticket < (snapshot.undergo occurrence).source.ledger.calls.length →
          (snapshot.undergo occurrence).source.ledger.find? id = some ticket := by
        rw [undergoAll_cons, ledger_undergoAll] at found
        exact Ledger.find?_of_made found
      rw [undergoAll_cons, ih (sound_undergo sound occurrence) awaitedAfter owned.2 found,
        left_undergo_iff sound awaited pending, or_assoc, Leaves]

/-- In a run that leaves their ends alone all pending calls go on awaiting their replies. -/
theorem awaited_undergoAll (sound : snapshot.source.ledger.Sound)
    (awaited : ∀ id ticket, snapshot.source.ledger.find? id = some ticket →
      snapshot.source.ledger.Awaits id ticket)
    {run : List Occurrence} (owned : snapshot.Owned run) :
    ∀ id ticket, (snapshot.undergoAll run).source.ledger.find? id = some ticket →
      (snapshot.undergoAll run).source.ledger.Awaits id ticket := by
  induction run generalizing snapshot with
  | nil => exact awaited
  | cons occurrence rest ih =>
      exact ih (sound_undergo sound occurrence) (awaited_undergo sound awaited owned.1) owned.2

/-- The caller of a call that is pending in a run that starts with an empty table has left if and
only if it has hung up since the call was made. -/
theorem listens_eq_false_iff (empty : snapshot.source.pending = {})
    (silent : snapshot.source.calls = []) {run : List Occurrence} (owned : snapshot.Owned run)
    (found : (snapshot.undergoAll run).source.ledger.find? id = some ticket) :
    (snapshot.undergoAll run).source.listens ticket = false ↔ snapshot.Leaves ticket run := by
  have entries : snapshot.source.ledger.pending.entries = Directory.empty := by
    rw [Source.ledger, empty]
  have awaited : ∀ id ticket, snapshot.source.ledger.find? id = some ticket →
      snapshot.source.ledger.Awaits id ticket := by
    intro other held present
    simp [Ledger.find?, entries] at present
  have none : snapshot.source.ledger.calls = [] := silent
  have left : (snapshot.undergoAll run).source.listens ticket = false ↔ _ :=
    left_undergoAll_iff (Ledger.sound_of_empty entries) awaited owned found
  simpa [none] using left

end Snapshot

end Rendezvous
