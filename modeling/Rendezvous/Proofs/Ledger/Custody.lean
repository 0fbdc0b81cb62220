import Rendezvous.Proofs.Deadlines.Punctuality
import Rendezvous.Proofs.Resolution

/-!
# Calls that are held

An accepted call is held twice: it waits in the table, and its deadline is outstanding, the only one
under its id. Whatever happens in an ordinary run, the call is held further or taken, and whoever
takes it decides its reply (`Snapshot.Held.undergo`). At an idle moment no call is held whose
deadline is due (`Snapshot.Held.early_of_idle`).
-/

namespace Rendezvous

namespace Snapshot

variable {snapshot : Snapshot} {occurrence : Occurrence} {own : Deadline} {ticket : Ticket}

/-- The table and the deadline task are sound, and the task was not given up. -/
structure Attended (snapshot : Snapshot) : Prop where
  sound : snapshot.source.ledger.Sound
  task : snapshot.source.TaskSound
  alive : snapshot.source.task.phase ≠ .dropped

theorem attended_of_new (new : snapshot.source.IsNew) : snapshot.Attended where
  sound := Ledger.sound_of_empty (by rw [Source.ledger, new.pending])
  task := Source.taskSound_of_new new.task
  alive := by simp [new.task]

theorem Attended.undergo (attended : snapshot.Attended) (kept : occurrence ≠ .abandon) :
    (snapshot.undergo occurrence).Attended where
  sound := sound_undergo attended.sound occurrence
  task := attended.task.undergo snapshot.now occurrence
  alive dropped := by
    have move := snapshot.source.taskMove_undergo snapshot.now occurrence
    rcases move.dropped_or_abandon dropped with before | abandoned
    · exact attended.alive before
    · exact kept abandoned

theorem Attended.undergoAll (attended : snapshot.Attended) {run : List Occurrence}
    (kept : ∀ occurrence ∈ run, occurrence ≠ .abandon) : (snapshot.undergoAll run).Attended := by
  induction run generalizing snapshot with
  | nil => exact attended
  | cons occurrence rest ih =>
      exact ih (attended.undergo (kept occurrence List.mem_cons_self))
        fun other member => kept other (List.mem_cons_of_mem _ member)

/-- What is outstanding before or armed now is handed out now or outstanding afterwards. -/
theorem Attended.accounts (attended : snapshot.Attended) (kept : occurrence ≠ .abandon) :
    (snapshot.source.task.outstanding ++
        (snapshot.source.armed? snapshot.now occurrence).toList).Perm
      (snapshot.source.fired snapshot.now occurrence ++
        (snapshot.undergo occurrence).source.task.outstanding) :=
  (snapshot.source.taskMove_undergo snapshot.now occurrence).accounts attended.task
    (attended.undergo kept).alive

/-- A call waits in the table, and its own deadline is the only one outstanding under its id. -/
structure Held (snapshot : Snapshot) (own : Deadline) (ticket : Ticket) : Prop where
  attended : snapshot.Attended
  awaits : snapshot.source.ledger.Awaits own.id ticket
  armed : own ∈ snapshot.source.task.outstanding
  sole : ∀ deadline ∈ snapshot.source.task.outstanding, deadline.id = own.id → deadline = own

/-- An accepted call is held. -/
theorem held_of_accepts {payload : String} {metadata : Metadata} {id : CorrelationId}
    (attended : snapshot.Attended) (accepts : snapshot.Accepts payload metadata id)
    (unarmed : ∀ deadline ∈ snapshot.source.task.outstanding, deadline.id ≠ id) :
    (snapshot.undergo (.accept payload metadata id)).Held (snapshot.deadline id)
      snapshot.source.nextTicket := by
  have kept : Occurrence.accept payload metadata id ≠ .abandon := nofun
  have accounts := attended.accounts kept
  rw [armed?_accept accepts] at accounts
  refine ⟨attended.undergo kept, awaits_undergo_accept accepts, ?_, ?_⟩
  · exact accounts.mem_iff.mp (List.mem_append_right _ List.mem_cons_self)
  · intro deadline member named
    rcases List.mem_append.mp (accounts.mem_iff.mpr member) with before | now
    · exact absurd named (unarmed deadline before)
    · exact List.mem_singleton.mp now

/-- A call that is held is held further, and then nobody takes it, or it is taken, and whoever takes
it decides its reply. -/
theorem Held.undergo (held : snapshot.Held own ticket) (kept : occurrence ≠ .abandon)
    (ordinary : occurrence.isOrdinary = true) (unminted : occurrence.minted? ≠ some own.id) :
    ((∀ closing, ¬snapshot.Takes own occurrence closing) ∧
        (snapshot.undergo occurrence).Held own ticket) ∨
      ∃ closing, snapshot.Takes own occurrence closing ∧
        (snapshot.undergo occurrence).source.ledger.Ended ticket
          (snapshot.source.ledger.verdict ticket closing.outcome) := by
  have accounts := held.attended.accounts kept
  have contains := Source.contains_iff.mpr ⟨ticket, held.awaits.pending⟩
  rcases undergo_awaits held.attended.sound held.awaits (spares_of_ordinary ordinary) with
    still | rfl | ⟨closing, closes, ended⟩
  · have untaken : ∀ closing, ¬snapshot.Takes own occurrence closing := by
      intro closing takes
      cases still.pending.symm.trans takes.find?_undergo
    refine Or.inl ⟨untaken, held.attended.undergo kept, still, ?_, ?_⟩
    · rcases List.mem_append.mp (accounts.mem_iff.mp (List.mem_append_left _ held.armed)) with
        fired | outstanding
      · cases occurrence with
        | fire => exact absurd (.expired fired contains) (untaken .expired)
        | _ => cases fired
      · exact outstanding
    · intro deadline member named
      rcases List.mem_append.mp (accounts.mem_iff.mpr (List.mem_append_right _ member)) with
        before | armed
      · exact held.sole deadline before named
      · have inRun : deadline ∈ snapshot.armings [occurrence] := List.mem_append_left _ armed
        have made := minted_of_mem_armings (List.forall_mem_singleton.mpr ordinary) inRun
        rcases List.mem_filterMap.mp made with ⟨_, here, minted⟩
        rw [List.mem_singleton.mp here, named] at minted
        exact absurd minted unminted
  · cases ordinary
  · refine Or.inr ⟨closing, ?_, ended⟩
    cases closes with
    | completed payload enabled =>
        have pending := held.awaits.pending
        have done := (Source.complete_iff payload).mpr ⟨enabled, ticket, pending⟩
        exact .completed payload enabled done
    | expired handed named =>
        have before := accounts.mem_iff.mpr (List.mem_append_left _ handed)
        rw [List.mem_append] at before
        rw [held.sole _ (before.resolve_right nofun) named] at handed
        exact .expired handed contains

theorem Held.undergo_of_untaken (held : snapshot.Held own ticket) (kept : occurrence ≠ .abandon)
    (ordinary : occurrence.isOrdinary = true) (unminted : occurrence.minted? ≠ some own.id)
    (untaken : ∀ closing, ¬snapshot.Takes own occurrence closing) :
    (snapshot.undergo occurrence).Held own ticket := by
  rcases held.undergo kept ordinary unminted with ⟨_, still⟩ | ⟨closing, takes, _⟩
  · exact still
  · exact absurd takes (untaken closing)

theorem Held.ended_of_takes (held : snapshot.Held own ticket) {closing : Closing}
    (takes : snapshot.Takes own occurrence closing) :
    (snapshot.undergo occurrence).source.ledger.Ended ticket
      (snapshot.source.ledger.verdict ticket closing.outcome) := by
  have plain : occurrence ≠ .abandon ∧ occurrence.isOrdinary = true ∧
      occurrence.minted? ≠ some own.id := by
    cases takes <;> exact ⟨nofun, rfl, nofun⟩
  rcases held.undergo plain.1 plain.2.1 plain.2.2 with ⟨untaken, _⟩ | ⟨other, also, ended⟩
  · exact absurd takes (untaken closing)
  · rwa [takes.closing_eq also] at ended

/-- A dispatch takes no call but the one that it names. -/
theorem Takes.id_eq {id : CorrelationId} {payload : String} {closing : Closing}
    (takes : snapshot.Takes own (.complete id payload) closing) : id = own.id := by
  generalize same : Occurrence.complete id payload = occurrence at takes
  cases takes with
  | completed => exact (Occurrence.complete.inj same).1
  | expired => cases same

/-- At an idle moment the deadline of a call that is held is still to come. -/
theorem Held.early_of_idle (held : snapshot.Held own ticket) (idle : snapshot.IsIdle) :
    snapshot.now < own.due := by
  have later := held.attended.task.sound.later_of_rests idle.1 idle.2
  have armed := held.armed
  rw [DeadlineTask.outstanding, later.1, List.nil_append] at armed
  exact later.2 own armed

end Snapshot

end Rendezvous
