import Rendezvous.Proofs.Deadlines.Accounting
import Rendezvous.Proofs.Ledger.Tracking

/-!
# Accepted calls

A call that is accepted waits in the table under its id, and its deadline is armed. If nobody else
arms the id, the only deadline that can take the call out of the table is its own
(`Snapshot.eq_deadline_of_fired`), and it cannot be handed out while the call stays in the table
(`Snapshot.departures_ne_nil_of_mem_firings`).
-/

namespace Rendezvous

namespace Snapshot

/-- A call that is made at this moment under the id is accepted. -/
def Accepts (snapshot : Snapshot) (payload : String) (metadata : Metadata) (id : CorrelationId) :
    Prop :=
  ∃ handler, snapshot.source.handler = some handler ∧
    (snapshot.source.accept handler snapshot.now payload metadata id).2.isSome = true

/-- The deadline of a call that is made at this moment under the id. -/
def deadline (snapshot : Snapshot) (id : CorrelationId) : Deadline :=
  ⟨snapshot.now + snapshot.source.timeout.nanoseconds, id⟩

variable {snapshot : Snapshot} {payload : String} {metadata : Metadata} {id : CorrelationId}
  {ticket : Ticket}

/-- A call is accepted if nothing speaks for refusing it. -/
theorem accepts_iff : snapshot.Accepts payload metadata id ↔
    ∃ handler, snapshot.source.handler = some handler ∧
      snapshot.source.refusal? handler metadata id = none := by
  refine exists_congr fun handler => and_congr_right fun _ => ?_
  rw [Source.accept_eq]
  cases properties : handler.properties metadata id with
  | error error => simp [Source.refusal?, properties]
  | ok found =>
      cases taken : snapshot.source.pending.contains id <;>
        simp [Source.refusal?, properties, taken, Except.toOption]

theorem postings_accept (accepts : snapshot.Accepts payload metadata id) :
    snapshot.source.postings snapshot.now (.accept payload metadata id) = [.entered id] := by
  rcases accepts_iff.mp accepts with ⟨handler, handled, free⟩
  simp [Source.postings, handled, Source.admission, free]

theorem armed?_accept (accepts : snapshot.Accepts payload metadata id) :
    snapshot.source.armed? snapshot.now (.accept payload metadata id) =
      some (snapshot.deadline id) := by
  rcases accepts_iff.mp accepts with ⟨handler, handled, free⟩
  simp [Source.armed?, handled, free, deadline]

theorem find?_of_accepts (accepts : snapshot.Accepts payload metadata id) :
    snapshot.source.ledger.find? id = none := by
  rcases accepts_iff.mp accepts with ⟨handler, handled, free⟩
  cases held : snapshot.source.pending.entries.find? id with
  | none => exact held
  | some ticket =>
      rw [Source.refusal?] at free
      split at free
      · cases free
      · simp [Pending.contains, Directory.contains, held] at free

/-- A call that is accepted waits in the table. -/
theorem awaits_undergo_accept (accepts : snapshot.Accepts payload metadata id) :
    (snapshot.undergo (.accept payload metadata id)).source.ledger.Awaits id
      snapshot.source.nextTicket := by
  rw [ledger_undergo, postings_accept accepts, Ledger.postAll_cons, Ledger.postAll_nil]
  refine ⟨?_, ?_⟩
  · rw [Ledger.find?_entered, if_pos ⟨rfl, find?_of_accepts accepts⟩]
    rfl
  · rw [Ledger.reply?, Ledger.calls_entered]
    simp [Source.nextTicket, Source.ledger]

/-! ## Runs in parts -/

theorem armings_append (snapshot : Snapshot) (earlier later : List Occurrence) :
    snapshot.armings (earlier ++ later) =
      snapshot.armings earlier ++ (snapshot.undergoAll earlier).armings later := by
  induction earlier generalizing snapshot with
  | nil => rfl
  | cons occurrence rest ih => simp [armings, ih]

theorem firings_append (snapshot : Snapshot) (earlier later : List Occurrence) :
    snapshot.firings (earlier ++ later) =
      snapshot.firings earlier ++ (snapshot.undergoAll earlier).firings later := by
  induction earlier generalizing snapshot with
  | nil => rfl
  | cons occurrence rest ih => simp [firings, ih]

/-- A call departs at a moment of the run at which it was pending. -/
theorem split_of_mem_departures {run : List Occurrence} {before : Snapshot}
    {occurrence : Occurrence}
    (departed : (before, occurrence) ∈ snapshot.departures id ticket run) :
    ∃ earlier later, run = earlier ++ occurrence :: later ∧
      before = snapshot.undergoAll earlier ∧ before.source.ledger.find? id = some ticket := by
  induction run generalizing snapshot with
  | nil => cases departed
  | cons first rest ih =>
      rcases List.mem_append.mp departed with here | later
      · split at here
        · rename_i leaves
          rw [List.mem_singleton] at here
          cases here
          exact ⟨[], rest, rfl, rfl, leaves.1⟩
        · cases here
      · rcases ih later with ⟨earlier, last, rfl, rfl, pending⟩
        exact ⟨first :: earlier, last, rfl, rfl, pending⟩

/-- A caller who waits at the end of a run waited at its beginning. -/
theorem listens_of_listens_undergoAll (made : ticket < snapshot.source.ledger.calls.length)
    {run : List Occurrence}
    (waits : (snapshot.undergoAll run).source.ledger.listens ticket = true) :
    snapshot.source.ledger.listens ticket = true := by
  rw [ledger_undergoAll] at waits
  exact Ledger.listens_of_listens_postAll made waits

theorem started_undergoAll (started : snapshot.source.task.Started) (run : List Occurrence) :
    (snapshot.undergoAll run).source.task.Started := by
  induction run generalizing snapshot with
  | nil => exact started
  | cons occurrence rest ih =>
      rw [undergoAll_cons]
      exact ih ((snapshot.source.taskMove_undergo snapshot.now occurrence).started started)

/-! ## Deadlines that are handed out -/

/-- Only a task that was started hands out deadlines. -/
theorem started_of_mem_firings {run : List Occurrence} {firing : Instant × Deadline}
    (fired : firing ∈ snapshot.firings run) : (snapshot.undergoAll run).source.task.Started := by
  induction run generalizing snapshot with
  | nil => cases fired
  | cons occurrence rest ih =>
      rcases List.mem_append.mp fired with here | later
      · refine started_undergoAll ?_ (occurrence :: rest)
        cases occurrence with
        | fire =>
            cases handed : snapshot.source.task.fire? snapshot.now with
            | none => simp [Source.fired, Source.handedOut, handed] at here
            | some result => exact Or.inl (DeadlineTask.eq_of_fire? handed).1
        | _ => cases here
      · exact ih later

/-- A new task hands out nothing but what is armed. -/
theorem mem_armings_of_mem_firings (new : snapshot.source.task = {}) {run : List Occurrence}
    {firing : Instant × Deadline} (fired : firing ∈ snapshot.firings run) :
    firing.2 ∈ snapshot.armings run := by
  have kept : (snapshot.undergoAll run).source.task.phase ≠ .dropped := by
    rcases started_of_mem_firings fired with phase | phase <;> simp [phase]
  have accounts := accounts (Source.taskSound_of_new new) kept
  rw [new] at accounts
  exact accounts.mem_iff.mpr (List.mem_append_left _ (List.mem_map_of_mem fired))

/-- What is handed out when a call leaves the table is handed out in the run. -/
theorem mem_firings_of_departure {run : List Occurrence} {fired : Snapshot}
    (departed : (fired, .fire) ∈ snapshot.departures id ticket run) {deadline : Deadline}
    (handed : deadline ∈ fired.source.handedOut fired.now) :
    (fired.now, deadline) ∈ snapshot.firings run := by
  induction run generalizing snapshot with
  | nil => cases departed
  | cons occurrence rest ih =>
      rcases List.mem_append.mp departed with here | later
      · split at here
        · rw [List.mem_singleton] at here
          cases here
          exact List.mem_append_left _ (List.mem_map_of_mem handed)
        · cases here
      · exact List.mem_append_right _ (ih later)

/-- While a deadline for its id is handed out, a pending call leaves the table. -/
theorem departures_ne_nil_of_mem_firings (sound : snapshot.source.ledger.Sound)
    (awaits : snapshot.source.ledger.Awaits id ticket) {run : List Occurrence}
    (spares : ∀ occurrence ∈ run, occurrence.Spares ticket) {time : Instant} {deadline : Deadline}
    (fired : (time, deadline) ∈ snapshot.firings run) (named : deadline.id = id) :
    snapshot.departures id ticket run ≠ [] := by
  induction run generalizing snapshot with
  | nil => cases fired
  | cons occurrence rest ih =>
      intro none
      have stays := (List.append_eq_nil_iff.mp none).1
      have pending : (snapshot.undergo occurrence).source.ledger.find? id = some ticket := by
        refine Decidable.byContradiction fun gone => ?_
        rw [if_pos ⟨awaits.pending, gone⟩] at stays
        cases stays
      rcases undergo_awaits sound awaits (spares occurrence List.mem_cons_self) with
        still | rfl | ⟨closing, _, ended⟩
      · rcases List.mem_append.mp fired with here | later
        · cases occurrence with
          | fire =>
              rcases List.mem_map.mp here with ⟨_, handed, same⟩
              cases same
              have expired := Ledger.postAll_expired sound awaits
                (snapshot.source.handedOut snapshot.now)
              rw [if_pos ⟨deadline, handed, named⟩] at expired
              rw [ledger_undergo] at pending
              exact expired.gone id pending
          | _ => cases here
        · exact ih (sound_undergo sound occurrence) still
            (fun other member => spares other (List.mem_cons_of_mem _ member)) later
            (List.append_eq_nil_iff.mp none).2
      · rw [ledger_undergo] at pending
        simp [Source.postings, Ledger.find?_withdrawn] at pending
      · exact ended.gone id pending

/-- If nobody else arms the id of a call, the deadline for the id that is handed out when the call
leaves the table is its own. -/
theorem eq_deadline_of_fired (new : snapshot.source.task = {}) {before after : List Occurrence}
    (accepts : (snapshot.undergoAll before).Accepts payload metadata id)
    (unarmed : ∀ deadline ∈ snapshot.armings before, deadline.id ≠ id)
    (alone : ∀ deadline ∈ ((snapshot.undergoAll before).undergo
      (.accept payload metadata id)).armings after, deadline.id ≠ id)
    {fired : Snapshot}
    (departed : (fired, .fire) ∈ ((snapshot.undergoAll before).undergo
      (.accept payload metadata id)).departures id ticket after)
    {deadline : Deadline} (handed : deadline ∈ fired.source.handedOut fired.now)
    (named : deadline.id = id) : deadline = (snapshot.undergoAll before).deadline id := by
  have inRun : (fired.now, deadline) ∈
      snapshot.firings (before ++ .accept payload metadata id :: after) := by
    rw [firings_append]
    exact List.mem_append_right _
      (List.mem_append_right _ (mem_firings_of_departure departed handed))
  have armed := mem_armings_of_mem_firings new inRun
  rw [armings_append] at armed
  rcases List.mem_append.mp armed with earlier | later
  · exact absurd named (unarmed deadline earlier)
  · rw [armings, armed?_accept accepts] at later
    rcases List.mem_append.mp later with own | other
    · exact List.mem_singleton.mp own
    · exact absurd named (alone deadline other)

end Snapshot

end Rendezvous
