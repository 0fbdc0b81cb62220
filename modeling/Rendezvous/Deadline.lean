import Rendezvous.CorrelationId

/-!
# Deadlines

A deadline asks that the call under an id be failed at an instant. The agenda keeps deadlines in
the order in which they are due, and among those that are due at the same instant in the order of
their ids. Since the order is part of the agenda, an agenda is known by what is in it
(`Agenda.eq_of_perm`), and what it hands out is what is due (`Agenda.popExpired_fst`).
-/

namespace Rendezvous

/-- A moment, as the number of nanoseconds since the clock was started. -/
abbrev Instant := Nat

/-- The moment at which a call is to be failed. -/
structure Deadline where
  /-- When the call is to be failed. -/
  due : Instant
  id : CorrelationId
deriving DecidableEq, Repr

namespace Deadline

/-- Deadlines are ordered by their instants first and by their ids second. -/
def atMost (left right : Deadline) : Prop :=
  left.due < right.due ∨ (left.due = right.due ∧ left.id ≤ right.id)

instance : LE Deadline :=
  ⟨atMost⟩

instance (left right : Deadline) : Decidable (left ≤ right) :=
  inferInstanceAs (Decidable (left.due < right.due ∨ (left.due = right.due ∧ left.id ≤ right.id)))

/-- The order in terms of two numbers. -/
theorem le_iff {left right : Deadline} :
    left ≤ right ↔ left.due < right.due ∨
      (left.due = right.due ∧ left.id.bits.toNat ≤ right.id.bits.toNat) :=
  Iff.rfl

theorem le_trans {first second third : Deadline} (lower : first ≤ second)
    (upper : second ≤ third) : first ≤ third := by
  rw [le_iff] at *
  dsimp only [Instant] at *
  omega

theorem le_of_not_le {left right : Deadline} (above : ¬left ≤ right) : right ≤ left := by
  rw [le_iff] at *
  dsimp only [Instant] at *
  omega

theorem le_antisymm {left right : Deadline} (below : left ≤ right) (above : right ≤ left) :
    left = right := by
  rw [le_iff] at below above
  dsimp only [Instant] at below above
  have sameDue : left.due = right.due := by
    dsimp only [Instant]
    omega
  have sameBits : left.id.bits = right.id.bits := BitVec.eq_of_toNat_eq (by omega)
  cases left with
  | mk leftDue leftId =>
      cases right with
      | mk rightDue rightId =>
          cases leftId
          cases rightId
          simp_all

theorem due_le_of_le {left right : Deadline} (below : left ≤ right) : left.due ≤ right.due := by
  rw [le_iff] at below
  dsimp only [Instant] at *
  omega

/-- A list of deadlines with one more at its place. -/
def place (deadline : Deadline) : List Deadline → List Deadline
  | [] => [deadline]
  | first :: rest =>
      if deadline ≤ first then deadline :: first :: rest else first :: place deadline rest

theorem place_perm (deadline : Deadline) (deadlines : List Deadline) :
    (place deadline deadlines).Perm (deadline :: deadlines) := by
  induction deadlines with
  | nil => exact List.Perm.refl _
  | cons first rest ih =>
      by_cases here : deadline ≤ first
      · rw [place, if_pos here]
      · rw [place, if_neg here]
        exact (ih.cons first).trans (List.Perm.swap deadline first rest)

theorem place_ordered (deadline : Deadline) {deadlines : List Deadline}
    (ordered : deadlines.Pairwise (· ≤ ·)) : (place deadline deadlines).Pairwise (· ≤ ·) := by
  induction deadlines with
  | nil => exact List.pairwise_singleton _ _
  | cons first rest ih =>
      rw [List.pairwise_cons] at ordered
      by_cases here : deadline ≤ first
      · rw [place, if_pos here]
        refine List.pairwise_cons.mpr ⟨?_, List.pairwise_cons.mpr ordered⟩
        intro other member
        rcases List.mem_cons.mp member with rfl | tail
        · exact here
        · exact le_trans here (ordered.1 other tail)
      · rw [place, if_neg here]
        refine List.pairwise_cons.mpr ⟨?_, ih ordered.2⟩
        intro other member
        rcases List.mem_cons.mp ((place_perm deadline rest).mem_iff.mp member) with rfl | tail
        · exact le_of_not_le here
        · exact ordered.1 other tail

end Deadline

/-- The deadlines that are to come, earliest first. -/
structure Agenda where
  /-- The deadlines in their order. -/
  deadlines : List Deadline := []
  /-- No deadline stands before a lesser one. -/
  ordered : deadlines.Pairwise (· ≤ ·) := by exact List.Pairwise.nil
deriving DecidableEq, Repr

namespace Agenda

/-- The agenda with one more deadline. -/
def push (agenda : Agenda) (deadline : Deadline) : Agenda :=
  ⟨deadline.place agenda.deadlines, deadline.place_ordered agenda.ordered⟩

/-- The instant of the earliest deadline. -/
def next? (agenda : Agenda) : Option Instant :=
  agenda.deadlines.head?.map Deadline.due

/-- Whether no deadline is to come. -/
def isEmpty (agenda : Agenda) : Bool :=
  agenda.deadlines.isEmpty

/-- Takes the deadlines out that are due at an instant, earliest first. -/
def popExpired (agenda : Agenda) (now : Instant) : List Deadline × Agenda :=
  (agenda.deadlines.takeWhile fun deadline => decide (deadline.due ≤ now),
    ⟨agenda.deadlines.dropWhile fun deadline => decide (deadline.due ≤ now),
      agenda.ordered.sublist (List.dropWhile_sublist _)⟩)

/-! ## What each operation does -/

/-- Two agendas with the same deadlines are the same, since the order settles the rest. -/
theorem eq_of_perm {left right : Agenda} (same : left.deadlines.Perm right.deadlines) :
    left = right := by
  have lists : left.deadlines = right.deadlines :=
    same.eq_of_pairwise (fun _ _ _ _ below above => Deadline.le_antisymm below above)
      left.ordered right.ordered
  cases left
  cases right
  simp_all

theorem push_perm (agenda : Agenda) (deadline : Deadline) :
    (agenda.push deadline).deadlines.Perm (deadline :: agenda.deadlines) :=
  deadline.place_perm agenda.deadlines

/-- In an ordered list the deadlines that are due come first. -/
theorem takeWhile_due {deadlines : List Deadline} (ordered : deadlines.Pairwise (· ≤ ·))
    (now : Instant) :
    deadlines.takeWhile (fun deadline => decide (deadline.due ≤ now)) =
      deadlines.filter fun deadline => decide (deadline.due ≤ now) := by
  induction deadlines with
  | nil => rfl
  | cons first rest ih =>
      rw [List.pairwise_cons] at ordered
      by_cases due : first.due ≤ now
      · simp [due, ih ordered.2]
      · have later : ∀ deadline ∈ rest, ¬deadline.due ≤ now := by
          intro deadline member
          exact Nat.not_le.mpr (Nat.lt_of_lt_of_le (Nat.lt_of_not_le due)
            (Deadline.due_le_of_le (ordered.1 deadline member)))
        simpa [due] using later

theorem dropWhile_due {deadlines : List Deadline} (ordered : deadlines.Pairwise (· ≤ ·))
    (now : Instant) :
    deadlines.dropWhile (fun deadline => decide (deadline.due ≤ now)) =
      deadlines.filter fun deadline => decide (now < deadline.due) := by
  induction deadlines with
  | nil => rfl
  | cons first rest ih =>
      rw [List.pairwise_cons] at ordered
      by_cases due : first.due ≤ now
      · simp [due, Nat.not_lt.mpr due, ih ordered.2]
      · have later : ∀ deadline ∈ rest, now < deadline.due := by
          intro deadline member
          exact Nat.lt_of_lt_of_le (Nat.lt_of_not_le due)
            (Deadline.due_le_of_le (ordered.1 deadline member))
        have all : rest.filter (fun deadline => decide (now < deadline.due)) = rest :=
          List.filter_eq_self.mpr fun deadline member => decide_eq_true (later deadline member)
        simp [due, Nat.lt_of_not_le due, all]

theorem popExpired_fst (agenda : Agenda) (now : Instant) :
    (agenda.popExpired now).1 =
      agenda.deadlines.filter fun deadline => decide (deadline.due ≤ now) :=
  takeWhile_due agenda.ordered now

theorem popExpired_snd (agenda : Agenda) (now : Instant) :
    (agenda.popExpired now).2.deadlines =
      agenda.deadlines.filter fun deadline => decide (now < deadline.due) :=
  dropWhile_due agenda.ordered now

end Agenda

end Rendezvous
