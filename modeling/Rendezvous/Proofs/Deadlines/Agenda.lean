import Mathlib.Data.List.Induction
import Mathlib.Data.List.Perm.Basic
import Rendezvous.Deadline

/-!
# Every deadline is handed out once

Deadlines are pushed onto an agenda and popped from it in any order, at instants in any order. After
any operations the agenda holds the deadlines that no pop has reached since they were pushed
(`Agenda.operateAll_perm`), so each is handed out by the first pop that reaches it.

An agenda keeps its deadlines sorted. Of a heap it is only known that none of its deadlines is
greater than the one on top, in an order in which the earlier deadline is the greater one. Taking
the top away as long as it is due hands out the same (`Agenda.eq_of_drains`).
-/

namespace Rendezvous

/-- An operation on an agenda. -/
inductive AgendaOperation
  | push (deadline : Deadline)
  | popExpired (now : Instant)

namespace AgendaOperation

/-- A pop reaches the deadlines that are due at its instant. -/
def reaches (deadline : Deadline) : AgendaOperation → Bool
  | .push _ => false
  | .popExpired now => decide (deadline.due ≤ now)

/-- The deadlines that are pushed, each with the operations that come after that. -/
def pushes : List AgendaOperation → List (Deadline × List AgendaOperation)
  | [] => []
  | .push deadline :: later => (deadline, later) :: pushes later
  | .popExpired _ :: later => pushes later

def pushed (operations : List AgendaOperation) : List Deadline :=
  (pushes operations).map Prod.fst

/-- The deadlines that no pop has reached since they were pushed. -/
def waiting (operations : List AgendaOperation) : List Deadline :=
  ((pushes operations).filter fun push => !push.2.any (reaches push.1)).map Prod.fst

variable {operations : List AgendaOperation}

theorem pushes_concat (operation : AgendaOperation) :
    pushes (operations ++ [operation]) =
      ((pushes operations).map fun push => (push.1, push.2 ++ [operation])) ++
        pushes [operation] := by
  induction operations with
  | nil => rfl
  | cons first operations ih => cases first <;> simp [pushes, ih]

theorem pushed_concat (operation : AgendaOperation) :
    pushed (operations ++ [operation]) = pushed operations ++ pushed [operation] := by
  simp [pushed, pushes_concat, Function.comp_def]

theorem waiting_concat_push (deadline : Deadline) :
    waiting (operations ++ [.push deadline]) = waiting operations ++ [deadline] := by
  simp [waiting, pushes_concat, List.filter_map, Function.comp_def, reaches, pushes]

theorem waiting_concat_pop (now : Instant) :
    waiting (operations ++ [.popExpired now]) =
      (waiting operations).filter fun deadline => decide (now < deadline.due) := by
  have unreached : ∀ push : Deadline × List AgendaOperation,
      (!push.2.any (reaches push.1) && !reaches push.1 (popExpired now)) =
        (decide (now < push.1.due) && !push.2.any (reaches push.1)) := by
    intro push
    rw [Bool.and_comm, reaches, ← decide_not]
    simp only [Nat.not_le]
  simp [waiting, pushes_concat, List.filter_map, Function.comp_def, pushes, unreached]

end AgendaOperation

open AgendaOperation

namespace Agenda

/-- What an operation hands out, and the agenda after it. -/
def operate (agenda : Agenda) : AgendaOperation → List Deadline × Agenda
  | .push deadline => ([], agenda.push deadline)
  | .popExpired now => agenda.popExpired now

/-- What operations hand out one after another, and the agenda after them. -/
def operateAll (agenda : Agenda) : List AgendaOperation → List Deadline × Agenda
  | [] => ([], agenda)
  | operation :: later =>
      let (handed, operated) := agenda.operate operation
      let (others, final) := operated.operateAll later
      (handed ++ others, final)

variable {agenda : Agenda} {now : Instant}

theorem operateAll_concat (operations : List AgendaOperation) (operation : AgendaOperation) :
    agenda.operateAll (operations ++ [operation]) =
      ((agenda.operateAll operations).1 ++ ((agenda.operateAll operations).2.operate operation).1,
        ((agenda.operateAll operations).2.operate operation).2) := by
  induction operations generalizing agenda with
  | nil => simp [operateAll]
  | cons first operations ih => simp [operateAll, ih]

/-- After any operations the agenda holds what waits. -/
theorem operateAll_perm (operations : List AgendaOperation) :
    ((({} : Agenda).operateAll operations).2.deadlines).Perm (waiting operations) := by
  induction operations using List.reverseRecOn with
  | nil => exact List.Perm.nil
  | append_singleton operations operation ih =>
      rw [operateAll_concat]
      cases operation with
      | push deadline =>
          rw [waiting_concat_push]
          apply (push_perm _ deadline).trans
          exact (ih.cons deadline).trans (List.perm_append_singleton deadline _).symm
      | popExpired now =>
          rw [waiting_concat_pop]
          simp only [operate, popExpired_snd]
          exact ih.filter _

theorem filter_due_perm (deadlines : List Deadline) (now : Instant) :
    ((deadlines.filter fun deadline => decide (deadline.due ≤ now)) ++
      deadlines.filter fun deadline => decide (now < deadline.due)).Perm deadlines := by
  have later : (fun deadline : Deadline => decide (now < deadline.due)) =
      fun deadline => !decide (deadline.due ≤ now) := by
    funext deadline
    rw [← decide_not, decide_eq_decide]
    exact Nat.not_le.symm
  rw [later]
  exact List.filter_append_perm _ _

/-- What was pushed was handed out or waits, and not both. -/
theorem handed_append_waiting_perm (operations : List AgendaOperation) :
    ((({} : Agenda).operateAll operations).1 ++ waiting operations).Perm (pushed operations) := by
  induction operations using List.reverseRecOn with
  | nil => exact List.Perm.nil
  | append_singleton operations operation ih =>
      rw [operateAll_concat, pushed_concat]
      cases operation with
      | push deadline =>
          rw [waiting_concat_push]
          simp only [operate, List.append_nil, ← List.append_assoc]
          exact ih.append_right _
      | popExpired now =>
          have held := operateAll_perm operations
          have parts := (held.filter fun deadline => decide (deadline.due ≤ now)).append_right
            ((waiting operations).filter fun deadline => decide (now < deadline.due))
          rw [waiting_concat_pop]
          simp only [operate, popExpired_fst, pushed, pushes, List.map_nil, List.append_nil,
            List.append_assoc]
          apply List.Perm.trans _ ih
          exact (parts.trans (filter_due_perm _ now)).append_left _

end Agenda

/-! ## Heaps of deadlines -/

namespace Deadline

/-- The order of a heap that has its greatest deadline on top: the earlier of two deadlines is the
greater one, and of two that are due at the same instant the one with the lesser id. -/
def urgency (left right : Deadline) : Ordering :=
  (compare right.due left.due).then (compare right.id.bits.toNat left.id.bits.toNat)

theorem urgency_ne_gt_iff {left right : Deadline} : left.urgency right ≠ .gt ↔ right ≤ left := by
  rw [urgency, Ne, Ordering.then_eq_gt, Nat.compare_eq_gt, Nat.compare_eq_eq, Nat.compare_eq_gt,
    le_iff]
  dsimp only [Instant]
  omega

/-- No deadline of a heap is greater than the one on top. -/
def OnTop (heap : List Deadline) (top : Deadline) : Prop :=
  top ∈ heap ∧ ∀ other ∈ heap, other.urgency top ≠ .gt

/-- The top of a heap is handed out and taken away as long as it is due. -/
inductive Drains (now : Instant) : List Deadline → List Deadline → List Deadline → Prop
  | empties : Drains now [] [] []
  | stops {heap : List Deadline} {top : Deadline} (onTop : OnTop heap top)
      (later : now < top.due) : Drains now heap [] heap
  | takes {heap rest handed left : List Deadline} {top : Deadline} (onTop : OnTop heap top)
      (due : top.due ≤ now) (taken : heap.Perm (top :: rest))
      (drains : Drains now rest handed left) : Drains now heap (top :: handed) left

end Deadline

open Deadline

namespace Agenda

variable {agenda : Agenda} {now : Instant} {heap rest handed left : List Deadline} {top : Deadline}

/-- The deadline on top of a heap is the first one on the agenda. -/
theorem head?_eq_some_iff (same : heap.Perm agenda.deadlines) :
    agenda.deadlines.head? = some top ↔ OnTop heap top := by
  have ordered := agenda.ordered
  have reflexive : top ≤ top := le_iff.mpr (Or.inr ⟨rfl, Nat.le_refl _⟩)
  simp only [OnTop, urgency_ne_gt_iff, same.mem_iff]
  cases deadlines : agenda.deadlines with
  | nil => simp
  | cons first others =>
      rw [deadlines, List.pairwise_cons] at ordered
      simp only [List.head?_cons, Option.some.injEq, List.mem_cons, forall_eq_or_imp]
      constructor
      · rintro rfl
        exact ⟨Or.inl rfl, reflexive, ordered.1⟩
      · rintro ⟨rfl | other, below, _⟩
        · rfl
        · exact le_antisymm (ordered.1 top other) below

/-- A pop hands the first deadline out if it is due, and goes on. -/
theorem popExpired_of_due {first : Deadline} {others : List Deadline}
    (held : agenda.deadlines = first :: others) (due : first.due ≤ now) :
    ∃ later : Agenda, later.deadlines = others ∧
      (agenda.popExpired now).1 = first :: (later.popExpired now).1 ∧
        (agenda.popExpired now).2 = (later.popExpired now).2 := by
  refine ⟨⟨others, (held ▸ agenda.ordered).of_cons⟩, rfl, ?_, ?_⟩
  · simp [popExpired, held, due]
  · simp [popExpired, held, due]

theorem popExpired_of_later {first : Deadline} {others : List Deadline}
    (held : agenda.deadlines = first :: others) (later : now < first.due) :
    agenda.popExpired now = ([], agenda) := by
  have undue : ¬first.due ≤ now := Nat.not_le.mpr later
  cases agenda
  subst held
  simp [popExpired, undue]

/-- Draining a heap and popping an agenda with the same deadlines is the same. -/
theorem eq_of_drains (drains : Drains now heap handed left) (same : heap.Perm agenda.deadlines) :
    handed = (agenda.popExpired now).1 ∧ left.Perm (agenda.popExpired now).2.deadlines := by
  induction drains generalizing agenda with
  | empties =>
      have empty := List.nil_perm.mp same
      simp [popExpired, empty]
  | stops onTop later =>
      rcases List.head?_eq_some_iff.mp ((head?_eq_some_iff same).mpr onTop) with ⟨others, held⟩
      rw [popExpired_of_later held later]
      exact ⟨rfl, same⟩
  | takes onTop due taken drains ih =>
      rcases List.head?_eq_some_iff.mp ((head?_eq_some_iff same).mpr onTop) with ⟨others, held⟩
      rcases popExpired_of_due held due with ⟨later, rfl, first, last⟩
      rw [held] at same
      have rest := ih ((List.perm_cons _).mp (taken.symm.trans same))
      rw [first, last, rest.1]
      exact ⟨rfl, rest.2⟩

theorem exists_drains (same : heap.Perm agenda.deadlines) (now : Instant) :
    ∃ left, Drains now heap (agenda.popExpired now).1 left := by
  generalize deadlines : agenda.deadlines = held
  induction held generalizing agenda heap with
  | nil =>
      rw [deadlines] at same
      rw [List.perm_nil.mp same]
      exact ⟨[], by simpa [popExpired, deadlines] using Drains.empties⟩
  | cons first others ih =>
      have onTop : OnTop heap first := (head?_eq_some_iff same).mp (by rw [deadlines]; rfl)
      by_cases due : first.due ≤ now
      · rcases popExpired_of_due deadlines due with ⟨later, rfl, handed, _⟩
        rcases ih (List.Perm.refl _) rfl with ⟨left, drains⟩
        rw [handed]
        exact ⟨left, .takes onTop due (deadlines ▸ same) drains⟩
      · have later : now < first.due := Nat.not_le.mp due
        rw [popExpired_of_later deadlines later]
        exact ⟨heap, .stops onTop later⟩

/-- The next instant is the earliest one at which something is due. -/
theorem next?_eq_min? (same : agenda.deadlines.Perm rest) :
    agenda.next? = (rest.map Deadline.due).min? := by
  have ordered := agenda.ordered
  cases deadlines : agenda.deadlines with
  | nil =>
      rw [deadlines] at same
      rw [next?, deadlines, List.nil_perm.mp same]
      rfl
  | cons first others =>
      rw [deadlines] at ordered same
      symm
      rw [next?, deadlines, List.head?_cons, Option.map_some, List.min?_eq_some_iff]
      constructor
      · exact List.mem_map_of_mem (same.mem_iff.mp List.mem_cons_self)
      · intro due member
        rcases List.mem_map.mp member with ⟨deadline, listed, rfl⟩
        rcases List.mem_cons.mp (same.mem_iff.mpr listed) with rfl | other
        · exact Nat.le_refl _
        · exact due_le_of_le ((List.pairwise_cons.mp ordered).1 deadline other)

/-- Each deadline is handed out by the first pop that reaches it after it was pushed, and not at all
if none does: a pop hands out exactly what waits and is due, and what was pushed was handed out
before or waits. It is handed out in the order of instants and ids, and the next instant is the
earliest one that waits. Any heap that holds what waits hands out the same, and has the same next
instant on top. -/
theorem handed_out_once (operations : List AgendaOperation) (now : Instant) :
    let agenda := (({} : Agenda).operateAll operations).2
    ((agenda.popExpired now).1.Perm
      ((waiting operations).filter fun deadline => decide (deadline.due ≤ now))) ∧
    ((({} : Agenda).operateAll operations).1 ++ waiting operations).Perm (pushed operations) ∧
    (agenda.popExpired now).1.Pairwise (fun earlier later =>
      earlier.due < later.due ∨ (earlier.due = later.due ∧ earlier.id ≤ later.id)) ∧
    (agenda.next? = ((waiting operations).map Deadline.due).min? ∧
      (agenda.next? = none ↔ waiting operations = [])) ∧
    ∀ heap : List Deadline, heap.Perm (waiting operations) →
      (∀ top, OnTop heap top → agenda.next? = some top.due) ∧
      (∃ left, Drains now heap (agenda.popExpired now).1 left) ∧
      ∀ handed left, Drains now heap handed left → handed = (agenda.popExpired now).1 := by
  intro agenda
  have held : agenda.deadlines.Perm (waiting operations) := operateAll_perm operations
  have next := next?_eq_min? held
  refine ⟨?_, handed_append_waiting_perm operations, ?_, ⟨next, ?_⟩, ?_⟩
  · rw [popExpired_fst]
    exact held.filter _
  · rw [popExpired_fst]
    exact agenda.ordered.filter _
  · rw [next, List.min?_eq_none_iff, List.map_eq_nil_iff]
  · intro heap holds
    have same : heap.Perm agenda.deadlines := holds.trans held.symm
    refine ⟨?_, exists_drains same now, ?_⟩
    · intro top onTop
      rw [next?, (head?_eq_some_iff same).mpr onTop]
      rfl
    · intro handed left drains
      exact (eq_of_drains drains same).1

/-- A heap in no order, with two equal deadlines and three that are due at the same instant. -/
theorem handed_out_once_of_equal_deadlines :
    let operations : List AgendaOperation := [.push ⟨5, ⟨7⟩⟩, .push ⟨9, ⟨1⟩⟩, .push ⟨3, ⟨4⟩⟩,
      .popExpired 4, .push ⟨2, ⟨9⟩⟩, .push ⟨5, ⟨3⟩⟩, .push ⟨5, ⟨3⟩⟩]
    let heap : List Deadline := [⟨2, ⟨9⟩⟩, ⟨9, ⟨1⟩⟩, ⟨5, ⟨3⟩⟩, ⟨5, ⟨7⟩⟩, ⟨5, ⟨3⟩⟩]
    heap.Perm (waiting operations) ∧ OnTop heap ⟨2, ⟨9⟩⟩ ∧
      (({} : Agenda).operateAll operations).2.next? = some 2 ∧
      ∃ left, Drains 5 heap [⟨2, ⟨9⟩⟩, ⟨5, ⟨3⟩⟩, ⟨5, ⟨3⟩⟩, ⟨5, ⟨7⟩⟩] left := by
  intro operations heap
  have holds : heap.Perm (waiting operations) := by decide
  have onTop : OnTop heap ⟨2, ⟨9⟩⟩ := ⟨by decide, by decide⟩
  have drained := (handed_out_once operations 5).2.2.2.2 heap holds
  exact ⟨holds, onTop, drained.1 _ onTop, drained.2.1⟩

end Agenda

end Rendezvous
