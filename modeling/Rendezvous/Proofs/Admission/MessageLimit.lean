import Rendezvous.Proofs.Admission.Precedence

/-!
# The limit of a message

A body is measured twice, by the length that is declared for it and by its chunks as they come in.
Both together refuse a message that is longer than the limit or than its declared length, or declared
to be longer than the limit, however it is cut into chunks (`Admission.message_refused_iff_too_long`).
-/

namespace Rendezvous

namespace Inflow

variable {limit : Nat} {chunks : List Http.Bytes}

theorem ofChunks_cons_of_le {chunk : Http.Bytes} (fits : chunk.length ≤ limit) :
    ofChunks limit (chunk :: chunks) =
      ⟨chunk :: (ofChunks (limit - chunk.length) chunks).chunks,
        (ofChunks (limit - chunk.length) chunks).tooLarge⟩ :=
  if_pos fits

theorem ofChunks_cons_of_lt {chunk : Http.Bytes} (exceeds : limit < chunk.length) :
    ofChunks limit (chunk :: chunks) = ⟨[], true⟩ :=
  if_neg (Nat.not_le.mpr exceeds)

/-- What can be read is no longer than the limit. -/
theorem length_ofChunks_le (limit : Nat) (chunks : List Http.Bytes) :
    (ofChunks limit chunks).chunks.flatten.length ≤ limit := by
  induction chunks generalizing limit with
  | nil => exact Nat.zero_le limit
  | cons chunk rest ih =>
      rcases Nat.lt_or_ge limit chunk.length with exceeds | fits
      · rw [ofChunks_cons_of_lt exceeds]
        exact Nat.zero_le limit
      · rw [ofChunks_cons_of_le fits, List.flatten_cons, List.length_append]
        have := ih (limit - chunk.length)
        omega

theorem ofChunks_of_le (fits : chunks.flatten.length ≤ limit) :
    ofChunks limit chunks = ⟨chunks, false⟩ := by
  induction chunks generalizing limit with
  | nil => rfl
  | cons chunk rest ih =>
      rw [List.flatten_cons, List.length_append] at fits
      rw [ofChunks_cons_of_le (by omega), ih (by omega)]

theorem tooLarge_ofChunks (exceeds : limit < chunks.flatten.length) :
    (ofChunks limit chunks).tooLarge = true := by
  induction chunks generalizing limit with
  | nil => exact absurd exceeds (Nat.not_lt_zero limit)
  | cons chunk rest ih =>
      rcases Nat.lt_or_ge limit chunk.length with first | fits
      · rw [ofChunks_cons_of_lt first]
      · rw [List.flatten_cons, List.length_append] at exceeds
        rw [ofChunks_cons_of_le fits]
        exact ih (by omega)

/-- The whole body comes out exactly when the limit holds for all chunks together. -/
theorem readAll?_ofChunks (limit : Nat) (chunks : List Http.Bytes) :
    (ofChunks limit chunks).readAll? =
      if limit < chunks.flatten.length then none else some chunks.flatten := by
  split
  · rename_i exceeds
    rw [readAll?, tooLarge_ofChunks exceeds]
    rfl
  · rename_i fits
    rw [ofChunks_of_le (Nat.not_lt.mp fits)]
    rfl

end Inflow

/-- What a reading worker does depends on the chunks together only. -/
theorem Worker.reading_ofChunks {State : Type}
    (handler : Http.Head → Http.Bytes → StateM State (Option Http.Response)) (head : Http.Head)
    (limit : Nat) (chunks : List Http.Bytes) :
    reading handler head (Inflow.ofChunks limit chunks) =
      if limit < chunks.flatten.length then pure (some { status := Admission.tooLargeStatus })
      else handler head chunks.flatten := by
  rw [reading, Inflow.readAll?_ofChunks]
  by_cases exceeds : limit < chunks.flatten.length
  · rw [if_pos exceeds, if_pos exceeds]
  · rw [if_neg exceeds, if_neg exceeds]

namespace Admission

variable {State : Type} {limits : Limits} {worker : Worker State} {request : Http.Request}
  {handler : Http.Head → Http.Bytes → StateM State (Option Http.Response)}

/-- A message that is too long for a limit, given its declared length and its length in bytes. -/
def IsTooLong (limit : Nat) (declared : Option Nat) (length : Nat) : Prop :=
  match declared with
  | some promised => limit < promised ∨ promised < length
  | none => limit < length

theorem bodyLimit_le (limits : Limits) (headers : Metadata) :
    bodyLimit limits headers ≤ limits.maxMessageSize := by
  rw [bodyLimit]
  split
  · exact Nat.le_refl _
  · exact Nat.min_le_left _ _

/-- A message within the metadata limit is too long when it is refused for its declared length or
its body exceeds what can be read of it. -/
theorem isTooLong_iff {headers : Metadata} (small : headers.size ≤ limits.maxMetadataSize)
    (length : Nat) :
    IsTooLong limits.maxMessageSize (declaredLength? headers) length ↔
      refusal? limits headers = some .messageTooLarge ∨
        (refusal? limits headers = none ∧ bodyLimit limits headers < length) := by
  cases declared : declaredLength? headers with
  | none =>
      rw [refusal?_of_undeclared small declared, bodyLimit, declared]
      simp only [IsTooLong, reduceCtorEq, false_or, true_and]
  | some promised =>
      rw [refusal?_of_declared small declared, bodyLimit, declared]
      rcases Nat.lt_or_ge limits.maxMessageSize promised with long | short
      · simp only [IsTooLong, long, true_or, if_true]
      · simp only [IsTooLong, Nat.not_lt.mpr short, if_false, false_or, reduceCtorEq, true_and,
          Nat.min_eq_right short]

theorem work_reading_of_tooLong
    (small : request.head.headers.size ≤ limits.maxMetadataSize)
    (long : IsTooLong limits.maxMessageSize (declaredLength? request.head.headers)
      request.chunks.flatten.length) :
    work limits (Worker.reading handler) request = pure (some (.ofStatus .messageTooLarge)) := by
  rcases (isTooLong_iff small _).mp long with refused | ⟨admitted, exceeds⟩
  · exact work_of_refused refused
  · rw [work_of_admitted admitted, inflow, Worker.reading_ofChunks, if_pos exceeds]
    rfl

theorem work_reading_of_fits
    (small : request.head.headers.size ≤ limits.maxMetadataSize)
    (fits : ¬IsTooLong limits.maxMessageSize (declaredLength? request.head.headers)
      request.chunks.flatten.length) :
    work limits (Worker.reading handler) request =
      Option.map outgoing <$> handler request.head request.chunks.flatten := by
  have admitted : refusal? limits request.head.headers = none := by
    refine refusal?_eq_none small fun promised declared => ?_
    rw [declared] at fits
    exact Nat.not_lt.mp fun long => fits (Or.inl long)
  have readable : ¬bodyLimit limits request.head.headers < request.chunks.flatten.length :=
    fun exceeds => fits ((isTooLong_iff small _).mpr (Or.inr ⟨admitted, exceeds⟩))
  rw [work_of_admitted admitted, inflow, Worker.reading_ofChunks, if_neg readable]

/-- What a worker would do with more bytes than the limit allows makes no difference. -/
theorem work_congr {other : Worker State}
    (agree : ∀ inflow : Inflow, inflow.chunks.flatten.length ≤ limits.maxMessageSize →
      worker request.head inflow = other request.head inflow) :
    work limits worker request = work limits other request := by
  have readable : (inflow limits request).chunks.flatten.length ≤ limits.maxMessageSize :=
    (Inflow.length_ofChunks_le _ _).trans (bodyLimit_le limits _)
  rw [work, work, agree _ readable]

/-- A reading worker does not see how the body is cut into chunks. -/
theorem work_reading_of_flatten_eq {chunks : List Http.Bytes}
    (same : chunks.flatten = request.chunks.flatten) :
    work limits (Worker.reading handler) { request with chunks } =
      work limits (Worker.reading handler) request := by
  rw [work, work, inflow, inflow, Worker.reading_ofChunks, Worker.reading_ofChunks, same]

/-- A message within the metadata limit is refused as too large exactly when it is declared to be
longer than the limit, is longer than it is declared to be, or, with no declared length, is longer
than the limit. Any other body comes to the handler as it was sent. -/
theorem message_refused_iff_too_long (limits : Limits)
    (handler : Http.Head → Http.Bytes → StateM State (Option Http.Response)) (request : Http.Request)
    (signal : ForceSignal) (later : List Moment) (state : State)
    (small : request.head.headers.size ≤ limits.maxMetadataSize)
    (unforced : ((pass limits (Worker.reading handler) request signal (.poll :: later)).run
      state).1.verdict ≠ some .forced) :
    let body := request.chunks.flatten
    let declared := declaredLength? request.head.headers
    let polls := (Moment.poll :: later).count .poll
    let outcome := told limits (Worker.reading handler) request signal (.poll :: later) state
    (∀ sent, request.head.headers = Metadata.ofFields sent →
        declared = (sent.find? fun field =>
          String.ofList (field.1.toList.map Char.toLower) == "content-length").bind fun field =>
            field.2.visible?.bind (Text.readNatural (2 ^ 64 - 1))) ∧
      (IsTooLong limits.maxMessageSize declared body.length →
        outcome = (some (.ofStatus .messageTooLarge), state)) ∧
      (¬IsTooLong limits.maxMessageSize declared body.length →
        outcome = (Option.map outgoing <$>
          Worker.await (handler request.head body) polls).run state) ∧
      ((∀ state response, ((handler request.head body).run state).1 = some response →
          response.status ≠ 413) →
        (outcome.1 = some (.ofStatus .messageTooLarge) ↔
          IsTooLong limits.maxMessageSize declared body.length)) ∧
      (∀ chunks, chunks.flatten = body →
        told limits (Worker.reading handler) { request with chunks } signal (.poll :: later) state =
          outcome) ∧
      (∀ worker other : Worker State,
        (∀ inflow : Inflow, inflow.chunks.flatten.length ≤ limits.maxMessageSize →
          worker request.head inflow = other request.head inflow) →
        told limits worker request signal (.poll :: later) state =
          told limits other request signal (.poll :: later) state) ∧
      (declared = none ∨ declared = some body.length →
        (IsTooLong limits.maxMessageSize declared body.length ↔
          limits.maxMessageSize < body.length)) := by
  intro body declared polls outcome
  have refused : IsTooLong limits.maxMessageSize declared body.length →
      outcome = (some (.ofStatus .messageTooLarge), state) := by
    intro long
    refine (told_of_unforced _ state unforced).trans ?_
    rw [work_reading_of_tooLong small long, List.count_cons_self]
    rfl
  have accepted : ¬IsTooLong limits.maxMessageSize declared body.length →
      outcome = (Option.map outgoing <$>
        Worker.await (handler request.head body) polls).run state := by
    intro fits
    refine (told_of_unforced _ state unforced).trans ?_
    rw [work_reading_of_fits small fits, Worker.await_map]
  refine ⟨?_, refused, accepted, fun plain => ⟨?_, fun long => by rw [refused long]⟩, ?_, ?_, ?_⟩
  · intro sent same
    change declaredLength? request.head.headers = _
    rw [same, declaredLength?_ofFields]
  · intro answered
    by_contra fits
    rw [accepted fits] at answered
    rcases Option.map_eq_some_iff.mp answered with ⟨response, awaited, same⟩
    have other := Worker.answer_await plain polls state awaited
    have unchanged : outgoing response = response := if_neg other
    rw [unchanged] at same
    exact other (congrArg Http.Response.status same)
  · intro chunks same
    change Prod.map _ id ((ForceRace.meetAll _ _ _).run state) = _
    rw [work_reading_of_flatten_eq same]
    rfl
  · intro worker other agree
    rw [told, told, pass, pass, work_congr agree]
  · rintro (undeclared | honest)
    · rw [undeclared]
      rfl
    · rw [honest]
      simp only [IsTooLong, Nat.lt_irrefl, or_false]

/-- A body of three bytes that is declared to have two is refused, although four are allowed. -/
theorem message_refused_iff_too_long_of_lie :
    let headers := Metadata.ofFields
      [("Content-Length", .ofString "2"), ("content-length", .ofString "3")]
    let counting : Http.Head → Http.Bytes → StateM Nat (Option Http.Response) :=
      fun _ _ calls => (some { status := 200 }, calls + 1)
    told ⟨4, 200⟩ (Worker.reading counting) ⟨⟨"POST", "/", headers⟩, [[1], [2, 3]]⟩ {} [.poll] 0 =
      (some (.ofStatus .messageTooLarge), 0) := by
  intro headers counting
  refine (message_refused_iff_too_long ⟨4, 200⟩ counting ⟨⟨"POST", "/", headers⟩, [[1], [2, 3]]⟩ {} []
    0 (by decide +kernel) (by decide +kernel)).2.1 ?_
  have declared : declaredLength? headers = some 2 := by decide +kernel
  rw [declared]
  exact Or.inr (by decide)

end Admission

end Rendezvous
