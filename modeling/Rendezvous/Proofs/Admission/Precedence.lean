import Rendezvous.Proofs.Admission.Race
import Rendezvous.Proofs.Metadata.Fields

/-!
# The order in which a request is refused

The force signal comes first, the size of the metadata second and a declared length third; only a
request that passes all three is worked on. Whoever works on it can say in any way that the body is
too large, and the client hears it in one (`Admission.answered_by_precedence`).
-/

namespace Rendezvous

namespace Admission

variable {State : Type} {limits : Limits} {worker : Worker State} {request : Http.Request}

/-! ## What the limits make of a request -/

theorem refusal?_of_large_metadata {headers : Metadata}
    (large : limits.maxMetadataSize < headers.size) :
    refusal? limits headers = some .resourceExhausted :=
  if_pos large

theorem refusal?_of_declared {headers : Metadata} (small : headers.size ≤ limits.maxMetadataSize)
    {length : Nat} (declared : declaredLength? headers = some length) :
    refusal? limits headers =
      if limits.maxMessageSize < length then some .messageTooLarge else none := by
  rw [refusal?, if_neg (Nat.not_lt.mpr small), declared]

theorem refusal?_of_undeclared {headers : Metadata}
    (small : headers.size ≤ limits.maxMetadataSize)
    (undeclared : declaredLength? headers = none) : refusal? limits headers = none := by
  rw [refusal?, if_neg (Nat.not_lt.mpr small), undeclared]

theorem refusal?_eq_none {headers : Metadata} (small : headers.size ≤ limits.maxMetadataSize)
    (short : ∀ length, declaredLength? headers = some length → length ≤ limits.maxMessageSize) :
    refusal? limits headers = none := by
  cases declared : declaredLength? headers with
  | none => exact refusal?_of_undeclared small declared
  | some length =>
      rw [refusal?_of_declared small declared, if_neg (Nat.not_lt.mpr (short length declared))]

/-- The declared length is that of the first field named so, whatever comes after it. -/
theorem declaredLength?_ofFields (sent : List (String × HeaderValue)) :
    declaredLength? (Metadata.ofFields sent) = (sent.find? fun field =>
      String.ofList (field.1.toList.map Char.toLower) == "content-length").bind fun field =>
        field.2.visible?.bind (Text.readNatural (2 ^ 64 - 1)) := by
  rw [declaredLength?, Metadata.first?_ofFields]
  cases sent.find? _ <;> rfl

theorem work_of_refused {status : CallStatus}
    (refused : refusal? limits request.head.headers = some status) :
    work limits worker request = pure (some (.ofStatus status)) := by
  rw [work, refused]

theorem work_of_admitted (admitted : refusal? limits request.head.headers = none) :
    work limits worker request =
      Option.map outgoing <$> worker request.head (inflow limits request) := by
  rw [work, admitted]
  rfl

/-- At each poll the request is answered as a service would answer it that gives the response of the
worker to this poll. -/
theorem answer_work (limits : Limits) (worker : Worker State) (request : Http.Request)
    (state : State) (poll : Nat) :
    Worker.answer (work limits worker request) state poll =
      respond limits (fun head inflow => Worker.answer (worker head inflow) state poll) request := by
  cases refusal : refusal? limits request.head.headers with
  | some status =>
      rw [work_of_refused refusal, respond, refusal]
      rfl
  | none =>
      rw [work_of_admitted refusal, respond, refusal, Worker.answer, Worker.stateAfter_map]
      rfl

/-! ## What comes out of a race -/

/-- Too large a message is reported in one way only. -/
def Tidy (response : Http.Response) : Prop :=
  response.status = 413 → response = .ofStatus .messageTooLarge

theorem tidy_outgoing (response : Http.Response) : Tidy (outgoing response) := by
  intro status
  rw [outgoing] at status ⊢
  split
  · rfl
  · rename_i other
    rw [if_neg other] at status
    exact absurd status other

theorem tidy_ofStatus (status : CallStatus) : Tidy (.ofStatus status) := by
  cases status with
  | messageTooLarge => exact fun _ => rfl
  | _ => exact fun same => absurd same (by decide)

theorem tidy_respond {router : Router} {response : Http.Response}
    (answered : respond limits router request = some response) : Tidy response := by
  rw [respond] at answered
  split at answered
  · cases answered
    exact tidy_ofStatus _
  · rcases Option.map_eq_some_iff.mp answered with ⟨inner, _, rfl⟩
    exact tidy_outgoing inner

end Admission

namespace ForceRace

/-- A race whose verdict, if it has one already, is a forced ending or an answer of the service is
still one after whatever happens. -/
theorem verdict_run {Answer : Type} {service : Nat → Option Answer} {holds : Answer → Prop}
    (answers : ∀ poll answer, service poll = some answer → holds answer)
    {race : ForceRace Answer} (before : ∀ answer, race.verdict = some (.answered answer) → holds answer)
    (timeline : List Moment) :
    ∀ answer, (race.run service timeline).verdict = some (.answered answer) → holds answer := by
  induction timeline generalizing race with
  | nil => exact before
  | cons moment rest ih =>
      refine ih fun answer decided => ?_
      cases moment with
      | poll =>
          rw [step, poll] at decided
          split at decided
          · exact before answer decided
          · split at decided
            · cases decided
            · rcases Option.map_eq_some_iff.mp decided with ⟨given, answered, same⟩
              cases same
              exact answers _ _ answered
      | _ => exact before answer decided

end ForceRace

namespace Admission

variable {State : Type} {limits : Limits} {worker : Worker State} {request : Http.Request}
  {signal : ForceSignal}

/-- What the client of a request has got at the end of a timeline, and the state of the worker. -/
def told (limits : Limits) (worker : Worker State) (request : Http.Request) (signal : ForceSignal)
    (timeline : List Moment) (state : State) : Option Http.Response × State :=
  Prod.map ForceRace.response? id ((pass limits worker request signal timeline).run state)

theorem told_of_raised (raised : signal.raised = true) (later : List Moment) (state : State) :
    told limits worker request signal (.poll :: later) state =
      (some (.ofStatus .unavailable), state) := by
  rw [told, pass, ForceRace.meetAll_cons, ForceRace.meet_poll_of_forced rfl raised,
    ForceRace.meetAll_of_ended rfl]
  rfl

/-- A request that is refused is answered at the first poll, and nobody works on it. -/
theorem told_of_refused (lowered : signal.raised = false) {status : CallStatus}
    (refused : refusal? limits request.head.headers = some status) (later : List Moment)
    (state : State) :
    told limits worker request signal (.poll :: later) state =
      (some (.ofStatus status), state) := by
  rw [told, pass, ForceRace.meetAll_cons, ForceRace.meet_poll rfl lowered, work_of_refused refused]
  change Prod.map ForceRace.response? id ((ForceRace.meetAll _
    { signal, polls := 1, verdict := some (.answered (.ofStatus status)) } later).run state) = _
  rw [ForceRace.meetAll_of_ended rfl]
  rfl

/-- A request that is not forced gets what the limits and the worker make of it, which is polled
until there is an answer. -/
theorem told_of_unforced (timeline : List Moment) (state : State)
    (unforced : ((pass limits worker request signal timeline).run state).1.verdict ≠ some .forced) :
    told limits worker request signal timeline state =
      (Worker.await (work limits worker request) (timeline.count .poll)).run state := by
  have polled := ForceRace.meetAll_of_unforced rfl timeline state unforced
  refine (congrArg (Prod.map (Option.map Verdict.response) id) polled).trans ?_
  change Prod.map _ id (Prod.map _ id
    ((Worker.await (work limits worker request) (timeline.count .poll)).run state)) = _
  cases (Worker.await (work limits worker request) (timeline.count .poll)).run state with
  | mk answer after => cases answer <;> rfl

theorem told_of_admitted (admitted : refusal? limits request.head.headers = none)
    (timeline : List Moment) (state : State)
    (unforced : ((pass limits worker request signal timeline).run state).1.verdict ≠ some .forced) :
    told limits worker request signal timeline state =
      (Option.map outgoing <$>
        Worker.await (worker request.head (inflow limits request))
          (timeline.count .poll)).run state := by
  rw [told_of_unforced timeline state unforced, work_of_admitted admitted, Worker.await_map]

/-- The client of a request gets the first of these that applies: what a raised signal says, what too
much metadata says, what too great a declared length says, and what the worker says. Only in the last
case the worker is polled, and then the client does not see in which way it said that the body is too
large. -/
theorem answered_by_precedence (limits : Limits) (worker : Worker State) (request : Http.Request)
    (signal : ForceSignal) (later : List Moment) (state : State) :
    let headers := request.head.headers
    let size := (headers.fields.map fun field =>
      field.1.utf8ByteSize + field.2.bytes.length + 32).sum
    let timeline := Moment.poll :: later
    let race := ((pass limits worker request signal timeline).run state).1
    let outcome := told limits worker request signal timeline state
    race = ({ signal } : ForceRace Http.Response).run
        (fun poll => respond limits
          (fun head inflow => Worker.answer (worker head inflow) state poll) request) timeline ∧
      (∀ sent, headers = Metadata.ofFields sent →
        size = (sent.map fun field => field.1.utf8ByteSize + field.2.bytes.length + 32).sum ∧
        declaredLength? headers = (sent.find? fun field =>
          String.ofList (field.1.toList.map Char.toLower) == "content-length").bind fun field =>
            field.2.visible?.bind (Text.readNatural (2 ^ 64 - 1))) ∧
      (signal.raised = true → outcome = (some (.ofStatus .unavailable), state)) ∧
      (signal.raised = false →
        (limits.maxMetadataSize < size → outcome = (some (.ofStatus .resourceExhausted), state)) ∧
        (size ≤ limits.maxMetadataSize →
          (∀ length, declaredLength? headers = some length → limits.maxMessageSize < length →
            outcome = (some (.ofStatus .messageTooLarge), state)) ∧
          ((∀ length, declaredLength? headers = some length → length ≤ limits.maxMessageSize) →
            race.verdict ≠ some .forced →
              outcome = ((Option.map fun response =>
                  if response.status = 413 then .ofStatus .messageTooLarge else response) <$>
                Worker.await (worker request.head (inflow limits request))
                  (timeline.count .poll)).run state))) ∧
      ∀ response, outcome.1 = some response → response.status = 413 →
        response = .ofStatus .messageTooLarge := by
  intro headers size timeline race outcome
  have measured : size = headers.size := (Metadata.size_eq_sum headers).symm
  rw [measured]
  have raced : race = ({ signal } : ForceRace Http.Response).run
      (fun poll => respond limits
        (fun head inflow => Worker.answer (worker head inflow) state poll) request) timeline := by
    simp only [← answer_work]
    exact ForceRace.meetAll_eq_run state timeline
  refine ⟨raced, ?_, fun raised => told_of_raised raised later state, fun lowered => ⟨?_, ?_⟩, ?_⟩
  · rintro sent same
    rw [same, Metadata.size_ofFields]
    exact ⟨rfl, declaredLength?_ofFields sent⟩
  · exact fun large => told_of_refused lowered (refusal?_of_large_metadata large) later state
  · refine fun small => ⟨fun length declared long => ?_, fun short unforced => ?_⟩
    · refine told_of_refused lowered ?_ later state
      rw [refusal?_of_declared small declared, if_pos long]
    · exact told_of_admitted (refusal?_eq_none small short) timeline state unforced
  · intro response answered
    rcases Option.map_eq_some_iff.mp answered with ⟨verdict, decided, rfl⟩
    cases verdict with
    | forced => exact tidy_ofStatus .unavailable
    | answered response =>
        refine ForceRace.verdict_run (fun _ _ => tidy_respond) ?_ _ response
          ((congrArg ForceRace.verdict raced).symm.trans decided)
        exact fun _ undecided => nomatch undecided

/-- A message whose metadata just fits and that is declared one byte too long does not come to a worker
that counts its polls. -/
theorem answered_by_precedence_of_declared :
    let headers := Metadata.ofFields [("Content-Length", .ofString "5")]
    let counting : Worker Nat := fun _ _ polls => (some { status := 200 }, polls + 1)
    told ⟨4, 47⟩ counting ⟨⟨"POST", "/", headers⟩, []⟩ {} [.poll, .raise, .poll] 0 =
      (some (.ofStatus .messageTooLarge), 0) := by
  intro headers counting
  have precedence := answered_by_precedence ⟨4, 47⟩ counting ⟨⟨"POST", "/", headers⟩, []⟩ {}
    [.raise, .poll] 0
  exact ((precedence.2.2.2.1 rfl).2 (by decide +kernel)).1 5 (by decide +kernel) (by decide)

end Admission

end Rendezvous
