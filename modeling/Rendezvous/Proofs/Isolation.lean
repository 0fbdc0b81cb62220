import Rendezvous.Proofs.Isolation.Group
import Rendezvous.Source.Echo

/-!
# Sources do not interfere

Two exchanges agree on a group of sources if its sources and their registrations are the same. An
action that does not concern the group, and makes no listener dispatch to it, keeps up the agreement
when one of the exchanges performs it. An action that does concern it keeps up the agreement when both
perform it, and then whoever acts is told the same. So what does not concern the group may be left
out of a run (`Exchange.sources_isolated`).
-/

namespace Rendezvous

namespace Exchange

/-- The dispatches that a listener makes when it is told of a call. -/
def attempts (exchange : Exchange) : Action → List Dispatch
  | .handle name payload metadata id =>
      match exchange.event? name payload metadata id with
      | none => []
      | some (listener, event) => listener.reactions event
  | _ => []

/-- An action makes no listener dispatch to the group. -/
def isApart (exchange : Exchange) (group : Group) (action : Action) : Bool :=
  (exchange.attempts action).all fun attempt => !group.receives attempt

/-- What does not concern the group in a run makes no listener dispatch to it either. -/
def areApart (exchange : Exchange) (group : Group) : List Action → Bool
  | [] => true
  | action :: rest =>
      (group.concerns action || exchange.isApart group action) &&
        (exchange.perform action).1.areApart group rest

end Exchange

namespace Group

/-- Two exchanges are the same for a group. -/
structure Agree (group : Group) (left right : Exchange) : Prop where
  sources : ∀ name, group.member name = true → left.snapshot? name = right.snapshot? name
  registry : ∀ sourceId, group.owns sourceId = true →
    left.registry.find? sourceId = right.registry.find? sourceId

namespace Agree

theorem refl (group : Group) (exchange : Exchange) : group.Agree exchange exchange :=
  ⟨fun _ _ => rfl, fun _ _ => rfl⟩

variable {group : Group} {left right : Exchange}

theorem symm (agree : group.Agree left right) : group.Agree right left :=
  ⟨fun name member => (agree.sources name member).symm,
    fun sourceId owned => (agree.registry sourceId owned).symm⟩

theorem trans {middle : Exchange} (first : group.Agree left middle)
    (second : group.Agree middle right) : group.Agree left right :=
  ⟨fun name member => (first.sources name member).trans (second.sources name member),
    fun sourceId owned => (first.registry sourceId owned).trans (second.registry sourceId owned)⟩

end Agree

variable {group : Group} {exchange left right : Exchange} {name other : SourceName}

/-! ## What does not concern a group -/

/-- Whether a dispatch goes to a source of the group is seen from what it names. -/
theorem Fits.member_of_destination (fits : group.Fits exchange) {attempt : Dispatch}
    {id : CorrelationId} (destination : exchange.destination? attempt = some (other, id)) :
    group.member other = group.receives attempt := by
  cases attempt with
  | typed source target payload =>
      cases destination
      rfl
  | textual source text payload =>
      rcases Option.map_eq_some_iff.mp destination with ⟨_, _, same⟩
      cases same
      rfl
  | registered sourceId text payload =>
      rw [Exchange.destination?] at destination
      cases found : exchange.registry.find? sourceId with
      | none => simp [found] at destination
      | some holder =>
          rw [found] at destination
          rcases Option.map_eq_some_iff.mp destination with ⟨_, _, same⟩
          cases same
          exact (fits.registered sourceId _ found).symm

/-- A dispatch that no source of the group receives is nothing for the group. -/
theorem Fits.completions_eq_nil (fits : group.Fits exchange) {attempt : Dispatch}
    (foreign : group.receives attempt = false) (member : group.member name = true) :
    exchange.completions name attempt = [] := by
  rw [Exchange.completions]
  split
  · rfl
  · refine if_neg fun same => ?_
    subst same
    have received := fits.member_of_destination ‹_›
    exact Bool.false_ne_true (foreign.symm.trans (received.symm.trans member))

theorem forSource_of_foreign (foreign : group.member other = false)
    (member : group.member name = true) (occurrence : Occurrence) :
    Exchange.forSource name other occurrence = [] := by
  refine if_neg fun same => ?_
  subst same
  exact Bool.false_ne_true (foreign.symm.trans member)

theorem Fits.handle_eq_nil (fits : group.Fits exchange) {payload : String} {metadata : Metadata}
    {id : CorrelationId}
    (apart : exchange.isApart group (.handle other payload metadata id) = true)
    (foreign : group.member other = false) (member : group.member name = true) :
    exchange.occurrences name (.handle other payload metadata id) = [] := by
  rw [Exchange.occurrences, forSource_of_foreign foreign member, List.nil_append]
  cases told : exchange.event? other payload metadata id with
  | none => rfl
  | some notified =>
      have quiet : ∀ attempt ∈ notified.1.reactions notified.2,
          exchange.completions name attempt = [] := by
        intro attempt made
        rw [Exchange.isApart, Exchange.attempts, told, List.all_eq_true] at apart
        exact fits.completions_eq_nil (by simpa using apart attempt made) member
      simp [Exchange.reactions, forSource_of_foreign foreign member,
        List.flatMap_eq_nil_iff.mpr quiet]

theorem Fits.echo_eq_nil (fits : group.Fits exchange) (foreign : group.member other = false)
    (member : group.member name = true) : exchange.occurrences name (.echo other) = [] := by
  rw [Exchange.occurrences]
  split
  · rfl
  · rename_i sourceId event told
    rcases Option.bind_eq_some_iff.mp told with ⟨source, found, taken⟩
    rcases Option.map_eq_some_iff.mp taken with ⟨oldest, _, same⟩
    cases same
    rw [forSource_of_foreign foreign member, List.nil_append, Exchange.echo?]
    cases oldest.1.properties.head? with
    | none => rfl
    | some id =>
        have unowned : group.receives (.registered source.id id oldest.1.payload) = false :=
          (fits.ids other source found).trans foreign
        exact fits.completions_eq_nil unowned member

/-- An action that does not concern the group, nor makes a listener dispatch to it, is nothing for its
sources. -/
theorem Fits.occurrences_eq_nil (fits : group.Fits exchange) {action : Action}
    (foreign : group.concerns action = false) (apart : exchange.isApart group action = true)
    (member : group.member name = true) : exchange.occurrences name action = [] := by
  cases action with
  | handle other payload metadata id => exact fits.handle_eq_nil apart foreign member
  | dispatch attempt => exact fits.completions_eq_nil foreign member
  | echo other => exact fits.echo_eq_nil foreign member
  | advance duration => cases foreign
  | register other => rfl
  | deregister sourceId => rfl
  | _ => exact forSource_of_foreign foreign member _

theorem Fits.registryAfter_of_foreign (fits : group.Fits exchange) {action : Action}
    (foreign : group.concerns action = false) {sourceId : String}
    (owned : group.owns sourceId = true) :
    (exchange.registryAfter action).find? sourceId = exchange.registry.find? sourceId := by
  cases action with
  | register other =>
      cases present : exchange.sources.find? other with
      | none => simp [Exchange.registryAfter, present]
      | some source =>
          have unowned : group.owns source.id = false :=
            (fits.ids other source present).trans foreign
          have different : sourceId ≠ source.id := by
            rintro rfl
            exact Bool.false_ne_true (unowned.symm.trans owned)
          simp only [Exchange.registryAfter, present]
          split
          · rfl
          · rw [Directory.find?_put, if_neg different]
  | deregister removed =>
      have different : sourceId ≠ removed := by
        rintro rfl
        exact Bool.false_ne_true (foreign.symm.trans owned)
      rw [Exchange.registryAfter, Directory.find?_erase, if_neg different]
  | _ => rfl

/-- Nor does such an action change anything else for the group. -/
theorem Fits.agree_perform (fits : group.Fits exchange) {action : Action}
    (foreign : group.concerns action = false) (apart : exchange.isApart group action = true) :
    group.Agree exchange (exchange.perform action).1 where
  sources name member := by
    have law := exchange.follows_perform name action
    rw [Exchange.Follows, fits.occurrences_eq_nil foreign apart member] at law
    rw [law]
    cases exchange.snapshot? name <;> rfl
  registry sourceId owned := by
    rw [exchange.registry_perform, fits.registryAfter_of_foreign foreign owned]

/-! ## What concerns a group -/

namespace Agree

/-- A source of the group is the same in both exchanges, and so is the moment. -/
theorem found (agree : group.Agree left right) (member : group.member name = true) :
    left.sources.find? name = right.sources.find? name := by
  have same := congrArg (Option.map Snapshot.source) (agree.sources name member)
  simpa [Exchange.snapshot?, Function.comp_def] using same

theorem now (agree : group.Agree left right) (member : group.member name = true) {source : Source}
    (present : left.sources.find? name = some source) : left.now = right.now := by
  have same := agree.sources name member
  rw [Exchange.snapshot?, Exchange.snapshot?, ← agree.found member, present] at same
  exact congrArg Snapshot.now (Option.some.inj same)

theorem destination? (agree : group.Agree left right) {attempt : Dispatch}
    (received : group.receives attempt = true) :
    left.destination? attempt = right.destination? attempt := by
  cases attempt with
  | typed source id payload => rfl
  | textual source text payload => rfl
  | registered sourceId text payload =>
      simp only [Exchange.destination?, agree.registry sourceId received]

theorem completions (agree : group.Agree left right) (fitsLeft : group.Fits left)
    (fitsRight : group.Fits right) (member : group.member name = true) (attempt : Dispatch) :
    left.completions name attempt = right.completions name attempt := by
  cases received : group.receives attempt with
  | true => rw [Exchange.completions, agree.destination? received, Exchange.completions]
  | false =>
      rw [fitsLeft.completions_eq_nil received member, fitsRight.completions_eq_nil received member]

theorem event? (agree : group.Agree left right) (member : group.member other = true)
    (payload : String) (metadata : Metadata) (id : CorrelationId) :
    left.event? other payload metadata id = right.event? other payload metadata id := by
  rw [Exchange.event?, Exchange.event?, ← agree.found member]
  cases present : left.sources.find? other with
  | none => rfl
  | some source => rw [agree.now member present]

/-- An action that concerns the group is the same for its sources in both exchanges. -/
theorem occurrences (agree : group.Agree left right) (fitsLeft : group.Fits left)
    (fitsRight : group.Fits right) {action : Action} (concerned : group.concerns action = true)
    (member : group.member name = true) :
    left.occurrences name action = right.occurrences name action := by
  have completions : left.completions name = right.completions name :=
    funext (agree.completions fitsLeft fitsRight member)
  cases action with
  | handle other payload metadata id =>
      simp only [Exchange.occurrences, Exchange.reactions, completions,
        agree.event? concerned payload metadata id]
  | dispatch attempt => exact congrFun completions attempt
  | echo other => simp only [Exchange.occurrences, completions, agree.found concerned]
  | _ => rfl

theorem registryAfter (agree : group.Agree left right) (fits : group.Fits left) {action : Action}
    (concerned : group.concerns action = true) {sourceId : String}
    (owned : group.owns sourceId = true) :
    (left.registryAfter action).find? sourceId = (right.registryAfter action).find? sourceId := by
  have same := agree.registry sourceId owned
  cases action with
  | register other =>
      simp only [Exchange.registryAfter, ← agree.found concerned]
      cases present : left.sources.find? other with
      | none => exact same
      | some source =>
          have own := (fits.ids other source present).trans concerned
          have taken : left.registry.contains source.id = right.registry.contains source.id :=
            congrArg Option.isSome (agree.registry source.id own)
          simp only [taken]
          split
          · exact same
          · rw [Directory.find?_put, Directory.find?_put, same]
  | deregister removed =>
      rw [Exchange.registryAfter, Exchange.registryAfter, Directory.find?_erase,
        Directory.find?_erase, same]
  | _ => exact same

/-- Two exchanges go on agreeing if both perform what concerns the group. -/
theorem perform (agree : group.Agree left right) (fitsLeft : group.Fits left)
    (fitsRight : group.Fits right) {action : Action} (concerned : group.concerns action = true) :
    group.Agree (left.perform action).1 (right.perform action).1 where
  sources name member := by
    have lawLeft := left.follows_perform name action
    have lawRight := right.follows_perform name action
    rw [Exchange.Follows] at lawLeft lawRight
    rw [lawLeft, lawRight, agree.sources name member,
      agree.occurrences fitsLeft fitsRight concerned member]
  registry sourceId owned := by
    rw [left.registry_perform, right.registry_perform,
      agree.registryAfter fitsLeft concerned owned]

end Agree

/-! ## What is told -/

/-- What is told of the dispatches that the group receives. -/
def heard (group : Group) (attempts : List Dispatch) (answers : List Bool) : List Bool :=
  ((attempts.zip answers).filter fun answered => group.receives answered.1).map Prod.snd

end Group

/-- What an action is for those who act and listen. -/
structure Report where
  /-- What whoever acts is told. -/
  notice : Notice
  /-- The event that the listener of a source gets. -/
  event : Option Event
deriving DecidableEq, Repr

namespace Exchange

/-- What an action is for those who act and listen in a group. Of the answers to the dispatches of a
listener only those are reported that come from the group. -/
def report (exchange : Exchange) (group : Group) (action : Action) : Report :=
  let notice := (exchange.perform action).2
  match action with
  | .handle name payload metadata id =>
      match notice, exchange.event? name payload metadata id with
      | .called receipt, some (listener, event) =>
          ⟨.called { receipt with
            answers := group.heard (listener.reactions event) receipt.answers }, some event⟩
      | notice, _ => ⟨notice, none⟩
  | _ => ⟨notice, none⟩

/-- The reports of the actions in a run that concern a group. -/
def reports (exchange : Exchange) (group : Group) : List Action → List Report
  | [] => []
  | action :: rest =>
      (if group.concerns action then [exchange.report group action] else []) ++
        (exchange.perform action).1.reports group rest

end Exchange

namespace Group

variable {group : Group} {left right : Exchange} {name : SourceName}

namespace Agree

/-- A dispatch keeps up the agreement, and if the group receives it, the answer is the same. -/
theorem dispatch (agree : group.Agree left right) (fitsLeft : group.Fits left)
    (fitsRight : group.Fits right) (attempt : Dispatch) :
    group.Agree (left.dispatch attempt).1 (right.dispatch attempt).1 ∧
      (group.receives attempt = true →
        (left.dispatch attempt).2 = (right.dispatch attempt).2) := by
  constructor
  · cases received : group.receives attempt with
    | true =>
        have concerned : group.concerns (.dispatch attempt) = true := received
        exact agree.perform fitsLeft fitsRight concerned
    | false =>
        have foreign : group.concerns (.dispatch attempt) = false := received
        exact ((fitsLeft.agree_perform foreign rfl).symm.trans agree).trans
          (fitsRight.agree_perform foreign rfl)
  · intro received
    rw [Exchange.dispatch, Exchange.dispatch, ← agree.destination? received]
    cases destination : left.destination? attempt with
    | none => rfl
    | some place =>
        have member : group.member place.1 = true :=
          (fitsLeft.member_of_destination destination).trans received
        simp only [← agree.found member]
        cases left.sources.find? place.1 <;> rfl

/-- The answers from the group to the dispatches of a listener are the same. -/
theorem dispatchAll (agree : group.Agree left right) (fitsLeft : group.Fits left)
    (fitsRight : group.Fits right) (attempts : List Dispatch) :
    group.heard attempts (left.dispatchAll attempts).2 =
      group.heard attempts (right.dispatchAll attempts).2 := by
  induction attempts generalizing left right with
  | nil => rfl
  | cons attempt rest ih =>
      have first := agree.dispatch fitsLeft fitsRight attempt
      have later := ih first.1 (fitsLeft.perform (.dispatch attempt))
        (fitsRight.perform (.dispatch attempt))
      cases received : group.receives attempt with
      | true =>
          have answer := first.2 received
          simpa [heard, Exchange.dispatchAll, received, answer] using later
      | false => simpa [heard, Exchange.dispatchAll, received] using later

theorem setSource (agree : group.Agree left right) (member : group.member name = true)
    {source : Source} (present : left.sources.find? name = some source) (changed : Source) :
    group.Agree (left.setSource name changed) (right.setSource name changed) where
  sources other also := by
    have now := agree.now member present
    by_cases same : other = name
    · simp [Exchange.snapshot?, Exchange.setSource, Directory.find?_put, same, now]
    · simpa [Exchange.snapshot?, Exchange.setSource, Directory.find?_put, same] using
        agree.sources other also
  registry := agree.registry

theorem report_handle (agree : group.Agree left right) (fitsLeft : group.Fits left)
    (fitsRight : group.Fits right) (member : group.member name = true) (payload : String)
    (metadata : Metadata) (id : CorrelationId) :
    left.report group (.handle name payload metadata id) =
      right.report group (.handle name payload metadata id) := by
  have same := agree.found member
  cases present : left.sources.find? name with
  | none =>
      simp [Exchange.report, Exchange.perform, Exchange.handle?, ← same, present]
  | some source =>
      rw [present] at same
      cases handled : source.handler with
      | none =>
          simp [Exchange.report, Exchange.perform, Exchange.handle?, ← same, present, handled]
      | some handler =>
          have now := agree.now member present
          cases accepted : source.accept handler left.now payload metadata id with
          | mk changed told =>
              have also := accepted
              rw [now] at also
              cases told with
              | none =>
                  simp [Exchange.report, Exchange.perform, Exchange.handle?, Exchange.event?,
                    ← same, present, handled, accepted, also]
              | some event =>
                  have kept : changed.id = source.id := by
                    have frame := source.frame_undergo left.now (.accept payload metadata id)
                    simpa [Source.undergo, handled, accepted] using frame.1
                  have answers := (agree.setSource member present changed).dispatchAll
                    (fitsLeft.setSource present kept) (fitsRight.setSource same.symm kept)
                    (handler.listener.reactions event)
                  simpa [Exchange.report, Exchange.perform, Exchange.handle?, Exchange.event?,
                    Exchange.notify, ← same, present, handled, accepted, also] using answers

theorem onSource (agree : group.Agree left right) (member : group.member name = true)
    {act another : Source → Source × Notice}
    (same : left.now = right.now → act = another) :
    (left.onSource name act).2 = (right.onSource name another).2 := by
  rw [Exchange.onSource, Exchange.onSource, ← agree.found member]
  cases present : left.sources.find? name with
  | none => rfl
  | some source => rw [same (agree.now member present)]

/-- Whoever does what concerns the group is told the same in both exchanges. -/
theorem report (agree : group.Agree left right) (fitsLeft : group.Fits left)
    (fitsRight : group.Fits right) {action : Action} (concerned : group.concerns action = true) :
    left.report group action = right.report group action := by
  cases action with
  | handle other payload metadata id =>
      exact agree.report_handle fitsLeft fitsRight concerned payload metadata id
  | dispatch attempt =>
      have answer := (agree.dispatch fitsLeft fitsRight attempt).2 concerned
      simp [Exchange.report, Exchange.perform, answer]
  | register other =>
      have same := agree.found concerned
      cases present : left.sources.find? other with
      | none => simp [Exchange.report, Exchange.perform, ← same, present]
      | some source =>
          have own := (fitsLeft.ids other source present).trans concerned
          have taken : left.registry.contains source.id = right.registry.contains source.id :=
            congrArg Option.isSome (agree.registry source.id own)
          cases held : left.registry.contains source.id <;>
            simp [Exchange.report, Exchange.perform, ← same, present, Exchange.register,
              Registry.register, held, ← taken]
  | deregister sourceId =>
      have removed : left.registry.contains sourceId = right.registry.contains sourceId :=
        congrArg Option.isSome (agree.registry sourceId concerned)
      simp [Exchange.report, Exchange.perform, Exchange.deregister, Registry.deregister, removed]
  | echo other => rfl
  | advance duration => rfl
  | arm other id => exact congrArg (Report.mk · none) (agree.onSource concerned fun now => by rw [now])
  | fire other => exact congrArg (Report.mk · none) (agree.onSource concerned fun now => by rw [now])
  | _ => exact congrArg (Report.mk · none) (agree.onSource concerned fun _ => rfl)

end Agree

/-- What does not concern the group may be left out of a run. -/
theorem Agree.performAll_filter (agree : group.Agree left right) (fitsLeft : group.Fits left)
    (fitsRight : group.Fits right) {actions : List Action}
    (apart : left.areApart group actions = true) :
    group.Agree (left.performAll actions).1
        (right.performAll (actions.filter group.concerns)).1 ∧
      left.reports group actions = right.reports group (actions.filter group.concerns) := by
  induction actions generalizing left right with
  | nil => exact ⟨agree, rfl⟩
  | cons action rest ih =>
      rw [Exchange.areApart, Bool.and_eq_true] at apart
      cases concerned : group.concerns action with
      | true =>
          have later := ih (agree.perform fitsLeft fitsRight concerned) (fitsLeft.perform action)
            (fitsRight.perform action) apart.2
          have same := agree.report fitsLeft fitsRight concerned
          rw [List.filter_cons, if_pos concerned]
          exact ⟨later.1, by simpa [Exchange.reports, concerned, same] using later.2⟩
      | false =>
          have alone : left.isApart group action = true := by
            simpa [concerned] using apart.1
          have later := ih ((fitsLeft.agree_perform concerned alone).symm.trans agree)
            (fitsLeft.perform action) fitsRight apart.2
          rw [List.filter_cons, if_neg (by simp [concerned])]
          exact ⟨later.1, by simpa [Exchange.reports, concerned] using later.2⟩

end Group

namespace Exchange

/-- The group of some of the sources of an exchange. -/
def group (exchange : Exchange) (members : SourceName → Bool) : Group where
  member := members
  owns sourceId := exchange.sources.entries.any fun entry =>
    members entry.1 && decide (entry.2.id = sourceId)

/-- Sources with different ids share a registry in which only they are registered, each under its
own id. -/
structure IsShared (exchange : Exchange) : Prop where
  distinct : ∀ name other source another, exchange.sources.find? name = some source →
    exchange.sources.find? other = some another → source.id = another.id → name = other
  registered : ∀ sourceId name, exchange.registry.find? sourceId = some name →
    ∃ source, exchange.sources.find? name = some source ∧ source.id = sourceId

theorem owns_id {exchange : Exchange} (shared : exchange.IsShared) (members : SourceName → Bool)
    {name : SourceName} {source : Source} (found : exchange.sources.find? name = some source) :
    (exchange.group members).owns source.id = members name := by
  rw [Bool.eq_iff_iff, group, List.any_eq_true]
  constructor
  · rintro ⟨entry, listed, holds⟩
    rw [Bool.and_eq_true, decide_eq_true_eq] at holds
    have same := shared.distinct entry.1 name entry.2 source
      (Directory.find?_eq_some_iff.mpr listed) found holds.2
    exact same ▸ holds.1
  · intro member
    exact ⟨(name, source), Directory.find?_eq_some_iff.mp found, by simp [member]⟩

/-- What concerns other sources only may be left out of a run: the sources of a group, for instance
a single one, end up the same, and whoever acts or listens in the group is told the same. All that is
asked of the run is that what concerns other sources does not make a listener dispatch to the
group. -/
theorem sources_isolated {exchange : Exchange} (shared : exchange.IsShared)
    {members : SourceName → Bool} {actions : List Action}
    (apart : exchange.areApart (exchange.group members) actions = true) :
    let group := exchange.group members
    let kept := actions.filter group.concerns
    (∀ name, members name = true →
        (exchange.performAll actions).1.snapshot? name =
          (exchange.performAll kept).1.snapshot? name) ∧
      exchange.reports group actions = exchange.reports group kept := by
  intro group kept
  have fits : group.Fits exchange :=
    { ids := fun name source found => owns_id shared members found
      registered := by
        intro sourceId name found
        rcases shared.registered sourceId name found with ⟨source, present, rfl⟩
        exact owns_id shared members present }
  have same := (Group.Agree.refl group exchange).performAll_filter fits fits apart
  exact ⟨same.1.sources, same.2⟩

/-- Two sources with listeners that answer at once get calls under one id. What happens to the
second of them may be left out for the first. -/
theorem sources_isolated_of_one_id :
    let source (name : SourceName) : Source :=
      { id := name, timeout := ⟨5⟩,
        handler := some { listener := .echoing name (.property 0) 1 } }
    let exchange : Exchange := { sources := Directory.ofList [("a", source "a"), ("b", source "b")] }
    let members (name : SourceName) : Bool := decide (name = "a")
    let own : List Action := [.register "a", .handle "a" "in" Directory.empty ⟨7⟩, .poll "a" 0]
    let actions : List Action :=
      [.register "a", .insert "b" ⟨7⟩, .handle "a" "in" Directory.empty ⟨7⟩,
        .dispatch (.typed "b" ⟨7⟩ "out"), .handle "b" "in" Directory.empty ⟨7⟩,
        .deregister "b", .poll "a" 0]
    exchange.IsShared ∧ exchange.areApart (exchange.group members) actions = true ∧
      actions.filter (exchange.group members).concerns = own ∧
      (exchange.performAll actions).1.snapshot? "a" = (exchange.performAll own).1.snapshot? "a" ∧
      exchange.reports (exchange.group members) actions =
        exchange.reports (exchange.group members) own := by
  intro source exchange members own actions
  have found : ∀ name state, exchange.sources.find? name = some state →
      (name = "a" ∨ name = "b") ∧ state = source name := by
    intro name state present
    simp only [exchange, Directory.ofList, List.foldl_cons, List.foldl_nil, Directory.find?_put,
      Directory.find?_empty] at present
    split at present
    · cases present
      exact ⟨Or.inr ‹_›, by rw [‹name = "b"›]⟩
    · split at present
      · cases present
        exact ⟨Or.inl ‹_›, by rw [‹name = "a"›]⟩
      · cases present
  have shared : exchange.IsShared := by
    refine ⟨fun name other state another here there same => ?_, fun _ _ none => by cases none⟩
    rw [(found name state here).2, (found other another there).2] at same
    exact same
  have apart : exchange.areApart (exchange.group members) actions = true := by decide +kernel
  have left : actions.filter (exchange.group members).concerns = own := rfl
  have isolated := sources_isolated shared apart
  simp only [left] at isolated
  exact ⟨shared, apart, left, isolated.1 "a" rfl, isolated.2⟩

end Exchange

end Rendezvous
