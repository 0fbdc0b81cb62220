import Rendezvous.Exchange.Action

/-!
# Parties to an exchange

A gathering is an exchange with parties that are known by name. A party waits for the outcome of a
call of its own, and may hold the end by which a call, its own or another, is resolved. Such an end
is in one place at a time: in the table of its source or with one party. A party that gets another
end drops the one that it held.
-/

namespace Rendezvous

/-- A call of a source. -/
structure CallName where
  /-- The source to which the call was made. -/
  source : SourceName
  /-- The number of the call there. -/
  ticket : Ticket
deriving DecidableEq, Repr

/-- A party to an exchange. -/
structure Party where
  /-- The call for whose outcome the party waits. -/
  waiting : Option CallName := none
  /-- The id of that call, if the party has learnt it. -/
  id : Option CorrelationId := none
  /-- The call whose end the party holds. -/
  held : Option CallName := none

/-- An exchange with its parties. -/
structure Gathering where
  exchange : Exchange
  /-- The parties by their names. -/
  parties : Directory String Party := Directory.empty

namespace Gathering

/-- Something happens to the exchange. -/
def perform (gathering : Gathering) (action : Action) : Gathering × Notice :=
  let (exchange, notice) := gathering.exchange.perform action
  ({ gathering with exchange }, notice)

/-- The party of a name, which at first waits for nothing and holds nothing. -/
def party (gathering : Gathering) (name : String) : Party :=
  (gathering.parties.find? name).getD {}

/-- The gathering after a party has changed. -/
def setParty (gathering : Gathering) (name : String) (party : Party) : Gathering :=
  { gathering with parties := gathering.parties.put name party }

/-- A party looks whether its call has ended. -/
def poll (gathering : Gathering) (name : String) : Gathering × Glimpse :=
  match (gathering.party name).waiting with
  | none => (gathering, .gone)
  | some call =>
      match gathering.perform (.poll call.source call.ticket) with
      | (polled, .seen glimpse) => (polled, glimpse)
      | (polled, _) => (polled, .gone)

/-- A party no longer waits for its call. -/
def hangUp (gathering : Gathering) (name : String) : Gathering :=
  match (gathering.party name).waiting with
  | none => gathering
  | some call => (gathering.perform (.hangUp call.source call.ticket)).1

/-- A party makes a call to a source, which is handled under the given id. -/
def call (gathering : Gathering) (name : String) (source : SourceName) (payload : String)
    (metadata : Metadata) (id : CorrelationId) : Gathering × Option Receipt :=
  match gathering.perform (.handle source payload metadata id) with
  | (called, .called receipt) =>
      (called.setParty name { waiting := some ⟨source, receipt.ticket⟩ }, some receipt)
  | (unchanged, _) => (unchanged, none)

/-- A party makes a call and enters it under an id. If the id is taken, the party keeps the end. -/
def insert (gathering : Gathering) (name : String) (source : SourceName) (id : CorrelationId) :
    Gathering × Option DuplicateId :=
  match gathering.perform (.insert source id) with
  | (called, .inserted ticket) =>
      (called.setParty name { waiting := some ⟨source, ticket⟩, id := some id }, none)
  | (called, .duplicate ticket refusal) =>
      (called.setParty name
        { waiting := some ⟨source, ticket⟩, id := some id, held := some ⟨source, ticket⟩ },
          some refusal)
  | (unchanged, _) => (unchanged, none)

/-- A party drops the end that it holds, and is told whether it held one. -/
def letGo (gathering : Gathering) (name : String) : Gathering × Bool :=
  let party := gathering.party name
  match party.held with
  | none => (gathering, false)
  | some call =>
      ((gathering.perform (.drop call.source call.ticket)).1.setParty name
        { party with held := none }, true)

/-- A party takes the end of a call out of the table of a source, and is told whether there was
one. -/
def withdraw (gathering : Gathering) (name : String) (source : SourceName) (id : CorrelationId) :
    Gathering × Bool :=
  match gathering.perform (.withdraw source id) with
  | (withdrawn, .taken ticket) =>
      let (free, _) := withdrawn.letGo name
      (free.setParty name { free.party name with held := some ⟨source, ticket⟩ }, true)
  | (unchanged, _) => (unchanged, false)

/-- A party resolves the call whose end it holds, and is told whether the caller still waited. -/
def resolve (gathering : Gathering) (name : String) (outcome : Outcome) :
    Gathering × Option Bool :=
  let party := gathering.party name
  match party.held with
  | none => (gathering, none)
  | some call =>
      match gathering.perform (.resolve call.source call.ticket outcome) with
      | (resolved, .effect waited) =>
          (resolved.setParty name { party with held := none }, some waited)
      | (unchanged, _) => (unchanged, none)

/-- Whether the caller of the call whose end a party holds has left. -/
def isClosed? (gathering : Gathering) (name : String) : Option Bool :=
  match (gathering.party name).held with
  | none => none
  | some call =>
      (gathering.exchange.sources.find? call.source).map fun source =>
        !source.listens call.ticket

/-- Whether a call is pending under an id in the table of a source. -/
def contains (gathering : Gathering) (source : SourceName) (id : CorrelationId) : Bool :=
  (gathering.exchange.sources.find? source).any fun source => source.pending.contains id

/-- The source that is registered under a source id. -/
def lookup? (gathering : Gathering) (sourceId : String) : Option Source :=
  (gathering.exchange.registry.find? sourceId).bind gathering.exchange.sources.find?

end Gathering

end Rendezvous
