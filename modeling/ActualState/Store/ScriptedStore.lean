import ActualState.Store.FileStore

/-!
# A store by script

A store that follows orders: how long a sync takes and which calls fail is set from outside,
and every call is kept in a log. It holds all batches it ever accepted, and its freshness lasts
thirty seconds.
-/
namespace ActualState

open Time (Moment Duration)

/-- A store whose delays and failures are set from outside. -/
structure ScriptedStore where
  calls : List StoreCall := []
  synced : List (List Heartbeat) := []
  writeDelay : Duration := 0
  failSync : Bool := false
  failFreshness : Bool := false
  freshness : Option FreshnessRecord := none
  deriving Inhabited

namespace ScriptedStore

/-- How long a bump lasts. -/
def freshnessTtl : Duration := 30 * Time.second

/-- Notes a call. -/
def note (s : ScriptedStore) (call : StoreCall) : ScriptedStore :=
  { s with calls := s.calls ++ [call] }

/-- The end of a sync: the batch is accepted or refused. -/
def completeSync (s : ScriptedStore) (batch : List Heartbeat) : ScriptedStore × Answer :=
  if s.failSync then (s, .failed .io) else ({ s with synced := s.synced ++ [batch] }, .done)

/-- What follows a noted bump. -/
def answerBump (s : ScriptedStore) (at_ : Moment) : ScriptedStore × Answer :=
  if s.failFreshness then (s, .failed .io)
  else
    match FreshnessRecord.from? at_ freshnessTtl with
    | none => (s, .aborted)
    | some f => ({ s with freshness := some f }, .done)

/-- What follows a noted revocation. -/
def answerRevoke (s : ScriptedStore) : ScriptedStore × Answer :=
  if s.failFreshness then (s, .failed .io) else ({ s with freshness := none }, .done)

/-- Every DEA ever synced with its latest instances, as if it had been heard of just now. -/
def actualState (s : ScriptedStore) (now : Moment) : Register DeaRecord :=
  .ofList (s.synced.flatten.map fun h => (h.deaGuid, ⟨h.instances, now⟩))

end ScriptedStore

end ActualState
