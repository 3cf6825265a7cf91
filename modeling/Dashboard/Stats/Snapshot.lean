import Dashboard.Payload
import Dashboard.Tab.Report
/-!
# What is known of usage and of the memory store

* `Stats.Usage` — figures on usage.
* `Stats.Store` — a module of the memory store.
* `Stats.Snapshot` — both, `Stats.Snapshot.ofReport` — as a load brought them.
-/

namespace Dashboard.Stats

/-- The method that tells the figures on usage. -/
def summaryMethod : String := "getSummary"

/-- The method that lists the modules of the memory store. -/
def memoryMethod : String := "getMemoryUsage"

/-- Figures on usage. -/
structure Usage where
  sessions : Nat
  requests : Nat
  tokensIn : Nat
  tokensOut : Nat
  updatedAt : Option Time.Instant

namespace Usage

def sessionsFields : Aliases := ["sessions", "sessionCount"]
def requestsFields : Aliases := ["requests", "requestCount"]
def tokensInFields : Aliases := ["tokensIn", "tokens_in", "inputTokens"]
def tokensOutFields : Aliases := ["tokensOut", "tokens_out", "outputTokens"]
def updatedAtFields : Aliases := ["updatedAt", "updated_at", "timestamp"]

/-- The figures that a value describes. -/
def ofJson (x : Json) : Usage where
  sessions := x.countOr sessionsFields 0
  requests := x.countOr requestsFields 0
  tokensIn := x.countOr tokensInFields 0
  tokensOut := x.countOr tokensOutFields 0
  updatedAt := x.instantOf? updatedAtFields

end Usage

/-- A module of the memory store. -/
structure Store where
  name : String
  bytes : Nat
  entries : Nat

namespace Store

def nameFields : Aliases := ["name", "module"]
def bytesFields : Aliases := ["bytes", "size", "sizeBytes"]
def entriesFields : Aliases := ["entries", "count", "entryCount"]

/-- The module that a value describes. One without a name is none. -/
def ofJson? (x : Json) : Option Store :=
  (x.wordOf? nameFields).map fun name =>
    { name, bytes := x.countOr bytesFields 0, entries := x.countOr entriesFields 0 }

/-- Modules by size, the largest first, then by name. -/
def order (a b : Store) : Ordering :=
  (compare b.bytes a.bytes).then (compare a.name b.name)

end Store

/-- What the daemon told. -/
structure Snapshot where
  usage : Option Usage := none
  /-- The modules, the largest first, if they came. -/
  modules : Option (List Store) := none

namespace Snapshot

def modulesFields : Aliases := ["modules"]

/-- The modules in a list, sorted. -/
def modulesOf (x : Json) : List Store :=
  ((x.listing modulesFields).filterMap Store.ofJson?).mergeSort fun a b => (a.order b).isLE

/-- What a load brought; a part whose call failed is absent. -/
def ofReport (r : Tab.Report) : Snapshot where
  usage := (r.data? summaryMethod).map Usage.ofJson
  modules := (r.data? memoryMethod).map modulesOf

def module? (s : Snapshot) (name : String) : Option Store :=
  s.modules.bind fun ms => ms.find? (·.name == name)

/-- The size of all modules together. -/
def totalBytes (s : Snapshot) : Nat := Count.sum ((s.modules.getD []).map (·.bytes))

end Snapshot

end Dashboard.Stats
