import Dashboard.Payload
import Dashboard.Tab.Report
/-!
# What is known of the context of inference

* `Context.Item` — a part of the context.
* `Context.Snapshot` — the parts and how much of the context is used,
  `Context.Snapshot.ofReport` — as a load brought them.
-/

namespace Dashboard.Context

/-- The method that tells the context. -/
def contextMethod : String := "getContext"

/-- A part of the context. -/
structure Item where
  id : String
  kind : String
  label : String
  tokens : Nat
  pinned : Bool

namespace Item

def idFields : Aliases := ["id", "itemId"]
def kindFields : Aliases := ["kind", "type"]
def labelFields : Aliases := ["label", "name", "title"]
def tokensFields : Aliases := ["tokens", "tokenCount"]
def pinnedFields : Aliases := ["pinned"]

/-- The part that a value describes. One without an id is none; one without a label shows its id. -/
def ofJson? (x : Json) : Option Item :=
  (x.wordOf? idFields).map fun id =>
    { id
      kind := x.textOr kindFields "item"
      label := x.textOr labelFields id
      tokens := x.countOr tokensFields 0
      pinned := x.truthOr pinnedFields false }

/-- Parts with the pinned ones first, then by size, the largest first, then by label. -/
def order (a b : Item) : Ordering :=
  (compare b.pinned a.pinned).then <| (compare b.tokens a.tokens).then (compare a.label b.label)

end Item

/-- What the daemon told. -/
structure Snapshot where
  model : Option String := none
  used : Nat := 0
  /-- How many tokens the context can hold, if that is known and not zero. -/
  limit : Option Nat := none
  items : List Item := []

namespace Snapshot

def modelFields : Aliases := ["model", "modelName"]
def usedFields : Aliases := ["tokensUsed", "tokens_used", "usedTokens"]
def limitFields : Aliases := ["tokenLimit", "token_limit", "maxTokens"]
def itemsFields : Aliases := ["items", "entries"]

/-- The parts in a list, sorted. -/
def itemsOf (x : Json) : List Item :=
  ((x.listing itemsFields).filterMap Item.ofJson?).mergeSort fun a b => (a.order b).isLE

/-- The context that a value describes. If it does not tell how much is used, that is the sum over
    the parts. -/
def ofJson (x : Json) : Snapshot where
  model := x.wordOf? modelFields
  used := (x.countOf? usedFields).getD (Count.sum ((itemsOf x).map (·.tokens)))
  limit := (x.countOf? limitFields).filter (0 < ·)
  items := itemsOf x

/-- What a load brought. -/
def ofReport (r : Tab.Report) : Snapshot :=
  ((r.data? contextMethod).map ofJson).getD {}

/-- How many hundredths of the context are used, rounded down. -/
def usagePercent? (s : Snapshot) : Option Nat :=
  s.limit.map fun limit => Count.mul s.used 100 / limit

def item? (s : Snapshot) (id : String) : Option Item := s.items.find? (·.id == id)

end Snapshot

end Dashboard.Context
