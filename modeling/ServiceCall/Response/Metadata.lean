import ServiceCall.Request.Service

/-!
What a service says about a response, and a bounded memory of the latest metadata for each
root. When it is full the root that came first leaves first.
-/

namespace ServiceCall

structure Metadata where
  requestId : Option String := none
  fields : Table String String := {}

structure MetadataCache where
  capacity : Nat
  entries : Table RootKey Metadata := {}
  order : List RootKey := []

namespace MetadataCache

instance : Inhabited MetadataCache := ⟨{ capacity := 0 }⟩

def defaultCapacity : Nat := 50

def get? (c : MetadataCache) (root : RootKey) : Option Metadata := c.entries.find? root

def size (c : MetadataCache) : Nat := c.entries.size

/-- Drops the oldest roots that are too many. -/
def evict (c : MetadataCache) : MetadataCache :=
  let excess := c.order.length - c.capacity
  { c with
    entries := (c.order.take excess).foldl Table.erase c.entries
    order := c.order.drop excess }

/-- Metadata for a known root replaces the older one and leaves the order as it is. -/
def add (c : MetadataCache) (root : RootKey) (m : Metadata) : MetadataCache :=
  if c.capacity = 0 then c
  else
    let entries := c.entries.insert root m
    if c.entries.contains root then { c with entries }
    else evict { c with entries, order := c.order ++ [root] }

end MetadataCache

end ServiceCall
