/-! Finite maps kept as a list of entries in key order. -/

namespace ServiceCall

structure Table (κ α : Type) where
  entries : List (κ × α) := []

namespace Table

variable {κ α : Type}

instance : Inhabited (Table κ α) := ⟨{}⟩

def empty : Table κ α := {}

def isEmpty (t : Table κ α) : Bool := t.entries.isEmpty

def size (t : Table κ α) : Nat := t.entries.length

def keys (t : Table κ α) : List κ := t.entries.map Prod.fst

variable [DecidableEq κ]

def find? (t : Table κ α) (k : κ) : Option α := (t.entries.find? (·.1 = k)).map Prod.snd

def contains (t : Table κ α) (k : κ) : Bool := (t.find? k).isSome

def erase (t : Table κ α) (k : κ) : Table κ α := ⟨t.entries.filter (·.1 ≠ k)⟩

variable [LT κ] [DecidableLT κ]

/-- The entry takes the place of an older one with its key, or goes in front of the first
larger key. -/
def put (k : κ) (v : α) : List (κ × α) → List (κ × α)
  | [] => [(k, v)]
  | (k', v') :: rest =>
    if k = k' then (k, v) :: rest
    else if k < k' then (k, v) :: (k', v') :: rest
    else (k', v') :: put k v rest

def insert (t : Table κ α) (k : κ) (v : α) : Table κ α := ⟨put k v t.entries⟩

/-- Puts `f` of the present value, if any, under the key. -/
def alter (t : Table κ α) (k : κ) (f : Option α → α) : Table κ α := t.insert k (f (t.find? k))

def ofList (entries : List (κ × α)) : Table κ α :=
  entries.foldl (fun t e => t.insert e.1 e.2) {}

theorem find?_insert_self (t : Table κ α) (k : κ) (v : α) : (t.insert k v).find? k = some v := by
  obtain ⟨entries⟩ := t
  simp only [find?, insert]
  induction entries with
  | nil => simp [put]
  | cons e rest ih =>
    simp only [put]
    split
    · simp
    · split
      · simp
      · rename_i h _
        simpa [Ne.symm h] using ih

end Table

end ServiceCall
