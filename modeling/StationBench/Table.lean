/-!
# Tables in key order

A table lists its entries by strictly ascending key, one entry per key, so that walking it
meets the keys in their order whatever the order they were put in. The same insertion on bare
elements gives sets of names (`insertOrdered`). `find?_insert` and `mem_insertOrdered` say what
an insertion changes.
-/
namespace StationBench

/-- Entries by ascending key. -/
structure Table (κ ν : Type) where
  entries : List (κ × ν) := []
deriving DecidableEq, Repr

namespace Table

variable {κ ν : Type} [LT κ] [DecidableLT κ] [DecidableEq κ]

/-- Puts an entry at its place; an entry that has the key already is replaced. -/
def insertEntry (k : κ) (v : ν) : List (κ × ν) → List (κ × ν)
  | [] => [(k, v)]
  | (k', v') :: rest =>
    if k = k' then (k, v) :: rest
    else if k < k' then (k, v) :: (k', v') :: rest
    else (k', v') :: insertEntry k v rest

def insert (t : Table κ ν) (k : κ) (v : ν) : Table κ ν :=
  ⟨insertEntry k v t.entries⟩

/-- The table of a list of entries; of two with one key the later one stays. -/
def ofList (entries : List (κ × ν)) : Table κ ν :=
  entries.foldl (fun t e => t.insert e.1 e.2) {}

omit [LT κ] [DecidableLT κ] in
/-- The value under a key. -/
def find? (t : Table κ ν) (k : κ) : Option ν :=
  t.entries.lookup k

omit [LT κ] [DecidableLT κ] [DecidableEq κ] in
def size (t : Table κ ν) : Nat := t.entries.length

omit [LT κ] [DecidableLT κ] [DecidableEq κ] in
def isEmpty (t : Table κ ν) : Bool := t.entries.isEmpty

theorem lookup_insertEntry (k k' : κ) (v : ν) (l : List (κ × ν)) :
    (insertEntry k v l).lookup k' = if k' = k then some v else l.lookup k' := by
  induction l with
  | nil => by_cases h : k' = k <;> grind [insertEntry]
  | cons e rest ih =>
    obtain ⟨k₁, v₁⟩ := e
    by_cases h : k' = k <;> grind [insertEntry]

theorem find?_insert (t : Table κ ν) (k k' : κ) (v : ν) :
    (t.insert k v).find? k' = if k' = k then some v else t.find? k' :=
  lookup_insertEntry k k' v t.entries

end Table

section Ordered

variable {α : Type} [LT α] [DecidableLT α] [DecidableEq α]

/-- Puts an element at its place in an ascending list without repetition. -/
def insertOrdered (a : α) : List α → List α
  | [] => [a]
  | b :: rest =>
    if a = b then b :: rest
    else if a < b then a :: b :: rest
    else b :: insertOrdered a rest

/-- The elements of a list in ascending order, each once. -/
def ordered (l : List α) : List α :=
  l.foldl (fun acc a => insertOrdered a acc) []

theorem mem_insertOrdered {a x : α} {l : List α} :
    x ∈ insertOrdered a l ↔ x = a ∨ x ∈ l := by
  induction l with
  | nil => simp [insertOrdered]
  | cons b rest ih =>
    simp only [insertOrdered]
    split
    · next h => subst h; simp
    · split <;> simp [ih]
      grind

end Ordered

end StationBench
