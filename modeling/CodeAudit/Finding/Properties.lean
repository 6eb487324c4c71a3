/-!
Properties of a finding: values under distinct keys, in increasing order of the keys.
-/

namespace CodeAudit

structure Properties where
  entries : List (String × String)
  ordered : entries.Pairwise (fun left right => left.1 < right.1)
deriving DecidableEq

namespace Properties

def empty : Properties := ⟨[], List.Pairwise.nil⟩

/-- Puts a value under a key, in place of the one that is there. -/
def insertEntry (key value : String) : List (String × String) → List (String × String)
  | [] => [(key, value)]
  | (other, held) :: rest =>
      if key < other then (key, value) :: (other, held) :: rest
      else if key = other then (key, value) :: rest
      else (other, held) :: insertEntry key value rest

theorem mem_insert_entry {key value : String} {entry : String × String}
    {entries : List (String × String)} (member : entry ∈ insertEntry key value entries) :
    entry = (key, value) ∨ entry ∈ entries := by
  induction entries with
  | nil => simpa [insertEntry] using member
  | cons head rest ih =>
      obtain ⟨other, held⟩ := head
      simp only [insertEntry] at member
      split at member
      · simpa using member
      · split at member
        · rcases List.mem_cons.mp member with same | later
          · exact Or.inl same
          · exact Or.inr (List.mem_cons_of_mem _ later)
        · rcases List.mem_cons.mp member with same | later
          · exact Or.inr (by simp [same])
          · rcases ih later with same | present
            · exact Or.inl same
            · exact Or.inr (List.mem_cons_of_mem _ present)

theorem ordered_insert_entry (key value : String) {entries : List (String × String)}
    (ordered : entries.Pairwise (fun left right => left.1 < right.1)) :
    (insertEntry key value entries).Pairwise (fun left right => left.1 < right.1) := by
  induction entries with
  | nil => simp [insertEntry]
  | cons head rest ih =>
      obtain ⟨other, held⟩ := head
      have parts := List.pairwise_cons.mp ordered
      simp only [insertEntry]
      split
      · rename_i before
        refine List.pairwise_cons.mpr ⟨fun entry member => ?_, ordered⟩
        rcases List.mem_cons.mp member with same | later
        · simpa [same] using before
        · exact String.lt_trans before (parts.1 entry later)
      · split
        · rename_i same
          exact List.pairwise_cons.mpr ⟨fun entry member => same ▸ parts.1 entry member, parts.2⟩
        · rename_i notBefore different
          refine List.pairwise_cons.mpr ⟨fun entry member => ?_, ih parts.2⟩
          rcases mem_insert_entry member with same | later
          · rw [same]
            rcases Std.lt_trichotomy key other with before | equal | after
            · exact absurd before notBefore
            · exact absurd equal different
            · exact after
          · exact parts.1 entry later

def insert (properties : Properties) (key value : String) : Properties :=
  ⟨insertEntry key value properties.entries, ordered_insert_entry key value properties.ordered⟩

def get? (properties : Properties) (key : String) : Option String :=
  properties.entries.lookup key

def isEmpty (properties : Properties) : Bool :=
  properties.entries.isEmpty

def size (properties : Properties) : Nat :=
  properties.entries.length

def ofList (entries : List (String × String)) : Properties :=
  entries.foldl (fun properties entry => properties.insert entry.1 entry.2) empty

end Properties
end CodeAudit
