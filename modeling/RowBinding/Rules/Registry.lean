/-!
# Registries

A registry holds at most one entry per key.  **The last entry written under a key is the one that
is found**, until it is removed.
-/
namespace RowBinding

/-- Entries by key. -/
structure Registry (κ ν : Type) where
  entries : List (κ × ν)

namespace Registry

variable {κ ν : Type} [DecidableEq κ]

def empty : Registry κ ν := ⟨[]⟩

instance : Inhabited (Registry κ ν) := ⟨empty⟩

def isEmpty (r : Registry κ ν) : Bool := r.entries.isEmpty

/-- The entry of a key. -/
def find? (r : Registry κ ν) (k : κ) : Option ν := (r.entries.find? (·.1 = k)).map Prod.snd

def contains (r : Registry κ ν) (k : κ) : Bool := (r.find? k).isSome

/-- Without the entry of a key. -/
def erase (r : Registry κ ν) (k : κ) : Registry κ ν := ⟨r.entries.filter (·.1 ≠ k)⟩

/-- With an entry written under a key. -/
def insert (r : Registry κ ν) (k : κ) (v : ν) : Registry κ ν := ⟨(k, v) :: (r.erase k).entries⟩

@[simp] theorem find?_empty (k : κ) : (empty : Registry κ ν).find? k = none := rfl

theorem find?_erase (r : Registry κ ν) (k j : κ) :
    (r.erase k).find? j = if j = k then none else r.find? j := by
  obtain ⟨entries⟩ := r
  induction entries with
  | nil => simp [erase, find?]
  | cons e rest ih =>
    simp only [erase, find?] at ih ⊢
    by_cases h : e.1 = k <;> by_cases hj : e.1 = j <;> simp_all

theorem find?_insert (r : Registry κ ν) (k j : κ) (v : ν) :
    (r.insert k v).find? j = if j = k then some v else r.find? j := by
  by_cases h : j = k
  · simp [insert, find?, h]
  · have hk : k ≠ j := fun e => h e.symm
    have := find?_erase r k j
    simp only [find?, h, if_false] at this ⊢
    simp [insert, hk, this]

end Registry

end RowBinding
