/-
Ordered maps: lists of keys with their values. A key keeps the place at
which it was first put.
-/

namespace Rowsmith

/-- Puts a value under a key of an ordered map: in the place of the value
it replaces, or at the end. -/
def putAssoc {α β : Type} [DecidableEq α] (entries : List (α × β)) (key : α) (value : β) :
    List (α × β) :=
  match entries with
  | [] => [(key, value)]
  | (k, v) :: rest => if k = key then (key, value) :: rest else (k, v) :: putAssoc rest key value

def findAssoc? {α β : Type} [DecidableEq α] (entries : List (α × β)) (key : α) : Option β :=
  (entries.find? fun e => e.1 = key).map (·.2)

/-- The value put under a key is found under it, and nothing else
changes. -/
theorem findAssoc?_putAssoc {α β : Type} [DecidableEq α] (entries : List (α × β)) (key : α)
    (value : β) (other : α) :
    findAssoc? (putAssoc entries key value) other =
      if key = other then some value else findAssoc? entries other := by
  induction entries with
  | nil => by_cases h : key = other <;> simp [putAssoc, findAssoc?, h]
  | cons e entries ih =>
      obtain ⟨k, v⟩ := e
      unfold findAssoc? at ih ⊢
      unfold putAssoc
      by_cases hk : k = key
      · subst hk
        by_cases h : k = other <;> simp [h]
      · by_cases h : k = other
        · subst h
          simp [hk, Ne.symm hk]
        · simp [hk, h, ih]

end Rowsmith
