set_option autoImplicit false

/-!
# Entries in the order of their names

A list of names with what each stands for.  A name keeps the place in which it was
first given, and what was given last counts.
-/

namespace MountainRange.Entries

variable {α β : Type} [DecidableEq α]

/-- What a name stands for. -/
def get? (entries : List (α × β)) (name : α) : Option β :=
  (entries.find? (·.1 = name)).map (·.2)

/-- Gives a name: in its old place if it occurs, else at the end. -/
def put : List (α × β) → α → β → List (α × β)
  | [], name, x => [(name, x)]
  | (k, y) :: rest, name, x => if k = name then (k, x) :: rest else (k, y) :: put rest name x

theorem get?_cons (e : α × β) (rest : List (α × β)) (name : α) :
    get? (e :: rest) name = if e.1 = name then some e.2 else get? rest name := by
  by_cases h : e.1 = name <;> simp [get?, h]

theorem get?_put (entries : List (α × β)) (name k : α) (x : β) :
    get? (put entries name x) k = if name = k then some x else get? entries k := by
  induction entries with
  | nil => rw [put, get?_cons]
  | cons e rest ih =>
    obtain ⟨a, y⟩ := e
    rw [put, get?_cons]
    by_cases ha : a = name
    · rw [if_pos ha, get?_cons, ha]
      by_cases h : name = k <;> simp [h]
    · rw [if_neg ha, get?_cons, ih]
      by_cases h : a = k
      · have hk : name ≠ k := fun hn => ha (h.trans hn.symm)
        simp [h, hk]
      · simp [h]

/-- The entries that come of names given one after the other. -/
def ofList (given : List (α × β)) : List (α × β) :=
  given.foldl (fun entries e => put entries e.1 e.2) []

end MountainRange.Entries
