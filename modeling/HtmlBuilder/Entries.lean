/-!
Lists of entries that are changed in place. An entry is a key with a value. An
entry that is changed stays where it stands, and a new key comes last, so that
no key comes to stand twice.
-/

namespace HtmlBuilder

variable {κ α : Type} [DecidableEq κ]

/-- Changes the value of a key, or gives the key one. -/
def updateEntry (entries : List (κ × α)) (key : κ)
    (change : Option α → α) : List (κ × α) :=
  match entries with
  | [] => [(key, change none)]
  | entry :: rest =>
    if entry.1 = key then (key, change (some entry.2)) :: rest
    else entry :: updateEntry rest key change

/-- Gives a key a value in place of the one it has. -/
def putEntry (entries : List (κ × α)) (key : κ) (value : α) : List (κ × α) :=
  updateEntry entries key fun _ => value

theorem keys_updateEntry (entries : List (κ × α)) (key : κ)
    (change : Option α → α) :
    (updateEntry entries key change).map Prod.fst =
      if key ∈ entries.map Prod.fst then entries.map Prod.fst
      else entries.map Prod.fst ++ [key] := by
  induction entries with
  | nil => simp [updateEntry]
  | cons entry rest ih =>
    by_cases hentry : entry.1 = key
    · simp [updateEntry, hentry]
    · have hmem : key ∈ (entry :: rest).map Prod.fst ↔
          key ∈ rest.map Prod.fst := by
        simp [Ne.symm hentry]
      rw [updateEntry, if_neg hentry, List.map_cons, ih]
      simp only [hmem]
      split <;> rfl

theorem nodup_updateEntry {entries : List (κ × α)}
    (h : (entries.map Prod.fst).Nodup) (key : κ) (change : Option α → α) :
    ((updateEntry entries key change).map Prod.fst).Nodup := by
  rw [keys_updateEntry]
  split
  · exact h
  · next hkey =>
    refine List.nodup_append.2 ⟨h, by simp, ?_⟩
    rintro old hold new hnew rfl
    rw [List.mem_singleton] at hnew
    exact hkey (hnew ▸ hold)

end HtmlBuilder
