import HtmlBuilder.Entries
import Mathlib.Data.List.Basic
import Mathlib.Data.List.Induction
import Mathlib.Data.List.Nodup

/-!
Sequences of entries. Entries that are put one after another come to the keys in
the order in which they first occurred, each with the value that it was given
last. Entries without two of one key are told by what is found under each key,
up to their order.
-/

namespace HtmlBuilder

variable {κ α : Type}

theorem key_notMem_of_nodup {before behind : List (κ × α)} {entry : κ × α}
    (h : ((before ++ entry :: behind).map Prod.fst).Nodup) :
    entry.1 ∉ before.map Prod.fst := by
  rw [List.map_append, List.nodup_append] at h
  exact fun hmem => h.2.2 _ hmem _ List.mem_cons_self rfl

section

variable [BEq κ] [LawfulBEq κ]

theorem eraseDups_concat (keys : List κ) (key : κ) :
    (keys ++ [key]).eraseDups =
      if key ∈ keys.eraseDups then keys.eraseDups
      else keys.eraseDups ++ [key] := by
  rw [List.eraseDups_append]
  by_cases hkey : key ∈ keys <;>
    simp [List.removeAll, List.eraseDups_cons, hkey]

theorem isSome_lookup_iff (entries : List (κ × α)) (key : κ) :
    (entries.lookup key).isSome = true ↔ key ∈ entries.map Prod.fst := by
  rw [List.lookup_isSome_iff, List.mem_map]
  refine exists_congr fun entry => and_congr_right fun _ => ?_
  rw [beq_iff_eq, eq_comm]

end

section

variable [DecidableEq κ]

/-! Entries that are changed. -/

theorem updateEntry_updateEntry (entries : List (κ × α)) (key : κ)
    (first second : Option α → α) :
    updateEntry (updateEntry entries key first) key second =
      updateEntry entries key fun old? => second (some (first old?)) := by
  induction entries with
  | nil => simp [updateEntry]
  | cons entry rest ih =>
    by_cases hentry : entry.1 = key <;> simp [updateEntry, hentry, ih]

theorem keys_putEntry (entries : List (κ × α)) (key : κ) (value : α) :
    (putEntry entries key value).map Prod.fst =
      if key ∈ entries.map Prod.fst then entries.map Prod.fst
      else entries.map Prod.fst ++ [key] :=
  keys_updateEntry entries key fun _ => value

theorem nodup_putEntry {entries : List (κ × α)}
    (h : (entries.map Prod.fst).Nodup) (key : κ) (value : α) :
    ((putEntry entries key value).map Prod.fst).Nodup :=
  nodup_updateEntry h key fun _ => value

theorem eq_or_mem_of_mem_putEntry {entries : List (κ × α)} {key : κ}
    {value : α} {entry : κ × α} (h : entry ∈ putEntry entries key value) :
    entry = (key, value) ∨ entry ∈ entries := by
  induction entries with
  | nil => exact .inl (List.mem_singleton.1 h)
  | cons old rest ih =>
    rw [putEntry, updateEntry] at h
    split at h
    · exact (List.mem_cons.1 h).imp_right (List.mem_cons_of_mem _)
    · rcases List.mem_cons.1 h with rfl | h
      · exact .inr List.mem_cons_self
      · exact (ih h).imp_right (List.mem_cons_of_mem _)

theorem putEntry_of_notMem {entries : List (κ × α)} {key : κ}
    (h : key ∉ entries.map Prod.fst) (value : α) :
    putEntry entries key value = entries ++ [(key, value)] := by
  induction entries with
  | nil => rfl
  | cons entry rest ih =>
    rw [List.map_cons, List.mem_cons, not_or] at h
    rw [putEntry, updateEntry, if_neg (Ne.symm h.1), ← putEntry, ih h.2,
      List.cons_append]

def putEntries (entries given : List (κ × α)) : List (κ × α) :=
  given.foldl (fun entries entry => putEntry entries entry.1 entry.2) entries

theorem putEntries_append (entries given given' : List (κ × α)) :
    putEntries entries (given ++ given') =
      putEntries (putEntries entries given) given' :=
  List.foldl_append

/-- Entries without two of one key are what putting them one after another
gives. -/
theorem putEntries_eq_self {entries : List (κ × α)}
    (h : (entries.map Prod.fst).Nodup) : putEntries [] entries = entries := by
  induction entries using List.reverseRecOn with
  | nil => rfl
  | append_singleton entries entry ih =>
    have hkey : entry.1 ∉ entries.map Prod.fst := key_notMem_of_nodup h
    rw [List.map_append] at h
    rw [putEntries_append, ih h.of_append_left]
    exact putEntry_of_notMem hkey entry.2

/-- So a run that begins with such entries is a run from the beginning. -/
theorem putEntries_eq_putEntries_append {entries : List (κ × α)}
    (h : (entries.map Prod.fst).Nodup) (given : List (κ × α)) :
    putEntries entries given = putEntries [] (entries ++ given) := by
  rw [putEntries_append, putEntries_eq_self h]

theorem nodup_putEntries (given : List (κ × α)) :
    ((putEntries [] given).map Prod.fst).Nodup := by
  induction given using List.reverseRecOn with
  | nil => exact List.nodup_nil
  | append_singleton given entry ih =>
    rw [putEntries_append]
    exact nodup_putEntry ih entry.1 entry.2

end

/-! Looking up entries. -/

variable [BEq κ] [LawfulBEq κ] [DecidableEq κ]

theorem lookup_cons_eq (key : κ) (value : α) (rest : List (κ × α)) (other : κ) :
    ((key, value) :: rest).lookup other =
      if other = key then some value else rest.lookup other := by
  rw [List.lookup_cons]
  by_cases hother : other = key
  · rw [if_pos hother, beq_iff_eq.2 hother]
  · rw [if_neg hother, beq_eq_false_iff_ne.2 hother]

theorem lookup_updateEntry (entries : List (κ × α)) (key : κ)
    (change : Option α → α) (other : κ) :
    (updateEntry entries key change).lookup other =
      if other = key then some (change (entries.lookup key))
      else entries.lookup other := by
  induction entries with
  | nil => rw [updateEntry, lookup_cons_eq, List.lookup_nil, List.lookup_nil]
  | cons entry rest ih =>
    obtain ⟨name, value⟩ := entry
    by_cases hname : name = key
    · subst hname
      by_cases hother : other = name <;>
        simp [updateEntry, lookup_cons_eq, hother]
    · by_cases hother : other = name
      · subst hother
        simp [updateEntry, hname]
      · simp [updateEntry, lookup_cons_eq, hname, Ne.symm hname, hother, ih]

theorem lookup_putEntry (entries : List (κ × α)) (key : κ) (value : α)
    (other : κ) :
    (putEntry entries key value).lookup other =
      if other = key then some value else entries.lookup other :=
  lookup_updateEntry entries key (fun _ => value) other

/-- Entries without two of one key are told by their keys and by what is found
under each. -/
theorem eq_filterMap_lookup {entries : List (κ × α)}
    (h : (entries.map Prod.fst).Nodup) :
    entries = (entries.map Prod.fst).filterMap fun key =>
      (entries.lookup key).map (key, ·) := by
  induction entries with
  | nil => rfl
  | cons entry entries ih =>
    obtain ⟨key, value⟩ := entry
    obtain ⟨hkey, hrest⟩ := List.nodup_cons.1 h
    let find (other : κ) :=
      (((key, value) :: entries).lookup other).map (other, ·)
    have hfirst : find key = some (key, value) := by
      show (((key, value) :: entries).lookup key).map (key, ·) = _
      rw [lookup_cons_eq, if_pos rfl, Option.map_some]
    have hothers : ∀ other ∈ entries.map Prod.fst,
        find other = (entries.lookup other).map (other, ·) := by
      intro other hother
      show (((key, value) :: entries).lookup other).map (other, ·) = _
      rw [lookup_cons_eq, if_neg]
      rintro rfl
      exact hkey hother
    show (key, value) :: entries =
      (key :: entries.map Prod.fst).filterMap find
    rw [List.filterMap_cons_some hfirst, List.filterMap_congr hothers,
      ← ih hrest]

/-- Among entries without two of one key, what is found is what is there. -/
theorem lookup_eq_some_iff_mem {entries : List (κ × α)}
    (h : (entries.map Prod.fst).Nodup) (key : κ) (value : α) :
    entries.lookup key = some value ↔ (key, value) ∈ entries := by
  induction entries with
  | nil => simp
  | cons entry entries ih =>
    obtain ⟨hkey, hrest⟩ := List.nodup_cons.1 h
    rw [lookup_cons_eq entry.1 entry.2, List.mem_cons]
    by_cases hother : key = entry.1
    · have habsent : (key, value) ∉ entries := fun hmem =>
        hkey (List.mem_map.2 ⟨(key, value), hmem, hother⟩)
      rw [if_pos hother, Option.some_inj, or_iff_left habsent, Prod.ext_iff]
      exact ⟨fun hvalue => ⟨hother, hvalue.symm⟩, fun hentry => hentry.2.symm⟩
    · rw [if_neg hother, ih hrest,
        or_iff_right fun hentry => hother (congrArg Prod.fst hentry)]

/-- Such entries are the same in another order exactly when the same is found
under every key. -/
theorem perm_iff_lookup_eq {entries others : List (κ × α)}
    (h : (entries.map Prod.fst).Nodup)
    (hothers : (others.map Prod.fst).Nodup) :
    entries.Perm others ↔
      ∀ key, entries.lookup key = others.lookup key := by
  rw [List.perm_ext_iff_of_nodup h.of_map hothers.of_map]
  constructor
  · intro hmem key
    ext value
    rw [lookup_eq_some_iff_mem h, lookup_eq_some_iff_mem hothers, hmem]
  · intro hfound entry
    rw [← lookup_eq_some_iff_mem h, ← lookup_eq_some_iff_mem hothers, hfound]

/-! What a sequence of entries comes to. -/

/-- The value that a sequence of entries gives a key last. -/
def lastGiven? (given : List (κ × α)) (key : κ) : Option α :=
  given.reverse.lookup key

/-- The keys of a sequence of entries in the order in which they first occur,
each with the value that it is given last. -/
def lastOfEach (given : List (κ × α)) : List (κ × α) :=
  (given.map Prod.fst).eraseDups.filterMap fun key =>
    (lastGiven? given key).map (key, ·)

theorem lastGiven?_concat (given : List (κ × α)) (entry : κ × α) (key : κ) :
    lastGiven? (given ++ [entry]) key =
      if key = entry.1 then some entry.2 else lastGiven? given key := by
  rw [lastGiven?, List.reverse_concat]
  exact lookup_cons_eq entry.1 entry.2 given.reverse key

theorem keys_putEntries (given : List (κ × α)) :
    (putEntries [] given).map Prod.fst =
      (given.map Prod.fst).eraseDups := by
  induction given using List.reverseRecOn with
  | nil => rfl
  | append_singleton given entry ih =>
    have hkeys := keys_putEntry (putEntries [] given) entry.1 entry.2
    rw [putEntries_append, List.map_append, List.map_singleton,
      eraseDups_concat, ← ih]
    exact hkeys.trans (by congr)

theorem lookup_putEntries (given : List (κ × α)) (key : κ) :
    (putEntries [] given).lookup key = lastGiven? given key := by
  induction given using List.reverseRecOn with
  | nil => rfl
  | append_singleton given entry ih =>
    rw [putEntries_append, lastGiven?_concat, ← ih]
    exact lookup_putEntry (putEntries [] given) entry.1 entry.2 key

theorem putEntries_eq_lastOfEach (given : List (κ × α)) :
    putEntries [] given = lastOfEach given := by
  rw [eq_filterMap_lookup (nodup_putEntries given), keys_putEntries,
    lastOfEach]
  apply List.filterMap_congr
  intro key hkey
  rw [lookup_putEntries]

end HtmlBuilder
