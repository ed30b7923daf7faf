/-
Named values in a fixed order. Writing a name that is already there replaces its value and keeps
its place, so of several values for one name the last stands where the first one stood. The names
of `ofPairs` are distinct (`nodup_keys_ofPairs`), a value just written is the one found
(`lookup_put_self`), and writing leaves every other name alone (`lookup_put_of_ne`).
-/
namespace SchemaChart

/-- Named values in order. -/
abbrev Dictionary (α : Type) := List (String × α)

namespace Dictionary

variable {α : Type}

/-- The names, in order. -/
def keys (d : Dictionary α) : List String := d.map (·.1)

/-- Writes `value` under `name`: in place if the name is there, at the end if it is not. -/
def put (name : String) (value : α) : Dictionary α → Dictionary α
  | [] => [(name, value)]
  | (n, v) :: rest => if n = name then (n, value) :: rest else (n, v) :: put name value rest

/-- Writes the pairs one after the other, starting from nothing. -/
def ofPairs (pairs : List (String × α)) : Dictionary α :=
  pairs.foldl (fun d p => put p.1 p.2 d) []

/-! ## Names -/

theorem mem_keys_put {name m : String} {value : α} :
    ∀ {d : Dictionary α}, m ∈ keys (put name value d) ↔ m = name ∨ m ∈ keys d
  | [] => by simp [put, keys]
  | (n, v) :: rest => by
    have ih : m ∈ keys (put name value rest) ↔ m = name ∨ m ∈ keys rest := mem_keys_put
    by_cases h : n = name
    · subst h; simp [put, keys]
    · simp only [put, if_neg h]
      simp only [keys, List.map_cons, List.mem_cons] at ih ⊢
      rw [ih]
      constructor <;> rintro (h1 | h1 | h1) <;> simp [h1]

theorem nodup_keys_put {name : String} {value : α} :
    ∀ {d : Dictionary α}, (keys d).Nodup → (keys (put name value d)).Nodup
  | [], _ => by simp [put, keys]
  | (n, v) :: rest, h => by
    have hc : n ∉ keys rest ∧ (keys rest).Nodup := by simpa [keys] using h
    by_cases hn : n = name
    · subst hn; simpa [put, keys] using h
    · have hnot : n ∉ keys (put name value rest) := by
        rw [mem_keys_put]; rintro (h1 | h1)
        · exact hn h1
        · exact hc.1 h1
      have : keys (put name value ((n, v) :: rest)) = n :: keys (put name value rest) := by
        simp [put, hn, keys]
      rw [this]
      exact List.nodup_cons.2 ⟨hnot, nodup_keys_put hc.2⟩

theorem nodup_keys_ofPairs (pairs : List (String × α)) : (keys (ofPairs pairs)).Nodup := by
  have go : ∀ (ps : List (String × α)) (d : Dictionary α), (keys d).Nodup →
      (keys (ps.foldl (fun d p => put p.1 p.2 d) d)).Nodup := by
    intro ps
    induction ps with
    | nil => intro d h; exact h
    | cons p ps ih => intro d h; exact ih _ (nodup_keys_put h)
  exact go pairs [] List.nodup_nil

theorem put_of_notMem {name : String} {value : α} :
    ∀ {d : Dictionary α}, name ∉ keys d → put name value d = d ++ [(name, value)]
  | [], _ => rfl
  | (n, v) :: rest, h => by
    have hc : name ≠ n ∧ name ∉ keys rest := by simpa [keys] using h
    rw [put, if_neg (Ne.symm hc.1), put_of_notMem hc.2, List.cons_append]

/-- Pairs of distinct names stay as they are. -/
theorem ofPairs_of_nodup {pairs : List (String × α)} (h : (keys pairs).Nodup) : ofPairs pairs = pairs := by
  have go : ∀ (ps : List (String × α)) (d : Dictionary α), (keys (d ++ ps)).Nodup →
      ps.foldl (fun d p => put p.1 p.2 d) d = d ++ ps := by
    intro ps
    induction ps with
    | nil => intro d _; exact (List.append_nil d).symm
    | cons p ps ih =>
      intro d h
      have hp : p.1 ∉ keys d := by
        have hsplit : (keys d ++ p.1 :: keys ps).Nodup := by simpa [keys] using h
        intro hm
        exact (List.nodup_append.1 hsplit).2.2 p.1 hm p.1 (List.mem_cons_self ..) rfl
      rw [List.foldl_cons, put_of_notMem hp, ih _ (by simpa using h), List.append_assoc, List.singleton_append]
  exact go pairs [] h

/-! ## Values -/

theorem lookup_cons_eq_ite {name n : String} {v : α} {d : List (String × α)} :
    List.lookup name ((n, v) :: d) = if name = n then some v else List.lookup name d := by
  by_cases h : name = n
  · simp [h]
  · have h' : (name == n) = false := by simpa using h
    simp [List.lookup_cons, h, h']

theorem lookup_put_self {name : String} {value : α} :
    ∀ {d : Dictionary α}, List.lookup name (put name value d) = some value
  | [] => by simp [put]
  | (n, v) :: rest => by
    by_cases h : n = name
    · subst h; simp [put]
    · have h' : (name == n) = false := by simpa using fun e => h e.symm
      simp only [put, if_neg h, List.lookup_cons, h']
      exact lookup_put_self

theorem lookup_put_of_ne {name m : String} {value : α} (hm : m ≠ name) :
    ∀ {d : Dictionary α}, List.lookup m (put name value d) = List.lookup m d
  | [] => by
    have h' : (m == name) = false := by simpa using hm
    simp [put, List.lookup_cons, h']
  | (n, v) :: rest => by
    by_cases h : n = name
    · subst h
      have h' : (m == n) = false := by simpa using hm
      simp [put, List.lookup_cons, h']
    · simp only [put, if_neg h, List.lookup_cons]
      rw [lookup_put_of_ne hm]

end Dictionary

end SchemaChart
