/-
The members of an object as its text has them, repeated names included (`members?`). A text is read as an object exactly
when it has members in this sense, and the object has of each name the last value, at the place of the first
(`text_eq_obj_iff`, `lookup_ofPairs`).
-/
import SchemaChart.Proofs.Faults
import SchemaChart.Json.Reader
import Mathlib.Data.List.Induction
import Mathlib.Tactic.SplitIfs

namespace SchemaChart

/-! ## The last value counts -/

namespace Dictionary

variable {α : Type}

theorem ofPairs_concat (pairs : List (String × α)) (p : String × α) :
    ofPairs (pairs ++ [p]) = put p.1 p.2 (ofPairs pairs) := by
  unfold ofPairs
  rw [List.foldl_append]
  rfl

theorem mem_put {p : String × α} {name : String} {value : α} : ∀ {d : Dictionary α}, p ∈ put name value d →
    p = (name, value) ∨ p ∈ d
  | [], h => .inl (List.mem_singleton.1 h)
  | (n, v) :: rest, h => by
    by_cases hn : n = name
    · rw [put, if_pos hn, hn] at h
      rcases List.mem_cons.1 h with h | h
      · exact .inl h
      · exact .inr (List.mem_cons_of_mem _ h)
    · rw [put, if_neg hn] at h
      rcases List.mem_cons.1 h with h | h
      · exact .inr (h ▸ List.mem_cons_self ..)
      · rcases mem_put h with h | h
        · exact .inl h
        · exact .inr (List.mem_cons_of_mem _ h)

/-- Nothing is found that was not written. -/
theorem mem_of_mem_ofPairs {p : String × α} {pairs : List (String × α)} (h : p ∈ ofPairs pairs) : p ∈ pairs := by
  induction pairs using List.reverseRecOn with
  | nil => exact h
  | append_singleton pairs q ih =>
    rw [ofPairs_concat] at h
    rcases mem_put h with rfl | h
    · exact List.mem_append_right _ (List.mem_singleton_self _)
    · exact List.mem_append_left _ (ih h)

/-- Of the values written for a name the last one is found. -/
theorem lookup_ofPairs (name : String) (pairs : List (String × α)) :
    (ofPairs pairs).lookup name = ((pairs.filter (·.1 = name)).getLast?).map (·.2) := by
  induction pairs using List.reverseRecOn with
  | nil => rfl
  | append_singleton pairs p ih =>
    rw [ofPairs_concat, List.filter_append, List.getLast?_append]
    by_cases hp : p.1 = name
    · subst hp
      simp [lookup_put_self]
    · have hnone : [p].filter (·.1 = name) = [] := by simp [hp]
      rw [lookup_put_of_ne (Ne.symm hp), ih, hnone]
      rfl

end Dictionary

namespace Json

open Reader

/-! ## Objects in text -/

/-- What is read and what is left after it. -/
def Reader.plain {α : Type} {s : List Char} (r : Read α s) : Except Stop (α × List Char) :=
  r.map fun p => (p.1, p.2.1)

theorem Reader.plain_eq_ok_iff {α : Type} {s left : List Char} {r : Read α s} {a : α} :
    plain r = .ok (a, left) ↔ ∃ h, r = .ok (a, ⟨left, h⟩) := by
  constructor
  · intro h
    obtain ⟨⟨b, rest⟩, rfl, he⟩ := map_eq_ok_iff.1 h
    cases he
    exact ⟨rest.2, rfl⟩
  · rintro ⟨h, rfl⟩
    rfl

/-- The members of the object that a text of characters is, as they are written. -/
def Reader.members? (s : List Char) : Option (List (String × Json)) :=
  match skip s with
  | '\x7b' :: r =>
    match skip r with
    | '\x7d' :: left => if skip left = [] then some [] else none
    | inner =>
      match plain (readMembers inner) with
      | .ok (members, left) => if skip left = [] then some members else none
      | .error _ => none
  | _ => none

/-- The members of the object that a text is, as they are written. -/
def members? (text : String) : Option (List (String × Json)) := Reader.members? text.toList

theorem readValue_empty {r left : List Char} (h : skip r = '\x7d' :: left) :
    plain (readValue ('\x7b' :: r)) = .ok (.obj [], left) := by
  rw [readValue]
  split
  · rename_i l hr
    rw [h] at hr
    cases hr
    rfl
  · rename_i hne
    exact absurd h (hne left)

theorem readValue_members {r : List Char} (h : ∀ left, skip r ≠ '\x7d' :: left) :
    plain (readValue ('\x7b' :: r)) =
      (plain (readMembers (skip r))).map fun p => (.obj (Dictionary.ofPairs p.1), p.2) := by
  rw [readValue]
  split
  · rename_i left hr
    exact absurd hr (h left)
  · rcases readMembers (skip r) with e | ⟨members, left, hl⟩ <;> rfl

theorem word?_ne_obj {s : List Char} {v : Json} {left : Rest s} (h : word? s = some (v, left))
    (ms : List (String × Json)) : v ≠ .obj ms := by
  obtain ⟨⟨w, u⟩, hmem, hfound⟩ := List.exists_of_findSome?_eq_some h
  simp only at hfound
  split at hfound
  · cases hfound
    simp only [words, List.mem_cons, Prod.mk.injEq, List.not_mem_nil, or_false] at hmem
    rcases hmem with ⟨-, rfl⟩ | ⟨-, rfl⟩ | ⟨-, rfl⟩ | ⟨-, rfl⟩ | ⟨-, rfl⟩ | ⟨-, rfl⟩ <;> simp
  · cases hfound

theorem number?_ne_obj {s : List Char} {v : Json} {left : Rest s} (h : number? s = some (.ok v, left))
    (ms : List (String × Json)) : v ≠ .obj ms := by
  unfold number? at h
  split at h
  · cases h
  · dsimp only at h
    split at h
    · cases h
      simp
    · simp only [Option.some.injEq, Prod.mk.injEq] at h
      obtain ⟨hv, -⟩ := h
      split at hv
      · cases hv; simp
      · split at hv
        · cases hv
        · cases hv; simp

/-- Nothing but a brace begins an object. -/
theorem exists_brace_of_readValue {s : List Char} {ms : List (String × Json)} {left : Rest s}
    (h : readValue s = .ok (.obj ms, left)) : ∃ r, s = '\x7b' :: r := by
  rw [readValue.eq_def] at h
  split at h
  · cases h
  · rename_i r
    rcases hs : string ('"' :: r) r with e | ⟨text, rest⟩
    · rw [hs] at h; cases h
    · rw [hs] at h; cases h
  · rename_i r
    dsimp only at h
    split at h
    · cases h
    · rcases hi : readItems (skip r) with e | ⟨items, rest⟩
      · rw [hi] at h; cases h
      · rw [hi] at h; cases h
  · exact ⟨_, rfl⟩
  · rename_i c r _ _ _
    split at h
    · rename_i found hw
      cases h
      exact absurd rfl (word?_ne_obj hw ms)
    · split at h
      · rename_i hn
        cases h
        exact absurd rfl (number?_ne_obj hn ms)
      · cases h
      · cases h

/-- A value fills a text if nothing but blanks stands around it. -/
theorem text_eq_ok_iff {s : List Char} {v : Json} : Reader.text s = .ok v ↔
    s.head? ≠ some '\ufeff' ∧ ∃ left, plain (readValue (skip s)) = .ok (v, left) ∧ skip left = [] := by
  unfold Reader.text
  by_cases hbom : s.head? = some '\ufeff'
  · simp [hbom]
  · rw [if_neg hbom]
    rcases readValue (skip s) with e | ⟨u, left, hleft⟩
    · simp [plain, Except.map, bind, Except.bind]
    · by_cases hend : skip left = []
      · simp [plain, Except.map, bind, Except.bind, pure, Except.pure, hbom, hend]
      · simp [plain, Except.map, bind, Except.bind, hend]

theorem head?_of_skip {s r : List Char} {c : Char} (hs : skip s = c :: r) (hc : c ≠ '\ufeff') :
    s.head? ≠ some '\ufeff' := by
  intro h
  obtain ⟨t, rfl⟩ := List.head?_eq_some_iff.1 h
  have hblank : isBlank '\ufeff' = false := by decide
  rw [skip, List.dropWhile_cons_of_neg (by rw [hblank]; decide)] at hs
  exact hc (List.cons.inj hs).1.symm

/-- A text is an object exactly when it has members, and the object is made of these by the rule for repeated names. -/
theorem text_eq_obj_iff {s : List Char} {ms : List (String × Json)} : Reader.text s = .ok (.obj ms) ↔
    ∃ pairs, Reader.members? s = some pairs ∧ ms = Dictionary.ofPairs pairs := by
  rw [text_eq_ok_iff]
  constructor
  · rintro ⟨-, left, hv, hend⟩
    obtain ⟨hleft, hobj⟩ := plain_eq_ok_iff.1 hv
    obtain ⟨r, hr⟩ := exists_brace_of_readValue hobj
    rw [hr] at hv
    by_cases hempty : ∃ l, skip r = '\x7d' :: l
    · obtain ⟨l, hl⟩ := hempty
      rw [readValue_empty hl] at hv
      cases hv
      refine ⟨[], ?_, rfl⟩
      unfold Reader.members?
      simp only [hr, hl, if_pos hend]
    · have hne : ∀ l, skip r ≠ '\x7d' :: l := fun l hl => hempty ⟨l, hl⟩
      rw [readValue_members hne] at hv
      obtain ⟨⟨pairs, l⟩, hp, he⟩ := map_eq_ok_iff.1 hv
      cases he
      refine ⟨pairs, ?_, rfl⟩
      unfold Reader.members?
      simp only [hr, hp, if_pos hend]
  · rintro ⟨pairs, hp, rfl⟩
    unfold Reader.members? at hp
    split at hp
    · rename_i r hr
      refine ⟨head?_of_skip hr (by decide), ?_⟩
      rw [hr]
      split at hp
      · rename_i left hl
        split_ifs at hp with hend
        cases hp
        exact ⟨left, readValue_empty hl, hend⟩
      · rename_i hne
        split at hp
        · rename_i members left hm
          split_ifs at hp with hend
          cases hp
          refine ⟨left, ?_, hend⟩
          rw [readValue_members fun l hl => hne l hl, hm]
          rfl
        · cases hp
    · cases hp

theorem parse_eq_obj_iff {text : String} {ms : List (String × Json)} : parse text = .ok (.obj ms) ↔
    ∃ pairs, members? text = some pairs ∧ ms = Dictionary.ofPairs pairs := by
  unfold members?
  rw [← text_eq_obj_iff]
  unfold parse
  dsimp only
  rcases Reader.text text.toList with ⟨problem, left⟩ | v <;> simp

end Json

end SchemaChart
