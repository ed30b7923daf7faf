/-
Joined names. The identifier of a chain of names is its first name and then the others, each with a dot in
front (`joinNames_cons`). A name may hold dots of its own, so one text can be joined from two chains: then
the names in front are the same, or one of them is the other with a dot and a further name
(`joinNames_eq_cases`).
-/
import SchemaChart.Diagram.Path

namespace SchemaChart.Diagram

/-! ## Dots -/

theorem joinNames_cons_cons (m n : String) (rest : List String) :
    joinNames (m :: n :: rest) = m ++ "." ++ joinNames (n :: rest) :=
  String.intercalate_cons_cons

theorem joinNames_dot (m n : String) (rest : List String) :
    joinNames ((m ++ "." ++ n) :: rest) = m ++ "." ++ joinNames (n :: rest) :=
  String.intercalate_cons_append

/-- The names behind the first one, each with its dot. -/
def dotted : List String → String
  | [] => ""
  | name :: rest => "." ++ name ++ dotted rest

theorem joinNames_cons (name : String) (rest : List String) : joinNames (name :: rest) = name ++ dotted rest := by
  induction rest generalizing name with
  | nil => simp [joinNames, dotted]
  | cons m rest ih =>
    rw [joinNames_cons_cons, ih m, dotted]
    simp only [String.append_assoc]

theorem dotted_append (a b : List String) : dotted (a ++ b) = dotted a ++ dotted b := by
  induction a with
  | nil => simp [dotted]
  | cons m a ih => simp only [List.cons_append, dotted, ih, String.append_assoc]

theorem joinNames_append {names : List String} (h : names ≠ []) (chain : List String) :
    joinNames (names ++ chain) = joinNames names ++ dotted chain := by
  cases names with
  | nil => exact absurd rfl h
  | cons m rest => rw [List.cons_append, joinNames_cons, joinNames_cons, dotted_append, String.append_assoc]

/-! ## Two chains of one text -/

theorem append_eq_append_iff {a b c d : String} :
    a ++ b = c ++ d ↔ (∃ u, c = a ++ u ∧ b = u ++ d) ∨ ∃ u, a = c ++ u ∧ d = u ++ b := by
  constructor
  · intro h
    have hl : a.toList ++ b.toList = c.toList ++ d.toList := by
      rw [← String.toList_append, h, String.toList_append]
    rcases List.append_eq_append_iff.1 hl with ⟨u, h1, h2⟩ | ⟨u, h1, h2⟩
    · exact .inl ⟨String.ofList u, String.toList_inj.1 (by simpa using h1), String.toList_inj.1 (by simpa using h2)⟩
    · exact .inr ⟨String.ofList u, String.toList_inj.1 (by simpa using h1), String.toList_inj.1 (by simpa using h2)⟩
  · rintro (⟨u, rfl, rfl⟩ | ⟨u, rfl, rfl⟩) <;> rw [String.append_assoc]

/-- A text before dotted names that is itself the beginning of dotted names is empty, or begins with a dot. -/
theorem dotted_eq_append {q r : List String} {u : String} (h : dotted q = u ++ dotted r) :
    u = "" ∨ ∃ k q' rest, q = k :: q' ∧ u = "." ++ rest ∧ joinNames (k :: q') = joinNames (rest :: r) := by
  cases q with
  | nil => exact .inl (String.append_eq_empty_iff.1 h.symm).1
  | cons k q' =>
    rw [dotted, String.append_assoc] at h
    rcases append_eq_append_iff.1 h with ⟨v, hu, hv⟩ | ⟨v, hu, hv⟩
    · exact .inr ⟨k, q', v, rfl, hu, by rw [joinNames_cons, joinNames_cons, hv]⟩
    · have hl : ['.'] = u.toList ++ v.toList := by rw [← String.toList_append, ← hu]; rfl
      rcases List.singleton_eq_append_iff.1 hl with ⟨hn, -⟩ | ⟨hd, hn⟩
      · exact .inl (String.toList_eq_nil_iff.1 hn)
      · obtain rfl : v = "" := String.toList_eq_nil_iff.1 hn
        refine .inr ⟨k, q', "", rfl, by simpa using hu.symm, ?_⟩
        rw [joinNames_cons, joinNames_cons, hv]; simp

/-- When two chains are joined to one text, the names in front are the same, or one of them is the other with
a dot and a further name. -/
theorem joinNames_eq_cases {m n : String} {q r : List String} (h : joinNames (m :: q) = joinNames (n :: r)) :
    m = n ∨ (∃ k q' rest, q = k :: q' ∧ n = m ++ "." ++ rest ∧ joinNames (k :: q') = joinNames (rest :: r)) ∨
      ∃ k r' rest, r = k :: r' ∧ m = n ++ "." ++ rest ∧ joinNames (rest :: q) = joinNames (k :: r') := by
  rw [joinNames_cons, joinNames_cons] at h
  rcases append_eq_append_iff.1 h with ⟨u, rfl, hu⟩ | ⟨u, rfl, hu⟩
  · rcases dotted_eq_append hu with rfl | ⟨k, q', rest, rfl, rfl, hj⟩
    · exact .inl (String.append_empty ..).symm
    · exact .inr (.inl ⟨k, q', rest, rfl, (String.append_assoc ..).symm, hj⟩)
  · rcases dotted_eq_append hu with rfl | ⟨k, r', rest, rfl, rfl, hj⟩
    · exact .inl (String.append_empty ..)
    · exact .inr (.inr ⟨k, r', rest, rfl, (String.append_assoc ..).symm, hj.symm⟩)

end SchemaChart.Diagram
