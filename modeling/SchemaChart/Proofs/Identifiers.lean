/-
When the identifiers in a block are distinct. The identifier of a place is its chain of names joined by
dots, and a name may hold dots and question marks of its own, so two places can have one identifier. This
happens exactly below two children of one type that are confused (`Confused`): they have one name, or the
name of one is the name of the other with a dot and a further name, which is confused with a child of it
(`nodup_identifiers_iff`). Under plain names no children are confused (`unambiguous_of_plain`).
-/
import SchemaChart.Proofs.Names
import SchemaChart.Proofs.Tables
import Mathlib.Data.List.Nodup

namespace SchemaChart

namespace TypeTree

open Diagram

/-! ## Chains of names -/

/-- The chains of names that lead to the places of a type. -/
def chains (t : TypeTree) : List (List String) := t.places.map Place.chain

theorem chains_eq (t : TypeTree) :
    t.chains = [] :: t.children.flatMap fun c => c.type.chains.map fun chain => c.name :: chain := by
  have all : ∀ (index : Nat) (cs : List Child), (placesOfChildren index cs).map Place.chain =
      cs.flatMap fun c => c.type.chains.map fun chain => c.name :: chain := by
    intro index cs
    induction cs generalizing index with
    | nil => rfl
    | cons c rest ih =>
      rw [placesOfChildren, List.map_append, ih, List.flatMap_cons, chains, List.map_map, List.map_map]; rfl
  rw [chains, places_eq, List.map_cons, all]; rfl

theorem nil_mem_chains (t : TypeTree) : [] ∈ t.chains := by
  rw [chains_eq]; exact List.mem_cons_self ..

theorem cons_mem_chains {t : TypeTree} {name : String} {chain : List String} :
    name :: chain ∈ t.chains ↔ ∃ c ∈ t.children, c.name = name ∧ chain ∈ c.type.chains := by
  rw [chains_eq]
  simp only [List.mem_cons, List.cons_ne_nil, false_or, List.mem_flatMap, List.mem_map, List.cons.injEq]
  constructor
  · rintro ⟨c, hc, q, hq, hn, rfl⟩; exact ⟨c, hc, hn, hq⟩
  · rintro ⟨c, hc, hn, hq⟩; exact ⟨c, hc, chain, hq, hn, rfl⟩

/-! ## Confused children -/

/-- Two children of one type below which two places have one identifier. -/
inductive Confused : Child → Child → Prop
  | same {c d : Child} : c.name = d.name → Confused c d
  | inLeft {c d x : Child} {rest : String} : d.name = c.name ++ "." ++ rest → x ∈ c.type.children →
      Confused x ⟨rest, d.type⟩ → Confused c d
  | inRight {c d x : Child} {rest : String} : c.name = d.name ++ "." ++ rest → x ∈ d.type.children →
      Confused ⟨rest, c.type⟩ x → Confused c d

theorem confused_iff {c d : Child} : Confused c d ↔
    ∃ q ∈ c.type.chains, ∃ r ∈ d.type.chains, joinNames (c.name :: q) = joinNames (d.name :: r) := by
  constructor
  · intro h
    induction h with
    | same h => exact ⟨[], nil_mem_chains _, [], nil_mem_chains _, by rw [h]⟩
    | @inLeft c d x rest hn hx _ ih =>
      obtain ⟨q, hq, r, hr, hj⟩ := ih
      refine ⟨x.name :: q, cons_mem_chains.2 ⟨x, hx, rfl, hq⟩, r, hr, ?_⟩
      rw [hn, joinNames_dot, joinNames_cons_cons, hj]
    | @inRight c d x rest hn hx _ ih =>
      obtain ⟨q, hq, r, hr, hj⟩ := ih
      refine ⟨q, hq, x.name :: r, cons_mem_chains.2 ⟨x, hx, rfl, hr⟩, ?_⟩
      rw [hn, joinNames_dot, joinNames_cons_cons, hj]
  · rintro ⟨q, hq, r, hr, hj⟩
    -- the chains get shorter with every child whose name the other name goes on with
    induction hl : q.length + r.length using Nat.strongRecOn generalizing c d q r with
    | _ l ih =>
      rcases joinNames_eq_cases hj with hn | ⟨k, q, rest, rfl, hn, hj⟩ | ⟨k, r, rest, rfl, hn, hj⟩
      · exact .same hn
      · obtain ⟨x, hx, rfl, hxq⟩ := cons_mem_chains.1 hq
        have hc : Confused x ⟨rest, d.type⟩ :=
          ih (q.length + r.length) (by rw [← hl, List.length_cons]; omega) q hxq r hr hj rfl
        exact .inLeft hn hx hc
      · obtain ⟨x, hx, rfl, hxr⟩ := cons_mem_chains.1 hr
        have hc : Confused ⟨rest, c.type⟩ x :=
          ih (q.length + r.length) (by rw [← hl, List.length_cons]; omega) q hq r hxr hj rfl
        exact .inRight hn hx hc

/-! ## Distinct identifiers -/

/-- At no place of the type two children are confused. -/
def Unambiguous (t : TypeTree) : Prop := ∀ x ∈ t.places, x.type.children.Pairwise fun c d => ¬ Confused c d

theorem unambiguous_iff {t : TypeTree} :
    t.Unambiguous ↔ (t.children.Pairwise fun c d => ¬ Confused c d) ∧ ∀ c ∈ t.children, c.type.Unambiguous :=
  forall_type_places (P := fun t => t.children.Pairwise fun c d => ¬ Confused c d)

/-- The dotted chains below a child are distinct when those of the child itself are. -/
theorem nodup_below_iff (name : String) (chains : List (List String)) :
    ((chains.map fun q => name :: q).map dotted).Nodup ↔ (chains.map dotted).Nodup := by
  have hmap : (chains.map fun q => name :: q).map dotted = (chains.map dotted).map fun s => "." ++ name ++ s := by
    simp only [List.map_map]; rfl
  rw [hmap, List.nodup_map_iff fun s u h => (String.append_right_inj _).1 h]

/-- The dotted chains below two children have none in common when the children are not confused. -/
theorem disjoint_below_iff (c d : Child) :
    List.Disjoint ((c.type.chains.map fun q => c.name :: q).map dotted)
      ((d.type.chains.map fun q => d.name :: q).map dotted) ↔ ¬ Confused c d := by
  have hdot : ∀ m n q r, dotted (m :: q) = dotted (n :: r) ↔ joinNames (m :: q) = joinNames (n :: r) := by
    intro m n q r
    simp only [dotted, joinNames_cons, String.append_assoc, String.append_right_inj]
  rw [confused_iff, List.disjoint_left]
  simp only [List.map_map, List.mem_map, Function.comp_def]
  constructor
  · rintro h ⟨q, hq, r, hr, hj⟩
    exact h ⟨q, hq, rfl⟩ ⟨r, hr, ((hdot _ _ _ _).2 hj).symm⟩
  · rintro h _ ⟨q, hq, rfl⟩ ⟨r, hr, he⟩
    exact h ⟨q, hq, r, hr, (hdot _ _ _ _).1 he.symm⟩

theorem nodup_dotted_iff (t : TypeTree) : (t.chains.map dotted).Nodup ↔ t.Unambiguous := by
  induction t using induction_children with
  | step t ih =>
    -- the text of the type as a whole is empty, and all others begin with a dot
    have hroot : dotted [] ∉ t.children.flatMap fun c => (c.type.chains.map fun q => c.name :: q).map dotted := by
      intro h
      obtain ⟨c, -, h⟩ := List.mem_flatMap.1 h
      rw [List.map_map] at h
      obtain ⟨q, -, h⟩ := List.mem_map.1 h
      have hdot : "." ++ c.name ++ dotted q = "" := h
      simp [String.append_eq_empty_iff] at hdot
    rw [unambiguous_iff, chains_eq, List.map_cons, List.map_flatMap, List.nodup_cons, List.nodup_flatMap, and_comm,
      and_iff_left hroot, and_comm]
    refine and_congr ?_ (forall₂_congr fun c hc => (nodup_below_iff _ _).trans (ih c hc))
    exact List.Pairwise.iff disjoint_below_iff

/-! ## Plain names -/

/-- A name without a dot in it or a question mark at its end. -/
def PlainName (name : String) : Prop := '.' ∉ name.toList ∧ name.toList.getLast? ≠ some '?'

/-- The fields of a type have plain names, no two of them the same. -/
def PlainFields : TypeTree → Prop
  | .object fields => (fields.map (·.name)).Nodup ∧ ∀ f ∈ fields, PlainName f.name
  | _ => True

instance (name : String) : Decidable (PlainName name) := inferInstanceAs (Decidable (_ ∧ _))

instance : (t : TypeTree) → Decidable t.PlainFields
  | .object _ => inferInstanceAs (Decidable (_ ∧ _))
  | .primitive _ | .literal _ | .reference _ | .union _ | .array _ | .record _ _ => inferInstanceAs (Decidable True)

/-- Confused children have one name, or the name of one goes on after a dot where the other ends. -/
theorem Confused.names {c d : Child} (h : Confused c d) :
    c.name = d.name ∨ (∃ rest, d.name = c.name ++ "." ++ rest) ∨ ∃ rest, c.name = d.name ++ "." ++ rest := by
  cases h with
  | same h => exact .inl h
  | inLeft h => exact .inr (.inl ⟨_, h⟩)
  | inRight h => exact .inr (.inr ⟨_, h⟩)

theorem mem_toList_of_eq_dot {a b c : String} (h : a = b ++ "." ++ c) : '.' ∈ a.toList := by
  rw [h]; simp

theorem toString_inj {i j : Nat} (h : toString i = toString j) : i = j := by
  have hd : Nat.toDigits 10 i = Nat.toDigits 10 j := by
    rw [← Nat.toList_repr, ← Nat.toList_repr]; exact congrArg String.toList h
  rw [← Nat.ofDigitChars_ten_toDigits (n := i), hd, Nat.ofDigitChars_ten_toDigits]

theorem dot_not_mem_toString (i : Nat) : '.' ∉ (toString i).toList := by
  intro h
  have hd : '.' ∈ Nat.toDigits 10 i := by rw [← Nat.toList_repr]; exact h
  exact absurd (Nat.isDigit_of_mem_toDigits (by decide) (by decide) hd) (by decide)

theorem dot_not_mem_fieldChild {f : Field TypeTree} (h : PlainName f.name) : '.' ∉ (fieldChild f).name.toList := by
  unfold fieldChild
  split
  · simpa using h.1
  · exact h.1

theorem name_of_fieldChild {f g : Field TypeTree} (hf : PlainName f.name) (hg : PlainName g.name)
    (h : (fieldChild f).name = (fieldChild g).name) : f.name = g.name := by
  -- a question mark that only one of the names was given would stand at the end of the other
  have last : ∀ {a b : String}, a ++ "?" = b → b.toList.getLast? = some '?' := by
    rintro a _ rfl; simp
  unfold fieldChild at h
  split at h <;> split at h
  · exact (String.append_left_inj "?").1 h
  · exact absurd (last h) hg.2
  · exact absurd (last h.symm) hf.2
  · exact h

theorem pairwise_children_of_plain {t : TypeTree} (h : t.PlainFields) :
    t.children.Pairwise fun c d => ¬ Confused c d := by
  cases t with
  | object fields =>
    obtain ⟨hn, hp⟩ := h
    rw [children, List.pairwise_map]
    refine (List.pairwise_map.1 hn).imp_of_mem fun {f g} hf hg hne hc => ?_
    rcases hc.names with he | ⟨rest, he⟩ | ⟨rest, he⟩
    · exact hne (name_of_fieldChild (hp f hf) (hp g hg) he)
    · exact dot_not_mem_fieldChild (hp g hg) (mem_toList_of_eq_dot he)
    · exact dot_not_mem_fieldChild (hp f hf) (mem_toList_of_eq_dot he)
  | union members =>
    have below : ∀ (i j : Nat) rest, "union." ++ toString i ≠ "union." ++ toString j ++ "." ++ rest := by
      intro i j rest he
      rw [String.append_assoc, String.append_assoc, String.append_right_inj, ← String.append_assoc] at he
      exact dot_not_mem_toString i (mem_toList_of_eq_dot he)
    rw [children, List.pairwise_iff_getElem]
    intro i j hi hj hij hc
    rw [List.getElem_mapIdx, List.getElem_mapIdx] at hc
    rcases hc.names with he | ⟨rest, he⟩ | ⟨rest, he⟩
    · exact absurd (toString_inj ((String.append_right_inj _).1 he)) (Nat.ne_of_lt hij)
    · exact below _ _ _ he
    · exact below _ _ _ he
  | array element => exact List.pairwise_singleton ..
  | primitive | literal | reference | record => exact .nil

/-- Under plain field names no children are confused, however deep they lie. -/
theorem unambiguous_of_plain {t : TypeTree} (h : ∀ x ∈ t.places, x.type.PlainFields) : t.Unambiguous :=
  fun x hx => pairwise_children_of_plain (h x hx)

end TypeTree

namespace Diagram

open TypeTree

theorem nodup_joinNames_iff {names : List String} (h : names ≠ []) (t : TypeTree) :
    (t.places.map fun x => joinNames (names ++ x.chain)).Nodup ↔ t.Unambiguous := by
  have hmap : (t.places.map fun x => joinNames (names ++ x.chain)) =
      (t.chains.map dotted).map fun s => joinNames names ++ s := by
    simp only [chains, List.map_map, Function.comp_def, joinNames_append h]
  rw [hmap, List.nodup_map_iff fun s u h => (String.append_right_inj _).1 h, nodup_dotted_iff]

/-- The identifiers in the block of a table are distinct exactly when no two children of one type in it are
confused. -/
theorem nodup_identifiers_iff {s : Schema} {d : Drawing} (h : draw s = .ok d) :
    List.Forall₂ (fun t block => ((entries block).map (·.node.path)).Nodup ↔ t.type.Unambiguous)
      s.tables d.blocks := by
  obtain ⟨ws, hws, rfl⟩ := draw_walks h
  rw [List.forall₂_map_right_iff]
  refine hws.imp fun t w hw => ?_
  rw [(walk_places hw.2).1, List.map_map, ← nodup_joinNames_iff (List.cons_ne_nil t.name [])]
  rfl

/-- A name that goes on after a dot where another ends, but not as a child of the other is named. -/
theorem identifiers_inner_dot :
    let t : TypeTree := .object [⟨"a", false, .object [⟨"b", true, .reference "t"⟩]⟩, ⟨"a.b", false, .union []⟩]
    (∃ d, draw ⟨[⟨"t", t⟩]⟩ = .ok d) ∧ t.Unambiguous := by
  intro t
  have h := nodup_identifiers_iff (s := ⟨[⟨"t", t⟩]⟩) rfl
  obtain ⟨hd, -⟩ := List.forall₂_cons.1 h
  exact ⟨⟨_, rfl⟩, hd.1 (by decide)⟩

/-- A field that may be left out beside one with a question mark in its name. -/
theorem identifiers_question_mark :
    ∃ d, draw ⟨[⟨"t", .object [⟨"a", true, .primitive .string⟩, ⟨"a?", false, .primitive .string⟩]⟩]⟩ = .ok d ∧
      ¬ ∀ block ∈ d.blocks, ((entries block).map (·.node.path)).Nodup :=
  ⟨_, rfl, by decide⟩

end Diagram

end SchemaChart
