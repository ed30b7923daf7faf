/-
Octets as whole numbers and as text. Writing and reading are inverse: a whole number is read back from the octets
it fits into (`toInt_ofInt`), and octets from the whole number that they are read as (`ofInt_toInt`); octets are read
back from their Base64 text (`decode_encode`), which is ASCII. A text that is read need not be the one written: the
last character may have bits that no octet takes, and whole groups may have padding behind them. Octets that do not
fill whole groups are read from their strict texts alone (`decode_eq_ok_iff`).
-/
import SchemaChart.Codec
import Mathlib.Tactic.SplitIfs

namespace SchemaChart.Codec

namespace LittleEndian

theorem length_ofNat (count n : Nat) : (ofNat count n).length = count := by
  induction count generalizing n with
  | zero => rfl
  | succ count ih => rw [ofNat, List.length_cons, ih]

theorem lt_of_mem_ofNat {count n b : Nat} (h : b ∈ ofNat count n) : b < 256 := by
  induction count generalizing n with
  | zero => cases h
  | succ count ih =>
    rcases List.mem_cons.1 h with rfl | h
    · exact Nat.mod_lt n (by decide)
    · exact ih h

theorem toNat_ofNat (count n : Nat) : toNat (ofNat count n) = n % Nat.pow 256 count := by
  induction count generalizing n with
  | zero => exact (Nat.mod_one n).symm
  | succ count ih =>
    have hpow : Nat.pow 256 (count + 1) = 256 * Nat.pow 256 count := Nat.pow_succ'
    rw [ofNat, toNat, ih, hpow, Nat.mod_mul]

theorem length_ofInt (count : Nat) (n : Int) : (ofInt count n).length = count := length_ofNat ..

/-- A whole number is read back from octets in number enough for it and its sign. -/
theorem toInt_ofInt {count : Nat} {n : Int} (least : -(Nat.pow 256 count : Int) ≤ n * 2)
    (greatest : n * 2 < (Nat.pow 256 count : Int)) : toInt (ofInt count n) = n := by
  have hpos : (0 : Int) < (Nat.pow 256 count : Int) := Int.natCast_pos.2 (Nat.pow_pos (by decide))
  have hmod : ((n % (Nat.pow 256 count : Int)).toNat : Int) = n % (Nat.pow 256 count : Int) :=
    Int.toNat_of_nonneg (Int.emod_nonneg n (Int.ne_of_gt hpos))
  -- the octets hold the residue of the number, and the sign puts it back into the range
  have hread : (toNat (ofInt count n) : Int) = n % (Nat.pow 256 count : Int) := by
    rw [ofInt, toNat_ofNat, Int.natCast_emod, hmod, Int.emod_emod]
  rw [toInt, length_ofInt, hread, Int.emod_bmod]
  exact Int.bmod_eq_of_le_mul_two least greatest

theorem toNat_lt : ∀ {os : List Nat}, (∀ o ∈ os, o < 256) → toNat os < Nat.pow 256 os.length
  | [], _ => Nat.one_pos
  | o :: os, h => by
    obtain ⟨ho, hos⟩ := List.forall_mem_cons.1 h
    have hrest := toNat_lt hos
    have hpow : Nat.pow 256 (os.length + 1) = 256 * Nat.pow 256 os.length := Nat.pow_succ'
    rw [toNat, List.length_cons, hpow]
    omega

theorem ofNat_toNat : ∀ {os : List Nat}, (∀ o ∈ os, o < 256) → ofNat os.length (toNat os) = os
  | [], _ => rfl
  | o :: os, h => by
    obtain ⟨ho, hos⟩ := List.forall_mem_cons.1 h
    have hfirst : (o + 256 * toNat os) % 256 = o := by omega
    have hrest : (o + 256 * toNat os) / 256 = toNat os := by omega
    rw [toNat, List.length_cons, ofNat, hfirst, hrest, ofNat_toNat hos]

/-- Octets are those of the whole number that they are read as. -/
theorem ofInt_toInt {os : List Nat} (h : ∀ o ∈ os, o < 256) : ofInt os.length (toInt os) = os := by
  have hsmall : (toNat os : Int) % (Nat.pow 256 os.length : Int) = toNat os :=
    Int.emod_eq_of_lt (Int.natCast_nonneg _) (Int.ofNat_lt.2 (toNat_lt h))
  rw [ofInt, toInt, Int.bmod_emod, hsmall, Int.toNat_natCast, ofNat_toNat h]

end LittleEndian

namespace Base64

/-! ## The alphabet -/

theorem sextet?_character : ∀ n < 64, sextet? (character n) = some n := by decide

theorem character_ne_padding : ∀ n < 64, character n ≠ '=' := by decide

theorem padding_ascii : '='.toNat < 0x80 := by decide

theorem sextet?_lt {c : Char} {n : Nat} (h : sextet? c = some n) : n < 64 := by
  simp only [sextet?] at h
  split_ifs at h <;> cases h <;> omega

theorem sextet?_ascii {c : Char} {n : Nat} (h : sextet? c = some n) : c.toNat < 0x80 := by
  simp only [sextet?] at h
  split_ifs at h <;> omega

/-! ## Sextets of octets -/

/-- The sextets of octets, three octets to four sextets; the last ones are filled up with zero bits. -/
def sextetsOf : List Nat → List Nat
  | a :: b :: c :: rest => a / 4 :: (a % 4 * 16 + b / 16) :: (b % 16 * 4 + c / 64) :: c % 64 :: sextetsOf rest
  | [a, b] => [a / 4, a % 4 * 16 + b / 16, b % 16 * 4]
  | [a] => [a / 4, a % 4 * 16]
  | [] => []

/-- How much padding completes the sextets of octets. -/
def pads : List Nat → Nat
  | _ :: _ :: _ :: rest => pads rest
  | [_, _] => 1
  | [_] => 2
  | [] => 0

theorem encode_eq : ∀ os, encode os = (sextetsOf os).map character ++ List.replicate (pads os) '='
  | a :: b :: c :: rest => by rw [encode, sextetsOf, pads, encode_eq rest]; rfl
  | [_, _] => rfl
  | [_] => rfl
  | [] => rfl

theorem pads_le : ∀ os, pads os ≤ 2
  | _ :: _ :: _ :: rest => pads_le rest
  | [_, _] => Nat.le_succ 1
  | [_] => Nat.le_refl 2
  | [] => Nat.zero_le 2

theorem length_sextetsOf : ∀ os, ((sextetsOf os).length + pads os) % 4 = 0
  | a :: b :: c :: rest => by
    have ih := length_sextetsOf rest
    simp only [sextetsOf, pads, List.length_cons]
    omega
  | [_, _] => by simp [sextetsOf, pads]
  | [_] => by simp [sextetsOf, pads]
  | [] => rfl

theorem lt_of_mem_sextetsOf : ∀ {os : List Nat}, (∀ o ∈ os, o < 256) → ∀ n ∈ sextetsOf os, n < 64
  | a :: b :: c :: rest, h => by
    obtain ⟨ha, hb, hc, hrest⟩ : a < 256 ∧ b < 256 ∧ c < 256 ∧ ∀ o ∈ rest, o < 256 := by
      simpa only [List.forall_mem_cons] using h
    simp only [sextetsOf, List.forall_mem_cons]
    exact ⟨by omega, by omega, by omega, by omega, lt_of_mem_sextetsOf hrest⟩
  | [a, b], h => by
    obtain ⟨ha, hb⟩ : a < 256 ∧ b < 256 := by simpa using h
    simp only [sextetsOf, List.forall_mem_cons]
    exact ⟨by omega, by omega, by omega, List.forall_mem_nil _⟩
  | [a], h => by
    have ha : a < 256 := by simpa using h
    simp only [sextetsOf, List.forall_mem_cons]
    exact ⟨by omega, by omega, List.forall_mem_nil _⟩
  | [], _ => List.forall_mem_nil _

theorem octets_sextetsOf : ∀ {os : List Nat}, (∀ o ∈ os, o < 256) → octets (sextetsOf os) = os
  | a :: b :: c :: rest, h => by
    obtain ⟨ha, hb, hc, hrest⟩ : a < 256 ∧ b < 256 ∧ c < 256 ∧ ∀ o ∈ rest, o < 256 := by
      simpa only [List.forall_mem_cons] using h
    have hfirst : a / 4 * 4 + (a % 4 * 16 + b / 16) / 16 = a := by omega
    have hsecond : (a % 4 * 16 + b / 16) % 16 * 16 + (b % 16 * 4 + c / 64) / 4 = b := by omega
    have hthird : (b % 16 * 4 + c / 64) % 4 * 64 + c % 64 = c := by omega
    rw [sextetsOf, octets, octets_sextetsOf hrest, hfirst, hsecond, hthird]
  | [a, b], h => by
    obtain ⟨ha, hb⟩ : a < 256 ∧ b < 256 := by simpa using h
    have hfirst : a / 4 * 4 + (a % 4 * 16 + b / 16) / 16 = a := by omega
    have hsecond : (a % 4 * 16 + b / 16) % 16 * 16 + b % 16 * 4 / 4 = b := by omega
    rw [sextetsOf, octets, hfirst, hsecond]
  | [a], h => by
    have ha : a < 256 := by simpa using h
    have hfirst : a / 4 * 4 + a % 4 * 16 / 16 = a := by omega
    rw [sextetsOf, octets, hfirst]
  | [], _ => rfl

/-! ## Reading what is written -/

/-- A character of the alphabet is read as its value. -/
theorem sextets_character {n : Nat} (h : n < 64) (count pads : Nat) (rest : List Char) :
    sextets count pads false (character n :: rest) = (sextets (count + 1) 0 false rest).map (n :: ·) := by
  rw [sextets, if_neg (character_ne_padding n h), sextet?_character n h]
  rcases sextets (count + 1) 0 false rest with e | ns <;> rfl

theorem sextets_characters {ns : List Nat} (h : ∀ n ∈ ns, n < 64) (count : Nat) (rest : List Char) :
    sextets count 0 false (ns.map character ++ rest) = (sextets (count + ns.length) 0 false rest).map (ns ++ ·) := by
  induction ns generalizing count with
  | nil => rcases hr : sextets count 0 false rest with e | ms <;> simp [hr, Except.map]
  | cons n ns ih =>
    obtain ⟨hn, hns⟩ := List.forall_mem_cons.1 h
    have hcount : count + 1 + ns.length = count + (n :: ns).length := by rw [List.length_cons]; omega
    rw [List.map_cons, List.cons_append, sextets_character hn, ih hns, hcount]
    rcases sextets (count + (n :: ns).length) 0 false rest with e | ms <;> rfl

/-- Padding that completes a group ends the text. -/
theorem sextets_padding : ∀ {k count : Nat}, k ≤ 2 → (count + k) % 4 = 0 →
    sextets count 0 false (List.replicate k '=') = .ok []
  | 0, count, _, h => by rw [List.replicate_zero, sextets, if_pos (by omega)]
  | 1, count, _, h => by
    rw [List.replicate_one, sextets, if_pos rfl, if_pos (by omega), if_pos (by omega), if_pos rfl]
  | 2, count, _, h => by
    rw [List.replicate_succ, List.replicate_one, sextets, if_pos rfl, if_pos (by omega), if_neg (by omega), sextets,
      if_pos rfl, if_pos (by omega), if_pos (by omega), if_pos rfl]

/-- A text of octets does not begin with padding. -/
theorem head?_encode {os : List Nat} (h : ∀ o ∈ os, o < 256) : (encode os).head? ≠ some '=' := by
  have hfirst : ∀ o rest, (encode (o :: rest)).head? = some (character (o / 4))
    | _, [] => rfl
    | _, [_] => rfl
    | _, _ :: _ :: _ => rfl
  cases os with
  | nil => exact (Option.some_ne_none _).symm
  | cons o os =>
    have ho : o < 256 := h o (List.mem_cons_self ..)
    rw [hfirst, ne_eq, Option.some_inj]
    exact character_ne_padding (o / 4) (by omega)

/-- Octets are read back from their text. -/
theorem decode_encode {os : List Nat} (h : ∀ o ∈ os, o < 256) : decode (encode os) = .ok os := by
  have hcount : (0 + (sextetsOf os).length + pads os) % 4 = 0 := by rw [Nat.zero_add, length_sextetsOf]
  rw [decode, if_neg (head?_encode h), encode_eq, sextets_characters (lt_of_mem_sextetsOf h),
    sextets_padding (pads_le os) hcount]
  show Except.ok (octets (sextetsOf os ++ [])) = .ok os
  rw [List.append_nil, octets_sextetsOf h]

/-! ## Strict texts -/

/-- A text of octets: a character for each of the sextets that hold them, and padding that completes the last group
of four. Bits of the last sextet that belong to no octet may be set. -/
def Spells (text : List Char) (os : List Nat) : Prop :=
  ∃ (cs : List Char) (ns : List Nat) (k : Nat), text = cs ++ List.replicate k '=' ∧ cs.map sextet? = ns.map some ∧
    octets ns = os ∧ (cs.length + k) % 4 = 0 ∧ k ≤ 2

/-- Whether `k` padding characters are taken behind `count` sextets: any number behind whole groups, and just what
completes a group of at least two. -/
def Completes (count k : Nat) : Prop := count % 4 = 0 ∨ 2 ≤ count % 4 ∧ count % 4 + k = 4

theorem sextet?_padding : sextet? '=' = none := by decide

theorem completes_zero_iff {count : Nat} : Completes count 0 ↔ count % 4 = 0 := by
  unfold Completes; omega

/-- Behind the first padding character only padding is read. -/
theorem sextets_padded_iff {text : List Char} {count pads : Nat} {ns : List Nat} (h : count % 4 + pads < 4) :
    sextets count pads true text = .ok ns ↔
      ns = [] ∧ ∃ k, text = List.replicate k '=' ∧ Completes count (pads + k) := by
  induction text generalizing pads with
  | nil =>
    have hnil : Completes count pads ↔ count % 4 = 0 := by unfold Completes; omega
    rw [sextets]
    constructor
    · intro hr
      split_ifs at hr with h0 h1
      cases hr
      exact ⟨rfl, 0, rfl, hnil.2 h0⟩
    · rintro ⟨rfl, k, hk, hdone⟩
      obtain rfl : k = 0 := by simpa using hk.symm
      rw [if_pos (hnil.1 hdone)]
  | cons c rest ih =>
    by_cases hc : c = '='
    · subst hc
      -- what follows is read as padding that goes on
      have hmore : (∃ k, '=' :: rest = List.replicate k '=' ∧ Completes count (pads + k)) ↔
          ∃ k, rest = List.replicate k '=' ∧ Completes count (pads + 1 + k) := by
        constructor
        · rintro ⟨_ | k, hk, hdone⟩
          · cases hk
          · exact ⟨k, (List.cons.inj hk).2, by rwa [Nat.add_assoc, Nat.add_comm 1]⟩
        · rintro ⟨k, rfl, hdone⟩
          exact ⟨k + 1, rfl, by rwa [Nat.add_assoc, Nat.add_comm 1] at hdone⟩
      rw [sextets, if_pos rfl, hmore]
      by_cases h2 : 2 ≤ count % 4
      · rw [if_pos h2]
        by_cases h4 : 4 ≤ count % 4 + (pads + 1)
        · rw [if_pos h4]
          constructor
          · intro hr
            split_ifs at hr with hrest
            cases hr
            exact ⟨rfl, 0, hrest, .inr ⟨h2, by omega⟩⟩
          · rintro ⟨rfl, k, rfl, h0 | ⟨-, hk⟩⟩
            · omega
            · obtain rfl : k = 0 := by omega
              rfl
        · rw [if_neg h4, ih (by omega)]
      · have hany : ∀ k, Completes count k ↔ count % 4 = 0 := by unfold Completes; omega
        rw [if_neg h2, ih h]
        simp only [hany]
    · rw [sextets, if_neg hc]
      constructor
      · intro hr
        rcases hs : sextet? c with _ | n
        · rw [hs] at hr; cases hr
        · rw [hs] at hr; cases hr
      · rintro ⟨-, _ | k, hk, -⟩
        · cases hk
        · exact absurd (List.cons.inj hk).1 hc

/-- The sextets of a text are those of its characters before the padding, which completes them. -/
theorem sextets_eq_ok_iff {text : List Char} {count : Nat} {ns : List Nat} :
    sextets count 0 false text = .ok ns ↔ ∃ cs k, text = cs ++ List.replicate k '=' ∧ cs.map sextet? = ns.map some ∧
      Completes (count + cs.length) k := by
  induction text generalizing count ns with
  | nil =>
    rw [sextets]
    constructor
    · intro hr
      split_ifs at hr with h0 h1
      cases hr
      exact ⟨[], 0, rfl, rfl, .inl h0⟩
    · rintro ⟨cs, k, htext, hns, hdone⟩
      obtain ⟨rfl, hk⟩ := List.append_eq_nil_iff.1 htext.symm
      obtain rfl : k = 0 := by simpa using hk
      obtain rfl : ns = [] := by simpa using hns.symm
      have h0 : count % 4 = 0 := completes_zero_iff.1 hdone
      rw [if_pos h0]
  | cons c rest ih =>
    by_cases hc : c = '='
    · subst hc
      -- the first padding character is read as the later ones are
      have hsame : sextets count 0 false ('=' :: rest) = sextets count 0 true ('=' :: rest) := by
        rw [sextets, sextets, if_pos rfl, if_pos rfl]
      rw [hsame, sextets_padded_iff (Nat.mod_lt count (by decide))]
      constructor
      · rintro ⟨rfl, k, htext, hdone⟩
        exact ⟨[], k, htext, rfl, by rwa [Nat.zero_add] at hdone⟩
      · rintro ⟨_ | ⟨d, cs⟩, k, htext, hns, hdone⟩
        · exact ⟨by simpa using hns.symm, k, htext, by rwa [Nat.zero_add]⟩
        · obtain rfl : '=' = d := (List.cons.inj htext).1
          rw [List.map_cons, sextet?_padding] at hns
          rcases ns with _ | ⟨n, ns⟩ <;> cases hns
    · rw [sextets, if_neg hc]
      constructor
      · intro hr
        rcases hs : sextet? c with _ | n
        · rw [hs] at hr; cases hr
        · rw [hs] at hr
          rcases hrest : sextets (count + 1) 0 false rest with e | ms
          · simp only [hrest] at hr; cases hr
          · simp only [hrest] at hr; cases hr
            obtain ⟨cs, k, rfl, hms, hdone⟩ := ih.1 hrest
            refine ⟨c :: cs, k, rfl, ?_, ?_⟩
            · rw [List.map_cons, List.map_cons, hs, hms]
            · rwa [List.length_cons, Nat.add_comm cs.length, ← Nat.add_assoc]
      · rintro ⟨_ | ⟨d, cs⟩, k, htext, hns, hdone⟩
        · rcases k with _ | k
          · cases htext
          · exact absurd (List.cons.inj htext).1 hc
        · obtain ⟨rfl, htail⟩ := List.cons.inj htext
          rcases ns with _ | ⟨n, ns⟩
          · cases hns
          · obtain ⟨hs, hms⟩ := List.cons.inj hns
            have hrest : sextets (count + 1) 0 false rest = .ok ns :=
              ih.2 ⟨cs, k, htail, hms, by rwa [List.length_cons, Nat.add_comm cs.length, ← Nat.add_assoc] at hdone⟩
            rw [hs, hrest]
            rfl

theorem length_octets : ∀ ns, (octets ns).length = ns.length * 3 / 4
  | a :: b :: c :: d :: rest => by
    rw [octets]
    simp only [List.length_cons, length_octets rest]
    omega
  | [_, _, _] => by simp [octets]
  | [_, _] => by simp [octets]
  | [_] => by simp [octets]
  | [] => rfl

theorem lt_of_mem_octets : ∀ {ns : List Nat}, (∀ n ∈ ns, n < 64) → ∀ o ∈ octets ns, o < 256
  | a :: b :: c :: d :: rest, h => by
    obtain ⟨ha, hb, hc, hd, hrest⟩ : a < 64 ∧ b < 64 ∧ c < 64 ∧ d < 64 ∧ ∀ n ∈ rest, n < 64 := by
      simpa only [List.forall_mem_cons] using h
    simp only [octets, List.forall_mem_cons]
    exact ⟨by omega, by omega, by omega, lt_of_mem_octets hrest⟩
  | [a, b, c], h => by
    obtain ⟨ha, hb, hc⟩ : a < 64 ∧ b < 64 ∧ c < 64 := by simpa using h
    simp only [octets, List.forall_mem_cons]
    exact ⟨by omega, by omega, List.forall_mem_nil _⟩
  | [a, b], h => by
    obtain ⟨ha, hb⟩ : a < 64 ∧ b < 64 := by simpa using h
    simp only [octets, List.forall_mem_cons]
    exact ⟨by omega, List.forall_mem_nil _⟩
  | [_], _ => List.forall_mem_nil _
  | [], _ => List.forall_mem_nil _

/-- The characters of a strict text before its padding are of the alphabet. -/
theorem exists_sextet {cs : List Char} {ns : List Nat} (h : cs.map sextet? = ns.map some) :
    (∀ c ∈ cs, ∃ n, sextet? c = some n) ∧ ∀ n ∈ ns, ∃ c, sextet? c = some n := by
  constructor
  · intro c hc
    have hmem : sextet? c ∈ ns.map some := h ▸ List.mem_map_of_mem hc
    obtain ⟨n, -, hn⟩ := List.mem_map.1 hmem
    exact ⟨n, hn.symm⟩
  · intro n hn
    have hmem : some n ∈ cs.map sextet? := h ▸ List.mem_map_of_mem hn
    obtain ⟨c, -, hc⟩ := List.mem_map.1 hmem
    exact ⟨c, hc⟩

theorem Spells.ascii {text : List Char} {os : List Nat} (h : Spells text os) : ∀ c ∈ text, c.toNat < 0x80 := by
  obtain ⟨cs, ns, k, rfl, hns, -⟩ := h
  intro c hc
  rcases List.mem_append.1 hc with hc | hc
  · obtain ⟨n, hn⟩ := (exists_sextet hns).1 c hc
    exact sextet?_ascii hn
  · rw [List.eq_of_mem_replicate hc]
    exact padding_ascii

theorem Spells.lt {text : List Char} {os : List Nat} (h : Spells text os) : ∀ o ∈ os, o < 256 := by
  obtain ⟨cs, ns, k, -, hns, rfl, -⟩ := h
  refine lt_of_mem_octets fun n hn => ?_
  obtain ⟨c, hc⟩ := (exists_sextet hns).2 n hn
  exact sextet?_lt hc

/-- Octets that do not fill whole groups are read from their strict texts, and from nothing else. -/
theorem decode_eq_ok_iff {text : List Char} {os : List Nat} (h : os.length % 3 ≠ 0) :
    decode text = .ok os ↔ Spells text os := by
  have hcount : ∀ {cs : List Char} {ns : List Nat}, cs.map sextet? = ns.map some → octets ns = os →
      2 ≤ cs.length % 4 := by
    intro cs ns hns hos
    have hlength : cs.length = ns.length := by simpa using congrArg List.length hns
    rw [← hos, length_octets, ← hlength] at h
    -- none or one character over makes no octet
    rcases hcount : cs.length % 4 with _ | _ | n
    · exact absurd (by omega) h
    · exact absurd (by omega) h
    · omega
  rw [decode]
  constructor
  · intro hr
    split_ifs at hr with hhead
    rcases hs : sextets 0 0 false text with e | ns
    · rw [hs] at hr; cases hr
    · rw [hs] at hr; cases hr
      obtain ⟨cs, k, rfl, hns, hdone⟩ := sextets_eq_ok_iff.1 hs
      have hmany := hcount hns rfl
      rw [Nat.zero_add] at hdone
      rcases hdone with h0 | ⟨-, hk⟩
      · omega
      · exact ⟨cs, ns, k, rfl, hns, rfl, by omega, by omega⟩
  · rintro ⟨cs, ns, k, rfl, hns, rfl, hfull, hk⟩
    have hmany := hcount hns rfl
    have hhead : (cs ++ List.replicate k '=').head? ≠ some '=' := by
      rcases cs with _ | ⟨c, cs⟩
      · simp at hmany
      · rintro ⟨⟩
        rw [List.map_cons, sextet?_padding] at hns
        rcases ns with _ | ⟨n, ns⟩ <;> cases hns
    have hread : sextets 0 0 false (cs ++ List.replicate k '=') = .ok ns :=
      sextets_eq_ok_iff.2 ⟨cs, k, rfl, hns, .inr ⟨by omega, by omega⟩⟩
    rw [if_neg hhead, hread]
    rfl

end Base64

end SchemaChart.Codec
