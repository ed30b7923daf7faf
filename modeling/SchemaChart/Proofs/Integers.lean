/-
Literals that are encoded whole numbers. Eight octets are written with eleven characters of the Base64 alphabet and one
padding character, and of the eleventh character two bits belong to no octet. So the encodings that are read are just
these texts, each of them as a whole number of 64 bits, and two of them as the same one exactly when they differ in
those two bits at most (`readType_integer`).
-/
import SchemaChart.Proofs.Written

namespace SchemaChart

namespace Codec.Base64

/-! ## The alphabet -/

/-- The characters of the alphabet, in the order of their values. -/
def alphabet : List Char := "ABCDEFGHIJKLMNOPQRSTUVWXYZabcdefghijklmnopqrstuvwxyz0123456789+/".toList

/-- The value of a character of the alphabet. -/
def value (c : Char) : Nat := alphabet.idxOf c

theorem length_alphabet : alphabet.length = 64 := by decide

theorem getElem?_alphabet : ∀ n < 64, alphabet[n]? = some (character n) := by decide

theorem character_of_sextet? {c : Char} {n : Nat} (h : sextet? c = some n) : character n = c := by
  simp only [sextet?] at h
  split_ifs at h <;> cases h <;> unfold character
  · rw [if_pos (by omega), Nat.sub_add_cancel (by omega), Char.ofNat_toNat]
  · rw [if_neg (by omega), if_pos (by omega), Nat.sub_add_cancel (by omega), Char.ofNat_toNat]
  · rw [if_neg (by omega), if_neg (by omega), if_pos (by omega), Nat.add_sub_cancel, Char.ofNat_toNat]
  · rename_i hc
    exact Char.toNat_inj.1 (by rw [hc]; rfl)
  · rename_i hc
    exact Char.toNat_inj.1 (by rw [hc]; rfl)

/-- A character stands in the alphabet where its value says. -/
theorem sextet?_eq_some_iff {c : Char} {n : Nat} : sextet? c = some n ↔ alphabet[n]? = some c := by
  constructor
  · intro h
    rw [getElem?_alphabet n (sextet?_lt h), character_of_sextet? h]
  · intro h
    have hn : n < 64 := length_alphabet ▸ (List.getElem?_eq_some_iff.1 h).1
    rw [getElem?_alphabet n hn] at h
    cases h
    exact sextet?_character n hn

theorem sextet?_of_mem {c : Char} (h : c ∈ alphabet) : sextet? c = some (value c) :=
  sextet?_eq_some_iff.2 (List.getElem?_idxOf h)

theorem mem_alphabet_iff {c : Char} : c ∈ alphabet ↔ ∃ n, sextet? c = some n := by
  constructor
  · intro h
    exact ⟨value c, sextet?_of_mem h⟩
  · rintro ⟨n, h⟩
    exact List.mem_of_getElem? (sextet?_eq_some_iff.1 h)

theorem value_lt {c : Char} (h : c ∈ alphabet) : value c < 64 := sextet?_lt (sextet?_of_mem h)

theorem character_value {c : Char} (h : c ∈ alphabet) : character (value c) = c :=
  character_of_sextet? (sextet?_of_mem h)

theorem map_value_inj {cs ds : List Char} (hc : ∀ c ∈ cs, c ∈ alphabet) (hd : ∀ d ∈ ds, d ∈ alphabet)
    (h : cs.map value = ds.map value) : cs = ds := by
  have hback : ∀ {es : List Char}, (∀ e ∈ es, e ∈ alphabet) → (es.map value).map character = es := by
    intro es he
    rw [List.map_map]
    exact (List.map_congr_left fun e h => character_value (he e h)).trans (List.map_id' es)
  rw [← hback hc, h, hback hd]

/-- The sextets of a text of the alphabet are the values of its characters. -/
theorem map_sextet?_eq_iff {cs : List Char} {ns : List Nat} :
    cs.map sextet? = ns.map some ↔ (∀ c ∈ cs, c ∈ alphabet) ∧ ns = cs.map value := by
  have hvalues : (∀ c ∈ cs, c ∈ alphabet) → cs.map sextet? = (cs.map value).map some := by
    intro h
    rw [List.map_map]
    exact List.map_congr_left fun c hc => sextet?_of_mem (h c hc)
  constructor
  · intro h
    have hcs : ∀ c ∈ cs, c ∈ alphabet := fun c hc => mem_alphabet_iff.2 ((exists_sextet h).1 c hc)
    rw [hvalues hcs] at h
    exact ⟨hcs, ((List.map_inj_right fun _ _ => Option.some.inj).1 h).symm⟩
  · rintro ⟨hcs, rfl⟩
    exact hvalues hcs

/-! ## Octets and the last sextet -/

/-- The sextets are found again in the octets, but for the two bits of the last one that belong to no octet. -/
theorem sextetsOf_octets : ∀ {ns : List Nat} {n : Nat}, ns.length % 4 = 2 → (∀ m ∈ ns, m < 64) → n < 64 →
    sextetsOf (octets (ns ++ [n])) = ns ++ [n / 4 * 4]
  | [a, b], n, _, h, hn => by
    obtain ⟨ha, hb⟩ : a < 64 ∧ b < 64 := by simpa using h
    have hfirst : (a * 4 + b / 16) / 4 = a := by omega
    have hsecond : (a * 4 + b / 16) % 4 * 16 + (b % 16 * 16 + n / 4) / 16 = b := by omega
    have hthird : (b % 16 * 16 + n / 4) % 16 * 4 = n / 4 * 4 := by omega
    simp only [List.cons_append, List.nil_append, octets, sextetsOf, hfirst, hsecond, hthird]
  | a :: b :: c :: d :: rest, n, hl, h, hn => by
    obtain ⟨ha, hb, hc, hd, hrest⟩ : a < 64 ∧ b < 64 ∧ c < 64 ∧ d < 64 ∧ ∀ m ∈ rest, m < 64 := by
      simpa only [List.forall_mem_cons] using h
    have hlength : rest.length % 4 = 2 := by
      simp only [List.length_cons] at hl
      omega
    have hfirst : (a * 4 + b / 16) / 4 = a := by omega
    have hsecond : (a * 4 + b / 16) % 4 * 16 + (b % 16 * 16 + c / 4) / 16 = b := by omega
    have hthird : (b % 16 * 16 + c / 4) % 16 * 4 + (c % 4 * 64 + d) / 64 = c := by omega
    have hfourth : (c % 4 * 64 + d) % 64 = d := by omega
    simp only [List.cons_append, octets, sextetsOf, sextetsOf_octets hlength hrest hn, hfirst, hsecond, hthird, hfourth]
  | [], _, hl, _, _ => by simp at hl
  | [_], _, hl, _, _ => by simp at hl
  | [_, _, _], _, hl, _, _ => by simp at hl

theorem octets_concat : ∀ {ns : List Nat} {n m : Nat}, ns.length % 4 = 2 → n / 4 = m / 4 →
    octets (ns ++ [n]) = octets (ns ++ [m])
  | [a, b], n, m, _, h => by simp only [List.cons_append, List.nil_append, octets, h]
  | a :: b :: c :: d :: rest, n, m, hl, h => by
    have hlength : rest.length % 4 = 2 := by
      simp only [List.length_cons] at hl
      omega
    simp only [List.cons_append, octets, octets_concat hlength h]
  | [], _, _, hl, _ => by simp at hl
  | [_], _, _, hl, _ => by simp at hl
  | [_, _, _], _, _, hl, _ => by simp at hl

/-- Sextets of which the last one fills up an octet have the octets of others exactly when they are the same up to the
two bits of the last one. -/
theorem octets_concat_eq_iff {ns ms : List Nat} {n m : Nat} (hns : ns.length % 4 = 2) (hms : ms.length % 4 = 2)
    (h : ∀ k ∈ ns ++ [n], k < 64) (h' : ∀ k ∈ ms ++ [m], k < 64) :
    octets (ns ++ [n]) = octets (ms ++ [m]) ↔ ns = ms ∧ n / 4 = m / 4 := by
  obtain ⟨hlt, hn⟩ := List.forall_mem_append.1 h
  obtain ⟨hlt', hm⟩ := List.forall_mem_append.1 h'
  rw [List.forall_mem_singleton] at hn hm
  constructor
  · intro he
    have hsextets := congrArg sextetsOf he
    rw [sextetsOf_octets hns hlt hn, sextetsOf_octets hms hlt' hm] at hsextets
    obtain ⟨hsame, hlast⟩ := List.append_inj' hsextets rfl
    have hlast : n / 4 * 4 = m / 4 * 4 := List.singleton_inj.1 hlast
    exact ⟨hsame, by omega⟩
  · rintro ⟨rfl, hlast⟩
    exact octets_concat hns hlast

/-! ## Texts of eight octets -/

/-- A text of eleven characters of the alphabet and one padding character. The last of the eleven stands apart from the
ten in front. -/
structure WordText (text front : List Char) (last : Char) : Prop where
  text_eq : text = front ++ [last, '=']
  length_front : front.length = 10
  mem_alphabet : ∀ c ∈ front ++ [last], c ∈ alphabet

instance (text front : List Char) (last : Char) : Decidable (WordText text front last) :=
  decidable_of_iff
    (text = front ++ [last, '='] ∧ front.length = 10 ∧ (front ++ [last]).all (fun c => (sextet? c).isSome) = true) <| by
    simp only [List.all_eq_true, Option.isSome_iff_exists, ← mem_alphabet_iff]
    exact ⟨fun h => ⟨h.1, h.2.1, h.2.2⟩, fun h => ⟨h.text_eq, h.length_front, h.mem_alphabet⟩⟩

/-- The four high bits of the value of a character, those that belong to octets where it is the last one. -/
def highBits (c : Char) : Nat := value c / 4

/-- The octets of such a text. -/
def wordOctets (front : List Char) (last : Char) : List Nat := octets (front.map value ++ [value last])

variable {text front front' : List Char} {last last' : Char}

theorem WordText.unique (h : WordText text front last) (h' : WordText text front' last') :
    front = front' ∧ last = last' := by
  obtain ⟨hfront, hlast⟩ := List.append_inj' (h.text_eq.symm.trans h'.text_eq) rfl
  exact ⟨hfront, (List.cons.inj hlast).1⟩

theorem WordText.lt (h : WordText text front last) : ∀ n ∈ front.map value ++ [value last], n < 64 := by
  have hall : ∀ n ∈ (front ++ [last]).map value, n < 64 := by
    rw [List.forall_mem_map]
    exact fun c hc => value_lt (h.mem_alphabet c hc)
  rwa [List.map_append] at hall

theorem WordText.length_wordOctets (h : WordText text front last) : (wordOctets front last).length = 8 := by
  rw [wordOctets, Base64.length_octets, List.length_append, List.length_map, h.length_front, List.length_singleton]

/-- The texts that spell eight octets are those of eleven characters of the alphabet and a padding character. -/
theorem spells_word_iff {os : List Nat} (h : os.length = 8) :
    Spells text os ↔ ∃ front last, WordText text front last ∧ wordOctets front last = os := by
  constructor
  · rintro ⟨cs, ns, k, rfl, hns, rfl, hfull, hk⟩
    obtain ⟨hcs, rfl⟩ := map_sextet?_eq_iff.1 hns
    rw [Base64.length_octets, List.length_map] at h
    obtain rfl : k = 1 := by omega
    -- of the eleven characters the last one stands apart
    obtain ⟨front, last, rfl⟩ : ∃ front last, cs = front ++ [last] :=
      (List.eq_nil_or_concat' cs).resolve_left (by rintro rfl; simp at h)
    rw [List.length_append, List.length_singleton] at h hfull
    refine ⟨front, last, ⟨by rw [List.append_assoc]; rfl, by omega, hcs⟩, ?_⟩
    rw [wordOctets, List.map_append, List.map_singleton]
  · rintro ⟨front, last, hw, rfl⟩
    have hlength := hw.length_front
    refine ⟨front ++ [last], _, 1, ?_, map_sextet?_eq_iff.2 ⟨hw.mem_alphabet, rfl⟩, ?_, ?_, by omega⟩
    · rw [hw.text_eq, List.append_assoc]; rfl
    · rw [wordOctets, List.map_append, List.map_singleton]
    · rw [List.length_append, hlength, List.length_singleton]

/-- Two such texts have the same octets exactly when they are the same up to two bits of the last character. -/
theorem wordOctets_eq_iff {text' : List Char} (h : WordText text front last) (h' : WordText text' front' last') :
    wordOctets front last = wordOctets front' last' ↔ front = front' ∧ highBits last = highBits last' := by
  have hlength : ∀ {t f : List Char} {l : Char}, WordText t f l → (f.map value).length % 4 = 2 := by
    intro t f l hw
    rw [List.length_map, hw.length_front]
  rw [wordOctets, wordOctets, octets_concat_eq_iff (hlength h) (hlength h') h.lt h'.lt]
  refine and_congr_left fun _ => ⟨fun hvalues => ?_, fun he => congrArg _ he⟩
  exact map_value_inj (List.forall_mem_append.1 h.mem_alphabet).1 (List.forall_mem_append.1 h'.mem_alphabet).1 hvalues

end Codec.Base64

namespace Validator

open Codec

/-! ## Validators of encoded whole numbers -/

/-- A validator of a literal whose value is an object with an encoded whole number and nothing else. -/
structure EncodesInteger (v encoded : Json) : Prop where
  type : v.get? "type" = some (.str "literal")
  value : v.get? "value" = some (.obj [(integerKey, encoded)])

theorem readLiteral_encoded (encoded : Json) : readLiteral (.obj [(integerKey, encoded)]) =
    match readInteger encoded with
    | .ok n => .ok (.int n)
    | .error cause => .error (.badInteger encoded cause) := by
  have hencoded : encodedInteger? (.obj [(integerKey, encoded)]) = some encoded := encodedInteger?_eq_some_iff.2 rfl
  cases hread : readInteger encoded <;> simp only [readLiteral, Literal.ofJson?, hencoded, hread]

/-- An object with any other members is no literal value. -/
theorem readLiteral_of_other_members {members : List (String × Json)}
    (h : ∀ encoded, members ≠ [(integerKey, encoded)]) :
    readLiteral (.obj members) = .error (.unsupportedLiteral (.obj members)) := by
  have hscalar : Literal.ofJson? (.obj members) = none := rfl
  have hnone : encodedInteger? (.obj members) = none := by
    refine Option.eq_none_iff_forall_ne_some.2 fun encoded he => h encoded ?_
    exact Json.obj.inj (encodedInteger?_eq_some_iff.1 he)
  rw [readLiteral, hscalar, hnone]

/-- Such a validator is read as the whole number, or the encoding is at fault. -/
theorem readType_of_encodesInteger {v encoded : Json} (h : EncodesInteger v encoded) : readType v =
    match readInteger encoded with
    | .ok n => .ok (.literal (.int n))
    | .error cause => .error (.fault (.badInteger encoded cause)) := by
  rw [readType_of_name .literal h.type (by decide), readForm, required_eq h.value, readLiteral_encoded]
  cases readInteger encoded <;> rfl

theorem readType_of_other_members {v : Json} {members : List (String × Json)}
    (htype : v.get? "type" = some (.str "literal")) (hvalue : v.get? "value" = some (.obj members))
    (h : ∀ encoded, members ≠ [(integerKey, encoded)]) :
    readType v = .error (.fault (.unsupportedLiteral (.obj members))) := by
  rw [readType_of_name .literal htype (by decide), readForm, required_eq hvalue, readLiteral_of_other_members h]
  rfl

/-- The encodings that are read are the texts of eight octets. -/
theorem exists_readInteger_iff {encoded : Json} : (∃ n, readInteger encoded = .ok n) ↔
    ∃ s front last, encoded = .str s ∧ Base64.WordText s.toList front last := by
  constructor
  · rintro ⟨n, h⟩
    cases encoded with
    | str s =>
      obtain ⟨-, hs⟩ := readInteger_eq_ok_iff.1 h
      obtain ⟨front, last, hw, -⟩ := (Base64.spells_word_iff (LittleEndian.length_ofInt 8 n)).1 hs
      exact ⟨s, front, last, rfl, hw⟩
    | null | bool | int | real | arr | obj => cases h
  · rintro ⟨s, front, last, rfl, hw⟩
    have hs : Base64.Spells s.toList (Base64.wordOctets front last) :=
      (Base64.spells_word_iff hw.length_wordOctets).2 ⟨front, last, hw, rfl⟩
    -- the octets are those of the number that they are read as
    have hsame : LittleEndian.ofInt 8 (LittleEndian.toInt (Base64.wordOctets front last)) =
        Base64.wordOctets front last := hw.length_wordOctets ▸ LittleEndian.ofInt_toInt hs.lt
    exact ⟨_, readInteger_eq_ok_iff.2 ⟨fitsWord_toInt hw.length_wordOctets, hsame.symm ▸ hs⟩⟩

theorem fitsWord_of_readInteger {encoded : Json} {n : Int} (h : readInteger encoded = .ok n) : FitsWord n := by
  cases encoded with
  | str s => exact (readInteger_eq_ok_iff.1 h).1
  | null | bool | int | real | arr | obj => cases h

/-- Two encodings that are read give one whole number exactly when they are the same up to two bits of the last
character. -/
theorem readInteger_eq_iff {s s' : String} {front front' : List Char} {last last' : Char}
    (h : Base64.WordText s.toList front last) (h' : Base64.WordText s'.toList front' last') :
    readInteger (.str s) = readInteger (.str s') ↔ front = front' ∧ Base64.highBits last = Base64.highBits last' := by
  -- of each of them the number is read that has its octets
  have hread : ∀ {s : String} {front : List Char} {last : Char}, Base64.WordText s.toList front last →
      ∃ n, readInteger (.str s) = .ok n ∧ FitsWord n ∧ LittleEndian.ofInt 8 n = Base64.wordOctets front last := by
    intro s front last hw
    obtain ⟨n, hn⟩ := exists_readInteger_iff.2 ⟨s, front, last, rfl, hw⟩
    obtain ⟨hfits, hs⟩ := readInteger_eq_ok_iff.1 hn
    obtain ⟨f, l, hfl, hoctets⟩ := (Base64.spells_word_iff (LittleEndian.length_ofInt 8 n)).1 hs
    obtain ⟨rfl, rfl⟩ := hfl.unique hw
    exact ⟨n, hn, hfits, hoctets.symm⟩
  obtain ⟨n, hn, hfits, hoctets⟩ := hread h
  obtain ⟨m, hm, hfits', hoctets'⟩ := hread h'
  rw [hn, hm, ← Base64.wordOctets_eq_iff h h', ← hoctets, ← hoctets']
  constructor
  · intro he
    rw [Except.ok.inj he]
  · intro he
    rw [← toInt_ofInt_of_fitsWord hfits, he, toInt_ofInt_of_fitsWord hfits']

/-- A whole number of 64 bits is read back from the text of its eight octets. What is read as a whole number are the
texts of eleven characters of the alphabet and one padding character, each as a number of 64 bits, and all else is a
fault, also in an object with more members or with another one; two of these texts are read as one number exactly when
they agree in the first ten characters and in the four high bits of the eleventh. -/
theorem readType_integer :
    (∀ v n, FitsWord n → EncodesInteger v (.str (integerText n)) → readType v = .ok (.literal (.int n))) ∧
    (∀ v encoded, EncodesInteger v encoded →
      ((∃ t, readType v = .ok t) ↔ ∃ s front last, encoded = .str s ∧ Base64.WordText s.toList front last) ∧
      (∀ t, readType v = .ok t → ∃ n, t = .literal (.int n) ∧ FitsWord n) ∧
      ∀ e, readType v = .error e → ∃ cause, e = .fault (.badInteger encoded cause)) ∧
    (∀ v members, v.get? "type" = some (.str "literal") → v.get? "value" = some (.obj members) →
      (∀ encoded, members ≠ [(integerKey, encoded)]) →
      readType v = .error (.fault (.unsupportedLiteral (.obj members)))) ∧
    ∀ v v' s s' front front' last last', EncodesInteger v (.str s) → EncodesInteger v' (.str s') →
      Base64.WordText s.toList front last → Base64.WordText s'.toList front' last' →
      (readType v = readType v' ↔ front = front' ∧ Base64.highBits last = Base64.highBits last') := by
  refine ⟨fun v n hn hv => ?_, fun v encoded hv => ?_, fun v members => readType_of_other_members,
    fun v v' s s' front front' last last' hv hv' hw hw' => ?_⟩
  · rw [readType_of_encodesInteger hv, readInteger_eq_ok_iff.2 ⟨hn, spells_integerText n⟩]
  · rw [readType_of_encodesInteger hv, ← exists_readInteger_iff]
    rcases hread : readInteger encoded with cause | n
    · refine ⟨by simp, fun t ht => (by cases ht), fun e he => ?_⟩
      cases he
      exact ⟨cause, rfl⟩
    · refine ⟨by simp, fun t ht => ?_, fun e he => (by cases he)⟩
      cases ht
      exact ⟨n, rfl, fitsWord_of_readInteger hread⟩
  · rw [← readInteger_eq_iff hw hw', readType_of_encodesInteger hv, readType_of_encodesInteger hv']
    obtain ⟨n, hn⟩ := exists_readInteger_iff.2 ⟨s, front, last, rfl, hw⟩
    obtain ⟨m, hm⟩ := exists_readInteger_iff.2 ⟨s', front', last', rfl, hw'⟩
    rw [hn, hm]
    simp

/-- The least whole number of 64 bits. The two bits that are left over may be set in its text; with the bit before them
the text is that of another number. Without its padding it is not read, nor with a second member beside it. -/
theorem readType_integer_least :
    let v (s : String) : Json := .obj [("type", .str "literal"), ("value", .obj [(integerKey, .str s)])]
    EncodesInteger (v "AAAAAAAAAIA=") (.str "AAAAAAAAAIA=") ∧
      readType (v "AAAAAAAAAIA=") = .ok (.literal (.int (-9223372036854775808))) ∧
      readType (v "AAAAAAAAAID=") = readType (v "AAAAAAAAAIA=") ∧
      readType (v "AAAAAAAAAIE=") ≠ readType (v "AAAAAAAAAIA=") ∧
      (∃ cause, readType (v "AAAAAAAAAIA") = .error (.fault (.badInteger (.str "AAAAAAAAAIA") cause))) ∧
      let members := [(integerKey, .str "AAAAAAAAAIA="), ("width", .int 64)]
      readType (.obj [("type", .str "literal"), ("value", .obj members)]) =
        .error (.fault (.unsupportedLiteral (.obj members))) := by
  intro v
  have hv : ∀ s, EncodesInteger (v s) (.str s) := fun s => ⟨rfl, rfl⟩
  have hA : Base64.WordText "AAAAAAAAAIA=".toList "AAAAAAAAAI".toList 'A' := by decide
  have hD : Base64.WordText "AAAAAAAAAID=".toList "AAAAAAAAAI".toList 'D' := by decide
  have hE : Base64.WordText "AAAAAAAAAIE=".toList "AAAAAAAAAI".toList 'E' := by decide
  obtain ⟨hleast, hread, hother, hsame⟩ := readType_integer
  refine ⟨hv _, hleast _ _ ⟨by decide, by decide⟩ (hv _), ?_, ?_, ?_, hother _ _ rfl rfl (by simp)⟩
  · exact (hsame _ _ _ _ _ _ _ _ (hv _) (hv _) hD hA).2 ⟨rfl, by decide⟩
  · intro he
    exact absurd ((hsame _ _ _ _ _ _ _ _ (hv _) (hv _) hE hA).1 he).2 (by decide)
  · rcases hshort : readType (v "AAAAAAAAAIA") with e | t
    · obtain ⟨cause, rfl⟩ := (hread _ _ (hv _)).2.2 e hshort
      exact ⟨cause, rfl⟩
    · obtain ⟨s, front, last, hs, hw⟩ := (hread _ _ (hv _)).1.1 ⟨t, hshort⟩
      cases hs
      have hlength : 11 = front.length + 2 := (congrArg List.length hw.text_eq).trans List.length_append
      have hfront := hw.length_front
      omega

end Validator

end SchemaChart
