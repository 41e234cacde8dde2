import Mathlib.Data.List.Basic
import Mathlib.Data.List.Induction
import AppSpec.Version
import AppSpec.Proofs.TextPieces

/-!
# The texts of versions

A text is read as a version if it is three numerals with a point after the first and after the second
(`Version.ofText?_eq_some_iff`). A numeral may have a plus sign and leading zeros, so a version has many
texts. The one that is written for it has neither, and it is the only such text of that version
(`Version.text_eq_of_isCanonical`).
-/

namespace AppSpec.Version

/-- There are digits and nothing else. -/
def Digits (cs : List Char) : Prop :=
  cs ≠ [] ∧ ∀ c ∈ cs, '0' ≤ c ∧ c ≤ '9'

/-- The number in decimal digits, perhaps behind a plus sign. -/
inductive Numeral : List Char → Nat → Prop
  | plain {digits : List Char} (h : Digits digits) : Numeral digits (Nat.ofDigitChars 10 digits 0)
  | signed {digits : List Char} (h : Digits digits) :
    Numeral ('+' :: digits) (Nat.ofDigitChars 10 digits 0)

/-- Digits without a zero in front, save zero itself. -/
def Shortest (cs : List Char) : Prop :=
  Digits cs ∧ (cs.head? = some '0' → cs = ['0'])

/-- The text is three numerals without plus signs and leading zeros. -/
def IsCanonical (s : String) : Prop :=
  ∃ a b c, s.toList = a ++ '.' :: (b ++ '.' :: c) ∧ Shortest a ∧ Shortest b ∧ Shortest c

/-! ## Numerals -/

theorem digits_iff {cs : List Char} :
    Digits cs ↔ (cs.isEmpty || !cs.all Char.isDigit) = false := by
  simp [Digits, ← Text.isDigit_iff]

theorem Digits.not_mem {cs : List Char} (h : Digits cs) {c : Char} (hc : c < '0') : c ∉ cs := by
  intro hmem
  exact absurd (h.2 c hmem).1 (Char.not_le.mpr hc)

theorem Numeral.point_not_mem {cs : List Char} {n : Nat} (h : Numeral cs n) : '.' ∉ cs := by
  cases h with
  | plain h => exact h.not_mem (by decide)
  | signed h => exact List.not_mem_cons_of_ne_of_not_mem (by decide) (h.not_mem (by decide))

/-- What is left of a numeral without its sign. -/
def unsigned (cs : List Char) : List Char :=
  match cs with
  | '+' :: digits => digits
  | _ => cs

theorem Digits.unsigned_eq {cs : List Char} (h : Digits cs) : unsigned cs = cs := by
  unfold unsigned
  split
  · exact absurd List.mem_cons_self (h.not_mem (by decide))
  · rfl

theorem numeral_iff {cs : List Char} {n : Nat} :
    Numeral cs n ↔ Digits (unsigned cs) ∧ Nat.ofDigitChars 10 (unsigned cs) 0 = n := by
  constructor
  · intro h
    cases h with
    | plain h =>
      rw [h.unsigned_eq]
      exact ⟨h, rfl⟩
    | signed h => exact ⟨h, rfl⟩
  · rintro ⟨h, rfl⟩
    unfold unsigned at h ⊢
    split at h
    · exact .signed h
    · exact .plain h

theorem number?_eq (cs : List Char) : number? cs =
    if (unsigned cs).isEmpty || !(unsigned cs).all Char.isDigit then none
    else if Nat.ofDigitChars 10 (unsigned cs) 0 < Nat.pow 2 32 then
      some (UInt32.ofNat (Nat.ofDigitChars 10 (unsigned cs) 0)) else none := by
  simp only [Nat.ofDigitChars_eq_foldl, Nat.mul_comm 10]
  rfl

theorem number?_eq_some_iff {cs : List Char} {n : UInt32} :
    number? cs = some n ↔ Numeral cs n.toNat := by
  rw [number?_eq, numeral_iff, digits_iff]
  rcases (unsigned cs).isEmpty || !(unsigned cs).all Char.isDigit with _ | _
  · have hn := n.toNat_lt
    simp only [Bool.false_eq_true, if_false, Option.ite_none_right_eq_some, Option.some.injEq,
      true_and]
    constructor
    · rintro ⟨hlt, rfl⟩
      exact (UInt32.toNat_ofNat_of_lt' hlt).symm
    · intro h
      rw [h]
      exact ⟨hn, UInt32.ofNat_toNat⟩
  · simp

/-! ## The number that is written -/

theorem digits_toDigits (n : Nat) : Digits (Nat.toDigits 10 n) := by
  have hall : (Nat.toDigits 10 n).all Char.isDigit = true := by
    rw [List.all_eq_true]
    exact fun c hc => Nat.isDigit_of_mem_toDigits (by decide) (by decide) hc
  rw [digits_iff, hall]
  simp [Nat.toDigits_ne_nil]

theorem shortest_toDigits (n : Nat) : Shortest (Nat.toDigits 10 n) := by
  refine ⟨digits_toDigits n, ?_⟩
  induction n using Nat.strongRecOn with
  | ind n ih =>
    rcases Nat.lt_or_ge n 10 with hlt | hge
    · rw [Nat.toDigits_of_lt_base hlt]
      simp
    · -- the first digit is that of a smaller number, which is not zero
      rw [Nat.toDigits_of_base_le (by decide) hge,
        List.head?_append_of_ne_nil _ Nat.toDigits_ne_nil]
      intro hhead
      have hzero := congrArg (Nat.ofDigitChars 10 · 0) (ih (n / 10) (by omega) hhead)
      simp only [Nat.ofDigitChars_ten_toDigits] at hzero
      have hdigit : Nat.ofDigitChars 10 ['0'] 0 = 0 := rfl
      omega

theorem digitChar_of_digit {c : Char} (h : '0' ≤ c ∧ c ≤ '9') :
    c.toNat - '0'.toNat < 10 ∧ (c.toNat - '0'.toNat).digitChar = c := by
  obtain ⟨h0, h9⟩ := h
  have hlow : 48 ≤ c.toNat := h0
  have hhigh : c.toNat ≤ 57 := h9
  have hlt : c.toNat - '0'.toNat < 10 := by
    change c.toNat - 48 < 10
    omega
  refine ⟨hlt, Char.toNat_inj.mp ?_⟩
  rw [Nat.toNat_digitChar_of_lt_ten hlt]
  change 48 + (c.toNat - 48) = c.toNat
  omega

/-- The shortest digits of a number are those that are written for it. -/
theorem toDigits_of_shortest {cs : List Char} (h : Shortest cs) :
    Nat.toDigits 10 (Nat.ofDigitChars 10 cs 0) = cs := by
  induction cs using List.reverseRecOn with
  | nil => exact absurd rfl h.1.1
  | append_singleton init c ih =>
    obtain ⟨⟨-, hdigits⟩, hzero⟩ := h
    obtain ⟨hlt, hc⟩ := digitChar_of_digit (hdigits c (by simp))
    by_cases hinit : init = []
    · subst hinit
      rw [List.nil_append, Nat.ofDigitChars_cons, Nat.ofDigitChars_nil, Nat.mul_zero, Nat.zero_add,
        Nat.toDigits_of_lt_base hlt, hc]
    · have hhead : init.head? ≠ some '0' := by
        intro hhead
        have hlength := congrArg List.length
          (hzero (by rwa [List.head?_append_of_ne_nil _ hinit]))
        simp [hinit] at hlength
      have hshort : Shortest init :=
        ⟨⟨hinit, fun d hd => hdigits d (List.mem_append_left _ hd)⟩, fun hz => absurd hz hhead⟩
      have hpos : 0 < Nat.ofDigitChars 10 init 0 := by
        rw [Nat.pos_iff_ne_zero]
        intro hvalue
        have hwritten := ih hshort
        rw [hvalue, Nat.toDigits_zero] at hwritten
        exact hhead (hwritten ▸ rfl)
      rw [Nat.ofDigitChars_append, Nat.ofDigitChars_cons, Nat.ofDigitChars_nil,
        ← Nat.toDigits_append_toDigits (by decide) hpos hlt, ih hshort,
        Nat.toDigits_of_lt_base hlt, hc]

/-! ## Versions -/

theorem splitPoint?_eq_some_iff {cs before rest : List Char} :
    splitPoint? cs = some (before, rest) ↔ cs = before ++ '.' :: rest ∧ '.' ∉ before := by
  constructor
  · intro h
    unfold splitPoint? at h
    split at h
    · rename_i hdrop
      cases h
      exact ⟨(Text.dropWhile_ne_eq_cons_iff.mp hdrop).2, Text.not_mem_takeWhile_ne '.' cs⟩
    · cases h
  · rintro ⟨rfl, hbefore⟩
    have htake := Text.takeWhile_ne_append hbefore rest
    have hdrop : (before ++ '.' :: rest).dropWhile (· != '.') = '.' :: rest :=
      Text.dropWhile_ne_eq_cons_iff.mpr ⟨rfl, by rw [htake]⟩
    simp only [splitPoint?, hdrop, htake]

/-- A version is read from three numerals with points between them. -/
theorem ofText?_eq_some_iff {s : String} {v : Version} : ofText? s = some v ↔
    ∃ a b c, s.toList = a ++ '.' :: (b ++ '.' :: c) ∧ Numeral a v.major.toNat ∧
      Numeral b v.minor.toNat ∧ Numeral c v.patch.toNat := by
  simp only [← number?_eq_some_iff]
  simp only [ofText?, ofChars?, Option.bind_eq_bind, Option.bind_eq_some_iff, Prod.exists,
    splitPoint?_eq_some_iff, Option.pure_def, Option.some.injEq]
  constructor
  · rintro ⟨a, rest, ⟨hs, -⟩, b, c, ⟨rfl, -⟩, x, hx, y, hy, z, hz, rfl⟩
    exact ⟨a, b, c, hs, hx, hy, hz⟩
  · rintro ⟨a, b, c, hs, hx, hy, hz⟩
    refine ⟨a, _, ⟨hs, ?_⟩, b, c, ⟨rfl, ?_⟩, _, hx, _, hy, _, hz, rfl⟩
    · exact (number?_eq_some_iff.mp hx).point_not_mem
    · exact (number?_eq_some_iff.mp hy).point_not_mem

theorem toList_text (v : Version) : v.text.toList = Nat.toDigits 10 v.major.toNat ++ '.' ::
    (Nat.toDigits 10 v.minor.toNat ++ '.' :: Nat.toDigits 10 v.patch.toNat) := by
  simp [text]

theorem isCanonical_text (v : Version) : IsCanonical v.text :=
  ⟨_, _, _, v.toList_text, shortest_toDigits _, shortest_toDigits _, shortest_toDigits _⟩

theorem numeral_toDigits (n : Nat) : Numeral (Nat.toDigits 10 n) n := by
  have h := Numeral.plain (digits_toDigits n)
  rwa [Nat.ofDigitChars_ten_toDigits] at h

theorem ofText?_text (v : Version) : ofText? v.text = some v :=
  ofText?_eq_some_iff.mpr ⟨_, _, _, v.toList_text, numeral_toDigits _, numeral_toDigits _,
    numeral_toDigits _⟩

/-- A numeral that is as short as can be is the one that is written for its number. -/
theorem Numeral.eq_toDigits {cs : List Char} {n : Nat} (h : Numeral cs n) (hshort : Shortest cs) :
    cs = Nat.toDigits 10 n := by
  cases h with
  | plain => exact (toDigits_of_shortest hshort).symm
  | signed => exact absurd List.mem_cons_self (hshort.1.not_mem (by decide))

/-- Texts are cut at their first point. -/
theorem append_point_inj {a b rest rest' : List Char} (ha : '.' ∉ a) (hb : '.' ∉ b)
    (h : a ++ '.' :: rest = b ++ '.' :: rest') : a = b ∧ rest = rest' := by
  have hcut := splitPoint?_eq_some_iff.mpr ⟨h, hb⟩
  rw [splitPoint?_eq_some_iff.mpr ⟨rfl, ha⟩] at hcut
  simpa using hcut

/-- The text that is written for a version is the only canonical one. -/
theorem text_eq_of_isCanonical {s : String} {v : Version} (h : ofText? s = some v)
    (hs : IsCanonical s) : s = v.text := by
  obtain ⟨a, b, c, hread, ha, hb, hc⟩ := ofText?_eq_some_iff.mp h
  obtain ⟨a', b', c', hcanon, ha', hb', hc'⟩ := hs
  have hpoint : ∀ {cs}, Shortest cs → '.' ∉ cs := fun hcs => hcs.1.not_mem (by decide)
  obtain ⟨rfl, hrest⟩ := append_point_inj ha.point_not_mem (hpoint ha') (hread.symm.trans hcanon)
  obtain ⟨rfl, rfl⟩ := append_point_inj hb.point_not_mem (hpoint hb') hrest
  rw [← String.toList_inj, hread, toList_text, ← ha.eq_toDigits ha', ← hb.eq_toDigits hb',
    ← hc.eq_toDigits hc']

/-- A version is read from the text that is written for it. The texts from which one is read are three
parts with points between them, each of them digits, perhaps behind a plus sign, of a number below
`2 ^ 32`, and these numbers are the version's. The text that is written for it is, of all of them, the
one without plus signs and leading zeros. -/
theorem versions_of_texts :
    (∀ v : Version, ofText? v.text = some v ∧ IsCanonical v.text) ∧
      (∀ s, (∃ v, ofText? s = some v) ↔
        ∃ a b c x y z, s.toList = a ++ '.' :: (b ++ '.' :: c) ∧
          (Numeral a x ∧ x ≤ 4294967295) ∧ (Numeral b y ∧ y ≤ 4294967295) ∧
          (Numeral c z ∧ z ≤ 4294967295)) ∧
      (∀ s v, ofText? s = some v ↔ ∃ a b c, s.toList = a ++ '.' :: (b ++ '.' :: c) ∧
        Numeral a v.major.toNat ∧ Numeral b v.minor.toNat ∧ Numeral c v.patch.toNat) ∧
      ∀ s v, ofText? s = some v → (s = v.text ↔ IsCanonical s) := by
  refine ⟨fun v => ⟨v.ofText?_text, v.isCanonical_text⟩, fun s => ?_,
    fun s v => ofText?_eq_some_iff, fun s v h => ⟨?_, text_eq_of_isCanonical h⟩⟩
  · simp only [ofText?_eq_some_iff]
    constructor
    · rintro ⟨v, a, b, c, hs, ha, hb, hc⟩
      have hmax : ∀ n : UInt32, n.toNat ≤ 4294967295 := fun n => Nat.le_of_lt_succ n.toNat_lt
      exact ⟨a, b, c, _, _, _, hs, ⟨ha, hmax _⟩, ⟨hb, hmax _⟩, ⟨hc, hmax _⟩⟩
    · rintro ⟨a, b, c, x, y, z, hs, ⟨ha, hx⟩, ⟨hb, hy⟩, ⟨hc, hz⟩⟩
      have hnumber : ∀ {n : Nat}, n ≤ 4294967295 → (UInt32.ofNat n).toNat = n := fun hn =>
        UInt32.toNat_ofNat_of_lt' (Nat.lt_succ_of_le hn)
      refine ⟨⟨.ofNat x, .ofNat y, .ofNat z⟩, a, b, c, hs, ?_, ?_, ?_⟩
      · rwa [hnumber hx]
      · rwa [hnumber hy]
      · rwa [hnumber hz]
  · rintro rfl
    exact v.isCanonical_text

/-- Signs and leading zeros are read, and not written. -/
example : (ofText? "+1.002.3").map text = some "1.2.3" := by decide +kernel

end AppSpec.Version
