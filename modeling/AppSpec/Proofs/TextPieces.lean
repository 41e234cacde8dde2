import AppSpec.Proofs.CommentLines

/-!
# Pieces and bytes of texts

The first of a character cuts a text in two (`Text.dropWhile_ne_eq_cons_iff`). Characters in order have
bytes in order, whatever follows them, so texts are ordered as their bytes are (`Text.bytes_lt_iff`). A
stretch that is counted in bytes selects the characters that stand there (`Text.selects_of_split`).
-/

namespace AppSpec.Text

theorem isDigit_iff {c : Char} : c.isDigit = true ↔ '0' ≤ c ∧ c ≤ '9' := by
  simp only [Char.isDigit, Bool.and_eq_true, decide_eq_true_eq]
  exact Iff.rfl

/-- What stands before and behind the first of a character. -/
theorem dropWhile_ne_eq_cons_iff {c x : Char} {cs rest : List Char} :
    cs.dropWhile (· != c) = x :: rest ↔ x = c ∧ cs = cs.takeWhile (· != c) ++ c :: rest := by
  constructor
  · intro h
    have hx : x = c := by
      have hhead := List.head_dropWhile_not (p := (· != c)) (l := cs) (by simp [h])
      simpa [h] using hhead
    subst hx
    refine ⟨rfl, ?_⟩
    rw [← h, List.takeWhile_append_dropWhile]
  · rintro ⟨rfl, h⟩
    have hsplit := List.takeWhile_append_dropWhile (p := (· != x)) (l := cs)
    exact List.append_cancel_left (hsplit.trans h)

theorem not_mem_takeWhile_ne (c : Char) (cs : List Char) : c ∉ cs.takeWhile (· != c) := by
  intro h
  simpa using List.mem_takeWhile_imp h

theorem takeWhile_ne_append {c : Char} {before : List Char} (h : c ∉ before) (rest : List Char) :
    (before ++ c :: rest).takeWhile (· != c) = before := by
  have hpass : ∀ x ∈ before, (x != c) = true := by
    intro x hx
    rw [bne_iff_ne]
    rintro rfl
    exact h hx
  rw [List.takeWhile_append_of_pos hpass]
  simp

/-! ## Bytes -/

/-- The bytes of a text. -/
def bytes (s : String) : List UInt8 :=
  s.toByteArray.data.toList

theorem bytes_eq (s : String) : bytes s = s.toList.flatMap String.utf8EncodeChar := by
  rw [bytes, ← String.utf8Encode_toList]
  simp [List.utf8Encode]

theorem length_bytes_ofList (cs : List Char) :
    (bytes (String.ofList cs)).length = byteLength cs := by
  rw [byteLength_eq]
  rfl

/-- The span lies in the text, begins and ends between two characters, and takes in that part. -/
structure Selects (s : String) (span : Span) (part : String) : Prop where
  start_isValid : (⟨span.start⟩ : String.Pos.Raw).IsValid s
  stop_isValid : (⟨span.stop⟩ : String.Pos.Raw).IsValid s
  stop_le : span.stop ≤ s.utf8ByteSize
  bytes_eq : ((bytes s).drop span.start).take span.length = bytes part

/-- A part of a text is selected by its bytes and those before it. -/
theorem selects_of_split {s : String} {before part after : List Char}
    (h : s.toList = before ++ (part ++ after)) :
    Selects s ⟨byteLength before, byteLength part⟩ (String.ofList part) := by
  have hstop : before ++ part <+: s.toList := ⟨after, by rw [h, List.append_assoc]⟩
  obtain ⟨hle, hvalid⟩ := isValid_of_prefix hstop
  rw [byteLength_append] at hle hvalid
  have hstart := isValid_of_prefix ⟨part ++ after, h.symm⟩
  refine ⟨hstart.2, hvalid, hle, ?_⟩
  have hbytes : bytes s = bytes (String.ofList before) ++
      (bytes (String.ofList part) ++ bytes (String.ofList after)) := by
    simp only [Text.bytes_eq, String.toList_ofList, h, List.flatMap_append]
  rw [hbytes, ← length_bytes_ofList, ← length_bytes_ofList, List.drop_left, List.take_left]

/-! ## The order of texts -/

theorem utf8EncodeChar_append_lt {c d : Char} (h : c < d) (x y : List UInt8) :
    String.utf8EncodeChar c ++ x < String.utf8EncodeChar d ++ y := by
  have hval : c.val.toNat < d.val.toNat := h
  have hmax : d.val.toNat < 0x110000 := by
    have hvalid := d.valid
    simp only [UInt32.isValidChar, Nat.isValidChar] at hvalid
    omega
  -- the digits of six bits that come behind the first byte
  have h12 : ∀ n, n / 4096 = n / 64 / 64 := by omega
  have h18 : ∀ n, n / 262144 = n / 64 / 64 / 64 := by omega
  simp only [String.utf8EncodeChar, h12, h18]
  split_ifs <;>
    simp only [List.cons_append, List.nil_append, List.cons_lt_cons_iff, UInt8.lt_iff_toNat_lt,
      ← UInt8.toNat_inj, UInt8.toNat_ofNat', Nat.reducePow] <;> omega

theorem flatMap_utf8EncodeChar_lt {cs ds : List Char} (h : cs < ds) :
    cs.flatMap String.utf8EncodeChar < ds.flatMap String.utf8EncodeChar := by
  induction h with
  | @nil d ds =>
    obtain ⟨b, bs, hd⟩ := List.exists_cons_of_ne_nil (String.utf8EncodeChar_ne_nil (c := d))
    rw [List.flatMap_nil, List.flatMap_cons, hd]
    exact List.nil_lt_cons b _
  | cons _ ih =>
    rw [List.flatMap_cons, List.flatMap_cons]
    exact List.append_left_lt ih
  | rel h =>
    rw [List.flatMap_cons, List.flatMap_cons]
    exact utf8EncodeChar_append_lt h _ _

/-- Texts are ordered as their bytes are. -/
theorem bytes_lt_iff {s t : String} : bytes s < bytes t ↔ s < t := by
  have hmono : ∀ {s t : String}, s < t → bytes s < bytes t := by
    intro s t h
    rw [bytes_eq, bytes_eq]
    exact flatMap_utf8EncodeChar_lt (String.lt_iff.mp h)
  refine ⟨fun h => ?_, hmono⟩
  by_contra hst
  have hle : t ≤ s := String.not_lt.mp hst
  by_cases hts : t < s
  · exact List.lt_asymm h (hmono hts)
  · rw [String.le_antisymm hle (String.not_lt.mp hts)] at h
    exact List.lt_irrefl _ h

end AppSpec.Text
