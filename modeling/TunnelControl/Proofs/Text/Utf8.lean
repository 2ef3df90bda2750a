import TunnelControl.Text.Utf8

/-!
# Reading back UTF-8

A text is read back from its bytes as it was, so no two texts have the same bytes. The first
byte of a character tells how many are to follow, and narrows the one after it (`MakesUp`); the
bytes that a text is encoded in stay within what their first one allows.
-/

namespace TunnelControl.Text

/-! ## First bytes -/

theorem utf8Lead_eq (b : UInt8) :
    utf8Lead b =
      if b.toNat < 128 then .whole (Char.ofNat b.toNat)
      else if b.toNat < 194 then .illFormed
      else if b.toNat < 224 then .opens ⟨b.toNat - 192, 0, 0x80, 0xBF⟩
      else if b.toNat = 224 then .opens ⟨0, 1, 0xA0, 0xBF⟩
      else if b.toNat = 237 then .opens ⟨13, 1, 0x80, 0x9F⟩
      else if b.toNat < 240 then .opens ⟨b.toNat - 224, 1, 0x80, 0xBF⟩
      else if b.toNat = 240 then .opens ⟨0, 2, 0x90, 0xBF⟩
      else if b.toNat < 244 then .opens ⟨b.toNat - 240, 2, 0x80, 0xBF⟩
      else if b.toNat = 244 then .opens ⟨4, 2, 0x80, 0x8F⟩
      else .illFormed := by
  simp only [utf8Lead, UInt8.lt_iff_toNat_lt, beq_iff_eq, ← UInt8.toNat_inj]
  rfl

/-- A byte of the bits of a number below the highest ones. -/
def utf8Tail (n : Nat) : UInt8 := UInt8.ofNat (n % 64 + 128)

theorem toNat_utf8Tail (n : Nat) : (utf8Tail n).toNat = n % 64 + 128 := by
  rw [utf8Tail, UInt8.toNat_ofNat']
  omega

/-- The first byte of a character lets the bits `n` be the ones read up to the second byte, and
that many bytes follow. -/
def Opens (b : UInt8) (n after : Nat) : Prop :=
  ∃ low high, utf8Lead b = .opens ⟨n / 64, after, low, high⟩ ∧
    low.toNat ≤ n % 64 + 128 ∧ n % 64 + 128 ≤ high.toNat

theorem opens_two {v : Nat} (lower : 127 < v) (upper : v ≤ 2047) :
    Opens (UInt8.ofNat (v / 64 % 32 + 192)) v 0 := by
  have lead : (UInt8.ofNat (v / 64 % 32 + 192)).toNat = v / 64 + 192 := by
    rw [UInt8.toNat_ofNat']
    omega
  refine ⟨0x80, 0xBF, ?_, Nat.le_add_left 128 _, ?_⟩
  · rw [utf8Lead_eq, lead, if_neg (by omega), if_neg (by omega), if_pos (by omega),
      Nat.add_sub_cancel]
  · change v % 64 + 128 ≤ 191
    omega

/-- The second byte of a character with three has to lie in a narrower range after E0, where
the number would be small enough for two, and after ED, where it would be a surrogate. -/
theorem opens_three {v : Nat} (lower : 2047 < v) (upper : v ≤ 65535)
    (valid : v < 0xD800 ∨ 0xDFFF < v) :
    Opens (UInt8.ofNat (v / 4096 % 16 + 224)) (v / 64) 1 := by
  have lead : (UInt8.ofNat (v / 4096 % 16 + 224)).toNat = v / 64 / 64 + 224 := by
    rw [UInt8.toNat_ofNat']
    omega
  by_cases first : v / 64 / 64 = 0
  · refine ⟨0xA0, 0xBF, ?_, ?_, ?_⟩
    · rw [utf8Lead_eq, lead, first, if_neg (by omega), if_neg (by omega), if_neg (by omega),
        if_pos rfl]
    · change 160 ≤ v / 64 % 64 + 128
      omega
    · change v / 64 % 64 + 128 ≤ 191
      omega
  · by_cases surrogates : v / 64 / 64 = 13
    · refine ⟨0x80, 0x9F, ?_, Nat.le_add_left 128 _, ?_⟩
      · rw [utf8Lead_eq, lead, surrogates, if_neg (by omega), if_neg (by omega), if_neg (by omega),
          if_neg (by omega), if_pos rfl]
      · change v / 64 % 64 + 128 ≤ 159
        omega
    · refine ⟨0x80, 0xBF, ?_, Nat.le_add_left 128 _, ?_⟩
      · rw [utf8Lead_eq, lead, if_neg (by omega), if_neg (by omega), if_neg (by omega),
          if_neg (by omega), if_neg (by omega), if_pos (by omega), Nat.add_sub_cancel]
      · change v / 64 % 64 + 128 ≤ 191
        omega

/-- So it is after F0, where the number would be small enough for three, and after F4, where it
would be too large for a character. -/
theorem opens_four {v : Nat} (lower : 65535 < v) (upper : v < 0x110000) :
    Opens (UInt8.ofNat (v / 262144 % 8 + 240)) (v / 4096) 2 := by
  have lead : (UInt8.ofNat (v / 262144 % 8 + 240)).toNat = v / 4096 / 64 + 240 := by
    rw [UInt8.toNat_ofNat']
    omega
  by_cases first : v / 4096 / 64 = 0
  · refine ⟨0x90, 0xBF, ?_, ?_, ?_⟩
    · rw [utf8Lead_eq, lead, first]
      rfl
    · change 144 ≤ v / 4096 % 64 + 128
      omega
    · change v / 4096 % 64 + 128 ≤ 191
      omega
  · by_cases last : v / 4096 / 64 = 4
    · refine ⟨0x80, 0x8F, ?_, Nat.le_add_left 128 _, ?_⟩
      · rw [utf8Lead_eq, lead, last]
        rfl
      · change v / 4096 % 64 + 128 ≤ 143
        omega
    · refine ⟨0x80, 0xBF, ?_, Nat.le_add_left 128 _, ?_⟩
      · rw [utf8Lead_eq, lead]
        repeat rw [if_neg (by omega)]
        rw [if_pos (by omega), Nat.add_sub_cancel]
      · change v / 4096 % 64 + 128 ≤ 191
        omega

/-! ## Characters -/

/-- The bytes complete the pending character, which is this one. -/
inductive Completes : Utf8Pending → List UInt8 → Char → Prop
  | last {value : Nat} {low high b : UInt8} (lower : low ≤ b) (upper : b ≤ high) :
      Completes ⟨value, 0, low, high⟩ [b] (Char.ofNat (value * 64 + (b.toNat - 0x80)))
  | more {value n : Nat} {low high b : UInt8} {bs : List UInt8} {c : Char} (lower : low ≤ b)
      (upper : b ≤ high) (rest : Completes ⟨value * 64 + (b.toNat - 0x80), n, 0x80, 0xBF⟩ bs c) :
      Completes ⟨value, n + 1, low, high⟩ (b :: bs) c

/-- The bytes make up the character: it is the first one, or the others complete what that one
opens. -/
inductive MakesUp : List UInt8 → Char → Prop
  | whole {b : UInt8} {c : Char} (lead : utf8Lead b = .whole c) : MakesUp [b] c
  | opens {b : UInt8} {p : Utf8Pending} {bs : List UInt8} {c : Char}
      (lead : utf8Lead b = .opens p) (rest : Completes p bs c) : MakesUp (b :: bs) c

theorem decodeUtf8From_lead {b : UInt8} {p : Utf8Pending} (lead : utf8Lead b = .opens p)
    (bs : List UInt8) : decodeUtf8From none (b :: bs) = decodeUtf8From (some p) bs := by
  simp only [decodeUtf8From, utf8Feed, utf8Start, lead, List.nil_append]

theorem decodeUtf8From_more (value n : Nat) {low high b : UInt8} (lower : low ≤ b)
    (upper : b ≤ high) (bs : List UInt8) :
    decodeUtf8From (some ⟨value, n + 1, low, high⟩) (b :: bs) =
      decodeUtf8From (some ⟨value * 64 + (b.toNat - 0x80), n, 0x80, 0xBF⟩) bs := by
  simp only [decodeUtf8From, utf8Feed, lower, upper, and_self, if_true, List.nil_append]

theorem decodeUtf8From_of_completes {p : Utf8Pending} {bs : List UInt8} {c : Char}
    (completes : Completes p bs c) (rest : List UInt8) :
    decodeUtf8From (some p) (bs ++ rest) = c :: decodeUtf8From none rest := by
  induction completes with
  | last lower upper =>
      simp only [List.singleton_append, decodeUtf8From, utf8Feed, lower, upper, and_self, if_true]
  | more lower upper _ ih => exact (decodeUtf8From_more _ _ lower upper _).trans ih

theorem decodeUtf8From_of_makesUp {bs : List UInt8} {c : Char} (makes : MakesUp bs c)
    (rest : List UInt8) : decodeUtf8From none (bs ++ rest) = c :: decodeUtf8From none rest := by
  cases makes with
  | whole lead => simp only [List.singleton_append, decodeUtf8From, utf8Feed, utf8Start, lead]
  | opens lead completes =>
      exact (decodeUtf8From_lead lead _).trans (decodeUtf8From_of_completes completes rest)

section tails

variable {n : Nat} {low high : UInt8} (lower : low.toNat ≤ n % 64 + 128)
  (upper : n % 64 + 128 ≤ high.toNat)
include lower upper

theorem within_utf8Tail : low ≤ utf8Tail n ∧ utf8Tail n ≤ high := by
  rw [UInt8.le_iff_toNat_le, UInt8.le_iff_toNat_le, toNat_utf8Tail]
  exact ⟨lower, upper⟩

/-- The last byte of a character completes its number. -/
theorem completes_last : Completes ⟨n / 64, 0, low, high⟩ [utf8Tail n] (Char.ofNat n) := by
  obtain ⟨lower, upper⟩ := within_utf8Tail lower upper
  have whole : n / 64 * 64 + ((utf8Tail n).toNat - 0x80) = n := by
    rw [toNat_utf8Tail]
    omega
  have last : Completes ⟨n / 64, 0, low, high⟩ [utf8Tail n] _ := .last lower upper
  rwa [whole] at last

theorem completes_more {after : Nat} {bs : List UInt8} {c : Char}
    (rest : Completes ⟨n, after, 0x80, 0xBF⟩ bs c) :
    Completes ⟨n / 64, after + 1, low, high⟩ (utf8Tail n :: bs) c := by
  obtain ⟨lower, upper⟩ := within_utf8Tail lower upper
  have whole : n / 64 * 64 + ((utf8Tail n).toNat - 0x80) = n := by
    rw [toNat_utf8Tail]
    omega
  apply Completes.more lower upper
  rwa [whole]

end tails

/-- Past the second byte of a character every byte of bits will do. -/
theorem completes_tail (n : Nat) :
    Completes ⟨n / 64, 0, 0x80, 0xBF⟩ [utf8Tail n] (Char.ofNat n) := by
  have upper : n % 64 + 128 ≤ 191 := by omega
  exact completes_last (Nat.le_add_left 128 _) upper

/-- The bytes that a character is encoded in make it up. -/
theorem makesUp_utf8EncodeChar (c : Char) : MakesUp (String.utf8EncodeChar c) c := by
  have number : Char.ofNat c.val.toNat = c := Char.ofNat_toNat c
  have valid : c.val.toNat < 0xD800 ∨ 0xDFFF < c.val.toNat ∧ c.val.toNat < 0x110000 := c.valid
  unfold String.utf8EncodeChar
  generalize c.val.toNat = v at number valid
  rw [← number]
  dsimp only
  split
  · rename_i one
    have byte : (UInt8.ofNat v).toNat = v := by
      rw [UInt8.toNat_ofNat']
      omega
    apply MakesUp.whole
    rw [utf8Lead_eq, byte, if_pos (by omega)]
  · split
    · rename_i two
      obtain ⟨low, high, lead, lower, upper⟩ := opens_two (by omega) two
      exact .opens lead (completes_last lower upper)
    · split
      · rename_i three
        obtain ⟨low, high, lead, lower, upper⟩ := opens_three (by omega) three (by omega)
        apply MakesUp.opens lead
        apply completes_more lower upper
        exact completes_tail v
      · obtain ⟨low, high, lead, lower, upper⟩ := opens_four (v := v) (by omega) (by omega)
        have third : v / 64 % 64 + 128 ≤ 191 := by omega
        have bits : v / 4096 = v / 64 / 64 := by omega
        apply MakesUp.opens lead
        apply completes_more lower upper
        rw [bits]
        apply completes_more (Nat.le_add_left 128 _) third
        exact completes_tail v

/-- **One character.** Its bytes are read back as it is, whatever comes after them. -/
theorem decodeUtf8From_utf8EncodeChar (c : Char) (bs : List UInt8) :
    decodeUtf8From none (String.utf8EncodeChar c ++ bs) = c :: decodeUtf8From none bs :=
  decodeUtf8From_of_makesUp (makesUp_utf8EncodeChar c) bs

/-- **Texts are read back** from their bytes as they were. -/
theorem decodeUtf8_encodeUtf8 (s : String) : decodeUtf8 (encodeUtf8 s) = s := by
  have chars : ∀ cs : List Char,
      decodeUtf8From none (cs.flatMap String.utf8EncodeChar) = cs := by
    intro cs
    induction cs with
    | nil => rfl
    | cons c cs ih => rw [List.flatMap_cons, decodeUtf8From_utf8EncodeChar, ih]
  rw [decodeUtf8, encodeUtf8, chars, String.ofList_toList]

end TunnelControl.Text
