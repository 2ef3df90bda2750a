import Mathlib.Algebra.Group.Nat.Defs
import TunnelControl.Proofs.Text.Utf8

/-!
# Reading any bytes

Bytes that are no UTF-8 are read all the same. Where no character starts, the longest part that
could have become one is read as U+FFFD, or else a single byte is; then reading goes on after it.
`ReadsAs` says so of the bytes that characters are encoded in, without a decoder, and the decoder
reads all bytes in this way and in no other (`decodeUtf8_eq_iff`).
-/

namespace TunnelControl.Text

/-! ## What bytes are read as -/

/-- The bytes of some character start with these. -/
def Begins (bs : List UInt8) : Prop := ∃ c : Char, bs <+: String.utf8EncodeChar c

/-- The part at the start of bytes that is read as one replacement character. -/
structure IllFormed (part rest : List UInt8) : Prop where
  ne_nil : part ≠ []
  noCharacter : ∀ c : Char, ¬ String.utf8EncodeChar c <+: part ++ rest
  begun : part.length = 1 ∨ Begins part
  /-- It cannot be continued by the byte that comes next. -/
  broken : ∀ b bs, rest = b :: bs → ¬ Begins (part ++ [b])

/-- The bytes are read as these characters. -/
inductive ReadsAs : List UInt8 → List Char → Prop
  | nil : ReadsAs [] []
  | char (c : Char) {bs : List UInt8} {cs : List Char} (rest : ReadsAs bs cs) :
      ReadsAs (String.utf8EncodeChar c ++ bs) (c :: cs)
  | replaced {part bs : List UInt8} {cs : List Char} (illFormed : IllFormed part bs)
      (rest : ReadsAs bs cs) : ReadsAs (part ++ bs) (replacement :: cs)

/-- However much has been taken for the start of an ill-formed part, the part has an end. -/
theorem exists_illFormed {part rest : List UInt8} (ne_nil : part ≠ [])
    (noCharacter : ∀ c : Char, ¬ String.utf8EncodeChar c <+: part ++ rest)
    (begun : part.length = 1 ∨ Begins part) :
    ∃ whole after, part ++ rest = whole ++ after ∧ IllFormed whole after := by
  induction rest generalizing part with
  | nil => exact ⟨part, [], rfl, ne_nil, noCharacter, begun, nofun⟩
  | cons b rest ih =>
      by_cases goesOn : Begins (part ++ [b])
      · rw [List.append_cons] at noCharacter ⊢
        exact ih (List.concat_ne_nil _ _) noCharacter (Or.inr goesOn)
      · refine ⟨part, b :: rest, rfl, ne_nil, noCharacter, begun, ?_⟩
        rintro _ _ ⟨⟩
        exact goesOn

theorem exists_readsAs (bs : List UInt8) : ∃ cs, ReadsAs bs cs := by
  induction size : bs.length using Nat.strongRecOn generalizing bs with
  | _ n ih =>
      -- Whatever is read first has a byte at least.
      have shorter : ∀ part rest : List UInt8, part ≠ [] → bs = part ++ rest →
          rest.length < n := by
        intro part rest ne_nil split
        have := List.length_pos_iff.mpr ne_nil
        rw [split, List.length_append] at size
        omega
      by_cases starts : ∃ c : Char, String.utf8EncodeChar c <+: bs
      · obtain ⟨c, rest, split⟩ := starts
        obtain ⟨cs, reads⟩ := ih _ (shorter _ _ String.utf8EncodeChar_ne_nil split.symm) rest rfl
        rw [← split]
        exact ⟨c :: cs, .char c reads⟩
      · cases bs with
        | nil => exact ⟨[], .nil⟩
        | cons b bs =>
            have noCharacter : ∀ c : Char, ¬ String.utf8EncodeChar c <+: [b] ++ bs :=
              fun c h => starts ⟨c, h⟩
            obtain ⟨part, rest, split, illFormed⟩ :=
              exists_illFormed (List.cons_ne_nil _ _) noCharacter (Or.inl rfl)
            have split : b :: bs = part ++ rest := split
            obtain ⟨cs, reads⟩ := ih _ (shorter _ _ illFormed.ne_nil split) rest rfl
            rw [split]
            exact ⟨replacement :: cs, .replaced illFormed reads⟩

/-! ## Only a character is made up

The bytes after the first one give back the number, so they are those it is encoded in. -/

/-- The bytes of a number from its second one on, if that many come after the second. -/
def utf8Tails : Nat → Nat → List UInt8
  | 0, v => [utf8Tail v]
  | n + 1, v => utf8Tail (v / 64 ^ (n + 1)) :: utf8Tails n v

theorem eq_utf8Tail {b : UInt8} {value v : Nat} (lower : 0x80 ≤ b) (upper : b ≤ 0xBF)
    (number : value * 64 + (b.toNat - 0x80) = v) : b = utf8Tail v ∧ value = v / 64 := by
  have lower : 128 ≤ b.toNat := UInt8.le_iff_toNat_le.mp lower
  have upper : b.toNat ≤ 191 := UInt8.le_iff_toNat_le.mp upper
  rw [← UInt8.toNat_inj, toNat_utf8Tail]
  change value * 64 + (b.toNat - 128) = v at number
  omega

theorem Completes.exists_number {p : Utf8Pending} {bs : List UInt8} {c : Char}
    (completes : Completes p bs c) (low : 0x80 ≤ p.low) (high : p.high ≤ 0xBF) :
    ∃ v, c = Char.ofNat v ∧ bs = utf8Tails p.after v ∧ p.value = v / 64 ^ (p.after + 1) ∧
      p.low ≤ utf8Tail (v / 64 ^ p.after) ∧ utf8Tail (v / 64 ^ p.after) ≤ p.high := by
  induction completes with
  | @last value low' high' b lower upper =>
      generalize number : value * 64 + (b.toNat - 0x80) = v
      obtain ⟨rfl, above⟩ :=
        eq_utf8Tail (UInt8.le_trans low lower) (UInt8.le_trans upper high) number
      refine ⟨v, rfl, rfl, above, ?_⟩
      show low' ≤ utf8Tail (v / 64 ^ 0) ∧ utf8Tail (v / 64 ^ 0) ≤ high'
      rw [Nat.pow_zero, Nat.div_one]
      exact ⟨lower, upper⟩
  | @more value n low' high' b bs c lower upper rest ih =>
      obtain ⟨v, char, rfl, number, -⟩ := ih (UInt8.le_refl _) (UInt8.le_refl _)
      have number : value * 64 + (b.toNat - 0x80) = v / 64 ^ (n + 1) := number
      obtain ⟨rfl, above⟩ :=
        eq_utf8Tail (UInt8.le_trans low lower) (UInt8.le_trans upper high) number
      have above : value = v / 64 ^ (n + 1 + 1) := by
        rw [above, Nat.div_div_eq_div_mul, ← Nat.pow_succ]
      exact ⟨v, char, rfl, above, lower, upper⟩

/-- What a first byte opens, by its range. -/
theorem pending_cases {b : UInt8} {p : Utf8Pending} (lead : utf8Lead b = .opens p) :
    194 ≤ b.toNat ∧ b.toNat < 224 ∧ p = ⟨b.toNat - 192, 0, 0x80, 0xBF⟩ ∨
    b.toNat = 224 ∧ p = ⟨0, 1, 0xA0, 0xBF⟩ ∨
    b.toNat = 237 ∧ p = ⟨13, 1, 0x80, 0x9F⟩ ∨
    225 ≤ b.toNat ∧ b.toNat < 240 ∧ b.toNat ≠ 237 ∧ p = ⟨b.toNat - 224, 1, 0x80, 0xBF⟩ ∨
    b.toNat = 240 ∧ p = ⟨0, 2, 0x90, 0xBF⟩ ∨
    241 ≤ b.toNat ∧ b.toNat < 244 ∧ p = ⟨b.toNat - 240, 2, 0x80, 0xBF⟩ ∨
    b.toNat = 244 ∧ p = ⟨4, 2, 0x80, 0x8F⟩ := by
  have pending {q : Utf8Pending} (same : Utf8Lead.opens q = .opens p) : p = q :=
    (Utf8Lead.opens.inj same).symm
  rw [utf8Lead_eq] at lead
  split at lead
  case isTrue => cases lead
  split at lead
  case isTrue => cases lead
  split at lead
  case isTrue most => exact Or.inl ⟨by omega, most, pending lead⟩
  right
  split at lead
  case isTrue byte => exact Or.inl ⟨byte, pending lead⟩
  right
  split at lead
  case isTrue byte => exact Or.inl ⟨byte, pending lead⟩
  right
  split at lead
  case isTrue most => exact Or.inl ⟨by omega, most, by assumption, pending lead⟩
  right
  split at lead
  case isTrue byte => exact Or.inl ⟨byte, pending lead⟩
  right
  split at lead
  case isTrue most => exact Or.inl ⟨by omega, most, pending lead⟩
  right
  split at lead
  case isTrue byte => exact ⟨byte, pending lead⟩
  case isFalse => cases lead

theorem range_of_opens {b : UInt8} {p : Utf8Pending} (lead : utf8Lead b = .opens p) :
    0x80 ≤ p.low ∧ p.low ≤ p.high ∧ p.high ≤ 0xBF := by
  rcases pending_cases lead with ⟨-, -, rfl⟩ | ⟨-, rfl⟩ | ⟨-, rfl⟩ | ⟨-, -, -, rfl⟩ | ⟨-, rfl⟩ |
    ⟨-, -, rfl⟩ | ⟨-, rfl⟩
  all_goals dsimp only
  all_goals decide

/-- A first byte lets through no number that is encoded in fewer bytes, no surrogate and nothing
beyond the last character. -/
theorem Opens.bounds {b : UInt8} {n after : Nat} (opens : Opens b n after) :
    (after = 0 ∧ 127 < n ∧ n ≤ 2047 ∧ b = .ofNat (n / 64 % 32 + 192)) ∨
    (after = 1 ∧ 31 < n ∧ n ≤ 1023 ∧ (n < 0x360 ∨ 0x37F < n) ∧
      b = .ofNat (n / 64 % 16 + 224)) ∨
    (after = 2 ∧ 15 < n ∧ n < 0x110 ∧ b = .ofNat (n / 64 % 8 + 240)) := by
  obtain ⟨low, high, lead, lower, upper⟩ := opens
  have small : b.toNat < 256 := b.toNat_lt
  simp only [← UInt8.toNat_inj, UInt8.toNat_ofNat']
  rcases pending_cases lead with ⟨first, last, same⟩ | ⟨byte, same⟩ | ⟨byte, same⟩ |
    ⟨first, last, other, same⟩ | ⟨byte, same⟩ | ⟨first, last, same⟩ | ⟨byte, same⟩
  all_goals obtain ⟨value, rfl, rfl, rfl⟩ := Utf8Pending.mk.inj same
  all_goals simp only [UInt8.reduceToNat] at lower upper
  all_goals omega

theorem toNat_val_ofNat {n : Nat} (valid : n < 0xD800 ∨ 0xDFFF < n ∧ n < 0x110000) :
    (Char.ofNat n).val.toNat = n := by
  have valid : n.isValidChar := valid
  rw [Char.ofNat, dif_pos valid]
  rfl

theorem utf8EncodeChar_of_makesUp {bs : List UInt8} {c : Char} (makes : MakesUp bs c) :
    String.utf8EncodeChar c = bs := by
  cases makes with
  | @whole b _ lead =>
      rw [utf8Lead_eq] at lead
      split at lead
      · rename_i small
        cases lead
        rw [String.utf8EncodeChar, toNat_val_ofNat (by omega), if_pos (by omega),
          UInt8.ofNat_toNat]
      · repeat' split at lead
        all_goals cases lead
  | @opens b p bs _ lead completes =>
      obtain ⟨low, -, high⟩ := range_of_opens lead
      obtain ⟨v, rfl, rfl, number, lower, upper⟩ := completes.exists_number low high
      obtain ⟨value, after, low', high'⟩ := p
      dsimp only at number lower upper ⊢
      have opens : Opens b (v / 64 ^ after) after := by
        rw [UInt8.le_iff_toNat_le, toNat_utf8Tail] at lower upper
        refine ⟨low', high', ?_, lower, upper⟩
        rw [lead, number, Nat.div_div_eq_div_mul, ← Nat.pow_succ]
      rcases opens.bounds with ⟨rfl, least, most, rfl⟩ | ⟨rfl, least, most, valid, rfl⟩ |
        ⟨rfl, least, most, rfl⟩
      · rw [Nat.pow_zero, Nat.div_one] at *
        rw [String.utf8EncodeChar, toNat_val_ofNat (by omega), if_neg (by omega),
          if_pos (by omega)]
        rfl
      · rw [Nat.pow_one] at *
        rw [String.utf8EncodeChar, toNat_val_ofNat (by omega), if_neg (by omega),
          if_neg (by omega), if_pos (by omega), Nat.div_div_eq_div_mul]
        rfl
      · rw [String.utf8EncodeChar, toNat_val_ofNat (by omega), if_neg (by omega),
          if_neg (by omega), if_neg (by omega), Nat.div_div_eq_div_mul]
        rfl

/-! ## What the decoder takes -/

/-- The bytes are the first of some that complete the pending character. -/
def Utf8Pending.Takes (p : Utf8Pending) (bs : List UInt8) : Prop :=
  ∃ c whole, Completes p whole c ∧ bs <+: whole

theorem exists_completes (n value : Nat) : ∃ bs c, Completes ⟨value, n, 0x80, 0xBF⟩ bs c := by
  have lower : (0x80 : UInt8) ≤ 0x80 := UInt8.le_refl _
  have upper : (0x80 : UInt8) ≤ 0xBF := by decide
  induction n generalizing value with
  | zero => exact ⟨_, _, .last lower upper⟩
  | succ n ih =>
      obtain ⟨bs, c, rest⟩ := ih _
      exact ⟨_, c, .more lower upper rest⟩

theorem takes_of_within {p : Utf8Pending} {b : UInt8} (lower : p.low ≤ b) (upper : b ≤ p.high) :
    p.Takes [b] := by
  obtain ⟨value, after, low, high⟩ := p
  cases after with
  | zero => exact ⟨_, _, .last lower upper, List.prefix_rfl⟩
  | succ n =>
      obtain ⟨bs, c, rest⟩ := exists_completes n (value * 64 + (b.toNat - 0x80))
      exact ⟨c, _, .more lower upper rest, bs, rfl⟩

theorem exists_makesUp_of_begins {b : UInt8} {bs : List UInt8} (begins : Begins (b :: bs)) :
    ∃ c rest, MakesUp (b :: rest) c ∧ bs <+: rest := by
  obtain ⟨c, starts⟩ := begins
  have makes := makesUp_utf8EncodeChar c
  obtain ⟨more, whole⟩ := starts
  rw [← whole] at makes
  exact ⟨c, bs ++ more, makes, List.prefix_append _ _⟩

/-- Bytes begin a character if its first one opens it and the others are taken. -/
theorem begins_cons_iff {b : UInt8} {bs : List UInt8} {p : Utf8Pending}
    (lead : utf8Lead b = .opens p) : Begins (b :: bs) ↔ p.Takes bs := by
  constructor
  · intro begins
    obtain ⟨c, rest, makes, starts⟩ := exists_makesUp_of_begins begins
    cases makes with
    | whole other =>
        rw [lead] at other
        cases other
    | opens other completes =>
        rw [lead] at other
        cases other
        exact ⟨c, rest, completes, starts⟩
  · rintro ⟨c, rest, completes, starts⟩
    refine ⟨c, ?_⟩
    rw [utf8EncodeChar_of_makesUp (.opens lead completes)]
    exact List.cons_prefix_cons.mpr ⟨rfl, starts⟩

/-- A pending character that is broken off is replaced, and the byte that it is broken off at is
read anew. -/
theorem decodeUtf8From_of_broken {p : Utf8Pending} {part rest : List UInt8}
    (takes : p.Takes part) (unfinished : ∀ bs c, Completes p bs c → ¬ bs <+: part)
    (broken : ∀ b bs, rest = b :: bs → ¬ p.Takes (part ++ [b])) :
    decodeUtf8From (some p) (part ++ rest) = replacement :: decodeUtf8From none rest := by
  induction part generalizing p with
  | nil =>
      cases rest with
      | nil => rfl
      | cons b bs =>
          have outside : ¬ (p.low ≤ b ∧ b ≤ p.high) := by
            rintro ⟨lower, upper⟩
            exact broken b bs rfl (takes_of_within lower upper)
          simp only [List.nil_append, decodeUtf8From, utf8Feed, if_neg outside, List.cons_append]
  | cons b part ih =>
      obtain ⟨c, whole, completes, starts⟩ := takes
      cases completes with
      | last lower upper =>
          obtain ⟨rfl, -⟩ := List.cons_prefix_cons.mp starts
          exact absurd ⟨part, rfl⟩ (unfinished _ _ (.last lower upper))
      | @more _ _ _ _ _ tail _ lower upper completes =>
          obtain ⟨rfl, begun⟩ := List.cons_prefix_cons.mp starts
          refine (decodeUtf8From_more _ _ lower upper (part ++ rest)).trans ?_
          refine ih ⟨c, tail, completes, begun⟩ ?_ ?_
          · intro bs c completes starts
            apply unfinished _ _ (.more lower upper completes)
            exact List.cons_prefix_cons.mpr ⟨rfl, starts⟩
          · rintro b' bs same ⟨c, whole, completes, starts⟩
            apply broken b' bs same
            exact ⟨c, _, .more lower upper completes, List.cons_prefix_cons.mpr ⟨rfl, starts⟩⟩

theorem decodeUtf8From_of_illFormed {part rest : List UInt8} (illFormed : IllFormed part rest) :
    decodeUtf8From none (part ++ rest) = replacement :: decodeUtf8From none rest := by
  obtain ⟨ne_nil, noCharacter, begun, broken⟩ := illFormed
  obtain ⟨b, part, rfl⟩ := List.exists_cons_of_ne_nil ne_nil
  cases lead : utf8Lead b with
  | whole c =>
      refine absurd ?_ (noCharacter c)
      rw [utf8EncodeChar_of_makesUp (.whole lead)]
      exact ⟨part ++ rest, rfl⟩
  | illFormed =>
      have single : part = [] := by
        rcases begun with one | begins
        · exact List.eq_nil_of_length_eq_zero (Nat.succ.inj one)
        · obtain ⟨c, bs, makes, -⟩ := exists_makesUp_of_begins begins
          cases makes with
          | whole other | opens other =>
              rw [lead] at other
              cases other
      rw [single]
      simp only [List.singleton_append, decodeUtf8From, utf8Feed, utf8Start, lead]
  | opens p =>
      refine (decodeUtf8From_lead lead (part ++ rest)).trans (decodeUtf8From_of_broken ?_ ?_ ?_)
      · rcases begun with one | begins
        · obtain rfl := List.eq_nil_of_length_eq_zero (Nat.succ.inj one)
          obtain ⟨-, nonempty, -⟩ := range_of_opens lead
          obtain ⟨c, whole, completes, -⟩ := takes_of_within (UInt8.le_refl _) nonempty
          exact ⟨c, whole, completes, List.nil_prefix⟩
        · exact (begins_cons_iff lead).mp begins
      · intro bs c completes starts
        apply noCharacter c
        rw [utf8EncodeChar_of_makesUp (.opens lead completes)]
        exact List.cons_prefix_cons.mpr ⟨rfl, starts.trans (List.prefix_append _ _)⟩
      · intro b' bs same takes
        exact broken b' bs same ((begins_cons_iff lead).mpr takes)

theorem ReadsAs.decodeUtf8From_eq {bs : List UInt8} {cs : List Char} (reads : ReadsAs bs cs) :
    decodeUtf8From none bs = cs := by
  induction reads with
  | nil => rfl
  | char c _ ih => rw [decodeUtf8From_utf8EncodeChar, ih]
  | replaced illFormed _ ih => rw [decodeUtf8From_of_illFormed illFormed, ih]

/-- **Any bytes are read.** The decoder reads them as the one text that they are read as: the
characters that are there, and U+FFFD for every ill-formed part. -/
theorem decodeUtf8_eq_iff {bs : List UInt8} {s : String} :
    decodeUtf8 bs = s ↔ ReadsAs bs s.toList := by
  obtain ⟨cs, reads⟩ := exists_readsAs bs
  have text : decodeUtf8 bs = String.ofList cs := congrArg String.ofList reads.decodeUtf8From_eq
  constructor
  · rintro rfl
    rwa [text, String.toList_ofList]
  · intro other
    rw [text, ← reads.decodeUtf8From_eq, other.decodeUtf8From_eq, String.ofList_toList]

/-- A character that breaks off, a byte that starts none, and an overlong form of `/`. -/
example : decodeUtf8 [0x61, 0xE2, 0x82, 0x62, 0xFF, 0xC0, 0xAF] =
    String.ofList ['a', replacement, 'b', replacement, replacement, replacement] := by decide

end TunnelControl.Text
