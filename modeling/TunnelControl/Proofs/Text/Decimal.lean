import TunnelControl.Proofs.Text.Blank
import TunnelControl.Text.Decimal

/-!
# Which texts are numbers

A number is written with ASCII digits, one at least, behind an optional sign. The readers accept
exactly the numbers of their range, with the value that the digits stand for
(`readInt32_eq_ok_iff`, `readUInt64_eq_ok_iff`), so what is written in decimal is read back.
-/

namespace TunnelControl.Text

/-- Digits that stand for a number. -/
structure IsMagnitude (cs : List Char) (n : Nat) : Prop where
  nonempty : cs ≠ []
  digits : ∀ c ∈ cs, c.isDigit = true
  value : Nat.ofDigitChars 10 cs 0 = n

/-- Digits with an optional sign of either kind. -/
inductive IsInteger : List Char → Int → Prop
  | unsigned {cs : List Char} {n : Nat} (h : IsMagnitude cs n) : IsInteger cs n
  | plus {cs : List Char} {n : Nat} (h : IsMagnitude cs n) : IsInteger ('+' :: cs) n
  | minus {cs : List Char} {n : Nat} (h : IsMagnitude cs n) : IsInteger ('-' :: cs) (-n)

/-- Digits with an optional plus sign. -/
inductive IsNatural : List Char → Nat → Prop
  | unsigned {cs : List Char} {n : Nat} (h : IsMagnitude cs n) : IsNatural cs n
  | plus {cs : List Char} {n : Nat} (h : IsMagnitude cs n) : IsNatural ('+' :: cs) n

/-! ## Digits -/

theorem digit?_eq (c : Char) :
    digit? c = if c.isDigit then some (c.toNat - '0'.toNat) else none := by
  simp only [digit?, Char.isDigit, Bool.and_eq_true, decide_eq_true_eq]
  rfl

/-- More digits make no number smaller. -/
theorem le_ofDigitChars (cs : List Char) (acc : Nat) : acc ≤ Nat.ofDigitChars 10 cs acc := by
  induction cs generalizing acc with
  | nil => simp [Nat.ofDigitChars]
  | cons c cs ih =>
      rw [Nat.ofDigitChars_cons]
      have more := ih (10 * acc + (c.toNat - '0'.toNat))
      omega

theorem readDigits_eq_ok_iff {limit acc n : Nat} {excess : DecimalFault} {cs : List Char}
    (within : acc ≤ limit) :
    readDigits limit excess acc cs = .ok n ↔
      (∀ c ∈ cs, c.isDigit = true) ∧ Nat.ofDigitChars 10 cs acc = n ∧ n ≤ limit := by
  induction cs generalizing acc with
  | nil =>
      simp only [readDigits, Nat.ofDigitChars, List.foldl_nil]
      constructor
      · rintro ⟨⟩
        exact ⟨by simp, rfl, within⟩
      · rintro ⟨-, rfl, -⟩
        rfl
  | cons c cs ih =>
      rw [readDigits, digit?_eq, Nat.ofDigitChars_cons, Nat.mul_comm 10]
      by_cases digit : c.isDigit
      · simp only [digit, if_true, List.forall_mem_cons, true_and]
        split
        · rename_i next
          exact ih next
        · rename_i beyond
          -- The value only grows from here.
          have least := le_ofDigitChars cs (acc * 10 + (c.toNat - '0'.toNat))
          constructor
          · rintro ⟨⟩
          · rintro ⟨-, rfl, upper⟩
            exact absurd (least.trans upper) beyond
      · simp [digit]

theorem readMagnitude_eq_ok_iff {limit n : Nat} {excess : DecimalFault} {cs : List Char} :
    readMagnitude limit excess cs = .ok n ↔ IsMagnitude cs n ∧ n ≤ limit := by
  cases cs with
  | nil =>
      constructor
      · rintro ⟨⟩
      · rintro ⟨magnitude, -⟩
        exact absurd rfl magnitude.nonempty
  | cons c cs =>
      rw [readMagnitude, readDigits_eq_ok_iff (Nat.zero_le limit)]
      constructor
      · rintro ⟨digits, value, upper⟩
        exact ⟨⟨List.cons_ne_nil c cs, digits, value⟩, upper⟩
      · rintro ⟨magnitude, upper⟩
        exact ⟨magnitude.digits, magnitude.value, upper⟩

/-- A sign is no digit. -/
theorem IsMagnitude.isDigit_head {c : Char} {cs : List Char} {n : Nat}
    (magnitude : IsMagnitude (c :: cs) n) : c.isDigit = true :=
  magnitude.digits c List.mem_cons_self

/-- There is no white space in digits. -/
theorem IsMagnitude.visible {cs : List Char} {n : Nat} (magnitude : IsMagnitude cs n) :
    ∀ c ∈ cs, isBlank c = false := by
  intro c mem
  have digit := magnitude.digits c mem
  simp only [Char.isDigit, Bool.and_eq_true, decide_eq_true_eq] at digit
  have lower : 48 ≤ c.toNat := UInt32.le_iff_toNat_le.mp digit.1
  have upper : c.toNat ≤ 57 := UInt32.le_iff_toNat_le.mp digit.2
  exact isBlank_of_ascii (by omega) (by omega)

/-! ## Signs -/

/-- A number is nothing but digits and a sign. -/
theorem IsInteger.visible {cs : List Char} {k : Int} (integer : IsInteger cs k) :
    cs ≠ [] ∧ ∀ c ∈ cs, isBlank c = false := by
  cases integer with
  | unsigned h => exact ⟨h.nonempty, h.visible⟩
  | plus h => exact ⟨List.cons_ne_nil _ _, List.forall_mem_cons.mpr ⟨by decide, h.visible⟩⟩
  | minus h => exact ⟨List.cons_ne_nil _ _, List.forall_mem_cons.mpr ⟨by decide, h.visible⟩⟩

theorem IsInteger.bare {s : String} {k : Int} (integer : IsInteger s.toList k) : Bare s := by
  obtain ⟨nonempty, visible⟩ := integer.visible
  refine bare_of_forall ?_ visible
  rintro rfl
  exact nonempty rfl

theorem isInteger_minus_iff {cs : List Char} {k : Int} :
    IsInteger ('-' :: cs) k ↔ ∃ n : Nat, IsMagnitude cs n ∧ k = -n := by
  constructor
  · rintro (h | h | h)
    · exact absurd h.isDigit_head (by decide)
    · exact ⟨_, h, rfl⟩
  · rintro ⟨n, h, rfl⟩
    exact .minus h

theorem isInteger_plus_iff {cs : List Char} {k : Int} :
    IsInteger ('+' :: cs) k ↔ ∃ n : Nat, IsMagnitude cs n ∧ k = n := by
  constructor
  · rintro (h | h | h)
    · exact absurd h.isDigit_head (by decide)
    · exact ⟨_, h, rfl⟩
  · rintro ⟨n, h, rfl⟩
    exact .plus h

theorem isInteger_unsigned_iff {cs : List Char} {k : Int} (minus : ∀ ds, cs ≠ '-' :: ds)
    (plus : ∀ ds, cs ≠ '+' :: ds) : IsInteger cs k ↔ ∃ n : Nat, IsMagnitude cs n ∧ k = n := by
  constructor
  · rintro (h | h | h)
    · exact ⟨_, h, rfl⟩
    · exact absurd rfl (plus _)
    · exact absurd rfl (minus _)
  · rintro ⟨n, h, rfl⟩
    exact .unsigned h

/-! ## Numbers of a fixed width -/

theorem int32_bounds (k : Int32) : -0x80000000 ≤ k.toInt ∧ k.toInt ≤ 0x7FFFFFFF := by
  have lower := k.minValue_le_toInt
  have upper := k.toInt_lt
  simp at lower upper
  omega

theorem toInt_ofInt {m : Int} (lower : -0x80000000 ≤ m) (upper : m ≤ 0x7FFFFFFF) :
    (Int32.ofInt m).toInt = m :=
  Int32.toInt_ofInt_of_le lower (by omega)

theorem map_readMagnitude_eq_ok_iff {limit : Nat} {excess : DecimalFault} {cs : List Char}
    {f : Int → Int32} {k : Int32} :
    Except.map f (do let n ← readMagnitude limit excess cs; pure (n : Int)) = .ok k ↔
      ∃ n : Nat, IsMagnitude cs n ∧ n ≤ limit ∧ f n = k := by
  constructor
  · intro read
    cases made : readMagnitude limit excess cs with
    | error fault =>
        rw [made] at read
        cases read
    | ok n =>
        rw [made] at read
        obtain ⟨magnitude, upper⟩ := readMagnitude_eq_ok_iff.mp made
        exact ⟨n, magnitude, upper, Except.ok.inj read⟩
  · rintro ⟨n, magnitude, upper, rfl⟩
    rw [readMagnitude_eq_ok_iff.mpr ⟨magnitude, upper⟩]
    rfl

/-- The reader of signed numbers accepts the numbers of its range, each for what it is. -/
theorem readInt32_eq_ok_iff {cs : List Char} {k : Int32} :
    readInt32 cs = .ok k ↔ IsInteger cs k.toInt := by
  have bounds := int32_bounds k
  have positive {ds : List Char} :
      Except.map (fun n => Int32.ofInt n)
          (do let n ← readMagnitude 0x7FFFFFFF .tooLarge ds; pure (n : Int)) = .ok k ↔
        ∃ n : Nat, IsMagnitude ds n ∧ k.toInt = n := by
    rw [map_readMagnitude_eq_ok_iff]
    constructor
    · rintro ⟨n, magnitude, upper, rfl⟩
      exact ⟨n, magnitude, toInt_ofInt (by omega) (by omega)⟩
    · rintro ⟨n, magnitude, value⟩
      exact ⟨n, magnitude, by omega, by rw [← value, Int32.ofInt_toInt]⟩
  unfold readInt32
  split
  · rw [isInteger_minus_iff, map_readMagnitude_eq_ok_iff]
    constructor
    · rintro ⟨n, magnitude, upper, rfl⟩
      exact ⟨n, magnitude, toInt_ofInt (by omega) (by omega)⟩
    · rintro ⟨n, magnitude, value⟩
      exact ⟨n, magnitude, by omega, by rw [← value, Int32.ofInt_toInt]⟩
  · rw [isInteger_plus_iff, positive]
  · rename_i minus plus
    rw [isInteger_unsigned_iff minus plus, positive]

theorem readNat_eq_ok_iff {limit n : Nat} {cs : List Char} :
    readNat limit cs = .ok n ↔ IsNatural cs n ∧ n ≤ limit := by
  unfold readNat
  split
  · rw [readMagnitude_eq_ok_iff]
    constructor
    · rintro ⟨magnitude, upper⟩
      exact ⟨.plus magnitude, upper⟩
    · rintro ⟨h | h, upper⟩
      · exact absurd h.isDigit_head (by decide)
      · exact ⟨h, upper⟩
  · rename_i unsigned
    rw [readMagnitude_eq_ok_iff]
    constructor
    · rintro ⟨magnitude, upper⟩
      exact ⟨.unsigned magnitude, upper⟩
    · rintro ⟨h | h, upper⟩
      · exact ⟨h, upper⟩
      · exact absurd rfl (unsigned _)

/-- The reader of unsigned numbers accepts the numbers of its range, each for what it is. -/
theorem readUInt64_eq_ok_iff {cs : List Char} {k : UInt64} :
    readUInt64 cs = .ok k ↔ IsNatural cs k.toNat := by
  constructor
  · intro read
    unfold readUInt64 at read
    cases made : readNat 0xFFFFFFFFFFFFFFFF cs with
    | error fault =>
        rw [made] at read
        cases read
    | ok n =>
        rw [made] at read
        cases read
        obtain ⟨natural, upper⟩ := readNat_eq_ok_iff.mp made
        rwa [UInt64.toNat_ofNat_of_lt' (Nat.lt_succ_of_le upper)]
  · intro natural
    have within := k.toNat_lt
    rw [readUInt64, readNat_eq_ok_iff.mpr ⟨natural, by omega⟩, Except.map, UInt64.ofNat_toNat]

/-! ## Written numbers -/

theorem isMagnitude_toDigits (n : Nat) : IsMagnitude (Nat.toDigits 10 n) n where
  nonempty := Nat.toDigits_ne_nil
  digits _ mem := Nat.isDigit_of_mem_toDigits (by decide) (by decide) mem
  value := Nat.ofDigitChars_ten_toDigits

theorem toList_decimal_ofNat (n : Nat) : (decimal n).toList = Nat.toDigits 10 n := by
  change (Nat.repr n).toList = _
  rw [Nat.toList_repr]

theorem toList_decimal_negSucc (n : Nat) :
    (decimal (Int.negSucc n)).toList = '-' :: Nat.toDigits 10 (n + 1) := by
  change ("-" ++ Nat.repr (n + 1)).toList = _
  rw [String.toList_append, Nat.toList_repr]
  rfl

theorem isInteger_decimal (k : Int) : IsInteger (decimal k).toList k := by
  cases k with
  | ofNat n =>
      have digits := toList_decimal_ofNat n
      rw [Int.ofNat_eq_natCast, digits]
      exact .unsigned (isMagnitude_toDigits n)
  | negSucc n =>
      rw [toList_decimal_negSucc]
      exact .minus (isMagnitude_toDigits (n + 1))

theorem isNatural_decimal (n : Nat) : IsNatural (decimal n).toList n := by
  rw [toList_decimal_ofNat]
  exact .unsigned (isMagnitude_toDigits n)

end TunnelControl.Text
