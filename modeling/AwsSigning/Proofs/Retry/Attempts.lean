/-
AwsSigning/Proofs/Retry/Attempts.lean

Which number of attempts a text spells.

An integer is written in decimal, and one integer can be written in many ways:
with or without a sign, with any number of zeros in front, and with white space
around all of it (`Spells`).  All of these ways are read, and no others
(`integer?_trim_eq_some_iff`):

    integer? (trim text) = some n  ↔  text spells n

The integer then has to fit twice, into 64 bits to count as an integer at all
and into 32 bits to be a number of attempts.  So what becomes of a text depends
on the integer alone:

    1 ≤ n ≤ 2³² - 1              the number
    any other n of 64 bits       out of range
    any n beyond 64 bits         no integer
    no n at all                  no integer

The third line says of an integer that it is none.  From each of the places
where a text may stand, the options take its number or fail as it does
(`classified_by_integer`).
-/
import AwsSigning.Proofs.Setting
import AwsSigning.Proofs.Text.Blank
import AwsSigning.Retry

namespace AwsSigning

namespace Attempts

variable {digits s sign : List Char} {c : Char} {n : Int}

/-! ### Digits -/

/-- What digits spell is their value in decimal. -/
theorem ofDigits?_eq_some_iff_value {n : Nat} :
    ofDigits? digits = some n ↔
      digits ≠ [] ∧ (∀ c ∈ digits, c.isDigit = true) ∧ Nat.ofDigitChars 10 digits 0 = n := by
  have hvalue : digits.foldl (fun n c => n * 10 + (c.toNat - 48)) 0
      = Nat.ofDigitChars 10 digits 0 := by
    rw [Nat.ofDigitChars_eq_foldl]
    simp only [Nat.mul_comm 10]
    rfl
  rw [ofDigits?, hvalue, Option.ite_none_right_eq_some, Option.some.injEq, List.all_eq_true,
    and_assoc]

theorem toNat_of_isDigit (h : c.isDigit = true) : 48 ≤ c.toNat ∧ c.toNat ≤ 57 :=
  Char.isDigit_iff_toNat.mp h

/-- A digit is the decimal text of its value. -/
theorem toDigits_of_isDigit (h : c.isDigit = true) :
    c.toNat - 48 < 10 ∧ Nat.toDigits 10 (c.toNat - 48) = [c] := by
  obtain ⟨hlow, hhigh⟩ := toNat_of_isDigit h
  have hlt : c.toNat - 48 < 10 := by omega
  have hsame : (c.toNat - 48).digitChar = c := by
    apply Char.toNat_inj.mp
    rw [Nat.toNat_digitChar_of_lt_ten hlt]
    omega
  exact ⟨hlt, by rw [Nat.toDigits_of_lt_base hlt, hsame]⟩

/-- Digits behind a number that is not zero are the further digits of its decimal text. -/
theorem toDigits_append {m : Nat} (hm : 0 < m) (h : ∀ c ∈ digits, c.isDigit = true) :
    Nat.toDigits 10 m ++ digits = Nat.toDigits 10 (Nat.ofDigitChars 10 digits m) := by
  induction digits generalizing m with
  | nil => rw [Nat.ofDigitChars_nil, List.append_nil]
  | cons c digits ih =>
    obtain ⟨hlt, hdigit⟩ := toDigits_of_isDigit (h c List.mem_cons_self)
    have hnext : 0 < 10 * m + (c.toNat - 48) := by omega
    calc Nat.toDigits 10 m ++ c :: digits
      _ = Nat.toDigits 10 m ++ Nat.toDigits 10 (c.toNat - 48) ++ digits := by
        rw [hdigit, List.append_assoc]
        rfl
      _ = Nat.toDigits 10 (10 * m + (c.toNat - 48)) ++ digits := by
        rw [Nat.toDigits_append_toDigits (by decide) hm hlt]
      _ = Nat.toDigits 10 (Nat.ofDigitChars 10 digits (10 * m + (c.toNat - 48))) :=
        ih hnext fun d hd => h d (List.mem_cons_of_mem c hd)
      _ = Nat.toDigits 10 (Nat.ofDigitChars 10 (c :: digits) m) := by
        rw [Nat.ofDigitChars_cons]
        rfl

/-- A number in decimal, behind zeros. -/
def numeral (zeros n : Nat) : List Char := List.replicate zeros '0' ++ Nat.toDigits 10 n

/-- Digits are their value in decimal, behind zeros. -/
theorem exists_eq_numeral (hne : digits ≠ []) (h : ∀ c ∈ digits, c.isDigit = true) :
    ∃ zeros, digits = numeral zeros (Nat.ofDigitChars 10 digits 0) := by
  induction digits with
  | nil => exact absurd rfl hne
  | cons c digits ih =>
    obtain ⟨-, hdigit⟩ := toDigits_of_isDigit (h c List.mem_cons_self)
    have hrest : ∀ d ∈ digits, d.isDigit = true := fun d hd => h d (List.mem_cons_of_mem c hd)
    have hvalue : Nat.ofDigitChars 10 (c :: digits) 0
        = Nat.ofDigitChars 10 digits (c.toNat - 48) := by
      rw [Nat.ofDigitChars_cons, Nat.mul_zero, Nat.zero_add]
      rfl
    rw [hvalue]
    by_cases hzero : c.toNat - 48 = 0
    · -- a zero in front, or the only digit
      rw [hzero] at hdigit ⊢
      obtain rfl : '0' = c := List.singleton_inj.mp hdigit
      by_cases hlast : digits = []
      · subst hlast
        exact ⟨0, rfl⟩
      · obtain ⟨zeros, hzeros⟩ := ih hlast hrest
        refine ⟨zeros + 1, ?_⟩
        rw [numeral, List.replicate_succ, List.cons_append]
        exact congrArg ('0' :: ·) hzeros
    · refine ⟨0, ?_⟩
      rw [numeral, ← toDigits_append (Nat.pos_of_ne_zero hzero) hrest, hdigit]
      rfl

theorem isDigit_of_mem_numeral {zeros m : Nat} (h : c ∈ numeral zeros m) : c.isDigit = true := by
  rcases List.mem_append.mp h with hzero | hdigit
  · rw [List.eq_of_mem_replicate hzero]
    rfl
  · exact Nat.isDigit_of_mem_toDigits (by decide) (Nat.le_refl 10) hdigit

/-- **Digits spell a number exactly if they are the number in decimal, behind zeros.** -/
theorem ofDigits?_eq_some_iff {m : Nat} :
    ofDigits? digits = some m ↔ ∃ zeros, digits = numeral zeros m := by
  rw [ofDigits?_eq_some_iff_value]
  constructor
  · rintro ⟨hne, hdigits, rfl⟩
    exact exists_eq_numeral hne hdigits
  · rintro ⟨zeros, rfl⟩
    refine ⟨List.append_ne_nil_of_right_ne_nil _ Nat.toDigits_ne_nil,
      fun c => isDigit_of_mem_numeral, ?_⟩
    rw [numeral, Nat.ofDigitChars_append, Nat.ofDigitChars_replicate_zero, Nat.mul_zero]
    exact Nat.ofDigitChars_toDigits (by decide) (Nat.le_refl 10)

/-! ### Signs -/

/-- The signs with which an integer may be written; zero may have either. -/
inductive IsSign (n : Int) : List Char → Prop
  | none (h : 0 ≤ n) : IsSign n []
  | plus (h : 0 ≤ n) : IsSign n ['+']
  | minus (h : n ≤ 0) : IsSign n ['-']

theorem integer?_plus (digits : List Char) :
    integer? ('+' :: digits) = (ofDigits? digits).map Int.ofNat := rfl

theorem integer?_minus (digits : List Char) :
    integer? ('-' :: digits) = (ofDigits? digits).map fun m => -Int.ofNat m := by
  show Option.map (fun m : Int => -m) ((ofDigits? digits).bind _) = _
  rcases ofDigits? digits with - | m <;> rfl

theorem integer?_of_unsigned (hplus : s.head? ≠ some '+') (hminus : s.head? ≠ some '-') :
    integer? s = (ofDigits? s).map Int.ofNat := by
  unfold integer?
  split
  · exact absurd rfl hplus
  · exact absurd rfl hminus
  · rfl

/-- What is made of a number comes from the number in decimal, behind zeros. -/
theorem map_ofDigits?_eq_some_iff {f : Nat → Int} :
    (ofDigits? digits).map f = some n ↔ ∃ m zeros, digits = numeral zeros m ∧ f m = n := by
  rw [Option.map_eq_some_iff]
  constructor
  · rintro ⟨m, hm, hn⟩
    obtain ⟨zeros, hzeros⟩ := ofDigits?_eq_some_iff.mp hm
    exact ⟨m, zeros, hzeros, hn⟩
  · rintro ⟨m, zeros, hzeros, hn⟩
    exact ⟨m, ofDigits?_eq_some_iff.mpr ⟨zeros, hzeros⟩, hn⟩

/-- **An integer is read behind a sign or none, and from nothing else.** -/
theorem integer?_eq_some_iff :
    integer? s = some n ↔ ∃ sign zeros, IsSign n sign ∧ s = sign ++ numeral zeros n.natAbs := by
  constructor
  · intro h
    by_cases hplus : s.head? = some '+'
    · obtain ⟨digits, rfl⟩ := List.head?_eq_some_iff.mp hplus
      obtain ⟨m, zeros, rfl, rfl⟩ := map_ofDigits?_eq_some_iff.mp ((integer?_plus _).symm.trans h)
      exact ⟨['+'], zeros, .plus (Int.natCast_nonneg m), rfl⟩
    by_cases hminus : s.head? = some '-'
    · obtain ⟨digits, rfl⟩ := List.head?_eq_some_iff.mp hminus
      obtain ⟨m, zeros, rfl, rfl⟩ := map_ofDigits?_eq_some_iff.mp ((integer?_minus _).symm.trans h)
      refine ⟨['-'], zeros, .minus (by simp), ?_⟩
      rw [Int.natAbs_neg, Int.ofNat_eq_natCast, Int.natAbs_natCast]
      rfl
    · rw [integer?_of_unsigned hplus hminus] at h
      obtain ⟨m, zeros, rfl, rfl⟩ := map_ofDigits?_eq_some_iff.mp h
      exact ⟨[], zeros, .none (Int.natCast_nonneg m), rfl⟩
  · rintro ⟨sign, zeros, hsign, rfl⟩
    have hfirst : ∀ c, c.isDigit = false → (numeral zeros n.natAbs).head? ≠ some c := by
      intro c hc hhead
      rw [isDigit_of_mem_numeral (List.mem_of_mem_head? hhead)] at hc
      cases hc
    cases hsign with
    | none hn =>
      rw [List.nil_append, integer?_of_unsigned (hfirst '+' rfl) (hfirst '-' rfl),
        map_ofDigits?_eq_some_iff]
      exact ⟨n.natAbs, zeros, rfl, Int.natAbs_of_nonneg hn⟩
    | plus hn =>
      rw [List.singleton_append, integer?_plus, map_ofDigits?_eq_some_iff]
      exact ⟨n.natAbs, zeros, rfl, Int.natAbs_of_nonneg hn⟩
    | minus hn =>
      rw [List.singleton_append, integer?_minus, map_ofDigits?_eq_some_iff]
      have hneg : -(n.natAbs : Int) = n := by omega
      exact ⟨n.natAbs, zeros, rfl, hneg⟩

/-! ### White space -/

/-- The text is the integer, written in decimal with or without a sign, with any number of zeros in
front and with white space around it. -/
def Spells (text : String) (n : Int) : Prop :=
  ∃ front sign zeros back, Text.isBlankText front = true ∧ IsSign n sign ∧
    Text.isBlankText back = true ∧
    text.toList = front ++ (sign ++ numeral zeros n.natAbs) ++ back

theorem isBlank_of_mem_signed {zeros : Nat} (hsign : IsSign n sign)
    (h : c ∈ sign ++ numeral zeros n.natAbs) : Text.isBlank c = false := by
  rcases List.mem_append.mp h with hmem | hdigit
  · cases hsign with
    | none => cases hmem
    | plus =>
      rw [List.mem_singleton.mp hmem]
      rfl
    | minus =>
      rw [List.mem_singleton.mp hmem]
      rfl
  · obtain ⟨hlow, hhigh⟩ := toNat_of_isDigit (isDigit_of_mem_numeral hdigit)
    exact Text.isBlank_of_visible (by omega) (by omega)

/-- **What is read from a text is the integer that it spells.** -/
theorem integer?_trim_eq_some_iff {text : String} :
    integer? (Text.trim text.toList) = some n ↔ Spells text n := by
  rw [integer?_eq_some_iff]
  constructor
  · rintro ⟨sign, zeros, hsign, htrim⟩
    obtain ⟨front, back, htext, hfront, hback⟩ := Text.exists_trim text.toList
    rw [htrim] at htext
    exact ⟨front, sign, zeros, back, hfront, hsign, hback, htext⟩
  · rintro ⟨front, sign, zeros, back, hfront, hsign, hback, htext⟩
    have hinner : Text.trim (sign ++ numeral zeros n.natAbs) = sign ++ numeral zeros n.natAbs :=
      Text.trim_of_not_blank fun c hc => isBlank_of_mem_signed hsign hc
    refine ⟨sign, zeros, hsign, ?_⟩
    rw [htext, Text.trim_append_blank _ hback, Text.trim_append_of_blank hfront, hinner]

/-- No text spells two integers. -/
theorem Spells.unique {text : String} {m : Int} (hm : Spells text m) (hn : Spells text n) :
    m = n := by
  have hread := integer?_trim_eq_some_iff.mpr hm
  rw [integer?_trim_eq_some_iff.mpr hn] at hread
  exact (Option.some.inj hread).symm

/-! ### Widths -/

/-- The integer is one of 64 bits. -/
def Fits64 (n : Int) : Prop := -0x8000000000000000 ≤ n ∧ n < 0x8000000000000000

/-- The integer is a number of attempts. -/
def IsCount (n : Int) : Prop := 1 ≤ n ∧ n ≤ 4294967295

theorem IsCount.fits64 (h : IsCount n) : Fits64 n := by
  obtain ⟨hleast, hmost⟩ := h
  constructor <;> omega

variable {text : String}

/-- A text for an integer beyond 64 bits is read as no integer. -/
theorem integer64?_trim_eq_some_iff :
    integer64? (Text.trim text.toList) = some n ↔ Spells text n ∧ Fits64 n := by
  rw [integer64?, Option.filter_eq_some_iff, integer?_trim_eq_some_iff, Bool.and_eq_true,
    decide_eq_true_eq, decide_eq_true_eq]
  rfl

/-- What an integer of 64 bits is read as. -/
theorem read_of_fits64 (h : Spells text n) (hfits : Fits64 n) : read text =
    if n < 1 then .error (.setting (.attemptsTooFew n))
    else if n ≤ 0xFFFFFFFF then .ok n.toNat
    else .error (.setting (.attemptsTooMany n)) := by
  rw [read, integer64?_trim_eq_some_iff.mpr ⟨h, hfits⟩]

/-- Everything else is read as no integer. -/
theorem read_of_not_fits64 (h : ∀ n, Spells text n → ¬Fits64 n) :
    read text = .error (Error.setting (.notInteger text)).causedOutside := by
  rcases hread : integer64? (Text.trim text.toList) with - | n
  · rw [read, hread]
  · obtain ⟨hspells, hfits⟩ := integer64?_trim_eq_some_iff.mp hread
    exact absurd hfits (h n hspells)

/-- **A text is read as a number of attempts exactly if it spells one.** -/
theorem read_eq_ok_iff {count : Nat} :
    read text = .ok count ↔ Spells text count ∧ IsCount count := by
  constructor
  · intro h
    rw [read] at h
    split at h
    · cases h
    · next n hn =>
      split at h
      · cases h
      · next hlow =>
        split at h
        · next hhigh =>
          cases h
          rw [Int.toNat_of_nonneg (by omega)]
          exact ⟨(integer64?_trim_eq_some_iff.mp hn).1, Int.not_lt.mp hlow, hhigh⟩
        · cases h
  · rintro ⟨hspells, hcount⟩
    rw [read_of_fits64 hspells hcount.fits64, if_neg (Int.not_lt.mpr hcount.1), if_pos hcount.2]
    rfl

/-- The text is refused, for a reason of this kind. -/
def Refuses (text : String) (kind : ErrorKind) : Prop :=
  ∃ e, read text = .error e ∧ e.kind = kind

theorem refuses_of_fits64 (h : Spells text n) (hfits : Fits64 n) (hcount : ¬IsCount n) :
    Refuses text .valueOutOfRange := by
  unfold Refuses
  rw [read_of_fits64 h hfits]
  by_cases hlow : n < 1
  · rw [if_pos hlow]
    exact ⟨_, rfl, rfl⟩
  · have hhigh : ¬n ≤ 0xFFFFFFFF := fun hle => hcount ⟨Int.not_lt.mp hlow, hle⟩
    rw [if_neg hlow, if_neg hhigh]
    exact ⟨_, rfl, rfl⟩

theorem refuses_of_not_fits64 (h : ∀ n, Spells text n → ¬Fits64 n) :
    Refuses text .configInvalid :=
  ⟨_, read_of_not_fits64 h, rfl⟩

end Attempts

/-! ### Options -/

namespace RetryOptions

variable {p : Platform} {profile? : Option Section} {e : Error} {count : Nat} {text : String}
  {place : Setting.Place}

/-- Options whose number of attempts cannot be read fail for the reason of the text. -/
theorem exists_error_of_decides (h : Setting.maxAttempts.Decides p profile? place text)
    (hread : Attempts.read text = .error e) :
    ∃ e', resolve p profile? = .error e' ∧ e'.kind = e.kind := by
  obtain ⟨e', hfailed, hkind⟩ := h.exists_error hread
  refine ⟨e', ?_, hkind⟩
  rw [resolve, hfailed]
  rfl

/-- Options have the number of attempts that the text spells. -/
theorem exists_ok_of_decides (h : Setting.maxAttempts.Decides p profile? place text)
    (hread : Attempts.read text = .ok count) (hmode : ¬Setting.retryMode.Misspelt p profile?) :
    ∃ options, resolve p profile? = .ok options ∧ options.maxAttempts = count := by
  have hattempts : Setting.maxAttempts.resolve p profile? = .ok (some count) :=
    h.resolve_of_read hread
  obtain ⟨mode?, hfound⟩ := Setting.exists_resolve_of_not_misspelt hmode
  rw [resolve, hattempts, hfound]
  exact ⟨_, rfl, rfl⟩

end RetryOptions

namespace Attempts

/-- **The integer that a text spells decides what becomes of it.**  A number of attempts is read,
however it is written; another integer is out of range if it is one of 64 bits; and beyond them an
integer is taken for none.  From each of its places a text gives the options its number, or a
failure of the kind that it has itself. -/
theorem classified_by_integer (text : String) :
    (∀ n, Spells text n → IsCount n → read text = .ok n.toNat) ∧
    (∀ n, Spells text n → ¬IsCount n → Fits64 n → Refuses text .valueOutOfRange) ∧
    (∀ n, Spells text n → ¬Fits64 n → Refuses text .configInvalid) ∧
    ((∀ n, ¬Spells text n) → Refuses text .configInvalid) ∧
    ∀ p profile? place, Setting.maxAttempts.Decides p profile? place text →
      (∀ e, read text = .error e →
        ∃ e', RetryOptions.resolve p profile? = .error e' ∧ e'.kind = e.kind) ∧
      (∀ count, read text = .ok count → ¬Setting.retryMode.Misspelt p profile? →
        ∃ options, RetryOptions.resolve p profile? = .ok options ∧
          options.maxAttempts = count) := by
  refine ⟨?_, fun n hn hcount hfits => refuses_of_fits64 hn hfits hcount, ?_, ?_, ?_⟩
  · intro n hn hcount
    have hnonneg : 0 ≤ n := Int.le_trans (by decide) hcount.1
    rw [read_eq_ok_iff, Int.toNat_of_nonneg hnonneg]
    exact ⟨hn, hcount⟩
  · intro n hn hfits
    refine refuses_of_not_fits64 fun m hm => ?_
    rwa [hm.unique hn]
  · exact fun hnone => refuses_of_not_fits64 fun n hn => absurd hn (hnone n)
  · intro p profile? place hdecides
    exact ⟨fun e => RetryOptions.exists_error_of_decides hdecides,
      fun count => RetryOptions.exists_ok_of_decides hdecides⟩

/-- A profile that says how many attempts to make. -/
def attemptsProfile (text : String) : Section :=
  { name := "default", properties := [("max_attempts", text)] }

/-- Seven may be written with a sign, zeros and white space; one more than the most is refused. -/
theorem classified_by_integer_seven :
    (∃ options, RetryOptions.resolve { now := ⟨0, 0⟩ } (some (attemptsProfile " +007\n"))
      = .ok options ∧ options.maxAttempts = 7) ∧
    Refuses "4294967296" .valueOutOfRange := by
  constructor
  · obtain ⟨hcounts, -, -, -, hpasses⟩ := classified_by_integer " +007\n"
    have hspells : Spells " +007\n" 7 :=
      ⟨[' '], ['+'], 2, ['\n'], rfl, .plus (by decide), rfl, by decide⟩
    have hread : read " +007\n" = .ok 7 := hcounts 7 hspells ⟨by decide, by decide⟩
    have hdecides : Setting.maxAttempts.Decides { now := ⟨0, 0⟩ }
        (some (attemptsProfile " +007\n")) .profile " +007\n" :=
      Setting.decides_profile rfl rfl rfl
    refine (hpasses _ _ _ hdecides).2 7 hread fun hmisspelt => ?_
    exact hmisspelt.resolve_ne_ok none rfl
  · obtain ⟨-, hrefused, -⟩ := classified_by_integer "4294967296"
    have hspells : Spells "4294967296" 4294967296 :=
      ⟨[], [], 0, [], rfl, .none (by decide), rfl, by decide⟩
    exact hrefused 4294967296 hspells (fun h => absurd h.2 (by decide)) ⟨by decide, by decide⟩

/-- The first integer beyond 64 bits is no number of attempts, and still it is not out of range. -/
theorem not_outOfRange_beyond64 :
    Spells "9223372036854775808" 9223372036854775808 ∧ ¬IsCount 9223372036854775808 ∧
      Refuses "9223372036854775808" .configInvalid ∧
      ¬Refuses "9223372036854775808" .valueOutOfRange := by
  have hspells : Spells "9223372036854775808" 9223372036854775808 :=
    ⟨[], [], 0, [], rfl, .none (by decide), rfl, by decide⟩
  have hread : read "9223372036854775808"
      = .error (Error.setting (.notInteger "9223372036854775808")).causedOutside := by
    apply read_of_not_fits64
    intro n hn
    rw [hn.unique hspells]
    exact fun hfits => absurd hfits.2 (Int.lt_irrefl _)
  refine ⟨hspells, fun hcount => absurd hcount.2 (by decide), ⟨_, hread, rfl⟩, ?_⟩
  rintro ⟨e, he, hkind⟩
  rw [hread] at he
  cases he
  cases hkind

end Attempts

end AwsSigning
