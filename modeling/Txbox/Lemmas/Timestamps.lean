import Txbox.Chrono
import Mathlib.Data.String.Basic

/-!
# Text timestamps

The RFC 3339 text of an instant orders byte by byte as the instants do: first the calendar, then the fields of fixed width, then the
fraction with its four lengths.
-/

namespace Txbox

/-! ## The calendar -/

/-- The parts of a March year: the 400 years, the century, the four years and the year that a day is in. -/
theorem marchYear_parts (days : Int) : ∃ c q t : Int, marchYear days = 400 * (days / 146097) + 100 * c + 4 * q + t ∧
    (0 ≤ c ∧ c ≤ 3) ∧ (0 ≤ q ∧ q ≤ 24) ∧ (0 ≤ t ∧ t ≤ 3) ∧ 36524 * c + 1461 * q + 365 * t ≤ days % 146097 ∧
    (t < 3 → days % 146097 < 36524 * c + 1461 * q + 365 * (t + 1)) ∧
    (q < 24 → days % 146097 < 36524 * c + 1461 * (q + 1)) ∧ (c < 3 → days % 146097 < 36524 * (c + 1)) := by
  refine ⟨_, _, _, rfl, ?_⟩
  omega

/-- The days before a year, by its parts. -/
theorem daysBeforeYear_parts {e c q t : Int} (hc : 0 ≤ c ∧ c ≤ 3) (hq : 0 ≤ q ∧ q ≤ 24) (ht : 0 ≤ t ∧ t ≤ 3) :
    daysBeforeYear (400 * e + 100 * c + 4 * q + t) = 146097 * e + 36524 * c + 1461 * q + 365 * t := by
  unfold daysBeforeYear
  omega

/-- The days before the next year: the next of the four, of the century or of the 400 years. -/
theorem daysBeforeYear_succ_parts {e c q t r : Int} (hc : 0 ≤ c ∧ c ≤ 3) (hq : 0 ≤ q ∧ q ≤ 24) (ht : 0 ≤ t ∧ t ≤ 3)
    (hr : r < 146097) (h1 : t < 3 → r < 36524 * c + 1461 * q + 365 * (t + 1)) (h2 : q < 24 → r < 36524 * c + 1461 * (q + 1))
    (h3 : c < 3 → r < 36524 * (c + 1)) : 146097 * e + r < daysBeforeYear (400 * e + 100 * c + 4 * q + t + 1) := by
  by_cases ht3 : t < 3
  · have hnext : 400 * e + 100 * c + 4 * q + t + 1 = 400 * e + 100 * c + 4 * q + (t + 1) := by omega
    rw [hnext, daysBeforeYear_parts hc hq (by omega)]
    omega
  · by_cases hq24 : q < 24
    · have hnext : 400 * e + 100 * c + 4 * q + t + 1 = 400 * e + 100 * c + 4 * (q + 1) + 0 := by omega
      rw [hnext, daysBeforeYear_parts hc (by omega) (by omega)]
      omega
    · by_cases hc3 : c < 3
      · have hnext : 400 * e + 100 * c + 4 * q + t + 1 = 400 * e + 100 * (c + 1) + 4 * 0 + 0 := by omega
        rw [hnext, daysBeforeYear_parts (by omega) (by omega) (by omega)]
        omega
      · have hnext : 400 * e + 100 * c + 4 * q + t + 1 = 400 * (e + 1) + 100 * 0 + 4 * 0 + 0 := by omega
        rw [hnext, daysBeforeYear_parts (by omega) (by omega) (by omega)]
        omega

/-- A day is in the year that `marchYear` names. -/
theorem marchYear_spec (days : Int) :
    daysBeforeYear (marchYear days) ≤ days ∧ days < daysBeforeYear (marchYear days + 1) := by
  obtain ⟨c, q, t, hy, hc, hq, ht, hle, h1, h2, h3⟩ := marchYear_parts days
  have hdays : 146097 * (days / 146097) + days % 146097 = days := by omega
  have hlt := @daysBeforeYear_succ_parts (days / 146097) c q t _ hc hq ht (by omega) h1 h2 h3
  rw [hy]
  refine ⟨?_, by omega⟩
  rw [daysBeforeYear_parts hc hq ht]
  omega

/-- Later years begin later. -/
theorem daysBeforeYear_mono {a b : Int} (h : a ≤ b) : daysBeforeYear a ≤ daysBeforeYear b := by
  unfold daysBeforeYear
  omega

/-- A year has at most 366 days. -/
theorem daysBeforeYear_succ_le (a : Int) : daysBeforeYear (a + 1) ≤ daysBeforeYear a + 366 := by
  unfold daysBeforeYear
  omega

/-- The March year, the March month and the day of a date. -/
structure DateParts (days : Int) (date : Civil) (year month : Int) : Prop where
  months : 12 * date.year + date.month = 12 * year + month + 3
  month_range : 1 ≤ date.month ∧ date.month ≤ 12
  march_range : 0 ≤ month ∧ month ≤ 11
  day_range : 1 ≤ date.day ∧ date.day ≤ 31
  in_year : daysBeforeYear year ≤ days + 719468 ∧ days + 719468 < daysBeforeYear (year + 1)
  day_eq : days + 719468 = daysBeforeYear year + daysBeforeMonth month + date.day - 1
  in_month : date.day ≤ daysBeforeMonth (month + 1) - daysBeforeMonth month

/-- The parts of the date of a day. -/
theorem dateParts_civilFromDays (days : Int) : ∃ year month, DateParts days (civilFromDays days) year month := by
  have hyear := marchYear_spec (days + 719468)
  have hlen := daysBeforeYear_succ_le (marchYear (days + 719468))
  generalize hy : marchYear (days + 719468) = y at hyear hlen
  generalize hd : days + 719468 - daysBeforeYear y = d
  have hmonth : 0 ≤ (5 * d + 2) / 153 ∧ (5 * d + 2) / 153 ≤ 11 ∧ daysBeforeMonth ((5 * d + 2) / 153) ≤ d ∧
      d < daysBeforeMonth ((5 * d + 2) / 153 + 1) ∧
      daysBeforeMonth ((5 * d + 2) / 153 + 1) ≤ daysBeforeMonth ((5 * d + 2) / 153) + 31 := by
    unfold daysBeforeMonth
    omega
  have hcivil : civilFromDays days = if (5 * d + 2) / 153 < 10
      then ⟨y, (5 * d + 2) / 153 + 3, d - daysBeforeMonth ((5 * d + 2) / 153) + 1⟩
      else ⟨y + 1, (5 * d + 2) / 153 - 9, d - daysBeforeMonth ((5 * d + 2) / 153) + 1⟩ := by
    rw [← hd, ← hy]
    rfl
  generalize (5 * d + 2) / 153 = m at hmonth hcivil
  refine ⟨y, m, ?_⟩
  rw [hcivil]
  split <;> exact {
      months := by dsimp only; omega
      month_range := by dsimp only; omega
      march_range := by omega
      day_range := by dsimp only; omega
      in_year := hyear
      day_eq := by dsimp only; omega
      in_month := by dsimp only; omega }

/-- The months of a year are in order. -/
theorem daysBeforeMonth_mono {a b : Int} (h : a ≤ b) : daysBeforeMonth a ≤ daysBeforeMonth b := by
  unfold daysBeforeMonth
  omega

/-- A date is before another by its year, then its month, then its day. -/
def Civil.Before (a b : Civil) : Prop :=
  a.year < b.year ∨ a.year = b.year ∧ (a.month < b.month ∨ a.month = b.month ∧ a.day < b.day)

/-- A later day has a later date. -/
theorem before_of_lt {days days' : Int} (h : days < days') : (civilFromDays days).Before (civilFromDays days') := by
  obtain ⟨y, m, p⟩ := dateParts_civilFromDays days
  obtain ⟨y', m', p'⟩ := dateParts_civilFromDays days'
  have hm := p.months
  have hm' := p'.months
  have hr := p.month_range
  have hr' := p'.month_range
  have hmarch := p.march_range
  have hmarch' := p'.march_range
  have hin := p.in_year
  have hin' := p'.in_year
  have hday := p.day_eq
  have hday' := p'.day_eq
  have hrange := p.day_range
  have hlen' := p'.in_month
  have hyear : y ≤ y' := by
    by_contra hlt
    have hmono := @daysBeforeYear_mono (y' + 1) y (by omega)
    omega
  unfold Civil.Before
  by_cases hy : y = y'
  · subst hy
    have hmonth : m ≤ m' := by
      by_contra hlt
      have hmono := @daysBeforeMonth_mono (m' + 1) m (by omega)
      omega
    by_cases hmm : m = m'
    · subst hmm
      omega
    · omega
  · omega

/-- The dates are in the order of the days. -/
theorem before_iff (days days' : Int) : (civilFromDays days).Before (civilFromDays days') ↔ days < days' := by
  constructor
  · intro h
    rcases lt_trichotomy days days' with hlt | heq | hgt
    · exact hlt
    · subst heq
      unfold Civil.Before at h
      omega
    · have h' := before_of_lt hgt
      unfold Civil.Before at h h'
      omega
  · exact before_of_lt

/-! ## Characters and bytes -/

/-- The code points of characters. -/
def codes (l : List Char) : List Nat := l.map Char.toNat

@[simp] theorem codes_nil : codes [] = [] := rfl

@[simp] theorem codes_cons (c : Char) (l : List Char) : codes (c :: l) = c.toNat :: codes l := rfl

@[simp] theorem codes_append (l l' : List Char) : codes (l ++ l') = codes l ++ codes l' := List.map_append

@[simp] theorem length_codes (l : List Char) : (codes l).length = l.length := List.length_map ..

/-- All characters are ASCII. -/
def Ascii (l : List Char) : Prop := ∀ c ∈ l, c.toNat < 128

theorem Ascii.append {l l' : List Char} (h : Ascii l) (h' : Ascii l') : Ascii (l ++ l') := by
  intro c hc
  rcases List.mem_append.1 hc with hc | hc
  · exact h c hc
  · exact h' c hc

theorem Ascii.cons {c : Char} {l : List Char} (h : c.toNat < 128) (h' : Ascii l) : Ascii (c :: l) := by
  intro x hx
  rcases List.mem_cons.1 hx with rfl | hx
  · exact h
  · exact h' x hx

/-- An ASCII character is one byte, its code point. -/
theorem utf8EncodeChar_ascii {c : Char} (h : c.toNat < 128) : (String.utf8EncodeChar c).map UInt8.toNat = [c.toNat] := by
  have hsize : c.utf8Size = 1 := by
    rw [Char.utf8Size, if_pos]
    exact Nat.lt_succ_iff.1 h
  rw [String.utf8EncodeChar_eq_singleton hsize, List.map_singleton, UInt32.toNat_toUInt8]
  have hmod : c.val.toNat % 2 ^ 8 = c.toNat := Nat.mod_eq_of_lt (by change c.toNat < 2 ^ 8; omega)
  rw [hmod]

/-- The bytes of an ASCII string are its code points. -/
theorem bytes_ofList {l : List Char} (h : Ascii l) : bytes (String.ofList l) = codes l := by
  have hdata : (String.ofList l).toByteArray.data.toList = l.flatMap String.utf8EncodeChar := by
    simp [String.toByteArray_ofList, List.utf8Encode]
  rw [bytes, hdata]
  induction l with
  | nil => rfl
  | cons c l ih =>
    have hl : Ascii l := fun x hx => h x (List.mem_cons_of_mem _ hx)
    have hdata' : (String.ofList l).toByteArray.data.toList = l.flatMap String.utf8EncodeChar := by
      simp [String.toByteArray_ofList, List.utf8Encode]
    rw [List.flatMap_cons, List.map_append, utf8EncodeChar_ascii (h c List.mem_cons_self), ih hl hdata']
    rfl

/-! ## Fields of fixed width -/

/-- Lists that begin with parts of one length compare by these parts first. -/
theorem append_lt_append_iff {p q r s : List Nat} (h : p.length = q.length) : p ++ r < q ++ s ↔ p < q ∨ p = q ∧ r < s := by
  induction p generalizing q with
  | nil =>
    cases q with
    | nil => simp
    | cons b q => simp at h
  | cons a p ih =>
    cases q with
    | nil => simp at h
    | cons b q =>
      have hlen : p.length = q.length := by simpa using h
      rw [List.cons_append, List.cons_append, List.cons_lt_cons_iff, List.cons_lt_cons_iff, ih hlen, List.cons.injEq]
      tauto

@[simp] theorem digit_toNat (n : Nat) : (digit n).toNat = 48 + n % 10 := by
  have hvalid : (48 + n % 10).isValidChar := Or.inl (by omega)
  rw [digit, Char.ofNat, dif_pos hvalid]
  rfl

@[simp] theorem length_padded (w n : Nat) : (padded w n).length = w := by
  induction w generalizing n with
  | zero => rfl
  | succ w ih => simp [padded, ih]

theorem ascii_padded (w n : Nat) : Ascii (padded w n) := by
  induction w generalizing n with
  | zero =>
    intro c hc
    simp [padded] at hc
  | succ w ih =>
    refine (ih (n / 10)).append ?_
    intro c hc
    rw [List.mem_singleton.1 hc, digit_toNat]
    omega

/-- The digits of a number in a field are in the order of the numbers that fit, and tell them apart. -/
theorem codes_padded (w : Nat) {n m : Nat} (hn : n < 10 ^ w) (hm : m < 10 ^ w) :
    (codes (padded w n) < codes (padded w m) ↔ n < m) ∧ (codes (padded w n) = codes (padded w m) ↔ n = m) := by
  induction w generalizing n m with
  | zero =>
    simp only [pow_zero, Nat.lt_one_iff] at hn hm
    simp [padded, hn, hm]
  | succ w ih =>
    rw [pow_succ] at hn hm
    have hdiv := @ih (n / 10) (m / 10) (by omega) (by omega)
    have hlen : (codes (padded w (n / 10))).length = (codes (padded w (m / 10))).length := by simp
    simp only [padded, codes_append, codes_cons, codes_nil, digit_toNat]
    constructor
    · rw [append_lt_append_iff hlen, hdiv.1, hdiv.2, List.cons_lt_cons_iff]
      simp only [List.lt_irrefl, and_false, or_false]
      omega
    · constructor
      · intro h
        obtain ⟨hinit, hlast⟩ := List.append_inj h hlen
        rw [hdiv.2] at hinit
        simp only [List.cons.injEq, and_true] at hlast
        omega
      · rintro rfl
        rfl

/-- A field compares before what follows it. -/
theorem codes_padded_append_lt_iff (w : Nat) {n m : Nat} (hn : n < 10 ^ w) (hm : m < 10 ^ w) (r s : List Char) :
    codes (padded w n ++ r) < codes (padded w m ++ s) ↔ n < m ∨ n = m ∧ codes r < codes s := by
  have hlen : (codes (padded w n)).length = (codes (padded w m)).length := by simp
  rw [codes_append, codes_append, append_lt_append_iff hlen, (codes_padded w hn hm).1, (codes_padded w hn hm).2]

/-- A separator compares equal. -/
theorem codes_cons_lt_iff (c : Char) (r s : List Char) : codes (c :: r) < codes (c :: s) ↔ codes r < codes s := by
  rw [codes_cons, codes_cons, List.cons_lt_cons_iff]
  simp

/-- A wide field is two narrow ones. -/
theorem padded_add (v w n : Nat) : padded (v + w) n = padded v (n / 10 ^ w) ++ padded w n := by
  induction w generalizing n with
  | zero => simp [padded]
  | succ w ih =>
    have hdiv : n / 10 / 10 ^ w = n / 10 ^ (w + 1) := by rw [Nat.div_div_eq_div_mul, pow_succ, Nat.mul_comm]
    rw [← Nat.add_assoc, padded, ih, hdiv, padded, List.append_assoc]

/-- Only the last digits of a number count. -/
theorem padded_mod (w n : Nat) : padded w (n % 10 ^ w) = padded w n := by
  induction w generalizing n with
  | zero => rfl
  | succ w ih =>
    have hdiv : n % 10 ^ (w + 1) / 10 = n / 10 % 10 ^ w := by
      rw [pow_succ, Nat.mul_comm, Nat.mod_mul_right_div_self]
    have hmod : n % 10 ^ (w + 1) % 10 = n % 10 := by
      rw [pow_succ, Nat.mul_comm, Nat.mod_mul_right_mod]
    rw [padded, padded, hdiv, ih, digit, digit, hmod]

/-! ## The fraction -/

/-- The offset, which follows the fraction. -/
def offsetText : List Char := "+00:00".toList

/-- A block of three digits and what follows, left out when everything in it is zero. -/
def block (n : Nat) (blank : Bool) (rest : List Char) : List Char :=
  if blank then offsetText else padded 3 n ++ rest

theorem codes_offsetText : codes offsetText = 43 :: codes "00:00".toList := rfl

/-- A field begins with a digit, which is after the `'+'` of the offset. -/
theorem codes_padded_succ (w n : Nat) : ∃ d l, codes (padded (w + 1) n) = d :: l ∧ 48 ≤ d := by
  induction w generalizing n with
  | zero => exact ⟨48 + n % 10, [], by simp [padded], by omega⟩
  | succ w ih =>
    obtain ⟨d, l, heq, hd⟩ := ih (n / 10)
    refine ⟨d, l ++ [48 + n % 10], ?_, hd⟩
    rw [padded, codes_append, heq]
    simp

/-- Blocks compare by what they leave out, then by their digits, then by what follows. -/
theorem codes_block_lt_iff {n m : Nat} (hn : n < 1000) (hm : m < 1000) (blank blank' : Bool) (r s : List Char) :
    codes (block n blank r) < codes (block m blank' s) ↔
      (blank = true ∧ blank' = false) ∨ (blank = false ∧ blank' = false ∧ (n < m ∨ n = m ∧ codes r < codes s)) := by
  obtain ⟨d, l, hd, hlarge⟩ := codes_padded_succ 2 n
  obtain ⟨d', l', hd', hlarge'⟩ := codes_padded_succ 2 m
  cases blank with
  | false =>
    cases blank' with
    | false => simpa [block] using codes_padded_append_lt_iff 3 hn hm r s
    | true =>
      have hnot : ¬ (d < 43 ∨ d = 43 ∧ l ++ codes r < codes "00:00".toList) := by omega
      simpa [block, hd, codes_offsetText, List.cons_lt_cons_iff] using hnot
  | true =>
    cases blank' with
    | false =>
      have hlt : 43 < d' := by omega
      simp [block, hd', codes_offsetText, List.cons_lt_cons_iff, hlt]
    | true => simp [block]

/-- The fraction and the offset, block by block. -/
theorem fractionText_append (n : Nat) : fractionText n ++ offsetText =
    if n = 0 then offsetText else '.' :: (padded 3 (n / 1000000) ++
      block (n / 1000 % 1000) (n % 1000000 = 0) (block (n % 1000) (n % 1000 = 0) offsetText)) := by
  have hmod : ∀ k, padded 3 (k % 1000) = padded 3 k := padded_mod 3
  have hsix : ∀ k, padded 6 k = padded 3 (k / 1000) ++ padded 3 k := padded_add 3 3
  have hnine : padded 9 n = padded 3 (n / 1000000) ++ padded 6 n := padded_add 3 6 n
  have hthousands : n / 1000 / 1000 = n / 1000000 := by omega
  unfold fractionText block
  by_cases h0 : n = 0
  · simp [h0]
  · by_cases h6 : n % 1000000 = 0
    · simp [h0, h6]
    · by_cases h3 : n % 1000 = 0
      · simp [h0, h6, h3, hsix, hmod, hthousands]
      · simp [h0, h6, h3, hsix, hmod, hnine]

/-- Fractions are in the order of the nanoseconds. -/
theorem codes_fractionText_lt_iff {n m : Nat} (hn : n < 1000000000) (hm : m < 1000000000) :
    codes (fractionText n ++ offsetText) < codes (fractionText m ++ offsetText) ↔ n < m := by
  rw [fractionText_append, fractionText_append]
  by_cases hn0 : n = 0
  · by_cases hm0 : m = 0
    · simp [hn0, hm0]
    · have hlt : codes offsetText < codes ('.' :: (padded 3 (m / 1000000) ++
          block (m / 1000 % 1000) (m % 1000000 = 0) (block (m % 1000) (m % 1000 = 0) offsetText))) := by
        rw [codes_offsetText, codes_cons, List.cons_lt_cons_iff]
        exact Or.inl (by decide)
      rw [if_pos hn0, if_neg hm0]
      exact iff_of_true hlt (by omega)
  · by_cases hm0 : m = 0
    · have hnot : ¬ codes ('.' :: (padded 3 (n / 1000000) ++
          block (n / 1000 % 1000) (n % 1000000 = 0) (block (n % 1000) (n % 1000 = 0) offsetText))) < codes offsetText := by
        rw [codes_offsetText, codes_cons, List.cons_lt_cons_iff]
        simp
      rw [if_neg hn0, if_pos hm0]
      exact iff_of_false hnot (by omega)
    · rw [if_neg hn0, if_neg hm0, codes_cons_lt_iff, codes_padded_append_lt_iff 3 (by omega) (by omega),
        codes_block_lt_iff (by omega) (by omega), codes_block_lt_iff (by omega) (by omega)]
      simp only [lt_self_iff_false, and_false, or_false, decide_eq_true_eq, decide_eq_false_iff_not]
      have hn6 : n % 1000000 = 1000 * (n / 1000 % 1000) + n % 1000 := by omega
      have hm6 : m % 1000000 = 1000 * (m / 1000 % 1000) + m % 1000 := by omega
      have hnine : n = 1000000 * (n / 1000000) + n % 1000000 := by omega
      have hmine : m = 1000000 * (m / 1000000) + m % 1000000 := by omega
      have hnb : n / 1000 % 1000 < 1000 ∧ n % 1000 < 1000 := by omega
      have hmb : m / 1000 % 1000 < 1000 ∧ m % 1000 < 1000 := by omega
      generalize n / 1000000 = a, n % 1000000 = x, n / 1000 % 1000 = b, n % 1000 = c at *
      generalize m / 1000000 = a', m % 1000000 = x', m / 1000 % 1000 = b', m % 1000 = c' at *
      omega

theorem ascii_offsetText : Ascii offsetText := by
  have hall : offsetText.all (fun c => decide (c.toNat < 128)) = true := by decide
  intro c hc
  exact of_decide_eq_true (List.all_eq_true.1 hall c hc)

theorem ascii_fractionText (n : Nat) : Ascii (fractionText n) := by
  unfold fractionText
  split
  · intro c hc
    simp at hc
  · split
    · exact Ascii.cons (by decide) (ascii_padded _ _)
    · split
      · exact Ascii.cons (by decide) (ascii_padded _ _)
      · exact Ascii.cons (by decide) (ascii_padded _ _)

/-! ## The whole text -/

/-- The text after the year, field by field. -/
theorem afterYearText_eq (month day second nanosecond : Nat) : afterYearText month day second nanosecond =
    '-' :: (padded 2 month ++ '-' :: (padded 2 day ++ 'T' :: (padded 2 (second / 3600) ++ ':' :: (padded 2 (second / 60 % 60) ++
      ':' :: (padded 2 (second % 60) ++ (fractionText nanosecond ++ offsetText)))))) := by
  have hoffset : "+00:00".toList = offsetText := rfl
  simp only [afterYearText, hoffset, List.append_assoc, List.cons_append]

theorem ascii_afterYearText (month day second nanosecond : Nat) : Ascii (afterYearText month day second nanosecond) := by
  rw [afterYearText_eq]
  refine Ascii.cons (by decide) ((ascii_padded _ _).append ?_)
  refine Ascii.cons (by decide) ((ascii_padded _ _).append ?_)
  refine Ascii.cons (by decide) ((ascii_padded _ _).append ?_)
  refine Ascii.cons (by decide) ((ascii_padded _ _).append ?_)
  refine Ascii.cons (by decide) ((ascii_padded _ _).append ?_)
  exact (ascii_fractionText _).append ascii_offsetText

/-- The text after the year compares by the month, the day, the second of the day and the nanosecond. -/
theorem codes_afterYearText_lt_iff {month month' day day' second second' nano nano' : Nat} (hm : month < 100) (hm' : month' < 100)
    (hd : day < 100) (hd' : day' < 100) (hs : second < 86400) (hs' : second' < 86400) (hn : nano < 1000000000)
    (hn' : nano' < 1000000000) :
    codes (afterYearText month day second nano) < codes (afterYearText month' day' second' nano') ↔
      month < month' ∨ month = month' ∧ (day < day' ∨ day = day' ∧ (second < second' ∨ second = second' ∧ nano < nano')) := by
  rw [afterYearText_eq, afterYearText_eq, codes_cons_lt_iff, codes_padded_append_lt_iff 2 hm hm', codes_cons_lt_iff,
    codes_padded_append_lt_iff 2 hd hd', codes_cons_lt_iff, codes_padded_append_lt_iff 2 (by omega) (by omega), codes_cons_lt_iff,
    codes_padded_append_lt_iff 2 (by omega) (by omega), codes_cons_lt_iff, codes_padded_append_lt_iff 2 (by omega) (by omega),
    codes_fractionText_lt_iff hn hn']
  have hsec : (second / 3600 < second' / 3600 ∨ second / 3600 = second' / 3600 ∧ (second / 60 % 60 < second' / 60 % 60 ∨
      second / 60 % 60 = second' / 60 % 60 ∧ (second % 60 < second' % 60 ∨ second % 60 = second' % 60 ∧ nano < nano'))) ↔
      second < second' ∨ second = second' ∧ nano < nano' := by
    omega
  rw [hsec]

theorem ascii_atLeastFour (n : Nat) : Ascii (atLeastFour n) := by
  unfold atLeastFour
  split
  · exact ascii_padded _ _
  · intro c hc
    have hdigit := Nat.isDigit_of_mem_toDigits (by omega) (by omega) hc
    have hrange := Char.isDigit_iff_toNat.1 hdigit
    have hnine : ('9').toNat = 57 := by decide
    omega

theorem ascii_yearText (year : Int) : Ascii (yearText year) := by
  unfold yearText
  split
  · exact ascii_padded _ _
  · split
    · exact Ascii.cons (by decide) (ascii_atLeastFour _)
    · exact Ascii.cons (by decide) (ascii_atLeastFour _)

/-- Texts compare by their years, when the first is of a year with four digits and the second of no later one. -/
theorem codes_yearText_append_lt_iff {year year' : Int} (h0 : 0 ≤ year) (h1 : year ≤ 9999) (h' : year' ≤ 9999) (r s : List Char) :
    codes (yearText year ++ r) < codes (yearText year' ++ s) ↔ year < year' ∨ year = year' ∧ codes r < codes s := by
  have hyear : yearText year = padded 4 year.toNat := if_pos ⟨h0, h1⟩
  by_cases hneg : year' < 0
  · have hyear' : yearText year' = '-' :: atLeastFour year'.natAbs := by
      rw [yearText, if_neg (by omega), if_pos hneg]
    obtain ⟨d, l, hd, hlarge⟩ := codes_padded_succ 3 year.toNat
    have hnot : ¬ codes (yearText year ++ r) < codes (yearText year' ++ s) := by
      rw [hyear, hyear', codes_append, hd, List.cons_append, List.cons_append, codes_cons, List.cons_lt_cons_iff]
      have hdash : ('-').toNat = 45 := by decide
      omega
    exact iff_of_false hnot (by omega)
  · have hyear' : yearText year' = padded 4 year'.toNat := if_pos ⟨by omega, h'⟩
    have hlt : year.toNat < year'.toNat ↔ year < year' := by omega
    have heq : year.toNat = year'.toNat ↔ year = year' := by omega
    rw [hyear, hyear', codes_padded_append_lt_iff 4 (by omega) (by omega), hlt, heq]

namespace DateTime

/-- The ranges of the fields of an instant. -/
theorem field_ranges (t : DateTime) : (1 ≤ t.date.month ∧ t.date.month ≤ 12) ∧ (1 ≤ t.date.day ∧ t.date.day ≤ 31) ∧
    (0 ≤ t.secondOfDay ∧ t.secondOfDay < 86400) ∧ (0 ≤ t.nanosecond ∧ t.nanosecond < 1000000000) := by
  obtain ⟨y, m, p⟩ := dateParts_civilFromDays (t.nanos / nanosPerDay)
  refine ⟨p.month_range, p.day_range, ?_, ?_⟩
  · unfold secondOfDay nanosPerDay nanosPerSecond
    omega
  · unfold nanosecond nanosPerSecond
    omega

/-- An instant is before another by its date, then its second of the day, then its nanosecond. -/
theorem nanos_lt_iff (a b : DateTime) : a.nanos < b.nanos ↔ a.date.Before b.date ∨
    ¬ b.date.Before a.date ∧ (a.secondOfDay < b.secondOfDay ∨ a.secondOfDay = b.secondOfDay ∧ a.nanosecond < b.nanosecond) := by
  rw [date, date, before_iff, before_iff]
  unfold secondOfDay nanosecond nanosPerDay nanosPerSecond
  omega

/-- The text of an instant is as its bytes are. -/
theorem bytes_toRfc3339 (t : DateTime) : bytes t.toRfc3339 = codes (yearText t.date.year ++
    afterYearText t.date.month.toNat t.date.day.toNat t.secondOfDay.toNat t.nanosecond.toNat) :=
  bytes_ofList ((ascii_yearText _).append (ascii_afterYearText _ _ _ _))

/-- The texts are in the order of the instants, when the first is of a year with four digits and the second of no later one. -/
theorem bytes_toRfc3339_lt_iff {a b : DateTime} (ha : 0 ≤ a.date.year ∧ a.date.year ≤ 9999) (hb : b.date.year ≤ 9999) :
    bytes a.toRfc3339 < bytes b.toRfc3339 ↔ a.nanos < b.nanos := by
  obtain ⟨hm, hd, hs, hn⟩ := a.field_ranges
  obtain ⟨hm', hd', hs', hn'⟩ := b.field_ranges
  rw [bytes_toRfc3339, bytes_toRfc3339, codes_yearText_append_lt_iff ha.1 ha.2 hb,
    codes_afterYearText_lt_iff (by omega) (by omega) (by omega) (by omega) (by omega) (by omega) (by omega) (by omega),
    nanos_lt_iff]
  unfold Civil.Before
  omega

end DateTime

end Txbox
