import ComplianceScanner.Proofs.Templates
import Mathlib.Algebra.Order.Field.Power
import Mathlib.Data.Nat.Digits.Lemmas
import Mathlib.Data.Rat.Cast.Order
import Mathlib.Tactic.Linarith
import Mathlib.Tactic.Positivity

/-!
# Quantities

Whether a quantity is zero is asked of the double that its number reads as. No number with at most nine
digits behind the point is near enough to zero to read as it without being zero, so the answer can be
told from the digits alone, whatever the sign and the unit are.
-/

namespace ComplianceScanner

namespace Decimal

/-- The number that it stands for. -/
def Binary.value (x : Binary) : ℚ := x.significand * 2 ^ x.exponent

/-- The number that it stands for. -/
def Number.value (d : Number) : ℚ := d.digits * 10 ^ d.exponent

theorem digitCount_eq_length_digits (n : Nat) : digitCount n = (Nat.digits 10 n).length := by
  induction n using Nat.strong_induction_on with
  | _ n ih =>
    by_cases hzero : n = 0
    · rw [hzero, digitCount]
      rfl
    · rw [digitCount, dif_neg hzero, Nat.digits_def' (by decide) (Nat.pos_of_ne_zero hzero),
        List.length_cons, ih (n / 10) (by omega)]

/-- A number by the place of its first digit. -/
theorem Number.value_bounds {d : Number} (hdigits : d.digits ≠ 0) :
    (10 : ℚ) ^ (digitCount d.digits + d.exponent - 1) ≤ d.value ∧
      d.value < 10 ^ (digitCount d.digits + d.exponent) := by
  have hpower : (0 : ℚ) < 10 ^ d.exponent := by positivity
  have hlow : (10 : ℚ) ^ (digitCount d.digits : ℤ) ≤ 10 * d.digits := by
    rw [digitCount_eq_length_digits, zpow_natCast]
    exact_mod_cast Nat.base_pow_length_digits_le 10 d.digits (by decide) hdigits
  have hhigh : (d.digits : ℚ) < 10 ^ (digitCount d.digits : ℤ) := by
    rw [digitCount_eq_length_digits, zpow_natCast]
    exact_mod_cast Nat.lt_base_pow_length_digits (by decide)
  constructor
  · rw [zpow_sub_one₀ (by norm_num), zpow_add₀ (by norm_num), Number.value,
      ← div_eq_mul_inv, div_le_iff₀ (by norm_num)]
    calc (10 : ℚ) ^ (digitCount d.digits : ℤ) * 10 ^ d.exponent
        ≤ 10 * d.digits * 10 ^ d.exponent := mul_le_mul_of_nonneg_right hlow hpower.le
      _ = d.digits * 10 ^ d.exponent * 10 := by ring
  · rw [zpow_add₀ (by norm_num), Number.value]
    exact mul_lt_mul_of_pos_right hhigh hpower

end Decimal

namespace Quantity

open Decimal (Binary Number digitCount)

theorem ten_zpow_le_bound : (10 : ℚ) ^ (-324 : ℤ) ≤ 2 ^ (-1075 : ℤ) := by
  have hle : (2 : Nat) ^ 1075 ≤ 10 ^ 324 := by decide +kernel
  rw [zpow_neg, zpow_neg, inv_le_inv₀ (by positivity) (by positivity)]
  exact_mod_cast hle

theorem bound_lt_ten_zpow : (2 : ℚ) ^ (-1075 : ℤ) < 10 ^ (-323 : ℤ) := by
  have hlt : (10 : Nat) ^ 323 < 2 ^ 1075 := by decide +kernel
  rw [zpow_neg, zpow_neg, inv_lt_inv₀ (by positivity) (by positivity)]
  exact_mod_cast hlt

theorem mul_pow_le_pow_iff (digits bound places : Nat) :
    digits * Nat.pow 2 bound ≤ Nat.pow 10 places ↔
      (digits : ℚ) * 10 ^ (-(places : ℤ)) ≤ 2 ^ (-(bound : ℤ)) := by
  have hcast : digits * Nat.pow 2 bound ≤ Nat.pow 10 places ↔
      (digits : ℚ) * 2 ^ bound ≤ 10 ^ places := by exact_mod_cast Iff.rfl
  rw [hcast, zpow_neg, zpow_neg, zpow_natCast, zpow_natCast, ← div_eq_mul_inv,
    div_le_iff₀ (by positivity), inv_mul_eq_div, le_div_iff₀ (by positivity)]

/-- A number of few enough places is below the bound and one of enough places is above it, and only
those between are compared with it. -/
theorem roundsToZero_iff_le (d : Number) :
    roundsToZero d = true ↔ d.value ≤ (2 : ℚ) ^ (-1075 : ℤ) := by
  by_cases hdigits : d.digits = 0
  · simp [roundsToZero, Number.value, hdigits]
  · obtain ⟨hlow, hhigh⟩ := Number.value_bounds hdigits
    simp only [roundsToZero, if_neg hdigits]
    by_cases hshort : (digitCount d.digits : ℤ) + d.exponent ≤ -324
    · rw [if_pos hshort]
      refine iff_of_true rfl ?_
      calc d.value ≤ (10 : ℚ) ^ (digitCount d.digits + d.exponent) := hhigh.le
        _ ≤ 10 ^ (-324 : ℤ) := zpow_le_zpow_right₀ (by norm_num) hshort
        _ ≤ 2 ^ (-1075 : ℤ) := ten_zpow_le_bound
    · rw [if_neg hshort]
      by_cases hlong : -323 < (digitCount d.digits : ℤ) + d.exponent
      · rw [if_pos hlong]
        refine iff_of_false (by decide) (not_le.mpr ?_)
        calc (2 : ℚ) ^ (-1075 : ℤ) < 10 ^ (-323 : ℤ) := bound_lt_ten_zpow
          _ ≤ 10 ^ (digitCount d.digits + d.exponent - 1) :=
            zpow_le_zpow_right₀ (by norm_num) (by omega)
          _ ≤ d.value := hlow
      · obtain ⟨places, hplaces⟩ : ∃ places : Nat, d.exponent = -places :=
          ⟨(-d.exponent).toNat, by omega⟩
        rw [if_neg hlong, decide_eq_true_iff, Number.value, hplaces, neg_neg, Int.toNat_natCast,
          show (-1075 : ℤ) = -((1075 : Nat) : ℤ) from rfl]
        generalize 1075 = bound
        exact mul_pow_le_pow_iff d.digits bound places

/-- A number reads as zero iff no other double is nearer. The least double is `2 ^ (-1074)`, and all
others are multiples of it. -/
theorem roundsToZero_iff (d : Number) :
    roundsToZero d = true ↔
      ∀ x : Binary, x.significand ≠ 0 → -1074 ≤ x.exponent → d.value ≤ |x.value - d.value| := by
  rw [roundsToZero_iff_le]
  have hhalf : (2 : ℚ) ^ (-1074 : ℤ) = 2 * 2 ^ (-1075 : ℤ) := by
    rw [← zpow_one_add₀ (by norm_num)]
    norm_num
  constructor
  · intro hle x hsignificand hexponent
    have hone : (1 : ℚ) ≤ x.significand := by exact_mod_cast Nat.pos_of_ne_zero hsignificand
    have hleast : (2 : ℚ) ^ (-1074 : ℤ) ≤ x.value :=
      calc (2 : ℚ) ^ (-1074 : ℤ) ≤ 2 ^ x.exponent := zpow_le_zpow_right₀ (by norm_num) hexponent
        _ ≤ x.significand * 2 ^ x.exponent := le_mul_of_one_le_left (by positivity) hone
    have hbeyond : d.value ≤ x.value - d.value := by linarith
    exact hbeyond.trans (le_abs_self _)
  · intro hnearest
    have hleast : d.value ≤ |2 ^ (-1074 : ℤ) - d.value| := by
      simpa [Binary.value] using hnearest ⟨1, -1074⟩ (by decide) (by decide)
    have hpositive : (0 : ℚ) < 2 ^ (-1074 : ℤ) := by positivity
    rcases le_abs'.mp hleast with habove | hbelow
    · linarith
    · linarith

end Quantity

/-! ### Numbers as written -/

namespace Json

theorem digit?_of_isDigit {c : Char} (hc : c.isDigit = true) :
    digit? c = some (c.toNat - '0'.toNat) := if_pos hc

theorem eq_zero_of_isDigit {c : Char} (hc : c.isDigit = true) (hvalue : c.toNat - '0'.toNat = 0) :
    c = '0' := by
  have hlow := (Char.isDigit_iff_toNat.mp hc).1
  apply Char.toNat_inj.mp
  omega

theorem spanDigits_append {digits rest : List Char} (hdigits : ∀ c ∈ digits, c.isDigit = true)
    (hrest : ∀ c, rest.head? = some c → c.isDigit = false) :
    spanDigits (digits ++ rest) = (digits.filterMap digit?, rest) := by
  induction digits with
  | nil =>
      cases rest with
      | nil => rfl
      | cons c rest => simp [spanDigits, digit?, hrest c rfl]
  | cons c digits ih =>
      obtain ⟨hc, hdigits⟩ := List.forall_mem_cons.mp hdigits
      simp [spanDigits, digit?_of_isDigit hc, ih hdigits]

end Json

namespace Quantity

theorem isDigit_ne_sign {c : Char} (hc : c.isDigit = true) : c ≠ '+' ∧ c ≠ '-' := by
  constructor <;> (rintro rfl; simp at hc)

theorem isLetter_of_isDigit {c : Char} (hc : c.isDigit = true) : isLetter c = false := by
  have hhigh : c.val ≤ 57 := (Char.isDigit_iff_toNat.mp hc).2
  delta isLetter Char.isAlpha Char.isUpper Char.isLower
  grind

/-- A sign before the first digit changes nothing. -/
theorem number?_sign {sign : List Char} (hsign : sign = [] ∨ sign = ['+'] ∨ sign = ['-']) {c : Char}
    (hc : c.isDigit = true) (rest : List Char) :
    number? (sign ++ c :: rest) = number? (c :: rest) := by
  have hne := isDigit_ne_sign hc
  rcases hsign with rfl | rfl | rfl
  · rfl
  all_goals
    rw [number?.eq_def (c :: rest)]
    split
    · next heq => exact absurd (List.cons.inj heq).1 hne.1
    · next heq => exact absurd (List.cons.inj heq).1 hne.2
    · rfl

/-- Digits, and perhaps a point and more digits. -/
theorem number?_of_spanDigits {c : Char} (hc : c.isDigit = true) {text rest : List Char}
    {whole fraction : List Nat} (hwhole : Json.spanDigits (c :: text) = (whole, rest))
    (hne : whole ≠ [])
    (hrest : rest = [] ∧ fraction = [] ∨
      ∃ tail, rest = '.' :: tail ∧ Json.spanDigits tail = (fraction, [])) :
    number? (c :: text) =
      some ⟨(whole ++ fraction).foldl (fun n d => n * 10 + d) 0, -(fraction.length : ℤ)⟩ := by
  have hsign := isDigit_ne_sign hc
  rw [number?.eq_def]
  split
  · next heq => exact absurd (List.cons.inj heq).1 hsign.1
  · next heq => exact absurd (List.cons.inj heq).1 hsign.2
  · rcases hrest with ⟨rfl, rfl⟩ | ⟨tail, rfl, htail⟩
    · simp [hwhole, hne]
    · simp [hwhole, hne, htail]

end Quantity

/-- A quantity as it is written: a number with at most nine digits behind the point, and a unit. -/
structure QuantityText where
  sign : List Char
  whole : List Char
  fraction? : Option (List Char)
  unit : List Char
  sign_plain : sign = [] ∨ sign = ['+'] ∨ sign = ['-']
  whole_ne_nil : whole ≠ []
  whole_digits : ∀ c ∈ whole, c.isDigit = true
  fraction_digits : ∀ fraction, fraction? = some fraction →
    fraction.length ≤ 9 ∧ ∀ c ∈ fraction, c.isDigit = true
  unit_letters : ∀ c ∈ unit, Quantity.isLetter c = true

namespace QuantityText

def fraction (quantity : QuantityText) : List Char := quantity.fraction?.getD []

def digits (quantity : QuantityText) : List Char := quantity.whole ++ quantity.fraction

def point (quantity : QuantityText) : List Char := (quantity.fraction?.map fun _ => ['.']).getD []

def number (quantity : QuantityText) : List Char :=
  quantity.sign ++ (quantity.whole ++ (quantity.point ++ quantity.fraction))

def text (quantity : QuantityText) : String := .ofList (quantity.number ++ quantity.unit)

/-- The digits as one number. -/
def magnitude (quantity : QuantityText) : Nat :=
  (quantity.digits.filterMap Json.digit?).foldl (fun n d => n * 10 + d) 0

variable (quantity : QuantityText)

theorem fraction_isDigit : ∀ c ∈ quantity.fraction, c.isDigit = true := by
  unfold fraction
  cases hfraction : quantity.fraction? with
  | none => simp
  | some fraction => exact (quantity.fraction_digits fraction hfraction).2

theorem length_fraction_le : quantity.fraction.length ≤ 9 := by
  unfold fraction
  cases hfraction : quantity.fraction? with
  | none => simp
  | some fraction => exact (quantity.fraction_digits fraction hfraction).1

theorem filterMap_digit?_ne_nil : quantity.whole.filterMap Json.digit? ≠ [] := by
  obtain ⟨c, hc⟩ := List.exists_mem_of_ne_nil _ quantity.whole_ne_nil
  apply List.ne_nil_of_mem
  exact List.mem_filterMap.mpr ⟨c, hc, Json.digit?_of_isDigit (quantity.whole_digits c hc)⟩

theorem length_filterMap_digit? :
    (quantity.fraction.filterMap Json.digit?).length = quantity.fraction.length := by
  rw [List.filterMap_length_eq_length]
  intro c hc
  rw [Json.digit?_of_isDigit (quantity.fraction_isDigit c hc), Option.isSome_some]

theorem point_cases :
    quantity.point = [] ∧ quantity.fraction = [] ∨ quantity.point = ['.'] := by
  unfold point fraction
  cases quantity.fraction? with
  | none => exact .inl ⟨rfl, rfl⟩
  | some fraction => exact .inr rfl

/-- The number of the digits, with the point put where it stands. -/
theorem number?_number :
    Quantity.number? quantity.number =
      some ⟨quantity.magnitude, -(quantity.fraction.length : ℤ)⟩ := by
  obtain ⟨c, tail, htail⟩ := List.exists_cons_of_ne_nil quantity.whole_ne_nil
  have hc : c.isDigit = true := quantity.whole_digits c (by simp [htail])
  have hpoint : ∀ d, (quantity.point ++ quantity.fraction).head? = some d → d.isDigit = false := by
    rcases quantity.point_cases with ⟨hpoint, hfraction⟩ | hpoint
    · simp [hpoint, hfraction]
    · simp [hpoint]
  have hwhole := Json.spanDigits_append quantity.whole_digits hpoint
  have hfraction : Json.spanDigits (quantity.fraction ++ []) = _ :=
    Json.spanDigits_append quantity.fraction_isDigit (by simp)
  rw [htail, List.cons_append, ← htail] at hwhole
  rw [List.append_nil] at hfraction
  have hrest : quantity.point ++ quantity.fraction = [] ∧
        quantity.fraction.filterMap Json.digit? = [] ∨
      ∃ tail, quantity.point ++ quantity.fraction = '.' :: tail ∧
        Json.spanDigits tail = (quantity.fraction.filterMap Json.digit?, []) := by
    rcases quantity.point_cases with ⟨hpoint, hnone⟩ | hpoint
    · exact .inl (by simp [hpoint, hnone])
    · exact .inr ⟨quantity.fraction, by simp [hpoint], hfraction⟩
  rw [number, htail, List.cons_append, Quantity.number?_sign quantity.sign_plain hc,
    Quantity.number?_of_spanDigits hc hwhole quantity.filterMap_digit?_ne_nil hrest,
    length_filterMap_digit?, ← List.filterMap_append]
  rfl

/-! ### What reads as zero -/

theorem foldl_digits_eq_zero_iff (digits : List Nat) (n : Nat) :
    digits.foldl (fun n d => n * 10 + d) n = 0 ↔ n = 0 ∧ ∀ d ∈ digits, d = 0 := by
  induction digits generalizing n with
  | nil => simp
  | cons d digits ih =>
      have hstep : n * 10 + d = 0 ↔ n = 0 ∧ d = 0 := by omega
      rw [List.foldl_cons, ih, List.forall_mem_cons, hstep, and_assoc]

theorem digits_isDigit : ∀ c ∈ quantity.digits, c.isDigit = true :=
  List.forall_mem_append.mpr ⟨quantity.whole_digits, quantity.fraction_isDigit⟩

theorem magnitude_eq_zero_iff : quantity.magnitude = 0 ↔ ∀ c ∈ quantity.digits, c = '0' := by
  rw [magnitude, foldl_digits_eq_zero_iff, and_iff_right rfl]
  constructor
  · intro hzero c hc
    have hdigit := quantity.digits_isDigit c hc
    have hvalue := hzero _ (List.mem_filterMap.mpr ⟨c, hc, Json.digit?_of_isDigit hdigit⟩)
    exact Json.eq_zero_of_isDigit hdigit hvalue
  · intro hzero d hd
    obtain ⟨c, hc, hdigit⟩ := List.mem_filterMap.mp hd
    rw [hzero c hc] at hdigit
    exact (Option.some.inj hdigit).symm

/-- A number of at most nine places is either zero or far above the doubles next to zero. -/
theorem roundsToZero_iff_magnitude :
    Quantity.roundsToZero ⟨quantity.magnitude, -(quantity.fraction.length : ℤ)⟩ = true ↔
      quantity.magnitude = 0 := by
  rw [Quantity.roundsToZero_iff_le]
  constructor
  · intro hle
    by_contra hne
    have hone : (1 : ℚ) ≤ quantity.magnitude := by exact_mod_cast Nat.pos_of_ne_zero hne
    have hplaces := quantity.length_fraction_le
    refine absurd hle (not_le.mpr ?_)
    calc (2 : ℚ) ^ (-1075 : ℤ) < 10 ^ (-323 : ℤ) := Quantity.bound_lt_ten_zpow
      _ ≤ 10 ^ (-(quantity.fraction.length : ℤ)) := zpow_le_zpow_right₀ (by norm_num) (by omega)
      _ ≤ quantity.magnitude * 10 ^ (-(quantity.fraction.length : ℤ)) :=
        le_mul_of_one_le_left (by positivity) hone
  · intro hzero
    simp [hzero, Decimal.Number.value]

theorem number_not_isLetter : ∀ c ∈ quantity.number, Quantity.isLetter c = false := by
  have hpoint : ∀ c ∈ quantity.point, Quantity.isLetter c = false := by
    rcases quantity.point_cases with ⟨hpoint, -⟩ | hpoint
    · simp [hpoint]
    · rw [hpoint, List.forall_mem_singleton]
      rfl
  have hsign : ∀ c ∈ quantity.sign, Quantity.isLetter c = false := by
    rcases quantity.sign_plain with hsign | hsign | hsign
    · simp [hsign]
    · rw [hsign, List.forall_mem_singleton]
      rfl
    · rw [hsign, List.forall_mem_singleton]
      rfl
  simp only [number, List.forall_mem_append]
  exact ⟨hsign, fun c hc => Quantity.isLetter_of_isDigit (quantity.whole_digits c hc), hpoint,
    fun c hc => Quantity.isLetter_of_isDigit (quantity.fraction_isDigit c hc)⟩

theorem number_ne_nil : quantity.number ≠ [] := by
  simp [number, quantity.whole_ne_nil]

/-- The unit is all that is cut off. -/
theorem dropUnit_number :
    Quantity.dropUnit (quantity.number ++ quantity.unit) = quantity.number := by
  have hunit : ∀ c ∈ quantity.unit.reverse, Quantity.isLetter c = true := by
    simpa using quantity.unit_letters
  rcases List.eq_nil_or_concat' quantity.number with hnil | ⟨initial, last, hlast⟩
  · exact absurd hnil quantity.number_ne_nil
  · have hstop := quantity.number_not_isLetter last (by simp [hlast])
    rw [Quantity.dropUnit, List.reverse_append, List.dropWhile_append_of_pos hunit, hlast,
      List.reverse_concat, List.dropWhile_cons_of_neg (by simp [hstop]), ← List.reverse_concat,
      List.reverse_reverse]

theorem isZeroText_text :
    Quantity.isZeroText quantity.text.toList = quantity.digits.all (· = '0') := by
  rw [Bool.eq_iff_iff, text, String.toList_ofList, Quantity.isZeroText, dropUnit_number]
  simp [number_ne_nil, number?_number, roundsToZero_iff_magnitude, magnitude_eq_zero_iff]

end QuantityText

namespace Check

open Evaluation PodTemplate

/-- A container fails for the lack of a CPU request, or of a memory limit, iff the quantity that stands
there has no digit but zero. -/
theorem requirements_judged (quantity : QuantityText) (kind : String) (data rest container : Json)
    (hruns : RunsOnly kind data rest [container]) :
    (container.path? ["resources", "requests", "cpu"] = some (.str quantity.text) →
      unsetCpuRequirements.evaluate kind data =
        if quantity.digits.all (· = '0') then some (reason "has cpu request 0" container)
        else none) ∧
    (container.path? ["resources", "limits", "memory"] = some (.str quantity.text) →
      unsetMemoryRequirements.evaluate kind data =
        if quantity.digits.all (· = '0') then some (reason "has memory limit 0" container)
        else none) := by
  have hzero := quantity.isZeroText_text
  constructor
  · intro hcpu
    refine (firstContainer_singleton hruns).trans ?_
    simp only [hcpu, Quantity.isUnset, hzero]
  · intro hmemory
    refine (firstContainer_singleton hruns).trans ?_
    simp only [hmemory, Quantity.isUnset, hzero]

end Check

namespace Sample

/-- The least number that has a place for each digit, and one unit of many letters. -/
def billionth : QuantityText where
  sign := ['+']
  whole := ['0', '0']
  fraction? := some (List.replicate 8 '0' ++ ['1'])
  unit := ['i', 'n', 'f']
  sign_plain := by decide
  whole_ne_nil := by decide
  whole_digits := List.all_eq_true.mp (by decide)
  fraction_digits := by
    rintro fraction ⟨⟩
    exact ⟨by decide, List.all_eq_true.mp (by decide)⟩
  unit_letters := List.all_eq_true.mp (by decide)

/-- Nothing but zeros, and a point with nothing behind it. -/
def zeros : QuantityText where
  sign := ['-']
  whole := List.replicate 30 '0'
  fraction? := some []
  unit := ['G', 'i']
  sign_plain := by decide
  whole_ne_nil := by decide
  whole_digits := List.all_eq_true.mp (by decide)
  fraction_digits := by
    rintro fraction ⟨⟩
    exact ⟨by decide, List.all_eq_true.mp (by decide)⟩
  unit_letters := List.all_eq_true.mp (by decide)

/-- A request that is as good as nothing is a request, and a limit of zero is none. -/
theorem requirements_judged_billionth :
    let container : Json := .obj [("resources", .obj [
      ("limits", .obj [("memory", .str zeros.text)]),
      ("requests", .obj [("cpu", .str billionth.text)])])]
    let pod := podOf [container] []
    billionth.text = "+00.000000001inf" ∧
      PodTemplate.RunsOnly "Pod" pod (.obj [unprivileged]) [container] ∧
      container.path? ["resources", "requests", "cpu"] = some (.str billionth.text) ∧
      container.path? ["resources", "limits", "memory"] = some (.str zeros.text) ∧
      Check.unsetCpuRequirements.evaluate "Pod" pod = none ∧
      Check.unsetMemoryRequirements.evaluate "Pod" pod =
        some "container \"<unnamed>\" has memory limit 0" := by
  intro container pod
  have hruns : PodTemplate.RunsOnly "Pod" pod (.obj [unprivileged]) [container] :=
    .inl (runs_podOf _ _)
  have hcpu : container.path? ["resources", "requests", "cpu"] = some (.str billionth.text) := rfl
  have hmemory : container.path? ["resources", "limits", "memory"] = some (.str zeros.text) := rfl
  have hrequest := (Check.requirements_judged billionth "Pod" pod _ container hruns).1 hcpu
  have hlimit := (Check.requirements_judged zeros "Pod" pod _ container hruns).2 hmemory
  refine ⟨by decide +kernel, hruns, hcpu, hmemory, ?_, ?_⟩
  · rw [hrequest, if_neg (by decide +kernel)]
  · rw [hlimit, if_pos (by decide +kernel)]
    decide +kernel

end Sample

end ComplianceScanner
