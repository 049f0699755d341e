import ComplianceScanner.Metrics.Histogram

/-!
# Observed lengths

What a histogram knows of the lengths that it has observed: how many there were, what they add up to in
the order in which they came, and how many fell to each bucket. Each of the three grows by what is
observed and by nothing else.
-/

namespace ComplianceScanner.Histogram

/-- The bucket of a length, the first one whose bound is not below it. A length above all bounds, or one
that is no number, has none. -/
def bucketOf (length : Float) : Option Nat := bounds.findIdx? (length ≤ ·)

/-- From one histogram to the other just these lengths are observed. -/
structure Gathers (before after : Histogram) (lengths : List Float) : Prop where
  count : after.count = before.count + lengths.length
  sum : after.sum = lengths.foldl (· + ·) before.sum
  buckets : ∀ i, after.buckets[i]? =
    before.buckets[i]?.map (· + lengths.countP fun length => bucketOf length = some i)

/-- One that has observed nothing. -/
def blank : Histogram := { buckets := List.replicate bounds.length 0, sum := 0, count := 0 }

/-- So many more lengths have been observed. The first one of all brings the histogram into being. -/
def Grows (before after : Option Histogram) (count : Nat) : Prop :=
  ∃ lengths : List Float, lengths.length = count ∧
    (after = none ↔ before = none ∧ lengths = []) ∧
    Gathers (before.getD blank) (after.getD blank) lengths

theorem empty_eq_blank : empty = blank := by
  rw [empty, List.map_const']
  rfl

theorem getElem?_countInto (length : Float) (bounds : List Float) (buckets : List Nat) (i : Nat) :
    (countInto length bounds buckets)[i]? =
      buckets[i]?.map (· + if bounds.findIdx? (length ≤ ·) = some i then 1 else 0) := by
  induction bounds generalizing buckets i with
  | nil => simp [countInto]
  | cons bound bounds ih =>
      cases buckets with
      | nil => simp [countInto]
      | cons held buckets =>
          rw [countInto, List.findIdx?_cons]
          by_cases hle : length ≤ bound
          · cases i <;> simp [hle]
          · cases i <;> simp [hle, ih]

namespace Gathers

variable {a b c : Histogram} {first rest : List Float}

theorem refl (a : Histogram) : Gathers a a [] := ⟨rfl, rfl, by simp⟩

theorem observe (a : Histogram) (length : Float) : Gathers a (a.observe length) [length] where
  count := rfl
  sum := rfl
  buckets i := by
    simp only [List.countP_singleton, decide_eq_true_eq]
    exact getElem?_countInto length bounds a.buckets i

theorem trans (h : Gathers a b first) (h' : Gathers b c rest) : Gathers a c (first ++ rest) where
  count := by rw [h'.count, h.count, List.length_append, Nat.add_assoc]
  sum := by rw [h'.sum, h.sum, List.foldl_append]
  buckets i := by
    rw [h'.buckets, h.buckets, Option.map_map, List.countP_append]
    simp only [Function.comp_def, Nat.add_assoc]

end Gathers

namespace Grows

variable {a b c : Option Histogram} {m n : Nat}

theorem refl (a : Option Histogram) : Grows a a 0 := ⟨[], rfl, by simp, .refl _⟩

theorem observe (a : Option Histogram) (length : Float) :
    Grows a (some ((a.getD .empty).observe length)) 1 := by
  rw [empty_eq_blank]
  exact ⟨[length], rfl, by simp, .observe _ _⟩

theorem trans (h : Grows a b m) (h' : Grows b c n) : Grows a c (m + n) := by
  obtain ⟨first, rfl, hfirst, hgathers⟩ := h
  obtain ⟨rest, rfl, hrest, hgathers'⟩ := h'
  refine ⟨first ++ rest, List.length_append, ?_, hgathers.trans hgathers'⟩
  rw [hrest, hfirst, List.append_eq_nil_iff, and_assoc]

end Grows

end ComplianceScanner.Histogram
