/-!
# Ranges of code points

A character class is kept as a list of closed ranges of code points. Ranges that ascend and do not
touch give each class one form: `join` brings ranges into it, and `gaps` gives the form of what is
missing.
-/

namespace WindowActions

abbrev CodeRanges := List (Nat × Nat)

namespace CodeRanges

/-- Whether a code point lies in one of the ranges. -/
def covers (ranges : CodeRanges) (code : Nat) : Bool :=
  ranges.any fun range => range.1 ≤ code && code ≤ range.2

@[simp] theorem covers_nil (code : Nat) : covers [] code = false := rfl

@[simp] theorem covers_cons (range : Nat × Nat) (ranges : CodeRanges) (code : Nat) :
    covers (range :: ranges) code =
      ((range.1 ≤ code && code ≤ range.2) || ranges.covers code) := rfl

@[simp] theorem covers_append (a b : CodeRanges) (code : Nat) :
    covers (a ++ b) code = (a.covers code || b.covers code) := List.any_append

theorem covers_eq_false {ranges : CodeRanges} {code : Nat} (h : ∀ range ∈ ranges, code < range.1) :
    ranges.covers code = false := by
  induction ranges with
  | nil => rfl
  | cons range rest ih =>
    have hrange := h range (by simp)
    rw [covers_cons, ih fun other hother => h other (by simp [hother])]
    grind

def contains (ranges : CodeRanges) (c : Char) : Bool := ranges.covers c.toNat

/-- The ranges have code points, they ascend, and between any two of them one is missing. -/
structure Apart (ranges : CodeRanges) : Prop where
  first_le_last : ∀ range ∈ ranges, range.1 ≤ range.2
  gap : ranges.Pairwise fun a b => a.2 + 1 < b.1

theorem Apart.tail {range : Nat × Nat} {rest : CodeRanges} (h : Apart (range :: rest)) :
    Apart rest where
  first_le_last r hr := h.first_le_last r (by simp [hr])
  gap := (List.pairwise_cons.1 h.gap).2

theorem Apart.next_le {range : Nat × Nat} {rest : CodeRanges} (h : Apart (range :: rest)) :
    ∀ r ∈ rest, range.2 + 1 ≤ r.1 := fun r hr =>
  Nat.le_of_lt ((List.pairwise_cons.1 h.gap).1 r hr)

/-! ## Joining ranges -/

/-- The ranges in the order in which they begin. -/
def ascending (ranges : CodeRanges) : CodeRanges := ranges.mergeSort fun a b => a.1 ≤ b.1

theorem pairwise_ascending (ranges : CodeRanges) :
    ranges.ascending.Pairwise fun a b => a.1 ≤ b.1 := by
  have htrans : ∀ a b c : Nat × Nat, decide (a.1 ≤ b.1) → decide (b.1 ≤ c.1) →
      decide (a.1 ≤ c.1) := by simp; omega
  have htotal : ∀ a b : Nat × Nat, decide (a.1 ≤ b.1) || decide (b.1 ≤ a.1) := by simp; omega
  simpa [ascending] using List.pairwise_mergeSort htrans htotal ranges

theorem covers_ascending (ranges : CodeRanges) (code : Nat) :
    ranges.ascending.covers code = ranges.covers code :=
  (List.mergeSort_perm ..).any_eq

/-- Joins a range with those behind it that overlap or touch it. The ranges begin in ascending
order. -/
def joinFrom (range : Nat × Nat) : CodeRanges → CodeRanges
  | [] => [range]
  | next :: rest =>
    if next.1 ≤ range.2 + 1 then joinFrom (range.1, max range.2 next.2) rest
    else range :: joinFrom next rest

theorem covers_joinFrom {range : Nat × Nat} {ranges : CodeRanges}
    (h : (range :: ranges).Pairwise fun a b => a.1 ≤ b.1) (code : Nat) :
    (joinFrom range ranges).covers code = covers (range :: ranges) code := by
  induction ranges generalizing range with
  | nil => rfl
  | cons next rest ih =>
    obtain ⟨hrange, hrest⟩ := List.pairwise_cons.1 h
    have hnext := hrange next (by simp)
    simp only [joinFrom]
    split
    · have hjoined : ∀ other ∈ rest, range.1 ≤ other.1 := fun other hother =>
        hrange other (by simp [hother])
      rw [@ih (range.1, max range.2 next.2)
        (List.pairwise_cons.2 ⟨hjoined, (List.pairwise_cons.1 hrest).2⟩), Bool.eq_iff_iff]
      simp only [covers_cons, Bool.or_eq_true, Bool.and_eq_true, decide_eq_true_eq]
      grind
    · simp only [covers_cons, ih hrest]

theorem le_of_mem_joinFrom {range : Nat × Nat} {ranges : CodeRanges} {start : Nat}
    (h : ∀ other ∈ range :: ranges, start ≤ other.1) :
    ∀ r ∈ joinFrom range ranges, start ≤ r.1 := by
  induction ranges generalizing range with
  | nil => exact h
  | cons next rest ih =>
    simp only [joinFrom]
    split
    · refine ih fun other hother => ?_
      obtain rfl | hother := List.mem_cons.1 hother
      · exact h range (by simp)
      · exact h other (by simp [hother])
    · intro r hr
      obtain rfl | hr := List.mem_cons.1 hr
      · exact h _ (by simp)
      · exact ih (fun other hother => h other (by simp [hother])) r hr

theorem gap_joinFrom {range : Nat × Nat} {ranges : CodeRanges}
    (h : (range :: ranges).Pairwise fun a b => a.1 ≤ b.1) :
    (joinFrom range ranges).Pairwise fun a b => a.2 + 1 < b.1 := by
  induction ranges generalizing range with
  | nil => simp [joinFrom]
  | cons next rest ih =>
    obtain ⟨hrange, hrest⟩ := List.pairwise_cons.1 h
    obtain ⟨hnext, hbehind⟩ := List.pairwise_cons.1 hrest
    simp only [joinFrom]
    split
    · exact ih (List.pairwise_cons.2 ⟨fun other hother => hrange other (by simp [hother]), hbehind⟩)
    · refine List.pairwise_cons.2 ⟨fun r hr => ?_, ih hrest⟩
      have hle : ∀ other ∈ next :: rest, next.1 ≤ other.1 := by simpa using hnext
      have := le_of_mem_joinFrom hle r hr
      omega

/-- Ascending ranges that do not touch and have the same code points. -/
def join (ranges : CodeRanges) : CodeRanges :=
  match ranges.ascending with
  | [] => []
  | range :: rest => joinFrom range rest

theorem covers_join (ranges : CodeRanges) (code : Nat) :
    ranges.join.covers code = ranges.covers code := by
  rw [join]
  split <;> rename_i h
  · rw [← covers_ascending ranges, h]
  · rw [covers_joinFrom (h ▸ pairwise_ascending ranges), ← h, covers_ascending]

theorem gap_join (ranges : CodeRanges) : ranges.join.Pairwise fun a b => a.2 + 1 < b.1 := by
  rw [join]
  split <;> rename_i h
  · exact .nil
  · exact gap_joinFrom (h ▸ pairwise_ascending ranges)

/-! ## The code points between ranges -/

def lastCode : Nat := 0x10FFFF

/-- The code points from `start` on that lie in none of some ascending ranges. -/
def gaps (start : Nat) : CodeRanges → CodeRanges
  | [] => if start ≤ lastCode then [(start, lastCode)] else []
  | range :: rest =>
    if start < range.1 then (start, range.1 - 1) :: gaps (range.2 + 1) rest
    else gaps (range.2 + 1) rest

theorem covers_gaps {start code : Nat} {ranges : CodeRanges} (h : ranges.Apart)
    (hstart : ∀ range ∈ ranges, start ≤ range.1) (hcode : code ≤ lastCode) :
    (gaps start ranges).covers code = (decide (start ≤ code) && !ranges.covers code) := by
  induction ranges generalizing start with
  | nil =>
    simp only [gaps]
    split <;> simp <;> omega
  | cons range rest ih =>
    have hrange := h.first_le_last range (by simp)
    have hfirst := hstart range (by simp)
    have hlow : code ≤ range.2 → covers rest code = false := fun hle =>
      covers_eq_false fun r hr => Nat.lt_of_lt_of_le (Nat.lt_succ_of_le hle) (h.next_le r hr)
    simp only [gaps]
    split <;> simp only [covers_cons, ih h.tail h.next_le] <;> grind

theorem le_of_mem_gaps {start : Nat} {ranges : CodeRanges} (h : ranges.Apart)
    (hstart : ∀ range ∈ ranges, start ≤ range.1) : ∀ r ∈ gaps start ranges, start ≤ r.1 := by
  induction ranges generalizing start with
  | nil =>
    simp only [gaps]
    split <;> simp
  | cons range rest ih =>
    have hrange := h.first_le_last range (by simp)
    have hfirst := hstart range (by simp)
    have hrest : ∀ r ∈ gaps (range.2 + 1) rest, start ≤ r.1 := fun r hr => by
      have := ih h.tail h.next_le r hr
      omega
    simp only [gaps]
    split
    · exact List.forall_mem_cons.2 ⟨Nat.le_refl _, hrest⟩
    · exact hrest

theorem gap_gaps {start : Nat} {ranges : CodeRanges} (h : ranges.Apart) :
    (gaps start ranges).Pairwise fun a b => a.2 + 1 < b.1 := by
  induction ranges generalizing start with
  | nil =>
    simp only [gaps]
    split <;> simp
  | cons range rest ih =>
    have hrange := h.first_le_last range (by simp)
    simp only [gaps]
    split
    · refine List.pairwise_cons.2 ⟨fun r hr => ?_, ih h.tail⟩
      have := le_of_mem_gaps h.tail h.next_le r hr
      omega
    · exact ih h.tail

/-! ## Leaving out surrogates -/

/-- The code points of a range that are no surrogates. -/
def scalars (range : Nat × Nat) : CodeRanges :=
  [(range.1, min range.2 0xD7FF), (max range.1 0xE000, range.2)].filter fun part =>
    part.1 ≤ part.2

theorem apart_flatMap_scalars {ranges : CodeRanges}
    (h : ranges.Pairwise fun a b => a.2 + 1 < b.1) : Apart (ranges.flatMap scalars) where
  first_le_last r hr := by
    obtain ⟨range, _, hr⟩ := List.mem_flatMap.1 hr
    simpa using (List.mem_filter.1 hr).2
  gap := by
    refine List.pairwise_flatMap.2 ⟨fun range _ => ?_, h.imp fun {a b} hab x hx y hy => ?_⟩
    · refine List.Pairwise.filter _ ?_
      simp
      omega
    · simp only [scalars, List.mem_filter, List.mem_cons, List.not_mem_nil, or_false] at hx hy
      grind

theorem covers_flatMap_scalars (ranges : CodeRanges) {code : Nat}
    (hcode : code < 0xD800 ∨ 0xDFFF < code) :
    covers (ranges.flatMap scalars) code = ranges.covers code := by
  induction ranges with
  | nil => rfl
  | cons range rest ih =>
    rw [List.flatMap_cons, covers_append, ih, covers_cons]
    congr 1
    simp only [scalars, List.filter_cons, List.filter_nil]
    grind [covers_cons, covers_nil]

end CodeRanges

end WindowActions
