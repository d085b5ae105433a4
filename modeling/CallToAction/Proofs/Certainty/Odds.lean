import CallToAction.Proofs.Certainty.Joint

/-!
# Certainty factors as odds

A factor short of full strength stands for odds, a positive number by which evidence multiplies what
was held before: a factor `c` in favour for `1 / (1 - c)`, and one against for `1 + c`.  Joining two
factors multiplies their odds, whichever branch the signs of the factors choose, and so the laws of
joining are those of multiplying positive numbers.

* `strength_eq_abs`, `lesser_eq_min`: the parts of the divisor on exact fractions;
* `combine_of_opposed`: how evidence of opposite signs cancels;
* `odds_combine`: joining factors multiplies odds;
* `odds_pos_iff`, `ofOdds_odds`: odds are positive, and they determine their factor;
* `combine_comm`, `combine_assoc`, `inRange_combine`: what follows for joining;
* `combineBy_eq`: nothing is divided by zero;
* `combine_group`: factors short of full strength are an abelian group.
-/

namespace CallToAction.Certainty

/-- A factor that is short of full strength. -/
def Doubtful (c : ℚ) : Prop := -1 < c ∧ c < 1

/-- A factor, of full strength or not. -/
def InRange (c : ℚ) : Prop := -1 ≤ c ∧ c ≤ 1

/-- One factor is in favour and the other one against. -/
def Opposed (a b : ℚ) : Prop := 0 ≤ a ∧ b < 0 ∨ a < 0 ∧ 0 ≤ b

/-! ### Evidence of opposite signs -/

section Opposed

variable {a b : ℚ}

theorem strength_eq_abs (c : ℚ) : strength c = |c| := by
  unfold strength
  split_ifs with against
  · rw [abs_of_neg against, zero_sub]
  · rw [abs_of_nonneg (not_lt.1 against)]

theorem lesser_eq_min (a b : ℚ) : lesser a b = min a b := by
  unfold lesser
  rw [if_pos (le_refl b)]
  rfl

/-- Every pair of factors agrees in sign or is opposed. -/
theorem signs_cases (a b : ℚ) : 0 ≤ a ∧ 0 ≤ b ∨ a < 0 ∧ b < 0 ∨ Opposed a b := by
  unfold Opposed
  rcases le_or_gt 0 a with ha | ha <;> rcases le_or_gt 0 b with hb | hb <;> simp [ha, hb]

theorem combine_of_nonneg (ha : 0 ≤ a) (hb : 0 ≤ b) : combine a b = a + b * (1 - a) :=
  if_pos ⟨ha, hb⟩

theorem combine_of_neg (ha : a < 0) (hb : b < 0) : combine a b = a + b * (1 + a) := by
  unfold combine
  rw [if_neg fun h => not_le.2 ha h.1, if_pos ⟨ha, hb⟩]

theorem combine_of_opposed (h : Opposed a b) :
    combine a b = if 1 - min |a| |b| ≤ 0 then 0 else (a + b) / (1 - min |a| |b|) := by
  have favour : ¬ (0 ≤ a ∧ 0 ≤ b) := by
    rcases h with ⟨-, hb⟩ | ⟨ha, -⟩
    · exact fun h => not_le.2 hb h.2
    · exact fun h => not_le.2 ha h.1
  have against : ¬ (a < 0 ∧ b < 0) := by
    rcases h with ⟨ha, -⟩ | ⟨-, hb⟩
    · exact fun h => not_lt.2 ha h.1
    · exact fun h => not_lt.2 hb h.2
  unfold combine
  rw [if_neg favour, if_neg against, lesser_eq_min, strength_eq_abs, strength_eq_abs]

/-- Stronger evidence in favour leaves evidence in favour. -/
theorem combine_of_favoured (hb : b < 0) (hb' : -1 < b) (h : -b ≤ a) :
    combine a b = (a + b) / (1 + b) := by
  have ha : 0 ≤ a := by linarith
  have divisor : 1 - min |a| |b| = 1 + b := by
    rw [abs_of_nonneg ha, abs_of_neg hb, min_eq_right h, sub_neg_eq_add]
  rw [combine_of_opposed (.inl ⟨ha, hb⟩), divisor, if_neg (by linarith)]

/-- Stronger evidence against leaves evidence against. -/
theorem combine_of_outweighed (ha : 0 ≤ a) (ha' : a < 1) (h : a < -b) :
    combine a b = (a + b) / (1 - a) := by
  have hb : b < 0 := by linarith
  have divisor : 1 - min |a| |b| = 1 - a := by
    rw [abs_of_nonneg ha, abs_of_neg hb, min_eq_left h.le]
  rw [combine_of_opposed (.inl ⟨ha, hb⟩), divisor, if_neg (by linarith)]

theorem combine_comm (a b : ℚ) : combine a b = combine b a := by
  rcases signs_cases a b with ⟨ha, hb⟩ | ⟨ha, hb⟩ | opposed
  · rw [combine_of_nonneg ha hb, combine_of_nonneg hb ha]
    ring
  · rw [combine_of_neg ha hb, combine_of_neg hb ha]
    ring
  · have opposed' : Opposed b a := opposed.symm.imp And.symm And.symm
    rw [combine_of_opposed opposed, combine_of_opposed opposed', min_comm, add_comm]

end Opposed

/-! ### Odds -/

/-- The odds that a factor stands for. -/
def odds (c : ℚ) : ℚ := if 0 ≤ c then 1 / (1 - c) else 1 + c

/-- The factor that stands for odds. -/
def ofOdds (w : ℚ) : ℚ := if 1 ≤ w then 1 - 1 / w else w - 1

section Odds

variable {a b c w : ℚ}

theorem odds_of_nonneg (h : 0 ≤ c) : odds c = 1 / (1 - c) := if_pos h

theorem odds_of_neg (h : c < 0) : odds c = 1 + c := if_neg (not_le.2 h)

/-- A number is a factor short of full strength if its odds are positive. -/
theorem odds_pos_iff : 0 < odds c ↔ Doubtful c := by
  unfold odds Doubtful
  split_ifs with favour
  · rw [one_div_pos, sub_pos]
    exact (and_iff_right (by linarith)).symm
  · rw [← neg_lt_iff_pos_add']
    exact (and_iff_left (by linarith)).symm

/-- A factor is determined by its odds. -/
theorem ofOdds_odds (h : Doubtful c) : ofOdds (odds c) = c := by
  rcases le_or_gt 0 c with favour | against
  · have : 1 ≤ 1 / (1 - c) := (one_le_div (sub_pos.2 h.2)).2 (by linarith)
    rw [odds_of_nonneg favour, ofOdds, if_pos this, one_div_one_div, sub_sub_cancel]
  · rw [odds_of_neg against, ofOdds, if_neg (by linarith), add_sub_cancel_left]

theorem eq_of_odds (ha : Doubtful a) (hb : Doubtful b) (h : odds a = odds b) : a = b := by
  rw [← ofOdds_odds ha, h, ofOdds_odds hb]

theorem odds_zero : odds 0 = 1 := by
  rw [odds_of_nonneg le_rfl, sub_zero, one_div_one]

/-- Opposite evidence of the same strength has the inverse odds. -/
theorem odds_neg (c : ℚ) : odds (-c) = 1 / odds c := by
  rcases lt_trichotomy c 0 with against | rfl | favour
  · rw [odds_of_nonneg (by linarith), odds_of_neg against, sub_neg_eq_add]
  · rw [neg_zero, odds_zero, one_div_one]
  · rw [odds_of_neg (by linarith), odds_of_nonneg favour.le, one_div_one_div, sub_eq_add_neg]

/-- Evidence of opposite signs multiplies odds, too. -/
theorem odds_combine_of_opposed (ha : Doubtful a) (hb : Doubtful b) (favour : 0 ≤ a)
    (against : b < 0) : odds (combine a b) = odds a * odds b := by
  have above : 0 < 1 - a := sub_pos.2 ha.2
  have below : 0 < 1 + b := by linarith [hb.1]
  rw [odds_of_nonneg favour, odds_of_neg against]
  rcases le_or_gt (-b) a with stronger | weaker
  · have joined : 0 ≤ (a + b) / (1 + b) := div_nonneg (by linarith) below.le
    rw [combine_of_favoured against hb.1 stronger, odds_of_nonneg joined]
    have rest : 1 - (a + b) / (1 + b) = (1 - a) / (1 + b) := by
      field_simp
      ring
    rw [rest, one_div_div, one_div_mul_eq_div]
  · have joined : (a + b) / (1 - a) < 0 := div_neg_of_neg_of_pos (by linarith) above
    rw [combine_of_outweighed favour ha.2 weaker, odds_of_neg joined]
    field_simp
    ring

/-- **Joining factors multiplies their odds.** -/
theorem odds_combine (ha : Doubtful a) (hb : Doubtful b) :
    odds (combine a b) = odds a * odds b := by
  rcases signs_cases a b with
    ⟨favour, favour'⟩ | ⟨against, against'⟩ | ⟨favour, against⟩ | ⟨against, favour⟩
  · have joined : 0 ≤ combine a b := (combine_mem_unit ⟨favour, ha.2.le⟩ ⟨favour', hb.2.le⟩).1
    rw [odds_of_nonneg joined, combine_eq ⟨favour, ha.2.le⟩ ⟨favour', hb.2.le⟩, sub_sub_cancel,
      odds_of_nonneg favour, odds_of_nonneg favour', one_div_mul_one_div]
  · have joined : 1 + combine a b = (1 + a) * (1 + b) := by
      rw [combine_of_neg against against']
      ring
    have below : combine a b < 0 := by
      have := mul_neg_of_neg_of_pos against' (by linarith [ha.1] : 0 < 1 + a)
      rw [combine_of_neg against against']
      linarith
    rw [odds_of_neg below, joined, odds_of_neg against, odds_of_neg against']
  · exact odds_combine_of_opposed ha hb favour against
  · rw [combine_comm, odds_combine_of_opposed hb ha favour against, mul_comm]

end Odds

/-! ### The laws of joining -/

section Laws

variable {a b c : ℚ}

theorem doubtful_zero : Doubtful 0 := by norm_num [Doubtful]

theorem doubtful_neg (h : Doubtful c) : Doubtful (-c) := ⟨neg_lt_neg h.2, by linarith [h.1]⟩

theorem doubtful_combine (ha : Doubtful a) (hb : Doubtful b) : Doubtful (combine a b) := by
  rw [← odds_pos_iff, odds_combine ha hb]
  exact mul_pos (odds_pos_iff.2 ha) (odds_pos_iff.2 hb)

theorem combine_assoc (ha : Doubtful a) (hb : Doubtful b) (hc : Doubtful c) :
    combine (combine a b) c = combine a (combine b c) := by
  have hab := doubtful_combine ha hb
  have hbc := doubtful_combine hb hc
  refine eq_of_odds (doubtful_combine hab hc) (doubtful_combine ha hbc) ?_
  rw [odds_combine hab hc, odds_combine ha hb, odds_combine ha hbc, odds_combine hb hc, mul_assoc]

theorem combine_zero (ha : Doubtful a) : combine a 0 = a := by
  refine eq_of_odds (doubtful_combine ha doubtful_zero) ha ?_
  rw [odds_combine ha doubtful_zero, odds_zero, mul_one]

theorem combine_neg_self (ha : Doubtful a) : combine a (-a) = 0 := by
  have ha' := doubtful_neg ha
  refine eq_of_odds (doubtful_combine ha ha') doubtful_zero ?_
  rw [odds_combine ha ha', odds_neg, odds_zero, mul_one_div_cancel (odds_pos_iff.2 ha).ne']

/-- Opposed evidence stays in range. -/
theorem inRange_combine_of_opposed (ha : a ≤ 1) (hb : -1 ≤ b) (favour : 0 ≤ a) (against : b < 0) :
    InRange (combine a b) := by
  rw [combine_of_opposed (.inl ⟨favour, against⟩), abs_of_nonneg favour, abs_of_neg against]
  split_ifs with conflict
  · norm_num [InRange]
  · have divisor : 0 < 1 - min a (-b) := not_le.1 conflict
    have := min_le_left a (-b)
    have := min_le_right a (-b)
    exact ⟨(le_div_iff₀ divisor).2 (by linarith), (div_le_one divisor).2 (by linarith)⟩

theorem inRange_combine (ha : InRange a) (hb : InRange b) : InRange (combine a b) := by
  rcases signs_cases a b with
    ⟨favour, favour'⟩ | ⟨against, against'⟩ | ⟨favour, against⟩ | ⟨against, favour⟩
  · obtain ⟨low, high⟩ := combine_mem_unit ⟨favour, ha.2⟩ ⟨favour', hb.2⟩
    exact ⟨by linarith, high⟩
  · have := mul_nonneg (by linarith [ha.1] : 0 ≤ 1 + a) (by linarith [hb.1] : 0 ≤ 1 + b)
    have := mul_nonpos_of_nonpos_of_nonneg against'.le (by linarith [ha.1] : 0 ≤ 1 + a)
    rw [combine_of_neg against against']
    constructor <;> linarith
  · exact inRange_combine_of_opposed ha.2 hb.1 favour against
  · rw [combine_comm]
    exact inRange_combine_of_opposed hb.2 ha.1 favour against

/-- Join two factors with any way to divide in place of division. -/
def combineBy (divide : ℚ → ℚ → ℚ) (a b : ℚ) : ℚ :=
  @combine ℚ _ _ _ _ _ ⟨divide⟩ _ _ _ _ a b

/-- What a division by zero would lead to makes no difference. -/
theorem combineBy_eq {divide : ℚ → ℚ → ℚ} (agrees : ∀ x y, y ≠ 0 → divide x y = x / y) (a b : ℚ) :
    combineBy divide a b = combine a b := by
  unfold combineBy combine
  refine if_congr Iff.rfl rfl (if_congr Iff.rfl rfl ?_)
  split_ifs with conflict
  · rfl
  · exact agrees _ _ (not_le.1 conflict).ne'

end Laws

/-- **Joining makes the factors short of full strength an abelian group**, in which nothing is the
identity and the opposite evidence the inverse.  Factors of full strength are joined to factors,
too, in either order; for and against they come to nothing.  There is never a division by zero: what
it would lead to makes no difference. -/
theorem combine_group :
    (∀ a b c : ℚ, Doubtful a → Doubtful b → Doubtful c →
      Doubtful (combine a b) ∧ combine a b = combine b a ∧
        combine (combine a b) c = combine a (combine b c)) ∧
      (Doubtful 0 ∧ ∀ a : ℚ, Doubtful a → combine a 0 = a ∧ combine 0 a = a ∧
        Doubtful (-a) ∧ combine a (-a) = 0 ∧ combine (-a) a = 0) ∧
      (∀ a b : ℚ, InRange a → InRange b → InRange (combine a b) ∧ combine a b = combine b a) ∧
      (combine (1 : ℚ) (-1) = 0 ∧ combine (-1 : ℚ) 1 = 0) ∧
      ∀ divide : ℚ → ℚ → ℚ, (∀ x y, y ≠ 0 → divide x y = x / y) →
        ∀ a b, combineBy divide a b = combine a b := by
  refine ⟨fun a b c ha hb hc => ?_, ⟨doubtful_zero, fun a ha => ?_⟩, fun a b ha hb => ?_, ?_,
    fun divide agrees => combineBy_eq agrees⟩
  · exact ⟨doubtful_combine ha hb, combine_comm a b, combine_assoc ha hb hc⟩
  · refine ⟨combine_zero ha, ?_, doubtful_neg ha, combine_neg_self ha, ?_⟩
    · rw [combine_comm, combine_zero ha]
    · rw [combine_comm, combine_neg_self ha]
  · exact ⟨inRange_combine ha hb, combine_comm a b⟩
  · have conflict : combine (1 : ℚ) (-1) = 0 := by
      rw [combine_of_opposed (.inl (by norm_num))]
      norm_num
    exact ⟨conflict, (combine_comm _ _).trans conflict⟩

/-- Three factors of which the first two come to evidence in favour, and all together to evidence
against. -/
theorem combine_group_mixed :
    combine (3 / 5 : ℚ) (-2 / 5) = 1 / 3 ∧ combine (1 / 3 : ℚ) (-1 / 2) = -1 / 4 ∧
      combine (3 / 5 : ℚ) (combine (-2 / 5) (-1 / 2)) = -1 / 4 := by
  have first : combine (3 / 5 : ℚ) (-2 / 5) = 1 / 3 := by
    rw [combine_of_favoured] <;> norm_num
  have second : combine (1 / 3 : ℚ) (-1 / 2) = -1 / 4 := by
    rw [combine_of_outweighed] <;> norm_num
  obtain ⟨-, -, assoc⟩ := combine_group.1 (3 / 5) (-2 / 5) (-1 / 2)
    (by norm_num [Doubtful]) (by norm_num [Doubtful]) (by norm_num [Doubtful])
  exact ⟨first, second, by rw [← assoc, first, second]⟩

end CallToAction.Certainty
