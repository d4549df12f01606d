import PhoneAudio.CaptureRate

/-!
# The closest capture rate

The search for the rate closest to a request ends as soon as the distance grows. Over rates in
ascending order, what it finds is as close as any rate, and of two that are equally close it is the
higher one (`PhoneAudio.CaptureRate.closest_isClosest`). It follows that rates that can be delivered
are found as they are, and that a higher request never comes to a lower rate.
-/

namespace PhoneAudio

namespace CaptureRate

/-- A rate is the closest to a requested one among rates: no other is closer, and those that are
equally close are lower. -/
structure IsClosest (requested : UInt32) (rates : List UInt32) (rate : UInt32) : Prop where
  mem : rate ∈ rates
  least : ∀ other ∈ rates, distance rate requested ≤ distance other requested
  highest : ∀ other ∈ rates, distance other requested = distance rate requested → other ≤ rate

variable {requested rate other : UInt32}

theorem distance_eq (a b : UInt32) :
    distance a b = max a.toNat b.toNat - min a.toNat b.toNat :=
  rfl

theorem distance_self (rate : UInt32) : distance rate rate = 0 := by
  rw [distance_eq]
  omega

/-- Rates without a distance are the same. -/
theorem eq_of_distance_eq_zero (zero : distance rate other = 0) : rate = other := by
  rw [distance_eq] at zero
  apply UInt32.toNat.inj
  omega

/-- Two rates are equally close only to the middle between them. -/
theorem add_eq_of_tie (lower : rate < other)
    (tie : distance rate requested = distance other requested) :
    rate.toNat + other.toNat = 2 * requested.toNat := by
  rw [UInt32.lt_iff_toNat_lt] at lower
  rw [distance_eq, distance_eq] at tie
  omega

/-- What lies between two rates that are equally close is closer. -/
theorem distance_lt_of_between {upper : UInt32} (above : rate < other) (below : other < upper)
    (tie : distance rate requested = distance upper requested) :
    distance other requested < distance upper requested := by
  rw [UInt32.lt_iff_toNat_lt] at above below
  rw [distance_eq, distance_eq] at tie ⊢
  omega

/-- Once the distance has grown, it goes on growing. -/
theorem distance_lt_of_grows {best : UInt32} (ascends : best < rate)
    (grows : distance best requested < distance rate requested) (above : rate ≤ other) :
    distance best requested < distance other requested := by
  rw [UInt32.lt_iff_toNat_lt] at ascends
  rw [UInt32.le_iff_toNat_le] at above
  rw [distance_eq, distance_eq] at grows ⊢
  omega

/-- **The search** through ascending rates finds the closest one. -/
theorem closest_isClosest (requested best : UInt32) (rates : List UInt32)
    (ascending : (best :: rates).Pairwise (· < ·)) :
    IsClosest requested (best :: rates)
      (closest requested best (distance best requested) rates) := by
  induction rates generalizing best with
  | nil =>
      refine ⟨List.mem_singleton_self best, fun other member => ?_, fun other member _ => ?_⟩
      · rw [List.mem_singleton.mp member]
        exact Nat.le_refl _
      · rw [List.mem_singleton.mp member]
        exact UInt32.le_refl best
  | cons rate rest ih =>
      obtain ⟨above, sorted⟩ := List.pairwise_cons.mp ascending
      have ascends : best < rate := above rate List.mem_cons_self
      rw [closest]
      split
      · -- The search ends here, and all that is left is farther away.
        rename_i grows
        have farther : ∀ other ∈ rate :: rest,
            distance best requested < distance other requested := by
          intro other member
          refine distance_lt_of_grows ascends grows ?_
          rcases List.mem_cons.mp member with rfl | later
          · exact UInt32.le_refl other
          · exact UInt32.le_of_lt (List.rel_of_pairwise_cons sorted later)
        refine ⟨List.mem_cons_self, fun other member => ?_, fun other member tie => ?_⟩
        · rcases List.mem_cons.mp member with rfl | later
          · exact Nat.le_refl _
          · exact Nat.le_of_lt (farther other later)
        · rcases List.mem_cons.mp member with rfl | later
          · exact UInt32.le_refl other
          · exact absurd tie (Nat.ne_of_gt (farther other later))
      · -- The next rate is at least as close, and what is found from it on is higher.
        rename_i holds
        have found := ih rate sorted
        have near := Nat.le_trans (found.least rate List.mem_cons_self) (Nat.not_lt.mp holds)
        refine ⟨List.mem_cons_of_mem best found.mem, fun other member => ?_,
          fun other member tie => ?_⟩
        · rcases List.mem_cons.mp member with rfl | later
          · exact near
          · exact found.least other later
        · rcases List.mem_cons.mp member with rfl | later
          · exact UInt32.le_of_lt (above _ found.mem)
          · exact found.highest other later tie

namespace IsClosest

variable {rates : List UInt32} {higher found : UInt32}

/-- A rate that is there is the closest to itself. -/
theorem eq_of_mem (closest : IsClosest rate rates found) (member : rate ∈ rates) :
    found = rate := by
  have near := closest.least rate member
  rw [distance_self] at near
  exact eq_of_distance_eq_zero (Nat.eq_zero_of_le_zero near)

/-- A higher request does not come to a lower rate. -/
theorem le_of_le (closest : IsClosest requested rates rate)
    (closestToHigher : IsClosest higher rates found) (le : requested ≤ higher) :
    rate ≤ found := by
  refine UInt32.not_lt.mp fun lower => ?_
  -- The lower rate would have to be closer to the higher request, as ties go to the higher rate.
  have near := closest.least found closestToHigher.mem
  have nearer : distance found higher < distance rate higher := by
    refine Nat.lt_of_le_of_ne (closestToHigher.least rate closest.mem) fun tie => ?_
    exact UInt32.not_le.mpr lower (closestToHigher.highest rate closest.mem tie.symm)
  rw [UInt32.lt_iff_toNat_lt] at lower
  rw [UInt32.le_iff_toNat_le] at le
  rw [distance_eq, distance_eq] at near nearer
  omega

end IsClosest

/-- The nearest rate is a closest one. -/
theorem nearest_isClosest (requested : UInt32) :
    IsClosest requested supported (nearest requested) := by
  have near : ¬ UInt32.size - 1 < distance 8000 requested := by
    have bounded := requested.toNat_lt
    rw [distance_eq, UInt32.size]
    simp only [UInt32.reduceToNat]
    omega
  have begun : nearest requested =
      closest requested 8000 (distance 8000 requested) [11025, 16000, 22050, 44100] := by
    rw [nearest, supported, closest, if_neg near]
  rw [begun]
  exact closest_isClosest requested 8000 _ (by decide)

/-- The rate that is closest to any other is one that is supported. -/
theorem nearest_mem (requested : UInt32) : nearest requested ∈ supported :=
  (nearest_isClosest requested).mem

/-- The rates that are closest to themselves are those that are supported. -/
theorem nearest_eq_iff : nearest rate = rate ↔ rate ∈ supported := by
  refine ⟨fun same => ?_, (nearest_isClosest rate).eq_of_mem⟩
  rw [← same]
  exact nearest_mem rate

/-- No supported rate that is lower than the one found is as close to the request. -/
def TiesToLower (requested : UInt32) : Prop :=
  ∀ rate ∈ supported, distance rate requested = distance (nearest requested) requested →
    nearest requested ≤ rate

/-- Between neighbours among the supported rates, the middle is a rate for two pairs only. -/
theorem middle_of_neighbours :
    ∀ lower ∈ supported.map UInt32.toNat, ∀ upper ∈ supported.map UInt32.toNat, lower < upper →
      (∀ rate ∈ supported.map UInt32.toNat, ¬ (lower < rate ∧ rate < upper)) →
        (lower + upper) % 2 = 1 ∨ lower + upper = 2 * 19025 ∨ lower + upper = 2 * 33075 := by
  decide

/-- Ties go to the higher rate, and there are only two. -/
theorem tiesToLower_iff : TiesToLower requested ↔ requested ≠ 19025 ∧ requested ≠ 33075 := by
  constructor
  · refine fun lowest => ⟨?_, ?_⟩
    · rintro rfl
      exact absurd (lowest 16000 (by decide) (by decide)) (by decide)
    · rintro rfl
      exact absurd (lowest 22050 (by decide) (by decide)) (by decide)
  · rintro ⟨first, second⟩ rate member tie
    refine UInt32.not_lt.mp fun lower => ?_
    have closest := nearest_isClosest requested
    have middle := add_eq_of_tie lower tie
    have neighbours : ∀ other ∈ supported, ¬ (rate < other ∧ other < nearest requested) :=
      fun other there between =>
        Nat.not_le.mpr (distance_lt_of_between between.1 between.2 tie) (closest.least other there)
    have pairs := middle_of_neighbours rate.toNat (List.mem_map_of_mem member)
      (nearest requested).toNat (List.mem_map_of_mem closest.mem) lower
      (List.forall_mem_map.mpr neighbours)
    rw [Ne, ← UInt32.toNat_inj] at first second
    simp only [UInt32.reduceToNat] at first second
    omega

/-- **The nearest rate.** The rate found for a request is the supported rate that is closest to it,
and the higher one where two are equally close, which is so for two requests only. A rate that was
found is found again, and a higher request does not come to a lower rate. -/
theorem nearest_projects (requested : UInt32) :
    IsClosest requested supported (nearest requested) ∧
      nearest (nearest requested) = nearest requested ∧
      (∀ higher, requested ≤ higher → nearest requested ≤ nearest higher) ∧
      (TiesToLower requested ↔ requested ≠ 19025 ∧ requested ≠ 33075) := by
  have closest := nearest_isClosest requested
  refine ⟨closest, nearest_eq_iff.mpr closest.mem, fun higher le => ?_, tiesToLower_iff⟩
  exact closest.le_of_le (nearest_isClosest higher) le

/-- Half way from 16000 to 22050, the higher rate is found. -/
theorem not_tiesToLower : ¬ ∀ requested, TiesToLower requested := by
  intro lowest
  exact absurd (lowest 19025 16000 (by decide) (by decide)) (by decide)

end CaptureRate

end PhoneAudio
