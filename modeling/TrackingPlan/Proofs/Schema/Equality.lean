import TrackingPlan.Schema.Type

/-!
# Types that compare as the same are equal

A nested object that is declared again under its name is compared with the one that is kept, through
all that stands in it.  What passes the comparison is the kept type itself, so nothing is lost where
one of two such declarations is forgotten.
-/

namespace TrackingPlan

mutual
/-- **Types that are the same throughout are equal.** -/
theorem PropertyType.eq_of_same : ∀ {t u : PropertyType}, t.same u = true → t = u
  | .scalar j, .scalar k, h => by
    rw [PropertyType.same, beq_iff_eq] at h
    rw [h]
  | .enumeration d, .enumeration e, h => by
    rw [PropertyType.same, beq_iff_eq] at h
    rw [h]
  | .array t, .array u, h => by
    rw [PropertyType.same] at h
    rw [t.eq_of_same h]
  | .record ⟨n, d, fs⟩, .record ⟨m, e, gs⟩, h => by
    simp only [PropertyType.same, Bool.and_eq_true, beq_iff_eq] at h
    obtain ⟨⟨rfl, rfl⟩, hfields⟩ := h
    rw [eq_of_sameFields hfields]
  | .variant ⟨n, d, disc, cs, dflt⟩, .variant ⟨m, e, disc', cs', dflt'⟩, h => by
    simp only [PropertyType.same, Bool.and_eq_true, beq_iff_eq] at h
    obtain ⟨⟨⟨⟨rfl, rfl⟩, hdisc⟩, hcases⟩, hdefault⟩ := h
    rw [eq_of_sameDiscriminator hdisc, eq_of_sameCases hcases, eq_of_sameDefault hdefault]
  | .aliasType ⟨n, d, t⟩, .aliasType ⟨m, e, u⟩, h => by
    simp only [PropertyType.same, Bool.and_eq_true, beq_iff_eq] at h
    obtain ⟨⟨rfl, rfl⟩, htarget⟩ := h
    rw [t.eq_of_same htarget]
  | .untyped j, .untyped k, h => by
    rw [PropertyType.same, beq_iff_eq] at h
    rw [h]
termination_by structural t => t

theorem eq_of_sameFields : ∀ {fs gs : List Field}, sameFields fs gs = true → fs = gs
  | [], [], _ => rfl
  | ⟨k, t, r, d⟩ :: fs, ⟨l, u, s, e⟩ :: gs, h => by
    simp only [sameFields, Bool.and_eq_true, beq_iff_eq] at h
    obtain ⟨⟨⟨⟨rfl, htype⟩, rfl⟩, rfl⟩, hrest⟩ := h
    rw [t.eq_of_same htype, eq_of_sameFields hrest]
termination_by structural fs => fs

theorem eq_of_sameDiscriminator : ∀ {d e : Option Discriminator},
    sameDiscriminator d e = true → d = e
  | none, none, _ => rfl
  | some ⟨k, t, d⟩, some ⟨l, u, e⟩, h => by
    simp only [sameDiscriminator, Bool.and_eq_true, beq_iff_eq] at h
    obtain ⟨⟨rfl, htype⟩, rfl⟩ := h
    rw [t.eq_of_same htype]
termination_by structural d => d

theorem eq_of_sameCases : ∀ {cs ds : List VariantCase}, sameCases cs ds = true → cs = ds
  | [], [], _ => rfl
  | ⟨n, t, d, fs⟩ :: cs, ⟨m, u, e, gs⟩ :: ds, h => by
    simp only [sameCases, Bool.and_eq_true, beq_iff_eq] at h
    obtain ⟨⟨⟨⟨rfl, rfl⟩, rfl⟩, hfields⟩, hrest⟩ := h
    rw [eq_of_sameFields hfields, eq_of_sameCases hrest]
termination_by structural cs => cs

theorem eq_of_sameDefault : ∀ {c d : Option VariantCase}, sameDefault c d = true → c = d
  | none, none, _ => rfl
  | some ⟨n, t, d, fs⟩, some ⟨m, u, e, gs⟩, h => by
    simp only [sameDefault, Bool.and_eq_true, beq_iff_eq] at h
    obtain ⟨⟨⟨rfl, rfl⟩, rfl⟩, hfields⟩ := h
    rw [eq_of_sameFields hfields]
termination_by structural c => c
end

end TrackingPlan
