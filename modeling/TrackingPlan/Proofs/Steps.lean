import Mathlib.Data.List.Forall2

/-!
# Taking steps apart

A computation that gave a result gave one at each of its steps.  These equivalences take a `do`
block apart step by step, for steps that may fail and for steps that also change a state; and what
was made of a list one by one is found on the other side.
-/

namespace TrackingPlan

/-! ## §1 Steps that may fail -/

section Except

variable {ε ε' α β : Type}

theorem except_bind_eq_ok {x : Except ε α} {f : α → Except ε β} {b : β} :
    (x >>= f) = .ok b ↔ ∃ a, x = .ok a ∧ f a = .ok b := by
  cases x with
  | error e => exact ⟨nofun, nofun⟩
  | ok a => exact ⟨fun h => ⟨a, rfl, h⟩, fun ⟨_, rfl, h⟩ => h⟩

theorem except_bind_eq_error {x : Except ε α} {f : α → Except ε β} {e : ε} :
    (x >>= f) = .error e ↔ x = .error e ∨ ∃ a, x = .ok a ∧ f a = .error e := by
  cases x with
  | error e' =>
    refine ⟨fun h => .inl (congrArg Except.error (Except.error.inj h)), fun h => ?_⟩
    rcases h with h | ⟨a, ha, -⟩
    · exact congrArg Except.error (Except.error.inj h)
    · cases ha
  | ok a => exact ⟨fun h => .inr ⟨a, rfl, h⟩, fun h => h.elim nofun fun ⟨_, rfl, h⟩ => h⟩

theorem except_pure_eq_ok {a b : α} : (pure a : Except ε α) = .ok b ↔ a = b :=
  ⟨Except.ok.inj, congrArg Except.ok⟩

theorem except_map_eq_ok {x : Except ε α} {f : α → β} {b : β} :
    x.map f = .ok b ↔ ∃ a, x = .ok a ∧ f a = b := by
  cases x with
  | error e => exact ⟨nofun, nofun⟩
  | ok a => exact ⟨fun h => ⟨a, rfl, Except.ok.inj h⟩, fun ⟨_, rfl, h⟩ => congrArg Except.ok h⟩

/-- What never succeeds fails. -/
theorem exists_error_of_not_ok {x : Except ε α} (h : ∀ a, x ≠ .ok a) : ∃ e, x = .error e := by
  cases x with
  | error e => exact ⟨e, rfl⟩
  | ok a => exact absurd rfl (h a)

theorem except_mapError_eq_ok {x : Except ε α} {f : ε → ε'} {a : α} :
    x.mapError f = .ok a ↔ x = .ok a := by
  cases x with
  | error e => exact ⟨nofun, nofun⟩
  | ok a =>
    exact ⟨fun h => congrArg Except.ok (Except.ok.inj h),
      fun h => congrArg Except.ok (Except.ok.inj h)⟩

theorem except_toOption_eq_some {x : Except ε α} {a : α} : x.toOption = some a ↔ x = .ok a := by
  cases x with
  | error e => exact ⟨nofun, nofun⟩
  | ok b => exact ⟨fun h => congrArg Except.ok (Option.some.inj h), fun h => h ▸ rfl⟩

end Except

/-! ## §2 Steps that also change a state -/

section State

variable {σ ε α β : Type}

theorem state_bind_eq_ok {m : StateT σ (Except ε) α} {f : α → StateT σ (Except ε) β} {s s' : σ}
    {b : β} : (m >>= f).run s = .ok (b, s') ↔
      ∃ a s₁, m.run s = .ok (a, s₁) ∧ (f a).run s₁ = .ok (b, s') := by
  rw [StateT.run_bind, except_bind_eq_ok]
  exact ⟨fun ⟨⟨a, s₁⟩, h⟩ => ⟨a, s₁, h⟩, fun ⟨a, s₁, h⟩ => ⟨(a, s₁), h⟩⟩

theorem state_bind_eq_error {m : StateT σ (Except ε) α} {f : α → StateT σ (Except ε) β} {s : σ}
    {e : ε} : (m >>= f).run s = .error e ↔
      m.run s = .error e ∨ ∃ a s₁, m.run s = .ok (a, s₁) ∧ (f a).run s₁ = .error e := by
  rw [StateT.run_bind, except_bind_eq_error]
  exact or_congr Iff.rfl
    ⟨fun ⟨⟨a, s₁⟩, h⟩ => ⟨a, s₁, h⟩, fun ⟨a, s₁, h⟩ => ⟨(a, s₁), h⟩⟩

theorem state_pure_eq_ok {a b : α} {s s' : σ} :
    (pure a : StateT σ (Except ε) α).run s = .ok (b, s') ↔ a = b ∧ s = s' := by
  rw [StateT.run_pure, except_pure_eq_ok, Prod.mk.injEq]

theorem state_get_eq_ok {s s' t : σ} :
    (get : StateT σ (Except ε) σ).run s = .ok (t, s') ↔ s = t ∧ s = s' :=
  state_pure_eq_ok (a := s)

theorem state_set_eq_ok {s s' t : σ} {u : PUnit} :
    (set t : StateT σ (Except ε) PUnit).run s = .ok (u, s') ↔ t = s' :=
  ⟨fun h => (Prod.mk.inj (Except.ok.inj h)).2, fun h => h ▸ rfl⟩

theorem state_modify_eq_ok {f : σ → σ} {s s' : σ} {u : PUnit} :
    (modify f : StateT σ (Except ε) PUnit).run s = .ok (u, s') ↔ f s = s' :=
  ⟨fun h => (Prod.mk.inj (Except.ok.inj h)).2, fun h => h ▸ rfl⟩

/-- A step that only may fail leaves the state as it is. -/
theorem state_lift_eq_ok {x : Except ε α} {s s' : σ} {a : α} :
    (liftM x : StateT σ (Except ε) α).run s = .ok (a, s') ↔ x = .ok a ∧ s = s' := by
  cases x with
  | error e => exact ⟨nofun, nofun⟩
  | ok b =>
    refine Iff.trans (b := (b, s) = (a, s')) ⟨Except.ok.inj, congrArg Except.ok⟩ ?_
    rw [Prod.mk.injEq, Except.ok.injEq]

theorem state_lift_eq_error {x : Except ε α} {s : σ} {e : ε} :
    (liftM x : StateT σ (Except ε) α).run s = .error e ↔ x = .error e := by
  cases x with
  | error e' =>
    exact ⟨fun h => congrArg Except.error (Except.error.inj h),
      fun h => congrArg Except.error (Except.error.inj h)⟩
  | ok a => exact ⟨nofun, nofun⟩

end State

/-! ## §3 Lists made one by one -/

section Forall₂

variable {α β : Type} {R : α → β → Prop} {xs : List α} {ys : List β}

theorem exists_right_of_forall₂ (h : List.Forall₂ R xs ys) {x : α} (hx : x ∈ xs) :
    ∃ y ∈ ys, R x y := by
  induction h with
  | nil => exact absurd hx List.not_mem_nil
  | @cons a b _ rest hab _ ih =>
    rcases List.mem_cons.mp hx with rfl | hmem
    · exact ⟨b, List.mem_cons_self, hab⟩
    · obtain ⟨y, hy, hxy⟩ := ih hmem
      exact ⟨y, List.mem_cons_of_mem b hy, hxy⟩

theorem exists_left_of_forall₂ (h : List.Forall₂ R xs ys) {y : β} (hy : y ∈ ys) :
    ∃ x ∈ xs, R x y :=
  exists_right_of_forall₂ (R := flip R) (List.Forall₂.flip h) hy

/-- What stands beside an element is zipped with what is made of the element. -/
theorem exists_zip_of_forall₂ {γ : Type} (f : α → γ) (h : List.Forall₂ R xs ys) {x : α}
    (hx : x ∈ xs) : ∃ y, R x y ∧ (y, f x) ∈ ys.zip (xs.map f) := by
  induction h with
  | nil => exact absurd hx List.not_mem_nil
  | @cons a b _ rest hab _ ih =>
    rcases List.mem_cons.mp hx with rfl | hmem
    · exact ⟨b, hab, List.mem_cons_self⟩
    · obtain ⟨y, hxy, hy⟩ := ih hmem
      exact ⟨y, hxy, List.mem_cons_of_mem _ hy⟩

end Forall₂

section ForM

variable {ε α : Type} {f : α → Except ε Unit} {xs : List α} {e : ε}

/-- All that is done to a list one by one succeeds if it does for each. -/
theorem forM_eq_ok_iff : xs.forM f = .ok () ↔ ∀ x ∈ xs, f x = .ok () := by
  induction xs with
  | nil => exact iff_of_true rfl nofun
  | cons x rest ih =>
    show (f x >>= fun _ => rest.forM f) = .ok () ↔ _
    rw [except_bind_eq_ok, List.forall_mem_cons, ← ih]
    exact ⟨fun ⟨(), hx, hrest⟩ => ⟨hx, hrest⟩, fun ⟨hx, hrest⟩ => ⟨(), hx, hrest⟩⟩

/-- What is done to a list one by one fails where it first does. -/
theorem exists_first_of_forM_eq_error (h : xs.forM f = .error e) :
    ∃ before x after, xs = before ++ x :: after ∧ (∀ y ∈ before, f y = .ok ()) ∧
      f x = .error e := by
  induction xs with
  | nil => cases h
  | cons x rest ih =>
    replace h : (f x >>= fun _ => rest.forM f) = .error e := h
    rcases except_bind_eq_error.mp h with hx | ⟨_, hx, hrest⟩
    · exact ⟨[], x, rest, rfl, nofun, hx⟩
    · obtain ⟨before, y, after, rfl, hbefore, hy⟩ := ih hrest
      exact ⟨x :: before, y, after, rfl, List.forall_mem_cons.mpr ⟨hx, hbefore⟩, hy⟩

end ForM

section MapM

variable {ε α β : Type}

/-- What comes out of a list stands in its order. -/
theorem mapM_eq_ok_iff {f : α → Except ε β} {xs : List α} {ys : List β} :
    xs.mapM f = .ok ys ↔ List.Forall₂ (fun x y => f x = .ok y) xs ys := by
  induction xs generalizing ys with
  | nil =>
    rw [List.mapM_nil, List.forall₂_nil_left_iff, except_pure_eq_ok]
    exact eq_comm
  | cons x rest ih =>
    rw [List.mapM_cons, List.forall₂_cons_left_iff]
    constructor
    · intro h
      obtain ⟨b, hb, h⟩ := except_bind_eq_ok.mp h
      obtain ⟨bs, hbs, h⟩ := except_bind_eq_ok.mp h
      exact ⟨b, bs, hb, ih.mp hbs, (except_pure_eq_ok.mp h).symm⟩
    · rintro ⟨b, bs, hb, hbs, rfl⟩
      rw [hb, ih.mpr hbs]
      rfl

/-- What comes out of a list was made of something in it. -/
theorem exists_mem_of_mapM_eq_ok {f : α → Except ε β} {xs : List α} {ys : List β}
    (h : xs.mapM f = .ok ys) : ∀ y ∈ ys, ∃ x ∈ xs, f x = .ok y :=
  fun _ hy => exists_left_of_forall₂ (mapM_eq_ok_iff.mp h) hy

/-- Where something comes out of a list, it does so for all that is in it. -/
theorem exists_of_mapM_eq_ok {f : α → Except ε β} {xs : List α} {ys : List β}
    (h : xs.mapM f = .ok ys) {x : α} (hx : x ∈ xs) : ∃ y, f x = .ok y := by
  obtain ⟨y, -, hy⟩ := exists_right_of_forall₂ (mapM_eq_ok_iff.mp h) hx
  exact ⟨y, hy⟩

theorem exists_mem_of_mapM_eq_some {f : α → Option β} {xs : List α} :
    ∀ {ys : List β}, xs.mapM f = some ys → ∀ y ∈ ys, ∃ x ∈ xs, f x = some y := by
  induction xs with
  | nil =>
    intro ys h y hy
    obtain rfl := Option.some.inj h
    exact absurd hy List.not_mem_nil
  | cons x rest ih =>
    intro ys h y hy
    rw [List.mapM_cons] at h
    obtain ⟨b, hb, h⟩ := Option.bind_eq_some_iff.mp h
    obtain ⟨bs, hbs, h⟩ := Option.bind_eq_some_iff.mp h
    obtain rfl := Option.some.inj h
    rcases List.mem_cons.mp hy with rfl | hmem
    · exact ⟨x, List.mem_cons_self, hb⟩
    · obtain ⟨x', hx', hfx'⟩ := ih hbs y hmem
      exact ⟨x', List.mem_cons_of_mem x hx', hfx'⟩

end MapM

end TrackingPlan
