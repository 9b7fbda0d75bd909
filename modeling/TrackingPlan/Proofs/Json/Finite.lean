import TrackingPlan.Json.Source
import TrackingPlan.Proofs.Binary64.Rounding
import TrackingPlan.Proofs.Json.ScalarText

/-!
# A text holds finite numbers only

A numeral that is read at all gives a finite number: a product is refused when it leaves the finite
numbers, and a significand of 64 bits is far from leaving them by four quotients
(`Numeral.isFinite_of_number?`).  The reader puts together what it has read, so the numbers of a
text are finite at every depth (`Source.finite_of_ofText?`).

§1 significands · §2 powers of ten · §3 numerals · §4 syntax trees · §5 texts.
-/

namespace TrackingPlan.Json

namespace Numeral

/-! ## §1 Significands -/

theorem gatherWhole_le (ds : List Nat) :
    ∀ sig, sig ≤ significandMax → (gatherWhole ds sig).1 ≤ significandMax := by
  induction ds with
  | nil => exact fun _ h => h
  | cons d rest ih =>
    intro sig h
    rw [gatherWhole]
    split
    · rename_i hfits
      exact ih _ hfits
    · exact h

theorem gatherFraction_le (ds : List Nat) :
    ∀ sig, sig ≤ significandMax → (gatherFraction ds sig).1 ≤ significandMax := by
  induction ds with
  | nil => exact fun _ h => h
  | cons d rest ih =>
    intro sig h
    rw [gatherFraction]
    split
    · rename_i hfits
      exact ih _ hfits
    · exact h

/-- A significand has 64 bits. -/
theorem magnitude_ofNat_le {sig : Nat} (h : sig ≤ significandMax) :
    (Binary64.ofNat sig).magnitude ≤ (1023 + 64) * Nat.pow 2 52 := by
  have hlt : sig < 1 * Nat.pow 2 64 := by
    have hmax : significandMax < 1 * Nat.pow 2 64 := by decide
    exact Nat.lt_of_le_of_lt h hmax
  exact Binary64.magnitude_ofRatio_le false hlt

/-! ## §2 Powers of ten -/

theorem le_magnitude_power (k : Nat) : 1023 * Nat.pow 2 52 ≤ (power k).magnitude :=
  Binary64.le_magnitude_ofRatio false Nat.one_pos (Nat.pow_pos (by decide))

/-- **Scaling ends in a finite number.**  Each quotient may lift the bits by two places of the
exponent. -/
theorem isFinite_of_scaleBy (steps : Nat) :
    ∀ {k : Nat} {x y : Binary64} {e : Int}, 1021 ≤ k → k + 2 * steps < 2047 →
      x.magnitude ≤ k * Nat.pow 2 52 → scaleBy steps x e = some y → y.isFinite = true := by
  induction steps with
  | zero =>
    intro k x y e _ hroom hx h
    obtain rfl := Option.some.inj h
    exact Binary64.isFinite_of_le hx hroom
  | succ steps ih =>
    intro k x y e hk hroom hx h
    -- a product is looked at before it is taken, so only quotients need the bound
    have hquotient : ∀ j, (x.div (power j)).magnitude ≤ (k + 2) * Nat.pow 2 52 :=
      fun j => Binary64.magnitude_div_le hx hk (le_magnitude_power j)
    rw [scaleBy] at h
    split at h
    · split at h
      · dsimp only at h
        split at h
        · rename_i hfinite
          obtain rfl := Option.some.inj h
          exact hfinite
        · cases h
      · obtain rfl := Option.some.inj h
        exact Binary64.isFinite_of_le (hquotient _) (by omega)
    · split at h
      · obtain rfl := Option.some.inj h
        exact Binary64.isFinite_of_le hx (by omega)
      · split at h
        · cases h
        · exact ih (by omega) (by omega) (hquotient _) h

/-! ## §3 Numerals -/

theorem isFinite_ofNat {sig : Nat} (h : sig ≤ significandMax) :
    (Binary64.ofNat sig).isFinite = true := by
  have hplace : 1023 + 64 < 2047 := by decide
  exact Binary64.isFinite_of_le (magnitude_ofNat_le h) hplace

theorem isFinite_of_float? {negative : Bool} {sig : Nat} {e : Int} {n : Number}
    (hsig : sig ≤ significandMax) (h : float? negative sig e = some n) : n.IsFinite := by
  obtain ⟨x, hx, h⟩ := Option.bind_eq_some_iff.mp h
  obtain rfl := Option.some.inj h
  have hfinite := isFinite_of_scaleBy 4 (by decide) (by decide) (magnitude_ofNat_le hsig) hx
  intro y hy
  obtain rfl := Number.float.inj hy
  cases negative with
  | false => exact hfinite
  | true => exact Binary64.isFinite_neg hfinite

theorem isFinite_integer (i : Int) : (Number.integer i).IsFinite := by
  intro x hx
  cases hx

/-- An exponent that is too long leaves zero or nothing. -/
theorem isFinite_of_exponent {negative below : Bool} {sig e : Nat} {power : Int} {n : Number}
    (hsig : sig ≤ significandMax)
    (h : (if exponentMax < e then if sig = 0 ∨ below = true then float? negative 0 0 else none
      else float? negative sig power) = some n) : n.IsFinite := by
  split at h
  · split at h
    · exact isFinite_of_float? (Nat.zero_le _) h
    · cases h
  · exact isFinite_of_float? hsig h

/-- **The number of a numeral is finite.** -/
theorem isFinite_of_number? {numeral : Numeral} {n : Number} (h : numeral.number? = some n) :
    n.IsFinite := by
  obtain ⟨negative, whole, fraction, exponent⟩ := numeral
  have hwhole := gatherWhole_le whole 0 (Nat.zero_le _)
  rw [number?] at h
  dsimp only at h
  generalize gatherWhole whole 0 = gathered at h hwhole
  cases fraction with
  | none =>
    cases exponent with
    | none =>
      dsimp only at h
      split at h
      · exact isFinite_of_float? hwhole h
      · split at h
        · obtain rfl := Option.some.inj h
          exact isFinite_integer _
        · split at h
          · obtain rfl := Option.some.inj h
            intro x hx
            obtain rfl := Number.float.inj hx
            exact Binary64.isFinite_neg (isFinite_ofNat hwhole)
          · obtain rfl := Option.some.inj h
            exact isFinite_integer _
    | some exponent => exact isFinite_of_exponent hwhole h
  | some ds =>
    have hfraction := gatherFraction_le ds gathered.1 hwhole
    cases exponent with
    | none => exact isFinite_of_float? hfraction h
    | some exponent => exact isFinite_of_exponent hfraction h

end Numeral

namespace Source

/-! ## §4 Syntax trees -/

/-- **A number stands in a tree**, at any depth. -/
inductive Holds (n : Number) : Source → Prop where
  | leaf : Holds n (.number (some n))
  | item {items : List Source} {s : Source} : s ∈ items → Holds n s → Holds n (.array items)
  | entry {entries : List (Option String × Source)} {e : Option String × Source} :
    e ∈ entries → Holds n e.2 → Holds n (.object entries)

/-- Every number in the tree is finite. -/
def IsFinite (s : Source) : Prop :=
  ∀ n, s.Holds n → n.IsFinite

theorem isFinite_number {number : Option Number} :
    (Source.number number).IsFinite ↔ ∀ n, number = some n → n.IsFinite := by
  constructor
  · rintro h n rfl
    exact h n .leaf
  · rintro h n ⟨⟩
    exact h n rfl

theorem isFinite_array {items : List Source} :
    (Source.array items).IsFinite ↔ ∀ s ∈ items, s.IsFinite := by
  constructor
  · exact fun h s hs n hn => h n (.item hs hn)
  · rintro h n hn
    cases hn with
    | item hs hn => exact h _ hs n hn

theorem isFinite_object {entries : List (Option String × Source)} :
    (Source.object entries).IsFinite ↔ ∀ e ∈ entries, e.2.IsFinite := by
  constructor
  · exact fun h e he n hn => h n (.entry he hn)
  · rintro h n hn
    cases hn with
    | entry he hn => exact h _ he n hn

/-! ## §5 Texts -/

theorem isFinite_of_readNumber {cs rest : List Char} {s : Source}
    (h : readNumber cs = some (s, rest)) : s.IsFinite := by
  have hnumeral : ∃ numeral : Numeral, s = .number numeral.number? := by
    unfold readNumber at h
    split at h
    all_goals
      obtain ⟨⟨numeral, rest'⟩, -, h⟩ := Option.bind_eq_some_iff.mp h
      exact ⟨numeral, (Prod.mk.inj (Option.some.inj h)).1.symm⟩
  obtain ⟨numeral, rfl⟩ := hnumeral
  exact isFinite_number.mpr fun n hn => Numeral.isFinite_of_number? hn

theorem isFinite_readers (fuel : Nat) :
    (∀ {cs rest s}, readValue fuel cs = some (s, rest) → s.IsFinite) ∧
    (∀ {acc cs rest s}, (∀ i ∈ acc, i.IsFinite) →
      readItems fuel acc cs = some (s, rest) → s.IsFinite) ∧
    ∀ {acc cs rest s}, (∀ e ∈ acc, e.2.IsFinite) →
      readEntries fuel acc cs = some (s, rest) → s.IsFinite := by
  induction fuel with
  | zero => exact ⟨nofun, fun _ => nofun, fun _ => nofun⟩
  | succ fuel ih =>
    obtain ⟨ihvalue, ihitems, ihentries⟩ := ih
    refine ⟨?_, ?_, ?_⟩
    · -- a value: four kinds of leaf without numbers, a list, an object, or a numeral
      intro cs rest s h
      rw [readValue] at h
      split at h
      · obtain ⟨rfl, -⟩ := Prod.mk.inj (Option.some.inj h)
        exact nofun
      · obtain ⟨rfl, -⟩ := Prod.mk.inj (Option.some.inj h)
        exact nofun
      · obtain ⟨rfl, -⟩ := Prod.mk.inj (Option.some.inj h)
        exact nofun
      · obtain ⟨⟨text, rest'⟩, -, h⟩ := Option.bind_eq_some_iff.mp h
        obtain ⟨rfl, -⟩ := Prod.mk.inj (Option.some.inj h)
        exact nofun
      · split at h
        · obtain ⟨rfl, -⟩ := Prod.mk.inj (Option.some.inj h)
          exact isFinite_array.mpr fun _ hs => absurd hs List.not_mem_nil
        · exact ihitems (fun _ hs => absurd hs List.not_mem_nil) h
      · split at h
        · obtain ⟨rfl, -⟩ := Prod.mk.inj (Option.some.inj h)
          exact isFinite_object.mpr fun _ he => absurd he List.not_mem_nil
        · exact ihentries (fun _ he => absurd he List.not_mem_nil) h
      · exact isFinite_of_readNumber h
    · -- the rest of a list: the items before it are finite, and so is the next one
      intro acc cs rest s hacc h
      rw [readItems] at h
      obtain ⟨⟨item, rest'⟩, hitem, h⟩ := Option.bind_eq_some_iff.mp h
      have hall : ∀ i ∈ item :: acc, i.IsFinite :=
        List.forall_mem_cons.mpr ⟨ihvalue hitem, hacc⟩
      dsimp only at h
      split at h
      · exact ihitems hall h
      · obtain ⟨rfl, -⟩ := Prod.mk.inj (Option.some.inj h)
        exact isFinite_array.mpr fun s hs => hall s (List.mem_reverse.mp hs)
      · cases h
    · intro acc cs rest s hacc h
      rw [readEntries] at h
      split at h
      · obtain ⟨⟨key, rest'⟩, -, h⟩ := Option.bind_eq_some_iff.mp h
        dsimp only at h
        split at h
        · obtain ⟨⟨value, rest'⟩, hvalue, h⟩ := Option.bind_eq_some_iff.mp h
          have hall : ∀ e ∈ (key, value) :: acc, e.2.IsFinite :=
            List.forall_mem_cons.mpr ⟨ihvalue hvalue, hacc⟩
          dsimp only at h
          split at h
          · exact ihentries hall h
          · obtain ⟨rfl, -⟩ := Prod.mk.inj (Option.some.inj h)
            exact isFinite_object.mpr fun e he => hall e (List.mem_reverse.mp he)
          · cases h
        · cases h
      · cases h

/-- **A text holds finite numbers only.** -/
theorem isFinite_of_ofText? {text : String} {s : Source} (h : ofText? text = some s) :
    s.IsFinite := by
  rw [ofText?] at h
  split at h
  · rename_i source rest hread
    split at h
    · obtain rfl := Option.some.inj h
      exact (isFinite_readers _).1 hread
    · cases h
  · cases h

theorem isFinite_of_value? {s : Source} {depth : Nat} {j : Json} (hs : s.IsFinite)
    (h : s.value? depth = some j) : j.IsFinite := by
  rintro n rfl
  cases s with
  | number m =>
    obtain ⟨m, rfl, hm⟩ := Option.map_eq_some_iff.mp h
    obtain rfl := Json.number.inj hm
    exact isFinite_number.mp hs _ rfl
  | null => cases h
  | bool b => cases h
  | string t =>
    obtain ⟨_, -, h⟩ := Option.map_eq_some_iff.mp h
    cases h
  | array items =>
    cases depth with
    | zero => cases h
    | succ depth =>
      obtain ⟨_, -, h⟩ := Option.map_eq_some_iff.mp h
      cases h
  | object entries =>
    cases depth with
    | zero => cases h
    | succ depth =>
      obtain ⟨_, -, h⟩ := Option.map_eq_some_iff.mp h
      cases h

end Source

end TrackingPlan.Json
