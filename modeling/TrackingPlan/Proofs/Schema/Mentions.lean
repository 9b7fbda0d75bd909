import TrackingPlan.Proofs.Schema.NamedTypes
import TrackingPlan.Proofs.Schema.TypeName

/-!
# Every named type that is mentioned is listed

A type is written with the names of the named types in it, lists aside: these it mentions.  The walk
meets every type that is mentioned by what it walks, so each type it has found mentions only ids
that were met (`NamedWalk.Closed`), and the list of named types is closed whatever the model.

§1 mentions · §2 the walk meets what is mentioned · §3 models.
-/

namespace TrackingPlan

namespace PropertyType

/-! ## §1 Mentions -/

/-- **The named types that a type is written with**: itself, or what the list is of. -/
def mentions : PropertyType → List TypeName
  | .scalar _ => []
  | .untyped _ => []
  | .array item => item.mentions
  | .enumeration e => [e.name]
  | .record r => [r.name]
  | .variant v => [v.name]
  | .aliasType a => [a.name]
termination_by structural t => t

theorem mentions_of_named {t : PropertyType} {name : TypeName} (h : t.name? = some name) :
    t.mentions = [name] := by
  cases t with
  | scalar kind => cases h
  | untyped kind => cases h
  | array item => cases h
  | _ =>
    obtain rfl := Option.some.inj h
    rfl

end PropertyType

/-! ## §2 The walk meets what is mentioned -/

/-- The ids that are mentioned by the parts of the type were met. -/
def NamedWalk.Closed (w : NamedWalk) (t : PropertyType) : Prop :=
  ∀ u ∈ t.parts, ∀ name ∈ u.mentions, name.id ∈ w.seen

theorem NamedWalk.Closed.mono {w w' : NamedWalk} {t : PropertyType} (h : w.Closed t)
    (hsub : w.seen ⊆ w'.seen) : w'.Closed t :=
  fun u hu name hname => hsub (h u hu name hname)

namespace PropertyType

/-- Walking a type meets what it mentions. -/
theorem walk_mentions (t : PropertyType) (w : NamedWalk) :
    ∀ name ∈ t.mentions, name.id ∈ (t.walk w).seen := by
  induction t using parts_induction with
  | step t ih =>
    cases hname : t.name? with
    | some name =>
      rw [mentions_of_named hname]
      intro n hn
      obtain rfl := List.mem_singleton.mp hn
      by_cases hmet : n.id ∈ w.seen
      · rw [walk_of_met hname hmet]
        exact hmet
      · rw [walk_of_new hname hmet]
        exact (walkAll_mono _ _).1 List.mem_cons_self
    | none =>
      cases t with
      | array item => exact ih item (List.mem_singleton.mpr rfl)
      | scalar kind => exact fun _ h => absurd h List.not_mem_nil
      | untyped kind => exact fun _ h => absurd h List.not_mem_nil
      | _ => cases hname

theorem walkAll_mentions {types : List PropertyType} {t : PropertyType} (ht : t ∈ types)
    (w : NamedWalk) : ∀ name ∈ t.mentions, name.id ∈ (walkAll types w).seen := by
  intro name hname
  obtain ⟨before, after, rfl⟩ := List.append_of_mem ht
  rw [walkAll_append]
  exact (walkAll_mono after _).1 (t.walk_mentions _ name hname)

end PropertyType

/-! ## §3 Models -/

namespace Schema

variable {s : Schema}

theorem exists_named_of_seen {name : TypeName}
    (h : name.id ∈ (PropertyType.walkAll s.roots ⟨[], []⟩).seen) :
    ∃ t ∈ s.namedTypes, t.name? = some name := by
  obtain ⟨t, ht, hid⟩ := (walkOf_roots s).mem_seen_iff.mp h
  obtain ⟨n, hn, hid⟩ := PropertyType.id?_eq_some_iff.mp hid
  obtain rfl := TypeName.id_injective hid
  exact ⟨t, List.mem_reverse.mpr ht, hn⟩

/-- **What the model starts from mentions only what is listed.** -/
theorem exists_named_of_root {t : PropertyType} (ht : t ∈ s.roots) {name : TypeName}
    (hname : name ∈ t.mentions) : ∃ w ∈ s.namedTypes, w.name? = some name :=
  exists_named_of_seen (PropertyType.walkAll_mentions ht _ name hname)

end Schema

end TrackingPlan
