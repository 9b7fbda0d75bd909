import TrackingPlan.Proofs.Alternation
import TrackingPlan.Proofs.Entries
import TrackingPlan.Proofs.Runs
import Mathlib.Data.Finset.Card

/-!
# What a resolver remembers

A resolver answers by the name of an alternation.  Over any run of calls, memory holds for each name
the variant of the first call that resolved it, and nothing of the calls that failed
(`Resolver.Remembers`).  So a call is answered as by a resolver that remembers nothing, unless its
name was resolved before; and every call is, if a name always comes with the same alternation.

§1 what a call answers · §2 the past of a run · §3 what memory holds · §4 the law.
-/

namespace TrackingPlan.Resolver

variable {r r' : Resolver} {node : AlternationNode} {v : VariantType}

/-! ## §1 What a call answers -/

/-- Where memory holds nothing under the name, the answer is that of the alternation itself. -/
theorem answer_of_new (h : r.resolved.get? node.name.id = none) :
    Run.answer resolve r node = node.resolve := by
  unfold Run.answer resolve
  rw [h]
  cases node.resolve <;> rfl

theorem answer_of_remembered (h : r.resolved.get? node.name.id = some v) :
    Run.answer resolve r node = .ok v :=
  Run.answer_of_ok (resolve_eq_ok_iff.mpr (.remembered h))

/-- What a resolver that remembers nothing answers. -/
def fresh (node : AlternationNode) : Except SchemaError VariantType :=
  Run.answer resolve {} node

theorem fresh_eq (node : AlternationNode) : fresh node = node.resolve :=
  answer_of_new rfl

/-! ## §2 The past of a run -/

/-- Calls with their answers. -/
abbrev History := List (AlternationNode × Except SchemaError VariantType)

/-- The history of a run that starts with nothing remembered. -/
def pastOf (nodes : List AlternationNode) : History :=
  Run.history resolve {} nodes

/-- The resolver after such a run. -/
def reached (nodes : List AlternationNode) : Resolver :=
  Run.after resolve {} nodes

/-- **The variant of the first call that resolved an id.** -/
def firstResolved? (past : History) (id : String) : Option VariantType :=
  past.findSome? fun e => if e.1.name.id = id then e.2.toOption else none

/-- The ids of the calls that gave a variant, once for each such call. -/
def resolvedIds (past : History) : List String :=
  past.filterMap fun e => e.2.toOption.map fun _ => e.1.name.id

variable {past : History}

theorem firstResolved?_concat (past : History) (node : AlternationNode)
    (a : Except SchemaError VariantType) (id : String) :
    firstResolved? (past ++ [(node, a)]) id =
      (firstResolved? past id).or (if node.name.id = id then a.toOption else none) := by
  rw [firstResolved?, List.findSome?_append]
  congr 1
  rw [List.findSome?_cons, List.findSome?_nil]
  split <;> simp_all

theorem resolvedIds_concat_ok (past : History) (node : AlternationNode) (v : VariantType) :
    resolvedIds (past ++ [(node, .ok v)]) = resolvedIds past ++ [node.name.id] := by
  rw [resolvedIds, List.filterMap_append]
  rfl

theorem resolvedIds_concat_error (past : History) (node : AlternationNode) (e : SchemaError) :
    resolvedIds (past ++ [(node, .error e)]) = resolvedIds past := by
  rw [resolvedIds, List.filterMap_append]
  exact List.append_nil _

/-! ## §3 What memory holds -/

/-- **Memory holds the past**: the first variant of each name, of which one of the calls was made;
and the calls that gave a variant were answered from memory or put there what it holds. -/
structure Remembers (r : Resolver) (past : History) : Prop where
  first : ∀ id, r.resolved.get? id = firstResolved? past id
  own : ∀ id v, r.resolved.get? id = some v →
    ∃ node ∈ past.map Prod.fst, node.name.id = id ∧ node.resolve = .ok v
  nodup : r.resolved.keys.Nodup
  ids : ∀ id, id ∈ r.resolved.keys ↔ id ∈ resolvedIds past
  calls : r.hits + r.resolved.length = (resolvedIds past).length

theorem Remembers.start : Remembers {} [] :=
  ⟨fun _ => rfl, nofun, List.nodup_nil, fun _ => Iff.rfl, rfl⟩

/-- A call that fails leaves nothing in memory. -/
theorem Remembers.concat_error (h : r.Remembers past) (node : AlternationNode) (e : SchemaError) :
    r.Remembers (past ++ [(node, .error e)]) := by
  refine ⟨fun id => ?_, fun id v hv => ?_, h.nodup, fun id => ?_, ?_⟩
  · rw [firstResolved?_concat, h.first]
    split <;> exact (Option.or_none).symm
  · obtain ⟨m, hm, hown⟩ := h.own id v hv
    exact ⟨m, by simp [hm], hown⟩
  · rw [resolvedIds_concat_error]
    exact h.ids id
  · rw [resolvedIds_concat_error]
    exact h.calls

/-- A call that memory answers leaves it as it is. -/
theorem Remembers.concat_remembered (h : r.Remembers past)
    (hv : r.resolved.get? node.name.id = some v) :
    Remembers { r with hits := r.hits + 1 } (past ++ [(node, .ok v)]) := by
  refine ⟨fun id => ?_, fun id w hw => ?_, h.nodup, fun id => ?_, ?_⟩
  · rw [firstResolved?_concat, ← h.first]
    show r.resolved.get? id = _
    split
    · rename_i hid
      rw [← hid, hv]
      rfl
    · exact (Option.or_none).symm
  · obtain ⟨m, hm, hown⟩ := h.own id w hw
    exact ⟨m, by simp [hm], hown⟩
  · have hmem : node.name.id ∈ resolvedIds past :=
      (h.ids _).mp (Entries.get?_isSome_iff.mp (by rw [hv]; rfl))
    rw [resolvedIds_concat_ok, List.mem_append, List.mem_singleton, ← h.ids]
    refine ⟨.inl, fun hid => hid.elim (fun h => h) ?_⟩
    rintro rfl
    exact (h.ids _).mpr hmem
  · rw [resolvedIds_concat_ok, List.length_append, List.length_singleton, ← h.calls]
    show r.hits + 1 + r.resolved.length = _
    omega

/-- A call that is resolved by itself is remembered. -/
theorem Remembers.concat_made (h : r.Remembers past) (hnew : r.resolved.get? node.name.id = none)
    (hv : node.resolve = .ok v) :
    Remembers { r with resolved := r.resolved.insert node.name.id v }
      (past ++ [(node, .ok v)]) := by
  have hfresh : node.name.id ∉ r.resolved.keys := Entries.get?_eq_none_iff.mp hnew
  have hinsert := Entries.insert_of_not_mem v hfresh
  refine ⟨fun id => ?_, fun id w hw => ?_, Entries.nodup_keys_insert h.nodup _ _, fun id => ?_, ?_⟩
  · rw [firstResolved?_concat, ← h.first]
    show (r.resolved.insert node.name.id v).get? id = _
    rw [Entries.get?_insert]
    split
    · rename_i hid
      rw [← hid, hnew]
      rfl
    · exact (Option.or_none).symm
  · rcases Entries.of_get?_insert hw with ⟨rfl, rfl⟩ | hold
    · exact ⟨node, by simp, rfl, hv⟩
    · obtain ⟨m, hm, hown⟩ := h.own id w hold
      exact ⟨m, by simp [hm], hown⟩
  · show id ∈ (r.resolved.insert node.name.id v).keys ↔ _
    rw [hinsert, Entries.keys_append, resolvedIds_concat_ok, List.mem_append, List.mem_append,
      h.ids]
    exact Iff.rfl
  · show r.hits + (r.resolved.insert node.name.id v).length = _
    rw [hinsert, resolvedIds_concat_ok, List.length_append, List.length_append, ← h.calls,
      Nat.add_assoc]
    rfl

/-- **Each call keeps memory to the past.** -/
theorem Remembers.next (h : r.Remembers past) (node : AlternationNode) :
    (Run.next resolve r node).Remembers (past ++ [(node, Run.answer resolve r node)]) := by
  cases hanswer : Run.answer resolve r node with
  | error e =>
    rw [Run.next_of_error hanswer]
    exact h.concat_error node e
  | ok v =>
    have hresolves := resolve_eq_ok_iff.mp (Run.answer_eq_ok_iff.mp hanswer)
    generalize Run.next resolve r node = r' at hresolves ⊢
    cases hresolves with
    | remembered hv => exact h.concat_remembered hv
    | made hnew hv => exact h.concat_made hnew hv

/-- **After every run memory holds the past.** -/
theorem remembers_reached (nodes : List AlternationNode) :
    (reached nodes).Remembers (pastOf nodes) :=
  Run.invariant .start (fun _ _ node h => h.next node) nodes

theorem Remembers.resolvedCount_eq (h : r.Remembers past) :
    r.resolvedCount = (resolvedIds past).toFinset.card := by
  have hids : r.resolved.keys.toFinset = (resolvedIds past).toFinset := by
    ext id
    rw [List.mem_toFinset, List.mem_toFinset, h.ids]
  rw [← hids, List.toFinset_card_of_nodup h.nodup, resolvedCount, Entries.keys, List.length_map]

/-- **Where a name always comes with the same alternation, memory makes no difference.** -/
theorem Remembers.answer_eq_fresh (h : r.Remembers past)
    (hsame : ∀ m ∈ past.map Prod.fst, m.name.id = node.name.id → m = node) :
    Run.answer resolve r node = fresh node := by
  rw [fresh_eq]
  cases hv : r.resolved.get? node.name.id with
  | none => exact answer_of_new hv
  | some v =>
    obtain ⟨m, hm, hid, hresolve⟩ := h.own _ v hv
    obtain rfl := hsame m hm hid
    rw [answer_of_remembered hv, hresolve]

/-! ## §4 The law -/

/-- **The law of a resolver**, over a run of calls that starts with nothing remembered. -/
structure Lawful (nodes : List AlternationNode) : Prop where
  /-- A name that was not resolved is answered as by a resolver that remembers nothing. -/
  unresolved : ∀ node : AlternationNode, firstResolved? (pastOf nodes) node.name.id = none →
    Run.answer resolve (reached nodes) node = fresh node
  /-- A name that was resolved is answered with the variant of the first such call. -/
  resolved : ∀ (node : AlternationNode) (v : VariantType),
    firstResolved? (pastOf nodes) node.name.id = some v →
    Run.answer resolve (reached nodes) node = .ok v
  /-- A call that fails changes neither memory nor how often it answered. -/
  failed : ∀ (node : AlternationNode) (e : SchemaError),
    Run.answer resolve (reached nodes) node = .error e →
    reached (nodes ++ [node]) = reached nodes
  /-- The names resolved are those of the calls that gave a variant, each counted once. -/
  count : (reached nodes).resolvedCount = (resolvedIds (pastOf nodes)).toFinset.card
  /-- Memory answered all such calls but the first of each name. -/
  hits : (reached nodes).hits + (reached nodes).resolvedCount = (resolvedIds (pastOf nodes)).length
  /-- Where a name always comes with the same alternation, memory makes no difference. -/
  faithful : (∀ m ∈ nodes, ∀ node ∈ nodes, m.name.id = node.name.id → m = node) →
    ∀ e ∈ pastOf nodes, e.2 = fresh e.1

/-- **Every run of resolutions keeps the law.** -/
theorem lawful_resolve (nodes : List AlternationNode) : Lawful nodes := by
  have hpast := remembers_reached nodes
  refine ⟨fun node hnone => ?_, fun node v hv => ?_, fun node e he => ?_, hpast.resolvedCount_eq,
    hpast.calls, fun hsame => ?_⟩
  · rw [fresh_eq]
    exact answer_of_new ((hpast.first _).trans hnone)
  · exact answer_of_remembered ((hpast.first _).trans hv)
  · rw [reached, Run.after_append]
    exact Run.next_of_error he
  · rintro ⟨node, a⟩ hmem
    obtain ⟨earlier, later, rfl, rfl⟩ := Run.exists_of_mem_history hmem
    refine (remembers_reached earlier).answer_eq_fresh fun m hm hid => ?_
    rw [pastOf, Run.map_fst_history] at hm
    exact hsame m (List.mem_append_left _ hm) node (by simp) hid

end TrackingPlan.Resolver
