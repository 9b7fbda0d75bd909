import TrackingPlan.Proofs.Bindings.Calls
import TrackingPlan.Proofs.Bindings.Closure
import TrackingPlan.Proofs.Bindings.Identifiers

/-!
# Methods of the wrapper do not clash

An event may be called anything, and many names of events make one name of a method.  Three things
keep methods apart.  The method of a rule is named after its call, so it is none of the wrapper's
own (`not_builtin_of_extends`), and a number at its end does not make it one.  The registry knows a
method by the id of its rule, and the rules of an accepted model have different ids.  And a name is
given to one id only, whatever it was asked for before: of the names of methods in the registry no
more need be known than that each is what its rule asks for (`MethodNames`).

§1 what methods ask for · §2 names of methods in a registry · §3 steps that keep them ·
§4 the methods of a wrapper · §5 accepted models.
-/

namespace TrackingPlan

namespace Bindings

open Emit
open Naming (Registry Extends memberName snakeCase memberWords)

/-! ## §1 What methods ask for -/

/-- What is joined begins with its first piece. -/
theorem prefix_intercalate {α : Type} (sep piece : List α) (pieces : List (List α)) :
    piece <+: sep.intercalate (piece :: pieces) := by
  cases pieces with
  | nil => simp
  | cons next rest =>
    rw [List.intercalate_cons_cons, List.append_assoc]
    exact List.prefix_append _ _

/-- A member name begins as its words do, unless they begin with a digit. -/
theorem prefix_memberName {plan : String} {front : List Char} (hne : front ≠ [])
    (hdigit : front.head?.any Char.isDigit = false) (h : front <+: (snakeCase plan).toList) :
    front <+: (memberName plan).toList := by
  obtain ⟨more, hmore⟩ := h
  have hempty : (snakeCase plan).isEmpty = false := by
    rw [Bool.eq_false_iff]
    intro hempty
    rw [String.isEmpty_iff.mp hempty] at hmore
    exact hne (List.append_eq_nil_iff.mp hmore).1
  have hhead : (snakeCase plan).toList.head?.any Char.isDigit = false := by
    rw [← hmore, List.head?_append_of_ne_nil _ hne, hdigit]
  unfold memberName
  simp only [hempty, hhead, Bool.false_eq_true, if_false]
  split
  · rw [String.toList_append, ← hmore, List.append_assoc]
    exact List.prefix_append _ _
  · exact ⟨more, hmore⟩

theorem track_prefix_memberName (event : String) :
    "track".toList <+: (memberName ("track " ++ event)).toList := by
  have hwords : memberWords.words ("track " ++ event).toList =
      "track".toList :: memberWords.words event.toList := by
    rw [String.toList_append]
    rfl
  refine prefix_memberName (by decide) (by decide) ?_
  rw [snakeCase, String.toList_intercalate, hwords]
  exact prefix_intercalate _ _ _

/-- **The method of a rule is named after its call.** -/
theorem call_prefix_methodName (r : Rule) :
    r.event.kind.text.toList <+: (memberName (methodName r)).toList := by
  -- only a track call puts the name of its event into the name of its method
  have hother : ∀ kind : CallKind, kind.text.toList <+: (memberName kind.text).toList ∧
      kind.text.toList <+: (memberName (kind.text ++ " context traits")).toList := by
    intro kind
    cases kind <;> decide
  obtain ⟨⟨kind, event, description⟩, part, payload⟩ := r
  cases part with
  | contextTraits =>
    cases kind with
    | track =>
      show _ <+: (memberName ("track " ++ event ++ " context traits")).toList
      rw [String.append_assoc]
      exact track_prefix_memberName _
    | _ => exact (hother _).2
  | _ =>
    cases kind with
    | track => exact track_prefix_memberName event
    | _ => exact (hother _).1

/-- **What a rule asks for is no name of a built-in method**, and a number does not make it one. -/
theorem not_builtin_of_extends {r : Rule} {name : String}
    (h : Extends (memberName (methodName r)) name) : name ∉ builtinMethods := by
  obtain ⟨digits, rfl, -⟩ := h
  have hprefix : r.event.kind.text.toList <+: (memberName (methodName r) ++ digits).toList := by
    rw [String.toList_append]
    exact (call_prefix_methodName r).trans (List.prefix_append _ _)
  have hapart : ∀ kind : CallKind, ∀ name ∈ builtinMethods, ¬kind.text.toList <+: name.toList := by
    intro kind
    cases kind <;> decide
  exact fun hmem => hapart _ _ hmem hprefix

namespace Emit

/-! ## §2 Names of methods in a registry -/

/-- **The names of methods are what their rules ask for**, with a number at most, in a registry that
keeps names apart; and nothing but rules and the wrapper itself has any. -/
structure MethodNames (R : Registry) : Prop where
  sound : R.Sound
  asked : ∀ e ∈ R.registrations, e.scope = methodScope → (∃ name, e.id = "builtin:" ++ name) ∨
    ∃ r, e.id = methodId r ∧ Extends (memberName (methodName r)) e.name

theorem MethodNames.start : MethodNames {} :=
  ⟨.start, fun _ he => absurd he List.not_mem_nil⟩

variable {R R' : Registry} {r : Rule} {id scope name assigned : String}

/-- **One registration keeps them** if it is for no method, for a built-in one or for a rule. -/
theorem MethodNames.register (hR : MethodNames R)
    (hasks : scope = methodScope → (∃ builtin, id = "builtin:" ++ builtin) ∨
      ∃ r, id = methodId r ∧ name = memberName (methodName r))
    (h : R.Registered id scope name assigned R') : MethodNames R' := by
  refine ⟨hR.sound.register h, ?_⟩
  cases h with
  | found _ => exact hR.asked
  | added _ =>
    intro e he hscope
    rcases List.mem_append.mp he with he | he
    · exact hR.asked e he hscope
    · obtain rfl := List.mem_singleton.mp he
      have hextends := Registry.extends_choose hR.sound.onCollision scope name
      rcases hasks hscope with hbuiltin | ⟨r, hid, hname⟩
      · exact .inl hbuiltin
      · exact .inr ⟨r, hid, hname ▸ hextends⟩

theorem builtin_ne_methodId (builtin : String) : "builtin:" ++ builtin ≠ methodId r := by
  intro h
  have hlist : "builtin".toList ++ ':' :: builtin.toList = r.event.kind.text.toList ++
      ':' :: (r.event.name ++ ":" ++ r.part.text).toList := by
    simpa [methodId, String.toList_append] using congrArg String.toList h
  obtain ⟨hkind, -⟩ := append_colon_inj (by decide) r.event.kind.colon_not_mem_text hlist
  revert hkind
  cases r.event.kind <;> decide

/-- **The name that a rule has is what it asks for**, with a number at most. -/
theorem MethodNames.get? (hR : MethodNames R) (h : R.get? (methodId r) methodScope = some name) :
    Extends (memberName (methodName r)) name := by
  rcases hR.asked _ (Registry.mem_of_get? h) rfl with ⟨builtin, hid⟩ | ⟨r', hid, hextends⟩
  · exact absurd hid.symm (builtin_ne_methodId builtin)
  · -- another rule may have asked under this id, and then for the same name
    obtain ⟨hsame, -⟩ := Rule.key_eq_iff.mp (methodId_eq_iff.mp hid)
    rwa [hsame.names.2]

/-! ## §3 Steps that keep them -/

theorem register_keepsMethods (hasks : scope = methodScope →
      (∃ builtin, id = "builtin:" ++ builtin) ∨
        ∃ r, id = methodId r ∧ name = memberName (methodName r)) :
    Within MethodNames (fun _ => True) (register id scope name) := by
  refine fun R hR => ⟨fun _ _ => trivial, fun assigned R' h => ?_⟩
  exact hR.register hasks (Registry.register_eq_ok_iff.mp (gives_register_iff.mp h)).2

theorem leaves_methodNames : Leaves MethodNames (fun _ => True) (fun _ => True) (fun _ => True)
    (fun _ => True) :=
  leaves_of_register (fun _ _ => trivial) fun _ _ _ hscope =>
    register_keepsMethods fun heq => absurd heq hscope

theorem methodLeaves_methodNames : MethodLeaves MethodNames (fun _ => True) where
  builtin name := (register_keepsMethods fun _ => .inl ⟨name, rfl⟩).bind fun _ =>
    .identifier fun _ => trivial
  rule r := (register_keepsMethods fun _ => .inr ⟨r, rfl, rfl⟩).bind fun _ =>
    .identifier fun _ => trivial

/-- **A run keeps them**, whatever the client is called. -/
theorem run_keepsMethods {s : Schema} (hfaults : ∀ t ∈ s.namedTypes, t.faults = [])
    (runtime : RuntimePath) (client : Identifier) (o : Options) :
    Within MethodNames (fun _ => True) (acceptedRun runtime client o s) := by
  refine run_within leaves_methodNames methodLeaves_methodNames hfaults
    (fun t _ => asks_anything t) ?_ runtime o
  exact (register_keepsMethods fun heq => absurd heq (by decide)).bind fun _ =>
    .identifier fun _ => trivial

end Emit

/-! ## §4 The methods of a wrapper -/

/-- **The method is that of the rule**: for its call, event and part, under the name that the rule
asks for, with a number at most. -/
structure Method.IsFor (m : Method) (r : Rule) : Prop where
  call : m.call = r.event.kind
  event : m.event = r.event.name
  part : m.part = r.part
  name : Extends (memberName (methodName r)) m.name.name

/-- **The wrapper has the methods of the model**: one for each rule whose part its call has, in
order, and the other rules are counted; no two methods have one name, and none has the name of one
of the wrapper's own.  Names are compared without the mark of a raw identifier, which does not tell
them apart.  The tokens of the wrapper spell out these methods; the names after the words of a
function are those of the wrapper's own, and then those of the methods. -/
structure Wrapper.MethodsOf (w : Wrapper) (s : Schema) : Prop where
  rules : List.Forall₂ (fun r m => m.IsFor r) (s.rules.filter Rule.isValid) w.methods
  skipped : w.skipped = (s.rules.filter (!·.isValid)).length
  distinct : (w.methods.map (·.name.name)).Nodup
  notBuiltin : ∀ m ∈ w.methods, m.name.name ∉ builtinMethods
  spelled : ∀ rt, w.Spelled rt (w.tokens rt)
  functions : ∀ rt, HasFunctions rt (w.tokens rt)
    (["new", "client", "context", "into_inner"] ++ w.methods.map (·.name.name))

variable {s : Schema} {R : Registry}

/-- Against settled names the method of a rule has the name that was registered for the rule. -/
theorem Emit.MethodNames.settled {r : Rule} {m : Method} (hR : MethodNames R)
    (h : (method r).Settled R m) :
    m.IsFor r ∧ R.get? (methodId r) methodScope = some m.name.name := by
  obtain ⟨name, hname, argument, -, rfl⟩ := settled_method_iff.mp h
  obtain ⟨-, text, hget, hi⟩ := settled_methodIdentifier_iff.mp hname
  have hextends := hR.get? hget
  obtain ⟨i, hfound, rfl, -⟩ := Identifier.ofMember?_extends hextends
  obtain rfl := Option.some.inj (hfound.symm.trans hi)
  exact ⟨⟨rfl, rfl, rfl, hextends⟩, hget⟩

theorem Emit.MethodNames.methodsOf (hR : MethodNames R) (hkeys : (s.rules.map Rule.key).Nodup)
    {w : Wrapper} (hw : WrapperSettled R s w) : w.MethodsOf s := by
  have hrules : List.Forall₂ (fun r m => m.IsFor r ∧
      R.get? (methodId r) methodScope = some m.name.name)
      (s.rules.filter Rule.isValid) w.methods := hw.methods.imp fun _ _ h => hR.settled h
  refine ⟨hrules.imp fun _ _ h => h.1, hw.skipped, ?_, fun m hm => ?_, w.spelled_tokens,
    fun rt => (w.spelled_tokens rt).hasFunctions⟩
  · -- ids tell rules apart, and a name tells its id
    have hids : ((s.rules.filter Rule.isValid).map methodId).Nodup := by
      have hvalid : ((s.rules.filter Rule.isValid).map Rule.key).Nodup :=
        hkeys.sublist (List.filter_sublist.map Rule.key)
      refine List.pairwise_map.mpr ((List.pairwise_map.mp hvalid).imp ?_)
      exact fun hkey hid => hkey (methodId_eq_iff.mp hid)
    have hnamed : List.Forall₂ (fun id name => R.get? id methodScope = some name)
        ((s.rules.filter Rule.isValid).map methodId) (w.methods.map (·.name.name)) :=
      List.forall₂_map_left_iff.mpr (List.forall₂_map_right_iff.mpr (hrules.imp fun _ _ h => h.2))
    exact nodup_of_forall₂ hnamed (fun _ _ _ h h' => hR.sound.id_unique h h') hids
  · obtain ⟨r, -, hfor, -⟩ := exists_left_of_forall₂ hrules hm
    exact not_builtin_of_extends hfor.name

end Bindings

/-! ## §5 Accepted models -/

open Bindings Bindings.Emit

namespace Schema

/-- **The methods of an accepted model do not clash**, whatever its events are called.  The tokens
of a wrapper that is made spell out its own functions and then one method for each rule whose part
its call has, in the order of the rules; the names of the methods differ, and differ from those of
the wrapper's own functions.  So it is whatever was registered before, if the names of methods are
such that rules ask for them; they are in a registry without names, and stay so.  Hence so it is in
every run. -/
theorem methods_apart {s : Schema} (hvalid : s.validate = .ok s) :
    MethodNames {} ∧
    (∀ R client platform generatorVersion metadata w R', MethodNames R →
      (wrapper s client platform generatorVersion metadata).Gives R w R' →
      w.MethodsOf s ∧ MethodNames R') ∧
    ∀ o e, emit o s = .ok e → e.wrapper.MethodsOf s := by
  obtain ⟨hfaults, -⟩ := validate_eq_ok_iff.mp hvalid
  have hkeys := keys_nodup_of_validate hvalid
  refine ⟨.start, fun R client platform generatorVersion metadata w R' hR hw => ?_,
    fun o e he => ?_⟩
  · have hR' : MethodNames R' := (wrapper_within leaves_methodNames methodLeaves_methodNames
      (fun _ _ _ _ => trivial) _ _ _ _ R hR).2 w R' hw
    have hsettled := (Settles.wrapper s client platform generatorVersion metadata).settled hw
      (.refl R')
    exact ⟨hR'.methodsOf hkeys (wrapperSettled_of_settled hsettled).2, hR'⟩
  · obtain ⟨runtime, client, R, hclient, hgives⟩ := exists_acceptedRun_of_emit he
    have hlisted : ∀ t ∈ s.namedTypes, t.faults = [] := fun t ht =>
      faults_of_mem_namedTypes hfaults ht
    have hR : MethodNames R := (run_keepsMethods hlisted runtime client o {} .start).2 e R hgives
    exact hR.methodsOf hkeys (runSettled_of_gives hclient hgives).wrapper

/-- Orders, which are written in two ways, and people; the last rule is for a part that track calls
do not have. -/
def orders : Schema where
  name := "orders"
  metadata := .unknown
  customTypes := []
  properties := []
  rules := [⟨⟨.track, "Order Placed", none⟩, .properties, .untyped⟩,
    ⟨⟨.track, "order-placed", none⟩, .properties, .empty⟩,
    ⟨⟨.identify, "", none⟩, .traits, .untyped⟩, ⟨⟨.identify, "", none⟩, .contextTraits, .untyped⟩,
    ⟨⟨.track, "Order Placed", none⟩, .traits, .untyped⟩]

/-- Both ways of writing make one name, and the second rule gets a number. -/
theorem methods_apart_orders : orders.validate = .ok orders ∧
    ∃ e, emit {} orders = .ok e ∧ e.wrapper.MethodsOf orders ∧ e.wrapper.skipped = 1 ∧
      HasFunctions e.runtime (e.wrapper.tokens e.runtime)
        ["new", "client", "context", "into_inner", "track_order_placed", "track_order_placed1",
          "identify", "identify_context_traits"] := by
  have hvalid : orders.validate = .ok orders := rfl
  obtain ⟨-, -, hruns⟩ := methods_apart hvalid
  have hcomputed : (start (acceptedRun Options.defaultRuntime Options.defaultClient {}
      orders)).toOption.map (fun e => e.wrapper.methods.map (·.name.name)) =
      some ["track_order_placed", "track_order_placed1", "identify",
        "identify_context_traits"] := by
    decide +kernel
  obtain ⟨e, he, hnames⟩ := Option.map_eq_some_iff.mp hcomputed
  have he : emit {} orders = .ok e := (emit_default orders).trans (except_toOption_eq_some.mp he)
  have hmethods := hruns _ e he
  have hfunctions := hmethods.functions e.runtime
  rw [hnames] at hfunctions
  exact ⟨hvalid, e, he, hmethods, hmethods.skipped, hfunctions⟩

end Schema

end TrackingPlan
